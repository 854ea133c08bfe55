import SipCodec.Text.Utf8
import SipCodec.Text.Printable

/-! Double-quoted literals with backslash escapes, the form in which error texts show the
values they complain about. Printable characters stand for themselves; the common control
characters get their one-letter escapes, other controls and malformed octets `\xNN`, and the
remaining non-printable characters `\uNNNN` or `\UNNNNNNNN` (lower-case hex). The ASCII form escapes every
character outside printable ASCII the same way. -/

namespace SipCodec.Literal

private def hexDigits (width c : Nat) : Bytes :=
  (List.range width).reverse.map fun i => Octet.hexDigitLower (c / Nat.pow 16 i % 16)

/-- The escaped form of one character inside the quotes; with `asciiOnly` only printable ASCII
stands for itself. -/
def escapeCode (asciiOnly : Bool) (quote : UInt8) (c : Nat) (raw : Bytes) : Bytes :=
  if c == quote.toNat || c == 92 then [92, c.toUInt8]
  else if Printable.isPrintable c && (!asciiOnly || c < 0x80) then raw
  else if c == 7 then lit "\\a"
  else if c == 8 then lit "\\b"
  else if c == 12 then lit "\\f"
  else if c == 10 then lit "\\n"
  else if c == 13 then lit "\\r"
  else if c == 9 then lit "\\t"
  else if c == 11 then lit "\\v"
  else if c < 0x20 || c == 0x7F then lit "\\x" ++ hexDigits 2 c
  else if c < 0x10000 then lit "\\u" ++ hexDigits 4 c
  else lit "\\U" ++ hexDigits 8 c

/-- Quotes a text with double quotes and backslash escapes, escaping all but printable ASCII
when `asciiOnly` holds. -/
def quoteWith (asciiOnly : Bool) (s : Bytes) : Bytes :=
  [34] ++ (Utf8.units s).flatMap (fun u => match u with
    | .char c raw => escapeCode asciiOnly 34 c raw
    | .stray b => lit "\\x" ++ hexDigits 2 b.toNat) ++ [34]

/-- Quotes a text with double quotes and backslash escapes. -/
def quote (s : Bytes) : Bytes := quoteWith false s

/-- Quotes a text so that the result is printable ASCII. -/
def quoteAscii (s : Bytes) : Bytes := quoteWith true s

end SipCodec.Literal
