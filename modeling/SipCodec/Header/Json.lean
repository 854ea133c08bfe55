import SipCodec.Header.List
import SipCodec.Data.Json

/-! The JSON form of a header list: an array of objects with the members `name` and `value`.
When writing, string text is escaped so that it is safe inside HTML: `<`, `>` and `&` and the
line and paragraph separators U+2028 and U+2029 as `\u` escapes, control characters by their
short escape or `\u00XX`, and every octet that is not part of well-formed UTF-8 as the escape
of U+FFFD. When reading, member names match without regard to ASCII case and a later member
wins over an earlier one; `null` stands for no list at all, a `null` entry for a field with
empty name and value, and anything else fails and leaves the list as it was. -/

namespace SipCodec

namespace Headers

/-- The escaped form of one code point in a JSON string. -/
def escapeCodePoint (cp : Nat) : Bytes :=
  let hex4 (n : Nat) : Bytes :=
    lit "\\u" ++ [Octet.hexDigitLower (n / 4096 % 16), Octet.hexDigitLower (n / 256 % 16),
      Octet.hexDigitLower (n / 16 % 16), Octet.hexDigitLower (n % 16)]
  if cp == 34 then lit "\\\"" else if cp == 92 then lit "\\\\"
  else if cp == 8 then lit "\\b" else if cp == 12 then lit "\\f"
  else if cp == 10 then lit "\\n" else if cp == 13 then lit "\\r" else if cp == 9 then lit "\\t"
  else if cp < 0x20 || cp == 60 || cp == 62 || cp == 38 || cp == 0x2028 || cp == 0x2029 then hex4 cp
  else Utf8.encode cp

/-- A JSON string of octet text, escaped for HTML; each malformed octet becomes the escape of
U+FFFD. -/
def quoteJson (s : Bytes) : Bytes :=
  [34] ++ (Utf8.units s).flatMap (fun u => match u with
    | .char cp _ => escapeCodePoint cp
    | .stray _ => lit "\\ufffd") ++ [34]

/-- The JSON text of a header list. -/
def toJsonText (hs : List Header) : Bytes :=
  [91] ++ Bytes.joinWith [44] (hs.map fun h =>
    lit "\x7b\"name\":" ++ quoteJson h.name ++ lit ",\"value\":" ++ quoteJson h.value ++ lit "\x7d") ++ [93]

/-- Reads one entry: an object whose `name` and `value` members are strings or `null`. -/
def entryOfJson? : Json → Option Header
  | .null => some (Header.make [] [])
  | .obj fields =>
    let pick (key : String) : Option (Option Bytes) :=
      fields.foldl (fun acc (k, v) =>
        if Bytes.eqFoldAscii (lit k) (lit key) then
          match acc, v with
          | some cur, .null => some cur
          | some _, .str s => some (some s)
          | _, _ => none
        else acc) (some none)
    match pick "name", pick "value" with
    | some n, some v => some (Header.make (n.getD []) (v.getD []))
    | _, _ => none
  | _ => none

/-- Reads a header list from JSON text: `some none` for `null`, `none` when the text is not
such a list. -/
def ofJsonText? (s : Bytes) : Option (Option (List Header)) :=
  match Json.parse s with
  | some .null => some none
  | some (.arr items) => (items.mapM entryOfJson?).map some
  | _ => none

end Headers

end SipCodec
