import SipCodec.Text.Literal

/-! Message templates with the directives `%s` (text as is), `%d` (an integer in decimal),
`%q` (text as a quoted literal, an integer as a quoted character), `%v` (either as is) and
`%%`. A directive without an argument, or with an argument of the wrong sort or with no value,
is written as a visible marker, and arguments left over are listed at the end, so that no
argument is silently lost. -/

namespace SipCodec.Template

/-- An argument of a template. -/
inductive Arg where
  | text (s : Bytes)
  | int (n : Int)
  /-- An argument without a value. -/
  | absent
  deriving Inhabited

private def describe : Arg → Bytes
  | .text s => lit "string=" ++ s
  | .int n => lit "int=" ++ Bytes.ofInt n
  | .absent => lit "<nil>"

/-- An integer as a quoted character; a number that is no Unicode scalar value stands for
U+FFFD. -/
def quoteChar (n : Int) : Bytes :=
  let c := if n < 0 || n > 0x10FFFF || (0xD800 ≤ n && n ≤ 0xDFFF) then 0xFFFD else n.toNat
  [39] ++ Literal.escapeCode false 39 c (Utf8.encode c) ++ [39]

/-- One directive applied to one argument. -/
private def directive (verb : UInt8) : Arg → Bytes
  | .text s =>
    if verb == 115 || verb == 118 then s
    else if verb == 113 then Literal.quote s
    else lit "%!" ++ [verb] ++ lit "(string=" ++ s ++ lit ")"
  | .int n =>
    if verb == 100 || verb == 118 then Bytes.ofInt n
    else if verb == 113 then quoteChar n
    else lit "%!" ++ [verb] ++ lit "(int=" ++ Bytes.ofInt n ++ lit ")"
  | .absent => if verb == 118 then lit "<nil>" else lit "%!" ++ [verb] ++ lit "(<nil>)"

/-- Fills a template with arguments, left to right. -/
def fill : Bytes → List Arg → Bytes
  | [], [] => []
  | [], args => lit "%!(EXTRA " ++ Bytes.joinWith (lit ", ") (args.map describe) ++ lit ")"
  | 37 :: 37 :: rest, args => 37 :: fill rest args
  | 37 :: verb :: rest, arg :: args => directive verb arg ++ fill rest args
  | 37 :: verb :: rest, [] => lit "%!" ++ [verb] ++ lit "(MISSING)" ++ fill rest []
  | [37], args => lit "%!(NOVERB)" ++ fill [] args
  | c :: rest, args => c :: fill rest args

end SipCodec.Template
