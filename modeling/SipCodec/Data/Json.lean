import SipCodec.Text.Utf8

/-! JSON documents (RFC 8259): the value type, its text, and a strict reader. Strings hold
octet text; a string that is not well-formed UTF-8 has no JSON text of its own and is written
as the object `{"hex": ...}` of its octets. Numbers keep their literal text, so that integers
and floats are written exactly as chosen. -/

namespace SipCodec

inductive Json where
  | null
  | bool (b : Bool)
  | int (n : Int)
  | num (text : String)
  | str (s : Bytes)
  | arr (items : List Json)
  | obj (fields : List (String × Json))
  deriving Inhabited, BEq

namespace Json

def ofString (s : String) : Json := .str (lit s)

def ofNat (n : Nat) : Json := .int n

/-- `null` for an absent value. -/
def opt {α : Type} (f : α → Json) : Option α → Json
  | some a => f a
  | none => .null

/-- The field `key` of an object (the last one wins when a key repeats). -/
def get? (j : Json) (key : String) : Option Json :=
  match j with
  | .obj fields => (fields.reverse.find? (·.1 == key)).map (·.2)
  | _ => none

def asBytes? : Json → Option Bytes
  | .str s => some s
  | _ => none

def asInt? : Json → Option Int
  | .int n => some n
  | _ => none

def asBool? : Json → Option Bool
  | .bool b => some b
  | _ => none

def asList? : Json → Option (List Json)
  | .arr xs => some xs
  | _ => none

/-- Adds a field to an object. -/
def push (j : Json) (key : String) (v : Json) : Json :=
  match j with
  | .obj fields => .obj (fields ++ [(key, v)])
  | other => other

/-- Escapes one octet of a well-formed string for JSON text. -/
private def escapeOctet (c : UInt8) : Bytes :=
  if c == 34 then [92, 34]
  else if c == 92 then [92, 92]
  else if c == 10 then [92, 110]
  else if c == 13 then [92, 114]
  else if c == 9 then [92, 116]
  else if c < 0x20 then
    lit "\\u00" ++ [Octet.hexDigitLower (c.toNat / 16), Octet.hexDigitLower (c.toNat % 16)]
  else [c]

/-- The JSON text of a string whose octets are well-formed UTF-8. -/
def quoteString (s : Bytes) : Bytes := [34] ++ s.flatMap escapeOctet ++ [34]

mutual
/-- The JSON text of a document. -/
def render : Json → Bytes
  | .null => lit "null"
  | .bool true => lit "true"
  | .bool false => lit "false"
  | .int n => Bytes.ofInt n
  | .num text => lit text
  | .str s =>
    if Utf8.isValid s then quoteString s
    else lit "\x7b\"hex\":" ++ quoteString s.hexLower ++ lit "\x7d"
  | .arr items => [91] ++ renderItems items ++ [93]
  | .obj fields => [123] ++ renderFields fields ++ [125]

/-- Array items separated by commas. -/
def renderItems : List Json → Bytes
  | [] => []
  | [x] => render x
  | x :: rest => render x ++ [44] ++ renderItems rest

/-- Object members separated by commas. -/
def renderFields : List (String × Json) → Bytes
  | [] => []
  | [(k, v)] => quoteString (lit k) ++ [58] ++ render v
  | (k, v) :: rest => quoteString (lit k) ++ [58] ++ render v ++ [44] ++ renderFields rest
end

/-! ## Reading -/

private def isBlank (c : UInt8) : Bool := c == 32 || c == 9 || c == 10 || c == 13

private def skipBlanks (s : Bytes) : Bytes := s.dropWhile isBlank

private def hex4 (s : Bytes) : Option (Nat × Bytes) :=
  match s with
  | a :: b :: c :: d :: rest =>
    if [a, b, c, d].all Octet.isHex then
      some ([a, b, c, d].foldl (fun n x => n * 16 + Octet.hexValue x) 0, rest)
    else none
  | _ => none

/-- Reads the body of a string after its opening quote: escapes resolved, a surrogate pair
joined, a lone surrogate and every malformed octet replaced by U+FFFD. -/
private def readString (fuel : Nat) (s : Bytes) (acc : Bytes) : Option (Bytes × Bytes) :=
  match fuel with
  | 0 => none
  | fuel + 1 =>
    match s with
    | [] => none
    | 34 :: rest => some (acc, rest)
    | 92 :: e :: rest =>
      if e == 117 then
        match hex4 rest with
        | none => none
        | some (u, rest) =>
          if 0xD800 ≤ u && u < 0xDC00 then
            match rest with
            | 92 :: 117 :: more =>
              match hex4 more with
              | some (v, after) =>
                if 0xDC00 ≤ v && v < 0xE000 then
                  readString fuel after (acc ++ Utf8.encode (0x10000 + (u - 0xD800) * 1024 + (v - 0xDC00)))
                else readString fuel rest (acc ++ Utf8.encode 0xFFFD)
              | none => none
            | _ => readString fuel rest (acc ++ Utf8.encode 0xFFFD)
          else readString fuel rest (acc ++ Utf8.encode u)
      else
        let simple : Option UInt8 :=
          if e == 34 then some 34 else if e == 92 then some 92 else if e == 47 then some 47
          else if e == 98 then some 8 else if e == 102 then some 12 else if e == 110 then some 10
          else if e == 114 then some 13 else if e == 116 then some 9 else none
        match simple with
        | some c => readString fuel rest (acc ++ [c])
        | none => none
    | c :: rest =>
      if c < 0x20 then none
      else if c < 0x80 then readString fuel rest (acc ++ [c])
      else
        match Utf8.leading (c :: rest) with
        | some (_, n) => readString fuel (rest.drop (n - 1)) (acc ++ (c :: rest.take (n - 1)))
        | none => readString fuel rest (acc ++ Utf8.encode 0xFFFD)

private def digits (s : Bytes) : Bytes × Bytes := (s.takeWhile Octet.isDigit, s.dropWhile Octet.isDigit)

/-- Reads a number literal: `-? (0 | [1-9][0-9]*) (. [0-9]+)? ([eE] [+-]? [0-9]+)?`. -/
private def readNumber (s : Bytes) : Option (Bytes × Bytes) :=
  let (sign, s1) := match s with
    | 45 :: r => ([(45 : UInt8)], r)
    | r => ([], r)
  let intPart : Option (Bytes × Bytes) := match s1 with
    | 48 :: r => some ([48], r)
    | c :: r => if Octet.isDigit c then
        let (ds, r2) := digits r
        some (c :: ds, r2)
      else none
    | [] => none
  match intPart with
  | none => none
  | some (ip, s2) =>
    let frac : Option (Bytes × Bytes) := match s2 with
      | 46 :: r =>
        let (ds, r2) := digits r
        if ds.isEmpty then none else some (46 :: ds, r2)
      | r => some ([], r)
    match frac with
    | none => none
    | some (fp, s3) =>
      let expo : Option (Bytes × Bytes) := match s3 with
        | e :: r =>
          if e == 101 || e == 69 then
            let (es, r1) := match r with
              | 43 :: r' => ([(43 : UInt8)], r')
              | 45 :: r' => ([(45 : UInt8)], r')
              | r' => ([], r')
            let (ds, r2) := digits r1
            if ds.isEmpty then none else some (e :: es ++ ds, r2)
          else some ([], e :: r)
        | [] => some ([], [])
      match expo with
      | none => none
      | some (ep, s4) => some (sign ++ ip ++ fp ++ ep, s4)

private def textOf (s : Bytes) : String := String.fromUTF8? (ByteArray.mk s.toArray) |>.getD ""

mutual
/-- Reads one value after leading blanks; `fuel` bounds the nesting and the steps. -/
private def readValue (fuel : Nat) (s : Bytes) : Option (Json × Bytes) :=
  match fuel with
  | 0 => none
  | fuel + 1 =>
    match skipBlanks s with
    | [] => none
    | 123 :: rest => readFields fuel (skipBlanks rest) [] true
    | 91 :: rest => readItems fuel (skipBlanks rest) [] true
    | 34 :: rest => (readString rest.length.succ rest []).map fun (v, r) => (.str v, r)
    | t =>
      match Bytes.dropPrefix? (lit "null") t with
      | some r => some (.null, r)
      | none =>
      match Bytes.dropPrefix? (lit "true") t with
      | some r => some (.bool true, r)
      | none =>
      match Bytes.dropPrefix? (lit "false") t with
      | some r => some (.bool false, r)
      | none => (readNumber t).map fun (n, r) =>
          if n.all Octet.isDigit || (n.head? == some 45 && n.tail.all Octet.isDigit) then
            (.int (String.toInt? (textOf n) |>.getD 0), r)
          else (.num (textOf n), r)

private def readItems (fuel : Nat) (s : Bytes) (acc : List Json) (first : Bool) :
    Option (Json × Bytes) :=
  match fuel with
  | 0 => none
  | fuel + 1 =>
    match s with
    | 93 :: rest => if first then some (.arr acc.reverse, rest) else none
    | _ =>
      match readValue fuel s with
      | none => none
      | some (v, rest) =>
        match skipBlanks rest with
        | 44 :: more => readItems fuel (skipBlanks more) (v :: acc) false
        | 93 :: more => some (.arr (v :: acc).reverse, more)
        | _ => none

private def readFields (fuel : Nat) (s : Bytes) (acc : List (String × Json)) (first : Bool) :
    Option (Json × Bytes) :=
  match fuel with
  | 0 => none
  | fuel + 1 =>
    match s with
    | 125 :: rest => if first then some (.obj acc.reverse, rest) else none
    | 34 :: rest =>
      match readString rest.length.succ rest [] with
      | none => none
      | some (key, afterKey) =>
        match skipBlanks afterKey with
        | 58 :: afterColon =>
          match readValue fuel afterColon with
          | none => none
          | some (v, rest) =>
            let acc := (textOf key, v) :: acc
            match skipBlanks rest with
            | 44 :: more => readFields fuel (skipBlanks more) acc false
            | 125 :: more => some (.obj acc.reverse, more)
            | _ => none
        | _ => none
    | _ => none
end

/-- Reads a whole JSON text; blanks may surround the value and nothing else may follow it. -/
def parse (s : Bytes) : Option Json :=
  match readValue (2 * s.length + 2) s with
  | some (v, rest) => if (skipBlanks rest).isEmpty then some v else none
  | none => none

end Json

end SipCodec
