import SipCodec.Text.Utf8

/-! Whether a text can be a DNS domain name as far as lengths go (RFC 1035 §2.3.4): the name is
taken as fully qualified, every label between dots is 1 to 63 octets long, the name packs into
at most 256 octets (a length octet per label and the labels), and only the root name `.` may
start with a dot. Any octet may stand in a label; a backslash escapes the next octet, or three
decimal digits `\DDD`, which count as a single octet of the label. -/

namespace SipCodec.DomainName

/-- The octets of the last character of a text, a malformed one counting as one octet. -/
def lastCharWidth (s : Bytes) : Nat :=
  let tail := s.reverse.take 4
  let k := (tail.takeWhile fun c => c &&& 0xC0 == 0x80).length + 1
  if k = 1 || k > tail.length then 1
  else match Utf8.leading (s.drop (s.length - k)) with
    | some (_, n) => if n = k then k else 1
    | none => 1

/-- Whether the text ends in a dot that no backslash escapes. The backslashes before the dot
are counted together with the octets of the character before them. -/
def endsInDot (s : Bytes) : Bool :=
  match s.reverse with
  | 46 :: before =>
    let slashes := (before.takeWhile (· == 92)).length
    slashes == 0 || (slashes + lastCharWidth (before.drop slashes).reverse) % 2 == 1
  | _ => false

/-- Whether three decimal digits stand at the front. -/
def startsWithDdd : Bytes → Bool
  | a :: b :: c :: _ => Octet.isDigit a && Octet.isDigit b && Octet.isDigit c
  | _ => false

/-- Walks the fully qualified name. `pos` is the index of the front octet, `start` the index
the current label counts from (each escape moves it on by the octets it adds), `packed` the
octets the labels read so far take, `afterDot` whether the last octet was a label's dot. -/
def walk (total : Nat) : Bytes → Nat → Nat → Nat → Bool → Bool
  | [], _, _, _, _ => true
  | 92 :: rest, pos, start, packed, _ =>
    if packed + 1 > 256 then false
    else if startsWithDdd rest then walk total (rest.drop 3) (pos + 4) (start + 3) packed false
    else walk total (rest.drop 1) (pos + 2) (start + 1) packed false
  | 46 :: rest, pos, start, packed, afterDot =>
    if pos == 0 && total > 1 then false
    else if afterDot then false
    else
      let label := pos - start
      if label ≥ 64 || packed + 1 + label > 256 then false
      else walk total rest (pos + 1) (pos + 1) (packed + 1 + label) true
  | _ :: rest, pos, start, packed, _ => walk total rest (pos + 1) start packed false
termination_by s => s.length
decreasing_by
  all_goals simp only [List.length_drop, List.length_cons]; omega

/-- Whether a non-empty text passes the length rules of a domain name. -/
def isValid (s : Bytes) : Bool :=
  if s.isEmpty then false
  else
    let name := if endsInDot s then s else s ++ [46]
    walk name.length name 0 0 0 false

end SipCodec.DomainName
