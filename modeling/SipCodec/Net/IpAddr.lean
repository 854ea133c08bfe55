import SipCodec.Text.Bytes

/-! IP addresses as they stand in the host part of a URI: IPv4 dotted quads and IPv6 text
(RFC 4291 §2.2) with an optional zone after `%`. The reader is strict: an IPv4 field has no
leading zero and is at most 255, an IPv6 group has one to four hex digits, one `::` stands for
at least one zero group, and an IPv4 quad may only end an IPv6 address. The printer writes the
canonical text of RFC 5952: lower-case hex, no leading zeros, the first longest run of two or
more zero groups as `::`. -/

namespace SipCodec

/-- An IP address: four octets, or eight 16-bit groups and a zone (empty when none). -/
inductive IpAddr where
  | v4 (a b c d : UInt8)
  | v6 (groups : List Nat) (zone : Bytes)
  deriving DecidableEq, Inhabited

namespace IpAddr

/-- The value of a run of decimal digits. -/
def decimalValue (ds : Bytes) : Nat :=
  ds.foldl (fun acc c => acc * 10 + (c - 48).toNat) 0

/-- The value of a run of hexadecimal digits. -/
def hexValue (ds : Bytes) : Nat :=
  ds.foldl (fun acc c => acc * 16 + Octet.hexValue c) 0

/-- One field of a dotted quad: digits only, no leading zero, at most 255. -/
def quadField (ds : Bytes) : Option Nat :=
  if !Bytes.isDigits ds then none
  else if ds.length > 1 && ds.head? == some 48 then none
  else
    let v := decimalValue ds
    if v > 255 then none else some v

/-- The four fields of a dotted quad. -/
def readQuad (s : Bytes) : Option (Nat × Nat × Nat × Nat) :=
  match Bytes.splitOnByte 46 s with
  | [a, b, c, d] =>
    match quadField a, quadField b, quadField c, quadField d with
    | some a, some b, some c, some d => some (a, b, c, d)
    | _, _, _, _ => none
  | _ => none

/-- The groups of an IPv6 address before the end or the zone, with the index at which the
`::` stands. `groups` are those read so far; the reader stops with failure as soon as more
than eight groups would be needed. -/
def readGroups (s : Bytes) (groups : List Nat) (gap : Option Nat) :
    Option (List Nat × Option Nat) :=
  let n := (s.takeWhile Octet.isHex).length
  if n = 0 ∨ n > 4 then none
  else
    match _split : s.drop n with
    | 46 :: _ =>
      -- a dotted quad ends the address and fills the last two groups
      if (gap.isNone && groups.length != 6) || groups.length + 2 > 8 then none
      else match readQuad s with
        | some (a, b, c, d) => some (groups ++ [a * 256 + b, c * 256 + d], gap)
        | none => none
    | [] => some (groups ++ [hexValue (s.take n)], gap)
    | [58] => none
    | 58 :: 58 :: more =>
      let groups := groups ++ [hexValue (s.take n)]
      if gap.isSome then none
      else if more.isEmpty then some (groups, some groups.length)
      else if groups.length ≥ 8 then none
      else readGroups more groups (some groups.length)
    | 58 :: rest =>
      let groups := groups ++ [hexValue (s.take n)]
      if groups.length ≥ 8 then none else readGroups rest groups gap
    | _ :: _ => none
termination_by s.length
decreasing_by
  all_goals
    have h := congrArg List.length _split
    simp only [List.length_drop, List.length_cons] at h
    omega

/-- Fills the `::` with zero groups to make eight; without a `::` there must be eight. -/
def expand : List Nat × Option Nat → Option (List Nat)
  | (groups, none) => if groups.length = 8 then some groups else none
  | (groups, some pos) =>
    if groups.length < 8 then
      some (groups.take pos ++ List.replicate (8 - groups.length) 0 ++ groups.drop pos)
    else none

/-- Reads an IPv6 address with an optional zone; a `%` must be followed by a zone. -/
def readV6 (s : Bytes) : Option IpAddr :=
  let (addr, zone) := (s.takeWhile (· != 37), s.dropWhile (· != 37))
  match zone with
  | [37] => none
  | _ =>
    let zone := zone.drop 1
    let groups := match addr with
      | 58 :: 58 :: [] => some (List.replicate 8 0)
      | 58 :: 58 :: rest => (readGroups rest [] (some 0)).bind expand
      | _ => (readGroups addr [] none).bind expand
    groups.map (IpAddr.v6 · zone)

/-- Reads an IP address; the first of `.`, `:` and `%` in the text decides its family. -/
def read? (s : Bytes) : Option IpAddr :=
  match s.find? (fun c => c == 46 || c == 58 || c == 37) with
  | some 46 => (readQuad s).map fun (a, b, c, d) => .v4 a.toUInt8 b.toUInt8 c.toUInt8 d.toUInt8
  | some 58 => readV6 s
  | _ => none

/-- An IPv6 address of the form `::ffff:a.b.c.d` as the IPv4 address it carries, with its
zone dropped; other addresses are kept. -/
def unmap : IpAddr → IpAddr
  | .v6 [0, 0, 0, 0, 0, 0xffff, hi, lo] _ =>
    .v4 (hi / 256).toUInt8 (hi % 256).toUInt8 (lo / 256).toUInt8 (lo % 256).toUInt8
  | a => a

def isV6 : IpAddr → Bool
  | .v4 .. => false
  | .v6 .. => true

/-- Start and length of the first longest run of at least two zero groups. -/
def zeroRun (groups : List Nat) : Option (Nat × Nat) :=
  (List.range groups.length).foldl (fun best i =>
    let len := ((groups.drop i).takeWhile (· == 0)).length
    if len ≥ 2 && len > (best.map Prod.snd).getD 0 then some (i, len) else best) none

def renderGroups (groups : List Nat) : Bytes :=
  match zeroRun groups with
  | none => Bytes.joinWith [58] (groups.map Bytes.hexText)
  | some (pos, len) =>
    Bytes.joinWith [58] ((groups.take pos).map Bytes.hexText) ++ [58, 58] ++
      Bytes.joinWith [58] ((groups.drop (pos + len)).map Bytes.hexText)

/-- The canonical text of an address, without brackets. -/
def render : IpAddr → Bytes
  | .v4 a b c d =>
    Bytes.joinWith [46] [Bytes.ofNat a.toNat, Bytes.ofNat b.toNat, Bytes.ofNat c.toNat,
      Bytes.ofNat d.toNat]
  | .v6 groups zone => renderGroups groups ++ (if zone.isEmpty then [] else 37 :: zone)

end IpAddr

end SipCodec
