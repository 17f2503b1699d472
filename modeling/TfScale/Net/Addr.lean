/-
  TfScale.Net.Addr

  Internet addresses and the standard library's parser for them
  (`std::net::{Ipv4Addr, Ipv6Addr, IpAddr, SocketAddr}`, `str::parse`).

  The readers return the value and the rest of the input, and consume nothing
  when they fail, as the standard parser's `read_atomically` does.
-/

import TfScale.Lib.Bytes

namespace TfScale

/-- `Ipv4Addr`, by its four octets. -/
structure Ipv4Addr where
  a : UInt8
  b : UInt8
  c : UInt8
  d : UInt8
deriving DecidableEq, Repr

/-- `Ipv6Addr`, by its sixteen octets. -/
structure Ipv6Addr where
  octets : ByteArr 16
deriving DecidableEq

inductive IpAddr where
  | v4 (address : Ipv4Addr)
  | v6 (address : Ipv6Addr)
deriving DecidableEq

structure SocketAddr where
  ip : IpAddr
  port : UInt16
deriving DecidableEq

namespace Ipv4Addr

/-- `0.0.0.0` -/
def unspecified : Ipv4Addr := ⟨0, 0, 0, 0⟩

/-- `127.0.0.1` -/
def localhost : Ipv4Addr := ⟨127, 0, 0, 1⟩

/-- Dotted decimal form (`Display`). -/
def display (x : Ipv4Addr) : String :=
  toString x.a.toNat ++ "." ++ toString x.b.toNat ++ "." ++ toString x.c.toNat ++ "." ++
    toString x.d.toNat

/-- `octets` -/
def octets (x : Ipv4Addr) : Bytes := [x.a, x.b, x.c, x.d]

/-- `is_private`: 10/8, 172.16/12, 192.168/16 -/
def isPrivate (x : Ipv4Addr) : Bool :=
  x.a == 10 || (x.a == 172 && 16 ≤ x.b && x.b ≤ 31) || (x.a == 192 && x.b == 168)

/-- `is_link_local`: 169.254/16 -/
def isLinkLocal (x : Ipv4Addr) : Bool := x.a == 169 && x.b == 254

end Ipv4Addr

namespace Ipv6Addr

/-- `segments` -/
def segments (x : Ipv6Addr) : List Nat :=
  (List.range 8).map fun i =>
    256 * (x.octets.val.getD (2 * i) 0).toNat + (x.octets.val.getD (2 * i + 1) 0).toNat

/-- `is_unique_local`: fc00::/7 -/
def isUniqueLocal (x : Ipv6Addr) : Bool := x.octets.val.getD 0 0 &&& 0xfe == 0xfc

/-- `is_unicast_link_local`: fe80::/10 -/
def isUnicastLinkLocal (x : Ipv6Addr) : Bool :=
  x.octets.val.getD 0 0 == 0xfe && x.octets.val.getD 1 0 &&& 0xc0 == 0x80

/-- The start and the length of the longest run of zero segments, the first one
    of equally long runs; the argument is the run being read and the best one. -/
def longestZeroRun : List Nat → Nat → Nat × Nat → Nat × Nat → Nat × Nat
  | [], _, _, longest => longest
  | segment :: rest, i, current, longest =>
      if segment = 0 then
        let current := if current.2 = 0 then (i, 1) else (current.1, current.2 + 1)
        longestZeroRun rest (i + 1) current (if current.2 > longest.2 then current else longest)
      else longestZeroRun rest (i + 1) (0, 0) longest

/-- Segments in hexadecimal, separated by colons. -/
def displaySegments (segments : List Nat) : String :=
  ":".intercalate (segments.map fun n => String.ofList (Nat.toDigits 16 n))

/-- `Display` -/
def display (x : Ipv6Addr) : String :=
  let segments := x.segments
  if x.octets.val.take 12 = [0, 0, 0, 0, 0, 0, 0, 0, 0, 0, 0xff, 0xff] then
    -- an IPv4-mapped address
    let octet := fun i => x.octets.val.getD i 0
    "::ffff:" ++ Ipv4Addr.display ⟨octet 12, octet 13, octet 14, octet 15⟩
  else
    let run := longestZeroRun segments 0 (0, 0) (0, 0)
    if run.2 > 1 then
      displaySegments (segments.take run.1) ++ "::" ++ displaySegments (segments.drop (run.1 + run.2))
    else displaySegments segments

end Ipv6Addr

/-- `Display` -/
def IpAddr.display : IpAddr → String
  | v4 x => x.display
  | v6 x => x.display

-- ============================================================================
-- The standard library's address parser
-- ============================================================================

namespace AddrParser

/-- A reader: the value read and the rest of the input. -/
abbrev Reader (α : Type) := List Char → Option (α × List Char)

/-- `char::to_digit` -/
def toDigit (radix : Nat) (ch : Char) : Option Nat :=
  let v :=
    if '0' ≤ ch ∧ ch ≤ '9' then some (ch.toNat - '0'.toNat)
    else if 'a' ≤ ch ∧ ch ≤ 'z' then some (ch.toNat - 'a'.toNat + 10)
    else if 'A' ≤ ch ∧ ch ≤ 'Z' then some (ch.toNat - 'A'.toNat + 10)
    else none
  v.filter (· < radix)

/-- `read_given_char` -/
def readGivenChar (sep : Char) : Reader Unit
  | [] => none
  | ch :: rest => if ch = sep then some ((), rest) else none

/-- `read_number`: a maximal run of digits, at most `maxDigits` of them, whose
    value stays below `bound`. -/
def readNumber (radix maxDigits : Nat) (allowZeroPrefix : Bool) (bound : Nat) : Reader Nat :=
  fun input =>
    let digits := (input.takeWhile fun ch => (toDigit radix ch).isSome).filterMap (toDigit radix)
    let rest := input.drop digits.length
    let value := digits.foldl (fun acc digit => acc * radix + digit) 0
    if digits.length > maxDigits then none
    else if digits.length = 0 then none
    else if !allowZeroPrefix && input.head? == some '0' && digits.length > 1 then none
    else if value < bound then some (value, rest)
    else none

/-- `read_separator`: every element but the first follows a separator. -/
def readSeparator {α : Type} (sep : Char) (index : Nat) (inner : Reader α) : Reader α :=
  fun input =>
    if index > 0 then
      match readGivenChar sep input with
      | some (_, rest) => inner rest
      | none => none
    else inner input

/-- `read_ipv4_addr` -/
def readIpv4Addr : Reader Ipv4Addr := fun input => do
  let (a, input) ← readSeparator '.' 0 (readNumber 10 3 false 256) input
  let (b, input) ← readSeparator '.' 1 (readNumber 10 3 false 256) input
  let (c, input) ← readSeparator '.' 2 (readNumber 10 3 false 256) input
  let (d, input) ← readSeparator '.' 3 (readNumber 10 3 false 256) input
  some (⟨UInt8.ofNat a, UInt8.ofNat b, UInt8.ofNat c, UInt8.ofNat d⟩, input)

/-- The local `read_groups` of `read_ipv6_addr`: up to `limit` 16-bit groups
    from index `i` on, `fuel` of them left; the flag tells that the last two
    came from an embedded IPv4 address. -/
def readGroups (limit : Nat) : Nat → Nat → List Char → List Nat × Bool × List Char
  | 0, _, input => ([], false, input)
  | fuel + 1, i, input =>
      -- an embedded IPv4 address needs at least two groups
      let ipv4 := if i + 1 < limit then readSeparator ':' i readIpv4Addr input else none
      match ipv4 with
      | some (x, rest) =>
          ([x.a.toNat * 256 + x.b.toNat, x.c.toNat * 256 + x.d.toNat], true, rest)
      | none =>
          match readSeparator ':' i (readNumber 16 4 true 65536) input with
          | some (group, rest) =>
              let (groups, v4, rest) := readGroups limit fuel (i + 1) rest
              (group :: groups, v4, rest)
          | none => ([], false, input)

/-- The address whose big-endian 16-bit groups are the first eight of `groups`. -/
def ipv6OfGroups (groups : List Nat) : Ipv6Addr :=
  ⟨⟨(List.range 8).flatMap fun i => toBe 2 (groups.getD i 0), by
    simp [List.flatMap, List.range, List.range.loop]⟩⟩

/-- `read_ipv6_addr` -/
def readIpv6Addr : Reader Ipv6Addr := fun input =>
  let (head, headIpv4, rest) := readGroups 8 8 0 input
  if head.length = 8 then some (ipv6OfGroups head, rest)
  -- an IPv4 part is not allowed before `::`
  else if headIpv4 then none
  else do
    let (_, rest) ← readGivenChar ':' rest
    let (_, rest) ← readGivenChar ':' rest
    let limit := 8 - (head.length + 1)
    let (tail, _, rest) := readGroups limit limit 0 rest
    let zeros := List.replicate (8 - head.length - tail.length) 0
    some (ipv6OfGroups (head ++ zeros ++ tail), rest)

/-- `read_ip_addr` -/
def readIpAddr : Reader IpAddr := fun input =>
  match readIpv4Addr input with
  | some (x, rest) => some (.v4 x, rest)
  | none => (readIpv6Addr input).map fun (x, rest) => (.v6 x, rest)

/-- `parse_with`: the whole input must be read. -/
def parseWith {α : Type} (inner : Reader α) (input : List Char) : Option α :=
  match inner input with
  | some (x, []) => some x
  | _ => none

end AddrParser

/-- `str::parse::<Ipv4Addr>`: no dotted quad is longer than 15 bytes. -/
def parseIpv4Addr (s : String) : Option Ipv4Addr :=
  if s.utf8ByteSize > 15 then none else AddrParser.parseWith AddrParser.readIpv4Addr s.toList

/-- `str::parse::<IpAddr>` -/
def parseIpAddr (s : String) : Option IpAddr :=
  AddrParser.parseWith AddrParser.readIpAddr s.toList

example : parseIpv4Addr "100.64.0.2" = some ⟨100, 64, 0, 2⟩ := by decide
example : parseIpv4Addr "100.64.0.02" = none := by decide
example : (parseIpAddr "fe80:0:0::1:0").map IpAddr.display = some "fe80::1:0" := by decide +kernel

end TfScale
