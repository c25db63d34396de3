import EchoProbe.Address.IPv4

/-!
# IPv6 addresses

An address is eight 16-bit groups. It is written with lower-case hexadecimal groups
between colons, where `::` stands for the first longest run of at least two zero
groups; an address that embeds an IPv4 address ends in the dotted form. `parse?`
reads any of the usual forms.
-/

namespace EchoProbe

open Text

/-- An IPv6 address, most significant group first. -/
structure IPv6 where
  groups : Vector UInt16 8
  deriving DecidableEq, Repr, Inhabited

namespace IPv6

/-- The lengths of the runs of zero groups, each with the place where it starts. -/
def zeroRuns (start : Nat) : List UInt16 → List (Nat × Nat)
  | [] => []
  | g :: rest =>
    let later := zeroRuns (start + 1) rest
    if g ≠ 0 then later
    else match later with
      | (s, n) :: others => if s = start + 1 then (start, n + 1) :: others else (start, 1) :: later
      | [] => [(start, 1)]

/-- The run of zero groups that `::` stands for, if any: the first longest one. -/
def compressedRun? (groups : List UInt16) : Option (Nat × Nat) :=
  (zeroRuns 0 groups).foldl (fun best run =>
    match best with
    | some (_, n) => if n < run.2 then some run else best
    | none => if 1 < run.2 then some run else none) none

/-- Groups with colons between them. -/
def writeGroups (groups : List UInt16) : String :=
  ":".intercalate (groups.map fun g => hex g.toNat)

/-- The IPv4 address embedded behind `::ffff:`, if there is one. -/
def mapped? (ip : IPv6) : Option IPv4 :=
  match ip.groups.toList with
  | [0, 0, 0, 0, 0, 0xffff, high, low] => some (.ofNat (high.toNat * 65536 + low.toNat))
  | _ => none

instance : ToString IPv6 where
  toString ip :=
    match ip.mapped? with
    | some embedded => "::ffff:" ++ toString embedded
    | none =>
      let groups := ip.groups.toList
      match compressedRun? groups with
      | some (start, length) =>
        writeGroups (groups.take start) ++ "::" ++ writeGroups (groups.drop (start + length))
      | none => writeGroups groups

/-- Reads a group of one to four hexadecimal digits. -/
def readGroup (text : List Char) : Option (UInt16 × List Char) :=
  let (digits, rest) := readDigits 16 text
  if digits.isEmpty ∨ 4 < digits.length then none
  else some (UInt16.ofNat (ofDigits 16 digits), rest)

/-- Passes the colon that stands before every part but the first. -/
def readSeparator (first : Bool) : List Char → Option (List Char)
  | text => if first then some text else match text with
    | ':' :: rest => some rest
    | _ => none

/-- The group that two octets of an embedded address fill. -/
def groupOf (high low : UInt8) : UInt16 := UInt16.ofNat (256 * high.toNat + low.toNat)

/-- Reads up to `room` groups. An IPv4 address may stand for the last two; then the
    second component is true. -/
def readGroups : (room : Nat) → (first : Bool) → List Char → List UInt16 × Bool × List Char
  | 0, _, text => ([], false, text)
  | room + 1, first, text =>
    let embedded := if room = 0 then none else (readSeparator first text).bind IPv4.read
    match embedded with
    | some (ip, rest) => ([groupOf ip.a ip.b, groupOf ip.c ip.d], true, rest)
    | none =>
      match (readSeparator first text).bind readGroup with
      | some (g, rest) =>
        let (groups, ended, rest) := readGroups room false rest
        (g :: groups, ended, rest)
      | none => ([], false, text)

/-- The address of eight groups; fewer are filled up with zeros in the middle. -/
def ofParts (head tail : List UInt16) : IPv6 :=
  let groups := head ++ List.replicate (8 - head.length - tail.length) 0 ++ tail
  ⟨Vector.ofFn fun i => groups.getD i 0⟩

/-- The address that a text writes, if the text is one. -/
def parse? (text : String) : Option IPv6 :=
  let (head, embedded, rest) := readGroups 8 true text.toList
  if head.length = 8 then
    if rest.isEmpty then some (ofParts head []) else none
  else if embedded then none
  else match rest with
    | ':' :: ':' :: rest =>
      let (tail, _, rest) := readGroups (7 - head.length) true rest
      if rest.isEmpty then some (ofParts head tail) else none
    | _ => none

end IPv6

end EchoProbe
