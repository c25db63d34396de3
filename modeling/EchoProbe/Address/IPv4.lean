import EchoProbe.Text.Digits

/-!
# IPv4 addresses

An address is four octets, written with dots. `parse?` accepts exactly the
canonical form: four decimal numbers of at most three digits and at most 255,
without leading zeros.
-/

namespace EchoProbe

open Text

/-- An IPv4 address, most significant octet first. -/
structure IPv4 where
  a : UInt8
  b : UInt8
  c : UInt8
  d : UInt8
  deriving DecidableEq, Repr, Inhabited

namespace IPv4

instance : ToString IPv4 where
  toString ip := ".".intercalate (([ip.a, ip.b, ip.c, ip.d].map fun o => toString o.toNat))

/-- The address with the given 32-bit number. -/
def ofNat (n : Nat) : IPv4 :=
  ⟨UInt8.ofNat (n / 16777216), UInt8.ofNat (n / 65536), UInt8.ofNat (n / 256), UInt8.ofNat n⟩

/-- Reads a decimal octet without leading zeros off the head of a text. -/
def readOctet (text : List Char) : Option (UInt8 × List Char) :=
  let (digits, rest) := readDigits 10 text
  if digits.isEmpty ∨ 3 < digits.length ∨ (digits.head? = some 0 ∧ 1 < digits.length)
      ∨ 255 < ofDigits 10 digits then none
  else some (UInt8.ofNat (ofDigits 10 digits), rest)

/-- Reads an octet after a dot. -/
def readDottedOctet : List Char → Option (UInt8 × List Char)
  | '.' :: rest => readOctet rest
  | _ => none

/-- Reads an address off the head of a text. -/
def read (text : List Char) : Option (IPv4 × List Char) := do
  let (a, text) ← readOctet text
  let (b, text) ← readDottedOctet text
  let (c, text) ← readDottedOctet text
  let (d, text) ← readDottedOctet text
  return (⟨a, b, c, d⟩, text)

/-- The address that a text writes, if the text is one. -/
def parse? (text : String) : Option IPv4 :=
  match read text.toList with
  | some (ip, []) => some ip
  | _ => none

/-- The address that names every interface of this host. -/
def unspecified : IPv4 := ⟨0, 0, 0, 0⟩

/-- How many bytes a number of the numeric form may fill as the last of `parts`. -/
def lastPartBound (parts : Nat) : Nat := Nat.pow 256 (5 - parts)

/-- Reads a number in decimal, in octal after `0` or in hexadecimal after `0x`. -/
def readNumber (text : List Char) : Option (Nat × List Char) :=
  match text with
  | '0' :: x :: rest =>
    if x = 'x' ∨ x = 'X' then
      let (digits, after) := readDigits 16 rest
      if digits.isEmpty then some (0, x :: rest) else some (ofDigits 16 digits, after)
    else
      let (digits, after) := readDigits 8 (x :: rest)
      some (ofDigits 8 digits, after)
  | _ =>
    let (digits, after) := readDigits 10 text
    if digits.isEmpty then none else some (ofDigits 10 digits, after)

/-- Reads numbers with dots between them, at most `room` of them, to the end of
    the text. -/
def readNumbers : (room : Nat) → List Char → Option (List Nat)
  | 0, _ => none
  | room + 1, text =>
    match readNumber text with
    | some (n, []) => some [n]
    | some (n, '.' :: rest) => (readNumbers room rest).map (n :: ·)
    | _ => none

/-- The address of the older numeric forms: one to four numbers, of which all but
    the last are octets and the last fills the remaining bytes. -/
def parseNumeric? (text : String) : Option IPv4 := do
  let numbers ← readNumbers 4 text.toList
  let last ← numbers.getLast?
  let octets := numbers.dropLast
  if octets.all (· < 256) ∧ last < lastPartBound numbers.length then
    return ofNat (octets.foldr (fun o n => o * 16777216 + n / 256) 0 + last)
  else none

end IPv4

end EchoProbe
