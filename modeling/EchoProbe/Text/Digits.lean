/-!
# Digits

Numbers in a base, and filling up with zeros to a width.
-/

namespace EchoProbe.Text

/-- The lower-case hexadecimal digits of a number, without leading zeros. -/
def hex (n : Nat) : String := String.ofList (Nat.toDigits 16 n)

/-- The text with zeros in front, up to the width. -/
def zeroPadded (width : Nat) (text : String) : String :=
  String.ofList (List.replicate (width - text.length) '0') ++ text

/-- A 16-bit word as `0x` and four hexadecimal digits. -/
def hexWord (w : UInt16) : String := "0x" ++ zeroPadded 4 (hex w.toNat)

/-- The value of a digit in a base of at most 16. -/
def digitValue? (base : Nat) (c : Char) : Option Nat :=
  let value :=
    if '0' ≤ c ∧ c ≤ '9' then some (c.toNat - '0'.toNat)
    else if 'a' ≤ c ∧ c ≤ 'f' then some (c.toNat - 'a'.toNat + 10)
    else if 'A' ≤ c ∧ c ≤ 'F' then some (c.toNat - 'A'.toNat + 10)
    else none
  value.filter (· < base)

/-- The digits at the head of a text and what follows them. -/
def readDigits (base : Nat) : List Char → List Nat × List Char
  | [] => ([], [])
  | c :: rest =>
    match digitValue? base c with
    | some d => let (ds, after) := readDigits base rest; (d :: ds, after)
    | none => ([], c :: rest)

/-- The number that digits spell in a base. -/
def ofDigits (base : Nat) (digits : List Nat) : Nat := digits.foldl (fun n d => base * n + d) 0

end EchoProbe.Text
