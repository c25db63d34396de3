import EchoProbe.Address.IPv6

/-!
# Addresses

A packet may come from an address of either family; a probe goes to an IPv4
address only.
-/

namespace EchoProbe

/-- An address of either family. -/
inductive IpAddress
  | v4 (ip : IPv4)
  | v6 (ip : IPv6)
  deriving DecidableEq, Repr, Inhabited

namespace IpAddress

instance : Coe IPv4 IpAddress := ⟨v4⟩

instance : ToString IpAddress where
  toString
    | v4 ip => toString ip
    | v6 ip => toString ip

/-- The address that a text writes, if the text is one. -/
def parse? (text : String) : Option IpAddress :=
  ((IPv4.parse? text).map v4).or ((IPv6.parse? text).map v6)

end IpAddress

end EchoProbe
