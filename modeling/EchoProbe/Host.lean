import EchoProbe.Error

/-!
# Host names

A host is named by an address literal or by a name that a directory translates. A
probe goes to the first IPv4 address; a host without one cannot be probed.
-/

namespace EchoProbe

/-- Translates a name into addresses, the best first; a name that it does not know has
    none. -/
abbrev Directory := String → List IpAddress

namespace Directory

/-- The directory that knows only names which are themselves addresses, also in the
    older numeric forms. -/
def numeric : Directory := fun host =>
  match IpAddress.parse? host with
  | some address => [address]
  | none => ((IPv4.parseNumeric? host).map IpAddress.v4).toList

end Directory

/-- The IPv4 address of a host: the literal itself, else the first that the directory
    gives. -/
def resolve (directory : Directory) (host : String) : Except RunError IPv4 :=
  match IPv4.parse? host with
  | some ip => .ok ip
  | none =>
    match (directory host).findSome? fun | .v4 ip => some ip | .v6 _ => none with
    | some ip => .ok ip
    | none => .error (.unknownHost host)

end EchoProbe
