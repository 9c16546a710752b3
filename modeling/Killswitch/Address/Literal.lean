import Killswitch.Address.V6

/-!
# Literal addresses

A destination that is spelled as an address needs no name lookup. The two families have no spelling
in common: an IPv6 address has a colon and an IPv4 address has none.
-/

namespace Killswitch
namespace Address

/-- An address of either family. -/
inductive Literal where
  | v4 (address : V4)
  | v6 (address : V6)

/-- The address that some text spells. -/
def Literal.ofString? (s : String) : Option Literal :=
  match V4.ofChars? s.toList with
  | some v => some (.v4 v)
  | none => (V6.ofChars? s.toList).map .v6

def isLiteral (s : String) : Bool :=
  (Literal.ofString? s).isSome

end Address
end Killswitch
