/-!
# Sources of destinations

A source says where destinations come from: an address, the name of a host, or a client
configuration file.
-/

namespace Killswitch

namespace Source

/-- What the value of a source is. -/
inductive Kind where
  | address
  | host
  | file
  deriving DecidableEq, Repr

def Kind.name : Kind → String
  | .address => "address"
  | .host => "host"
  | .file => "file"

def Kind.ofName? (name : String) : Option Kind :=
  [Kind.address, .host, .file].find? (fun kind => kind.name == name)

end Source

/-- A place that destinations come from. -/
structure Source where
  kind : Source.Kind
  value : String
  deriving DecidableEq, Repr

end Killswitch
