import Killswitch.Yaml.Letter

/-!
# Tokens

The pieces that a document is made of: markers and brackets, the starts and ends of blocks that only
indentation shows, names, tags and scalars.
-/

namespace Killswitch
namespace Yaml

/-- An instruction in front of a document. -/
inductive Directive where
  | version (major minor : Int)
  | handle (name expansion : String)
  | other
  deriving DecidableEq, Repr

/-- A tag as it is written: a handle, unless there is none, and the rest. -/
structure TagText where
  handle : Option String
  suffix : String
  deriving DecidableEq, Repr

inductive Token where
  | streamEnd
  | directive (d : Directive)
  | documentStart
  | documentEnd
  | blockSequenceStart
  | blockMappingStart
  | blockEnd
  | flowSequenceStart
  | flowSequenceEnd
  | flowMappingStart
  | flowMappingEnd
  | blockEntry
  | flowEntry
  | key
  | value
  | reference (name : String)
  | anchor (name : String)
  | tag (text : TagText)
  | scalar (text : List Letter) (plain : Bool)
  deriving DecidableEq, Repr

end Yaml
end Killswitch
