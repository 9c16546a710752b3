import Killswitch.Calendar.Date
import Killswitch.Decimal.Integer
import Killswitch.Yaml.Letter

/-!
# What can be wrong with a document

A document that does not follow the grammar is malformed, without further distinction. A document
that does may still hold a scalar whose type says one thing and whose text another; those faults are
kept apart, since each has a wording of its own.
-/

namespace Killswitch
namespace Yaml

/-- A reason why a document has no value. -/
inductive Fault where
  | malformed
  | characterRange
  | characterNumber
  | integer (text : List Letter) (fault : Decimal.IntegerFault)
  | longIntegerText
  | real (text : List Letter)
  | realRange
  | calendar (fault : Calendar.Fault)
  | emptyNumber
  | unknownTruth (word : List Letter)
  | notTimestamp
  | mappingAsTimestamp
  deriving DecidableEq, Repr

def Fault.message : Fault → String
  | .malformed => "Invalid policy YAML"
  | .characterRange => "chr() arg not in range(0x110000)"
  | .characterNumber => "Python int too large to convert to C int"
  | .integer text fault => fault.message (Letter.quote text)
  | .longIntegerText => Decimal.limitText none
  | .realRange => "int too large to convert to float"
  | .real text => "could not convert string to float: " ++ Letter.quote text
  | .calendar fault => fault.message
  | .emptyNumber => "string index out of range"
  | .unknownTruth word => Letter.quote word
  | .notTimestamp => "'NoneType' object has no attribute 'groupdict'"
  | .mappingAsTimestamp => "expected string or bytes-like object, got 'list'"

/-- Whether a fault says that some text has no value, and not that the reading went astray. -/
def Fault.isBadValue : Fault → Bool
  | .characterNumber => false
  | .realRange => false
  | .emptyNumber => false
  | .unknownTruth _ => false
  | .notTimestamp => false
  | .mappingAsTimestamp => false
  | _ => true

end Yaml
end Killswitch
