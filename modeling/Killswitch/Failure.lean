import Killswitch.Decimal.Integer
import Killswitch.Expression.Literal
import Killswitch.Host.Fault
import Killswitch.Text.Utf8
import Killswitch.Yaml.Fault

/-!
# Failures

Every way in which an operation ends without a result. A *diagnostic* is a failure that the program
reports about its own work: it names the step that failed. All others come from below and keep their
own wording.

**Contents.**
* `Category`, `Diagnostic`: the failures of the program's own steps, each with its usual step;
* `Diagnostic.make`: a diagnostic from its details, none of which may be foreign to its category;
* `Failure`: diagnostics, and the failures of files, documents, tables and the host;
* `Failure.message`: the wording.
-/

namespace Killswitch

/-- The kind of work that a diagnostic is about. The engine's keeps what the engine has written, and its
exit code. -/
inductive Category where
  | general
  | destination
  | precondition
  | resource
  | engine (output : String) (exitCode : Option Int)
  deriving DecidableEq, Repr

/-- The step that is named where none is given. -/
def Category.usualStep : Category → String
  | .general => "netlock"
  | .destination => "destinations"
  | .precondition => "precondition"
  | .resource => "resource"
  | .engine _ _ => "engine"

/-- A failure of one of the program's own steps. -/
structure Diagnostic where
  category : Category
  step : String
  text : String
  deriving DecidableEq, Repr

namespace Diagnostic

/-- A diagnostic with its usual step. -/
def of (category : Category) (text : String) : Diagnostic :=
  ⟨category, category.usualStep, text⟩

/-- The diagnostic in words. -/
def message (d : Diagnostic) : String :=
  d.step ++ ": " ++ d.text

end Diagnostic

/-- The details that a diagnostic of a category may be given. -/
def Category.details : Category → List String
  | .engine _ _ => ["step", "output", "returncode"]
  | _ => ["step"]

/-- A reason why an operation has no result. -/
inductive Failure where
  /-- a step of the program failed -/
  | diagnostic (d : Diagnostic)
  /-- the operating system refused a request -/
  | system (e : SystemError)
  /-- a diagnostic is given a detail that its category does not have -/
  | unknownDetail (category : Category) (name : String)
  /-- a text that must be well formed is not -/
  | undecodable (f : Text.Utf8.Fault)
  /-- a name has no form that the host can work with -/
  | encoding (text : String)
  /-- the host cannot list its network interfaces -/
  | listing
  /-- the user interrupted the run -/
  | interrupted
  /-- a path to be opened has a null character -/
  | nullInPath
  /-- there is no kind of source of the name -/
  | unknownKind (name : String)
  /-- a policy document is no mapping -/
  | notMapping
  /-- an entry of a policy document must be a list -/
  | notList (key : String)
  /-- an entry of a policy document must be a truth value; `found` shows what it is -/
  | notFlag (key found : String)
  /-- a document has no value -/
  | document (f : Yaml.Fault)
  /-- a table has no column of the name -/
  | missingColumn (name : String)
  /-- a row of a table has no field in a column -/
  | shortRow
  /-- a leading tilde names no known home -/
  | homeUnknown
  /-- a closing mark stands where no mark is open -/
  | unopenedMark (mark : String) (position : Nat)
  /-- the closing mark for the last open one stands where none is open -/
  | nothingToClose (position : Nat)
  /-- an action in a mark is given what is no literal; `taken` is the part of `given` that should be one -/
  | badArguments (taken given : List Char) (r : Expression.Refusal)
  /-- a number in a mark cannot be read -/
  | integer (digits : List Char) (f : Decimal.IntegerFault)
  deriving Repr

/-- A diagnostic with its step, or the usual one; `given` names its details. -/
def Diagnostic.make (category : Category) (text : String) (step : Option String)
    (given : List String) : Except Failure Diagnostic :=
  match given.find? (fun name => !category.details.contains name) with
  | some name => .error (.unknownDetail category name)
  | none => .ok ⟨category, step.getD category.usualStep, text⟩

namespace Failure

/-- The failure of a request that the host did not answer. -/
def ofFault : Fault → Failure
  | .system e => .system e
  | .encoding text => .encoding text
  | .listing => .listing
  | .interrupt => .interrupted

/-- The word for what makes the diagnostics of a category. -/
def makerName : Category → String
  | .engine _ _ => "EngineError"
  | _ => "NetlockError"

/-- The failure in words. -/
def message : Failure → String
  | .diagnostic d => d.message
  | .system e => e.message
  | .unknownDetail category name =>
      makerName category ++ ".__init__() got an unexpected keyword argument '" ++ name ++ "'"
  | .undecodable f => f.message
  | .encoding text => text
  | .listing => ""
  | .interrupted => ""
  | .nullInPath => "embedded null byte"
  | .unknownKind name => Text.quote name ++ " is not a valid SourceKind"
  | .notMapping => "Policy YAML must be a mapping"
  | .notList key => key ++ " must be a list"
  | .notFlag key found => key ++ " must be true or false, got " ++ found
  | .document f => f.message
  | .missingColumn name => Text.quote name
  | .shortRow => "list index out of range"
  | .homeUnknown => "Could not determine home directory."
  | .unopenedMark mark position =>
      "closing tag '" ++ mark ++ "' at position " ++ toString position
        ++ " doesn't match any open tag"
  | .nothingToClose position =>
      "closing tag '[/]' at position " ++ toString position ++ " has nothing to close"
  | .badArguments taken given r =>
      let shown (s : List Char) : String := Text.quote (String.ofList s)
      match r with
      | .misread f => "error parsing " ++ shown taken ++ " in " ++ shown given ++ "; " ++ f.message
      | .exhausted => "error parsing " ++ shown given ++ "; "
      | .unfit u => "error parsing " ++ shown given ++ "; " ++ u.message
  | .integer digits f => f.message (Text.quote (String.ofList digits))

end Failure

end Killswitch
