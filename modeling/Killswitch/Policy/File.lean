import Killswitch.Action
import Killswitch.Policy.Document
import Killswitch.Text.Lines

/-!
# Policy files

A policy document in a file. The files that it names are seen from the directory that holds it. The
path of the document itself is taken as it is, without a home directory for a tilde.
-/

namespace Killswitch
namespace PolicyFile

/-- The text of a policy file, or its first bytes that spell none. -/
def decode (bytes : List UInt8) : Except Failure String :=
  match Text.Utf8.decode? bytes with
  | .ok text => .ok (String.ofList (Text.unifyBreaks text))
  | .error f => .error (.undecodable f)

/-- The options that the policy file under a path asks for. -/
def read (host : Host) (path : Path) : Except Failure Options := do
  let text ← decode (← host.read path)
  PolicyDocument.ofText host (some path.parent) text

/-- The options that the policy file under a path asks for, as an action. -/
def load (path : Path) : Action Options := do
  Action.ofOutcome (read (← Action.host) path)

end PolicyFile
end Killswitch
