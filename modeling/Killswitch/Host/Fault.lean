import Killswitch.Text.Quoted

/-!
# Faults of the host

What can go wrong outside of the program: the operating system refuses a request, a name cannot be
written in the form that a resolver needs, the network interfaces cannot be listed, or the user
interrupts the run.

**Contents.**
* `SystemError`: an error by its number, with the name it is about if it names one;
* `SystemError.meansAbsent`: the errors that only say that nothing is there;
* `Fault`: all reasons why a request to the host has no answer.
-/

namespace Killswitch

/-- An error that the operating system reports. -/
structure SystemError where
  code : Int
  text : String
  name : Option String
  deriving DecidableEq, Repr

namespace SystemError

/-- The error in words; a name is quoted. -/
def message (e : SystemError) : String :=
  "[Errno " ++ toString e.code ++ "] " ++ e.text ++
    match e.name with
    | none => ""
    | some name => ": " ++ Text.quote name

def noSuchEntry (name : String) : SystemError :=
  ⟨2, "No such file or directory", some name⟩

def notDirectory (name : String) : SystemError :=
  ⟨20, "Not a directory", some name⟩

def isDirectory (name : String) : SystemError :=
  ⟨21, "Is a directory", some name⟩

/-- Whether the error is an answer: that there is no such entry. -/
def meansAbsent (e : SystemError) : Bool :=
  e.code == 2 || e.code == 20 || e.code == 9 || e.code == 40

/-- Whether the error says that an entry is gone. -/
def meansGone (e : SystemError) : Bool :=
  e.code == 2

/-- Whether the error says that nobody reads what is written. -/
def meansUnread (e : SystemError) : Bool :=
  e.code == 32

/-- The same error about another name. -/
def about (e : SystemError) (name : String) : SystemError :=
  { e with name := some name }

end SystemError

/-- A reason why the host does not answer a request. -/
inductive Fault where
  | system (e : SystemError)
  | encoding (text : String)
  | listing
  | interrupt
  deriving DecidableEq, Repr

end Killswitch
