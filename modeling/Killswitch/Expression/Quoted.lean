import Killswitch.Expression.Fault

/-!
# Quoted texts in expressions

A quoted text may have marks in front of its first quote: for bytes, for texts whose backslashes spell
nothing, and for formatted texts. Everywhere else a backslash and what follows spell a character. Only
whether they do is looked at here.

**Places.** The place of an escape counts characters from the start of the text, but a character beyond
ASCII counts as the ten characters that would spell it, and a backslash in front of such a one as six.

**Contents.**
* `Quoted`, `Quoted.ofLexeme`: a quoted text without its quotes, and what its marks say;
* `checkText`, `checkBytes`: the first escape that spells nothing.
-/

namespace Killswitch
namespace Expression

/-- A quoted text without its quotes. -/
structure Quoted where
  isBytes : Bool
  isRaw : Bool
  isFormatted : Bool
  body : List Char
  deriving DecidableEq, Repr

namespace Quoted

/-- A quoted text from its marks, quotes and characters. -/
def ofLexeme (lexeme : List Char) : Quoted :=
  let marks := (lexeme.takeWhile Char.isAlpha).map Char.toLower
  let quotes := lexeme.drop marks.length
  let width := if 6 ≤ quotes.length ∧ (quotes.take 3).all (quotes.head? = some ·) then 3 else 1
  ⟨marks.contains 'b', marks.contains 'r', marks.contains 'f',
    (quotes.drop width).take (quotes.length - 2 * width)⟩

/-! ## Escapes -/

/-- The length of a character in the spelling that counts places. -/
def spelledLength (c : Char) : Nat :=
  if c.toNat < 0x80 then 1 else 10

def spelled : List Char → Nat
  | '\\' :: c :: rest => if 0x80 ≤ c.toNat then 6 + spelled (c :: rest) else 2 + spelled rest
  | c :: rest => spelledLength c + spelled rest
  | [] => 0

/-- The digits and the form of an escape by number, by its letter. -/
def numberForm? (c : Char) : Option (Nat × String) :=
  if c = 'x' then some (2, "xXX")
  else if c = 'u' then some (4, "uXXXX")
  else if c = 'U' then some (8, "UXXXXXXXX")
  else none

/-- The text after an escape by number; `start` is the place of the backslash. -/
def afterNumber (start count : Nat) (form : String) (s : List Char) :
    Except Fault (List Char) :=
  let digits := (s.take count).takeWhile (fun c => (Text.hexValue? c).isSome)
  let last := start + 1 + digits.length
  if digits.length < count then .error (.escape (.truncated form) start last)
  else if 0x10ffff < (Text.hexNumber? digits).getD 0 then .error (.escape .outOfRange start last)
  else .ok (s.drop count)

/-- The text after an escape by name. -/
def afterName (isName : List Char → Bool) (start : Nat) (s : List Char) :
    Except Fault (List Char) :=
  match s with
  | '\x7b' :: inside =>
      let name := inside.takeWhile (· != '\x7d')
      let last := start + 2 + spelled name
      match inside.drop name.length with
      | _ :: rest =>
          if name.isEmpty then .error (.escape .malformedName start last)
          else if isName name then .ok rest
          else .error (.escape .unknownName start (last + 1))
      | [] => .error (.escape .malformedName start last)
  | _ => .error (.escape .malformedName start (start + 1))

/-- Whether all escapes spell a character; `place` is where the text starts. -/
def checkFrom (isName : List Char → Bool) : (fuel place : Nat) → List Char → Except Fault Unit
  | 0, _, _ => .ok ()
  | fuel + 1, place, s =>
      match s with
      | '\\' :: c :: rest =>
          if 0x80 ≤ c.toNat then checkFrom isName fuel (place + 6) (c :: rest)
          else if c = 'N' then do
            let after ← afterName isName place rest
            checkFrom isName fuel (place + 2 + spelled (rest.take (rest.length - after.length))) after
          else
            match numberForm? c with
            | some (count, form) => do
                checkFrom isName fuel (place + 2 + count) (← afterNumber place count form rest)
            | none => checkFrom isName fuel (place + 2) rest
      | c :: rest => checkFrom isName fuel (place + spelledLength c) rest
      | [] => .ok ()

def checkText (isName : List Char → Bool) (s : List Char) : Except Fault Unit :=
  checkFrom isName s.length 0 s

/-- Whether all escapes of bytes spell a byte. -/
def checkBytesFrom : (place : Nat) → List Char → Except Fault Unit
  | place, '\\' :: 'x' :: a :: b :: rest =>
      if (Text.hexValue? a).isSome && (Text.hexValue? b).isSome then
        checkBytesFrom (place + 4) rest
      else .error (.byteEscape place)
  | place, '\\' :: 'x' :: _ => .error (.byteEscape place)
  | place, '\\' :: _ :: rest => checkBytesFrom (place + 2) rest
  | place, _ :: rest => checkBytesFrom (place + 1) rest
  | _, [] => .ok ()

def checkBytes (isRaw : Bool) (s : List Char) : Except Fault Unit :=
  if s.any (fun c => 0x80 ≤ c.toNat) then .error .byteCharacter
  else if isRaw then .ok ()
  else checkBytesFrom 0 s

end Quoted
end Expression
end Killswitch
