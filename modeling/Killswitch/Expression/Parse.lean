import Killswitch.Expression.Formatted
import Killswitch.Expression.Reader
import Killswitch.Text.CharacterName

/-!
# Expressions of texts

A text is cut into pieces, and the pieces are matched with the rules. The fields of formatted texts are
expressions of their own, which are read in the same way as if they stood between parentheses.

**Contents.**
* `readTexts`: what quoted texts that stand in a row are;
* `parse`: the expression that a text is.
-/

namespace Killswitch
namespace Expression

/-- Whether a quoted text can be read, apart from its fields. -/
def Quoted.check (q : Quoted) : Except Fault Unit :=
  if q.isBytes then checkBytes q.isRaw q.body
  else if q.isFormatted || q.isRaw then .ok ()
  else checkText Text.isCharacterName q.body

/-- Whether it can be read after other ones, which are bytes or not. -/
def Quoted.checkAfter (readField : List Char → Except Halt Unit) (areBytes : Option Bool)
    (q : Quoted) : Except Halt Unit := do
  q.check.mapError .misused
  if areBytes.any (· != q.isBytes) then throw (.misused .mixedTexts)
  if q.isFormatted then Formatted.check readField Text.isCharacterName q.isRaw q.body

/-- Whether quoted texts can be read after other ones. -/
def checkTexts (readField : List Char → Except Halt Unit) :
    (areBytes : Option Bool) → List Quoted → Except Halt Unit
  | _, [] => .ok ()
  | areBytes, q :: rest => do
      q.checkAfter readField areBytes
      checkTexts readField (some q.isBytes) rest

/-- What quoted texts in a row are, if they can be read. -/
def readTexts (readField : List Char → Except Halt Unit) (tokens : List Token) : Except Halt Kind := do
  let texts := tokens.map (fun t => Quoted.ofLexeme t.lexeme)
  checkTexts readField none texts
  return if texts.any Quoted.isFormatted then .formatted else .text

/-- The tree that a rule finds in a text; fields are shorter than their text. -/
def parseWith : (fuel : Nat) → Rule → List Char → Except Halt Tree
  | 0, _, _ => .error .exhausted
  | fuel + 1, r, s =>
      let readField (field : List Char) : Except Halt Unit :=
        match parseWith fuel .field ('(' :: field ++ [')']) with
        | .ok _ => .ok ()
        | .error halt => .error halt.outOfField
      Source.read ⟨Pieces.ofText s, readTexts readField⟩ r

def parse (s : List Char) : Except Halt Tree :=
  if s.contains '\x00' then .error (.refused .nullCharacter) else parseWith (s.length + 1) .whole s

end Expression
end Killswitch
