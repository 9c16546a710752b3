import Killswitch.Expression.Quoted

/-!
# Formatted texts

A formatted text has fields between braces; braces that are written twice are ordinary characters. A field
holds an expression, and then perhaps an equals sign, the letter of a conversion behind an exclamation
mark, and behind a colon a form, which may have fields of its own but no deeper ones.

**Contents.**
* `Formatted.afterLiteral`: the text after the ordinary characters at the start of a text;
* `Formatted.cutField`: the expression at the start of a field;
* `Formatted.check`: whether a formatted text can be read.
-/

namespace Killswitch
namespace Expression
namespace Formatted

def halt {α : Type} (f : FieldFault) : Except Halt α :=
  .error (.misused (.field f))

/-! ## Ordinary characters -/

/-- The text after an escape by name. -/
def afterNamed : List Char → List Char
  | '\x7b' :: rest => (rest.dropWhile (· != '\x7d')).drop 1
  | _ :: rest => rest
  | [] => []

/-- The text from the first brace on that is no ordinary character. -/
def afterLiteral (isRaw isOuter : Bool) : (fuel : Nat) → List Char → Except Halt (List Char × Bool)
  | 0, s => .ok (s, false)
  | fuel + 1, s =>
      match s with
      | '\\' :: c :: rest =>
          if isRaw then afterLiteral isRaw isOuter fuel (c :: rest)
          else if c = 'N' then afterLiteral isRaw isOuter fuel (afterNamed rest)
          else if c = '\x7b' ∨ c = '\x7d' then brace c rest
          else afterLiteral isRaw isOuter fuel rest
      | c :: rest =>
          if c = '\x7b' ∨ c = '\x7d' then brace c rest
          else afterLiteral isRaw isOuter fuel rest
      | [] => .ok ([], false)
where
  /-- The end of ordinary characters at a brace. -/
  brace (c : Char) (rest : List Char) : Except Halt (List Char × Bool) :=
    if isOuter && rest.head? = some c then .ok (rest.drop 1, true)
    else if isOuter && c = '\x7d' then halt .lonelyBrace
    else .ok (c :: rest, false)

/-! ## Fields -/

/-- The quotes that are open inside of a field. -/
inductive Quotes where
  | single (quote : Char)
  | tripled (quote : Char)
  deriving DecidableEq, Repr

/-- The most brackets that may be open inside of a field. -/
def mostOpened : Nat :=
  200

/-- The bracket that closes another one. -/
def closingOf (opening : Char) : Char :=
  if opening = '(' then ')' else if opening = '[' then ']' else '\x7d'

/-- Whether a character ends the expression of a field, outside of brackets. -/
def endsExpression (c : Char) : Bool :=
  ['!', ':', '\x7d', '=', '<', '>'].contains c

/-- The length of the expression at the start of a field, comparisons included. -/
def expressionLength : (fuel passed : Nat) → (quotes : Option Quotes) → (opened s : List Char) →
    Except Halt Nat
  | 0, passed, _, _, _ => .ok passed
  | fuel + 1, passed, quotes, opened, s =>
      match s, quotes with
      | [], some _ => halt .openText
      | [], none =>
          match opened with
          | opening :: _ => halt (.unmatched opening)
          | [] => .ok passed
      | '\\' :: _, _ => .error (.misused .fieldBackslash)
      | c :: rest, some (.tripled quote) =>
          if c = quote ∧ rest.take 2 = [quote, quote] then
            expressionLength fuel (passed + 3) none opened (rest.drop 2)
          else expressionLength fuel (passed + 1) quotes opened rest
      | c :: rest, some (.single quote) =>
          expressionLength fuel (passed + 1) (if c = quote then none else quotes) opened rest
      | c :: rest, none =>
          if c = '\'' ∨ c = '"' then
            if rest.take 2 = [c, c] then
              expressionLength fuel (passed + 3) (some (.tripled c)) opened (rest.drop 2)
            else expressionLength fuel (passed + 1) (some (.single c)) opened rest
          else if ['[', '\x7b', '('].contains c then
            if mostOpened ≤ opened.length then halt .tooNested
            else expressionLength fuel (passed + 1) none (c :: opened) rest
          else if c = '#' then .error (.misused .fieldComment)
          else if opened.isEmpty && endsExpression c then
            if rest.head? = some '=' && ['!', '=', '<', '>'].contains c then
              expressionLength fuel (passed + 2) none opened (rest.drop 1)
            else if c = '<' ∨ c = '>' then expressionLength fuel (passed + 1) none opened rest
            else .ok passed
          else if [']', '\x7d', ')'].contains c then
            match opened with
            | [] => halt (.unmatched c)
            | opening :: outer =>
                if c = closingOf opening then expressionLength fuel (passed + 1) none outer rest
                else halt (.mismatch opening c)
          else expressionLength fuel (passed + 1) none opened rest

/-- Whether a character is a blank of a field. -/
def isFieldBlank (c : Char) : Bool :=
  [' ', '\t', '\n', '\x0c'].contains c

/-- The expression of a field, and the text from its end on. -/
def cutField (s : List Char) : Except Halt (List Char × List Char) := do
  let length ← expressionLength (s.length + 1) 0 none [] s
  let expression := s.take length
  match s.drop length with
  | [] => halt .unfinished
  | next :: rest =>
      if expression.all isFieldBlank then
        halt (.empty (if ['!', ':', '='].contains next then some next else none))
      else return (expression, next :: rest)

/-- The text after the equals sign that may stand behind an expression. -/
def afterEquals : List Char → Except Halt (List Char)
  | '=' :: rest =>
      match rest.dropWhile (fun c => isFieldBlank c || c = '\x0b' || c = '\r') with
      | [] => halt .unfinished
      | after => .ok after
  | s => .ok s

/-- The text after the conversion that may stand behind it. -/
def afterConversion : List Char → Except Halt (List Char)
  | ['!'] => halt .unfinished
  | '!' :: c :: rest =>
      if !(['s', 'r', 'a'].contains c) then halt .conversion
      else if rest.isEmpty then halt .unfinished
      else .ok rest
  | s => .ok s

/-! ## Whole texts -/

/-- The deepest level of fields. -/
def deepest : Nat :=
  2

/-- The text after a formatted text: none, or the brace that ends a form. -/
def afterText (readField : List Char → Except Halt Unit) (isName : List Char → Bool) (isRaw : Bool) :
    (fuel level : Nat) → List Char → Except Halt (List Char)
  | 0, _, s => .ok s
  | fuel + 1, level, s => do
      let (rest, isDoubled) ← afterLiteral isRaw (level = 0) (s.length + 1) s
      let literal := s.take (s.length - rest.length - (if isDoubled then 1 else 0))
      if !isRaw then
        match Quoted.checkText isName literal with
        | .ok () => pure ()
        | .error f => throw (.misused f)
      if isDoubled then afterText readField isName isRaw fuel level rest
      else
        match rest with
        | '\x7b' :: inside =>
            if deepest ≤ level then halt .tooDeep
            else
              let (expression, behind) ← cutField inside
              readField expression
              let behind ← afterConversion (← afterEquals behind)
              let behind ←
                match behind with
                | [':'] => halt .unfinished
                | ':' :: form => afterText readField isName isRaw fuel (level + 1) form
                | _ => pure behind
              match behind with
              | '\x7d' :: after => afterText readField isName isRaw fuel level after
              | _ => halt .unfinished
        | '\x7d' :: _ => return rest
        | _ => if level = 0 then return rest else halt .unfinished

/-- Whether a formatted text can be read. -/
def check (readField : List Char → Except Halt Unit) (isName : List Char → Bool) (isRaw : Bool)
    (s : List Char) : Except Halt Unit := do
  let _ ← afterText readField isName isRaw (2 * s.length + 2) 0 s
  return ()

end Formatted
end Expression
end Killswitch
