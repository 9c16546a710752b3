/-!
# Pieces of expressions

An expression is read piece by piece: names, numbers, texts between quotes, and words and marks with a
meaning of their own. The ends of lines count outside of brackets only.

**Contents.**
* `Symbol`: the kinds of pieces;
* `Token`: a piece with its characters, its line, and the number of brackets that are open behind it;
* `keywords`, `marks`: the words and marks with a meaning of their own.
-/

namespace Killswitch
namespace Expression

/-- A kind of piece. -/
inductive Symbol where
  | name
  | number
  | text
  | fixed (s : String)
  | newline
  | indent
  | dedent
  | finish
  deriving DecidableEq, Repr

structure Token where
  symbol : Symbol
  lexeme : List Char
  line : Nat
  depth : Nat
  deriving DecidableEq, Repr

/-- Whether the end of a piece shows only from the character behind it. -/
def Token.needsNext (t : Token) : Bool :=
  match t.symbol with
  | .text => (t.lexeme.dropWhile Char.isAlpha).length = 2
  | .fixed _ => t.lexeme.length < 3 || t.lexeme.any Char.isAlpha
  | _ => true

/-- The words that are no names. -/
def keywords : List String :=
  ["False", "None", "True", "and", "as", "assert", "async", "await", "break", "class", "continue",
    "def", "del", "elif", "else", "except", "finally", "for", "from", "global", "if", "import", "in",
    "is", "lambda", "nonlocal", "not", "or", "pass", "raise", "return", "try", "while", "with", "yield"]

/-- The marks of more than one character, longer ones first. -/
def marks : List String :=
  ["**=", "//=", "<<=", ">>=", "!=", "%=", "&=", "**", "*=", "+=", "-=", "->", "//", "/=", ":=", "<<",
    "<=", "<>", "==", ">=", ">>", "@=", "^=", "|="]

def symbolOfWord (word : List Char) : Symbol :=
  let s := String.ofList word
  if keywords.contains s then .fixed s else .name

end Expression
end Killswitch
