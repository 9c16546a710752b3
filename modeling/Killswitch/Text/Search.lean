/-!
# Searching and cutting

**Contents.**
* `contains`: whether one text occurs inside another;
* `cutAt`: a text before and after the first occurrence of a character;
* `joinWith`: texts with a separator between neighbours.
-/

namespace Killswitch
namespace Text

/-- Whether `pattern` occurs somewhere inside a text. -/
def contains (pattern : List Char) : List Char → Bool
  | [] => pattern.isEmpty
  | c :: rest => pattern.isPrefixOf (c :: rest) || contains pattern rest

/-- The text before the first `mark`, and the text after it. -/
def cutAt (mark : Char) : List Char → List Char × Option (List Char)
  | [] => ([], none)
  | c :: rest =>
      if c = mark then ([], some rest)
      else
        let (before, after) := cutAt mark rest
        (c :: before, after)

/-- The part of a text before the first `mark`, or all of it. -/
def before (mark : Char) (s : String) : String :=
  String.ofList (cutAt mark s.toList).1

/-- Texts in one, with `separator` between neighbours. -/
def joinWith (separator : String) : List String → String
  | [] => ""
  | [s] => s
  | s :: t :: rest => s ++ separator ++ joinWith separator (t :: rest)

end Text
end Killswitch
