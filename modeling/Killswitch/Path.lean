import Killswitch.Text.Blank
import Killswitch.Text.Search

/-!
# Paths

A path is kept as its root and its components. Reading one drops empty components and single dots;
double dots are kept, since they are resolved only when a file is looked up. They are resolved by the
spelling alone.

**Contents.**
* `Path.ofString` and `Path.toString`: the two spellings agree up to the dropped components;
* `Path.join`: a path below another, where a rooted one stands for itself;
* `Path.expandHome?`: a leading tilde replaced by the home directory;
* `Path.resolve`: the components from the root of the file system, double dots resolved.
-/

namespace Killswitch

/-- How a path starts: nowhere, at the root, or with two slashes, which are kept apart from one. -/
inductive Root where
  | here
  | slash
  | doubleSlash
  deriving DecidableEq, Repr

def Root.toString : Root → String
  | .here => ""
  | .slash => "/"
  | .doubleSlash => "//"

/-- A path as its root and its components. -/
structure Path where
  root : Root
  parts : List String
  deriving DecidableEq, Repr

namespace Path

/-- The root that a text starts with; three slashes or more are one. -/
def rootOf : List Char → Root
  | '/' :: '/' :: '/' :: _ => .slash
  | '/' :: '/' :: _ => .doubleSlash
  | '/' :: _ => .slash
  | _ => .here

/-- The path that a text spells. -/
def ofString (s : String) : Path where
  root := rootOf s.toList
  parts := ((Text.pieces (· == '/') s.toList).map String.ofList).filter
    (fun part => part != "" && part != ".")

/-- The spelling of a path; without root and components it is a dot. -/
def toString (p : Path) : String :=
  if p.root = .here ∧ p.parts = [] then "."
  else p.root.toString ++ Text.joinWith "/" p.parts

instance : ToString Path := ⟨Path.toString⟩

/-- The path `q` as seen from the directory `p`. -/
def join (p q : Path) : Path :=
  if q.root = .here then ⟨p.root, p.parts ++ q.parts⟩ else q

/-- The entry of a directory with the given name. -/
def child (p : Path) (name : String) : Path :=
  ⟨p.root, p.parts ++ [name]⟩

def parent (p : Path) : Path :=
  ⟨p.root, p.parts.dropLast⟩

/-- A home directory without trailing slashes, which do not count. -/
def homeDirectory (home : String) : String :=
  let trimmed := String.ofList ((home.toList.reverse.dropWhile (· == '/')).reverse)
  if trimmed = "" then "/" else trimmed

/-- A path with a leading tilde replaced by a home directory; `homeOf` knows the current user by the
empty name. A home that starts with a tilde is none. -/
def expandHome? (homeOf : String → Option String) (p : Path) : Option Path :=
  match p.root, p.parts with
  | .here, first :: rest =>
      match first.toList with
      | '~' :: user =>
          match (homeOf (String.ofList user)).map homeDirectory with
          | some directory =>
              if directory.toList.head? = some '~' then none
              else
                let base := ofString directory
                some ⟨base.root, base.parts ++ rest⟩
          | none => none
      | _ => some p
  | _, _ => some p

/-- Components with every double dot taken as a step up, whether or not what it leaves is there. -/
def stepUp (parts : List String) : List String :=
  (parts.foldl (fun above part => if part = ".." then above.drop 1 else part :: above) []).reverse

/-- The components of a path from the root, seen from `directory`. -/
def resolve (directory : List String) (p : Path) : List String :=
  stepUp (if p.root = .here then directory ++ p.parts else p.parts)

end Path

end Killswitch
