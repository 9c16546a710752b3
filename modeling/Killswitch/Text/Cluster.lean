import Killswitch.Text.Width

/-!
# Clusters

What is drawn as one picture cannot be cut in the middle. A cluster is a character that takes cells,
with the marks, signs and joined characters that follow it. A text is cut between clusters; where the
cut would go through one of two cells, a space takes the place of its half.

**Contents.**
* `Cluster`, `clusters`: the clusters of a text, in order;
* `firstCells`: the clusters that fill a number of cells;
* `fit`: a text cut or filled up with spaces to a number of cells.
-/

namespace Killswitch
namespace Text

/-- Characters that are drawn together, and the cells that they take. -/
structure Cluster where
  chars : List Char
  cells : Nat
  deriving DecidableEq, Repr

/-- The clusters before a place, the last one first, and the last character before it that can grow. -/
structure Gathered where
  clusters : List Cluster
  last : Option Char

namespace Gathered

/-- More characters in the last cluster, or in one without cells at the start of a text. -/
def extend (chars : List Char) (more : Nat) (g : Gathered) : Gathered :=
  match g.clusters with
  | [] => { g with clusters := [⟨chars, 0⟩] }
  | cluster :: before =>
      { g with clusters := ⟨cluster.chars ++ chars, cluster.cells + more⟩ :: before }

def add (c : Char) (g : Gathered) : Gathered :=
  if cells c = 0 then g.extend [c] 0
  else ⟨⟨[c], cells c⟩ :: g.clusters, some c⟩

def grow (g : Gathered) : Gathered :=
  let g' := g.extend [pictureSign] (growth g.last)
  if growth g.last = 0 then g' else { g' with last := none }

end Gathered

/-- The clusters of a text after those that are gathered. A joiner at its start stands alone. -/
def clustersAfter (g : Gathered) : List Char → List Cluster
  | [] => g.clusters.reverse
  | c :: rest =>
      if c = joiner then
        match g.clusters, rest with
        | _ :: _, next :: rest => clustersAfter (g.extend [joiner, next] 0) rest
        | _, rest => clustersAfter (g.extend [joiner] 0) rest
      else if c = pictureSign then clustersAfter g.grow rest
      else clustersAfter (g.add c) rest

def clusters (s : List Char) : List Cluster :=
  clustersAfter ⟨[], none⟩ s

/-- The first clusters that fill some cells, with a space for the half of one that reaches beyond. -/
def firstCells : Nat → List Cluster → List Char
  | _, [] => []
  | 0, _ => []
  | n, cluster :: rest =>
      if cluster.cells ≤ n then cluster.chars ++ firstCells (n - cluster.cells) rest
      else [' ']

/-- A text cut or filled up to a number of cells. -/
def fit (n : Nat) (s : List Char) : List Char :=
  if width s ≤ n then s ++ List.replicate (n - width s) ' '
  else firstCells n (clusters s)

end Text
end Killswitch
