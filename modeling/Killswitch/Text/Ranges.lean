/-!
# Ranges of characters

A class of characters is given by ranges of their numbers, each with its first and its last one.

**Contents.**
* `inRanges`: whether a number lies in one of some ranges.
-/

namespace Killswitch
namespace Text

/-- Whether a number lies in one of some ranges. -/
def inRanges (ranges : Array (Nat × Nat)) (n : Nat) : Bool :=
  ranges.any (fun range => range.1 ≤ n && n ≤ range.2)

end Text
end Killswitch
