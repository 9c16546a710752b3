import Killswitch.Address.V4
import Killswitch.Text.Hex
import Killswitch.Text.Search

/-!
# IPv6 addresses

Eight groups of up to four hexadecimal digits between colons. One double colon may stand for one or
more groups of zeros, the last two groups may be spelled as a dotted quad, and a zone may follow
after a percent sign.

**Contents.**
* `V6`: the eight groups and the zone;
* `groups?` and `groupsWithTail?`: the readers of the groups on one side of a double colon;
* `V6.ofChars?`: the reader.
-/

namespace Killswitch
namespace Address

/-- An IPv6 address as its eight groups, the first one most significant, and its zone. -/
structure V6 where
  groups : List UInt16
  zone : Option (List Char)
  eight : groups.length = 8

/-- The group that one to four hexadecimal digits spell. -/
def group? (s : List Char) : Option UInt16 :=
  if s = [] ∨ 4 < s.length then none else (Text.hexNumber? s).map UInt16.ofNat

/-- The two groups that a dotted quad stands for. -/
def V4.groups (v : V4) : List UInt16 :=
  [UInt16.ofNat (v.a.toNat * 256 + v.b.toNat), UInt16.ofNat (v.c.toNat * 256 + v.d.toNat)]

/-- The groups that the parts between colons spell. -/
def groupList? : List (List Char) → Option (List UInt16)
  | [] => some []
  | part :: rest => do return (← group? part) :: (← groupList? rest)

/-- The groups that such parts spell if the last one may be a dotted quad. -/
def groupListWithTail? : List (List Char) → Option (List UInt16)
  | [] => some []
  | [part] => (V4.ofChars? part).map V4.groups <|> groupList? [part]
  | part :: rest => do return (← group? part) :: (← groupListWithTail? rest)

/-- The groups before a double colon. -/
def groups? (s : List Char) : Option (List UInt16) :=
  if s = [] then some [] else groupList? (Text.pieces (· == ':') s)

/-- The groups at the end of an address, where a dotted quad may be last. -/
def groupsWithTail? (s : List Char) : Option (List UInt16) :=
  if s = [] then some [] else groupListWithTail? (Text.pieces (· == ':') s)

/-- The text before the first double colon and the text after it. -/
def cutAtGap : List Char → List Char × Option (List Char)
  | [] => ([], none)
  | ':' :: ':' :: rest => ([], some rest)
  | c :: rest =>
      let (before, after) := cutAtGap rest
      (c :: before, after)

/-- The eight groups that a text without a zone spells. A double colon stands for at least one. -/
def eightGroups? (s : List Char) : Option { groups : List UInt16 // groups.length = 8 } :=
  let whole (groups : List UInt16) : Option { groups : List UInt16 // groups.length = 8 } :=
    if h : groups.length = 8 then some ⟨groups, h⟩ else none
  match cutAtGap s with
  | (all, none) => groupsWithTail? all >>= whole
  | (before, some after) => do
      let high ← groups? before
      let low ← groupsWithTail? after
      if high.length + low.length < 8 then
        whole (high ++ List.replicate (8 - (high.length + low.length)) 0 ++ low)
      else none

/-- The zone after the percent sign: not empty and without a further percent sign. -/
def zone? (s : List Char) : Option (List Char) :=
  if s = [] ∨ s.contains '%' then none else some s

/-- The address that some text spells. A slash is refused in the zone too. -/
def V6.ofChars? (s : List Char) : Option V6 :=
  if s.contains '/' then none
  else
    match Text.cutAt '%' s with
    | (body, none) => (eightGroups? body).map (fun g => ⟨g.1, none, g.2⟩)
    | (body, some zone) => do
        let zone ← zone? zone
        let g ← eightGroups? body
        return ⟨g.1, some zone, g.2⟩

end Address
end Killswitch
