import Killswitch.Proofs.Route.Reading
import Killswitch.Proofs.Text.Words

/-!
# Routing tables by their sections

A routing table is written as a preamble and sections. A section has a line with the names of its columns,
the first of which is `Destination`, and rows below it. Reading a table gives back the full rows of the
sections that have a column for the interface, each with the fields that stand under the names of its own
section. Nothing is carried over from one section to the next, since the line of names replaces all that was
in force before.

**Rows.** A full row has a field for each column that a route is read from, and may lack those behind them. A
short row ends before the field for the interface; a blank line is such a row. In a section without a column
for the interface all rows are left out.

**Results.**
* `place?_of_nodup`: the place of a column among columns with different names;
* `ofLines_filter`: blank lines change nothing;
* `Section.ofLines_rows`, `Section.ofLines_append_lines`: the rows of a section, and a section and what stands
  behind it;
* `ofTable_of_spells`: a table that is written by its sections is read back.
-/

namespace Killswitch
namespace Route

open Killswitch.Action
open Text (SpellsText)

/-! ## Sections -/

/-- A section: the names of its columns, and its rows. -/
structure Section where
  columns : List String
  rows : List (List String)

namespace Section

/-- A row has a field for every column that a route is read from. -/
def IsFull (s : Section) (row : List String) : Prop :=
  ∀ name ∈ required, s.columns.idxOf name < row.length

instance (s : Section) (row : List String) : Decidable (s.IsFull row) :=
  inferInstanceAs (Decidable (∀ name ∈ required, s.columns.idxOf name < row.length))

/-- A row ends before the field for the interface. -/
def IsShort (s : Section) (row : List String) : Prop :=
  row.length ≤ s.columns.idxOf "Netif"

instance (s : Section) (row : List String) : Decidable (s.IsShort row) :=
  inferInstanceAs (Decidable (row.length ≤ s.columns.idxOf "Netif"))

/-- A section that is well formed: the line of its columns can be told from its rows, and where there is a
column for the interface, the columns have different names, those that a route is read from are among them,
and every row is short or full. -/
structure Regular (s : Section) : Prop where
  heading : s.columns.head? = some "Destination"
  row : ∀ row ∈ s.rows, row.head? ≠ some "Destination"
  nodup : "Netif" ∈ s.columns → s.columns.Nodup
  gateway : "Netif" ∈ s.columns → "Gateway" ∈ s.columns
  flags : "Netif" ∈ s.columns → "Flags" ∈ s.columns
  fits : "Netif" ∈ s.columns → ∀ row ∈ s.rows, s.IsShort row ∨ s.IsFull row

def lines (s : Section) : List (List String) :=
  s.columns :: s.rows

/-- The field of a row under a name. -/
def value (s : Section) (row : List String) (name : String) : String :=
  row.getD (s.columns.idxOf name) ""

/-- The route that a full row describes. -/
def route (s : Section) (row : List String) : Route :=
  ⟨s.value row "Destination", s.value row "Gateway", s.value row "Flags", s.value row "Netif"⟩

/-- The routes of a section: those of its full rows, if it has a column for the interface. -/
def routes (s : Section) : List Route :=
  if "Netif" ∈ s.columns then (s.rows.filter s.IsFull).map s.route else []

end Section

/-- A table: a preamble, and its sections. -/
structure Table where
  preamble : List (List String)
  sections : List Section

namespace Table

/-- A table that is well formed: no line of the preamble names columns, and its sections are well formed. -/
structure Regular (t : Table) : Prop where
  preamble : ∀ line ∈ t.preamble, line.head? ≠ some "Destination"
  sections : ∀ s ∈ t.sections, s.Regular

def lines (t : Table) : List (List String) :=
  t.preamble ++ t.sections.flatMap Section.lines

/-- The routes of a table: those of its sections in order. -/
def routes (t : Table) : List Route :=
  t.sections.flatMap Section.routes

end Table

/-! ## Columns with different names -/

section Columns

variable {columns : Columns} {fields : List String} {name : String}

/-- Among different names there is one place for a name. -/
theorem place?_of_nodup
    (hnodup : columns.Nodup) (hmem : name ∈ columns) :
    place? columns name = some (columns.idxOf name) := by
  induction columns with
  | nil =>
      contradiction
  | cons column columns ih =>
      obtain ⟨hfirst, hrest⟩ := List.nodup_cons.1 hnodup
      unfold place?
      by_cases hname : column = name
      · subst hname
        rw [place?_eq_none_iff.2 hfirst]
        simp
      · have hlater : name ∈ columns := (List.mem_cons.1 hmem).resolve_left (Ne.symm hname)
        have hne : (column == name) = false := by
          simpa using hname
        rw [ih hrest hlater, List.idxOf_cons, hne]
        rfl

theorem field_of_nodup
    (hnodup : columns.Nodup) (hmem : name ∈ columns)
    (hlong : columns.idxOf name < fields.length) :
    field columns fields name = .ok (fields.getD (columns.idxOf name) "") := by
  rw [field, place?_of_nodup hnodup hmem]
  simp [hlong]

end Columns

/-! ## Lines that change nothing -/

section Lines

variable {columns : Columns} {lines : List (List String)}

/-- Without a column for the interface no row gives a route. -/
theorem ofLines_of_not_mem
    (hnone : "Netif" ∉ columns)
    (hrows : ∀ line ∈ lines, line.head? ≠ some "Destination") :
    ofLines columns lines = .ok [] := by
  induction lines with
  | nil =>
      rfl
  | cons line lines ih =>
      obtain ⟨hline, hmore⟩ := List.forall_mem_cons.1 hrows
      have hskip : ofLine columns line = .ok [] := by
        rw [ofLine, if_neg hline, place?_eq_none_iff.2 hnone]
      rw [ofLines_cons, hskip, headed, if_neg hline, ih hmore]
      rfl

/-- Blank lines change nothing. -/
theorem ofLines_filter :
    ofLines columns (lines.filter (!·.isEmpty)) = ofLines columns lines := by
  induction lines generalizing columns with
  | nil =>
      rfl
  | cons line lines ih =>
      cases line with
      | nil =>
          exact ih
      | cons first line =>
          have hkept : ((first :: line) :: lines).filter (!·.isEmpty)
              = (first :: line) :: lines.filter (!·.isEmpty) := rfl
          rw [hkept, ofLines_cons, ofLines_cons, ih]

end Lines

/-! ## The rows of a section -/

namespace Section

variable {s : Section} {row : List String}

theorem Regular.mem_of_required
    (hs : s.Regular) (hnetif : "Netif" ∈ s.columns) :
    ∀ name ∈ required, name ∈ s.columns := by
  intro name hname
  simp only [required, List.mem_cons, List.not_mem_nil, or_false] at hname
  rcases hname with rfl | rfl | rfl | rfl
  · exact List.mem_of_head? hs.heading
  · exact hs.gateway hnetif
  · exact hs.flags hnetif
  · exact hnetif

/-- A full row gives its route. -/
theorem Regular.ofFields_full
    (hs : s.Regular) (hnetif : "Netif" ∈ s.columns) (hfull : s.IsFull row) :
    ofFields s.columns row = .ok (s.route row) := by
  have hfield : ∀ name ∈ required, field s.columns row name = .ok (s.value row name) := fun name hname =>
    field_of_nodup (hs.nodup hnetif) (hs.mem_of_required hnetif name hname) (hfull name hname)
  rw [ofFields, hfield "Destination" (by decide), hfield "Gateway" (by decide), hfield "Flags" (by decide),
    hfield "Netif" (by decide)]
  rfl

/-- Every row gives its route if it is full, and nothing otherwise. -/
theorem Regular.ofLine_row
    (hs : s.Regular) (hnetif : "Netif" ∈ s.columns) (hrow : row ∈ s.rows) :
    ofLine s.columns row = .ok (if s.IsFull row then [s.route row] else []) := by
  rw [ofLine, if_neg (hs.row row hrow), place?_of_nodup (hs.nodup hnetif) hnetif]
  dsimp only
  rcases hs.fits hnetif row hrow with hshort | hfull
  · have hends : row.length ≤ s.columns.idxOf "Netif" := hshort
    have hnot : ¬ s.IsFull row := fun hfull =>
      Nat.not_lt_of_le hends (hfull "Netif" (by decide))
    rw [if_pos hends, if_neg hnot]
  · have hlong : ¬ row.length ≤ s.columns.idxOf "Netif" :=
      Nat.not_le_of_lt (hfull "Netif" (by decide))
    rw [if_neg hlong, if_pos hfull, hs.ofFields_full hnetif hfull]
    rfl

/-- The rows of a section give its routes. -/
theorem Regular.ofLines_rows
    (hs : s.Regular) :
    ofLines s.columns s.rows = .ok s.routes := by
  unfold routes
  by_cases hnetif : "Netif" ∈ s.columns
  · rw [if_pos hnetif]
    have hrows : ∀ rows : List (List String), (∀ row ∈ rows, row ∈ s.rows) →
        ofLines s.columns rows = .ok ((rows.filter s.IsFull).map s.route) := by
      intro rows hmem
      induction rows with
      | nil =>
          rfl
      | cons row rows ih =>
          obtain ⟨hrow, hmore⟩ := List.forall_mem_cons.1 hmem
          rw [ofLines_cons, hs.ofLine_row hnetif hrow, headed, if_neg (hs.row row hrow), ih hmore]
          by_cases hfull : s.IsFull row
          · simp [hfull, Functor.map, Except.map]
          · simp [hfull, Functor.map, Except.map]
    exact hrows s.rows (fun _ hrow => hrow)
  · rw [if_neg hnetif]
    exact ofLines_of_not_mem hnetif hs.row

/-- The line of names puts its own columns in the place of those before it. -/
theorem Regular.ofLines_lines
    (hs : s.Regular) (columns : Columns) :
    ofLines columns s.lines = .ok s.routes := by
  have hheading : ofLine columns s.columns = .ok [] := by
    rw [ofLine, if_pos hs.heading]
  rw [lines, ofLines_cons, hheading, headed, if_pos hs.heading, hs.ofLines_rows]
  rfl

end Section

/-! ## Tables -/

/-- Sections are read one after the other, whatever columns are in force before them. -/
theorem ofLines_sections
    {sections : List Section} (hsections : ∀ s ∈ sections, s.Regular) (columns : Columns) :
    ofLines columns (sections.flatMap Section.lines) = .ok (sections.flatMap Section.routes) := by
  induction sections generalizing columns with
  | nil =>
      rfl
  | cons s sections ih =>
      obtain ⟨hs, hmore⟩ := List.forall_mem_cons.1 hsections
      rw [List.flatMap_cons, List.flatMap_cons, ofLines_append, hs.ofLines_lines, ok_bind, ih hmore]
      rfl

theorem Table.Regular.ofLines_lines
    {t : Table} (ht : t.Regular) :
    ofLines [] t.lines = .ok t.routes := by
  have hpreamble : ofLines [] t.preamble = .ok [] :=
    ofLines_of_not_mem List.not_mem_nil ht.preamble
  rw [Table.lines, ofLines_append, hpreamble, ok_bind, ofLines_sections ht.sections]
  rfl

/-- A well formed table is read back, however it is written: whatever padding stands around the fields, and
whatever breaks between the lines. -/
theorem ofTable_of_spells
    {t : Table} {text : String}
    (ht : t.Regular)
    (htext : SpellsText text.toList t.lines) :
    ofTable text = .ok t.routes := by
  have hfields : fieldsOf text = (Text.lines text.toList).map Text.wordsOf := rfl
  rw [ofTable_eq, ← ofLines_filter, hfields, htext.filter_wordsOf, ofLines_filter]
  exact ht.ofLines_lines

/-! ## A table with three layouts -/

/-- A table with two sections whose columns stand in different orders, and between them one without
interfaces. -/
def layouts : Table where
  preamble := [["Routing", "tables"]]
  sections := [
    ⟨["Destination", "Gateway", "Flags", "Netif", "Expire"],
      [["0/1", "10.8.0.1", "UGSc", "utun4"], ["link", "UC"], []]⟩,
    ⟨["Destination", "Use"], [["default", "12", "x", "y"]]⟩,
    ⟨["Destination", "Netif", "Flags", "Gateway"], [["default", "en0", "UGSc", "192.168.1.1"]]⟩]

def layoutsText : String :=
  "Routing tables" ++ "\n"
    ++ ("Destination\tGateway Flags Netif  Expire" ++ "\r\n"
    ++ ("0/1 10.8.0.1\tUGSc utun4 " ++ "\n"
    ++ (" link UC" ++ "\r\n"
    ++ ("\t" ++ "\n"
    ++ ("Destination Use" ++ "\n"
    ++ ("default 12 x y" ++ "\n"
    ++ ("Destination Netif Flags Gateway" ++ "\r"
    ++ "default en0 UGSc 192.168.1.1")))))))

theorem layouts_regular :
    layouts.Regular := by
  refine ⟨by decide, ?_⟩
  intro s hs
  simp only [layouts, List.mem_cons, List.not_mem_nil, or_false] at hs
  rcases hs with rfl | rfl | rfl
  · exact ⟨rfl, by decide, fun _ => by decide, fun _ => by decide, fun _ => by decide, fun _ => by decide⟩
  · exact ⟨rfl, by decide, by decide, by decide, by decide, by decide⟩
  · exact ⟨rfl, by decide, fun _ => by decide, fun _ => by decide, fun _ => by decide, fun _ => by decide⟩

theorem layoutsText_spells :
    SpellsText layoutsText.toList layouts.lines := by
  have hfeed : Text.IsBreak "\n".toList := .inr ⟨_, rfl, rfl⟩
  have hreturn : Text.IsBreak "\r".toList := .inr ⟨_, rfl, rfl⟩
  have hboth : Text.IsBreak "\r\n".toList := .inl rfl
  simp only [layoutsText, String.toList_append]
  exact .cons (by decide) hfeed
    (.cons (by decide) hboth
    (.cons (by decide) hfeed
    (.cons (by decide) hboth
    (.cons (by decide) hfeed
    (.cons (by decide) hfeed
    (.cons (by decide) hfeed
    (.cons (by decide) hreturn
    (.last (by decide)))))))))

theorem layouts_read :
    layouts.Regular
      ∧ SpellsText layoutsText.toList layouts.lines
      ∧ ofTable layoutsText
          = .ok [⟨"0/1", "10.8.0.1", "UGSc", "utun4"⟩, ⟨"default", "192.168.1.1", "UGSc", "en0"⟩] :=
  ⟨layouts_regular, layoutsText_spells, ofTable_of_spells layouts_regular layoutsText_spells⟩

end Route
end Killswitch
