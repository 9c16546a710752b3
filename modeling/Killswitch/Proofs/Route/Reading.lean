import Killswitch.Proofs.Action.Pass
import Killswitch.Proofs.Lock.Check
import Killswitch.Proofs.Policy.Asking

/-!
# How a routing table is read

A table is read line by line. What is carried from one line to the next is the names of the columns, which
every line that starts with `Destination` gives anew. Any other line is left out, or has the fields of a
route looked up under the names in force.

**Rows that cannot be read.** A row is left out if it has no field for the interface. This is asked of no
other column, so a row that has such a field may still lack one of the others: since the section has no
column of the name, or since the row is shorter than the column's place. The first such row ends the reading
with a failure that is no diagnostic.

**Results.**
* `place?_eq_none_iff`: the columns that a section has;
* `ofLine`, `ofLines_cons`, `ofLines_append`: what one line gives, and lines one after the other;
* `Misfit`, `ofLine_error_iff`, `ofTable_error_iff`: the rows that cannot be read, and the tables;
* `Tunnel.answer_ofTable`, `Tunnel.answer_current`: the tunnel in a table, and in the host's own;
* `Tunnel.current_diagnosed_unless_escaping`: all other failures are diagnostics of the step `routing`;
* `narrowHost_failure_passed`: a section that names no gateways.
-/

namespace Killswitch

open Killswitch.Action

namespace Route

/-! ## Columns -/

theorem place?_eq_none_iff
    {columns : Columns} {name : String} :
    place? columns name = none ↔ name ∉ columns := by
  induction columns with
  | nil =>
      simp [place?]
  | cons column columns ih =>
      unfold place?
      cases hrest : place? columns name with
      | none =>
          have hnot := ih.1 hrest
          by_cases hname : column = name
          · simp [hname]
          · simp [hname, hnot, Ne.symm hname]
      | some n =>
          have hmem : name ∈ columns := by
            rw [hrest] at ih
            simpa using ih
          simp [hmem]

/-- A row has a field in the column of a name. -/
def HasField (columns : Columns) (fields : List String) (name : String) : Prop :=
  ∃ n, place? columns name = some n ∧ n < fields.length

/-- The columns that a route is read from, in the order in which they are looked up. -/
def required : List String :=
  ["Destination", "Gateway", "Flags", "Netif"]

section Fields

variable {columns : Columns} {fields : List String} {name : String} {f : Failure}

theorem field_ok_iff :
    (∃ value, field columns fields name = .ok value) ↔ HasField columns fields name := by
  unfold field HasField
  cases place? columns name with
  | none =>
      simp
  | some n =>
      by_cases hn : n < fields.length
      · simp [hn]
      · simp [hn]

theorem field_error_iff :
    field columns fields name = .error f
      ↔ (name ∉ columns ∧ f = .missingColumn name)
        ∨ ∃ n, place? columns name = some n ∧ fields.length ≤ n ∧ f = .shortRow := by
  unfold field
  rw [← place?_eq_none_iff]
  cases place? columns name with
  | none =>
      simp [eq_comm]
  | some n =>
      by_cases hn : n < fields.length
      · simp [hn, Nat.not_le_of_lt hn]
      · simp [hn, Nat.le_of_not_lt hn, eq_comm]

/-- The route with the given fields, in the order of the required columns. -/
def ofValues : List String → Route
  | [destination, gateway, flags, interface] => ⟨destination, gateway, flags, interface⟩
  | _ => ⟨"", "", "", ""⟩

/-- The route of a row is read in one pass over the required columns. -/
theorem ofFields_eq :
    ofFields columns fields = ofValues <$> required.mapM (field columns fields) := by
  unfold ofFields required
  simp only [List.mapM_cons, List.mapM_nil]
  cases field columns fields "Destination" with
  | error e =>
      rfl
  | ok destination =>
      cases field columns fields "Gateway" with
      | error e =>
          rfl
      | ok gateway =>
          cases field columns fields "Flags" with
          | error e =>
              rfl
          | ok flags =>
              cases field columns fields "Netif" <;> rfl

/-- A required column has no field in a row, while all those before it have one: there is no column of the
name, or the row is too short for it. -/
def Lacks (columns : Columns) (fields : List String) (f : Failure) : Prop :=
  ∃ earlier name later, required = earlier ++ name :: later
    ∧ (∀ other ∈ earlier, HasField columns fields other)
    ∧ (name ∉ columns ∧ f = .missingColumn name
        ∨ ∃ n, place? columns name = some n ∧ fields.length ≤ n ∧ f = .shortRow)

theorem ofFields_error_iff :
    ofFields columns fields = .error f ↔ Lacks columns fields f := by
  rw [ofFields_eq, map_eq_error_iff, mapM_eq_error_iff]
  simp only [field_ok_iff, field_error_iff, Lacks]

end Fields

/-! ## Lines -/

/-- The columns after a line. -/
def headed (columns : Columns) (fields : List String) : Columns :=
  if fields.head? = some "Destination" then fields else columns

def columnsAfter (columns : Columns) (lines : List (List String)) : Columns :=
  lines.foldl headed columns

/-- What a line gives: nothing if it names the columns or has no field for the interface, and a route
otherwise. -/
def ofLine (columns : Columns) (fields : List String) : Except Failure (List Route) :=
  if fields.head? = some "Destination" then .ok []
  else
    match place? columns "Netif" with
    | none => .ok []
    | some n => if fields.length ≤ n then .ok [] else ([·]) <$> ofFields columns fields

section Lines

variable {columns : Columns} {fields : List String} {lines more : List (List String)} {f : Failure}

/-- What a line gives, and then what the lines behind it give under the columns in force there. -/
theorem ofLines_cons :
    ofLines columns (fields :: lines)
      = ofLine columns fields >>= fun routes => (routes ++ ·) <$> ofLines (headed columns fields) lines := by
  have hkeep : ∀ outcome : Except Failure (List Route),
      outcome = (.ok [] >>= fun routes => (routes ++ ·) <$> outcome) := by
    rintro (_ | _) <;> rfl
  cases fields with
  | nil =>
      have hnone : ofLine columns [] = .ok [] := by
        unfold ofLine
        split
        · rfl
        · cases place? columns "Netif" <;> rfl
      rw [ofLines, hnone]
      exact hkeep _
  | cons first rest =>
      rw [ofLines]
      by_cases hfirst : first = "Destination"
      · subst hfirst
        exact hkeep _
      · have hhead : (first :: rest).head? ≠ some "Destination" := by
          simpa using hfirst
        rw [if_neg hfirst, ofLine, if_neg hhead, headed, if_neg hhead]
        cases place? columns "Netif" with
        | none =>
            exact hkeep _
        | some n =>
            by_cases hshort : rest.length < n
            · have hlength : (first :: rest).length ≤ n := hshort
              simp only [hshort, hlength, if_true]
              exact hkeep _
            · have hlength : ¬ (first :: rest).length ≤ n := hshort
              simp only [hshort, hlength, if_false]
              cases ofFields columns (first :: rest) with
              | error e =>
                  rfl
              | ok route =>
                  cases ofLines columns lines <;> rfl

theorem ofLines_append :
    ofLines columns (lines ++ more)
      = ofLines columns lines >>= fun routes =>
          (routes ++ ·) <$> ofLines (columnsAfter columns lines) more := by
  induction lines generalizing columns with
  | nil =>
      change ofLines columns more = (.ok [] >>= fun routes => (routes ++ ·) <$> ofLines columns more)
      cases ofLines columns more <;> rfl
  | cons fields lines ih =>
      have hafter : columnsAfter columns (fields :: lines) = columnsAfter (headed columns fields) lines := rfl
      rw [List.cons_append, ofLines_cons, ofLines_cons, ih, hafter]
      cases ofLine columns fields with
      | error e =>
          rfl
      | ok routes =>
          cases ofLines (headed columns fields) lines with
          | error e =>
              rfl
          | ok others =>
              cases ofLines (columnsAfter (headed columns fields) lines) more with
              | error e =>
                  rfl
              | ok found =>
                  exact congrArg Except.ok (List.append_assoc routes others found).symm

/-! ## Rows that cannot be read -/

/-- A row cannot be read: it has a field for its interface, but lacks one for another required column. -/
structure Misfit (columns : Columns) (fields : List String) (f : Failure) : Prop where
  row : fields.head? ≠ some "Destination"
  interface : HasField columns fields "Netif"
  lacks : Lacks columns fields f

theorem ofLine_error_iff :
    ofLine columns fields = .error f ↔ Misfit columns fields f := by
  unfold ofLine
  constructor
  · intro hfail
    split at hfail
    · contradiction
    · rename_i hrow
      split at hfail
      · contradiction
      · rename_i n hplace
        split at hfail
        · contradiction
        · rename_i hlong
          exact ⟨hrow, ⟨n, hplace, by omega⟩, ofFields_error_iff.1 (map_eq_error_iff.1 hfail)⟩
  · rintro ⟨hrow, ⟨n, hplace, hlong⟩, hlacks⟩
    rw [if_neg hrow, hplace]
    dsimp only
    rw [if_neg (by omega), map_eq_error_iff]
    exact ofFields_error_iff.2 hlacks

/-- The first line that cannot be read gives its failure to all. -/
theorem ofLines_error_iff :
    ofLines columns lines = .error f
      ↔ ∃ earlier fields later, lines = earlier ++ fields :: later
          ∧ (∃ routes, ofLines columns earlier = .ok routes)
          ∧ Misfit (columnsAfter columns earlier) fields f := by
  constructor
  · intro hfail
    induction lines generalizing columns with
    | nil =>
        contradiction
    | cons fields lines ih =>
        rw [ofLines_cons] at hfail
        cases hline : ofLine columns fields with
        | error e =>
            rw [hline] at hfail
            obtain rfl : e = f := Except.error.inj hfail
            exact ⟨[], fields, lines, rfl, ⟨[], rfl⟩, ofLine_error_iff.1 hline⟩
        | ok routes =>
            rw [hline, ok_bind, map_eq_error_iff] at hfail
            obtain ⟨earlier, row, later, rfl, ⟨others, hearlier⟩, hrow⟩ := ih hfail
            refine ⟨fields :: earlier, row, later, rfl, ⟨routes ++ others, ?_⟩, hrow⟩
            rw [ofLines_cons, hline, hearlier]
            rfl
  · rintro ⟨earlier, row, later, rfl, ⟨routes, hearlier⟩, hrow⟩
    rw [ofLines_append, hearlier, ok_bind, ofLines_cons, ofLine_error_iff.2 hrow]
    rfl

end Lines

/-! ## Tables -/

def fieldsOf (text : String) : List (List String) :=
  (Text.lines text.toList).map (fun line => (Text.words line).map String.ofList)

theorem ofTable_eq (text : String) :
    ofTable text = ofLines [] (fieldsOf text) := by
  rfl

/-- A table cannot be read: one of its rows cannot be read under the columns that stand above it, and all
lines before it can. -/
def Unreadable (text : String) (f : Failure) : Prop :=
  ∃ earlier fields later, fieldsOf text = earlier ++ fields :: later
    ∧ (∃ routes, ofLines [] earlier = .ok routes)
    ∧ Misfit (columnsAfter [] earlier) fields f

theorem ofTable_error_iff
    {text : String} {f : Failure} :
    ofTable text = .error f ↔ Unreadable text f := by
  rw [ofTable_eq, ofLines_error_iff, Unreadable]

end Route

/-! ## The tunnel -/

/-- A failure that says why the routing table is not known. -/
def Failure.IsRouting (f : Failure) : Prop :=
  ∃ text, f = .diagnostic ⟨.destination, "routing", text⟩

namespace Tunnel

/-- The tunnel in a table is the one that the usable routes show. -/
theorem answer_ofTable (text : String) (h : Host) :
    answer (ofTable text) h = (fun routes => ofRoutes (routes.filter Route.isUsable)) <$> Route.ofTable text := by
  have hhost : answer (ofTable text) h = (ofTable text (.ofHost h)).1 := rfl
  rw [hhost, ofTable, bind_run, ofOutcome_run]
  cases Route.ofTable text with
  | error e =>
      rfl
  | ok routes =>
      dsimp only
      cases Route.splitDefault? (routes.filter Route.isUsable) with
      | none =>
          rfl
      | some r =>
          dsimp only
          split <;> rfl

/-- The tunnel of a host is the one that the listing of its routing table shows. -/
theorem answer_current (h : Host) :
    answer current h = answer (ofListing h.routes) h := by
  rw [current_eq, answer_bind listRoutes_consults (fun run => (ofListing_consults run).any)]
  rfl

/-- A failure is passed on: the listing of the routing table fails with what is no error of the operating
system, or the listed table cannot be read. -/
inductive Escapes (h : Host) : Failure → Prop
  | fault {g : Fault} :
      h.routes = .fault g → (∀ e, g ≠ .system e) → Escapes h (.ofFault g)
  | table {output errors : String} {f : Failure} :
      h.routes = .ended 0 output errors → Route.Unreadable output f → Escapes h f

theorem not_isRouting_of_unreadable
    {text : String} {f : Failure} (h : Route.Unreadable text f) :
    ¬ f.IsRouting := by
  obtain ⟨-, -, -, -, -, -, -, -, -, -, -, -, ⟨-, rfl⟩ | ⟨-, -, -, rfl⟩⟩ := h
  · rintro ⟨text, ⟨⟩⟩
  · rintro ⟨text, ⟨⟩⟩

theorem not_isRouting_ofFault (g : Fault) :
    ¬ (Failure.ofFault g).IsRouting := by
  rintro ⟨text, heq⟩
  cases g <;> cases heq

/-- A fault that is no error of the operating system is passed on. -/
theorem answer_ofListing_fault
    {h : Host} {g : Fault} (hkind : ∀ e, g ≠ .system e) :
    answer (ofListing (.fault g)) h = .error (.ofFault g) := by
  cases g with
  | system e =>
      exact absurd rfl (hkind e)
  | encoding text =>
      rfl
  | listing =>
      rfl
  | interrupt =>
      rfl

/-- A listing that ended well is read as a table. -/
theorem answer_ofListing_ended
    (output errors : String) (h : Host) :
    answer (ofListing (.ended 0 output errors)) h
      = (fun routes => ofRoutes (routes.filter Route.isUsable)) <$> Route.ofTable output := by
  rw [ofListing, if_neg (fun hne => hne rfl), answer_ofTable]

theorem escapes_iff
    {h : Host} {f : Failure} :
    (answer current h = .error f ∧ ¬ f.IsRouting) ↔ Escapes h f := by
  rw [answer_current]
  constructor
  · rintro ⟨hfail, hforeign⟩
    cases hroutes : h.routes with
    | ended code output errors =>
        rw [hroutes] at hfail
        by_cases hcode : code = 0
        · subst hcode
          rw [answer_ofListing_ended, map_eq_error_iff] at hfail
          exact .table hroutes (Route.ofTable_error_iff.1 hfail)
        · rw [ofListing, if_pos hcode] at hfail
          exact absurd ⟨_, (Except.error.inj hfail).symm⟩ hforeign
    | timedOut captured =>
        rw [hroutes] at hfail
        exact absurd ⟨_, (Except.error.inj hfail).symm⟩ hforeign
    | fault g =>
        rw [hroutes] at hfail
        by_cases hkind : ∀ e, g ≠ .system e
        · rw [answer_ofListing_fault hkind] at hfail
          obtain rfl := Except.error.inj hfail
          exact .fault hroutes hkind
        · obtain ⟨e, rfl⟩ : ∃ e, g = .system e := by simpa using hkind
          exact absurd ⟨_, (Except.error.inj hfail).symm⟩ hforeign
  · intro hescapes
    cases hescapes with
    | fault hroutes hkind =>
        rw [hroutes]
        exact ⟨answer_ofListing_fault hkind, not_isRouting_ofFault _⟩
    | table hroutes htable =>
        refine ⟨?_, not_isRouting_of_unreadable htable⟩
        rw [hroutes, answer_ofListing_ended, Route.ofTable_error_iff.2 htable]
        rfl

/-- The tunnel of a host is known, or there is a diagnostic of the step `routing`, unless a row of the listed
table cannot be read or the listing fails with what is no error of the operating system; and then that failure
is passed on. A table by itself shows a tunnel, or fails as its first row that cannot be read. -/
theorem current_diagnosed_unless_escaping (m : Machine) :
    (∀ f, (current m).1 = .error f ∧ ¬ f.IsRouting ↔ Escapes m.host f)
      ∧ ((∃ tunnel, (current m).1 = .ok tunnel)
            ∨ (∃ f, (current m).1 = .error f ∧ f.IsRouting)
          ↔ ∀ f, ¬ Escapes m.host f)
      ∧ (∀ text f, (ofTable text m).1 = .error f ↔ Route.Unreadable text f) := by
  have hrun : (current m).1 = answer current m.host := by
    rw [current_consults.run m]
  have hescapes : ∀ f, (current m).1 = .error f ∧ ¬ f.IsRouting ↔ Escapes m.host f := by
    intro f
    rw [hrun, escapes_iff]
  refine ⟨hescapes, ok_or_iff_of_escapes hescapes, fun text f => ?_⟩
  rw [(ofTable_consults text).run m, answer_ofTable, map_eq_error_iff, Route.ofTable_error_iff]

/-! ## A section that names no gateways -/

/-- A host whose routing table has a section with two columns. -/
def narrowHost : Host :=
  { Lock.obligingHost with routes := .ended 0 "Destination Netif\ndefault en0\n" "" }

/-- There the search for the tunnel is ended by the missing column. -/
theorem narrowHost_failure_passed :
    (current (.ofHost narrowHost)).1 = .error (.missingColumn "Gateway")
      ∧ ¬ (Failure.missingColumn "Gateway").IsRouting := by
  refine ⟨rfl, ?_⟩
  rintro ⟨text, ⟨⟩⟩

end Tunnel
end Killswitch
