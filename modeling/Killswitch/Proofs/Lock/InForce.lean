import Killswitch.Proofs.Lock.Asking
import Killswitch.Proofs.Lock.Session
import Killswitch.Proofs.Text.Utf8
import Mathlib.Data.List.Induction

/-!
# The rules in force

A load replaces all rules of the filter by those of a file. So the rules in force are the text that the
filter has read in the last load that ended well, whatever was done before it, and whatever happened to
the ruleset file after it. A load whose file the filter could not open has read no text.

**The lock.** Where the last load was that of a step that puts the lock on, its text is the ruleset of the
policy. It has gone through a file: it was written to it in bytes, in the place of what was left there,
and was read from it before the file was removed. Where the last load was that of a step that takes the
lock off, its text is that of the baseline as it stood then.

**Results.**
* `Load`, `loadOf`: a load that has ended well, and the one of a step;
* `inForce`: the load whose rules are in force after some moves of a session;
* `inForce_eq_some_iff`: it is the last one that ended well;
* `exists_loadsFile`: the file that a text of a load is from;
* `loadOf_enable`, `loadOf_disable`: the texts of loads;
* `rules_in_force`: the rules in force after every step of a session.
-/

namespace Killswitch

open Killswitch.Action

/-! ## Loads in a journal -/

namespace Journal

/-- The texts of the files that were loaded. A file that could not be opened has none. -/
def loads (j : Journal) : List (Option String) :=
  j.calls.filterMap (fun c =>
    match c with
    | .load _ text => some text
    | _ => none)

theorem loads_append
    (j k : Journal) :
    loads (j ++ k) = loads j ++ loads k := by
  simp [loads]

theorem mem_loads
    {j : Journal} {text : Option String} :
    text ∈ j.loads ↔ ∃ arguments, Call.load arguments text ∈ j.calls := by
  simp only [loads, List.mem_filterMap]
  constructor
  · rintro ⟨c, hc, htext⟩
    cases c with
    | load arguments content =>
        obtain rfl := Option.some.inj htext
        exact ⟨arguments, hc⟩
    | resolve name =>
        contradiction
    | locate binary =>
        contradiction
    | run arguments limit =>
        contradiction
  · rintro ⟨arguments, hc⟩
    exact ⟨_, hc, rfl⟩

theorem loads_eq_nil_iff
    {j : Journal} :
    j.loads = [] ↔ ¬ j.Loads := by
  simp only [List.eq_nil_iff_forall_not_mem, mem_loads, Loads, not_exists]
  exact forall_comm

end Journal

/-- A run has ended by itself, and well. -/
def Run.endsWell : Run → Bool
  | .ended code _ _ => code = 0
  | _ => false

namespace Lock

/-! ## The load of a step -/

/-- A load that has ended well: the step that asked for it, the host that the step was taken on, and the
text that the filter has read. -/
structure Load where
  step : Step
  host : Host
  text : String

/-- The load of a step that is taken on a machine, if there is one that ends well. -/
def loadOf (binary : String) (m : Machine) (s : Step) : Option Load :=
  if m.host.load.endsWell then
    (((s.run binary).observe m).1.journal.loads.getLast?.join).map (fun text => ⟨s, m.host, text⟩)
  else none

/-- The load whose rules are in force after some moves, where those of `active` were before them. -/
def inForce (binary : String) : Machine → Option Load → List Move → Option Load
  | _, active, [] => active
  | m, active, .change c :: rest => inForce binary { m with host := c m.host } active rest
  | m, active, .step s :: rest =>
      inForce binary ((s.run binary).observe m).2 ((loadOf binary m s).or active) rest

section Places

variable {binary : String} {m : Machine} {active : Option Load} {before after : List Move}

theorem inForce_append
    (binary : String) (m : Machine) (active : Option Load) (before after : List Move) :
    inForce binary m active (before ++ after)
      = inForce binary (reached binary m before) (inForce binary m active before) after := by
  induction before generalizing m active with
  | nil =>
      rfl
  | cons move before ih =>
      cases move with
      | step s =>
          exact ih _ _
      | change c =>
          exact ih _ _

theorem inForce_append_step
    (binary : String) (m : Machine) (active : Option Load) (before : List Move) (s : Step) :
    inForce binary m active (before ++ [.step s])
      = (loadOf binary (reached binary m before) s).or (inForce binary m active before) := by
  rw [inForce_append]
  rfl

/-- A change of the world leaves the rules in force, whatever becomes of the files they were read from. -/
theorem inForce_append_change
    (binary : String) (m : Machine) (active : Option Load) (before : List Move) (c : Host → Host) :
    inForce binary m active (before ++ [.change c]) = inForce binary m active before := by
  rw [inForce_append]
  rfl

/-- No step among some moves has a load that ends well. -/
def Idle (binary : String) : Machine → List Move → Prop
  | _, [] => True
  | m, .change c :: rest => Idle binary { m with host := c m.host } rest
  | m, .step s :: rest => loadOf binary m s = none ∧ Idle binary ((s.run binary).observe m).2 rest

theorem idle_append :
    Idle binary m (before ++ after)
      ↔ Idle binary m before ∧ Idle binary (reached binary m before) after := by
  induction before generalizing m with
  | nil =>
      simp [Idle, reached]
  | cons move before ih =>
      cases move with
      | step s =>
          simp only [List.cons_append, Idle, reached, ih, and_assoc]
      | change c =>
          exact ih

theorem inForce_of_idle
    (hidle : Idle binary m after) :
    inForce binary m active after = active := by
  induction after generalizing m with
  | nil =>
      rfl
  | cons move after ih =>
      cases move with
      | step s =>
          obtain ⟨hs, hrest⟩ := hidle
          rw [inForce, hs, Option.none_or]
          exact ih hrest
      | change c =>
          exact ih hidle

theorem loadOf_eq_some_iff
    {s : Step} {load : Load} :
    loadOf binary m s = some load
      ↔ m.host.load.endsWell = true
        ∧ ((s.run binary).observe m).1.journal.loads.getLast? = some (some load.text)
        ∧ load = ⟨s, m.host, load.text⟩ := by
  unfold loadOf
  constructor
  · intro h
    split at h
    · rename_i hwell
      obtain ⟨text, htext, rfl⟩ := Option.map_eq_some_iff.1 h
      exact ⟨hwell, Option.join_eq_some_iff.1 htext, rfl⟩
    · contradiction
  · rintro ⟨hwell, hlast, hload⟩
    rw [if_pos hwell, hlast, hload]
    rfl

/-- The rules in force are those of the last load that has ended well. -/
theorem inForce_eq_some_iff
    {moves : List Move} {load : Load} :
    inForce binary m none moves = some load
      ↔ ∃ before after, moves = before ++ .step load.step :: after
          ∧ loadOf binary (reached binary m before) load.step = some load
          ∧ Idle binary (reached binary m (before ++ [.step load.step])) after := by
  constructor
  · intro h
    -- from the end: either the last move has set the rules, or they are those before it
    induction moves using List.reverseRecOn with
    | nil =>
        contradiction
    | append_singleton moves move ih =>
        cases move with
        | change c =>
            rw [inForce_append_change] at h
            obtain ⟨before, after, rfl, hload, hidle⟩ := ih h
            refine ⟨before, after ++ [.change c], by simp, hload, ?_⟩
            exact idle_append.2 ⟨hidle, trivial⟩
        | step s =>
            rw [inForce_append_step] at h
            cases hs : loadOf binary (reached binary m moves) s with
            | some last =>
                obtain rfl : last = load := by simpa [hs] using h
                obtain ⟨-, -, hlast⟩ := loadOf_eq_some_iff.1 hs
                have hstep : s = last.step := (congrArg Load.step hlast).symm
                subst hstep
                exact ⟨moves, [], rfl, hs, trivial⟩
            | none =>
                rw [hs, Option.none_or] at h
                obtain ⟨before, after, rfl, hload, hidle⟩ := ih h
                rw [List.append_cons, reached_append] at hs
                have hidle' : Idle binary (reached binary m (before ++ [.step load.step]))
                    (after ++ [.step s]) :=
                  idle_append.2 ⟨hidle, And.intro hs trivial⟩
                exact ⟨before, after ++ [.step s], by simp, hload, hidle'⟩
  · rintro ⟨before, after, rfl, hload, hidle⟩
    rw [List.append_cons, inForce_append, inForce_append_step, hload, Option.some_or]
    exact inForce_of_idle hidle

end Places

/-! ## The texts of loads -/

section Texts

variable {binary : String} {m : Machine} {s : Step} {p : Policy}

/-- A step whose loads all have one text puts that text into force. -/
theorem loadOf_of_text
    {text : String}
    (hwell : m.host.load.endsWell = true)
    (hloads : ((s.run binary).observe m).1.journal.Loads)
    (htext : ∀ t ∈ ((s.run binary).observe m).1.journal.loads, t = some text) :
    loadOf binary m s = some ⟨s, m.host, text⟩ := by
  refine loadOf_eq_some_iff.2 ⟨hwell, ?_, rfl⟩
  cases hlast : ((s.run binary).observe m).1.journal.loads.getLast? with
  | none =>
      have hnil := List.getLast?_eq_none_iff.1 hlast
      exact absurd hloads (Journal.loads_eq_nil_iff.1 hnil)
  | some t =>
      rw [htext t (List.mem_of_getLast? hlast)]

theorem loadOf_of_not_loads
    (hnot : ¬ ((s.run binary).observe m).1.journal.Loads) :
    loadOf binary m s = none := by
  unfold loadOf
  rw [Journal.loads_eq_nil_iff.2 hnot]
  split <;> rfl

/-- A text that is loaded by a step that switches the lock is from the file that the control program was told. -/
theorem exists_loadsFile
    {text : Option String}
    (hs : s.Switches p)
    (h : text ∈ ((s.run binary).observe m).1.journal.loads) :
    ∃ program file, m.host.programs.lookup binary = some program
      ∧ s.LoadsFile m.standing file text
      ∧ .load (Engine.loadCommand program file) text ∈ ((s.run binary).observe m).1.journal.calls := by
  obtain ⟨arguments, hload⟩ := Journal.mem_loads.1 h
  obtain ⟨program, file, hprogram, rfl, hfile⟩ := loadsFile_of_mem binary m [] hs hload
  exact ⟨program, file, hprogram, hfile, hload⟩

/-- What is loaded where the lock is put on is what the ruleset file holds. -/
theorem text_of_enable
    {text : Option String}
    (h : text ∈ (((Step.enable p).run binary).observe m).1.journal.loads) :
    text = Engine.textOf (m.standing.holding (rulesBytes p)).host m.standing.nextPath := by
  obtain ⟨program, file, -, hfile, -⟩ := exists_loadsFile (.inl rfl) h
  cases hfile
  rfl

/-- What is loaded where the lock is taken off is what the baseline holds. -/
theorem text_of_disable
    {text : Option String}
    (h : text ∈ (((Step.disable p).run binary).observe m).1.journal.loads) :
    text = Engine.textOf m.host p.baseline := by
  obtain ⟨program, file, -, hfile, -⟩ := exists_loadsFile (.inr rfl) h
  cases hfile
  rfl

/-- The text of a ruleset that was written to a file and read from it is the same. -/
theorem ofList_decodeLossy_rulesBytes
    (p : Policy) :
    String.ofList (Text.Utf8.decodeLossy (rulesBytes p)) = p.ruleset := by
  rw [rulesBytes, Text.Utf8.decodeLossy_encode, String.ofList_toList]

theorem loadOf_enable
    {load : Load}
    (h : loadOf binary m (.enable p) = some load) :
    load.text = p.ruleset := by
  obtain ⟨-, hlast, -⟩ := loadOf_eq_some_iff.1 h
  have htext := text_of_enable (List.mem_of_getLast? hlast)
  rw [eq_of_textOf_holding htext.symm, ofList_decodeLossy_rulesBytes]

theorem loadOf_disable
    {load : Load}
    (h : loadOf binary m (.disable p) = some load) :
    Engine.textOf m.host p.baseline = some load.text := by
  obtain ⟨-, hlast, -⟩ := loadOf_eq_some_iff.1 h
  exact (text_of_disable (List.mem_of_getLast? hlast)).symm

end Texts

/-! ## Steps without loads -/

theorem unconcerned_loads :
    Unconcerned (fun m => m.journal.loads) where
  located _ _ := rfl
  remark m _ _ := (Journal.loads_append m.journal _).trans (List.append_nil _)
  locate m _ := (Journal.loads_append m.journal _).trans (List.append_nil _)
  run m _ _ := (Journal.loads_append m.journal _).trans (List.append_nil _)

/-- A step that neither switches the lock nor loads a file itself loads nothing. -/
theorem Step.run_not_loads
    (binary : String) (m : Machine) {s : Step}
    (hswitch : ∀ p, ¬ s.Switches p)
    (hload : ∀ file, s ≠ .load file) :
    ¬ ((s.run binary).observe m).1.journal.Loads := by
  have hkeeps : Keeps (fun m => m.journal.loads) (s.run binary) := by
    cases s with
    | enable p =>
        exact absurd (.inl rfl) (hswitch p)
    | disable p =>
        exact absurd (.inr rfl) (hswitch p)
    | rules p =>
        exact .pure _
    | isEnabled =>
        exact (isEnabled_keeps unconcerned_loads binary).map _
    | probe =>
        exact (probe_keeps unconcerned_loads binary).map _
    | locate =>
        exact (Engine.locate_keeps unconcerned_loads binary).map _
    | status =>
        exact (Engine.status_keeps unconcerned_loads binary).map _
    | load file =>
        exact absurd rfl (hload file)
  exact Journal.loads_eq_nil_iff.1 (hkeeps { m with journal := [] })

/-! ## Sessions -/

/-- After every step of a session, the rules in force are the text of the last load that ended well. Where
it was that of a step that puts the lock on, it is the ruleset of the policy; where it was that of a step
that takes the lock off, it is what the baseline held then. In both cases the control program was told the
file that held it. A step that loads nothing leaves the rules in force, and so does every question, every
printing of rules and every change of the world. Putting the same lock on once more leaves them too. A load
that ends well does put its text into force, if its file can be opened. -/
theorem rules_in_force
    (binary : String) (m : Machine) (before : List Move) (s : Step) :
    let h := (reached binary m before).host
    let seen := seenAfter binary m before s
    let active := inForce binary m none before
    let now := inForce binary m none (before ++ [.step s])
    (∀ load, now = some load →
        ∃ earlier later, before ++ [.step s] = earlier ++ .step load.step :: later
          ∧ load.host = (reached binary m earlier).host
          ∧ Idle binary (reached binary m (earlier ++ [.step load.step])) later
          ∧ (∀ p, load.step = .enable p → load.text = p.ruleset)
          ∧ (∀ p, load.step = .disable p → Engine.textOf load.host p.baseline = some load.text)
          ∧ (∀ p, load.step = .enable p ∨ load.step = .disable p →
              ∃ program file, load.host.programs.lookup binary = some program
                ∧ load.step.LoadsFile (reached binary m earlier).standing file (some load.text)
                ∧ .load (Engine.loadCommand program file) (some load.text)
                    ∈ (seenAfter binary m earlier load.step).journal.calls))
      ∧ (¬ seen.journal.Loads → now = active)
      ∧ ((∀ p, s ≠ .enable p) → (∀ p, s ≠ .disable p) → (∀ file, s ≠ .load file) → now = active)
      ∧ (∀ c, inForce binary m none (before ++ [.change c]) = active)
      ∧ (∀ p last, active = some last → last.step = .enable p → s = .enable p →
          now.map Load.text = some last.text)
      ∧ (∀ p, s = .enable p → seen.journal.Loads → h.load.endsWell = true → h.HasScratchDirectory →
          now = some ⟨s, h, p.ruleset⟩)
      ∧ (∀ p text, s = .disable p → seen.journal.Loads → h.load.endsWell = true →
          Engine.textOf h p.baseline = some text → now = some ⟨s, h, text⟩) := by
  intro h seen active now
  have hnow : now = (loadOf binary (reached binary m before) s).or active :=
    inForce_append_step binary m none before s
  have hleft : loadOf binary (reached binary m before) s = none → now = active := by
    intro hnone
    rw [hnow, hnone, Option.none_or]
  have hset : ∀ load, loadOf binary (reached binary m before) s = some load → now = some load := by
    intro load hload
    rw [hnow, hload, Option.some_or]
  refine ⟨?_, ?_, ?_, ?_, ?_, ?_, ?_⟩
  · intro load hload
    obtain ⟨earlier, later, hmoves, hthen, hidle⟩ := inForce_eq_some_iff.1 hload
    obtain ⟨-, -, hsame⟩ := loadOf_eq_some_iff.1 hthen
    have hhost : load.host = (reached binary m earlier).host := congrArg Load.host hsame
    refine ⟨earlier, later, hmoves, hhost, hidle, ?_, ?_, ?_⟩
    · intro p hp
      exact loadOf_enable (hp ▸ hthen)
    · intro p hp
      rw [hhost]
      exact loadOf_disable (hp ▸ hthen)
    · intro p hp
      rw [hhost]
      obtain ⟨-, hlast, -⟩ := loadOf_eq_some_iff.1 hthen
      exact exists_loadsFile hp (List.mem_of_getLast? hlast)
  · intro hnot
    exact hleft (loadOf_of_not_loads hnot)
  · intro henable hdisable hload
    refine hleft (loadOf_of_not_loads (Step.run_not_loads binary _ ?_ hload))
    rintro p (hp | hp)
    · exact henable p hp
    · exact hdisable p hp
  · intro c
    exact inForce_append_change binary m none before c
  · intro p last hactive hlast hs
    -- both texts are the ruleset of the policy, so nothing is said about what the second load has replaced
    obtain ⟨_, _, -, hthen, -⟩ := inForce_eq_some_iff.1 hactive
    have hbefore : last.text = p.ruleset := loadOf_enable (hlast ▸ hthen)
    cases hload : loadOf binary (reached binary m before) s with
    | none =>
        rw [hleft hload, hactive]
        rfl
    | some load =>
        rw [hset load hload, Option.map_some, hbefore, loadOf_enable (hs ▸ hload)]
  · rintro p rfl hloads hwell hdir
    refine hset _ (loadOf_of_text hwell hloads (fun t ht => ?_))
    rw [text_of_enable ht, textOf_holding (rulesBytes p) hdir, ofList_decodeLossy_rulesBytes]
  · rintro p text rfl hloads hwell htext
    refine hset _ (loadOf_of_text hwell hloads (fun t ht => ?_))
    rw [text_of_disable ht]
    exact htext

/-- On a host that grants everything, the ruleset of a policy is in force once its lock was put on. -/
theorem obligingHost_in_force :
    inForce "pfctl" (.ofHost obligingHost) none [.step (.enable strictPolicy)]
      = some ⟨.enable strictPolicy, obligingHost, strictPolicy.ruleset⟩ := by
  have hloads : (seenAfter "pfctl" (.ofHost obligingHost) [] (.enable strictPolicy)).journal.Loads :=
    (loads_iff "pfctl" (.ofHost obligingHost) [] (.inl rfl)).1.2
      ⟨obligingHost_cleared, fun _ => ⟨rfl, rfl⟩⟩
  obtain ⟨-, -, -, -, -, henable, -⟩ :=
    rules_in_force "pfctl" (.ofHost obligingHost) [] (.enable strictPolicy)
  exact henable strictPolicy rfl hloads rfl ⟨none, rfl⟩

end Lock
end Killswitch
