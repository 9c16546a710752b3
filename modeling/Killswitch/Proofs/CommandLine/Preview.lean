import Killswitch.Proofs.CommandLine.Enable
import Killswitch.Proofs.Text.Utf8

/-!
# What is printed is what is loaded

Two commands take the same options: one prints the rules of a policy, the other one loads them. Both build
the policy on the host as they find it. The rules are loaded from a file whose bytes spell them, so that
the filter reads the text that would have been printed.

**Results.**
* `parse_globals`, `ofWords_globals`: the words in front of a command are read alike for every command;
* `print_runs_of_ok`, `print_runs_of_error`: the run that prints the rules;
* `exists_runs_of_work`, `exists_enable_runs`: the requests for a policy, then those of the work with it;
* `LoadsRules`, `enable_loadsRules`: what is loaded by the run that puts the lock on;
* `print_seen`, `enable_seen`: what is seen of both command lines;
* `enable_loads_printed`: the text that is loaded is the text that is printed.
-/

namespace Killswitch
namespace CommandLine

open Killswitch.Action

/-! ## The words in front of a command -/

section Globals

variable {Key : Type} {forms : List (Form Key)} {w w' : String} {globals rest rest' : List String}

/-- Reading words leaves no more of them. -/
theorem length_rest_le
    {words : List String} {awaited : Awaited Key} {p : Parsed Key}
    (hp : parse forms false awaited words = .ok p) :
    p.rest.length ≤ words.length := by
  induction words generalizing awaited p with
  | nil =>
      cases awaited with
      | none =>
          obtain rfl := Except.ok.inj hp
          exact Nat.le_refl _
      | some named =>
          simp [parse] at hp
  | cons word words ih =>
      cases awaited with
      | some named =>
          rw [parse, map_eq_ok_iff] at hp
          obtain ⟨q, hq, rfl⟩ := hp
          exact Nat.le_succ_of_le (show q.rest.length ≤ words.length from ih hq)
      | none =>
          rw [parse] at hp
          split at hp
          · obtain rfl := Except.ok.inj hp
            exact Nat.le_succ _
          · split at hp
            · obtain ⟨⟨given, awaited⟩, -, hmap⟩ := bind_eq_ok_iff.1 hp
              obtain ⟨q, hq, rfl⟩ := map_eq_ok_iff.1 hmap
              exact Nat.le_succ_of_le (show q.rest.length ≤ words.length from ih hq)
            · obtain rfl := Except.ok.inj hp
              exact Nat.le_refl _

/-- A word that ends the options: it starts with no dash. -/
def IsWord (w : String) : Prop :=
  w ≠ "--" ∧ isOption w = false

theorem parse_word
    (hw : IsWord w) :
    parse forms false none (w :: rest) = .ok ⟨[], w :: rest⟩ := by
  rw [parse, if_neg hw.1, if_neg (by simp [hw.2])]
  rfl

/-- Where a word is left, no value was awaited: it would have been that value. -/
theorem awaited_eq_none
    {awaited : Awaited Key} {given : List (Key × Option String)}
    (hp : parse forms false awaited (w :: rest) = .ok ⟨given, w :: rest⟩) :
    awaited = none := by
  cases awaited with
  | none =>
      rfl
  | some named =>
      rw [parse, map_eq_ok_iff] at hp
      obtain ⟨q, hq, hafter⟩ := hp
      have hshort := length_rest_le hq
      have hrest : q.rest = w :: rest := congrArg Parsed.rest hafter
      rw [hrest, List.length_cons] at hshort
      omega

/-- The options in front of a word are read alike in front of another word, whatever comes behind it. -/
theorem parse_globals
    {awaited : Awaited Key} {given : List (Key × Option String)}
    (hw : IsWord w) (hw' : IsWord w')
    (hp : parse forms false awaited (globals ++ w :: rest) = .ok ⟨given, w :: rest⟩) :
    parse forms false awaited (globals ++ w' :: rest') = .ok ⟨given, w' :: rest'⟩ := by
  induction globals generalizing awaited given with
  | nil =>
      rw [List.nil_append] at hp
      obtain rfl := awaited_eq_none hp
      rw [parse_word hw] at hp
      obtain ⟨rfl, -⟩ := Parsed.mk.inj (Except.ok.inj hp)
      exact parse_word hw'
  | cons g globals ih =>
      have hafter : ∀ {awaited : Awaited Key} {more : List (Key × Option String)},
          Parsed.after more <$> parse forms false awaited (globals ++ w :: rest)
            = .ok ⟨given, w :: rest⟩ →
          Parsed.after more <$> parse forms false awaited (globals ++ w' :: rest')
            = .ok ⟨given, w' :: rest'⟩ := by
        intro awaited more hmap
        obtain ⟨⟨read, left⟩, hq, heq⟩ := map_eq_ok_iff.1 hmap
        obtain ⟨hgiven, hleft⟩ := Parsed.mk.inj heq
        obtain rfl : left = w :: rest := hleft
        rw [ih hq, ← hgiven]
        rfl
      cases awaited with
      | some named =>
          rw [List.cons_append, parse] at hp ⊢
          exact hafter hp
      | none =>
          rw [List.cons_append, parse] at hp ⊢
          split at hp
          · -- the options end here, so that the word comes next
            rename_i hend
            obtain ⟨rfl, hleft⟩ := Parsed.mk.inj (Except.ok.inj hp)
            have hempty : globals = [] := by
              have hlength := congrArg List.length hleft
              simpa using hlength
            subst hempty
            rw [if_pos hend]
            rfl
          · rename_i hend
            rw [if_neg hend]
            split at hp
            · rename_i hoption
              rw [if_pos hoption]
              obtain ⟨⟨more, awaited⟩, hread, hmap⟩ := bind_eq_ok_iff.1 hp
              rw [hread]
              exact hafter hmap
            · -- a word that is no option would be left in front of the other one
              have hleft := (Parsed.mk.inj (Except.ok.inj hp)).2
              have hlength := congrArg List.length hleft
              simp only [List.length_cons, List.length_append] at hlength
              omega

end Globals

/-- What is made of the options in front of a command. -/
def Request.ofParsed (h : Host) (p : Parsed GlobalKey) : Except Refusal Request := do
  match firstQuestion? p with
  | some question => throw question
  | none => pure ()
  match p.value? .policy with
  | some path => checkPath h true "'--policy' / '-p'" path
  | none => pure ()
  return ⟨p.value? .policy, p.has .verbose, p.rest⟩

theorem Request.ofWords_eq (h : Host) (words : List String) :
    Request.ofWords h words
      = (parse globalForms false none words).mapError Refusal.misuse >>= Request.ofParsed h := by
  rfl

/-- Only the words that are left tell what is asked for behind the same options. -/
theorem Request.ofParsed_rest
    {h : Host} {given : List (GlobalKey × Option String)} {left : List String}
    {request : Request} (left' : List String)
    (hrequest : Request.ofParsed h ⟨given, left⟩ = .ok request) :
    request.words = left
      ∧ Request.ofParsed h ⟨given, left'⟩ = .ok { request with words := left' } := by
  have hquestion : firstQuestion? ⟨given, left'⟩ = firstQuestion? ⟨given, left⟩ := rfl
  have hvalue : Parsed.value? ⟨given, left'⟩ .policy = Parsed.value? ⟨given, left⟩ .policy := rfl
  unfold Request.ofParsed at hrequest ⊢
  rw [hquestion, hvalue]
  cases hq : firstQuestion? ⟨given, left⟩ with
  | some question =>
      rw [hq] at hrequest
      contradiction
  | none =>
      rw [hq] at hrequest
      cases hpath : Parsed.value? ⟨given, left⟩ .policy with
      | none =>
          rw [hpath] at hrequest
          obtain rfl := Except.ok.inj hrequest
          exact ⟨rfl, rfl⟩
      | some path =>
          rw [hpath] at hrequest
          obtain ⟨_, hcheck, heq⟩ :=
            (bind_eq_ok_iff (x := checkPath h true "'--policy' / '-p'" path)).1 hrequest
          obtain rfl := Except.ok.inj heq
          exact ⟨rfl, bind_eq_ok_iff.2 ⟨_, hcheck, rfl⟩⟩

/-- The words in front of a command ask for the same, whatever the command is. -/
theorem ofWords_globals
    {h : Host} {globals rest rest' : List String} {w w' : String} {policyFile : Option String}
    {verbose : Bool}
    (hw : IsWord w) (hw' : IsWord w')
    (hrequest : Request.ofWords h (globals ++ w :: rest) = .ok ⟨policyFile, verbose, w :: rest⟩) :
    Request.ofWords h (globals ++ w' :: rest') = .ok ⟨policyFile, verbose, w' :: rest'⟩ := by
  rw [Request.ofWords_eq, bind_eq_ok_iff] at hrequest
  obtain ⟨⟨given, left⟩, hparsed, hread⟩ := hrequest
  obtain ⟨hleft, hother⟩ := Request.ofParsed_rest (w' :: rest') hread
  obtain rfl : w :: rest = left := hleft
  cases hparse : parse globalForms false none (globals ++ w :: rest) with
  | error text =>
      rw [hparse] at hparsed
      contradiction
  | ok p =>
      rw [hparse] at hparsed
      obtain rfl := Except.ok.inj hparsed
      rw [Request.ofWords_eq, parse_globals hw hw' hparse]
      exact hother

/-! ## Printing -/

section Printing

variable {c : Context} {f : Flags} {s : Standing} {p : Policy}

/-- Where there is a policy, its rules are printed. -/
theorem print_runs_of_ok
    (hp : answer (policyOf c f) s.host = .ok p) :
    ∃ d, Runs (Command.print.run c f) s (.ok 0) s d
      ∧ d.output = Screen.withoutSequences p.ruleset := by
  have hpolicy := (policyOf_consults c f).runs s
  rw [hp] at hpolicy
  obtain ⟨_, asked, hdeeds, -, -⟩ := calls_policyOf c f s.host
  have hprint : Runs (print c f) s (.ok 0) s
      (Journal.ofCalls asked ++ [.output (Screen.withoutSequences p.ruleset)]) :=
    (hdeeds ▸ hpolicy).bind (Runs.bind (e := []) (Runs.write _) (.pure 0))
  refine ⟨_, Command.run_runs .print hprint, ?_⟩
  rw [Journal.output_append, Journal.output_ofCalls, String.empty_append]
  exact Journal.output_singleton _

/-- Where there is no policy, printing ends with the code of a failure. -/
theorem print_runs_of_error
    {e : Failure}
    (hp : answer (policyOf c f) s.host = .error e) :
    ∃ o d, Runs (Command.print.run c f) s o s d ∧ ∀ code, o = .ok code → code = failureCode := by
  have hpolicy := (policyOf_consults c f).runs s
  rw [hp] at hpolicy
  have hprint : Runs (print c f) s (.error e) s (entries (policyOf c f) s.host).deeds :=
    hpolicy.bind_error
  exact ⟨_, _, Command.run_runs .print hprint, fun code hcode => answer_settle_error hcode⟩

end Printing

/-! ## Loading -/

section Loading

variable {c : Context} {f : Flags} {s : Standing} {p : Policy}

/-- An entry that requests nothing. -/
def NoRequest (e : Event) : Prop :=
  ∀ call, e ≠ .call call

theorem noRequest_of_quiet
    {e : Event} (he : e.Quiet) :
    NoRequest e := by
  rintro call rfl
  contradiction

theorem calls_eq_nil
    {j : Journal} (hj : ∀ e ∈ j, NoRequest e) :
    j.calls = [] := by
  refine List.filterMap_eq_nil_iff.2 (fun e he => ?_)
  cases e with
  | call call =>
      exact absurd rfl (hj _ he call)
  | remark r =>
      rfl
  | notice text =>
      rfl
  | output text =>
      rfl
  | removal path =>
      rfl

/-- What is told of a success requests nothing. -/
theorem tellSuccess_consults (p : Policy) :
    Consults NoRequest (tellSuccess p) :=
  ((display_consults _).mono (fun _ => noRequest_of_quiet)).bind (fun _ =>
    (Consults.enter (by simp [NoRequest])).bind (fun _ => .pure _))

/-- The text of the ruleset file of a policy when it is loaded. -/
def loadedText (p : Policy) (s : Standing) : Option String :=
  Engine.textOf (s.holding (Lock.rulesBytes p)).host s.nextPath

/-- Among some requests, the ruleset file of the policy is loaded and nothing else: only where that file can
be created, and always where all checks hold and it can be made. The control program that is found is told the
path of the file. -/
structure LoadsRules (c : Context) (f : Flags) (s : Standing) (calls : List Call) : Prop where
  only : ∀ arguments text, .load arguments text ∈ calls →
    s.host.scratch.create = none
      ∧ (∃ program, s.host.programs.lookup c.settings.binary = some program
        ∧ arguments = Engine.loadCommand program s.nextPath)
      ∧ ∃ p, answer (policyOf c f) s.host = .ok p ∧ text = loadedText p s
  always : ∀ p program, answer (policyOf c f) s.host = .ok p → Lock.Cleared c.settings.binary p s.host →
    s.host.programs.lookup c.settings.binary = some program →
    s.host.scratch.create = none → s.host.scratch.write = none →
    .load (Engine.loadCommand program s.nextPath) (loadedText p s) ∈ calls

/-- Where there is no policy, asking for it loads nothing. -/
theorem loadsRules_of_error
    {e : Failure} {calls : List Call}
    (hp : answer (policyOf c f) s.host = .error e)
    (hasks : OnlyAsks calls) :
    LoadsRules c f s calls where
  only := fun _ _ hload => absurd hload (not_load_mem_of_onlyAsks hasks)
  always := fun p program hp' => by
    rw [hp] at hp'
    contradiction

/-- Where there is a policy, the requests for it are followed by those of putting the lock on. -/
theorem loadsRules_of_course
    {asked calls : List Call} {o : Except Failure Lock.State} {t : Standing}
    (hp : answer (policyOf c f) s.host = .ok p)
    (hasks : OnlyAsks asked)
    (hcourse : Lock.EnableCourse c.settings.binary p s o t calls) :
    LoadsRules c f s (asked ++ calls) where
  only := by
    intro arguments text hload
    have hmem := (List.mem_append.1 hload).resolve_left (not_load_mem_of_onlyAsks hasks)
    obtain ⟨-, hcreate, -⟩ := hcourse.loads_iff.1 ⟨arguments, text, hmem⟩
    obtain ⟨program, hprogram, harguments, htext⟩ := hcourse.load_eq hmem
    exact ⟨hcreate, ⟨program, hprogram, harguments⟩, p, hp, htext⟩
  always := by
    intro p' program hp' hcleared hprogram hcreate hwrite
    obtain rfl := Except.ok.inj (hp.symm.trans hp')
    obtain ⟨arguments, text, hload⟩ := hcourse.loads_iff.2 ⟨hcleared, hcreate, hwrite⟩
    obtain ⟨program', hprogram', rfl, rfl⟩ := hcourse.load_eq hload
    obtain rfl := Option.some.inj (hprogram.symm.trans hprogram')
    exact List.mem_append_right asked hload

/-- A command that makes a policy, works with it, and tells of its success has the requests for the policy,
and those of the work where there is a policy. -/
theorem exists_runs_of_work
    {policy : Action Policy} {work : Policy → Action Lock.State} {tell : Policy → Action Nat}
    {course : Policy → List Call → Prop}
    (hpolicy : Consults Event.Any policy)
    (htell : ∀ p, Consults NoRequest (tell p))
    (hwork : ∀ p, ∃ (o : Except Failure Lock.State) (t : Standing) (calls : List Call),
      Runs (work p) s o t (Journal.ofCalls calls) ∧ course p calls) :
    ∃ (o : Except Failure Nat) (t : Standing) (d : Journal),
      Runs (policy >>= fun p => work p >>= fun _ => tell p) s o t d
        ∧ ((∃ e, answer policy s.host = .error e ∧ d.calls = (entries policy s.host).calls)
          ∨ ∃ p calls, answer policy s.host = .ok p ∧ course p calls
            ∧ d.calls = (entries policy s.host).calls ++ calls) := by
  have hmade := hpolicy.runs s
  cases hp : answer policy s.host with
  | error e =>
      rw [hp] at hmade
      exact ⟨_, _, _, hmade.bind_error, .inl ⟨e, rfl, Journal.calls_deeds _⟩⟩
  | ok p =>
      rw [hp] at hmade
      obtain ⟨o, t, calls, hrun, hcourse⟩ := hwork p
      cases o with
      | error e =>
          refine ⟨_, _, _, hmade.bind hrun.bind_error, .inr ⟨p, calls, rfl, hcourse, ?_⟩⟩
          rw [Journal.calls_append, Journal.calls_deeds, Journal.calls_ofCalls]
      | ok state =>
          have htold := (htell p).runs t
          refine ⟨_, _, _, hmade.bind (hrun.bind htold), .inr ⟨p, calls, rfl, hcourse, ?_⟩⟩
          rw [Journal.calls_append, Journal.calls_append, Journal.calls_deeds, Journal.calls_ofCalls,
            Journal.calls_deeds, calls_eq_nil ((htell p).entries_allowed t.host), List.append_nil]

/-- Putting the lock on has the requests for the policy, and those of a course where there is one. -/
theorem exists_enable_runs
    (c : Context) (f : Flags) (s : Standing) :
    ∃ (o : Except Failure Nat) (t : Standing) (d : Journal) (asked : List Call),
      Runs (enable c f) s o t d
        ∧ OnlyAsks asked
        ∧ ((∃ e, answer (policyOf c f) s.host = .error e ∧ d.calls = asked)
          ∨ ∃ p calls o t, answer (policyOf c f) s.host = .ok p
            ∧ Lock.EnableCourse c.settings.binary p s o t calls
            ∧ d.calls = asked ++ calls) := by
  obtain ⟨names, asked, hdeeds, hleads, -⟩ := calls_policyOf c f s.host
  have hasked : (entries (policyOf c f) s.host).calls = asked := by
    rw [← Journal.calls_deeds, hdeeds, Journal.calls_ofCalls]
  have hwork : ∀ p, ∃ o t calls, Runs (Lock.enable c.settings.binary p) s o t (Journal.ofCalls calls)
      ∧ ∃ o t, Lock.EnableCourse c.settings.binary p s o t calls := by
    intro p
    obtain ⟨o, t, calls, hcourse⟩ := Lock.exists_enableCourse c.settings.binary p s
    exact ⟨o, t, calls, hcourse.runs, o, t, hcourse⟩
  obtain ⟨o, t, d, hrun, hend⟩ :=
    exists_runs_of_work (policyOf_consults c f) tellSuccess_consults hwork
  refine ⟨o, t, d, asked, hrun, onlyAsks_of_prefix hleads, ?_⟩
  rcases hend with ⟨e, hp, hd⟩ | ⟨p, calls, hp, ⟨o', t', hcourse⟩, hd⟩
  · exact .inl ⟨e, hp, hd.trans hasked⟩
  · exact .inr ⟨p, calls, o', t', hp, hcourse, hasked ▸ hd⟩

/-- Putting the lock on loads the ruleset file of its policy. -/
theorem enable_loadsRules
    (c : Context) (f : Flags) (s : Standing) :
    ∃ (o : Except Failure Nat) (t : Standing) (d : Journal),
      Runs (enable c f) s o t d ∧ LoadsRules c f s d.calls := by
  obtain ⟨o, t, d, asked, hrun, hasks, ⟨e, hp, hd⟩ | ⟨p, calls, o', t', hp, hcourse, hd⟩⟩ :=
    exists_enable_runs c f s
  · exact ⟨o, t, d, hrun, hd ▸ loadsRules_of_error hp hasks⟩
  · exact ⟨o, t, d, hrun, hd ▸ loadsRules_of_course hp hasks hcourse⟩

/-- The text of a ruleset file is the ruleset, where the scratch directory is there. -/
theorem loadedText_eq
    (hdir : s.host.HasScratchDirectory) :
    loadedText p s = some p.ruleset := by
  rw [loadedText, Lock.textOf_holding _ hdir, Lock.rulesBytes, Text.Utf8.decodeLossy_encode,
    String.ofList_toList]

end Loading

/-! ## What is seen of both commands -/

section Seen

variable {m : Machine} {words rest : List String} {request : Request} {flags : Flags}

/-- The settings and the policy that a command line leads to on a host. -/
def Builds (request : Request) (flags : Flags) (h : Host) (settings : Settings) (p : Policy) : Prop :=
  Settings.ofHost h = .ok settings
    ∧ answer (policyOf ⟨settings, request.policyFile⟩ flags) h = .ok p

theorem Builds.unique
    {h : Host} {settings settings' : Settings} {p p' : Policy}
    (hp : Builds request flags h settings p)
    (hp' : Builds request flags h settings' p') :
    settings = settings' ∧ p = p' := by
  obtain rfl := Except.ok.inj (hp.1.symm.trans hp'.1)
  exact ⟨rfl, Except.ok.inj (hp.2.symm.trans hp'.2)⟩

/-- A command line that prints the rules writes them and ends with code zero where there is a policy, and
else ends with another code. -/
theorem print_seen
    (time : String)
    (hrequest : Request.ofWords m.host words = .ok request)
    (hwords : request.words = "print" :: rest)
    (hflags : Command.print.flags m.host rest = .ok flags) :
    (∃ settings p, Builds request flags m.host settings p
        ∧ (execute time words m).1.exitCode = 0
        ∧ (execute time words m).1.output = Screen.withoutSequences p.ruleset)
      ∨ ((∀ settings p, ¬ Builds request flags m.host settings p)
        ∧ (execute time words m).1.exitCode = failureCode) := by
  cases hsettings : Settings.ofHost m.host with
  | error e =>
      obtain ⟨-, -, -, hcode⟩ := execute_of_runs time (m := m)
        (run_runs_of_error .print hrequest hwords hflags hsettings)
      refine .inr ⟨fun settings p hbuilds => ?_, hcode e rfl⟩
      have hthere := hbuilds.1
      rw [hsettings] at hthere
      contradiction
  | ok settings =>
      cases hp : answer (policyOf ⟨settings, request.policyFile⟩ flags) m.host with
      | error e =>
          obtain ⟨o, d, hprint, hfailed⟩ :=
            print_runs_of_error (s := ⟨m.host, m.scratchFiles, none⟩) hp
          obtain ⟨-, -, hok, herror⟩ := execute_of_runs time
            (run_runs_of_ok .print hrequest hwords hflags hsettings hprint)
          refine .inr ⟨fun settings' p hbuilds => ?_, ?_⟩
          · obtain ⟨hsettings', hp'⟩ := hbuilds
            obtain rfl := Except.ok.inj (hsettings.symm.trans hsettings')
            rw [hp] at hp'
            contradiction
          · cases o with
            | ok code =>
                exact (hok code rfl).trans (hfailed code rfl)
            | error e' =>
                exact herror e' rfl
      | ok p =>
          obtain ⟨d, hprint, houtput⟩ := print_runs_of_ok (s := ⟨m.host, m.scratchFiles, none⟩) hp
          obtain ⟨-, hwritten, hok, -⟩ := execute_of_runs time
            (run_runs_of_ok .print hrequest hwords hflags hsettings hprint)
          exact .inl ⟨settings, p, ⟨hsettings, hp⟩, hok 0 rfl, hwritten.trans houtput⟩

/-- A command line that puts the lock on loads the ruleset file of its policy. -/
theorem enable_seen
    (time : String)
    (hrequest : Request.ofWords m.host words = .ok request)
    (hwords : request.words = "enable" :: rest)
    (hflags : Command.enable.flags m.host rest = .ok flags) :
    (∀ settings, Settings.ofHost m.host = .ok settings →
        LoadsRules ⟨settings, request.policyFile⟩ flags ⟨m.host, m.scratchFiles, none⟩
          (execute time words m).2.1.journal.calls)
      ∧ (∀ e, Settings.ofHost m.host = .error e →
        (execute time words m).2.1.journal.calls = []) := by
  constructor
  · intro settings hsettings
    obtain ⟨o, t, d, hrun, hloads⟩ :=
      enable_loadsRules ⟨settings, request.policyFile⟩ flags ⟨m.host, m.scratchFiles, none⟩
    obtain ⟨hcalls, -, -, -⟩ := execute_of_runs time
      (run_runs_of_ok .enable hrequest hwords hflags hsettings (Command.run_runs .enable hrun))
    rwa [hcalls]
  · intro e hsettings
    obtain ⟨hcalls, -, -, -⟩ := execute_of_runs time (m := m)
      (run_runs_of_error .enable hrequest hwords hflags hsettings)
    exact hcalls

/-- What such a command line loads is the ruleset file of its policy. -/
theorem rules_of_load
    (time : String) {arguments : List String} {text : Option String}
    (hrequest : Request.ofWords m.host words = .ok request)
    (hwords : request.words = "enable" :: rest)
    (hflags : Command.enable.flags m.host rest = .ok flags)
    (hload : .load arguments text ∈ (execute time words m).2.1.journal.calls) :
    m.host.scratch.create = none
      ∧ ∃ settings p program, Builds request flags m.host settings p
        ∧ text = loadedText p ⟨m.host, m.scratchFiles, none⟩
        ∧ m.host.programs.lookup settings.binary = some program
        ∧ arguments = Engine.loadCommand program (scratchPath (m.scratchFiles + 1)) := by
  obtain ⟨hsome, hnone⟩ := enable_seen time hrequest hwords hflags
  cases hsettings : Settings.ofHost m.host with
  | error e =>
      rw [hnone e hsettings] at hload
      contradiction
  | ok settings =>
      obtain ⟨hcreate, ⟨program, hprogram, harguments⟩, p, hp, htext⟩ :=
        (hsome settings hsettings).only arguments text hload
      exact ⟨hcreate, settings, p, program, ⟨hsettings, hp⟩, htext, hprogram, harguments⟩

end Seen

/-! ## The printed text is the loaded one -/

/-- What is printed is what is loaded. Behind the same words, on the same machine, a run that puts the lock
on loads no text but the one that a run that prints the rules writes, and that run ends with code zero.
Where it ends with code zero, the text is loaded if the checks of the policy hold and the ruleset file can be
created and written. It is loaded from the next scratch file, by the control program that is found.

It is assumed that the ruleset file is created in a scratch directory only, and that no sequence is cut out
of the rules when they are written. -/
theorem enable_loads_printed
    (time : String) {globals rest : List String} {policyFile : Option String} {verbose : Bool}
    {flags : Flags} {m : Machine}
    (hrequest : Request.ofWords m.host (globals ++ "enable" :: rest)
      = .ok ⟨policyFile, verbose, "enable" :: rest⟩)
    (hflags : Command.enable.flags m.host rest = .ok flags)
    (hscratch : m.host.scratch.create = none → m.host.HasScratchDirectory)
    (hecho : ∀ settings p, Settings.ofHost m.host = .ok settings →
      answer (policyOf ⟨settings, policyFile⟩ flags) m.host = .ok p →
      Screen.withoutSequences p.ruleset = p.ruleset) :
    let printed := (execute time (globals ++ "print" :: rest) m).1
    let calls := (execute time (globals ++ "enable" :: rest) m).2.1.journal.calls
    (∀ arguments text, .load arguments text ∈ calls →
        text = some printed.output ∧ printed.exitCode = 0
          ∧ ∃ settings program, Settings.ofHost m.host = .ok settings
            ∧ m.host.programs.lookup settings.binary = some program
            ∧ arguments = Engine.loadCommand program (scratchPath (m.scratchFiles + 1)))
      ∧ (printed.exitCode = 0 → ∃ settings p, Settings.ofHost m.host = .ok settings
        ∧ answer (policyOf ⟨settings, policyFile⟩ flags) m.host = .ok p
        ∧ printed.output = p.ruleset
        ∧ ∀ program, m.host.programs.lookup settings.binary = some program →
          m.host.user = 0 →
          m.host.holds (Path.ofString p.baseline) = .ok true →
          (∃ output errors, m.host.report = .ended 0 output errors
            ∧ Lock.saysEnabled output = true) →
          m.host.scratch.create = none →
          m.host.scratch.write = none →
          .load (Engine.loadCommand program (scratchPath (m.scratchFiles + 1)))
            (some printed.output) ∈ calls) := by
  intro printed calls
  have hother : Request.ofWords m.host (globals ++ "print" :: rest)
      = .ok ⟨policyFile, verbose, "print" :: rest⟩ :=
    ofWords_globals ⟨by decide, rfl⟩ ⟨by decide, rfl⟩ hrequest
  have hotherFlags : Command.print.flags m.host rest = .ok flags := hflags
  rcases print_seen time hother rfl hotherFlags with
    ⟨settings, p, hbuilds, hzero, houtput⟩ | ⟨hnone, hfailed⟩
  · have hprinted : printed.output = p.ruleset :=
      houtput.trans (hecho settings p hbuilds.1 hbuilds.2)
    refine ⟨fun arguments text hload => ?_, fun _ =>
      ⟨settings, p, hbuilds.1, hbuilds.2, hprinted, ?_⟩⟩
    · obtain ⟨hcreate, settings', p', program, hbuilds', htext, hprogram, harguments⟩ :=
        rules_of_load time hrequest rfl hflags hload
      obtain ⟨rfl, rfl⟩ := hbuilds.unique hbuilds'
      rw [hprinted, htext]
      exact ⟨loadedText_eq (hscratch hcreate), hzero, settings, program, hbuilds.1, hprogram, harguments⟩
    · intro program hprogram huser hbaseline hreport hcreate hwrite
      have hcleared : Lock.Cleared settings.binary p m.host :=
        Lock.cleared_iff.2 ⟨program, hprogram, huser, hbaseline, hreport⟩
      have hload := ((enable_seen time hrequest rfl hflags).1 settings hbuilds.1).always
        p program hbuilds.2 hcleared hprogram hcreate hwrite
      rw [loadedText_eq (hscratch hcreate)] at hload
      exact hprinted ▸ hload
  · refine ⟨fun arguments text hload => ?_, fun hzero => ?_⟩
    · obtain ⟨-, settings, p, program, hbuilds, -⟩ := rules_of_load time hrequest rfl hflags hload
      exact absurd hbuilds (hnone settings p)
    · rw [show printed.exitCode = failureCode from hfailed] at hzero
      contradiction

theorem obligingHost_settings :
    Settings.ofHost Lock.obligingHost = .ok plainSettings := by
  rfl

theorem obligingHost_policy :
    answer (policyOf ⟨plainSettings, none⟩ .empty) Lock.obligingHost = .ok Lock.strictPolicy := by
  rfl

/-- Where everything is granted, the rules are printed. -/
theorem obligingHost_prints :
    (execute "12:00:00" ["print"] (.ofHost Lock.obligingHost)).1.exitCode = 0 := by
  have hrequest : Request.ofWords Lock.obligingHost ["print"] = .ok ⟨none, false, ["print"]⟩ := rfl
  have hflags : Command.print.flags Lock.obligingHost [] = .ok .empty := rfl
  rcases print_seen "12:00:00" (m := .ofHost Lock.obligingHost) hrequest rfl hflags with
    ⟨settings, p, -, hzero, -⟩ | ⟨hnone, -⟩
  · exact hzero
  · exact absurd ⟨obligingHost_settings, obligingHost_policy⟩ (hnone plainSettings Lock.strictPolicy)

theorem obligingHost_loads_printed :
    .load ["/sbin/pfctl", "-F", "all", "-f", "/tmp/netlock.1.conf"]
        (some (execute "12:00:00" ["print"] (.ofHost Lock.obligingHost)).1.output)
      ∈ (execute "12:00:00" ["enable"] (.ofHost Lock.obligingHost)).2.1.journal.calls := by
  have hrequest : Request.ofWords Lock.obligingHost ([] ++ "enable" :: [])
      = .ok ⟨none, false, "enable" :: []⟩ := rfl
  have hflags : Command.enable.flags Lock.obligingHost [] = .ok .empty := rfl
  have hdir : Lock.obligingHost.HasScratchDirectory := ⟨none, rfl⟩
  have hunique : ∀ settings p, Settings.ofHost Lock.obligingHost = .ok settings →
      answer (policyOf ⟨settings, none⟩ .empty) Lock.obligingHost = .ok p →
      settings = plainSettings ∧ p = Lock.strictPolicy := by
    intro settings p hsettings hp
    obtain rfl := Except.ok.inj (obligingHost_settings.symm.trans hsettings)
    exact ⟨rfl, Except.ok.inj (hp.symm.trans obligingHost_policy)⟩
  obtain ⟨-, hloads⟩ := enable_loads_printed "12:00:00" (m := .ofHost Lock.obligingHost)
    hrequest hflags (fun _ => hdir)
    (fun settings p hsettings hp => by
      obtain ⟨-, rfl⟩ := hunique settings p hsettings hp
      exact Screen.withoutSequences_of_not_mem (by decide))
  obtain ⟨settings, p, hsettings, hp, -, hload⟩ := hloads obligingHost_prints
  obtain ⟨rfl, rfl⟩ := hunique settings p hsettings hp
  have hprogram : Lock.obligingHost.programs.lookup plainSettings.binary = some "/sbin/pfctl" := rfl
  have hbaseline : Lock.obligingHost.holds (Path.ofString Lock.strictPolicy.baseline) = .ok true := rfl
  have hloaded := hload _ hprogram rfl hbaseline ⟨"Status: Enabled", "", rfl, rfl⟩ rfl rfl
  simp only [List.nil_append] at hloaded
  exact hloaded

end CommandLine
end Killswitch
