import Killswitch.Policy.Document
import Killswitch.Proofs.Action.Pass
import Killswitch.Proofs.Yaml.Writing

/-!
# The entries of a policy document

A policy document is looked at entry by entry, in a fixed order, and the first entry at fault decides. An entry is
at fault if it is of the wrong kind, or if something has to be written out that holds an integer with too many
digits.

**Writing out.** The items of a list and the path of the baseline are taken as texts, and a value that should be a
truth value is shown in the diagnostic. All other faults of a document are found when its text is read, so that a
value by itself has none but these.

**Results.**
* `Faulty`, `check_eq_error_iff`: the faults of an entry, which are those that it is refused for;
* `ofDocument_eq_error_iff`, `ofDocument_ok_iff`: the documents that are refused, and those that are read;
* `Texts`, `strings_eq_ok_iff`: the texts that an entry stands for;
* `Reads`, `ofEntries_eq_ok_iff`: what the entries of a document ask for.
-/

namespace Killswitch
namespace PolicyDocument

open Killswitch.Action
open Yaml (Document Atom Letter UnlessLong)

/-- A text as the value of a document. -/
def textAtom (s : String) : Atom :=
  .text (Letter.ofChars s.toList)

/-! ## Faults -/

/-- An entry of a policy document by its key: a list of texts, a truth value, or a text. -/
inductive Entry where
  | list (key : String)
  | truth (key : String)
  | text (key : String)
  deriving DecidableEq

def Entry.key : Entry → String
  | .list key => key
  | .truth key => key
  | .text key => key

/-- The entries in the order in which they are looked at. -/
def order : List Entry :=
  [.list "ips", .list "hosts", .list "files", .truth "allow_incoming", .truth "allow_outgoing",
    .truth "allow_private_network", .truth "allow_icmp", .list "interfaces", .truth "use_routing",
    .text "default_conf"]

/-- What keeps an entry from being read. -/
inductive Faulty (d : Document) : Entry → Failure → Prop
  | notList {key : String} {place : Nat}
      (hentry : entry? d key = some place)
      (htext : ∀ s, d.value place ≠ .atom (.text s))
      (hlist : ∀ items, d.value place ≠ .list items) :
      Faulty d (.list key) (.notList key)
  | longItem {key : String} {place item : Nat} {items : List Nat}
      (hentry : entry? d key = some place)
      (hlist : d.value place = .list items)
      (hitem : item ∈ items)
      (hlong : d.HoldsLong item) :
      Faulty d (.list key) (.document .longIntegerText)
  | notTruth {key found : String} {place : Nat}
      (hentry : d.get? key = some place)
      (htruth : ∀ b, d.value place ≠ .atom (.truth b))
      (hshown : d.shown place = .ok found) :
      Faulty d (.truth key) (.notFlag key found)
  | longShown {key : String} {place : Nat}
      (hentry : d.get? key = some place)
      (htruth : ∀ b, d.value place ≠ .atom (.truth b))
      (hlong : d.HoldsLong place) :
      Faulty d (.truth key) (.document .longIntegerText)
  | longText {key : String} {place : Nat}
      (hentry : entry? d key = some place)
      (hlong : d.HoldsLong place) :
      Faulty d (.text key) (.document .longIntegerText)

section Reading

variable {d : Document} {key : String} {f : Failure}

theorem written_eq_error_iff
    {α : Type} {long : Prop} {x : Except Yaml.Fault α} (hx : UnlessLong long x) :
    x.mapError Failure.document = .error f ↔ long ∧ f = .document .longIntegerText := by
  cases hx with
  | written r hnone =>
      exact ⟨fun h => absurd h (by simp [Except.mapError]), fun h => absurd h.1 hnone⟩
  | refused hlong =>
      exact ⟨fun h => ⟨hlong, (Except.error.inj h).symm⟩, fun h => h.2 ▸ rfl⟩

theorem faulty_list_iff
    {place : Nat} (hentry : entry? d key = some place) :
    Faulty d (.list key) f ↔
      ((∀ s, d.value place ≠ .atom (.text s)) ∧ (∀ items, d.value place ≠ .list items) ∧ f = .notList key)
        ∨ ∃ items, d.value place = .list items ∧ (∃ item ∈ items, d.HoldsLong item)
          ∧ f = .document .longIntegerText := by
  constructor
  · intro h
    cases h with
    | notList hother htext hlist =>
        obtain rfl := Option.some.inj (hentry.symm.trans hother)
        exact .inl ⟨htext, hlist, rfl⟩
    | longItem hother hlist hitem hlong =>
        obtain rfl := Option.some.inj (hentry.symm.trans hother)
        exact .inr ⟨_, hlist, ⟨_, hitem, hlong⟩, rfl⟩
  · rintro (⟨htext, hlist, rfl⟩ | ⟨items, hlist, ⟨item, hitem, hlong⟩, rfl⟩)
    · exact .notList hentry htext hlist
    · exact .longItem hentry hlist hitem hlong

/-- A list of texts cannot be had if and only if its entry is at fault. -/
theorem strings_eq_error_iff :
    strings d key = .error f ↔ Faulty d (.list key) f := by
  unfold strings
  cases hentry : entry? d key with
  | none =>
      refine ⟨fun h => absurd h (by simp), fun h => ?_⟩
      cases h with
      | notList hother _ _ => simp [hentry] at hother
      | longItem hother _ _ _ => simp [hentry] at hother
  | some place =>
      rw [faulty_list_iff hentry]
      dsimp only
      split
      · rename_i s hvalue
        simp [hvalue]
      · rename_i items hvalue
        have hitems : UnlessLong (∃ item ∈ items, d.HoldsLong item) (items.mapM d.plain) :=
          .mapM (fun _ _ => Document.plain_unlessLong)
        unfold written
        rw [mapM_mapError, written_eq_error_iff hitems]
        simp [hvalue]
      · rename_i htext hlist
        constructor
        · intro h
          exact .inl ⟨htext, hlist, (Except.error.inj h).symm⟩
        · rintro (⟨-, -, rfl⟩ | ⟨items, hvalue, -, -⟩)
          · rfl
          · exact absurd hvalue (hlist items)

theorem faulty_truth_iff
    {place : Nat} (hentry : d.get? key = some place) :
    Faulty d (.truth key) f ↔
      (∀ b, d.value place ≠ .atom (.truth b))
        ∧ ((∃ found, d.shown place = .ok found ∧ f = .notFlag key found)
          ∨ (d.HoldsLong place ∧ f = .document .longIntegerText)) := by
  constructor
  · intro h
    cases h with
    | notTruth hother htruth hshown =>
        obtain rfl := Option.some.inj (hentry.symm.trans hother)
        exact ⟨htruth, .inl ⟨_, hshown, rfl⟩⟩
    | longShown hother htruth hlong =>
        obtain rfl := Option.some.inj (hentry.symm.trans hother)
        exact ⟨htruth, .inr ⟨hlong, rfl⟩⟩
  · rintro ⟨htruth, ⟨found, hshown, rfl⟩ | ⟨hlong, rfl⟩⟩
    · exact .notTruth hentry htruth hshown
    · exact .longShown hentry htruth hlong

/-- A truth value cannot be had if and only if its entry is at fault. -/
theorem flag_eq_error_iff :
    flag d key = .error f ↔ Faulty d (.truth key) f := by
  unfold flag
  cases hentry : d.get? key with
  | none =>
      refine ⟨fun h => absurd h (by simp), fun h => ?_⟩
      cases h with
      | notTruth hother _ _ => simp [hentry] at hother
      | longShown hother _ _ => simp [hentry] at hother
  | some place =>
      rw [faulty_truth_iff hentry]
      dsimp only
      split
      · rename_i b hvalue
        simp [hvalue]
      · rename_i htruth
        have hshown : (d.shown place).mapError Failure.document = .error f ↔ _ :=
          written_eq_error_iff Document.shown_unlessLong
        refine ⟨fun h => ⟨htruth, ?_⟩, fun h => ?_⟩
        · cases hx : d.shown place with
          | error e =>
              rw [hx] at h hshown
              exact .inr (hshown.1 (congrArg Except.error (Except.error.inj h)))
          | ok found =>
              rw [hx] at h
              exact .inl ⟨found, rfl, (Except.error.inj h).symm⟩
        · obtain ⟨-, ⟨found, hx, rfl⟩ | hlong⟩ := h
          · rw [hx]
            rfl
          · unfold written
            rw [hshown.2 hlong]
            rfl

/-- The text of an entry cannot be had if and only if the entry is at fault. -/
theorem text_eq_error_iff :
    text d key = .error f ↔ Faulty d (.text key) f := by
  unfold text
  cases hentry : entry? d key with
  | none =>
      refine ⟨fun h => absurd h (by simp), fun h => ?_⟩
      cases h with
      | longText hother _ => simp [hentry] at hother
  | some place =>
      dsimp only
      rw [written, written_eq_error_iff Document.plain_unlessLong]
      constructor
      · rintro ⟨hlong, rfl⟩
        exact .longText hentry hlong
      · intro h
        cases h with
        | longText hother hlong =>
            obtain rfl := Option.some.inj (hentry.symm.trans hother)
            exact ⟨hlong, rfl⟩

/-! ## One entry after the other -/

def Entry.check (d : Document) : Entry → Except Failure Unit
  | .list key => (fun _ => ()) <$> strings d key
  | .truth key => (fun _ => ()) <$> flag d key
  | .text key => (fun _ => ()) <$> PolicyDocument.text d key

/-- An entry is refused for its faults. -/
theorem check_eq_error_iff
    {e : Entry} :
    e.check d = .error f ↔ Faulty d e f := by
  cases e with
  | list key =>
      rw [Entry.check, map_eq_error_iff, strings_eq_error_iff]
  | truth key =>
      rw [Entry.check, map_eq_error_iff, flag_eq_error_iff]
  | text key =>
      rw [Entry.check, map_eq_error_iff, text_eq_error_iff]

theorem check_eq_ok_iff
    {e : Entry} :
    (∃ r, e.check d = .ok r) ↔ ∀ g, ¬ Faulty d e g := by
  cases hcheck : e.check d with
  | ok r =>
      refine iff_of_true ⟨r, rfl⟩ (fun g hg => ?_)
      rw [← check_eq_error_iff, hcheck] at hg
      contradiction
  | error g =>
      refine iff_of_false (fun ⟨_, hr⟩ => absurd hr (by simp)) (fun hnone => ?_)
      exact hnone g (check_eq_error_iff.1 hcheck)

theorem check_bind
    {α β : Type} {e : Entry} {entries : List Entry} {x : Except Failure α} {k : α → Except Failure β}
    (hx : e.check d = (fun _ => ()) <$> x)
    (hk : ∀ r, (fun _ => ()) <$> k r = (fun _ => ()) <$> entries.mapM (Entry.check d)) :
    (fun _ => ()) <$> (x >>= k) = (fun _ => ()) <$> (e :: entries).mapM (Entry.check d) := by
  rw [List.mapM_cons, hx]
  cases x with
  | error f =>
      rfl
  | ok r =>
      refine (hk r).trans ?_
      cases entries.mapM (Entry.check d) <;> rfl

/-- Without a directory the names of files are taken as they are. -/
theorem forall₂_filePath_none_iff
    {host : Host} {names files : List String} :
    List.Forall₂ (fun name file => filePath host none name = .ok file) names files ↔ names = files := by
  simp only [filePath, Except.ok.injEq]
  rw [List.forall₂_eq_eq_eq]

/-- Without a directory the entries of a document are read if all of them can be, and refused as the first one that
cannot. -/
theorem check_ofEntries
    (host : Host) (d : Document) :
    (fun _ => ()) <$> ofEntries host none d = (fun _ => ()) <$> order.mapM (Entry.check d) := by
  have hfiles : ∀ files : List String, files.mapM (filePath host none) = .ok files :=
    fun _ => mapM_eq_ok_iff.2 (forall₂_filePath_none_iff.2 rfl)
  refine check_bind rfl (fun addresses => ?_)
  refine check_bind rfl (fun hosts => ?_)
  refine check_bind rfl (fun files => ?_)
  rw [hfiles, ok_bind]
  refine check_bind rfl (fun incoming => ?_)
  refine check_bind rfl (fun outgoing => ?_)
  refine check_bind rfl (fun privateNetwork => ?_)
  refine check_bind rfl (fun icmp => ?_)
  refine check_bind rfl (fun interfaces => ?_)
  refine check_bind rfl (fun useRouting => ?_)
  refine check_bind rfl (fun baseline => ?_)
  rfl

/-! ## Documents that are refused -/

/-- A document is a mapping, or it is empty. -/
def IsMapping (d : Document) : Prop :=
  d.rootValue = .atom .null ∨ ∃ entries, d.rootValue = .mapping entries

/-- A document is refused as the first of its entries that is at fault. -/
def Refuses (d : Document) (f : Failure) : Prop :=
  ∃ earlier e later, order = earlier ++ e :: later ∧ (∀ e' ∈ earlier, ∀ g, ¬ Faulty d e' g) ∧ Faulty d e f

theorem ofEntries_eq_error_iff
    (host : Host) :
    ofEntries host none d = .error f ↔ Refuses d f := by
  rw [← map_eq_error_iff (g := fun _ => ()), check_ofEntries, map_eq_error_iff, mapM_eq_error_iff]
  simp only [check_eq_ok_iff, check_eq_error_iff, Refuses]

theorem ofDocument_of_isMapping
    (host : Host) (directory : Option Path) (h : IsMapping d) :
    ofDocument host directory d = ofEntries host directory d := by
  unfold ofDocument
  rcases h with hnull | ⟨entries, hmapping⟩
  · rw [hnull]
  · rw [hmapping]

theorem ofDocument_of_not_isMapping
    (host : Host) (directory : Option Path) (h : ¬ IsMapping d) :
    ofDocument host directory d = .error .notMapping := by
  unfold ofDocument
  split
  · rename_i hnull
    exact absurd (.inl hnull) h
  · rename_i entries hmapping
    exact absurd (.inr ⟨entries, hmapping⟩) h
  · rfl

/-- A document that is no mapping is refused as such, and any other one as its first entry at fault. -/
theorem ofDocument_eq_error_iff
    (host : Host) :
    ofDocument host none d = .error f ↔
      (¬ IsMapping d ∧ f = .notMapping) ∨ (IsMapping d ∧ Refuses d f) := by
  by_cases h : IsMapping d
  · rw [ofDocument_of_isMapping host none h, ofEntries_eq_error_iff]
    simp [h]
  · rw [ofDocument_of_not_isMapping host none h]
    simp [h, eq_comm]

/-! ## Documents that are read -/

def listKeys : List String :=
  ["ips", "hosts", "files", "interfaces"]

def truthKeys : List String :=
  ["allow_incoming", "allow_outgoing", "allow_private_network", "allow_icmp", "use_routing"]

/-- Under a key there is nothing, or something empty, or a text, or a list. -/
def IsList (d : Document) (key : String) : Prop :=
  ∀ place, entry? d key = some place →
    (∃ s, d.value place = .atom (.text s)) ∨ ∃ items, d.value place = .list items

/-- Under a key there is nothing, or a truth value. -/
def IsTruth (d : Document) (key : String) : Prop :=
  ∀ place, d.get? key = some place → ∃ b, d.value place = .atom (.truth b)

/-- No item of the list under a key holds an integer with too many digits. -/
def IsWritable (d : Document) (key : String) : Prop :=
  ∀ place items, entry? d key = some place → d.value place = .list items → ∀ item ∈ items, ¬ d.HoldsLong item

/-- A document can be read: it is a mapping whose entries are of the right kinds, and all that is taken as a text can
be written out. -/
structure IsReadable (d : Document) : Prop where
  mapping : IsMapping d
  lists : ∀ key ∈ listKeys, IsList d key
  truths : ∀ key ∈ truthKeys, IsTruth d key
  writable : ∀ key ∈ listKeys, IsWritable d key
  baseline : ∀ place, entry? d "default_conf" = some place → ¬ d.HoldsLong place

theorem not_faulty_list_iff :
    (∀ g, ¬ Faulty d (.list key) g) ↔ IsList d key ∧ IsWritable d key := by
  constructor
  · intro hnone
    refine ⟨fun place hentry => ?_, fun place items hentry hlist item hitem hlong => ?_⟩
    · by_contra hneither
      obtain ⟨htext, hlist⟩ := not_or.1 hneither
      exact hnone _ (.notList hentry (not_exists.1 htext) (not_exists.1 hlist))
    · exact hnone _ (.longItem hentry hlist hitem hlong)
  · rintro ⟨hkind, hwritable⟩ g hg
    cases hg with
    | notList hentry htext hlist =>
        rcases hkind _ hentry with ⟨s, hs⟩ | ⟨items, hitems⟩
        · exact htext s hs
        · exact hlist items hitems
    | longItem hentry hlist hitem hlong =>
        exact hwritable _ _ hentry hlist _ hitem hlong

theorem not_faulty_truth_iff :
    (∀ g, ¬ Faulty d (.truth key) g) ↔ IsTruth d key := by
  constructor
  · intro hnone place hentry
    by_contra htruth
    cases hshown : d.shown place with
    | ok found =>
        exact hnone _ (.notTruth hentry (not_exists.1 htruth) hshown)
    | error e =>
        obtain ⟨hlong, -⟩ := Document.shown_unlessLong.error_iff.1 hshown
        exact hnone _ (.longShown hentry (not_exists.1 htruth) hlong)
  · intro hkind g hg
    cases hg with
    | notTruth hentry htruth _ =>
        obtain ⟨b, hb⟩ := hkind _ hentry
        exact htruth b hb
    | longShown hentry htruth _ =>
        obtain ⟨b, hb⟩ := hkind _ hentry
        exact htruth b hb

theorem not_faulty_text_iff :
    (∀ g, ¬ Faulty d (.text key) g) ↔ ∀ place, entry? d key = some place → ¬ d.HoldsLong place := by
  constructor
  · intro hnone place hentry hlong
    exact hnone _ (.longText hentry hlong)
  · rintro hwritable g ⟨⟩
    rename_i hlong hentry
    exact hwritable _ hentry hlong

/-- The entries of a document are read if and only if none of them is at fault. -/
theorem ofEntries_ok_iff
    (host : Host) :
    (∃ o, ofEntries host none d = .ok o) ↔ ∀ e ∈ order, ∀ g, ¬ Faulty d e g := by
  have hcheck := check_ofEntries host d
  rcases mapM_ok_or_error (Entry.check d) order with
    ⟨⟨results, hall⟩, hok⟩ | ⟨earlier, e, later, f, horder, -, he, hall⟩
  · obtain ⟨o, ho, -⟩ := map_eq_ok_iff.1 (hcheck.trans (congrArg (Functor.map fun _ => ()) hall))
    exact iff_of_true ⟨o, ho⟩ (fun e he => check_eq_ok_iff.1 (hok e he))
  · have hfail := map_eq_error_iff.1 (hcheck.trans (congrArg (Functor.map fun _ => ()) hall))
    refine iff_of_false (fun ⟨o, ho⟩ => by simp [hfail] at ho) (fun hnone => ?_)
    exact hnone e (by simp [horder]) f (check_eq_error_iff.1 he)

theorem ofDocument_ok_iff
    (host : Host) :
    (∃ o, ofDocument host none d = .ok o) ↔ IsReadable d := by
  by_cases h : IsMapping d
  · rw [ofDocument_of_isMapping host none h, ofEntries_ok_iff]
    simp only [order, List.forall_mem_cons, not_faulty_list_iff, not_faulty_truth_iff, not_faulty_text_iff]
    constructor
    · rintro ⟨hips, hhosts, hfiles, hincoming, houtgoing, hprivate, hicmp, hinterfaces, hrouting, hbaseline, -⟩
      exact ⟨h, by simp [listKeys, *], by simp [truthKeys, *], by simp [listKeys, *], hbaseline⟩
    · rintro ⟨-, hlists, htruths, hwritable, hbaseline⟩
      have hlist : ∀ key ∈ listKeys, IsList d key ∧ IsWritable d key := fun key hkey =>
        ⟨hlists key hkey, hwritable key hkey⟩
      simp only [listKeys, truthKeys, List.forall_mem_cons] at hlist htruths
      obtain ⟨hips, hhosts, hfiles, hinterfaces, -⟩ := hlist
      obtain ⟨hincoming, houtgoing, hprivate, hicmp, hrouting, -⟩ := htruths
      exact ⟨hips, hhosts, hfiles, hincoming, houtgoing, hprivate, hicmp, hinterfaces, hrouting, hbaseline, by simp⟩
  · rw [ofDocument_of_not_isMapping host none h]
    exact iff_of_false (fun ⟨o, ho⟩ => by simp at ho) (fun hreadable => h hreadable.mapping)

/-! ## What a document says -/

/-- The texts that the entry under a key stands for: none where there is nothing or something empty, a bare text
alone, or all items of a list in order. -/
inductive Texts (d : Document) (key : String) : List String → Prop
  | absent
      (hentry : entry? d key = none) :
      Texts d key []
  | bare {place : Nat} {s : List Letter}
      (hentry : entry? d key = some place)
      (htext : d.value place = .atom (.text s)) :
      Texts d key [Letter.toText s]
  | list {place : Nat} {items : List Nat} {texts : List String}
      (hentry : entry? d key = some place)
      (hlist : d.value place = .list items)
      (htexts : List.Forall₂ (fun item text => d.plain item = .ok text) items texts) :
      Texts d key texts

theorem texts_iff
    {place : Nat} {texts : List String} (hentry : entry? d key = some place) :
    Texts d key texts ↔
      (∃ s, d.value place = .atom (.text s) ∧ texts = [Letter.toText s])
        ∨ ∃ items, d.value place = .list items
          ∧ List.Forall₂ (fun item text => d.plain item = .ok text) items texts := by
  constructor
  · intro h
    cases h with
    | absent hother => simp [hentry] at hother
    | bare hother htext =>
        obtain rfl := Option.some.inj (hentry.symm.trans hother)
        exact .inl ⟨_, htext, rfl⟩
    | list hother hlist htexts =>
        obtain rfl := Option.some.inj (hentry.symm.trans hother)
        exact .inr ⟨_, hlist, htexts⟩
  · rintro (⟨s, htext, rfl⟩ | ⟨items, hlist, htexts⟩)
    · exact .bare hentry htext
    · exact .list hentry hlist htexts

/-- The texts that can be had from an entry are those it stands for. -/
theorem strings_eq_ok_iff
    {texts : List String} :
    strings d key = .ok texts ↔ Texts d key texts := by
  unfold strings
  cases hentry : entry? d key with
  | none =>
      constructor
      · intro h
        obtain rfl := Except.ok.inj h
        exact .absent hentry
      · intro h
        cases h with
        | absent => rfl
        | bare hother _ => simp [hentry] at hother
        | list hother _ _ => simp [hentry] at hother
  | some place =>
      rw [texts_iff hentry]
      dsimp only
      split
      · rename_i s hvalue
        simp [hvalue, eq_comm]
      · rename_i items hvalue
        unfold written
        rw [mapM_mapError, mapError_eq_ok_iff, mapM_eq_ok_iff]
        simp [hvalue]
      · rename_i htext hlist
        refine iff_of_false (by simp) ?_
        rintro (⟨s, hvalue, -⟩ | ⟨items, hvalue, -⟩)
        · exact htext s hvalue
        · exact hlist items hvalue

/-- What the entries of a document say, for options that are made of them. -/
structure Reads (host : Host) (directory : Option Path) (d : Document) (addresses hosts names files : List String)
    (o : Options) : Prop where
  read_ips : Texts d "ips" addresses
  read_hosts : Texts d "hosts" hosts
  read_files : Texts d "files" names
  paths : List.Forall₂ (fun name file => filePath host directory name = .ok file) names files
  incoming : flag d "allow_incoming" = .ok o.allow.incoming
  outgoing : flag d "allow_outgoing" = .ok o.allow.outgoing
  privateNetwork : flag d "allow_private_network" = .ok o.allow.privateNetwork
  icmp : flag d "allow_icmp" = .ok o.allow.icmp
  interfaces : Texts d "interfaces" o.interfaces
  useRouting : flag d "use_routing" = .ok o.useRouting
  baseline : text d "default_conf" = .ok o.baseline
  sources : o.sources = Source.listOf addresses hosts files

theorem ofEntries_eq_ok_iff
    (host : Host) (directory : Option Path) {o : Options} :
    ofEntries host directory d = .ok o ↔
      ∃ addresses hosts names files, Reads host directory d addresses hosts names files o := by
  unfold ofEntries
  constructor
  · intro h
    simp only [bind_eq_ok_iff] at h
    obtain ⟨addresses, haddresses, hosts, hhosts, names, hnames, files, hfiles, incoming, hincoming, outgoing,
      houtgoing, privateNetwork, hprivateNetwork, icmp, hicmp, interfaces, hinterfaces, useRouting, huseRouting,
      baseline, hbaseline, ho⟩ := h
    obtain rfl := Except.ok.inj ho
    exact ⟨addresses, hosts, names, files, strings_eq_ok_iff.1 haddresses, strings_eq_ok_iff.1 hhosts,
      strings_eq_ok_iff.1 hnames, mapM_eq_ok_iff.1 hfiles, hincoming, houtgoing, hprivateNetwork, hicmp,
      strings_eq_ok_iff.1 hinterfaces, huseRouting, hbaseline, rfl⟩
  · rintro ⟨addresses, hosts, names, files, h⟩
    rw [strings_eq_ok_iff.2 h.read_ips, ok_bind, strings_eq_ok_iff.2 h.read_hosts, ok_bind,
      strings_eq_ok_iff.2 h.read_files, ok_bind, mapM_eq_ok_iff.2 h.paths, ok_bind, h.incoming, ok_bind, h.outgoing,
      ok_bind, h.privateNetwork, ok_bind, h.icmp, ok_bind, strings_eq_ok_iff.2 h.interfaces, ok_bind, h.useRouting,
      ok_bind, h.baseline, ok_bind, ← h.sources]
    rfl

end Reading

end PolicyDocument
end Killswitch
