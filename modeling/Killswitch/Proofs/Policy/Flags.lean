import Killswitch.Proofs.Lock.Check
import Killswitch.Proofs.Policy.Entries

/-!
# Policy documents and flags

What can be asked for on a command line can be asked for in a policy document, and in part on the one and in part in
the other.

**Spellings.** A document holds the values of a command line if each of them stands under its key: a list of texts as a
list, as a bare text where there is one that is not empty, or not at all where there is none; a flag as a truth
value, or not at all where it is not set; the baseline as a text, or as nothing.

**Shares.** Where some values are in the document and the others on the command line, the sources of a kind stay
in their order, but those of different kinds need not: all that the document names comes first.

**Letters.** The texts that are compared are texts of characters. A document can also name the half of a character
that stands alone; `Letter.toText` replaces it, so no command line is compared with such a text.

**Results.**
* `HoldsList.texts`, `HoldsFlag.flag_eq`, `HoldsText.text_eq`: what is read where a document holds a value;
* `ofDocument_of_holds`: a document that holds the values of a command line asks for the same;
* `document_and_flags_mean_same`: this, and the same for values that are shared out.
-/

namespace Killswitch

open Killswitch.Action
open Yaml (Document Letter)

/-! ## Texts of letters -/

/-- The letters of a text make the text again. -/
theorem Yaml.Letter.toText_ofChars
    (s : String) :
    Letter.toText (Letter.ofChars s.toList) = s := by
  rw [Letter.toText, Letter.toChars_ofChars, String.ofList_toList]

namespace PolicyDocument

section Values

variable {d : Document} {key : String}

/-- The value at a place is a text. -/
def IsText (d : Document) (place : Nat) (s : String) : Prop :=
  d.value place = .atom (textAtom s)

theorem IsText.plain_eq
    {place : Nat} {s : String} (h : IsText d place s) :
    d.plain place = .ok s := by
  unfold Document.plain
  rw [h]
  exact congrArg Except.ok (Letter.toText_ofChars s)

theorem IsText.isEmptyAt_iff
    {place : Nat} {s : String} (h : IsText d place s) :
    d.isEmptyAt place = true ↔ s = "" := by
  unfold Document.isEmptyAt
  rw [h]
  simp [Yaml.Value.isEmpty, textAtom, Yaml.Atom.isEmpty, Letter.ofChars]

/-! ## Values under keys -/

/-- Under a key a document holds a list of texts. -/
inductive HoldsList (d : Document) (key : String) : List String → Prop
  | leftOut
      (hentry : d.get? key = none) :
      HoldsList d key []
  | bare {place : Nat} {text : String}
      (hentry : d.get? key = some place)
      (htext : IsText d place text)
      (hsome : text ≠ "") :
      HoldsList d key [text]
  | list {place : Nat} {items : List Nat} {texts : List String}
      (hentry : d.get? key = some place)
      (hlist : d.value place = .list items)
      (htexts : List.Forall₂ (IsText d) items texts) :
      HoldsList d key texts

/-- Under a key a document holds a flag. -/
inductive HoldsFlag (d : Document) (key : String) : Bool → Prop
  | leftOut
      (hentry : d.get? key = none) :
      HoldsFlag d key false
  | truth {place : Nat} {b : Bool}
      (hentry : d.get? key = some place)
      (htruth : d.value place = .atom (.truth b)) :
      HoldsFlag d key b

/-- Under a key a document holds a text, or nothing. -/
inductive HoldsText (d : Document) (key : String) : Option String → Prop
  | leftOut
      (hentry : d.get? key = none) :
      HoldsText d key none
  | null {place : Nat}
      (hentry : d.get? key = some place)
      (hnull : d.value place = .atom .null) :
      HoldsText d key none
  | spelled {place : Nat} {s : String}
      (hentry : d.get? key = some place)
      (htext : IsText d place s) :
      HoldsText d key (some s)

theorem entry_of_empty
    {place : Nat} (hentry : d.get? key = some place) (hempty : d.isEmptyAt place = true) :
    entry? d key = none := by
  simp [hentry, hempty, entry?]

theorem entry_of_not_empty
    {place : Nat} (hentry : d.get? key = some place) (hsome : d.isEmptyAt place = false) :
    entry? d key = some place := by
  simp [hentry, hsome, entry?]

/-- The texts of an entry are those that it holds; an empty list counts as no entry. -/
theorem HoldsList.texts
    {texts : List String} (h : HoldsList d key texts) :
    Texts d key texts := by
  cases h with
  | leftOut hentry =>
      exact .absent (by simp [hentry, entry?])
  | @bare place text hentry htext hsome =>
      have hplace := entry_of_not_empty hentry (Bool.eq_false_iff.2 (mt htext.isEmptyAt_iff.1 hsome))
      rw [← Letter.toText_ofChars text]
      exact .bare hplace htext
  | @list place items _ hentry hlist htexts =>
      have hempty : d.isEmptyAt place = items.isEmpty := by
        rw [Document.isEmptyAt, hlist]
        rfl
      cases htexts with
      | nil =>
          exact .absent (entry_of_empty hentry hempty)
      | cons hfirst hrest =>
          exact .list (entry_of_not_empty hentry hempty) hlist
            (.cons hfirst.plain_eq (hrest.imp fun _ _ => IsText.plain_eq))

theorem HoldsFlag.flag_eq
    {b : Bool} (h : HoldsFlag d key b) :
    flag d key = .ok b := by
  cases h with
  | leftOut hentry =>
      simp [flag, hentry]
  | truth hentry htruth =>
      simp [flag, hentry, htruth]

/-- The text of an entry is the one that it holds; an empty text counts as no entry. -/
theorem HoldsText.text_eq
    {s : Option String} (h : HoldsText d key s) :
    text d key = .ok (s.getD "") := by
  cases h with
  | leftOut hentry =>
      simp [text, entry?, hentry]
  | @null place hentry hnull =>
      have hempty : d.isEmptyAt place = true := by
        rw [Document.isEmptyAt, hnull]
        rfl
      simp [text, entry_of_empty hentry hempty]
  | @spelled place s hentry htext =>
      by_cases hs : s = ""
      · simp [text, entry_of_empty hentry (htext.isEmptyAt_iff.2 hs), hs]
      · have hplace := entry_of_not_empty hentry (Bool.eq_false_iff.2 (mt htext.isEmptyAt_iff.1 hs))
        simp only [text, hplace, written, htext.plain_eq]
        rfl

end Values

/-! ## The values of a command line -/

/-- A mapping holds the values of a command line, each under its key. -/
structure Holds (d : Document) (f : Flags) : Prop where
  mapping : ∃ entries, d.rootValue = .mapping entries
  ips : HoldsList d "ips" f.addresses
  hosts : HoldsList d "hosts" f.hosts
  files : HoldsList d "files" f.files
  interfaces : HoldsList d "interfaces" f.interfaces
  incoming : HoldsFlag d "allow_incoming" f.allow.incoming
  outgoing : HoldsFlag d "allow_outgoing" f.allow.outgoing
  privateNetwork : HoldsFlag d "allow_private_network" f.allow.privateNetwork
  icmp : HoldsFlag d "allow_icmp" f.allow.icmp
  useRouting : HoldsFlag d "use_routing" f.useRouting
  baseline : HoldsText d "default_conf" f.baseline

/-- A document that holds the values of a command line asks for the same. -/
theorem ofDocument_of_holds
    (host : Host) {d : Document} {f : Flags} (h : Holds d f) :
    ofDocument host none d = .ok (.ofFlags f) := by
  rw [ofDocument_of_isMapping host none (.inr h.mapping)]
  exact (ofEntries_eq_ok_iff host none).2 ⟨f.addresses, f.hosts, f.files, f.files,
    { read_ips := h.ips.texts
      read_hosts := h.hosts.texts
      read_files := h.files.texts
      paths := forall₂_filePath_none_iff.2 rfl
      incoming := h.incoming.flag_eq
      outgoing := h.outgoing.flag_eq
      privateNetwork := h.privateNetwork.flag_eq
      icmp := h.icmp.flag_eq
      interfaces := h.interfaces.texts
      useRouting := h.useRouting.flag_eq
      baseline := h.baseline.text_eq
      sources := rfl }⟩

/-! ## Shares -/

/-- The values of a command line are shared out: each list is cut in two, a flag is set on either side, and the
baseline stands on one side. -/
structure Shares (f first second : Flags) : Prop where
  addresses : f.addresses = first.addresses ++ second.addresses
  hosts : f.hosts = first.hosts ++ second.hosts
  files : f.files = first.files ++ second.files
  interfaces : f.interfaces = first.interfaces ++ second.interfaces
  allow : f.allow = first.allow.or second.allow
  useRouting : f.useRouting = (first.useRouting || second.useRouting)
  baseline : (first.baseline = f.baseline ∧ second.baseline = none)
    ∨ (first.baseline = none ∧ second.baseline = f.baseline)

/-- The sources of a command line: its addresses, then its hosts, then its files. -/
theorem ofFlags_sources
    (f : Flags) :
    (Options.ofFlags f).sources
      = f.addresses.map (Source.mk .address) ++ f.hosts.map (Source.mk .host) ++ f.files.map (Source.mk .file) := by
  rfl

/-- The sources of one kind among all of a command line. -/
theorem filter_listOf
    (addresses hosts files : List String) (kind : Source.Kind) :
    (Source.listOf addresses hosts files).filter (fun s => s.kind = kind)
      = match kind with
        | .address => addresses.map (Source.mk .address)
        | .host => hosts.map (Source.mk .host)
        | .file => files.map (Source.mk .file) := by
  cases kind <;> simp [Source.listOf, List.filter_map, Function.comp_def]

/-- The sources of a kind are the same, in the same order, in one list and in two shares of it. -/
theorem Shares.filter_sources
    {f first second : Flags} (h : Shares f first second) (kind : Source.Kind) :
    ((Options.ofFlags first).merge (.ofFlags second)).sources.filter (fun s => s.kind = kind)
      = (Options.ofFlags f).sources.filter (fun s => s.kind = kind) := by
  simp only [Options.merge_sources, Options.ofFlags, List.filter_append, filter_listOf]
  cases kind <;> simp [h.addresses, h.hosts, h.files]

theorem Shares.baseline_eq
    {f first second : Flags} (h : Shares f first second) :
    ((Options.ofFlags first).merge (.ofFlags second)).baseline = (Options.ofFlags f).baseline := by
  rcases h.baseline with ⟨hfirst, hsecond⟩ | ⟨hfirst, hsecond⟩
  · simp [Options.merge, Options.ofFlags, orIfEmpty, hfirst, hsecond]
  · by_cases hempty : f.baseline.getD "" = "" <;>
      simp [Options.merge, Options.ofFlags, orIfEmpty, hfirst, hsecond, hempty]

/-- A policy document and a command line mean the same. A document that holds the values of a command line asks for
what the command line does: its addresses, then its hosts, then its files. Where the values are shared out between a
document and a command line, the sources of the document come first, and both together ask for the same interfaces,
permissions and baseline, and for the same sources of each kind in the same order. -/
theorem document_and_flags_mean_same
    (host : Host) (f : Flags) :
    let listed (g : Flags) : List Source :=
      g.addresses.map (Source.mk .address) ++ g.hosts.map (Source.mk .host) ++ g.files.map (Source.mk .file)
    (Options.ofFlags f).sources = listed f
      ∧ (∀ d, Holds d f →
          ofDocument host none d = .ok (.ofFlags f)
            ∧ ∀ o, ofDocument host none d = .ok o → o.sources = listed f)
      ∧ ∀ first second d, Shares f first second → Holds d first →
          ∃ o, ofDocument host none d = .ok o
            ∧ (o.merge (.ofFlags second)).sources = listed first ++ listed second
            ∧ (o.merge (.ofFlags second)).interfaces = (Options.ofFlags f).interfaces
            ∧ (o.merge (.ofFlags second)).allow = (Options.ofFlags f).allow
            ∧ (o.merge (.ofFlags second)).useRouting = (Options.ofFlags f).useRouting
            ∧ (o.merge (.ofFlags second)).baseline = (Options.ofFlags f).baseline
            ∧ ∀ kind, (o.merge (.ofFlags second)).sources.filter (fun s => s.kind = kind)
                = (Options.ofFlags f).sources.filter (fun s => s.kind = kind) := by
  intro listed
  refine ⟨ofFlags_sources f, fun d h => ⟨ofDocument_of_holds host h, fun o ho => ?_⟩,
    fun first second d hshares h => ?_⟩
  · obtain rfl := Except.ok.inj ((ofDocument_of_holds host h).symm.trans ho)
    exact ofFlags_sources f
  · refine ⟨_, ofDocument_of_holds host h, ?_, hshares.interfaces.symm, hshares.allow.symm,
      hshares.useRouting.symm, hshares.baseline_eq, hshares.filter_sources⟩
    rw [Options.merge_sources, ofFlags_sources, ofFlags_sources]

/-- A document with a bare text, lists, a flag and no list of hosts, in no usual order. -/
def sharedDocument : Document where
  values := #[.mapping [(textAtom "default_conf", 1), (textAtom "files", 2), (textAtom "allow_icmp", 4),
      (textAtom "ips", 5), (textAtom "interfaces", 6)],
    .atom .null,
    .list [3, 5],
    .atom (textAtom "a.conf"),
    .atom (.truth true),
    .atom (textAtom "192.0.2.9"),
    .list []]
  root := some 0

/-- What the document says, as a command line. -/
def documentShare : Flags :=
  ⟨["192.0.2.9"], [], ["a.conf", "192.0.2.9"], [], ⟨false, false, false, true⟩, false, none⟩

/-- What a command line adds to the document. -/
def flagShare : Flags :=
  ⟨["192.0.2.10"], ["vpn.example.net"], ["b.conf"], ["utun3"], ⟨true, false, false, false⟩, true, some "/etc/pf.lock"⟩

def wholeFlags : Flags :=
  ⟨["192.0.2.9", "192.0.2.10"], ["vpn.example.net"], ["a.conf", "192.0.2.9", "b.conf"], ["utun3"],
    ⟨true, false, false, true⟩, true, some "/etc/pf.lock"⟩

theorem sharedDocument_holds :
    Holds sharedDocument documentShare where
  mapping := ⟨_, rfl⟩
  ips := .bare (show sharedDocument.get? _ = some 5 by decide +kernel) rfl (by decide)
  hosts := .leftOut (by decide +kernel)
  files := .list (show sharedDocument.get? _ = some 2 by decide +kernel) rfl (.cons rfl (.cons rfl .nil))
  interfaces := .list (show sharedDocument.get? _ = some 6 by decide +kernel) rfl .nil
  incoming := .leftOut (by decide +kernel)
  outgoing := .leftOut (by decide +kernel)
  privateNetwork := .leftOut (by decide +kernel)
  icmp := .truth (show sharedDocument.get? _ = some 4 by decide +kernel) rfl
  useRouting := .leftOut (by decide +kernel)
  baseline := .null (show sharedDocument.get? _ = some 1 by decide +kernel) rfl

theorem wholeFlags_shares :
    Shares wholeFlags documentShare flagShare := by
  constructor <;> decide

/-- The document asks for what its share of the command line does, and together with the rest for all files in their
order. -/
theorem sharedDocument_merges :
    ofDocument Lock.obligingHost none sharedDocument = .ok (.ofFlags documentShare)
      ∧ ((Options.ofFlags documentShare).merge (.ofFlags flagShare)).sources.filter (fun s => s.kind = .file)
        = [⟨.file, "a.conf"⟩, ⟨.file, "192.0.2.9"⟩, ⟨.file, "b.conf"⟩] := by
  obtain ⟨-, hholds, -⟩ := document_and_flags_mean_same Lock.obligingHost documentShare
  obtain ⟨-, -, hshares⟩ := document_and_flags_mean_same Lock.obligingHost wholeFlags
  obtain ⟨hdocument, -⟩ := hholds _ sharedDocument_holds
  obtain ⟨o, ho, -, -, -, -, -, hsources⟩ := hshares _ _ _ wholeFlags_shares sharedDocument_holds
  obtain rfl := Except.ok.inj (hdocument.symm.trans ho)
  exact ⟨hdocument, (hsources .file).trans (by decide)⟩

end PolicyDocument
end Killswitch
