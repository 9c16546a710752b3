import Killswitch.Proofs.Lock.Check
import Killswitch.Proofs.Policy.Entries
import Mathlib.Data.List.Nodup

/-!
# What a policy document says

A document is read if and only if it is readable, and is refused for one reason otherwise. What is read is what the
entries stand for, wherever in the mapping they are.

**Other keys.** The mapping of a document is looked at through the values under the known keys alone. So two mappings
over one table of values that have the same entries under these keys ask for the same.

**Depth.** Values are written out however deep they are nested. That calls may not be nested without end, so that
writing out fails at some depth, is not modelled.

**Results.**
* `ofDocument_eq_of_sameEntries`: the order of the keys and other keys do not count;
* `document_read_or_refused`: the documents that are read, why the others are refused, and what is read;
* `longDocument_refused`: a mapping with entries of the right kinds that is not read.
-/

namespace Killswitch
namespace PolicyDocument

open Killswitch.Action
open Yaml (Document Atom Letter)

/-! ## One table of values -/

section Tables

variable {d other : Document} {key : String}

theorem value_congr
    (h : d.values = other.values) :
    d.value = other.value := by
  funext place
  rw [Document.value, Document.value, h]

theorem shownInside_congr
    (h : d.values = other.values) (fuel : Nat) :
    d.shownInside fuel = other.shownInside fuel := by
  induction fuel with
  | zero =>
      funext around place
      simp only [Document.shownInside, value_congr h]
  | succ fuel ih =>
      funext around place
      simp only [Document.shownInside, value_congr h, ih]

/-- How a value is written out depends on the table of values alone. -/
theorem shown_congr
    (h : d.values = other.values) :
    d.shown = other.shown := by
  funext place
  rw [Document.shown, Document.shown, shownInside_congr h, h]

theorem plain_congr
    (h : d.values = other.values) :
    d.plain = other.plain := by
  funext place
  rw [Document.plain, Document.plain, shown_congr h, value_congr h]

theorem entry_congr
    (h : d.values = other.values) (hkey : d.get? key = other.get? key) :
    entry? d key = entry? other key := by
  simp only [hkey, entry?, Document.isEmptyAt, value_congr h]

theorem strings_congr
    (h : d.values = other.values) (hkey : d.get? key = other.get? key) :
    strings d key = strings other key := by
  simp only [strings, entry_congr h hkey, value_congr h, plain_congr h]

theorem flag_congr
    (h : d.values = other.values) (hkey : d.get? key = other.get? key) :
    flag d key = flag other key := by
  simp only [flag, hkey, value_congr h, shown_congr h]

theorem text_congr
    (h : d.values = other.values) (hkey : d.get? key = other.get? key) :
    text d key = text other key := by
  simp only [text, entry_congr h hkey, plain_congr h]

/-! ## The order of the keys -/

/-- The keys of the entries that are looked at. -/
def keys : List String :=
  order.map Entry.key

/-- The entries ask for the same if the known keys lead to the same values. -/
theorem ofEntries_congr
    (host : Host) (directory : Option Path)
    (h : d.values = other.values) (hkeys : ∀ key ∈ keys, d.get? key = other.get? key) :
    ofEntries host directory d = ofEntries host directory other := by
  have hstrings : ∀ key ∈ keys, strings d key = strings other key :=
    fun key hkey => strings_congr h (hkeys key hkey)
  have hflag : ∀ key ∈ keys, flag d key = flag other key :=
    fun key hkey => flag_congr h (hkeys key hkey)
  unfold ofEntries
  rw [hstrings "ips" (by decide), hstrings "hosts" (by decide), hstrings "files" (by decide),
    hflag "allow_incoming" (by decide), hflag "allow_outgoing" (by decide),
    hflag "allow_private_network" (by decide), hflag "allow_icmp" (by decide), hstrings "interfaces" (by decide),
    hflag "use_routing" (by decide), text_congr h (hkeys "default_conf" (by decide))]

def known (entries : List (Atom × Nat)) : List (Atom × Nat) :=
  entries.filter (fun e => keys.any e.1.isText)

/-- The text that an atom is. -/
def text? : Atom → Option (List Letter)
  | .text s => some s
  | _ => none

/-- No text is a key twice, since a mapping has one value under a key. -/
def KeysApart (entries : List (Atom × Nat)) : Prop :=
  (entries.filterMap (fun e => text? e.1)).Nodup

theorem isText_eq
    (a : Atom) :
    a.isText key = (text? a == some (Letter.ofChars key.toList)) := by
  cases a <;> rfl

theorem KeysApart.length_filter_le_one
    {entries : List (Atom × Nat)} (h : KeysApart entries) (key : String) :
    (entries.filter (fun e => e.1.isText key)).length ≤ 1 := by
  have hcount := List.nodup_iff_count_le_one.1 h (Letter.ofChars key.toList)
  rw [List.count_filterMap] at hcount
  simpa only [isText_eq, ← List.countP_eq_length_filter] using hcount

/-- Two mappings over one table of values that have the same entries under known keys. -/
structure SameEntries (d other : Document) (entries others : List (Atom × Nat)) : Prop where
  values : d.values = other.values
  left : d.rootValue = .mapping entries
  right : other.rootValue = .mapping others
  apart : KeysApart entries
  perm : (known entries).Perm (known others)

theorem filter_known
    (entries : List (Atom × Nat)) (hkey : key ∈ keys) :
    (known entries).filter (fun e => e.1.isText key) = entries.filter (fun e => e.1.isText key) := by
  rw [known, List.filter_filter]
  refine List.filter_congr (fun e _ => ?_)
  rw [Bool.and_eq_left_iff_imp]
  exact fun htext => List.any_eq_true.2 ⟨key, hkey, htext⟩

theorem eq_of_perm_of_length_le_one
    {α : Type} {items others : List α} (hperm : items.Perm others) (hlength : items.length ≤ 1) :
    items = others := by
  match items with
  | [] => exact hperm.nil_eq
  | [a] => exact List.singleton_perm.1 hperm

theorem SameEntries.get?_eq
    {entries others : List (Atom × Nat)} (h : SameEntries d other entries others) (hkey : key ∈ keys) :
    d.get? key = other.get? key := by
  have hfilter : entries.filter (fun e => e.1.isText key) = others.filter (fun e => e.1.isText key) := by
    refine eq_of_perm_of_length_le_one ?_ (h.apart.length_filter_le_one key)
    rw [← filter_known entries hkey, ← filter_known others hkey]
    exact h.perm.filter _
  simp only [Document.get?, h.left, h.right]
  rw [← List.head?_filter, ← List.head?_filter, hfilter]

/-- The order of the keys and other keys do not count. -/
theorem ofDocument_eq_of_sameEntries
    (host : Host) (directory : Option Path) {entries others : List (Atom × Nat)}
    (h : SameEntries d other entries others) :
    ofDocument host directory d = ofDocument host directory other := by
  rw [ofDocument_of_isMapping host directory (.inr ⟨_, h.left⟩),
    ofDocument_of_isMapping host directory (.inr ⟨_, h.right⟩)]
  exact ofEntries_congr host directory h.values (fun key hkey => h.get?_eq hkey)

end Tables

/-! ## Documents -/

/-- A document is read if and only if it is readable, and otherwise it is refused as no mapping or as its first entry
at fault. The sources of what is read are the texts of the three lists, one list after the other, and neither the
order of the keys nor any other key makes a difference. There is no limit on how deep values are nested. -/
theorem document_read_or_refused
    (host : Host) (d : Document) :
    ((∃ o, ofDocument host none d = .ok o) ↔ IsReadable d)
      ∧ (∀ f, ofDocument host none d = .error f ↔
          (¬ IsMapping d ∧ f = .notMapping) ∨ (IsMapping d ∧ Refuses d f))
      ∧ (Failure.notMapping.message = "Policy YAML must be a mapping"
          ∧ (∀ key, (Failure.notList key).message = key ++ " must be a list")
          ∧ ∀ key found, (Failure.notFlag key found).message = key ++ " must be true or false, got " ++ found)
      ∧ (∀ o, ofDocument host none d = .ok o → ∃ addresses hosts files,
          Texts d "ips" addresses
            ∧ Texts d "hosts" hosts
            ∧ Texts d "files" files
            ∧ Texts d "interfaces" o.interfaces
            ∧ o.sources = addresses.map (Source.mk .address) ++ hosts.map (Source.mk .host)
                ++ files.map (Source.mk .file))
      ∧ (∀ other entries others, SameEntries d other entries others →
          ofDocument host none other = ofDocument host none d)
      ∧ ∀ text, Document.ofText text = .ok d → ofText host none text = ofDocument host none d := by
  refine ⟨ofDocument_ok_iff host, fun f => ofDocument_eq_error_iff host, ⟨rfl, fun _ => rfl, fun _ _ => rfl⟩,
    fun o ho => ?_, fun other entries others hsame => ?_, fun text htext => ?_⟩
  · have hreadable := (ofDocument_ok_iff host).1 ⟨o, ho⟩
    rw [ofDocument_of_isMapping host none hreadable.mapping] at ho
    obtain ⟨addresses, hosts, names, files, hreads⟩ := (ofEntries_eq_ok_iff host none).1 ho
    obtain rfl := forall₂_filePath_none_iff.1 hreads.paths
    exact ⟨addresses, hosts, names, hreads.read_ips, hreads.read_hosts, hreads.read_files, hreads.interfaces,
      hreads.sources⟩
  · exact (ofDocument_eq_of_sameEntries host none hsame).symm
  · rw [ofText, htext]
    rfl

/-- A document with a bare text, a list with a number in it, and a key that is not known. -/
def mixedDocument : Document where
  values := #[.mapping [(textAtom "files", 3), (textAtom "note", 4), (textAtom "ips", 2)],
    .mapping [(textAtom "ips", 2), (textAtom "files", 3)],
    .list [4, 5],
    .atom (textAtom "wg0.conf"),
    .atom (.integer 12),
    .atom (textAtom "192.0.2.9")]
  root := some 0

theorem mixedDocument_read :
    ofDocument Lock.obligingHost none mixedDocument
      = .ok ⟨.none, [], [⟨.address, "12"⟩, ⟨.address, "192.0.2.9"⟩, ⟨.file, "wg0.conf"⟩], false, ""⟩ :=
  toOption_eq_some_iff.1 (by decide +kernel)

theorem mixedDocument_sameEntries :
    SameEntries mixedDocument { mixedDocument with root := some 1 }
      [(textAtom "files", 3), (textAtom "note", 4), (textAtom "ips", 2)]
      [(textAtom "ips", 2), (textAtom "files", 3)] where
  values := rfl
  left := rfl
  right := rfl
  apart := by
    unfold KeysApart
    decide +kernel
  perm := List.Perm.swap _ _ []

/-- The addresses come first although the file is named before them, and a mapping without the other key and in another
order asks for the same. -/
theorem mixedDocument_sources :
    IsReadable mixedDocument
      ∧ Texts mixedDocument "interfaces" []
      ∧ ofDocument Lock.obligingHost none { mixedDocument with root := some 1 }
        = .ok ⟨.none, [], [⟨.address, "12"⟩, ⟨.address, "192.0.2.9"⟩, ⟨.file, "wg0.conf"⟩], false, ""⟩ := by
  obtain ⟨hread, -, -, hsources, hsame, -⟩ := document_read_or_refused Lock.obligingHost mixedDocument
  obtain ⟨_, _, _, -, -, -, hinterfaces, -⟩ := hsources _ mixedDocument_read
  exact ⟨hread.1 ⟨_, mixedDocument_read⟩, hinterfaces,
    (hsame _ _ _ mixedDocument_sameEntries).trans mixedDocument_read⟩

/-- A document with one address, which is an integer with too many digits. -/
def longDocument : Document where
  values := #[.mapping [(textAtom "ips", 1)], .list [2],
    .atom (.integer (Int.ofNat (Nat.pow 10 Decimal.longestInteger)))]
  root := some 0

theorem longDocument_holdsLong :
    longDocument.HoldsLong 2 :=
  Document.holdsLong_of_integer rfl (Nat.lt_irrefl _)

theorem longDocument_refuses :
    Refuses longDocument (.document .longIntegerText) :=
  ⟨[], .list "ips", order.tail, rfl, by simp,
    .longItem (show entry? longDocument "ips" = some 1 from rfl) rfl List.mem_cons_self longDocument_holdsLong⟩

/-- A mapping whose only entry is a list is refused for an integer with too many digits in it. -/
theorem longDocument_refused :
    IsMapping longDocument
      ∧ (∀ key ∈ listKeys, IsList longDocument key)
      ∧ (∀ key ∈ truthKeys, IsTruth longDocument key)
      ∧ ofDocument Lock.obligingHost none longDocument = .error (.document .longIntegerText) := by
  have hmapping : IsMapping longDocument := .inr ⟨_, rfl⟩
  refine ⟨hmapping, fun key hkey place hentry => ?_, fun key hkey place hentry => ?_,
    (ofDocument_eq_error_iff Lock.obligingHost).2 (.inr ⟨hmapping, longDocument_refuses⟩)⟩
  · have hplace : ∀ key ∈ listKeys, ∀ place ∈ entry? longDocument key, place = 1 := by
      decide +kernel
    obtain rfl := hplace key hkey place hentry
    exact .inr ⟨_, rfl⟩
  · have hnone : ∀ key ∈ truthKeys, longDocument.get? key = none := by
      decide +kernel
    simp [hnone key hkey] at hentry

end PolicyDocument
end Killswitch
