import Killswitch.Proofs.Address.Cover
import Killswitch.Proofs.Text.Runs

/-!
# Spellings of addresses

An IPv4 address has one spelling: its four octets as decimal numbers without a zero in front. An IPv6 address
has many, but all of them in front of the zone are made of hexadecimal digits, colons and dots. What is read as
a zone may hold any character but a percent sign and a slash.

**Results.**
* `toDigits_ofDigitChars`: digits without a zero in front are those of the number that they spell;
* `octet?_eq_some_iff`, `V4.ofChars?_eq_some_iff`: the one spelling of an octet and of an IPv4 address;
* `isBodyChar_of_eightGroups`: the characters of an IPv6 address without a zone;
* `V6.cases_ofChars`: an IPv6 address is spelled without a zone or with one.
-/

namespace Killswitch
namespace Address

/-! ## Decimal numbers -/

theorem decimal?_eq_some_iff
    {s : List Char} {n : Nat} :
    decimal? s = some n ↔ (∀ c ∈ s, c.isDigit = true) ∧ Nat.ofDigitChars 10 s 0 = n := by
  unfold decimal?
  rw [Nat.ofDigitChars_eq_foldl, ← List.all_eq_true]
  split
  · rename_i hall
    exact ⟨fun h => ⟨hall, Option.some.inj h⟩, fun h => congrArg some h.2⟩
  · rename_i hall
    exact ⟨fun h => by contradiction, fun h => absurd h.1 hall⟩

theorem digitChar_of_isDigit
    {c : Char} (h : c.isDigit = true) :
    c.toNat - 48 < 10 ∧ Nat.digitChar (c.toNat - 48) = c := by
  have hrange : 48 ≤ c.toNat ∧ c.toNat ≤ 57 := by
    simpa [Char.isDigit, UInt32.le_iff_toNat_le] using h
  have hall : ∀ n ≤ 57, 48 ≤ n → Nat.digitChar (n - 48) = Char.ofNat n := by
    decide
  refine ⟨by omega, ?_⟩
  rw [hall c.toNat hrange.2 hrange.1, Char.ofNat_toNat]

/-- Digits behind those of a number, which is not zero, are the last digits of a greater one. -/
theorem toDigits_append
    {s : List Char} {n : Nat}
    (hn : 0 < n)
    (hdigits : ∀ c ∈ s, c.isDigit = true) :
    Nat.toDigits 10 n ++ s = Nat.toDigits 10 (Nat.ofDigitChars 10 s n) := by
  induction s generalizing n with
  | nil =>
      rw [List.append_nil, Nat.ofDigitChars_nil]
  | cons c s ih =>
      obtain ⟨hc, hs⟩ := List.forall_mem_cons.1 hdigits
      obtain ⟨hlt, hchar⟩ := digitChar_of_isDigit hc
      have hnext : Nat.toDigits 10 n ++ [c] = Nat.toDigits 10 (10 * n + (c.toNat - 48)) := by
        rw [← Nat.toDigits_append_toDigits (by decide) hn hlt, Nat.toDigits_of_lt_base hlt, hchar]
      rw [List.append_cons, hnext, Nat.ofDigitChars_cons]
      exact ih (by omega) hs

/-- Digits without a zero in front are those of the number that they spell. A zero by itself is in front of
nothing. -/
theorem toDigits_ofDigitChars
    {c : Char} {s : List Char}
    (hdigits : ∀ d ∈ c :: s, d.isDigit = true)
    (hfront : s = [] ∨ c ≠ '0') :
    Nat.toDigits 10 (Nat.ofDigitChars 10 (c :: s) 0) = c :: s := by
  obtain ⟨hc, hs⟩ := List.forall_mem_cons.1 hdigits
  obtain ⟨hlt, hchar⟩ := digitChar_of_isDigit hc
  have hfirst : Nat.toDigits 10 (c.toNat - 48) = [c] := by
    rw [Nat.toDigits_of_lt_base hlt, hchar]
  rw [Nat.ofDigitChars_cons, Nat.mul_zero, Nat.zero_add]
  rcases hfront with rfl | hzero
  · exact hfirst
  · have hpos : 0 < c.toNat - 48 := by
      refine Nat.pos_of_ne_zero (fun h => hzero ?_)
      rw [← hchar, h]
      rfl
    exact (toDigits_append hpos hs).symm.trans (congrArg (· ++ s) hfirst)

/-- An octet has one spelling. -/
theorem octet?_eq_some_iff
    {s : List Char} {n : UInt8} :
    octet? s = some n ↔ s = octetChars n := by
  constructor
  · intro h
    unfold octet? at h
    split at h
    · contradiction
    · contradiction
    · rename_i first more number hdecimal
      split at h
      · rename_i hstrict
        obtain ⟨hdigits, hnumber⟩ := decimal?_eq_some_iff.1 hdecimal
        obtain rfl := Option.some.inj h
        have hsmall : (UInt8.ofNat number).toNat = number := by
          simp only [UInt8.toNat_ofNat']
          omega
        rw [octetChars, hsmall, ← hnumber, toDigits_ofDigitChars hdigits hstrict.2.1]
      · contradiction
  · rintro rfl
    have hall : ∀ k < 256, octet? (Nat.toDigits 10 k) = some (UInt8.ofNat k) := by
      decide +kernel
    rw [octetChars, hall n.toNat n.toNat_lt, UInt8.ofNat_toNat]

theorem isDigit_of_mem_octetChars
    {n : UInt8} {c : Char} (h : c ∈ octetChars n) :
    c.isDigit = true :=
  Nat.isDigit_of_mem_toDigits (by decide) (by decide) h

theorem not_mem_octetChars
    {n : UInt8} {c : Char} (h : c.isDigit = false) :
    c ∉ octetChars n := by
  intro hc
  rw [isDigit_of_mem_octetChars hc] at h
  contradiction

/-! ## IPv4 addresses -/

/-- An IPv4 address has one spelling. -/
theorem V4.ofChars?_eq_some_iff
    {s : List Char} {v : V4} :
    V4.ofChars? s = some v ↔ s = v.toChars := by
  constructor
  · intro h
    unfold V4.ofChars? at h
    split at h
    · rename_i a b c d hoctets
      obtain rfl := Option.some.inj h
      have hwhole := Text.intercalate_pieces '.' s
      obtain ⟨p, ps, hp, ha, hrest⟩ := List.map_eq_cons_iff.1 hoctets
      obtain ⟨q, qs, rfl, hb, hrest⟩ := List.map_eq_cons_iff.1 hrest
      obtain ⟨r, rs, rfl, hc, hrest⟩ := List.map_eq_cons_iff.1 hrest
      obtain ⟨t, ts, rfl, hd, hrest⟩ := List.map_eq_cons_iff.1 hrest
      obtain rfl := List.map_eq_nil_iff.1 hrest
      rw [hp, octet?_eq_some_iff.1 ha, octet?_eq_some_iff.1 hb, octet?_eq_some_iff.1 hc,
        octet?_eq_some_iff.1 hd] at hwhole
      rw [← hwhole]
      simp [V4.toChars, List.intercalate]
    · contradiction
  · rintro rfl
    have hoctet : ∀ (n : UInt8), ∀ c ∈ octetChars n, (c == '.') = false := by
      intro n c hc
      refine beq_eq_false_iff_ne.2 ?_
      rintro rfl
      exact not_mem_octetChars (by decide) hc
    have hpieces : Text.pieces (· == '.') v.toChars
        = [octetChars v.a, octetChars v.b, octetChars v.c, octetChars v.d] := by
      simp only [V4.toChars, List.append_assoc, List.cons_append]
      rw [Text.pieces_append_cons (hoctet v.a) rfl, Text.pieces_append_cons (hoctet v.b) rfl,
        Text.pieces_append_cons (hoctet v.c) rfl, Text.pieces_of_forall_not (hoctet v.d)]
    have hread : ∀ n, octet? (octetChars n) = some n := fun n => octet?_eq_some_iff.2 rfl
    rw [V4.ofChars?, hpieces]
    simp [hread]

theorem V4.isDigit_or_dot_of_mem_toChars
    {v : V4} {c : Char} (h : c ∈ v.toChars) :
    c.isDigit = true ∨ c = '.' := by
  simp only [V4.toChars, List.mem_append, List.mem_cons] at h
  have hoctet : ∀ {n : UInt8}, c ∈ octetChars n → c.isDigit = true ∨ c = '.' := fun hc =>
    .inl (isDigit_of_mem_octetChars hc)
  rcases h with (((ha | rfl | hb) | rfl | hc) | rfl | hd)
  · exact hoctet ha
  · exact .inr rfl
  · exact hoctet hb
  · exact .inr rfl
  · exact hoctet hc
  · exact .inr rfl
  · exact hoctet hd

theorem V4.not_mem_toChars
    {v : V4} {c : Char} (hdigit : c.isDigit = false) (hdot : c ≠ '.') :
    c ∉ v.toChars := by
  intro hc
  rcases V4.isDigit_or_dot_of_mem_toChars hc with h | h
  · rw [h] at hdigit
    contradiction
  · exact hdot h

theorem V4.toChars_ne_nil (v : V4) :
    v.toChars ≠ [] := by
  simp [V4.toChars]

/-! ## IPv6 addresses -/

/-- Whether a character may stand in an IPv6 address in front of the zone. -/
def isBodyChar (c : Char) : Bool :=
  (Text.hexValue? c).isSome || c == ':' || c == '.'

theorem isBodyChar_of_isDigit
    {c : Char} (h : c.isDigit = true) :
    isBodyChar c = true := by
  have hrange : '0' ≤ c ∧ c ≤ '9' := by
    simpa [Char.isDigit, Char.le_def] using h
  simp [isBodyChar, Text.hexValue?, hrange]

/-- No blank stands in an address. -/
theorem not_blank_of_isBodyChar
    {c : Char} (h : isBodyChar c = true) :
    Text.isBlank c = false := by
  refine Bool.eq_false_iff.2 (fun hblank => ?_)
  have hnone : ∀ n ∈ Text.blanks, isBodyChar (Char.ofNat n) = false := by
    decide
  have hc := hnone _ (Text.mem_blanks_of_isBlank hblank)
  rw [Char.ofNat_toNat, h] at hc
  contradiction

theorem isBodyChar_of_v4
    {s : List Char} {v : V4}
    (h : V4.ofChars? s = some v) :
    ∀ c ∈ s, isBodyChar c = true := by
  obtain rfl := V4.ofChars?_eq_some_iff.1 h
  intro c hc
  rcases V4.isDigit_or_dot_of_mem_toChars hc with hdigit | rfl
  · exact isBodyChar_of_isDigit hdigit
  · rfl

/-- What is no hexadecimal digit spoils all that is read with it. -/
theorem hexValue_of_hexNumber
    {s : List Char} {n : Nat}
    (h : Text.hexNumber? s = some n) :
    ∀ c ∈ s, (Text.hexValue? c).isSome = true := by
  have hfold : ∀ (s : List Char) (acc : Option Nat),
      (s.foldl (fun acc c => do return 16 * (← acc) + (← Text.hexValue? c)) acc).isSome = true →
      acc.isSome = true ∧ ∀ c ∈ s, (Text.hexValue? c).isSome = true := by
    intro s
    induction s with
    | nil =>
        intro acc hsome
        exact ⟨hsome, by simp⟩
    | cons c s ih =>
        intro acc hsome
        obtain ⟨hstep, hs⟩ := ih _ hsome
        cases acc with
        | none =>
            contradiction
        | some number =>
            cases hdigit : Text.hexValue? c with
            | none =>
                simp [hdigit] at hstep
            | some digit =>
                exact ⟨rfl, List.forall_mem_cons.2 ⟨by rw [hdigit]; rfl, hs⟩⟩
  exact (hfold s (some 0) (Option.isSome_iff_exists.2 ⟨n, h⟩)).2

theorem isBodyChar_of_group
    {s : List Char} {n : UInt16}
    (h : group? s = some n) :
    ∀ c ∈ s, isBodyChar c = true := by
  unfold group? at h
  split at h
  · contradiction
  · obtain ⟨number, hnumber, -⟩ := Option.map_eq_some_iff.1 h
    intro c hc
    rw [isBodyChar, hexValue_of_hexNumber hnumber c hc]
    rfl

theorem isBodyChar_of_groupList
    {parts : List (List Char)} {groups : List UInt16}
    (h : groupList? parts = some groups) :
    ∀ part ∈ parts, ∀ c ∈ part, isBodyChar c = true := by
  induction parts generalizing groups with
  | nil =>
      simp
  | cons part parts ih =>
      obtain ⟨group, hgroup, h⟩ := Option.bind_eq_some_iff.1 h
      obtain ⟨more, hmore, -⟩ := Option.bind_eq_some_iff.1 h
      exact List.forall_mem_cons.2 ⟨isBodyChar_of_group hgroup, ih hmore⟩

theorem isBodyChar_of_groupListWithTail
    {parts : List (List Char)} {groups : List UInt16}
    (h : groupListWithTail? parts = some groups) :
    ∀ part ∈ parts, ∀ c ∈ part, isBodyChar c = true := by
  fun_induction groupListWithTail? parts generalizing groups with
  | case1 =>
      simp
  | case2 part =>
      cases hquad : V4.ofChars? part with
      | some v =>
          simpa using isBodyChar_of_v4 hquad
      | none =>
          rw [hquad] at h
          exact isBodyChar_of_groupList h
  | case3 part parts _ ih =>
      obtain ⟨group, hgroup, h⟩ := Option.bind_eq_some_iff.1 h
      obtain ⟨more, hmore, -⟩ := Option.bind_eq_some_iff.1 h
      exact List.forall_mem_cons.2 ⟨isBodyChar_of_group hgroup, ih hmore⟩

/-- Parts between colons hold all characters of a text that are no colons. -/
theorem isBodyChar_of_pieces
    {s : List Char}
    (h : ∀ part ∈ Text.pieces (· == ':') s, ∀ c ∈ part, isBodyChar c = true) :
    ∀ c ∈ s, isBodyChar c = true := by
  intro c hc
  by_cases hcolon : c = ':'
  · subst hcolon
    rfl
  · obtain ⟨part, hpart, hin⟩ := Text.mem_pieces (· == ':') hc (by simpa using hcolon)
    exact h part hpart c hin

theorem isBodyChar_of_groups
    {s : List Char} {groups : List UInt16}
    (h : groups? s = some groups) :
    ∀ c ∈ s, isBodyChar c = true := by
  unfold groups? at h
  split at h
  · rename_i hnil
    simp [hnil]
  · exact isBodyChar_of_pieces (isBodyChar_of_groupList h)

theorem isBodyChar_of_groupsWithTail
    {s : List Char} {groups : List UInt16}
    (h : groupsWithTail? s = some groups) :
    ∀ c ∈ s, isBodyChar c = true := by
  unfold groupsWithTail? at h
  split at h
  · rename_i hnil
    simp [hnil]
  · exact isBodyChar_of_pieces (isBodyChar_of_groupListWithTail h)

theorem eq_of_cutAtGap
    (s : List Char) :
    s = (cutAtGap s).1 ++ ((cutAtGap s).2.map ([':', ':'] ++ ·)).getD [] := by
  fun_induction cutAtGap s with
  | case1 =>
      rfl
  | case2 rest =>
      rfl
  | case3 c rest _ before after hcut ih =>
      rw [hcut] at ih
      rw [List.cons_append, ← ih]

/-- An IPv6 address is made of hexadecimal digits, colons and dots. -/
theorem isBodyChar_of_eightGroups
    {s : List Char} {g : { groups : List UInt16 // groups.length = 8 }}
    (h : eightGroups? s = some g) :
    ∀ c ∈ s, isBodyChar c = true := by
  have hcut := eq_of_cutAtGap s
  unfold eightGroups? at h
  split at h
  · rename_i all hgap
    obtain ⟨groups, hgroups, -⟩ := Option.bind_eq_some_iff.1 h
    rw [hgap] at hcut
    obtain rfl : s = all := by simpa using hcut
    exact isBodyChar_of_groupsWithTail hgroups
  · rename_i before after hgap
    obtain ⟨high, hhigh, h⟩ := Option.bind_eq_some_iff.1 h
    obtain ⟨low, hlow, -⟩ := Option.bind_eq_some_iff.1 h
    rw [hgap] at hcut
    intro c hc
    rw [hcut] at hc
    simp only [Option.map_some, Option.getD_some, List.mem_append, List.mem_cons, List.not_mem_nil,
      or_false] at hc
    rcases hc with hc | (rfl | rfl) | hc
    · exact isBodyChar_of_groups hhigh c hc
    · rfl
    · rfl
    · exact isBodyChar_of_groupsWithTail hlow c hc

/-- An IPv6 address is spelled by its groups, and by its zone behind a percent sign if it has one. -/
theorem V6.cases_ofChars
    {s : List Char} {v : V6}
    (h : V6.ofChars? s = some v) :
    ∃ body, (∀ c ∈ body, isBodyChar c = true) ∧ ':' ∈ body
      ∧ ((v.zone = none ∧ s = body) ∨ ∃ zone, v.zone = some zone ∧ s = body ++ '%' :: zone) := by
  obtain ⟨-, body, hbody, hspelled⟩ := V6.exists_body h
  exact ⟨body, isBodyChar_of_eightGroups hbody, colon_of_eightGroups hbody, hspelled⟩

end Address
end Killswitch
