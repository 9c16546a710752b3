import Killswitch.Proofs.Address.Spelling

/-!
# Families, zones and numbers of addresses

A ruleset tells the families of its destinations apart by their colons, which takes no more than a look at the
text. For texts that spell addresses this is the family of the address, since no text spells addresses of both.

**Zones.** An address without its zone is still an address, of the same groups. What stands in front of the first
percent sign is its spelling: no character of the groups is a percent sign or a slash.

**Numbers.** An IPv4 address is its number, and it has one spelling, so texts that spell the same number are equal.
An IPv6 address has many.

**Results.**
* `Literal.ofString?_eq_v4_iff`, `Literal.ofString?_eq_v6_iff`: the two readers by what a literal is;
* `IsV4`, `IsV6`, `not_isV6_of_isV4`: no text spells addresses of both families;
* `ofDestination_eq_inet_iff`, `ofDestination_eq_inet6_iff`: the family that a literal address is taken for;
* `Literal.ofString?_before`, `isLiteral_before`: an address that is cut at its zone;
* `V4.toNat_injective`, `V4.eq_of_toNat_eq`: IPv4 addresses and their texts by their numbers.
-/

namespace Killswitch
namespace Address

/-! ## The family of a literal -/

section Families

variable {name : String}

theorem Literal.ofString?_eq_v4_iff
    {v : V4} :
    Literal.ofString? name = some (.v4 v) ↔ V4.ofChars? name.toList = some v := by
  unfold Literal.ofString?
  cases V4.ofChars? name.toList with
  | some w =>
      simp
  | none =>
      simp

/-- What is read as an IPv6 address is not read as an IPv4 address before. -/
theorem Literal.ofString?_eq_v6_iff
    {v : V6} :
    Literal.ofString? name = some (.v6 v) ↔ V6.ofChars? name.toList = some v := by
  unfold Literal.ofString?
  cases hv4 : V4.ofChars? name.toList with
  | some w =>
      have hnone : V6.ofChars? name.toList ≠ some v := fun hv6 =>
        not_colon_of_v4 hv4 (colon_of_v6 hv6)
      simpa using hnone
  | none =>
      simp

/-- A text spells an IPv4 address. -/
def IsV4 (name : String) : Prop :=
  ∃ v, V4.ofChars? name.toList = some v

/-- A text spells an IPv6 address. -/
def IsV6 (name : String) : Prop :=
  ∃ v, V6.ofChars? name.toList = some v

theorem isLiteral_iff :
    isLiteral name = true ↔ ∃ a, Literal.ofString? name = some a :=
  Option.isSome_iff_exists

theorem isLiteral_of_isV4
    (h : IsV4 name) :
    isLiteral name = true := by
  obtain ⟨v, hv⟩ := h
  exact isLiteral_iff.2 ⟨.v4 v, Literal.ofString?_eq_v4_iff.2 hv⟩

/-- No text spells addresses of both families. -/
theorem not_isV6_of_isV4
    (h : IsV4 name) :
    ¬ IsV6 name := by
  rintro ⟨w, hw⟩
  obtain ⟨v, hv⟩ := h
  exact not_colon_of_v4 hv (colon_of_v6 hw)

theorem isV4_iff_family
    {a : Literal} (h : Literal.ofString? name = some a) :
    IsV4 name ↔ a.family = .inet := by
  cases a with
  | v4 v =>
      exact iff_of_true ⟨v, Literal.ofString?_eq_v4_iff.1 h⟩ rfl
  | v6 v =>
      refine iff_of_false (fun hv4 => ?_) (by simp [Literal.family])
      exact not_isV6_of_isV4 hv4 ⟨v, Literal.ofString?_eq_v6_iff.1 h⟩

theorem isV6_iff_family
    {a : Literal} (h : Literal.ofString? name = some a) :
    IsV6 name ↔ a.family = .inet6 := by
  cases a with
  | v4 v =>
      refine iff_of_false (fun hv6 => ?_) (by simp [Literal.family])
      exact not_isV6_of_isV4 ⟨v, Literal.ofString?_eq_v4_iff.1 h⟩ hv6
  | v6 v =>
      exact iff_of_true ⟨v, Literal.ofString?_eq_v6_iff.1 h⟩ rfl

end Families

/-! ## Zones -/

def Literal.withoutZone : Literal → Literal
  | .v4 v => .v4 v
  | .v6 v => .v6 { v with zone := none }

@[simp] theorem Literal.family_withoutZone (a : Literal) :
    a.withoutZone.family = a.family := by
  cases a <;> rfl

theorem not_percent_of_isBodyChar
    {s : List Char} (h : ∀ c ∈ s, isBodyChar c = true) :
    '%' ∉ s :=
  fun hin => absurd (h '%' hin) (by decide)

/-- The groups of an IPv6 address are spelled in front of its zone. -/
theorem V6.ofChars?_cutAt
    {s : List Char} {v : V6}
    (h : V6.ofChars? s = some v) :
    V6.ofChars? (Text.cutAt '%' s).1 = some { v with zone := none } := by
  obtain ⟨hslash, body, hbody, hspelled⟩ := V6.exists_body h
  have hpercent := not_percent_of_isBodyChar (isBodyChar_of_eightGroups hbody)
  have hcut : (Text.cutAt '%' s).1 = body := by
    rcases hspelled with ⟨-, rfl⟩ | ⟨zone, -, rfl⟩
    · rw [Text.cutAt_of_not_mem hpercent]
    · rw [Text.cutAt_append hpercent]
  have hfront : '/' ∉ body := fun hin =>
    hslash ((Text.cutAt_fst_prefix '%' s).subset (hcut ▸ hin))
  simp [hcut, V6.ofChars?, hfront, Text.cutAt_of_not_mem hpercent, hbody]

/-- An address that is cut at its first percent sign is the same one without its zone. -/
theorem Literal.ofString?_before
    {name : String} {a : Literal}
    (h : Literal.ofString? name = some a) :
    Literal.ofString? (Text.before '%' name) = some a.withoutZone := by
  cases a with
  | v4 v =>
      have hchars := isBodyChar_of_v4 (Literal.ofString?_eq_v4_iff.1 h)
      have hsame : Text.before '%' name = name := by
        rw [Text.before, Text.cutAt_of_not_mem (not_percent_of_isBodyChar hchars), String.ofList_toList]
      rw [hsame, h, Literal.withoutZone]
  | v6 v =>
      refine Literal.ofString?_eq_v6_iff.2 ?_
      rw [Text.before, String.toList_ofList]
      exact V6.ofChars?_cutAt (Literal.ofString?_eq_v6_iff.1 h)

theorem isLiteral_before
    {name : String} (h : isLiteral name = true) :
    isLiteral (Text.before '%' name) = true := by
  obtain ⟨a, ha⟩ := isLiteral_iff.1 h
  exact isLiteral_iff.2 ⟨a.withoutZone, Literal.ofString?_before ha⟩

/-! ## The family that a text is taken for -/

section Taken

variable {name : String}

/-- An IPv4 address is taken for one, and nothing else that is a literal address. -/
theorem ofDestination_eq_inet_iff
    (h : isLiteral name = true) :
    Family.ofDestination name = .inet ↔ IsV4 name := by
  obtain ⟨a, ha⟩ := isLiteral_iff.1 h
  rw [isV4_iff_family ha, Literal.family_eq ha]

/-- An IPv6 address is taken for one, and nothing else that is a literal address. -/
theorem ofDestination_eq_inet6_iff
    (h : isLiteral name = true) :
    Family.ofDestination name = .inet6 ↔ IsV6 name := by
  obtain ⟨a, ha⟩ := isLiteral_iff.1 h
  rw [isV6_iff_family ha, Literal.family_eq ha]

end Taken

/-! ## Numbers -/

/-- Different IPv4 addresses have different numbers: the octets are the digits of the number to the base 256. -/
theorem V4.toNat_injective
    {v w : V4} (h : v.toNat = w.toNat) :
    v = w := by
  obtain ⟨a, b, c, d⟩ := v
  obtain ⟨a', b', c', d'⟩ := w
  have hb := b.toNat_lt
  have hb' := b'.toNat_lt
  have hc := c.toNat_lt
  have hc' := c'.toNat_lt
  have hd := d.toNat_lt
  have hd' := d'.toNat_lt
  simp only [V4.toNat] at h
  have hsame : a.toNat = a'.toNat ∧ b.toNat = b'.toNat ∧ c.toNat = c'.toNat ∧ d.toNat = d'.toNat := by
    omega
  rw [UInt8.toNat_inj.1 hsame.1, UInt8.toNat_inj.1 hsame.2.1, UInt8.toNat_inj.1 hsame.2.2.1,
    UInt8.toNat_inj.1 hsame.2.2.2]

/-- Texts that spell IPv4 addresses of the same number are equal. -/
theorem V4.eq_of_toNat_eq
    {name other : String} {v w : V4}
    (hv : V4.ofChars? name.toList = some v)
    (hw : V4.ofChars? other.toList = some w)
    (h : v.toNat = w.toNat) :
    name = other := by
  obtain rfl := V4.toNat_injective h
  exact String.toList_injective ((V4.ofChars?_eq_some_iff.1 hv).trans (V4.ofChars?_eq_some_iff.1 hw).symm)

end Address
end Killswitch
