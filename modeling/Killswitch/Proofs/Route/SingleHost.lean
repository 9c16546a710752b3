import Killswitch.Proofs.Address.Family
import Killswitch.Proofs.Route.Selection

/-!
# Destinations that are single hosts

A destination leads to a single host if it is the address of the host, which a slash may follow, and the full
width the slash. The address has to be a strict quad: four decimal numbers between dots, each of them written
with at most three digits, not above 255, and without a zero in front. What is left out of such a quad, as in
the destinations of networks, is not put back.

The address is read into its octets, which are then written out again. A strict quad comes back as it was,
since its numbers are told by their digits and their digits by the numbers.

**Results.**
* `isOctet_iff_exists`, `isQuad_iff_exists`: the strict spellings are those that octets and addresses have;
* `isV4_iff_isQuad`: the texts that spell IPv4 addresses are the strict quads;
* `leadsTo_iff_exists`, `LeadsTo.before_eq`: the destinations of single hosts, and their parts before a slash;
* `hostAddress_eq_iff`, `hostAddress_eq_empty_iff`: the address of a destination, and the destinations without one;
* `hostAddress_iff_leadsTo`: the address of a destination is that of the single host that it leads to.
-/

namespace Killswitch
namespace Address

/-! ## Strict quads -/

/-- A decimal number that is spelled strictly: at most three ASCII digits, not above 255, and without a zero in
front of the others. -/
@[mk_iff] structure IsOctet (s : List Char) : Prop where
  nonempty : s ≠ []
  digits : ∀ c ∈ s, c.isDigit = true
  short : s.length ≤ 3
  front : s = ['0'] ∨ s.head? ≠ some '0'
  small : Nat.ofDigitChars 10 s 0 ≤ 255

instance : DecidablePred IsOctet := fun s =>
  -- the digits of the number are looked at, not all characters
  have : Decidable (∀ c ∈ s, c.isDigit = true) := List.decidableBAll (·.isDigit = true) s
  decidable_of_iff _ (isOctet_iff s).symm

/-- A strict quad: four strictly spelled numbers between dots. -/
def IsQuad (s : List Char) : Prop :=
  ∃ parts : List (List Char), parts.length = 4 ∧ (∀ part ∈ parts, IsOctet part) ∧ s = ['.'].intercalate parts

section Quads

variable {s : List Char} {name : String}

/-- An octet is read from strictly spelled numbers only. -/
theorem isOctet_of_octet?
    {n : UInt8} (h : octet? s = some n) :
    IsOctet s := by
  unfold octet? at h
  split at h
  · contradiction
  · contradiction
  · rename_i first more number hdecimal
    split at h
    · rename_i hstrict
      obtain ⟨hshort, hfront, hsmall⟩ := hstrict
      obtain ⟨hdigits, rfl⟩ := decimal?_eq_some_iff.1 hdecimal
      refine ⟨List.cons_ne_nil _ _, hdigits, Nat.succ_le_succ hshort, ?_, hsmall⟩
      by_cases hzero : first = '0'
      · subst hzero
        exact .inl (congrArg ('0' :: ·) (hfront.resolve_right (fun hne => hne rfl)))
      · exact .inr (by simpa using hzero)
    · contradiction

/-- Every strictly spelled number is read as an octet. -/
theorem exists_octet?_of_isOctet
    (h : IsOctet s) :
    ∃ n, octet? s = some n := by
  cases s with
  | nil =>
      exact absurd rfl h.nonempty
  | cons first more =>
      have hdecimal := decimal?_eq_some_iff.2 ⟨h.digits, rfl⟩
      have hshort : more.length ≤ 2 := Nat.le_of_succ_le_succ h.short
      have hfront : more = [] ∨ first ≠ '0' := by
        rcases h.front with hzero | hhead
        · exact .inl (List.cons.inj hzero).2
        · exact .inr (by simpa using hhead)
      refine ⟨UInt8.ofNat (Nat.ofDigitChars 10 (first :: more) 0), ?_⟩
      unfold octet?
      rw [hdecimal]
      exact if_pos ⟨hshort, hfront, h.small⟩

/-- The strictly spelled numbers are the digits of the octets. -/
theorem isOctet_iff_exists :
    IsOctet s ↔ ∃ n, s = octetChars n := by
  constructor
  · intro h
    obtain ⟨n, hn⟩ := exists_octet?_of_isOctet h
    exact ⟨n, octet?_eq_some_iff.1 hn⟩
  · rintro ⟨n, hn⟩
    exact isOctet_of_octet? (octet?_eq_some_iff.2 hn)

/-- The strict quads are the texts of the addresses. -/
theorem isQuad_iff_exists :
    IsQuad s ↔ ∃ v : V4, s = v.toChars := by
  constructor
  · rintro ⟨parts, hlength, hparts, rfl⟩
    match parts, hlength with
    | [p, q, r, t], _ =>
        obtain ⟨a, rfl⟩ := isOctet_iff_exists.1 (hparts p (by simp))
        obtain ⟨b, rfl⟩ := isOctet_iff_exists.1 (hparts q (by simp))
        obtain ⟨c, rfl⟩ := isOctet_iff_exists.1 (hparts r (by simp))
        obtain ⟨d, rfl⟩ := isOctet_iff_exists.1 (hparts t (by simp))
        exact ⟨⟨a, b, c, d⟩, by simp [V4.toChars, List.intercalate]⟩
  · rintro ⟨v, rfl⟩
    refine ⟨[v.a, v.b, v.c, v.d].map octetChars, rfl, ?_, by simp [V4.toChars, List.intercalate]⟩
    intro part hpart
    obtain ⟨n, -, rfl⟩ := List.mem_map.1 hpart
    exact isOctet_iff_exists.2 ⟨n, rfl⟩

theorem isV4_iff_isQuad :
    IsV4 name ↔ IsQuad name.toList := by
  rw [isQuad_iff_exists]
  exact exists_congr (fun v => V4.ofChars?_eq_some_iff)

end Quads

end Address

namespace Route

open Address

/-! ## Single hosts -/

/-- A destination leads to the single host of an address: it is the address in its strict spelling, or has a
slash, or a slash and the full width, behind it. -/
structure LeadsTo (destination address : String) : Prop where
  quad : IsQuad address.toList
  spelled : destination = address ∨ destination = address ++ "/" ∨ destination = address ++ "/32"

section SingleHosts

variable {destination address : String}

theorem leadsTo_iff_exists :
    LeadsTo destination address ↔ ∃ v, IsHost destination v ∧ address = String.ofList v.toChars := by
  constructor
  · rintro ⟨hquad, hspelled⟩
    obtain ⟨v, hv⟩ := isQuad_iff_exists.1 hquad
    refine ⟨v, ?_, String.toList_injective (by rw [hv, String.toList_ofList])⟩
    rcases hspelled with rfl | rfl | rfl
    · exact ⟨"", by simp, by simp [hv]⟩
    · exact ⟨"/", by simp, by simp [hv]⟩
    · exact ⟨"/32", by simp, by simp [hv]⟩
  · rintro ⟨v, ⟨width, hwidth, hspelled⟩, rfl⟩
    have hdestination : destination = String.ofList v.toChars ++ width :=
      String.toList_injective (by simp [hspelled])
    refine ⟨isQuad_iff_exists.2 ⟨v, String.toList_ofList⟩, ?_⟩
    simp only [List.mem_cons, List.not_mem_nil, or_false] at hwidth
    rcases hwidth with rfl | rfl | rfl
    · exact .inl (by simpa using hdestination)
    · exact .inr (.inl hdestination)
    · exact .inr (.inr hdestination)

/-- The address is the part of the destination in front of the slash. -/
theorem LeadsTo.before_eq
    (h : LeadsTo destination address) :
    Text.before '/' destination = address := by
  obtain ⟨v, hhost, rfl⟩ := leadsTo_iff_exists.1 h
  obtain ⟨width, hcut, -⟩ := cutAt_of_isHost hhost
  rw [Text.before, hcut]

theorem LeadsTo.isV4
    (h : LeadsTo destination address) :
    IsV4 address :=
  isV4_iff_isQuad.2 h.quad

theorem hostAddress_eq_iff
    (hne : address ≠ "") :
    hostAddress destination = address ↔ LeadsTo destination address := by
  rw [leadsTo_iff_exists]
  constructor
  · rintro rfl
    obtain ⟨v, hv⟩ := hostAddress_ne_iff.1 hne
    exact ⟨v, hv, hostAddress_of_isHost hv⟩
  · rintro ⟨v, hv, rfl⟩
    exact hostAddress_of_isHost hv

theorem LeadsTo.ne_empty
    (h : LeadsTo destination address) :
    address ≠ "" := by
  obtain ⟨v, -, rfl⟩ := leadsTo_iff_exists.1 h
  exact ofList_toChars_ne_empty

theorem hostAddress_eq_empty_iff :
    hostAddress destination = "" ↔ ∀ address, ¬ LeadsTo destination address := by
  constructor
  · intro hempty address hleads
    have haddress := (hostAddress_eq_iff hleads.ne_empty).2 hleads
    exact hleads.ne_empty (haddress.symm.trans hempty)
  · intro hnone
    by_contra hne
    exact hnone _ ((hostAddress_eq_iff hne).1 rfl)

example : hostAddress "192.168.1" = "" ∧ hostAddress "203.0.113/24" = "" := by
  decide

/-- Every destination has an address or the empty text in its place. It has the address of the single host that
it leads to, which is then its part in front of the slash, a literal address, and taken for an IPv4 one. It has
the empty text if it leads to no single host. -/
theorem hostAddress_iff_leadsTo (destination : String) :
    (∀ address, hostAddress destination = address ∧ address ≠ "" ↔ LeadsTo destination address)
      ∧ (∀ address, LeadsTo destination address →
          address = Text.before '/' destination
            ∧ isLiteral address = true
            ∧ (Family.ofDestination address).toString = "inet")
      ∧ ((∀ address, ¬ LeadsTo destination address) → hostAddress destination = "") := by
  refine ⟨?_, ?_, hostAddress_eq_empty_iff.2⟩
  · intro address
    constructor
    · rintro ⟨haddress, hne⟩
      exact (hostAddress_eq_iff hne).1 haddress
    · intro hleads
      exact ⟨(hostAddress_eq_iff hleads.ne_empty).2 hleads, hleads.ne_empty⟩
  · intro address hleads
    have hliteral := isLiteral_of_isV4 hleads.isV4
    have hfamily : Family.ofDestination address = .inet :=
      (ofDestination_eq_inet_iff hliteral).2 hleads.isV4
    exact ⟨hleads.before_eq.symm, hliteral, by rw [hfamily, Family.toString]⟩

end SingleHosts

/-- The full width behind the slash leads to a single host, whose address is the part in front of it. -/
theorem fullWidth_leads :
    LeadsTo "198.51.100.7/32" "198.51.100.7"
      ∧ hostAddress "198.51.100.7/32" = "198.51.100.7"
      ∧ (Family.ofDestination "198.51.100.7").toString = "inet" := by
  have hleads : LeadsTo "198.51.100.7/32" "198.51.100.7" :=
    ⟨⟨["198".toList, "51".toList, "100".toList, "7".toList], rfl, by decide, rfl⟩, .inr (.inr rfl)⟩
  obtain ⟨haddress, hshown, -⟩ := hostAddress_iff_leadsTo "198.51.100.7/32"
  exact ⟨hleads, ((haddress _).2 hleads).1, (hshown _ hleads).2.2⟩

end Route
end Killswitch
