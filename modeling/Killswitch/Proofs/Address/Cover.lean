import Killswitch.Address.Literal
import Killswitch.Proofs.Text.Pieces
import Killswitch.Ruleset.Basic

/-!
# What names in rules cover

A name in a rule is an address or a network. An address covers itself. A network is spelled as an address
and the number of its leading bits that count, with a slash between them; it covers the addresses that
agree with it in these bits. Octets that are left out at the end of an IPv4 network are zero.

Every other name covers nothing.

**Results.**
* `Network.ofString?`, `Network.contains`: networks and the addresses in them;
* `covers`: the addresses that a name covers;
* `V6.exists_body`: how an IPv6 address is spelled;
* `not_colon_of_v4`, `colon_of_v6`: the two families have no spelling in common;
* `family_of_covers`: all that a name covers is of the family that the name is taken for.
-/

namespace Killswitch

def Family.width : Family → Nat
  | .inet => 32
  | .inet6 => 128

namespace Address

deriving instance DecidableEq for V6
deriving instance DecidableEq for Literal

/-- The 128-bit number of an address. -/
def V6.toNat (v : V6) : Nat :=
  v.groups.foldl (fun n group => n * 65536 + group.toNat) 0

def Literal.family : Literal → Family
  | .v4 _ => .inet
  | .v6 _ => .inet6

/-- The number of an address. -/
def Literal.toNat : Literal → Nat
  | .v4 v => v.toNat
  | .v6 v => v.toNat

/-! ## Networks -/

/-- A network: an address in it, and the number of leading bits that its addresses have in common. -/
structure Network where
  base : Literal
  width : Nat

/-- The IPv4 address that some text spells, where octets at its end may be left out. -/
def V4.ofShortChars? (s : List Char) : Option V4 :=
  let absent := 4 - (Text.pieces (· == '.') s).length
  V4.ofChars? (s ++ (List.replicate absent ['.', '0']).flatten)

/-- The network that some text spells. -/
def Network.ofString? (s : String) : Option Network :=
  match Text.cutAt '/' s.toList with
  | (_, none) => none
  | (_, some []) => none
  | (base, some width) => do
      let width ← decimal? width
      let base ← (V4.ofShortChars? base).map .v4 <|> (V6.ofChars? base).map .v6
      if width ≤ base.family.width then some ⟨base, width⟩ else none

def Network.contains (n : Network) (a : Literal) : Bool :=
  let rest := n.base.family.width - n.width
  a.family = n.base.family && a.toNat >>> rest = n.base.toNat >>> rest

/-- Whether a name covers an address. -/
def covers (name : String) (a : Literal) : Bool :=
  match Literal.ofString? name, Network.ofString? name with
  | some address, _ => address = a
  | none, some network => network.contains a
  | none, none => false

example : covers "172.16/12" (.v4 ⟨172, 31, 0, 1⟩) = true := by
  decide

/-! ## Spellings of the families -/

theorem isDigit_of_decimal
    {s : List Char} {n : Nat}
    (h : decimal? s = some n) :
    ∀ c ∈ s, c.isDigit = true := by
  unfold decimal? at h
  split at h
  · rename_i hall
    exact List.all_eq_true.1 hall
  · contradiction

theorem isDigit_of_octet
    {s : List Char} {n : UInt8}
    (h : octet? s = some n) :
    ∀ c ∈ s, c.isDigit = true := by
  unfold octet? at h
  split at h
  · contradiction
  · contradiction
  · rename_i hdecimal
    exact isDigit_of_decimal hdecimal

/-- No IPv4 address is spelled with a colon. -/
theorem not_colon_of_v4
    {s : List Char} {v : V4}
    (h : V4.ofChars? s = some v) :
    ':' ∉ s := by
  intro hcolon
  obtain ⟨piece, hpiece, hin⟩ := Text.mem_pieces (· == '.') hcolon (by decide)
  have hoctets : ∃ n, octet? piece = some n := by
    unfold V4.ofChars? at h
    split at h
    · rename_i a b c d hall
      have hmem : octet? piece ∈ [some a, some b, some c, some d] :=
        hall ▸ List.mem_map_of_mem hpiece
      simp only [List.mem_cons, List.not_mem_nil, or_false] at hmem
      rcases hmem with hn | hn | hn | hn
      · exact ⟨a, hn⟩
      · exact ⟨b, hn⟩
      · exact ⟨c, hn⟩
      · exact ⟨d, hn⟩
    · contradiction
  obtain ⟨n, hn⟩ := hoctets
  exact absurd (isDigit_of_octet hn ':' hin) (by decide)

theorem cutAtGap_of_not_colon
    {s : List Char}
    (h : ':' ∉ s) :
    cutAtGap s = (s, none) := by
  induction s with
  | nil =>
      rfl
  | cons c s ih =>
      rw [List.mem_cons, not_or] at h
      have hs := ih h.2
      unfold cutAtGap
      split
      · contradiction
      · rename_i heq
        simp at heq
        simp_all
      · rename_i heq
        simp_all

/-- Without a colon there are no eight groups. -/
theorem eightGroups_of_not_colon
    {s : List Char}
    (h : ':' ∉ s) :
    eightGroups? s = none := by
  have hpieces : Text.pieces (· == ':') s = [s] :=
    Text.pieces_of_forall_not (by
      intro c hc
      simpa using fun heq : c = ':' => h (heq ▸ hc))
  -- a single part is one group, or two if it is a dotted quad
  have hfew : ∀ groups, groupsWithTail? s = some groups → groups.length ≠ 8 := by
    intro groups hgroups
    unfold groupsWithTail? at hgroups
    split at hgroups
    · obtain rfl := Option.some.inj hgroups
      decide
    · rw [hpieces, groupListWithTail?] at hgroups
      cases hquad : V4.ofChars? s with
      | some v =>
          rw [hquad] at hgroups
          obtain rfl : v.groups = groups := Option.some.inj hgroups
          simp [V4.groups]
      | none =>
          rw [hquad] at hgroups
          obtain ⟨group, -, hgroup⟩ := Option.bind_eq_some_iff.1 hgroups
          obtain rfl := Option.some.inj hgroup
          simp
  unfold eightGroups?
  rw [cutAtGap_of_not_colon h]
  cases hgroups : groupsWithTail? s with
  | none =>
      simp [hgroups]
  | some groups =>
      simp [hgroups, hfew groups hgroups]

/-- An IPv6 address is spelled by its eight groups, and by its zone behind a percent sign if it has one. -/
theorem V6.exists_body
    {s : List Char} {v : V6}
    (h : V6.ofChars? s = some v) :
    '/' ∉ s ∧ ∃ body, eightGroups? body = some ⟨v.groups, v.eight⟩
      ∧ ((v.zone = none ∧ s = body) ∨ ∃ zone, v.zone = some zone ∧ s = body ++ '%' :: zone) := by
  unfold V6.ofChars? at h
  split at h
  · contradiction
  · rename_i hslash
    refine ⟨by simpa using hslash, ?_⟩
    split at h
    · rename_i body hcut
      obtain ⟨g, hg, rfl⟩ := Option.map_eq_some_iff.1 h
      exact ⟨body, hg, .inl ⟨rfl, (Text.eq_of_cutAt_none hcut).symm⟩⟩
    · rename_i body text hcut
      obtain ⟨zone, hzone, h⟩ := Option.bind_eq_some_iff.1 h
      obtain ⟨g, hg, h⟩ := Option.bind_eq_some_iff.1 h
      obtain rfl := Option.some.inj h
      have htext : text = zone := by
        unfold zone? at hzone
        split at hzone
        · contradiction
        · exact Option.some.inj hzone
      exact ⟨body, hg, .inr ⟨zone, rfl, htext ▸ Text.eq_of_cutAt hcut⟩⟩

theorem colon_of_eightGroups
    {s : List Char} {g : { groups : List UInt16 // groups.length = 8 }}
    (h : eightGroups? s = some g) :
    ':' ∈ s := by
  refine Decidable.byContradiction (fun hcolon => ?_)
  rw [eightGroups_of_not_colon hcolon] at h
  contradiction

/-- Every IPv6 address is spelled with a colon. -/
theorem colon_of_v6
    {s : List Char} {v : V6}
    (h : V6.ofChars? s = some v) :
    ':' ∈ s := by
  obtain ⟨-, body, hbody, ⟨-, rfl⟩ | ⟨zone, -, rfl⟩⟩ := V6.exists_body h
  · exact colon_of_eightGroups hbody
  · exact List.mem_append_left _ (colon_of_eightGroups hbody)

theorem ofDestination_eq_inet
    {name : String}
    (h : ':' ∉ name.toList) :
    Family.ofDestination name = .inet := by
  simp [Family.ofDestination, h]

theorem ofDestination_eq_inet6
    {name : String}
    (h : ':' ∈ name.toList) :
    Family.ofDestination name = .inet6 := by
  simp [Family.ofDestination, h]

/-- An address is of the family that its spelling is taken for. -/
theorem Literal.family_eq
    {name : String} {a : Literal}
    (h : Literal.ofString? name = some a) :
    a.family = .ofDestination name := by
  unfold Literal.ofString? at h
  split at h
  · rename_i v hv
    obtain rfl := Option.some.inj h
    exact (ofDestination_eq_inet (not_colon_of_v4 hv)).symm
  · obtain ⟨v, hv, rfl⟩ := Option.map_eq_some_iff.1 h
    exact (ofDestination_eq_inet6 (colon_of_v6 hv)).symm

/-- A network is of the family that its spelling is taken for. -/
theorem Network.family_eq
    {name : String} {n : Network}
    (h : Network.ofString? name = some n) :
    n.base.family = .ofDestination name := by
  unfold Network.ofString? at h
  split at h
  · contradiction
  · contradiction
  · rename_i base digits _ hcut
    obtain ⟨width, hwidth, h⟩ := Option.bind_eq_some_iff.1 h
    obtain ⟨address, haddress, h⟩ := Option.bind_eq_some_iff.1 h
    split at h
    · obtain rfl := Option.some.inj h
      have hname := Text.eq_of_cutAt hcut
      cases hshort : V4.ofShortChars? base with
      | some v =>
          rw [hshort] at haddress
          obtain rfl := Option.some.inj haddress
          refine (ofDestination_eq_inet ?_).symm
          have hbase : ':' ∉ base := fun hin =>
            not_colon_of_v4 hshort (List.mem_append_left _ hin)
          have hdigits : ':' ∉ digits := fun hin =>
            absurd (isDigit_of_decimal hwidth ':' hin) (by decide)
          simp [hname, hbase, hdigits]
      | none =>
          rw [hshort] at haddress
          obtain ⟨v, hv, rfl⟩ := Option.map_eq_some_iff.1 haddress
          refine (ofDestination_eq_inet6 ?_).symm
          simp [hname, colon_of_v6 hv]
    · contradiction

/-- All that a name covers is of the family that the name is taken for. -/
theorem family_of_covers
    {name : String} {a : Literal}
    (h : covers name a = true) :
    a.family = .ofDestination name := by
  unfold covers at h
  split at h
  · rename_i address _ haddress
    rw [← of_decide_eq_true h]
    exact Literal.family_eq haddress
  · rename_i network _ hnetwork
    rw [← Network.family_eq hnetwork]
    exact of_decide_eq_true (Bool.and_eq_true_iff.1 h).1
  · contradiction

end Address
end Killswitch
