import Killswitch.Text.Utf8

/-!
# Reading bytes as text

The bytes of a character open it with as many continuation bytes owed as it has, each of them lies in the
range that is awaited, and the bits that are read add up to the character. So the bytes of a text spell
that text.

A byte that is a character by itself continues no other one. Whatever bytes there are, those in front of it
and those behind it are read apart.

**Results.**
* `start_whole`, `start_two`, `start_three`, `start_four`: what the first byte of a character says;
* `decodeLossyFrom_encodeChar`: the bytes of a character are read as the character;
* `decodeLossy_encode`: the bytes of a text are read as the text;
* `decodeLossy_append_whole`: the bytes around one that is a character by itself.
-/

namespace Killswitch
namespace Text
namespace Utf8

/-! ## First bytes -/

section Start

variable {k : Nat}

theorem toNat_byte
    (hk : k < 0x100) :
    (UInt8.ofNat k).toNat = k := by
  simp [Nat.mod_eq_of_lt hk]

theorem byte_eq_iff
    {n : Nat} (hk : k < 0x100) (hn : n < 0x100) :
    UInt8.ofNat k = UInt8.ofNat n ↔ k = n := by
  rw [← UInt8.toNat_inj, toNat_byte hk, toNat_byte hn]

/-- The readings of a first byte by its number. -/
theorem start_byte
    (hk : k < 0x100) :
    start (UInt8.ofNat k) =
      if k < 0x80 then .whole (Char.ofNat k)
      else if k < 0xc2 then .wrong
      else if k < 0xe0 then .opens ⟨1, 0x80, 0xbf, k - 0xc0⟩
      else if k = 0xe0 then .opens ⟨2, 0xa0, 0xbf, 0⟩
      else if k = 0xed then .opens ⟨2, 0x80, 0x9f, 0xd⟩
      else if k < 0xf0 then .opens ⟨2, 0x80, 0xbf, k - 0xe0⟩
      else if k = 0xf0 then .opens ⟨3, 0x90, 0xbf, 0⟩
      else if k < 0xf4 then .opens ⟨3, 0x80, 0xbf, k - 0xf0⟩
      else if k = 0xf4 then .opens ⟨3, 0x80, 0x8f, 4⟩
      else .wrong := by
  have he0 : UInt8.ofNat k = 0xe0 ↔ k = 0xe0 := byte_eq_iff (n := 0xe0) hk (by omega)
  have hed : UInt8.ofNat k = 0xed ↔ k = 0xed := byte_eq_iff (n := 0xed) hk (by omega)
  have hf0 : UInt8.ofNat k = 0xf0 ↔ k = 0xf0 := byte_eq_iff (n := 0xf0) hk (by omega)
  have hf4 : UInt8.ofNat k = 0xf4 ↔ k = 0xf4 := byte_eq_iff (n := 0xf4) hk (by omega)
  simp only [start, UInt8.lt_iff_toNat_lt, toNat_byte hk, he0, hed, hf0, hf4]
  rfl

theorem start_whole
    (hk : k < 0x80) :
    start (UInt8.ofNat k) = .whole (Char.ofNat k) := by
  rw [start_byte (by omega), if_pos hk]

theorem start_two
    (hlow : 0xc2 ≤ k) (hhigh : k < 0xe0) :
    start (UInt8.ofNat k) = .opens ⟨1, 0x80, 0xbf, k - 0xc0⟩ := by
  rw [start_byte (by omega), if_neg (by omega), if_neg (by omega), if_pos hhigh]

/-- The range of the second byte of three depends on the first one. -/
theorem start_three
    (hlow : 0xe0 ≤ k) (hhigh : k < 0xf0) :
    start (UInt8.ofNat k) =
      .opens ⟨2, if k = 0xe0 then 0xa0 else 0x80, if k = 0xed then 0x9f else 0xbf, k - 0xe0⟩ := by
  rw [start_byte (by omega), if_neg (by omega), if_neg (by omega), if_neg (by omega)]
  by_cases he0 : k = 0xe0
  · subst he0
    rfl
  · by_cases hed : k = 0xed
    · subst hed
      rfl
    · simp only [if_neg he0, if_neg hed, if_pos hhigh]

/-- The range of the second byte of four depends on the first one. -/
theorem start_four
    (hlow : 0xf0 ≤ k) (hhigh : k < 0xf5) :
    start (UInt8.ofNat k) =
      .opens ⟨3, if k = 0xf0 then 0x90 else 0x80, if k = 0xf4 then 0x8f else 0xbf, k - 0xf0⟩ := by
  rw [start_byte (by omega), if_neg (by omega), if_neg (by omega), if_neg (by omega),
    if_neg (by omega), if_neg (by omega), if_neg (by omega)]
  by_cases hf0 : k = 0xf0
  · subst hf0
    rfl
  · by_cases hf4 : k = 0xf4
    · subst hf4
      rfl
    · simp only [if_neg hf0, if_neg hf4, if_pos (show k < 0xf4 by omega)]

end Start

/-! ## Continuation bytes -/

section Continue

variable {p : Pending} {k : Nat} {rest : List UInt8}

theorem bitsWith_byte
    (hk : k < 0x40) :
    p.bitsWith (UInt8.ofNat (k + 0x80)) = p.bits * 64 + k := by
  rw [Pending.bitsWith, toNat_byte (by omega)]
  omega

theorem decodeLossyFrom_opens
    {b : UInt8} (hstart : start b = .opens p) :
    decodeLossyFrom none (b :: rest) = decodeLossyFrom (some p) rest := by
  simp [decodeLossyFrom, step, fresh, hstart]

/-- A continuation byte that is not the last one. -/
theorem decodeLossyFrom_next
    {owed bits : Nat} {low high : UInt8}
    (haccepts : Pending.accepts ⟨owed + 2, low, high, bits⟩ (UInt8.ofNat (k + 0x80)) = true)
    (hk : k < 0x40) :
    decodeLossyFrom (some ⟨owed + 2, low, high, bits⟩) (UInt8.ofNat (k + 0x80) :: rest) =
      decodeLossyFrom (some ⟨owed + 1, 0x80, 0xbf, bits * 64 + k⟩) rest := by
  have hnot : ¬ owed + 2 ≤ 1 := by
    omega
  simp only [decodeLossyFrom, step, haccepts, if_true, if_neg hnot, List.nil_append, Pending.next,
    bitsWith_byte hk]
  rfl

/-- The last continuation byte. -/
theorem decodeLossyFrom_last
    {bits : Nat} {low high : UInt8}
    (haccepts : Pending.accepts ⟨1, low, high, bits⟩ (UInt8.ofNat (k + 0x80)) = true)
    (hk : k < 0x40) :
    decodeLossyFrom (some ⟨1, low, high, bits⟩) (UInt8.ofNat (k + 0x80) :: rest) =
      Char.ofNat (bits * 64 + k) :: decodeLossyFrom none rest := by
  simp only [decodeLossyFrom, step, haccepts, if_true, Nat.le_refl, bitsWith_byte hk]
  rfl

/-- The bytes that are accepted by their numbers. -/
theorem accepts_byte
    {n : Nat} (hn : n < 0x100)
    (hlow : p.low.toNat ≤ n) (hhigh : n ≤ p.high.toNat) :
    p.accepts (UInt8.ofNat n) = true := by
  simp only [Pending.accepts, UInt8.le_iff_toNat_le, toNat_byte hn, hlow, hhigh, decide_true,
    Bool.and_self]

/-- A continuation byte lies in the usual range. -/
theorem accepts_usual
    {owed bits : Nat} (hk : k < 0x40) :
    Pending.accepts ⟨owed, 0x80, 0xbf, bits⟩ (UInt8.ofNat (k + 0x80)) = true := by
  have hlow : UInt8.toNat 0x80 = 0x80 := rfl
  have hhigh : UInt8.toNat 0xbf = 0xbf := rfl
  exact accepts_byte (by omega) (by rw [hlow]; omega) (by rw [hhigh]; omega)

end Continue

/-! ## Characters -/

section Character

variable {n : Nat} {rest : List UInt8}

theorem decodeLossyFrom_one
    (hn : n < 0x80) :
    decodeLossyFrom none (UInt8.ofNat n :: rest) = Char.ofNat n :: decodeLossyFrom none rest := by
  simp [decodeLossyFrom, step, fresh, start_whole hn]

theorem decodeLossyFrom_two
    (hlow : 0x80 ≤ n) (hhigh : n < 0x800) :
    decodeLossyFrom none
        (UInt8.ofNat (n / 64 % 0x20 + 0xc0) :: UInt8.ofNat (n % 0x40 + 0x80) :: rest) =
      Char.ofNat n :: decodeLossyFrom none rest := by
  have hbits : (n / 64 % 0x20 + 0xc0 - 0xc0) * 64 + n % 0x40 = n := by
    omega
  rw [decodeLossyFrom_opens (start_two (by omega) (by omega)),
    decodeLossyFrom_last (accepts_usual (by omega)) (by omega), hbits]

/-- The second byte of three excludes what two bytes can spell, and what is no character. -/
theorem decodeLossyFrom_three
    (hlow : 0x800 ≤ n) (hhigh : n < 0x10000)
    (hchar : n < 0xd800 ∨ 0xdfff < n) :
    decodeLossyFrom none
        (UInt8.ofNat (n / 4096 % 0x10 + 0xe0) :: UInt8.ofNat (n / 64 % 0x40 + 0x80)
          :: UInt8.ofNat (n % 0x40 + 0x80) :: rest) =
      Char.ofNat n :: decodeLossyFrom none rest := by
  have hbits : ((n / 4096 % 0x10 + 0xe0 - 0xe0) * 64 + n / 64 % 0x40) * 64 + n % 0x40 = n := by
    omega
  rw [decodeLossyFrom_opens (start_three (by omega) (by omega)), decodeLossyFrom_next ?_ (by omega),
    decodeLossyFrom_last (accepts_usual (by omega)) (by omega), hbits]
  refine accepts_byte (by omega) ?_ ?_
  · dsimp only
    split
    · exact (show 0xa0 ≤ n / 64 % 0x40 + 0x80 by omega)
    · exact (show 0x80 ≤ n / 64 % 0x40 + 0x80 by omega)
  · dsimp only
    split
    · exact (show n / 64 % 0x40 + 0x80 ≤ 0x9f by omega)
    · exact (show n / 64 % 0x40 + 0x80 ≤ 0xbf by omega)

/-- The second byte of four excludes what three bytes can spell, and what is above all characters. -/
theorem decodeLossyFrom_four
    (hlow : 0x10000 ≤ n) (hhigh : n < 0x110000) :
    decodeLossyFrom none
        (UInt8.ofNat (n / 262144 % 0x08 + 0xf0) :: UInt8.ofNat (n / 4096 % 0x40 + 0x80)
          :: UInt8.ofNat (n / 64 % 0x40 + 0x80) :: UInt8.ofNat (n % 0x40 + 0x80) :: rest) =
      Char.ofNat n :: decodeLossyFrom none rest := by
  have hbits : (((n / 262144 % 0x08 + 0xf0 - 0xf0) * 64 + n / 4096 % 0x40) * 64 + n / 64 % 0x40) * 64
      + n % 0x40 = n := by
    omega
  rw [decodeLossyFrom_opens (start_four (by omega) (by omega)), decodeLossyFrom_next ?_ (by omega),
    decodeLossyFrom_next (accepts_usual (by omega)) (by omega),
    decodeLossyFrom_last (accepts_usual (by omega)) (by omega), hbits]
  refine accepts_byte (by omega) ?_ ?_
  · dsimp only
    split
    · exact (show 0x90 ≤ n / 4096 % 0x40 + 0x80 by omega)
    · exact (show 0x80 ≤ n / 4096 % 0x40 + 0x80 by omega)
  · dsimp only
    split
    · exact (show n / 4096 % 0x40 + 0x80 ≤ 0x8f by omega)
    · exact (show n / 4096 % 0x40 + 0x80 ≤ 0xbf by omega)

end Character

/-- The bytes of a character are read as the character. -/
theorem decodeLossyFrom_encodeChar
    (c : Char) (rest : List UInt8) :
    decodeLossyFrom none (String.utf8EncodeChar c ++ rest) = c :: decodeLossyFrom none rest := by
  have hc : Char.ofNat c.val.toNat = c :=
    Char.ofNat_toNat c
  have hvalid : c.val.toNat < 0xd800 ∨ (0xdfff < c.val.toNat ∧ c.val.toNat < 0x110000) :=
    c.valid
  rw [String.utf8EncodeChar]
  by_cases hone : c.val.toNat ≤ 0x7f
  · rw [if_pos hone]
    exact (decodeLossyFrom_one (by omega)).trans (congrArg (· :: _) hc)
  · rw [if_neg hone]
    by_cases htwo : c.val.toNat ≤ 0x7ff
    · rw [if_pos htwo]
      exact (decodeLossyFrom_two (by omega) (by omega)).trans (congrArg (· :: _) hc)
    · rw [if_neg htwo]
      by_cases hthree : c.val.toNat ≤ 0xffff
      · rw [if_pos hthree]
        exact (decodeLossyFrom_three (by omega) (by omega) (by omega)).trans (congrArg (· :: _) hc)
      · rw [if_neg hthree]
        exact (decodeLossyFrom_four (by omega) (by omega)).trans (congrArg (· :: _) hc)

/-- The bytes of a text are read as the text. -/
theorem decodeLossy_encode
    (s : List Char) :
    decodeLossy (encode s) = s := by
  induction s with
  | nil =>
      rfl
  | cons c s ih =>
      have hcons : encode (c :: s) = String.utf8EncodeChar c ++ encode s := by
        simp [encode]
      rw [hcons]
      exact (decodeLossyFrom_encodeChar c (encode s)).trans (congrArg (c :: ·) ih)

/-! ## Bytes that are characters -/

section Whole

variable {pending : Option Pending} {b : UInt8}

/-- What is pending awaits continuation bytes only. -/
def AwaitsContinuation (pending : Option Pending) : Prop :=
  ∀ p ∈ pending, 0x80 ≤ p.low

theorem awaits_of_start
    {p : Pending} (h : start b = .opens p) :
    0x80 ≤ p.low := by
  unfold start at h
  repeat' split at h
  all_goals first
    | contradiction
    | obtain rfl := Start.opens.inj h
      dsimp only
      decide

theorem awaits_fresh (b : UInt8) :
    AwaitsContinuation (fresh b).2 := by
  intro p hp
  unfold fresh at hp
  split at hp
  · contradiction
  · rename_i q hstart
    obtain rfl := Option.some.inj hp
    exact awaits_of_start hstart
  · contradiction

theorem awaits_step
    (pending : Option Pending) (b : UInt8) :
    AwaitsContinuation (step pending b).2 := by
  fun_cases step pending b with
  | case1 =>
      exact awaits_fresh b
  | case2 =>
      intro p hp
      contradiction
  | case3 p =>
      rintro q ⟨⟩
      exact UInt8.le_refl 0x80
  | case4 p =>
      rename_i hfresh
      have hopened := awaits_fresh b
      rwa [hfresh] at hopened

theorem fresh_whole
    (hb : b < 0x80) :
    fresh b = ([Char.ofNat b.toNat], none) := by
  rw [fresh, start, if_pos hb]

/-- A byte that is a character ends what is pending. -/
theorem decodeLossyFrom_cons_whole
    (hb : b < 0x80) (hpending : AwaitsContinuation pending) (t : List UInt8) :
    decodeLossyFrom pending (b :: t)
      = decodeLossyFrom pending [] ++ Char.ofNat b.toNat :: decodeLossyFrom none t := by
  cases pending with
  | none =>
      simp [decodeLossyFrom, step, fresh_whole hb]
  | some p =>
      have hlow : 0x80 ≤ p.low := hpending p rfl
      have hrefused : p.accepts b = false := by
        simp only [Pending.accepts, Bool.and_eq_false_iff, decide_eq_false_iff_not, UInt8.not_le]
        exact .inl (UInt8.lt_of_lt_of_le hb hlow)
      simp [decodeLossyFrom, step, hrefused, fresh_whole hb]

theorem decodeLossyFrom_append_whole
    (hb : b < 0x80) (hpending : AwaitsContinuation pending) (s t : List UInt8) :
    decodeLossyFrom pending (s ++ b :: t)
      = decodeLossyFrom pending s ++ Char.ofNat b.toNat :: decodeLossyFrom none t := by
  induction s generalizing pending with
  | nil =>
      exact decodeLossyFrom_cons_whole hb hpending t
  | cons c s ih =>
      rw [List.cons_append, decodeLossyFrom, decodeLossyFrom]
      dsimp only
      rw [ih (awaits_step pending c), List.append_assoc]

/-- The bytes in front of one that is a character and those behind it are read apart. -/
theorem decodeLossy_append_whole
    (hb : b < 0x80) (s t : List UInt8) :
    decodeLossy (s ++ b :: t) = decodeLossy s ++ Char.ofNat b.toNat :: decodeLossy t :=
  decodeLossyFrom_append_whole hb (fun _ hp => by contradiction) s t

end Whole

end Utf8
end Text
end Killswitch
