import Cohort.Number.Basic
import Mathlib.Algebra.Group.Int.Defs
import Mathlib.Algebra.Group.Nat.Defs
import Mathlib.Data.Nat.Log

/-! # Rounding integers

Rounding never reverses an order, and it keeps what needs no more than 53 bits. So the nearest
floating-point numbers of two integers stand in the same order, or are one and the same, and an
integer below 2^53 shares its own with no other.
-/

namespace Cohort

/-! ## Quotients -/

section

variable {num num' den q : Nat}

theorem nearestEven_eq (num den : Nat) :
    nearestEven num den =
      if den < 2 * (num % den) ∨ 2 * (num % den) = den ∧ num / den % 2 = 1 then num / den + 1
      else num / den := by
  simp only [nearestEven]
  split
  · rw [if_neg (by omega)]
  · split
    · rw [if_pos (by omega)]
    · split
      · rw [if_neg (by omega)]
      · rw [if_pos (by omega)]

theorem div_le_nearestEven : num / den ≤ nearestEven num den := by
  rw [nearestEven_eq]
  split <;> omega

theorem nearestEven_le_div_add_one : nearestEven num den ≤ num / den + 1 := by
  rw [nearestEven_eq]
  split <;> omega

theorem nearestEven_mul (hden : 0 < den) : nearestEven (q * den) den = q := by
  rw [nearestEven_eq, Nat.mul_mod_left, Nat.mul_div_cancel q hden, if_neg (by omega)]

theorem nearestEven_mono (h : num ≤ num') : nearestEven num den ≤ nearestEven num' den := by
  rcases (Nat.div_le_div_right (c := den) h).lt_or_eq with hlt | heq
  · calc nearestEven num den ≤ num / den + 1 := nearestEven_le_div_add_one
      _ ≤ num' / den := hlt
      _ ≤ nearestEven num' den := div_le_nearestEven
  · -- With one quotient the remainders are in order, so what is rounded up stays so.
    have hmod : num % den ≤ num' % den := by
      have hnum := Nat.div_add_mod num den
      have hnum' := Nat.div_add_mod num' den
      rw [heq] at hnum
      omega
    rw [nearestEven_eq, nearestEven_eq, heq]
    split
    · rw [if_pos (by omega)]
    · split <;> omega

theorem nearestEven_le (hden : 0 < den) (h : num ≤ q * den) : nearestEven num den ≤ q :=
  (nearestEven_mono h).trans_eq (nearestEven_mul hden)

theorem le_nearestEven (hden : 0 < den) (h : q * den ≤ num) : q ≤ nearestEven num den :=
  (nearestEven_mul hden).symm.trans_le (nearestEven_mono h)

end

/-! ## Magnitudes -/

section

variable {num num' den n k : Nat}

theorem spacing_eq (n : Nat) : spacing n = 2 ^ (n.log2 - 52) := rfl

theorem spacing_pos (n : Nat) : 0 < spacing n := Nat.two_pow_pos _

/-- A power of two is a multiple of the distances below it. -/
theorem two_pow_eq_mul_spacing (hk : n.log2 - 52 ≤ k) :
    2 ^ k = 2 ^ (k - (n.log2 - 52)) * spacing n := by
  rw [spacing_eq, ← Nat.pow_add, Nat.sub_add_cancel hk]

theorem roundUnits_le_two_pow (hden : 0 < den) (hk : (num / den).log2 - 52 ≤ k)
    (h : num ≤ den * 2 ^ k) : roundUnits num den ≤ 2 ^ k := by
  rw [roundUnits, two_pow_eq_mul_spacing hk]
  refine Nat.mul_le_mul_right _ (nearestEven_le (Nat.mul_pos hden (spacing_pos _)) ?_)
  rwa [Nat.mul_left_comm, ← two_pow_eq_mul_spacing hk]

theorem two_pow_le_roundUnits (hden : 0 < den) (hk : (num / den).log2 - 52 ≤ k)
    (h : den * 2 ^ k ≤ num) : 2 ^ k ≤ roundUnits num den := by
  rw [roundUnits, two_pow_eq_mul_spacing hk]
  refine Nat.mul_le_mul_right _ (le_nearestEven (Nat.mul_pos hden (spacing_pos _)) ?_)
  rwa [Nat.mul_left_comm, ← two_pow_eq_mul_spacing hk]

theorem log2_le_log2 {m n : Nat} (h : m ≤ n) : m.log2 ≤ n.log2 := by
  rw [Nat.log2_eq_log_two, Nat.log2_eq_log_two]
  exact Nat.log_mono_right h

/-- Where the distance changes, a power of two lies between the two magnitudes and is kept. -/
theorem roundUnits_mono (hden : 0 < den) (h : num ≤ num') :
    roundUnits num den ≤ roundUnits num' den := by
  have hdiv : num / den ≤ num' / den := Nat.div_le_div_right h
  by_cases hlog : (num' / den).log2 - 52 ≤ (num / den).log2 - 52
  · have hsame : spacing (num / den) = spacing (num' / den) := by
      have := log2_le_log2 hdiv
      rw [spacing_eq, spacing_eq]
      congr 1
      omega
    rw [roundUnits, roundUnits, hsame]
    exact Nat.mul_le_mul_right _ (nearestEven_mono h)
  · have hne : num' / den ≠ 0 := by
      intro hzero
      simp [hzero] at hlog
    have hbelow : num ≤ den * 2 ^ (num' / den).log2 := by
      have hlt : num / den < 2 ^ ((num / den).log2 + 1) := Nat.lt_log2_self
      have hle : 2 ^ ((num / den).log2 + 1) ≤ 2 ^ (num' / den).log2 :=
        Nat.pow_le_pow_right (by omega) (by omega)
      have := Nat.lt_mul_of_div_lt (hlt.trans_le hle) hden
      rw [Nat.mul_comm]
      omega
    have habove : den * 2 ^ (num' / den).log2 ≤ num' := by
      rw [Nat.mul_comm]
      exact (Nat.le_div_iff_mul_le hden).mp (Nat.log2_self_le hne)
    exact (roundUnits_le_two_pow hden (by omega) hbelow).trans
      (two_pow_le_roundUnits hden (by omega) habove)

/-- What stands on the grid of its magnitude is kept. -/
theorem roundUnits_of_dvd (h : spacing n ∣ n) : roundUnits n 1 = n := by
  obtain ⟨q, hq⟩ := h
  rw [roundUnits, Nat.div_one, Nat.one_mul]
  generalize hs : spacing n = s at hq
  have hpos : 0 < s := hs ▸ spacing_pos n
  rw [hq, Nat.mul_comm s q, nearestEven_mul hpos]

/-- An integer of at most 53 bits is kept, and so is 2^53, whatever the unit. -/
theorem roundUnits_mul_two_pow (h : n ≤ 2 ^ 53) (k : Nat) :
    roundUnits (n * 2 ^ k) 1 = n * 2 ^ k := by
  apply roundUnits_of_dvd
  rw [spacing_eq]
  rcases h.lt_or_eq with hlt | rfl
  · have hlog : (n * 2 ^ k).log2 - 52 ≤ k := by
      by_cases hzero : n * 2 ^ k = 0
      · rw [hzero]
        exact Nat.zero_le _
      · have hbound : n * 2 ^ k < 2 ^ (53 + k) := by
          rw [Nat.pow_add]
          exact Nat.mul_lt_mul_of_pos_right hlt (Nat.two_pow_pos _)
        have := (Nat.log2_lt hzero).mpr hbound
        omega
    exact Nat.dvd_mul_left_of_dvd (Nat.pow_dvd_pow 2 hlog) n
  · rw [← Nat.pow_add, Nat.log2_two_pow]
    exact Nat.pow_dvd_pow 2 (by omega)

theorem exists_unitsPerOne_eq : ∃ k, unitsPerOne = 2 ^ k := by
  have hpow : ∀ k, ∃ j, Nat.pow 2 k = 2 ^ j := fun k => ⟨k, rfl⟩
  unfold unitsPerOne
  apply hpow

theorem unitsPerOne_pos : 0 < unitsPerOne := by
  obtain ⟨k, hk⟩ := exists_unitsPerOne_eq
  rw [hk]
  exact Nat.two_pow_pos k

theorem roundUnits_mul_unitsPerOne (h : n ≤ 2 ^ 53) :
    roundUnits (n * unitsPerOne) 1 = n * unitsPerOne := by
  obtain ⟨k, hk⟩ := exists_unitsPerOne_eq
  rw [hk, roundUnits_mul_two_pow h]

end

/-! ## Integers -/

namespace Number

variable {m n : Int}

theorem toUnits_int (n : Int) :
    (int n).toUnits =
      if n < 0 then -(roundUnits (n.natAbs * unitsPerOne) 1 : Int)
      else (roundUnits (n.natAbs * unitsPerOne) 1 : Int) := by
  simp [toUnits, toBinary64, Binary64.ofInt, Binary64.toUnits]

/-- Rounding does not reverse the order of two integers. -/
theorem toUnits_int_mono (h : m ≤ n) : (int m).toUnits ≤ (int n).toUnits := by
  have hmono : ∀ {a b : Nat}, a ≤ b →
      roundUnits (a * unitsPerOne) 1 ≤ roundUnits (b * unitsPerOne) 1 := fun hab =>
    roundUnits_mono Nat.one_pos (Nat.mul_le_mul_right _ hab)
  rw [toUnits_int, toUnits_int]
  split
  · split
    · have := hmono (a := n.natAbs) (b := m.natAbs) (by omega)
      omega
    · omega
  · rw [if_neg (by omega)]
    have := hmono (a := m.natAbs) (b := n.natAbs) (by omega)
    omega

theorem toUnits_int_of_natAbs_le (h : n.natAbs ≤ 2 ^ 53) :
    (int n).toUnits = n * unitsPerOne := by
  rw [toUnits_int, roundUnits_mul_unitsPerOne h, Int.natCast_mul, ← Int.neg_mul]
  split
  · congr 1
    omega
  · congr 1
    omega

/-- The neighbours of an integer below 2^53 are kept as it is, and all others stay beyond them. -/
theorem eq_of_toUnits_int_eq (hm : m.natAbs < 2 ^ 53) (h : (int m).toUnits = (int n).toUnits) :
    m = n := by
  have hone : (0 : Int) < unitsPerOne := Int.natCast_pos.mpr unitsPerOne_pos
  have hself := toUnits_int_of_natAbs_le hm.le
  rcases lt_trichotomy m n with hlt | heq | hgt
  · have hnext := toUnits_int_of_natAbs_le (n := m + 1) (by omega)
    have hle := toUnits_int_mono (m := m + 1) (n := n) hlt
    rw [hnext, ← h, hself, Int.add_mul] at hle
    omega
  · exact heq
  · have hnext := toUnits_int_of_natAbs_le (n := m - 1) (by omega)
    have hle := toUnits_int_mono (m := n) (n := m - 1) (by omega)
    rw [hnext, ← h, hself, Int.sub_mul] at hle
    omega

/-- Two different integers have the same nearest floating-point number. -/
def Merged (m n : Int) : Prop := m ≠ n ∧ (int m).toUnits = (int n).toUnits

instance : Decidable (Merged m n) := inferInstanceAs (Decidable (_ ∧ _))

theorem not_merged_of_natAbs_lt (h : m.natAbs < 2 ^ 53 ∨ n.natAbs < 2 ^ 53) : ¬ Merged m n := by
  rintro ⟨hne, heq⟩
  rcases h with h | h
  · exact hne (eq_of_toUnits_int_eq h heq)
  · exact hne (eq_of_toUnits_int_eq h heq.symm).symm

theorem toUnits_int_le_iff : (int m).toUnits ≤ (int n).toUnits ↔ m ≤ n ∨ Merged m n := by
  constructor
  · intro h
    by_cases hle : m ≤ n
    · exact .inl hle
    · have hback := toUnits_int_mono (Int.not_le.mp hle).le
      exact .inr ⟨by omega, h.antisymm hback⟩
  · rintro (hle | hmerged)
    · exact toUnits_int_mono hle
    · exact hmerged.2.le

theorem toUnits_int_lt_iff : (int m).toUnits < (int n).toUnits ↔ m < n ∧ ¬ Merged m n := by
  constructor
  · intro h
    refine ⟨?_, fun hmerged => h.ne hmerged.2⟩
    by_contra hle
    exact h.not_ge (toUnits_int_mono (Int.not_lt.mp hle))
  · rintro ⟨hlt, hmerged⟩
    exact (toUnits_int_mono hlt.le).lt_of_ne fun heq => hmerged ⟨hlt.ne, heq⟩

end Number

/-- What is rounded does not fall below a power of two. -/
theorem Binary64.two_pow_le_truncate_ofInt {k : Nat} {n : Int} (h : 2 ^ k ≤ n) :
    2 ^ k ≤ (ofInt n).truncate := by
  obtain ⟨m, rfl⟩ := Int.eq_ofNat_of_zero_le ((Int.pow_nonneg (by omega)).trans h)
  obtain ⟨j, hj⟩ := exists_unitsPerOne_eq
  have hm : 2 ^ k ≤ m := by exact_mod_cast h
  have hkept : roundUnits (2 ^ k * unitsPerOne) 1 = 2 ^ k * unitsPerOne := by
    have hone : 1 ≤ 2 ^ 53 := Nat.one_le_two_pow
    have hpow := roundUnits_mul_two_pow hone (k + j)
    rwa [Nat.one_mul, Nat.pow_add, ← hj] at hpow
  have hround : 2 ^ k * unitsPerOne ≤ roundUnits (m * unitsPerOne) 1 := by
    rw [← hkept]
    exact roundUnits_mono Nat.one_pos (Nat.mul_le_mul_right _ hm)
  have hwhole : 2 ^ k ≤ roundUnits (m * unitsPerOne) 1 / unitsPerOne :=
    (Nat.le_div_iff_mul_le unitsPerOne_pos).mpr hround
  have hsign : ¬ (m : Int) < 0 := by omega
  simp only [ofInt, truncate, hsign, decide_false, Bool.false_eq_true, if_false, Int.natAbs_natCast]
  exact_mod_cast hwhole

end Cohort
