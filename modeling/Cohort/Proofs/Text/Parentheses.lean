import Mathlib.Data.List.Infix

/-! # Balanced parentheses -/

namespace Cohort.Text

variable {s t r r' : List Char}

/-- Parentheses are closed as often as they are opened, and none before it is opened. -/
structure Balanced (s : List Char) : Prop where
  never_ahead : ∀ p, p <+: s → p.count ')' ≤ p.count '('
  count_eq : s.count ')' = s.count '('

theorem balanced_iff : Balanced s ↔
    (∀ p ∈ s.inits, p.count ')' ≤ p.count '(') ∧ s.count ')' = s.count '(' := by
  constructor
  · rintro ⟨hahead, heq⟩
    exact ⟨fun p hp => hahead p ((List.mem_inits p s).mp hp), heq⟩
  · rintro ⟨hahead, heq⟩
    exact ⟨fun p hp => hahead p ((List.mem_inits p s).mpr hp), heq⟩

instance : Decidable (Balanced s) := decidable_of_iff _ balanced_iff.symm

theorem balanced_of_not_mem (hopen : '(' ∉ s) (hclose : ')' ∉ s) : Balanced s where
  never_ahead := by
    intro p hp
    have hnone : ')' ∉ p := fun h => hclose (hp.subset h)
    rw [List.count_eq_zero_of_not_mem hnone]
    exact Nat.zero_le _
  count_eq := by
    rw [List.count_eq_zero_of_not_mem hopen, List.count_eq_zero_of_not_mem hclose]

theorem Balanced.append (hs : Balanced s) (ht : Balanced t) : Balanced (s ++ t) where
  never_ahead := by
    rintro p ⟨rest, hp⟩
    obtain ⟨q, hsplit, -⟩ | ⟨q, rfl, hsplit⟩ := List.append_eq_append_iff.mp hp
    · exact hs.never_ahead p ⟨q, hsplit.symm⟩
    · have hq := ht.never_ahead q ⟨rest, hsplit.symm⟩
      have heq := hs.count_eq
      simp only [List.count_append]
      omega
  count_eq := by
    rw [List.count_append, List.count_append, hs.count_eq, ht.count_eq]

theorem Balanced.parenthesize (hs : Balanced s) : Balanced ('(' :: (s ++ [')'])) where
  never_ahead := by
    intro p hp
    cases p with
    | nil => exact Nat.le_refl _
    | cons c p =>
        obtain ⟨rfl, hrest⟩ := List.cons_prefix_cons.mp hp
        obtain rfl | hinside := List.prefix_concat_iff.mp hrest
        · have heq := hs.count_eq
          simp
          omega
        · have hle := hs.never_ahead p hinside
          simp
          omega
  count_eq := by
    have heq := hs.count_eq
    simp
    omega

/-- A balanced text does not go on behind another with a parenthesis that closes. -/
theorem Balanced.not_close_prefix (hs : Balanced s) (ht : Balanced t) : ¬ s ++ [')'] <+: t := by
  intro hp
  have hle := ht.never_ahead (s ++ [')']) hp
  have heq := hs.count_eq
  simp at hle
  omega

/-- The parenthesis that closes behind a balanced text is found again, whatever follows it. -/
theorem Balanced.append_inj (hs : Balanced s) (ht : Balanced t)
    (h : s ++ ')' :: r = t ++ ')' :: r') : s = t ∧ r = r' := by
  obtain ⟨q, htq, hq⟩ | ⟨q, hsq, hq⟩ := List.append_eq_append_iff.mp h
  · cases q with
    | nil => exact ⟨by simpa using htq.symm, (List.cons.inj hq).2⟩
    | cons c q =>
        obtain ⟨rfl, -⟩ := List.cons.inj hq
        exact absurd ⟨q, by simp [htq]⟩ (hs.not_close_prefix ht)
  · cases q with
    | nil => exact ⟨by simpa using hsq, (List.cons.inj hq).2.symm⟩
    | cons c q =>
        obtain ⟨rfl, -⟩ := List.cons.inj hq
        exact absurd ⟨q, by simp [hsq]⟩ (ht.not_close_prefix hs)

/-- Up to its first parenthesis that opens, a text is found again. -/
theorem append_open_inj (hs : '(' ∉ s) (ht : '(' ∉ t) (h : s ++ '(' :: r = t ++ '(' :: r') :
    s = t ∧ r = r' := by
  obtain ⟨q, htq, hq⟩ | ⟨q, hsq, hq⟩ := List.append_eq_append_iff.mp h
  · cases q with
    | nil => exact ⟨by simpa using htq.symm, (List.cons.inj hq).2⟩
    | cons c q =>
        obtain ⟨rfl, -⟩ := List.cons.inj hq
        exact absurd (by simp [htq]) ht
  · cases q with
    | nil => exact ⟨by simpa using hsq, (List.cons.inj hq).2.symm⟩
    | cons c q =>
        obtain ⟨rfl, -⟩ := List.cons.inj hq
        exact absurd (by simp [hsq]) hs

end Cohort.Text
