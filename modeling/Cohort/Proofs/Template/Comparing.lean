import Cohort.Proofs.Number.Rounding
import Cohort.Template.Function
import Mathlib.Order.Compare

/-! # Comparing texts and integers

Whether two integers are equal is decided on the integers, and which one is less on the nearest
floating-point numbers. The two agree unless both integers are rounded to the same number.
-/

namespace Cohort.Template

/-! ## The five comparisons -/

/-- What the five comparisons say of two values. -/
structure Comparison where
  equal : Bool
  less : Bool
  lessOrEqual : Bool
  greater : Bool
  greaterOrEqual : Bool

/-- The functions of a template give the answers of a comparison. -/
structure Comparison.Of (c : Comparison) (a b : Value) : Prop where
  eq : call "eq" [a, b] = .ok (.bool c.equal)
  lt : call "lt" [a, b] = .ok (.bool c.less)
  le : call "le" [a, b] = .ok (.bool c.lessOrEqual)
  gt : call "gt" [a, b] = .ok (.bool c.greater)
  ge : call "ge" [a, b] = .ok (.bool c.greaterOrEqual)

/-- Exactly one of less, equal and greater holds, and the other two answers follow from it. -/
structure Comparison.IsConsistent (c : Comparison) : Prop where
  exactlyOne : [c.less, c.equal, c.greater].count true = 1
  lessOrEqual_eq : c.lessOrEqual = (c.less || c.equal)
  greaterOrEqual_eq : c.greaterOrEqual = (c.greater || c.equal)

/-- The comparison of two values that are the same or not, and in an order. -/
def Comparison.ofOrder (equal : Bool) (o : Ordering) : Comparison :=
  ⟨equal, o == .lt, o != .gt, o == .gt, o != .lt⟩

variable {a b : Value} {equal : Bool} {o : Ordering}

theorem call_comparison {f : Function} {accept : Ordering → Bool}
    (hf : Function.ofName? f.name = some f)
    (happly : f.apply [a, b] = compareBy f.name accept [a, b]) (ho : order? a b = some o) :
    call f.name [a, b] = .ok (.bool (accept o)) := by
  rw [call, hf]
  simp only [happly, compareBy, twoArgs, bind, Except.bind, ho]
  rfl

theorem comparison_ofOrder (ho : order? a b = some o) :
    (Comparison.ofOrder (a.same b) o).Of a b where
  eq := by
    have hf : Function.ofName? "eq" = some .eq := by decide
    simp [call, hf, Function.apply, equalAny, Comparison.ofOrder]
  lt := call_comparison (f := .lt) (by decide) rfl ho
  le := call_comparison (f := .le) (by decide) rfl ho
  gt := call_comparison (f := .gt) (by decide) rfl ho
  ge := call_comparison (f := .ge) (by decide) rfl ho

/-- The answers are consistent exactly if the order finds values equal that are the same. -/
theorem isConsistent_ofOrder :
    (Comparison.ofOrder equal o).IsConsistent ↔ (equal = true ↔ o = .eq) := by
  constructor
  · rintro ⟨hone, -, -⟩
    cases equal <;> cases o <;> simp_all [Comparison.ofOrder]
  · intro h
    cases equal <;> cases o <;> simp at h <;> constructor <;> decide

section

variable {x y : Int}

theorem less_ofOrder : (Comparison.ofOrder equal (compare x y)).less = true ↔ x < y := by
  rw [Comparison.ofOrder, beq_iff_eq, compare_lt_iff_lt]

theorem lessOrEqual_ofOrder :
    (Comparison.ofOrder equal (compare x y)).lessOrEqual = true ↔ x ≤ y := by
  rw [Comparison.ofOrder, bne_iff_ne, compare_le_iff_le]

theorem greater_ofOrder : (Comparison.ofOrder equal (compare x y)).greater = true ↔ y < x := by
  rw [Comparison.ofOrder, beq_iff_eq, compare_gt_iff_gt]

theorem greaterOrEqual_ofOrder :
    (Comparison.ofOrder equal (compare x y)).greaterOrEqual = true ↔ y ≤ x := by
  rw [Comparison.ofOrder, bne_iff_ne, compare_ge_iff_ge]

end

/-! ## Texts and integers -/

theorem order?_texts (s t : String) : order? (.str s) (.str t) = some (compare s t) := rfl

theorem order?_integers (m n : Int) :
    order? (.num (.int m)) (.num (.int n)) =
      some (compare (Number.int m).toUnits (Number.int n).toUnits) := rfl

/-! ## Main result -/

/-- Texts are compared as their order says. So are integers, but for two that are rounded to the same
number: neither of them is less or greater than the other, each is less or equal and greater or
equal, and they are not equal. No integer below 2^53 is rounded to the number of another. -/
theorem comparison_of_texts_and_integers (s t : String) (m n : Int) :
    (∃ c : Comparison, c.Of (.str s) (.str t) ∧ c.IsConsistent ∧
      (c.equal = true ↔ s = t) ∧ (c.less = true ↔ s < t)) ∧
    ∃ c : Comparison, c.Of (.num (.int m)) (.num (.int n)) ∧
      (c.equal = true ↔ m = n) ∧
      (c.less = true ↔ m < n ∧ ¬ Number.Merged m n) ∧
      (c.lessOrEqual = true ↔ m ≤ n ∨ Number.Merged m n) ∧
      (c.greater = true ↔ n < m ∧ ¬ Number.Merged n m) ∧
      (c.greaterOrEqual = true ↔ n ≤ m ∨ Number.Merged n m) ∧
      (c.IsConsistent ↔ ¬ Number.Merged m n) ∧
      (m.natAbs < 2 ^ 53 ∨ n.natAbs < 2 ^ 53 → c.IsConsistent) := by
  constructor
  · refine ⟨_, comparison_ofOrder (order?_texts s t), ?_, ?_, ?_⟩
    · simp [isConsistent_ofOrder, Value.same]
    · simp [Comparison.ofOrder, Value.same]
    · simp only [Comparison.ofOrder, beq_iff_eq]
      exact compareOfLessAndEq_eq_lt
  · have hconsistent : (Comparison.ofOrder (Value.same (.num (.int m)) (.num (.int n)))
        (compare (Number.int m).toUnits (Number.int n).toUnits)).IsConsistent ↔
          ¬ Number.Merged m n := by
      rw [isConsistent_ofOrder, Value.same, Number.sameValue, beq_iff_eq, compare_eq_iff_eq,
        Number.Merged, not_and', not_not]
      exact ⟨fun h => h.mpr, fun h => ⟨fun heq => heq ▸ rfl, h⟩⟩
    refine ⟨_, comparison_ofOrder (order?_integers m n), ?_, ?_, ?_, ?_, ?_, hconsistent, ?_⟩
    · simp [Comparison.ofOrder, Value.same, Number.sameValue]
    · exact less_ofOrder.trans Number.toUnits_int_lt_iff
    · exact lessOrEqual_ofOrder.trans Number.toUnits_int_le_iff
    · exact greater_ofOrder.trans Number.toUnits_int_lt_iff
    · exact greaterOrEqual_ofOrder.trans Number.toUnits_int_le_iff
    · exact fun hsmall => hconsistent.mpr (Number.not_merged_of_natAbs_lt hsmall)

theorem comparison_of_greatestExact :
    (∃ c : Comparison, c.Of (.str "18446744073709551615") (.str "9007199254740991") ∧
      c.IsConsistent ∧ c.less = true) ∧
    ∃ c : Comparison, c.Of (.num (.int 9007199254740991)) (.num (.int 18446744073709551615)) ∧
      c.IsConsistent ∧ c.less = true := by
  obtain ⟨⟨text, htext, htexts, -, hbefore⟩, number, hnumber, -, hless, -, -, -, -, hsmall⟩ :=
    comparison_of_texts_and_integers "18446744073709551615" "9007199254740991"
      9007199254740991 18446744073709551615
  exact ⟨⟨text, htext, htexts, hbefore.mpr (by decide +kernel)⟩,
    number, hnumber, hsmall (by decide), hless.mpr (by decide +kernel)⟩

/-- The integer behind 2^53 is rounded to 2^53, and no strict comparison tells the two apart. -/
theorem neighbours_incomparable :
    (⟨false, false, true, false, true⟩ : Comparison).Of
        (.num (.int 9007199254740992)) (.num (.int 9007199254740993)) ∧
      ¬ (⟨false, false, true, false, true⟩ : Comparison).IsConsistent := by
  have hround : compare (Number.int 9007199254740992).toUnits
      (Number.int 9007199254740993).toUnits = .eq := by decide +kernel
  have hof := comparison_ofOrder (order?_integers 9007199254740992 9007199254740993)
  rw [hround] at hof
  exact ⟨hof, fun h => absurd h.exactlyOne (by decide)⟩

end Cohort.Template
