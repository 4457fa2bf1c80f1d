import Cohort.Proofs.Fragment.Passing
import Cohort.Proofs.Fragment.Reading

/-! # What a form answers

A form says what the first of its fragments finds wrong, and never that one of them was skipped. It
looks at no parameter but those that its fragments govern and those that their conditions name.
-/

namespace Cohort

/-! ## Parameters that are looked at -/

/-- The fields that the conditions of a slot name. -/
def Slot.conditionFields (s : Slot) : List String :=
  (s.skipIf ++ s.skipUnless).map fun entry => Condition.fieldOf entry.1

/-- The parameters that a form refers to. -/
def View.reads (v : View) : List String :=
  v.fragments.flatMap fun f => f.slot.key :: f.slot.conditionFields

variable {params params' : Params} {v : View}

theorem View.validate_congr_reads (h : ∀ name ∈ v.reads, params.get? name = params'.get? name) :
    v.validate params = v.validate params' := by
  refine validate_congr fun f hf => ?_
  have hreads : ∀ name ∈ f.slot.key :: f.slot.conditionFields,
      params.get? name = params'.get? name :=
    fun name hname => h name (List.mem_flatMap_of_mem hf hname)
  obtain ⟨hkey, hfields⟩ := List.forall_mem_cons.mp hreads
  exact Fragment.validate_congr (Slot.shouldSkip_congr (List.forall_mem_map.mp hfields)) hkey

/-! ## Main result -/

theorem View.validate_ne_skipped : v.validate params ≠ .error .skipped := by
  intro h
  obtain ⟨_, _, _, _, _, hpasses, hf⟩ := validate_eq_error_iff.mp h
  exact hpasses (.inr hf)

/-- That a fragment is skipped is never the answer of a form. It accepts parameters exactly if each
fragment lets them pass, otherwise it answers as the first that does not, and the answer is the same
for parameters that agree on what the form refers to. -/
theorem View.validate_outcome (v : View) (params : Params) :
    v.validate params ≠ .error .skipped ∧
      (v.validate params = .ok () ↔ ∀ f ∈ v.fragments, f.Passes params) ∧
      (∀ fault, v.validate params = .error fault ↔
        ∃ before f after, v.fragments = before ++ f :: after ∧
          (∀ earlier ∈ before, earlier.Passes params) ∧ ¬ f.Passes params ∧
            f.validate params = .error fault) ∧
      ∀ params', (∀ name ∈ v.reads, params.get? name = params'.get? name) →
        v.validate params = v.validate params' :=
  ⟨validate_ne_skipped, validate_eq_ok_iff, fun _ => validate_eq_error_iff,
    fun _ => validate_congr_reads⟩

/-- A comparison of a number, which is not asked for its operand if there is nothing to compare, nor
for an upper bound unless there are two. -/
def comparisonView : View where
  fragments := [
    ⟨{ key := "operator", required := true },
      .select [⟨.str "EQ", ""⟩, ⟨.str "BETWEEN", ""⟩, ⟨.str "IS NULL", ""⟩] false⟩,
    ⟨{ key := "value", required := true,
        skipIf := [("$operator", .obj [("IN", .arr [.str "IS NULL", .str "IS NOT NULL"])])] },
      .numberInput (.finite (.ofInt 1)) (.finite (.ofInt 1000))⟩,
    ⟨{ key := "upper", required := true, skipUnless := [("operator", .str "BETWEEN")] },
      .numberInput (.finite (.ofInt 1)) (.finite (.ofInt 1000))⟩]

theorem View.validate_outcome_comparison :
    comparisonView.reads = ["operator", "value", "operator", "upper", "operator"] ∧
    (comparisonView.validate [("operator", .str "EQ"), ("value", .num (.int 5))]).isOk = true ∧
    comparisonView.validate [("operator", .str "EQ"), ("value", .num (.int 5))] =
      comparisonView.validate
        [("note", .null), ("operator", .str "EQ"), ("value", .num (.int 5))] ∧
    comparisonView.validate [("operator", .str "BETWEEN")] = .error (.missingParameter "value") := by
  obtain ⟨-, -, -, hreads⟩ := validate_outcome comparisonView
    [("operator", .str "EQ"), ("value", .num (.int 5))]
  have hnames : comparisonView.reads = ["operator", "value", "operator", "upper", "operator"] := by
    decide +kernel
  refine ⟨hnames, by decide +kernel, hreads _ ?_, rfl⟩
  simp only [hnames, List.forall_mem_cons]
  exact ⟨rfl, rfl, rfl, rfl, rfl, by simp⟩

end Cohort
