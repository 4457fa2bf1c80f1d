import Cohort.Proofs.Document.Ordered
import Cohort.View

/-! # What a form reads of parameters -/

namespace Cohort

/-! ## Parameters that agree on what is read -/

variable {params params' : Params}

theorem Condition.holds_congr {condition : Params}
    (h : ∀ entry ∈ condition, params.get? (Condition.fieldOf entry.1) =
      params'.get? (Condition.fieldOf entry.1)) :
    Condition.holds params condition = Condition.holds params' condition := by
  induction condition with
  | nil => rfl
  | cons entry rest ih =>
      rw [List.forall_mem_cons] at h
      have hentry : Condition.entryHolds params entry.1 entry.2 =
          Condition.entryHolds params' entry.1 entry.2 := by
        simp only [Condition.entryHolds, h.1]
      rw [Condition.holds, Condition.holds, hentry, ih h.2]

/-- The conditions of a slot look at the fields they name. -/
theorem Slot.shouldSkip_congr {s : Slot}
    (h : ∀ entry ∈ s.skipIf ++ s.skipUnless, params.get? (Condition.fieldOf entry.1) =
      params'.get? (Condition.fieldOf entry.1)) :
    s.shouldSkip params = s.shouldSkip params' := by
  have hif := Condition.holds_congr fun entry hentry => h entry (List.mem_append_left _ hentry)
  have hunless := Condition.holds_congr fun entry hentry => h entry (List.mem_append_right _ hentry)
  simp only [Slot.shouldSkip, Condition.evaluate, hif, hunless]

/-- A fragment looks at its own parameter besides. -/
theorem Fragment.validate_congr {f : Fragment}
    (hskip : f.slot.shouldSkip params = f.slot.shouldSkip params')
    (hkey : params.get? f.slot.key = params'.get? f.slot.key) :
    f.validate params = f.validate params' := by
  simp only [Fragment.validate, Slot.validate, submitted, hskip, hkey]

theorem Value.isNull_of_toList? {v : Value} {items : List Value} (h : v.toList? = some items) :
    v.isNull = false := by
  cases v with
  | null => cases h
  | _ => rfl

/-- To a choice of several a list is as good as a text that is split into it. -/
theorem Fragment.validate_multiple_congr {s : Slot} {options : List SelectOption} {v w : Value}
    {items : List Value} (hvalidation : s.validation = none)
    (hskip : s.shouldSkip params = s.shouldSkip params')
    (hv : params.get? s.key = some v) (hw : params'.get? s.key = some w)
    (hvitems : v.toList? = some items) (hwitems : w.toList? = some items) :
    Fragment.validate ⟨s, .select options true⟩ params =
      Fragment.validate ⟨s, .select options true⟩ params' := by
  have hvnull := Value.isNull_of_toList? hvitems
  have hwnull := Value.isNull_of_toList? hwitems
  have hvsubmitted : submitted params s.key = some v := by simp [submitted, hv, hvnull]
  have hwsubmitted : submitted params' s.key = some w := by simp [submitted, hw, hwnull]
  simp [Fragment.validate, Slot.validate, Control.check, hskip, hvalidation, hv, hw, hvsubmitted,
    hwsubmitted, hvitems, hwitems, hvnull, hwnull]

theorem View.validate_congr {v : View}
    (h : ∀ f ∈ v.fragments, f.validate params = f.validate params') :
    v.validate params = v.validate params' := by
  obtain ⟨fragments⟩ := v
  rw [View.validate, View.validate]
  induction fragments with
  | nil => rfl
  | cons f rest ih =>
      rw [List.forall_mem_cons] at h
      rw [View.validateAll, View.validateAll, h.1, ih h.2]

end Cohort
