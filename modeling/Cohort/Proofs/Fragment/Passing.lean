import Cohort.View

/-! # Parameters that a form lets pass -/

namespace Cohort

variable {params : Params} {key : String} {v : Value}

theorem eq_ok_of_isOk {r : Except Fault Unit} (h : r.isOk = true) : r = .ok () := by
  cases r with
  | ok _ => rfl
  | error fault => cases h

/-! ## Fragments one by one -/

/-- A fragment is content with some parameters, or not asked for. -/
def Fragment.Passes (f : Fragment) (params : Params) : Prop :=
  f.validate params = .ok () ∨ f.validate params = .error .skipped

section

variable {f : Fragment} {v : View}

theorem View.validateAll_cons_of_passes (h : f.Passes params) (rest : List Fragment) :
    validateAll params (f :: rest) = validateAll params rest := by
  rw [validateAll]
  rcases h with h | h <;> rw [h]

theorem View.validateAll_cons_of_not_passes (h : ¬ f.Passes params) (rest : List Fragment) :
    validateAll params (f :: rest) = f.validate params := by
  rw [validateAll]
  cases hf : f.validate params with
  | ok _ => exact absurd (.inl hf) h
  | error fault =>
      cases fault with
      | skipped => exact absurd (.inr hf) h
      | _ => rfl

/-- A form accepts parameters if each of its fragments does. -/
theorem View.validate_eq_ok_iff :
    v.validate params = .ok () ↔ ∀ f ∈ v.fragments, f.Passes params := by
  obtain ⟨fragments⟩ := v
  rw [View.validate]
  induction fragments with
  | nil => simp [validateAll]
  | cons f rest ih =>
      rw [List.forall_mem_cons, ← ih]
      by_cases h : f.Passes params
      · simp [validateAll_cons_of_passes h, h]
      · simp only [validateAll_cons_of_not_passes h, h, false_and, iff_false]
        exact fun hok => h (.inl hok)

/-- A form refuses parameters with the fault of its first fragment that does not let them pass. -/
theorem View.validate_eq_error_iff {fault : Fault} :
    v.validate params = .error fault ↔
      ∃ before f after, v.fragments = before ++ f :: after ∧
        (∀ earlier ∈ before, earlier.Passes params) ∧ ¬ f.Passes params ∧
          f.validate params = .error fault := by
  obtain ⟨fragments⟩ := v
  rw [View.validate]
  constructor
  · intro h
    induction fragments with
    | nil => cases h
    | cons f rest ih =>
        by_cases hpasses : f.Passes params
        · rw [validateAll_cons_of_passes hpasses] at h
          obtain ⟨before, f', after, rfl, hbefore, hf'⟩ := ih h
          exact ⟨f :: before, f', after, rfl, List.forall_mem_cons.mpr ⟨hpasses, hbefore⟩, hf'⟩
        · rw [validateAll_cons_of_not_passes hpasses] at h
          exact ⟨[], f, rest, rfl, by simp, hpasses, h⟩
  · rintro ⟨before, f, after, rfl, hbefore, hpasses, hf⟩
    induction before with
    | nil => exact (validateAll_cons_of_not_passes hpasses after).trans hf
    | cons earlier before ih =>
        obtain ⟨hearlier, hbefore⟩ := List.forall_mem_cons.mp hbefore
        exact (validateAll_cons_of_passes hearlier _).trans (ih hbefore)

end

/-! ## Submitted values -/

theorem Validation.check_ne_skipped (validation : Validation) (key : String) (v : Value) :
    validation.check key v ≠ .error .skipped := by
  rw [check]
  split
  · simp
  · split
    · simp
    · split <;> simp

theorem Slot.validate_ne_skipped {s : Slot} (hskip : s.shouldSkip params = .ok false) :
    s.validate params ≠ .error .skipped := by
  rw [validate, hskip]
  simp only [bind, Except.bind, pure, Except.pure, throw, throwThe, MonadExceptOf.throw,
    Bool.false_eq_true, if_false]
  split
  · simp
  · split
    · simp
    · split
      · exact Validation.check_ne_skipped _ _ _
      · simp

theorem Fragment.parameter_ne_skipped (r : Except ParameterFault Unit) :
    parameter r ≠ .error .skipped := by
  cases r <;> simp [parameter]

/-- A step that does not skip was taken, and what comes behind it decides. -/
theorem exists_of_bind_passes {α : Type} {step : Except Fault α} {next : α → Except Fault Unit}
    (hstep : step ≠ .error .skipped)
    (h : step >>= next = .ok () ∨ step >>= next = .error .skipped) :
    ∃ a, step = .ok a ∧ (next a = .ok () ∨ next a = .error .skipped) := by
  cases step with
  | ok a => exact ⟨a, rfl, h⟩
  | error fault =>
      rcases h with h | h
      · cases h
      · injection h with h
        exact absurd (congrArg Except.error h) hstep

/-- A fragment that is not skipped has checked what was submitted for it. -/
theorem Fragment.check_of_passes {f : Fragment} (hpasses : f.Passes params)
    (hskip : f.slot.shouldSkip params = .ok false) (hv : submitted params f.slot.key = some v) :
    f.control.check f.slot.key v = .ok () := by
  rw [Passes, validate, hv] at hpasses
  obtain ⟨_, -, hpasses⟩ := exists_of_bind_passes (parameter_ne_skipped _) hpasses
  obtain ⟨_, -, hpasses⟩ := exists_of_bind_passes (Slot.validate_ne_skipped hskip) hpasses
  cases hcheck : f.control.check f.slot.key v with
  | ok _ => rfl
  | error fault =>
      simp only [hcheck, parameter] at hpasses
      rcases hpasses with h | h <;> cases h

/-! ## Required parameters -/

/-- The slot of a parameter that is required whenever it is asked for. Any text of it will do. -/
structure Slot.Asks (s : Slot) (key : String) (skipIf skipUnless : Params) : Prop where
  key_eq : s.key = key
  key_ne : key ≠ ""
  required : s.required = true
  validation : s.validation = none
  skipIf_eq : s.skipIf = skipIf
  skipUnless_eq : s.skipUnless = skipUnless

variable {s : Slot} {c : Control} {skipIf skipUnless : Params}

theorem Slot.Asks.validate_eq (h : s.Asks key skipIf skipUnless)
    (hskip : s.shouldSkip params = .ok false) :
    s.validate params =
      if (params.get? key).all Value.isNull then .error (.missingParameter key) else .ok () := by
  obtain ⟨key', defaultValue, validation, required, skipIf', skipUnless'⟩ := s
  obtain ⟨rfl, hne, rfl, rfl, rfl, rfl⟩ := h
  rw [Slot.validate, hskip]
  cases hnull : (params.get? key').all Value.isNull <;>
    simp [hne, hnull, bind, Except.bind, throw, throwThe, MonadExceptOf.throw, pure, Except.pure]

/-- A fragment that is not skipped has found its parameter, and found it right. -/
theorem Slot.Asks.of_passes (h : s.Asks key skipIf skipUnless)
    (hskip : s.shouldSkip params = .ok false) (hpasses : Fragment.Passes ⟨s, c⟩ params) :
    ∃ v, params.get? key = some v ∧ c.check key v = .ok () := by
  cases hnull : (params.get? key).all Value.isNull with
  | true =>
      rw [Fragment.Passes, Fragment.validate] at hpasses
      obtain ⟨_, -, hpasses⟩ :=
        exists_of_bind_passes (Fragment.parameter_ne_skipped _) hpasses
      simp only [h.validate_eq hskip, hnull, if_true] at hpasses
      rcases hpasses with hpasses | hpasses <;> cases hpasses
  | false =>
      cases hv : params.get? key with
      | none => simp [hv] at hnull
      | some v =>
          have hsubmitted : submitted params s.key = some v := by
            simpa [submitted, h.key_eq, hv] using hnull
          have hcheck := Fragment.check_of_passes hpasses hskip hsubmitted
          exact ⟨v, rfl, h.key_eq ▸ hcheck⟩

/-! ## Skipping -/

theorem Slot.shouldSkip_eq_bind (s : Slot) (params : Params) :
    s.shouldSkip params =
      (if s.skipIf.isEmpty then pure false else Condition.evaluate .skipIf params s.skipIf) >>=
        fun byIf => if byIf then pure true else if s.skipUnless.isEmpty then pure false else do
          return !(← Condition.evaluate .skipUnless params s.skipUnless) := by
  rw [shouldSkip]
  split <;> rfl

theorem Slot.Asks.shouldSkip_nil (h : s.Asks key [] []) : s.shouldSkip params = .ok false := by
  simp [Slot.shouldSkip, h.skipIf_eq, h.skipUnless_eq, pure, Except.pure, bind, Except.bind]

section

variable {condition : Params} {holds : Bool}

theorem Slot.Asks.shouldSkip_skipIf (h : s.Asks key condition []) (hne : condition ≠ [])
    (hholds : Condition.holds params condition = .ok holds) :
    s.shouldSkip params = .ok holds := by
  cases holds <;>
    simp [Slot.shouldSkip, h.skipIf_eq, h.skipUnless_eq, hne, Condition.evaluate, hholds, pure,
      Except.pure, bind, Except.bind]

theorem Slot.Asks.shouldSkip_skipUnless (h : s.Asks key [] condition) (hne : condition ≠ [])
    (hholds : Condition.holds params condition = .ok holds) :
    s.shouldSkip params = .ok (!holds) := by
  simp [Slot.shouldSkip, h.skipIf_eq, h.skipUnless_eq, hne, Condition.evaluate, hholds, pure,
    Except.pure, bind, Except.bind]

end

theorem Condition.holds_equal {field : String} (hfield : Condition.hasOperators field = false)
    (hv : params.get? field = some v) (w : Value) :
    Condition.holds params [(field, w)] = .ok (v.same w) := by
  have hof : Condition.fieldOf field = field := by
    rw [Condition.hasOperators] at hfield
    rw [Condition.fieldOf]
    cases hchars : field.toList with
    | nil => rfl
    | cons c rest =>
        rw [hchars] at hfield
        split
        · simp_all
        · rfl
  cases hsame : v.same w <;>
    simp [Condition.holds, Condition.entryHolds, hfield, hof, hv, hsame, bind, Except.bind, pure,
      Except.pure]

/-! ## Choices -/

theorem Value.eq_of_same_str {s : String} {v : Value} (h : Value.same (.str s) v = true) :
    v = .str s := by
  cases v with
  | str t =>
      have heq : s = t := by simpa [Value.same] using h
      rw [heq]
  | _ => simp [Value.same] at h

/-- What passes a choice is the value of an option. -/
theorem Control.exists_of_check_select {options : List SelectOption}
    (h : Control.check key v (.select options false) = .ok ()) :
    ∃ o ∈ options, o.value.same v = true := by
  simp only [Control.check, Bool.false_eq_true, if_false, Control.checkOffered] at h
  by_cases hany : options.any fun o => o.value.same v
  · simpa using hany
  · simp [hany] at h

/-- What passes a choice of several are values of options. -/
theorem Control.exists_of_check_multiple {options : List SelectOption}
    (h : Control.check key v (.select options true) = .ok ()) :
    ∃ items, v.toList? = some items ∧ ∀ item ∈ items, ∃ o ∈ options, o.value.same item = true := by
  simp only [Control.check, if_true] at h
  cases hitems : v.toList? with
  | none => simp [hitems] at h
  | some items =>
      refine ⟨items, rfl, ?_⟩
      simp only [hitems, Control.checkOffered] at h
      by_cases hall : items.all fun item => options.any fun o => o.value.same item
      · simpa using hall
      · simp [hall] at h

end Cohort
