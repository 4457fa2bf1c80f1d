import Cohort.Proofs.Document.Ordered
import Cohort.Proofs.Fragment.Outcome

/-! # Parameters that are absent

The fields that a condition names have to be there, but a condition is evaluated in order, and an
entry that does not hold ends it: what is named behind it may be absent. A null counts as absent,
except that a pattern is asked about it.
-/

namespace Cohort

variable {params : Params}

/-! ## Conditions in order -/

namespace Condition

variable {condition : Params}

/-- An entry that holds leaves the verdict to those behind it, one that does not is the verdict. -/
theorem holds_cons_eq_ok_iff {entry : String × Value} {rest : Params} {verdict : Bool} :
    holds params (entry :: rest) = .ok verdict ↔
      entryHolds params entry.1 entry.2 = .ok true ∧ holds params rest = .ok verdict ∨
        entryHolds params entry.1 entry.2 = .ok false ∧ verdict = false := by
  rw [holds]
  cases entryHolds params entry.1 entry.2 with
  | error fault => simp [bind, Except.bind]
  | ok first => cases first <;> simp [bind, Except.bind, pure, Except.pure, eq_comm]

/-- An entry of a condition does not hold, and all entries in front of it do. -/
def IsRefuted (params condition : Params) : Prop :=
  ∃ before entry after, condition = before ++ entry :: after ∧
    (∀ earlier ∈ before, entryHolds params earlier.1 earlier.2 = .ok true) ∧
      entryHolds params entry.1 entry.2 = .ok false

theorem holds_eq_ok_false_iff : holds params condition = .ok false ↔ IsRefuted params condition := by
  constructor
  · intro h
    induction condition with
    | nil => cases h
    | cons entry rest ih =>
        rcases holds_cons_eq_ok_iff.mp h with ⟨hentry, hrest⟩ | ⟨hentry, -⟩
        · obtain ⟨before, entry', after, rfl, hbefore, hentry'⟩ := ih hrest
          exact ⟨entry :: before, entry', after, rfl,
            List.forall_mem_cons.mpr ⟨hentry, hbefore⟩, hentry'⟩
        · exact ⟨[], entry, rest, rfl, by simp, hentry⟩
  · rintro ⟨before, entry, after, rfl, hbefore, hentry⟩
    induction before with
    | nil => exact holds_cons_eq_ok_iff.mpr (.inr ⟨hentry, rfl⟩)
    | cons earlier before ih =>
        obtain ⟨hearlier, hbefore⟩ := List.forall_mem_cons.mp hbefore
        exact holds_cons_eq_ok_iff.mpr (.inl ⟨hearlier, ih hbefore⟩)

/-- A condition that holds has evaluated all of its entries. -/
theorem entryHolds_of_holds (h : holds params condition = .ok true) :
    ∀ entry ∈ condition, entryHolds params entry.1 entry.2 = .ok true := by
  induction condition with
  | nil => simp
  | cons entry rest ih =>
      rcases holds_cons_eq_ok_iff.mp h with ⟨hentry, hrest⟩ | ⟨-, hfalse⟩
      · exact List.forall_mem_cons.mpr ⟨hentry, ih hrest⟩
      · cases hfalse

/-! ## Fields that are absent -/

theorem entryHolds_of_missing {key : String} (h : params.get? (fieldOf key) = none)
    (expected : Value) : ∃ fault, entryHolds params key expected = .error fault := by
  simp only [entryHolds, h]
  split
  · split <;> exact ⟨_, rfl⟩
  · exact ⟨_, rfl⟩

/-- No condition holds that names a field that is absent. -/
theorem holds_ne_ok_true_of_missing
    (h : ∃ entry ∈ condition, params.get? (fieldOf entry.1) = none) :
    holds params condition ≠ .ok true := by
  obtain ⟨entry, hentry, hmissing⟩ := h
  intro hholds
  obtain ⟨fault, hfault⟩ := entryHolds_of_missing hmissing entry.2
  rw [entryHolds_of_holds hholds entry hentry] at hfault
  cases hfault

end Condition

namespace Slot

variable {s : Slot}

/-- A refuted `skipIf` says as little as an empty one. -/
theorem shouldSkip_of_isRefuted (h : Condition.IsRefuted params s.skipIf) :
    s.shouldSkip params = ({ s with skipIf := [] } : Slot).shouldSkip params := by
  have hevaluate : Condition.evaluate .skipIf params s.skipIf = .ok false := by
    rw [Condition.evaluate, Condition.holds_eq_ok_false_iff.mpr h]
  rw [shouldSkip_eq_bind, shouldSkip_eq_bind, hevaluate]
  split <;> rfl

theorem shouldSkip_ne_skipIf_fault (h : s.skipIf = []) (fault : ConditionFault) :
    s.shouldSkip params ≠ .error (.condition .skipIf fault) := by
  rw [shouldSkip_eq_bind, h]
  cases s.skipUnless.isEmpty with
  | true => simp [bind, Except.bind, pure, Except.pure]
  | false =>
      cases hholds : Condition.holds params s.skipUnless <;>
        simp [Condition.evaluate, hholds, bind, Except.bind, pure, Except.pure]

/-- If `skipIf` names a field that is absent, the answer is a fault of `skipIf`, unless an entry that
does not hold is reached before one that cannot be evaluated: then it is the answer of `skipUnless`
alone. -/
theorem shouldSkip_of_missing (s : Slot) (params : Params)
    (h : ∃ entry ∈ s.skipIf, params.get? (Condition.fieldOf entry.1) = none) :
    ((∃ fault, s.shouldSkip params = .error (.condition .skipIf fault)) ↔
        ¬ Condition.IsRefuted params s.skipIf) ∧
      (Condition.IsRefuted params s.skipIf →
        s.shouldSkip params = ({ s with skipIf := [] } : Slot).shouldSkip params) := by
  refine ⟨⟨?_, fun hrefuted => ?_⟩, shouldSkip_of_isRefuted⟩
  · rintro ⟨fault, hfault⟩ hrefuted
    rw [shouldSkip_of_isRefuted hrefuted] at hfault
    exact shouldSkip_ne_skipIf_fault rfl fault hfault
  · have hne : s.skipIf ≠ [] := by
      obtain ⟨entry, hentry, -⟩ := h
      exact List.ne_nil_of_mem hentry
    have hempty : s.skipIf.isEmpty = false := by simpa using hne
    cases hholds : Condition.holds params s.skipIf with
    | error fault =>
        refine ⟨fault, ?_⟩
        rw [shouldSkip_eq_bind, hempty, Condition.evaluate, hholds]
        rfl
    | ok verdict =>
        cases verdict with
        | true => exact absurd hholds (Condition.holds_ne_ok_true_of_missing h)
        | false => exact absurd (Condition.holds_eq_ok_false_iff.mp hholds) hrefuted

/-- The unit of an interval, for which days stand if nothing is compared. -/
def intervalUnit : Slot where
  key := "unit"
  skipIf := [("operator", .str "IS_NULL"), ("unit_kind", .str "DAYS")]
  skipUnless := [("operator", .str "EQ")]

theorem shouldSkip_of_missing_intervalUnit :
    (∃ fault, intervalUnit.shouldSkip [("operator", .str "IS_NULL")] =
      .error (.condition .skipIf fault)) ∧
    intervalUnit.shouldSkip [("operator", .str "LT")] =
      ({ intervalUnit with skipIf := [] } : Slot).shouldSkip [("operator", .str "LT")] := by
  have hnamed : ("unit_kind", .str "DAYS") ∈ intervalUnit.skipIf := by simp [intervalUnit]
  constructor
  · refine (shouldSkip_of_missing intervalUnit _ ⟨_, hnamed, rfl⟩).1.mpr ?_
    have hmissing : Condition.holds [("operator", .str "IS_NULL")] intervalUnit.skipIf =
        .error (.missingField "unit_kind") := rfl
    simp [← Condition.holds_eq_ok_false_iff, hmissing]
  · exact (shouldSkip_of_missing intervalUnit _ ⟨_, hnamed, rfl⟩).2
      (Condition.holds_eq_ok_false_iff.mp rfl)

/-- An operator that does not match hides that the unit is missing. -/
theorem missing_behind_mismatch :
    ¬ ∀ (s : Slot) (params : Params),
      (∃ entry ∈ s.skipIf, params.get? (Condition.fieldOf entry.1) = none) →
        ∃ fault, s.shouldSkip params = .error (.condition .skipIf fault) := by
  intro h
  obtain ⟨fault, hfault⟩ := h intervalUnit [("operator", .str "EQ")]
    ⟨("unit_kind", .str "DAYS"), by simp [intervalUnit], rfl⟩
  have hskip : intervalUnit.shouldSkip [("operator", .str "EQ")] = .ok false := rfl
  rw [hskip] at hfault
  cases hfault

end Slot

/-! ## Null -/

/-- Asks the pattern of a slot about a text. -/
def Slot.matchText (s : Slot) (text : String) : Except Fault Unit :=
  if s.key.isEmpty then .ok ()
  else match s.validation with
    | some validation => validation.check s.key (.str text)
    | none => .ok ()

theorem bind_eq_self_iff {r next : Except Fault Unit} :
    (r >>= fun _ => next) = r ↔ (r = .ok () → next = .ok ()) := by
  cases r with
  | ok _ => simp [bind, Except.bind]
  | error fault => simp [bind, Except.bind]

section

variable {s : Slot}

theorem Slot.shouldSkip_set_eq_erase {key : String} (h : key ∉ s.conditionFields) (v : Value) :
    s.shouldSkip (params.set key v) = s.shouldSkip (params.erase key) := by
  refine Slot.shouldSkip_congr fun entry hentry => ?_
  have hne : Condition.fieldOf entry.1 ≠ key := by
    rintro rfl
    exact h (List.mem_map_of_mem hentry)
  rw [Fields.get?_set_of_ne hne, Fields.get?_erase_of_ne hne]

theorem Slot.validate_null (h : s.key ∉ s.conditionFields) :
    s.validate (params.set s.key .null) =
      s.validate (params.erase s.key) >>= fun _ => s.matchText "" := by
  rw [Slot.validate, Slot.validate, shouldSkip_set_eq_erase h, Fields.get?_set_self,
    Fields.get?_erase_self, matchText]
  cases s.shouldSkip (params.erase s.key) with
  | error fault => rfl
  | ok skipped =>
      cases skipped with
      | true => rfl
      | false =>
          cases s.key.isEmpty with
          | true => rfl
          | false =>
              cases s.required with
              | true => rfl
              | false => cases s.validation <;> rfl

end

theorem submitted_set_null {key : String} : submitted (params.set key .null) key = none := by
  rw [submitted, Fields.get?_set_self]
  rfl

theorem submitted_erase {key : String} : submitted (params.erase key) key = none := by
  rw [submitted, Fields.get?_erase_self]
  rfl

/-- Where a fragment accepts that its parameter is absent, it goes on to ask its pattern about the
empty text if the parameter is null. So null and nothing are the same to it, unless it accepts nothing
and has a pattern that does not match the empty text. -/
theorem Fragment.validate_set_null (f : Fragment) (params : Params)
    (h : f.slot.key ∉ f.slot.conditionFields) :
    f.validate (params.set f.slot.key .null) =
        (f.validate (params.erase f.slot.key) >>= fun _ => f.slot.matchText "") ∧
      (f.validate (params.set f.slot.key .null) = f.validate (params.erase f.slot.key) ↔
        (f.validate (params.erase f.slot.key) = .ok () → f.slot.matchText "" = .ok ())) := by
  have heq : f.validate (params.set f.slot.key .null) =
      (f.validate (params.erase f.slot.key) >>= fun _ => f.slot.matchText "") := by
    rw [Fragment.validate, Fragment.validate, Slot.validate_null h, submitted_set_null,
      submitted_erase]
    cases parameter (f.control.checkSetup f.slot.key) with
    | error fault => rfl
    | ok _ =>
        cases f.slot.validate (params.erase f.slot.key) with
        | error fault => rfl
        | ok _ => cases f.slot.matchText "" <;> rfl
  exact ⟨heq, by rw [heq, bind_eq_self_iff]⟩

/-- A code of capital letters, which may be empty. -/
def optionalCode : Fragment :=
  ⟨{ key := "code", validation := some ⟨"^[A-Z]*$", ""⟩, skipIf := [("kind", .str "NONE")] },
    .textInput⟩

theorem Fragment.validate_set_null_optionalCode :
    optionalCode.validate [("code", .null), ("kind", .str "ANY")] = .ok () ∧
      optionalCode.validate [("kind", .str "ANY")] = .ok () := by
  have habsent : optionalCode.validate [("kind", .str "ANY")] = .ok () :=
    eq_ok_of_isOk (by decide +kernel)
  have hmatch : optionalCode.slot.matchText "" = .ok () := eq_ok_of_isOk (by decide +kernel)
  obtain ⟨-, hiff⟩ := validate_set_null optionalCode [("kind", .str "ANY")] (by decide +kernel)
  exact ⟨(hiff.mpr fun _ => hmatch).trans habsent, habsent⟩

/-- A code of capital letters. -/
def letterCode : Fragment := ⟨{ key := "code", validation := some ⟨"^[A-Z]+$", ""⟩ }, .textInput⟩

theorem Fragment.null_is_not_absent :
    ¬ ∀ (f : Fragment) (params : Params), f.slot.key ∉ f.slot.conditionFields →
      f.validate (params.set f.slot.key .null) = f.validate (params.erase f.slot.key) := by
  intro h
  have hnull : (letterCode.validate [("code", .null)]).isOk = false := by decide +kernel
  have habsent : (letterCode.validate []).isOk = true := by decide +kernel
  have heq : letterCode.validate [("code", .null)] = letterCode.validate [] :=
    h letterCode [] (by simp [letterCode, Slot.conditionFields])
  rw [heq, habsent] at hnull
  cases hnull

end Cohort
