import Mathlib.Data.List.Forall2
import Cohort.Proofs.Fragment.Passing

/-! # Conditions that are well formed

A condition is evaluated in order, up to the first entry that does not hold. When each entry can be
evaluated, the result is that of a conjunction, and no order matters. -/

namespace Cohort

/-! ## Verdicts -/

/-- A computation has no fault, and its verdict is whether a proposition holds. -/
def Decides {ε : Type} (r : Except ε Bool) (P : Prop) : Prop :=
  ∃ verdict, r = .ok verdict ∧ (verdict = true ↔ P)

namespace Decides

variable {ε : Type} {r r' : Except ε Bool} {P Q : Prop}

theorem of_eq_true (b : Bool) : Decides (ε := ε) (.ok b) (b = true) := ⟨b, rfl, Iff.rfl⟩

theorem congr (h : Decides r P) (hPQ : P ↔ Q) : Decides r Q := by
  obtain ⟨verdict, hr, hP⟩ := h
  exact ⟨verdict, hr, hP.trans hPQ⟩

theorem eq_ok_true (h : Decides r P) (hP : P) : r = .ok true := by
  obtain ⟨verdict, rfl, hverdict⟩ := h
  rw [hverdict.mpr hP]

theorem eq_ok_false (h : Decides r P) (hP : ¬ P) : r = .ok false := by
  obtain ⟨verdict, rfl, hverdict⟩ := h
  rw [Bool.eq_false_iff.mpr fun htrue => hP (hverdict.mp htrue)]

theorem unique (h : Decides r P) (h' : Decides r' P) : r = r' := by
  by_cases hP : P
  · rw [h.eq_ok_true hP, h'.eq_ok_true hP]
  · rw [h.eq_ok_false hP, h'.eq_ok_false hP]

/-- A check of all elements that ends at the first failure decides whether all of them succeed. -/
theorem allM {α : Type} {p : α → Except ε Bool} {P : α → Prop} {l : List α}
    (h : ∀ x ∈ l, Decides (p x) (P x)) : Decides (l.allM p) (∀ x ∈ l, P x) := by
  induction l with
  | nil => exact ⟨true, rfl, by simp⟩
  | cons x rest ih =>
      obtain ⟨hx, hrest⟩ := List.forall_mem_cons.mp h
      rw [List.allM]
      by_cases hP : P x
      · rw [hx.eq_ok_true hP]
        exact (ih hrest).congr (by simp [hP])
      · rw [hx.eq_ok_false hP]
        exact ⟨false, rfl, by simp [hP]⟩

end Decides

/-! ## Operators -/

theorem SkipOperator.ofName?_equal {op : String} (hop : Text.toUpper op = "EQ") :
    ofName? op = some equal := by
  simp [ofName?, name, hop]

theorem SkipOperator.ofName?_oneOf {op : String} (hop : Text.toUpper op = "IN") :
    ofName? op = some oneOf := by
  simp [ofName?, name, hop]

namespace Condition

variable {value : Value} {params : Params}

/-- An operator, by its name in any case, with an operand that it takes. -/
inductive Operates : String × Value → Prop where
  | equal {op : String} {operand : Value} (hop : Text.toUpper op = "EQ") : Operates (op, operand)
  | oneOf {op : String} {items : List Value} (hop : Text.toUpper op = "IN") :
      Operates (op, .arr items)

/-- What an operator asks of a value: to be the operand, or to be one of those listed. -/
inductive Satisfies (value : Value) : String × Value → Prop where
  | equal {op : String} {operand : Value} (hop : Text.toUpper op = "EQ")
      (hsame : value.same operand = true) : Satisfies value (op, operand)
  | oneOf {op : String} {items : List Value} {item : Value} (hop : Text.toUpper op = "IN")
      (hitem : item ∈ items) (hsame : value.same item = true) : Satisfies value (op, .arr items)

/-- The check of one operator among several. -/
def checkOperator (value : Value) (o : String × Value) : Except ConditionFault Bool :=
  match SkipOperator.ofName? o.1 with
  | none => .error (.unknownOperator o.1)
  | some op => op.holds value o.2

theorem matchesAll_eq_allM (operators : List (String × Value)) :
    matchesAll value operators = operators.allM (checkOperator value) := by
  induction operators with
  | nil => rfl
  | cons o rest ih =>
      obtain ⟨op, operand⟩ := o
      rw [matchesAll, List.allM, checkOperator]
      cases SkipOperator.ofName? op with
      | none => rfl
      | some o =>
          simp only
          cases o.holds value operand with
          | error fault => rfl
          | ok verdict => cases verdict <;> simp [ih, bind, Except.bind, pure, Except.pure]

theorem satisfies_equal_iff {op : String} {operand : Value} (hop : Text.toUpper op = "EQ") :
    Satisfies value (op, operand) ↔ value.same operand = true := by
  refine ⟨fun h => ?_, .equal hop⟩
  cases h with
  | equal _ hsame => exact hsame
  | oneOf hin _ _ => simp [hop] at hin

theorem satisfies_oneOf_iff {op : String} {items : List Value} (hop : Text.toUpper op = "IN") :
    Satisfies value (op, .arr items) ↔ ∃ item ∈ items, value.same item = true := by
  refine ⟨fun h => ?_, fun ⟨_, hitem, hsame⟩ => .oneOf hop hitem hsame⟩
  cases h with
  | equal heq _ => simp [hop] at heq
  | oneOf _ hitem hsame => exact ⟨_, hitem, hsame⟩

theorem decides_checkOperator {o : String × Value} (h : Operates o) :
    Decides (checkOperator value o) (Satisfies value o) := by
  rw [checkOperator]
  cases h with
  | equal hop =>
      simp only [SkipOperator.ofName?_equal hop, SkipOperator.holds, satisfies_equal_iff hop]
      exact .of_eq_true _
  | oneOf hop =>
      simp only [SkipOperator.ofName?_oneOf hop, SkipOperator.holds, satisfies_oneOf_iff hop]
      exact (Decides.of_eq_true _).congr List.any_eq_true

theorem decides_matchesAll {operators : List (String × Value)} (h : ∀ o ∈ operators, Operates o) :
    Decides (matchesAll value operators) (∀ o ∈ operators, Satisfies value o) := by
  rw [matchesAll_eq_allM]
  exact .allM fun o ho => decides_checkOperator (h o ho)

/-! ## Entries -/

/-- A key that is the name of a field. -/
def IsPlain (key : String) : Prop := key.toList.head? ≠ some '$'

/-- An entry that can be evaluated: its field is there, and what is announced as operators is a
map of at least one, each with an operand that it takes. -/
inductive Evaluable (params : Params) : String × Value → Prop where
  | plain {key : String} {value expected : Value} (hkey : IsPlain key)
      (hfield : params.get? key = some value) : Evaluable params (key, expected)
  | operators {key field : String} {value : Value} {operators : List (String × Value)}
      (hkey : key = "$" ++ field) (hfield : params.get? field = some value)
      (hne : operators ≠ []) (hall : ∀ o ∈ operators, Operates o) :
      Evaluable params (key, .obj operators)

/-- What an entry asks of the parameters: that the field has the value, or satisfies all
operators. -/
inductive Matches (params : Params) : String × Value → Prop where
  | plain {key : String} {value expected : Value} (hkey : IsPlain key)
      (hfield : params.get? key = some value) (hsame : value.same expected = true) :
      Matches params (key, expected)
  | operators {key field : String} {value : Value} {operators : List (String × Value)}
      (hkey : key = "$" ++ field) (hfield : params.get? field = some value)
      (hall : ∀ o ∈ operators, Satisfies value o) : Matches params (key, .obj operators)

theorem hasOperators_of_isPlain {key : String} (h : IsPlain key) : hasOperators key = false := by
  simpa [hasOperators, IsPlain] using h

theorem fieldOf_of_isPlain {key : String} (h : IsPlain key) : fieldOf key = key := by
  rw [fieldOf]
  rw [IsPlain] at h
  split
  · rename_i hkey
    simp [hkey] at h
  · rfl

theorem hasOperators_dollar (field : String) : hasOperators ("$" ++ field) = true := by
  simp [hasOperators]

theorem fieldOf_dollar (field : String) : fieldOf ("$" ++ field) = field := by
  simp [fieldOf]

theorem not_isPlain_dollar (field : String) : ¬ IsPlain ("$" ++ field) := by
  simp [IsPlain]

theorem eq_of_dollar {field field' : String} (h : "$" ++ field = "$" ++ field') :
    field = field' := by
  simpa only [fieldOf_dollar] using congrArg fieldOf h

theorem matches_plain_iff {key : String} {expected : Value} (hkey : IsPlain key)
    (hfield : params.get? key = some value) :
    Matches params (key, expected) ↔ value.same expected = true := by
  refine ⟨fun h => ?_, .plain hkey hfield⟩
  cases h with
  | plain _ hfield' hsame =>
      cases hfield.symm.trans hfield'
      exact hsame
  | operators hkey' _ _ => exact absurd (hkey' ▸ hkey) (not_isPlain_dollar _)

theorem matches_operators_iff {field : String} {operators : List (String × Value)} :
    Matches params ("$" ++ field, .obj operators) ↔
      ∃ value, params.get? field = some value ∧ ∀ o ∈ operators, Satisfies value o := by
  refine ⟨fun h => ?_, fun ⟨_, hfield, hall⟩ => .operators rfl hfield hall⟩
  generalize hkey : "$" ++ field = key at h
  cases h with
  | plain hplain _ _ => exact absurd (hkey ▸ hplain) (not_isPlain_dollar field)
  | operators hkey' hfield hall => exact ⟨_, eq_of_dollar (hkey.trans hkey') ▸ hfield, hall⟩

theorem evaluable_operators_iff {field : String} {operators : List (String × Value)} :
    Evaluable params ("$" ++ field, .obj operators) ↔
      (∃ value, params.get? field = some value) ∧ operators ≠ [] ∧
        ∀ o ∈ operators, Operates o := by
  refine ⟨fun h => ?_, fun ⟨⟨_, hfield⟩, hne, hall⟩ => .operators rfl hfield hne hall⟩
  generalize hkey : "$" ++ field = key at h
  cases h with
  | plain hplain _ => exact absurd (hkey ▸ hplain) (not_isPlain_dollar field)
  | operators hkey' hfield hne hall =>
      exact ⟨⟨_, eq_of_dollar (hkey.trans hkey') ▸ hfield⟩, hne, hall⟩

theorem decides_entryHolds {e : String × Value} (h : Evaluable params e) :
    Decides (entryHolds params e.1 e.2) (Matches params e) := by
  cases h with
  | plain hkey hfield =>
      simp only [entryHolds, hasOperators_of_isPlain hkey, fieldOf_of_isPlain hkey, hfield,
        matches_plain_iff hkey hfield]
      exact .of_eq_true _
  | operators hkey hfield hne hall =>
      subst hkey
      simp only [entryHolds, hasOperators_dollar, fieldOf_dollar, hfield, List.isEmpty_iff, hne,
        if_true, if_false]
      exact (decides_matchesAll hall).congr (by simp [matches_operators_iff, hfield])

/-! ## Conditions -/

theorem holds_eq_allM (condition : Params) :
    holds params condition = condition.allM fun e => entryHolds params e.1 e.2 := by
  induction condition with
  | nil => rfl
  | cons e rest ih =>
      rw [holds, List.allM]
      cases entryHolds params e.1 e.2 with
      | error fault => rfl
      | ok verdict => cases verdict <;> simp [ih, bind, Except.bind, pure, Except.pure]

theorem decides_evaluate {condition : Params} (clause : SkipClause)
    (h : ∀ e ∈ condition, Evaluable params e) :
    Decides (evaluate clause params condition) (∀ e ∈ condition, Matches params e) := by
  have hholds : Decides (holds params condition) (∀ e ∈ condition, Matches params e) := by
    rw [holds_eq_allM]
    exact .allM fun e he => decides_entryHolds (h e he)
  obtain ⟨verdict, hverdict, hiff⟩ := hholds
  exact ⟨verdict, by rw [evaluate, hverdict], hiff⟩

/-! ## Order -/

/-- The same entry, but for the order of its operators. -/
inductive SameEntry : String × Value → String × Value → Prop where
  | refl (e : String × Value) : SameEntry e e
  | operators {key field : String} {operators operators' : List (String × Value)}
      (hkey : key = "$" ++ field) (hperm : operators.Perm operators') :
      SameEntry (key, .obj operators) (key, .obj operators')

/-- The same condition, but for the order of its entries and of the operators in them. -/
def Reordered (condition condition' : Params) : Prop :=
  ∃ between, condition.Perm between ∧ List.Forall₂ SameEntry between condition'

theorem SameEntry.evaluable_iff {e e' : String × Value} (h : SameEntry e e') :
    Evaluable params e ↔ Evaluable params e' := by
  cases h with
  | refl => rfl
  | operators hkey hperm =>
      rw [hkey, evaluable_operators_iff, evaluable_operators_iff]
      simp only [hperm.mem_iff, ne_eq, ← List.length_eq_zero_iff, hperm.length_eq]

theorem SameEntry.matches_iff {e e' : String × Value} (h : SameEntry e e') :
    Matches params e ↔ Matches params e' := by
  cases h with
  | refl => rfl
  | operators hkey hperm =>
      rw [hkey, matches_operators_iff, matches_operators_iff]
      simp only [hperm.mem_iff]

theorem Reordered.forall_iff {condition condition' : Params} {P : String × Value → Prop}
    (h : Reordered condition condition') (hP : ∀ {e e'}, SameEntry e e' → (P e ↔ P e')) :
    (∀ e ∈ condition, P e) ↔ ∀ e ∈ condition', P e := by
  obtain ⟨between, hperm, hsame⟩ := h
  simp only [hperm.mem_iff]
  clear hperm
  induction hsame with
  | nil => rfl
  | cons he _ ih => rw [List.forall_mem_cons, List.forall_mem_cons, hP he, ih]

theorem Reordered.eq_nil_iff {condition condition' : Params} (h : Reordered condition condition') :
    condition = [] ↔ condition' = [] := by
  obtain ⟨between, hperm, hsame⟩ := h
  rw [← List.length_eq_zero_iff, hperm.length_eq, hsame.length_eq, List.length_eq_zero_iff]

end Condition

/-! ## Main result -/

namespace Slot

variable {s s' : Slot} {params : Params}

/-- What a slot says of being skipped: `skipIf` holds, or `skipUnless` does not. An empty clause says
nothing. -/
def IsSkipped (s : Slot) (params : Params) : Prop :=
  (s.skipIf ≠ [] ∧ ∀ e ∈ s.skipIf, Condition.Matches params e) ∨
    (s.skipUnless ≠ [] ∧ ¬ ∀ e ∈ s.skipUnless, Condition.Matches params e)

theorem decides_shouldSkip (hif : ∀ e ∈ s.skipIf, Condition.Evaluable params e)
    (hunless : ∀ e ∈ s.skipUnless, Condition.Evaluable params e) :
    Decides (s.shouldSkip params) (s.IsSkipped params) := by
  have hbyIf : Decides
      (if s.skipIf.isEmpty then pure false else Condition.evaluate .skipIf params s.skipIf)
      (s.skipIf ≠ [] ∧ ∀ e ∈ s.skipIf, Condition.Matches params e) := by
    by_cases hempty : s.skipIf = []
    · exact ⟨false, by simp [hempty, pure, Except.pure], by simp [hempty]⟩
    · simpa [hempty] using Condition.decides_evaluate .skipIf hif
  rw [shouldSkip_eq_bind]
  by_cases hmatch : s.skipIf ≠ [] ∧ ∀ e ∈ s.skipIf, Condition.Matches params e
  · rw [hbyIf.eq_ok_true hmatch]
    exact ⟨true, rfl, iff_of_true rfl (.inl hmatch)⟩
  · rw [hbyIf.eq_ok_false hmatch, IsSkipped, or_iff_right hmatch]
    by_cases hempty : s.skipUnless = []
    · exact ⟨false, by simp [hempty]; rfl, by simp [hempty]⟩
    · obtain ⟨verdict, hverdict, hiff⟩ := Condition.decides_evaluate .skipUnless hunless
      refine ⟨!verdict, by simp [hempty, hverdict]; rfl, ?_⟩
      rw [and_iff_right hempty, ← hiff]
      cases verdict <;> simp

theorem isSkipped_congr (hif : Condition.Reordered s.skipIf s'.skipIf)
    (hunless : Condition.Reordered s.skipUnless s'.skipUnless) :
    s.IsSkipped params ↔ s'.IsSkipped params := by
  rw [IsSkipped, IsSkipped, ne_eq, ne_eq, ne_eq, ne_eq, hif.eq_nil_iff, hunless.eq_nil_iff,
    hif.forall_iff Condition.SameEntry.matches_iff,
    hunless.forall_iff Condition.SameEntry.matches_iff]

/-- When each entry of both clauses can be evaluated, whether a fragment is skipped is decided
without a fault, as the clauses say, and in whatever order their entries and operators stand. -/
theorem shouldSkip_in_any_order (s : Slot) (params : Params)
    (hif : ∀ e ∈ s.skipIf, Condition.Evaluable params e)
    (hunless : ∀ e ∈ s.skipUnless, Condition.Evaluable params e) :
    Decides (s.shouldSkip params)
        ((s.skipIf ≠ [] ∧ ∀ e ∈ s.skipIf, Condition.Matches params e) ∨
          (s.skipUnless ≠ [] ∧ ¬ ∀ e ∈ s.skipUnless, Condition.Matches params e)) ∧
      ∀ s' : Slot, Condition.Reordered s.skipIf s'.skipIf →
        Condition.Reordered s.skipUnless s'.skipUnless →
          s'.shouldSkip params = s.shouldSkip params := by
  refine ⟨decides_shouldSkip hif hunless, fun s' hif' hunless' => ?_⟩
  have hs' : Decides (s'.shouldSkip params) (s'.IsSkipped params) :=
    decides_shouldSkip ((hif'.forall_iff Condition.SameEntry.evaluable_iff).mp hif)
      ((hunless'.forall_iff Condition.SameEntry.evaluable_iff).mp hunless)
  exact (hs'.congr (isSkipped_congr hif' hunless').symm).unique (decides_shouldSkip hif hunless)

/-- A bound that is not asked for of a strict comparison with nothing, nor unless two are
compared. -/
def upperBound : Slot where
  key := "upper"
  skipIf := [("$operator", .obj [("eq", .str "NONE"), ("In", .arr [.str "ANY", .str "NONE"])]),
    ("strict", .bool true)]
  skipUnless := [("$operator", .obj [("iN", .arr [.str "BETWEEN", .str "OUTSIDE"])])]

theorem shouldSkip_upperBound :
    let params : Params := [("operator", .str "NONE"), ("strict", .bool true)]
    let reordered : Slot := { upperBound with
      skipIf := [("strict", .bool true),
        ("$operator", .obj [("In", .arr [.str "ANY", .str "NONE"]), ("eq", .str "NONE")])] }
    upperBound.shouldSkip params = .ok true ∧ reordered.shouldSkip params = .ok true := by
  intro params reordered
  have heq : Text.toUpper "eq" = "EQ" := by decide +kernel
  have hin : Text.toUpper "In" = "IN" ∧ Text.toUpper "iN" = "IN" := by decide +kernel
  have hkey : "$operator" = "$" ++ "operator" := by decide +kernel
  obtain ⟨hdecides, horder⟩ := shouldSkip_in_any_order upperBound params
    (by
      simp only [upperBound, List.forall_mem_cons]
      exact ⟨.operators hkey rfl (by simp) (by simp [Condition.Operates.equal heq,
        Condition.Operates.oneOf hin.1]), .plain (by simp [Condition.IsPlain]) rfl, by simp⟩)
    (by
      simp only [upperBound, List.forall_mem_cons]
      exact ⟨.operators hkey rfl (by simp) (by simp [Condition.Operates.oneOf hin.2]), by simp⟩)
  have hmatches : ∀ e ∈ upperBound.skipIf, Condition.Matches params e := by
    simp only [upperBound, List.forall_mem_cons]
    refine ⟨.operators hkey rfl ?_, .plain (by simp [Condition.IsPlain]) rfl rfl, by simp⟩
    simp only [List.forall_mem_cons]
    exact ⟨.equal heq rfl, .oneOf hin.1 (List.mem_cons_of_mem _ List.mem_cons_self) rfl, by simp⟩
  have hskipped : upperBound.shouldSkip params = .ok true :=
    hdecides.eq_ok_true (.inl ⟨by simp [upperBound], hmatches⟩)
  refine ⟨hskipped, (horder reordered ⟨_, .swap _ _ _, ?_⟩ ⟨_, .refl _, ?_⟩).trans hskipped⟩
  · exact .cons (.refl _) (.cons (.operators hkey (.swap _ _ _)) .nil)
  · exact List.forall₂_same.mpr fun e _ => .refl e

end Slot

end Cohort
