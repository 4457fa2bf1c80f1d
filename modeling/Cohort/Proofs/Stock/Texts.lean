import Cohort.Proofs.Fragment.Reading
import Cohort.Proofs.Stock.Answers
import Cohort.Proofs.Stock.Trees
import Cohort.Proofs.Text.Split

/-! # The stock builder on texts

Its form looks at the parameters as they were submitted, where a list may be written with commas,
and its template at what becomes of them. Both see the same items.
-/

namespace Cohort.Stock

open Template

variable {params : Params} {options : List SelectOption} {op : TextOperator}

/-! ## The form -/

/-- The slot of an operator on texts. -/
def operatorSlot : Slot :=
  { required "operator" with defaultValue := .str TextOperator.equal.name }

/-- The slot of an operand that is no list. -/
def valueSlot : Slot := { required "value" with skipIf := whenOnList }

/-- The slot of a list. -/
def valuesSlot : Slot := { required "values" with skipUnless := whenOnList }

/-- The control of an operand, or of a list. -/
def operandControl (options : List SelectOption) (multiple : Bool) : Control :=
  if options = [] then .textInput else .select options multiple

theorem textView_fragments (options : List SelectOption) :
    ∃ ops : List TextOperator, (textView options).fragments =
      [⟨operatorSlot, .select (ops.map (optionOf TextOperator.name TextOperator.label)) false⟩,
        ⟨valueSlot, operandControl options false⟩, ⟨valuesSlot, operandControl options true⟩] := by
  cases options with
  | nil => exact ⟨TextOperator.all, rfl⟩
  | cons o options => exact ⟨TextOperator.forChoice, rfl⟩

theorem operatorSlot_asks : operatorSlot.Asks "operator" [] [] :=
  asks_required (by decide) _ _ _

theorem valueSlot_asks : valueSlot.Asks "value" whenOnList [] :=
  asks_required (by decide) _ _ _

theorem valuesSlot_asks : valuesSlot.Asks "values" [] whenOnList :=
  asks_required (by decide) _ _ _

theorem holds_whenOnList (hop : params.get? "operator" = some (.str op.name)) :
    Condition.holds params whenOnList = .ok op.isOnList := by
  have hoperators : Condition.hasOperators "$operator" = true := by decide
  have hfield : Condition.fieldOf "$operator" = "operator" := by decide
  have hname : SkipOperator.ofName? "IN" = some .oneOf := by decide +kernel
  have hany : (TextOperator.onList.map fun op => Value.str op.name).any (Value.str op.name).same =
      op.isOnList := by
    cases op <;> rfl
  cases hlist : op.isOnList <;>
    simp [whenOnList, Condition.holds, Condition.entryHolds, Condition.matchesAll,
      SkipOperator.holds, hoperators, hfield, hop, hname, hany, hlist, Bind.bind, Except.bind, pure,
      Except.pure]

/-- What an operator is applied to: the items submitted for a list, or else the one operand. -/
inductive Operands (params : Params) (op : TextOperator) : List Value → Prop
  | one {v : Value} (hop : op.isOnList = false) (hv : params.get? "value" = some v) :
      Operands params op [v]
  | several {v : Value} {items : List Value} (hop : op.isOnList = true)
      (hv : params.get? "values" = some v) (hitems : v.toList? = some items) :
      Operands params op items

/-- Whether a value is offered. -/
def IsOffered (options : List SelectOption) (v : Value) : Prop :=
  ∃ o ∈ options, o.value.same v = true

/-- A form that is passed was given an operator and what it is applied to. -/
theorem exists_operands (hok : (textView options).validate params = .ok ()) :
    ∃ op items, params.get? "operator" = some (.str (TextOperator.name op)) ∧
      Operands params op items ∧ (options ≠ [] → ∀ v ∈ items, IsOffered options v) := by
  have hpasses := View.validate_eq_ok_iff.mp hok
  obtain ⟨ops, hfragments⟩ := textView_fragments options
  rw [hfragments] at hpasses
  simp only [List.forall_mem_cons] at hpasses
  obtain ⟨hoperator, hvalue, hvalues, -⟩ := hpasses
  obtain ⟨op, -, hop⟩ := name_of_passes operatorSlot_asks hoperator
  have hholds := holds_whenOnList hop
  have hne : whenOnList ≠ [] := List.cons_ne_nil _ _
  cases hlist : op.isOnList with
  | false =>
      have hskip := valueSlot_asks.shouldSkip_skipIf hne hholds
      rw [hlist] at hskip
      obtain ⟨v, hv, hcheck⟩ := valueSlot_asks.of_passes hskip hvalue
      refine ⟨op, [v], hop, .one hlist hv, fun hoptions => ?_⟩
      rw [operandControl, if_neg hoptions] at hcheck
      simpa [IsOffered] using Control.exists_of_check_select hcheck
  | true =>
      have hskip := valuesSlot_asks.shouldSkip_skipUnless hne hholds
      rw [hlist] at hskip
      obtain ⟨v, hv, hcheck⟩ := valuesSlot_asks.of_passes hskip hvalues
      by_cases hoptions : options = []
      · rw [operandControl, if_pos hoptions] at hcheck
        cases v with
        | str s => exact ⟨op, _, hop, .several hlist hv rfl, fun hne => absurd hoptions hne⟩
        | _ => cases hcheck
      · rw [operandControl, if_neg hoptions] at hcheck
        obtain ⟨items, hitems, hoffered⟩ := Control.exists_of_check_multiple hcheck
        exact ⟨op, items, hop, .several hlist hv hitems, fun _ => hoffered⟩

/-! ## The template -/

theorem get?_splitValues_of_ne {key : String} (h : key ≠ "values") :
    (splitValues params).get? key = params.get? key := by
  rw [splitValues]
  split
  · exact Fields.get?_set_of_ne h
  · rfl

theorem get?_splitValues {v : Value} {items : List Value} (hv : params.get? "values" = some v)
    (hitems : v.toList? = some items) :
    (splitValues params).get? "values" = some (.arr items) := by
  cases v with
  | str s =>
      rw [splitValues, hv, Fields.get?_set_self]
      simpa [Value.toList?] using hitems
  | arr items' =>
      rw [splitValues, hv]
      simpa [Value.toList?, hv] using hitems
  | _ => cases hitems

/-- What a template finds once lists are split. -/
theorem Operands.shows {items : List Value} (h : Operands params op items) {nodes : List Node}
    {s : Skeleton} (hrest : Shows (splitValues params) nodes s) :
    Shows (splitValues params) (.action op.operand :: nodes) (.each items ++ s) := by
  cases h with
  | one hop hv =>
      rw [TextOperator.operand, if_neg (by simp [hop])]
      exact hrest.arg ((get?_splitValues_of_ne (by decide)).trans hv)
  | several hop hv hitems =>
      rw [TextOperator.operand, if_pos hop]
      exact hrest.argEach (get?_splitValues hv hitems)

theorem shows_after (op : TextOperator) :
    Shows params (if op.after = "" then [] else [.text op.after]) (.last op.after) := by
  split
  · rename_i hempty
    rw [hempty]
    exact shows_nil
  · exact shows_text op.after

/-- The items in a query: a placeholder each, or `NULL` if there are none. -/
def placeholders (f : Placeholder) (k : Nat) (items : List Value) : String :=
  if items = [] then "NULL" else String.intercalate ", " ((List.range' k items.length).map f)

theorem fill_each (f : Placeholder) (k : Nat) (items : List Value) :
    (Skeleton.each items).fill f k = placeholders f k items := by
  rw [Skeleton.each, placeholders]
  split
  · rfl
  · exact Skeleton.fill_list f k items

theorem exists_shows_text {items : List Value} (column : String)
    (hop : params.get? "operator" = some (.str op.name)) (h : Operands params op items) :
    ∃ s, Shows (splitValues params) (textNodes column) s ∧ s.values = items ∧
      ∀ (f : Placeholder) (k : Nat), s.fill f k = "SELECT user_id FROM users WHERE " ++ column ++
        op.before ++ placeholders f k items ++ op.after := by
  have hop' : (splitValues params).get? "operator" = some (.str op.name) :=
    (get?_splitValues_of_ne (by decide)).trans hop
  have hcase : (TextOperator.all.map fun op => (op.name, testNodes column op)).lookup op.name =
      some (testNodes column op) := by
    cases op <;> rfl
  have htest := (h.shows (shows_after op)).text (" " ++ column ++ op.before)
  have hchoice := Shows.choice hop' hcase (some (testNodes column .equal)) htest shows_nil
  refine ⟨_, hchoice.text "SELECT user_id FROM users WHERE", ?_, fun f k => ?_⟩
  · simp [Skeleton.values_each]
  · have hlead : "SELECT user_id FROM users WHERE " =
        "SELECT user_id FROM users WHERE" ++ " " := rfl
    simp only [Skeleton.fill_behind, Skeleton.fill_append, Skeleton.fill_last, fill_each,
      String.append_empty]
    simp only [String.append_assoc]
    rw [append_seam hlead]

/-! ## Lists and texts that are split into them -/

section

variable {v w : Value} {items : List Value}

theorem splitValues_set (h : v.toList? = some items) :
    splitValues (params.set "values" v) = params.set "values" (.arr items) := by
  rw [splitValues, Fields.get?_set_self]
  cases v with
  | str s =>
      obtain rfl : (Value.splitList s).map .str = items := Option.some.inj h
      exact Fields.set_set
  | arr items' =>
      obtain rfl : items' = items := Option.some.inj h
      rfl
  | _ => cases h

theorem shouldSkip_set_values {s : Slot}
    (h : ∀ entry ∈ s.skipIf ++ s.skipUnless, Condition.fieldOf entry.1 ≠ "values") :
    s.shouldSkip (params.set "values" v) = s.shouldSkip (params.set "values" w) := by
  refine Slot.shouldSkip_congr fun entry hentry => ?_
  rw [Fields.get?_set_of_ne (h entry hentry), Fields.get?_set_of_ne (h entry hentry)]

theorem validate_set_values_of_ne {s : Slot} {c : Control} (hkey : s.key ≠ "values")
    (h : ∀ entry ∈ s.skipIf ++ s.skipUnless, Condition.fieldOf entry.1 ≠ "values") :
    Fragment.validate ⟨s, c⟩ (params.set "values" v) =
      Fragment.validate ⟨s, c⟩ (params.set "values" w) := by
  refine Fragment.validate_congr (shouldSkip_set_values h) ?_
  rw [Fields.get?_set_of_ne hkey, Fields.get?_set_of_ne hkey]

theorem validate_set_values (hoptions : options ≠ []) (hv : v.toList? = some items)
    (hw : w.toList? = some items) :
    (textView options).validate (params.set "values" v) =
      (textView options).validate (params.set "values" w) := by
  obtain ⟨ops, hfragments⟩ := textView_fragments options
  have hoperator : ∀ entry ∈ operatorSlot.skipIf ++ operatorSlot.skipUnless,
      Condition.fieldOf entry.1 ≠ "values" := by decide
  have hvalue : ∀ entry ∈ valueSlot.skipIf ++ valueSlot.skipUnless,
      Condition.fieldOf entry.1 ≠ "values" := by decide
  have hvalues : ∀ entry ∈ valuesSlot.skipIf ++ valuesSlot.skipUnless,
      Condition.fieldOf entry.1 ≠ "values" := by decide
  apply View.validate_congr
  rw [hfragments]
  simp only [List.forall_mem_cons, List.not_mem_nil, false_implies, implies_true, and_true]
  refine ⟨?_, ?_, ?_⟩
  · exact validate_set_values_of_ne (by decide) hoperator
  · exact validate_set_values_of_ne (by decide) hvalue
  · rw [operandControl, if_neg hoptions]
    exact Fragment.validate_multiple_congr rfl (shouldSkip_set_values hvalues)
      Fields.get?_set_self Fields.get?_set_self hv hw

end

/-! ## The builder -/

theorem build_textBuilder (t : FieldTag) (options : List SelectOption) (f : Placeholder)
    (ctx : Context) (params : Params) :
    (textBuilder t options f).build ctx params =
      (textView options).validate params >>= fun _ =>
        (TemplateBuilder.mk t.metadata (textSource t.column) f).build ctx (splitValues params) :=
  rfl

/-- With options a list is as good as a text that is split into it. -/
theorem build_set_values {v w : Value} {items : List Value} (t : FieldTag) (f : Placeholder)
    (ctx : Context) (params : Params) (hoptions : options ≠ []) (hv : v.toList? = some items)
    (hw : w.toList? = some items) :
    (textBuilder t options f).build ctx (params.set "values" v) =
      (textBuilder t options f).build ctx (params.set "values" w) := by
  rw [build_textBuilder, build_textBuilder, validate_set_values hoptions hv hw, splitValues_set hv,
    splitValues_set hw]

theorem answers_text (t : FieldTag) (options : List SelectOption) (f : Placeholder) (ctx : Context)
    (params : Params) (h : ¬ ['\x7b', '\x7b'] <:+: t.column.toList) :
    Answers (textBuilder t options f) ctx params fun sql =>
      ∃ op items, params.get? "operator" = some (.str (TextOperator.name op)) ∧
        Operands params op items ∧ (options ≠ [] → ∀ v ∈ items, IsOffered options v) ∧
        sql = ⟨"SELECT user_id FROM users WHERE " ++ t.column ++ op.before ++
          placeholders f ctx.argOffset items ++ op.after, items⟩ := by
  refine ⟨textView options, rfl, fun fault hfault => ?_, fun hok => ?_⟩
  · rw [build_textBuilder, hfault]
    rfl
  · obtain ⟨op, items, hop, hitems, hoffered⟩ := exists_operands hok
    obtain ⟨s, hs, hvalues, hfill⟩ := exists_shows_text t.column hop hitems
    refine ⟨_, ?_, op, items, hop, hitems, hoffered, rfl⟩
    have hbuild := build_of_shows (b := ⟨t.metadata, textSource t.column, f⟩) ctx
      (read_textSource h) rfl hs
    rw [build_textBuilder, hok, hbuild, hvalues, hfill]
    rfl

/-- The builder of texts answers by its form. What passes gives a query with the items submitted,
each of them offered if there are options, and then a list that is written with commas is as good as
a list. -/
theorem answers_as_submitted (t : FieldTag) (options : List SelectOption) (f : Placeholder)
    (ctx : Context) (h : ¬ ['\x7b', '\x7b'] <:+: t.column.toList) :
    (∀ params, Answers (textBuilder t options f) ctx params fun sql =>
      ∃ op items, params.get? "operator" = some (.str (TextOperator.name op)) ∧
        Operands params op items ∧ (options ≠ [] → ∀ v ∈ items, IsOffered options v) ∧
        sql = ⟨"SELECT user_id FROM users WHERE " ++ t.column ++ op.before ++
          placeholders f ctx.argOffset items ++ op.after, items⟩) ∧
    (options ≠ [] → ∀ (params : Params) (items : List String) (sep : String),
      (∀ s ∈ items, Value.IsItem s) → items ≠ [""] → sep = "," ∨ sep = ", " →
        (textBuilder t options f).build ctx
            (params.set "values" (.str (String.intercalate sep items))) =
          (textBuilder t options f).build ctx
            (params.set "values" (.arr (items.map .str)))) := by
  refine ⟨fun params => answers_text t options f ctx params h, ?_⟩
  intro hoptions params items sep hitems hne hsep
  obtain ⟨gap, rfl, hgap⟩ :
      ∃ gap, sep = "," ++ gap ∧ gap.toList.all Text.isBlank = true := by
    rcases hsep with rfl | rfl
    · exact ⟨"", rfl, by decide⟩
    · exact ⟨" ", rfl, by decide⟩
  refine build_set_values t f ctx params hoptions ?_ rfl
  rw [Value.toList?, Value.splitList_intercalate hitems hgap hne]

/-- Two places to choose from. -/
def placeOptions : List SelectOption := [⟨.str "AU", "Australia"⟩, ⟨.str "NZ", "New Zealand"⟩]

/-- Parameters that ask for one of some places. -/
def placeParams (places : Value) : Params := Fields.set [("operator", .str "IN")] "values" places

theorem answers_as_submitted_places :
    ∃ sql op, (textBuilder ⟨"place", "Place", "", "", "place"⟩ placeOptions (fun _ => "?")).build
          .background (placeParams (.str (String.intercalate ", " ["AU", "NZ"]))) = .ok sql ∧
      Operands (placeParams (.str (String.intercalate ", " ["AU", "NZ"]))) op sql.args ∧
      (∀ v ∈ sql.args, IsOffered placeOptions v) ∧
      (textBuilder ⟨"place", "Place", "", "", "place"⟩ placeOptions (fun _ => "?")).build
          .background (placeParams (.arr (["AU", "NZ"].map .str))) = .ok sql := by
  have hoptions : placeOptions ≠ [] := List.cons_ne_nil _ _
  obtain ⟨hanswers, hsame⟩ := answers_as_submitted ⟨"place", "Place", "", "", "place"⟩ placeOptions
    (fun _ => "?") .background (by decide)
  have hplaces := hsame hoptions [("operator", .str "IN")] ["AU", "NZ"] ", "
    (by simpa using ⟨⟨by decide, by decide⟩, ⟨by decide, by decide⟩⟩) (by decide) (.inr rfl)
  obtain ⟨sql, hsql, op, items, -, hitems, hoffered, heq⟩ :=
    (hanswers (placeParams (.str (String.intercalate ", " ["AU", "NZ"])))).exists_build rfl
      (by decide +kernel)
  have hargs : sql.args = items := by rw [heq]
  rw [← hargs] at hitems hoffered
  exact ⟨sql, op, hsql, hitems, hoffered hoptions, hplaces.symm.trans hsql⟩

end Cohort.Stock
