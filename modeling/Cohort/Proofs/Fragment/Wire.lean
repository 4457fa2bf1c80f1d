import Cohort.Fragment.Wire
import Cohort.Proofs.Document.Ordered

/-! # Fragments are read as they are written -/

namespace Cohort

open Document

/-! ## What can be written -/

/-- The values in a slot are in order. -/
structure Slot.IsOrdered (s : Slot) : Prop where
  defaultValue : s.defaultValue.Ordered
  skipIf : (Value.obj s.skipIf).Ordered
  skipUnless : (Value.obj s.skipUnless).Ordered

/-- A moment is read from a text as it is written to it. -/
def Calendar.Moment.ReadsBack (m : Moment) : Prop := readLoose? (m.text "Z") = some m

/-- What a control holds can be written: numbers are finite, moments are read back, and values are in
order. -/
inductive Control.IsWritable : Control → Prop where
  | textInput : IsWritable .textInput
  | numberInput (min max : Binary64) : IsWritable (.numberInput (.finite min) (.finite max))
  | datePicker {min max : Option Calendar.Moment} (includeTime : Bool)
      (hmin : ∀ m, min = some m → m.ReadsBack) (hmax : ∀ m, max = some m → m.ReadsBack) :
        IsWritable (.datePicker min max includeTime)
  | select {options : List SelectOption} (multiple : Bool)
      (h : ∀ o ∈ options, o.value.Ordered) : IsWritable (.select options multiple)
  | icon : IsWritable .icon
  | text (content : String) : IsWritable (.text content)
  | hidden : IsWritable .hidden

/-- A fragment can be written. -/
structure Fragment.IsWritable (f : Fragment) : Prop where
  slot : f.slot.IsOrdered
  control : f.control.IsWritable

/-! ## Parts -/

theorem mapM_map_eq_pure {m : Type → Type} [Monad m] [LawfulMonad m] {α β : Type} {f : β → m α}
    {g : α → β} {xs : List α} (h : ∀ x ∈ xs, f (g x) = pure x) : (xs.map g).mapM f = pure xs := by
  induction xs with
  | nil => rfl
  | cons x xs ih =>
      obtain ⟨hx, hxs⟩ := List.forall_mem_cons.mp h
      rw [List.map_cons, List.mapM_cons, ih hxs, hx, pure_bind, pure_bind]

theorem list?_settle {α : Type} {write : α → Document} {part : Document → Option α} {xs : List α}
    (h : ∀ x ∈ xs, part (write x).settle = some x) :
    list? part (Document.arr (xs.map write)).settle = some xs := by
  rw [settle_arr, list?, List.map_map]
  exact mapM_map_eq_pure h

theorem Validation.ofDocument?_settle (v : Validation) :
    ofDocument? v.toDocument.settle = some v := by
  have hnodup : ([("pattern", Document.str v.pattern),
      ("errorMessage", .str v.errorMessage)].map Prod.fst).Nodup := by simp
  obtain ⟨known, hknown, hget⟩ := exists_fields?_settle hnodup fieldNames
  have hread : v.toDocument.settle.record? fieldNames = some known := hknown
  have hpattern : known.get? "pattern" = some (.str v.pattern) := hget "pattern" (by decide)
  have hmessage : known.get? "errorMessage" = some (.str v.errorMessage) :=
    hget "errorMessage" (by decide)
  simp [ofDocument?, hread, field?, fieldOr?, hpattern, hmessage, text?]

theorem SelectOption.ofDocument?_settle {o : SelectOption} (h : o.value.Ordered) :
    ofDocument? o.toDocument.settle = some o := by
  have hnodup : ([("value", o.value.toDocument),
      ("label", Document.str o.label)].map Prod.fst).Nodup := by simp
  obtain ⟨known, hknown, hget⟩ := exists_fields?_settle hnodup fieldNames
  have hread : o.toDocument.settle.record? fieldNames = some known := hknown
  have hvalue : known.get? "value" = some o.value.toDocument := by
    rw [← settle_toDocument h]
    exact hget "value" (by decide)
  have hlabel : known.get? "label" = some (.str o.label) := hget "label" (by decide)
  simp [ofDocument?, hread, field?, hvalue, hlabel, text?, h.toValue_toDocument]

theorem params?_settle {fields : Params} (h : (Value.obj fields).Ordered) :
    params? (Value.obj fields).toDocument.settle = some fields := by
  rw [settle_toDocument h]
  exact params?_toDocument h

/-! ## Slots and controls -/

/-- What a slot writes under each of its names. -/
structure Slot.Writes (s : Slot) (fields : Fields Document) : Prop where
  key : fields.get? "key" = some (.str s.key)
  defaultValue : fields.get? "defaultValue" = some s.defaultValue.toDocument
  validation : fields.get? "validation" = s.validation.map Validation.toDocument
  required : fields.get? "required" = some (.bool s.required)
  skipIf : fields.get? "skipIf" =
    if s.skipIf = [] then none else some (Value.obj s.skipIf).toDocument
  skipUnless : fields.get? "skipUnless" =
    if s.skipUnless = [] then none else some (Value.obj s.skipUnless).toDocument

theorem Slot.writes_toFields (s : Slot) : s.Writes s.toFields := by
  obtain ⟨key, defaultValue, validation, required, skipIf, skipUnless⟩ := s
  cases validation <;> cases skipIf <;> cases skipUnless <;> constructor <;> rfl

theorem fieldOr?_condition {known : Fields Document} {name : String} {condition : Params}
    (h : (Value.obj condition).Ordered)
    (hget : known.get? name =
      (if condition = [] then none else some (Value.obj condition).toDocument).map settle) :
    fieldOr? known name params? [] = some condition := by
  by_cases hempty : condition = []
  · rw [if_pos hempty] at hget
    rw [fieldOr?, hget, hempty]
    rfl
  · rw [if_neg hempty] at hget
    rw [fieldOr?, hget]
    exact params?_settle h

/-- A slot is read of its fields, whatever stands beside them. -/
theorem Slot.ofFields?_eq {s : Slot} {known : Fields Document} (hs : s.IsOrdered)
    (hget : ∀ name ∈ fieldNames, known.get? name = (Fields.get? s.toFields name).map settle) :
    ofFields? known = some s := by
  have hwrites := s.writes_toFields
  have hkey : fieldOr? known "key" text? "" = some s.key := by
    rw [fieldOr?, hget "key" (by decide), hwrites.key]
    rfl
  have hdefault : fieldOr? known "defaultValue" (fun v => some v.toValue) .null =
      some s.defaultValue := by
    rw [fieldOr?, hget "defaultValue" (by decide), hwrites.defaultValue, Option.map_some,
      settle_toDocument hs.defaultValue]
    exact congrArg some hs.defaultValue.toValue_toDocument
  have hvalidation : fieldOr? known "validation" (nullable? Validation.ofDocument?) none =
      some s.validation := by
    rw [fieldOr?, hget "validation" (by decide), hwrites.validation]
    cases s.validation with
    | none => rfl
    | some v => exact congrArg (Option.map some) v.ofDocument?_settle
  have hrequired : fieldOr? known "required" flag? false = some s.required := by
    rw [fieldOr?, hget "required" (by decide), hwrites.required]
    rfl
  have hskipIf : fieldOr? known "skipIf" params? [] = some s.skipIf := by
    apply fieldOr?_condition hs.skipIf
    rw [hget "skipIf" (by decide), hwrites.skipIf]
  have hskipUnless : fieldOr? known "skipUnless" params? [] = some s.skipUnless := by
    apply fieldOr?_condition hs.skipUnless
    rw [hget "skipUnless" (by decide), hwrites.skipUnless]
  rw [ofFields?, hkey, hdefault, hvalidation, hrequired, hskipIf, hskipUnless]
  rfl

theorem fieldOr?_moment {known : Fields Document} {name : String} {m : Option Calendar.Moment}
    (h : ∀ m', m = some m' → m'.ReadsBack)
    (hget : known.get? name = (m.map Control.momentDocument).map settle) :
    fieldOr? known name (nullable? Control.moment?) none = some m := by
  rw [fieldOr?, hget]
  cases m with
  | none => rfl
  | some m =>
      have hread : Calendar.Moment.readLoose? (m.text "Z") = some m := h m rfl
      change (Calendar.Moment.readLoose? (m.text "Z")).map some = _
      rw [hread]
      rfl

/-- A control is read of its fields, if its type is known. -/
theorem Control.ofFields?_eq {c : Control} {known : Fields Document} (hc : c.IsWritable)
    (hget : ∀ name ∈ fieldNames c.type,
      known.get? name = (Fields.get? c.toFields name).map settle) :
    ofFields? c.type known = some c := by
  cases hc with
  | textInput | icon | hidden => rfl
  | numberInput min max =>
      have hmin : fieldOr? known "min" bound? .zero = some (.finite min) := by
        rw [fieldOr?, hget "min" (by simp [fieldNames, type])]
        rfl
      have hmax : fieldOr? known "max" bound? .zero = some (.finite max) := by
        rw [fieldOr?, hget "max" (by simp [fieldNames, type])]
        rfl
      rw [type, ofFields?, hmin, hmax]
      rfl
  | @datePicker min max includeTime hmin hmax =>
      have hmin : fieldOr? known "min" (nullable? moment?) none = some min := by
        apply fieldOr?_moment hmin
        rw [hget "min" (by simp [fieldNames, type])]
        cases min <;> cases max <;> rfl
      have hmax : fieldOr? known "max" (nullable? moment?) none = some max := by
        apply fieldOr?_moment hmax
        rw [hget "max" (by simp [fieldNames, type])]
        cases min <;> cases max <;> rfl
      have htime : fieldOr? known "includeTime" flag? false = some includeTime := by
        rw [fieldOr?, hget "includeTime" (by simp [fieldNames, type])]
        cases min <;> cases max <;> rfl
      rw [type, ofFields?, hmin, hmax, htime]
      rfl
  | @select options multiple h =>
      have hoptions : fieldOr? known "options" (list? SelectOption.ofDocument?) [] =
          some options := by
        rw [fieldOr?, hget "options" (by simp [fieldNames, type])]
        exact list?_settle fun o ho => SelectOption.ofDocument?_settle (h o ho)
      have hmultiple : fieldOr? known "multiple" flag? false = some multiple := by
        rw [fieldOr?, hget "multiple" (by simp [fieldNames, type])]
        rfl
      rw [type, ofFields?, hoptions, hmultiple]
      rfl
  | text content =>
      have htext : fieldOr? known "text" text? "" = some content := by
        rw [fieldOr?, hget "text" (by simp [fieldNames, type])]
        rfl
      rw [type, ofFields?, htext]
      rfl

/-! ## Fragments -/

theorem Slot.names_conditionField (name : String) (condition : Params) :
    ((conditionField name condition).map Prod.fst).Sublist [name] := by
  cases condition <;> simp [conditionField]

theorem Slot.names_toFields (s : Slot) : (s.toFields.map Prod.fst).Sublist fieldNames := by
  obtain ⟨key, defaultValue, validation, required, skipIf, skipUnless⟩ := s
  have hall : ∀ fields : Fields Document, (fields.map Prod.fst).Sublist ["validation"] →
      (([("key", Document.str key), ("defaultValue", defaultValue.toDocument)] ++ fields ++
        [("required", Document.bool required)] ++ conditionField "skipIf" skipIf ++
          conditionField "skipUnless" skipUnless).map Prod.fst).Sublist
        (["key", "defaultValue"] ++ ["validation"] ++ ["required"] ++ ["skipIf"] ++
          ["skipUnless"]) := by
    intro fields hfields
    simp only [List.map_append]
    have hfirst := (List.Sublist.refl ["key", "defaultValue"]).append hfields
    have hrequired := hfirst.append (.refl ["required"])
    exact (hrequired.append (names_conditionField "skipIf" skipIf)).append
      (names_conditionField "skipUnless" skipUnless)
  cases validation with
  | none => exact hall [] (List.nil_sublist _)
  | some v => exact hall [("validation", v.toDocument)] (.refl _)

theorem Control.names_momentField (name : String) (m : Option Calendar.Moment) :
    ((momentField name m).map Prod.fst).Sublist [name] := by
  cases m <;> simp [momentField]

theorem Control.names_toFields (c : Control) :
    (c.toFields.map Prod.fst).Sublist (fieldNames c.type) := by
  cases c with
  | datePicker min max includeTime =>
      have htime : ([("includeTime", Document.bool includeTime)].map Prod.fst).Sublist
          ["includeTime"] := .refl _
      have hall := ((names_momentField "min" min).append (names_momentField "max" max)).append htime
      simp only [← List.map_append] at hall
      exact hall
  | _ => exact .refl _

/-- No field of a control is named like one of a slot, or like the type. -/
theorem nodup_fieldNames (t : FragmentType) :
    ("type" :: (Slot.fieldNames ++ Control.fieldNames t)).Nodup := by
  cases t <;> decide

namespace Fragment

/-- The fields of a fragment. -/
def toFields (f : Fragment) : List (String × Document) :=
  ("type", .str f.type.name) :: (f.slot.toFields ++ f.control.toFields)

theorem toDocument_eq (f : Fragment) : f.toDocument = .obj f.toFields := rfl

theorem nodup_toFields (f : Fragment) : (f.toFields.map Prod.fst).Nodup := by
  refine (nodup_fieldNames f.type).sublist ?_
  rw [toFields, List.map_cons, List.map_append]
  exact (f.slot.names_toFields.append f.control.names_toFields).cons_cons "type"

theorem get?_toFields (f : Fragment) {name : String} (h : name ≠ "type") :
    Fields.get? f.toFields name =
      (Fields.get? f.slot.toFields name).or (Fields.get? f.control.toFields name) := by
  rw [toFields, Fields.get?, List.lookup_cons, beq_eq_false_iff_ne.mpr h, List.lookup_append]
  rfl

/-- The fields of the slot and of the control are found side by side. -/
theorem get?_slot (f : Fragment) {name : String} (h : name ∈ Slot.fieldNames) :
    Fields.get? f.toFields name = Fields.get? f.slot.toFields name := by
  have hnodup := nodup_fieldNames f.type
  rw [List.nodup_cons, List.nodup_append] at hnodup
  obtain ⟨htype, -, -, hapart⟩ := hnodup
  have hne : name ≠ "type" := by
    rintro rfl
    exact htype (List.mem_append_left _ h)
  have hnone : Fields.get? f.control.toFields name = none := Fields.get?_eq_none fun hmem =>
    hapart name h name (f.control.names_toFields.subset hmem) rfl
  rw [f.get?_toFields hne, hnone, Option.or_none]

theorem get?_control (f : Fragment) {name : String} (h : name ∈ Control.fieldNames f.type) :
    Fields.get? f.toFields name = Fields.get? f.control.toFields name := by
  have hnodup := nodup_fieldNames f.type
  rw [List.nodup_cons, List.nodup_append] at hnodup
  obtain ⟨htype, -, -, hapart⟩ := hnodup
  have hne : name ≠ "type" := by
    rintro rfl
    exact htype (List.mem_append_right _ h)
  have hnone : Fields.get? f.slot.toFields name = none := Fields.get?_eq_none fun hmem =>
    hapart name (f.slot.names_toFields.subset hmem) name h rfl
  rw [f.get?_toFields hne, hnone, Option.none_or]

theorem ofDocumentAs?_settle {f : Fragment} (hf : f.IsWritable) :
    ofDocumentAs? f.type f.toDocument.settle = some f := by
  obtain ⟨known, hknown, hget⟩ := exists_fields?_settle f.nodup_toFields
    (Slot.fieldNames ++ Control.fieldNames f.type)
  rw [← toDocument_eq] at hknown
  have hslot : Slot.ofFields? known = some f.slot := by
    apply Slot.ofFields?_eq hf.slot
    intro name hname
    rw [hget name (List.mem_append_left _ hname), f.get?_slot hname]
  have hcontrol : Control.ofFields? f.type known = some f.control := by
    apply Control.ofFields?_eq hf.control
    intro name hname
    rw [hget name (List.mem_append_right _ hname), f.get?_control hname]
  rw [ofDocumentAs?, hknown, Option.bind_eq_bind, Option.bind_some, hslot]
  simp only [hcontrol]
  rfl

theorem ofName?_name (t : FragmentType) : FragmentType.ofName? t.name = some t := by
  cases t <;> rfl

/-- A fragment is read as it is written. -/
theorem ofDocument?_settle {f : Fragment} (hf : f.IsWritable) :
    ofDocument? f.toDocument.settle = some f := by
  obtain ⟨known, hknown, hget⟩ := exists_fields?_settle f.nodup_toFields ["type"]
  rw [← toDocument_eq] at hknown
  have htype : known.get? "type" = some (.str f.type.name) := hget "type" (by simp)
  rw [ofDocument?, hknown, Option.bind_eq_bind, Option.bind_some, field?, htype]
  change (FragmentType.ofName? f.type.name).bind _ = _
  rw [ofName?_name, Option.bind_some, ofDocumentAs?_settle hf]

end Fragment

end Cohort
