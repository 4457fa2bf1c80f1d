import Cohort.Proofs.Fragment.Wire
import Cohort.Proofs.Registry.Coherent

/-! # Views by a registry and by themselves

A value is decoded to a view in two ways: by the types that its items name, or by what a registry
has for these types.
-/

namespace Cohort

open Document

/-- The fragments of a view can be written. -/
def View.IsWritable (v : View) : Prop := ∀ f ∈ v.fragments, f.IsWritable

/-! ## Views by themselves -/

theorem View.ofDocument?_settle {v : View} (hv : v.IsWritable) :
    ofDocument? v.toDocument.settle = some v := by
  obtain ⟨fragments⟩ := v
  have hnodup : ([("fragments", Document.arr (fragments.map Fragment.toDocument))].map
      Prod.fst).Nodup := by simp
  obtain ⟨known, hknown, hget⟩ := exists_fields?_settle hnodup ["fragments"]
  have hread : (View.toDocument ⟨fragments⟩).settle.record? ["fragments"] = some known := hknown
  have hfragments : fieldOr? known "fragments"
      (orDefault? (list? Fragment.ofDocument?) []) [] = some fragments := by
    rw [fieldOr?, hget "fragments" (by simp)]
    exact list?_settle fun f hf => Fragment.ofDocument?_settle (hv f hf)
  rw [ofDocument?, hread, Option.bind_eq_bind, Option.bind_some, hfragments]
  rfl

namespace Registry

variable {r : Registry} {item : Value} {fields : Params}

/-! ## Single items -/

theorem Reachable.type_eq (hr : r.Reachable) {t : FragmentType} {f : Fragment}
    (h : r.prototype? t = some f) : f.type = t := by
  obtain ⟨before, after, heq, -⟩ := List.lookup_eq_some_iff.mp h
  have hmem : (t, f) ∈ r.prototypes := by simp [heq]
  exact hr.coherent.type_eq (t, f) hmem

/-- Of what is registered for a type, only the type counts. -/
theorem fragmentOf_eq (hr : r.Reachable) {t : FragmentType}
    (hname : FragmentType.ofName? (typeNameOf item) = some t)
    (ht : (r.prototype? t).isSome = true) :
    r.fragmentOf item =
      match Fragment.ofDocumentAs? t item.toDocument with
      | some f => .ok f
      | none => .error .json := by
  obtain ⟨f, hf⟩ := Option.isSome_iff_exists.mp ht
  have hprototype : r.prototype t = .ok f := by rw [prototype, hf]
  rw [fragmentOf]
  simp only [hname, hprototype]
  rw [← hr.type_eq hf]
  rfl

/-- The type that an item names is not registered, or is no type. -/
def Lacks (r : Registry) (item : Value) : Prop :=
  ∀ t, FragmentType.ofName? (typeNameOf item) = some t → r.prototype? t = none

theorem Lacks.fragmentOf_eq (h : r.Lacks item) :
    r.fragmentOf item = .error (.unknownFragmentType (typeNameOf item)) := by
  rw [fragmentOf]
  cases hname : FragmentType.ofName? (typeNameOf item) with
  | none => rfl
  | some t =>
      have hprototype : r.prototype t = .error (.unknownFragmentType t.name) := by
        rw [prototype, h t hname]
      have ht : t.name = typeNameOf item := by simpa using List.find?_some hname
      simp only [hprototype, ht]
      rfl

/-- By itself an item is decoded by the type that it names, too. -/
theorem ofDocument?_eq (h : item.Ordered) :
    Fragment.ofDocument? item.toDocument =
      (FragmentType.ofName? (typeNameOf item)).bind fun t =>
        Fragment.ofDocumentAs? t item.toDocument := by
  cases h with
  | null | bool | str | arr => rfl
  | num n => cases n <;> rfl
  | @obj fields hfields _ =>
      obtain ⟨known, hknown, hget⟩ := exists_fields?_toDocument hfields ["type"]
      have htype := hget "type" (by simp)
      rw [Fragment.ofDocument?, hknown, Option.bind_eq_bind, Option.bind_some, field?, htype,
        typeNameOf]
      cases fields.get? "type" with
      | none => rfl
      | some d =>
          cases d with
          | num n => cases n <;> rfl
          | _ => rfl

/-- An item is decoded by a registry of all types as by itself. -/
theorem toOption_fragmentOf (hr : r.Reachable) (hall : ∀ t, (r.prototype? t).isSome = true)
    (h : item.Ordered) : (r.fragmentOf item).toOption = Fragment.ofDocument? item.toDocument := by
  rw [ofDocument?_eq h]
  cases hname : FragmentType.ofName? (typeNameOf item) with
  | none =>
      have hlacks : r.Lacks item := fun t ht => by simp [hname] at ht
      rw [hlacks.fragmentOf_eq]
      rfl
  | some t =>
      rw [fragmentOf_eq hr hname (hall t), Option.bind_some]
      cases Fragment.ofDocumentAs? t item.toDocument <;> rfl

/-! ## Lists of items -/

section

variable {α β : Type} {xs : List α}

theorem toOption_mapM {f : α → Except Fault β} {g : α → Option β}
    (h : ∀ x ∈ xs, (f x).toOption = g x) : (xs.mapM f).toOption = xs.mapM g := by
  induction xs with
  | nil => rfl
  | cons x xs ih =>
      obtain ⟨hx, hxs⟩ := List.forall_mem_cons.mp h
      rw [List.mapM_cons, List.mapM_cons, ← hx, ← ih hxs]
      cases f x with
      | error fault => rfl
      | ok y => cases xs.mapM f <;> rfl

/-- An item that fails is reached, unless one before it fails. -/
theorem mapM_append_cons {f : α → Except Fault β} {x : α} {fault : Fault} (after : List α)
    (hx : f x = .error fault) :
    (xs ++ x :: after).mapM f = .error fault ∨
      ∃ y ∈ xs, ∃ fault', f y = .error fault' ∧ (xs ++ x :: after).mapM f = .error fault' := by
  induction xs with
  | nil =>
      rw [List.nil_append, List.mapM_cons, hx]
      exact .inl rfl
  | cons y ys ih =>
      rw [List.cons_append, List.mapM_cons]
      cases hy : f y with
      | error fault' => exact .inr ⟨y, by simp, fault', hy, rfl⟩
      | ok z =>
          rcases ih with hfault | ⟨y', hy', fault', hfails, hfault⟩
          · rw [hfault]
            exact .inl rfl
          · rw [hfault]
            exact .inr ⟨y', List.mem_cons_of_mem _ hy', fault', hfails, rfl⟩

end

/-! ## Views -/

/-- A view is decoded by a registry of all types as by itself. -/
theorem toOption_viewOf (hr : r.Reachable) (hall : ∀ t, (r.prototype? t).isSome = true)
    (h : (Value.obj fields).Ordered) :
    (r.viewOf (.obj fields)).toOption = View.ofDocument? (Value.obj fields).toDocument := by
  obtain ⟨hfields, hvalues⟩ : fields.Ordered ∧ ∀ entry ∈ fields, entry.2.Ordered := by
    cases h with
    | obj hnames hvalues => exact ⟨hnames, hvalues⟩
  obtain ⟨known, hknown, hget⟩ := exists_fields?_toDocument hfields ["fragments"]
  have hread : (Value.obj fields).toDocument.record? ["fragments"] = some known := hknown
  have hfragments := hget "fragments" (by simp)
  rw [View.ofDocument?, hread, Option.bind_eq_bind, Option.bind_some, fieldOr?, hfragments, viewOf]
  cases hitems : fields.get? "fragments" with
  | none => rfl
  | some d =>
      cases d with
      | null | bool | str | obj => rfl
      | num n => cases n <;> rfl
      | arr items =>
          have hordered : ∀ item ∈ items, item.Ordered := by
            cases hvalues _ (Fields.mem_of_get? hitems) with
            | arr h => exact h
          have hmapM : (items.mapM r.fragmentOf).toOption =
              (items.map Value.toDocument).mapM Fragment.ofDocument? := by
            rw [List.mapM_map]
            exact toOption_mapM fun item hitem => toOption_fragmentOf hr hall (hordered item hitem)
          change (items.mapM r.fragmentOf >>= fun fragments => .ok (View.mk fragments)).toOption =
            ((Value.documentsOf items).mapM Fragment.ofDocument?).bind fun fragments =>
              some ⟨fragments⟩
          rw [Value.documentsOf_eq_map, ← hmapM]
          cases items.mapM r.fragmentOf <;> rfl

theorem typeNameOf_toValue (f : Fragment) : typeNameOf f.toDocument.toValue = f.type.name := by
  have htype : (Fields.ofList (valueFieldsOf f.toFields)).get? "type" =
      some (.str f.type.name) := get?_toValue f.nodup_toFields "type"
  rw [f.toDocument_eq, toValue, typeNameOf, htype]

/-- A view that is written is decoded by a registry of the types of its fragments. -/
theorem viewOf_toValue (hr : r.Reachable) {v : View} (hv : v.IsWritable)
    (htypes : ∀ f ∈ v.fragments, (r.prototype? f.type).isSome = true) :
    r.viewOf v.toDocument.toValue = .ok v := by
  obtain ⟨fragments⟩ := v
  have hfragment : ∀ f ∈ fragments, r.fragmentOf f.toDocument.toValue = .ok f := by
    intro f hf
    have hname : FragmentType.ofName? (typeNameOf f.toDocument.toValue) = some f.type := by
      rw [typeNameOf_toValue, Fragment.ofName?_name]
    rw [fragmentOf_eq hr hname (htypes f hf)]
    have hsettle := Fragment.ofDocumentAs?_settle (hv f hf)
    rw [settle] at hsettle
    rw [hsettle]
  have hmapM : (fragments.map (toValue ∘ Fragment.toDocument)).mapM r.fragmentOf = .ok fragments :=
    mapM_map_eq_pure hfragment
  change ((valuesOf (fragments.map Fragment.toDocument)).mapM r.fragmentOf >>= fun fragments =>
    .ok (View.mk fragments)) = _
  rw [valuesOf_eq_map, List.map_map, hmapM]
  rfl

/-- An item whose type is not registered is told, or what is wrong with an item before it. -/
theorem viewOf_lacks {before after : List Value}
    (hitems : fields.get? "fragments" = some (.arr (before ++ item :: after)))
    (hitem : r.Lacks item) :
    r.viewOf (.obj fields) = .error (.unknownFragmentType (typeNameOf item)) ∨
      ∃ earlier ∈ before, ∃ fault, r.fragmentOf earlier = .error fault ∧
        r.viewOf (.obj fields) = .error fault := by
  simp only [viewOf, hitems]
  rcases mapM_append_cons after hitem.fragmentOf_eq with
    hfault | ⟨earlier, hmem, fault, hfails, hfault⟩
  · rw [hfault]
    exact .inl rfl
  · rw [hfault]
    exact .inr ⟨earlier, hmem, fault, hfails, rfl⟩

/-! ## Main result -/

/-- What is written of a view is decoded to the same view, by itself and by a registry of the types
of its fragments, whatever fragments the registry has for them. A registry of all types decodes
every object as it is decoded by itself. A registry that lacks a type tells so at the first item
that names it, unless an item before it fails. -/
theorem views_agree {r : Registry} (hr : r.Reachable) :
    (∀ v : View, v.IsWritable →
      View.ofDocument? v.toDocument.toValue.toDocument = some v ∧
        ((∀ f ∈ v.fragments, (r.prototype? f.type).isSome = true) →
          r.viewOf v.toDocument.toValue = .ok v)) ∧
    ((∀ t, (r.prototype? t).isSome = true) →
      ∀ fields : Params, (Value.obj fields).Ordered →
        (r.viewOf (.obj fields)).toOption = View.ofDocument? (Value.obj fields).toDocument) ∧
    ∀ (fields : Params) (before : List Value) (item : Value) (after : List Value),
      fields.get? "fragments" = some (.arr (before ++ item :: after)) → r.Lacks item →
        r.viewOf (.obj fields) = .error (.unknownFragmentType (typeNameOf item)) ∨
          ∃ earlier ∈ before, ∃ fault, r.fragmentOf earlier = .error fault ∧
            r.viewOf (.obj fields) = .error fault :=
  ⟨fun _ hv => ⟨View.ofDocument?_settle hv, viewOf_toValue hr hv⟩,
    fun hall _ h => toOption_viewOf hr hall h,
    fun _ _ _ _ hitems hitem => viewOf_lacks hitems hitem⟩

/-- A form with a pattern, a condition, bounds and a date. -/
def surveyView : View where
  fragments := [
    ⟨{ key := "operator", validation := some ⟨"^[A-Z]+$", "Capitals, please"⟩, required := true },
      .select [⟨.str "EQ", "equals"⟩, ⟨.null, "missing"⟩] true⟩,
    ⟨{ key := "value", skipIf := [("operator", .str "BETWEEN")] },
      .numberInput (.finite (.ofInt 1)) (.finite (.ofInt 1000))⟩,
    ⟨{ key := "since" }, .datePicker (some ⟨738000, 3600, 500000000⟩) none true⟩,
    ⟨{}, .text "and"⟩]

theorem surveyView_isWritable : surveyView.IsWritable := by
  have hnone : (Value.obj []).Ordered := .obj .nil (by simp)
  have hbetween : (Value.obj [("operator", .str "BETWEEN")]).Ordered :=
    .obj (List.pairwise_singleton _ _) (by simpa using .str "BETWEEN")
  have hmoment : (⟨738000, 3600, 500000000⟩ : Calendar.Moment).ReadsBack := by
    unfold Calendar.Moment.ReadsBack
    decide +kernel
  simp only [View.IsWritable, surveyView, List.forall_mem_cons]
  refine ⟨⟨⟨.null, hnone, hnone⟩, .select _ ?_⟩, ⟨⟨.null, hbetween, hnone⟩, .numberInput _ _⟩,
    ⟨⟨.null, hnone, hnone⟩, .datePicker _ ?_ (by simp)⟩, ⟨⟨.null, hnone, hnone⟩, .text _⟩, by simp⟩
  · simpa using ⟨.str "EQ", .null⟩
  · simpa using hmoment

theorem views_agree_survey :
    View.ofDocument? surveyView.toDocument.toValue.toDocument = some surveyView ∧
    standard.viewOf surveyView.toDocument.toValue = .ok surveyView ∧
    (standard.viewOf (.obj [("fragments", .arr [.bool true])])).toOption =
      View.ofDocument? (Value.obj [("fragments", .arr [.bool true])]).toDocument ∧
    empty.viewOf (.obj [("fragments", .arr [.obj [("type", .str "ICON")]])]) =
      .error (.unknownFragmentType "ICON") := by
  have hstandard : standard.Reachable := ⟨[.registerStandard], rfl⟩
  have hempty : empty.Reachable := ⟨[], rfl⟩
  have hall : ∀ t, (standard.prototype? t).isSome = true := by
    intro t
    cases t <;> decide +kernel
  obtain ⟨hround, hdecoded, -⟩ := views_agree hstandard
  obtain ⟨-, -, hlacks⟩ := views_agree hempty
  obtain ⟨hitself, hregistry⟩ := hround surveyView surveyView_isWritable
  refine ⟨hitself, hregistry fun f _ => hall f.type, hdecoded hall _ ?_, ?_⟩
  · refine .obj (List.pairwise_singleton _ _) ?_
    simpa using .arr (by simpa using .bool true)
  · rcases hlacks [("fragments", .arr [.obj [("type", .str "ICON")]])] [] _ [] rfl
      (fun _ _ => rfl) with hfault | ⟨earlier, hmem, -⟩
    · exact hfault
    · simp at hmem

end Registry

end Cohort
