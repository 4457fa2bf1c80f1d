import Cohort.Catalog
import Mathlib.Logic.Relation

/-! # Runs of a registry

Whatever is called on a registry, it only ever grows by entries that are registered one by one. What
a single registration preserves, every run preserves.
-/

namespace Cohort.Registry

variable {r r' : Registry}

/-! ## Single registrations -/

/-- Something to be registered. -/
inductive Entry where
  | category (c : Category)
  | builder (b : Builder)
  | fragment (t : FragmentType) (f : Fragment)

/-- Registers an entry. -/
def register (r : Registry) : Entry → Except Fault Registry
  | .category c => r.registerCategory c
  | .builder b => r.registerBuilder b
  | .fragment t f => r.registerFragment t f

/-- What an entry asks of the registry that it enters. -/
def Admits (r : Registry) : Entry → Prop
  | .category c => r.category? c.id = none
  | .builder b => r.builder? b.id = none ∧
      (b.metadata.categoryId ≠ "" → ∃ c, r.category? b.metadata.categoryId = some c)
  | .fragment t f => f.type = t ∧ r.prototype? t = none

/-- The registry with one entry more, which is listed last. -/
def add (r : Registry) : Entry → Registry
  | .category c => { r with
      categoriesById := Fields.set r.categoriesById c.id c
      categories := r.categories ++ [c] }
  | .builder b => { r with
      buildersById := Fields.set r.buildersById b.id b
      builders := r.builders ++ [b] }
  | .fragment t f => { r with prototypes := r.prototypes ++ [(t, f)] }

theorem register_eq_ok_iff {x : Entry} : r.register x = .ok r' ↔ r.Admits x ∧ r.add x = r' := by
  cases x with
  | category c => cases h : r.category? c.id <;> simp [register, registerCategory, Admits, add, h]
  | builder b =>
      cases hid : r.builder? b.id with
      | some b' => simp [register, registerBuilder, Admits, hid]
      | none =>
          by_cases hempty : b.metadata.categoryId = ""
          · simp [register, registerBuilder, Admits, add, hid, hempty]
          · cases hcategory : r.category? b.metadata.categoryId <;>
              simp [register, registerBuilder, Admits, add, hid, hempty, hcategory]
  | fragment t f =>
      by_cases htype : f.type = t
      · cases h : r.prototype? t <;> simp [register, registerFragment, Admits, add, htype, h]
      · simp [register, registerFragment, Admits, htype]

/-! ## Refusals -/

/-- Why an entry cannot be registered. -/
inductive Refuses (r : Registry) : Entry → Fault → Prop where
  | category {c c' : Category} : r.category? c.id = some c' →
      Refuses r (.category c) (.duplicate .category c.id)
  | builder {b b' : Builder} : r.builder? b.id = some b' →
      Refuses r (.builder b) (.duplicate .builder b.id)
  | lostBuilder {b : Builder} : r.builder? b.id = none → b.metadata.categoryId ≠ "" →
      r.category? b.metadata.categoryId = none →
        Refuses r (.builder b) (.unknownCategory b.metadata.categoryId)
  | fragment {t : FragmentType} {f f' : Fragment} : f.type = t → r.prototype? t = some f' →
      Refuses r (.fragment t f) (.duplicate .fragment t.name)
  | otherFragment {t : FragmentType} {f : Fragment} : f.type ≠ t →
      Refuses r (.fragment t f) (.prototypeMismatch t f.type)

theorem register_eq_error_iff {x : Entry} {fault : Fault} :
    r.register x = .error fault ↔ r.Refuses x fault := by
  constructor
  · intro h
    cases x with
    | category c =>
        rw [register, registerCategory] at h
        cases hc : r.category? c.id with
        | none => simp [hc] at h
        | some c' =>
            simp only [hc, Option.isSome_some, if_true, Except.error.injEq] at h
            exact h ▸ .category hc
    | builder b =>
        rw [register, registerBuilder] at h
        cases hb : r.builder? b.id with
        | some b' =>
            simp only [hb, Option.isSome_some, if_true, Except.error.injEq] at h
            exact h ▸ .builder hb
        | none =>
            by_cases hempty : b.metadata.categoryId = ""
            · simp [hb, hempty] at h
            · cases hc : r.category? b.metadata.categoryId with
              | some c => simp [hb, hc] at h
              | none =>
                  have hfault : Fault.unknownCategory b.metadata.categoryId = fault := by
                    simpa [hb, hc, hempty] using h
                  exact hfault ▸ .lostBuilder hb hempty hc
    | fragment t f =>
        rw [register, registerFragment] at h
        by_cases htype : f.type = t
        · cases hf : r.prototype? t with
          | none => simp [htype, hf] at h
          | some f' =>
              simp only [htype, hf, ne_eq, not_true_eq_false, if_false, Option.isSome_some,
                if_true, Except.error.injEq] at h
              exact h ▸ .fragment htype hf
        · simp only [ne_eq, htype, not_false_eq_true, if_true, Except.error.injEq] at h
          exact h ▸ .otherFragment htype
  · intro h
    cases h with
    | category hc => simp [register, registerCategory, hc]
    | builder hb => simp [register, registerBuilder, hb]
    | lostBuilder hb hempty hc => simp [register, registerBuilder, hb, hempty, hc]
    | fragment htype hf => simp [register, registerFragment, htype, hf]
    | otherFragment htype => simp [register, registerFragment, htype]

/-! ## Calls -/

/-- A call that may change a registry. -/
inductive Call where
  | register (x : Entry)
  | registerStandard
  | install (c : Catalog) (style : PlaceholderStyle)

/-- The registry behind a call, and how the call ended. -/
def call (r : Registry) : Call → Registry × Except Fault Unit
  | .register x => r.registerEach register [x]
  | .registerStandard => (r.registerStandard, .ok ())
  | .install c style => c.install style r

/-- The registry behind calls one after another, whether they succeed or fail. -/
def after (r : Registry) (calls : List Call) : Registry :=
  calls.foldl (fun r c => (r.call c).1) r

/-- A registry that some calls make of the empty one. -/
def Reachable (r : Registry) : Prop := ∃ calls, empty.after calls = r

theorem call_register_of_admits {x : Entry} (h : r.Admits x) :
    r.call (.register x) = (r.add x, .ok ()) := by
  have hx : r.register x = .ok (r.add x) := register_eq_ok_iff.mpr ⟨h, rfl⟩
  rw [call, registerEach, hx]
  rfl

theorem call_register_of_refuses {x : Entry} {fault : Fault} (h : r.Refuses x fault) :
    r.call (.register x) = (r, .error fault) := by
  rw [call, registerEach, register_eq_error_iff.mpr h]

/-- A registration fails just if the entry is refused. -/
theorem call_register_eq_error_iff {x : Entry} {fault : Fault} :
    (r.call (.register x)).2 = .error fault ↔ r.Refuses x fault := by
  constructor
  · intro h
    cases hx : r.register x with
    | ok next =>
        rw [call, registerEach, hx] at h
        cases h
    | error fault' =>
        have hrefuses := register_eq_error_iff.mp hx
        rw [call_register_of_refuses hrefuses] at h
        exact Except.error.inj h ▸ hrefuses
  · intro h
    rw [call_register_of_refuses h]

/-! ## Growth -/

/-- A registry becomes another by registrations that succeed. -/
def Grows : Registry → Registry → Prop :=
  Relation.ReflTransGen fun r r' => ∃ x, r.register x = .ok r'

theorem Grows.of_register {x : Entry} (h : r.register x = .ok r') : Grows r r' := .single ⟨x, h⟩

theorem grows_registerEach {α : Type} {step : Registry → α → Except Fault Registry}
    (hstep : ∀ r x r', step r x = .ok r' → Grows r r') (r : Registry) (xs : List α) :
    Grows r (r.registerEach step xs).1 := by
  induction xs generalizing r with
  | nil => exact .refl
  | cons x xs ih =>
      rw [registerEach]
      cases hx : step r x with
      | ok next => exact (hstep r x next hx).trans (ih next)
      | error fault => exact .refl

theorem grows_registerSpec {style : PlaceholderStyle} {spec : BuilderSpec}
    (h : r.registerSpec style spec = .ok r') : Grows r r' := by
  rw [registerSpec] at h
  cases hspec : spec.make r style with
  | ok b =>
      rw [hspec] at h
      have hb : r.register (.builder b) = .ok r' := h
      exact .of_register hb
  | error fault =>
      rw [hspec] at h
      cases h

theorem grows_install (c : Catalog) (style : PlaceholderStyle) (r : Registry) :
    Grows r (c.install style r).1 := by
  have hcategories : Grows r (r.registerEach registerCategory c.categories).1 :=
    grows_registerEach (fun r x r' h =>
      have hx : r.register (.category x) = .ok r' := h
      .of_register hx) r c.categories
  rw [Catalog.install]
  generalize r.registerEach registerCategory c.categories = result at hcategories ⊢
  obtain ⟨next, outcome⟩ := result
  cases outcome with
  | error fault => exact hcategories
  | ok _ =>
      have hbuilders : Grows next (next.registerEach (registerSpec style) c.builders).1 :=
        grows_registerEach (fun _ _ _ h => grows_registerSpec h) next c.builders
      exact hcategories.trans hbuilders

theorem grows_registerStandard (r : Registry) : Grows r r.registerStandard := by
  rw [registerStandard]
  generalize FragmentType.all = types
  induction types generalizing r with
  | nil => exact .refl
  | cons t types ih =>
      rw [List.foldl_cons]
      cases ht : r.registerFragment t (.empty t) with
      | ok next =>
          have hx : r.register (.fragment t (.empty t)) = .ok next := ht
          exact (Grows.of_register hx).trans (ih next)
      | error fault => exact ih r

theorem grows_call (r : Registry) (c : Call) : Grows r (r.call c).1 := by
  cases c with
  | register x => exact grows_registerEach (fun _ _ _ h => .of_register h) r [x]
  | registerStandard => exact grows_registerStandard r
  | install c style => exact grows_install c style r

theorem grows_after (r : Registry) (calls : List Call) : Grows r (r.after calls) := by
  induction calls generalizing r with
  | nil => exact .refl
  | cons c calls ih => exact (grows_call r c).trans (ih (r.call c).1)

/-- What every registration preserves, growth preserves. -/
theorem Grows.preserves {P : Registry → Prop}
    (hadd : ∀ r x, P r → r.Admits x → P (r.add x)) (h : Grows r r') (hr : P r) : P r' := by
  induction h with
  | refl => exact hr
  | tail _ hstep ih =>
      obtain ⟨x, hx⟩ := hstep
      obtain ⟨hadmits, rfl⟩ := register_eq_ok_iff.mp hx
      exact hadd _ x ih hadmits

end Cohort.Registry
