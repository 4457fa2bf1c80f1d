import Cohort.Proofs.Document.Ordered
import Cohort.Proofs.Registry.Runs

/-! # What is found stays found

Nothing is registered twice, so that whatever a registry has under a name stays there while the
registry grows.
-/

namespace Cohort.Registry

variable {r r' r'' : Registry}

/-- What is found in a registry is found in another, too. -/
structure Extends (r r' : Registry) : Prop where
  category?_eq : ∀ id c, r.category? id = some c → r'.category? id = some c
  builder?_eq : ∀ id b, r.builder? id = some b → r'.builder? id = some b
  prototype?_eq : ∀ t f, r.prototype? t = some f → r'.prototype? t = some f

theorem Extends.refl (r : Registry) : r.Extends r :=
  ⟨fun _ _ h => h, fun _ _ h => h, fun _ _ h => h⟩

theorem Extends.trans (h : r.Extends r') (h' : r'.Extends r'') : r.Extends r'' where
  category?_eq id c hc := h'.category?_eq id c (h.category?_eq id c hc)
  builder?_eq id b hb := h'.builder?_eq id b (h.builder?_eq id b hb)
  prototype?_eq t f hf := h'.prototype?_eq t f (h.prototype?_eq t f hf)

/-- One registration at a time. -/
theorem extends_add {x : Entry} (hx : r.Admits x) : r.Extends (r.add x) := by
  cases x with
  | category c =>
      exact { Extends.refl r with
        category?_eq := fun _ _ h => Fields.get?_set_of_get?_eq_none hx h }
  | builder b =>
      exact { Extends.refl r with
        builder?_eq := fun _ _ h => Fields.get?_set_of_get?_eq_none hx.1 h }
  | fragment t f =>
      refine { Extends.refl r with prototype?_eq := fun t' f' h => ?_ }
      have hlookup : (r.prototypes ++ [(t, f)]).lookup t' = some f' := by
        rw [List.lookup_append, show r.prototypes.lookup t' = some f' from h]
        rfl
      exact hlookup

theorem Grows.extends (h : Grows r r') : r.Extends r' :=
  h.preserves (P := fun s => r.Extends s) (fun _ _ hs hx => hs.trans (extends_add hx)) (.refl r)

end Cohort.Registry
