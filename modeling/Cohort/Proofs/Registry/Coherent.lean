import Cohort.Proofs.Document.Ordered
import Cohort.Proofs.Registry.Runs
import Mathlib.Data.List.Nodup

/-! # What every registry keeps

Identifiers stay distinct, lists and look-up stay together, and references stay good, whatever is
called and whatever fails.
-/

namespace Cohort

/-! ## Lists with look-up -/

section

variable {α β : Type} {keyOf : α → β} {xs : List α} {x : α}

theorem nodup_map_concat (h : (xs.map keyOf).Nodup) (hfresh : ∀ y ∈ xs, keyOf y ≠ keyOf x) :
    ((xs ++ [x]).map keyOf).Nodup := by
  rw [List.map_append, List.nodup_append]
  refine ⟨h, by simp, ?_⟩
  intro k hk k' hk'
  obtain ⟨y, hy, rfl⟩ := List.mem_map.mp hk
  obtain rfl : k' = keyOf x := by simpa using hk'
  exact hfresh y hy

end

/-- No two listed values have one name, and exactly what is listed is found by its name. -/
structure Fields.Index {α : Type} (nameOf : α → String) (listed : List α) (fields : Fields α) :
    Prop where
  nodup : (listed.map nameOf).Nodup
  get?_iff : ∀ name x, fields.get? name = some x ↔ x ∈ listed ∧ nameOf x = name

namespace Fields.Index

variable {α : Type} {nameOf : α → String} {listed : List α} {fields : Fields α} {x : α}

theorem empty : Index nameOf [] [] := ⟨.nil, by simp [get?]⟩

theorem ne_of_get?_eq_none (h : Index nameOf listed fields)
    (hfresh : fields.get? (nameOf x) = none) : ∀ y ∈ listed, nameOf y ≠ nameOf x := by
  intro y hy heq
  have hfound := (h.get?_iff (nameOf x) y).mpr ⟨hy, heq⟩
  rw [hfresh] at hfound
  cases hfound

/-- A value is listed and set under its name if nothing has the name. -/
theorem concat (h : Index nameOf listed fields) (hfresh : fields.get? (nameOf x) = none) :
    Index nameOf (listed ++ [x]) (fields.set (nameOf x) x) := by
  have hne := h.ne_of_get?_eq_none hfresh
  refine ⟨nodup_map_concat h.nodup hne, fun name y => ?_⟩
  by_cases hname : name = nameOf x
  · subst hname
    rw [get?_set_self]
    constructor
    · rintro ⟨⟩
      exact ⟨by simp, rfl⟩
    · rintro ⟨hy, heq⟩
      rcases List.mem_append.mp hy with hy | hy
      · exact absurd heq (hne y hy)
      · obtain rfl : y = x := by simpa using hy
        rfl
  · rw [get?_set_of_ne hname, h.get?_iff]
    constructor
    · rintro ⟨hy, heq⟩
      exact ⟨List.mem_append_left _ hy, heq⟩
    · rintro ⟨hy, rfl⟩
      rcases List.mem_append.mp hy with hy | hy
      · exact ⟨hy, rfl⟩
      · obtain rfl : y = x := by simpa using hy
        exact absurd rfl hname

end Fields.Index

namespace Registry

variable {r r' : Registry}

/-! ## Coherent registries -/

/-- Categories and builders are found as they are listed, builders name categories that are there,
and what stands for a type is of that type. -/
structure Coherent (r : Registry) : Prop where
  categories : Fields.Index Category.id r.categories r.categoriesById
  builders : Fields.Index Builder.id r.builders r.buildersById
  types_nodup : (r.prototypes.map Prod.fst).Nodup
  exists_category : ∀ b ∈ r.builders, b.metadata.categoryId ≠ "" →
    ∃ c ∈ r.categories, c.id = b.metadata.categoryId
  type_eq : ∀ entry ∈ r.prototypes, entry.2.type = entry.1

theorem coherent_empty : empty.Coherent :=
  ⟨.empty, .empty, .nil, by simp [empty], by simp [empty]⟩

/-- One registration at a time. -/
theorem Coherent.add (h : r.Coherent) {x : Entry} (hx : r.Admits x) : (r.add x).Coherent := by
  obtain ⟨hcategories, hbuilders, htypes, hreferences, hprototypes⟩ := h
  cases x with
  | category c =>
      refine ⟨hcategories.concat hx, hbuilders, htypes, ?_, hprototypes⟩
      intro b hb hne
      obtain ⟨c', hc', hid⟩ := hreferences b hb hne
      exact ⟨c', List.mem_append_left _ hc', hid⟩
  | builder b =>
      obtain ⟨hfresh, hcategory⟩ := hx
      refine ⟨hcategories, hbuilders.concat hfresh, htypes, ?_, hprototypes⟩
      intro b' hb' hne
      rcases List.mem_append.mp hb' with hb' | hb'
      · exact hreferences b' hb' hne
      · obtain rfl : b' = b := by simpa using hb'
        obtain ⟨c, hc⟩ := hcategory hne
        exact ⟨c, (hcategories.get?_iff _ c).mp hc⟩
  | fragment t f =>
      obtain ⟨htype, hfresh⟩ := hx
      refine ⟨hcategories, hbuilders, nodup_map_concat htypes ?_, hreferences, ?_⟩
      · intro entry hentry
        have hne := List.lookup_eq_none_iff.mp hfresh entry hentry
        simpa using Ne.symm (by simpa using hne)
      · intro entry hentry
        rcases List.mem_append.mp hentry with hentry | hentry
        · exact hprototypes entry hentry
        · obtain rfl : entry = (t, f) := by simpa using hentry
          exact htype

theorem Grows.coherent (h : Grows r r') (hr : r.Coherent) : r'.Coherent :=
  h.preserves (fun _ _ hr hx => hr.add hx) hr

theorem Reachable.coherent (h : r.Reachable) : r.Coherent := by
  obtain ⟨calls, rfl⟩ := h
  exact (grows_after empty calls).coherent coherent_empty

/-! ## Main result -/

/-- Calls in any order, some of which may fail, leave a registry that is coherent. A registration
fails just if the entry is refused, and then it changes nothing; an entry that is admitted is added
behind the others. -/
theorem coherent_after (calls : List Call) :
    (empty.after calls).Coherent ∧
      ∀ x : Entry,
        (∀ fault, ((empty.after calls).call (.register x)).2 = .error fault ↔
          (empty.after calls).Refuses x fault) ∧
        (∀ fault, ((empty.after calls).call (.register x)).2 = .error fault →
          ((empty.after calls).call (.register x)).1 = empty.after calls) ∧
        ((empty.after calls).Admits x →
          (empty.after calls).call (.register x) = ((empty.after calls).add x, .ok ())) := by
  refine ⟨Reachable.coherent ⟨calls, rfl⟩, fun x => ⟨fun fault => call_register_eq_error_iff,
    fun fault hfault => ?_, call_register_of_admits⟩⟩
  rw [call_register_of_refuses (call_register_eq_error_iff.mp hfault)]

/-- Calls of every kind, half of which fail. -/
def mixedCalls : List Call := [
  .registerStandard,
  .register (.fragment .text (.empty .text)),
  .register (.category ⟨"activities", "Activities", ""⟩),
  .register (.builder (.descriptive ⟨"note", "Note", "", "demographics", none⟩)),
  .register (.builder (.descriptive ⟨"user_age", "Age", "", "", none⟩)),
  .install .demo .question]

/-- The catalog meets a category that is there before its second one. -/
theorem coherent_after_mixedCalls :
    (empty.after mixedCalls).Coherent ∧
      (empty.after mixedCalls).categories.map Category.id = ["activities", "demographics"] ∧
      (empty.after mixedCalls).builders.map Builder.id = ["user_age"] ∧
      (empty.after mixedCalls).Refuses (.category ⟨"demographics", "Again", ""⟩)
        (.duplicate .category "demographics") ∧
      ((empty.after mixedCalls).call
        (.register (.category ⟨"demographics", "Again", ""⟩))).1 = empty.after mixedCalls := by
  obtain ⟨hcoherent, hcalls⟩ := coherent_after mixedCalls
  obtain ⟨hrefuses, hkeeps, -⟩ := hcalls (.category ⟨"demographics", "Again", ""⟩)
  exact ⟨hcoherent, by decide +kernel, by decide +kernel,
    (hrefuses (.duplicate .category "demographics")).mp rfl,
    hkeeps (.duplicate .category "demographics") rfl⟩

end Registry

end Cohort
