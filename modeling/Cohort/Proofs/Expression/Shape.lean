import Cohort.Proofs.Expression.NormalForm

/-! # Expressions of the same shape -/

namespace Cohort

open List (Forall₂)

/-- Two expressions with the same operation and as many children at every node. -/
inductive SameShape : Expression → Expression → Prop where
  | tag (t t' : Tag) : SameShape (.ofTag t) (.ofTag t')
  | set (op : SetOperation) {cs cs' : List Expression} (hlength : cs.length = cs'.length) :
      (∀ (i : Nat) (h : i < cs.length) (h' : i < cs'.length), SameShape cs[i] cs'[i]) →
        SameShape (.ofSet op cs) (.ofSet op cs')

theorem sameShape_ofSet (op : SetOperation) {cs cs' : List Expression}
    (h : Forall₂ SameShape cs cs') : SameShape (.ofSet op cs) (.ofSet op cs') := by
  obtain ⟨hlength, hget⟩ := List.forall₂_iff_get.mp h
  exact .set op hlength fun i hi hi' => by simpa using hget i hi hi'

/-! ## Simplifying keeps shapes equal -/

namespace Expression

theorem isPure_ofTag (op : SetOperation) (t : Tag) : (ofTag t).isPure op = false := by
  cases op <;> rfl

theorem isPure_ofSet_iff {op other : SetOperation} {cs : List Expression} :
    (ofSet other cs).isPure op = true ↔ other = op ∧ cs ≠ [] := by
  cases op <;> cases other <;> simp [isPure, SetOperation.all, ofSet, children]

/-- A normal expression is put together again of the parts that it is split into. -/
theorem Normal.combine_partsUnder {op : SetOperation} (hop : op ≠ .except) {e : Expression}
    (h : Normal e) : combine op (e.partsUnder op) = e := by
  by_cases hpure : e.isPure op = true
  · obtain ⟨he, hne⟩ := eq_ofSet_of_isPure hpure
    rw [he] at h
    rw [Expression.partsUnder, if_pos hpure, combine_of_length_ne_one (h.of_ofSet hop hne).1, ← he]
  · rw [Expression.partsUnder, if_neg hpure]
    rfl

end Expression

theorem SameShape.partsUnder {e e' : Expression} (h : SameShape e e') (op : SetOperation) :
    Forall₂ SameShape (e.partsUnder op) (e'.partsUnder op) := by
  cases h with
  | tag t t' =>
      simp only [Expression.partsUnder, Expression.isPure_ofTag]
      exact .cons (.tag t t') .nil
  | @set other cs cs' hlength hall =>
      have hnil : cs = [] ↔ cs' = [] := by
        rw [← List.length_eq_zero_iff, ← List.length_eq_zero_iff, hlength]
      by_cases hpure : other = op ∧ cs ≠ []
      · have hpure' : other = op ∧ cs' ≠ [] := ⟨hpure.1, fun h => hpure.2 (hnil.mpr h)⟩
        rw [Expression.partsUnder, if_pos (Expression.isPure_ofSet_iff.mpr hpure),
          Expression.partsUnder, if_pos (Expression.isPure_ofSet_iff.mpr hpure'), hpure.1,
          Expression.children_ofSet_self, Expression.children_ofSet_self]
        exact List.forall₂_iff_get.mpr ⟨hlength, fun i hi hi' => by simpa using hall i hi hi'⟩
      · have hpure' : ¬ (other = op ∧ cs' ≠ []) := fun h => hpure ⟨h.1, fun h' => h.2 (hnil.mp h')⟩
        rw [Expression.partsUnder, if_neg (mt Expression.isPure_ofSet_iff.mp hpure),
          Expression.partsUnder, if_neg (mt Expression.isPure_ofSet_iff.mp hpure')]
        exact .cons (.set other hlength hall) .nil

theorem sameShape_combine (op : SetOperation) {parts parts' : List Expression}
    (h : Forall₂ SameShape parts parts') :
    SameShape (Expression.combine op parts) (Expression.combine op parts') := by
  cases h with
  | nil => exact sameShape_ofSet op .nil
  | cons hp hrest =>
      cases hrest with
      | nil => exact hp
      | cons hq hrest => exact sameShape_ofSet op (.cons hp (.cons hq hrest))

/-- Nodes of one child may differ in their operation, which simplifying drops. -/
theorem sameShape_simplify_ofSet {op op' : SetOperation} {cs cs' : List Expression}
    (hsize : op.Admits cs.length) (hsize' : op'.Admits cs'.length)
    (hop : 2 ≤ cs.length → op = op')
    (h : Forall₂ (fun c c' => SameShape c.simplify c'.simplify) cs cs') :
    SameShape (Expression.ofSet op cs).simplify (Expression.ofSet op' cs').simplify := by
  have hlength : cs.length = cs'.length := h.length_eq
  have hcs : cs ≠ [] := List.ne_nil_of_length_pos hsize.1
  have hcs' : cs' ≠ [] := List.ne_nil_of_length_pos hsize'.1
  by_cases hlarge : 2 ≤ cs.length
  · obtain rfl := hop hlarge
    have hmap : Forall₂ SameShape (cs.map Expression.simplify) (cs'.map Expression.simplify) := by
      rwa [List.forall₂_map_left_iff, List.forall₂_map_right_iff]
    by_cases hexcept : op = .except
    · subst hexcept
      rw [Expression.simplify_ofSet_except, Expression.simplify_ofSet_except]
      exact sameShape_ofSet _ hmap
    · rw [Expression.simplify_ofSet hexcept hcs, Expression.simplify_ofSet hexcept hcs']
      exact sameShape_combine op (List.rel_flatMap hmap fun _ _ hc => hc.partsUnder op)
  · -- One child on each side, which no difference has.
    have hone : cs.length = 1 := by
      have hpos := hsize.1
      omega
    have hexcept : op ≠ .except := fun heq => hlarge (hsize.2 heq)
    have hexcept' : op' ≠ .except := fun heq => hlarge (hlength ▸ hsize'.2 heq)
    obtain ⟨c, rfl⟩ := List.length_eq_one_iff.mp hone
    obtain ⟨c', rfl⟩ := List.length_eq_one_iff.mp (hlength ▸ hone)
    rw [Expression.simplify_ofSet hexcept hcs, Expression.simplify_ofSet hexcept' hcs',
      List.map_singleton, List.map_singleton, List.flatMap_singleton, List.flatMap_singleton,
      (Expression.normal_simplify c).combine_partsUnder hexcept,
      (Expression.normal_simplify c').combine_partsUnder hexcept']
    cases h with
    | cons hc _ => exact hc

end Cohort
