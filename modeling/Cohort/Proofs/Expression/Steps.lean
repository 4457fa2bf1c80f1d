import Cohort.Proofs.Expression.Simplify
import Mathlib.Logic.Relation

/-! # Simplifying step by step

What simplifying makes of an expression is reached by steps at single nodes. No step is taken at a
node with a tag or anywhere below one, so that subtrees with a tag stay as they are.
-/

namespace Cohort.Expression

variable {op : SetOperation} {e e' c c' : Expression} {cs : List Expression}

/-! ## Nodes without a tag -/

/-- The operation that a node without a tag is simplified by: the first under which it has children. -/
def first (e : Expression) : SetOperation :=
  if e.intersect ≠ [] then .intersect else if e.union ≠ [] then .union else .except

theorem first_eq_except_iff : e.first = .except ↔ e.intersect = [] ∧ e.union = [] := by
  by_cases his : e.intersect = [] <;> by_cases hus : e.union = [] <;> simp [first, his, hus]

theorem children_first_ne_nil (h : e.first ≠ .except) : e.children e.first ≠ [] := by
  unfold first at h ⊢
  split
  · assumption
  · split
    · assumption
    · next his hus => simp [his, hus] at h

/-- If there are children under any operation, there are some under the first. -/
theorem children_first_of_ne_nil (h : e.children op ≠ []) : e.children e.first ≠ [] := by
  by_cases hfirst : e.first = .except
  · obtain ⟨his, hus⟩ := first_eq_except_iff.mp hfirst
    rw [hfirst]
    cases op with
    | intersect => exact absurd his h
    | union => exact absurd hus h
    | except => exact h
  · exact children_first_ne_nil hfirst

theorem simplify_of_tag {t : Tag} (h : e.tag = some t) : e.simplify = e := by
  obtain ⟨is, us, xs, tag⟩ := e
  obtain rfl : tag = some t := h
  rw [simplify]

theorem simplify_of_untagged (h : e.tag = none) :
    e.simplify = (ofSet e.first (e.children e.first)).simplify := by
  obtain ⟨is, us, xs, tag⟩ := e
  obtain rfl : tag = none := h
  by_cases his : is = []
  · by_cases hus : us = []
    · simp [first, his, hus, children, ofSet]
    · simp [first, simplify, his, hus, children, ofSet]
  · simp [first, simplify, his, children, ofSet]

/-! ## Steps -/

/-- One step of simplifying. It is taken at a node that has no tag, and neither have those above. -/
inductive Step : Expression → Expression → Prop where
  /-- Children under other operations than the first are overlooked. -/
  | overlook (e : Expression) (htag : e.tag = none) :
      Step e (ofSet e.first (e.children e.first))
  /-- A child of the same operation is replaced by its own children. -/
  | join {op : SetOperation} (hop : op ≠ .except) (before inner after : List Expression)
      (hinner : inner ≠ []) :
      Step (ofSet op (before ++ ofSet op inner :: after)) (ofSet op (before ++ inner ++ after))
  /-- An only child takes the place of its parent. -/
  | collapse {op : SetOperation} (hop : op ≠ .except) (c : Expression) : Step (ofSet op [c]) c
  | child (op : SetOperation) (before after : List Expression) {c c' : Expression}
      (h : Step c c') : Step (ofSet op (before ++ c :: after)) (ofSet op (before ++ c' :: after))

/-- Steps one after another. -/
abbrev Steps : Expression → Expression → Prop := Relation.ReflTransGen Step

theorem Steps.child (op : SetOperation) (before after : List Expression) (h : Steps c c') :
    Steps (ofSet op (before ++ c :: after)) (ofSet op (before ++ c' :: after)) :=
  h.lift (fun d => ofSet op (before ++ d :: after)) fun _ _ => .child op before after

theorem steps_map {f : Expression → Expression} (op : SetOperation) (before : List Expression)
    (h : ∀ c ∈ cs, Steps c (f c)) : Steps (ofSet op (before ++ cs)) (ofSet op (before ++ cs.map f)) := by
  induction cs generalizing before with
  | nil => exact .refl
  | cons c cs ih =>
      obtain ⟨hc, hcs⟩ := List.forall_mem_cons.mp h
      have hrest := ih (before ++ [f c]) hcs
      rw [List.append_assoc, List.append_assoc] at hrest
      exact (Steps.child op before cs hc).trans hrest

theorem steps_flatMap (hop : op ≠ .except) (before cs : List Expression) :
    Steps (ofSet op (before ++ cs)) (ofSet op (before ++ cs.flatMap (partsUnder op))) := by
  induction cs generalizing before with
  | nil => exact .refl
  | cons c cs ih =>
      have hrest := ih (before ++ c.partsUnder op)
      rw [List.flatMap_cons, ← List.append_assoc]
      by_cases hpure : c.isPure op = true
      · obtain ⟨hc, hne⟩ := eq_ofSet_of_isPure hpure
        have hjoin := Step.join hop before (c.children op) cs hne
        rw [← hc] at hjoin
        rw [partsUnder, if_pos hpure] at hrest ⊢
        exact .head hjoin hrest
      · rw [partsUnder, if_neg hpure] at hrest ⊢
        rwa [List.append_assoc before [c] cs, List.singleton_append] at hrest

theorem steps_combine (hop : op ≠ .except) (parts : List Expression) :
    Steps (ofSet op parts) (combine op parts) := by
  match parts with
  | [] => exact .refl
  | [p] => exact .single (.collapse hop p)
  | _ :: _ :: _ => exact .refl

/-- Simplifying takes steps, first at the children of a node and then at the node. -/
theorem steps_simplify (e : Expression) : Steps e e.simplify := by
  induction e using node_induction with
  | hnode e ih =>
      cases htag : e.tag with
      | some t => rw [simplify_of_tag htag]
      | none =>
          have hchildren := steps_map e.first [] (ih e.first)
          refine .head (.overlook e htag) (hchildren.trans ?_)
          rw [simplify_of_untagged htag, List.nil_append]
          by_cases hop : e.first = .except
          · rw [hop, simplify_ofSet_except]
          · rw [simplify_ofSet hop (children_first_ne_nil hop)]
            exact (steps_flatMap hop [] _).trans (steps_combine hop _)

/-! ## Subtrees with a tag -/

mutual

/-- The subtrees that carry a tag and lie in no other such subtree, from left to right. -/
def taggedParts : Expression → List Expression
  | ⟨intersect, union, except, some t⟩ => [⟨intersect, union, except, some t⟩]
  | ⟨intersect, union, except, none⟩ =>
    taggedPartsOf intersect ++ taggedPartsOf union ++ taggedPartsOf except

/-- The subtrees of expressions that carry a tag. -/
def taggedPartsOf : List Expression → List Expression
  | [] => []
  | e :: rest => e.taggedParts ++ taggedPartsOf rest

end

theorem taggedPartsOf_eq_flatMap (cs : List Expression) :
    taggedPartsOf cs = cs.flatMap taggedParts := by
  induction cs with
  | nil => rw [taggedPartsOf, List.flatMap_nil]
  | cons c cs ih => rw [taggedPartsOf, ih, List.flatMap_cons]

theorem taggedParts_of_untagged (h : e.tag = none) :
    e.taggedParts = (e.children .intersect).flatMap taggedParts ++
      (e.children .union).flatMap taggedParts ++ (e.children .except).flatMap taggedParts := by
  obtain ⟨is, us, xs, tag⟩ := e
  obtain rfl : tag = none := h
  rw [taggedParts, taggedPartsOf_eq_flatMap, taggedPartsOf_eq_flatMap, taggedPartsOf_eq_flatMap]
  rfl

@[simp] theorem taggedParts_ofSet (op : SetOperation) (cs : List Expression) :
    (ofSet op cs).taggedParts = cs.flatMap taggedParts := by
  cases op <;> simp [ofSet, taggedParts, taggedPartsOf_eq_flatMap]

theorem Step.taggedParts_sublist (h : Step e e') : e'.taggedParts.Sublist e.taggedParts := by
  induction h with
  | overlook e htag =>
      rw [taggedParts_ofSet, taggedParts_of_untagged htag, List.append_assoc]
      cases e.first with
      | intersect => exact List.sublist_append_left _ _
      | union =>
          exact (List.sublist_append_left _ _).trans (List.sublist_append_right _ _)
      | except =>
          exact (List.sublist_append_right _ _).trans (List.sublist_append_right _ _)
  | join _ before inner after _ => simp
  | collapse _ c => simp
  | child op before after _ ih =>
      simp only [taggedParts_ofSet, List.flatMap_append, List.flatMap_cons]
      exact (List.Sublist.refl _).append (ih.append (.refl _))

/-- Steps neither change nor add nor rearrange subtrees with a tag. -/
theorem Steps.taggedParts_sublist (h : Steps e e') : e'.taggedParts.Sublist e.taggedParts := by
  induction h with
  | refl => exact .refl _
  | tail _ hstep ih => exact hstep.taggedParts_sublist.trans ih

end Cohort.Expression
