import Cohort.Proofs.Expression.Steps

/-! # The normal form that simplifying reaches

Expressions need not be well formed here: a node may hold several things, one child of a difference,
or nothing.
-/

namespace Cohort.Expression

/-! ## Nodes outside tagged subtrees -/

/-- `n` is a node of an expression, and neither `n` nor any node above it carries a tag. -/
inductive Untagged (n : Expression) : Expression → Prop where
  | self (htag : n.tag = none) : Untagged n n
  | child {e c : Expression} (op : SetOperation) (htag : e.tag = none) (hc : c ∈ e.children op) :
      Untagged n c → Untagged n e

/-- Nothing is left to join at a node: under an intersection no child is an intersection and nothing
else, likewise for unions, and neither has exactly one child. -/
structure IsFlat (n : Expression) : Prop where
  ne_ofSet : ∀ op ≠ .except, ∀ c ∈ n.children op, ∀ cs ≠ [], c ≠ ofSet op cs
  length_ne_one : ∀ op ≠ .except, (n.children op).length ≠ 1

/-- What simplifying returns: a node with a tag as it was, a difference of normal expressions, or an
intersection or union of several that no longer splits. -/
inductive Normal : Expression → Prop where
  | tagged {e : Expression} (t : Tag) (htag : e.tag = some t) : Normal e
  | difference {cs : List Expression} : (∀ c ∈ cs, Normal c) → Normal (ofSet .except cs)
  | joined {op : SetOperation} (hop : op ≠ .except) {cs : List Expression}
      (hsize : cs.length ≠ 1) (hpure : ∀ c ∈ cs, c.isPure op = false) :
      (∀ c ∈ cs, Normal c) → Normal (ofSet op cs)

/-! ## Single nodes -/

@[simp] theorem tag_ofSet (op : SetOperation) (cs : List Expression) :
    (ofSet op cs).tag = none := by
  cases op <;> rfl

@[simp] theorem ofSet_nil (op : SetOperation) : ofSet op [] = empty := by
  cases op <;> rfl

theorem isPure_ofSet {op : SetOperation} {cs : List Expression} (hcs : cs ≠ []) :
    (ofSet op cs).isPure op = true := by
  cases op <;> simp [isPure, SetOperation.all, ofSet, children, hcs]

theorem combine_of_length_ne_one {op : SetOperation} {parts : List Expression}
    (h : parts.length ≠ 1) : combine op parts = ofSet op parts := by
  match parts with
  | [] => rfl
  | [_] => exact absurd rfl h
  | _ :: _ :: _ => rfl

/-- The parts of a normal intersection or union: there are several, and none splits further. -/
theorem Normal.of_ofSet {op : SetOperation} (hop : op ≠ .except) {cs : List Expression}
    (hcs : cs ≠ []) (h : Normal (ofSet op cs)) :
    cs.length ≠ 1 ∧ ∀ c ∈ cs, Normal c ∧ c.isPure op = false := by
  generalize he : ofSet op cs = e at h
  cases h with
  | tagged t htag =>
      rw [← he, tag_ofSet] at htag
      cases htag
  | difference _ => exact absurd (ofSet_inj hcs he).1 hop
  | joined _ hsize hpure hnormal =>
      obtain ⟨rfl, rfl⟩ := ofSet_inj hcs he
      exact ⟨hsize, fun c hc => ⟨hnormal c hc, hpure c hc⟩⟩

/-! ## Simplifying gives normal expressions -/

/-- Normal expressions give normal parts that split no further: only one level has to be opened. -/
theorem Normal.partsUnder {op : SetOperation} (hop : op ≠ .except) {e : Expression}
    (h : Normal e) : ∀ p ∈ e.partsUnder op, Normal p ∧ p.isPure op = false := by
  intro p hp
  by_cases hpure : e.isPure op = true
  · rw [Expression.partsUnder, if_pos hpure] at hp
    obtain ⟨he, hne⟩ := eq_ofSet_of_isPure hpure
    rw [he] at h
    exact (h.of_ofSet hop hne).2 p hp
  · rw [Expression.partsUnder, if_neg hpure, List.mem_singleton] at hp
    subst hp
    exact ⟨h, by simpa using hpure⟩

theorem normal_combine {op : SetOperation} (hop : op ≠ .except) {parts : List Expression}
    (h : ∀ p ∈ parts, Normal p ∧ p.isPure op = false) : Normal (combine op parts) := by
  by_cases hone : parts.length = 1
  · obtain ⟨p, rfl⟩ := List.length_eq_one_iff.mp hone
    exact (h p (by simp)).1
  · rw [combine_of_length_ne_one hone]
    exact .joined hop hone (fun p hp => (h p hp).2) fun p hp => (h p hp).1

theorem normal_joinedParts {op : SetOperation} (hop : op ≠ .except) {cs : List Expression}
    (h : ∀ c ∈ cs, Normal c.simplify) :
    Normal (combine op ((cs.map simplify).flatMap (Expression.partsUnder op))) := by
  apply normal_combine hop
  intro p hp
  rw [List.flatMap_map, List.mem_flatMap] at hp
  obtain ⟨c, hc, hp⟩ := hp
  exact (h c hc).partsUnder hop p hp

theorem normal_simplify (e : Expression) : Normal e.simplify := by
  induction e using node_induction with
  | hnode e ih =>
      cases htag : e.tag with
      | some t =>
          rw [simplify_of_tag htag]
          exact .tagged t htag
      | none =>
          rw [simplify_of_untagged htag]
          by_cases hop : e.first = .except
          · rw [hop, simplify_ofSet_except]
            refine .difference fun p hp => ?_
            obtain ⟨c, hc, rfl⟩ := List.mem_map.mp hp
            exact ih .except c hc
          · rw [simplify_ofSet hop (children_first_ne_nil hop)]
            exact normal_joinedParts hop (ih e.first)

/-! ## Normal expressions stay as they are -/

theorem flatMap_partsUnder {op : SetOperation} {cs : List Expression}
    (h : ∀ c ∈ cs, c.isPure op = false) : cs.flatMap (Expression.partsUnder op) = cs := by
  have hparts : ∀ c ∈ cs, c.partsUnder op = [c] := by
    intro c hc
    simp [Expression.partsUnder, h c hc]
  rw [List.flatMap_congr hparts, List.flatMap_singleton']

theorem Normal.simplify_eq {e : Expression} (h : Normal e) : e.simplify = e := by
  induction h with
  | tagged t htag => exact simplify_of_tag htag
  | difference _ ih =>
      rw [simplify_ofSet_except, List.map_congr_left ih, List.map_id']
  | @joined op hop cs hsize hpure _ ih =>
      by_cases hcs : cs = []
      · subst hcs
        rw [ofSet_nil, ← ofSet_nil .except, simplify_ofSet_except, List.map_nil]
      · rw [simplify_ofSet hop hcs, List.map_congr_left ih, List.map_id', flatMap_partsUnder hpure,
          combine_of_length_ne_one hsize]

/-! ## Normal expressions are flat outside their tags -/

theorem Normal.of_mem_children {e c : Expression} {op : SetOperation} (h : Normal e)
    (htag : e.tag = none) (hc : c ∈ e.children op) : Normal c := by
  cases h with
  | tagged t ht => simp [htag] at ht
  | difference hcs =>
      by_cases hop : op = .except
      · subst hop
        exact hcs c (by simpa using hc)
      · simp [children_ofSet_of_ne hop] at hc
  | @joined other _ _ _ _ hcs =>
      by_cases hop : op = other
      · subst hop
        exact hcs c (by simpa using hc)
      · simp [children_ofSet_of_ne hop] at hc

theorem Normal.isFlat {e : Expression} (h : Normal e) (htag : e.tag = none) : e.IsFlat := by
  cases h with
  | tagged t ht => simp [htag] at ht
  | difference _ =>
      refine ⟨fun op hop c hc => ?_, fun op hop => ?_⟩
      · simp [children_ofSet_of_ne hop] at hc
      · simp [children_ofSet_of_ne hop]
  | @joined other _ cs hsize hpure _ =>
      refine ⟨fun op _ c hc parts hparts heq => ?_, fun op _ => ?_⟩
      · by_cases hop : op = other
        · subst hop
          have hc' := hpure c (by simpa using hc)
          rw [heq, isPure_ofSet hparts] at hc'
          cases hc'
        · simp [children_ofSet_of_ne hop] at hc
      · by_cases hop : op = other
        · subst hop
          simpa using hsize
        · simp [children_ofSet_of_ne hop]

theorem Normal.isFlat_of_untagged {n e : Expression} (h : Normal e) (hn : Untagged n e) :
    n.IsFlat := by
  induction hn with
  | self htag => exact h.isFlat htag
  | child op htag hc _ ih => exact ih (h.of_mem_children htag hc)

/-! ## Main result -/

/-- One pass is enough, whatever the expression holds: a second changes nothing, and nothing is left
to join at any node outside the subtrees that carry a tag. These are returned as they were, and the
rest is what steps of simplifying make of the expression. -/
theorem simplify_idempotent_and_flat (e : Expression) :
    e.simplify.simplify = e.simplify ∧ (∀ n, Untagged n e.simplify → n.IsFlat) ∧
      (∀ t, e.tag = some t → e.simplify = e) ∧ e.simplify.taggedParts.Sublist e.taggedParts ∧
      Steps e e.simplify := by
  have hnormal := normal_simplify e
  have hsteps := steps_simplify e
  exact ⟨hnormal.simplify_eq, fun _ hn => hnormal.isFlat_of_untagged hn,
    fun _ htag => simplify_of_tag htag, hsteps.taggedParts_sublist, hsteps⟩

end Cohort.Expression
