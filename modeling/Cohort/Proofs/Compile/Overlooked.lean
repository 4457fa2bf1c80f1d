import Cohort.Proofs.Compile.Simplified
import Cohort.Proofs.Expression.NormalForm

/-! # Simplifying malformed expressions

Simplifying goes by the first operation under which a node has children, and overlooks children
under any other. What else is wrong with an expression is still wrong when it is simplified.
-/

namespace Cohort

namespace Expression

/-! ## What simplifying keeps -/

mutual

/-- The expression without what simplifying overlooks: of a node without a tag, only the children
under the first operation that has any are kept. A node with a tag is kept whole. -/
def kept : Expression → Expression
  | ⟨intersect, union, except, some tag⟩ => ⟨intersect, union, except, some tag⟩
  | ⟨intersect, union, except, none⟩ =>
    if !intersect.isEmpty then ofSet .intersect (keptAll intersect)
    else if !union.isEmpty then ofSet .union (keptAll union)
    else ofSet .except (keptAll except)

/-- What is kept of expressions. -/
def keptAll : List Expression → List Expression
  | [] => []
  | e :: rest => e.kept :: keptAll rest

end

/-- A node with children under one operation at most. -/
def IsSingle (e : Expression) : Prop :=
  ∀ op op', e.children op ≠ [] → e.children op' ≠ [] → op = op'

theorem keptAll_eq_map (cs : List Expression) : keptAll cs = cs.map kept := by
  induction cs with
  | nil => rw [keptAll, List.map_nil]
  | cons c cs ih => rw [keptAll, ih, List.map_cons]

theorem kept_of_tag {e : Expression} {t : Tag} (h : e.tag = some t) : e.kept = e := by
  obtain ⟨is, us, xs, tag⟩ := e
  obtain rfl : tag = some t := h
  rw [kept]

theorem kept_of_untagged {e : Expression} (h : e.tag = none) :
    e.kept = ofSet e.first ((e.children e.first).map kept) := by
  obtain ⟨is, us, xs, tag⟩ := e
  obtain rfl : tag = none := h
  by_cases his : is = []
  · by_cases hus : us = [] <;> simp [first, kept, his, hus, children, keptAll_eq_map]
  · simp [first, kept, his, children, keptAll_eq_map]

/-- A node with a tag stays as it is. Any other node is simplified as if it held nothing but its
children under one operation, and there are some unless it has no children at all. -/
theorem kept_cases (e : Expression) :
    (∃ t, e.tag = some t ∧ e.simplify = e ∧ e.kept = e) ∨
      e.tag = none ∧ ∃ op, (op ≠ .except → e.children op ≠ []) ∧
        (∀ other, e.children other ≠ [] → e.children op ≠ []) ∧
        e.simplify = (ofSet op (e.children op)).simplify ∧
        e.kept = ofSet op ((e.children op).map kept) := by
  cases htag : e.tag with
  | some t => exact .inl ⟨t, rfl, simplify_of_tag htag, kept_of_tag htag⟩
  | none =>
      exact .inr ⟨rfl, e.first, children_first_ne_nil, fun _ => children_first_of_ne_nil,
        simplify_of_untagged htag, kept_of_untagged htag⟩

theorem simplify_kept (e : Expression) : e.kept.simplify = e.simplify := by
  induction e using node_induction with
  | hnode e ih =>
      obtain ⟨t, -, -, hkept⟩ | ⟨-, op, hne, -, hsimplify, hkept⟩ := kept_cases e
      · rw [hkept]
      · have hmap : ((e.children op).map kept).map simplify = (e.children op).map simplify := by
          rw [List.map_map]
          exact List.map_congr_left (ih op)
        rw [hkept, hsimplify]
        by_cases hop : op = .except
        · subst hop
          rw [simplify_ofSet_except, simplify_ofSet_except, hmap]
        · rw [simplify_ofSet hop (by simpa using hne hop), simplify_ofSet hop (hne hop), hmap]

/-! ## Nothing that is kept is repaired -/

theorem wellFormed_ofSet_iff {op : SetOperation} {cs : List Expression} :
    (ofSet op cs).WellFormed ↔ op.Admits cs.length ∧ ∀ c ∈ cs, c.WellFormed := by
  constructor
  · intro h
    generalize he : ofSet op cs = e at h
    cases h with
    | tag t => exact absurd he.symm (ofTag_ne_ofSet t op cs)
    | @set _ cs' hsize hcs =>
        obtain ⟨rfl, rfl⟩ := ofSet_inj (List.ne_nil_of_length_pos hsize.1) he.symm
        exact ⟨hsize, hcs⟩
  · rintro ⟨hsize, hcs⟩
    exact .set op hsize hcs

/-- A node of parts, or the only part itself, is well formed only if all parts are. -/
theorem WellFormed.of_combine {op : SetOperation} {parts : List Expression}
    (h : (combine op parts).WellFormed) : ∀ p ∈ parts, p.WellFormed := by
  by_cases hone : parts.length = 1
  · obtain ⟨p, rfl⟩ := List.length_eq_one_iff.mp hone
    have hp : p.WellFormed := h
    simpa using hp
  · rw [combine_of_length_ne_one hone] at h
    exact h.of_mem_ofSet

theorem WellFormed.of_partsUnder {op : SetOperation} (hop : op ≠ .except) {e : Expression}
    (h : ∀ p ∈ e.partsUnder op, p.WellFormed) : e.WellFormed := by
  by_cases hpure : e.isPure op = true
  · rw [partsUnder, if_pos hpure] at h
    obtain ⟨he, hne⟩ := eq_ofSet_of_isPure hpure
    rw [he]
    exact .set op ⟨List.length_pos_of_ne_nil hne, fun hexcept => absurd hexcept hop⟩ h
  · rw [partsUnder, if_neg hpure] at h
    exact h e (by simp)

theorem WellFormed.kept_of_simplify {e : Expression} (h : e.simplify.WellFormed) :
    e.kept.WellFormed := by
  induction e using node_induction with
  | hnode e ih =>
      obtain ⟨t, -, hsimplify, hkept⟩ | ⟨-, op, hne, -, hsimplify, hkept⟩ := kept_cases e
      · rwa [hkept, ← hsimplify]
      · rw [hsimplify] at h
        rw [hkept, wellFormed_ofSet_iff, List.length_map, List.forall_mem_map]
        by_cases hop : op = .except
        · subst hop
          rw [simplify_ofSet_except, wellFormed_ofSet_iff, List.length_map,
            List.forall_mem_map] at h
          exact ⟨h.1, fun c hc => ih _ c hc (h.2 c hc)⟩
        · rw [simplify_ofSet hop (hne hop)] at h
          refine ⟨⟨List.length_pos_of_ne_nil (hne hop), fun hexcept => absurd hexcept hop⟩, ?_⟩
          intro c hc
          refine ih op c hc (.of_partsUnder hop fun p hp => h.of_combine p ?_)
          exact List.mem_flatMap.mpr ⟨c.simplify, List.mem_map_of_mem hc, hp⟩

theorem wellFormed_simplify_iff {e : Expression} : e.simplify.WellFormed ↔ e.kept.WellFormed := by
  constructor
  · exact WellFormed.kept_of_simplify
  · intro h
    rw [← simplify_kept e]
    exact (h.simplify_agrees fun _ => (∅ : Set Empty)).wellFormed

/-! ## Expressions that are kept whole -/

theorem isSingle_ofSet (op : SetOperation) (cs : List Expression) : (ofSet op cs).IsSingle := by
  have heq : ∀ other, (ofSet op cs).children other ≠ [] → other = op := fun other hother =>
    not_not.mp fun hne => hother (children_ofSet_of_ne hne cs)
  intro op₁ op₂ h₁ h₂
  rw [heq op₁ h₁, heq op₂ h₂]

theorem eq_ofSet_of_forall_ne {e : Expression} (htag : e.tag = none) {op : SetOperation}
    (h : ∀ other ≠ op, e.children other = []) : e = ofSet op (e.children op) := by
  obtain ⟨is, us, xs, tag⟩ := e
  have his := h .intersect
  have hus := h .union
  have hxs := h .except
  cases op <;> simp_all [children, ofSet]

/-- Nothing of an expression is overlooked just if no node outside its tagged subtrees has children
under several operations. -/
theorem kept_eq_self_iff {e : Expression} : e.kept = e ↔ ∀ n, Untagged n e → n.IsSingle := by
  constructor
  · intro h n hn
    induction hn with
    | self htag =>
        obtain ⟨t, ht, -⟩ | ⟨-, op, -, -, -, hkept⟩ := kept_cases n
        · simp [htag] at ht
        · rw [← h, hkept]
          exact isSingle_ofSet op _
    | @child e c op' htag hc _ ih =>
        obtain ⟨t, ht, -⟩ | ⟨-, op, -, -, -, hkept⟩ := kept_cases e
        · simp [htag] at ht
        · rw [h] at hkept
          have hop : op' = op := by
            by_contra hne
            rw [hkept, children_ofSet_of_ne hne] at hc
            cases hc
          subst hop
          have hmap : (e.children op').map kept = (e.children op').map id := by
            rw [List.map_id, ← children_ofSet_self op' ((e.children op').map kept), ← hkept]
          exact ih (List.map_inj_left.mp hmap c hc)
  · intro h
    induction e using node_induction with
    | hnode e ih =>
        obtain ⟨t, -, -, hkept⟩ | ⟨htag, op, -, hfirst, -, hkept⟩ := kept_cases e
        · exact hkept
        · have hmap : (e.children op).map kept = e.children op := by
            rw [List.map_congr_left fun c hc => ih op c hc fun n hn => h n (.child op htag hc hn),
              List.map_id']
          have hothers : ∀ other ≠ op, e.children other = [] := by
            intro other hne
            by_contra hother
            exact hne (h e (.self htag) other op hother (hfirst other hother))
          rw [hkept, hmap, ← eq_ofSet_of_forall_ne htag hothers]

theorem malformed_iff {e : Expression} : e.Malformed ↔ ¬ e.WellFormed := by
  constructor
  · rintro ⟨n, hn, fault, hfault⟩ h
    obtain ⟨s, hs⟩ := wellFormed_iff.mp h n hn
    rw [hfault] at hs
    cases hs
  · intro h
    by_contra hnot
    exact h (wellFormed_of_not_malformed hnot)

theorem Malformed.exists_validate {e : Expression} (h : e.Malformed) :
    ∃ fault, e.validate = .error fault := by
  rw [malformed_iff, ← validate_eq_ok_iff] at h
  cases hvalidate : e.validate with
  | error fault => exact ⟨fault, rfl⟩
  | ok u => exact absurd hvalidate h

end Expression

open Expression

/-! ## Main result -/

/-- Simplifying repairs an expression only by overlooking: the simplified expression is malformed
just if what is kept of the expression is. If no node outside the tagged subtrees has children under
several operations, all is kept, and a malformed expression is refused also when it is simplified,
whichever node is malformed and in whatever way. -/
theorem malformed_simplify (e : Expression) :
    (e.simplify.Malformed ↔ e.kept.Malformed) ∧
      ((∀ n, Untagged n e → n.IsSingle) → e.Malformed →
        (∃ fault, e.simplify.validate = .error fault) ∧
          ∀ registry v ctx, ∃ fault,
            e.simplify.compile registry v ctx = .error (.invalidExpression fault)) := by
  have hiff : e.simplify.Malformed ↔ e.kept.Malformed := by
    rw [malformed_iff, malformed_iff, wellFormed_simplify_iff]
  refine ⟨hiff, fun hsingle h => ?_⟩
  rw [kept_eq_self_iff.mpr hsingle] at hiff
  have hsimplify := hiff.mpr h
  exact ⟨hsimplify.exists_validate, fun _ _ _ => hsimplify.compile_eq⟩

/-- A difference of one child, below an intersection and a union of one child each. -/
def hiddenDifference : Expression :=
  .ofSet .intersect [.ofSet .union [.ofSet .except [.ofTag ⟨"a", []⟩]]]

theorem malformed_simplify_hiddenDifference :
    hiddenDifference.Malformed ∧ (∀ n, Untagged n hiddenDifference → n.IsSingle) ∧
      hiddenDifference.simplify = .ofSet .except [.ofTag ⟨"a", []⟩] ∧
      ∃ fault, hiddenDifference.simplify.compile echoes Dialect.postgres .background =
        .error (.invalidExpression fault) := by
  have hmalformed : hiddenDifference.Malformed :=
    ⟨.ofSet .except [.ofTag ⟨"a", []⟩], .child .intersect (List.mem_singleton_self _)
      (.child .union (List.mem_singleton_self _) .self), _, rfl⟩
  have hsingle : ∀ n, Untagged n hiddenDifference → n.IsSingle := kept_eq_self_iff.mp rfl
  exact ⟨hmalformed, hsingle, rfl,
    ((malformed_simplify hiddenDifference).2 hsingle hmalformed).2 _ _ _⟩

/-- An intersection that holds a union beside its children. -/
def crowded : Expression :=
  { intersect := [.ofTag ⟨"a", []⟩, .ofTag ⟨"b", []⟩], union := [.ofTag ⟨"c", []⟩] }

/-- Simplifying overlooks the union, and what is left compiles. -/
theorem crowded_repaired :
    ¬ (crowded.Malformed → ∃ fault, crowded.simplify.validate = .error fault) ∧
      crowded.simplify.compile echoes Dialect.postgres .background =
        .ok ⟨"($1) INTERSECT ($2)", [.str "a", .str "b"]⟩ := by
  refine ⟨fun h => ?_, rfl⟩
  obtain ⟨fault, hfault⟩ := h ⟨crowded, .self, _, rfl⟩
  cases hfault

end Cohort
