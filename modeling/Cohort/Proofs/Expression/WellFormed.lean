import Cohort.Expression.Plan
import Mathlib.Data.List.Forall2

/-! # Well-formed expressions -/

namespace Cohort

/-- The numbers of children that an operation takes: a difference needs two, the others one. -/
def SetOperation.Admits (op : SetOperation) (n : Nat) : Prop :=
  0 < n ∧ (op = .except → 2 ≤ n)

namespace Expression

/-- `n` is a node of an expression, at any depth and under any of its fields. -/
inductive Within (n : Expression) : Expression → Prop where
  | self : Within n n
  | child {e c : Expression} (op : SetOperation) (hc : c ∈ e.children op) :
      Within n c → Within n e

/-- Every node is a tag alone or has one list of children, as many as its operation takes. -/
inductive WellFormed : Expression → Prop where
  | tag (t : Tag) : WellFormed (ofTag t)
  | set (op : SetOperation) {cs : List Expression} (hsize : op.Admits cs.length) :
      (∀ c ∈ cs, WellFormed c) → WellFormed (ofSet op cs)

/-! ## Single nodes -/

@[simp] theorem children_ofSet_self (op : SetOperation) (cs : List Expression) :
    (ofSet op cs).children op = cs := by
  cases op <;> rfl

theorem children_ofSet_of_ne {op other : SetOperation} (h : other ≠ op) (cs : List Expression) :
    (ofSet op cs).children other = [] := by
  cases op <;> cases other <;> first | rfl | exact absurd rfl h

theorem ofSet_inj {op op' : SetOperation} {cs cs' : List Expression} (hcs : cs ≠ [])
    (h : ofSet op cs = ofSet op' cs') : op = op' ∧ cs = cs' := by
  cases op <;> cases op' <;> simp_all [ofSet]

theorem ofTag_ne_ofSet (t : Tag) (op : SetOperation) (cs : List Expression) :
    ofTag t ≠ ofSet op cs := by
  cases op <;> simp [ofTag, ofSet]

@[simp] theorem shape_ofTag (t : Tag) : (ofTag t).shape = .ok (.tag t) := rfl

theorem shape_ofSet {op : SetOperation} {cs : List Expression} (h : op.Admits cs.length) :
    (ofSet op cs).shape = .ok (.set op) := by
  obtain ⟨hpos, hexcept⟩ := h
  cases cs with
  | nil => simp at hpos
  | cons c cs =>
      cases op with
      | intersect => rfl
      | union => rfl
      | except =>
          have hlength : (c :: cs).length ≠ 1 := by
            have := hexcept rfl
            omega
          change (if (c :: cs).length = 1 then _ else _) = _
          rw [if_neg hlength]
          rfl

/-- A node whose shape is known is that tag, or that operation on enough children. -/
theorem eq_of_shape {e : Expression} {s : NodeShape} (h : e.shape = .ok s) :
    (∃ t, s = .tag t ∧ e = ofTag t) ∨
      ∃ op, s = .set op ∧ ∃ cs, e = ofSet op cs ∧ op.Admits cs.length := by
  obtain ⟨is, us, xs, tag⟩ := e
  by_cases hone : xs.length = 1
  · simp [shape, hone] at h
  · cases is <;> cases us <;> cases xs <;> cases tag <;>
      simp_all [shape, shapes, SetOperation.all, children] <;> subst h
    · exact .inl ⟨_, rfl, rfl⟩
    · rename_i x xs
      refine .inr ⟨.except, rfl, x :: xs, rfl, by simp, fun _ => ?_⟩
      have hxs := List.length_pos_of_ne_nil hone
      simp only [List.length_cons]
      omega
    · exact .inr ⟨.union, rfl, _, rfl, by simp [SetOperation.Admits]⟩
    · exact .inr ⟨.intersect, rfl, _, rfl, by simp [SetOperation.Admits]⟩

/-! ## Plans -/

@[simp] theorem plan_ofTag (t : Tag) : (ofTag t).plan = .ok (.tag t) := by
  rw [ofTag, plan]
  rfl

theorem plan_ofSet {op : SetOperation} {cs : List Expression} (h : op.Admits cs.length) :
    (ofSet op cs).plan = (planAll cs).map (.set op) := by
  have hs := shape_ofSet h
  cases op <;> rw [ofSet] at hs ⊢ <;> rw [plan, hs] <;> rfl

theorem plan_of_shape_error {e : Expression} {f : ExpressionFault} (h : e.shape = .error f) :
    e.plan = .error f := by
  obtain ⟨is, us, xs, tag⟩ := e
  rw [plan, h]
  rfl

theorem planAll_cons_eq_ok_iff {c : Expression} {cs : List Expression} {ps : List Plan} :
    planAll (c :: cs) = .ok ps ↔
      ∃ p qs, c.plan = .ok p ∧ planAll cs = .ok qs ∧ ps = p :: qs := by
  rw [planAll]
  cases c.plan <;> cases planAll cs <;>
    simp [bind, Except.bind, pure, Except.pure, eq_comm]

/-- The plans of expressions are those of each by itself. -/
theorem planAll_eq_ok_iff {cs : List Expression} {ps : List Plan} :
    planAll cs = .ok ps ↔ List.Forall₂ (fun c p => c.plan = .ok p) cs ps := by
  induction cs generalizing ps with
  | nil => simp [planAll, eq_comm]
  | cons c cs ih => simp only [planAll_cons_eq_ok_iff, ih, List.forall₂_cons_left_iff]

/-- What joins expressions to their plans, tag by tag and operation by operation, joins every
well-formed expression to its plan. -/
theorem WellFormed.plan_induction {P : Expression → Plan → Prop}
    (htag : ∀ t, P (ofTag t) (.tag t))
    (hset : ∀ op cs ps, op.Admits cs.length → List.Forall₂ P cs ps →
      P (ofSet op cs) (.set op ps))
    {e : Expression} (h : e.WellFormed) : ∃ p, e.plan = .ok p ∧ P e p := by
  induction h with
  | tag t => exact ⟨_, plan_ofTag t, htag t⟩
  | @set op cs hsize _ ih =>
      have : Nonempty Plan := ⟨.set op []⟩
      choose! plan hplan using ih
      have hps : planAll cs = .ok (cs.map plan) := by
        rw [planAll_eq_ok_iff, List.forall₂_map_right_iff, List.forall₂_same]
        exact fun c hc => (hplan c hc).1
      refine ⟨.set op (cs.map plan), ?_, hset op cs _ hsize ?_⟩
      · rw [plan_ofSet hsize, hps]
        rfl
      · rw [List.forall₂_map_right_iff, List.forall₂_same]
        exact fun c hc => (hplan c hc).2

/-! ## Whole trees -/

theorem sizeOf_lt_of_mem_children {c e : Expression} {op : SetOperation}
    (h : c ∈ e.children op) : sizeOf c < sizeOf e := by
  have hlt := List.sizeOf_lt_of_mem h
  obtain ⟨is, us, xs, tag⟩ := e
  cases op <;> simp only [children, mk.sizeOf_spec] at hlt ⊢ <;> omega

/-- What every node has whose children have it, whatever it holds, every expression has. -/
theorem node_induction {P : Expression → Prop}
    (hnode : ∀ e, (∀ op, ∀ c ∈ e.children op, P c) → P e) (e : Expression) : P e :=
  hnode e fun _ c _ => node_induction hnode c
termination_by sizeOf e
decreasing_by exact sizeOf_lt_of_mem_children ‹_›

/-- An expression is well formed if each of its nodes is one thing by itself. -/
theorem wellFormed_iff {e : Expression} :
    e.WellFormed ↔ ∀ n, Within n e → ∃ s, n.shape = .ok s := by
  constructor
  · intro h n hn
    induction h with
    | tag t =>
        cases hn with
        | self => exact ⟨_, shape_ofTag t⟩
        | child op hc => cases op <;> simp [ofTag, children] at hc
    | @set op cs hsize _ ih =>
        cases hn with
        | self => exact ⟨_, shape_ofSet hsize⟩
        | @child _ c other hc hn =>
            by_cases hop : other = op
            · subst hop
              exact ih c (by simpa using hc) hn
            · simp [children_ofSet_of_ne hop] at hc
  · induction e using node_induction with
    | hnode e ih =>
        intro h
        obtain ⟨s, hs⟩ := h e .self
        obtain ⟨t, -, rfl⟩ | ⟨op, -, cs, rfl, hsize⟩ := eq_of_shape hs
        · exact .tag t
        · refine .set op hsize fun c hc => ih op c (by simpa using hc) fun n hn => ?_
          exact h n (.child op (by simpa using hc) hn)

/-- Planning succeeds on the well-formed expressions and on no others. -/
theorem plan_isOk_iff {e : Expression} : (∃ p, e.plan = .ok p) ↔ e.WellFormed := by
  constructor
  · induction e using node_induction with
    | hnode e ih =>
        rintro ⟨p, hp⟩
        cases hs : e.shape with
        | error f =>
            simp [plan_of_shape_error hs] at hp
        | ok s =>
            obtain ⟨t, -, rfl⟩ | ⟨op, -, cs, rfl, hsize⟩ := eq_of_shape hs
            · exact .tag t
            · rw [plan_ofSet hsize] at hp
              cases hps : planAll cs with
              | error f => simp [hps, Except.map] at hp
              | ok ps =>
                  refine .set op hsize fun c hc => ih op c (by simpa using hc) ?_
                  have hall := planAll_eq_ok_iff.mp hps
                  obtain ⟨i, hi, rfl⟩ := List.getElem_of_mem hc
                  exact ⟨_, hall.get hi (hall.length_eq ▸ hi)⟩
  · intro h
    obtain ⟨p, hp, -⟩ := h.plan_induction (P := fun _ _ => True) (by simp) (by simp)
    exact ⟨p, hp⟩

theorem validate_eq_ok_iff {e : Expression} : e.validate = .ok () ↔ e.WellFormed := by
  rw [← plan_isOk_iff, validate]
  cases e.plan <;> simp [Except.map]

end Expression

end Cohort
