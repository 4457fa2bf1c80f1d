import Cohort.Proofs.Template.Skeleton
import Cohort.Template.Rendering

/-! # What blocks leave in scope

A block gives back the scope it was entered with: what is declared in its conditions, its body and
its last part is gone behind it. The last part of a range without items is the exception, since it
is printed as if it stood outside.
-/

namespace Cohort.Template

variable {α β : Type} {args args' : List Value}

/-! ## Runs that succeed -/

/-- Behind the bound values `args` a computation gives `a`, and then `args'` are bound. -/
def Gives (m : Render α) (args : List Value) (a : α) (args' : List Value) : Prop :=
  StateT.run (ExceptT.run m) args = (.ok a, args')

theorem gives_pure_iff {a b : α} : Gives (pure a) args b args' ↔ a = b ∧ args = args' := by
  constructor
  · intro h
    obtain ⟨hok, hargs⟩ := Prod.mk.inj h
    exact ⟨Except.ok.inj hok, hargs⟩
  · rintro ⟨rfl, rfl⟩
    rfl

theorem not_gives_throw {fault : ExecFault} {a : α} : ¬ Gives (throw fault) args a args' := by
  intro h
  cases (Prod.mk.inj h).1

theorem gives_lift_iff {outcome : Except ExecFault α} {a : α} :
    Gives (lift outcome) args a args' ↔ outcome = .ok a ∧ args = args' := by
  cases outcome with
  | ok b => simpa [lift] using gives_pure_iff
  | error fault =>
      have hthrow : ¬ Gives (throw fault) args a args' := not_gives_throw
      simpa [lift] using hthrow

theorem gives_bind_iff {m : Render α} {next : α → Render β} {b : β} :
    Gives (m >>= next) args b args' ↔ ∃ a mid, Gives m args a mid ∧ Gives (next a) mid b args' := by
  unfold Gives
  rw [run_bind]
  constructor
  · intro h
    generalize hm : StateT.run (ExceptT.run m) args = outcome at h
    obtain ⟨a | fault, mid⟩ := outcome
    · cases h
    · exact ⟨_, mid, rfl, h⟩
  · rintro ⟨a, mid, hm, hnext⟩
    rw [hm]
    exact hnext

/-! ## Leaving a block -/

/-- A node that an `end` closes. -/
def Node.isBlock : Node → Bool
  | .text _ | .action _ => false
  | .branches _ _ | .range _ _ _ | .scope _ _ _ => true

section

variable {f : Placeholder} {k : Nat} {scope scope' : Scope} {dot : Value} {s : String}

theorem Gives.scope_eq_of_pure {t : String}
    (h : Gives (pure (scope, t)) args (scope', s) args') : scope' = scope :=
  (Prod.mk.inj (gives_pure_iff.mp h).1).1.symm

/-- What forgets the scope behind a computation gives back the scope it names. -/
theorem Gives.scope_eq_of_bind {m : Render α} {text : α → String}
    (h : Gives (do let a ← m; return (scope, text a)) args (scope', s) args') : scope' = scope := by
  obtain ⟨a, mid, -, h⟩ := gives_bind_iff.mp h
  exact h.scope_eq_of_pure

theorem Gives.scope_behind_branches {conditions : List (Pipeline × List Node)}
    {otherwise : Option (List Node)}
    (h : Gives (evalNode f k scope dot (.branches conditions otherwise)) args (scope', s) args') :
    scope' = scope := by
  rw [evalNode, gives_bind_iff] at h
  obtain ⟨⟨inner, taken⟩, mid, -, h⟩ := h
  cases taken with
  | some t => exact h.scope_eq_of_pure
  | none => exact h.scope_eq_of_bind

theorem Gives.scope_behind_scope {p : Pipeline} {body : List Node} {otherwise : Option (List Node)}
    (h : Gives (evalNode f k scope dot (.scope p body otherwise)) args (scope', s) args') :
    scope' = scope := by
  rw [evalNode, gives_bind_iff] at h
  obtain ⟨v, mid, -, h⟩ := h
  dsimp only at h
  split at h
  · exact h.scope_eq_of_bind
  · exact h.scope_eq_of_bind

/-- A range with items leaves the scope as it was. One without is its last part and nothing else. -/
theorem Gives.scope_behind_range {p : Pipeline} {body : List Node} {otherwise : Option (List Node)}
    (h : Gives (evalNode f k scope dot (.range p body otherwise)) args (scope', s) args') :
    scope' = scope ∨ ∃ v mid, Gives (evalPipeline f k scope dot p) args v mid ∧ items v = .ok [] ∧
      Gives (evalOtherwise f k scope dot otherwise) mid (scope', s) args' := by
  rw [evalNode, gives_bind_iff] at h
  obtain ⟨v, mid, hv, h⟩ := h
  rw [gives_bind_iff] at h
  obtain ⟨entries, mid', hentries, h⟩ := h
  obtain ⟨hitems, rfl⟩ := gives_lift_iff.mp hentries
  cases entries with
  | nil => exact .inr ⟨v, mid, hv, hitems, h⟩
  | cons entry entries =>
      exact .inl h.scope_eq_of_bind

/-! ## Nothing is taken from the scope -/

theorem scope_suffix_declare (scope : Scope) (decls : List String) (v : Value) :
    scope <:+ declare scope decls v := by
  cases decls with
  | nil => exact List.suffix_rfl
  | cons name decls => exact List.suffix_cons _ _

mutual

theorem Gives.suffix_node : ∀ {n : Node} {scope scope' : Scope} {dot : Value} {s : String}
    {args args' : List Value}, Gives (evalNode f k scope dot n) args (scope', s) args' →
      scope <:+ scope'
  | .text t, _, _, _, _, _, _, h => by
      rw [evalNode] at h
      exact h.scope_eq_of_pure ▸ List.suffix_rfl
  | .action p, scope, _, _, _, _, _, h => by
      rw [evalNode, gives_bind_iff] at h
      obtain ⟨v, mid, -, h⟩ := h
      split at h
      · exact h.scope_eq_of_pure ▸ List.suffix_rfl
      · rw [h.scope_eq_of_pure]
        exact scope_suffix_declare scope p.decls v
  | .branches _ _, _, _, _, _, _, _, h => h.scope_behind_branches ▸ List.suffix_rfl
  | .scope _ _ _, _, _, _, _, _, _, h => h.scope_behind_scope ▸ List.suffix_rfl
  | .range p body otherwise, _, _, _, _, _, _, h => by
      obtain rfl | ⟨v, mid, -, -, hlast⟩ := h.scope_behind_range
      · exact List.suffix_rfl
      · exact Gives.suffix_otherwise hlast

theorem Gives.suffix_nodes : ∀ {nodes : List Node} {scope scope' : Scope} {dot : Value} {s : String}
    {args args' : List Value}, Gives (evalNodes f k scope dot nodes) args (scope', s) args' →
      scope <:+ scope'
  | [], _, _, _, _, _, _, h => by
      rw [evalNodes] at h
      exact h.scope_eq_of_pure ▸ List.suffix_rfl
  | n :: rest, _, _, _, _, _, _, h => by
      rw [evalNodes, gives_bind_iff] at h
      obtain ⟨⟨inner, t⟩, mid, hn, h⟩ := h
      obtain ⟨⟨last, u⟩, mid', hrest, h⟩ := gives_bind_iff.mp h
      rw [h.scope_eq_of_pure]
      exact (Gives.suffix_node hn).trans (Gives.suffix_nodes hrest)

theorem Gives.suffix_otherwise : ∀ {otherwise : Option (List Node)} {scope scope' : Scope}
    {dot : Value} {s : String} {args args' : List Value},
      Gives (evalOtherwise f k scope dot otherwise) args (scope', s) args' → scope <:+ scope'
  | none, _, _, _, _, _, _, h => by
      rw [evalOtherwise] at h
      exact h.scope_eq_of_pure ▸ List.suffix_rfl
  | some nodes, _, _, _, _, _, _, h => by
      rw [evalOtherwise] at h
      exact Gives.suffix_nodes h

end

/-! ## Main result -/

/-- Behind a block the scope is what it was before, with the same names, values and order, unless
the block is a range without items whose last part declares something. Then the scope is the one
behind that part: what was in scope before is still there, below what was declared. -/
theorem scope_behind_block {n : Node} (hn : n.isBlock = true)
    (h : Gives (evalNode f k scope dot n) args (scope', s) args') :
    scope <:+ scope' ∧ (scope' ≠ scope → ∃ p body last v mid,
      n = .range p body (some last) ∧ Gives (evalPipeline f k scope dot p) args v mid ∧
        items v = .ok [] ∧ Gives (evalNodes f k scope dot last) mid (scope', s) args') := by
  refine ⟨h.suffix_node, fun hne => ?_⟩
  cases n with
  | text t => cases hn
  | action p => cases hn
  | branches conditions otherwise => exact absurd h.scope_behind_branches hne
  | scope p body otherwise => exact absurd h.scope_behind_scope hne
  | range p body otherwise =>
      obtain heq | ⟨v, mid, hv, hitems, hlast⟩ := h.scope_behind_range
      · exact absurd heq hne
      · cases otherwise with
        | none =>
            rw [evalOtherwise] at hlast
            exact absurd hlast.scope_eq_of_pure hne
        | some last =>
            rw [evalOtherwise] at hlast
            exact ⟨p, body, last, v, mid, rfl, hv, hitems, hlast⟩

end

/-- A range whose last part declares a variable that is in scope already. -/
def shadowingRange : Node :=
  .range (.mk [] [.operand (.field ["items"])]) []
    (some [.action (.mk ["$v"] [.operand (.literal (.str "inner"))])])

/-- Without items the variable of the last part stays, above the one that it hides. -/
theorem scope_behind_shadowingRange :
    shadowingRange.isBlock = true ∧
    Gives (evalNode (fun _ => "?") 0 [("$v", .str "outer")] .null shadowingRange) []
      ([("$v", .str "inner"), ("$v", .str "outer")], "") [] ∧
    ∃ p body last v mid, shadowingRange = .range p body (some last) ∧ items v = .ok [] ∧
      Gives (evalNodes (fun _ => "?") 0 [("$v", .str "outer")] .null last) mid
        ([("$v", .str "inner"), ("$v", .str "outer")], "") [] := by
  have hblock : shadowingRange.isBlock = true := rfl
  have hgives : Gives (evalNode (fun _ => "?") 0 [("$v", .str "outer")] .null shadowingRange) []
      ([("$v", .str "inner"), ("$v", .str "outer")], "") [] := rfl
  obtain ⟨p, body, last, v, mid, hrange, -, hitems, hlast⟩ :=
    (scope_behind_block hblock hgives).2 (by simp)
  exact ⟨hblock, hgives, p, body, last, v, mid, hrange, hitems, hlast⟩

/-- Nodes that declare a variable, once more in the last part of a range, and print it behind the
range. -/
def shadowing : List Node :=
  [.action (.mk ["$v"] [.operand (.literal (.str "outer"))]), shadowingRange,
    .action (.mk [] [.operand (.variable "$v" [])])]

/-- The block does not give back the scope that it was entered with, and what is printed behind it
is the variable declared inside. -/
theorem render_shadowing :
    ¬ (∀ scope' s args', Gives (evalNode (fun _ => "?") 0 [("$v", .str "outer")] .null
      shadowingRange) [] (scope', s) args' → scope' = [("$v", .str "outer")]) ∧
    (Template.mk shadowing).render (fun _ => "?") 0 [("items", .arr [])] = .ok ⟨"inner", []⟩ := by
  refine ⟨fun h => ?_, rfl⟩
  have heq := h [("$v", .str "inner"), ("$v", .str "outer")] "" [] rfl
  simp at heq

end Cohort.Template
