import Cohort.Proofs.Template.BoundOnly

/-! # Arguments that come from a field

A template that gives a field to `argEach` and does nothing else with it binds the items of the
field, and what it binds beside them is the same for all values of the field.
-/

namespace Cohort

/-- The values that `argEach` binds of a value: the items of a list, or the value itself. -/
def Value.spread : Value → List Value
  | .arr items => items
  | v => [v]

theorem Value.spread_of_ne_array {v : Value} (h : v.kind ≠ .array) : v.spread = [v] := by
  cases v with
  | arr items => exact absurd rfl h
  | _ => rfl

theorem AgreeBut.length_spread {x : String} {params params' : Params}
    (h : AgreeBut x true params params') :
    (paramValue params x).spread.length = (paramValue params' x).spread.length := by
  have hcount := h.itemCount?_eq rfl
  cases hv : paramValue params x <;> cases hv' : paramValue params' x <;>
    simp_all [Value.itemCount?, Value.spread]

namespace Template

/-! ## What a pipeline reads -/

mutual

/-- The fields, variables and literals in an operand. -/
def Operand.leaves : Operand → List Operand
  | .group p _ => p.leaves
  | .field path => [.field path]
  | .variable name path => [.variable name path]
  | .literal v => [.literal v]

/-- The fields, variables and literals in some operands. -/
def Operand.allLeaves : List Operand → List Operand
  | [] => []
  | o :: rest => o.leaves ++ Operand.allLeaves rest

/-- The fields, variables and literals in a command. -/
def Command.leaves : Command → List Operand
  | .call _ args => Operand.allLeaves args
  | .operand o => o.leaves

/-- The fields, variables and literals in some commands. -/
def Command.allLeaves : List Command → List Operand
  | [] => []
  | c :: rest => c.leaves ++ Command.allLeaves rest

/-- The fields, variables and literals in a pipeline. -/
def Pipeline.leaves : Pipeline → List Operand
  | .mk _ commands => Command.allLeaves commands

end

section

variable {scope scope' : Scope} {dot dot' : Value} (f : Placeholder) (k : Nat)

/-- Two runs find the same at some leaves. -/
def SameAt (f : Placeholder) (k : Nat) (scope scope' : Scope) (dot dot' : Value)
    (leaves : List Operand) : Prop :=
  ∀ o ∈ leaves, evalOperand f k scope dot o = evalOperand f k scope' dot' o

mutual

theorem evalOperand_of_leaves : ∀ {o : Operand}, SameAt f k scope scope' dot dot' o.leaves →
    evalOperand f k scope dot o = evalOperand f k scope' dot' o
  | .field path, h | .variable name path, h | .literal v, h => by
      simp only [Operand.leaves] at h
      exact h _ List.mem_cons_self
  | .group p path, h => by
      simp only [Operand.leaves] at h
      simp only [evalOperand, evalPipeline_of_leaves h]

theorem evalOperands_of_leaves : ∀ {os : List Operand},
    SameAt f k scope scope' dot dot' (Operand.allLeaves os) →
      evalOperands f k scope dot os = evalOperands f k scope' dot' os
  | [], _ => by simp only [evalOperands]
  | o :: rest, h => by
      rw [Operand.allLeaves, SameAt, List.forall_mem_append] at h
      simp only [evalOperands, evalOperand_of_leaves h.1, evalOperands_of_leaves h.2]

theorem evalCommand_of_leaves (piped : Option Value) : ∀ {c : Command},
    SameAt f k scope scope' dot dot' c.leaves →
      evalCommand f k scope dot piped c = evalCommand f k scope' dot' piped c
  | .operand o, h => by
      simp only [Command.leaves] at h
      simp only [evalCommand, evalOperand_of_leaves h]
  | .call name args, h => by
      simp only [Command.leaves] at h
      simp only [evalCommand, evalOperands_of_leaves h]

theorem evalCommands_of_leaves (piped : Option Value) : ∀ {cs : List Command},
    SameAt f k scope scope' dot dot' (Command.allLeaves cs) →
      evalCommands f k scope dot piped cs = evalCommands f k scope' dot' piped cs
  | [], _ => by simp only [evalCommands]
  | c :: rest, h => by
      rw [Command.allLeaves, SameAt, List.forall_mem_append] at h
      simp only [evalCommands, evalCommand_of_leaves piped h.1]
      congr 1
      funext v
      exact evalCommands_of_leaves (some v) h.2

/-- A pipeline gives the same wherever the same is found at its leaves. -/
theorem evalPipeline_of_leaves : ∀ {p : Pipeline}, SameAt f k scope scope' dot dot' p.leaves →
    evalPipeline f k scope dot p = evalPipeline f k scope' dot' p
  | .mk decls commands, h => by
      simp only [Pipeline.leaves] at h
      simp only [evalPipeline, evalCommands_of_leaves none h]

end

end

/-! ## Templates that spread a field -/

section

variable (x : String) (inside : Bool)

/-- A path that leads into the data, but not by the field `x`. -/
def leadsPast (path : List String) : Bool := path.head?.any fun name => name != x

/-- A leaf that reads neither the field `x` of the data nor the data as a whole. In the bodies of
ranges and scopes the dot is no longer the data. -/
def Operand.spares : Operand → Bool
  | .field path => inside || leadsPast x path
  | .variable name path => name != "$" || leadsPast x path
  | .literal _ => true
  | .group _ _ => false

/-- A pipeline that reads neither the field `x` of the data nor the data as a whole. -/
def Pipeline.spares (p : Pipeline) : Bool := p.leaves.all (Operand.spares x inside)

/-- An action that gives the field `x` of the data to `argEach`, and nothing else. -/
def Pipeline.onlySpreads (p : Pipeline) : Bool := !inside && decide (p.binder? x = some .each)

end

end Template

/-- The field `x` of the data occurs in actions that print what `argEach` binds of it, outside the
bodies of ranges and scopes, and is not read anywhere else. -/
def Template.onlySpreads (t : Template) (x : String) : Bool :=
  Template.Node.everyOf (fun inside p => p.spares x inside || p.onlySpreads x inside)
    (fun inside p => p.spares x inside) false t.nodes

namespace Template

section

variable {x : String} {params : Params} (f : Placeholder) (k : Nat)

theorem follow_of_leadsPast {path : List String} (h : leadsPast x path = true)
    (i j : Variant x true params) : follow (.obj i.val) path = follow (.obj j.val) path := by
  cases path with
  | nil => cases h
  | cons name path =>
      have hname : name ≠ x := by simpa [leadsPast] using h
      have hget : Fields.get? i.val name = Fields.get? j.val name :=
        (i.property.get?_eq name hname).symm.trans (j.property.get?_eq name hname)
      simp only [follow, hget]

theorem evalOperand_of_spares (inner : Scope) (dot : Option Value) (i j : Variant x true params) :
    ∀ {o : Operand}, o.spares x dot.isSome = true →
      evalOperand f k (inner ++ [("$", .obj i.val)]) (dot.getD (.obj i.val)) o =
        evalOperand f k (inner ++ [("$", .obj j.val)]) (dot.getD (.obj j.val)) o
  | .field path, h => by
      cases dot with
      | some v => simp only [evalOperand, Option.getD_some]
      | none =>
          have hpast : leadsPast x path = true := by simpa [Operand.spares] using h
          simp only [evalOperand, Option.getD_none, follow_of_leadsPast hpast i j]
  | .variable name path, h => by
      simp only [evalOperand, List.lookup_append]
      cases inner.lookup name with
      | some v => rfl
      | none =>
          by_cases hname : name = "$"
          · subst hname
            have hpast : leadsPast x path = true := by simpa [Operand.spares] using h
            simp [follow_of_leadsPast hpast i j]
          · have hbeq : (name == "$") = false := by simpa using hname
            simp [List.lookup_cons, hbeq]
  | .literal v, _ => by simp only [evalOperand]
  | .group p path, h => by cases h

/-! ## All values of the field at once -/

/-- One way to write placeholders, where the values that are spread are unknown. -/
def spreadSetting (i : Variant x true params) : Setting Nat :=
  ⟨f, k, fun j => (paramValue i.val x).spread.getD j .null⟩

theorem traced_of_spares (inner : Scope) (dot : Option Value) {p : Pipeline}
    (h : p.spares x dot.isSome = true) :
    Traced (spreadSetting f k) same fun i : Variant x true params =>
      evalPipeline f k (inner ++ [("$", .obj i.val)]) (dot.getD (.obj i.val)) p := by
  let first : Variant x true params := ⟨params, .refl x true params⟩
  have hleaves : ∀ o ∈ p.leaves, o.spares x dot.isSome = true := List.all_eq_true.mp h
  have hsame : ∀ i : Variant x true params,
      evalPipeline f k (inner ++ [("$", .obj i.val)]) (dot.getD (.obj i.val)) p =
        evalPipeline f k (inner ++ [("$", .obj params)]) (dot.getD (.obj params)) p := fun i =>
    evalPipeline_of_leaves f k fun o ho => evalOperand_of_spares f k inner dot i first (hleaves o ho)
  simp only [hsame]
  exact traced_evalPipeline _ _ p

theorem spread_spreadSetting :
    Spread (spreadSetting f k) fun i : Variant x true params => paramValue i.val x := by
  cases hcount : (paramValue params x).itemCount? with
  | none =>
      refine .inr ⟨.unknown 0, fun i => ?_⟩
      have hnone := i.property.itemCount?_eq rfl
      rw [hcount] at hnone
      have hkind := Value.itemCount?_eq_none_iff.mp hnone.symm
      exact ⟨by simp [Slot.value, spreadSetting, Value.spread_of_ne_array hkind], hkind⟩
  | some n =>
      refine .inl ⟨(List.range n).map .unknown, fun i => ?_⟩
      have hsome := i.property.itemCount?_eq rfl
      rw [hcount] at hsome
      cases hv : paramValue i.val x with
      | arr items =>
          rw [hv] at hsome
          obtain rfl : n = items.length := Option.some.inj hsome
          have hitems : items = ((List.range items.length).map Slot.unknown).map
              (Slot.value (spreadSetting f k i).value) := by
            refine List.ext_getElem (by simp) fun j hj _ => ?_
            simp [Slot.value, spreadSetting, hv, Value.spread, hj]
          exact hv.trans (congrArg Value.arr hitems)
      | _ => simp [hv, Value.itemCount?] at hsome

theorem traced_of_onlySpreads (inner : Scope) (dot : Option Value) {p : Pipeline}
    (h : p.onlySpreads x dot.isSome = true) :
    Traced (spreadSetting f k) same fun i : Variant x true params =>
      evalPipeline f k (inner ++ [("$", .obj i.val)]) (dot.getD (.obj i.val)) p := by
  obtain ⟨hdot, hbinder⟩ : dot = none ∧ p.binder? x = some .each := by
    simpa [Pipeline.onlySpreads] using h
  subst hdot
  simp only [evalPipeline_of_binder? f k hbinder, Option.getD_none, follow_obj_singleton, lift_ok,
    pure_bind]
  exact (traced_bindEach (spread_spreadSetting f k)).map _

variable (params) in
theorem traced_execute_spread {t : Template} (h : t.onlySpreads x = true) :
    Traced (spreadSetting f k) same fun i : Variant x true params =>
      execute f k t.nodes (.obj i.val) := by
  have hfollows : Follows (spreadSetting f k)
      (fun i : Variant x true params => [("$", .obj i.val)]) (fun i => .obj i.val)
      (fun inside p => p.spares x inside || p.onlySpreads x inside)
      (fun inside p => p.spares x inside) := by
    refine ⟨fun inner dot p hp => ?_, fun inner dot p hp => traced_of_spares f k inner dot hp⟩
    rcases Bool.or_eq_true_iff.mp hp with hp | hp
    · exact traced_of_spares f k inner dot hp
    · exact traced_of_onlySpreads f k inner dot hp
  exact hfollows.execute h

end

end Template

/-! ## Main result -/

/-- An argument comes from the field `x` of the data: for some other value of it, a list of as many
items if it is a list, the template binds another value there. -/
def Template.BindsFrom (t : Template) (f : Template.Placeholder) (k : Nat) (params : Params)
    (x : String) (j : Nat) : Prop :=
  ∃ params' sql sql', AgreeBut x true params params' ∧ t.render f k params = .ok sql ∧
    t.render f k params' = .ok sql' ∧ sql.args[j]? ≠ sql'.args[j]?

theorem Template.exists_slots_of_onlySpreads {t : Template} {x : String}
    (h : t.onlySpreads x = true) (f : Template.Placeholder) (k : Nat) (params : Params) :
    ∃ slots : List (Template.Slot Nat), ∀ params' sql, AgreeBut x true params params' →
      t.render f k params' = .ok sql → sql.args =
        slots.map (Template.Slot.value fun j => (paramValue params' x).spread.getD j .null) := by
  obtain ⟨trace, htrace⟩ := Template.traced_execute_spread params f k h
  refine ⟨(trace (Template.Placeholder.drop f k)).2, fun params' sql hagree hrender => ?_⟩
  have hrun := htrace ⟨params', hagree⟩ []
  change t.run f k (.obj params') [] = _ at hrun
  rw [Template.render, hrun] at hrender
  split at hrender
  · rename_i query args heq
    obtain ⟨-, hargs⟩ := Prod.mk.inj heq
    cases hrender
    exact hargs.symm
  · cases hrender

/-- What comes from the field is one of the values that `argEach` binds of it. -/
theorem Template.mem_spread_of_bindsFrom {t : Template} {x : String} (h : t.onlySpreads x = true)
    {f : Template.Placeholder} {k : Nat} {params : Params} {sql : Sql}
    (hrender : t.render f k params = .ok sql) {j : Nat} (hj : t.BindsFrom f k params x j) :
    ∃ w ∈ (paramValue params x).spread, sql.args[j]? = some w := by
  obtain ⟨slots, hslots⟩ := exists_slots_of_onlySpreads h f k params
  obtain ⟨params', sql₀, sql', hagree, hrender₀, hrender', hne⟩ := hj
  obtain rfl : sql = sql₀ := Except.ok.inj (hrender.symm.trans hrender₀)
  have hargs := hslots params sql (.refl _ _ _) hrender
  have hargs' := hslots params' sql' hagree hrender'
  rw [hargs, hargs', List.getElem?_map, List.getElem?_map] at hne
  cases hslot : slots[j]? with
  | none => simp [hslot] at hne
  | some slot =>
      cases slot with
      | fixed v => simp [hslot, Template.Slot.value] at hne
      | unknown m =>
          by_cases hm : m < (paramValue params x).spread.length
          · refine ⟨_, List.getElem_mem hm, ?_⟩
            simp [hargs, hslot, Template.Slot.value, hm]
          · -- What lies outside is null in both.
            have hm' : ¬ m < (paramValue params' x).spread.length := by
              rwa [← hagree.length_spread]
            simp [hslot, Template.Slot.value, hm, hm'] at hne

end Cohort
