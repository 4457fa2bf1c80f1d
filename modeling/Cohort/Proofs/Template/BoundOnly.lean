import Cohort.Placeholder
import Cohort.Proofs.Template.TracedEvaluation
import Cohort.Template.Rendering

/-! # Values that are only bound

A template that does nothing with a field but bind it gives one query text, whatever the value of
the field is.
-/

namespace Cohort

namespace Template

/-! ## Templates that only bind a field -/

section

variable (x : String) (inside : Bool)

mutual

/-- An operand reads neither the field `x` nor the variable `$`; outside the bodies of ranges and
scopes it does not read the dot by itself either. -/
def Operand.avoids : Operand → Bool
  | .field [] => inside
  | .field (name :: path) => !(name :: path).contains x
  | .variable name path => name != "$" && !path.contains x
  | .literal _ => true
  | .group p path => p.avoids && !path.contains x

/-- All operands avoid the field. -/
def Operand.allAvoid : List Operand → Bool
  | [] => true
  | o :: rest => o.avoids && Operand.allAvoid rest

/-- The operands of a command avoid the field. -/
def Command.avoids : Command → Bool
  | .call _ args => Operand.allAvoid args
  | .operand o => o.avoids

/-- All commands avoid the field. -/
def Command.allAvoid : List Command → Bool
  | [] => true
  | c :: rest => c.avoids && Command.allAvoid rest

/-- The commands of a pipeline avoid the field. -/
def Pipeline.avoids : Pipeline → Bool
  | .mk _ commands => Command.allAvoid commands

end

end

/-- The function that a pipeline binds the field `x` with, if it does nothing else: it has the form
`arg .x` or `.x | arg`, or one of these with `argEach`. -/
def Pipeline.binder? (x : String) : Pipeline → Option Binder
  | .mk [] [.call name [.field [y]]] | .mk [] [.operand (.field [y]), .call name []] =>
    if y = x then Binder.ofName? name else none
  | _ => none

/-- A pipeline does nothing but bind the field `x`. Only where `each` is set may it look into a
list. -/
def Pipeline.onlyBinds (x : String) (each : Bool) (p : Pipeline) : Bool :=
  match p.binder? x with
  | some .one => true
  | some .each => each
  | none => false

end Template

/-- The field `x` occurs in actions that print what they bind of it, and nowhere else. The data is
not read as a whole. Only where `each` is set is the field given to `argEach`. -/
def Template.onlyBinds (t : Template) (x : String) (each : Bool) : Bool :=
  Template.Node.everyOf (fun inside p => p.avoids x inside || p.onlyBinds x each)
    (fun inside p => p.avoids x inside) false t.nodes

/-! ## Values of a field -/

/-- The value of a parameter. One that is missing is null. -/
def paramValue (params : Params) (x : String) : Value := (Fields.get? params x).getD .null

/-- The number of items of a list. -/
def Value.itemCount? : Value → Option Nat
  | .arr items => some items.length
  | _ => none

/-- Parameters that differ at most in the field `x`. Where `each` is set, its values are lists of
one length, or neither is a list. -/
structure AgreeBut (x : String) (each : Bool) (params params' : Params) : Prop where
  get?_eq : ∀ y ≠ x, Fields.get? params y = Fields.get? params' y
  itemCount?_eq : each = true →
    (paramValue params x).itemCount? = (paramValue params' x).itemCount?

/-- What is bound of a value: all of it, or one of its items. -/
inductive Part where
  | whole
  | item (i : Nat)
deriving DecidableEq

/-- A part of a value. -/
def Part.of (v : Value) : Part → Value
  | .whole => v
  | .item i => match v with
    | .arr items => items.getD i .null
    | _ => .null

theorem Value.itemCount?_eq_none_iff {v : Value} : v.itemCount? = none ↔ v.kind ≠ .array := by
  cases v <;> simp [itemCount?, kind]

theorem AgreeBut.refl (x : String) (each : Bool) (params : Params) :
    AgreeBut x each params params :=
  ⟨fun _ _ => rfl, fun _ => rfl⟩

theorem map_item_of (items : List Value) :
    (List.range items.length).map (fun i => Part.of (.arr items) (.item i)) = items := by
  refine List.ext_getElem (by simp) fun i _ hi => ?_
  simp [Part.of, hi]

namespace Template

/-! ## Pipelines that avoid the field -/

/-- Two data, with the variables above them, that differ at most in the field `x`. -/
structure Alike (x : String) (inside : Bool) (scope scope' : Scope) (dot dot' : Value) : Prop where
  lookup_eq : ∀ name ≠ "$", scope.lookup name = scope'.lookup name
  dot_eq : inside = true → dot = dot'
  follow_eq : ∀ name path, name ≠ x → follow dot (name :: path) = follow dot' (name :: path)

section

variable {x : String} {inside : Bool} {scope scope' : Scope} {dot dot' : Value}
  (f : Placeholder) (k : Nat)

mutual

theorem evalOperand_congr (h : Alike x inside scope scope' dot dot') : ∀ {o : Operand},
    o.avoids x inside = true → evalOperand f k scope dot o = evalOperand f k scope' dot' o
  | .field [], ho => by
      simp only [Operand.avoids] at ho
      simp only [evalOperand, h.dot_eq ho]
  | .field (name :: path), ho => by
      have hname : name ≠ x := by
        rintro rfl
        simp [Operand.avoids] at ho
      simp only [evalOperand, h.follow_eq name path hname]
  | .literal v, _ => by simp only [evalOperand]
  | .variable name path, ho => by
      simp only [Operand.avoids, Bool.and_eq_true, bne_iff_ne] at ho
      simp only [evalOperand, h.lookup_eq name ho.1]
  | .group p path, ho => by
      simp only [Operand.avoids, Bool.and_eq_true] at ho
      simp only [evalOperand, evalPipeline_congr h ho.1]

theorem evalOperands_congr (h : Alike x inside scope scope' dot dot') : ∀ {os : List Operand},
    Operand.allAvoid x inside os = true →
      evalOperands f k scope dot os = evalOperands f k scope' dot' os
  | [], _ => by simp only [evalOperands]
  | o :: rest, ho => by
      simp only [Operand.allAvoid, Bool.and_eq_true] at ho
      simp only [evalOperands, evalOperand_congr h ho.1, evalOperands_congr h ho.2]

theorem evalCommand_congr (h : Alike x inside scope scope' dot dot') (piped : Option Value) :
    ∀ {c : Command}, c.avoids x inside = true →
      evalCommand f k scope dot piped c = evalCommand f k scope' dot' piped c
  | .operand o, hc => by
      simp only [Command.avoids] at hc
      simp only [evalCommand, evalOperand_congr h hc]
  | .call name args, hc => by
      simp only [Command.avoids] at hc
      simp only [evalCommand, evalOperands_congr h hc]

theorem evalCommands_congr (h : Alike x inside scope scope' dot dot') (piped : Option Value) :
    ∀ {cs : List Command}, Command.allAvoid x inside cs = true →
      evalCommands f k scope dot piped cs = evalCommands f k scope' dot' piped cs
  | [], _ => by simp only [evalCommands]
  | c :: rest, hc => by
      simp only [Command.allAvoid, Bool.and_eq_true] at hc
      simp only [evalCommands, evalCommand_congr h piped hc.1]
      congr 1
      funext v
      exact evalCommands_congr h (some v) hc.2

theorem evalPipeline_congr (h : Alike x inside scope scope' dot dot') : ∀ {p : Pipeline},
    p.avoids x inside = true → evalPipeline f k scope dot p = evalPipeline f k scope' dot' p
  | .mk decls commands, hp => by
      simp only [Pipeline.avoids] at hp
      simp only [evalPipeline, evalCommands_congr h none hp]

end

/-! ## Pipelines that bind the field -/

theorem evalPipeline_of_binder? {p : Pipeline} {b : Binder} (h : p.binder? x = some b) :
    evalPipeline f k scope dot p = (do b.call f k [← lift (follow dot [x])]) := by
  unfold Pipeline.binder? at h
  split at h
  · split at h
    · subst x
      simp [evalPipeline, evalCommands, evalCommand, evalOperands, evalOperand, callFunction, h]
    · cases h
  · split at h
    · subst x
      simp [evalPipeline, evalCommands, evalCommand, evalOperands, evalOperand, callFunction, h]
    · cases h
  · cases h

end

theorem Pipeline.exists_binder?_of_onlyBinds {x : String} {each : Bool} {p : Pipeline}
    (h : p.onlyBinds x each = true) : ∃ b, p.binder? x = some b ∧ (b = .each → each = true) := by
  unfold onlyBinds at h
  cases hb : p.binder? x with
  | none => simp [hb] at h
  | some b =>
      refine ⟨b, rfl, ?_⟩
      rintro rfl
      simpa [hb] using h

/-! ## All values of the field at once -/

/-- Parameters that differ from some in the field `x` only. -/
abbrev Variant (x : String) (each : Bool) (params : Params) :=
  { params' : Params // AgreeBut x each params params' }

section

variable {x : String} {each : Bool} {params : Params} (f : Placeholder) (k : Nat)

/-- One way to write placeholders, where the value of the field is unknown. -/
def fieldSetting (i : Variant x each params) : Setting Part :=
  ⟨f, k, Part.of (paramValue i.val x)⟩

theorem follow_obj_singleton (params : Params) (x : String) :
    follow (.obj params) [x] = .ok (paramValue params x) := by
  unfold follow paramValue
  cases Fields.get? params x <;> rfl

theorem spread_paramValue (heach : each = true) :
    Spread (fieldSetting f k) fun i : Variant x each params => paramValue i.val x := by
  cases hcount : (paramValue params x).itemCount? with
  | none =>
      refine .inr ⟨.unknown .whole, fun i => ⟨rfl, ?_⟩⟩
      have hnone := i.property.itemCount?_eq heach
      rw [hcount] at hnone
      exact Value.itemCount?_eq_none_iff.mp hnone.symm
  | some n =>
      refine .inl ⟨(List.range n).map fun j => .unknown (.item j), fun i => ?_⟩
      have hsome := i.property.itemCount?_eq heach
      rw [hcount] at hsome
      cases hv : paramValue i.val x with
      | arr items =>
          rw [hv] at hsome
          obtain rfl : n = items.length := Option.some.inj hsome
          simp only [fieldSetting, hv, List.map_map]
          congr 1
          exact (map_item_of items).symm
      | _ => simp [hv, Value.itemCount?] at hsome

theorem alike_variant (inner : Scope) (dot : Option Value) (i j : Variant x each params) :
    Alike x dot.isSome (inner ++ [("$", .obj i.val)]) (inner ++ [("$", .obj j.val)])
      (dot.getD (.obj i.val)) (dot.getD (.obj j.val)) where
  lookup_eq := by
    intro name hname
    have hbeq : (name == "$") = false := by simpa using hname
    simp [List.lookup_append, List.lookup_cons, hbeq]
  dot_eq := by
    intro hsome
    obtain ⟨v, rfl⟩ := Option.isSome_iff_exists.mp hsome
    rfl
  follow_eq := by
    intro name path hname
    cases dot with
    | some v => rfl
    | none =>
        have hget : Fields.get? i.val name = Fields.get? j.val name :=
          (i.property.get?_eq name hname).symm.trans (j.property.get?_eq name hname)
        simp only [Option.getD_none, follow, hget]

theorem traced_of_avoids (inner : Scope) (dot : Option Value) {p : Pipeline}
    (h : p.avoids x dot.isSome = true) :
    Traced (fieldSetting f k) same fun i : Variant x each params =>
      evalPipeline f k (inner ++ [("$", .obj i.val)]) (dot.getD (.obj i.val)) p := by
  let first : Variant x each params := ⟨params, .refl x each params⟩
  have hsame : ∀ i : Variant x each params,
      evalPipeline f k (inner ++ [("$", .obj i.val)]) (dot.getD (.obj i.val)) p =
        evalPipeline f k (inner ++ [("$", .obj params)]) (dot.getD (.obj params)) p :=
    fun i => evalPipeline_congr f k (alike_variant inner dot i first) h
  simp only [hsame]
  exact traced_evalPipeline _ _ p

theorem traced_of_onlyBinds (inner : Scope) (dot : Option Value) {p : Pipeline}
    (h : p.onlyBinds x each = true) :
    Traced (fieldSetting f k) same fun i : Variant x each params =>
      evalPipeline f k (inner ++ [("$", .obj i.val)]) (dot.getD (.obj i.val)) p := by
  obtain ⟨b, hb, heach⟩ := Pipeline.exists_binder?_of_onlyBinds h
  simp only [evalPipeline_of_binder? f k hb]
  cases dot with
  | some v => exact (Traced.lift (follow v [x])).bind fun w => traced_call b [w]
  | none =>
      simp only [Option.getD_none, follow_obj_singleton, lift_ok, pure_bind]
      exact traced_call_spread b (.unknown .whole) (fun _ => rfl) fun hb =>
        spread_paramValue f k (heach hb)

variable (params) in
theorem traced_execute_variant {t : Template} (h : t.onlyBinds x each = true) :
    Traced (fieldSetting f k) same fun i : Variant x each params =>
      execute f k t.nodes (.obj i.val) := by
  have hfollows : Follows (fieldSetting f k)
      (fun i : Variant x each params => [("$", .obj i.val)]) (fun i => .obj i.val)
      (fun inside p => p.avoids x inside || p.onlyBinds x each)
      (fun inside p => p.avoids x inside) := by
    refine ⟨fun inner dot p hp => ?_, fun inner dot p hp => traced_of_avoids f k inner dot hp⟩
    rcases Bool.or_eq_true_iff.mp hp with hp | hp
    · exact traced_of_avoids f k inner dot hp
    · exact traced_of_onlyBinds f k inner dot hp
  exact hfollows.execute h

end

end Template

/-! ## Main result -/

/-- A query text, and its arguments if the field has some value. -/
def Sql.ofSlots (v : Value) (query : String × List (Template.Slot Part)) : Sql :=
  ⟨query.1, query.2.map (Template.Slot.value (Part.of v))⟩

/-- A template that only binds the field `x` has one outcome for all parameters that agree but in
`x`: it fails with one fault, or gives one query text and one list of slots. The arguments are the
values of the slots, which vary in nothing but the parts of `x` that were bound. -/
theorem render_eq_ofSlots {t : Template} {x : String} {each : Bool}
    (h : t.onlyBinds x each = true) (f : Template.Placeholder) (k : Nat) (params : Params) :
    ∃ outcome : Except Template.Fault (String × List (Template.Slot Part)),
      ∀ params', AgreeBut x each params params' →
        t.render f k params' = outcome.map (Sql.ofSlots (paramValue params' x)) := by
  obtain ⟨trace, htrace⟩ := Template.traced_execute_variant params f k h
  cases hanswer : trace (Template.Placeholder.drop f k) with
  | mk answer slots =>
      refine ⟨match answer with
        | .ok query => .ok (query, slots)
        | .error fault => .error (.exec fault), fun params' hagree => ?_⟩
      have hrun : t.run f k (.obj params') [] =
          (answer.map id, slots.map (Template.Slot.value (Part.of (paramValue params' x)))) := by
        rw [show t.run f k (.obj params') [] = _ from htrace ⟨params', hagree⟩ []]
        change _ = ((answer, slots).1.map _, (answer, slots).2.map _)
        rw [← hanswer]
        rfl
      rw [Template.render, hrun]
      cases answer <;> rfl

/-- A query for some columns, which are printed, and some ids, which are bound. -/
def idsQuery : Template where
  nodes := [
    .text "SELECT id",
    .range (.mk [] [.operand (.field ["columns"])])
      [.text ", ", .action (.mk [] [.operand (.field [])])] none,
    .text " WHERE id IN (",
    .action (.mk [] [.operand (.field ["ids"]), .call "argEach" []]),
    .text ")"]

/-- Parameters with two ids. -/
def idsParams (a b : String) : Params :=
  [("columns", .arr [.str "name"]), ("ids", .arr [.str a, .str b])]

theorem agreeBut_idsParams (a b c d : String) :
    AgreeBut "ids" true (idsParams a b) (idsParams c d) := by
  refine ⟨fun y hy => ?_, fun _ => rfl⟩
  have hbeq : (y == "ids") = false := by simpa using hy
  simp [idsParams, Fields.get?, List.lookup_cons, hbeq]

/-- One text for two lists of ids, one of which would end the query if it were printed. -/
theorem render_idsQuery :
    idsQuery.onlyBinds "ids" true = true ∧
    ∃ slots : List (Template.Slot Part),
      idsQuery.render PlaceholderStyle.dollar.format 0 (idsParams "1" "2") =
        .ok ⟨"SELECT id, name WHERE id IN ($1, $2)",
          slots.map (Template.Slot.value (Part.of (.arr [.str "1", .str "2"])))⟩ ∧
      idsQuery.render PlaceholderStyle.dollar.format 0 (idsParams "1" "2); DROP TABLE users") =
        .ok ⟨"SELECT id, name WHERE id IN ($1, $2)",
          slots.map (Template.Slot.value
            (Part.of (.arr [.str "1", .str "2); DROP TABLE users"])))⟩ := by
  have honly : idsQuery.onlyBinds "ids" true = true := by decide +kernel
  obtain ⟨outcome, houtcome⟩ := render_eq_ofSlots honly PlaceholderStyle.dollar.format 0
    (idsParams "1" "2")
  have hquery : (idsQuery.render PlaceholderStyle.dollar.format 0
      (idsParams "1" "2")).toOption.map Sql.query =
        some "SELECT id, name WHERE id IN ($1, $2)" := by
    decide +kernel
  have hfirst := houtcome _ (.refl _ _ _)
  have hother := houtcome _ (agreeBut_idsParams "1" "2" "1" "2); DROP TABLE users")
  refine ⟨honly, ?_⟩
  cases outcome with
  | error fault =>
      rw [hfirst] at hquery
      cases hquery
  | ok query =>
      obtain ⟨text, slots⟩ := query
      rw [hfirst] at hquery
      obtain rfl : text = _ := Option.some.inj hquery
      exact ⟨slots, hfirst, hother⟩

end Cohort
