import Cohort.Proofs.Template.BlockScope
import Cohort.Proofs.Template.Faults
import Cohort.Proofs.Template.Source.Checked

/-! # Templates that are read do not miss names

A template that was read calls no function that there is not, and declares no variable that its
evaluation drops: where a variable is used behind its declaration, it is found.
-/

namespace Cohort.Template

/-! ## Computations that end as expected -/

/-- Whatever was bound, a computation gives a result as asked, or fails as expected. -/
def Ends {α : Type} (bound : Prop) (Q : α → Prop) (m : Render α) : Prop :=
  ∀ args, match (StateT.run (ExceptT.run m) args).1 with
    | .ok a => Q a
    | .error fault => fault.IsExpected bound

section

variable {α β : Type} {bound : Prop} {Q R : α → Prop} {m : Render α}

theorem Ends.pure {a : α} (h : Q a) : Ends bound Q (pure a) := fun _ => h

theorem Ends.throw {fault : ExecFault} (h : fault.IsExpected bound) :
    Ends bound Q (throw fault : Render α) := fun _ => h

theorem Ends.lift {outcome : Except ExecFault α} (h : Regular outcome) :
    Ends bound (fun _ => True) (lift outcome) := by
  cases outcome with
  | ok a => exact .pure trivial
  | error fault => exact .throw (h fault rfl).mono

theorem Ends.bind {S : β → Prop} {next : α → Render β} (h : Ends bound Q m)
    (hnext : ∀ a, Q a → Ends bound S (next a)) : Ends bound S (m >>= next) := by
  intro args
  have hm := h args
  rw [run_bind]
  generalize StateT.run (ExceptT.run m) args = outcome at hm ⊢
  obtain ⟨fault | a, args'⟩ := outcome
  · exact hm
  · exact hnext _ hm args'

theorem Ends.mono (h : Ends bound Q m) (hQ : ∀ a, Q a → R a) : Ends bound R m := by
  intro args
  have hm := h args
  generalize StateT.run (ExceptT.run m) args = outcome at hm ⊢
  obtain ⟨fault | a, args'⟩ := outcome
  · exact hm
  · exact hQ _ hm

theorem Ends.mapM {f : β → Render α} (h : ∀ b, Ends bound (fun _ => True) (f b)) (bs : List β) :
    Ends bound (fun _ => True) (bs.mapM f) := by
  induction bs with
  | nil => exact .pure trivial
  | cons b bs ih =>
      rw [List.mapM_cons]
      exact (h b).bind fun _ _ => ih.bind fun _ _ => .pure trivial

end

section

variable (f : Placeholder) (k : Nat) {bound : Prop}

theorem ends_bind (v : Value) : Ends bound (fun _ => True) (bind f k v) := fun _ => trivial

theorem ends_bindEach (v : Value) : Ends bound (fun _ => True) (bindEach f k v) := by
  unfold bindEach
  split
  · exact .pure trivial
  · exact (Ends.mapM (ends_bind f k) _).bind fun _ _ => .pure trivial
  · exact ends_bind f k v

theorem ends_call (b : Binder) (args : List Value) :
    Ends bound (fun _ => True) (b.call f k args) := by
  unfold Binder.call
  split
  · cases b with
    | one => exact (ends_bind f k _).bind fun _ _ => .pure trivial
    | each => exact (ends_bindEach f k _).bind fun _ _ => .pure trivial
  · exact .throw trivial

theorem ends_callFunction {name : String} (h : isDefined name = true) (args : List Value) :
    Ends bound (fun _ => True) (callFunction f k name args) := by
  rw [isDefined, Bool.or_eq_true] at h
  rw [callFunction]
  cases hbinder : Binder.ofName? name with
  | some b => exact ends_call f k b args
  | none =>
      rw [hbinder] at h
      obtain ⟨function, hfunction⟩ :=
        Option.isSome_iff_exists.mp (h.resolve_left Bool.false_ne_true)
      have hcall : call name args = function.apply args := by rw [call, hfunction]
      rw [hcall]
      exact .lift (regular_apply args function)

end

/-! ## Variables in scope -/

/-- The names of the variables in scope. -/
def Scope.names (scope : Scope) : List String := scope.map Prod.fst

/-- The scope behind the head of a place: what the evaluation of a group, an action, a condition, a
scope or a range makes of the variables that are declared there. -/
def Place.declare (place : Place) (scope : Scope) (decls : List String) (key value : Value) :
    Scope :=
  match place with
  | .group => scope
  | .value => Template.declare scope decls value
  | .items => declareItem scope decls key value

/-- All variables are set that may be declared in a place. -/
theorem Place.names_declare {place : Place} {decls : List String}
    (h : decls.length ≤ place.limit) (scope : Scope) (key value : Value) :
    (place.declare scope decls key value).names = decls.reverse ++ scope.names := by
  cases place with
  | group =>
      obtain rfl := List.eq_nil_of_length_eq_zero (Nat.le_zero.mp h)
      rfl
  | value =>
      match decls, h with
      | [], _ | [_], _ => rfl
      | _ :: _ :: _, h => simp [limit] at h
  | items =>
      match decls, h with
      | [], _ | [_], _ | [_, _], _ => rfl
      | _ :: _ :: _ :: _, h => simp [limit] at h

theorem isSome_lookup {scope : Scope} {name : String} (h : name ∈ scope.names) :
    (scope.lookup name).isSome = true := by
  induction scope with
  | nil => cases h
  | cons entry scope ih =>
      rw [List.lookup_cons]
      cases hname : name == entry.1 with
      | true => rfl
      | false =>
          have hne : name ≠ entry.1 := by simpa using hname
          exact ih ((List.mem_cons.mp h).resolve_left hne)

mutual

/-- The variables of an operand are among those given. -/
def Operand.isBound (vars : List String) : Operand → Bool
  | .variable name _ => vars.contains name
  | .group p _ => p.isBound vars
  | .field _ | .literal _ => true

/-- The variables of some operands are among those given. -/
def Operand.allBound (vars : List String) : List Operand → Bool
  | [] => true
  | o :: rest => o.isBound vars && Operand.allBound vars rest

/-- The variables of a command are among those given. -/
def Command.isBound (vars : List String) : Command → Bool
  | .call _ args => Operand.allBound vars args
  | .operand o => o.isBound vars

/-- The variables of some commands are among those given. -/
def Command.allBound (vars : List String) : List Command → Bool
  | [] => true
  | c :: rest => c.isBound vars && Command.allBound vars rest

/-- The variables that a pipeline uses are among those given. -/
def Pipeline.isBound (vars : List String) : Pipeline → Bool
  | .mk _ commands => Command.allBound vars commands

end

/-- The variables that some conditions declare. -/
def Node.branchDecls (conditions : List (Pipeline × List Node)) : List String :=
  conditions.flatMap fun condition => condition.1.decls

/-- The variables that a node declares for those behind it. -/
def Node.decls : Node → List String
  | .action p => p.decls
  | .text _ | .branches _ _ | .range _ _ _ | .scope _ _ _ => []

mutual

/-- Each variable of a node is declared before it is used: before the node, or by an action in front
of it in the same list of nodes, or at the head of a block around it. -/
def Node.isBound (vars : List String) : Node → Bool
  | .text _ => true
  | .action p => p.isBound vars
  | .branches conditions otherwise =>
    Node.branchesBound vars conditions &&
      Node.otherwiseBound (Node.branchDecls conditions ++ vars) otherwise
  | .range p body otherwise =>
    p.isBound vars && Node.allBound (p.decls ++ vars) body && Node.otherwiseBound vars otherwise
  | .scope p body otherwise =>
    p.isBound vars && Node.allBound (p.decls ++ vars) body &&
      Node.otherwiseBound (p.decls ++ vars) otherwise

/-- Each variable of some nodes is declared before it is used. -/
def Node.allBound (vars : List String) : List Node → Bool
  | [] => true
  | n :: rest => n.isBound vars && Node.allBound (n.decls ++ vars) rest

/-- Each variable of the last part of a block is declared before it is used. -/
def Node.otherwiseBound (vars : List String) : Option (List Node) → Bool
  | none => true
  | some nodes => Node.allBound vars nodes

/-- Each variable of some branches is declared before it is used. -/
def Node.branchesBound (vars : List String) : List (Pipeline × List Node) → Bool
  | [] => true
  | (p, body) :: rest =>
    p.isBound vars && Node.allBound (p.decls ++ vars) body &&
      Node.branchesBound (p.decls ++ vars) rest

end

/-! ## Pipelines -/

section

variable (f : Placeholder) (k : Nat) {bound : Prop} {vars : List String} {scope : Scope}

mutual

theorem ends_evalOperand (hscope : bound → vars ⊆ scope.names) (dot : Value) : ∀ {o : Operand},
    AllSound o.elements → (bound → o.isBound vars = true) →
      Ends bound (fun _ => True) (evalOperand f k scope dot o)
  | .field path, _, _ => by
      rw [evalOperand]
      exact .lift (regular_follow dot path)
  | .literal v, _, _ => by
      rw [evalOperand]
      exact .pure trivial
  | .variable name path, _, ho => by
      rw [evalOperand]
      cases hlookup : scope.lookup name with
      | some v => exact .lift (regular_follow v path)
      | none =>
          refine .throw fun hbound => ?_
          have hname : name ∈ vars := by simpa [Operand.isBound] using ho hbound
          have hsome := isSome_lookup (hscope hbound hname)
          rw [hlookup] at hsome
          cases hsome
  | .group p path, hsound, ho => by
      rw [evalOperand]
      exact (ends_evalPipeline hscope dot hsound ho).bind fun v _ => .lift (regular_follow v path)

theorem ends_evalOperands (hscope : bound → vars ⊆ scope.names) (dot : Value) :
    ∀ {os : List Operand}, AllSound (Operand.allElements os) →
      (bound → Operand.allBound vars os = true) →
        Ends bound (fun _ => True) (evalOperands f k scope dot os)
  | [], _, _ => by
      rw [evalOperands]
      exact .pure trivial
  | o :: os, hsound, hos => by
      have hsound := allSound_append.mp hsound
      have ho : bound → o.isBound vars = true ∧ Operand.allBound vars os = true :=
        fun hbound => Bool.and_eq_true_iff.mp (hos hbound)
      rw [evalOperands]
      exact (ends_evalOperand hscope dot hsound.1 fun hbound => (ho hbound).1).bind fun _ _ =>
        (ends_evalOperands hscope dot hsound.2 fun hbound => (ho hbound).2).bind fun _ _ =>
          .pure trivial

theorem ends_evalCommand (hscope : bound → vars ⊆ scope.names) (dot : Value)
    (piped : Option Value) : ∀ {c : Command}, AllSound c.elements → c.isKnown = true →
      (bound → c.isBound vars = true) →
        Ends bound (fun _ => True) (evalCommand f k scope dot piped c)
  | .operand o, hsound, _, hc => by
      rw [evalCommand]
      exact ends_evalOperand hscope dot hsound hc
  | .call name args, hsound, hname, hc => by
      rw [evalCommand]
      exact (ends_evalOperands hscope dot hsound hc).bind fun _ _ => ends_callFunction f k hname _

theorem ends_evalCommands (hscope : bound → vars ⊆ scope.names) (dot : Value)
    (piped : Option Value) : ∀ {cs : List Command}, AllSound (Command.allElements cs) →
      (∀ c ∈ cs, c.isKnown = true) → (bound → Command.allBound vars cs = true) →
        Ends bound (fun _ => True) (evalCommands f k scope dot piped cs)
  | [], _, _, _ => by
      rw [evalCommands]
      exact .pure trivial
  | c :: cs, hsound, hknown, hcs => by
      have hsound := allSound_append.mp hsound
      have hknown := List.forall_mem_cons.mp hknown
      have hc : bound → c.isBound vars = true ∧ Command.allBound vars cs = true :=
        fun hbound => Bool.and_eq_true_iff.mp (hcs hbound)
      rw [evalCommands]
      exact (ends_evalCommand hscope dot piped hsound.1 hknown.1 fun hbound =>
        (hc hbound).1).bind fun v _ =>
          ends_evalCommands hscope dot (some v) hsound.2 hknown.2 fun hbound => (hc hbound).2

theorem ends_evalPipeline (hscope : bound → vars ⊆ scope.names) (dot : Value) {place : Place} :
    ∀ {p : Pipeline}, AllSound (p.elementsAt place) → (bound → p.isBound vars = true) →
      Ends bound (fun _ => True) (evalPipeline f k scope dot p)
  | .mk decls commands, hsound, hp => by
      obtain ⟨hpipeline, hsound⟩ := allSound_cons.mp hsound
      rw [evalPipeline]
      exact ends_evalCommands hscope dot none hsound hpipeline.known hp

end

end

/-! ## Nodes -/

section

variable (f : Placeholder) (k : Nat) {bound : Prop}

theorem subset_names_declare {place : Place} {p : Pipeline} (hp : p.IsSound place)
    {vars : List String} {scope : Scope} (hscope : bound → vars ⊆ scope.names)
    (key value : Value) :
    bound → p.decls ++ vars ⊆ (place.declare scope p.decls key value).names := by
  intro hbound name hname
  rw [Place.names_declare hp.decls, List.mem_append, List.mem_reverse]
  exact (List.mem_append.mp hname).imp_right fun h => hscope hbound h

mutual

theorem ends_evalNode : ∀ {n : Node} {vars : List String} {scope : Scope} (dot : Value),
    AllSound n.elements → (bound → n.isBound vars = true) → (bound → vars ⊆ scope.names) →
      Ends bound (fun r => bound → n.decls ++ vars ⊆ r.1.names) (evalNode f k scope dot n)
  | .text s, _, _, _, _, _, hscope => by
      rw [evalNode]
      exact .pure hscope
  | .action p, vars, scope, dot, hsound, hn, hscope => by
      have hp := allSound_action.mp hsound
      have hdeclared := subset_names_declare (allSound_cons.mp hp).1 hscope .null
      rw [evalNode]
      refine (ends_evalPipeline f k hscope dot hp hn).bind fun v _ => ?_
      split
      · rename_i hempty
        refine .pure fun hbound => ?_
        rw [Node.decls, List.isEmpty_iff.mp hempty]
        exact hscope hbound
      · exact .pure (hdeclared v)
  | .branches conditions otherwise, vars, scope, dot, hsound, hn, hscope => by
      obtain ⟨-, hconditions, hlast⟩ := allSound_branches.mp hsound
      have hn : bound → _ ∧ _ := fun hbound => Bool.and_eq_true_iff.mp (hn hbound)
      rw [evalNode]
      refine (ends_evalBranches dot hconditions (fun hbound => (hn hbound).1) hscope).bind ?_
      rintro ⟨inner, taken⟩ hinner
      cases taken with
      | some s => exact .pure hscope
      | none =>
          exact (ends_evalOtherwise dot hlast (fun hbound => (hn hbound).2)
            (hinner rfl)).bind fun _ _ => .pure hscope
  | .range p body otherwise, vars, scope, dot, hsound, hn, hscope => by
      obtain ⟨hp, hbody, hlast⟩ := allSound_range.mp hsound
      have hdeclared := subset_names_declare (allSound_cons.mp hp).1 hscope
      simp only [Node.isBound, Bool.and_eq_true] at hn
      rw [evalNode]
      refine (ends_evalPipeline f k hscope dot hp fun hbound => (hn hbound).1.1).bind fun v _ => ?_
      refine (Ends.lift (regular_items v)).bind fun entries _ => ?_
      cases entries with
      | nil =>
          -- The variables of a range without items are not set, and not in reach of its last part.
          exact ends_evalOtherwise dot hlast (fun hbound => (hn hbound).2) hscope
      | cons entry entries =>
          refine Ends.bind (Ends.mapM (fun (key, item) => ?_) _) fun _ _ => .pure hscope
          exact (ends_evalNodes item hbody (fun hbound => (hn hbound).1.2)
            (hdeclared key item)).bind fun _ _ => .pure trivial
  | .scope p body otherwise, vars, scope, dot, hsound, hn, hscope => by
      obtain ⟨hp, hbody, hlast⟩ := allSound_scope.mp hsound
      have hdeclared := subset_names_declare (allSound_cons.mp hp).1 hscope .null
      simp only [Node.isBound, Bool.and_eq_true] at hn
      rw [evalNode]
      refine (ends_evalPipeline f k hscope dot hp fun hbound => (hn hbound).1.1).bind fun v _ => ?_
      dsimp only
      split
      · exact (ends_evalNodes v hbody (fun hbound => (hn hbound).1.2)
          (hdeclared v)).bind fun _ _ => .pure hscope
      · exact (ends_evalOtherwise dot hlast (fun hbound => (hn hbound).2)
          (hdeclared v)).bind fun _ _ => .pure hscope

theorem ends_evalNodes : ∀ {nodes : List Node} {vars : List String} {scope : Scope} (dot : Value),
    AllSound (Node.allElements nodes) → (bound → Node.allBound vars nodes = true) →
      (bound → vars ⊆ scope.names) →
        Ends bound (fun r => bound → vars ⊆ r.1.names) (evalNodes f k scope dot nodes)
  | [], _, _, _, _, _, hscope => by
      rw [evalNodes]
      exact .pure hscope
  | n :: nodes, vars, scope, dot, hsound, hnodes, hscope => by
      have hsound := allSound_append.mp hsound
      have hnodes : bound → _ ∧ _ := fun hbound => Bool.and_eq_true_iff.mp (hnodes hbound)
      rw [evalNodes]
      refine (ends_evalNode dot hsound.1 (fun hbound => (hnodes hbound).1) hscope).bind ?_
      rintro ⟨inner, s⟩ hinner
      refine (ends_evalNodes dot hsound.2 (fun hbound => (hnodes hbound).2) hinner).bind ?_
      rintro ⟨last, t⟩ hlast
      exact .pure fun hbound => (List.append_subset.mp (hlast hbound)).2

theorem ends_evalOtherwise : ∀ {otherwise : Option (List Node)} {vars : List String}
    {scope : Scope} (dot : Value), AllSound (Node.otherwiseElements otherwise) →
      (bound → Node.otherwiseBound vars otherwise = true) → (bound → vars ⊆ scope.names) →
        Ends bound (fun r => bound → vars ⊆ r.1.names) (evalOtherwise f k scope dot otherwise)
  | none, _, _, _, _, _, hscope => by
      rw [evalOtherwise]
      exact .pure hscope
  | some nodes, _, _, dot, hsound, hnodes, hscope => by
      rw [evalOtherwise]
      exact ends_evalNodes dot hsound hnodes hscope

theorem ends_evalBranches : ∀ {conditions : List (Pipeline × List Node)} {vars : List String}
    {scope : Scope} (dot : Value), AllSound (Node.branchElements conditions) →
      (bound → Node.branchesBound vars conditions = true) → (bound → vars ⊆ scope.names) →
        Ends bound (fun r => r.2 = none → bound →
          Node.branchDecls conditions ++ vars ⊆ r.1.names) (evalBranches f k scope dot conditions)
  | [], _, _, _, _, _, hscope => by
      rw [evalBranches]
      exact .pure fun _ => hscope
  | (p, body) :: conditions, vars, scope, dot, hsound, hconditions, hscope => by
      obtain ⟨hp, hmore⟩ := allSound_append.mp hsound
      have hmore := allSound_append.mp hmore
      have hdeclared := subset_names_declare (allSound_cons.mp hp).1 hscope .null
      simp only [Node.branchesBound, Bool.and_eq_true] at hconditions
      rw [evalBranches]
      refine (ends_evalPipeline f k hscope dot hp fun hbound =>
        (hconditions hbound).1.1).bind fun v _ => ?_
      dsimp only
      split
      · exact (ends_evalNodes dot hmore.1 (fun hbound => (hconditions hbound).1.2)
          (hdeclared v)).bind fun _ _ => .pure fun htaken => by cases htaken
      · -- The variable of a condition that fails stays in reach of the conditions behind it.
        refine (ends_evalBranches dot hmore.2 (fun hbound => (hconditions hbound).2)
          (hdeclared v)).mono fun r hr htaken hbound name hname => hr htaken hbound ?_
        simp only [Node.branchDecls, List.flatMap_cons, List.mem_append] at hname ⊢
        tauto

end

end

/-! ## Main result -/

/-- In a tree that was read everything is as asked: each function is known, each pipeline has
commands and only its first may be an operand, no more variables are declared than the place allows,
branches have conditions, and no text is empty. So all variables are set that are declared, and no
run fails for an unknown function, or for a variable that is used behind its declaration. -/
theorem safe_of_parse {source : String} {nodes : List Node} (h : parse source = .ok nodes) :
    AllSound (Node.allElements nodes) ∧
    (∀ place p, .pipeline place p ∈ Node.allElements nodes → ∀ scope key value,
      (place.declare scope p.decls key value).names = p.decls.reverse ++ scope.names) ∧
    ∀ f k data args fault, ((Template.mk nodes).run f k data args).1 = .error fault →
      (∀ name, fault ≠ .undefinedFunction name) ∧
        (Node.allBound ["$"] nodes = true → ∀ name, fault ≠ .undefinedVariable name) := by
  have hsound := sound_of_parse h
  refine ⟨hsound, fun place p hp scope key value => ?_, fun f k data args fault hfault => ?_⟩
  · exact Place.names_declare (hsound _ hp).decls scope key value
  · have hends : Ends (Node.allBound ["$"] nodes = true) (fun _ => True)
        (execute f k nodes data) :=
      (ends_evalNodes f k data hsound id fun _ => List.Subset.refl _).bind fun _ _ => .pure trivial
    have hexpected := hends args
    rw [Template.run] at hfault
    rw [hfault] at hexpected
    constructor
    · rintro name rfl
      exact hexpected
    · rintro hbound name rfl
      exact hexpected hbound

/-- A source with blocks, groups and variables in all places. -/
def rowsSource : String :=
  "\x7b\x7b range $i, $row := .rows \x7d\x7d\x7b\x7b if $n := len $row \x7d\x7d" ++
    "\x7b\x7b arg (index $row 0) \x7d\x7d\x7b\x7b else if $i | print | eq (print (len .)) \x7d\x7d" ++
    "\x7b\x7b $n \x7d\x7d\x7b\x7b end \x7d\x7d\x7b\x7b else \x7d\x7dnone\x7b\x7b end \x7d\x7d"

theorem safe_rowsSource :
    ∃ nodes, parse rowsSource = .ok nodes ∧ Node.source nodes = rowsSource ∧
      AllSound (Node.allElements nodes) ∧ ∀ f k data args name,
        ((Template.mk nodes).run f k data args).1 ≠ .error (.undefinedFunction name) ∧
          ((Template.mk nodes).run f k data args).1 ≠ .error (.undefinedVariable name) := by
  have hread : (parse rowsSource).toOption.map
      (fun nodes => (Node.source nodes, Node.allBound ["$"] nodes)) = some (rowsSource, true) := by
    decide +kernel
  cases hparse : parse rowsSource with
  | error fault =>
      rw [hparse] at hread
      cases hread
  | ok nodes =>
      rw [hparse] at hread
      obtain ⟨hsource, hbound⟩ := Prod.mk.inj (Option.some.inj hread)
      obtain ⟨hsound, -, hsafe⟩ := safe_of_parse hparse
      refine ⟨nodes, rfl, hsource, hsound, fun f k data args name =>
        ⟨fun hfault => ?_, fun hfault => ?_⟩⟩
      · exact (hsafe f k data args _ hfault).1 name rfl
      · exact (hsafe f k data args _ hfault).2 hbound name rfl

end Cohort.Template
