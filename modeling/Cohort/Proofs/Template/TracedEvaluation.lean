import Cohort.Proofs.Template.Traced

/-! # Evaluation follows traces

Pipelines on known data always do. Nodes do if their pipelines do, also where the data and the
variables declared first vary.
-/

namespace Cohort.Template

variable {ι κ : Type} {setting : ι → Setting κ}

/-! ## Pipelines on known data -/

theorem traced_callFunction (name : String) (args : List Value) :
    Traced setting same fun i =>
      callFunction (setting i).placeholder (setting i).offset name args := by
  unfold callFunction
  split
  · exact traced_call _ args
  · exact .lift _

section

variable (scope : Scope) (dot : Value)

mutual

theorem traced_evalOperand : ∀ o : Operand, Traced setting same fun i =>
    evalOperand (setting i).placeholder (setting i).offset scope dot o
  | .field path => by
      simp only [evalOperand]
      exact .lift _
  | .literal v => by
      simp only [evalOperand]
      exact .pure v
  | .variable name path => by
      simp only [evalOperand]
      split
      · exact .lift _
      · exact .throw _
  | .group p path => by
      simp only [evalOperand]
      exact (traced_evalPipeline p).bind fun v => .lift (follow v path)

theorem traced_evalOperands : ∀ os : List Operand, Traced setting same fun i =>
    evalOperands (setting i).placeholder (setting i).offset scope dot os
  | [] => by
      simp only [evalOperands]
      exact .pure []
  | o :: rest => by
      simp only [evalOperands]
      refine (traced_evalOperand o).bind fun v => ?_
      exact (traced_evalOperands rest).bind fun vs => .pure (v :: vs)

theorem traced_evalCommand (piped : Option Value) : ∀ c : Command, Traced setting same fun i =>
    evalCommand (setting i).placeholder (setting i).offset scope dot piped c
  | .operand o => by
      simp only [evalCommand]
      exact traced_evalOperand o
  | .call name args => by
      simp only [evalCommand]
      exact (traced_evalOperands args).bind fun vs => traced_callFunction name (vs ++ piped.toList)

theorem traced_evalCommands (piped : Option Value) : ∀ cs : List Command,
    Traced setting same fun i =>
      evalCommands (setting i).placeholder (setting i).offset scope dot piped cs
  | [] => by
      simp only [evalCommands]
      exact .pure _
  | c :: rest => by
      simp only [evalCommands]
      exact (traced_evalCommand piped c).bind fun v => traced_evalCommands (some v) rest

theorem traced_evalPipeline : ∀ p : Pipeline, Traced setting same fun i =>
    evalPipeline (setting i).placeholder (setting i).offset scope dot p
  | .mk decls commands => by
      simp only [evalPipeline]
      exact traced_evalCommands none commands

end

end

/-! ## Pipelines of a tree -/

section

variable (action head : Bool → Pipeline → Bool)

mutual

/-- Every pipeline of a node passes: `action` tells of those that are printed or declare, `head` of
those that open a block or a branch. Both are told whether the pipeline is in the body of a range or
a scope, where the dot is no longer the data. -/
def Node.every (inside : Bool) : Node → Bool
  | .text _ => true
  | .action p => action inside p
  | .branches conditions otherwise =>
    Node.everyBranch inside conditions && Node.everyOtherwise inside otherwise
  | .range p body otherwise | .scope p body otherwise =>
    head inside p && Node.everyOf true body && Node.everyOtherwise inside otherwise

/-- Every pipeline of some nodes passes. -/
def Node.everyOf (inside : Bool) : List Node → Bool
  | [] => true
  | n :: rest => n.every inside && Node.everyOf inside rest

/-- Every pipeline of the last part of a block passes. -/
def Node.everyOtherwise (inside : Bool) : Option (List Node) → Bool
  | none => true
  | some nodes => Node.everyOf inside nodes

/-- Every pipeline of some branches passes. -/
def Node.everyBranch (inside : Bool) : List (Pipeline × List Node) → Bool
  | [] => true
  | (p, body) :: rest =>
    head inside p && Node.everyOf inside body && Node.everyBranch inside rest

end

end

section

variable {action head : Bool → Pipeline → Bool}

mutual

theorem Node.every_of_forall (haction : ∀ inside p, action inside p = true)
    (hhead : ∀ inside p, head inside p = true) (inside : Bool) :
    ∀ n : Node, n.every action head inside = true
  | .text _ => by simp only [every]
  | .action p => by simp only [every, haction]
  | .branches conditions otherwise => by
      simp only [every, everyBranch_of_forall haction hhead inside conditions,
        everyOtherwise_of_forall haction hhead inside otherwise, Bool.and_self]
  | .range p body otherwise | .scope p body otherwise => by
      simp only [every, hhead, everyOf_of_forall haction hhead true body,
        everyOtherwise_of_forall haction hhead inside otherwise, Bool.and_self]

theorem Node.everyOf_of_forall (haction : ∀ inside p, action inside p = true)
    (hhead : ∀ inside p, head inside p = true) (inside : Bool) :
    ∀ nodes : List Node, Node.everyOf action head inside nodes = true
  | [] => by simp only [everyOf]
  | n :: rest => by
      simp only [everyOf, every_of_forall haction hhead inside n,
        everyOf_of_forall haction hhead inside rest, Bool.and_self]

theorem Node.everyOtherwise_of_forall (haction : ∀ inside p, action inside p = true)
    (hhead : ∀ inside p, head inside p = true) (inside : Bool) :
    ∀ otherwise : Option (List Node), Node.everyOtherwise action head inside otherwise = true
  | none => by simp only [everyOtherwise]
  | some nodes => by
      simp only [everyOtherwise, everyOf_of_forall haction hhead inside nodes]

theorem Node.everyBranch_of_forall (haction : ∀ inside p, action inside p = true)
    (hhead : ∀ inside p, head inside p = true) (inside : Bool) :
    ∀ conditions : List (Pipeline × List Node),
      Node.everyBranch action head inside conditions = true
  | [] => by simp only [everyBranch]
  | (p, body) :: rest => by
      simp only [everyBranch, hhead, everyOf_of_forall haction hhead inside body,
        everyBranch_of_forall haction hhead inside rest, Bool.and_self]

end

end

/-! ## Nodes -/

theorem declare_append (inner base : Scope) (decls : List String) (v : Value) :
    declare (inner ++ base) decls v = declare inner decls v ++ base := by
  cases decls <;> rfl

theorem declareItem_append (inner base : Scope) (decls : List String) (key item : Value) :
    declareItem (inner ++ base) decls key item = declareItem inner decls key item ++ base := by
  match decls with
  | [] | [_] | [_, _] | _ :: _ :: _ :: _ => rfl

/-- The variables declared last and a result, in front of variables that vary. -/
def above {β : Type} (base : ι → Scope) (i : ι) (x : Scope × β) : Scope × β :=
  (x.1 ++ base i, x.2)

section

variable {action head : Bool → Pipeline → Bool} {base : ι → Scope} {root : ι → Value}

/-- Pipelines that pass follow traces, behind any variables declared last. The dot is known, or it
is the data of the template, which varies. -/
structure Follows (setting : ι → Setting κ) (base : ι → Scope) (root : ι → Value)
    (action head : Bool → Pipeline → Bool) : Prop where
  action : ∀ (inner : Scope) (dot : Option Value) (p : Pipeline), action dot.isSome p = true →
    Traced setting same fun i => evalPipeline (setting i).placeholder (setting i).offset
      (inner ++ base i) (dot.getD (root i)) p
  head : ∀ (inner : Scope) (dot : Option Value) (p : Pipeline), head dot.isSome p = true →
    Traced setting same fun i => evalPipeline (setting i).placeholder (setting i).offset
      (inner ++ base i) (dot.getD (root i)) p

mutual

theorem traced_evalNode (hp : Follows setting base root action head)
    (inner : Scope) (dot : Option Value) : ∀ {n : Node},
    n.every action head dot.isSome = true → Traced setting (above base) fun i =>
      evalNode (setting i).placeholder (setting i).offset (inner ++ base i) (dot.getD (root i)) n
  | .text s, _ => by
      simp only [evalNode]
      exact .pure (inner, s)
  | .action p, h => by
      simp only [Node.every] at h
      simp only [evalNode]
      refine (hp.action inner dot p h).bind fun v => ?_
      split
      · exact .pure (inner, v.toText)
      · simp only [declare_append]
        exact .pure (declare inner p.decls v, "")
  | .branches conditions otherwise, h => by
      simp only [Node.every, Bool.and_eq_true] at h
      simp only [evalNode]
      refine (traced_evalBranches hp inner dot h.1).bind fun branch => ?_
      obtain ⟨inner', _ | s⟩ := branch
      · refine (traced_evalOtherwise hp inner' dot h.2).bind fun last => ?_
        exact .pure (inner, last.2)
      · exact .pure (inner, s)
  | .range p body otherwise, h => by
      simp only [Node.every, Bool.and_eq_true] at h
      simp only [evalNode]
      refine (hp.head inner dot p h.1.1).bind fun v => ?_
      refine (Traced.lift (items v)).bind fun entries => ?_
      cases entries with
      | nil => exact traced_evalOtherwise hp inner dot h.2
      | cons entry entries =>
          have hentry : ∀ entry : Value × Value, Traced setting same fun i => do
              let (_, s) ← evalNodes (setting i).placeholder (setting i).offset
                (declareItem (inner ++ base i) p.decls entry.1 entry.2) entry.2 body
              return s := by
            intro entry
            simp only [declareItem_append]
            have hbody := traced_evalNodes hp (declareItem inner p.decls entry.1 entry.2)
              (some entry.2) h.1.2
            exact hbody.bind fun printed => .pure printed.2
          exact (Traced.mapM hentry (entry :: entries)).bind fun texts =>
            .pure (inner, String.join texts)
  | .scope p body otherwise, h => by
      simp only [Node.every, Bool.and_eq_true] at h
      simp only [evalNode]
      refine (hp.head inner dot p h.1.1).bind fun v => ?_
      simp only [same, declare_append]
      split
      · have hbody := traced_evalNodes hp (declare inner p.decls v) (some v) h.1.2
        exact hbody.bind fun printed => .pure (inner, printed.2)
      · have hlast := traced_evalOtherwise hp (declare inner p.decls v) dot h.2
        exact hlast.bind fun last => .pure (inner, last.2)

theorem traced_evalNodes (hp : Follows setting base root action head)
    (inner : Scope) (dot : Option Value) : ∀ {nodes : List Node},
    Node.everyOf action head dot.isSome nodes = true → Traced setting (above base) fun i =>
      evalNodes (setting i).placeholder (setting i).offset (inner ++ base i) (dot.getD (root i))
        nodes
  | [], _ => by
      simp only [evalNodes]
      exact .pure (inner, "")
  | n :: rest, h => by
      simp only [Node.everyOf, Bool.and_eq_true] at h
      simp only [evalNodes]
      refine (traced_evalNode hp inner dot h.1).bind fun printed => ?_
      refine (traced_evalNodes hp printed.1 dot h.2).bind fun behind => ?_
      exact .pure (behind.1, printed.2 ++ behind.2)

theorem traced_evalOtherwise (hp : Follows setting base root action head)
    (inner : Scope) (dot : Option Value) :
    ∀ {otherwise : Option (List Node)},
      Node.everyOtherwise action head dot.isSome otherwise = true →
        Traced setting (above base) fun i =>
          evalOtherwise (setting i).placeholder (setting i).offset (inner ++ base i)
            (dot.getD (root i)) otherwise
  | none, _ => by
      simp only [evalOtherwise]
      exact .pure (inner, "")
  | some nodes, h => by
      simp only [Node.everyOtherwise] at h
      simp only [evalOtherwise]
      exact traced_evalNodes hp inner dot h

theorem traced_evalBranches (hp : Follows setting base root action head)
    (inner : Scope) (dot : Option Value) :
    ∀ {conditions : List (Pipeline × List Node)},
      Node.everyBranch action head dot.isSome conditions = true →
        Traced setting (above base) fun i =>
          evalBranches (setting i).placeholder (setting i).offset (inner ++ base i)
            (dot.getD (root i)) conditions
  | [], _ => by
      simp only [evalBranches]
      exact .pure (inner, none)
  | (p, body) :: rest, h => by
      simp only [Node.everyBranch, Bool.and_eq_true] at h
      simp only [evalBranches]
      refine (hp.head inner dot p h.1.1).bind fun v => ?_
      simp only [same, declare_append]
      split
      · have hbody := traced_evalNodes hp (declare inner p.decls v) dot h.1.2
        exact hbody.bind fun printed => .pure (declare inner p.decls v, some printed.2)
      · exact traced_evalBranches hp (declare inner p.decls v) dot h.2

end

theorem Follows.execute {data : ι → Value} {nodes : List Node}
    (hp : Follows setting (fun i => [("$", data i)]) data action head)
    (h : Node.everyOf action head false nodes = true) :
    Traced setting same fun i =>
      execute (setting i).placeholder (setting i).offset nodes (data i) := by
  have hnodes := traced_evalNodes hp [] none h
  simp only [Template.execute]
  exact hnodes.bind fun printed => .pure printed.2

end

end Cohort.Template
