import Cohort.Proofs.Template.Prints

/-! # Templates that print what they bind -/

namespace Cohort.Template

/-! ## Pipelines -/

mutual

/-- No binding function is called in an operand. -/
def Operand.isBindFree : Operand → Bool
  | .field _ | .variable _ _ | .literal _ => true
  | .group p _ => p.isBindFree

/-- No binding function is called in operands. -/
def Operand.allBindFree : List Operand → Bool
  | [] => true
  | o :: rest => o.isBindFree && Operand.allBindFree rest

/-- A command is no call of a binding function, and none is called in its operands. -/
def Command.isBindFree : Command → Bool
  | .call name args => (Binder.ofName? name).isNone && Operand.allBindFree args
  | .operand o => o.isBindFree

/-- No binding function is called in commands. -/
def Command.allBindFree : List Command → Bool
  | [] => true
  | c :: rest => c.isBindFree && Command.allBindFree rest

/-- No binding function is called in a pipeline. -/
def Pipeline.isBindFree : Pipeline → Bool
  | .mk _ commands => Command.allBindFree commands

end

/-- Only the last of some commands may be a call of a binding function. -/
def Command.bindLast : List Command → Bool
  | [] => true
  | [.call _ args] => Operand.allBindFree args
  | c :: rest => c.isBindFree && bindLast rest

/-- The result of a pipeline is printed where it is bound: a pipeline without declarations may bind
in its last command, and others nowhere. -/
def Pipeline.isPrintLinear : Pipeline → Bool
  | .mk [] commands => Command.bindLast commands
  | .mk (_ :: _) commands => Command.allBindFree commands

/-! ## Nodes -/

mutual

/-- What is bound in a node is the result of an action that is printed, and nothing else is. -/
def Node.isPrintLinear : Node → Bool
  | .text _ => true
  | .action p => p.isPrintLinear
  | .branches conditions otherwise =>
    Node.branchesPrintLinear conditions && Node.otherwisePrintLinear otherwise
  | .range p body otherwise | .scope p body otherwise =>
    p.isBindFree && Node.allPrintLinear body && Node.otherwisePrintLinear otherwise

/-- All nodes print what they bind. -/
def Node.allPrintLinear : List Node → Bool
  | [] => true
  | n :: rest => n.isPrintLinear && Node.allPrintLinear rest

/-- The last part of a block prints what it binds. -/
def Node.otherwisePrintLinear : Option (List Node) → Bool
  | none => true
  | some nodes => Node.allPrintLinear nodes

/-- The bodies of branches print what they bind, and their conditions bind nothing. -/
def Node.branchesPrintLinear : List (Pipeline × List Node) → Bool
  | [] => true
  | (p, body) :: rest =>
    p.isBindFree && Node.allPrintLinear body && Node.branchesPrintLinear rest

end

/-! ## Evaluating pipelines -/

section

variable (scope : Scope) (dot : Value)

mutual

theorem steady_evalOperand : ∀ {o : Operand}, o.isBindFree = true →
    Steady fun f k => evalOperand f k scope dot o
  | .field path, _ => by
      simp only [evalOperand]
      exact .lift _
  | .literal v, _ => by
      simp only [evalOperand]
      exact .pure v
  | .variable name path, _ => by
      simp only [evalOperand]
      split
      · exact .lift _
      · exact .throw _
  | .group p path, h => by
      simp only [Operand.isBindFree] at h
      simp only [evalOperand]
      exact (steady_evalPipeline h).bind fun v => .lift (follow v path)

theorem steady_evalOperands : ∀ {os : List Operand}, Operand.allBindFree os = true →
    Steady fun f k => evalOperands f k scope dot os
  | [], _ => by
      simp only [evalOperands]
      exact .pure []
  | o :: rest, h => by
      simp only [Operand.allBindFree, Bool.and_eq_true] at h
      simp only [evalOperands]
      refine (steady_evalOperand h.1).bind fun v => ?_
      exact (steady_evalOperands h.2).bind fun vs => .pure (v :: vs)

theorem steady_evalCommand (piped : Option Value) : ∀ {c : Command}, c.isBindFree = true →
    Steady fun f k => evalCommand f k scope dot piped c
  | .operand o, h => by
      simp only [Command.isBindFree] at h
      simp only [evalCommand]
      exact steady_evalOperand h
  | .call name args, h => by
      simp only [Command.isBindFree, Bool.and_eq_true, Option.isNone_iff_eq_none] at h
      simp only [evalCommand, callFunction, h.1]
      exact (steady_evalOperands h.2).bind fun vs => .lift (call name (vs ++ piped.toList))

theorem steady_evalCommands (piped : Option Value) : ∀ {cs : List Command},
    Command.allBindFree cs = true → Steady fun f k => evalCommands f k scope dot piped cs
  | [], _ => by
      simp only [evalCommands]
      exact .pure _
  | c :: rest, h => by
      simp only [Command.allBindFree, Bool.and_eq_true] at h
      simp only [evalCommands]
      exact (steady_evalCommand piped h.1).bind fun v => steady_evalCommands (some v) h.2

theorem steady_evalPipeline : ∀ {p : Pipeline}, p.isBindFree = true →
    Steady fun f k => evalPipeline f k scope dot p
  | .mk decls commands, h => by
      simp only [Pipeline.isBindFree] at h
      simp only [evalPipeline]
      exact steady_evalCommands none h

end

theorem prints_callFunction (name : String) (args : List Value) :
    Prints alone fun f k => do return (← callFunction f k name args).toText := by
  unfold callFunction
  split
  · exact (prints_call _ args).map Value.toText
  · exact (Steady.lift _).prints fun v => .pure () v.toText

/-- The result of commands that bind in the last of them is printed. -/
theorem prints_evalCommands {commands : List Command} (h : Command.bindLast commands = true)
    (piped : Option Value) :
    Prints alone fun f k => do return (← evalCommands f k scope dot piped commands).toText := by
  fun_induction Command.bindLast commands generalizing piped with
  | case1 =>
      simp only [evalCommands, pure_bind]
      exact .pure () _
  | case2 name args =>
      simp only [evalCommands, evalCommand, bind_assoc, pure_bind, Option.getD_some]
      exact (steady_evalOperands scope dot h).prints fun vs =>
        prints_callFunction name (vs ++ piped.toList)
  | case3 c rest hlast ih =>
      simp only [Bool.and_eq_true] at h
      simp only [evalCommands, bind_assoc]
      exact (steady_evalCommand scope dot piped h.1).prints fun v => ih h.2 (some v)

end

theorem Pipeline.isBindFree_of_isPrintLinear {p : Pipeline} (h : p.isPrintLinear = true)
    (hdecls : p.decls ≠ []) : p.isBindFree = true := by
  obtain ⟨decls, commands⟩ := p
  cases decls with
  | nil => exact absurd rfl hdecls
  | cons name decls => simpa [isPrintLinear, isBindFree] using h

/-! ## Evaluating nodes -/

theorem prints_evalAction (scope : Scope) (dot : Value) {p : Pipeline}
    (h : p.isPrintLinear = true) :
    Prints Prod.mk fun f k => evalNode f k scope dot (.action p) := by
  simp only [evalNode]
  by_cases hdecls : p.decls = []
  · obtain ⟨decls, commands⟩ := p
    obtain rfl : decls = [] := hdecls
    have hprints := (prints_evalCommands scope dot h none).beside scope
    simpa only [evalPipeline, Pipeline.decls, List.isEmpty_nil, if_true, bind_assoc, pure_bind]
      using hprints
  · have hfree := Pipeline.isBindFree_of_isPrintLinear h hdecls
    refine (steady_evalPipeline scope dot hfree).prints fun v => ?_
    simp only [List.isEmpty_iff, hdecls, if_false]
    exact .pure _ ""

mutual

theorem prints_evalNode (scope : Scope) (dot : Value) : ∀ {n : Node}, n.isPrintLinear = true →
    Prints Prod.mk fun f k => evalNode f k scope dot n
  | .text s, _ => by
      simp only [evalNode]
      exact .pure scope s
  | .action p, h => prints_evalAction scope dot h
  | .branches conditions otherwise, h => by
      simp only [Node.isPrintLinear, Bool.and_eq_true] at h
      simp only [evalNode]
      refine prints_evalBranches scope scope dot h.1 fun inner => ?_
      -- The scope behind the last part is forgotten: the block gives back its own.
      have hlast := (prints_evalOtherwise inner dot h.2).forget.beside scope
      simpa only [bind_assoc, pure_bind] using hlast
  | .range p body otherwise, h => by
      simp only [Node.isPrintLinear, Bool.and_eq_true] at h
      simp only [evalNode]
      refine (steady_evalPipeline scope dot h.1.1).prints fun v => ?_
      refine (Steady.lift (items v)).prints fun entries => ?_
      split
      · exact prints_evalOtherwise scope dot h.2
      · have hbody := fun entry : Value × Value =>
          (prints_evalNodes (declareItem scope p.decls entry.1 entry.2) entry.2 h.1.2).forget
        simpa only [bind_assoc, pure_bind] using (Prints.join hbody entries).beside scope
  | .scope p body otherwise, h => by
      simp only [Node.isPrintLinear, Bool.and_eq_true] at h
      simp only [evalNode]
      refine (steady_evalPipeline scope dot h.1.1).prints fun v => ?_
      split
      · have hbody := (prints_evalNodes (declare scope p.decls v) v h.1.2).forget.beside scope
        simpa only [bind_assoc, pure_bind] using hbody
      · have hlast := (prints_evalOtherwise (declare scope p.decls v) dot h.2).forget.beside scope
        simpa only [bind_assoc, pure_bind] using hlast

theorem prints_evalNodes (scope : Scope) (dot : Value) : ∀ {nodes : List Node},
    Node.allPrintLinear nodes = true → Prints Prod.mk fun f k => evalNodes f k scope dot nodes
  | [], _ => by
      simp only [evalNodes]
      exact .pure scope ""
  | n :: rest, h => by
      simp only [Node.allPrintLinear, Bool.and_eq_true] at h
      simp only [evalNodes]
      exact (prints_evalNode scope dot h.1).append fun inner => prints_evalNodes inner dot h.2

theorem prints_evalOtherwise (scope : Scope) (dot : Value) : ∀ {otherwise : Option (List Node)},
    Node.otherwisePrintLinear otherwise = true →
      Prints Prod.mk fun f k => evalOtherwise f k scope dot otherwise
  | none, _ => by
      simp only [evalOtherwise]
      exact .pure scope ""
  | some nodes, h => by
      simp only [Node.otherwisePrintLinear] at h
      simp only [evalOtherwise]
      exact prints_evalNodes scope dot h

/-- Branches print if what follows them does, should no condition hold. -/
theorem prints_evalBranches (outer scope : Scope) (dot : Value)
    {next : Scope → Family (Scope × String)} :
    ∀ {conditions : List (Pipeline × List Node)}, Node.branchesPrintLinear conditions = true →
      (∀ inner, Prints Prod.mk (next inner)) → Prints Prod.mk fun f k => do
        match ← evalBranches f k scope dot conditions with
        | (_, some s) => return (outer, s)
        | (inner, none) => next inner f k
  | [], _, hnext => by
      simp only [evalBranches, pure_bind]
      exact hnext scope
  | (p, body) :: rest, h, hnext => by
      simp only [Node.branchesPrintLinear, Bool.and_eq_true] at h
      simp only [evalBranches, bind_assoc]
      refine (steady_evalPipeline scope dot h.1.1).prints fun v => ?_
      split
      · have hbody := (prints_evalNodes (declare scope p.decls v) dot h.1.2).forget.beside outer
        simpa only [bind_assoc, pure_bind] using hbody
      · exact prints_evalBranches outer _ dot h.2 hnext

end

/-- A template that prints what it binds prints one skeleton. -/
theorem prints_execute {nodes : List Node} (h : Node.allPrintLinear nodes = true) (data : Value) :
    Prints alone fun f k => execute f k nodes data := by
  simp only [execute]
  exact (prints_evalNodes _ data h).forget

end Cohort.Template
