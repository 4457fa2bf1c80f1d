import Cohort.Builder.TemplateBuilder
import Cohort.Proofs.Template.TracedEvaluation

/-! # Templates that share a context

A template does behind other arguments what it does alone, except that its placeholders are those
still to come.
-/

namespace Cohort

namespace Template

/-! ## One template -/

/-- Every way to write placeholders and every index of the first, where nothing is unknown. -/
def anySetting (i : Placeholder × Nat) : Setting Empty := ⟨i.1, i.2, Empty.elim⟩

theorem traced_execute (nodes : List Node) (data : Value) :
    Traced anySetting same fun i => execute i.1 i.2 nodes data := by
  have hfollows : Follows anySetting (fun _ => [("$", data)]) (fun _ => data)
      (fun _ _ => true) (fun _ _ => true) :=
    ⟨fun _ _ p _ => traced_evalPipeline _ _ p, fun _ _ p _ => traced_evalPipeline _ _ p⟩
  exact hfollows.execute (Node.everyOf_of_forall (fun _ _ => rfl) (fun _ _ => rfl) false nodes)

/-- Behind some arguments a template does what it does in a context of its own whose first
placeholder is the next one; its arguments are appended, also behind a fault. -/
theorem run_behind (t : Template) (f : Placeholder) (k : Nat) (data : Value) (args : List Value) :
    t.run f k data args =
      ((t.run (Placeholder.drop f (k + args.length)) 0 data []).1,
        args ++ (t.run (Placeholder.drop f (k + args.length)) 0 data []).2) := by
  have hnext : (anySetting (Placeholder.drop f (k + args.length), 0)).next [] =
      (anySetting (f, k)).next args := by
    simp [Setting.next, anySetting]
  exact (traced_execute t.nodes data).run_eq hnext rfl

theorem render_drop (t : Template) (f : Placeholder) (k : Nat) (params : Params) :
    t.render f k params = t.render (Placeholder.drop f k) 0 params := by
  have hrun := t.run_behind f k (.obj params) []
  rw [List.length_nil, Nat.add_zero, List.nil_append] at hrun
  rw [render, hrun, render]

/-! ## Several templates -/

/-- Runs templates on their data, one behind another in one context. -/
def runAll (f : Placeholder) (k : Nat) :
    List (Template × Value) → List Value → List (Except ExecFault String) × List Value
  | [], args => ([], args)
  | (t, data) :: rest, args =>
    let (outcome, args) := t.run f k data args
    let (outcomes, args) := runAll f k rest args
    (outcome :: outcomes, args)

/-- Runs templates on their data, each in a context of its own whose placeholders go on where those
of the one before end. -/
def runApart (f : Placeholder) :
    List (Template × Value) → List (Except ExecFault String × List Value)
  | [] => []
  | (t, data) :: rest =>
    let answer := t.run f 0 data []
    answer :: runApart (Placeholder.drop f answer.2.length) rest

theorem runAll_eq_runApart (f : Placeholder) (k : Nat) (ts : List (Template × Value))
    (args : List Value) :
    runAll f k ts args =
      ((runApart (Placeholder.drop f (k + args.length)) ts).map Prod.fst,
        args ++ (runApart (Placeholder.drop f (k + args.length)) ts).flatMap Prod.snd) := by
  induction ts generalizing args with
  | nil => simp [runAll, runApart]
  | cons entry ts ih =>
      obtain ⟨t, data⟩ := entry
      simp only [runAll, runApart]
      rw [t.run_behind f k data args]
      generalize t.run (Placeholder.drop f (k + args.length)) 0 data [] = answer
      -- The next template counts from behind the arguments of this one.
      have hnext : Placeholder.drop f (k + (args ++ answer.2).length) =
          Placeholder.drop (Placeholder.drop f (k + args.length)) answer.2.length := by
        simp [Nat.add_assoc]
      simp only [ih, hnext, List.map_cons, List.flatMap_cons, List.append_assoc]

end Template

open Template

/-- What a context holds only moves the placeholders of a template to the next indexes, whether the
template succeeds or fails: what is bound before stays, what it binds is appended. Over several
templates in one context the indexes are consecutive, and a first index other than zero may as well
be part of how placeholders are written. -/
theorem run_sharedContext (t : Template) (f : Placeholder) (k : Nat) (data : Value)
    (args : List Value) :
    (t.run f k data args =
      ((t.run (fun i => f (k + args.length + i)) 0 data []).1,
        args ++ (t.run (fun i => f (k + args.length + i)) 0 data []).2)) ∧
    (∀ ts : List (Template × Value), runAll f k ts args =
      ((runApart (fun i => f (k + args.length + i)) ts).map Prod.fst,
        args ++ (runApart (fun i => f (k + args.length + i)) ts).flatMap Prod.snd)) ∧
    ∀ (b : TemplateBuilder) (params : Params),
      b.renderAt k params =
        { b with placeholder := fun i => b.placeholder (k + i) }.renderAt 0 params := by
  refine ⟨t.run_behind f k data args, fun ts => runAll_eq_runApart f k ts args,
    fun b params => ?_⟩
  simp only [TemplateBuilder.renderAt]
  congr 1
  funext t
  rw [t.render_drop b.placeholder k params]
  rfl

/-- What a template bound before its fault stays in the context. -/
example :
    (Template.read "\x7b\x7b arg 1 \x7d\x7d\x7b\x7b len true \x7d\x7d").toOption.map (fun t =>
        Value.textsOf (t.run (fun _ => "?") 0 .null [.str "before"]).2) =
      some ["before", "1"] := by
  decide +kernel

end Cohort
