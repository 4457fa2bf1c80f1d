import Cohort.Proofs.Compile.InOrder
import Cohort.Proofs.Compile.Stitched

/-! # Compiling as one pass over the tags

The compiler goes down the tree and counts arguments anew at every node. The reference here knows no
tree while it builds: the tags are built from left to right, and only the texts of their queries are
put together along the tree.
-/

namespace Cohort

/-! ## The reference -/

section

variable (registry : Registry) (nodeText : SetOperation → List String → String) (ctx : Context)

/-- What one pass over the tags of an expression gives, behind `k` arguments: the query stitched
from those of the tags with all their arguments, or the fault of the first tag that fails. -/
inductive OnePass (k : Nat) (e : Expression) : Except Fault Sql → Prop where
  | ok {sqls : List Sql} {query : String} :
      BuiltInOrder registry ctx k e.leaves sqls → Stitched nodeText e (sqls.map Sql.query) query →
        OnePass k e (.ok ⟨query, Sql.argsOf sqls⟩)
  | error {fault : Fault} :
      FailsFirst registry ctx k e.leaves fault → OnePass k e (.error fault)

end

/-- What one pass over the tags of the children of a node gives, behind `k` arguments. -/
inductive OnePassAll (registry : Registry) (v : Vocabulary)
    (nodeText : SetOperation → List String → String) (ctx : Context) (k : Nat)
    (cs : List Expression) : Except Fault (List String × List Value) → Prop where
  | ok {sqls : List Sql} {parts : List String} :
      BuiltInOrder registry ctx k (cs.flatMap Expression.leaves) sqls →
        StitchedAll nodeText cs (sqls.map Sql.query) parts →
          OnePassAll registry v nodeText ctx k cs
            (.ok (parts.map v.parenthesize, Sql.argsOf sqls))
  | error {fault : Fault} :
      FailsFirst registry ctx k (cs.flatMap Expression.leaves) fault →
        OnePassAll registry v nodeText ctx k cs (.error fault)

variable {registry : Registry} {v : Vocabulary}
  {nodeText : SetOperation → List String → String} {ctx : Context}

/-- A pass gives one result. -/
theorem OnePass.unique {k : Nat} {e : Expression} (hwf : e.WellFormed)
    {result result' : Except Fault Sql} (h : OnePass registry nodeText ctx k e result)
    (h' : OnePass registry nodeText ctx k e result') : result = result' := by
  cases h with
  | ok hbuilt hquery =>
      cases h' with
      | ok hbuilt' hquery' =>
          obtain rfl := hbuilt.unique hbuilt'
          rw [hquery.unique hwf hquery']
      | error hfails => exact absurd hfails hbuilt.not_failsFirst
  | error hfails =>
      cases h' with
      | ok hbuilt _ => exact absurd hfails hbuilt.not_failsFirst
      | error hfails' => rw [hfails.unique hfails']

theorem onePass_tag (t : Tag) (k : Nat) :
    OnePass registry nodeText ctx k (.ofTag t) ((Plan.tag t).compile registry v ctx k) := by
  rw [Plan.compile]
  cases h : t.build registry (ctx.withArgOffset k) with
  | error fault =>
      apply OnePass.error
      rw [Expression.leaves_ofTag]
      exact failsFirst_singleton ((Tag.build_eq_error_iff registry _).mp h)
  | ok sql =>
      have hbuilt := builtInOrder_singleton h
      rw [← Expression.leaves_ofTag] at hbuilt
      simpa using OnePass.ok hbuilt (.tag t sql.query)

/-- A child behind others is compiled behind their arguments, as in one pass over all tags. -/
theorem onePassAll_compileAll {cs : List Expression} {ps : List Plan}
    (h : List.Forall₂
      (fun c p => ∀ k, OnePass registry nodeText ctx k c (p.compile registry v ctx k)) cs ps)
    (k : Nat) : OnePassAll registry v nodeText ctx k cs (Plan.compileAll registry v ctx k ps) := by
  induction h generalizing k with
  | nil =>
      rw [Plan.compileAll]
      exact @OnePassAll.ok registry v nodeText ctx k [] [] [] builtInOrder_nil .nil
  | @cons c p cs ps hc _ ih =>
      rw [Plan.compileAll]
      generalize hr : p.compile registry v ctx k = r
      cases hr ▸ hc k with
      | error hfails => exact .error (hfails.append_right _)
      | @ok sqls query hbuilt hquery =>
          have hrest := ih (k + (Sql.argsOf sqls).length)
          change OnePassAll registry v nodeText ctx k (c :: cs)
            (Plan.compileAll registry v ctx (k + (Sql.argsOf sqls).length) ps >>= fun r =>
              .ok (v.parenthesize query :: r.1, Sql.argsOf sqls ++ r.2))
          generalize Plan.compileAll registry v ctx (k + (Sql.argsOf sqls).length) ps = r
            at hrest ⊢
          cases hrest with
          | error hfails => exact .error (hbuilt.append_failsFirst hfails)
          | ok hbuilt' hparts =>
              have hall := StitchedAll.cons hquery hparts
              rw [← List.map_append] at hall
              have hok : OnePassAll registry v nodeText ctx k (c :: cs) _ :=
                .ok (hbuilt.append hbuilt') hall
              rwa [Sql.argsOf_append, List.map_cons] at hok

section

/-! The texts of nodes matter only for as many children as their operation takes. -/

variable (hnode : ∀ op parts, op.Admits parts.length → v.nodeText op parts = nodeText op parts)

include hnode

theorem onePass_set {op : SetOperation} {cs : List Expression} {ps : List Plan}
    (hsize : op.Admits cs.length)
    (h : List.Forall₂
      (fun c p => ∀ k, OnePass registry nodeText ctx k c (p.compile registry v ctx k)) cs ps)
    (k : Nat) :
    OnePass registry nodeText ctx k (.ofSet op cs)
      ((Plan.set op ps).compile registry v ctx k) := by
  rw [Plan.compile]
  have hall := onePassAll_compileAll h k
  generalize Plan.compileAll registry v ctx k ps = r at hall ⊢
  cases hall with
  | error hfails =>
      apply OnePass.error
      rwa [Expression.leaves_ofSet]
  | @ok sqls parts hbuilt hparts =>
      change OnePass registry nodeText ctx k (.ofSet op cs)
        (.ok ⟨v.nodeText op parts, Sql.argsOf sqls⟩)
      rw [← Expression.leaves_ofSet op] at hbuilt
      rw [hnode op parts (hparts.length_eq ▸ hsize)]
      exact .ok hbuilt (.set op hparts)

/-- A well-formed expression is compiled as by one pass over its tags. -/
theorem Expression.WellFormed.onePass_compile {e : Expression} (h : e.WellFormed) :
    OnePass registry nodeText ctx ctx.argOffset e (e.compile registry v ctx) := by
  obtain ⟨p, hp, hcompile⟩ :=
    h.plan_induction
      (P := fun e p => ∀ k, OnePass registry nodeText ctx k e (p.compile registry v ctx k))
      onePass_tag (fun op cs ps hsize hps => onePass_set hnode hsize hps)
  rw [Expression.compile, hp]
  exact hcompile ctx.argOffset

end

/-! ## Main result -/

/-- Some node of an expression, at any depth, is nothing or several things at once, or a difference
of one child. -/
def Expression.Malformed (e : Expression) : Prop :=
  ∃ n, Within n e ∧ ∃ fault, n.shape = .error fault

theorem Expression.wellFormed_of_not_malformed {e : Expression} (h : ¬ e.Malformed) :
    e.WellFormed := by
  rw [wellFormed_iff]
  intro n hn
  cases hs : n.shape with
  | error fault => exact absurd ⟨n, hn, fault, hs⟩ h
  | ok s => exact ⟨s, rfl⟩

theorem Expression.Malformed.compile_eq {e : Expression} (h : e.Malformed) :
    ∃ fault, e.compile registry v ctx = .error (.invalidExpression fault) := by
  obtain ⟨n, hn, fault, hs⟩ := h
  cases hp : e.plan with
  | error f => exact ⟨f, by rw [Expression.compile, hp]; rfl⟩
  | ok p =>
      obtain ⟨s, hok⟩ := wellFormed_iff.mp (plan_isOk_iff.mp ⟨p, hp⟩) n hn
      simp [hs] at hok

/-- The compiler agrees with one pass over the tags. A malformed node anywhere is found before any
tag is built. Otherwise the tags are built from left to right, each behind the arguments of all
before it, until one fails. The empty text that stands for no query is never used. -/
theorem compile_eq_onePass (registry : Registry) (d : Dialect) (ctx : Context) (e : Expression) :
    (e.Malformed → ∃ fault, e.compile registry d ctx = .error (.invalidExpression fault)) ∧
      (¬ e.Malformed → ∀ result,
        e.compile registry d ctx = result ↔
          OnePass registry d.nodeText ctx ctx.argOffset e result) ∧
      ∀ (n : Expression) (op : SetOperation) (queries : List String),
        n.shape = .ok (.set op) → queries.length = (n.children op).length →
          d.join op (queries.map Dialect.parenthesize) ≠ "" := by
  refine ⟨fun h => h.compile_eq, fun h result => ?_, fun n op queries hs hlength => ?_⟩
  · have hwf := Expression.wellFormed_of_not_malformed h
    have hpass : OnePass registry d.nodeText ctx ctx.argOffset e (e.compile registry d ctx) :=
      hwf.onePass_compile fun _ _ hsize => d.nodeText_vocabulary hsize
    exact ⟨fun heq => heq ▸ hpass, hpass.unique hwf⟩
  · obtain ⟨t, ht, -⟩ | ⟨op', hop, cs, rfl, hsize⟩ := Expression.eq_of_shape hs
    · cases ht
    · cases hop
      rw [Expression.children_ofSet_self] at hlength
      rw [← hlength] at hsize
      rw [d.join_eq_chained hsize]
      exact Dialect.chained_ne_empty _ (List.ne_nil_of_length_pos hsize.1)

end Cohort
