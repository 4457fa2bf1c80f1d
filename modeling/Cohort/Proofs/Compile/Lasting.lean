import Cohort.Builder.TemplateBuilder
import Cohort.Compile
import Cohort.Proofs.Registry.Extension

/-! # Compiling while the registry grows

A builder that was found is found again, so that what was compiled once is compiled to the same query
later. Only an expression with a tag whose builder was missing may fare otherwise.
-/

namespace Cohort

/-! ## Results that last -/

/-- A later result is the same as before, unless a builder was missing that `r'` has. -/
def Lasts (r' : Registry) {α : Type} (before after : Except Fault α) : Prop :=
  after = before ∨ ∃ id b, before = .error (.builderNotFound id) ∧ r'.builder? id = some b

variable {r r' : Registry} {v : Vocabulary} {ctx : Context}

theorem Lasts.bind {α β : Type} {before after : Except Fault α} {next next' : α → Except Fault β}
    (h : Lasts r' before after) (hnext : ∀ a, Lasts r' (next a) (next' a)) :
    Lasts r' (before >>= next) (after >>= next') := by
  obtain rfl | ⟨id, b, rfl, hb⟩ := h
  · cases after with
    | ok a => exact hnext a
    | error fault => exact .inl rfl
  · exact .inr ⟨id, b, rfl, hb⟩

theorem Tag.lasts_build (h : r.Extends r') (t : Tag) :
    Lasts r' (t.build r ctx) (t.build r' ctx) := by
  cases hb : r.builder? t.builderId with
  | some b =>
      refine .inl ?_
      rw [Tag.build, Tag.build, hb, h.builder?_eq _ b hb]
  | none =>
      cases hb' : r'.builder? t.builderId with
      | none =>
          refine .inl ?_
          rw [Tag.build, Tag.build, hb, hb']
      | some b => exact .inr ⟨t.builderId, b, by rw [Tag.build, hb], hb'⟩

mutual

/-- Each tag of a plan is built behind the arguments of those before it, which are as many as they
were. -/
theorem Plan.lasts_compile (h : r.Extends r') : ∀ (k : Nat) (p : Plan),
    Lasts r' (p.compile r v ctx k) (p.compile r' v ctx k)
  | k, .tag t => by
      rw [Plan.compile, Plan.compile]
      exact t.lasts_build h
  | k, .set op parts => by
      rw [Plan.compile, Plan.compile]
      exact (Plan.lasts_compileAll h k parts).bind fun _ => .inl rfl

theorem Plan.lasts_compileAll (h : r.Extends r') : ∀ (k : Nat) (ps : List Plan),
    Lasts r' (Plan.compileAll r v ctx k ps) (Plan.compileAll r' v ctx k ps)
  | k, [] => by
      rw [Plan.compileAll, Plan.compileAll]
      exact .inl rfl
  | k, p :: rest => by
      rw [Plan.compileAll, Plan.compileAll]
      refine (Plan.lasts_compile h k p).bind fun sql => ?_
      exact (Plan.lasts_compileAll h _ rest).bind fun _ => .inl rfl

end

theorem Expression.lasts_compile (h : r.Extends r') (e : Expression) :
    Lasts r' (e.compile r v ctx) (e.compile r' v ctx) := by
  rw [Expression.compile, Expression.compile]
  cases e.plan with
  | error fault => exact .inl rfl
  | ok p => exact p.lasts_compile h ctx.argOffset

/-! ## Main result -/

/-- Whatever is registered or refused later, an expression that was compiled is compiled to the same
query, and one that failed fails for the same reason. A builder that was not found may be there
later; as long as it is not, that failure stays as well. -/
theorem compile_after (r : Registry) (calls : List Registry.Call) (v : Vocabulary) (ctx : Context)
    (e : Expression) :
    (∀ sql, e.compile r v ctx = .ok sql → e.compile (r.after calls) v ctx = .ok sql) ∧
      (∀ fault, e.compile r v ctx = .error fault → (∀ id, fault ≠ .builderNotFound id) →
        e.compile (r.after calls) v ctx = .error fault) ∧
      ∀ id, e.compile r v ctx = .error (.builderNotFound id) →
        (r.after calls).builder? id = none →
          e.compile (r.after calls) v ctx = .error (.builderNotFound id) := by
  have hlasts : Lasts (r.after calls) (e.compile r v ctx) (e.compile (r.after calls) v ctx) :=
    e.lasts_compile (Registry.grows_after r calls).extends
  obtain hsame | ⟨id, b, hmissing, hb⟩ := hlasts
  · rw [hsame]
    exact ⟨fun _ h => h, fun _ h _ => h, fun _ h _ => h⟩
  · rw [hmissing]
    refine ⟨by simp, ?_, ?_⟩
    · rintro _ ⟨⟩ hne
      exact absurd rfl (hne id)
    · rintro _ ⟨⟩ hnone
      rw [hb] at hnone
      cases hnone

/-- Users from an age on, which has to be told. -/
def ageBuilder : Builder :=
  .sql (⟨⟨"age", "Age", "", "", some ⟨[⟨{ key := "min", required := true }, .hidden⟩]⟩⟩,
    "age >= \x7b\x7b arg .min \x7d\x7d", PlaceholderStyle.dollar.format⟩ :
      TemplateBuilder).toSqlBuilder

/-- The registry of one builder. -/
def ageRegistry : Registry := Registry.empty.after [.register (.builder ageBuilder)]

/-- Calls that bring one builder more: the first is refused, and the second ends half-way. -/
def laterCalls : List Registry.Call := [
  .register (.builder (.descriptive ⟨"age", "Again", "", "", none⟩)),
  .install ⟨[], [.template ⟨"vip", "Important", "", "", none⟩ "" [] none,
    .template ⟨"lost", "Lost", "", "nowhere", none⟩ "" [] none]⟩ .colon]

/-- Users from one age on, but not from another. -/
def agesBetween (low high : Params) : Expression :=
  .ofSet .except [.ofTag ⟨"age", low⟩, .ofSet .union [.ofTag ⟨"age", high⟩]]

/-- Compiled before and after, refused before and after, and missing before and after. -/
theorem compile_after_laterCalls :
    (ageRegistry.builder? "vip").isNone = true ∧
    ((ageRegistry.after laterCalls).builder? "vip").isSome = true ∧
    (∃ sql, (agesBetween [("min", .ofNat 18)] [("min", .ofNat 65)]).compile ageRegistry
        Dialect.bigQuery .background = .ok sql ∧
      (agesBetween [("min", .ofNat 18)] [("min", .ofNat 65)]).compile
        (ageRegistry.after laterCalls) Dialect.bigQuery .background = .ok sql) ∧
    (agesBetween [] [("min", .ofNat 65)]).compile (ageRegistry.after laterCalls)
      Dialect.bigQuery .background = .error (.build "age" (.missingParameter "min")) ∧
    (Expression.ofTag ⟨"elder", []⟩).compile (ageRegistry.after laterCalls)
      Dialect.bigQuery .background = .error (.builderNotFound "elder") := by
  have hafter := compile_after ageRegistry laterCalls Dialect.bigQuery .background
  refine ⟨by decide +kernel, by decide +kernel, ?_, ?_, ?_⟩
  · have hok : ((agesBetween [("min", .ofNat 18)] [("min", .ofNat 65)]).compile ageRegistry
        Dialect.bigQuery .background).isOk = true := by
      decide +kernel
    cases hsql : (agesBetween [("min", .ofNat 18)] [("min", .ofNat 65)]).compile ageRegistry
        Dialect.bigQuery .background with
    | ok sql => exact ⟨sql, rfl, (hafter _).1 sql hsql⟩
    | error fault =>
        rw [hsql] at hok
        cases hok
  · exact (hafter _).2.1 _ rfl (by simp)
  · exact (hafter _).2.2 "elder" rfl (Option.isNone_iff_eq_none.mp (by decide +kernel))

end Cohort
