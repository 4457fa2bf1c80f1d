import Cohort.Compile
import Cohort.Placeholder
import Cohort.Proofs.Builder.Open
import Cohort.Proofs.Compile.Stitched

/-! # Placeholders of compiled queries

A compiled query is one text with gaps, whatever the placeholders are and wherever they start.
-/

namespace Cohort

open Template

/-! ## Queries with gaps -/

/-- The query that a skeleton gives. -/
def Template.Skeleton.sql (f : Placeholder) (k : Nat) (s : Skeleton) : Sql := ⟨s.fill f k, s.values⟩

namespace Template.Skeleton

/-- The texts of skeletons, numbered one behind another. -/
def fillAll (f : Placeholder) : Nat → List Skeleton → List String
  | _, [] => []
  | k, s :: rest => s.fill f k :: fillAll f (k + s.values.length) rest

/-- Skeletons in parentheses with a word between each two. -/
def chained (word : String) : List Skeleton → Skeleton
  | [] => last ""
  | [s] => last "(" ++ s ++ last ")"
  | s :: rest => last "(" ++ s ++ last ")" ++ last (" " ++ word ++ " ") ++ chained word rest

theorem values_chained (word : String) (ss : List Skeleton) :
    (chained word ss).values = ss.flatMap values := by
  induction ss with
  | nil => rfl
  | cons s rest ih =>
      cases rest with
      | nil => simp [chained]
      | cons s' rest => simp [chained, ih]

theorem fill_chained (f : Placeholder) (k : Nat) (word : String) (ss : List Skeleton) :
    (chained word ss).fill f k = Dialect.chained word (fillAll f k ss) := by
  induction ss generalizing k with
  | nil => rfl
  | cons s rest ih =>
      cases rest with
      | nil => simp [chained, fillAll, Dialect.chained, fill_append]
      | cons s' rest =>
          have hrest := ih (k + s.values.length)
          simp only [fillAll] at hrest
          simp only [chained, fillAll, Dialect.chained, ← hrest, fill_append, last_append,
            fill_behind, fill_last, values_append, values_behind, values_last, List.append_nil,
            String.append_assoc]

end Template.Skeleton

/-! ## Results by placeholders -/

/-- The results have one outcome at each number of arguments bound before, which `shape` turns into
the result for some placeholders. Where `blind` holds, that number does not matter either. -/
def Uniform {α β : Type} (blind : Prop) (shape : Placeholder → Nat → α → β)
    (m : Placeholder → Nat → Except Fault β) : Prop :=
  ∃ outcome : Nat → Except Fault α,
    (∀ f k, m f k = (outcome k).map (shape f k)) ∧ (blind → ∀ k k', outcome k = outcome k')

section

variable {α β : Type} {blind : Prop} {shape : Placeholder → Nat → α → β}

theorem Uniform.fault (fault : Fault) : Uniform blind shape fun _ _ => .error fault :=
  ⟨fun _ => .error fault, fun _ _ => rfl, fun _ _ _ => rfl⟩

theorem Uniform.mono {blind' : Prop} {m : Placeholder → Nat → Except Fault β}
    (h : Uniform blind shape m) (himp : blind' → blind) : Uniform blind' shape m := by
  obtain ⟨outcome, heq, hblind⟩ := h
  exact ⟨outcome, heq, fun hb => hblind (himp hb)⟩

theorem Uniform.mapError {m : Placeholder → Nat → Except Fault β} (h : Uniform blind shape m)
    (g : Fault → Fault) : Uniform blind shape fun f k => (m f k).mapError g := by
  obtain ⟨outcome, heq, hblind⟩ := h
  refine ⟨fun k => (outcome k).mapError g, fun f k => ?_, fun hb k k' => ?_⟩
  · dsimp only
    rw [heq]
    cases outcome k <;> rfl
  · dsimp only
    rw [hblind hb k k']

/-- What is done before a result, without regard to placeholders. -/
theorem Uniform.after {γ : Type} {first : Nat → Except Fault γ}
    {m : γ → Placeholder → Nat → Except Fault β} (hfirst : blind → ∀ k k', first k = first k')
    (h : ∀ c, Uniform blind shape (m c)) :
    Uniform blind shape fun f k => first k >>= fun c => m c f k := by
  choose outcome heq hblind using h
  refine ⟨fun k => first k >>= fun c => outcome c k, fun f k => ?_, fun hb k k' => ?_⟩
  · dsimp only
    cases first k with
    | error fault => rfl
    | ok c => exact heq c f k
  · dsimp only
    rw [hfirst hb k k']
    congr 1
    funext c
    exact hblind c hb k k'

end

/-! ## Builders -/

/-- The query of a template that prints what it binds. -/
theorem uniform_render {t : Template} (h : Node.allPrintLinear t.nodes = true) (params : Params)
    (blind : Prop) : Uniform blind Skeleton.sql fun f k =>
      TemplateBuilder.outcome (t.render f k params) := by
  obtain ⟨s, outcome, hrun⟩ := (prints_execute h (.obj params)).run
  refine ⟨fun _ => (outcome.map fun _ => s).mapError fun fault => .template (.exec fault),
    fun f k => ?_, fun _ _ _ => rfl⟩
  dsimp only
  rw [render, run, hrun]
  cases outcome <;> rfl

theorem uniform_template (metadata : Metadata) {source : String}
    (h : (OpenBuilder.template metadata source).isPrintLinear = true) (ctx : Context)
    (params : Params) (blind : Prop) : Uniform blind Skeleton.sql fun f k =>
      ((OpenBuilder.template metadata source).close f).build (ctx.withArgOffset k) params := by
  -- The check of the parameters knows nothing of placeholders.
  change Uniform blind Skeleton.sql fun f k =>
    (⟨metadata, source, fun _ => "?"⟩ : TemplateBuilder).check params >>= fun _ =>
      TemplateBuilder.outcome (Template.read source) >>= fun t =>
        TemplateBuilder.outcome (t.render f k params)
  refine Uniform.after (fun _ _ _ => rfl) fun _ => ?_
  cases ht : Template.read source with
  | error fault => exact .fault _
  | ok t =>
      simp only [OpenBuilder.isPrintLinear, ht] at h
      exact uniform_render h params blind

theorem uniform_build {b : OpenBuilder} (h : b.isPrintLinear = true) (ctx : Context)
    (params : Params) : Uniform b.IgnoresOffset Skeleton.sql fun f k =>
      (b.close f).build (ctx.withArgOffset k) params := by
  induction b generalizing params with
  | template metadata source => exact uniform_template metadata h ctx params _
  | wrapped inner gates metadataHooks ih =>
      simp only [OpenBuilder.close_wrapped_build]
      refine Uniform.after (fun hblind k k' => ?_) fun params' => (ih h params').mono And.right
      rw [Gate.through_withArgOffset hblind.1, Gate.through_withArgOffset hblind.1]

theorem uniform_tag {r : OpenRegistry} (hr : r.isPrintLinear = true) (ctx : Context) (t : Tag) :
    Uniform r.IgnoresOffset Skeleton.sql fun f k =>
      t.build (r.close f) (ctx.withArgOffset k) := by
  simp only [Tag.build, OpenRegistry.close_builder?]
  cases hb : r.builder? t.builderId with
  | none => exact .fault _
  | some entry =>
      cases entry with
      | descriptive metadata => exact .fault _
      | sql b =>
          have hlinear : b.isPrintLinear = true := List.all_eq_true.mp hr _ (Fields.mem_of_get? hb)
          have hbuild := (uniform_build hlinear ctx t.params).mono
            fun hblind : r.IgnoresOffset => hblind t.builderId b hb
          exact hbuild.mapError (.build t.builderId)

/-! ## Plans -/

section

variable (registry : Registry) (v : Vocabulary) (ctx : Context) (j : Nat)

mutual

/-- The number of arguments bound before a request is told to its tags by the compiler alone. -/
theorem Plan.compile_withArgOffset : ∀ (k : Nat) (p : Plan),
    p.compile registry v (ctx.withArgOffset j) k = p.compile registry v ctx k
  | k, .tag t => by
      rw [Plan.compile, Plan.compile]
      rfl
  | k, .set op parts => by
      rw [Plan.compile, Plan.compile, Plan.compileAll_withArgOffset k parts]

theorem Plan.compileAll_withArgOffset : ∀ (k : Nat) (ps : List Plan),
    Plan.compileAll registry v (ctx.withArgOffset j) k ps = Plan.compileAll registry v ctx k ps
  | k, [] => by
      rw [Plan.compileAll, Plan.compileAll]
  | k, p :: rest => by
      rw [Plan.compileAll, Plan.compileAll, Plan.compile_withArgOffset k p]
      congr 1
      funext sql
      rw [Plan.compileAll_withArgOffset _ rest]

end

theorem Plan.length_compileAll {ps : List Plan} {k : Nat} {queries : List String}
    {args : List Value} (h : Plan.compileAll registry v ctx k ps = .ok (queries, args)) :
    queries.length = ps.length := by
  induction ps generalizing k queries args with
  | nil =>
      cases h
      rfl
  | cons p rest ih =>
      rw [Plan.compileAll] at h
      cases hp : p.compile registry v ctx k with
      | error fault => simp [hp, Bind.bind, Except.bind] at h
      | ok sql =>
          cases hrest : Plan.compileAll registry v ctx (k + sql.args.length) rest with
          | error fault => simp [hp, hrest, Bind.bind, Except.bind] at h
          | ok result =>
              simp only [hp, hrest, Bind.bind, Except.bind, pure, Except.pure, Except.ok.injEq,
                Prod.mk.injEq] at h
              rw [← h.1, List.length_cons, List.length_cons, ih hrest]

end

/-- The queries that skeletons give as parts of another, with all their arguments. -/
def Template.Skeleton.parts (f : Placeholder) (k : Nat) (ss : List Skeleton) :
    List String × List Value :=
  ((Skeleton.fillAll f k ss).map Dialect.parenthesize, ss.flatMap Skeleton.values)

section

variable {r : OpenRegistry} {d : Dialect} {ctx : Context}

theorem uniform_compileAll {cs : List Expression} {ps : List Plan}
    (h : List.Forall₂ (fun _ p => Uniform r.IgnoresOffset Skeleton.sql fun f k =>
      p.compile (r.close f) d ctx k) cs ps) :
    Uniform r.IgnoresOffset Skeleton.parts fun f k =>
      Plan.compileAll (r.close f) d ctx k ps := by
  induction h with
  | nil => exact ⟨fun _ => .ok [], fun f k => rfl, fun _ _ _ => rfl⟩
  | @cons c p cs ps hp _ ih =>
      obtain ⟨outcome, heq, hblind⟩ := hp
      obtain ⟨outcomes, heqs, hblinds⟩ := ih
      refine ⟨fun k => do
        let s ← outcome k
        return s :: (← outcomes (k + s.values.length)), fun f k => ?_, fun hb k k' => ?_⟩
      · dsimp only at heq heqs ⊢
        rw [Plan.compileAll, heq]
        cases outcome k with
        | error fault => rfl
        | ok s =>
            -- The first part binds one argument for each of its gaps, under any placeholders.
            change Plan.compileAll (r.close f) d ctx (k + s.values.length) ps >>= _ =
              Except.map _ (outcomes (k + s.values.length) >>= fun ss => .ok (s :: ss))
            rw [heqs]
            cases outcomes (k + s.values.length) <;> rfl
      · dsimp only
        rw [hblind hb k k']
        congr 1
        funext s
        rw [hblinds hb]

theorem uniform_set {op : SetOperation} {ps : List Plan} (hsize : op.Admits ps.length)
    (h : Uniform r.IgnoresOffset Skeleton.parts fun f k =>
      Plan.compileAll (r.close f) d ctx k ps) :
    Uniform r.IgnoresOffset Skeleton.sql fun f k =>
      (Plan.set op ps).compile (r.close f) d ctx k := by
  obtain ⟨outcomes, heqs, hblind⟩ := h
  refine ⟨fun k => (outcomes k).map (Skeleton.chained (d.word op)), fun f k => ?_,
    fun hb k k' => ?_⟩
  · have heq := heqs f k
    dsimp only at heq ⊢
    rw [Plan.compile, heq]
    cases hss : outcomes k with
    | error fault => rfl
    | ok ss =>
        rw [hss] at heq
        -- The empty text that stands for no query is out of reach with as many parts as these.
        have hlength := Plan.length_compileAll _ _ _ heq
        rw [List.length_map] at hlength
        change Except.ok (Sql.mk (d.join op ((Skeleton.fillAll f k ss).map Dialect.parenthesize))
          (ss.flatMap Skeleton.values)) = .ok (Skeleton.sql f k (Skeleton.chained (d.word op) ss))
        rw [d.join_eq_chained (hlength ▸ hsize), Skeleton.sql, Skeleton.fill_chained,
          Skeleton.values_chained]
  · dsimp only
    rw [hblind hb k k']

end

theorem exists_ok_of_toOption_map {α β : Type} {m : Except Fault α} {g : α → β} {b : β}
    (h : m.toOption.map g = some b) : ∃ a, m = .ok a ∧ g a = b := by
  cases m with
  | error fault => cases h
  | ok a => exact ⟨a, rfl, Option.some.inj h⟩

/-! ## Main result -/

theorem uniform_compile {r : OpenRegistry} (hr : r.isPrintLinear = true) (d : Dialect)
    (ctx : Context) (e : Expression) :
    Uniform r.IgnoresOffset Skeleton.sql fun f k =>
      e.compile (r.close f) d (ctx.withArgOffset k) := by
  simp only [Expression.compile, Plan.compile_withArgOffset]
  cases hp : e.plan with
  | error fault => exact .fault _
  | ok p =>
      obtain ⟨p', hp', h⟩ := (Expression.plan_isOk_iff.mp ⟨p, hp⟩).plan_induction
        (P := fun _ p => Uniform r.IgnoresOffset Skeleton.sql fun f k =>
          p.compile (r.close f) d ctx k)
        (fun t => by simpa only [Plan.compile] using uniform_tag hr ctx t)
        (fun op cs ps hsize hps =>
          uniform_set (hps.length_eq ▸ hsize) (uniform_compileAll hps))
      obtain rfl := Except.ok.inj (hp.symm.trans hp')
      exact h

/-- A compiled query is one text with a gap for each argument. With placeholders of some kind its
gaps hold those of consecutive indexes, from that of the context on, each where its argument was
bound. Neither the texts nor the arguments depend on how placeholders are written, nor, if no gate
looks at it, on the number of arguments bound before. -/
theorem compile_eq_fill {r : OpenRegistry} (hr : r.isPrintLinear = true) (f : Placeholder)
    (d : Dialect) (ctx : Context) (e : Expression) {sql : Sql}
    (h : e.compile (r.close f) d ctx = .ok sql) :
    ∃ s : Skeleton, sql.query = s.fill f ctx.argOffset ∧ sql.args = s.values ∧
      (∀ f', e.compile (r.close f') d ctx = .ok ⟨s.fill f' ctx.argOffset, s.values⟩) ∧
      (r.IgnoresOffset → ∀ f' k, e.compile (r.close f') d (ctx.withArgOffset k) =
        .ok ⟨s.fill f' k, s.values⟩) := by
  obtain ⟨outcome, heq, hblind⟩ := uniform_compile hr d ctx e
  have hctx : ctx.withArgOffset ctx.argOffset = ctx := rfl
  have hhere := heq f ctx.argOffset
  dsimp only at heq hhere
  rw [hctx, h] at hhere
  cases hs : outcome ctx.argOffset with
  | error fault =>
      rw [hs] at hhere
      cases hhere
  | ok s =>
      rw [hs] at hhere
      cases hhere
      refine ⟨s, rfl, rfl, fun f' => ?_, fun hb f' k => ?_⟩
      · have hother := heq f' ctx.argOffset
        rw [hctx, hs] at hother
        exact hother
      · have hother := heq f' k
        rw [hblind hb k ctx.argOffset, hs] at hother
        exact hother

/-- Builders on a list of countries, which a gate splits, and on an age. -/
def countryAndAge : OpenRegistry where
  builders := [
    .sql (.wrapped (.template ⟨"country", "Country", "", "", none⟩
        "country IN (\x7b\x7b argEach .values \x7d\x7d)")
      [fun _ params => .ok (Stock.splitValues params)] []),
    .sql (.template ⟨"age", "Age", "", "", none⟩ "age >= \x7b\x7b .min | arg \x7d\x7d")]

theorem countryAndAge_ignoresOffset : countryAndAge.IgnoresOffset := by
  intro id b hb
  have hmem : OpenEntry.sql b ∈ countryAndAge.builders := Fields.mem_of_get?_byKey OpenEntry.id hb
  simp only [countryAndAge, List.mem_cons, OpenEntry.sql.injEq, List.not_mem_nil, or_false] at hmem
  rcases hmem with rfl | rfl <;> simp [OpenBuilder.IgnoresOffset, Gate.IgnoresOffset]

/-- Those from two countries who have not reached an age. -/
def countryBelowAge : Expression :=
  .ofSet .except [
    .ofTag ⟨"country", [("values", .str "DE,FR")]⟩,
    .ofTag ⟨"age", [("min", .ofNat 18)]⟩]

theorem compile_countryBelowAge :
    ∃ s : Skeleton,
      (∀ f k, countryBelowAge.compile (countryAndAge.close f) Dialect.postgres
        (Context.background.withArgOffset k) = .ok ⟨s.fill f k, s.values⟩) ∧
      s.fill PlaceholderStyle.dollar.format 0 = "(country IN ($1, $2)) EXCEPT (age >= $3)" ∧
      Value.textsOf s.values = ["DE", "FR", "18"] := by
  have hquery : (countryBelowAge.compile (countryAndAge.close PlaceholderStyle.dollar.format)
      Dialect.postgres Context.background).toOption.map
        (fun sql => (sql.query, Value.textsOf sql.args)) =
      some ("(country IN ($1, $2)) EXCEPT (age >= $3)", ["DE", "FR", "18"]) := by
    decide +kernel
  obtain ⟨sql, hok, hshown⟩ := exists_ok_of_toOption_map hquery
  obtain ⟨s, hfill, hvalues, -, hevery⟩ :=
    compile_eq_fill (by decide +kernel) PlaceholderStyle.dollar.format Dialect.postgres
      Context.background countryBelowAge hok
  refine ⟨s, fun f k => hevery countryAndAge_ignoresOffset f k, ?_, ?_⟩
  · exact hfill.symm.trans (congrArg Prod.fst hshown)
  · rw [← hvalues]
    exact congrArg Prod.snd hshown

/-- A builder on the number of arguments bound before, which its gate hands on to be bound. -/
def argumentCount : OpenRegistry where
  builders := [.sql (.wrapped
    (.template ⟨"count", "Count", "", "", none⟩ "\x7b\x7b arg .before \x7d\x7d")
      [fun ctx _ => .ok [("before", .ofNat ctx.argOffset)]] [])]

/-- Behind a gate that looks at the number of arguments bound before, what is bound may depend on
it. -/
theorem args_depend_on_offset :
    ¬ ∀ (r : OpenRegistry) (f : Placeholder) (d : Dialect) (ctx : Context) (e : Expression)
        (sql : Sql), r.isPrintLinear = true → e.compile (r.close f) d ctx = .ok sql →
      ∃ s : Skeleton, sql.query = s.fill f ctx.argOffset ∧ sql.args = s.values ∧
        ∀ f' k sql', e.compile (r.close f') d (ctx.withArgOffset k) = .ok sql' →
          sql' = ⟨s.fill f' k, s.values⟩ := by
  intro h
  have hcount : ∀ k ∈ [0, 7], ((Expression.ofTag ⟨"count", []⟩).compile
      (argumentCount.close fun _ => "?") Dialect.postgres
        (Context.background.withArgOffset k)).toOption.map (fun sql => Value.textsOf sql.args) =
          some [intText k] := by
    decide +kernel
  obtain ⟨sql, hsql, hargs⟩ := exists_ok_of_toOption_map (hcount 0 (by simp))
  obtain ⟨sql', hsql', hargs'⟩ := exists_ok_of_toOption_map (hcount 7 (by simp))
  obtain ⟨s, -, hvalues, hsame⟩ := h _ _ _ _ _ sql (by decide +kernel) hsql
  have hvalues' : sql'.args = s.values := by rw [hsame _ 7 sql' hsql']
  rw [hvalues', ← hvalues, hargs] at hargs'
  revert hargs'
  decide

end Cohort
