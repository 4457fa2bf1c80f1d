import Cohort.CommandLine.Run
import Cohort.Proofs.Compile.Placeholders
import Cohort.Proofs.Compile.Sequential
import Cohort.Proofs.Expression.Simplify
import Cohort.Proofs.Stock.Trees

/-! # Checking tags and compiling them

The check builds each tag by itself, along the expression as it was submitted. The compiler builds
each behind the arguments of those before it, along an expression that may be simplified.
-/

namespace Cohort

open Template

/-! ## Builders -/

/-- The builders that print what they bind: those by a template that does, and the stock builders on
texts. -/
inductive SqlBuilder.IsPrintLinear : SqlBuilder → Prop where
  | template (b : TemplateBuilder)
      (h : (OpenBuilder.template b.metadata b.source).isPrintLinear = true) :
        IsPrintLinear b.toSqlBuilder
  | text (t : Stock.FieldTag) (options : List SelectOption) (placeholder : Placeholder)
      (h : ¬ ['\x7b', '\x7b'] <:+: t.column.toList) :
        IsPrintLinear (Stock.textBuilder t options placeholder)

theorem Stock.allPrintLinear_textNodes (column : String) :
    Node.allPrintLinear (textNodes column) = true := by
  rfl

theorem SqlBuilder.IsPrintLinear.exists_close {b : SqlBuilder} (h : b.IsPrintLinear) :
    ∃ (o : OpenBuilder) (f : Placeholder),
      o.isPrintLinear = true ∧ o.IgnoresOffset ∧ o.close f = b := by
  cases h with
  | template b h => exact ⟨.template b.metadata b.source, b.placeholder, h, trivial, rfl⟩
  | text t options f hcolumn =>
      refine ⟨.ofText t options, f, ?_, ?_, OpenBuilder.close_ofText t options f⟩
      · simp only [OpenBuilder.ofText, OpenBuilder.isPrintLinear, Stock.read_textSource hcolumn]
        exact Stock.allPrintLinear_textNodes t.column
      · simp [OpenBuilder.ofText, OpenBuilder.IgnoresOffset, Gate.IgnoresOffset]

/-- All builders of a registry that make queries print what they bind. -/
def Registry.IsPrintLinear (r : Registry) : Prop :=
  ∀ id b, r.builder? id = some (.sql b) → b.IsPrintLinear

/-! ## Tags -/

/-- A tag can be built behind any number of arguments. -/
def Tag.Builds (r : Registry) (ctx : Context) (t : Tag) : Prop :=
  ∀ k, ∃ sql, t.build r (ctx.withArgOffset k) = .ok sql

/-- `t` is the first of some tags that cannot be built, and `fault` is why, behind any number of
arguments. -/
def StopsAt (r : Registry) (ctx : Context) (tags : List Tag) (t : Tag) (fault : Fault) : Prop :=
  ∃ before after, tags = before ++ t :: after ∧ (∀ t' ∈ before, t'.Builds r ctx) ∧
    ∀ k, t.Fails r (ctx.withArgOffset k) fault

section

variable {r : Registry} {ctx : Context} {tags : List Tag} {t : Tag} {fault : Fault}

theorem Tag.builds_or_fails (hr : r.IsPrintLinear) (ctx : Context) (t : Tag) :
    t.Builds r ctx ∨ ∃ fault, ∀ k, t.Fails r (ctx.withArgOffset k) fault := by
  cases hb : r.builder? t.builderId with
  | none => exact .inr ⟨_, fun _ => .notFound hb⟩
  | some b =>
      cases b with
      | descriptive m => exact .inr ⟨_, fun _ => .descriptiveOnly hb rfl⟩
      | sql b =>
          obtain ⟨o, f, hlinear, hignores, rfl⟩ := (hr t.builderId b hb).exists_close
          obtain ⟨outcome, heq, hblind⟩ := uniform_build hlinear ctx t.params
          dsimp only at heq
          cases houtcome : outcome 0 with
          | ok s =>
              refine .inl fun k => ⟨s.sql f k, ?_⟩
              simp only [Tag.build, hb, Builder.sql?, heq, hblind hignores k 0, houtcome]
              rfl
          | error cause =>
              refine .inr ⟨.build t.builderId cause, fun k => .build hb rfl ?_⟩
              rw [heq, hblind hignores k 0, houtcome]
              rfl

theorem builds_or_stops (hr : r.IsPrintLinear) (ctx : Context) (tags : List Tag) :
    (∀ t ∈ tags, t.Builds r ctx) ∨ ∃ t fault, StopsAt r ctx tags t fault := by
  induction tags with
  | nil => simp
  | cons t tags ih =>
      obtain ht | ⟨fault, ht⟩ := t.builds_or_fails hr ctx
      · obtain htags | ⟨t', fault, before, after, rfl, hbefore, hfails⟩ := ih
        · exact .inl (List.forall_mem_cons.mpr ⟨ht, htags⟩)
        · refine .inr ⟨t', fault, t :: before, after, rfl, ?_, hfails⟩
          exact List.forall_mem_cons.mpr ⟨ht, hbefore⟩
      · exact .inr ⟨t, fault, [], tags, rfl, by simp, ht⟩

theorem exists_builtInOrder (h : ∀ t ∈ tags, t.Builds r ctx) (k : Nat) :
    ∃ sqls, BuiltInOrder r ctx k tags sqls := by
  induction tags generalizing k with
  | nil => exact ⟨[], builtInOrder_nil⟩
  | cons t tags ih =>
      obtain ⟨ht, htags⟩ := List.forall_mem_cons.mp h
      obtain ⟨sql, hsql⟩ := ht k
      obtain ⟨sqls, hsqls⟩ := ih htags (k + (Sql.argsOf [sql]).length)
      exact ⟨[sql] ++ sqls, (builtInOrder_singleton hsql).append hsqls⟩

theorem StopsAt.failsFirst (h : StopsAt r ctx tags t fault) (k : Nat) :
    FailsFirst r ctx k tags fault := by
  obtain ⟨before, after, rfl, hbefore, hfails⟩ := h
  obtain ⟨sqls, hsqls⟩ := exists_builtInOrder hbefore k
  exact ⟨before, t, after, sqls, rfl, hsqls, hfails _⟩

end

/-! ## The compiler -/

section

variable {r : Registry} {ctx : Context} {e : Expression} {t : Tag} {fault : Fault}

theorem Expression.WellFormed.exists_compile (hwf : e.WellFormed) (v : Vocabulary)
    (h : ∀ t ∈ e.leaves, t.Builds r ctx) : ∃ sql, e.compile r v ctx = .ok sql := by
  have hpass : OnePass r v.nodeText ctx ctx.argOffset e (e.compile r v ctx) :=
    hwf.onePass_compile fun _ _ _ => rfl
  generalize e.compile r v ctx = result at hpass ⊢
  cases hpass with
  | ok hbuilt hquery => exact ⟨_, rfl⟩
  | error hfails =>
      obtain ⟨sqls, hsqls⟩ := exists_builtInOrder h ctx.argOffset
      exact absurd hfails hsqls.not_failsFirst

theorem Expression.WellFormed.compile_of_stopsAt (hwf : e.WellFormed) (v : Vocabulary)
    (h : StopsAt r ctx e.leaves t fault) : e.compile r v ctx = .error fault := by
  have hpass : OnePass r v.nodeText ctx ctx.argOffset e (e.compile r v ctx) :=
    hwf.onePass_compile fun _ _ _ => rfl
  generalize e.compile r v ctx = result at hpass ⊢
  have hfirst := h.failsFirst ctx.argOffset
  cases hpass with
  | ok hbuilt hquery => exact absurd hfirst hbuilt.not_failsFirst
  | error hfails => rw [hfails.unique hfirst]

end

/-! ## The check -/

namespace CommandLine

section

variable {r : Registry} {e : Expression} {tags : List Tag} {t : Tag} {fault : Fault}

theorem checkTag_of_builds (h : t.Builds r .background) : checkTag r t = .ok () := by
  obtain ⟨sql, hsql⟩ := h 0
  have hbuild : t.build r .background = .ok sql := hsql
  rw [checkTag, hbuild]

theorem checkTag_of_fails (h : ∀ k, t.Fails r (Context.background.withArgOffset k) fault) :
    checkTag r t = .error (.ofTag fault) := by
  have hbuild : t.build r .background = .error fault := (Tag.build_eq_error_iff r _).mpr (h 0)
  rw [checkTag, hbuild]

theorem forM_checkTag_of_builds (h : ∀ t ∈ tags, t.Builds r .background) :
    forM tags (checkTag r) = .ok () := by
  induction tags with
  | nil => rfl
  | cons t tags ih =>
      obtain ⟨ht, htags⟩ := List.forall_mem_cons.mp h
      rw [List.forM_cons, checkTag_of_builds ht, ih htags]
      rfl

theorem forM_checkTag_of_stopsAt (h : StopsAt r .background tags t fault) :
    forM tags (checkTag r) = .error (.ofTag fault) := by
  obtain ⟨before, after, rfl, hbefore, hfails⟩ := h
  rw [List.forM_append, forM_checkTag_of_builds hbefore, List.forM_cons, checkTag_of_fails hfails]
  rfl

theorem checkTagsOf_eq_forM (cs : List Expression) :
    checkTagsOf r cs = forM cs (checkTags r) := by
  induction cs with
  | nil =>
      rw [checkTagsOf]
      rfl
  | cons c cs ih => rw [checkTagsOf, ih, List.forM_cons]

theorem checkTags_ofTag (t : Tag) : checkTags r (.ofTag t) = checkTag r t := by
  have hs := Expression.shape_ofTag t
  rw [Expression.ofTag] at hs ⊢
  rw [checkTags, hs]

theorem checkTags_ofSet {op : SetOperation} {cs : List Expression} (h : op.Admits cs.length) :
    checkTags r (.ofSet op cs) = forM cs (checkTags r) := by
  have hs := Expression.shape_ofSet h
  rw [← checkTagsOf_eq_forM]
  cases op <;> rw [Expression.ofSet] at hs ⊢ <;> rw [checkTags, hs]

/-- A well-formed expression is checked tag by tag, from left to right. -/
theorem checkTags_eq_forM (h : e.WellFormed) : checkTags r e = forM e.leaves (checkTag r) := by
  induction h with
  | tag t =>
      rw [checkTags_ofTag, Expression.leaves_ofTag, List.forM_cons]
      cases checkTag r t <;> rfl
  | @set op cs hsize _ ih =>
      rw [checkTags_ofSet hsize, Expression.leaves_ofSet]
      clear * - ih
      induction cs with
      | nil => rfl
      | cons c cs ihcs =>
          obtain ⟨hc, hcs⟩ := List.forall_mem_cons.mp ih
          rw [List.forM_cons, List.flatMap_cons, List.forM_append, hc, ihcs hcs]

end

/-! ## Main result -/

/-- The check of an accepted expression and its compilation agree, whether or not it is simplified.
They succeed together, or fail for the same reason at the same tag: it is the first that cannot be
built, in the order of both and behind any number of arguments. -/
theorem checkTags_agrees {r : Registry} (hr : r.IsPrintLinear) (v : Vocabulary) {e : Expression}
    (h : e.validate = .ok ()) (simplifying : Bool) :
    let e' := if simplifying then e.simplify else e
    e'.leaves = e.leaves ∧
      (checkTags r e = .ok () ↔ ∃ sql, e'.compile r v .background = .ok sql) ∧
      ∀ fault, e'.compile r v .background = .error fault →
        checkTags r e = .error (.ofTag fault) ∧ ∃ t, StopsAt r .background e.leaves t fault := by
  intro e'
  rw [Expression.validate_eq_ok_iff] at h
  obtain ⟨hwf, hleaves⟩ : e'.WellFormed ∧ e'.leaves = e.leaves := by
    cases simplifying with
    | false => exact ⟨h, rfl⟩
    | true =>
        obtain ⟨hwf, hleaves, -⟩ := h.simplify_agrees fun _ => (∅ : Set Empty)
        exact ⟨hwf, hleaves⟩
  refine ⟨hleaves, ?_⟩
  rw [checkTags_eq_forM h]
  obtain hbuilds | ⟨t, fault, hstops⟩ := builds_or_stops hr .background e.leaves
  · obtain ⟨sql, hsql⟩ := hwf.exists_compile v (hleaves ▸ hbuilds)
    rw [forM_checkTag_of_builds hbuilds, hsql]
    simp
  · rw [forM_checkTag_of_stopsAt hstops, hwf.compile_of_stopsAt v (hleaves ▸ hstops)]
    simp only [reduceCtorEq, exists_false, Except.error.injEq, true_and]
    rintro _ rfl
    exact ⟨rfl, t, hstops⟩

/-- Builders on an age and on a place, and one that only describes something. -/
def ageAndPlace : Registry where
  builders := [
    .sql (⟨⟨"age", "Age", "", "", none⟩, "age >= \x7b\x7b .min | arg \x7d\x7d",
      PlaceholderStyle.dollar.format⟩ : TemplateBuilder).toSqlBuilder,
    .sql (Stock.textBuilder ⟨"place", "Place", "", "", "place"⟩ [] PlaceholderStyle.dollar.format),
    .descriptive ⟨"note", "Note", "", "", none⟩]

theorem ageAndPlace_isPrintLinear : ageAndPlace.IsPrintLinear := by
  intro id b hb
  have hmem : Builder.sql b ∈ ageAndPlace.builders := Fields.mem_of_get?_byKey Builder.id hb
  simp only [ageAndPlace, List.mem_cons, Builder.sql.injEq, List.not_mem_nil, or_false,
    reduceCtorEq] at hmem
  obtain rfl | rfl := hmem
  · exact .template _ (by decide +kernel)
  · exact .text _ _ _ (by decide)

/-- Those of an age, or of an age and with a tag besides. -/
def agedOrTagged (t : Tag) : Expression :=
  let age := Expression.ofTag ⟨"age", [("min", .ofNat 18)]⟩
  .ofSet .union [age, .ofSet .union [.ofSet .intersect [age, .ofTag t]]]

theorem checkTags_agrees_agedOrTagged :
    (∃ sql, (agedOrTagged ⟨"age", [("min", .ofNat 65)]⟩).simplify.compile ageAndPlace
      Dialect.mySql .background = .ok sql) ∧
    ∃ fault t, (agedOrTagged ⟨"place", [("operator", .str "EQ")]⟩).compile ageAndPlace
        Dialect.mySql .background = .error fault ∧
      checkTags ageAndPlace (agedOrTagged ⟨"place", [("operator", .str "EQ")]⟩) =
        .error (.ofTag fault) ∧
      StopsAt ageAndPlace .background
        (agedOrTagged ⟨"place", [("operator", .str "EQ")]⟩).leaves t fault := by
  constructor
  · obtain ⟨-, hiff, -⟩ := checkTags_agrees ageAndPlace_isPrintLinear Dialect.mySql
      (e := agedOrTagged ⟨"age", [("min", .ofNat 65)]⟩) rfl true
    have hok : (checkTags ageAndPlace (agedOrTagged ⟨"age", [("min", .ofNat 65)]⟩)).isOk =
        true := by
      decide +kernel
    cases hchecked : checkTags ageAndPlace (agedOrTagged ⟨"age", [("min", .ofNat 65)]⟩) with
    | ok _ => exact hiff.mp hchecked
    | error fault =>
        rw [hchecked] at hok
        cases hok
  · -- The place has no value, which its form refuses.
    obtain ⟨-, -, hfails⟩ := checkTags_agrees ageAndPlace_isPrintLinear Dialect.mySql
      (e := agedOrTagged ⟨"place", [("operator", .str "EQ")]⟩) rfl false
    have hok : ((agedOrTagged ⟨"place", [("operator", .str "EQ")]⟩).compile ageAndPlace
        Dialect.mySql .background).isOk = false := by
      decide +kernel
    cases hcompiled : (agedOrTagged ⟨"place", [("operator", .str "EQ")]⟩).compile ageAndPlace
        Dialect.mySql .background with
    | ok sql =>
        rw [hcompiled] at hok
        cases hok
    | error fault =>
        obtain ⟨hchecked, t, hstops⟩ := hfails fault hcompiled
        exact ⟨fault, t, rfl, hchecked, hstops⟩

end CommandLine

end Cohort
