import Cohort.Compile

/-! # Building tags one behind another -/

namespace Cohort

/-- The arguments of queries one behind another. -/
def Sql.argsOf (sqls : List Sql) : List Value := sqls.flatMap Sql.args

@[simp] theorem Sql.argsOf_nil : argsOf [] = [] := rfl

@[simp] theorem Sql.argsOf_cons (sql : Sql) (sqls : List Sql) :
    argsOf (sql :: sqls) = sql.args ++ argsOf sqls := List.flatMap_cons

@[simp] theorem Sql.argsOf_append (before after : List Sql) :
    argsOf (before ++ after) = argsOf before ++ argsOf after := List.flatMap_append

variable (registry : Registry) (ctx : Context)

/-! ## One tag -/

/-- `fault` is why a tag cannot be built. -/
inductive Tag.Fails (t : Tag) : Fault → Prop where
  | notFound : registry.builder? t.builderId = none → Fails t (.builderNotFound t.builderId)
  | descriptiveOnly {b : Builder} :
      registry.builder? t.builderId = some b → b.sql? = none →
        Fails t (.descriptiveOnly t.builderId)
  | build {b : Builder} {s : SqlBuilder} {cause : Fault} :
      registry.builder? t.builderId = some b → b.sql? = some s →
        s.build ctx t.params = .error cause → Fails t (.build t.builderId cause)

theorem Tag.build_eq_error_iff {t : Tag} {f : Fault} :
    t.build registry ctx = .error f ↔ t.Fails registry ctx f := by
  constructor
  · intro h
    rw [Tag.build] at h
    cases hb : registry.builder? t.builderId with
    | none =>
        simp only [hb, Except.error.injEq] at h
        exact h ▸ .notFound hb
    | some b =>
        cases hs : b.sql? with
        | none =>
            simp only [hb, hs, Except.error.injEq] at h
            exact h ▸ .descriptiveOnly hb hs
        | some s =>
            cases hr : s.build ctx t.params with
            | ok sql =>
                simp only [hb, hs, hr] at h
                cases h
            | error cause =>
                simp only [hb, hs, hr] at h
                cases h
                exact .build hb hs hr
  · intro h
    cases h with
    | notFound hb => simp [Tag.build, hb]
    | descriptiveOnly hb hs => simp [Tag.build, hb, hs]
    | build hb hs hr =>
        simp only [Tag.build, hb, hs, hr]
        rfl

/-! ## Several tags -/

/-- `sqls` are the queries of `tags`, each built behind `k` arguments and those of the tags before
it. -/
structure BuiltInOrder (k : Nat) (tags : List Tag) (sqls : List Sql) : Prop where
  length_eq : sqls.length = tags.length
  build_eq : ∀ (j : Nat) (ht : j < tags.length) (hs : j < sqls.length),
    tags[j].build registry (ctx.withArgOffset (k + (Sql.argsOf (sqls.take j)).length)) =
      .ok sqls[j]

/-- `fault` is that of the first of `tags` that cannot be built. -/
def FailsFirst (k : Nat) (tags : List Tag) (fault : Fault) : Prop :=
  ∃ before t after sqls, tags = before ++ t :: after ∧ BuiltInOrder registry ctx k before sqls ∧
    t.Fails registry (ctx.withArgOffset (k + (Sql.argsOf sqls).length)) fault

variable {registry ctx} {k : Nat}

theorem builtInOrder_nil : BuiltInOrder registry ctx k [] [] :=
  ⟨rfl, by simp⟩

theorem builtInOrder_singleton {t : Tag} {sql : Sql}
    (h : t.build registry (ctx.withArgOffset k) = .ok sql) :
    BuiltInOrder registry ctx k [t] [sql] := by
  refine ⟨rfl, fun j ht hs => ?_⟩
  obtain rfl : j = 0 := by simpa using ht
  simpa using h

theorem BuiltInOrder.append {tags tags' : List Tag} {sqls sqls' : List Sql}
    (h : BuiltInOrder registry ctx k tags sqls)
    (h' : BuiltInOrder registry ctx (k + (Sql.argsOf sqls).length) tags' sqls') :
    BuiltInOrder registry ctx k (tags ++ tags') (sqls ++ sqls') := by
  obtain ⟨hlength, hbuild⟩ := h
  obtain ⟨hlength', hbuild'⟩ := h'
  refine ⟨by simp [hlength, hlength'], fun j ht hs => ?_⟩
  by_cases hj : j < tags.length
  · have hj' : j < sqls.length := hlength ▸ hj
    rw [List.getElem_append_left hj, List.getElem_append_left hj',
      List.take_append_of_le_length (Nat.le_of_lt hj')]
    exact hbuild j hj hj'
  · have hle : sqls.length ≤ j := by omega
    have ht' : j - sqls.length < tags'.length := by
      simp only [List.length_append] at ht
      omega
    have hs' : j - sqls.length < sqls'.length := by omega
    have := hbuild' (j - sqls.length) ht' hs'
    rw [List.getElem_append_right (by omega), List.getElem_append_right hle, List.take_append,
      List.take_of_length_le hle, Sql.argsOf_append, List.length_append, ← Nat.add_assoc]
    simpa [hlength] using this

theorem failsFirst_singleton {t : Tag} {fault : Fault}
    (h : t.Fails registry (ctx.withArgOffset k) fault) : FailsFirst registry ctx k [t] fault :=
  ⟨[], t, [], [], rfl, builtInOrder_nil, by simpa using h⟩

theorem FailsFirst.append_right {tags : List Tag} {fault : Fault}
    (h : FailsFirst registry ctx k tags fault) (tags' : List Tag) :
    FailsFirst registry ctx k (tags ++ tags') fault := by
  obtain ⟨before, t, after, sqls, rfl, hbuilt, hfails⟩ := h
  exact ⟨before, t, after ++ tags', sqls, by simp, hbuilt, hfails⟩

theorem BuiltInOrder.append_failsFirst {tags tags' : List Tag} {sqls : List Sql} {fault : Fault}
    (h : BuiltInOrder registry ctx k tags sqls)
    (h' : FailsFirst registry ctx (k + (Sql.argsOf sqls).length) tags' fault) :
    FailsFirst registry ctx k (tags ++ tags') fault := by
  obtain ⟨before, t, after, sqls', rfl, hbuilt, hfails⟩ := h'
  refine ⟨tags ++ before, t, after, sqls ++ sqls', by simp, h.append hbuilt, ?_⟩
  simpa [Nat.add_assoc] using hfails

/-! ## One result only -/

theorem BuiltInOrder.cons {t : Tag} {tags : List Tag} {sql : Sql} {sqls : List Sql}
    (h : BuiltInOrder registry ctx k (t :: tags) (sql :: sqls)) :
    t.build registry (ctx.withArgOffset k) = .ok sql ∧
      BuiltInOrder registry ctx (k + sql.args.length) tags sqls := by
  obtain ⟨hlength, hbuild⟩ := h
  refine ⟨hbuild 0 (by simp) (by simp), by simpa using hlength, fun j ht hs => ?_⟩
  have := hbuild (j + 1) (by simpa using ht) (by simpa using hs)
  rwa [List.take_succ_cons, Sql.argsOf_cons, List.length_append, ← Nat.add_assoc] at this

theorem BuiltInOrder.unique {tags : List Tag} {sqls sqls' : List Sql}
    (h : BuiltInOrder registry ctx k tags sqls) (h' : BuiltInOrder registry ctx k tags sqls') :
    sqls = sqls' := by
  induction tags generalizing k sqls sqls' with
  | nil =>
      rw [List.eq_nil_of_length_eq_zero h.length_eq, List.eq_nil_of_length_eq_zero h'.length_eq]
  | cons t tags ih =>
      obtain ⟨sql, sqls, rfl⟩ := List.exists_cons_of_length_eq_add_one h.length_eq
      obtain ⟨sql', sqls', rfl⟩ := List.exists_cons_of_length_eq_add_one h'.length_eq
      have hsql : sql = sql' := Except.ok.inj (h.cons.1.symm.trans h'.cons.1)
      subst hsql
      rw [ih h.cons.2 h'.cons.2]

theorem FailsFirst.cons {t : Tag} {tags : List Tag} {fault : Fault}
    (h : FailsFirst registry ctx k (t :: tags) fault) :
    t.Fails registry (ctx.withArgOffset k) fault ∨
      ∃ sql, t.build registry (ctx.withArgOffset k) = .ok sql ∧
        FailsFirst registry ctx (k + sql.args.length) tags fault := by
  obtain ⟨before, t', after, sqls, heq, hbuilt, hfails⟩ := h
  cases before with
  | nil =>
      obtain rfl := List.eq_nil_of_length_eq_zero hbuilt.length_eq
      obtain ⟨rfl, rfl⟩ := List.cons.inj heq
      exact .inl (by simpa using hfails)
  | cons t'' before =>
      obtain ⟨rfl, rfl⟩ := List.cons.inj heq
      obtain ⟨sql, sqls, rfl⟩ := List.exists_cons_of_length_eq_add_one hbuilt.length_eq
      refine .inr ⟨sql, hbuilt.cons.1, before, t', after, sqls, rfl, hbuilt.cons.2, ?_⟩
      simpa [Nat.add_assoc] using hfails

theorem BuiltInOrder.not_failsFirst {tags : List Tag} {sqls : List Sql} {fault : Fault}
    (h : BuiltInOrder registry ctx k tags sqls) : ¬ FailsFirst registry ctx k tags fault := by
  induction tags generalizing k sqls with
  | nil =>
      rintro ⟨before, t, after, _, heq, -⟩
      simp at heq
  | cons t tags ih =>
      intro hfails
      obtain ⟨sql, sqls, rfl⟩ := List.exists_cons_of_length_eq_add_one h.length_eq
      obtain ht | ⟨sql', hsql, hrest⟩ := hfails.cons
      · rw [← Tag.build_eq_error_iff, h.cons.1] at ht
        cases ht
      · obtain rfl := Except.ok.inj (h.cons.1.symm.trans hsql)
        exact ih h.cons.2 hrest

theorem FailsFirst.unique {tags : List Tag} {fault fault' : Fault}
    (h : FailsFirst registry ctx k tags fault) (h' : FailsFirst registry ctx k tags fault') :
    fault = fault' := by
  induction tags generalizing k with
  | nil =>
      obtain ⟨before, t, after, _, heq, -⟩ := h
      simp at heq
  | cons t tags ih =>
      obtain ht | ⟨sql, hsql, hrest⟩ := h.cons <;> obtain ht' | ⟨sql', hsql', hrest'⟩ := h'.cons
      · rw [← Tag.build_eq_error_iff] at ht ht'
        exact Except.error.inj (ht.symm.trans ht')
      · rw [← Tag.build_eq_error_iff, hsql'] at ht
        cases ht
      · rw [← Tag.build_eq_error_iff, hsql] at ht'
        cases ht'
      · obtain rfl := Except.ok.inj (hsql.symm.trans hsql')
        exact ih hrest hrest'

end Cohort
