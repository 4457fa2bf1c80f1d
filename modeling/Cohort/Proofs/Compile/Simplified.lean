import Cohort.Placeholder
import Cohort.Proofs.Compile.Sequential
import Cohort.Proofs.Expression.Simplify

/-! # Compiling simplified expressions -/

namespace Cohort

/-- An accepted expression and its simplified form compile to the same fault, or both to the same
queries of the same tags behind the same arguments; only the text around these queries differs. -/
theorem compile_simplify (registry : Registry) (v : Vocabulary) (ctx : Context) {e : Expression}
    (h : e.validate = .ok ()) :
    (∃ fault, e.simplify.compile registry v ctx = .error fault ∧
        e.compile registry v ctx = .error fault) ∨
      ∃ sqls query query',
        e.simplify.leaves = e.leaves ∧ BuiltInOrder registry ctx ctx.argOffset e.leaves sqls ∧
        e.simplify.compile registry v ctx = .ok ⟨query', Sql.argsOf sqls⟩ ∧
        Stitched v.nodeText e.simplify (sqls.map Sql.query) query' ∧
        e.compile registry v ctx = .ok ⟨query, Sql.argsOf sqls⟩ ∧
        Stitched v.nodeText e (sqls.map Sql.query) query := by
  rw [Expression.validate_eq_ok_iff] at h
  -- Only the tags of a simplified expression count here, and any users will do to learn of them.
  obtain ⟨hwf, hleaves, -⟩ := h.simplify_agrees fun _ => (∅ : Set Empty)
  have hpass : OnePass registry v.nodeText ctx ctx.argOffset e (e.compile registry v ctx) :=
    h.onePass_compile fun _ _ _ => rfl
  have hpass' : OnePass registry v.nodeText ctx ctx.argOffset e.simplify
      (e.simplify.compile registry v ctx) :=
    hwf.onePass_compile fun _ _ _ => rfl
  generalize e.compile registry v ctx = result at hpass ⊢
  generalize e.simplify.compile registry v ctx = result' at hpass' ⊢
  cases hpass with
  | error hfails =>
      cases hpass' with
      | error hfails' =>
          rw [hleaves] at hfails'
          exact .inl ⟨_, rfl, by rw [hfails.unique hfails']⟩
      | ok hbuilt' _ => exact absurd (hleaves ▸ hfails) hbuilt'.not_failsFirst
  | ok hbuilt hquery =>
      cases hpass' with
      | error hfails' => exact absurd (hleaves ▸ hfails') hbuilt.not_failsFirst
      | ok hbuilt' hquery' =>
          rw [hleaves] at hbuilt'
          obtain rfl := hbuilt.unique hbuilt'
          exact .inr ⟨_, _, _, hleaves, hbuilt, rfl, hquery', rfl, hquery⟩

/-- A registry of builders that bind their own identifiers. -/
def echoes : Registry where
  builders := ["a", "b", "c", "d"].map fun id =>
    .sql ⟨⟨id, id, "", "", none⟩,
      fun ctx _ => .ok ⟨PlaceholderStyle.dollar.format ctx.argOffset, [.str id]⟩⟩

theorem compile_simplify_nested :
    ∃ sqls query query',
      BuiltInOrder echoes .background 0 Expression.nested.leaves sqls ∧
      Expression.nested.simplify.compile echoes Dialect.postgres .background =
        .ok ⟨query', Sql.argsOf sqls⟩ ∧
      Expression.nested.compile echoes Dialect.postgres .background =
        .ok ⟨query, Sql.argsOf sqls⟩ := by
  obtain ⟨fault, -, hfault⟩ | ⟨sqls, query, query', -, hbuilt, hsimplified, -, hnested, -⟩ :=
    compile_simplify echoes Dialect.postgres .background (e := Expression.nested) rfl
  · have hok : (Expression.nested.compile echoes Dialect.postgres .background).isOk = true := by
      decide +kernel
    rw [hfault] at hok
    cases hok
  · exact ⟨sqls, query, query', hbuilt, hsimplified, hnested⟩

end Cohort
