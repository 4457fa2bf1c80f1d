import Cohort.Proofs.Fragment.Passing
import Cohort.Proofs.Template.Choice
import Cohort.Builder.TemplateBuilder
import Cohort.Stock.Field

/-! # Forms and templates together -/

namespace Cohort.Stock

open Template

variable {params : Params}

/-- A builder answers what its form finds wrong, and of what passes the form a query. -/
def Answers (b : SqlBuilder) (ctx : Context) (params : Params) (query : Sql → Prop) : Prop :=
  ∃ view, b.metadata.view = some view ∧
    (∀ fault, view.validate params = .error fault → b.build ctx params = .error fault) ∧
    (view.validate params = .ok () → ∃ sql, b.build ctx params = .ok sql ∧ query sql)

theorem Answers.exists_build {b : SqlBuilder} {ctx : Context} {query : Sql → Prop} {view : View}
    (h : Answers b ctx params query) (hview : b.metadata.view = some view)
    (hok : (view.validate params).isOk = true) :
    ∃ sql, b.build ctx params = .ok sql ∧ query sql := by
  obtain ⟨view', hview', -, hbuild⟩ := h
  obtain rfl : view = view' := Option.some.inj (hview.symm.trans hview')
  cases hvalidate : view.validate params with
  | ok _ => exact hbuild hvalidate
  | error fault =>
      rw [hvalidate] at hok
      cases hok

theorem asks_required {key : String} (h : key ≠ "") (defaultValue : Value)
    (skipIf skipUnless : Params) :
    Slot.Asks
      { required key with defaultValue := defaultValue, skipIf := skipIf, skipUnless := skipUnless }
      key skipIf skipUnless :=
  ⟨rfl, h, rfl, rfl, rfl, rfl⟩

/-- A parameter that is chosen by name. -/
theorem name_of_passes {α : Type} {xs : List α} {name label : α → String} {s : Slot} {key : String}
    (h : s.Asks key [] [])
    (hpasses : Fragment.Passes ⟨s, .select (xs.map (optionOf name label)) false⟩ params) :
    ∃ x ∈ xs, params.get? key = some (.str (name x)) := by
  obtain ⟨v, hv, hcheck⟩ := h.of_passes h.shouldSkip_nil hpasses
  obtain ⟨o, ho, hsame⟩ := Control.exists_of_check_select hcheck
  obtain ⟨x, hx, rfl⟩ := List.mem_map.mp ho
  exact ⟨x, hx, by rw [hv, Value.eq_of_same_str hsame]⟩

/-- A text parted from what follows it at a seam of its own. -/
theorem append_seam {s t u : String} (h : s = t ++ u) (v : String) : s ++ v = t ++ (u ++ v) := by
  rw [h, String.append_assoc]

section

variable {b : TemplateBuilder} {nodes : List Node}

theorem build_of_shows {s : Skeleton} (ctx : Context)
    (hread : Template.read b.source = .ok ⟨nodes⟩) (hcheck : b.check params = .ok ())
    (hs : Shows params nodes s) :
    b.build ctx params = .ok ⟨s.fill b.placeholder ctx.argOffset, s.values⟩ := by
  have hrender : (Template.mk nodes).render b.placeholder ctx.argOffset params =
      .ok ⟨s.fill b.placeholder ctx.argOffset, s.values⟩ := Shows.render hs _ _
  rw [TemplateBuilder.build, hcheck, TemplateBuilder.renderAt, hread]
  change TemplateBuilder.outcome _ = _
  rw [hrender]
  rfl

theorem answers_of_shows {ctx : Context} {view : View} {query : Sql → Prop}
    (hview : b.metadata.view = some view)
    (hread : Template.read b.source = .ok ⟨nodes⟩)
    (h : view.validate params = .ok () → ∃ s, Shows params nodes s ∧
      query ⟨s.fill b.placeholder ctx.argOffset, s.values⟩) :
    Answers b.toSqlBuilder ctx params query := by
  have hcheck : b.check params = view.validate params := by rw [TemplateBuilder.check, hview]
  refine ⟨view, hview, fun fault hfault => ?_, fun hok => ?_⟩
  · change b.build ctx params = _
    rw [TemplateBuilder.build, hcheck, hfault]
    rfl
  · obtain ⟨s, hs, hquery⟩ := h hok
    exact ⟨_, build_of_shows ctx hread (hcheck.trans hok) hs, hquery⟩

end

end Cohort.Stock
