import Cohort.Catalog
import Cohort.Proofs.Fragment.Passing
import Cohort.Proofs.Template.Choice
import Cohort.Proofs.Template.Source.Reading
import Cohort.Proofs.Template.Source.Steps
import Cohort.Proofs.Template.Spreading

/-! # What is bound was offered

The form of a catalog builder and its template read one parameter, each in its own way. A choice of
several splits a text at its commas, `argEach` does not.
-/

namespace Cohort

open Template

/-! ## Builders of templates -/

theorem TemplateBuilder.outcome_eq_ok_iff {α : Type} {r : Except Template.Fault α} {a : α} :
    outcome r = .ok a ↔ r = .ok a := by
  cases r <;> simp [outcome, Except.mapError]

/-- A builder gives a query if its form accepts the parameters, its source can be read and its
template gives the query. -/
theorem TemplateBuilder.build_eq_ok_iff {b : TemplateBuilder} {ctx : Context} {params : Params}
    {sql : Sql} :
    b.build ctx params = .ok sql ↔ b.check params = .ok () ∧ ∃ t, Template.read b.source = .ok t ∧
      t.render b.placeholder ctx.argOffset params = .ok sql := by
  constructor
  · intro h
    obtain ⟨_, hcheck, h⟩ := exists_of_bind_ok h
    obtain ⟨t, hread, h⟩ := exists_of_bind_ok h
    exact ⟨hcheck, t, outcome_eq_ok_iff.mp hread, outcome_eq_ok_iff.mp h⟩
  · rintro ⟨hcheck, t, hread, hrender⟩
    rw [build, hcheck, renderAt, hread]
    exact outcome_eq_ok_iff.mpr hrender

/-- The builder that a catalog makes of a template. -/
theorem BuilderSpec.exists_of_make_template {r : Registry} {style : PlaceholderStyle}
    {metadata : Metadata} {source : String} {fragments : List Value}
    {own : Option PlaceholderStyle} {b : SqlBuilder}
    (h : (BuilderSpec.template metadata source fragments own).make r style = .ok (.sql b)) :
    ∃ view, b = (TemplateBuilder.mk { metadata with view := view } source
      (own.getD style).format).toSqlBuilder := by
  obtain ⟨view, -, h⟩ := exists_of_bind_ok h
  cases h
  exact ⟨view, rfl⟩

/-! ## Submitted values -/

/-- The form and `argEach` see the same items of a value: the items of a list, or a text that is its
own only item. -/
theorem Value.toList?_eq_spread {v : Value} (hlist : v.toList?.isSome = true)
    (hown : ∀ text, v = .str text → Value.splitList text = [text]) :
    v.toList? = some v.spread := by
  cases v with
  | arr items => rfl
  | str text => simp [toList?, spread, hown text rfl]
  | _ => cases hlist

theorem paramValue_of_submitted {params : Params} {key : String} {v : Value}
    (h : submitted params key = some v) : paramValue params key = v := by
  rw [paramValue, (Option.filter_eq_some_iff.mp h).1, Option.getD_some]

/-! ## Main result -/

/-- The form of a catalog builder asks for a choice of several, which its template only gives to
`argEach`. What is bound of a list then is what was chosen from. A text is bound as it is: it is what
was chosen from unless it holds more than one item, or white space around it. -/
theorem offered_of_build {r : Registry} {style : PlaceholderStyle} {metadata : Metadata}
    {source : String} {fragments : List Value} {own : Option PlaceholderStyle} {b : SqlBuilder}
    {view : View} {s : Slot} {options : List SelectOption} {t : Template} {ctx : Context}
    {params : Params} {v : Value} {sql : Sql}
    (hmake : (BuilderSpec.template metadata source fragments own).make r style = .ok (.sql b))
    (hview : b.metadata.view = some view) (hselect : ⟨s, .select options true⟩ ∈ view.fragments)
    (hread : Template.read source = .ok t) (honly : t.onlySpreads s.key = true)
    (hskip : s.shouldSkip params = .ok false) (hv : submitted params s.key = some v)
    (hbuild : b.build ctx params = .ok sql) :
    ∀ j, t.BindsFrom (own.getD style).format ctx.argOffset params s.key j →
      ∃ w ∈ v.spread, sql.args[j]? = some w ∧
        ((∀ text, v = .str text → Value.splitList text = [text]) →
          ∃ o ∈ options, o.value.same w = true) := by
  intro j hj
  obtain ⟨view', rfl⟩ := BuilderSpec.exists_of_make_template hmake
  obtain rfl : view' = some view := hview
  obtain ⟨hcheck, t', hread', hrender⟩ := TemplateBuilder.build_eq_ok_iff.mp hbuild
  obtain rfl : t = t' := Except.ok.inj (hread.symm.trans hread')
  obtain ⟨w, hmem, hw⟩ := Template.mem_spread_of_bindsFrom honly hrender hj
  rw [paramValue_of_submitted hv] at hmem
  refine ⟨w, hmem, hw, fun hown => ?_⟩
  have hpasses : Fragment.Passes ⟨s, .select options true⟩ params :=
    View.validate_eq_ok_iff.mp hcheck _ hselect
  obtain ⟨items, hitems, hoffered⟩ :=
    Control.exists_of_check_multiple (Fragment.check_of_passes hpasses hskip hv)
  have hspread : v.toList? = some v.spread := Value.toList?_eq_spread (by simp [hitems]) hown
  obtain rfl : v.spread = items := Option.some.inj (hspread.symm.trans hitems)
  exact hoffered w hmem

/-! ## A choice of genders -/

/-- Genders to choose from. -/
def genderOptions : List SelectOption := [⟨.str "MALE", "Male"⟩, ⟨.str "FEMALE", "Female"⟩]

/-- The choice of several genders, as a catalog describes it. -/
def genderFragment : Value :=
  .obj [("key", .str "gender"), ("multiple", .bool true),
    ("options", .arr
      (genderOptions.map fun o => .obj [("label", .str o.label), ("value", o.value)])),
    ("type", .str "SELECT")]

/-- The users of some genders. -/
def genderTemplate : Template where
  nodes := [.text "SELECT user_id FROM users WHERE gender IN (", .action (.argEach "gender"),
    .text ")"]

/-- The source of the template. -/
def genderSource : String :=
  "SELECT user_id FROM users WHERE gender IN (\x7b\x7b argEach .gender \x7d\x7d)"

/-- The builder of the template, with its form. -/
def genderBuilder : TemplateBuilder where
  metadata := {
    id := "gender"
    name := "Gender"
    view := some ⟨[⟨{ key := "gender" }, .select genderOptions true⟩]⟩ }
  source := genderSource
  placeholder := PlaceholderStyle.question.format

theorem make_gender :
    (BuilderSpec.template { id := "gender", name := "Gender" } genderSource [genderFragment]
      none).make .standard .question = .ok (.sql genderBuilder.toSqlBuilder) := by
  have hview : BuilderSpec.viewOf .standard [genderFragment] =
      .ok (some ⟨[⟨{ key := "gender" }, .select genderOptions true⟩]⟩) := rfl
  rw [BuilderSpec.make, hview]
  rfl

theorem read_gender : Template.read genderSource = .ok genderTemplate := by
  have hsource : Node.source genderTemplate.nodes = genderSource := by decide +kernel
  have hcanonical : Node.allCanonical genderTemplate.nodes = true := by decide +kernel
  rw [← hsource, Template.read, parse_source hcanonical]
  rfl

theorem onlySpreads_gender : genderTemplate.onlySpreads "gender" = true := by decide +kernel

theorem build_gender {params : Params} {sql : Sql}
    (hcheck : (genderBuilder.check params).isOk = true)
    (hrender : genderTemplate.render PlaceholderStyle.question.format 0 params = .ok sql) :
    genderBuilder.build .background params = .ok sql :=
  TemplateBuilder.build_eq_ok_iff.mpr
    ⟨eq_ok_of_isOk hcheck, genderTemplate, read_gender, hrender⟩

theorem agreeBut_gender {v w : Value} (h : v.itemCount? = w.itemCount?) :
    AgreeBut "gender" true [("gender", v)] [("gender", w)] := by
  refine ⟨fun y hy => ?_, fun _ => h⟩
  have hbeq : (y == "gender") = false := by simpa using hy
  simp [Fields.get?, List.lookup_cons, hbeq]

theorem offered_of_build_genders :
    ∃ sql, genderBuilder.build .background
        [("gender", .arr [.str "FEMALE", .str "MALE"])] = .ok sql ∧
      genderTemplate.BindsFrom PlaceholderStyle.question.format 0
        [("gender", .arr [.str "FEMALE", .str "MALE"])] "gender" 1 ∧
      ∃ w, sql.args[1]? = some w ∧ ∃ o ∈ genderOptions, o.value.same w = true := by
  have hrender : genderTemplate.render PlaceholderStyle.question.format 0
      [("gender", .arr [.str "FEMALE", .str "MALE"])] =
        .ok ⟨"SELECT user_id FROM users WHERE gender IN (?, ?)", [.str "FEMALE", .str "MALE"]⟩ := rfl
  have hbuild := build_gender (by decide +kernel) hrender
  have hbinds : genderTemplate.BindsFrom PlaceholderStyle.question.format 0
      [("gender", .arr [.str "FEMALE", .str "MALE"])] "gender" 1 :=
    ⟨[("gender", .arr [.str "FEMALE", .null])], _, _, agreeBut_gender rfl, hrender, rfl, by simp⟩
  obtain ⟨w, -, hw, hoffered⟩ := offered_of_build make_gender rfl List.mem_cons_self read_gender
    onlySpreads_gender rfl rfl hbuild 1 hbinds
  exact ⟨_, hbuild, hbinds, w, hw, hoffered (by simp)⟩

/-- Two genders that were chosen in one text are bound as one that was not offered. -/
theorem bound_unoffered :
    (BuilderSpec.template { id := "gender", name := "Gender" } genderSource [genderFragment]
        none).make .standard .question = .ok (.sql genderBuilder.toSqlBuilder) ∧
      Template.read genderSource = .ok genderTemplate ∧
      genderTemplate.onlySpreads "gender" = true ∧
      genderBuilder.build .background [("gender", .str "MALE, FEMALE")] =
        .ok ⟨"SELECT user_id FROM users WHERE gender IN (?)", [.str "MALE, FEMALE"]⟩ ∧
      genderTemplate.BindsFrom PlaceholderStyle.question.format 0
        [("gender", .str "MALE, FEMALE")] "gender" 0 ∧
      ¬ ∃ o ∈ genderOptions, o.value.same (.str "MALE, FEMALE") = true := by
  have hrender : genderTemplate.render PlaceholderStyle.question.format 0
      [("gender", .str "MALE, FEMALE")] =
        .ok ⟨"SELECT user_id FROM users WHERE gender IN (?)", [.str "MALE, FEMALE"]⟩ := rfl
  have hother : genderTemplate.render PlaceholderStyle.question.format 0 [("gender", .null)] =
      .ok ⟨"SELECT user_id FROM users WHERE gender IN (?)", [.null]⟩ := rfl
  refine ⟨make_gender, read_gender, onlySpreads_gender,
    build_gender (by decide +kernel) hrender, ?_, by decide +kernel⟩
  exact ⟨[("gender", .null)], _, _, agreeBut_gender rfl, hrender, hother, by simp⟩

end Cohort
