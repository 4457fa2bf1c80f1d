import Cohort.Proofs.Document.Ordered
import Cohort.Proofs.Template.PrintLinear
import Cohort.Registry
import Cohort.Stock.Field
import Mathlib.Tactic.Common

/-! # Builders that leave the placeholders open -/

namespace Cohort

/-! ## Gates -/

/-- What a hook does that only looks at parameters: it refuses them, or hands parameters on. -/
abbrev Gate := Context → Params → Except Fault Params

namespace Gate

/-- The hook of a gate. What comes next is called in the same context, and its result is
returned. -/
def hook (g : Gate) : Hook BuildQuery :=
  fun next ctx params => do next ctx (← g ctx params)

/-- The number of arguments bound before does not matter to a gate. -/
def IgnoresOffset (g : Gate) : Prop :=
  ∀ ctx k params, g (ctx.withArgOffset k) params = g ctx params

/-- Gates are the hooks that refuse parameters, or call what comes next once in the same context and
return its result. -/
theorem exists_hook_eq_iff {h : Hook BuildQuery} :
    (∃ g : Gate, g.hook = h) ↔ ∀ ctx params,
      (∃ fault, ∀ next, h next ctx params = .error fault) ∨
        ∃ params', ∀ next, h next ctx params = next ctx params' := by
  constructor
  · rintro ⟨g, rfl⟩ ctx params
    cases hg : g ctx params with
    | error fault => exact .inl ⟨fault, fun next => by simp [hook, hg, bind, Except.bind]⟩
    | ok params' => exact .inr ⟨params', fun next => by simp [hook, hg, bind, Except.bind]⟩
  · intro hcases
    have hgate : ∀ ctx params, ∃ outcome : Except Fault Params, ∀ next,
        h next ctx params = outcome >>= next ctx := by
      intro ctx params
      rcases hcases ctx params with ⟨fault, h⟩ | ⟨params', h⟩
      · exact ⟨.error fault, h⟩
      · exact ⟨.ok params', h⟩
    choose g hg using hgate
    refine ⟨g, ?_⟩
    funext next ctx params
    exact (hg ctx params next).symm

/-- What gates one behind another make of parameters. -/
def through (gates : List Gate) (ctx : Context) (params : Params) : Except Fault Params :=
  gates.foldlM (fun params g => g ctx params) params

theorem chain_map_hook (gates : List Gate) (next : BuildQuery) (ctx : Context) (params : Params) :
    Hook.chain (gates.map hook) next ctx params = through gates ctx params >>= next ctx := by
  induction gates generalizing params with
  | nil => rfl
  | cons g gates ih =>
      rw [through, List.foldlM_cons, bind_assoc]
      change g ctx params >>= Hook.chain (gates.map hook) next ctx = _
      congr 1
      funext params'
      exact ih params'

theorem through_withArgOffset {gates : List Gate} (h : ∀ g ∈ gates, IgnoresOffset g)
    (ctx : Context) (k : Nat) (params : Params) :
    through gates (ctx.withArgOffset k) params = through gates ctx params := by
  induction gates generalizing params with
  | nil => rfl
  | cons g gates ih =>
      rw [through, through, List.foldlM_cons, List.foldlM_cons, h g (by simp)]
      congr 1
      funext params'
      exact ih (fun g hg => h g (by simp [hg])) params'

end Gate

/-! ## Builders -/

/-- A builder by a template, or one behind gates, that does not say how placeholders are written. -/
inductive OpenBuilder where
  | template (metadata : Metadata) (source : String)
  | wrapped (inner : OpenBuilder) (gates : List Gate) (metadataHooks : List (Hook Metadata))

namespace OpenBuilder

/-- The builder that writes placeholders in some way. -/
def close (placeholder : Template.Placeholder) : OpenBuilder → SqlBuilder
  | .template metadata source => (⟨metadata, source, placeholder⟩ : TemplateBuilder).toSqlBuilder
  | .wrapped inner gates metadataHooks =>
    (inner.close placeholder).wrap (gates.map Gate.hook) metadataHooks

/-- What is told of a builder. -/
def metadata : OpenBuilder → Metadata
  | .template metadata _ => metadata
  | .wrapped inner _ metadataHooks => Hook.chain metadataHooks inner.metadata

/-- The template of a builder prints what it binds, if it can be read. -/
def isPrintLinear : OpenBuilder → Bool
  | .template _ source =>
    match Template.read source with
    | .ok t => Template.Node.allPrintLinear t.nodes
    | .error _ => true
  | .wrapped inner _ _ => inner.isPrintLinear

/-- The number of arguments bound before does not matter to the gates of a builder. -/
def IgnoresOffset : OpenBuilder → Prop
  | .template _ _ => True
  | .wrapped inner gates _ => (∀ g ∈ gates, g.IgnoresOffset) ∧ inner.IgnoresOffset

theorem close_wrapped_build (placeholder : Template.Placeholder) (inner : OpenBuilder)
    (gates : List Gate) (metadataHooks : List (Hook Metadata)) (ctx : Context) (params : Params) :
    ((wrapped inner gates metadataHooks).close placeholder).build ctx params =
      Gate.through gates ctx params >>= (inner.close placeholder).build ctx :=
  Gate.chain_map_hook gates _ ctx params

/-- The stock builder on texts, open. -/
def ofText (t : Stock.FieldTag) (options : List SelectOption) : OpenBuilder :=
  let view := Stock.textView options
  .wrapped (.template t.metadata (Stock.textSource t.column))
    [fun _ params => do
      view.validate params
      return Stock.splitValues params]
    [fun _ => { t.metadata with view := some view }]

theorem close_ofText (t : Stock.FieldTag) (options : List SelectOption)
    (placeholder : Template.Placeholder) :
    (ofText t options).close placeholder = Stock.textBuilder t options placeholder := by
  simp only [ofText, close, Stock.textBuilder, List.map_cons, List.map_nil]
  congr 2
  funext next ctx params
  simp only [Gate.hook, Stock.checkAndSplit, bind_assoc, pure_bind]

end OpenBuilder

/-! ## Registries -/

/-- A builder, which may only describe something. -/
inductive OpenEntry where
  | descriptive (metadata : Metadata)
  | sql (builder : OpenBuilder)

namespace OpenEntry

/-- The builder that writes placeholders in some way. -/
def close (placeholder : Template.Placeholder) : OpenEntry → Builder
  | .descriptive m => .descriptive m
  | .sql b => .sql (b.close placeholder)

/-- The template of a builder, if it has one, prints what it binds. -/
def isPrintLinear : OpenEntry → Bool
  | .descriptive _ => true
  | .sql b => b.isPrintLinear

/-- The identifier of a builder. -/
def id : OpenEntry → String
  | .descriptive m => m.id
  | .sql b => b.metadata.id

end OpenEntry

/-- A registry whose builders all write placeholders in one way, which is left open. -/
structure OpenRegistry where
  categories : List Category := []
  categoriesById : Fields Category := Fields.byKey Category.id categories
  builders : List OpenEntry := []
  buildersById : Fields OpenEntry := Fields.byKey OpenEntry.id builders
  prototypes : List (FragmentType × Fragment) := []

namespace OpenRegistry

/-- The registry whose builders write placeholders in some way. -/
def close (placeholder : Template.Placeholder) (r : OpenRegistry) : Registry where
  categories := r.categories
  categoriesById := r.categoriesById
  builders := r.builders.map (OpenEntry.close placeholder)
  buildersById := r.buildersById.map fun entry => (entry.1, entry.2.close placeholder)
  prototypes := r.prototypes

/-- The builder of an identifier. -/
def builder? (r : OpenRegistry) (id : String) : Option OpenEntry :=
  Fields.get? r.buildersById id

/-- The templates of all builders print what they bind. -/
def isPrintLinear (r : OpenRegistry) : Bool :=
  r.buildersById.all fun entry => entry.2.isPrintLinear

/-- The number of arguments bound before does not matter to any gate. -/
def IgnoresOffset (r : OpenRegistry) : Prop :=
  ∀ id b, r.builder? id = some (.sql b) → b.IgnoresOffset

theorem close_builder? (placeholder : Template.Placeholder) (r : OpenRegistry) (id : String) :
    (r.close placeholder).builder? id = (r.builder? id).map (OpenEntry.close placeholder) :=
  Fields.get?_map (OpenEntry.close placeholder) r.buildersById id

end OpenRegistry

end Cohort
