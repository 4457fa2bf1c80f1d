import Cohort.Placeholder
import Cohort.Registry
import Cohort.Stock.Event
import Cohort.Toml.Reader

/-! # Catalogs: categories and builders by description -/

namespace Cohort

open Document

/-- A builder that is described and not yet made. -/
inductive BuilderSpec where
  | text (field : Stock.FieldTag) (options : List SelectOption)
  | number (field : Stock.FieldTag) (min max : Extended)
  | period (field : Stock.FieldTag) (includeTime : Bool)
  | event (name label : String) (category : Option String)
  /-- A template, with fragments that the registry will read, and a placeholder style of its own. -/
  | template (metadata : Metadata) (source : String) (fragments : List Value)
      (placeholder : Option PlaceholderStyle)

/-- Categories and builders to be registered. -/
structure Catalog where
  categories : List Category := []
  builders : List BuilderSpec := []

/-! ## Installing -/

namespace BuilderSpec

/-- The view of fragments; none if there are none. -/
def viewOf (r : Registry) (fragments : List Value) : Except Fault (Option View) := do
  let fragments ← fragments.mapM r.fragmentOf
  return if fragments.isEmpty then none else some ⟨fragments⟩

/-- Makes a builder. Fragments are read by those that the registry holds. -/
def make (r : Registry) (style : PlaceholderStyle) : BuilderSpec → Except Fault Builder
  | .text field options => .ok (.sql (Stock.textBuilder field options style.format))
  | .number field min max => .ok (.sql (Stock.numberBuilder field min max style.format).toSqlBuilder)
  | .period field includeTime =>
    .ok (.sql (Stock.periodBuilder field includeTime style.format).toSqlBuilder)
  | .event name label category =>
    .ok (.sql (Stock.eventBuilder name label category style.format).toSqlBuilder)
  | .template metadata source fragments own => do
    let view ← viewOf r fragments
    let builder : TemplateBuilder :=
      ⟨{ metadata with view := view }, source, (own.getD style).format⟩
    return .sql builder.toSqlBuilder

end BuilderSpec

/-- Registers entries in order, up to the first that fails. What was registered before it stays. -/
def Registry.registerEach {α : Type} (step : Registry → α → Except Fault Registry) :
    Registry → List α → Registry × Except Fault Unit
  | r, [] => (r, .ok ())
  | r, x :: rest =>
    match step r x with
    | .ok next => registerEach step next rest
    | .error fault => (r, .error fault)

/-- Registers a builder of a catalog. -/
def Registry.registerSpec (style : PlaceholderStyle) (r : Registry) (spec : BuilderSpec) :
    Except Fault Registry := do
  r.registerBuilder (← spec.make r style)

/-- Registers all categories and then all builders of a catalog, up to the first that fails. -/
def Catalog.install (c : Catalog) (style : PlaceholderStyle) (r : Registry) :
    Registry × Except Fault Unit :=
  match r.registerEach Registry.registerCategory c.categories with
  | (r, .ok ()) => r.registerEach (Registry.registerSpec style) c.builders
  | (r, .error fault) => (r, .error fault)

/-! ## Documents -/

namespace BuilderSpec

/-- The tag on a column of named fields. -/
def fieldTag? (fields : Fields Document) : Option Stock.FieldTag := do
  return {
    id := ← field? fields "id" text?
    name := ← field? fields "name" text?
    description := ← fieldOr? fields "description" text? ""
    categoryId := ← fieldOr? fields "category" text? ""
    column := ← field? fields "field" text? }

/-- The names of the fields of a tag on a column. -/
def fieldTagNames : List String := ["id", "name", "description", "category", "field"]

/-- Null, or an object without fields. -/
def isBlank : Document → Bool
  | .null => true
  | .obj [] => true
  | _ => false

/-- The builder of a kind by the rest of its description. -/
def ofKind? (kind : String) (d : Document) : Option BuilderSpec :=
  match kind with
  | "string" => do
    let fields ← d.fields? ("options" :: fieldTagNames)
    return .text (← fieldTag? fields)
      (← fieldOr? fields "options" (list? SelectOption.ofDocument?) [])
  | "number" => do
    let fields ← d.fields? ("min" :: "max" :: fieldTagNames)
    return .number (← fieldTag? fields) (← fieldOr? fields "min" bound? .zero)
      (← fieldOr? fields "max" bound? .zero)
  | "date_range" => do
    let fields ← d.fields? ("include_time" :: fieldTagNames)
    return .period (← fieldTag? fields) (← fieldOr? fields "include_time" flag? false)
  | "event" => do
    let fields ← d.record? ["event", "label", "category"]
    return .event (← field? fields "event" text?) (← field? fields "label" text?)
      (← fieldOr? fields "category" (nullable? text?) none)
  | "template" => do
    let fields ← d.record?
      ["id", "name", "description", "category", "sql", "fragments", "placeholder"]
    let metadata : Metadata := {
      id := ← field? fields "id" text?
      name := ← field? fields "name" text?
      description := ← fieldOr? fields "description" text? ""
      categoryId := ← fieldOr? fields "category" text? "" }
    return .template metadata (← field? fields "sql" text?)
      (← fieldOr? fields "fragments" (list? fun v => some v.toValue) [])
      (← fieldOr? fields "placeholder"
        (nullable? (choice? isBlank PlaceholderStyle.ofName?)) none)
  | _ => none

/-- The builder of a document, by the kind that it names; in a list the kind comes first. -/
def ofDocument? : Document → Option BuilderSpec
  | .obj fields => do
    ofKind? (← field? fields "kind" text?) (.obj (fields.filter fun entry => entry.1 != "kind"))
  | .arr (.str kind :: rest) => ofKind? kind (.arr rest)
  | _ => none

end BuilderSpec

namespace Catalog

/-- The category of a document; in a list the first three items count. -/
def category? : Document → Option Category
  | .arr items => Category.ofDocument? (.arr (items.take 3))
  | d => Category.ofDocument? d

/-- The catalog of a document, which has no other fields. -/
def ofDocument? : Document → Option Catalog
  | .obj fields => do
    if fields.all fun entry => ["categories", "builders"].contains entry.1 then
      return {
        categories := ← fieldOr? fields "categories" (list? category?) []
        builders := ← fieldOr? fields "builders" (list? BuilderSpec.ofDocument?) [] }
    else none
  | _ => none

/-- The catalog of a TOML text. -/
def ofToml (text : String) : Except Fault Catalog :=
  match (Toml.read? text).bind ofDocument? with
  | some c => .ok c
  | none => .error .toml

/-! ## The catalog of the program -/

/-- The catalog that is used where none is given. -/
def demo : Catalog where
  categories := [⟨"demographics", "Demographics", "Who the user is"⟩,
    ⟨"activities", "Activities", "What the user did"⟩]
  builders := [
    .text ⟨"user_gender", "Gender", "Filter users by gender", "demographics", "gender"⟩
      [⟨.str "MALE", "Male"⟩, ⟨.str "FEMALE", "Female"⟩],
    .text ⟨"user_country", "Country", "", "demographics", "country"⟩ [],
    .number ⟨"user_age", "Age", "Filter users by age", "demographics", "age"⟩ (Stock.wholeBound 0)
      (Stock.wholeBound 150),
    .period ⟨"user_signup", "Signup Date", "", "demographics", "created_at"⟩ false,
    .event "PURCHASE" "Purchase" none,
    .event "LOGIN" "Login" none]

end Catalog

end Cohort
