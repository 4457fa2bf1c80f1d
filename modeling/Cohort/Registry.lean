import Cohort.Builder.Wire

/-! # Registries: the categories, builders and fragments in use -/

namespace Cohort

/-- What is registered. Categories and builders are kept in order of registration, and once more by
their identifiers for look-up. -/
structure Registry where
  categories : List Category := []
  categoriesById : Fields Category := Fields.byKey Category.id categories
  builders : List Builder := []
  buildersById : Fields Builder := Fields.byKey Builder.id builders
  /-- The fragment that stands for each type. -/
  prototypes : List (FragmentType × Fragment) := []

/-- A category and what is told of its builders. -/
structure CategoryGroup where
  category : Category
  builders : List Metadata

namespace Registry

/-- The registry without entries. -/
def empty : Registry := {}

instance : Inhabited Registry := ⟨empty⟩

/-! ## Look-up -/

/-- The category of an identifier. -/
def category? (r : Registry) (id : String) : Option Category :=
  Fields.get? r.categoriesById id

/-- The builder of an identifier. -/
def builder? (r : Registry) (id : String) : Option Builder :=
  Fields.get? r.buildersById id

/-- The fragment that stands for a type. -/
def prototype? (r : Registry) (t : FragmentType) : Option Fragment :=
  List.lookup t r.prototypes

/-- The fragment that stands for a type, which has to be registered. -/
def prototype (r : Registry) (t : FragmentType) : Except Fault Fragment :=
  match r.prototype? t with
  | some f => .ok f
  | none => .error (.unknownFragmentType t.name)

/-! ## Registration -/

/-- Adds a category. -/
def registerCategory (r : Registry) (c : Category) : Except Fault Registry :=
  if (r.category? c.id).isSome then .error (.duplicate .category c.id)
  else .ok { r with
    categoriesById := Fields.set r.categoriesById c.id c
    categories := r.categories ++ [c] }

/-- Adds a builder. Its category, if it has one, has to be there. -/
def registerBuilder (r : Registry) (b : Builder) : Except Fault Registry :=
  let categoryId := b.metadata.categoryId
  if (r.builder? b.id).isSome then .error (.duplicate .builder b.id)
  else if !categoryId.isEmpty && (r.category? categoryId).isNone then
    .error (.unknownCategory categoryId)
  else .ok { r with
    buildersById := Fields.set r.buildersById b.id b
    builders := r.builders ++ [b] }

/-- Adds the fragment that stands for a type. -/
def registerFragment (r : Registry) (t : FragmentType) (f : Fragment) : Except Fault Registry :=
  if f.type ≠ t then .error (.prototypeMismatch t f.type)
  else if (r.prototype? t).isSome then .error (.duplicate .fragment t.name)
  else .ok { r with prototypes := r.prototypes ++ [(t, f)] }

/-- Adds the empty fragment of every type that has none yet. -/
def registerStandard (r : Registry) : Registry :=
  FragmentType.all.foldl
    (fun r t => (r.registerFragment t (.empty t)).toOption.getD r) r

/-- The registry with the empty fragment of every type. -/
def standard : Registry := registerStandard empty

/-! ## Groups -/

/-- Files what is told of a builder under its category, behind what is there. Without a category it
is not filed. -/
def fileMetadata (filed : Fields (List Metadata)) (m : Metadata) : Fields (List Metadata) :=
  if m.categoryId.isEmpty then filed
  else Fields.set filed m.categoryId ((Fields.get? filed m.categoryId).getD [] ++ [m])

/-- What is told of the builders, filed under their categories. -/
def filedMetadata (r : Registry) : Fields (List Metadata) :=
  (r.builders.map Builder.metadata).foldl fileMetadata []

/-- Gives each category in turn what is filed under it, and takes it out of the file. -/
def handOut (filed : Fields (List Metadata)) : List Category → List CategoryGroup
  | [] => []
  | c :: rest => ⟨c, (Fields.get? filed c.id).getD []⟩ :: handOut (Fields.erase filed c.id) rest

/-- The categories with their builders. Builders without a category are in no group. -/
def groups (r : Registry) : List CategoryGroup :=
  handOut r.filedMetadata r.categories

/-- Shows how many entries there are of each kind. -/
def shown (r : Registry) : String :=
  "Registry \x7b categories: " ++ intText r.categories.length ++ ", builders: " ++
    intText r.builders.length ++ ", fragments: " ++ intText r.prototypes.length ++ " \x7d"

/-! ## Views by the fragments in use -/

/-- The name of the type that a value states; if it states none, the empty name. -/
def typeNameOf : Value → String
  | .obj fields =>
    match Fields.get? fields "type" with
    | some (.str name) => name
    | _ => ""
  | _ => ""

/-- The fragment of a value, whose type has to be registered. -/
def fragmentOf (r : Registry) (item : Value) : Except Fault Fragment := do
  let name := Registry.typeNameOf item
  match FragmentType.ofName? name with
  | none => throw (.unknownFragmentType name)
  | some t =>
    let prototype ← r.prototype t
    match Fragment.ofDocumentAs? prototype.type item.toDocument with
    | some f => return f
    | none => throw .json

/-- The view of a value, by the fragments in use. -/
def viewOf (r : Registry) (v : Value) : Except Fault View := do
  match v with
  | .obj fields =>
    match Fields.get? fields "fragments" with
    | some (.arr items) => return ⟨← items.mapM r.fragmentOf⟩
    | none | some .null => return ⟨[]⟩
    | some other => throw (.settings (.fragmentsNotList other.kind))
  | other => throw (.settings (.viewNotObject other.kind))

end Registry

/-- A category and its builders as a document. -/
def CategoryGroup.toDocument (g : CategoryGroup) : Document :=
  .obj (g.category.toFields ++ [("builders", .arr (g.builders.map Metadata.toDocument))])

end Cohort
