import Cohort.Proofs.Registry.Extension
import Cohort.Proofs.Registry.Views

/-! # Installing a catalog

The entries of a catalog are registered one behind another. At the first that is refused the registry
is left with those before it and with nothing of that one. A catalog that was installed once is
refused at its first entry from then on.
-/

namespace Cohort

namespace Registry

variable {r r' : Registry}

/-! ## Fragments -/

section

variable {item : Value} {fault : Fault}

theorem fragmentOf_eq_ok_iff {f : Fragment} :
    r.fragmentOf item = .ok f ↔
      ∃ t prototype, FragmentType.ofName? (typeNameOf item) = some t ∧
        r.prototype? t = some prototype ∧
          Fragment.ofDocumentAs? prototype.type item.toDocument = some f := by
  rw [fragmentOf]
  cases hname : FragmentType.ofName? (typeNameOf item) with
  | none => simp [throw, throwThe, MonadExceptOf.throw]
  | some t =>
      cases hprototype : r.prototype? t with
      | none => simp [prototype, hprototype, Bind.bind, Except.bind]
      | some p =>
          cases hf : Fragment.ofDocumentAs? p.type item.toDocument <;>
            simp [prototype, hprototype, hf, Bind.bind, Except.bind, throw, throwThe,
              MonadExceptOf.throw, pure, Except.pure]

theorem Extends.fragmentOf_eq (h : r.Extends r') {f : Fragment} (hf : r.fragmentOf item = .ok f) :
    r'.fragmentOf item = .ok f := by
  obtain ⟨t, p, hname, hprototype, hdocument⟩ := fragmentOf_eq_ok_iff.mp hf
  exact fragmentOf_eq_ok_iff.mpr ⟨t, p, hname, h.prototype?_eq t p hprototype, hdocument⟩

theorem fragmentOf_congr (h : r.prototypes = r'.prototypes) : r.fragmentOf = r'.fragmentOf := by
  funext item
  simp only [fragmentOf, prototype, prototype?, h]

/-- An item that is no fragment is of a type that is not there, or malformed. -/
theorem fault_of_fragmentOf (h : r.fragmentOf item = .error fault) :
    fault = .unknownFragmentType (typeNameOf item) ∨ fault = .json := by
  by_cases hlacks : r.Lacks item
  · rw [hlacks.fragmentOf_eq] at h
    cases h
    exact .inl rfl
  · obtain ⟨t, hname, hprototype⟩ : ∃ t, FragmentType.ofName? (typeNameOf item) = some t ∧
        ∃ p, r.prototype? t = some p := by
      simpa [Lacks, Option.ne_none_iff_exists'] using hlacks
    obtain ⟨p, hp⟩ := hprototype
    cases hf : Fragment.ofDocumentAs? p.type item.toDocument with
    | some f =>
        rw [fragmentOf_eq_ok_iff.mpr ⟨t, p, hname, hp, hf⟩] at h
        cases h
    | none =>
        simp only [fragmentOf, hname, prototype, hp, Bind.bind, Except.bind, hf] at h
        cases h
        exact .inr rfl

end

section

variable {α β ε : Type} {f g : α → Except ε β} {xs : List α}

theorem mapM_eq_ok_iff {ys : List β} :
    xs.mapM f = .ok ys ↔ List.Forall₂ (fun x y => f x = .ok y) xs ys := by
  induction xs generalizing ys with
  | nil => simp [pure, Except.pure, eq_comm]
  | cons x xs ih =>
      rw [List.mapM_cons, List.forall₂_cons_left_iff]
      simp only [← ih]
      cases f x with
      | error e => simp [Bind.bind, Except.bind]
      | ok y =>
          cases xs.mapM f <;> simp [Bind.bind, Except.bind, pure, Except.pure, eq_comm]

theorem exists_of_mapM_eq_error {e : ε} (h : xs.mapM f = .error e) :
    ∃ before x after, xs = before ++ x :: after ∧ (∀ y ∈ before, ∃ z, f y = .ok z) ∧
      f x = .error e := by
  induction xs with
  | nil => cases h
  | cons x xs ih =>
      rw [List.mapM_cons] at h
      cases hx : f x with
      | error e' =>
          rw [hx] at h
          cases h
          exact ⟨[], x, xs, rfl, by simp, hx⟩
      | ok z =>
          rw [hx] at h
          cases hxs : xs.mapM f with
          | ok zs =>
              rw [hxs] at h
              cases h
          | error e' =>
              rw [hxs] at h
              cases h
              obtain ⟨before, x', after, rfl, hbefore, hx'⟩ := ih hxs
              exact ⟨x :: before, x', after, rfl, List.forall_mem_cons.mpr ⟨⟨z, hx⟩, hbefore⟩, hx'⟩

end

end Registry

/-! ## Builders -/

namespace BuilderSpec

variable {r r' : Registry} {style : PlaceholderStyle} {spec : BuilderSpec} {b : Builder}

/-- Why a description makes no builder: of its fragments one cannot be read, and those before it
can. -/
inductive Fails (r : Registry) : BuilderSpec → Fault → Prop where
  | fragment (metadata : Metadata) (source : String) (own : Option PlaceholderStyle)
      {before : List Value} {item : Value} (after : List Value) {fault : Fault} :
      (∀ earlier ∈ before, ∃ f, r.fragmentOf earlier = .ok f) →
        r.fragmentOf item = .error fault →
          fault = .unknownFragmentType (Registry.typeNameOf item) ∨ fault = .json →
            Fails r (.template metadata source (before ++ item :: after) own) fault

theorem fails_of_make {fault : Fault} (h : spec.make r style = .error fault) :
    spec.Fails r fault := by
  cases spec with
  | template metadata source fragments own =>
      cases hread : fragments.mapM r.fragmentOf with
      | ok fs => simp [make, viewOf, hread, Bind.bind, Except.bind, pure, Except.pure] at h
      | error fault' =>
          obtain rfl : fault' = fault := by
            simpa [make, viewOf, hread, Bind.bind, Except.bind] using h
          obtain ⟨before, item, after, rfl, hbefore, hitem⟩ :=
            Registry.exists_of_mapM_eq_error hread
          exact .fragment metadata source own after hbefore hitem
            (Registry.fault_of_fragmentOf hitem)
  | _ => cases h

/-! Of the registry a description looks at the fragments only. -/

theorem make_congr (h : r.prototypes = r'.prototypes) (spec : BuilderSpec) :
    spec.make r style = spec.make r' style := by
  cases spec with
  | template metadata source fragments own =>
      simp only [make, viewOf, Registry.fragmentOf_congr h]
  | _ => rfl

theorem Fails.congr {fault : Fault} (hfails : spec.Fails r fault)
    (h : r.prototypes = r'.prototypes) : spec.Fails r' fault := by
  cases hfails with
  | fragment metadata source own after hbefore hitem hfault =>
      rw [Registry.fragmentOf_congr h] at hbefore hitem
      exact .fragment metadata source own after hbefore hitem hfault

/-- The identifier of the builder that is described. -/
def id : BuilderSpec → String
  | .text field _ | .number field _ _ | .period field _ => field.id
  | .event name label categoryId => (Stock.eventMetadata name label categoryId).id
  | .template metadata _ _ _ => metadata.id

theorem id_of_make (h : spec.make r style = .ok b) : b.id = spec.id := by
  cases spec with
  | template metadata source fragments own =>
      rw [make] at h
      cases hview : viewOf r fragments with
      | error fault =>
          rw [hview] at h
          cases h
      | ok view =>
          rw [hview] at h
          cases h
          rfl
  | _ =>
      cases h
      rfl

/-- What made a builder once makes one again. -/
theorem exists_make_of_extends (h : r.Extends r') (style' : PlaceholderStyle)
    (hspec : spec.make r style = .ok b) : ∃ b', spec.make r' style' = .ok b' := by
  cases spec with
  | template metadata source fragments own =>
      cases hread : fragments.mapM r.fragmentOf with
      | error fault => simp [make, viewOf, hread, Bind.bind, Except.bind] at hspec
      | ok fs =>
          have hread' : fragments.mapM r'.fragmentOf = .ok fs :=
            Registry.mapM_eq_ok_iff.mpr
              ((Registry.mapM_eq_ok_iff.mp hread).imp fun _ _ hf => h.fragmentOf_eq hf)
          rw [make, viewOf, hread']
          exact ⟨_, rfl⟩
  | _ => exact ⟨_, rfl⟩

end BuilderSpec

namespace Registry

variable {r r' : Registry} {style : PlaceholderStyle} {cs : List Category} {bs : List BuilderSpec}

/-! ## Entry by entry -/

/-- The registry with categories and builders more, which are listed last and in order. -/
def extendedBy (r : Registry) (categories : List Category) (builders : List Builder) : Registry :=
  { r with
    categories := r.categories ++ categories
    categoriesById := categories.foldl (fun byId c => byId.set c.id c) r.categoriesById
    builders := r.builders ++ builders
    buildersById := builders.foldl (fun byId b => byId.set b.id b) r.buildersById }

theorem extendedBy_nil (r : Registry) : r.extendedBy [] [] = r := by
  simp [extendedBy]

theorem add_category_extendedBy (x : Category) (cs : List Category) (builders : List Builder) :
    (r.add (.category x)).extendedBy cs builders = r.extendedBy (x :: cs) builders := by
  simp [extendedBy, add]

theorem add_builder_extendedBy (b : Builder) (builders : List Builder) :
    (r.add (.builder b)).extendedBy [] builders = r.extendedBy [] (b :: builders) := by
  simp [extendedBy, add]

/-- Descriptions make builders, one each, with the fragments of a registry. -/
def Makes (r : Registry) (style : PlaceholderStyle) : List BuilderSpec → List Builder → Prop :=
  List.Forall₂ fun spec b => spec.make r style = .ok b

theorem makes_nil : r.Makes style [] [] := .nil

theorem Makes.cons {spec : BuilderSpec} {b : Builder} {builders : List Builder}
    (hspec : spec.make r style = .ok b) (h : r.Makes style bs builders) :
    r.Makes style (spec :: bs) (b :: builders) := List.Forall₂.cons hspec h

theorem Makes.congr {builders : List Builder} (hmakes : r.Makes style bs builders)
    (h : r.prototypes = r'.prototypes) : r'.Makes style bs builders :=
  List.Forall₂.imp (fun spec _ hspec => BuilderSpec.make_congr h spec ▸ hspec) hmakes

theorem install_cons_category (x : Category) :
    Catalog.install ⟨x :: cs, bs⟩ style r =
      match r.register (.category x) with
      | .ok next => Catalog.install ⟨cs, bs⟩ style next
      | .error fault => (r, .error fault) := by
  rw [Catalog.install, registerEach, register]
  cases r.registerCategory x <;> rfl

theorem install_cons_builder (spec : BuilderSpec) :
    Catalog.install ⟨[], spec :: bs⟩ style r =
      match spec.make r style with
      | .ok b =>
        match r.register (.builder b) with
        | .ok next => Catalog.install ⟨[], bs⟩ style next
        | .error fault => (r, .error fault)
      | .error fault => (r, .error fault) := by
  change registerEach (registerSpec style) r (spec :: bs) = _
  rw [registerEach, registerSpec]
  cases spec.make r style with
  | error fault => rfl
  | ok b =>
      change (match r.registerBuilder b with
        | .ok next => registerEach (registerSpec style) next bs
        | .error fault => (r, .error fault)) = _
      cases hb : r.registerBuilder b with
      | ok next =>
          simp only [register, hb]
          rfl
      | error fault => simp only [register, hb]

/-- What becomes of a registry when categories and builders are installed: it has all of them more, or
those before the one that cannot be registered. -/
inductive Installs (r : Registry) (style : PlaceholderStyle) :
    List Category → List BuilderSpec → Registry × Except Fault Unit → Prop where
  | whole {cs : List Category} {bs : List BuilderSpec} {builders : List Builder} :
      r.Makes style bs builders → Installs r style cs bs (r.extendedBy cs builders, .ok ())
  | upToCategory (before : List Category) {x : Category} (after : List Category)
      (bs : List BuilderSpec) {fault : Fault} :
      (r.extendedBy before []).Refuses (.category x) fault →
        Installs r style (before ++ x :: after) bs (r.extendedBy before [], .error fault)
  | upToBuilder (cs : List Category) {before : List BuilderSpec} {spec : BuilderSpec}
      (after : List BuilderSpec) {builders : List Builder} {b : Builder} {fault : Fault} :
      r.Makes style before builders → spec.make r style = .ok b →
        (r.extendedBy cs builders).Refuses (.builder b) fault →
          Installs r style cs (before ++ spec :: after) (r.extendedBy cs builders, .error fault)
  | upToFragment (cs : List Category) {before : List BuilderSpec} {spec : BuilderSpec}
      (after : List BuilderSpec) {builders : List Builder} {fault : Fault} :
      r.Makes style before builders → spec.Fails r fault →
        Installs r style cs (before ++ spec :: after) (r.extendedBy cs builders, .error fault)

section

variable {result : Registry × Except Fault Unit}

theorem Installs.cons_category {x : Category}
    (h : Installs (r.add (.category x)) style cs bs result) :
    Installs r style (x :: cs) bs result := by
  have hsame : (r.add (.category x)).prototypes = r.prototypes := rfl
  cases h with
  | whole hmakes =>
      rw [add_category_extendedBy]
      exact .whole (hmakes.congr hsame)
  | upToCategory before after bs hrefuses =>
      rw [add_category_extendedBy] at hrefuses ⊢
      exact .upToCategory (x :: before) after bs hrefuses
  | upToBuilder cs after hmakes hspec hrefuses =>
      rw [add_category_extendedBy] at hrefuses ⊢
      rw [BuilderSpec.make_congr hsame] at hspec
      exact .upToBuilder (x :: cs) after (hmakes.congr hsame) hspec hrefuses
  | upToFragment cs after hmakes hfails =>
      rw [add_category_extendedBy]
      exact .upToFragment (x :: cs) after (hmakes.congr hsame) (hfails.congr hsame)

theorem Installs.cons_builder {spec : BuilderSpec} {b : Builder} (hb : spec.make r style = .ok b)
    (h : Installs (r.add (.builder b)) style [] bs result) :
    Installs r style [] (spec :: bs) result := by
  have hsame : (r.add (.builder b)).prototypes = r.prototypes := rfl
  generalize hcs : ([] : List Category) = cs at h
  cases h with
  | whole hmakes =>
      subst hcs
      rw [add_builder_extendedBy]
      exact .whole (.cons hb (hmakes.congr hsame))
  | upToCategory before after bs hrefuses => simp at hcs
  | upToBuilder cs after hmakes hspec hrefuses =>
      subst hcs
      rw [add_builder_extendedBy] at hrefuses ⊢
      rw [BuilderSpec.make_congr hsame] at hspec
      exact .upToBuilder [] after (.cons hb (hmakes.congr hsame)) hspec hrefuses
  | upToFragment cs after hmakes hfails =>
      subst hcs
      rw [add_builder_extendedBy]
      exact .upToFragment [] after (.cons hb (hmakes.congr hsame)) (hfails.congr hsame)

end

theorem installs_builders (r : Registry) (style : PlaceholderStyle) (bs : List BuilderSpec) :
    Installs r style [] bs (Catalog.install ⟨[], bs⟩ style r) := by
  induction bs generalizing r with
  | nil =>
      have h : Installs r style [] [] (r.extendedBy [] [], .ok ()) := .whole makes_nil
      rwa [extendedBy_nil] at h
  | cons spec bs ih =>
      rw [install_cons_builder]
      cases hspec : spec.make r style with
      | error fault =>
          have hfails := BuilderSpec.fails_of_make hspec
          have h : Installs r style [] (spec :: bs) _ := .upToFragment [] bs makes_nil hfails
          rwa [extendedBy_nil] at h
      | ok b =>
          cases hb : r.register (.builder b) with
          | error fault =>
              have hrefuses : (r.extendedBy [] []).Refuses (.builder b) fault := by
                rw [extendedBy_nil]
                exact register_eq_error_iff.mp hb
              have h : Installs r style [] (spec :: bs) _ :=
                .upToBuilder [] bs makes_nil hspec hrefuses
              simp only [hb]
              rwa [extendedBy_nil] at h
          | ok next =>
              obtain ⟨-, rfl⟩ := register_eq_ok_iff.mp hb
              simp only [hb]
              exact (ih _).cons_builder hspec

theorem installs_install (r : Registry) (style : PlaceholderStyle) (c : Catalog) :
    Installs r style c.categories c.builders (c.install style r) := by
  obtain ⟨cs, bs⟩ := c
  induction cs generalizing r with
  | nil => exact installs_builders r style bs
  | cons x cs ih =>
      rw [install_cons_category]
      cases hx : r.register (.category x) with
      | error fault =>
          have hrefuses : (r.extendedBy [] []).Refuses (.category x) fault := by
            rw [extendedBy_nil]
            exact register_eq_error_iff.mp hx
          have h : Installs r style (x :: cs) bs _ := .upToCategory [] cs bs hrefuses
          rwa [extendedBy_nil] at h
      | ok next =>
          obtain ⟨-, rfl⟩ := register_eq_ok_iff.mp hx
          exact (ih _).cons_category

/-! ## Once more -/

theorem install_cons_category_of_ok {x : Category}
    (hok : (Catalog.install ⟨x :: cs, bs⟩ style r).2 = .ok ()) :
    Catalog.install ⟨x :: cs, bs⟩ style r = Catalog.install ⟨cs, bs⟩ style (r.add (.category x)) := by
  rw [install_cons_category] at hok ⊢
  cases hx : r.register (.category x) with
  | error fault =>
      rw [hx] at hok
      cases hok
  | ok next =>
      obtain ⟨-, rfl⟩ := register_eq_ok_iff.mp hx
      rfl

theorem install_cons_builder_of_ok {spec : BuilderSpec}
    (hok : (Catalog.install ⟨[], spec :: bs⟩ style r).2 = .ok ()) :
    ∃ b, spec.make r style = .ok b ∧ r.Admits (.builder b) ∧
      Catalog.install ⟨[], spec :: bs⟩ style r =
        Catalog.install ⟨[], bs⟩ style (r.add (.builder b)) := by
  rw [install_cons_builder] at hok ⊢
  cases hspec : spec.make r style with
  | error fault =>
      rw [hspec] at hok
      cases hok
  | ok b =>
      cases hb : r.register (.builder b) with
      | error fault =>
          simp only [hspec, hb] at hok
          cases hok
      | ok next =>
          obtain ⟨hadmits, rfl⟩ := register_eq_ok_iff.mp hb
          exact ⟨b, rfl, hadmits, by simp only [hb]⟩

theorem install_of_category? {x c : Category} (h : r.category? x.id = some c) :
    Catalog.install ⟨x :: cs, bs⟩ style r = (r, .error (.duplicate .category x.id)) := by
  rw [install_cons_category, register_eq_error_iff.mpr (.category h)]

theorem install_of_builder? {spec : BuilderSpec} {b b' : Builder} (hspec : spec.make r style = .ok b)
    (h : r.builder? b.id = some b') :
    Catalog.install ⟨[], spec :: bs⟩ style r = (r, .error (.duplicate .builder b.id)) := by
  rw [install_cons_builder, hspec]
  simp only [register_eq_error_iff.mpr (.builder h)]

/-- A registry that has what was installed refuses the first entry of the same catalog. -/
theorem install_again {c : Catalog} (hne : c.categories ≠ [] ∨ c.builders ≠ [])
    (hok : (c.install style r).2 = .ok ()) (h : (c.install style r).1.Extends r')
    (style' : PlaceholderStyle) :
    ∃ kind id, c.install style' r' = (r', .error (.duplicate kind id)) := by
  match c with
  | ⟨[], []⟩ => simp at hne
  | ⟨x :: cs, bs⟩ =>
      rw [install_cons_category_of_ok hok] at h
      have hfound : (r.add (.category x)).category? x.id = some x := Fields.get?_set_self
      have hlater := ((grows_install _ _ _).extends.trans h).category?_eq _ _ hfound
      exact ⟨_, _, install_of_category? hlater⟩
  | ⟨[], spec :: bs⟩ =>
      obtain ⟨b, hspec, hadmits, heq⟩ := install_cons_builder_of_ok hok
      rw [heq] at h
      have hnext : (r.add (.builder b)).Extends r' := (grows_install _ _ _).extends.trans h
      obtain ⟨b', hb'⟩ :=
        BuilderSpec.exists_make_of_extends ((extends_add hadmits).trans hnext) style' hspec
      have hfound : (r.add (.builder b)).builder? b.id = some b := Fields.get?_set_self
      have hid : b.id = b'.id := by
        rw [BuilderSpec.id_of_make hspec, BuilderSpec.id_of_make hb']
      have hlater : r'.builder? b'.id = some b := hid ▸ hnext.builder?_eq _ _ hfound
      exact ⟨_, _, install_of_builder? hb' hlater⟩

/-! ## Main result -/

/-- An installation leaves all the entries of a catalog behind, or those before the first that cannot
be registered, in order and nothing else; what was there stays. Once it has succeeded it fails at
once, whatever is called in between, and changes nothing. -/
theorem install_leaves (c : Catalog) (style : PlaceholderStyle) (r : Registry) :
    Installs r style c.categories c.builders (c.install style r) ∧
      r.Extends (c.install style r).1 ∧
      (c.categories ≠ [] ∨ c.builders ≠ [] → (c.install style r).2 = .ok () →
        ∀ (calls : List Call) (style' : PlaceholderStyle), ∃ kind id,
          c.install style' ((c.install style r).1.after calls) =
            ((c.install style r).1.after calls, .error (.duplicate kind id))) :=
  ⟨installs_install r style c, (grows_install c style r).extends, fun hne hok calls style' =>
    install_again hne hok (grows_after _ calls).extends style'⟩

/-- A category with a form and, if asked for, one more form, whose second fragment is malformed. -/
def surveyCatalog (malformed : Bool) : Catalog :=
  let form (id : String) (fragments : List Value) : BuilderSpec :=
    .template ⟨id, "", "", "survey", none⟩ "age > {{ .age }}" fragments none
  let age : Value := .obj [("type", .str "NUMBER_INPUT"), ("key", .str "age")]
  let name : Value := .obj [("type", .str "TEXT_INPUT"), ("required", .str "no")]
  ⟨[⟨"survey", "Survey", ""⟩],
    form "age" [age] :: if malformed then [form "name" [age, name]] else []⟩

theorem install_leaves_survey :
    ((surveyCatalog false).install .question standard).2 = .ok () ∧
    (∃ kind id, (surveyCatalog false).install .atSign
        (((surveyCatalog false).install .question standard).1.after [.registerStandard]) =
      (((surveyCatalog false).install .question standard).1.after [.registerStandard],
        .error (.duplicate kind id))) ∧
    standard.Installs .question (surveyCatalog true).categories (surveyCatalog true).builders
      ((surveyCatalog true).install .question standard) ∧
    ((surveyCatalog true).install .question standard).2 = .error .json ∧
    ((surveyCatalog true).install .question standard).1.builders.map Builder.id = ["age"] := by
  have hok : ((surveyCatalog false).install .question standard).2 = .ok () := rfl
  obtain ⟨-, -, hagain⟩ := install_leaves (surveyCatalog false) .question standard
  obtain ⟨hhalf, -, -⟩ := install_leaves (surveyCatalog true) .question standard
  exact ⟨hok, hagain (.inl (by simp [surveyCatalog])) hok [.registerStandard] .atSign, hhalf,
    rfl, by decide +kernel⟩

end Registry

end Cohort
