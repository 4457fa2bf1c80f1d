import Cohort.Proofs.Compile.Sequential
import Cohort.Proofs.Stock.Numbers
import Cohort.Proofs.Stock.Texts

/-! # Who is at fault

The form of a stock builder refuses whatever its template could not render, so that nothing but what
was submitted can be wrong.
-/

namespace Cohort

open Template

variable {params : Params} {fault : Fault}

theorem bind_eq_error_iff {α β : Type} {x : Except Fault α} {f : α → Except Fault β} :
    x >>= f = .error fault ↔ x = .error fault ∨ ∃ a, x = .ok a ∧ f a = .error fault := by
  cases x <;> simp [Bind.bind, Except.bind]

/-! ## Forms -/

/-- The pattern of a slot can be read, if it has one. -/
def Slot.IsReadable (s : Slot) : Prop :=
  ∀ v, s.validation = some v → (Pattern.Regex.read? v.pattern).isSome = true

theorem Validation.isClient_of_check {v : Validation} {key : String} {value : Value}
    (hv : (Pattern.Regex.read? v.pattern).isSome = true) (h : v.check key value = .error fault) :
    fault.isClient = true := by
  rw [check] at h
  split at h
  · cases h
  · cases hread : Pattern.Regex.read? v.pattern with
    | none => simp [hread] at hv
    | some r =>
        simp only [hread] at h
        split at h
        · cases h
        · cases h
          rfl

theorem Condition.isClient_of_evaluate {clause : SkipClause} {condition : Params}
    (h : evaluate clause params condition = .error fault) : fault.isClient = true := by
  rw [evaluate] at h
  split at h
  · cases h
  · cases h
    rfl

theorem Slot.isClient_of_shouldSkip {s : Slot} (h : s.shouldSkip params = .error fault) :
    fault.isClient = true := by
  rw [shouldSkip_eq_bind, bind_eq_error_iff] at h
  obtain h | ⟨byIf, -, h⟩ := h
  · split at h
    · cases h
    · exact Condition.isClient_of_evaluate h
  · split at h
    · cases h
    · split at h
      · cases h
      · obtain h | ⟨holds, -, h⟩ := bind_eq_error_iff.mp h
        · exact Condition.isClient_of_evaluate h
        · cases h

theorem Slot.isClient_of_validate {s : Slot} (hs : s.IsReadable)
    (h : s.validate params = .error fault) : fault = .skipped ∨ fault.isClient = true := by
  rw [validate, bind_eq_error_iff] at h
  obtain h | ⟨skips, -, h⟩ := h
  · exact .inr (isClient_of_shouldSkip h)
  · cases skips with
    | true =>
        cases h
        exact .inl rfl
    | false =>
        refine .inr ?_
        simp only [Bool.false_eq_true, if_false] at h
        split at h
        · cases h
        · split at h
          · cases h
            rfl
          · split at h
            · exact Validation.isClient_of_check (hs _ ‹_›) h
            · cases h

theorem isClient_of_parameter {r : Except ParameterFault Unit}
    (h : Fragment.parameter r = .error fault) : fault.isClient = true := by
  cases r with
  | ok _ => cases h
  | error cause =>
      cases h
      rfl

theorem Fragment.isClient_of_validate {f : Fragment} (hf : f.slot.IsReadable)
    (h : f.validate params = .error fault) : fault = .skipped ∨ fault.isClient = true := by
  rw [validate, bind_eq_error_iff] at h
  obtain h | ⟨_, -, h⟩ := h
  · exact .inr (isClient_of_parameter h)
  · obtain h | ⟨_, -, h⟩ := bind_eq_error_iff.mp h
    · exact Slot.isClient_of_validate hf h
    · split at h
      · cases h
      · exact .inr (isClient_of_parameter h)

/-- What a form finds wrong is the fault of who submitted the parameters, unless a pattern of the
form cannot be read. That a fragment is skipped is not told. -/
theorem View.isClient_of_validate {v : View} (hv : ∀ f ∈ v.fragments, f.slot.IsReadable)
    (h : v.validate params = .error fault) : fault.isClient = true := by
  obtain ⟨before, f, after, hsplit, -, hpasses, hf⟩ := validate_eq_error_iff.mp h
  obtain rfl | hclient := f.isClient_of_validate (hv f (by simp [hsplit])) hf
  · exact absurd (.inr hf) hpasses
  · exact hclient

/-! ## Expressions -/

/-- What is wrong with an expression is the fault of who submitted it, if builders fail for no other
reason. -/
theorem Expression.isClient_of_compile {r : Registry}
    (hr : ∀ id b, r.builder? id = some (.sql b) → ∀ ctx params cause,
      b.build ctx params = .error cause → cause.isClient = true)
    {v : Vocabulary} {ctx : Context} {e : Expression}
    (h : e.compile r v ctx = .error fault) : fault.isClient = true := by
  by_cases hwf : e.Malformed
  · obtain ⟨cause, hcause⟩ : ∃ cause, e.compile r v ctx = .error (.invalidExpression cause) :=
      hwf.compile_eq
    rw [hcause] at h
    cases h
    rfl
  · have hpass : OnePass r v.nodeText ctx ctx.argOffset e (e.compile r v ctx) :=
      (Expression.wellFormed_of_not_malformed hwf).onePass_compile fun _ _ _ => rfl
    rw [h] at hpass
    cases hpass with
    | error hfails =>
        obtain ⟨before, t, after, sqls, -, -, hfails⟩ := hfails
        cases hfails with
        | notFound => rfl
        | descriptiveOnly => rfl
        | @build b s cause hb hs hcause =>
            cases b with
            | descriptive m => cases hs
            | sql b =>
                cases hs
                exact hr _ s hb _ _ cause hcause

/-! ## Causes -/

/-- What went wrong in the first place, whatever tags it was met in. -/
def Fault.root : Fault → Fault
  | .build _ cause => cause.root
  | fault => fault

theorem Fault.isClient_root (fault : Fault) : fault.root.isClient = fault.isClient := by
  induction fault with
  | build id cause ih => exact ih
  | _ => rfl

namespace Stock

/-! ## Builders -/

/-- The stock builders on columns and events that open no action. -/
inductive IsStock : SqlBuilder → Prop where
  | number (t : FieldTag) (min max : Extended) (f : Placeholder)
      (h : ¬ ['\x7b', '\x7b'] <:+: t.column.toList) :
        IsStock (numberBuilder t min max f).toSqlBuilder
  | text (t : FieldTag) (options : List SelectOption) (f : Placeholder)
      (h : ¬ ['\x7b', '\x7b'] <:+: t.column.toList) : IsStock (textBuilder t options f)
  | period (t : FieldTag) (includeTime : Bool) (f : Placeholder)
      (h : ¬ ['\x7b', '\x7b'] <:+: t.column.toList) :
        IsStock (periodBuilder t includeTime f).toSqlBuilder
  | event (event label : String) (categoryId : Option String) (f : Placeholder)
      (h : ¬ ['\x7b', '\x7b'] <:+: event.toList) :
        IsStock (eventBuilder event label categoryId f).toSqlBuilder

section

variable {b : SqlBuilder} {ctx : Context}

theorem Answers.mono {query query' : Sql → Prop} (h : Answers b ctx params query)
    (himp : ∀ sql, query sql → query' sql) : Answers b ctx params query' := by
  obtain ⟨view, hview, hfaults, hbuild⟩ := h
  refine ⟨view, hview, hfaults, fun hok => ?_⟩
  obtain ⟨sql, hsql, hquery⟩ := hbuild hok
  exact ⟨sql, hsql, himp sql hquery⟩

/-- A stock builder makes a query of whatever passes its form. -/
theorem IsStock.answers (h : IsStock b) (ctx : Context) (params : Params) :
    Answers b ctx params fun _ => True := by
  cases h with
  | number t min max f hcolumn =>
      obtain ⟨text, hread⟩ := exists_read_numberSource hcolumn
      refine answers_of_shows rfl hread fun hok => ?_
      obtain ⟨s, hs⟩ := exists_compares_of_numberView hok
      exact ⟨_, hs.shows_number.text text, trivial⟩
  | text t options f hcolumn =>
      exact (answers_text t options f ctx params hcolumn).mono fun _ _ => trivial
  | period t includeTime f hcolumn =>
      exact (answers_period t includeTime f ctx params hcolumn).mono fun _ _ => trivial
  | event event label categoryId f hevent =>
      exact (answers_event event label categoryId f ctx params hevent).mono fun _ _ => trivial

theorem isReadable_of_none {s : Slot} (h : s.validation = none) : s.IsReadable := by
  simp [Slot.IsReadable, h]

theorem IsStock.isReadable (h : IsStock b) {view : View} (hview : b.metadata.view = some view) :
    ∀ f ∈ view.fragments, f.slot.IsReadable := by
  suffices hnone : ∀ f ∈ view.fragments, f.slot.validation = none from
    fun f hf => isReadable_of_none (hnone f hf)
  cases h with
  | number =>
      obtain rfl := Option.some.inj hview
      simp [numberView, required]
  | period =>
      obtain rfl := Option.some.inj hview
      simp [periodView, required, caption]
  | event =>
      obtain rfl := Option.some.inj hview
      simp [eventView, required, caption]
  | text t options =>
      obtain rfl := Option.some.inj hview
      obtain ⟨ops, hfragments⟩ := textView_fragments options
      rw [hfragments]
      simp [operatorSlot, valueSlot, valuesSlot, required]

theorem IsStock.isClient_of_build (h : IsStock b) (hfault : b.build ctx params = .error fault) :
    fault.isClient = true := by
  obtain ⟨view, hview, hfaults, hbuild⟩ := h.answers ctx params
  cases hvalidate : view.validate params with
  | ok _ =>
      obtain ⟨sql, hsql, -⟩ := hbuild hvalidate
      rw [hsql] at hfault
      cases hfault
  | error cause =>
      rw [hfaults cause hvalidate] at hfault
      cases hfault
      exact View.isClient_of_validate (h.isReadable hview) hvalidate

end

/-! ## Main result -/

/-- With stock builders alone nobody but the one who submits an expression is at fault, whatever it
is: no template fails, every pattern can be read, and no fragment tells that it is skipped. -/
theorem isClient_of_stock {r : Registry}
    (hr : ∀ id b, r.builder? id = some (.sql b) → IsStock b) (v : Vocabulary) (ctx : Context)
    (e : Expression) (h : e.compile r v ctx = .error fault) :
    fault.isClient = true ∧ fault.root ≠ .skipped ∧ (∀ cause, fault.root ≠ .template cause) ∧
      ∀ key, fault.root ≠ .invalidPattern key := by
  have hclient : fault.isClient = true :=
    Expression.isClient_of_compile (fun id b hb _ _ _ => (hr id b hb).isClient_of_build) h
  have hroot : ∀ other : Fault, other.isClient = false → fault.root ≠ other := by
    rintro _ hother rfl
    rw [Fault.isClient_root, hclient] at hother
    cases hother
  exact ⟨hclient, hroot _ rfl, fun _ => hroot _ rfl, fun _ => hroot _ rfl⟩

/-- Stock builders of every kind, with a column that ends in white space and one that is empty. -/
def stocked : Registry where
  builders := [
    .sql (numberBuilder ⟨"age", "Age", "", "", "age "⟩ .zero .zero fun _ => "?").toSqlBuilder,
    .sql (textBuilder ⟨"place", "Place", "", "", ""⟩ placeOptions fun _ => "?"),
    .sql (periodBuilder ⟨"since", "Since", "", "", "since"⟩ true fun _ => "?").toSqlBuilder,
    .sql (eventBuilder "Login" "Login" none fun _ => "?").toSqlBuilder,
    .descriptive ⟨"note", "Note", "", "", none⟩]

/-- A choice of places of which one is not offered. -/
def unofferedPlace : Expression :=
  .ofSet .union [.ofTag ⟨"place", placeParams (.str "AU, FR")⟩]

theorem isClient_of_stock_stocked :
    ∃ fault, unofferedPlace.compile stocked Dialect.bigQuery .background = .error fault ∧
      fault.isClient = true := by
  have hstock : ∀ id b, stocked.builder? id = some (.sql b) → IsStock b := by
    intro id b hb
    have hmem : Builder.sql b ∈ stocked.builders := Fields.mem_of_get?_byKey Builder.id hb
    simp only [stocked, List.mem_cons, Builder.sql.injEq, List.not_mem_nil, or_false,
      reduceCtorEq] at hmem
    obtain rfl | rfl | rfl | rfl := hmem
    · exact .number _ _ _ _ (by decide)
    · exact .text _ _ _ (by decide)
    · exact .period _ _ _ (by decide)
    · exact .event _ _ _ _ (by decide)
  have hfails : (unofferedPlace.compile stocked Dialect.bigQuery .background).isOk = false := by
    decide +kernel
  cases hcompiled : unofferedPlace.compile stocked Dialect.bigQuery .background with
  | ok sql =>
      rw [hcompiled] at hfails
      cases hfails
  | error fault => exact ⟨fault, rfl, (isClient_of_stock hstock _ _ _ hcompiled).1⟩

end Stock

end Cohort
