import Cohort.Proofs.Template.Skeleton

/-! # Computations that print one skeleton -/

namespace Cohort.Template

variable {α β γ : Type}

/-- A computation for each way to write placeholders and each index of the first. -/
abbrev Family (α : Type) := Placeholder → Nat → Render α

/-- The computations bind nothing, and are the same for all placeholders. -/
def Steady (m : Family α) : Prop :=
  ∃ outcome : Except ExecFault α, ∀ f k, m f k = lift outcome

/-- The computations print one skeleton, and then all of them fail, or all give the same beside its
text: `shape` joins the two. -/
def Prints (shape : α → String → β) (m : Family β) : Prop :=
  ∃ (s : Skeleton) (outcome : Except ExecFault α), ∀ f k, m f k = do
    let t ← s.print f k
    let a ← lift outcome
    return shape a t

/-- The shape of a computation that gives nothing but a text. -/
def alone (_ : Unit) (t : String) : String := t

@[simp] theorem lift_ok (a : α) : lift (.ok a) = pure a := rfl

@[simp] theorem lift_error (fault : ExecFault) :
    (lift (.error fault) : Render α) = throw fault := rfl

@[simp] theorem throw_bind (fault : ExecFault) (next : α → Render β) :
    (throw fault : Render α) >>= next = throw fault := rfl

/-! ## Computations that bind nothing -/

theorem Steady.lift (outcome : Except ExecFault α) : Steady fun _ _ => lift outcome :=
  ⟨outcome, fun _ _ => rfl⟩

theorem Steady.pure (a : α) : Steady fun _ _ => (pure a : Render α) := .lift (.ok a)

theorem Steady.throw (fault : ExecFault) : Steady fun _ _ => (throw fault : Render α) :=
  .lift (.error fault)

theorem Steady.bind {m : Family α} {next : α → Family β} (hm : Steady m)
    (hnext : ∀ a, Steady (next a)) : Steady fun f k => m f k >>= fun a => next a f k := by
  obtain ⟨outcome, hm⟩ := hm
  cases outcome with
  | error fault => exact ⟨.error fault, fun f k => by simp [hm]⟩
  | ok a =>
      obtain ⟨outcome', hnext⟩ := hnext a
      exact ⟨outcome', fun f k => by simp [hm, hnext]⟩

/-! ## One computation behind another -/

section

variable {shape : α → String → β}

theorem Prints.pure (a : α) (t : String) : Prints shape fun _ _ => pure (shape a t) :=
  ⟨.last t, .ok a, fun _ _ => rfl⟩

theorem Prints.throw (fault : ExecFault) : Prints shape fun _ _ => throw fault :=
  ⟨.last "", .error fault, fun _ _ => rfl⟩

theorem Steady.prints {m : Family γ} {next : γ → Family β} (hm : Steady m)
    (hnext : ∀ c, Prints shape (next c)) :
    Prints shape fun f k => m f k >>= fun c => next c f k := by
  obtain ⟨outcome, hm⟩ := hm
  simp only [hm]
  cases outcome with
  | error fault => exact .throw fault
  | ok c => simpa using hnext c

/-- What is made of the result of a computation that prints. -/
theorem Prints.map {m : Family β} (h : Prints shape m) (g : β → γ) :
    Prints (fun a t => g (shape a t)) fun f k => do return g (← m f k) := by
  obtain ⟨s, outcome, h⟩ := h
  exact ⟨s, outcome, fun f k => by simp only [h, bind_assoc, pure_bind]⟩

/-- What a computation gives beside its text may be forgotten. -/
theorem Prints.forget {m : Family (α × String)} (h : Prints Prod.mk m) :
    Prints alone fun f k => do return (← m f k).2 := by
  obtain ⟨s, outcome, h⟩ := h
  refine ⟨s, outcome.map fun _ => (), fun f k => ?_⟩
  cases outcome <;> simp [h, alone, Except.map]

/-- A text beside a value that is known before. -/
theorem Prints.beside {m : Family String} (h : Prints alone m) (a : α) :
    Prints Prod.mk fun f k => do return (a, ← m f k) := by
  obtain ⟨s, outcome, h⟩ := h
  refine ⟨s, outcome.map fun _ => a, fun f k => ?_⟩
  cases outcome <;> simp [h, alone, Except.map]

theorem Prints.append {m : Family (α × String)} {next : α → Family (β × String)}
    (hm : Prints Prod.mk m) (hnext : ∀ a, Prints Prod.mk (next a)) :
    Prints Prod.mk fun f k => do
      let (a, s) ← m f k
      let (b, t) ← next a f k
      return (b, s ++ t) := by
  obtain ⟨s, outcome, hm⟩ := hm
  cases outcome with
  | error fault =>
      -- What comes next is not reached, but what was bound stays bound.
      exact ⟨s, .error fault, fun f k => by simp [hm]⟩
  | ok a =>
      obtain ⟨t, outcome', hnext⟩ := hnext a
      refine ⟨s ++ t, outcome', fun f k => ?_⟩
      simp only [hm, hnext, Skeleton.print_append, lift_ok, bind_assoc, pure_bind]

/-- Behind some values, a computation that prints gives its skeleton filled from the next index on,
and leaves the values of the skeleton behind those before. -/
theorem Prints.run {m : Family β} (h : Prints shape m) :
    ∃ (s : Skeleton) (outcome : Except ExecFault α), ∀ f k args,
      StateT.run (ExceptT.run (m f k)) args =
        (outcome.map fun a => shape a (s.fill f (k + args.length)), args ++ s.values) := by
  obtain ⟨s, outcome, h⟩ := h
  refine ⟨s, outcome, fun f k args => ?_⟩
  rw [h, run_bind, Skeleton.run_print]
  cases outcome <;> rfl

end

/-! ## Texts only -/

theorem Prints.append_text {m next : Family String} (hm : Prints alone m)
    (hnext : Prints alone next) : Prints alone fun f k => do
      let s ← m f k
      let t ← next f k
      return s ++ t := by
  have h := ((hm.beside ()).append fun _ : Unit => hnext.beside ()).forget
  simpa only [bind_assoc, pure_bind] using h

/-- Texts of computations that print, one behind another. -/
theorem Prints.join {m : γ → Family String} (h : ∀ c, Prints alone (m c)) (cs : List γ) :
    Prints alone fun f k => do return String.join (← cs.mapM fun c => m c f k) := by
  induction cs with
  | nil =>
      simp only [List.mapM_nil, pure_bind]
      exact .pure () ""
  | cons c cs ih =>
      have happend := (h c).append_text ih
      simpa only [List.mapM_cons, bind_assoc, pure_bind, String.join_cons] using happend

/-! ## Binding -/

theorem prints_bind (v : Value) : Prints alone fun f k => bind f k v := by
  refine ⟨.gap "" v (.last ""), .ok (), fun f k => ?_⟩
  simp [Skeleton.print, alone]

/-- Several values are bound with commas between their placeholders. -/
theorem prints_mapM_bind (v : Value) (vs : List Value) :
    Prints alone fun f k => do
      return String.intercalate ", " (← (v :: vs).mapM fun v => bind f k v) := by
  induction vs generalizing v with
  | nil => simpa using prints_bind v
  | cons w vs ih =>
      have hcomma : Prints alone fun _ _ => (pure ", " : Render String) := .pure () ", "
      have h := (prints_bind v).append_text (hcomma.append_text (ih w))
      simpa only [List.mapM_cons, bind_assoc, pure_bind, String.intercalate_cons_cons,
        String.append_assoc] using h

theorem prints_bindEach (v : Value) : Prints alone fun f k => bindEach f k v := by
  unfold bindEach
  split
  · exact .pure () "NULL"
  · rename_i vs hvs
    cases vs with
    | nil => exact absurd rfl hvs
    | cons v vs => exact prints_mapM_bind v vs
  · exact prints_bind v

theorem prints_call (b : Binder) (args : List Value) :
    Prints (fun (_ : Unit) t => .str t) fun f k => b.call f k args := by
  match args with
  | [v] =>
      cases b with
      | one => exact (prints_bind v).map Value.str
      | each => exact (prints_bindEach v).map Value.str
  | [] => exact .throw _
  | _ :: _ :: _ => exact .throw _

end Cohort.Template
