import Cohort.Proofs.Template.Prints
import Mathlib.Tactic.Choose

/-! # Computations that append what they bind

A computation runs behind values that were bound before. Its trace tells what it gives and what it
binds from the placeholders alone that are still to come.
-/

namespace Cohort.Template

/-! ## Placeholders to come -/

/-- The placeholders without the first ones. -/
def Placeholder.drop (f : Placeholder) (n : Nat) : Placeholder := fun i => f (n + i)

@[simp] theorem Placeholder.drop_zero (f : Placeholder) : Placeholder.drop f 0 = f := by
  funext i
  simp [Placeholder.drop]

@[simp] theorem Placeholder.drop_drop (f : Placeholder) (m n : Nat) :
    Placeholder.drop (Placeholder.drop f m) n = Placeholder.drop f (m + n) := by
  funext i
  simp [Placeholder.drop, Nat.add_assoc]

/-! ## Settings -/

/-- How templates are run: how placeholders are written, the index of the first, and what values
some unknowns have. -/
structure Setting (κ : Type) where
  placeholder : Placeholder
  offset : Nat
  value : κ → Value

/-- A bound value: one that is the same in all settings, or an unknown. -/
inductive Slot (κ : Type) where
  | fixed (v : Value)
  | unknown (x : κ)

variable {κ : Type}

/-- The value of a slot. -/
def Slot.value (value : κ → Value) : Slot κ → Value
  | .fixed v => v
  | .unknown x => value x

/-- The placeholders that come behind some bound values. -/
def Setting.next (s : Setting κ) (args : List Value) : Placeholder :=
  Placeholder.drop s.placeholder (s.offset + args.length)

theorem Setting.next_append (s : Setting κ) (args new : List Value) :
    s.next (args ++ new) = Placeholder.drop (s.next args) new.length := by
  simp [next, Nat.add_assoc]

/-! ## Traces -/

/-- What comes of a computation for the placeholders to come: its outcome, and what it binds. -/
abbrev Trace (κ α : Type) := Placeholder → Except ExecFault α × List (Slot κ)

variable {ι α β γ δ : Type}

/-- One trace behind another. After a fault there is none. -/
def Trace.andThen (t : Trace κ α) (next : α → Trace κ β) : Trace κ β := fun f =>
  match t f with
  | (.ok a, slots) =>
    ((next a (Placeholder.drop f slots.length)).1,
      slots ++ (next a (Placeholder.drop f slots.length)).2)
  | (.error fault, slots) => (.error fault, slots)

/-- In each of some settings the computation follows one trace: it appends the values of the slots,
whatever was bound before. Its result may vary with the setting as far as `give` says. -/
def Traced (setting : ι → Setting κ) (give : ι → α → β) (m : ι → Render β) : Prop :=
  ∃ trace : Trace κ α, ∀ i args,
    StateT.run (ExceptT.run (m i)) args =
      ((trace ((setting i).next args)).1.map (give i),
        args ++ (trace ((setting i).next args)).2.map (Slot.value (setting i).value))

/-- The result is the same in all settings. -/
def same (_ : ι) (a : α) : α := a

section

variable {setting : ι → Setting κ}

theorem Traced.pure {give : ι → α → β} (a : α) :
    Traced setting give fun i => pure (give i a) := by
  refine ⟨fun _ => (.ok a, []), fun i args => ?_⟩
  simp only [List.map_nil, List.append_nil]
  rfl

theorem Traced.throw {give : ι → α → β} (fault : ExecFault) :
    Traced setting give fun _ => throw fault := by
  refine ⟨fun _ => (.error fault, []), fun i args => ?_⟩
  simp only [List.map_nil, List.append_nil]
  rfl

theorem Traced.lift (outcome : Except ExecFault α) :
    Traced setting same fun _ => lift outcome := by
  cases outcome with
  | ok a => exact .pure a
  | error fault => exact .throw fault

/-- What comes behind a computation counts its placeholders behind those of the computation. -/
theorem Traced.bind {give : ι → α → β} {give' : ι → γ → δ} {m : ι → Render β}
    {next : ι → β → Render δ} (hm : Traced setting give m)
    (hnext : ∀ a, Traced setting give' fun i => next i (give i a)) :
    Traced setting give' fun i => m i >>= next i := by
  obtain ⟨trace, hm⟩ := hm
  choose trace' hnext using hnext
  refine ⟨trace.andThen trace', fun i args => ?_⟩
  rw [run_bind, hm, Trace.andThen]
  cases trace ((setting i).next args) with
  | mk outcome slots =>
      cases outcome with
      | error fault => rfl
      | ok a =>
          have hnext' := hnext a i (args ++ slots.map (Slot.value (setting i).value))
          rw [Setting.next_append, List.length_map, List.append_assoc, ← List.map_append] at hnext'
          exact hnext'

theorem Traced.map {m : ι → Render α} (h : Traced setting same m) (g : α → β) :
    Traced setting same fun i => do return g (← m i) :=
  h.bind fun a => .pure (g a)

theorem Traced.mapM {m : ι → γ → Render α} (h : ∀ c, Traced setting same fun i => m i c)
    (cs : List γ) : Traced setting same fun i => cs.mapM (m i) := by
  induction cs with
  | nil =>
      simp only [List.mapM_nil]
      exact .pure []
  | cons c cs ih =>
      simp only [List.mapM_cons]
      exact (h c).bind fun a => ih.bind fun as => .pure (a :: as)

/-- A computation that follows a trace does in any setting what it does before all others, where the
placeholders start with those that were still to come. -/
theorem Traced.run_eq {m : ι → Render α} (h : Traced setting same m) {i j : ι} {args : List Value}
    (hnext : (setting j).next [] = (setting i).next args)
    (hvalue : (setting j).value = (setting i).value) :
    StateT.run (ExceptT.run (m i)) args =
      ((StateT.run (ExceptT.run (m j)) []).1, args ++ (StateT.run (ExceptT.run (m j)) []).2) := by
  obtain ⟨trace, h⟩ := h
  rw [h i args, h j [], hnext, hvalue]
  rfl

/-! ## Binding -/

theorem traced_bind (slot : Slot κ) :
    Traced setting same fun i =>
      bind (setting i).placeholder (setting i).offset (slot.value (setting i).value) := by
  refine ⟨fun f => (.ok (f 0), [slot]), fun i args => ?_⟩
  rw [run_bind_value]
  rfl

/-- The values are lists of one length, with a slot for each item, or there is one slot, which holds
no list. -/
def Spread (setting : ι → Setting κ) (v : ι → Value) : Prop :=
  (∃ slots : List (Slot κ), ∀ i, v i = .arr (slots.map (Slot.value (setting i).value))) ∨
    ∃ slot : Slot κ, ∀ i, v i = slot.value (setting i).value ∧ (v i).kind ≠ .array

theorem spread_const (v : Value) : Spread setting fun _ => v := by
  by_cases hv : v.kind = .array
  · cases v with
    | arr items =>
        refine .inl ⟨items.map .fixed, fun i => ?_⟩
        have hvalue : ∀ w ∈ items, (Slot.value (setting i).value ∘ Slot.fixed) w = w :=
          fun _ _ => rfl
        rw [List.map_map, List.map_congr_left hvalue, List.map_id']
    | _ => cases hv
  · exact .inr ⟨.fixed v, fun _ => ⟨rfl, hv⟩⟩

theorem bindEach_of_ne_array (f : Placeholder) (k : Nat) {v : Value} (h : v.kind ≠ .array) :
    bindEach f k v = bind f k v := by
  cases v with
  | arr items => exact absurd rfl h
  | _ => rfl

theorem bindEach_arr (f : Placeholder) (k : Nat) {items : List Value} (h : items ≠ []) :
    bindEach f k (.arr items) = do
      return String.intercalate ", " (← items.mapM (bind f k)) := by
  cases items with
  | nil => exact absurd rfl h
  | cons item items => rfl

theorem traced_mapM_bind (slots : List (Slot κ)) :
    Traced setting same fun i =>
      (slots.map (Slot.value (setting i).value)).mapM
        (bind (setting i).placeholder (setting i).offset) := by
  induction slots with
  | nil =>
      simp only [List.map_nil, List.mapM_nil]
      exact .pure []
  | cons slot slots ih =>
      simp only [List.map_cons, List.mapM_cons]
      exact (traced_bind slot).bind fun p => ih.bind fun ps => .pure (p :: ps)

theorem traced_bindEach {v : ι → Value} (h : Spread setting v) :
    Traced setting same fun i => bindEach (setting i).placeholder (setting i).offset (v i) := by
  obtain ⟨slots, hv⟩ | ⟨slot, hv⟩ := h
  · simp only [hv]
    cases slots with
    | nil => exact .pure "NULL"
    | cons slot slots =>
        have hitems : ∀ i, (slot :: slots).map (Slot.value (setting i).value) ≠ [] := by simp
        simp only [fun i => bindEach_arr (setting i).placeholder (setting i).offset (hitems i)]
        exact (traced_mapM_bind (slot :: slots)).map _
  · have hbind : ∀ i, bindEach (setting i).placeholder (setting i).offset (v i) =
        bind (setting i).placeholder (setting i).offset (slot.value (setting i).value) := by
      intro i
      rw [bindEach_of_ne_array _ _ (hv i).2, (hv i).1]
    simp only [hbind]
    exact traced_bind slot

/-- Binding functions take a value that is spread; only `argEach` looks into it. -/
theorem traced_call_spread (b : Binder) {v : ι → Value} (slot : Slot κ)
    (hslot : ∀ i, v i = slot.value (setting i).value) (hv : b = .each → Spread setting v) :
    Traced setting same fun i =>
      b.call (setting i).placeholder (setting i).offset [v i] := by
  cases b with
  | one =>
      simp only [Binder.call, hslot]
      exact (traced_bind slot).map _
  | each =>
      simp only [Binder.call]
      exact (traced_bindEach (hv rfl)).map _

theorem traced_call (b : Binder) (args : List Value) :
    Traced setting same fun i =>
      b.call (setting i).placeholder (setting i).offset args := by
  match args with
  | [v] => exact traced_call_spread b (.fixed v) (fun _ => rfl) fun _ => spread_const v
  | [] => exact .throw _
  | _ :: _ :: _ => exact .throw _

end

end Cohort.Template
