import Cohort.Template.Evaluation

/-! # Texts with gaps for placeholders -/

namespace Cohort.Template

/-! ## Running -/

theorem run_bind {α β : Type} (m : Render α) (next : α → Render β) (args : List Value) :
    StateT.run (ExceptT.run (m >>= next)) args =
      match StateT.run (ExceptT.run m) args with
      | (.ok a, args) => StateT.run (ExceptT.run (next a)) args
      | (.error fault, args) => (.error fault, args) := by
  rw [ExceptT.run_bind, StateT.run_bind]
  cases StateT.run (ExceptT.run m) args with
  | mk outcome args' => cases outcome <;> rfl

theorem run_bind_value (placeholder : Placeholder) (offset : Nat) (v : Value) (args : List Value) :
    StateT.run (ExceptT.run (bind placeholder offset v)) args =
      (.ok (placeholder (offset + args.length)), args ++ [v]) := rfl

/-! ## Skeletons -/

/-- A text with a gap for each bound value: every gap stands between two texts. -/
inductive Skeleton where
  | last (text : String)
  | gap (text : String) (value : Value) (rest : Skeleton)

namespace Skeleton

/-- The bound values, from left to right. -/
def values : Skeleton → List Value
  | .last _ => []
  | .gap _ v rest => v :: rest.values

/-- The text whose gaps hold the placeholders of consecutive indexes. -/
def fill (placeholder : Placeholder) (offset : Nat) : Skeleton → String
  | .last text => text
  | .gap text _ rest => text ++ placeholder offset ++ rest.fill placeholder (offset + 1)

/-- A skeleton behind a text. -/
def behind (text : String) : Skeleton → Skeleton
  | .last t => .last (text ++ t)
  | .gap t v rest => .gap (text ++ t) v rest

/-- One skeleton behind another: the texts where they meet become one. -/
def append : Skeleton → Skeleton → Skeleton
  | .last text, s => s.behind text
  | .gap text v rest, s => .gap text v (rest.append s)

instance : Append Skeleton := ⟨append⟩

@[simp] theorem values_last (text : String) : (last text).values = [] := rfl

@[simp] theorem values_gap (text : String) (v : Value) (rest : Skeleton) :
    (gap text v rest).values = v :: rest.values := rfl

@[simp] theorem last_append (text : String) (s : Skeleton) : last text ++ s = s.behind text := rfl

@[simp] theorem gap_append (text : String) (v : Value) (rest s : Skeleton) :
    gap text v rest ++ s = gap text v (rest ++ s) := rfl

@[simp] theorem values_behind (text : String) (s : Skeleton) :
    (s.behind text).values = s.values := by
  cases s <;> rfl

@[simp] theorem values_append (s t : Skeleton) : (s ++ t).values = s.values ++ t.values := by
  induction s with
  | last text => simp
  | gap text v rest ih => simp [ih]

/-! ## Filling -/

variable (placeholder : Placeholder) (offset : Nat)

@[simp] theorem fill_last (text : String) : (last text).fill placeholder offset = text := rfl

@[simp] theorem fill_behind (text : String) (s : Skeleton) :
    (s.behind text).fill placeholder offset = text ++ s.fill placeholder offset := by
  cases s with
  | last t => rfl
  | gap t v rest => simp [behind, fill, String.append_assoc]

/-- The gaps of the second skeleton are numbered behind those of the first. -/
theorem fill_append (s t : Skeleton) :
    (s ++ t).fill placeholder offset =
      s.fill placeholder offset ++ t.fill placeholder (offset + s.values.length) := by
  induction s generalizing offset with
  | last text => simp
  | gap text v rest ih =>
      rw [gap_append, fill, ih, fill, values_gap, List.length_cons, Nat.add_right_comm,
        ← Nat.add_assoc]
      simp only [String.append_assoc]

/-! ## Printing -/

/-- The computation that binds the values of a skeleton and gives its text. -/
def print : Skeleton → Render String
  | .last text => pure text
  | .gap text v rest => do
    let p ← bind placeholder offset v
    let t ← rest.print
    return text ++ p ++ t

@[simp] theorem print_last (text : String) :
    (last text).print placeholder offset = pure text := rfl

theorem print_behind (text : String) (s : Skeleton) :
    (s.behind text).print placeholder offset = do
      let t ← s.print placeholder offset
      return text ++ t := by
  cases s with
  | last t => simp [behind]
  | gap t v rest => simp [behind, print, String.append_assoc]

theorem print_append (s t : Skeleton) :
    (s ++ t).print placeholder offset = do
      let before ← s.print placeholder offset
      let after ← t.print placeholder offset
      return before ++ after := by
  induction s with
  | last text => simp [print_behind]
  | gap text v rest ih =>
      simp only [gap_append, print, ih, bind_assoc, pure_bind, String.append_assoc]

/-- Printing a skeleton behind some values fills its gaps with the indexes behind them. -/
theorem run_print (s : Skeleton) (args : List Value) :
    StateT.run (ExceptT.run (s.print placeholder offset)) args =
      (.ok (s.fill placeholder (offset + args.length)), args ++ s.values) := by
  induction s generalizing args with
  | last text =>
      rw [values_last, List.append_nil]
      rfl
  | gap text v rest ih =>
      rw [print, run_bind, run_bind_value]
      dsimp only
      rw [run_bind, ih, List.length_append, List.append_assoc]
      rfl

end Skeleton

end Cohort.Template
