import Cohort.Template.Evaluation

/-! # Why functions fail

The functions of a template fail for their arguments only, never for a name that is missing.
-/

namespace Cohort.Template

/-! ## Faults that are expected -/

/-- A fault other than an unknown function, and other than an unknown variable where `bound` says
that all variables are declared. -/
def ExecFault.IsExpected (bound : Prop) : ExecFault → Prop
  | .undefinedFunction _ => False
  | .undefinedVariable _ => ¬ bound
  | _ => True

theorem ExecFault.IsExpected.mono {bound : Prop} {fault : ExecFault} (h : fault.IsExpected True) :
    fault.IsExpected bound := by
  cases fault with
  | undefinedFunction name => exact h
  | undefinedVariable name => exact absurd trivial h
  | _ => trivial

/-- A result, or a fault that has nothing to do with names. -/
def Regular {α : Type} (outcome : Except ExecFault α) : Prop :=
  ∀ fault, outcome = .error fault → fault.IsExpected True

section

variable {α β : Type} {outcome : Except ExecFault α}

theorem Regular.ok (a : α) : Regular (.ok a) := fun _ h => by cases h

theorem Regular.error {fault : ExecFault} (h : fault.IsExpected True) :
    Regular (.error fault : Except ExecFault α) := by
  rintro fault' heq
  rwa [← Except.error.inj heq]

theorem Regular.bind {next : α → Except ExecFault β} (h : Regular outcome)
    (hnext : ∀ a, Regular (next a)) : Regular (outcome >>= next) := by
  cases outcome with
  | ok a => exact hnext a
  | error fault => exact .error (h fault rfl)

theorem Regular.mapM {f : β → Except ExecFault α} (h : ∀ b, Regular (f b)) (bs : List β) :
    Regular (bs.mapM f) := by
  induction bs with
  | nil => exact .ok []
  | cons b bs ih =>
      rw [List.mapM_cons]
      exact (h b).bind fun a => ih.bind fun as => .ok (a :: as)

theorem Regular.foldlM {f : α → β → Except ExecFault α} (h : ∀ a b, Regular (f a b))
    (a : α) (bs : List β) : Regular (bs.foldlM f a) := by
  induction bs generalizing a with
  | nil => exact .ok a
  | cons b bs ih => exact (h a b).bind ih

end

/-! ## Functions -/

section

variable (f : String) (args : List Value)

theorem regular_oneArg : Regular (oneArg f args) := by
  unfold oneArg
  split
  · exact .ok _
  · exact .error trivial

theorem regular_twoArgs : Regular (twoArgs f args) := by
  unfold twoArgs
  split
  · exact .ok _
  · exact .error trivial

theorem regular_threeArgs : Regular (threeArgs f args) := by
  unfold threeArgs
  split
  · exact .ok _
  · exact .error trivial

theorem regular_text (v : Value) : Regular (text f v) := by
  unfold text
  split
  · exact .ok _
  · exact .error trivial

theorem regular_oneText : Regular (oneText f args) :=
  (regular_oneArg f args).bind (regular_text f)

theorem regular_twoTexts : Regular (twoTexts f args) :=
  (regular_twoArgs f args).bind fun (a, b) =>
    (regular_text f a).bind fun _ => (regular_text f b).bind fun _ => .ok _

theorem regular_threeTexts : Regular (threeTexts f args) :=
  (regular_threeArgs f args).bind fun (a, b, c) =>
    (regular_text f a).bind fun _ => (regular_text f b).bind fun _ =>
      (regular_text f c).bind fun _ => .ok _

theorem regular_equalAny : Regular (equalAny args) := by
  unfold equalAny
  split
  · exact .ok _
  · exact .error trivial

theorem regular_compareBy (accept : Ordering → Bool) : Regular (compareBy f accept args) := by
  refine (regular_twoArgs f args).bind fun (a, b) => ?_
  dsimp only
  split
  · exact .ok _
  · exact .error trivial

theorem regular_firstWith (truth : Bool) : Regular (firstWith f truth args) := by
  unfold firstWith
  split
  · exact .error trivial
  · exact .ok _

theorem regular_length (v : Value) : Regular (length v) := by
  cases v with
  | bool b => exact .error trivial
  | num n => exact .error trivial
  | _ => exact .ok _

theorem regular_item (container key : Value) : Regular (item container key) := by
  unfold item
  repeat' split
  all_goals first | exact .ok _ | exact .error trivial

theorem regular_itemUnder : Regular (itemUnder args) := by
  unfold itemUnder
  split
  · exact .error trivial
  · exact .foldlM regular_item _ _

theorem regular_formatVerb (verb : Char) (operand : Value) : Regular (formatVerb verb operand) := by
  unfold formatVerb
  repeat' split
  all_goals first | exact .ok _ | exact .error trivial

theorem regular_formatted (format : List Char) : Regular (formatted format args) := by
  fun_induction formatted format args with
  | case1 => exact .ok _
  | case2 | case4 | case5 => exact .error trivial
  | case3 _ _ ih => exact ih.bind fun _ => .ok _
  | case6 _ _ _ _ _ ih => exact (regular_formatVerb _ _).bind fun _ => ih.bind fun _ => .ok _
  | case7 _ _ _ _ _ _ _ ih => exact ih.bind fun _ => .ok _

theorem regular_printFormat : Regular (printFormat args) := by
  unfold printFormat
  split
  · exact .error trivial
  · exact (regular_text _ _).bind fun _ => (regular_formatted _ _).bind fun _ => .ok _

theorem regular_quoteValue (quote : Char) (v : Value) : Regular (quoteValue quote v) := by
  unfold quoteValue
  split
  · exact .ok _
  · exact .error trivial

theorem regular_quoteJoin (quote : Char) : Regular (quoteJoin quote args) := by
  refine (regular_twoArgs _ args).bind fun (sep, values) => (regular_text _ sep).bind fun _ => ?_
  split
  · exact (Regular.mapM (regular_quoteValue quote) _).bind fun _ => .ok _
  · exact .error trivial

/-- Functions that are applied fail for their arguments only. -/
theorem regular_apply (function : Function) : Regular (function.apply args) := by
  cases function with
  | eq => exact regular_equalAny args
  | ne => exact (regular_twoArgs _ args).bind fun _ => .ok _
  | lt | le | gt | ge => exact regular_compareBy _ args _
  | and | or => exact regular_firstWith _ args _
  | not => exact (regular_oneArg _ args).bind fun _ => .ok _
  | len => exact (regular_oneArg _ args).bind regular_length
  | index => exact regular_itemUnder args
  | print | println => exact .ok _
  | printf => exact regular_printFormat args
  | toLower | toUpper | camelCase | snakeCase | pascalCase | kebabCase | capitalize | plural
  | singular => exact (regular_oneText _ args).bind fun _ => .ok _
  | trim | trimSuffix | hasStart | hasEnd | split =>
      exact (regular_twoTexts _ args).bind fun _ => .ok _
  | replaceAll => exact (regular_threeTexts _ args).bind fun _ => .ok _
  | join =>
      refine (regular_twoArgs _ args).bind fun (elems, sep) => ?_
      dsimp only
      split
      · exact (regular_text _ sep).bind fun _ => .ok _
      · exact .error trivial
  | singleQuote | backtickQuote =>
      exact (regular_oneArg _ args).bind fun v => (regular_quoteValue _ v).bind fun _ => .ok _
  | singleQuoteJoin | backtickQuoteJoin => exact regular_quoteJoin args _

end

theorem regular_follow (v : Value) (path : List String) : Regular (follow v path) := by
  fun_induction follow v path with
  | case1 => exact .ok _
  | case2 _ _ _ _ _ ih => exact ih
  | case3 => exact .ok _
  | case4 => exact .ok _
  | case5 => exact .error trivial

theorem regular_items (v : Value) : Regular (items v) := by
  unfold items
  split
  · exact .ok _
  · exact .ok _
  · exact .ok _
  · exact .error trivial

end Cohort.Template
