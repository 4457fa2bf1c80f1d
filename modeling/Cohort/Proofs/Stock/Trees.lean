import Cohort.Proofs.Stock.Lines

/-! # The trees of stock templates -/

namespace Cohort.Stock

open Template

/-! ## Trees -/

/-- The cases of a number: its comparisons, and two bounds with some nodes between them. -/
def numberCases (value low : String) (join : List Node) (high : String) :
    List (String × List Node) :=
  NumberOperator.comparisons.map (fun (op, sign) =>
      (op.name, [.text (" " ++ sign ++ " "), .action (.arg value)])) ++
    [(NumberOperator.between.name,
      [.text " BETWEEN ", .action (.arg low)] ++ join ++ [.action (.arg high)])]

/-- The choice between the operators on a number. -/
def numberNode (field value low : String) (join : List Node) (high : String) : Node :=
  .choice field (numberCases value low join high) (some [.text " = ", .action (.arg value)])

/-- The nodes of a number template. -/
def numberNodes (column : String) : List Node :=
  [.text ("SELECT user_id FROM users WHERE " ++ column),
    numberNode "operator" "value" "min" [.text " AND "] "max"]

/-- What an operator puts between the column and its operand. -/
def TextOperator.before : TextOperator → String
  | .equal => " = "
  | .notEqual => " != "
  | .contains => " LIKE CONCAT('%', "
  | .startsWith => " LIKE CONCAT("
  | .endsWith => " LIKE CONCAT('%', "
  | .oneOf => " IN ("
  | .noneOf => " NOT IN ("

/-- What an operator puts behind its operand. -/
def TextOperator.after : TextOperator → String
  | .equal | .notEqual => ""
  | .contains | .startsWith => ", '%')"
  | .endsWith | .oneOf | .noneOf => ")"

/-- Whether an operator takes a list. -/
def TextOperator.isOnList (op : TextOperator) : Bool := TextOperator.onList.contains op

/-- The action that binds the operand of an operator. -/
def TextOperator.operand (op : TextOperator) : Pipeline :=
  if op.isOnList then .argEach "values" else .arg "value"

/-- The nodes of what a column has to satisfy under an operator on texts. -/
def testNodes (column : String) (op : TextOperator) : List Node :=
  [.text (" " ++ column ++ op.before), .action op.operand] ++
    if op.after = "" then [] else [.text op.after]

/-- The nodes of a text template. -/
def textNodes (column : String) : List Node :=
  [.text "SELECT user_id FROM users WHERE",
    .choice "operator" (TextOperator.all.map fun op => (op.name, testNodes column op))
      (some (testNodes column .equal))]

/-- The nodes of a period template. -/
def periodNodes (column : String) : List Node :=
  [.text ("SELECT user_id FROM users WHERE " ++ column ++ " BETWEEN "), .action (.arg "start"),
    .text " AND ", .action (.arg "end")]

/-- The text of an event template up to its first choice. -/
def eventLead (literal : String) : String :=
  "SELECT user_id FROM events\nWHERE event_name = " ++ literal ++ "\nAND created_at >="

/-- The choice between the ranges of time. -/
def rangeNode : Node :=
  .choice "timeRange" (TimeRange.all.map fun r => (r.name, [.text (" " ++ r.start)]))
    (some [.text (" " ++ TimeRange.week.start)])

/-- The choice between what is counted. -/
def accumulationNode : Node :=
  .choice "accumulation"
    (Accumulation.all.map fun a => (a.name, [.text ("\nHAVING " ++ a.aggregate)])) none

/-- The choice between the numbers of events. -/
def countNode : Node :=
  numberNode "countOperator" "countValue" "countMin" [.action (.literal " AND ")] "countMax"

/-- The nodes of an event template behind the name of the event. -/
def eventBody : List Node := [rangeNode, .text "\nGROUP BY user_id", accumulationNode, countNode]

/-- The nodes of an event template. -/
def eventNodes (literal : String) : List Node :=
  [.text (eventLead literal), rangeNode, .text "\nGROUP BY user_id", accumulationNode, countNode]

/-! ## Names of values -/

theorem isPlain_text (op : TextOperator) : IsPlain op.name := by
  cases op <;> decide

theorem isPlain_range (r : TimeRange) : IsPlain r.name := by
  cases r <;> decide

theorem isPlain_accumulation (a : Accumulation) : IsPlain a.name := by
  cases a <;> decide

theorem isPlain_number (op : NumberOperator) : IsPlain op.name := by
  cases op <;> decide

/-! ## Bodies of cases -/

theorem append_ne_empty {s t : String} (h : t ≠ "") : s ++ t ≠ "" := by
  simp [h]

theorem tokensOf_append (nodes nodes' : List Node) :
    tokensOf (nodes ++ nodes') = tokensOf nodes ++ tokensOf nodes' := by
  induction nodes with
  | nil => simp [tokensOf]
  | cons n nodes ih => simp [tokensOf, ih]

theorem tokensOf_singleton (n : Node) : tokensOf [n] = n.tokens := by
  simp [tokensOf]

theorem spells_nil : Spells "" [] := line_nil

theorem spells_text {text : String} (htext : isText text = true)
    (hlast : endsInBlank text.toList = false) : Spells text [.text text] := by
  obtain ⟨hne, hclean⟩ := exists_of_isText htext
  exact line_text (by simpa using hne) hclean.1 hlast

section

variable {body text field : String} {nodes : List Node}

theorem Spells.textAction {p : Pipeline} {action : String} (h : Spells body nodes)
    (htext : isText text = true) (hp : p.isCanonical 1 = true)
    (haction : action.toList = (Token.action (.print p)).source) :
    Spells (text ++ action ++ body) (.text text :: .action p :: nodes) := by
  have ha : (Action.print p).isCanonical = true := hp
  have hline := Line.textAction h htext ha
  rw [Spells, String.toList_append, String.toList_append, haction]
  simpa [tokensOf, Node.tokens] using hline

theorem Spells.textArg (h : Spells body nodes) (htext : isText text = true)
    (hfield : isName field = true) :
    Spells (text ++ argAction field ++ body) (.text text :: .action (.arg field) :: nodes) :=
  h.textAction htext (arg_isCanonical hfield) (toList_argAction field)

theorem Spells.textArgEach (h : Spells body nodes) (htext : isText text = true)
    (hfield : isName field = true) :
    Spells (text ++ argEachAction field ++ body)
      (.text text :: .action (.argEach field) :: nodes) :=
  h.textAction htext (argEach_isCanonical hfield) (toList_argEachAction field)

theorem spells_textArg (htext : isText text = true) (hfield : isName field = true) :
    Spells (text ++ argAction field) [.text text, .action (.arg field)] := by
  simpa using spells_nil.textArg htext hfield

theorem spells_arg (hfield : isName field = true) :
    Spells (argAction field) [.action (.arg field)] := by
  have ha : (Action.print (.arg field)).isCanonical = true := arg_isCanonical hfield
  have hline := line_nil.action ha
  rw [Spells, toList_argAction]
  simpa [tokensOf, Node.tokens] using hline

/-- A text printed at the start of a line, in place of the white space before it. -/
theorem Spells.literalBelow {body' : String} {nodes' : List Node} (h : Spells body nodes)
    (htext : IsPlain text) (h' : Spells body' nodes') :
    Spells (body ++ ("\n" ++ trimmedAction ("\"" ++ text ++ "\"")) ++ body')
      (nodes ++ .action (.literal text) :: nodes') := by
  have ha : (Action.print (.literal text)).isCanonical = true := rfl
  have hquoted : text.toList.flatMap escaped = text.toList := by
    rw [List.flatMap_congr htext, List.flatMap_singleton']
  have haction : (trimmedAction ("\"" ++ text ++ "\"")).toList =
      (Action.print (.literal text)).trimmed := by
    apply toList_trimmedAction
    simp [Action.source, Pipeline.literal, Pipeline.source, declsSource, Command.source,
      Operand.source, literalSource, stagesSource, hquoted]
  have hline := Line.below h ha h'
  rw [Spells]
  simpa [tokensOf_append, tokensOf, Node.tokens, haction] using hline

end

/-! ## Numbers -/

section

variable {field value low join high : String} {nodes : List Node}

theorem spells_comparisons (hvalue : isName value = true) :
    List.Forall₂ SpellsCase
      (NumberOperator.comparisons.map fun (op, sign) =>
        (op.name, " " ++ sign ++ " " ++ argAction value))
      (NumberOperator.comparisons.map fun (op, sign) =>
        (op.name, [.text (" " ++ sign ++ " "), .action (.arg value)])) := by
  have hsigns : ∀ c ∈ NumberOperator.comparisons, isText (" " ++ c.2 ++ " ") = true := by
    decide
  rw [List.forall₂_map_left_iff, List.forall₂_map_right_iff, List.forall₂_same]
  exact fun c hc => ⟨rfl, isPlain_number c.1, spells_textArg (hsigns c hc) hvalue⟩

theorem numberNode_isCanonical (hfield : isName field = true) (hvalue : isName value = true)
    (hbounds : Node.allCanonical
      ([.text " BETWEEN ", .action (.arg low)] ++ nodes ++ [.action (.arg high)]) = true) :
    (numberNode field value low nodes high).isCanonical = true := by
  have harg := arg_isCanonical hvalue
  have hsigns : ∀ c ∈ NumberOperator.comparisons, isText (" " ++ c.2 ++ " ") = true := by
    decide
  have hequal : isText " = " = true := by decide
  refine choice_isCanonical hfield (by simp [numberCases]) ?_ ?_
  · intro c hc
    rw [numberCases, List.mem_append, List.mem_map, List.mem_singleton] at hc
    rcases hc with ⟨c', hc', rfl⟩ | rfl
    · simp [Node.allCanonical, Node.isCanonical, Node.isText, hsigns c' hc', harg]
    · exact hbounds
  · simp [endCanonical, Node.allCanonical, Node.isCanonical, Node.isText, hequal, harg]

/-- The choice of a number below a line. What stands between the two bounds may break the line. -/
theorem Line.number {ts us : List Token} {src s : List Char} (hfield : isName field = true)
    (hvalue : isName value = true)
    (hbounds : Spells (" BETWEEN " ++ argAction low ++ join ++ argAction high)
      ([.text " BETWEEN ", .action (.arg low)] ++ nodes ++ [.action (.arg high)]))
    (h : Line ts src) (hs : LaysOut us s) :
    LaysOut (ts ++ ((numberNode field value low nodes high).tokens ++ us))
      (src ++ '\n' :: ((numberChoice field value low join high).toList ++ s)) := by
  have hbetween : SpellsCase
      (NumberOperator.between.name, " BETWEEN " ++ argAction low ++ join ++ argAction high)
      (NumberOperator.between.name,
        [.text " BETWEEN ", .action (.arg low)] ++ nodes ++ [.action (.arg high)]) :=
    ⟨rfl, isPlain_number .between, hbounds⟩
  have hcases := List.rel_append (spells_comparisons hvalue) (.cons hbetween .nil)
  have hlast : Option.Rel Spells (some (" = " ++ argAction value))
      (some [.text " = ", .action (.arg value)]) := .some (spells_textArg (by decide) hvalue)
  exact h.choice hfield hcases hlast hs

end

/-! ## Sources -/

theorem laysOut_nil : LaysOut [] [] := @LaysOut.last [] (by decide)

/-- A source of a line and one choice below it. -/
theorem read_below {text lead body : String} {n : Node} (hn : Node.allCanonical [n] = true)
    (h : LaysOut ([.text text] ++ (n.tokens ++ [])) (lead.toList ++ '\n' :: (body.toList ++ []))) :
    Template.read (lead ++ "\n" ++ body) = .ok ⟨[.text text, n]⟩ := by
  apply read_layout hn
  rw [tokensOf_singleton]
  simpa using h

theorem read_numberSource_of_line {column text : String}
    (hlead : Line [.text text] ("SELECT user_id FROM users WHERE " ++ column).toList) :
    Template.read (numberSource column) =
      .ok ⟨[.text text, numberNode "operator" "value" "min" [.text " AND "] "max"]⟩ := by
  have hbounds : Spells (" BETWEEN " ++ argAction "min" ++ " AND " ++ argAction "max")
      ([.text " BETWEEN ", .action (.arg "min")] ++ [.text " AND "] ++
        [.action (.arg "max")]) := by
    have hmax : Spells (" AND " ++ argAction "max") [.text " AND ", .action (.arg "max")] :=
      spells_textArg (by decide) (by decide)
    have hmin : Spells (" BETWEEN " ++ argAction "min" ++ (" AND " ++ argAction "max"))
        [.text " BETWEEN ", .action (.arg "min"), .text " AND ", .action (.arg "max")] :=
      hmax.textArg (by decide) (by decide)
    simpa [String.append_assoc] using hmin
  have hoperator : isName "operator" = true := by decide
  have hvalue : isName "value" = true := by decide
  have hcanonical : Node.allCanonical
      [numberNode "operator" "value" "min" [.text " AND "] "max"] = true := by
    have hnumber :
        (numberNode "operator" "value" "min" [.text " AND "] "max").isCanonical = true :=
      numberNode_isCanonical hoperator hvalue (by decide)
    simp [Node.allCanonical, hnumber]
  exact read_below hcanonical (hlead.number hoperator hvalue hbounds laysOut_nil)

/-- The column is read as text, whatever it is, if nothing in it opens an action and no white space
of its own stands at its end. -/
theorem read_numberSource {column : String} (hopen : ¬ ['\x7b', '\x7b'] <:+: column.toList)
    (hne : column ≠ "") (hlast : endsInBlank column.toList = false) :
    Template.read (numberSource column) = .ok ⟨numberNodes column⟩ := by
  apply read_numberSource_of_line
  apply line_text
  · exact append_ne_empty hne
  · rw [String.toList_append]
    exact not_opens_append_right (by decide) hopen
  · have hne' : column.toList ≠ [] := by simpa using hne
    rw [String.toList_append, endsInBlank_append _ hne', hlast]

/-- Of a column that ends in white space, or is empty, the text in front of the choice is cut. -/
theorem exists_read_numberSource {column : String}
    (hopen : ¬ ['\x7b', '\x7b'] <:+: column.toList) :
    ∃ text, Template.read (numberSource column) =
      .ok ⟨[.text text, numberNode "operator" "value" "min" [.text " AND "] "max"]⟩ := by
  have hopen' : ¬ ['\x7b', '\x7b'] <:+: ("SELECT user_id FROM users WHERE " ++ column).toList := by
    rw [String.toList_append]
    exact not_opens_append_right (by decide) hopen
  have hline := line_trimmed hopen'
  rw [textTokens, if_neg] at hline
  · exact ⟨_, read_numberSource_of_line hline⟩
  · -- The first letter stays.
    rw [List.isEmpty_iff, List.rdropWhile_eq_nil_iff]
    exact fun h => absurd (h 'S' (by simp)) (by decide)

theorem isText_of_clean {text : String} (hne : text ≠ "") (h : Clean text.toList) :
    isText text = true := by
  simp only [isText, Bool.and_eq_true, Bool.not_eq_true', decide_eq_false_iff_not, bne_iff_ne,
    List.isEmpty_eq_false_iff]
  exact ⟨⟨by simpa using hne, h.1⟩, h.2⟩

theorem clean_around {before after column : String} (hbefore : '\x7b' ∉ before.toList)
    (hopen : ¬ ['\x7b', '\x7b'] <:+: column.toList) (hafter : '\x7b' ∉ after.toList)
    (hne : after ≠ "") : Clean (before ++ column ++ after).toList := by
  have hne' : after.toList ≠ [] := by simpa using hne
  rw [String.toList_append, String.toList_append]
  refine ⟨not_opens_append_left (not_opens_append_right hbefore hopen) hafter, ?_⟩
  rw [List.getLast?_append_of_ne_nil _ hne']
  exact fun h => hafter (List.mem_of_getLast? h)

section

variable {column : String} (hopen : ¬ ['\x7b', '\x7b'] <:+: column.toList) (op : TextOperator)

include hopen

theorem isText_before : isText (" " ++ column ++ op.before) = true := by
  apply isText_of_clean
  · cases op <;> exact append_ne_empty (by decide)
  · cases op <;> exact clean_around (by decide) hopen (by decide) (by decide)

theorem spells_test : Spells (textTest column op) (testNodes column op) := by
  have hbefore := isText_before hopen op
  have hvalue : isName "value" = true := by decide
  have hvalues : isName "values" = true := by decide
  have hpercent : Spells ", '%')" [.text ", '%')"] := spells_text (by decide) (by decide)
  have hclose : Spells ")" [.text ")"] := spells_text (by decide) (by decide)
  cases op with
  | equal | notEqual => exact spells_textArg hbefore hvalue
  | contains | startsWith => exact hpercent.textArg hbefore hvalue
  | endsWith => exact hclose.textArg hbefore hvalue
  | oneOf | noneOf => exact hclose.textArgEach hbefore hvalues

theorem allCanonical_testNodes : Node.allCanonical (testNodes column op) = true := by
  have hbefore := isText_before hopen op
  have hoperand : op.operand.isCanonical 1 = true := by
    cases op <;> decide
  have hafter : Node.allCanonical (if op.after = "" then [] else [.text op.after]) = true := by
    cases op <;> decide
  simp [testNodes, Node.allCanonical, Node.isCanonical, Node.isText, hbefore, hoperand, hafter]

theorem read_textSource : Template.read (textSource column) = .ok ⟨textNodes column⟩ := by
  have hoperator : isName "operator" = true := by decide
  have hlead : Spells "SELECT user_id FROM users WHERE"
      [.text "SELECT user_id FROM users WHERE"] := spells_text (by decide) (by decide)
  have hcases : List.Forall₂ SpellsCase
      (TextOperator.all.map fun op => (op.name, textTest column op))
      (TextOperator.all.map fun op => (op.name, testNodes column op)) := by
    rw [List.forall₂_map_left_iff, List.forall₂_map_right_iff, List.forall₂_same]
    exact fun op _ => ⟨rfl, isPlain_text op, spells_test hopen op⟩
  have hlast : Option.Rel Spells (some (textTest column .equal))
      (some (testNodes column .equal)) := .some (spells_test hopen .equal)
  have hcanonical : Node.allCanonical [.choice "operator"
      (TextOperator.all.map fun op => (op.name, testNodes column op))
      (some (testNodes column .equal))] = true := by
    have hbodies : ∀ c ∈ TextOperator.all.map fun op => (op.name, testNodes column op),
        Node.allCanonical c.2 = true :=
      List.forall_mem_map.mpr fun op _ => allCanonical_testNodes hopen op
    have hend : endCanonical (some (testNodes column .equal)) = true := by
      rw [endCanonical, allCanonical_testNodes hopen]
    have hchoice : (Node.choice "operator" (TextOperator.all.map fun op =>
        (op.name, testNodes column op)) (some (testNodes column .equal))).isCanonical = true :=
      choice_isCanonical hoperator (List.cons_ne_nil _ _) hbodies hend
    simp [Node.allCanonical, hchoice]
  have hsource : textSource column = "SELECT user_id FROM users WHERE" ++ "\n" ++
      choice "operator" (TextOperator.all.map fun op => (op.name, textTest column op))
        (some (textTest column .equal)) := rfl
  rw [hsource]
  exact read_below hcanonical (Line.choice hoperator hcases hlast hlead laysOut_nil)

theorem read_periodSource : Template.read (periodSource column) = .ok ⟨periodNodes column⟩ := by
  have hlead : isText ("SELECT user_id FROM users WHERE " ++ column ++ " BETWEEN ") = true := by
    apply isText_of_clean
    · exact append_ne_empty (by decide)
    · exact clean_around (by decide) hopen (by decide) (by decide)
  have hstart : (Pipeline.arg "start").isCanonical 1 = true := by decide
  have hend : (Pipeline.arg "end").isCanonical 1 = true := by decide
  have hand : isText " AND " = true := by decide
  have hcanonical : Node.allCanonical (periodNodes column) = true := by
    simp [periodNodes, Node.allCanonical, Node.isCanonical, Node.isText, hlead, hstart, hend, hand]
  have hsource : Node.source (periodNodes column) = periodSource column := by
    have htokens : (tokensOf (periodNodes column)).flatMap Token.source =
        ("SELECT user_id FROM users WHERE " ++ column ++ " BETWEEN ").toList ++
          ((argAction "start").toList ++ (" AND ".toList ++ (argAction "end").toList)) := by
      rw [toList_argAction, toList_argAction]
      simp [periodNodes, tokensOf, Node.tokens, Token.source]
    rw [Node.source, htokens]
    unfold periodSource
    simp only [← String.toList_append, String.ofList_toList, String.append_assoc]
  rw [← hsource, Template.read, parse_source hcanonical]
  rfl

end

theorem spells_eventBounds :
    Spells (" BETWEEN " ++ argAction "countMin" ++ ("\n" ++ trimmedAction "\" AND \"") ++
        argAction "countMax")
      ([.text " BETWEEN ", .action (.arg "countMin")] ++ [.action (.literal " AND ")] ++
        [.action (.arg "countMax")]) := by
  have hlow : Spells (" BETWEEN " ++ argAction "countMin")
      [.text " BETWEEN ", .action (.arg "countMin")] := spells_textArg (by decide) (by decide)
  have hhigh : Spells (argAction "countMax") [.action (.arg "countMax")] :=
    spells_arg (by decide)
  have hand : IsPlain " AND " := by decide
  have hbounds := hlow.literalBelow hand hhigh
  have hquoted : "\"" ++ " AND " ++ "\"" = "\" AND \"" := by decide
  rw [hquoted] at hbounds
  exact hbounds

theorem isText_start (r : TimeRange) : isText (" " ++ r.start) = true := by
  cases r <;> decide +kernel

theorem isText_aggregate (a : Accumulation) : isText ("\nHAVING " ++ a.aggregate) = true := by
  cases a <;> decide +kernel

theorem spells_start (r : TimeRange) : Spells (" " ++ r.start) [.text (" " ++ r.start)] := by
  refine spells_text (isText_start r) ?_
  cases r <;> decide +kernel

theorem spells_aggregate (a : Accumulation) :
    Spells ("\nHAVING " ++ a.aggregate) [.text ("\nHAVING " ++ a.aggregate)] := by
  refine spells_text (isText_aggregate a) ?_
  cases a <;> decide +kernel

theorem spells_ranges : List.Forall₂ SpellsCase
    (TimeRange.all.map fun r => (r.name, " " ++ r.start))
    (TimeRange.all.map fun r => (r.name, [.text (" " ++ r.start)])) := by
  rw [List.forall₂_map_left_iff, List.forall₂_map_right_iff, List.forall₂_same]
  exact fun r _ => ⟨rfl, isPlain_range r, spells_start r⟩

theorem spells_accumulations : List.Forall₂ SpellsCase
    (Accumulation.all.map fun a => (a.name, "\nHAVING " ++ a.aggregate))
    (Accumulation.all.map fun a => (a.name, [.text ("\nHAVING " ++ a.aggregate)])) := by
  rw [List.forall₂_map_left_iff, List.forall₂_map_right_iff, List.forall₂_same]
  exact fun a _ => ⟨rfl, isPlain_accumulation a, spells_aggregate a⟩

theorem rangeNode_isCanonical : rangeNode.isCanonical = true := by
  have hbody : ∀ r : TimeRange, Node.allCanonical [.text (" " ++ r.start)] = true := by
    intro r
    simp [Node.allCanonical, Node.isCanonical, isText_start]
  refine choice_isCanonical (by decide) (List.cons_ne_nil _ _) ?_ (hbody .week)
  exact List.forall_mem_map.mpr fun r _ => hbody r

theorem accumulationNode_isCanonical : accumulationNode.isCanonical = true := by
  refine choice_isCanonical (by decide) (List.cons_ne_nil _ _) ?_ rfl
  refine List.forall_mem_map.mpr fun a _ => ?_
  simp [Node.allCanonical, Node.isCanonical, isText_aggregate]

theorem toList_eventSource (literal : String) :
    (eventSource literal).toList =
      (eventLead literal).toList ++ '\n' ::
        ((choice "timeRange" (TimeRange.all.map fun r => (r.name, " " ++ r.start))
            (some (" " ++ TimeRange.week.start))).toList ++
          ("\nGROUP BY user_id".toList ++ '\n' ::
            ((choice "accumulation"
                (Accumulation.all.map fun a => (a.name, "\nHAVING " ++ a.aggregate)) none).toList ++
              '\n' :: (numberChoice "countOperator" "countValue" "countMin"
                ("\n" ++ trimmedAction "\" AND \"") "countMax").toList))) := by
  have hselect : "SELECT user_id FROM events\nWHERE event_name = ".toList =
      "SELECT user_id FROM events".toList ++ "\n".toList ++ "WHERE event_name = ".toList := by
    decide +kernel
  have hsince : "\nAND created_at >=".toList = "\n".toList ++ "AND created_at >=".toList := by
    decide +kernel
  have hgroup : "\nGROUP BY user_id".toList = "\n".toList ++ "GROUP BY user_id".toList := by
    decide +kernel
  have hbreak : ∀ s : List Char, '\n' :: s = "\n".toList ++ s := fun _ => rfl
  unfold eventSource eventLead
  generalize choice "timeRange" _ _ = range
  generalize choice "accumulation" _ _ = accumulation
  generalize numberChoice _ _ _ _ _ = count
  simp only [String.intercalate_cons_cons, String.intercalate_singleton, String.toList_append,
    List.append_assoc, hselect, hsince, hgroup, hbreak]

theorem allCanonical_eventBody : Node.allCanonical eventBody = true := by
  have hbreak : isText "\nGROUP BY user_id" = true := by decide
  have hcountNode : countNode.isCanonical = true :=
    numberNode_isCanonical (by decide) (by decide) (by decide)
  have hrangeText : rangeNode.isText = false := rfl
  have haccumulationText : accumulationNode.isText = false := rfl
  simp [eventBody, Node.allCanonical, Node.isCanonical, rangeNode_isCanonical, hbreak,
    accumulationNode_isCanonical, hcountNode, hrangeText, haccumulationText]

/-- The literal of an event may hold actions of its own. -/
theorem read_eventSource_of_line {literal first : String} {nodes : List Node}
    (hlead : Line (.text first :: tokensOf nodes) (eventLead literal).toList)
    (hcanonical : Node.allCanonical (nodes ++ eventBody) = true) :
    Template.read (eventSource literal) = .ok ⟨.text first :: (nodes ++ eventBody)⟩ := by
  have hbreak : isText "\nGROUP BY user_id" = true := by decide
  have hgroup : Spells "\nGROUP BY user_id" [.text "\nGROUP BY user_id"] :=
    spells_text hbreak (by decide)
  have hcount : isName "countOperator" = true := by decide
  have hvalue : isName "countValue" = true := by decide
  have hrange : isName "timeRange" = true := by decide
  have haccumulation : isName "accumulation" = true := by decide
  have hnumber := line_nil.number hcount hvalue spells_eventBounds laysOut_nil
  have hhaving := Line.choice haccumulation spells_accumulations .none hgroup hnumber
  have hlaid := hlead.choice hrange spells_ranges (.some (spells_start .week)) hhaving
  have htokens : tokensOf eventBody =
      rangeNode.tokens ++ ([.text "\nGROUP BY user_id"] ++ (accumulationNode.tokens ++
        ([] ++ (countNode.tokens ++ [])))) := by
    rw [eventBody, tokensOf, tokensOf, tokensOf, tokensOf, tokensOf, Node.tokens.eq_1]
    rfl
  apply read_layout hcanonical
  rw [tokensOf_append, htokens, toList_eventSource]
  simp only [List.append_nil, List.nil_append, List.cons_append] at hlaid ⊢
  exact hlaid

/-- The literal of an event is text like a column. What stands at its end does not matter here. -/
theorem read_eventSource {literal : String} (hopen : ¬ ['\x7b', '\x7b'] <:+: literal.toList) :
    Template.read (eventSource literal) = .ok ⟨eventNodes literal⟩ := by
  have hlead : Line (.text (eventLead literal) :: tokensOf []) (eventLead literal).toList := by
    rw [tokensOf]
    unfold eventLead
    apply line_text
    · exact append_ne_empty (by decide)
    · exact (clean_around (by decide) hopen (by decide) (by decide)).1
    · have hne : "\nAND created_at >=".toList ≠ [] := by decide
      rw [String.toList_append, endsInBlank_append _ hne]
      decide
  exact read_eventSource_of_line hlead allCanonical_eventBody

end Cohort.Stock
