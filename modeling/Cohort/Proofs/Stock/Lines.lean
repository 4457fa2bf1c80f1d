import Cohort.Proofs.Template.Choice
import Cohort.Proofs.Template.Source.Layout
import Cohort.Stock.Source
import Mathlib.Data.List.DropRight

/-! # Sources that put the branches of a choice on lines of their own -/

namespace Cohort.Stock

open Template

/-! ## Lines -/

/-- A source of some tokens behind which the next line may begin with an action. -/
def Line (ts : List Token) (src : List Char) : Prop :=
  ∀ (a : Action) (us : List Token) (s : List Char), a.isCanonical = true → LaysOut us s →
    LaysOut (ts ++ .action a :: us) (src ++ '\n' :: (a.trimmed ++ s))

variable {ts us : List Token} {src src' s : List Char}

theorem clean_newline {text : List Char} (h : ¬ ['\x7b', '\x7b'] <:+: text) :
    Clean (text ++ ['\n']) := by
  refine ⟨fun hinfix => ?_, by simp⟩
  obtain hsuffix | hinfix := List.infix_concat_iff.mp hinfix
  · obtain hnil | ⟨t, ht, -⟩ := List.suffix_concat_iff.mp hsuffix
    · cases hnil
    · have hlast := congrArg List.getLast? ht
      simp at hlast
  · exact h hinfix

theorem textTokens_toList {text : String} (h : text ≠ "") :
    textTokens text.toList = [.text text] := by
  simp [textTokens, h]

theorem line_nil : Line [] [] := by
  intro a us s ha hs
  exact @LaysOut.trimmed [] ['\n'] s a us (clean_newline (by decide)) rfl rfl ha hs

theorem line_text {text : String} (hne : text ≠ "")
    (hopen : ¬ ['\x7b', '\x7b'] <:+: text.toList)
    (hlast : endsInBlank text.toList = false) : Line [.text text] text.toList := by
  intro a us s ha hs
  rw [← textTokens_toList hne]
  exact @LaysOut.trimmed _ ['\n'] s a us (clean_newline hopen) hlast rfl ha hs

theorem endsInBlank_rdropWhile (text : List Char) :
    endsInBlank (text.rdropWhile Text.isBlank) = false := by
  by_cases hnil : text.rdropWhile Text.isBlank = []
  · rw [hnil]
    rfl
  · have hlast := List.rdropWhile_last_not Text.isBlank text hnil
    rw [endsInBlank, List.getLast?_eq_some_getLast hnil]
    simpa using hlast

/-- White space at the end of a line is lost. -/
theorem line_trimmed {text : List Char} (hopen : ¬ ['\x7b', '\x7b'] <:+: text) :
    Line (textTokens (text.rdropWhile Text.isBlank)) text := by
  intro a us s ha hs
  have hsplit : text.rdropWhile Text.isBlank ++ text.rtakeWhile Text.isBlank = text :=
    List.rdropWhile_append_rtakeWhile
  have hgap : (text.rtakeWhile Text.isBlank ++ ['\n']).all Text.isBlank = true := by
    rw [List.all_append, Bool.and_eq_true, List.all_eq_true]
    exact ⟨fun c hc => List.mem_rtakeWhile_imp hc, by decide⟩
  have hclean : Clean (text.rdropWhile Text.isBlank ++
      (text.rtakeWhile Text.isBlank ++ ['\n'])) := by
    rw [← List.append_assoc, hsplit]
    exact clean_newline hopen
  have hlaid := LaysOut.trimmed hclean (endsInBlank_rdropWhile text) hgap ha hs
  rw [List.append_assoc, ← List.append_assoc, hsplit] at hlaid
  simpa using hlaid

theorem Line.action {a : Action} (h : Line ts src) (ha : a.isCanonical = true) :
    Line (.action a :: ts) ((Token.action a).source ++ src) := by
  intro b us s hb hs
  have hclean : Clean [] := ⟨by decide, by decide⟩
  have hlaid := LaysOut.action hclean ha (h b us s hb hs)
  simpa [textTokens] using hlaid

theorem Line.textAction {text : String} {a : Action} (h : Line ts src)
    (htext : isText text = true) (ha : a.isCanonical = true) :
    Line (.text text :: .action a :: ts) (text.toList ++ ((Token.action a).source ++ src)) := by
  intro b us s hb hs
  obtain ⟨hne, hclean⟩ := exists_of_isText htext
  have hlaid := LaysOut.action hclean ha (h b us s hb hs)
  rw [textTokens_toList (by simpa using hne)] at hlaid
  simpa using hlaid

/-- Lines one below another. -/
theorem Line.below {a : Action} (h : Line ts src) (ha : a.isCanonical = true)
    (h' : Line us src') : Line (ts ++ .action a :: us) (src ++ '\n' :: (a.trimmed ++ src')) := by
  intro b ws s hb hs
  simpa using h a _ _ ha (h' b ws s hb hs)

/-! ## Choices -/

/-- A text that is written in double quotes as it is. -/
def IsPlain (value : String) : Prop := ∀ c ∈ value.toList, escaped c = [c]

instance (value : String) : Decidable (IsPlain value) :=
  decidable_of_iff (value.toList.all fun c => decide (escaped c = [c])) (by simp [IsPlain])

theorem toList_condition {field value : String} (h : IsPlain value) :
    (condition field value).toList = (Pipeline.equals field value).behind "if" := by
  have hvalue : value.toList.flatMap escaped = value.toList := by
    rw [List.flatMap_congr h, List.flatMap_singleton']
  simp [condition, Pipeline.behind, Pipeline.equals, Pipeline.source, Command.source, argsSource,
    stagesSource, declsSource, Operand.source, pathSource, literalSource, hvalue]

theorem toList_trimmedAction {body : String} {a : Action} (h : body.toList = a.source) :
    (trimmedAction body).toList = a.trimmed := by
  simp [trimmedAction, Action.trimmed, Action.padded, h]

/-- Lines, each behind a line break. -/
def broken (lines : List String) : List Char :=
  lines.flatMap fun line => '\n' :: line.toList

theorem toList_intercalate {lines : List String} (h : lines ≠ []) :
    '\n' :: (String.intercalate "\n" lines).toList = broken lines := by
  induction lines with
  | nil => exact absurd rfl h
  | cons line rest ih =>
      cases rest with
      | nil => simp [broken, String.intercalate_singleton]
      | cons next rest =>
          have hrest := ih (List.cons_ne_nil _ _)
          rw [String.intercalate_cons_cons, broken, List.flatMap_cons]
          simp only [String.toList_append]
          rw [← broken, ← hrest]
          simp

/-- The line of a branch behind the first. -/
def elseLine (field : String) (c : String × String) : String :=
  trimmedAction ("else " ++ condition field c.1) ++ c.2

theorem map_zipIdx_elseLine (field : String) (cases : List (String × String)) (n : Nat) :
    ((cases.zipIdx (n + 1)).map fun ((value, body), i) =>
        trimmedAction (if i = 0 then condition field value else "else " ++ condition field value) ++
          body) = cases.map (elseLine field) := by
  induction cases generalizing n with
  | nil => rfl
  | cons c cases ih =>
      rw [List.zipIdx_cons, List.map_cons, List.map_cons, ih]
      simp [elseLine]

theorem toList_choice (field : String) (c : String × String) (cases : List (String × String))
    (otherwise : Option String) :
    '\n' :: (choice field (c :: cases) otherwise).toList =
      '\n' :: ((trimmedAction (condition field c.1)).toList ++ (c.2.toList ++
        (broken (cases.map (elseLine field)) ++
          (broken (otherwise.toList.map (trimmedAction "else" ++ ·)) ++
            broken [trimmedAction "end"])))) := by
  rw [choice, toList_intercalate (by simp)]
  simp [broken, List.zipIdx_cons, map_zipIdx_elseLine]

/-- `body` spells some nodes on a line of its own. -/
def Spells (body : String) (nodes : List Node) : Prop :=
  Line (tokensOf nodes) body.toList

/-- A case of a source, and the one that it spells in the tree. -/
structure SpellsCase (c : String × String) (c' : String × List Node) : Prop where
  value_eq : c.1 = c'.1
  plain : IsPlain c.1
  body : Spells c.2 c'.2

section

variable {field : String} {otherwise : Option String} {last : Option (List Node)}

theorem Line.ends (h : Line ts src) (hlast : Option.Rel Spells otherwise last)
    (hs : LaysOut us s) :
    LaysOut (ts ++ (endTokens last ++ us))
      (src ++ (broken (otherwise.toList.map (trimmedAction "else" ++ ·)) ++
        (broken [trimmedAction "end"] ++ s))) := by
  have hend : (trimmedAction "end").toList = Action.endBlock.trimmed := toList_trimmedAction rfl
  have helse : (trimmedAction "else").toList = Action.elseAlone.trimmed := toList_trimmedAction rfl
  cases hlast with
  | none =>
      have hlaid := h .endBlock us s rfl hs
      simpa [endTokens, broken, hend] using hlaid
  | some hbody =>
      have hlaid := h .elseAlone _ _ rfl (hbody .endBlock us s rfl hs)
      simpa [endTokens, broken, hend, helse] using hlaid

variable (hfield : isName field = true)

include hfield

theorem equals_isCanonical (value : String) :
    (Pipeline.equals field value).isCanonical 1 = true := by
  have hdefined : isDefined "eq" = true := by decide
  simp [Pipeline.equals, Pipeline.isCanonical, Command.isCanonical, argsCanonical,
    stagesCanonical, Operand.isCanonical, isLiteral, hfield, hdefined]

/-- The induction goes on at the line of the case before, which the next one ends. -/
theorem Line.elseIfs {cases : List (String × String)} {cases' : List (String × List Node)}
    (hcases : List.Forall₂ SpellsCase cases cases') (h : Line ts src)
    (hend : ∀ {ts src}, Line ts src → LaysOut (ts ++ us) (src ++ s)) :
    LaysOut (ts ++ (branchTokens .elseIf (cases'.map fun c => (.equals field c.1, c.2)) ++ us))
      (src ++ (broken (cases.map (elseLine field)) ++ s)) := by
  induction hcases generalizing ts src with
  | nil => simpa [branchTokens, broken] using hend h
  | @cons c c' cases cases' hc _ ih =>
      obtain ⟨hvalue, hplain, hbody⟩ := hc
      have ha : (Action.elseIf (.equals field c'.1)).isCanonical = true :=
        equals_isCanonical hfield c'.1
      have hline : (trimmedAction ("else " ++ condition field c.1)).toList =
          (Action.elseIf (.equals field c'.1)).trimmed := by
        apply toList_trimmedAction
        rw [String.toList_append, toList_condition hplain, hvalue]
        rfl
      have hlaid := h _ _ _ ha (ih hbody)
      simpa [branchTokens, broken, elseLine, hline] using hlaid

/-- A choice stands below a line, and what follows it stands behind its end. -/
theorem Line.choice {c : String × String} {c' : String × List Node}
    {cases : List (String × String)} {cases' : List (String × List Node)}
    (hcases : List.Forall₂ SpellsCase (c :: cases) (c' :: cases'))
    (hlast : Option.Rel Spells otherwise last) (h : Line ts src) (hs : LaysOut us s) :
    LaysOut (ts ++ ((Node.choice field (c' :: cases') last).tokens ++ us))
      (src ++ '\n' :: ((Stock.choice field (c :: cases) otherwise).toList ++ s)) := by
  cases hcases with
  | cons hc hcases =>
      obtain ⟨hvalue, hplain, hbody⟩ := hc
      have ha : (Action.ifOpens (.equals field c'.1)).isCanonical = true :=
        equals_isCanonical hfield c'.1
      have hline : (trimmedAction (condition field c.1)).toList =
          (Action.ifOpens (.equals field c'.1)).trimmed := by
        apply toList_trimmedAction
        rw [toList_condition hplain, hvalue]
        rfl
      have hrest := Line.elseIfs hfield hcases hbody fun h => h.ends hlast hs
      have hlaid := h _ _ _ ha hrest
      rw [← List.cons_append, toList_choice, hline]
      simpa [Node.tokens, Node.choice, branchTokens] using hlaid

theorem choice_isCanonical {cases : List (String × List Node)} (hne : cases ≠ [])
    (hcases : ∀ c ∈ cases, Node.allCanonical c.2 = true) (hlast : endCanonical last = true) :
    (Node.choice field cases last).isCanonical = true := by
  have hbranches : branchesCanonical (cases.map fun c => (.equals field c.1, c.2)) = true := by
    clear hne
    induction cases with
    | nil => rfl
    | cons c cases ih =>
        have hrest := ih fun c hc => hcases c (by simp [hc])
        have hbody := hcases c (by simp)
        rw [List.map_cons, branchesCanonical, equals_isCanonical hfield, hbody, hrest]
        rfl
  simp [Node.choice, Node.isCanonical, hbranches, hlast, hne]

end

/-! ## Texts -/

/-- Braces do not open where a text without any is put in front. -/
theorem not_opens_append_right {s t : List Char} (hs : '\x7b' ∉ s)
    (ht : ¬ ['\x7b', '\x7b'] <:+: t) : ¬ ['\x7b', '\x7b'] <:+: s ++ t := by
  intro h
  obtain h | h | ⟨l, r, heq, hl, hr⟩ := List.infix_append_iff.mp h
  · exact hs (h.subset (by simp))
  · exact ht h
  · cases l with
    | nil => exact ht (heq ▸ hr.isInfix)
    | cons c l =>
        obtain ⟨rfl, -⟩ := List.cons.inj heq
        exact hs (hl.subset (by simp))

theorem not_opens_append_left {s t : List Char} (hs : ¬ ['\x7b', '\x7b'] <:+: s)
    (ht : '\x7b' ∉ t) : ¬ ['\x7b', '\x7b'] <:+: s ++ t := by
  intro h
  obtain h | h | ⟨l, r, heq, hl, hr⟩ := List.infix_append_iff.mp h
  · exact hs h
  · exact ht (h.subset (by simp))
  · cases r with
    | nil =>
        rw [List.append_nil] at heq
        exact hs (heq ▸ hl.isInfix)
    | cons c r =>
        have hc : c = '\x7b' := by
          have hmem : c ∈ ['\x7b', '\x7b'] := heq ▸ by simp
          simpa using hmem
        exact ht (hr.subset (by simp [hc]))

theorem toList_argAction (field : String) :
    (argAction field).toList = (Token.action (.print (.arg field))).source := by
  simp [argAction, Token.source, Action.padded, Action.source, Pipeline.arg, Pipeline.calling,
    Pipeline.source, declsSource, Command.source, argsSource, Operand.source, pathSource,
    stagesSource]

theorem toList_argEachAction (field : String) :
    (argEachAction field).toList = (Token.action (.print (.argEach field))).source := by
  simp [argEachAction, Token.source, Action.padded, Action.source, Pipeline.argEach,
    Pipeline.calling, Pipeline.source, declsSource, Command.source, argsSource, Operand.source,
    pathSource, stagesSource]

theorem calling_isCanonical {name field : String} (hname : isDefined name = true)
    (hfield : isName field = true) : (Pipeline.calling name field).isCanonical 1 = true := by
  simp [Pipeline.calling, Pipeline.isCanonical, Command.isCanonical, argsCanonical,
    stagesCanonical, Operand.isCanonical, hname, hfield]

theorem arg_isCanonical {field : String} (h : isName field = true) :
    (Pipeline.arg field).isCanonical 1 = true :=
  calling_isCanonical (by decide) h

theorem argEach_isCanonical {field : String} (h : isName field = true) :
    (Pipeline.argEach field).isCanonical 1 = true :=
  calling_isCanonical (by decide) h

end Cohort.Stock
