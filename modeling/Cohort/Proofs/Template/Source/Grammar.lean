import Cohort.Proofs.Template.Source.Words

/-! # Reading pipelines back -/

namespace Cohort.Template

open Text

variable {rest : List Char}

/-! ## What may follow a command or a pipeline -/

/-- Nothing, the end of a group or a bar. -/
def AfterCommand (rest : List Char) : Prop :=
  rest = [] ∨ (∃ t, rest = ')' :: t) ∨ ∃ t, rest = ' ' :: '|' :: t

/-- Nothing or the end of a group. -/
def AfterPipeline (rest : List Char) : Prop :=
  rest = [] ∨ ∃ t, rest = ')' :: t

theorem AfterPipeline.afterCommand (h : AfterPipeline rest) : AfterCommand rest := by
  rcases h with h | h
  · exact .inl h
  · exact .inr (.inl h)

theorem AfterCommand.stops (h : AfterCommand rest) : Stops rest := by
  rcases h with rfl | ⟨t, rfl⟩ | ⟨t, rfl⟩ <;> simp [Stops]

theorem afterCommand_stages (cs : List Command) (h : AfterPipeline rest) :
    AfterCommand (stagesSource cs ++ rest) := by
  cases cs with
  | nil => simpa [stagesSource] using h.afterCommand
  | cons c cs =>
      rw [stagesSource]
      exact .inr (.inr ⟨_, rfl⟩)

theorem stops_args (os : List Operand) (h : AfterCommand rest) :
    Stops (argsSource os ++ rest) := by
  cases os with
  | nil => simpa [argsSource] using h.stops
  | cons o os => simp [argsSource, Stops]

/-! ## How operands and commands begin -/

/-- A literal is a constant, or begins with a character that begins no name. -/
theorem literalSource_cases {v : Value} (h : isLiteral v = true) :
    (∃ name ∈ constants, literalSource v = name.toList) ∨
      ∃ c s, literalSource v = c :: s ∧ (c = '"' ∨ c = '-' ∨ c.isDigit = true) := by
  cases v with
  | null => exact .inl ⟨"nil", by decide, by decide⟩
  | bool b =>
      cases b with
      | true => exact .inl ⟨"true", by decide, by decide⟩
      | false => exact .inl ⟨"false", by decide, by decide⟩
  | num n =>
      cases n with
      | float x => cases h
      | int n =>
          obtain ⟨c, cs, hcs, hc⟩ := exists_intText n
          exact .inr ⟨c, cs, hcs, .inr hc⟩
  | str s => exact .inr ⟨'"', _, rfl, .inl rfl⟩
  | arr items => cases h
  | obj fields => cases h

theorem head_literalSource_ne {v : Value} (hv : isLiteral v = true) {d : Char}
    (hstart : isNameStart d = false) (hd : ¬ (d = '"' ∨ d = '-' ∨ d.isDigit = true))
    (rest : List Char) : ∀ c ∈ (literalSource v ++ rest).head?, c ≠ d := by
  rcases literalSource_cases hv with ⟨name, hname, hs⟩ | ⟨c, s, hs, hc⟩
  · rw [hs]
    exact head_name_ne (isName_of_mem_constants hname) hstart rest
  · have hne : c ≠ d := by
      rintro rfl
      exact hd hc
    simpa [hs] using hne

/-- Whether a character may begin an operand and can neither begin a name nor be passed over. -/
def isMark (c : Char) : Bool := !isSpace c && !isNameStart c

theorem isMark_of_isDigit {c : Char} (h : c.isDigit = true) : isMark c = true := by
  have hspace : ∀ d : Char, d.isDigit = false → (c == d) = false := fun d hd => by
    simpa using ne_of_isDigit h hd
  simp [isMark, isSpace, hspace ' ' (by decide), hspace '\t' (by decide),
    hspace '\r' (by decide), hspace '\n' (by decide), isNameStart_of_isDigit h]

theorem Operand.source_cases : ∀ {o : Operand}, o.isCanonical = true →
    (∃ name ∈ constants, o.source = name.toList) ∨ ∃ c s, o.source = c :: s ∧ isMark c = true
  | .field [], _ => .inr ⟨'.', [], by simp only [source], by decide⟩
  | .field (name :: path), _ =>
      .inr ⟨'.', name.toList ++ pathSource path, by simp [source, pathSource], by decide⟩
  | .variable name path, h => by
      simp only [isCanonical, Bool.and_eq_true] at h
      obtain ⟨cs, hcs, -⟩ := exists_of_isVariable h.1
      exact .inr ⟨'$', cs ++ pathSource path, by simp [source, hcs], by decide⟩
  | .group p path, _ =>
      .inr ⟨'(', p.source ++ ')' :: pathSource path, by simp only [source], by decide⟩
  | .literal v, h => by
      simp only [isCanonical] at h
      simp only [source]
      rcases literalSource_cases h with hname | ⟨c, s, hs, hc⟩
      · exact .inl hname
      · refine .inr ⟨c, s, hs, ?_⟩
        rcases hc with rfl | rfl | hdigit
        · decide
        · decide
        · exact isMark_of_isDigit hdigit

theorem Operand.skipSpace_source {o : Operand} (h : o.isCanonical = true) (rest : List Char) :
    skipSpace (o.source ++ rest) = o.source ++ rest := by
  rcases source_cases h with ⟨name, hname, hsource⟩ | ⟨c, s, hsource, hc⟩
  · rw [hsource, skipSpace_name (isName_of_mem_constants hname)]
  · simp only [isMark, Bool.and_eq_true, Bool.not_eq_true'] at hc
    exact skipSpace_of_head (by simp [hsource, hc.1])

theorem Operand.functionName?_source {o : Operand} (h : o.isCanonical = true)
    (hrest : nameGoesOn rest = false) : functionName? (o.source ++ rest) = none := by
  rcases source_cases h with ⟨name, hname, hsource⟩ | ⟨c, s, hsource, hc⟩
  · rw [hsource, functionName?_of_mem_constants hname hrest]
  · simp only [isMark, Bool.and_eq_true, Bool.not_eq_true'] at hc
    have hnone : name? (o.source ++ rest) = none := name?_of_head (by simp [hsource, hc.2])
    rw [functionName?, hnone]

theorem Command.skipSpace_source {c : Command} (h : c.isCanonical = true) (rest : List Char) :
    skipSpace (c.source ++ rest) = c.source ++ rest := by
  cases c with
  | call name args =>
      simp only [Command.isCanonical, Bool.and_eq_true] at h
      rw [Command.source, List.append_assoc, skipSpace_name (isName_of_isDefined h.1).1]
  | operand o =>
      simp only [Command.isCanonical] at h
      rw [Command.source, Operand.skipSpace_source h]

/-! ## Declarations -/

theorem skipSpace_variable {v : String} (hv : isVariable v = true) (rest : List Char) :
    skipSpace (v.toList ++ rest) = v.toList ++ rest := by
  obtain ⟨cs, hcs, -⟩ := exists_of_isVariable hv
  exact skipSpace_of_head (by simp [hcs, isSpace])

theorem moreVariables_of_head {s : List Char} (h : ∀ c ∈ (skipSpace s).head?, c ≠ ',')
    (fuel : Nat) : moreVariables fuel s = ([], s) := by
  cases fuel with
  | zero => rfl
  | succ fuel =>
      rw [moreVariables]
      split
      · rename_i t ht
        exact absurd rfl (h ',' (by simp [ht]))
      · rfl

theorem nameGoesOn_moreSource (vs : List String) (hrest : nameGoesOn rest = false) :
    nameGoesOn (moreSource vs ++ rest) = false := by
  cases vs with
  | nil => exact hrest
  | cons w vs =>
      rw [nameGoesOn_eq_false_iff]
      intro c hc
      obtain rfl : ',' = c := by simpa [moreSource] using hc
      decide

theorem length_le_moreSource (vs : List String) : vs.length ≤ (moreSource vs).length := by
  induction vs with
  | nil => simp
  | cons w vs ih =>
      simp only [moreSource, List.flatMap_cons, List.length_append, List.length_cons] at ih ⊢
      omega

theorem moreVariables_append {vs : List String} (hvs : vs.all isVariable = true)
    (hgoes : nameGoesOn rest = false) (hrest : ∀ c ∈ (skipSpace rest).head?, c ≠ ',')
    {fuel : Nat} (hfuel : vs.length ≤ fuel) :
    moreVariables fuel (moreSource vs ++ rest) = (vs, rest) := by
  induction vs generalizing fuel with
  | nil => exact moreVariables_of_head hrest fuel
  | cons w vs ih =>
      rw [List.all_cons, Bool.and_eq_true] at hvs
      obtain ⟨fuel, rfl⟩ := Nat.exists_eq_succ_of_ne_zero (Nat.ne_zero_of_lt hfuel)
      have hmore := ih hvs.2 (Nat.le_of_succ_le_succ hfuel)
      have hname := dollarName?_append hvs.1 (nameGoesOn_moreSource vs hgoes)
      have hsource : moreSource (w :: vs) ++ rest =
          ',' :: ' ' :: (w.toList ++ (moreSource vs ++ rest)) := by
        simp [moreSource]
      have hcomma : isSpace ',' = false := by decide
      simp only [hsource, moreVariables, skipSpace_cons hcomma, skipSpace_space,
        skipSpace_variable hvs.1, hname, hmore]

theorem declarations_append {decls : List String} (hdecls : decls.all isVariable = true)
    (hne : decls ≠ []) {s : List Char} (hs : skipSpace s = s) :
    declarations (declsSource decls ++ s) = (decls, s) := by
  obtain ⟨v, vs, rfl⟩ := List.exists_cons_of_ne_nil hne
  rw [List.all_cons, Bool.and_eq_true] at hdecls
  have hgoes : nameGoesOn (' ' :: ':' :: '=' :: ' ' :: s) = false :=
    nameGoesOn_eq_false_iff.mpr (by simp; decide)
  have hcolon : isSpace ':' = false := by decide
  have hsource : declsSource (v :: vs) ++ s =
      v.toList ++ (moreSource vs ++ ' ' :: ':' :: '=' :: ' ' :: s) := by
    simp [declsSource]
  have hname := dollarName?_append hdecls.1 (nameGoesOn_moreSource vs hgoes)
  have hmore : moreVariables (moreSource vs ++ ' ' :: ':' :: '=' :: ' ' :: s).length
      (moreSource vs ++ ' ' :: ':' :: '=' :: ' ' :: s) = (vs, ' ' :: ':' :: '=' :: ' ' :: s) := by
    refine moreVariables_append hdecls.2 hgoes ?_ ?_
    · simp [skipSpace_space, skipSpace_cons hcolon]
    · have hlength := length_le_moreSource vs
      rw [List.length_append]
      omega
  simp only [hsource, declarations, hname, hmore, skipSpace_space, skipSpace_cons hcolon, hs]

theorem declarations_of_head {s : List Char} (h : ∀ c ∈ s.head?, c ≠ '$') :
    declarations s = ([], s) := by
  rw [declarations, dollarName?_of_head h]

theorem head_skipSpace_path (path : List String) (hrest : AfterCommand rest) :
    ∀ c ∈ (skipSpace (pathSource path ++ rest)).head?, c ≠ ',' ∧ c ≠ ':' := by
  cases path with
  | cons name path => simp [pathSource, skipSpace_cons (c := '.') (by decide)]
  | nil =>
      rcases hrest with rfl | ⟨t, rfl⟩ | ⟨t, rfl⟩
      · simp [pathSource, skipSpace]
      · simp [pathSource, skipSpace_cons (c := ')') (by decide)]
      · simp [pathSource, skipSpace_space, skipSpace_cons (c := '|') (by decide)]

/-- A variable that is used is not declared. -/
theorem declarations_variable {v : String} (hv : isVariable v = true) (path : List String)
    (hrest : AfterCommand rest) :
    declarations (v.toList ++ (pathSource path ++ rest)) =
      ([], v.toList ++ (pathSource path ++ rest)) := by
  have hhead := head_skipSpace_path path hrest
  have hname := dollarName?_append hv (nameGoesOn_pathSource path hrest.stops.nameGoesOn)
  simp only [declarations, hname, moreVariables_of_head fun c hc => (hhead c hc).1]
  split
  · rename_i t ht
    exact absurd rfl (hhead ':' (by simp [ht])).2
  · rfl

theorem Command.declarations_source {c : Command} (h : c.isCanonical = true)
    (hrest : AfterCommand rest) : declarations (c.source ++ rest) = ([], c.source ++ rest) := by
  have hdollar : isNameStart '$' = false := by decide
  match c with
  | .call name args =>
      simp only [isCanonical, Bool.and_eq_true] at h
      rw [source, List.append_assoc]
      exact declarations_of_head (head_name_ne (isName_of_isDefined h.1).1 hdollar _)
  | .operand (.field []) | .operand (.field (name :: path)) | .operand (.group p path) =>
      exact declarations_of_head (by simp [source, Operand.source, pathSource])
  | .operand (.variable name path) =>
      simp only [isCanonical, Operand.isCanonical, Bool.and_eq_true] at h
      rw [source, Operand.source, List.append_assoc]
      exact declarations_variable h.1 path hrest
  | .operand (.literal v) =>
      simp only [isCanonical, Operand.isCanonical] at h
      rw [source, Operand.source]
      exact declarations_of_head (head_literalSource_ne h hdollar (by decide) rest)

/-! ## Operands -/

theorem operand?_field {path : List String} (hpath : path.all isName = true)
    (hrest : Stops rest) (fuel : Nat) :
    operand? (fuel + 1) ((Operand.field path).source ++ rest) = some (.field path, rest) := by
  cases path with
  | nil =>
      have hname : name? rest = none :=
        name?_of_head (hrest.head (by decide) (by decide))
      have hnone : Template.path ('.' :: rest) = ([], '.' :: rest) := by
        simp only [Template.path, List.length_cons, fieldPath, hname]
      simp [Operand.source, operand?, hnone]
  | cons name path =>
      have hdot : pathSource (name :: path) ++ rest =
          '.' :: (name.toList ++ (pathSource path ++ rest)) := by
        simp [pathSource]
      have hfields := path_append hpath hrest
      rw [hdot] at hfields
      simp [Operand.source, operand?, hdot, hfields]

theorem operand?_variable {v : String} (hv : isVariable v = true) {path : List String}
    (hpath : path.all isName = true) (hrest : Stops rest) (fuel : Nat) :
    operand? (fuel + 1) ((Operand.variable v path).source ++ rest) =
      some (.variable v path, rest) := by
  have hname := dollarName?_append hv (nameGoesOn_pathSource path hrest.nameGoesOn)
  obtain ⟨cs, hcs, -⟩ := exists_of_isVariable hv
  rw [hcs, List.cons_append] at hname
  simp only [Operand.source, hcs, List.cons_append, List.append_assoc, operand?, hname,
    path_append hpath hrest]

theorem operand?_of_head {s : List Char} (hdot : ∀ c ∈ s.head?, c ≠ '.')
    (hdollar : ∀ c ∈ s.head?, c ≠ '$') (hopen : ∀ c ∈ s.head?, c ≠ '(') (fuel : Nat) :
    operand? (fuel + 1) s = (literal? s).map fun (v, rest) => (.literal v, rest) := by
  rw [operand?]
  · rintro t rfl
    exact hdot '.' rfl rfl
  · rintro t rfl
    exact hdollar '$' rfl rfl
  · rintro t rfl
    exact hopen '(' rfl rfl

theorem operand?_literal {v : Value} (hv : isLiteral v = true) (hrest : Stops rest) (fuel : Nat) :
    operand? (fuel + 1) ((Operand.literal v).source ++ rest) = some (.literal v, rest) := by
  have hdot := head_literalSource_ne hv (d := '.') (by decide) (by decide) rest
  have hdollar := head_literalSource_ne hv (d := '$') (by decide) (by decide) rest
  have hopen := head_literalSource_ne hv (d := '(') (by decide) (by decide) rest
  rw [Operand.source, operand?_of_head hdot hdollar hopen, literal?_append hv hrest]
  rfl

theorem Pipeline.skipSpace_source {p : Pipeline} {limit : Nat} (h : p.isCanonical limit = true)
    (rest : List Char) : skipSpace (p.source ++ rest) = p.source ++ rest := by
  match p with
  | .mk decls [] => cases h
  | .mk [] (c :: cs) =>
      simp only [isCanonical, Bool.and_eq_true] at h
      simp only [source, declsSource, List.nil_append, List.append_assoc]
      exact Command.skipSpace_source h.1.2 _
  | .mk (v :: vs) (c :: cs) =>
      simp only [isCanonical, List.all_cons, Bool.and_eq_true] at h
      simp only [source, declsSource, List.append_assoc]
      exact skipSpace_variable h.1.1.2.1 _

theorem operand?_group {p : Pipeline} {limit : Nat} (h : p.isCanonical limit = true)
    {path : List String} (hpath : path.all isName = true) (hrest : Stops rest) {fuel : Nat}
    (hp : pipeline? fuel (p.source ++ ')' :: (pathSource path ++ rest)) =
      some (p, ')' :: (pathSource path ++ rest))) :
    operand? (fuel + 1) ((Operand.group p path).source ++ rest) = some (.group p path, rest) := by
  have hclose : isSpace ')' = false := by decide
  simp only [Operand.source, List.cons_append, List.append_assoc, operand?,
    Pipeline.skipSpace_source h, hp, skipSpace_cons hclose, path_append hpath hrest]

/-! ## Pipelines -/

theorem operands_of_afterCommand (hrest : AfterCommand rest) (fuel : Nat) :
    operands fuel rest = ([], rest) := by
  cases fuel with
  | zero => rw [operands]
  | succ fuel =>
      rcases hrest with rfl | ⟨t, rfl⟩ | ⟨t, rfl⟩
      · simp [operands]
      · simp [operands, isSpace]
      · have hnone : operand? fuel ('|' :: t) = none := by
          cases fuel with
          | zero => rw [operand?]
          | succ fuel =>
              rw [operand?_of_head (by simp) (by simp) (by simp)]
              rfl
        have hbar : isSpace '|' = false := by decide
        simp [operands, skipSpace_space, skipSpace_cons hbar, hnone]

theorem exists_fuel {o : Operand} (h : o.isCanonical = true) {fuel : Nat}
    (hfuel : 4 * o.source.length ≤ fuel) : ∃ k, fuel = k + 1 := by
  have hpos : o.source ≠ [] := by
    rcases Operand.source_cases h with ⟨name, hname, hs⟩ | ⟨c, s, hs, -⟩
    · obtain ⟨c, cs, hcs, -⟩ := exists_of_isName (isName_of_mem_constants hname)
      simp [hs, hcs]
    · simp [hs]
  have hlength := List.length_pos_iff.mpr hpos
  exact ⟨fuel - 1, by omega⟩

theorem moreCommands_of_afterPipeline (hrest : AfterPipeline rest) (fuel : Nat) :
    moreCommands fuel rest = ([], rest) := by
  cases fuel with
  | zero => rw [moreCommands]
  | succ fuel =>
      rcases hrest with rfl | ⟨t, rfl⟩
      · simp [moreCommands, skipSpace]
      · simp [moreCommands, skipSpace_cons (c := ')') (by decide)]

-- Each level of the grammar takes one unit of fuel: four are enough for a character.
mutual

theorem operand?_append : ∀ (o : Operand) (fuel : Nat) {rest : List Char},
    o.isCanonical = true → Stops rest → 4 * o.source.length ≤ fuel →
      operand? fuel (o.source ++ rest) = some (o, rest)
  | .field path, fuel, rest, h, hrest, hfuel => by
      obtain ⟨fuel, rfl⟩ := exists_fuel h hfuel
      simp only [Operand.isCanonical] at h
      exact operand?_field h hrest fuel
  | .variable v path, fuel, rest, h, hrest, hfuel => by
      obtain ⟨fuel, rfl⟩ := exists_fuel h hfuel
      simp only [Operand.isCanonical, Bool.and_eq_true] at h
      exact operand?_variable h.1 h.2 hrest fuel
  | .literal v, fuel, rest, h, hrest, hfuel => by
      obtain ⟨fuel, rfl⟩ := exists_fuel h hfuel
      simp only [Operand.isCanonical] at h
      exact operand?_literal h hrest fuel
  | .group p path, fuel, rest, h, hrest, hfuel => by
      simp only [Operand.isCanonical, Bool.and_eq_true] at h
      simp only [Operand.source, List.length_cons, List.length_append] at hfuel
      obtain ⟨fuel, rfl⟩ := Nat.exists_eq_succ_of_ne_zero (n := fuel) (by omega)
      refine operand?_group h.1 h.2 hrest ?_
      exact pipeline?_append p fuel h.1 (.inr ⟨_, rfl⟩) (by omega)

theorem operands_append : ∀ (os : List Operand) (fuel : Nat) {rest : List Char},
    argsCanonical os = true → AfterCommand rest → 4 * (argsSource os).length + 1 ≤ fuel →
      operands fuel (argsSource os ++ rest) = (os, rest)
  | [], fuel, rest, _, hrest, _ => by
      simpa [argsSource] using operands_of_afterCommand hrest fuel
  | o :: os, fuel, rest, h, hrest, hfuel => by
      simp only [argsCanonical, Bool.and_eq_true] at h
      simp only [argsSource, List.length_cons, List.length_append] at hfuel
      obtain ⟨fuel, rfl⟩ := Nat.exists_eq_succ_of_ne_zero (n := fuel) (by omega)
      have ho := operand?_append o fuel h.1 (stops_args os hrest) (by omega)
      have hos := operands_append os fuel h.2 hrest (by omega)
      simp only [argsSource, List.cons_append, List.append_assoc, operands, skipSpace_space,
        Operand.skipSpace_source h.1, ho, hos]
      rfl

theorem command?_append : ∀ (c : Command) (fuel : Nat) {rest : List Char},
    c.isCanonical = true → AfterCommand rest → 4 * c.source.length + 2 ≤ fuel →
      command? fuel (c.source ++ rest) = some (c, rest)
  | .call name args, fuel, rest, h, hrest, hfuel => by
      simp only [Command.isCanonical, Bool.and_eq_true] at h
      simp only [Command.source, List.length_append] at hfuel
      obtain ⟨fuel, rfl⟩ := Nat.exists_eq_succ_of_ne_zero (n := fuel) (by omega)
      have hname := functionName?_append h.1 (stops_args args hrest).nameGoesOn
      have hargs := operands_append args fuel h.2 hrest (by omega)
      simp only [Command.source, List.append_assoc, command?, hname, hargs]
  | .operand o, fuel, rest, h, hrest, hfuel => by
      simp only [Command.isCanonical] at h
      simp only [Command.source] at hfuel
      obtain ⟨fuel, rfl⟩ := Nat.exists_eq_succ_of_ne_zero (n := fuel) (by omega)
      have ho := operand?_append o fuel h hrest.stops (by omega)
      have hname := Operand.functionName?_source h hrest.stops.nameGoesOn
      simp only [Command.source, command?, hname, ho, Option.map_some]

theorem moreCommands_append : ∀ (cs : List Command) (fuel : Nat) {rest : List Char},
    stagesCanonical cs = true → AfterPipeline rest → 4 * (stagesSource cs).length ≤ fuel →
      moreCommands fuel (stagesSource cs ++ rest) = (cs, rest)
  | [], fuel, rest, _, hrest, _ => by
      simpa [stagesSource] using moreCommands_of_afterPipeline hrest fuel
  | c :: cs, fuel, rest, h, hrest, hfuel => by
      simp only [stagesCanonical, Bool.and_eq_true] at h
      simp only [stagesSource, List.length_cons, List.length_append] at hfuel
      obtain ⟨fuel, rfl⟩ := Nat.exists_eq_succ_of_ne_zero (n := fuel) (by omega)
      have hc := command?_append c fuel h.1.2 (afterCommand_stages cs hrest) (by omega)
      have hcs := moreCommands_append cs fuel h.2 hrest (by omega)
      have hbar : isSpace '|' = false := by decide
      simp only [stagesSource, List.cons_append, List.append_assoc, moreCommands, skipSpace_space,
        skipSpace_cons hbar, Command.skipSpace_source h.1.2, hc, hcs]

theorem pipeline?_append : ∀ (p : Pipeline) (fuel : Nat) {limit : Nat} {rest : List Char},
    p.isCanonical limit = true → AfterPipeline rest → 4 * p.source.length + 3 ≤ fuel →
      pipeline? fuel (p.source ++ rest) = some (p, rest)
  | .mk _ [], _, _, _, h, _, _ => by cases h
  | .mk decls (c :: cs), fuel, limit, rest, h, hrest, hfuel => by
      have hskip := Pipeline.skipSpace_source h rest
      simp only [Pipeline.isCanonical, Bool.and_eq_true] at h
      simp only [Pipeline.source, List.length_append] at hfuel
      obtain ⟨fuel, rfl⟩ := Nat.exists_eq_succ_of_ne_zero (n := fuel) (by omega)
      have hafter := afterCommand_stages cs hrest
      have hc := command?_append c fuel h.1.2 hafter (by omega)
      have hcs := moreCommands_append cs fuel h.2 hrest (by omega)
      have hdecls : declarations (declsSource decls ++ (c.source ++ (stagesSource cs ++ rest))) =
          (decls, c.source ++ (stagesSource cs ++ rest)) := by
        by_cases hne : decls = []
        · simpa [hne, declsSource] using Command.declarations_source h.1.2 hafter
        · exact declarations_append h.1.1.2 hne (Command.skipSpace_source h.1.2 _)
      have hend : skipSpace rest = rest := by
        rcases hrest with rfl | ⟨t, rfl⟩ <;> rfl
      rw [pipeline?, hskip]
      simp only [Pipeline.source, List.append_assoc, hdecls, hc, hcs, hend]

end

end Cohort.Template
