import Cohort.Proofs.Template.Source.Grammar

/-! # Reading actions back -/

namespace Cohort.Template

open Text

/-! ## Checking -/

mutual

theorem checkOperand_of_isCanonical : ∀ o : Operand, o.isCanonical = true →
    checkOperand o = .ok ()
  | .field _, _ | .variable _ _, _ | .literal _, _ => by simp only [checkOperand]
  | .group p path, h => by
      simp only [Operand.isCanonical, Bool.and_eq_true] at h
      rw [checkOperand, checkPipeline_of_isCanonical p 0 h.1]

theorem checkOperands_of_argsCanonical : ∀ os : List Operand, argsCanonical os = true →
    checkOperands os = .ok ()
  | [], _ => by rw [checkOperands]
  | o :: os, h => by
      simp only [argsCanonical, Bool.and_eq_true] at h
      rw [checkOperands, checkOperand_of_isCanonical o h.1, checkOperands_of_argsCanonical os h.2]
      rfl

theorem checkCommands_cons : ∀ c : Command, c.isCanonical = true → ∀ {first : Bool}
    {cs : List Command}, (first || c.isCall) = true → checkCommands false cs = .ok () →
      checkCommands first (c :: cs) = .ok ()
  | .call name args, h, first, cs, _, hcs => by
      simp only [Command.isCanonical, Bool.and_eq_true] at h
      rw [checkCommands, if_pos h.1, checkOperands_of_argsCanonical args h.2, hcs]
      rfl
  | .operand o, h, first, cs, hfirst, hcs => by
      simp only [Command.isCanonical] at h
      simp only [Command.isCall, Bool.or_false] at hfirst
      rw [checkCommands, if_pos hfirst, checkOperand_of_isCanonical o h, hcs]
      rfl

theorem checkCommands_of_stagesCanonical : ∀ cs : List Command, stagesCanonical cs = true →
    checkCommands false cs = .ok ()
  | [], _ => by rw [checkCommands]
  | c :: cs, h => by
      simp only [stagesCanonical, Bool.and_eq_true] at h
      exact checkCommands_cons c h.1.2 (by simpa using h.1.1)
        (checkCommands_of_stagesCanonical cs h.2)

theorem checkPipeline_of_isCanonical : ∀ (p : Pipeline) (limit : Nat),
    p.isCanonical limit = true → checkPipeline limit p = .ok ()
  | .mk _ [], _, h => by cases h
  | .mk decls (c :: cs), limit, h => by
      simp only [Pipeline.isCanonical, Bool.and_eq_true, decide_eq_true_eq] at h
      have hcs := checkCommands_of_stagesCanonical cs h.2
      rw [checkPipeline, if_neg (Nat.not_lt.mpr h.1.1.1), checkCommands_cons c h.1.2 rfl hcs]

end

theorem Action.check_of_isCanonical {a : Action} (h : a.isCanonical = true) :
    a.check = .ok () := by
  cases a with
  | elseAlone | endBlock => rfl
  | rangeOpens p => exact checkPipeline_of_isCanonical p 2 h
  | ifOpens p | elseIf p | scopeOpens p | print p => exact checkPipeline_of_isCanonical p 1 h

/-! ## Words of blocks -/

variable {word : String}

theorem Command.keyword?_source (hword : word ∈ blockWords) {c : Command}
    (h : c.isCanonical = true) {rest : List Char} (hrest : AfterCommand rest) :
    keyword? word (c.source ++ rest) = none := by
  obtain ⟨hchars, hconstant⟩ := isName_of_mem_blockWords hword
  cases c with
  | call name args =>
      simp only [isCanonical, Bool.and_eq_true] at h
      obtain ⟨hname, hblock, -⟩ := isName_of_isDefined h.1
      have hother : word ≠ name := by
        rintro rfl
        exact hblock hword
      rw [source, List.append_assoc]
      exact keyword?_of_ne hchars hname hother (stops_args args hrest).nameGoesOn
  | operand o =>
      simp only [isCanonical] at h
      rw [source]
      rcases Operand.source_cases h with ⟨name, hname, hs⟩ | ⟨d, s, hs, hd⟩
      · have hother : word ≠ name := by
          rintro rfl
          exact hconstant hname
        rw [hs]
        exact keyword?_of_ne hchars (isName_of_mem_constants hname) hother hrest.stops.nameGoesOn
      · simp only [isMark, Bool.and_eq_true, Bool.not_eq_true'] at hd
        exact keyword?_of_head hchars (by simpa [hs] using hd)

theorem Pipeline.keyword?_source (hword : word ∈ blockWords) {p : Pipeline} {limit : Nat}
    (h : p.isCanonical limit = true) : keyword? word p.source = none := by
  match p with
  | .mk decls [] => cases h
  | .mk [] (c :: cs) =>
      simp only [isCanonical, Bool.and_eq_true] at h
      have hafter : AfterCommand (stagesSource cs ++ []) := afterCommand_stages cs (.inl rfl)
      rw [List.append_nil] at hafter
      simp only [source, declsSource, List.nil_append]
      exact Command.keyword?_source hword h.1.2 hafter
  | .mk (v :: vs) (c :: cs) =>
      simp only [isCanonical, List.all_cons, Bool.and_eq_true] at h
      obtain ⟨d, hd, -⟩ := exists_of_isVariable h.1.1.2.1
      refine keyword?_of_head (isName_of_mem_blockWords hword).1 ?_
      simp only [source, declsSource, hd]
      simp
      decide

/-! ## Actions -/

theorem pipeline?_space (fuel : Nat) (s : List Char) :
    pipeline? fuel (' ' :: s) = pipeline? fuel s := by
  cases fuel with
  | zero => rw [pipeline?, pipeline?]
  | succ fuel => rw [pipeline?, pipeline?, skipSpace_space]

/-- A pipeline at the end of a body is read to the end, behind a space or not. -/
theorem pipeline?_source {p : Pipeline} {limit : Nat} (h : p.isCanonical limit = true)
    {body : List Char} (hbody : p.source.length ≤ body.length) :
    pipeline? (4 * body.length + 4) p.source = some (p, []) ∧
      pipeline? (4 * body.length + 4) (' ' :: p.source) = some (p, []) := by
  have hp := pipeline?_append p (4 * body.length + 4) h (.inl rfl) (by omega)
  rw [List.append_nil] at hp
  exact ⟨hp, by rw [pipeline?_space, hp]⟩

theorem pipeline?_behind {p : Pipeline} {limit : Nat} (h : p.isCanonical limit = true)
    (word : String) :
    pipeline? (4 * (p.behind word).length + 4) (' ' :: p.source) = some (p, []) := by
  refine (pipeline?_source h ?_).2
  simp only [Pipeline.behind, List.length_append, List.length_cons]
  omega

theorem keyword?_behind (hword : word ∈ blockWords) (p : Pipeline) :
    keyword? word (p.behind word) = some (' ' :: p.source) := by
  refine keyword?_append word (isName_of_mem_blockWords hword).1 (nameGoesOn_eq_false_iff.mpr ?_)
  simp
  decide

theorem action?_source {a : Action} (h : a.isCanonical = true) :
    action? a.source = some (a, []) := by
  cases a with
  | ifOpens p =>
      have hp : p.isCanonical 1 = true := h
      have hif : keyword? "if" (p.behind "if") = some (' ' :: p.source) :=
        keyword?_behind (by decide) p
      simp [Action.source, action?, hif, pipeline?_behind hp]
  | elseIf p =>
      have hp : p.isCanonical 1 = true := h
      have hif : keyword? "if" (p.behind "if") = some (' ' :: p.source) :=
        keyword?_behind (by decide) p
      have hnone : keyword? "if" (p.behind "else if") = none := rfl
      have helse : keyword? "else" (p.behind "else if") = some (' ' :: p.behind "if") := rfl
      have hnext : keyword? "if" (' ' :: p.behind "if") = some (' ' :: p.source) := hif
      simp [Action.source, action?, hnone, helse, hnext, pipeline?_behind hp]
  | elseAlone => rfl
  | endBlock => rfl
  | rangeOpens p =>
      have hp : p.isCanonical 2 = true := h
      have hif : keyword? "if" (p.behind "range") = none := rfl
      have helse : keyword? "else" (p.behind "range") = none := rfl
      have hend : keyword? "end" (p.behind "range") = none := rfl
      have hrange : keyword? "range" (p.behind "range") = some (' ' :: p.source) :=
        keyword?_behind (by decide) p
      simp [Action.source, action?, hif, helse, hend, hrange, pipeline?_behind hp]
  | scopeOpens p =>
      have hp : p.isCanonical 1 = true := h
      have hif : keyword? "if" (p.behind "with") = none := rfl
      have helse : keyword? "else" (p.behind "with") = none := rfl
      have hend : keyword? "end" (p.behind "with") = none := rfl
      have hrange : keyword? "range" (p.behind "with") = none := rfl
      have hwith : keyword? "with" (p.behind "with") = some (' ' :: p.source) :=
        keyword?_behind (by decide) p
      simp [Action.source, action?, hif, helse, hend, hrange, hwith, pipeline?_behind hp]
  | print p =>
      have hp : p.isCanonical 1 = true := h
      have hnone : ∀ word ∈ blockWords, keyword? word p.source = none := fun word hword =>
        Pipeline.keyword?_source hword hp
      have hpipeline := (pipeline?_source hp (Nat.le_refl p.source.length)).1
      simp [Action.source, action?, hnone "if" (by decide), hnone "else" (by decide),
        hnone "end" (by decide), hnone "range" (by decide), hnone "with" (by decide), hpipeline]

/-- A canonical action is read back from its source. -/
theorem Action.read_source {a : Action} (h : a.isCanonical = true) :
    Action.read a.source = .ok a := by
  rw [Action.read, action?_source h]
  simp only [Action.check_of_isCanonical h]
  rfl

end Cohort.Template
