import Cohort.Proofs.Template.Source.Actions
import Cohort.Proofs.Text.LetterBlank

/-! # Scanning a source

The scanner finds the tokens of a source again: text ends where the next braces open, and nothing
in the body of an action closes it, quoted braces and quotes included.
-/

namespace Cohort.Template

open Text

variable {s t : List Char}

/-! ## Nothing closes the action -/

/-- Outside quotes the search for the closing braces passes over a text. -/
def Quiet (s : List Char) : Prop :=
  ∀ rest, closeFrom none (s ++ rest) = (closeFrom none rest).map fun (b, r) => (s ++ b, r)

theorem Quiet.nil : Quiet [] := fun rest => by
  cases h : closeFrom none rest <;> simp [h]

theorem Quiet.append (hs : Quiet s) (ht : Quiet t) : Quiet (s ++ t) := by
  intro rest
  rw [List.append_assoc, hs, ht, Option.map_map]
  congr 1
  funext ⟨b, r⟩
  simp

/-- White space, braces, quotes and the first character of a comment apart, what may stand anywhere
in an action. -/
def isPlain (c : Char) : Bool :=
  !isBlank c && !List.contains ['/', '\x7d', '"', '\'', '`'] c

theorem quiet_mark {c : Char} (h : ['\x7d', '"', '\'', '`'].contains c = false) :
    Quiet [c] := by
  intro rest
  simp at h
  simp [closeFrom, h]

theorem Quiet.of_all (h : s.all isPlain = true) : Quiet s := by
  induction s with
  | nil => exact .nil
  | cons c s ih =>
      rw [List.all_cons, Bool.and_eq_true] at h
      refine Quiet.append (s := [c]) (quiet_mark ?_) (ih h.2)
      have hc := h.1
      simp [isPlain] at hc ⊢
      exact hc.2.2

theorem closeFrom_some_of_ne {q c : Char} (h : c ≠ '\\') (rest : List Char) :
    closeFrom (some q) (c :: rest) =
      (closeFrom (if c = q then none else some q) rest).map fun (b, r) => (c :: b, r) := by
  rw [closeFrom.eq_def]
  by_cases hq : c = q <;> simp [hq, h]

theorem closeFrom_quoted (cs rest : List Char) :
    closeFrom (some '"') (cs.flatMap escaped ++ '"' :: rest) =
      (closeFrom none rest).map fun (b, r) => (cs.flatMap escaped ++ '"' :: b, r) := by
  induction cs with
  | nil =>
      rw [List.flatMap_nil, List.nil_append, closeFrom_some_of_ne (by decide), if_pos rfl]
      rfl
  | cons c cs ih =>
      rw [List.flatMap_cons, List.append_assoc]
      by_cases hescaped : c = '"' ∨ c = '\\'
      · have hslash : ¬ '\\' = '"' := by decide
        have hskip : '\\' = '\\' ∧ '"' ≠ '`' := by decide
        rw [escaped, if_pos hescaped, List.cons_append, List.cons_append, List.nil_append,
          closeFrom, if_neg hslash, if_pos hskip]
        simp only [ih, Option.map_map]
        rfl
      · rw [not_or] at hescaped
        rw [escaped, if_neg (by simp [hescaped]), List.cons_append, List.nil_append,
          closeFrom_some_of_ne hescaped.2, if_neg hescaped.1, ih, Option.map_map]
        rfl

theorem quiet_quoted (cs : List Char) : Quiet ('"' :: (cs.flatMap escaped ++ ['"'])) := by
  intro rest
  have hquoted := closeFrom_quoted cs rest
  have hquote : '"' = '"' ∨ '"' = '\'' ∨ '"' = '`' := .inl rfl
  rw [List.cons_append, List.append_assoc, List.singleton_append, closeFrom,
    if_neg (by simp), if_pos hquote, hquoted, Option.map_map]
  simp [Function.comp_def]

/-! ## Bodies of actions -/

/-- What may stand between the braces: nothing in it closes the action, and white space or a comment
is not at its ends. -/
structure IsBody (s : List Char) : Prop where
  quiet : Quiet s
  first : ∃ c t, s = c :: t ∧ isBlank c = false ∧ c ≠ '/'
  last : ∃ t c, s = t ++ [c] ∧ isBlank c = false

theorem IsBody.append {m : List Char} (hs : IsBody s) (hm : Quiet m) (ht : IsBody t) :
    IsBody (s ++ (m ++ t)) where
  quiet := hs.quiet.append (hm.append ht.quiet)
  first := by
    obtain ⟨c, r, rfl, hc⟩ := hs.first
    exact ⟨c, r ++ (m ++ t), rfl, hc⟩
  last := by
    obtain ⟨r, c, rfl, hc⟩ := ht.last
    exact ⟨s ++ (m ++ r), c, by simp, hc⟩

theorem isBody_of_plain (hne : s ≠ []) (h : s.all isPlain = true) : IsBody s where
  quiet := .of_all h
  first := by
    obtain ⟨c, r, rfl⟩ := List.exists_cons_of_ne_nil hne
    have hc := List.all_eq_true.mp h c (by simp)
    simp [isPlain] at hc
    exact ⟨c, r, rfl, hc.1, hc.2.1⟩
  last := by
    have hc := List.all_eq_true.mp h _ (List.getLast_mem hne)
    simp [isPlain] at hc
    exact ⟨s.dropLast, s.getLast hne, (List.dropLast_concat_getLast hne).symm, hc.1⟩

/-- Behind a body of an action more plain characters make no difference. -/
theorem IsBody.append_plain (hs : IsBody s) (ht : t.all isPlain = true) :
    IsBody (s ++ t) := by
  by_cases hne : t = []
  · simpa [hne] using hs
  · simpa using hs.append .nil (isBody_of_plain hne ht)

theorem isPlain_of_isNameChar {c : Char} (h : isNameChar c = true) : isPlain c = true := by
  have hmark : ['/', '\x7d', '"', '\'', '`'].all (fun d => !isNameChar d) = true := by
    decide
  have hne : ∀ d ∈ ['/', '\x7d', '"', '\'', '`'], c ≠ d := by
    rintro d hd rfl
    have hnot := List.all_eq_true.mp hmark c hd
    rw [h] at hnot
    cases hnot
  have hblank : isBlank c = false := by
    rw [Bool.eq_false_iff]
    intro hblank
    rw [isNameChar, not_isAlphanumeric_of_isBlank hblank] at h
    simp at h
    subst h
    cases hblank
  simpa [isPlain, hblank] using hne

/-! ## Sources of actions -/

theorem all_isPlain (h : ∀ c ∈ s, isNameChar c = true) : s.all isPlain = true :=
  List.all_eq_true.mpr fun c hc => isPlain_of_isNameChar (h c hc)

theorem isBody_name {name : String} (h : isName name = true) : IsBody name.toList := by
  obtain ⟨c, cs, hcs, -⟩ := exists_of_isName h
  exact isBody_of_plain (by simp [hcs]) (all_isPlain (isNameChar_of_isName h))

theorem isBody_variable {v : String} (h : isVariable v = true) : IsBody v.toList := by
  obtain ⟨cs, hcs, hmore⟩ := exists_of_isVariable h
  have hdollar : isPlain '$' = true := by decide
  rw [hcs]
  refine isBody_of_plain (List.cons_ne_nil '$' cs) ?_
  rw [List.all_cons, hdollar, all_isPlain hmore, Bool.and_self]

theorem isPlain_path {path : List String} (h : path.all isName = true) :
    (pathSource path).all isPlain = true := by
  have hdot : isPlain '.' = true := by decide
  induction path with
  | nil => rfl
  | cons name path ih =>
      rw [List.all_cons, Bool.and_eq_true] at h
      have hname := all_isPlain (isNameChar_of_isName h.1)
      have hpath := ih h.2
      simp only [pathSource, List.flatMap_cons, List.cons_append, List.all_cons, List.all_append,
        hdot, hname] at hpath ⊢
      exact hpath

theorem isBody_intText (n : Int) : IsBody (intText n).toList := by
  have hdigits : IsBody (digitsOf n.natAbs) := by
    refine isBody_of_plain Nat.toDigits_ne_nil (all_isPlain fun c hc => ?_)
    exact isNameChar_of_isDigit (isDigit_of_mem_digitsOf hc)
  by_cases hneg : n < 0
  · have hdash : IsBody ['-'] := isBody_of_plain (by simp) (by decide)
    simpa [intText, hneg] using hdash.append .nil hdigits
  · simpa [intText, hneg] using hdigits

theorem isBody_literal {v : Value} (h : isLiteral v = true) : IsBody (literalSource v) := by
  cases v with
  | null => exact isBody_of_plain (by simp [literalSource]) (by decide)
  | bool b => cases b <;> exact isBody_of_plain (by simp [literalSource]) (by decide)
  | num n =>
      cases n with
      | float x => cases h
      | int n => exact isBody_intText n
  | str s =>
      have hquote : isBlank '"' = false := by decide
      exact ⟨quiet_quoted s.toList, ⟨'"', _, rfl, hquote, by decide⟩,
        ⟨'"' :: s.toList.flatMap escaped, '"', rfl, hquote⟩⟩
  | arr items => cases h
  | obj fields => cases h

theorem quiet_space : Quiet [' '] := quiet_mark (by decide)

theorem isBody_more {vs : List String} (hvs : vs.all isVariable = true) (hs : IsBody s) :
    IsBody (s ++ moreSource vs) := by
  induction vs generalizing s with
  | nil => simpa [moreSource] using hs
  | cons v vs ih =>
      rw [List.all_cons, Bool.and_eq_true] at hvs
      have hcomma : Quiet [',', ' '] := (quiet_mark (by decide)).append quiet_space
      have hv := hs.append hcomma (isBody_variable hvs.1)
      simpa [moreSource] using ih hvs.2 hv

mutual

theorem Operand.isBody_source : ∀ o : Operand, o.isCanonical = true → IsBody o.source
  | .field [], _ => by
      rw [Operand.source]
      exact isBody_of_plain (by simp) (by decide)
  | .field (name :: path), h => by
      simp only [Operand.isCanonical] at h
      rw [Operand.source]
      exact isBody_of_plain (by simp [pathSource]) (isPlain_path h)
  | .variable v path, h => by
      simp only [Operand.isCanonical, Bool.and_eq_true] at h
      rw [Operand.source]
      exact (isBody_variable h.1).append_plain (isPlain_path h.2)
  | .literal v, h => by
      simp only [Operand.isCanonical] at h
      rw [Operand.source]
      exact isBody_literal h
  | .group p path, h => by
      simp only [Operand.isCanonical, Bool.and_eq_true] at h
      have hopen : IsBody ['('] := isBody_of_plain (by simp) (by decide)
      have hclose : (')' :: pathSource path).all isPlain = true := by
        have hparen : isPlain ')' = true := by decide
        rw [List.all_cons, hparen, isPlain_path h.2, Bool.and_self]
      have hbody := (hopen.append .nil (Pipeline.isBody_source p h.1)).append_plain hclose
      simpa [Operand.source] using hbody

theorem isBody_args : ∀ os : List Operand, argsCanonical os = true → ∀ {s : List Char},
    IsBody s → IsBody (s ++ argsSource os)
  | [], _, s, hs => by simpa [argsSource] using hs
  | o :: os, h, s, hs => by
      simp only [argsCanonical, Bool.and_eq_true] at h
      have ho := hs.append quiet_space (Operand.isBody_source o h.1)
      simpa [argsSource] using isBody_args os h.2 ho

theorem Command.isBody_source : ∀ c : Command, c.isCanonical = true → IsBody c.source
  | .call name args, h => by
      simp only [Command.isCanonical, Bool.and_eq_true] at h
      rw [Command.source]
      exact isBody_args args h.2 (isBody_name (isName_of_isDefined h.1).1)
  | .operand o, h => by
      simp only [Command.isCanonical] at h
      rw [Command.source]
      exact Operand.isBody_source o h

theorem isBody_stages : ∀ cs : List Command, stagesCanonical cs = true → ∀ {s : List Char},
    IsBody s → IsBody (s ++ stagesSource cs)
  | [], _, s, hs => by simpa [stagesSource] using hs
  | c :: cs, h, s, hs => by
      simp only [stagesCanonical, Bool.and_eq_true] at h
      have hbar : Quiet [' ', '|', ' '] :=
        quiet_space.append ((quiet_mark (by decide)).append quiet_space)
      have hc := hs.append hbar (Command.isBody_source c h.1.2)
      simpa [stagesSource] using isBody_stages cs h.2 hc

theorem Pipeline.isBody_source : ∀ (p : Pipeline) {limit : Nat}, p.isCanonical limit = true →
    IsBody p.source
  | .mk _ [], _, h => by cases h
  | .mk [] (c :: cs), _, h => by
      simp only [Pipeline.isCanonical, Bool.and_eq_true] at h
      have hc := Command.isBody_source c h.1.2
      simpa [Pipeline.source, declsSource] using isBody_stages cs h.2 hc
  | .mk (v :: vs) (c :: cs), _, h => by
      simp only [Pipeline.isCanonical, List.all_cons, Bool.and_eq_true] at h
      have hassign : Quiet [' ', ':', '=', ' '] :=
        quiet_space.append ((quiet_mark (by decide)).append
          ((quiet_mark (by decide)).append quiet_space))
      have hdecls := isBody_more h.1.1.2.2 (isBody_variable h.1.1.2.1)
      have hc := hdecls.append hassign (Command.isBody_source c h.1.2)
      simpa [Pipeline.source, declsSource] using isBody_stages cs h.2 hc

end

theorem Pipeline.isBody_behind {p : Pipeline} {limit : Nat} (h : p.isCanonical limit = true)
    {word : String} (hword : IsBody word.toList) : IsBody (p.behind word) := by
  simpa [behind] using hword.append quiet_space (isBody_source p h)

theorem Action.isBody_source {a : Action} (h : a.isCanonical = true) : IsBody a.source := by
  have hword : ∀ word ∈ blockWords, IsBody word.toList :=
    fun word hmem => isBody_name (isName_of_mem_blockWords hmem).1
  have helse : IsBody "else if".toList := by
    simpa using (hword "else" (by decide)).append quiet_space (hword "if" (by decide))
  cases a with
  | ifOpens p =>
      have hp : p.isCanonical 1 = true := h
      exact Pipeline.isBody_behind hp (hword "if" (by decide))
  | elseIf p =>
      have hp : p.isCanonical 1 = true := h
      exact Pipeline.isBody_behind hp helse
  | elseAlone => exact hword "else" (by decide)
  | endBlock => exact hword "end" (by decide)
  | rangeOpens p =>
      have hp : p.isCanonical 2 = true := h
      exact Pipeline.isBody_behind hp (hword "range" (by decide))
  | scopeOpens p =>
      have hp : p.isCanonical 1 = true := h
      exact Pipeline.isBody_behind hp (hword "with" (by decide))
  | print p =>
      have hp : p.isCanonical 1 = true := h
      exact Pipeline.isBody_source p hp

/-! ## One action -/

theorem IsBody.quiet_padded (hs : IsBody s) : Quiet (' ' :: (s ++ [' '])) :=
  quiet_space.append (hs.quiet.append quiet_space)

theorem IsBody.trim_padded (hs : IsBody s) : trim (' ' :: (s ++ [' '])) = s := by
  have hspace : isBlank ' ' = true := by decide
  obtain ⟨c, r, hfirst, hc, -⟩ := hs.first
  obtain ⟨r', d, hlast, hd⟩ := hs.last
  have hdrop : (' ' :: (s ++ [' '])).dropWhile isBlank = s ++ [' '] := by
    rw [List.dropWhile_cons, if_pos hspace, hfirst, List.cons_append, List.dropWhile_cons]
    simp [hc]
  rw [trim, trimWhile, hdrop, dropEndWhile, hlast]
  simp [hspace, hd]

theorem IsBody.close?_padded (hs : IsBody s) (rest : List Char) :
    close? ((' ' :: (s ++ [' '])) ++ '\x7d' :: '\x7d' :: rest) =
      some (' ' :: (s ++ [' ']), rest) := by
  obtain ⟨c, r, hfirst, hblank, hslash⟩ := hs.first
  have hcomment : dropPrefix? ['/', '*']
      (((' ' :: (s ++ [' '])) ++ '\x7d' :: '\x7d' :: rest).dropWhile isBlank) = none := by
    have hspace : isBlank ' ' = true := by decide
    simp [hfirst, hspace, hblank, dropPrefix?, Ne.symm hslash]
  have hend : closeFrom none ('\x7d' :: '\x7d' :: rest) = some ([], rest) := by
    rw [closeFrom, if_pos ⟨rfl, rfl⟩]
    rfl
  have hquiet := hs.quiet_padded ('\x7d' :: '\x7d' :: rest)
  rw [hend] at hquiet
  rw [close?, hcomment]
  simpa using hquiet

theorem rightTrim?_padded (s : List Char) : rightTrim? (' ' :: (s ++ [' '])) = none := by
  simp [rightTrim?]

/-! ## Text before an action -/

/-- No braces open in a text, nor at its end. -/
def Clean (s : List Char) : Prop :=
  ¬ ['\x7b', '\x7b'] <:+: s ∧ s.getLast? ≠ some '\x7b'

theorem exists_of_isText {text : String} (h : isText text = true) :
    text.toList ≠ [] ∧ Clean text.toList := by
  simp only [isText, Bool.and_eq_true, Bool.not_eq_true', decide_eq_false_iff_not, bne_iff_ne,
    List.isEmpty_eq_false_iff] at h
  exact ⟨h.1.1, h.1.2, h.2⟩

theorem cut?_of_not_infix {mark : List Char} (h : ¬ mark <:+: s) : cut? mark s = none := by
  induction s with
  | nil => rfl
  | cons c s ih =>
      rw [List.infix_cons_iff, not_or] at h
      have hnone : dropPrefix? mark (c :: s) = none := by
        rw [Option.eq_none_iff_forall_not_mem]
        intro rest hrest
        exact h.1 ⟨rest, dropPrefix?_eq_some_iff.mp hrest⟩
      simp [cut?, hnone, ih h.2]

theorem Clean.of_cons {c : Char} (h : Clean (c :: s)) : Clean s := by
  refine ⟨fun hinfix => h.1 (List.infix_cons hinfix), fun hlast => h.2 ?_⟩
  cases s with
  | nil => cases hlast
  | cons d s => simpa using hlast

theorem Clean.cut?_append (h : Clean s) (rest : List Char) :
    cut? ['\x7b', '\x7b'] (s ++ '\x7b' :: '\x7b' :: rest) = some (s, rest) := by
  induction s with
  | nil => rfl
  | cons c s ih =>
      have hnone : dropPrefix? ['\x7b', '\x7b'] (c :: (s ++ '\x7b' :: '\x7b' :: rest)) = none := by
        rw [Option.eq_none_iff_forall_not_mem]
        intro after hafter
        have heq := dropPrefix?_eq_some_iff.mp hafter
        cases s with
        | nil =>
            obtain ⟨rfl, -⟩ := List.cons.inj heq
            exact h.2 rfl
        | cons d s =>
            obtain ⟨rfl, htail⟩ := List.cons.inj heq
            obtain ⟨rfl, -⟩ := List.cons.inj htail
            exact h.1 ⟨[], s, rfl⟩
      rw [List.cons_append, cut?, hnone, ih h.of_cons]
      rfl

/-! ## Tokens -/

/-- Tokens that do not begin with text. -/
def StartsApart (ts : List Token) : Prop :=
  ∀ other, ts.head? ≠ some (.text other)

/-- Tokens that a scanner can tell apart: between two texts there is an action. -/
inductive Printable : List Token → Prop where
  | nil : Printable []
  | text {text : String} {ts : List Token} (htext : isText text = true) (hnext : StartsApart ts)
      (hts : Printable ts) : Printable (.text text :: ts)
  | action {a : Action} {ts : List Token} (ha : a.isCanonical = true) (hts : Printable ts) :
      Printable (.action a :: ts)

/-- What a token has in it. -/
def Token.content : Token → List Char
  | .text s => s.toList
  | .action a => a.padded

/-- The piece that a token on a line is scanned to. -/
def Token.piece (line : Nat) : Token → Piece
  | .text s => .text s
  | .action a => .action a.source line

/-- The pieces that tokens are scanned to, from a line on. -/
def piecesFrom (line : Nat) : List Token → List Piece
  | [] => []
  | t :: ts => t.piece line :: piecesFrom (line + lineBreaks t.content) ts

theorem scanFrom_action {before : List Char} (hbefore : Clean before) {a : Action}
    (ha : a.isCanonical = true) (fuel line : Nat) (rest : List Char) :
    scanFrom (fuel + 1) line false (before ++ ((Token.action a).source ++ rest)) =
      (scanFrom fuel (line + lineBreaks before + lineBreaks a.padded) false rest).map fun pieces =>
        textPiece before ++ .action a.source (line + lineBreaks before) :: pieces := by
  have hbody := Action.isBody_source ha
  have hcut := hbefore.cut?_append (a.padded ++ '\x7d' :: '\x7d' :: rest)
  have hsource : (Token.action a).source ++ rest =
      '\x7b' :: '\x7b' :: (a.padded ++ '\x7d' :: '\x7d' :: rest) := by
    simp [Token.source]
  have hleft : leftTrim? (a.padded ++ '\x7d' :: '\x7d' :: rest) = none := rfl
  have hclose : close? (a.padded ++ '\x7d' :: '\x7d' :: rest) = some (a.padded, rest) :=
    hbody.close?_padded rest
  have hright : rightTrim? a.padded = none := rightTrim?_padded a.source
  have htrim : trim a.padded = a.source := hbody.trim_padded
  obtain ⟨c, r, hfirst, -, hslash⟩ := hbody.first
  have hcomment : dropPrefix? ['/', '*'] a.source = none := by
    simp [hfirst, dropPrefix?, Ne.symm hslash]
  have hne : a.source.isEmpty = false := by simp [hfirst]
  rw [hsource, scanFrom]
  simp only [hcut, hleft, hclose, hright, htrim, hcomment, hne]
  cases scanFrom fuel (line + lineBreaks before + lineBreaks a.padded) false rest <;> rfl

theorem textPiece_of_isText {text : String} (h : isText text = true) :
    textPiece text.toList = [.text text] := by
  simp [textPiece, (exists_of_isText h).1]

/-- What a scanner finds in a source are its tokens. Text is scanned together with the action that
ends it, so that a text is followed by nothing or by an action. -/
theorem scanFrom_tokens {ts : List Token} (h : Printable ts) {fuel : Nat} (line : Nat)
    (hfuel : (ts.flatMap Token.source).length < fuel) :
    scanFrom fuel line false (ts.flatMap Token.source) = .ok (piecesFrom line ts) := by
  induction fuel generalizing ts line with
  | zero => exact absurd hfuel (Nat.not_lt_zero _)
  | succ fuel ih =>
      cases h with
      | nil => rfl
      | @action a ts ha hts =>
          simp only [List.flatMap_cons, List.length_append, Token.source, List.length_cons] at hfuel
          have hmore := ih hts (line + lineBreaks a.padded) (by omega)
          have hclean : Clean [] := ⟨by simp, by simp⟩
          have hstep := scanFrom_action hclean ha fuel line (ts.flatMap Token.source)
          have hnone : lineBreaks [] = 0 := rfl
          simp only [hnone, Nat.add_zero, hmore] at hstep
          exact hstep
      | @text text ts htext hnext hts =>
          cases hts with
          | nil =>
              have hcut := cut?_of_not_infix (exists_of_isText htext).2.1
              simp [scanFrom, Token.source, hcut, piecesFrom, Token.piece,
                textPiece_of_isText htext]
          | text => exact absurd rfl (hnext _)
          | @action a ts ha hts =>
              simp only [List.flatMap_cons, List.length_append, Token.source,
                List.length_cons] at hfuel
              have hmore := ih hts (line + lineBreaks text.toList + lineBreaks a.padded)
                (by omega)
              have hstep := scanFrom_action (exists_of_isText htext).2 ha fuel line
                (ts.flatMap Token.source)
              rw [hmore, textPiece_of_isText htext] at hstep
              exact hstep

theorem scan_tokens {ts : List Token} (h : Printable ts) :
    scan (String.ofList (ts.flatMap Token.source)) = .ok (piecesFrom 1 ts) := by
  rw [scan, String.toList_ofList]
  exact scanFrom_tokens h 1 (Nat.lt_succ_self _)

end Cohort.Template
