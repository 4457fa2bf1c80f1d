import Cohort.Proofs.Template.Source.Printing
import Mathlib.Data.List.TakeWhile
import Mathlib.Tactic.Common

/-! # Reading words back

A name, a path or a literal is read off the front of a text whose rest cannot go on from it.
-/

namespace Cohort.Template

open Text

/-! ## Runs of characters -/

section

variable {p : Char → Bool} {s rest : List Char}

theorem takeWhile_eq_nil_of_head (h : ∀ c ∈ rest.head?, p c = false) : rest.takeWhile p = [] := by
  cases rest with
  | nil => rfl
  | cons c rest => simp [h c rfl]

theorem dropWhile_eq_of_head (h : ∀ c ∈ rest.head?, p c = false) : rest.dropWhile p = rest := by
  cases rest with
  | nil => rfl
  | cons c rest => simp [h c rfl]

theorem takeWhile_append (hs : ∀ c ∈ s, p c = true) (h : ∀ c ∈ rest.head?, p c = false) :
    (s ++ rest).takeWhile p = s := by
  rw [List.takeWhile_append_of_pos hs, takeWhile_eq_nil_of_head h, List.append_nil]

theorem dropWhile_append (hs : ∀ c ∈ s, p c = true) (h : ∀ c ∈ rest.head?, p c = false) :
    (s ++ rest).dropWhile p = rest := by
  rw [List.dropWhile_append_of_pos hs, dropWhile_eq_of_head h]

end

theorem skipSpace_of_head {s : List Char} (h : ∀ c ∈ s.head?, isSpace c = false) :
    skipSpace s = s :=
  dropWhile_eq_of_head h

theorem skipSpace_space (s : List Char) : skipSpace (' ' :: s) = skipSpace s := rfl

theorem skipSpace_cons {c : Char} (hc : isSpace c = false) (s : List Char) :
    skipSpace (c :: s) = c :: s :=
  skipSpace_of_head (by simpa using hc)

theorem nameGoesOn_eq_false_iff {s : List Char} :
    nameGoesOn s = false ↔ ∀ c ∈ s.head?, isNameChar c = false := by
  cases s <;> simp [nameGoesOn]

theorem dropPrefix?_eq_some_iff {p s rest : List Char} :
    dropPrefix? p s = some rest ↔ p ++ rest = s := by
  induction p generalizing s with
  | nil => simp [dropPrefix?, eq_comm]
  | cons c p ih =>
      cases s with
      | nil => simp [dropPrefix?]
      | cons d s =>
          by_cases hcd : c = d
          · simp [dropPrefix?, hcd, ih]
          · simp [dropPrefix?, hcd]

/-! ## What may follow an operand -/

/-- Nothing, a space or the end of a group. -/
def Stops (rest : List Char) : Prop :=
  ∀ c ∈ rest.head?, c = ' ' ∨ c = ')'

theorem Stops.head {rest : List Char} (h : Stops rest) {p : Char → Bool} (hspace : p ' ' = false)
    (hclose : p ')' = false) : ∀ c ∈ rest.head?, p c = false := by
  intro c hc
  rcases h c hc with rfl | rfl
  · exact hspace
  · exact hclose

theorem Stops.nameGoesOn {rest : List Char} (h : Stops rest) : nameGoesOn rest = false :=
  nameGoesOn_eq_false_iff.mpr (h.head (by decide) (by decide))

/-! ## Names and variables -/

theorem exists_of_isName {name : String} (h : isName name = true) :
    ∃ c cs, name.toList = c :: cs ∧ isNameStart c = true ∧ ∀ d ∈ cs, isNameChar d = true := by
  rw [isName] at h
  split at h
  · cases h
  · rename_i c cs hname
    rw [Bool.and_eq_true, List.all_eq_true] at h
    exact ⟨c, cs, hname, h⟩

theorem exists_of_isVariable {v : String} (h : isVariable v = true) :
    ∃ cs, v.toList = '$' :: cs ∧ ∀ d ∈ cs, isNameChar d = true := by
  rw [isVariable] at h
  split at h
  · rename_i cs hv
    exact ⟨cs, hv, by simpa using h⟩
  · cases h

theorem isNameChar_of_isNameStart {c : Char} (h : isNameStart c = true) :
    isNameChar c = true := by
  rw [isNameStart, Bool.or_eq_true] at h
  rcases h with h | h
  · simp [isNameChar, isAlphanumeric, h]
  · simp [isNameChar, h]

variable {rest : List Char}

theorem head_name_ne {name : String} (hname : isName name = true) {d : Char}
    (hd : isNameStart d = false) (s : List Char) : ∀ c ∈ (name.toList ++ s).head?, c ≠ d := by
  obtain ⟨c, cs, hcs, hstart, -⟩ := exists_of_isName hname
  have hne : c ≠ d := by
    rintro rfl
    rw [hstart] at hd
    cases hd
  simpa [hcs] using hne

theorem name?_append {name : String} (hname : isName name = true)
    (hrest : nameGoesOn rest = false) : name? (name.toList ++ rest) = some (name, rest) := by
  obtain ⟨c, cs, hcs, hstart, hmore⟩ := exists_of_isName hname
  have hhead := nameGoesOn_eq_false_iff.mp hrest
  rw [hcs, List.cons_append, name?, if_pos hstart, takeWhile_append hmore hhead,
    dropWhile_append hmore hhead, ← hcs, String.ofList_toList]

theorem name?_of_head {s : List Char} (h : ∀ c ∈ s.head?, isNameStart c = false) :
    name? s = none := by
  cases s with
  | nil => rfl
  | cons c s => simp [name?, h c rfl]

theorem dollarName?_append {v : String} (hv : isVariable v = true)
    (hrest : nameGoesOn rest = false) : dollarName? (v.toList ++ rest) = some (v, rest) := by
  obtain ⟨cs, hcs, hmore⟩ := exists_of_isVariable hv
  have hhead := nameGoesOn_eq_false_iff.mp hrest
  rw [hcs, List.cons_append, dollarName?, takeWhile_append hmore hhead,
    dropWhile_append hmore hhead, ← hcs, String.ofList_toList]

theorem dollarName?_of_head {s : List Char} (h : ∀ c ∈ s.head?, c ≠ '$') :
    dollarName? s = none := by
  rw [dollarName?]
  rintro t rfl
  exact h '$' rfl rfl

/-! ## Paths -/

theorem length_le_pathSource (path : List String) : path.length ≤ (pathSource path).length := by
  induction path with
  | nil => simp
  | cons field path ih =>
      simp only [pathSource, List.flatMap_cons, List.length_append, List.length_cons] at ih ⊢
      omega

theorem nameGoesOn_pathSource (path : List String) (hrest : nameGoesOn rest = false) :
    nameGoesOn (pathSource path ++ rest) = false := by
  cases path with
  | nil => exact hrest
  | cons field path =>
      rw [nameGoesOn_eq_false_iff]
      intro c hc
      obtain rfl : '.' = c := by simpa [pathSource] using hc
      decide

theorem fieldPath_of_stops (hrest : Stops rest) (fuel : Nat) :
    fieldPath fuel rest = ([], rest) := by
  cases fuel with
  | zero => rfl
  | succ fuel =>
      cases rest with
      | nil => rfl
      | cons c rest =>
          rcases hrest c rfl with rfl | rfl <;> rfl

theorem fieldPath_append {path : List String} (hpath : path.all isName = true)
    (hrest : Stops rest) {fuel : Nat} (hfuel : path.length ≤ fuel) :
    fieldPath fuel (pathSource path ++ rest) = (path, rest) := by
  induction path generalizing fuel with
  | nil => exact fieldPath_of_stops hrest fuel
  | cons field path ih =>
      rw [List.all_cons, Bool.and_eq_true] at hpath
      obtain ⟨fuel, rfl⟩ := Nat.exists_eq_succ_of_ne_zero (Nat.ne_zero_of_lt hfuel)
      have hname := name?_append hpath.1 (nameGoesOn_pathSource path hrest.nameGoesOn)
      have hmore := ih hpath.2 (Nat.le_of_succ_le_succ hfuel)
      have hsource : pathSource (field :: path) ++ rest =
          '.' :: (field.toList ++ (pathSource path ++ rest)) := by
        simp [pathSource]
      simp only [hsource, fieldPath, hname, hmore]

theorem path_append {path : List String} (hpath : path.all isName = true) (hrest : Stops rest) :
    Template.path (pathSource path ++ rest) = (path, rest) := by
  refine fieldPath_append hpath hrest ?_
  have hlength := length_le_pathSource path
  rw [List.length_append]
  omega

/-! ## Keywords -/

theorem keyword?_eq_some_iff {word : String} {s : List Char} :
    keyword? word s = some rest ↔ word.toList ++ rest = skipSpace s ∧ nameGoesOn rest = false := by
  rw [keyword?]
  split
  · rename_i after hafter
    rw [dropPrefix?_eq_some_iff] at hafter
    constructor
    · intro h
      split at h
      · cases h
      · obtain rfl := Option.some.inj h
        exact ⟨hafter, by simpa using ‹¬ nameGoesOn _ = true›⟩
    · rintro ⟨h, hgoes⟩
      obtain rfl := List.append_cancel_left (hafter.trans h.symm)
      simp [hgoes]
  · rename_i hnone
    simp only [reduceCtorEq, false_iff, not_and]
    intro h
    rw [← dropPrefix?_eq_some_iff, hnone] at h
    cases h

theorem isSpace_of_isNameStart {c : Char} (h : isNameStart c = true) : isSpace c = false := by
  rw [Bool.eq_false_iff]
  intro hspace
  simp only [isSpace, Bool.or_eq_true, beq_iff_eq] at hspace
  rcases hspace with ((rfl | rfl) | rfl) | rfl <;> revert h <;> decide

theorem skipSpace_name {name : String} (hname : isName name = true) (rest : List Char) :
    skipSpace (name.toList ++ rest) = name.toList ++ rest := by
  obtain ⟨c, cs, hcs, hstart, -⟩ := exists_of_isName hname
  exact skipSpace_of_head (by simpa [hcs] using isSpace_of_isNameStart hstart)

theorem keyword?_append (word : String) (hword : isName word = true)
    (hrest : nameGoesOn rest = false) : keyword? word (word.toList ++ rest) = some rest := by
  rw [keyword?_eq_some_iff]
  exact ⟨(skipSpace_name hword rest).symm, hrest⟩

theorem isNameChar_of_isName {name : String} (h : isName name = true) :
    ∀ c ∈ name.toList, isNameChar c = true := by
  obtain ⟨c, cs, hcs, hstart, hmore⟩ := exists_of_isName h
  simpa [hcs] using ⟨isNameChar_of_isNameStart hstart, hmore⟩

theorem keyword?_of_ne {word name : String} (hword : isName word = true)
    (hname : isName name = true) (hne : word ≠ name) (hrest : nameGoesOn rest = false) :
    keyword? word (name.toList ++ rest) = none := by
  rw [Option.eq_none_iff_forall_not_mem]
  intro after hafter
  obtain ⟨heq, hgoes⟩ := keyword?_eq_some_iff.mp hafter
  rw [skipSpace_name hname] at heq
  -- Both words end where the characters of a name end.
  have hrun := congrArg (List.takeWhile isNameChar) heq
  rw [takeWhile_append (isNameChar_of_isName hword) (nameGoesOn_eq_false_iff.mp hgoes),
    takeWhile_append (isNameChar_of_isName hname) (nameGoesOn_eq_false_iff.mp hrest)] at hrun
  exact hne (String.toList_inj.mp hrun)

theorem keyword?_of_head {word : String} (hword : isName word = true) {s : List Char}
    (h : ∀ c ∈ s.head?, isSpace c = false ∧ isNameStart c = false) : keyword? word s = none := by
  rw [Option.eq_none_iff_forall_not_mem]
  intro after hafter
  obtain ⟨heq, -⟩ := keyword?_eq_some_iff.mp hafter
  rw [skipSpace_of_head fun c hc => (h c hc).1] at heq
  obtain ⟨c, cs, hcs, hstart, -⟩ := exists_of_isName hword
  have hnot := (h c (by simp [← heq, hcs])).2
  rw [hstart] at hnot
  cases hnot

/-! ## Functions and other words -/

/-- The words that open, divide and end blocks. -/
def blockWords : List String := ["if", "else", "end", "range", "with"]

/-- The literals that are words. -/
def constants : List String := ["true", "false", "nil"]

theorem isName_of_mem_blockWords {word : String} (h : word ∈ blockWords) :
    isName word = true ∧ word ∉ constants := by
  have hall : ∀ w ∈ blockWords, isName w = true ∧ w ∉ constants := by decide
  exact hall word h

theorem isName_of_mem_constants {name : String} (h : name ∈ constants) : isName name = true := by
  have hall : ∀ n ∈ constants, isName n = true := by decide
  exact hall name h

theorem mem_names_of_isDefined {name : String} (h : isDefined name = true) :
    name ∈ "arg" :: "argEach" :: Function.all.map Function.name := by
  rw [isDefined, Bool.or_eq_true] at h
  rcases h with h | h
  · rw [Binder.ofName?.eq_def] at h
    split at h
    · simp
    · simp
    · cases h
  · obtain ⟨f, hf⟩ := Option.isSome_iff_exists.mp h
    have hname : f.name = name := by simpa using List.find?_some hf
    have hmem := List.mem_map_of_mem (f := Function.name) (List.mem_of_find?_eq_some hf)
    rw [hname] at hmem
    simp [hmem]

theorem isName_of_isDefined {name : String} (h : isDefined name = true) :
    isName name = true ∧ name ∉ blockWords ∧ name ∉ constants := by
  have hall : ∀ n ∈ "arg" :: "argEach" :: Function.all.map Function.name,
      isName n = true ∧ n ∉ blockWords ∧ n ∉ constants := by
    decide
  exact hall name (mem_names_of_isDefined h)

theorem functionName?_append {name : String} (h : isDefined name = true)
    (hrest : nameGoesOn rest = false) :
    functionName? (name.toList ++ rest) = some (name, rest) := by
  obtain ⟨hname, -, hconstant⟩ := isName_of_isDefined h
  simp only [constants, List.mem_cons, not_or] at hconstant
  simp [functionName?, name?_append hname hrest, hconstant]

theorem functionName?_of_mem_constants {name : String} (h : name ∈ constants)
    (hrest : nameGoesOn rest = false) : functionName? (name.toList ++ rest) = none := by
  rw [functionName?, name?_append (isName_of_mem_constants h) hrest]
  simp only [constants, List.mem_cons, List.not_mem_nil, or_false] at h
  exact if_pos h

/-! ## Texts -/

theorem quotedText_append (done cs rest : List Char) :
    quotedText done (cs.flatMap escaped ++ '"' :: rest) =
      some (String.ofList (done.reverse ++ cs), rest) := by
  induction cs generalizing done with
  | nil => simp [quotedText]
  | cons c cs ih =>
      have hnext := ih (c :: done)
      rw [List.reverse_cons, List.append_assoc, List.singleton_append] at hnext
      rw [List.flatMap_cons, List.append_assoc, ← hnext]
      by_cases hquote : c = '"'
      · subst hquote
        rfl
      by_cases hslash : c = '\\'
      · subst hslash
        rfl
      have hescaped : escaped c = [c] := by simp [escaped, hquote, hslash]
      rw [hescaped, List.singleton_append, quotedText, if_neg hslash] <;> simp_all

theorem string?_of_head {s : List Char} (h : ∀ c ∈ s.head?, c ≠ '"') : string? s = none := by
  rw [string?]
  rintro t rfl
  exact h '"' rfl rfl

theorem rawString?_of_head {s : List Char} (h : ∀ c ∈ s.head?, c ≠ '`') : rawString? s = none := by
  rw [rawString?]
  rintro t rfl
  exact h '`' rfl rfl

/-! ## Integers -/

theorem digitsValue_digitsOf (n : Nat) : digitsValue (digitsOf n) = n :=
  Nat.ofDigitChars_toDigits (by decide) (by decide)

theorem isDigit_of_mem_digitsOf {n : Nat} {c : Char} (h : c ∈ digitsOf n) : c.isDigit = true :=
  Nat.isDigit_of_mem_toDigits (by decide) (by decide) h

theorem exists_digitsOf (n : Nat) : ∃ c cs, digitsOf n = c :: cs ∧ c.isDigit = true := by
  have hdigit := fun c => isDigit_of_mem_digitsOf (n := n) (c := c)
  cases hcs : digitsOf n with
  | nil => exact absurd hcs Nat.toDigits_ne_nil
  | cons c cs => exact ⟨c, cs, rfl, hdigit c (by simp [hcs])⟩

/-- An integer begins with a digit or a dash. -/
theorem exists_intText (n : Int) :
    ∃ c cs, (intText n).toList = c :: cs ∧ (c = '-' ∨ c.isDigit = true) := by
  by_cases hneg : n < 0
  · exact ⟨'-', digitsOf n.natAbs, by simp [intText, hneg], .inl rfl⟩
  · obtain ⟨c, cs, hcs, hdigit⟩ := exists_digitsOf n.natAbs
    exact ⟨c, cs, by simp [intText, hneg, hcs], .inr hdigit⟩

theorem ne_of_isDigit {c d : Char} (h : c.isDigit = true) (hd : d.isDigit = false) : c ≠ d := by
  rintro rfl
  rw [h] at hd
  cases hd

theorem isAlpha_of_isDigit {c : Char} (h : c.isDigit = true) : c.isAlpha = false := by
  rw [Bool.eq_false_iff]
  intro halpha
  change (decide ('A'.val ≤ c.val ∧ c.val ≤ 'Z'.val) ||
    (decide ('a'.val ≤ c.val) && decide (c.val ≤ 'z'.val))) = true at halpha
  simp only [Char.isDigit, Bool.or_eq_true, Bool.and_eq_true, decide_eq_true_eq,
    UInt32.le_iff_toNat_le] at h halpha
  simp at h halpha
  omega

theorem toNat_lt_of_isDigit {c : Char} (h : c.isDigit = true) : c.toNat < 128 := by
  simp only [Char.isDigit, Bool.and_eq_true, decide_eq_true_eq, UInt32.le_iff_toNat_le] at h
  simp at h
  omega

theorem isNameStart_of_isDigit {c : Char} (h : c.isDigit = true) : isNameStart c = false := by
  have hline : c ≠ '_' := ne_of_isDigit h (by decide)
  simp [isNameStart, isAlphabetic, toNat_lt_of_isDigit h, isAlpha_of_isDigit h, hline]

theorem isNameChar_of_isDigit {c : Char} (h : c.isDigit = true) : isNameChar c = true := by
  simp [isNameChar, isAlphanumeric, isNumeric, toNat_lt_of_isDigit h, h]

theorem sign_of_ne {c : Char} (hplus : c ≠ '+') (hminus : c ≠ '-') (s : List Char) :
    sign (c :: s) = (false, c :: s) := by
  rw [sign]
  · rintro t heq
    exact hplus (List.cons.inj heq).1
  · rintro t heq
    exact hminus (List.cons.inj heq).1

theorem sign_intText (n : Int) (rest : List Char) :
    sign ((intText n).toList ++ rest) = (decide (n < 0), digitsOf n.natAbs ++ rest) := by
  by_cases hneg : n < 0
  · simp [intText, hneg, sign]
  · obtain ⟨c, cs, hcs, hdigit⟩ := exists_digitsOf n.natAbs
    have hsign := sign_of_ne (ne_of_isDigit hdigit (by decide)) (ne_of_isDigit hdigit (by decide))
    simp [intText, hneg, hcs, hsign]

theorem fraction_of_stops (hrest : Stops rest) : fraction rest = ([], rest) := by
  cases rest with
  | nil => rfl
  | cons c rest => rcases hrest c rfl with rfl | rfl <;> rfl

theorem exponent?_of_stops (hrest : Stops rest) : exponent? rest = none := by
  cases rest with
  | nil => rfl
  | cons c rest => rcases hrest c rfl with rfl | rfl <;> rfl

theorem literalNumber?_digitsOf {n : Int} (hlow : -(signedBound : Int) ≤ n)
    (hhigh : n < signedBound) :
    literalNumber? (decide (n < 0)) (digitsOf n.natAbs) [] none = some (.int n) := by
  have hvalue : (if decide (n < 0) then -(n.natAbs : Int) else n.natAbs) = n := by
    by_cases hneg : n < 0
    · simp only [hneg, decide_true, if_true]
      omega
    · simp only [hneg, decide_false, Bool.false_eq_true, if_false]
      omega
  simp only [literalNumber?, digitsValue_digitsOf, hvalue]
  simp [hlow, hhigh]

theorem number?_append {n : Int} (hlow : -(signedBound : Int) ≤ n) (hhigh : n < signedBound)
    (hrest : Stops rest) : number? ((intText n).toList ++ rest) = some (.int n, rest) := by
  have hhead : ∀ c ∈ rest.head?, c.isDigit = false := hrest.head (by decide) (by decide)
  have hdigits : ∀ c ∈ digitsOf n.natAbs, c.isDigit = true := fun c => isDigit_of_mem_digitsOf
  have hne : (digitsOf n.natAbs).isEmpty = false := by
    obtain ⟨c, cs, hcs, -⟩ := exists_digitsOf n.natAbs
    simp [hcs]
  simp only [number?, sign_intText, takeWhile_append hdigits hhead, dropWhile_append hdigits hhead,
    hne, fraction_of_stops hrest, exponent?_of_stops hrest, hrest.nameGoesOn,
    literalNumber?_digitsOf hlow hhigh]
  rfl

theorem number?_of_head {c : Char} {s : List Char} (hplus : c ≠ '+') (hminus : c ≠ '-')
    (hdigit : c.isDigit = false) : number? (c :: s) = none := by
  simp [number?, sign_of_ne hplus hminus, hdigit]

/-! ## Literals -/

/-- What begins with a letter is a constant. -/
theorem literal?_of_isAlpha {c : Char} {s : List Char} (hc : c.isAlpha = true) :
    literal? (c :: s) =
      ((keyword? "true" (c :: s)).map (Value.bool true, ·)).orElse fun _ =>
      ((keyword? "false" (c :: s)).map (Value.bool false, ·)).orElse fun _ =>
      (keyword? "nil" (c :: s)).map (Value.null, ·) := by
  have hne : ∀ d : Char, d.isAlpha = false → c ≠ d := by
    rintro d hd rfl
    rw [hc] at hd
    cases hd
  have hdigit : c.isDigit = false := by
    rw [Bool.eq_false_iff]
    intro hdigit
    rw [isAlpha_of_isDigit hdigit] at hc
    cases hc
  have hstring : string? (c :: s) = none := string?_of_head (by simpa using hne '"' (by decide))
  have hraw : rawString? (c :: s) = none := rawString?_of_head (by simpa using hne '`' (by decide))
  have hnumber : number? (c :: s) = none :=
    number?_of_head (hne '+' (by decide)) (hne '-' (by decide)) hdigit
  simp only [literal?, hstring, hraw, hnumber]
  cases keyword? "true" (c :: s) <;> cases keyword? "false" (c :: s) <;> rfl

theorem literal?_append {v : Value} (hv : isLiteral v = true) (hrest : Stops rest) :
    literal? (literalSource v ++ rest) = some (v, rest) := by
  have hkeyword : ∀ name ∈ constants, keyword? name (name.toList ++ rest) = some rest :=
    fun name hname => keyword?_append name (isName_of_mem_constants hname) hrest.nameGoesOn
  cases v with
  | null =>
      have htrue : keyword? "true" ('n' :: 'i' :: 'l' :: rest) = none := rfl
      have hfalse : keyword? "false" ('n' :: 'i' :: 'l' :: rest) = none := rfl
      have hnil : keyword? "nil" ('n' :: 'i' :: 'l' :: rest) = some rest :=
        hkeyword "nil" (by decide)
      rw [literalSource, List.cons_append, literal?_of_isAlpha (by decide)]
      simp [htrue, hfalse, hnil]
  | bool b =>
      cases b with
      | true =>
          have htrue : keyword? "true" ('t' :: 'r' :: 'u' :: 'e' :: rest) = some rest :=
            hkeyword "true" (by decide)
          rw [literalSource, List.cons_append, literal?_of_isAlpha (by decide)]
          simp [htrue]
      | false =>
          have htrue : keyword? "true" ('f' :: 'a' :: 'l' :: 's' :: 'e' :: rest) = none := rfl
          have hfalse : keyword? "false" ('f' :: 'a' :: 'l' :: 's' :: 'e' :: rest) = some rest :=
            hkeyword "false" (by decide)
          rw [literalSource, List.cons_append, literal?_of_isAlpha (by decide)]
          simp [htrue, hfalse]
  | num n =>
      cases n with
      | float x => cases hv
      | int n =>
          rw [isLiteral, Bool.and_eq_true, decide_eq_true_eq, decide_eq_true_eq] at hv
          have hnumber := number?_append hv.1 hv.2 hrest
          obtain ⟨c, cs, hcs, hc⟩ := exists_intText n
          have hquote : c ≠ '"' ∧ c ≠ '`' := by
            constructor <;> (rintro rfl; revert hc; decide)
          have hstring : string? ((intText n).toList ++ rest) = none :=
            string?_of_head (by simp [hcs, hquote.1])
          have hraw : rawString? ((intText n).toList ++ rest) = none :=
            rawString?_of_head (by simp [hcs, hquote.2])
          simp [literal?, literalSource, hstring, hraw, hnumber]
  | str s =>
      have hquoted := quotedText_append [] s.toList rest
      simp [literal?, literalSource, string?, hquoted]
  | arr items => cases hv
  | obj fields => cases hv

end Cohort.Template
