import Cohort.Proofs.Number.Rounding
import Cohort.Template.Function
import Mathlib.Data.List.Basic

/-! # Formats

A format is made of text, percent signs and verbs, and each verb takes one operand. What is printed
is the format with every verb replaced by its operand. As decimals, integers above the signed ones of
64 bits are all printed as the greatest of these.
-/

namespace Cohort

/-! ## Integers -/

theorem intText_eq_toString (n : Int) : intText n = toString n := by
  cases n with
  | ofNat n => rfl
  | negSucc n =>
      rw [intText, if_pos (Int.negSucc_lt_zero n), Int.natAbs_negSucc, digitsOf]
      exact String.ofList_cons

namespace Template

/-- An integer that a signed integer of 64 bits reaches is kept, and all above become the greatest
such integer. -/
theorem signed64?_int (n : Int) : signed64? (.int n) = some (min n (2 ^ 63 - 1)) := by
  have hbound : (signedBound : Int) = 2 ^ 63 := rfl
  rw [signed64?]
  split
  · next h =>
      rw [hbound] at h
      rw [Int.min_eq_left (by omega)]
  · next h =>
      rw [hbound, Int.not_lt] at h
      have hround := Binary64.two_pow_le_truncate_ofInt h
      rw [clamp64, hbound]
      congr 1
      omega

/-! ## Parts of a format -/

/-- A verb with the operand that it takes. -/
inductive Verb where
  | value (x : Value)
  | text (x : Value)
  | decimal (n : Int)
  | quoted (x : Value)

namespace Verb

/-- The letter of a verb. -/
def letter : Verb → Char
  | value _ => 'v'
  | text _ => 's'
  | decimal _ => 'd'
  | quoted _ => 'q'

/-- The operand of a verb. -/
def operand : Verb → Value
  | value x | text x | quoted x => x
  | decimal n => .num (.int n)

/-- A verb as it is printed, with `digits` to print integers as decimals. -/
def printed (digits : Int → String) : Verb → String
  | value x | text x => x.toText
  | decimal n => digits n
  | quoted x => Text.quoted x.toText

end Verb

/-- A part of a format. -/
inductive FormatPart where
  /-- Text without percent signs. -/
  | text (s : List Char) (h : '%' ∉ s)
  | percent
  | verb (v : Verb)

namespace FormatPart

/-- A part as it is written. A percent sign is written twice. -/
def written : FormatPart → List Char
  | text s _ => s
  | percent => ['%', '%']
  | verb v => ['%', v.letter]

/-- The operand of a part that is a verb. -/
def operand? : FormatPart → Option Value
  | verb v => some v.operand
  | _ => none

/-- A part as it is printed. -/
def printed (digits : Int → String) : FormatPart → String
  | text s _ => String.ofList s
  | percent => "%"
  | verb v => v.printed digits

end FormatPart

/-- The format that parts make. -/
def formatOf (parts : List FormatPart) : String :=
  String.ofList (parts.flatMap FormatPart.written)

/-- The operands that parts take, in order. -/
def operandsOf (parts : List FormatPart) : List Value := parts.filterMap FormatPart.operand?

/-- Parts as they are printed, one behind another. -/
def printedParts (digits : Int → String) : List FormatPart → String
  | [] => ""
  | p :: parts => p.printed digits ++ printedParts digits parts

/-- An integer as a decimal: its digits, or those of the greatest signed integer of 64 bits if that is
less. -/
def decimalText (n : Int) : String := toString (min n (2 ^ 63 - 1))

theorem decimalText_of_lt {n : Int} (h : n < 2 ^ 63) : decimalText n = toString n := by
  rw [decimalText, Int.min_eq_left (by omega)]

section

variable {s : List Char} {digits digits' : Int → String} {parts : List FormatPart}

theorem printedParts_congr (h : ∀ n, .verb (.decimal n) ∈ parts → digits n = digits' n) :
    printedParts digits parts = printedParts digits' parts := by
  induction parts with
  | nil => rfl
  | cons p parts ih =>
      have hp : p.printed digits = p.printed digits' := by
        cases p with
        | text s hs => rfl
        | percent => rfl
        | verb v =>
            cases v with
            | decimal n => exact h n List.mem_cons_self
            | value x | text x | quoted x => rfl
      rw [printedParts, printedParts, hp, ih fun n hn => h n (List.mem_cons_of_mem _ hn)]

/-! ## Printing a format -/

theorem Verb.letter_ne (v : Verb) : v.letter ≠ '%' := by
  cases v <;> simp [letter]

theorem formatVerb_operand (v : Verb) :
    formatVerb v.letter v.operand = .ok (v.printed decimalText) := by
  cases v with
  | decimal n =>
      rw [Verb.letter, Verb.operand, formatVerb, signed64?_int]
      exact congrArg Except.ok (intText_eq_toString _)
  | value x | text x | quoted x => rfl

theorem formatted_extra {xs : List Value} (h : xs ≠ []) :
    formatted [] xs = .error (.extraOperands xs.length) := by
  rw [formatted]
  exact h

theorem formatted_missing (v : Verb) (rest : List Char) :
    formatted ('%' :: v.letter :: rest) [] = .error (.missingOperand v.letter) := by
  rw [formatted]
  exact v.letter_ne

theorem formatted_verb (v : Verb) (x : Value) (rest : List Char) (xs : List Value) :
    formatted ('%' :: v.letter :: rest) (x :: xs) =
      (formatVerb v.letter x).bind fun out => (formatted rest xs).map (out ++ ·) := by
  rw [formatted]
  · cases formatVerb v.letter x with
    | error fault => rfl
    | ok out => cases formatted rest xs <;> rfl
  · exact v.letter_ne

theorem formatted_percent (rest : List Char) (xs : List Value) :
    formatted ('%' :: '%' :: rest) xs = (formatted rest xs).map ("%" ++ ·) := by
  rw [formatted]
  cases formatted rest xs <;> rfl

theorem formatted_plain {c : Char} (hc : c ≠ '%') (rest : List Char) (xs : List Value) :
    formatted (c :: rest) xs = (formatted rest xs).map (c.toString ++ ·) := by
  rw [formatted]
  · cases formatted rest xs <;> rfl
  all_goals simp [hc]

theorem formatted_text (h : '%' ∉ s) (rest : List Char) (xs : List Value) :
    formatted (s ++ rest) xs = (formatted rest xs).map (String.ofList s ++ ·) := by
  induction s with
  | nil =>
      rw [List.nil_append]
      cases formatted rest xs <;> simp [Except.map]
  | cons c s ih =>
      obtain ⟨hc, hs⟩ : c ≠ '%' ∧ '%' ∉ s := by simpa [eq_comm] using h
      rw [List.cons_append, formatted_plain hc, ih hs]
      cases formatted rest xs <;> simp [Except.map, String.ofList_cons, String.append_assoc]

/-- A part takes its operand and is printed before the rest. -/
theorem formatted_part (p : FormatPart) (rest : List Char) (xs : List Value) :
    formatted (p.written ++ rest) (p.operand?.toList ++ xs) =
      (formatted rest xs).map (p.printed decimalText ++ ·) := by
  cases p with
  | text s hs => exact formatted_text hs rest xs
  | percent => exact formatted_percent rest xs
  | verb v =>
      refine (formatted_verb v v.operand rest xs).trans ?_
      rw [formatVerb_operand]
      rfl

theorem operandsOf_cons (p : FormatPart) (parts : List FormatPart) :
    operandsOf (p :: parts) = p.operand?.toList ++ operandsOf parts := by
  cases p <;> rfl

/-- Parts take their operands and are printed before the rest. -/
theorem formatted_append (parts : List FormatPart) (rest : List Char) (xs : List Value) :
    formatted (parts.flatMap FormatPart.written ++ rest) (operandsOf parts ++ xs) =
      (formatted rest xs).map (printedParts decimalText parts ++ ·) := by
  induction parts with
  | nil =>
      rw [List.flatMap_nil, List.nil_append, operandsOf, List.filterMap_nil, List.nil_append]
      cases formatted rest xs <;> simp [Except.map, printedParts]
  | cons p parts ih =>
      rw [List.flatMap_cons, List.append_assoc, operandsOf_cons, List.append_assoc,
        formatted_part, ih]
      cases formatted rest xs <;> simp [Except.map, printedParts, String.append_assoc]

/-- A format fails with any other number of operands, whatever they are. -/
theorem exists_formatted_eq_error {xs : List Value}
    (h : xs.length ≠ (operandsOf parts).length) :
    ∃ fault, formatted (parts.flatMap FormatPart.written) xs = .error fault := by
  induction parts generalizing xs with
  | nil =>
      cases xs with
      | nil => exact absurd rfl h
      | cons x xs => exact ⟨_, formatted_extra (List.cons_ne_nil x xs)⟩
  | cons p parts ih =>
      rw [List.flatMap_cons]
      cases p with
      | text s hs =>
          obtain ⟨fault, hfault⟩ := ih h
          rw [FormatPart.written, formatted_text hs, hfault]
          exact ⟨fault, rfl⟩
      | percent =>
          obtain ⟨fault, hfault⟩ := ih h
          simp only [FormatPart.written, List.cons_append, List.nil_append]
          rw [formatted_percent, hfault]
          exact ⟨fault, rfl⟩
      | verb v =>
          simp only [FormatPart.written, List.cons_append, List.nil_append]
          cases xs with
          | nil => exact ⟨_, formatted_missing v _⟩
          | cons x xs =>
              have hlength : xs.length ≠ (operandsOf parts).length := by
                simpa [operandsOf, FormatPart.operand?] using h
              obtain ⟨fault, hfault⟩ := ih hlength
              rw [formatted_verb, hfault]
              cases formatVerb v.letter x with
              | ok out => exact ⟨fault, rfl⟩
              | error fault' => exact ⟨fault', rfl⟩

end

/-! ## Main result -/

theorem call_printf (format : String) (xs : List Value) :
    call "printf" (.str format :: xs) = (formatted format.toList xs).map .str := by
  have hf : Function.ofName? "printf" = some .printf := by decide
  rw [call, hf]
  change printFormat (.str format :: xs) = _
  cases hout : formatted format.toList xs <;>
    simp [printFormat, text, hout, bind, Except.bind, pure, Except.pure, Except.map]

theorem call_printf_append (parts behind : List FormatPart) (xs : List Value) :
    call "printf" (.str (formatOf (parts ++ behind)) :: (operandsOf parts ++ xs)) =
      (formatted (behind.flatMap FormatPart.written) xs).map fun out =>
        .str (printedParts decimalText parts ++ out) := by
  rw [call_printf, formatOf, String.toList_ofList, List.flatMap_append, formatted_append]
  cases formatted (behind.flatMap FormatPart.written) xs <;> rfl

theorem call_printf_operandsOf (parts : List FormatPart) :
    call "printf" (.str (formatOf parts) :: operandsOf parts) =
      .ok (.str (printedParts decimalText parts)) := by
  have hcall := call_printf_append parts [] []
  rw [List.flatMap_nil, formatted] at hcall
  simpa [Except.map] using hcall

/-- A format with an operand for each verb, where those that are printed as decimals are integers, is
printed with every verb replaced by its operand. All integers below 2^63 are printed as they are, and
those above as 2^63 - 1. With any other number of operands the format fails, by the first verb that
is left without one or by the operands that are left over. -/
theorem printf_of_parts (parts : List FormatPart) :
    call "printf" (.str (formatOf parts) :: operandsOf parts) =
      .ok (.str (printedParts (fun n => toString (min n (2 ^ 63 - 1))) parts)) ∧
    ((∀ n, .verb (.decimal n) ∈ parts → n < 2 ^ 63) →
      call "printf" (.str (formatOf parts) :: operandsOf parts) =
        .ok (.str (printedParts toString parts))) ∧
    (∀ xs : List Value, xs.length ≠ (operandsOf parts).length →
      ∃ fault, call "printf" (.str (formatOf parts) :: xs) = .error fault) ∧
    (∀ xs ≠ [], call "printf" (.str (formatOf parts) :: (operandsOf parts ++ xs)) =
      .error (.extraOperands xs.length)) ∧
    ∀ front v behind, parts = front ++ .verb v :: behind →
      call "printf" (.str (formatOf parts) :: operandsOf front) =
        .error (.missingOperand v.letter) := by
  refine ⟨call_printf_operandsOf parts, ?_, ?_, ?_, ?_⟩
  · intro h
    rw [call_printf_operandsOf, printedParts_congr fun n hn => decimalText_of_lt (h n hn)]
  · intro xs hlength
    obtain ⟨fault, hfault⟩ := exists_formatted_eq_error hlength
    rw [call_printf, formatOf, String.toList_ofList, hfault]
    exact ⟨fault, rfl⟩
  · intro xs hxs
    have hcall := call_printf_append parts [] xs
    rw [List.append_nil, List.flatMap_nil, formatted_extra hxs] at hcall
    exact hcall
  · rintro front v behind rfl
    have hcall := call_printf_append front (.verb v :: behind) []
    rw [List.append_nil] at hcall
    exact hcall.trans (congrArg (Except.map _) (formatted_missing v _))

/-- The format `%s_%d%% of %q` with an integer among its operands. -/
def shareParts (n : Int) : List FormatPart :=
  [.verb (.text (.str "events")), .text ['_'] (by decide), .verb (.decimal n), .percent,
    .text [' ', 'o', 'f', ' '] (by decide), .verb (.quoted (.str "it's"))]

theorem printf_shareParts :
    call "printf" [.str "%s_%d%% of %q", .str "events", .num (.int 18446744073709551615),
        .str "it's"] = .ok (.str "events_9223372036854775807% of \"it's\"") ∧
      call "printf" [.str "%s_%d%% of %q", .str "events", .num (.int (-9223372036854775808)),
        .str "it's"] = .ok (.str "events_-9223372036854775808% of \"it's\"") ∧
      (∃ fault, call "printf" [.str "%s_%d%% of %q", .str "events", .str "it's"] = .error fault) ∧
      call "printf" [.str "%s_%d%% of %q", .str "events", .num (.int 18446744073709551615),
        .str "it's", .null] = .error (.extraOperands 1) ∧
      call "printf" [.str "%s_%d%% of %q", .str "events"] = .error (.missingOperand 'd') := by
  obtain ⟨hclamped, -, hcount, hextra, hmissing⟩ :=
    printf_of_parts (shareParts 18446744073709551615)
  have hleast : ∀ n, .verb (.decimal n) ∈ shareParts (-9223372036854775808) → n < 2 ^ 63 := by
    intro n hn
    obtain rfl : n = -9223372036854775808 := by simpa [shareParts] using hn
    decide
  exact ⟨hclamped, (printf_of_parts (shareParts (-9223372036854775808))).2.1 hleast,
    hcount [.str "events", .str "it's"] (by decide), hextra [.null] (by simp),
    hmissing [.verb (.text (.str "events")), .text ['_'] (by decide)] (.decimal _) _ rfl⟩

/-- As a decimal 2^64 - 1 is printed as 2^63 - 1. -/
theorem printf_greatest_clamped :
    ¬ ∀ parts : List FormatPart,
      (∀ n, .verb (.decimal n) ∈ parts → -(signedBound : Int) ≤ n ∧ n < unsignedBound) →
        call "printf" (.str (formatOf parts) :: operandsOf parts) =
          .ok (.str (printedParts toString parts)) := by
  intro h
  have hrange : ∀ n, .verb (.decimal n) ∈ [FormatPart.verb (.decimal 18446744073709551615)] →
      -(signedBound : Int) ≤ n ∧ n < unsignedBound := by
    intro n hn
    obtain rfl : n = 18446744073709551615 := by simpa using hn
    decide
  have hclaimed := h _ hrange
  rw [call_printf_operandsOf] at hclaimed
  injection hclaimed with hvalue
  injection hvalue with htext
  exact absurd htext (by decide)

end Template

end Cohort
