import Cohort.Proofs.Template.Source.Scanning
import Mathlib.Data.List.DropRight

/-! # Texts and actions in turn

A source is scanned to the texts and actions that it was put together from, whatever quotes and
braces stand in the actions. Trim marks take white space from the texts next to them.
-/

namespace Cohort.Template

open Text

variable {s t rest : List Char} {q : Char}

/-! ## Quotes and braces -/

/-- The characters that open a quote, and close it again. -/
def quotes : List Char := ['"', '\'', '`']

/-- What follows an opening quote, up to the closing one. A backslash takes the character behind it,
except between backticks. -/
inductive Quotation (q : Char) : List Char → Prop where
  | close : Quotation q [q]
  | plain {c : Char} {s : List Char} (hquote : c ≠ q) (hslash : c = '\\' → q = '`') :
      Quotation q s → Quotation q (c :: s)
  | escaped {c : Char} {s : List Char} (hq : q ≠ '`') : Quotation q s → Quotation q ('\\' :: c :: s)

/-- A text that closes every quote it opens, and has no two closing braces outside quotes. -/
inductive Closed : List Char → Prop where
  | nil : Closed []
  | plain {c : Char} {s : List Char} (hquote : c ∉ quotes)
      (hbrace : c = '\x7d' → s.head? ≠ some '\x7d') : Closed s → Closed (c :: s)
  | quoted {q : Char} {t s : List Char} (hq : q ∈ quotes) : Quotation q t → Closed s →
      Closed (q :: (t ++ s))

theorem Quotation.closeFrom_append (h : Quotation q t) (hq : q ∈ quotes) (rest : List Char) :
    closeFrom (some q) (t ++ rest) = (closeFrom none rest).map fun (b, r) => (t ++ b, r) := by
  induction h with
  | close =>
      rw [List.singleton_append, closeFrom.eq_def]
      simp
  | @plain c s hquote hslash _ ih =>
      have hplain : ¬ (c = '\\' ∧ q ≠ '`') := fun hboth => hboth.2 (hslash hboth.1)
      rw [List.cons_append, closeFrom.eq_def]
      simp only [if_neg hquote, if_neg hplain, ih, Option.map_map]
      rfl
  | @escaped c s hback _ ih =>
      have hslash : '\\' ≠ q := by
        rintro rfl
        simp [quotes] at hq
      rw [List.cons_append, List.cons_append, closeFrom, if_neg hslash, if_pos ⟨rfl, hback⟩]
      simp only [ih, Option.map_map]
      rfl

/-- The search for the closing braces passes over a text that is closed, if none begin at its end. -/
theorem Closed.closeFrom_append (h : Closed s) (rest : List Char)
    (hrest : rest.head? ≠ some '\x7d') :
    closeFrom none (s ++ rest) = (closeFrom none rest).map fun (b, r) => (s ++ b, r) := by
  induction h with
  | nil => simp
  | @plain c s hquote hbrace _ ih =>
      have hend : ¬ (c = '\x7d' ∧ (s ++ rest).head? = some '\x7d') := by
        rintro ⟨hc, hhead⟩
        cases s with
        | nil => exact hrest hhead
        | cons d s => exact hbrace hc hhead
      simp only [quotes, List.mem_cons, List.not_mem_nil, or_false] at hquote
      rw [List.cons_append, closeFrom, if_neg hend, if_neg hquote, ih, Option.map_map]
      rfl
  | @quoted q t s hq ht _ ih =>
      have hopen : ¬ (q = '\x7d' ∧ (t ++ s ++ rest).head? = some '\x7d') := by
        rintro ⟨rfl, -⟩
        simp [quotes] at hq
      have hquote : q = '"' ∨ q = '\'' ∨ q = '`' := by simpa [quotes] using hq
      rw [List.cons_append, closeFrom, if_neg hopen, if_pos hquote, List.append_assoc,
        ht.closeFrom_append hq, ih]
      simp [Function.comp_def]

/-! ## One action -/

/-- What may stand in an action between the spaces inside its braces. -/
structure IsActionBody (s : List Char) : Prop where
  ne_nil : s ≠ []
  head : ∀ c ∈ s.head?, isBlank c = false
  last : ∀ c ∈ s.getLast?, isBlank c = false
  no_comment : ¬ ['/', '*'] <+: s
  closed : Closed s

/-- An action with the text behind it. -/
structure Segment where
  /-- Whether the action takes away the white space before it. -/
  trimsBefore : Bool
  body : List Char
  /-- Whether the action takes away the white space behind it. -/
  trimsBehind : Bool
  text : List Char

/-- The mark of an action that takes white space away. -/
def trimMark (trims : Bool) : List Char := if trims then ['-'] else []

/-- What stands between the braces of an action, the first trim mark apart. -/
def Segment.inside (g : Segment) : List Char :=
  ' ' :: (g.body ++ ' ' :: trimMark g.trimsBehind)

/-- An action in a source. -/
def Segment.action (g : Segment) : List Char :=
  '\x7b' :: '\x7b' :: (trimMark g.trimsBefore ++ (g.inside ++ ['\x7d', '\x7d']))

/-- An action in a source, with the text behind it. -/
def Segment.source (g : Segment) : List Char := g.action ++ g.text

/-- A text without the white space at its start or at its end, or both. -/
def trimText (atStart atEnd : Bool) (text : List Char) : List Char :=
  let text := if atStart then text.dropWhile isBlank else text
  if atEnd then text.rdropWhile isBlank else text

section

variable {g : Segment}

theorem leftTrim?_inside (g : Segment) (rest : List Char) :
    leftTrim? (trimMark g.trimsBefore ++ (g.inside ++ rest)) =
      if g.trimsBefore then some (g.inside ++ rest) else none := by
  have hspace : isBlank ' ' = true := by decide
  cases g.trimsBefore <;> simp [trimMark, Segment.inside, leftTrim?, hspace]

theorem rightTrim?_inside (g : Segment) :
    rightTrim? g.inside = if g.trimsBehind then some (' ' :: (g.body ++ [' '])) else none := by
  have hspace : isBlank ' ' = true := by decide
  cases hbehind : g.trimsBehind <;> simp [rightTrim?, Segment.inside, trimMark, hbehind, hspace]

theorem IsActionBody.dropPrefix?_append (hs : IsActionBody s) (rest : List Char)
    (hrest : rest.head? ≠ some '*') : dropPrefix? ['/', '*'] (s ++ rest) = none := by
  rw [Option.eq_none_iff_forall_not_mem]
  intro after hafter
  have heq := dropPrefix?_eq_some_iff.mp hafter
  match s, hs with
  | [], hs => exact hs.ne_nil rfl
  | [c], _ =>
      obtain ⟨-, rfl⟩ := List.cons.inj heq
      exact hrest rfl
  | c :: d :: r, hs =>
      obtain ⟨rfl, htail⟩ := List.cons.inj heq
      obtain ⟨rfl, -⟩ := List.cons.inj htail
      exact hs.no_comment ⟨r, rfl⟩

theorem IsActionBody.dropWhile_append (hs : IsActionBody s) (rest : List Char) :
    (' ' :: (s ++ rest)).dropWhile isBlank = s ++ rest := by
  have hspace : isBlank ' ' = true := by decide
  obtain ⟨c, r, rfl⟩ := List.exists_cons_of_ne_nil hs.ne_nil
  have hc : isBlank c = false := hs.head c rfl
  simp [hspace, hc]

theorem IsActionBody.trim_padded (hs : IsActionBody s) : trim (' ' :: (s ++ [' '])) = s := by
  have hspace : isBlank ' ' = true := by decide
  have hlast := List.dropLast_concat_getLast hs.ne_nil
  have hd : isBlank (s.getLast hs.ne_nil) = false :=
    hs.last _ (List.getLast?_eq_some_getLast hs.ne_nil)
  rw [trim, trimWhile, hs.dropWhile_append, dropEndWhile, ← hlast]
  simp [hspace, hd]

theorem IsActionBody.close?_inside (hbody : IsActionBody g.body) (rest : List Char) :
    close? (g.inside ++ '\x7d' :: '\x7d' :: rest) = some (g.inside, rest) := by
  have hcomment : dropPrefix? ['/', '*']
      ((g.inside ++ '\x7d' :: '\x7d' :: rest).dropWhile isBlank) = none := by
    rw [Segment.inside, List.cons_append, List.append_assoc, hbody.dropWhile_append]
    exact hbody.dropPrefix?_append _ (by simp)
  have hend : closeFrom none (' ' :: (trimMark g.trimsBehind ++ '\x7d' :: '\x7d' :: rest)) =
      some (' ' :: trimMark g.trimsBehind, rest) := by
    cases g.trimsBehind <;> simp [trimMark, closeFrom]
  have hstart : closeFrom none (g.inside ++ '\x7d' :: '\x7d' :: rest) = some (g.inside, rest) := by
    have hpass := hbody.closed.closeFrom_append
      (' ' :: (trimMark g.trimsBehind ++ '\x7d' :: '\x7d' :: rest)) (by simp)
    rw [hend] at hpass
    simp [Segment.inside, closeFrom, hpass]
  rw [close?, hcomment]
  exact hstart

theorem lineBreaks_action (g : Segment) : lineBreaks g.action = lineBreaks g.inside := by
  have hmark : (trimMark g.trimsBefore).count '\n' = 0 := by
    cases g.trimsBefore <;> rfl
  simp [lineBreaks, Segment.action, hmark]

/-- The scanner finds the action that ends a text. -/
theorem scanFrom_segment {text : List Char} (htext : Clean text) (hbody : IsActionBody g.body)
    (fuel line : Nat) (trimmed : Bool) (rest : List Char) :
    scanFrom (fuel + 1) line trimmed (text ++ (g.action ++ rest)) =
      (scanFrom fuel (line + lineBreaks text + lineBreaks g.action) g.trimsBehind rest).map
        fun pieces => textPiece (trimText trimmed g.trimsBefore text) ++
          .action g.body (line + lineBreaks text) :: pieces := by
  have hsource : text ++ (g.action ++ rest) = text ++ '\x7b' :: '\x7b' ::
      (trimMark g.trimsBefore ++ (g.inside ++ '\x7d' :: '\x7d' :: rest)) := by
    simp [Segment.action]
  have hcut := htext.cut?_append
    (trimMark g.trimsBefore ++ (g.inside ++ '\x7d' :: '\x7d' :: rest))
  have hcomment : dropPrefix? ['/', '*'] g.body = none := by
    simpa using hbody.dropPrefix?_append [] (by simp)
  have hne : g.body.isEmpty = false := by simpa using hbody.ne_nil
  rw [hsource, lineBreaks_action, scanFrom]
  simp only [hcut, leftTrim?_inside]
  cases hbehind : g.trimsBehind with
  | false =>
      have htrim : trim g.inside = g.body := by
        simpa [Segment.inside, trimMark, hbehind] using hbody.trim_padded
      cases hbefore : g.trimsBefore <;>
        simp only [trimMark, List.nil_append, Bool.false_eq_true, if_false, if_true,
          hbody.close?_inside, rightTrim?_inside, hbehind, htrim, hcomment, hne] <;>
        generalize scanFrom fuel _ _ rest = result <;> cases result <;> rfl
  | true =>
      cases hbefore : g.trimsBefore <;>
        simp only [trimMark, List.nil_append, Bool.false_eq_true, if_false, if_true,
          hbody.close?_inside, rightTrim?_inside, hbehind, hbody.trim_padded, hcomment, hne] <;>
        generalize scanFrom fuel _ _ rest = result <;> cases result <;> rfl

end

/-! ## Whole sources -/

/-- Texts that can be told from the actions between them: no braces open in a text, nor with its
last character and those of the action behind it. -/
structure Interleaves (first : List Char) (gs : List Segment) : Prop where
  no_open : ∀ t ∈ first :: gs.map Segment.text, ¬ ['\x7b', '\x7b'] <:+: t
  no_brace : ∀ t ∈ (first :: gs.map Segment.text).dropLast, t.getLast? ≠ some '\x7b'
  bodies : ∀ g ∈ gs, IsActionBody g.body

/-- The pieces of a text and the actions behind it. `source` is what stands before, and `trimmed`
tells whether it ends with an action that takes white space away. The line of an action is counted
from the start of the source. -/
def piecesBehind (source : List Char) (trimmed : Bool) (text : List Char) :
    List Segment → List Piece
  | [] => textPiece (trimText trimmed false text)
  | g :: gs =>
    textPiece (trimText trimmed g.trimsBefore text) ++
      .action g.body (1 + lineBreaks (source ++ text)) ::
        piecesBehind (source ++ text ++ g.action) g.trimsBehind g.text gs

theorem Interleaves.clean {first : List Char} {g : Segment} {gs : List Segment}
    (h : Interleaves first (g :: gs)) : Clean first :=
  ⟨h.no_open first (by simp), h.no_brace first (by simp)⟩

theorem Interleaves.of_cons {first : List Char} {g : Segment} {gs : List Segment}
    (h : Interleaves first (g :: gs)) : Interleaves g.text gs where
  no_open t ht := h.no_open t (List.mem_cons_of_mem first ht)
  no_brace t ht := h.no_brace t (List.mem_cons_of_mem first ht)
  bodies g' hg' := h.bodies g' (List.mem_cons_of_mem g hg')

theorem lineBreaks_append (s t : List Char) : lineBreaks (s ++ t) = lineBreaks s + lineBreaks t :=
  List.count_append

theorem scanFrom_segments {text : List Char} {gs : List Segment} (h : Interleaves text gs)
    (source : List Char) (trimmed : Bool) {fuel : Nat}
    (hfuel : (text ++ gs.flatMap Segment.source).length < fuel) :
    scanFrom fuel (1 + lineBreaks source) trimmed (text ++ gs.flatMap Segment.source) =
      .ok (piecesBehind source trimmed text gs) := by
  induction gs generalizing text source trimmed fuel with
  | nil =>
      obtain ⟨fuel, rfl⟩ := Nat.exists_eq_add_one_of_ne_zero (Nat.ne_zero_of_lt hfuel)
      have hcut := cut?_of_not_infix (h.no_open text (by simp))
      rw [List.flatMap_nil, List.append_nil, scanFrom]
      simp only [hcut]
      rfl
  | cons g gs ih =>
      obtain ⟨fuel, rfl⟩ := Nat.exists_eq_add_one_of_ne_zero (Nat.ne_zero_of_lt hfuel)
      have hsource : (g :: gs).flatMap Segment.source =
          g.action ++ (g.text ++ gs.flatMap Segment.source) := by
        simp [Segment.source]
      have hmore : (g.text ++ gs.flatMap Segment.source).length < fuel := by
        simp only [hsource, Segment.action, List.length_append, List.length_cons] at hfuel ⊢
        omega
      have hline : 1 + lineBreaks source + lineBreaks text = 1 + lineBreaks (source ++ text) := by
        rw [lineBreaks_append, Nat.add_assoc]
      have hnext : 1 + lineBreaks (source ++ text) + lineBreaks g.action =
          1 + lineBreaks (source ++ text ++ g.action) := by
        rw [lineBreaks_append _ g.action, Nat.add_assoc]
      rw [hsource, scanFrom_segment h.clean (h.bodies g (by simp)), hline, hnext,
        ih h.of_cons _ g.trimsBehind hmore]
      rfl

/-- Scanning undoes the putting together of texts and actions. Each body is found as it is, with the
line on which its action begins, and each text without the white space that the actions next to it
take away, unless nothing is left of it. -/
theorem scan_interleaved {first : List Char} {gs : List Segment} (h : Interleaves first gs) :
    scan (String.ofList (first ++ gs.flatMap Segment.source)) =
      .ok (piecesBehind [] false first gs) := by
  rw [scan, String.toList_ofList]
  exact scanFrom_segments h [] false (Nat.lt_succ_self _)

/-- An action with braces and a quote inside quotes, and one that ends in a brace behind a backslash
in backticks. -/
def quotedBraces : List Segment :=
  [⟨true, ['"', '\x7d', '\x7d', '\\', '"', '"'], true, "\n\t\x7d b \x7b c\n".toList⟩,
    ⟨false, ['`', '\\', '`', ' ', '\x7d'], true, " \n".toList⟩]

/-- A source with these actions. -/
def quotedBracesSource : String :=
  "a\n \x7b \x7b\x7b- \"\x7d\x7d\\\"\" -\x7d\x7d\n\t\x7d b \x7b c\n" ++
    "\x7b\x7b `\\` \x7d -\x7d\x7d \n"

theorem closed_quotedBraces : ∀ g ∈ quotedBraces, Closed g.body := by
  have hquote : Quotation '"' ['\x7d', '\x7d', '\\', '"', '"'] :=
    .plain (by decide) (by decide) (.plain (by decide) (by decide) (.escaped (by decide) .close))
  have hraw : Quotation '`' ['\\', '`'] := .plain (by decide) (by decide) .close
  have hbrace : Closed [' ', '\x7d'] :=
    .plain (by decide) (by decide) (.plain (by decide) (by decide) .nil)
  simpa [quotedBraces] using ⟨Closed.quoted (by decide) hquote .nil,
    Closed.quoted (by decide) hraw hbrace⟩

theorem scan_quotedBraces :
    Interleaves "a\n \x7b ".toList quotedBraces ∧
      scan quotedBracesSource =
        .ok [.text "a\n \x7b", .action ['"', '\x7d', '\x7d', '\\', '"', '"'] 2,
          .text "\x7d b \x7b c\n", .action ['`', '\\', '`', ' ', '\x7d'] 4] := by
  have hshape : ∀ g ∈ quotedBraces, g.body ≠ [] ∧ (∀ c ∈ g.body.head?, isBlank c = false) ∧
      (∀ c ∈ g.body.getLast?, isBlank c = false) ∧ ¬ ['/', '*'] <+: g.body := by
    have hquote : isBlank '"' = false := by decide
    have hraw : isBlank '`' = false := by decide
    have hbrace : isBlank '\x7d' = false := by decide
    simp [quotedBraces, hquote, hraw, hbrace]
  have h : Interleaves "a\n \x7b ".toList quotedBraces := by
    refine ⟨by decide +kernel, by decide +kernel, fun g hg => ?_⟩
    obtain ⟨hne, hhead, hlast, hcomment⟩ := hshape g hg
    exact ⟨hne, hhead, hlast, hcomment, closed_quotedBraces g hg⟩
  have hsource : String.ofList ("a\n \x7b ".toList ++ quotedBraces.flatMap Segment.source) =
      quotedBracesSource := by
    decide +kernel
  refine ⟨h, ?_⟩
  rw [← hsource, scan_interleaved h]
  decide +kernel

end Cohort.Template
