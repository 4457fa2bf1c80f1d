import Cohort.Text.Blank
import Mathlib.Data.List.Chain

/-! # Texts with single spaces

What `compact` makes of a text depends on its words alone and is made of the same ones. The compact
texts are those that it keeps.
-/

namespace Cohort.Text

variable {c : Char} {s t w : List Char} {ws : List (List Char)}

/-! ## Words -/

/-- A word has a character, and none of its characters is white space. -/
structure IsWord (w : List Char) : Prop where
  ne_nil : w ≠ []
  notBlank : ∀ c ∈ w, isBlank c = false

/-- A text is made of words in order, with white space between every two of them and around them. -/
inductive MadeOf : List (List Char) → List Char → Prop where
  | nil : MadeOf [] []
  | blank {ws : List (List Char)} {s : List Char} {c : Char} (hc : isBlank c = true)
      (h : MadeOf ws s) : MadeOf ws (c :: s)
  | last {w : List Char} (hw : IsWord w) : MadeOf [w] w
  | word {w : List Char} {ws : List (List Char)} {s : List Char} {c : Char} (hw : IsWord w)
      (hc : isBlank c = true) (h : MadeOf ws s) : MadeOf (w :: ws) (w ++ c :: s)

theorem MadeOf.isWord (h : MadeOf ws s) : ∀ w ∈ ws, IsWord w := by
  induction h with
  | nil => simp
  | blank _ _ ih => exact ih
  | last hw => simpa using hw
  | word hw _ _ ih => exact List.forall_mem_cons.mpr ⟨hw, ih⟩

/-- Nothing but white space stands outside the words. -/
theorem MadeOf.filter_eq (h : MadeOf ws s) : (s.filter fun c => !isBlank c) = ws.flatten := by
  have hword : ∀ {w : List Char}, IsWord w → (w.filter fun c => !isBlank c) = w := fun hw =>
    List.filter_eq_self.mpr fun c hc => by simp [hw.notBlank c hc]
  induction h with
  | nil => rfl
  | blank hc _ ih => simpa [hc] using ih
  | last hw => simp [hword hw]
  | word hw hc _ ih => simp [hword hw, hc, ih]

/-! ## Splitting -/

theorem wordsFrom_append (hw : ∀ c ∈ w, isBlank c = false) (before s : List Char) :
    wordsFrom before (w ++ s) = wordsFrom (w.reverse ++ before) s := by
  induction w generalizing before with
  | nil => rfl
  | cons c w ih =>
      obtain ⟨hc, hw⟩ := List.forall_mem_cons.mp hw
      rw [List.cons_append, wordsFrom, if_neg (by simp [hc]), ih hw]
      simp

theorem MadeOf.words_eq (h : MadeOf ws s) : words s = ws := by
  induction h with
  | nil => rfl
  | blank hc _ ih =>
      rw [words, wordsFrom, if_pos hc, List.isEmpty_nil, if_pos rfl, ← words, ih]
  | last hw =>
      have hread := wordsFrom_append hw.notBlank [] []
      rw [List.append_nil] at hread
      rw [words, hread, wordsFrom]
      simp [hw.ne_nil]
  | word hw hc _ ih =>
      rw [words, wordsFrom_append hw.notBlank, wordsFrom, if_pos hc, ← words, ih]
      simp [hw.ne_nil]

/-- The words are those of the text behind what was read of the word under way. -/
theorem madeOf_wordsFrom (hw : ∀ c ∈ w, isBlank c = false) :
    MadeOf (wordsFrom w s) (w.reverse ++ s) := by
  have hword : ∀ {w : List Char}, (∀ c ∈ w, isBlank c = false) → w ≠ [] → IsWord w.reverse :=
    fun hw hne => ⟨by simpa using hne, fun c hc => hw c (List.mem_reverse.mp hc)⟩
  induction s generalizing w with
  | nil =>
      rw [wordsFrom, List.append_nil]
      by_cases hnil : w = []
      · subst hnil
        exact .nil
      · rw [if_neg (by simpa using hnil)]
        exact .last (hword hw hnil)
  | cons c s ih =>
      rw [wordsFrom]
      by_cases hc : isBlank c = true
      · have hrest : MadeOf (wordsFrom [] s) s := ih (by simp)
        rw [if_pos hc]
        by_cases hnil : w = []
        · subst hnil
          exact .blank hc hrest
        · rw [if_neg (by simpa using hnil)]
          exact .word (hword hw hnil) hc hrest
      · have hmore : ∀ d ∈ c :: w, isBlank d = false :=
          List.forall_mem_cons.mpr ⟨by simpa using hc, hw⟩
        rw [if_neg hc]
        simpa using ih hmore

/-- Splitting finds the words that a text is made of, and no other words make it. -/
theorem words_eq_iff : words s = ws ↔ MadeOf ws s :=
  ⟨fun h => h ▸ madeOf_wordsFrom (w := []) (by simp), MadeOf.words_eq⟩

/-! ## Joining -/

/-- A text without white space at either end, in which all white space is single spaces. -/
structure IsCompact (s : List Char) : Prop where
  head : ∀ c ∈ s.head?, isBlank c = false
  last : ∀ c ∈ s.getLast?, isBlank c = false
  eq_space : ∀ c ∈ s, isBlank c = true → c = ' '
  single : s.IsChain fun c d => isBlank c = false ∨ isBlank d = false

theorem isCompact_nil : IsCompact [] := ⟨by simp, by simp, by simp, .nil⟩

theorem IsWord.isCompact (hw : IsWord w) : IsCompact w where
  head c hc := hw.notBlank c (List.mem_of_mem_head? hc)
  last c hc := hw.notBlank c (List.mem_of_mem_getLast? hc)
  eq_space c hc hblank := by simp [hw.notBlank c hc] at hblank
  single := by
    rw [List.isChain_iff_getElem]
    exact fun i hi => .inl (hw.notBlank _ (List.getElem_mem _))

/-- A space between a word and a compact text keeps the whole compact. -/
theorem IsWord.isCompact_append_space (hw : IsWord w) (hs : IsCompact s) (hne : s ≠ []) :
    IsCompact (w ++ ' ' :: s) where
  head := by
    rw [List.head?_append_of_ne_nil _ hw.ne_nil]
    exact hw.isCompact.head
  last := by
    rw [List.getLast?_append_of_ne_nil _ (List.cons_ne_nil _ _), List.getLast?_cons_of_ne_nil hne]
    exact hs.last
  eq_space c hc hblank := by
    rcases List.mem_append.mp hc with hc | hc
    · exact hw.isCompact.eq_space c hc hblank
    · rcases List.mem_cons.mp hc with rfl | hc
      · rfl
      · exact hs.eq_space c hc hblank
  single := by
    refine List.isChain_append.mpr ⟨hw.isCompact.single, ?_, ?_⟩
    · exact List.isChain_cons.mpr ⟨fun d hd => .inr (hs.head d hd), hs.single⟩
    · exact fun c hc d _ => .inl (hw.isCompact.last c hc)

/-- White space in a compact text is a space with a compact text behind it. -/
theorem IsCompact.of_append_cons (h : IsCompact (w ++ c :: s)) (hc : isBlank c = true) :
    c = ' ' ∧ s ≠ [] ∧ IsCompact s := by
  have hne : s ≠ [] := by
    rintro rfl
    have hlast := h.last c (by simp)
    rw [hc] at hlast
    cases hlast
  obtain ⟨-, hbehind, -⟩ := List.isChain_append.mp h.single
  obtain ⟨hnext, hsingle⟩ := List.isChain_cons.mp hbehind
  refine ⟨h.eq_space c (by simp) hc, hne, ?_, ?_, ?_, hsingle⟩
  · intro d hd
    rcases hnext d hd with hfalse | hd
    · rw [hc] at hfalse
      cases hfalse
    · exact hd
  · intro d hd
    apply h.last
    rwa [List.getLast?_append_of_ne_nil _ (List.cons_ne_nil _ _),
      List.getLast?_cons_of_ne_nil hne]
  · exact fun d hd => h.eq_space d (by simp [hd])

theorem join_ne_nil (hw : IsWord w) (ws : List (List Char)) :
    List.intercalate [' '] (w :: ws) ≠ [] := by
  cases ws with
  | nil => simpa using hw.ne_nil
  | cons v ws => simp [List.intercalate_cons_cons]

theorem isCompact_join (h : ∀ w ∈ ws, IsWord w) : IsCompact (List.intercalate [' '] ws) := by
  induction ws with
  | nil => exact isCompact_nil
  | cons w ws ih =>
      obtain ⟨hw, hws⟩ := List.forall_mem_cons.mp h
      cases ws with
      | nil => simpa using hw.isCompact
      | cons v ws =>
          rw [List.intercalate_cons_cons, List.append_assoc]
          exact hw.isCompact_append_space (ih hws) (join_ne_nil (hws v (by simp)) ws)

theorem madeOf_join (h : ∀ w ∈ ws, IsWord w) : MadeOf ws (List.intercalate [' '] ws) := by
  induction ws with
  | nil => exact .nil
  | cons w ws ih =>
      obtain ⟨hw, hws⟩ := List.forall_mem_cons.mp h
      cases ws with
      | nil => simpa using MadeOf.last hw
      | cons v ws =>
          rw [List.intercalate_cons_cons, List.append_assoc]
          exact .word hw (by decide) (ih hws)

/-- A compact text is its words with a space between every two. -/
theorem MadeOf.eq_join (h : MadeOf ws s) (hs : IsCompact s) : s = List.intercalate [' '] ws := by
  induction h with
  | nil => rfl
  | blank hc _ _ =>
      have hhead := hs.head _ rfl
      rw [hc] at hhead
      cases hhead
  | last => simp
  | @word w ws s c hw hc h ih =>
      obtain ⟨rfl, hne, hs⟩ := hs.of_append_cons hc
      cases ws with
      | nil => exact absurd (ih hs) hne
      | cons v ws =>
          rw [List.intercalate_cons_cons, List.append_assoc, ← ih hs]
          rfl

/-! ## Main result -/

theorem toList_compact (s : String) :
    (compact s).toList = List.intercalate [' '] (words s.toList) := by
  rw [compact, String.toList_ofList]

theorem madeOf_words (s : List Char) : MadeOf (words s) s := words_eq_iff.mp rfl

theorem madeOf_compact (s : String) : MadeOf (words s.toList) (compact s).toList := by
  rw [toList_compact]
  exact madeOf_join (madeOf_words s.toList).isWord

theorem isCompact_compact (s : String) : IsCompact (compact s).toList := by
  rw [toList_compact]
  exact isCompact_join (madeOf_words s.toList).isWord

theorem compact_eq_self_iff {s : String} : compact s = s ↔ IsCompact s.toList := by
  constructor
  · intro h
    rw [← h]
    exact isCompact_compact s
  · intro h
    rw [compact, ← (madeOf_words s.toList).eq_join h, String.ofList_toList]

/-- A text is made compact without a change to its words: they are those of the result, so that
nothing but white space is lost or added. What is compact is kept, and two texts become the same one
exactly if they have the same words. -/
theorem compact_canonical (s t : String) :
    IsCompact (compact s).toList ∧
      (∀ ws, words s.toList = ws ↔ MadeOf ws s.toList) ∧
      words (compact s).toList = words s.toList ∧
      ((compact s).toList.filter fun c => !isBlank c) = (s.toList.filter fun c => !isBlank c) ∧
      compact (compact s) = compact s ∧
      (compact s = s ↔ IsCompact s.toList) ∧
      (compact s = compact t ↔ words s.toList = words t.toList) := by
  have hwords : ∀ s : String, words (compact s).toList = words s.toList := fun s =>
    words_eq_iff.mpr (madeOf_compact s)
  refine ⟨isCompact_compact s, fun ws => words_eq_iff, hwords s, ?_,
    compact_eq_self_iff.mpr (isCompact_compact s), compact_eq_self_iff, ?_, ?_⟩
  · rw [(madeOf_compact s).filter_eq, (madeOf_words s.toList).filter_eq]
  · intro h
    rw [← hwords s, h, hwords t]
  · intro h
    rw [compact, compact, h]

example : compact "  SELECT *\n\tFROM  users\n WHERE a = ?  " = "SELECT * FROM users WHERE a = ?" := by
  decide

end Cohort.Text
