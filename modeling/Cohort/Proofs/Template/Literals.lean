import Cohort.Proofs.Template.Source.Words

/-! # Quoted literals are read back

A quote inside a literal is written twice, so that the first one that stands alone ends it.
-/

namespace Cohort.Template

open Text

variable {quote : Char} {sep s t rest : List Char} {text : String} {items : List String}

/-! ## Reading literals -/

/-- Reads a literal behind its first quote: its text, in which a doubled quote stands for one, up to
the first quote that is not doubled, and what follows. -/
def literalEnd? (quote : Char) : List Char → Option (List Char × List Char)
  | [] => none
  | c :: rest =>
    if c = quote then
      match rest with
      | [] => some ([], [])
      | d :: after =>
        if d = quote then (literalEnd? quote after).map fun (s, r) => (quote :: s, r)
        else some ([], d :: after)
    else (literalEnd? quote rest).map fun (s, r) => (c :: s, r)

/-- Reads a literal: its text, and what follows. -/
def sqlLiteral? (quote : Char) : List Char → Option (String × List Char)
  | [] => none
  | c :: rest =>
    if c = quote then (literalEnd? quote rest).map fun (s, r) => (String.ofList s, r) else none

/-- A text with its quotes doubled. -/
def doubled (quote : Char) (s : List Char) : List Char :=
  s.flatMap fun c => if c = quote then [c, c] else [c]

theorem doubled_append (quote : Char) (s t : List Char) :
    doubled quote (s ++ t) = doubled quote s ++ doubled quote t := by
  rw [doubled, List.flatMap_append, ← doubled, ← doubled]

theorem toList_quoteText (text : String) (quote : Char) :
    (quoteText text quote).toList = quote :: (doubled quote text.toList ++ [quote]) := by
  simp [quoteText, doubled]

theorem literalEnd?_cons_of_ne {c : Char} (h : c ≠ quote) (s : List Char) :
    literalEnd? quote (c :: s) = (literalEnd? quote s).map fun (s, r) => (c :: s, r) := by
  rw [literalEnd?.eq_def]
  simp only [if_neg h]

theorem literalEnd?_doubled (s : List Char) (h : rest.head? ≠ some quote) :
    literalEnd? quote (doubled quote s ++ quote :: rest) = some (s, rest) := by
  induction s with
  | nil =>
      cases rest with
      | nil => simp [doubled, literalEnd?]
      | cons c rest =>
          have hc : c ≠ quote := by simpa using h
          simp [doubled, literalEnd?, hc]
  | cons c s ih =>
      rw [doubled, List.flatMap_cons, ← doubled]
      by_cases hc : c = quote
      · subst hc
        simp [literalEnd?, ih]
      · simp [literalEnd?_cons_of_ne hc, hc, ih]

theorem eq_doubled_of_literalEnd? (h : literalEnd? quote t = some (s, rest)) :
    rest.head? ≠ some quote ∧ t = doubled quote s ++ quote :: rest := by
  fun_induction literalEnd? quote t generalizing s with
  | case1 => cases h
  | case2 =>
      obtain ⟨rfl, rfl⟩ : [] = s ∧ [] = rest := by simpa using h
      exact ⟨by simp, rfl⟩
  | case3 after ih =>
      obtain ⟨⟨s', rest'⟩, hread, heq⟩ := Option.map_eq_some_iff.mp h
      obtain ⟨rfl, rfl⟩ : quote :: s' = s ∧ rest' = rest := by simpa using heq
      obtain ⟨hhead, rfl⟩ := ih hread
      exact ⟨hhead, by simp [doubled]⟩
  | case4 d after hd =>
      obtain ⟨rfl, rfl⟩ : [] = s ∧ d :: after = rest := by simpa using h
      exact ⟨by simpa using hd, rfl⟩
  | case5 c after hc ih =>
      obtain ⟨⟨s', rest'⟩, hread, heq⟩ := Option.map_eq_some_iff.mp h
      obtain ⟨rfl, rfl⟩ : c :: s' = s ∧ rest' = rest := by simpa using heq
      obtain ⟨hhead, rfl⟩ := ih hread
      exact ⟨hhead, by simp [doubled, hc]⟩

/-- A literal is read up to where it ends, and no further: what follows does not begin with a quote. -/
theorem sqlLiteral?_eq_some_iff :
    sqlLiteral? quote t = some (text, rest) ↔
      rest.head? ≠ some quote ∧ t = (quoteText text quote).toList ++ rest := by
  constructor
  · intro h
    cases t with
    | nil => cases h
    | cons c t =>
        rw [sqlLiteral?] at h
        by_cases hc : c = quote
        · rw [if_pos hc] at h
          obtain ⟨⟨s, rest'⟩, hread, heq⟩ := Option.map_eq_some_iff.mp h
          obtain ⟨rfl, rfl⟩ : String.ofList s = text ∧ rest' = rest := by simpa using heq
          obtain ⟨hhead, rfl⟩ := eq_doubled_of_literalEnd? hread
          exact ⟨hhead, by simp [toList_quoteText, hc]⟩
        · rw [if_neg hc] at h
          cases h
  · rintro ⟨hhead, rfl⟩
    simp [toList_quoteText, sqlLiteral?, literalEnd?_doubled _ hhead]

/-! ## Reading lists of literals -/

theorem length_lt_of_sqlLiteral? (h : sqlLiteral? quote t = some (text, rest)) :
    rest.length < t.length := by
  obtain ⟨-, rfl⟩ := sqlLiteral?_eq_some_iff.mp h
  simp only [toList_quoteText, List.length_append, List.length_cons]
  omega

/-- Reads one literal or several, with a separator between them, up to the end. -/
def literalsFrom? (quote : Char) (sep s : List Char) : Option (List String) :=
  match _hread : sqlLiteral? quote s with
  | none => none
  | some (text, []) => some [text]
  | some (text, c :: rest) =>
    match _hsep : dropPrefix? sep (c :: rest) with
    | none => none
    | some after => (literalsFrom? quote sep after).map (text :: ·)
termination_by s.length
decreasing_by
  have hlt := length_lt_of_sqlLiteral? _hread
  have heq := congrArg List.length (dropPrefix?_eq_some_iff.mp _hsep)
  rw [List.length_append] at heq
  omega

theorem literalsFrom?_eq (h : sqlLiteral? quote t = some (text, rest)) :
    literalsFrom? quote sep t =
      if rest = [] then some [text]
      else (dropPrefix? sep rest).bind fun after =>
        (literalsFrom? quote sep after).map (text :: ·) := by
  rw [literalsFrom?]
  split
  · simp_all
  · simp_all
  · rename_i text' c rest' hread
    rw [h] at hread
    obtain ⟨rfl, rfl⟩ : text = text' ∧ rest = c :: rest' := by simpa using hread
    rw [if_neg (List.cons_ne_nil _ _)]
    split <;> simp_all

/-- Reads a list of literals with a separator between them. The empty text is the empty list. -/
def sqlLiterals? (quote : Char) (sep s : List Char) : Option (List String) :=
  if s = [] then some [] else literalsFrom? quote sep s

/-- Literals with a separator between them. -/
def literalList (quote : Char) (sep : List Char) (items : List String) : List Char :=
  List.intercalate sep (items.map fun text => (quoteText text quote).toList)

theorem literalList_cons_cons (quote : Char) (sep : List Char) (text next : String)
    (items : List String) : literalList quote sep (text :: next :: items) =
      (quoteText text quote).toList ++ (sep ++ literalList quote sep (next :: items)) := by
  simp [literalList, List.intercalate_cons_cons]

theorem literalsFrom?_literalList (hne : sep ≠ []) (hsep : sep.head? ≠ some quote) (text : String)
    (items : List String) :
    literalsFrom? quote sep (literalList quote sep (text :: items)) = some (text :: items) := by
  induction items generalizing text with
  | nil =>
      have hread : sqlLiteral? quote (literalList quote sep [text]) = some (text, []) :=
        sqlLiteral?_eq_some_iff.mpr ⟨by simp, by simp [literalList]⟩
      rw [literalsFrom?_eq hread, if_pos rfl]
  | cons next items ih =>
      have hhead : (sep ++ literalList quote sep (next :: items)).head? ≠ some quote := by
        rwa [List.head?_append_of_ne_nil _ hne]
      have hread : sqlLiteral? quote (literalList quote sep (text :: next :: items)) =
          some (text, sep ++ literalList quote sep (next :: items)) :=
        sqlLiteral?_eq_some_iff.mpr ⟨hhead, literalList_cons_cons _ _ _ _ _⟩
      have hpass : dropPrefix? sep (sep ++ literalList quote sep (next :: items)) =
          some (literalList quote sep (next :: items)) := dropPrefix?_eq_some_iff.mpr rfl
      have hmore : sep ++ literalList quote sep (next :: items) ≠ [] := by simp [hne]
      rw [literalsFrom?_eq hread, if_neg hmore, hpass, Option.bind_some, ih, Option.map_some]

theorem eq_literalList_of_literalsFrom? (h : literalsFrom? quote sep t = some items) :
    items ≠ [] ∧ t = literalList quote sep items := by
  fun_induction literalsFrom? quote sep t generalizing items with
  | case1 => cases h
  | case2 t text hread =>
      obtain rfl : [text] = items := by simpa using h
      obtain ⟨-, rfl⟩ := sqlLiteral?_eq_some_iff.mp hread
      exact ⟨List.cons_ne_nil _ _, by simp [literalList]⟩
  | case3 => cases h
  | case4 t text c rest hread after hsep ih =>
      obtain ⟨more, hmore, rfl⟩ := Option.map_eq_some_iff.mp h
      obtain ⟨hne, rfl⟩ := ih hmore
      obtain ⟨-, rfl⟩ := sqlLiteral?_eq_some_iff.mp hread
      obtain ⟨next, more, rfl⟩ := List.exists_cons_of_ne_nil hne
      refine ⟨List.cons_ne_nil _ _, ?_⟩
      rw [literalList_cons_cons, dropPrefix?_eq_some_iff.mp hsep]

/-- A text is read as some items exactly if it is made of them. -/
theorem sqlLiterals?_eq_some_iff (hne : sep ≠ []) (hsep : sep.head? ≠ some quote) :
    sqlLiterals? quote sep t = some items ↔ t = literalList quote sep items := by
  rw [sqlLiterals?]
  constructor
  · intro h
    split at h
    · rename_i hnil
      obtain rfl : [] = items := by simpa using h
      exact hnil
    · exact (eq_literalList_of_literalsFrom? h).2
  · rintro rfl
    cases items with
    | nil => rfl
    | cons text items =>
        have hnonempty : literalList quote sep (text :: items) ≠ [] := by
          cases items <;> simp [literalList, List.intercalate_cons_cons, toList_quoteText]
        rw [if_neg hnonempty, literalsFrom?_literalList hne hsep]

/-! ## What templates write -/

theorem quoteJoin_texts (quote : Char) (sep : String) (items : List String) :
    quoteJoin quote [.str sep, .arr (items.map .str)] =
      .ok (.str (String.ofList (literalList quote sep.toList items))) := by
  have hquoted : (items.map Value.str).mapM (quoteValue quote) =
      .ok (items.map (quoteText · quote)) := by
    induction items with
    | nil => rfl
    | cons text items ih =>
        rw [List.map_cons, List.mapM_cons, ih]
        rfl
  have hjoin : String.intercalate sep (items.map (quoteText · quote)) =
      String.ofList (literalList quote sep.toList items) := by
    rw [← String.ofList_toList (s := String.intercalate sep _), String.toList_intercalate,
      List.map_map]
    rfl
  rw [quoteJoin]
  simp [twoArgs, Template.text, hquoted, hjoin, Bind.bind, Except.bind, pure, Except.pure]

/-- Literals that were joined are read back as the list that they were made of, and no other text is
read as it, if the separator cannot be taken for a quote. A literal by itself is read back from
before whatever does not begin with a quote. -/
theorem read_back_quoteJoin (quote : Char) {sep : String} (hne : sep ≠ "")
    (hsep : sep.toList.head? ≠ some quote) (items : List String) :
    (∃ out, quoteJoin quote [.str sep, .arr (items.map .str)] = .ok (.str out) ∧
      sqlLiterals? quote sep.toList out.toList = some items ∧
      ∀ other : String, sqlLiterals? quote sep.toList other.toList = some items → other = out) ∧
    ∀ (text : String) (rest : List Char), rest.head? ≠ some quote →
      sqlLiteral? quote ((quoteText text quote).toList ++ rest) = some (text, rest) := by
  have hne' : sep.toList ≠ [] := by simpa using hne
  constructor
  · refine ⟨_, quoteJoin_texts quote sep items, ?_, fun other hother => ?_⟩
    · rw [String.toList_ofList]
      exact (sqlLiterals?_eq_some_iff hne' hsep).mpr rfl
    · rw [← (sqlLiterals?_eq_some_iff hne' hsep).mp hother, String.ofList_toList]
  · exact fun text rest hrest => sqlLiteral?_eq_some_iff.mpr ⟨hrest, rfl⟩

/-- Items that are made of quotes and separators, and an empty one. -/
def lookalikeItems : List String := ["', '", "'", "", "it's"]

theorem read_back_lookalikes :
    ", " ≠ "" ∧ ", ".toList.head? ≠ some '\'' ∧
      quoteJoin '\'' [.str ", ", .arr (lookalikeItems.map .str)] =
        .ok (.str "''', ''', '''', '', 'it''s'") ∧
      sqlLiterals? '\'' ", ".toList "''', ''', '''', '', 'it''s'".toList = some lookalikeItems ∧
      "\nAND".toList.head? ≠ some '\'' ∧
      sqlLiteral? '\'' ((quoteText "it's" '\'').toList ++ "\nAND".toList) =
        some ("it's", "\nAND".toList) := by
  have hne : ", " ≠ "" := by decide
  have hsep : ", ".toList.head? ≠ some '\'' := by decide
  have hrest : "\nAND".toList.head? ≠ some '\'' := by decide
  obtain ⟨⟨out, hjoin, hread, -⟩, hliteral⟩ := read_back_quoteJoin '\'' hne hsep lookalikeItems
  have hout : quoteJoin '\'' [.str ", ", .arr (lookalikeItems.map .str)] =
      .ok (.str "''', ''', '''', '', 'it''s'") := rfl
  obtain rfl : "''', ''', '''', '', 'it''s'" = out := by
    rw [hout] at hjoin
    injection hjoin with hjoin
    injection hjoin
  exact ⟨hne, hsep, hout, hread, hrest, hliteral "it's" _ hrest⟩

end Cohort.Template
