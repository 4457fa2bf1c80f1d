import Cohort.Dialect
import Cohort.Proofs.Expression.Meaning

/-! # The text of a query along its expression -/

namespace Cohort

/-! ## Texts of nodes -/

/-- Queries in parentheses with a word between each two. -/
def Dialect.chained (word : String) : List String → String
  | [] => ""
  | [q] => "(" ++ q ++ ")"
  | q :: rest => "(" ++ q ++ ")" ++ " " ++ word ++ " " ++ chained word rest

theorem Dialect.join_eq_chained (d : Dialect) {op : SetOperation} {queries : List String}
    (h : op.Admits queries.length) :
    d.join op (queries.map parenthesize) = chained (d.word op) queries := by
  have hlarge : ¬ (op = .except ∧ (queries.map parenthesize).length < 2) := by
    rintro ⟨hop, hlt⟩
    have := h.2 hop
    simp only [List.length_map] at hlt
    omega
  rw [join, if_neg hlarge]
  clear h hlarge
  induction queries with
  | nil => rfl
  | cons q rest ih =>
      cases rest with
      | nil => rfl
      | cons q' rest =>
          rw [List.map_cons, List.map_cons, String.intercalate_cons_cons, ← List.map_cons, ih]
          simp only [chained, parenthesize, String.append_assoc]

theorem Dialect.chained_ne_empty (word : String) {queries : List String} (h : queries ≠ []) :
    chained word queries ≠ "" := by
  match queries, h with
  | [q], _ => simp [chained, ← String.toList_inj]
  | q :: q' :: rest, _ => simp [chained, ← String.toList_inj]

/-- The text of a node, of those of its children. -/
def Dialect.nodeText (d : Dialect) (op : SetOperation) (parts : List String) : String :=
  chained (d.word op) parts

/-- The text that a vocabulary makes for a node, of those of its children. -/
def Vocabulary.nodeText (v : Vocabulary) (op : SetOperation) (parts : List String) : String :=
  v.join op (parts.map v.parenthesize)

theorem Dialect.nodeText_vocabulary (d : Dialect) {op : SetOperation} {parts : List String}
    (h : op.Admits parts.length) : d.vocabulary.nodeText op parts = d.nodeText op parts :=
  d.join_eq_chained h

/-! ## Texts of expressions -/

mutual

/-- `query` is the text of an expression if `queries` are those of its tags and `join` makes the
text of a node of those of its children. -/
inductive Stitched (join : SetOperation → List String → String) :
    Expression → List String → String → Prop where
  | tag (t : Tag) (q : String) : Stitched join (.ofTag t) [q] q
  | set (op : SetOperation) {cs : List Expression} {queries parts : List String} :
      StitchedAll join cs queries parts → Stitched join (.ofSet op cs) queries (join op parts)

/-- `parts` are the texts of expressions if `queries` are those of their tags. -/
inductive StitchedAll (join : SetOperation → List String → String) :
    List Expression → List String → List String → Prop where
  | nil : StitchedAll join [] [] []
  | cons {c : Expression} {cs : List Expression} {queries queries' parts : List String}
      {part : String} : Stitched join c queries part → StitchedAll join cs queries' parts →
        StitchedAll join (c :: cs) (queries ++ queries') (part :: parts)

end

variable {join : SetOperation → List String → String}

theorem StitchedAll.length_eq {cs : List Expression} {queries parts : List String}
    (h : StitchedAll join cs queries parts) : parts.length = cs.length := by
  induction cs generalizing queries parts with
  | nil =>
      cases h
      rfl
  | cons c cs ih =>
      cases h with
      | cons _ hcs => simp [ih hcs]

mutual

theorem Stitched.length_leaves : ∀ {e : Expression} {queries : List String}
    {query : String}, Stitched join e queries query → queries.length = e.leaves.length
  | _, _, _, .tag t q => by simp
  | _, _, _, .set op h => by simpa using h.length_leaves

theorem StitchedAll.length_leaves : ∀ {cs : List Expression}
    {queries parts : List String}, StitchedAll join cs queries parts →
      queries.length = (cs.flatMap Expression.leaves).length
  | _, _, _, .nil => by simp
  | _, _, _, .cons h hs => by
      rw [List.length_append, List.flatMap_cons, List.length_append, h.length_leaves,
        hs.length_leaves]

end

theorem Stitched.of_tag {t : Tag} {queries : List String} {query : String}
    (h : Stitched join (.ofTag t) queries query) : queries = [query] := by
  generalize he : Expression.ofTag t = e at h
  cases h with
  | tag t' => rfl
  | set op => exact absurd he (Expression.ofTag_ne_ofSet _ _ _)

theorem Stitched.of_set {op : SetOperation} {cs : List Expression}
    {queries : List String} {query : String} (hcs : cs ≠ [])
    (h : Stitched join (.ofSet op cs) queries query) :
    ∃ parts, StitchedAll join cs queries parts ∧ query = join op parts := by
  generalize he : Expression.ofSet op cs = e at h
  cases h with
  | tag t => exact absurd he.symm (Expression.ofTag_ne_ofSet _ _ _)
  | set op' hall =>
      obtain ⟨rfl, rfl⟩ := Expression.ofSet_inj hcs he
      exact ⟨_, hall, rfl⟩

theorem StitchedAll.of_cons {c : Expression} {cs : List Expression}
    {queries parts : List String} (h : StitchedAll join (c :: cs) queries parts) :
    ∃ before after part rest, queries = before ++ after ∧ parts = part :: rest ∧
      Stitched join c before part ∧ StitchedAll join cs after rest := by
  cases h with
  | cons hc hcs => exact ⟨_, _, _, _, rfl, rfl, hc, hcs⟩

/-- Each child takes the queries of its tags from the front, as many as it has tags. -/
theorem StitchedAll.unique {cs : List Expression}
    (h : ∀ c ∈ cs, ∀ queries query query', Stitched join c queries query →
      Stitched join c queries query' → query = query')
    {queries parts parts' : List String} (hall : StitchedAll join cs queries parts)
    (hall' : StitchedAll join cs queries parts') : parts = parts' := by
  induction cs generalizing queries parts parts' with
  | nil =>
      cases hall
      cases hall'
      rfl
  | cons c cs ih =>
      obtain ⟨before, after, part, rest, rfl, rfl, hc, hcs⟩ := hall.of_cons
      obtain ⟨before', after', part', rest', heq, rfl, hc', hcs'⟩ := hall'.of_cons
      obtain ⟨rfl, rfl⟩ := List.append_inj heq (hc.length_leaves.trans hc'.length_leaves.symm)
      rw [h c (by simp) _ _ _ hc hc', ih (fun c hc => h c (by simp [hc])) hcs hcs']

theorem Stitched.unique {e : Expression} (hwf : e.WellFormed)
    {queries : List String} {query query' : String} (h : Stitched join e queries query)
    (h' : Stitched join e queries query') : query = query' := by
  induction hwf generalizing queries query query' with
  | tag t =>
      have heq := h.of_tag.symm.trans h'.of_tag
      simpa using heq
  | @set op cs hsize _ ih =>
      have hcs : cs ≠ [] := List.ne_nil_of_length_pos hsize.1
      obtain ⟨parts, hall, rfl⟩ := h.of_set hcs
      obtain ⟨parts', hall', rfl⟩ := h'.of_set hcs
      rw [StitchedAll.unique (fun c hc _ _ _ h h' => ih c hc h h') hall hall']

end Cohort
