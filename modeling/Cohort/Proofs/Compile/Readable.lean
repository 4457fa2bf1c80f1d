import Cohort.Proofs.Compile.Sequential
import Cohort.Proofs.Document.Ordered
import Cohort.Proofs.Expression.Shape
import Cohort.Proofs.Text.Parentheses

/-! # Reading an expression back from the text of its query

The queries of tags may hold parentheses and the words of operations themselves. What tells the
parts of a set query apart is where the parentheses around them close.
-/

namespace Cohort

open List (Forall₂)
open Text (Balanced)

/-! ## Set queries -/

/-- What stands behind the first part of a set query. -/
def Dialect.behind (word : String) : List String → List Char
  | [] => []
  | q :: rest => ' ' :: (word.toList ++ ' ' :: (chained word (q :: rest)).toList)

theorem Dialect.toList_chained_cons (word q : String) (rest : List String) :
    (chained word (q :: rest)).toList = '(' :: (q.toList ++ ')' :: behind word rest) := by
  cases rest with
  | nil => simp [chained, behind]
  | cons q' rest => simp [chained, behind]

theorem Dialect.not_mem_word (d : Dialect) (op : SetOperation) :
    '(' ∉ (d.word op).toList ∧ ')' ∉ (d.word op).toList := by
  cases d <;> cases op <;> decide

theorem Dialect.word_inj {d : Dialect} {op op' : SetOperation} (h : d.word op = d.word op') :
    op = op' := by
  cases d <;> cases op <;> cases op' <;> first | rfl | exact absurd h (by decide)

theorem Dialect.balanced_chained {word : String}
    (hword : '(' ∉ word.toList ∧ ')' ∉ word.toList) {parts : List String}
    (h : ∀ q ∈ parts, Balanced q.toList) : Balanced (chained word parts).toList := by
  induction parts with
  | nil => exact Text.balanced_of_not_mem (by simp [chained]) (by simp [chained])
  | cons q rest ih =>
      have hq : Balanced ('(' :: (q.toList ++ [')'])) := (h q (by simp)).parenthesize
      have hrest := ih fun p hp => h p (by simp [hp])
      cases rest with
      | nil => simpa [chained] using hq
      | cons q' rest =>
          have hgap : Balanced (' ' :: (word.toList ++ [' '])) :=
            Text.balanced_of_not_mem (by simp [hword.1]) (by simp [hword.2])
          rw [toList_chained_cons, behind]
          simpa using hq.append (hgap.append hrest)

/-- Each part ends where its parenthesis closes, and the word goes up to the next that opens. -/
theorem Dialect.chained_inj {word word' : String} (hword : '(' ∉ word.toList)
    (hword' : '(' ∉ word'.toList) {parts parts' : List String} (hne : parts ≠ [])
    (hne' : parts' ≠ []) (hparts : ∀ q ∈ parts, Balanced q.toList)
    (hparts' : ∀ q ∈ parts', Balanced q.toList) (h : chained word parts = chained word' parts') :
    parts = parts' ∧ (2 ≤ parts.length → word = word') := by
  induction parts generalizing parts' with
  | nil => exact absurd rfl hne
  | cons q rest ih =>
      obtain ⟨q', rest', rfl⟩ := List.exists_cons_of_ne_nil hne'
      have htext := congrArg String.toList h
      rw [toList_chained_cons, toList_chained_cons] at htext
      obtain ⟨hq, hbehind⟩ :=
        (hparts q (by simp)).append_inj (hparts' q' (by simp)) (List.cons.inj htext).2
      obtain rfl := String.toList_inj.mp hq
      cases rest with
      | nil =>
          cases rest' with
          | nil => exact ⟨rfl, fun hlarge => absurd hlarge (by simp)⟩
          | cons p' rest' => simp [behind] at hbehind
      | cons p rest =>
          cases rest' with
          | nil => simp [behind] at hbehind
          | cons p' rest' =>
              rw [behind, behind, toList_chained_cons, toList_chained_cons, List.cons_inj_right,
                List.append_cons word.toList, List.append_cons word'.toList] at hbehind
              obtain ⟨hwords, hopened⟩ :=
                Text.append_open_inj (by simp [hword]) (by simp [hword']) hbehind
              obtain rfl : word = word' := String.toList_inj.mp (by simpa using hwords)
              have hrest : chained word (p :: rest) = chained word (p' :: rest') := by
                rw [← String.toList_inj, toList_chained_cons, toList_chained_cons, hopened]
              obtain ⟨hsame, -⟩ := ih (by simp) (by simp)
                (fun r hr => hparts r (List.mem_cons_of_mem _ hr))
                (fun r hr => hparts' r (List.mem_cons_of_mem _ hr)) hrest
              exact ⟨by rw [hsame], fun _ => rfl⟩

/-! ## Expressions -/

/-- A query of a tag that cannot be taken for a set query: its parentheses come in pairs, and it
does not begin with one. -/
structure PlainQuery (query : String) : Prop where
  balanced : Balanced query.toList
  head?_ne : query.toList.head? ≠ some '('

variable {d : Dialect}

mutual

theorem Stitched.balanced : ∀ {e : Expression} {queries : List String} {query : String},
    Stitched d.nodeText e queries query → (∀ q ∈ queries, PlainQuery q) → Balanced query.toList
  | _, _, _, .tag t q, hplain => (hplain q (by simp)).balanced
  | _, _, _, .set op h, hplain => Dialect.balanced_chained (d.not_mem_word op) (h.balanced hplain)

theorem StitchedAll.balanced : ∀ {cs : List Expression} {queries parts : List String},
    StitchedAll d.nodeText cs queries parts → (∀ q ∈ queries, PlainQuery q) →
      ∀ part ∈ parts, Balanced part.toList
  | _, _, _, .nil, _ => by simp
  | _, _, _, .cons h hs, hplain => by
      rw [List.forall_mem_append] at hplain
      exact List.forall_mem_cons.mpr ⟨h.balanced hplain.1, hs.balanced hplain.2⟩

end

theorem StitchedAll.inj {cs cs' : List Expression}
    (h : ∀ c ∈ cs, ∀ c' ∈ cs', ∀ queries queries' query,
      (∀ q ∈ queries, PlainQuery q) → (∀ q ∈ queries', PlainQuery q) →
        Stitched d.nodeText c queries query → Stitched d.nodeText c' queries' query →
          SameShape c.simplify c'.simplify ∧ queries = queries')
    {queries queries' parts : List String} (hplain : ∀ q ∈ queries, PlainQuery q)
    (hplain' : ∀ q ∈ queries', PlainQuery q) (hall : StitchedAll d.nodeText cs queries parts)
    (hall' : StitchedAll d.nodeText cs' queries' parts) :
    Forall₂ (fun c c' => SameShape c.simplify c'.simplify) cs cs' ∧ queries = queries' := by
  induction cs generalizing cs' queries queries' parts with
  | nil =>
      cases hall
      cases hall'
      exact ⟨.nil, rfl⟩
  | cons c cs ih =>
      obtain ⟨before, after, part, rest, rfl, rfl, hc, hcs⟩ := hall.of_cons
      cases hall' with
      | @cons c' cs' before' after' _ _ hc' hcs' =>
          rw [List.forall_mem_append] at hplain hplain'
          obtain ⟨hshape, rfl⟩ := h c (by simp) c' (by simp) _ _ _ hplain.1 hplain'.1 hc hc'
          obtain ⟨hshapes, rfl⟩ := ih
            (fun c hc c' hc' => h c (by simp [hc]) c' (by simp [hc'])) hplain.2 hplain'.2 hcs hcs'
          exact ⟨.cons hshape hshapes, rfl⟩

/-- A set query begins with a parenthesis, the plain query of a tag does not. -/
theorem Dialect.not_plainQuery_nodeText {op : SetOperation} {parts : List String}
    (h : parts ≠ []) : ¬ PlainQuery (d.nodeText op parts) := by
  intro hplain
  obtain ⟨q, rest, rfl⟩ := List.exists_cons_of_ne_nil h
  exact hplain.head?_ne (by rw [nodeText, toList_chained_cons]; rfl)

/-- The text of a query tells the shape of the simplified expression and the queries of its tags. -/
theorem Stitched.inj {e e' : Expression} (hwf : e.WellFormed) (hwf' : e'.WellFormed)
    {queries queries' : List String} {query : String} (hplain : ∀ q ∈ queries, PlainQuery q)
    (hplain' : ∀ q ∈ queries', PlainQuery q) (h : Stitched d.nodeText e queries query)
    (h' : Stitched d.nodeText e' queries' query) :
    SameShape e.simplify e'.simplify ∧ queries = queries' := by
  induction hwf generalizing e' queries queries' query with
  | tag t =>
      obtain rfl := h.of_tag
      cases hwf' with
      | tag t' =>
          obtain rfl := h'.of_tag
          rw [Expression.simplify_ofTag, Expression.simplify_ofTag]
          exact ⟨.tag t t', rfl⟩
      | @set op' cs' hsize' _ =>
          obtain ⟨parts', hall', rfl⟩ := h'.of_set (List.ne_nil_of_length_pos hsize'.1)
          have hparts' : parts' ≠ [] := List.ne_nil_of_length_pos (hall'.length_eq ▸ hsize'.1)
          exact absurd (hplain _ (List.mem_singleton_self _))
            (Dialect.not_plainQuery_nodeText hparts')
  | @set op cs hsize hcs ih =>
      obtain ⟨parts, hall, rfl⟩ := h.of_set (List.ne_nil_of_length_pos hsize.1)
      have hparts : parts ≠ [] := List.ne_nil_of_length_pos (hall.length_eq ▸ hsize.1)
      cases hwf' with
      | tag t' =>
          obtain rfl := h'.of_tag
          exact absurd (hplain' _ (List.mem_singleton_self _))
            (Dialect.not_plainQuery_nodeText hparts)
      | @set op' cs' hsize' hcs' =>
          obtain ⟨parts', hall', heq⟩ := h'.of_set (List.ne_nil_of_length_pos hsize'.1)
          have hparts' : parts' ≠ [] := List.ne_nil_of_length_pos (hall'.length_eq ▸ hsize'.1)
          obtain ⟨rfl, hword⟩ := Dialect.chained_inj (d.not_mem_word op).1 (d.not_mem_word op').1
            hparts hparts' (hall.balanced hplain) (hall'.balanced hplain') heq
          obtain ⟨hshapes, rfl⟩ := hall.inj
            (fun c hc c' hc' _ _ _ hp hp' hs hs' => ih c hc (hcs' c' hc') hp hp' hs hs')
            hplain hplain' hall'
          refine ⟨sameShape_simplify_ofSet hsize hsize' (fun hlarge => ?_) hshapes, rfl⟩
          exact Dialect.word_inj (hword (hall.length_eq ▸ hlarge))

/-! ## Compiled expressions -/

theorem BuiltInOrder.forall_query {registry : Registry} {ctx : Context} {P : String → Prop}
    {k : Nat} {tags : List Tag} {sqls : List Sql}
    (h : ∀ t ∈ tags, ∀ ctx sql, t.build registry ctx = .ok sql → P sql.query)
    (hbuilt : BuiltInOrder registry ctx k tags sqls) : ∀ sql ∈ sqls, P sql.query := by
  intro sql hsql
  obtain ⟨j, hj, rfl⟩ := List.getElem_of_mem hsql
  have hj' : j < tags.length := hbuilt.length_eq ▸ hj
  exact h _ (List.getElem_mem hj') _ _ (hbuilt.build_eq j hj' hj)

section

variable {registry : Registry} {ctx : Context}

theorem Expression.WellFormed.stitched_compile {e : Expression} (h : e.WellFormed) {sql : Sql}
    (hok : e.compile registry d ctx = .ok sql) :
    ∃ sqls, BuiltInOrder registry ctx ctx.argOffset e.leaves sqls ∧
      Stitched d.nodeText e (sqls.map Sql.query) sql.query := by
  have hpass : OnePass registry d.nodeText ctx ctx.argOffset e (e.compile registry d ctx) :=
    h.onePass_compile fun _ _ hsize => d.nodeText_vocabulary hsize
  rw [hok] at hpass
  cases hpass with
  | ok hbuilt hquery => exact ⟨_, hbuilt, hquery⟩

/-- An expression and its simplified form do not differ where only their tags and what they are
simplified to count. -/
theorem Expression.WellFormed.simplify_or_self {e x : Expression} (h : e.WellFormed)
    (hx : x = e.simplify ∨ x = e) :
    x.WellFormed ∧ x.leaves = e.simplify.leaves ∧ x.simplify = e.simplify := by
  -- The users of the tags do not matter here.
  have hagrees := h.simplify_agrees fun _ => (∅ : Set Empty)
  obtain rfl | rfl := hx
  · exact ⟨hagrees.wellFormed, rfl, (Expression.normal_simplify e).simplify_eq⟩
  · exact ⟨h, hagrees.leaves_eq.symm, rfl⟩

/-- Two accepted expressions, each compiled as it is or simplified, whose texts are equal have one
shape once they are simplified, and from left to right the queries of their tags are the same. The
queries of tags are any text with parentheses in pairs and none in front. -/
theorem compile_unambiguous (registry : Registry) (d : Dialect) (ctx : Context)
    (e₁ e₂ : Expression) {x₁ x₂ : Expression} (h₁ : e₁.validate = .ok ())
    (h₂ : e₂.validate = .ok ()) (hx₁ : x₁ = e₁.simplify ∨ x₁ = e₁)
    (hx₂ : x₂ = e₂.simplify ∨ x₂ = e₂)
    (hplain₁ : ∀ sqls, BuiltInOrder registry ctx ctx.argOffset x₁.leaves sqls →
      ∀ sql ∈ sqls, PlainQuery sql.query)
    (hplain₂ : ∀ sqls, BuiltInOrder registry ctx ctx.argOffset x₂.leaves sqls →
      ∀ sql ∈ sqls, PlainQuery sql.query)
    {sql₁ sql₂ : Sql} (hok₁ : x₁.compile registry d ctx = .ok sql₁)
    (hok₂ : x₂.compile registry d ctx = .ok sql₂) (htext : sql₁.query = sql₂.query) :
    SameShape e₁.simplify e₂.simplify ∧ ∃ sqls₁ sqls₂,
      BuiltInOrder registry ctx ctx.argOffset e₁.simplify.leaves sqls₁ ∧
      BuiltInOrder registry ctx ctx.argOffset e₂.simplify.leaves sqls₂ ∧
      sqls₁.map Sql.query = sqls₂.map Sql.query := by
  rw [Expression.validate_eq_ok_iff] at h₁ h₂
  obtain ⟨hwf₁, hleaves₁, hsimplify₁⟩ := h₁.simplify_or_self hx₁
  obtain ⟨hwf₂, hleaves₂, hsimplify₂⟩ := h₂.simplify_or_self hx₂
  obtain ⟨sqls₁, hbuilt₁, hstitched₁⟩ := hwf₁.stitched_compile hok₁
  obtain ⟨sqls₂, hbuilt₂, hstitched₂⟩ := hwf₂.stitched_compile hok₂
  have hqueries₁ : ∀ q ∈ sqls₁.map Sql.query, PlainQuery q :=
    List.forall_mem_map.mpr (hplain₁ sqls₁ hbuilt₁)
  have hqueries₂ : ∀ q ∈ sqls₂.map Sql.query, PlainQuery q :=
    List.forall_mem_map.mpr (hplain₂ sqls₂ hbuilt₂)
  rw [htext] at hstitched₁
  obtain ⟨hshape, hsame⟩ := hstitched₁.inj hwf₁ hwf₂ hqueries₁ hqueries₂ hstitched₂
  rw [hsimplify₁, hsimplify₂] at hshape
  rw [hleaves₁] at hbuilt₁
  rw [hleaves₂] at hbuilt₂
  exact ⟨hshape, sqls₁, sqls₂, hbuilt₁, hbuilt₂, hsame⟩

end

/-- A registry of builders whose query looks like that of a set. -/
def setLike : Registry where
  builders := ["a", "b", "c"].map fun id =>
    .sql ⟨⟨id, id, "", "", none⟩, fun _ _ => .ok ⟨"SELECT (1) UNION (2)", [.str id]⟩⟩

theorem plainQuery_setLike {tags : List Tag} {ctx : Context} {k : Nat} {sqls : List Sql}
    (hbuilt : BuiltInOrder setLike ctx k tags sqls) : ∀ sql ∈ sqls, PlainQuery sql.query := by
  refine hbuilt.forall_query fun t _ ctx sql hbuild => ?_
  rw [Tag.build] at hbuild
  cases hb : setLike.builder? t.builderId with
  | none =>
      rw [hb] at hbuild
      cases hbuild
  | some b =>
      have hmem : b ∈ setLike.builders := Fields.mem_of_get?_byKey Builder.id hb
      obtain ⟨id, -, rfl⟩ := List.mem_map.mp hmem
      rw [hb] at hbuild
      cases hbuild
      exact (⟨by decide, by decide⟩ : PlainQuery "SELECT (1) UNION (2)")

theorem compile_unambiguous_setLike :
    SameShape (.ofSet .union [.ofTag ⟨"a", []⟩, .ofTag ⟨"b", []⟩])
      (.ofSet .union [.ofTag ⟨"c", []⟩, .ofTag ⟨"a", []⟩]) := by
  have h := compile_unambiguous setLike .bigQuery .background
    (.ofSet .union [.ofTag ⟨"a", []⟩, .ofTag ⟨"b", []⟩])
    (.ofSet .union [.ofTag ⟨"c", []⟩, .ofSet .intersect [.ofTag ⟨"a", []⟩]]) rfl rfl
    (.inl rfl) (.inl rfl) (fun _ => plainQuery_setLike) (fun _ => plainQuery_setLike) rfl rfl rfl
  exact h.1

end Cohort
