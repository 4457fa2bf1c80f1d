import Cohort.Value.Text
import Mathlib.Data.List.Basic

/-! # Lists that are written with commas -/

namespace Cohort

namespace Text

theorem splitFrom_singleton (sep : Char) (piece s : List Char) :
    splitFrom [sep] 0 piece s = s.splitOnPPrepend (· == sep) piece := by
  induction s generalizing piece with
  | nil => simp [splitFrom]
  | cons c s ih =>
      rw [splitFrom, List.splitOnPPrepend_cons_eq_if]
      by_cases h : sep = c
      · subst h
        simp [dropPrefix?, ih]
      · simp [dropPrefix?, h, Ne.symm h, ih]

theorem split_singleton (sep : Char) (s : List Char) : split [sep] s = s.splitOn sep := by
  rw [split, List.isEmpty_cons, if_neg Bool.false_ne_true, splitFrom_singleton,
    List.splitOn_eq_splitOnP, List.splitOnP_eq_splitOnPPrepend]

theorem trim_append {gap : List Char} (h : gap.all isBlank = true) (s : List Char) :
    trim (gap ++ s) = trim s := by
  rw [trim, trimWhile, List.dropWhile_append_of_pos (List.all_eq_true.mp h)]
  rfl

/-- What follows a separator may as well stand before each text but the first. -/
theorem intercalate_append (sep gap s : List Char) (rest : List (List Char)) :
    List.intercalate (sep ++ gap) (s :: rest) =
      List.intercalate sep (s :: rest.map (gap ++ ·)) := by
  induction rest generalizing s with
  | nil => simp
  | cons t rest ih =>
      have hpull : List.intercalate sep ((gap ++ t) :: rest.map (gap ++ ·)) =
          gap ++ List.intercalate sep (t :: rest.map (gap ++ ·)) := by
        cases rest <;> simp [List.intercalate_cons_cons]
      rw [List.intercalate_cons_cons, ih, List.map_cons, List.intercalate_cons_cons, hpull]
      simp only [List.append_assoc]

end Text

namespace Value

/-- A text that can be an item of a list that is written with commas. -/
structure IsItem (s : String) : Prop where
  comma : ',' ∉ s.toList
  trim : Text.trim s.toList = s.toList

theorem splitList_of_ne_empty {s : String} (h : s ≠ "") :
    splitList s = (s.toList.splitOn ',').map fun item => String.ofList (Text.trim item) := by
  rw [splitList, Text.split_singleton]
  simp [h]

/-- Items are read back from the text that joins them with commas, with white space behind each
comma or without. The one item that is lost is an empty one that stands alone. -/
theorem splitList_intercalate {items : List String} {gap : String}
    (hitems : ∀ s ∈ items, IsItem s) (hgap : gap.toList.all Text.isBlank = true)
    (hne : items ≠ [""]) : splitList (String.intercalate ("," ++ gap) items) = items := by
  cases items with
  | nil => rfl
  | cons s rest =>
      have hnonempty : String.intercalate ("," ++ gap) (s :: rest) ≠ "" := by
        cases rest with
        | nil => simpa using hne
        | cons t rest => simp [String.intercalate_cons_cons]
      have hcomma : ∀ piece ∈ s.toList :: (rest.map String.toList).map (gap.toList ++ ·),
          ',' ∉ piece := by
        rw [List.forall_mem_cons] at hitems ⊢
        refine ⟨hitems.1.comma, fun piece hpiece hmem => ?_⟩
        obtain ⟨t, ht, rfl⟩ : ∃ t ∈ rest, gap.toList ++ t.toList = piece := by
          simpa using hpiece
        rcases List.mem_append.mp hmem with hmem | hmem
        · exact absurd (List.all_eq_true.mp hgap _ hmem) (by decide)
        · exact (hitems.2 t ht).comma hmem
      have htrim : ∀ t ∈ s :: rest, String.ofList (Text.trim t.toList) = t := by
        intro t ht
        rw [(hitems t ht).trim, String.ofList_toList]
      rw [splitList_of_ne_empty hnonempty, String.toList_intercalate, String.toList_append,
        List.map_cons, Text.intercalate_append]
      change List.map _ (List.splitOn ',' (List.intercalate [','] _)) = _
      rw [List.splitOn_intercalate ',' hcomma (List.cons_ne_nil _ _)]
      simp only [List.map_cons, List.map_map]
      rw [htrim s List.mem_cons_self]
      congr 1
      refine (List.map_congr_left fun t ht => ?_).trans (List.map_id rest)
      simp only [Function.comp_apply, Text.trim_append hgap, id_eq]
      exact htrim t (List.mem_cons_of_mem _ ht)

end Value

end Cohort
