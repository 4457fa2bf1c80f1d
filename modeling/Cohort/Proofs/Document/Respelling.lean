import Cohort.Proofs.Document.Ordered
import Mathlib.Data.List.Nodup

/-! # Other spellings of records

A record is read of its known fields. It makes no difference in which order they are written, what
else is written among them, and whether null is written where a field is left out that has a default.
-/

namespace Cohort.Document

variable {names : List String} {optional : String → Prop} {fields fields' : Fields Document}
  {name key : String} {d d' : Document}

/-- The fields of a record with some names. -/
abbrev known (names : List String) (fields : Fields Document) : Fields Document :=
  fields.filter fun entry => names.contains entry.1

/-- The fields of a record are spelled another way: in another order, with one more that is not known,
or with null in one that was left out and may be. -/
inductive RespellsFields (names : List String) (optional : String → Prop) :
    Fields Document → Fields Document → Prop where
  | order {fields fields' : Fields Document} (h : fields.Perm fields') :
      RespellsFields names optional fields fields'
  | unknown (before after : Fields Document) (name : String) (hname : name ∉ names) (d : Document) :
      RespellsFields names optional (before ++ after) (before ++ (name, d) :: after)
  | null (before after : Fields Document) (name : String) (hname : optional name)
      (habsent : name ∉ (before ++ after).map Prod.fst) :
      RespellsFields names optional (before ++ after) (before ++ (name, .null) :: after)

theorem get?_known (hname : name ∈ names) (fields : Fields Document) :
    (known names fields).get? name = fields.get? name :=
  Fields.get?_filter (fun _ => by simpa using hname) fields

theorem RespellsFields.namedOnce_eq (h : RespellsFields names optional fields fields') :
    namedOnce (known names fields') = namedOnce (known names fields) := by
  rw [Bool.eq_iff_iff, namedOnce_iff, namedOnce_iff]
  cases h with
  | order h => exact ((h.filter _).map Prod.fst).nodup_iff.symm
  | unknown before after name hname d => simp [known, List.filter_append, hname]
  | null before after name hname habsent =>
      have hfresh : name ∉ (known names (before ++ after)).map Prod.fst := fun hmem =>
        habsent ((List.filter_sublist.map Prod.fst).subset hmem)
      rw [known, List.filter_append, List.map_append] at hfresh
      simp only [known, List.filter_append, List.filter_cons, List.map_append]
      split
      · rw [List.map_cons, List.nodup_middle, List.nodup_cons]
        exact and_iff_right hfresh
      · rfl

/-- What stands under a known name stays, unless it was left out and is null now. -/
theorem RespellsFields.get? (h : RespellsFields names optional fields fields')
    (honce : namedOnce (known names fields) = true) (hname : name ∈ names) :
    fields'.get? name = fields.get? name ∨
      optional name ∧ fields.get? name = none ∧ fields'.get? name = some .null := by
  cases h with
  | order h =>
      left
      rw [← get?_known hname fields, ← get?_known hname fields']
      exact Fields.get?_perm (h.filter _) (namedOnce_iff.mp honce) name
  | unknown before after key hother d =>
      left
      rw [Fields.get?_middle, if_neg]
      rintro rfl
      exact hother hname
  | null before after key hoptional habsent =>
      by_cases hkey : name = key
      · subst hkey
        have hnone : Fields.get? (before ++ after) name = none := Fields.get?_eq_none habsent
        have hbefore : Fields.get? before name = none := by
          rw [List.map_append, List.mem_append, not_or] at habsent
          exact Fields.get?_eq_none habsent.1
        refine .inr ⟨hoptional, hnone, ?_⟩
        rw [Fields.get?_middle, if_pos rfl, hbefore, Option.none_or]
      · left
        rw [Fields.get?_middle, if_neg hkey]

section

variable {α : Type} {part : Document → Option α} {default : α}

theorem RespellsFields.fieldOr?_eq (h : RespellsFields names optional fields fields')
    (honce : namedOnce (known names fields) = true) (hname : name ∈ names)
    (hnull : optional name → part .null = some default) :
    fieldOr? fields' name part default = fieldOr? fields name part default := by
  rcases h.get? honce hname with heq | ⟨hoptional, hnone, hsome⟩
  · rw [fieldOr?, heq, fieldOr?]
  · rw [fieldOr?, hsome, fieldOr?, hnone]
    exact hnull hoptional

theorem RespellsFields.field?_eq (h : RespellsFields names optional fields fields')
    (honce : namedOnce (known names fields) = true) (hname : name ∈ names)
    (hrequired : ¬ optional name) : field? fields' name part = field? fields name part := by
  rcases h.get? honce hname with heq | ⟨hoptional, -⟩
  · rw [field?, heq, field?]
  · exact absurd hoptional hrequired

theorem fieldOr?_cons_of_ne (h : name ≠ key) (d : Document) (rest : Fields Document) :
    fieldOr? ((key, d) :: rest) name part default = fieldOr? rest name part default := by
  rw [fieldOr?, fieldOr?, Fields.get?, List.lookup_cons, beq_eq_false_iff_ne.mpr h]
  rfl

/-- One field is exchanged for another that reads the same. -/
theorem fieldOr?_exchange (before after : Fields Document) (h : name = key → part d' = part d) :
    fieldOr? (before ++ (key, d') :: after) name part default =
      fieldOr? (before ++ (key, d) :: after) name part default := by
  rw [fieldOr?, fieldOr?, Fields.get?_middle, Fields.get?_middle]
  by_cases heq : name = key
  · rw [if_pos heq, if_pos heq]
    cases Fields.get? before name with
    | some b => rfl
    | none => exact h heq
  · rw [if_neg heq, if_neg heq]

theorem namedOnce_exchange (before after : Fields Document) :
    namedOnce (known names (before ++ (key, d') :: after)) =
      namedOnce (known names (before ++ (key, d) :: after)) := by
  rw [Bool.eq_iff_iff, namedOnce_iff, namedOnce_iff]
  simp only [known, List.filter_append, List.filter_cons, List.map_append]
  split <;> rfl

end

end Cohort.Document
