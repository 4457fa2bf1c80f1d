import Cohort.Proofs.Expression.WellFormed
import Mathlib.Data.Set.Basic

/-! # What expressions denote -/

namespace Cohort

variable {U : Type*}

/-- The users that an operation takes from those of its children. -/
def SetOperation.apply (op : SetOperation) (sets : List (Set U)) : Set U :=
  match op, sets with
  | .intersect, _ => {u | ∀ s ∈ sets, u ∈ s}
  | .union, _ => {u | ∃ s ∈ sets, u ∈ s}
  | .except, [] => ∅
  | .except, first :: others => {u | u ∈ first ∧ ∀ s ∈ others, u ∉ s}

namespace SetOperation

@[simp] theorem apply_singleton (op : SetOperation) (s : Set U) : op.apply [s] = s := by
  cases op <;> simp [apply]

/-- Intersection and union are associative over lists of lists. -/
theorem apply_flatten {op : SetOperation} (h : op ≠ .except) (ls : List (List (Set U))) :
    op.apply ls.flatten = op.apply (ls.map op.apply) := by
  cases op with
  | intersect =>
      ext u
      simp only [apply, Set.mem_ofPred_eq, List.mem_flatten, List.mem_map]
      constructor
      · rintro hu _ ⟨l, hl, rfl⟩ s hs
        exact hu s ⟨l, hl, hs⟩
      · rintro hu s ⟨l, hl, hs⟩
        exact hu _ ⟨l, hl, rfl⟩ s hs
  | union =>
      ext u
      simp only [apply, Set.mem_ofPred_eq, List.mem_flatten, List.mem_map]
      constructor
      · rintro ⟨s, ⟨l, hl, hs⟩, hu⟩
        exact ⟨_, ⟨l, hl, rfl⟩, s, hs, hu⟩
      · rintro ⟨_, ⟨l, hl, rfl⟩, s, hs, hu⟩
        exact ⟨s, ⟨l, hl, hs⟩, hu⟩
  | except => exact absurd rfl h

end SetOperation

namespace Expression

/-! ## Leaves -/

mutual

/-- The tags of an expression from left to right. -/
def leaves : Expression → List Tag
  | ⟨intersect, union, except, tag⟩ =>
    leavesOf intersect ++ leavesOf union ++ leavesOf except ++ tag.toList

/-- The tags of expressions. -/
def leavesOf : List Expression → List Tag
  | [] => []
  | e :: rest => e.leaves ++ leavesOf rest

end

theorem leavesOf_eq_flatMap (cs : List Expression) : leavesOf cs = cs.flatMap leaves := by
  induction cs with
  | nil => rw [leavesOf, List.flatMap_nil]
  | cons c cs ih => rw [leavesOf, ih, List.flatMap_cons]

@[simp] theorem leaves_ofTag (t : Tag) : (ofTag t).leaves = [t] := by
  simp [ofTag, leaves, leavesOf]

@[simp] theorem leaves_ofSet (op : SetOperation) (cs : List Expression) :
    (ofSet op cs).leaves = cs.flatMap leaves := by
  cases op <;> simp [ofSet, leaves, leavesOf_eq_flatMap]

/-! ## Denotation -/

mutual

/-- The users that an expression denotes, if `users` tells those of each tag. -/
def denote (users : Tag → Set U) : Expression → Set U
  | ⟨_, _, _, some t⟩ => users t
  | ⟨intersect, union, except, none⟩ =>
    if !intersect.isEmpty then SetOperation.intersect.apply (denoteAll users intersect)
    else if !union.isEmpty then SetOperation.union.apply (denoteAll users union)
    else SetOperation.except.apply (denoteAll users except)

/-- The users of each expression. -/
def denoteAll (users : Tag → Set U) : List Expression → List (Set U)
  | [] => []
  | e :: rest => e.denote users :: denoteAll users rest

end

theorem denoteAll_eq_map (users : Tag → Set U) (cs : List Expression) :
    denoteAll users cs = cs.map (denote users) := by
  induction cs with
  | nil => rw [denoteAll, List.map_nil]
  | cons c cs ih => rw [denoteAll, ih, List.map_cons]

@[simp] theorem denote_ofTag (users : Tag → Set U) (t : Tag) :
    (ofTag t).denote users = users t := by
  rw [ofTag, denote]

theorem denote_ofSet (users : Tag → Set U) (op : SetOperation) {cs : List Expression}
    (h : cs ≠ []) : (ofSet op cs).denote users = op.apply (cs.map (denote users)) := by
  cases op <;> simp [ofSet, denote, denoteAll_eq_map, h]

end Expression

end Cohort
