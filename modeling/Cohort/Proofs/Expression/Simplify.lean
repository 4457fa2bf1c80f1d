import Cohort.Expression.Simplify
import Cohort.Proofs.Expression.Meaning

/-! # What simplifying preserves -/

namespace Cohort.Expression

variable {U : Type*}

/-! ## Equations -/

theorem simplifyAll_eq_map (cs : List Expression) : simplifyAll cs = cs.map simplify := by
  induction cs with
  | nil => rw [simplifyAll, List.map_nil]
  | cons c cs ih => rw [simplifyAll, ih, List.map_cons]

@[simp] theorem simplify_ofTag (t : Tag) : (ofTag t).simplify = ofTag t := by
  rw [ofTag, simplify]

theorem simplify_ofSet {op : SetOperation} {cs : List Expression} (hop : op ≠ .except)
    (hcs : cs ≠ []) :
    (ofSet op cs).simplify = combine op ((cs.map simplify).flatMap (partsUnder op)) := by
  cases op with
  | intersect => simp [ofSet, simplify, simplifyAll_eq_map, hcs]
  | union => simp [ofSet, simplify, simplifyAll_eq_map, hcs]
  | except => exact absurd rfl hop

theorem simplify_ofSet_except (cs : List Expression) :
    (ofSet .except cs).simplify = ofSet .except (cs.map simplify) := by
  simp [ofSet, simplify, simplifyAll_eq_map]

/-- A node that holds one operation and nothing else is that operation on its children. -/
theorem eq_ofSet_of_isPure {op : SetOperation} {e : Expression} (h : e.isPure op = true) :
    e = ofSet op (e.children op) ∧ e.children op ≠ [] := by
  obtain ⟨is, us, xs, tag⟩ := e
  cases op <;> cases is <;> cases us <;> cases xs <;> cases tag <;>
    simp_all [isPure, SetOperation.all, children, ofSet]

/-! ## Agreement -/

/-- `e'` may stand in the place of `e`: it is well formed, with the same tags in the same order and
the same users. -/
structure Agrees (users : Tag → Set U) (e' e : Expression) : Prop where
  wellFormed : e'.WellFormed
  leaves_eq : e'.leaves = e.leaves
  denote_eq : e'.denote users = e.denote users

/-- `parts` may stand in the place of `e` among the children of an operation. -/
structure Splits (users : Tag → Set U) (op : SetOperation) (parts : List Expression)
    (e : Expression) : Prop where
  ne_nil : parts ≠ []
  wellFormed : ∀ p ∈ parts, p.WellFormed
  leaves_eq : parts.flatMap leaves = e.leaves
  denote_eq : op.apply (parts.map (denote users)) = e.denote users

variable {users : Tag → Set U}

theorem WellFormed.of_mem_ofSet {op : SetOperation} {cs : List Expression}
    (h : (ofSet op cs).WellFormed) : ∀ c ∈ cs, c.WellFormed := by
  intro c hc
  rw [wellFormed_iff] at h ⊢
  exact fun n hn => h n (.child op (by simpa using hc) hn)

theorem Agrees.splits_partsUnder (op : SetOperation) {e' e : Expression}
    (h : Agrees users e' e) : Splits users op (e'.partsUnder op) e := by
  obtain ⟨hwf, hleaves, hdenote⟩ := h
  by_cases hpure : e'.isPure op = true
  · rw [partsUnder, if_pos hpure]
    obtain ⟨he, hne⟩ := eq_ofSet_of_isPure hpure
    rw [he] at hwf
    refine ⟨hne, hwf.of_mem_ofSet, ?_, ?_⟩
    · rw [← leaves_ofSet op, ← he, hleaves]
    · rw [← denote_ofSet users op hne, ← he, hdenote]
  · rw [partsUnder, if_neg hpure]
    exact ⟨by simp, by simpa using hwf, by simpa using hleaves, by simpa using hdenote⟩

/-- What may stand for each of several children stands, all together, for the node of them. Only
here does it count that the operation is associative. -/
theorem splits_flatMap {op : SetOperation} (hop : op ≠ .except) {cs : List Expression}
    (hcs : cs ≠ []) (parts : Expression → List Expression)
    (h : ∀ c ∈ cs, Splits users op (parts c) c) :
    Splits users op (cs.flatMap parts) (ofSet op cs) := by
  refine ⟨?_, ?_, ?_, ?_⟩
  · obtain ⟨c, hc⟩ := List.exists_mem_of_ne_nil cs hcs
    exact fun hnil => (h c hc).ne_nil (List.flatMap_eq_nil_iff.mp hnil c hc)
  · intro p hp
    obtain ⟨c, hc, hp⟩ := List.mem_flatMap.mp hp
    exact (h c hc).wellFormed p hp
  · rw [leaves_ofSet, List.flatMap_assoc]
    exact List.flatMap_congr fun c hc => (h c hc).leaves_eq
  · rw [denote_ofSet users op hcs, List.map_flatMap, List.flatMap_def,
      SetOperation.apply_flatten hop, List.map_map]
    congr 1
    exact List.map_congr_left fun c hc => (h c hc).denote_eq

/-- A single part stands for itself, several parts for the node of them. -/
theorem Splits.combine {op : SetOperation} (hop : op ≠ .except) {parts : List Expression}
    {e : Expression} (h : Splits users op parts e) : Agrees users (combine op parts) e := by
  obtain ⟨hne, hwf, hleaves, hdenote⟩ := h
  match parts, hne with
  | [p], _ =>
      change Agrees users p e
      exact ⟨by simpa using hwf, by simpa using hleaves, by simpa using hdenote⟩
  | p :: q :: rest, _ =>
      change Agrees users (ofSet op (p :: q :: rest)) e
      refine ⟨.set op ⟨by simp, fun h => absurd h hop⟩ hwf, by simpa using hleaves, ?_⟩
      rw [denote_ofSet users op (by simp)]
      exact hdenote

theorem agrees_ofSet_map {op : SetOperation} {cs : List Expression} (f : Expression → Expression)
    (hsize : op.Admits cs.length) (h : ∀ c ∈ cs, Agrees users (f c) c) :
    Agrees users (ofSet op (cs.map f)) (ofSet op cs) := by
  have hcs : cs ≠ [] := List.ne_nil_of_length_pos hsize.1
  refine ⟨.set op (by simpa using hsize) ?_, ?_, ?_⟩
  · intro p hp
    obtain ⟨c, hc, rfl⟩ := List.mem_map.mp hp
    exact (h c hc).wellFormed
  · rw [leaves_ofSet, leaves_ofSet, List.flatMap_map]
    exact List.flatMap_congr fun c hc => (h c hc).leaves_eq
  · rw [denote_ofSet users op (by simpa using hcs), denote_ofSet users op hcs, List.map_map]
    congr 1
    exact List.map_congr_left fun c hc => (h c hc).denote_eq

/-! ## Simplified expressions -/

theorem WellFormed.simplify_agrees (users : Tag → Set U) {e : Expression} (h : e.WellFormed) :
    Agrees users e.simplify e := by
  induction h with
  | tag t =>
      rw [simplify_ofTag]
      exact ⟨.tag t, rfl, rfl⟩
  | @set op cs hsize _ ih =>
      by_cases hop : op = .except
      · subst hop
        rw [simplify_ofSet_except]
        exact agrees_ofSet_map simplify hsize ih
      · have hcs : cs ≠ [] := List.ne_nil_of_length_pos hsize.1
        rw [simplify_ofSet hop hcs, List.flatMap_map]
        apply Splits.combine hop
        exact splits_flatMap hop hcs _ fun c hc => (ih c hc).splits_partsUnder op

/-- Simplifying an accepted expression gives an accepted one, with the same users whatever the users
of the tags are, and with the same tags in the same order. -/
theorem simplify_preserves_meaning (users : Tag → Set U) {e : Expression}
    (h : e.validate = .ok ()) :
    e.simplify.validate = .ok () ∧ e.simplify.denote users = e.denote users ∧
      e.simplify.leaves = e.leaves := by
  rw [validate_eq_ok_iff] at h ⊢
  obtain ⟨hwf, hleaves, hdenote⟩ := h.simplify_agrees users
  exact ⟨hwf, hdenote, hleaves⟩

/-- An expression that loses two levels: a union of one child hides an intersection below another,
and a tag. -/
def nested : Expression :=
  .ofSet .except [
    .ofSet .intersect [
      .ofTag ⟨"a", []⟩,
      .ofSet .union [.ofSet .intersect [.ofTag ⟨"b", []⟩, .ofTag ⟨"c", []⟩]]],
    .ofSet .union [.ofTag ⟨"d", []⟩]]

/-- Users that are given by the names of their tags. -/
def usersByName (t : Tag) : Set (List String) := {names | t.builderId ∈ names}

theorem simplify_nested :
    nested.simplify = .ofSet .except [
        .ofSet .intersect [.ofTag ⟨"a", []⟩, .ofTag ⟨"b", []⟩, .ofTag ⟨"c", []⟩],
        .ofTag ⟨"d", []⟩] ∧
      nested.simplify.validate = .ok () ∧
      nested.simplify.denote usersByName = nested.denote usersByName ∧
      nested.simplify.leaves = nested.leaves :=
  ⟨rfl, simplify_preserves_meaning usersByName rfl⟩

end Cohort.Expression
