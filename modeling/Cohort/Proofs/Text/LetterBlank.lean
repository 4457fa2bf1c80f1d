import Cohort.Text.Blank
import Cohort.Text.Letter
import Mathlib.Tactic.Common

/-! # Letters, digits and numbers are no white space

White space is a short list. Beyond ASCII what a letter is depends on the tables, none of which has
a range that meets the list.
-/

namespace Cohort.Text

/-! ## Looking up -/

namespace CodeSet

variable {α : Type} {entries : Array α} {key : α → Nat} {n : Nat} {e : α}

theorem mem_of_searchFrom {rounds low high : Nat} {found : Option α}
    (h : searchFrom entries key n rounds low high found = some e) :
    found = some e ∨ e ∈ entries ∧ key e ≤ n := by
  induction rounds generalizing low high found with
  | zero => exact .inl h
  | succ rounds ih =>
      rw [searchFrom] at h
      split at h
      · dsimp only at h
        split at h
        · exact .inl h
        · rename_i entry hentry
          split at h
          · rename_i hkey
            rcases ih h with hfound | hmem
            · obtain rfl := Option.some.inj hfound
              exact .inr ⟨Array.mem_of_getElem? hentry, hkey⟩
            · exact .inr hmem
          · exact ih h
      · exact .inl h

/-- What is found is an entry whose key is at most the one in question. -/
theorem mem_of_search (h : search entries key n = some e) : e ∈ entries ∧ key e ≤ n := by
  rcases mem_of_searchFrom h with hnone | hmem
  · cases hnone
  · exact hmem

end CodeSet

/-- A code point lies in a range of a written table. -/
def Listed (table : String) (n : Nat) : Prop :=
  ∃ r ∈ CodeSet.readRanges table, r.1 ≤ n ∧ n ≤ r.2

theorem listed_of_contains_read {table : String} {n : Nat}
    (h : (CodeSet.read table).contains n = true) : Listed table n := by
  unfold CodeSet.contains at h
  split at h
  · rename_i low high hsearch
    obtain ⟨hmem, hlow⟩ := CodeSet.mem_of_search hsearch
    rw [CodeSet.read, List.mem_toArray] at hmem
    exact ⟨(low, high), hmem, hlow, by simpa using h⟩
  · cases h

theorem mem_readRanges_of_mem_runs {e : Nat × Nat × Category} (h : e ∈ Category.runs) :
    (e.1, e.2.1) ∈ CodeSet.readRanges e.2.2.ranges := by
  rw [Category.runs, List.mem_toArray, List.mem_mergeSort, List.mem_flatMap] at h
  obtain ⟨k, -, h⟩ := h
  obtain ⟨r, hr, rfl⟩ := List.mem_map.mp h
  exact hr

theorem listed_ofRun {n : Nat} : ∀ {e : Option (Nat × Nat × Category)},
    (∀ x, e = some x → x.1 ≤ n ∧ (x.1, x.2.1) ∈ CodeSet.readRanges x.2.2.ranges) →
      Category.ofRun n e ≠ .cn → Listed (Category.ofRun n e).ranges n
  | none, _, h => absurd rfl h
  | some (low, high, k), he, h => by
      obtain ⟨hlow, hmem⟩ := he _ rfl
      by_cases hhigh : n ≤ high
      · simp only [Category.ofRun, hhigh, if_true]
        exact ⟨(low, high), hmem, hlow, hhigh⟩
      · simp [Category.ofRun, hhigh] at h

/-- The category of a character is one whose table lists it. -/
theorem listed_of_category {c : Char} (h : Category.of c ≠ .cn) :
    Listed (Category.of c).ranges c.toNat := by
  rw [Category.of] at h ⊢
  refine listed_ofRun (fun x hx => ?_) h
  obtain ⟨hmem, hlow⟩ := CodeSet.mem_of_search hx
  exact ⟨hlow, mem_readRanges_of_mem_runs hmem⟩

/-! ## White space beyond ASCII -/

/-- The runs of white space beyond ASCII. -/
def wideBlanks : List (Nat × Nat) :=
  [(0x85, 0x85), (0xA0, 0xA0), (0x1680, 0x1680), (0x2000, 0x200A), (0x2028, 0x2029),
    (0x202F, 0x202F), (0x205F, 0x205F), (0x3000, 0x3000)]

theorem mem_wideBlanks {c : Char} (h : isBlank c = true) (hc : 128 ≤ c.toNat) :
    ∃ b ∈ wideBlanks, b.1 ≤ c.toNat ∧ c.toNat ≤ b.2 := by
  simp only [isBlank, Bool.or_eq_true, Bool.and_eq_true, decide_eq_true_eq, beq_iff_eq] at h
  simp only [wideBlanks, List.mem_cons, List.not_mem_nil, or_false, exists_eq_or_imp,
    exists_eq_left]
  omega

/-- No range meets the white space beyond ASCII. -/
def clearOfBlanks (ranges : List (Nat × Nat)) : Bool :=
  ranges.all fun r => wideBlanks.all fun b => r.2 < b.1 || b.2 < r.1

theorem not_listed_of_clear {table : String} {cs : List Char} (hcs : table.toList = cs)
    (h : clearOfBlanks (CodeSet.readRangesFrom cs none none) = true) {c : Char}
    (hblank : isBlank c = true) (hc : 128 ≤ c.toNat) : ¬ Listed table c.toNat := by
  rintro ⟨r, hr, hlow, hhigh⟩
  obtain ⟨b, hb, hblow, hbhigh⟩ := mem_wideBlanks hblank hc
  rw [CodeSet.readRanges, hcs] at hr
  simp only [clearOfBlanks, List.all_eq_true, Bool.or_eq_true, decide_eq_true_eq] at h
  have hapart := h r hr b hb
  omega

section

-- The tables are read character by character, which takes a step for each of them.
set_option maxRecDepth 100000

variable {c : Char} (hblank : isBlank c = true) (hc : 128 ≤ c.toNat)

include hblank hc

theorem not_listed_of_letter {k : Category} (h : k.isLetter || k.isNumber) :
    ¬ Listed k.ranges c.toNat := by
  have hk : k ∈ [Category.lu, .ll, .lt, .lm, .lo, .nd, .nl, .no] := by
    cases k <;> simp_all [Category.isLetter, Category.isNumber]
  simp only [List.mem_cons, List.not_mem_nil, or_false] at hk
  rcases hk with rfl | rfl | rfl | rfl | rfl | rfl | rfl | rfl <;>
    exact not_listed_of_clear String.toList_ofList (by decide +kernel) hblank hc

theorem otherAlphabetic_contains : otherAlphabetic.contains c.toNat = false := by
  rw [Bool.eq_false_iff]
  intro h
  exact not_listed_of_clear String.toList_ofList (by decide +kernel) hblank hc
    (listed_of_contains_read h)

end

/-! ## Main result -/

theorem not_isAlphanumeric_of_isBlank {c : Char} (h : isBlank c = true) :
    isAlphanumeric c = false := by
  by_cases hc : c.toNat < 128
  · have hcode : c.toNat ∈ [9, 10, 11, 12, 13, 32] := by
      simp only [isBlank, Bool.or_eq_true, Bool.and_eq_true, decide_eq_true_eq, beq_iff_eq] at h
      simp only [List.mem_cons, List.not_mem_nil, or_false]
      omega
    have hnone : ∀ n ∈ [9, 10, 11, 12, 13, 32], isAlphanumeric (Char.ofNat n) = false := by
      decide +kernel
    simpa using hnone c.toNat hcode
  · have hwide := Nat.le_of_not_lt hc
    have hcategory : ((Category.of c).isLetter || (Category.of c).isNumber) = false := by
      rw [Bool.eq_false_iff]
      intro hk
      refine not_listed_of_letter h hwide hk (listed_of_category fun hcn => ?_)
      rw [hcn] at hk
      cases hk
    simp only [Bool.or_eq_false_iff] at hcategory
    have hnl : (Category.of c == .nl) = false := by
      rw [Bool.eq_false_iff]
      intro hk
      rw [eq_of_beq hk] at hcategory
      cases hcategory.2
    simp [isAlphanumeric, isAlphabetic, isNumeric, hc, hcategory.1, hcategory.2, hnl,
      otherAlphabetic_contains h hwide]

end Cohort.Text
