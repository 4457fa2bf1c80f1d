import Cohort.Proofs.Document.Ordered
import Cohort.Proofs.Number.Rounding
import Cohort.Value.Equality
import Mathlib.Data.List.Nodup
import Mathlib.Data.List.Perm.Subperm

/-! # When values are the same

Every value is the same as itself, and which of two values comes first makes no difference. Two
values that are the same as a third are the same as each other, unless they hold at some place two
different integers, and the third the number to which both are rounded.
-/

namespace Cohort

/-! ## Numbers -/

namespace Number

variable {a b c : Number}

/-- Numbers are the same if they are rounded to the same number and are not two integers. -/
theorem sameValue_iff :
    a.sameValue b = true ↔
      a.toUnits = b.toUnits ∧ ∀ m n, a = .int m → b = .int n → ¬ Merged m n := by
  cases a with
  | float x => simp [sameValue]
  | int m =>
      cases b with
      | float y => simp [sameValue]
      | int n =>
          simp only [sameValue, beq_iff_eq]
          constructor
          · rintro rfl
            refine ⟨rfl, ?_⟩
            rintro _ _ ⟨⟩ ⟨⟩ hmerged
            exact hmerged.1 rfl
          · rintro ⟨hunits, hmerged⟩
            by_contra hne
            exact hmerged m n rfl rfl ⟨hne, hunits⟩

theorem sameValue_self (a : Number) : a.sameValue a = true := by
  cases a <;> simp [sameValue]

theorem sameValue_comm (a b : Number) : a.sameValue b = b.sameValue a := by
  cases a <;> cases b <;> simp [sameValue, Bool.beq_comm]

theorem sameValue_trans (hab : a.sameValue b = true) (hbc : b.sameValue c = true)
    (hmerged : ∀ m n, a = .int m → c = .int n → ¬ Merged m n) : a.sameValue c = true :=
  sameValue_iff.mpr ⟨(sameValue_iff.mp hab).1.trans (sameValue_iff.mp hbc).1, hmerged⟩

end Number

/-! ## Places -/

section

variable {α : Type} {R : α → α → Prop} {a : α} {first second third : Option α}

theorem exists_of_rel_some (h : Option.Rel R (some a) second) : ∃ b, second = some b ∧ R a b := by
  cases h with
  | some hab => exact ⟨_, rfl, hab⟩

theorem isSome_eq_of_rel (h : Option.Rel R first second) : first.isSome = second.isSome := by
  cases h <;> rfl

theorem rel_self (hself : ∀ a, first = some a → R a a) : Option.Rel R first first := by
  cases first with
  | none => exact .none
  | some a => exact .some (hself a rfl)

theorem rel_symm (h : Option.Rel R first second)
    (hsymm : ∀ a b, first = some a → second = some b → R a b → R b a) :
    Option.Rel R second first := by
  cases h with
  | none => exact .none
  | some hab => exact .some (hsymm _ _ rfl rfl hab)

theorem rel_trans (h : Option.Rel R first second) (h' : Option.Rel R second third)
    (htrans : ∀ a b c, first = some a → second = some b → third = some c → R a b → R b c → R a c) :
    Option.Rel R first third := by
  cases h with
  | none => exact h'
  | some hab =>
      cases h' with
      | some hbc => exact .some (htrans _ _ _ rfl rfl rfl hab hbc)

end

/-! ## Names of fields -/

namespace Fields

variable {α : Type} {fields fields' : Fields α}

/-- Fields whose names all occur among as many others have the same names as these. -/
theorem Ordered.names_iff (h : fields.Ordered) (hlength : fields.length = fields'.length)
    (hsub : fields.map Prod.fst ⊆ fields'.map Prod.fst) (name : String) :
    name ∈ fields.map Prod.fst ↔ name ∈ fields'.map Prod.fst := by
  have hperm := (List.subperm_of_subset h.nodup hsub).perm_of_length_le (by simp [hlength])
  exact hperm.mem_iff

theorem Ordered.length_eq (h : fields.Ordered) (h' : fields'.Ordered)
    (hnames : ∀ name, name ∈ fields.map Prod.fst ↔ name ∈ fields'.map Prod.fst) :
    fields.length = fields'.length := by
  have hperm := (List.perm_ext_iff_of_nodup h.nodup h'.nodup).mpr hnames
  simpa using hperm.length_eq

end Fields

/-! ## Lists and objects -/

namespace Value

variable {x y z : Value} {xs ys : List Value} {fields fields' : Fields Value}

theorem sameItems_iff :
    sameItems xs ys = true ↔ ∀ i : Nat, Option.Rel (fun x y => x.same y = true) xs[i]? ys[i]? := by
  induction xs generalizing ys with
  | nil =>
      cases ys with
      | nil => simp [sameItems]
      | cons y ys =>
          refine ⟨fun h => by simp [sameItems] at h, fun h => ?_⟩
          cases h 0
  | cons x xs ih =>
      cases ys with
      | nil =>
          refine ⟨fun h => by simp [sameItems] at h, fun h => ?_⟩
          cases h 0
      | cons y ys =>
          rw [sameItems, Bool.and_eq_true, ih]
          constructor
          · rintro ⟨hfirst, hrest⟩ i
            cases i with
            | zero => exact .some hfirst
            | succ i => exact hrest i
          · intro h
            refine ⟨?_, fun i => h (i + 1)⟩
            cases h 0 with
            | some hfirst => exact hfirst

theorem sameFields_iff :
    sameFields fields fields' = true ↔
      ∀ entry ∈ fields, ∃ y, fields'.get? entry.1 = some y ∧ entry.2.same y = true := by
  induction fields with
  | nil => simp [sameFields]
  | cons entry rest ih =>
      rw [sameFields, Bool.and_eq_true, ih, List.forall_mem_cons]
      refine and_congr_left fun _ => ?_
      cases fields'.get? entry.1 <;> simp

theorem same_arr_iff :
    (arr xs).same (arr ys) = true ↔
      ∀ i : Nat, Option.Rel (fun x y => x.same y = true) xs[i]? ys[i]? := by
  rw [same, sameItems_iff]

/-- Objects are the same if each name stands for the same value in both, or in neither. -/
theorem same_obj_iff (h : fields.Ordered) (h' : fields'.Ordered) :
    (obj fields).same (obj fields') = true ↔
      ∀ name, Option.Rel (fun x y => x.same y = true) (fields.get? name) (fields'.get? name) := by
  rw [same, Bool.and_eq_true, beq_iff_eq, sameFields_iff]
  constructor
  · rintro ⟨hlength, hsame⟩ name
    have hsub : fields.map Prod.fst ⊆ fields'.map Prod.fst := by
      intro name hname
      obtain ⟨entry, hentry, rfl⟩ := List.mem_map.mp hname
      obtain ⟨y, hy, -⟩ := hsame entry hentry
      simp [Fields.mem_names_iff, hy]
    cases hx : fields.get? name with
    | some x =>
        obtain ⟨y, hy, hxy⟩ := hsame _ (Fields.mem_of_get? hx)
        rw [hy]
        exact .some hxy
    | none =>
        have hname := h.names_iff hlength hsub name
        rw [Fields.mem_names_iff, Fields.mem_names_iff, hx] at hname
        rw [Option.not_isSome_iff_eq_none.mp (hname.not.mp (by simp))]
        exact .none
  · intro hrel
    refine ⟨h.length_eq h' fun name => ?_, fun entry hentry => ?_⟩
    · rw [Fields.mem_names_iff, Fields.mem_names_iff, isSome_eq_of_rel (hrel name)]
    · have hentry' := hrel entry.1
      rw [h.get?_of_mem hentry] at hentry'
      exact exists_of_rel_some hentry'

/-! ## Reflexivity and symmetry -/

theorem Ordered.of_getElem? (h : (Value.arr xs).Ordered) {i : Nat} (hx : xs[i]? = some x) :
    x.Ordered := by
  cases h with
  | arr h => exact h x (List.mem_of_getElem? hx)

theorem Ordered.of_get? (h : (Value.obj fields).Ordered) {name : String}
    (hx : fields.get? name = some x) : x.Ordered := by
  cases h with
  | obj _ h => exact h _ (Fields.mem_of_get? hx)

theorem Ordered.names (h : (Value.obj fields).Ordered) : fields.Ordered := by
  cases h with
  | obj hnames _ => exact hnames

theorem Ordered.same_self (h : x.Ordered) : x.same x = true := by
  induction h with
  | null => rfl
  | bool b => simp [same]
  | num n => rw [same, Number.sameValue_self]
  | str s => simp [same]
  | arr _ ih =>
      rw [same_arr_iff]
      exact fun i => rel_self fun v hv => ih v (List.mem_of_getElem? hv)
  | obj hnames _ ih =>
      rw [same_obj_iff hnames hnames]
      exact fun name => rel_self fun v hv => ih _ (Fields.mem_of_get? hv)

theorem Ordered.same_symm (hx : x.Ordered) (hy : y.Ordered) (h : x.same y = true) :
    y.same x = true := by
  induction hx generalizing y with
  | null => cases y <;> simp_all [same]
  | bool b => cases y <;> simp_all [same]
  | num n =>
      cases y with
      | num m =>
          rw [same] at h ⊢
          rwa [Number.sameValue_comm]
      | _ => simp [same] at h
  | str s => cases y <;> simp_all [same]
  | arr _ ih =>
      cases y with
      | arr ys =>
          rw [same_arr_iff] at h ⊢
          refine fun i => rel_symm (h i) fun v w hv hw hvw => ?_
          exact ih v (List.mem_of_getElem? hv) (hy.of_getElem? hw) hvw
      | _ => simp [same] at h
  | obj hnames _ ih =>
      cases y with
      | obj fields' =>
          rw [same_obj_iff hnames hy.names] at h
          rw [same_obj_iff hy.names hnames]
          refine fun name => rel_symm (h name) fun v w hv hw hvw => ?_
          exact ih _ (Fields.mem_of_get? hv) (hy.of_get? hw) hvw
      | _ => simp [same] at h

/-! ## Transitivity -/

/-- At some place two values hold two different integers with the same nearest floating-point
number. -/
inductive Merged : Value → Value → Prop where
  | integers {m n : Int} (h : Number.Merged m n) : Merged (.num (.int m)) (.num (.int n))
  | item {xs ys : List Value} {x y : Value} {i : Nat} (hx : xs[i]? = some x)
      (hy : ys[i]? = some y) (h : Merged x y) : Merged (.arr xs) (.arr ys)
  | field {fields fields' : Fields Value} {x y : Value} {name : String}
      (hx : fields.get? name = some x) (hy : fields'.get? name = some y) (h : Merged x y) :
      Merged (.obj fields) (.obj fields')

theorem Merged.not_same (h : Merged x y) : x.same y ≠ true := by
  induction h with
  | integers h => simpa [same, Number.sameValue] using h.1
  | @item xs ys v w i hx hy _ ih =>
      intro hsame
      have hitem := same_arr_iff.mp hsame i
      rw [hx, hy, Option.rel_some_some] at hitem
      exact ih hitem
  | field hx hy _ ih =>
      intro hsame
      rw [same, Bool.and_eq_true, sameFields_iff] at hsame
      obtain ⟨w, hw, hxw⟩ := hsame.2 _ (Fields.mem_of_get? hx)
      rw [hy] at hw
      cases hw
      exact ih hxw

/-- Values that are the same as a third are the same as each other, unless rounding merges two
integers in them. -/
theorem Ordered.same_trans (hx : x.Ordered) (hy : y.Ordered) (hz : z.Ordered)
    (hxy : x.same y = true) (hyz : y.same z = true) (hmerged : ¬ Merged x z) :
    x.same z = true := by
  induction hx generalizing y z with
  | null =>
      cases y with
      | null => exact hyz
      | _ => simp [same] at hxy
  | bool b =>
      cases y with
      | bool b' =>
          obtain rfl : b = b' := by simpa [same] using hxy
          exact hyz
      | _ => simp [same] at hxy
  | num a =>
      cases y with
      | num b =>
          cases z with
          | num c =>
              refine Number.sameValue_trans hxy hyz ?_
              rintro m n rfl rfl h
              exact hmerged (.integers h)
          | _ => simp [same] at hyz
      | _ => simp [same] at hxy
  | str s =>
      cases y with
      | str t =>
          obtain rfl : s = t := by simpa [same] using hxy
          exact hyz
      | _ => simp [same] at hxy
  | arr _ ih =>
      cases y with
      | arr ys =>
          cases z with
          | arr zs =>
              rw [same_arr_iff] at hxy hyz ⊢
              refine fun i => rel_trans (hxy i) (hyz i) fun u v w hu hv hw huv hvw => ?_
              exact ih u (List.mem_of_getElem? hu) (hy.of_getElem? hv) (hz.of_getElem? hw) huv hvw
                fun h => hmerged (.item hu hw h)
          | _ => simp [same] at hyz
      | _ => simp [same] at hxy
  | obj hnames _ ih =>
      cases y with
      | obj fields' =>
          cases z with
          | obj fields'' =>
              rw [same_obj_iff hnames hy.names] at hxy
              rw [same_obj_iff hy.names hz.names] at hyz
              rw [same_obj_iff hnames hz.names]
              refine fun name => rel_trans (hxy name) (hyz name) fun u v w hu hv hw huv hvw => ?_
              exact ih _ (Fields.mem_of_get? hu) (hy.of_get? hv) (hz.of_get? hw) huv hvw
                fun h => hmerged (.field hu hw h)
          | _ => simp [same] at hyz
      | _ => simp [same] at hxy

/-- All integers in a value are below 2^53. -/
inductive Small : Value → Prop where
  | null : Small .null
  | bool (b : Bool) : Small (.bool b)
  | int {n : Int} (h : n.natAbs < 2 ^ 53) : Small (.num (.int n))
  | float (x : Binary64) : Small (.num (.float x))
  | str (s : String) : Small (.str s)
  | arr {items : List Value} (h : ∀ v ∈ items, Small v) : Small (.arr items)
  | obj {fields : Fields Value} (h : ∀ entry ∈ fields, Small entry.2) : Small (.obj fields)

theorem Small.not_merged (hx : x.Small) : ¬ Merged x y := by
  intro h
  induction h with
  | integers h =>
      cases hx with
      | int hsmall => exact Number.not_merged_of_natAbs_lt (.inl hsmall) h
  | item hv _ _ ih =>
      cases hx with
      | arr hitems => exact ih (hitems _ (List.mem_of_getElem? hv))
  | field hv _ _ ih =>
      cases hx with
      | obj hfields => exact ih (hfields _ (Fields.mem_of_get? hv))

/-! ## Main result -/

/-- Every value is the same as itself, and no order of two values matters. Two values that are the
same as a third are the same as each other exactly if rounding merges no two integers in them, and
so they are if the integers in one of them are below 2^53. -/
theorem same_equivalence (x y z : Value) (hx : x.Ordered) (hy : y.Ordered) (hz : z.Ordered) :
    x.same x = true ∧ x.same y = y.same x ∧
      (x.same y = true → y.same z = true →
        (x.same z = true ↔ ¬ Merged x z) ∧ (x.Small → x.same z = true)) := by
  refine ⟨hx.same_self, ?_, fun hxy hyz => ?_⟩
  · rw [Bool.eq_iff_iff]
    exact ⟨hx.same_symm hy, hy.same_symm hx⟩
  · have hiff : x.same z = true ↔ ¬ Merged x z :=
      ⟨fun hsame hmerged => hmerged.not_same hsame, hx.same_trans hy hz hxy hyz⟩
    exact ⟨hiff, fun hsmall => hiff.mpr hsmall.not_merged⟩

/-- An object with two numbers in a list. -/
def limits (low high : Number) : Value := .obj [("limits", .arr [.num low, .num high])]

theorem ordered_limits (low high : Number) : (limits low high).Ordered := by
  have hitems : ∀ v ∈ [Value.num low, .num high], v.Ordered :=
    List.forall_mem_cons.mpr ⟨.num low, List.forall_mem_singleton.mpr (.num high)⟩
  exact .obj (List.pairwise_singleton _ _) (List.forall_mem_singleton.mpr (.arr hitems))

/-- Three spellings of the same limits, of which the last is as large as 2^53. -/
theorem same_equivalence_limits :
    (limits (.int 18) (.float (.ofInt 9007199254740992))).same
        (limits (.float (.ofInt 18)) (.int 9007199254740992)) = true ∧
      (limits (.float (.ofInt 18)) (.int 9007199254740992)).same
        (limits (.int 18) (.int 9007199254740992)) = true ∧
      (limits (.int 18) (.float (.ofInt 9007199254740992))).same
        (limits (.int 18) (.int 9007199254740992)) = true := by
  have hfirst : (limits (.int 18) (.float (.ofInt 9007199254740992))).same
      (limits (.float (.ofInt 18)) (.int 9007199254740992)) = true := by decide +kernel
  have hsecond : (limits (.float (.ofInt 18)) (.int 9007199254740992)).same
      (limits (.int 18) (.int 9007199254740992)) = true := by decide +kernel
  have hitems : ∀ v ∈ [Value.num (.int 18), .num (.float (.ofInt 9007199254740992))], v.Small :=
    List.forall_mem_cons.mpr ⟨.int (by decide), List.forall_mem_singleton.mpr (.float _)⟩
  have hsmall : (limits (.int 18) (.float (.ofInt 9007199254740992))).Small :=
    .obj (List.forall_mem_singleton.mpr (.arr hitems))
  obtain ⟨-, -, htrans⟩ := same_equivalence (limits (.int 18) (.float (.ofInt 9007199254740992)))
    (limits (.float (.ofInt 18)) (.int 9007199254740992))
    (limits (.int 18) (.int 9007199254740992))
    (ordered_limits _ _) (ordered_limits _ _) (ordered_limits _ _)
  exact ⟨hfirst, hsecond, (htrans hfirst hsecond).2 hsmall⟩

/-- The integer behind 2^53 and 2^53 itself are the same as one floating-point number, and different
from each other. -/
theorem same_not_transitive :
    ¬ ∀ x y z : Value, x.Ordered → y.Ordered → z.Ordered → x.same y = true → y.same z = true →
      x.same z = true := by
  intro htrans
  have hsame : (Value.num (.int 9007199254740993)).same (.num (.int 9007199254740992)) = true :=
    htrans _ (.num (.float (.ofInt 9007199254740992))) _ (.num _) (.num _) (.num _)
      (by decide +kernel) (by decide +kernel)
  exact absurd hsame (by decide +kernel)

end Value

end Cohort
