import Cohort.Proofs.Registry.Coherent
import Mathlib.Data.List.Perm.Basic

/-! # Builders by category

What is told of builders is filed under their categories first, and handed out of the file category
by category. As no category is listed twice, nothing is missing when its turn comes, and as every
builder names a category that is listed, nothing is left behind.
-/

namespace Cohort

/-! ## Lists by key -/

section

variable {α β : Type} [DecidableEq β] {keyOf : α → β} {keys : List β} {xs : List α}

/-- Handed out by their keys, values are all there, and as often as before. -/
theorem perm_flatMap_filter (hkeys : keys.Nodup) (h : ∀ x ∈ xs, keyOf x ∈ keys) :
    (keys.flatMap fun key => xs.filter fun x => keyOf x = key).Perm xs := by
  induction keys generalizing xs with
  | nil =>
      have hxs : xs = [] := List.eq_nil_iff_forall_not_mem.mpr fun x hx => by simpa using h x hx
      simp [hxs]
  | cons key keys ih =>
      obtain ⟨hfresh, hkeys⟩ := List.nodup_cons.mp hkeys
      -- The other keys find the same values among those that are left.
      have hleft : (keys.flatMap fun key' => xs.filter fun x => keyOf x = key') =
          keys.flatMap fun key' => (xs.filter fun x => ¬ keyOf x = key).filter fun x =>
            keyOf x = key' := by
        refine List.flatMap_congr fun key' hkey' => ?_
        rw [List.filter_filter]
        refine List.filter_congr fun x _ => ?_
        have hne : keyOf x = key' → ¬ keyOf x = key := by
          rintro rfl rfl
          exact hfresh hkey'
        simpa using hne
      have hrest : ∀ x ∈ xs.filter fun x => ¬ keyOf x = key, keyOf x ∈ keys := by
        intro x hx
        obtain ⟨hx, hne⟩ := List.mem_filter.mp hx
        exact (List.mem_cons.mp (h x hx)).resolve_left (by simpa using hne)
      rw [List.flatMap_cons, hleft]
      refine ((ih hkeys hrest).append_left _).trans ?_
      simpa using List.filter_append_perm (fun x => decide (keyOf x = key)) xs

end

namespace Registry

variable {r : Registry} {filed : Fields (List Metadata)}

/-! ## The file -/

/-- What is told of the builders of a category, in order of registration. -/
def metadataIn (r : Registry) (categoryId : String) : List Metadata :=
  (r.builders.map Builder.metadata).filter fun m =>
    m.categoryId ≠ "" ∧ m.categoryId = categoryId

theorem getD_fileMetadata (filed : Fields (List Metadata)) (m : Metadata) (id : String) :
    ((fileMetadata filed m).get? id).getD [] =
      (filed.get? id).getD [] ++ [m].filter fun m => m.categoryId ≠ "" ∧ m.categoryId = id := by
  by_cases hempty : m.categoryId = ""
  · simp [fileMetadata, hempty]
  · by_cases hid : id = m.categoryId
    · subst hid
      simp [fileMetadata, hempty, Fields.get?_set_self]
    · simp [fileMetadata, hempty, Fields.get?_set_of_ne hid, Ne.symm hid]

theorem getD_filedMetadata (r : Registry) (id : String) :
    (r.filedMetadata.get? id).getD [] = r.metadataIn id := by
  -- Any file is what was filed before, and behind it what the builders add.
  suffices hall : ∀ (ms : List Metadata) (filed : Fields (List Metadata)),
      (Fields.get? (ms.foldl fileMetadata filed) id).getD [] =
        (filed.get? id).getD [] ++ ms.filter fun m => m.categoryId ≠ "" ∧ m.categoryId = id from
    hall (r.builders.map Builder.metadata) []
  intro ms
  induction ms with
  | nil => simp
  | cons m ms ih =>
      intro filed
      rw [List.foldl_cons, ih, getD_fileMetadata, List.append_assoc, ← List.filter_append]
      rfl

theorem handOut_eq_map {categories : List Category} (h : (categories.map Category.id).Nodup) :
    handOut filed categories = categories.map fun c => ⟨c, (filed.get? c.id).getD []⟩ := by
  induction categories generalizing filed with
  | nil => rfl
  | cons c rest ih =>
      obtain ⟨hfresh, hrest⟩ := List.nodup_cons.mp h
      rw [handOut, ih hrest, List.map_cons]
      congr 1
      refine List.map_congr_left fun c' hc' => ?_
      have hne : c'.id ≠ c.id := fun heq => hfresh (heq ▸ List.mem_map_of_mem hc')
      rw [Fields.get?_erase_of_ne hne]

/-! ## The groups -/

/-- What is taken out of the file is missed by nobody. -/
theorem Coherent.groups_eq (h : r.Coherent) :
    r.groups = r.categories.map fun c => ⟨c, r.metadataIn c.id⟩ := by
  simp only [groups, handOut_eq_map h.categories.nodup, getD_filedMetadata]

/-- What is told of the builders that have a category. -/
def categorized (r : Registry) : List Metadata :=
  (r.builders.map Builder.metadata).filter fun m => m.categoryId ≠ ""

theorem Coherent.perm_categorized (h : r.Coherent) :
    (r.groups.flatMap CategoryGroup.builders).Perm r.categorized := by
  have hin : ∀ id, r.metadataIn id = r.categorized.filter fun m => m.categoryId = id := by
    intro id
    rw [categorized, List.filter_filter, metadataIn]
    exact List.filter_congr fun m _ => by simp [Bool.and_comm]
  have hgroups : r.groups.flatMap CategoryGroup.builders =
      (r.categories.map Category.id).flatMap fun id =>
        r.categorized.filter fun m => m.categoryId = id := by
    rw [h.groups_eq, List.flatMap_map, List.flatMap_map]
    exact List.flatMap_congr fun c _ => hin c.id
  rw [hgroups]
  refine perm_flatMap_filter h.categories.nodup fun m hm => ?_
  obtain ⟨hm, hne⟩ := List.mem_filter.mp hm
  obtain ⟨b, hb, rfl⟩ := List.mem_map.mp hm
  obtain ⟨c, hc, hid⟩ := h.exists_category b hb (by simpa using hne)
  exact hid ▸ List.mem_map_of_mem hc

/-- The identifiers of the builders in groups. -/
def builderIds (groups : List CategoryGroup) : List String :=
  (groups.flatMap CategoryGroup.builders).map Metadata.id

theorem Coherent.perm_builderIds (h : r.Coherent) :
    (builderIds r.groups).Perm (r.categorized.map Metadata.id) := h.perm_categorized.map _

theorem Coherent.nodup_categorized (h : r.Coherent) : (r.categorized.map Metadata.id).Nodup := by
  have hsublist : r.categorized.Sublist (r.builders.map Builder.metadata) := List.filter_sublist
  have hnodup : ((r.builders.map Builder.metadata).map Metadata.id).Nodup := by
    rw [List.map_map]
    exact h.builders.nodup
  exact hnodup.sublist (hsublist.map _)

/-- Each category has its group, in order of registration. There are its builders, in order of
registration and once in all groups, and no others. -/
structure Grouped (r : Registry) (groups : List CategoryGroup) : Prop where
  categories : groups.map CategoryGroup.category = r.categories
  builders : ∀ g ∈ groups, g.builders = r.metadataIn g.category.id
  once : ∀ b ∈ r.builders, b.metadata.categoryId ≠ "" → (builderIds groups).count b.id = 1 ∧
    ∃ g ∈ groups, g.category.id = b.metadata.categoryId ∧ b.metadata ∈ g.builders
  never : ∀ b ∈ r.builders, b.metadata.categoryId = "" → b.id ∉ builderIds groups

theorem Coherent.grouped (h : r.Coherent) : r.Grouped r.groups where
  categories := by
    rw [h.groups_eq, List.map_map]
    exact List.map_id _
  builders g hg := by
    rw [h.groups_eq] at hg
    obtain ⟨c, -, rfl⟩ := List.mem_map.mp hg
    rfl
  once b hb hne := by
    have hmem : b.metadata ∈ r.categorized :=
      List.mem_filter.mpr ⟨List.mem_map_of_mem hb, by simpa using hne⟩
    constructor
    · rw [h.perm_builderIds.count_eq]
      exact List.count_eq_one_of_mem h.nodup_categorized (List.mem_map_of_mem hmem)
    · obtain ⟨c, hc, hid⟩ := h.exists_category b hb hne
      refine ⟨⟨c, r.metadataIn c.id⟩, ?_, hid, ?_⟩
      · rw [h.groups_eq]
        exact List.mem_map_of_mem hc
      · exact List.mem_filter.mpr ⟨List.mem_map_of_mem hb, by simpa using ⟨hne, hid.symm⟩⟩
  never b hb hempty hmem := by
    have hid : b.id ∈ r.categorized.map Metadata.id := h.perm_builderIds.mem_iff.mp hmem
    obtain ⟨m, hm, hid⟩ := List.mem_map.mp hid
    obtain ⟨hm, hne⟩ := List.mem_filter.mp hm
    obtain ⟨b', hb', rfl⟩ := List.mem_map.mp hm
    obtain rfl : b' = b := List.inj_on_of_nodup_map h.builders.nodup hb' hb hid
    simp [hempty] at hne

/-! ## Main result -/

/-- Calls in any order, some of which may fail, leave a registry whose builders are grouped as they
should be. -/
theorem grouped_after (calls : List Call) :
    (empty.after calls).Grouped (empty.after calls).groups :=
  (Reachable.coherent ⟨calls, rfl⟩).grouped

/-- Builders of categories by turns and of none, with a category that has no builders and one that
has no name. -/
def crossedCalls : List Call :=
  let category (id : String) : Call := .register (.category ⟨id, "", ""⟩)
  let builder (id categoryId : String) : Call :=
    .register (.builder (.descriptive ⟨id, "", "", categoryId, none⟩))
  [category "demographics", category "activities", category "empty", category "",
    builder "purchase" "activities", builder "gender" "demographics", builder "loose" "",
    builder "gender" "activities", builder "age" "demographics"]

theorem grouped_after_crossedCalls :
    (empty.after crossedCalls).Grouped (empty.after crossedCalls).groups ∧
      (empty.after crossedCalls).groups.map
          (fun g => (g.category.id, g.builders.map Metadata.id)) =
        [("demographics", ["gender", "age"]), ("activities", ["purchase"]), ("empty", []),
          ("", [])] :=
  ⟨grouped_after crossedCalls, by decide +kernel⟩

end Registry

end Cohort
