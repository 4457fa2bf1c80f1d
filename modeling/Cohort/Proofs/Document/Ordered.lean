import Cohort.Document.Record

/-! # Fields in order

Values keep the fields of an object in the order of their names. A document that has been a value
has its fields in order as well, and what is read of it depends on what stands under each name.
-/

namespace Cohort

/-! ## Fields -/

namespace Fields

variable {α β : Type} {fields fields' : Fields α} {name key : String} {a b : α}

/-- The names of fields are distinct and ascend. -/
def Ordered (fields : Fields α) : Prop := fields.Pairwise fun entry entry' => entry.1 < entry'.1

theorem get?_set_self : (fields.set name a).get? name = some a := by
  induction fields with
  | nil => simp [set, get?]
  | cons entry rest ih =>
      obtain ⟨other, old⟩ := entry
      by_cases heq : name = other
      · simp [set, get?, heq]
      · by_cases hlt : name < other
        · simp [set, get?, heq, hlt]
        · have hother : (name == other) = false := by simpa using heq
          simpa [set, get?, heq, hlt, List.lookup_cons, hother] using ih

theorem get?_set_of_ne (h : key ≠ name) : (fields.set name a).get? key = fields.get? key := by
  have hkey : (key == name) = false := by simpa using h
  induction fields with
  | nil => simp [set, get?, List.lookup_cons, hkey]
  | cons entry rest ih =>
      obtain ⟨other, old⟩ := entry
      by_cases heq : name = other
      · subst heq
        simp [set, get?, List.lookup_cons, hkey]
      · by_cases hlt : name < other
        · simp [set, get?, heq, hlt, List.lookup_cons, hkey]
        · cases hother : key == other with
          | true => simp [set, get?, heq, hlt, List.lookup_cons, hother]
          | false => simpa [set, get?, heq, hlt, List.lookup_cons, hother] using ih

/-- Setting a name that is not there leaves what is. -/
theorem get?_set_of_get?_eq_none (hfresh : fields.get? name = none)
    (h : fields.get? key = some b) : (fields.set name a).get? key = some b := by
  have hne : key ≠ name := by
    rintro rfl
    rw [hfresh] at h
    cases h
  rw [get?_set_of_ne hne, h]

theorem set_set : (fields.set name a).set name b = fields.set name b := by
  induction fields with
  | nil => simp [set]
  | cons entry rest ih =>
      obtain ⟨key, old⟩ := entry
      by_cases heq : name = key
      · simp [set, heq]
      · by_cases hlt : name < key
        · simp [set, heq, hlt]
        · simp [set, heq, hlt, ih]

theorem mem_of_mem_set {entry : String × α} (h : entry ∈ fields.set name a) :
    entry = (name, a) ∨ entry ∈ fields := by
  induction fields with
  | nil => simpa [set] using h
  | cons first rest ih =>
      obtain ⟨other, old⟩ := first
      rw [set] at h
      split at h
      · rcases List.mem_cons.mp h with rfl | h
        · exact .inl rfl
        · exact .inr (List.mem_cons_of_mem _ h)
      · split at h
        · rcases List.mem_cons.mp h with rfl | h
          · exact .inl rfl
          · exact .inr h
        · rcases List.mem_cons.mp h with rfl | h
          · exact .inr (by simp)
          · exact (ih h).imp id (List.mem_cons_of_mem _)

theorem Ordered.set (h : fields.Ordered) (name : String) (a : α) :
    (fields.set name a).Ordered := by
  induction fields with
  | nil => simp [Fields.set, Ordered]
  | cons entry rest ih =>
      obtain ⟨other, old⟩ := entry
      obtain ⟨hfirst, hrest⟩ := List.pairwise_cons.mp h
      by_cases heq : name = other
      · subst heq
        rw [Fields.set, if_pos rfl]
        exact List.pairwise_cons.mpr ⟨hfirst, hrest⟩
      · by_cases hlt : name < other
        · rw [Fields.set, if_neg heq, if_pos hlt]
          refine List.pairwise_cons.mpr ⟨?_, h⟩
          intro entry hentry
          rcases List.mem_cons.mp hentry with rfl | hentry
          · exact hlt
          · exact String.lt_trans hlt (hfirst entry hentry)
        · rw [Fields.set, if_neg heq, if_neg hlt]
          refine List.pairwise_cons.mpr ⟨?_, ih hrest⟩
          intro entry hentry
          rcases mem_of_mem_set hentry with rfl | hentry
          · apply String.not_le.mp
            exact fun hle => heq (String.le_antisymm hle (String.not_lt.mp hlt))
          · exact hfirst entry hentry

theorem set_of_forall_lt (h : ∀ entry ∈ fields, entry.1 < name) :
    fields.set name a = fields ++ [(name, a)] := by
  induction fields with
  | nil => rfl
  | cons entry rest ih =>
      obtain ⟨other, old⟩ := entry
      obtain ⟨hother, hrest⟩ := List.forall_mem_cons.mp h
      have hne : name ≠ other := by
        rintro rfl
        exact String.lt_irrefl _ hother
      rw [set, if_neg hne, if_neg (String.lt_asymm hother), ih hrest, List.cons_append]

theorem Ordered.nodup (h : fields.Ordered) : (fields.map Prod.fst).Nodup := by
  rw [List.Nodup, List.pairwise_map]
  refine List.Pairwise.imp ?_ h
  intro entry entry' hlt heq
  rw [heq] at hlt
  exact String.lt_irrefl _ hlt

/-! What a list of entries leaves, set one after another -/

theorem ordered_ofList (entries : List (String × α)) : (ofList entries).Ordered := by
  suffices h : ∀ fields : Fields α, fields.Ordered →
      (entries.foldl (fun fields entry => Fields.set fields entry.1 entry.2) fields).Ordered from
    h [] List.Pairwise.nil
  induction entries with
  | nil => exact fun _ h => h
  | cons entry entries ih => exact fun _ h => ih _ (h.set entry.1 entry.2)

theorem mem_of_mem_ofList {entries : List (String × α)} {entry : String × α}
    (h : entry ∈ ofList entries) : entry ∈ entries := by
  suffices hall : ∀ fields : Fields α,
      entry ∈ entries.foldl (fun fields entry => Fields.set fields entry.1 entry.2) fields →
        entry ∈ fields ∨ entry ∈ entries by
    simpa using hall [] h
  clear h
  induction entries with
  | nil => exact fun _ h => .inl h
  | cons first entries ih =>
      intro fields h
      rcases ih _ h with h | h
      · rcases mem_of_mem_set h with rfl | h
        · exact .inr (by simp)
        · exact .inl h
      · exact .inr (List.mem_cons_of_mem _ h)

theorem ofList_of_ordered (h : fields.Ordered) : ofList fields = fields := by
  suffices hall : ∀ before : Fields α, Ordered (before ++ fields) →
      fields.foldl (fun fields entry => Fields.set fields entry.1 entry.2) before =
        before ++ fields from
    hall [] h
  clear h
  induction fields with
  | nil => simp
  | cons entry rest ih =>
      intro before h
      have hlast : ∀ entry' ∈ before, entry'.1 < entry.1 := fun entry' hentry' =>
        (List.pairwise_append.mp h).2.2 entry' hentry' entry (by simp)
      rw [List.foldl_cons, set_of_forall_lt hlast, ih]
      · simp
      · simpa using h

theorem mem_of_get? (h : fields.get? name = some a) : (name, a) ∈ fields := by
  obtain ⟨before, after, rfl, -⟩ := List.lookup_eq_some_iff.mp h
  simp

theorem get?_eq_none (h : name ∉ fields.map Prod.fst) : fields.get? name = none := by
  rw [get?, List.lookup_eq_none_iff]
  intro entry hentry
  have hne : name ≠ entry.1 := by
    rintro rfl
    exact h (List.mem_map.mpr ⟨entry, hentry, rfl⟩)
  simpa using hne

theorem get?_ofList {entries : List (String × α)} (h : (entries.map Prod.fst).Nodup)
    (name : String) : (ofList entries).get? name = get? entries name := by
  suffices hall : ∀ fields : Fields α,
      get? (entries.foldl (fun fields entry => Fields.set fields entry.1 entry.2) fields) name =
        (get? entries name).or (get? fields name) by
    simpa [get?, ofList] using hall []
  induction entries with
  | nil => simp [get?]
  | cons entry entries ih =>
      intro fields
      obtain ⟨key, a⟩ := entry
      obtain ⟨hfresh, hnodup⟩ := List.nodup_cons.mp h
      rw [List.foldl_cons, ih hnodup]
      by_cases heq : name = key
      · subst heq
        have hnone : get? entries name = none := get?_eq_none hfresh
        rw [hnone, get?_set_self]
        simp [get?]
      · have hkey : (name == key) = false := by simpa using heq
        rw [get?_set_of_ne heq]
        simp [get?, List.lookup_cons, hkey]

/-- Where no name stands twice, what is found is what stands there. -/
theorem get?_eq_some_iff (h : (fields.map Prod.fst).Nodup) :
    fields.get? name = some a ↔ (name, a) ∈ fields := by
  refine ⟨mem_of_get?, fun hmem => ?_⟩
  induction fields with
  | nil => cases hmem
  | cons entry rest ih =>
      obtain ⟨hfirst, hrest⟩ := List.nodup_cons.mp h
      rcases List.mem_cons.mp hmem with rfl | hmem
      · simp [get?]
      · have hne : (name == entry.1) = false := by
          rw [beq_eq_false_iff_ne]
          rintro rfl
          exact hfirst (List.mem_map.mpr ⟨_, hmem, rfl⟩)
        rw [get?, List.lookup_cons, hne]
        exact ih hrest hmem

/-- The order of fields does not matter where no name stands twice. -/
theorem get?_perm (h : fields.Perm fields') (hnodup : (fields.map Prod.fst).Nodup) (name : String) :
    fields'.get? name = fields.get? name := by
  have hnodup' : (fields'.map Prod.fst).Nodup := (h.map Prod.fst).nodup_iff.mp hnodup
  apply Option.ext
  intro a
  rw [get?_eq_some_iff hnodup, get?_eq_some_iff hnodup', h.mem_iff]

theorem get?_middle (before after : Fields α) :
    get? (before ++ (key, a) :: after) name =
      if name = key then (get? before name).or (some a) else get? (before ++ after) name := by
  rw [get?, get?, get?, List.lookup_append, List.lookup_append, List.lookup_cons]
  by_cases h : name = key
  · simp [h]
  · have hkey : (name == key) = false := by simpa using h
    simp [h, hkey]

theorem Ordered.get?_of_mem (h : fields.Ordered) (hmem : (name, a) ∈ fields) :
    fields.get? name = some a :=
  (get?_eq_some_iff h.nodup).mpr hmem

theorem mem_names_iff : name ∈ fields.map Prod.fst ↔ (fields.get? name).isSome = true := by
  constructor
  · intro h
    obtain ⟨entry, hentry, rfl⟩ := List.mem_map.mp h
    cases hname : fields.get? entry.1 with
    | some a => rfl
    | none =>
        rw [get?, List.lookup_eq_none_iff] at hname
        simpa using hname entry hentry
  · intro h
    obtain ⟨a, ha⟩ := Option.isSome_iff_exists.mp h
    exact List.mem_map_of_mem (mem_of_get? ha)

theorem mem_of_get?_byKey (key : α → String) {values : List α}
    (h : (byKey key values).get? name = some a) : a ∈ values := by
  have hmem : (name, a) ∈ values.map fun value => (key value, value) :=
    mem_of_mem_ofList (mem_of_get? h)
  obtain ⟨value, hvalue, heq⟩ := List.mem_map.mp hmem
  cases heq
  exact hvalue

theorem get?_map (f : α → β) (fields : Fields α) (name : String) :
    get? (fields.map fun entry => (entry.1, f entry.2)) name = (fields.get? name).map f := by
  induction fields with
  | nil => rfl
  | cons entry rest ih =>
      rw [get?, get?] at *
      rw [List.map_cons, List.lookup_cons, List.lookup_cons]
      cases name == entry.1 with
      | true => rfl
      | false => exact ih

theorem get?_filter {p : String × α → Bool} (h : ∀ a, p (name, a) = true) (fields : Fields α) :
    get? (fields.filter p) name = fields.get? name := by
  induction fields with
  | nil => rfl
  | cons entry rest ih =>
      obtain ⟨key, a⟩ := entry
      rw [get?, get?] at *
      by_cases heq : name = key
      · subst heq
        simp [h]
      · have hkey : (name == key) = false := by simpa using heq
        cases hp : p (key, a) <;> simp [hp, List.lookup_cons, hkey, ih]

theorem get?_erase_of_ne (h : key ≠ name) : (fields.erase name).get? key = fields.get? key :=
  get?_filter (fun _ => by simpa using h) fields

theorem get?_erase_self : (fields.erase name).get? name = none := by
  refine get?_eq_none fun hname => ?_
  obtain ⟨entry, hentry, hkey⟩ := List.mem_map.mp hname
  have hne : entry.1 ≠ name := by simpa using (List.mem_filter.mp hentry).2
  exact hne hkey

end Fields

/-! ## Values -/

namespace Value

/-- The objects in a value have their fields in order. -/
inductive Ordered : Value → Prop where
  | null : Ordered .null
  | bool (b : Bool) : Ordered (.bool b)
  | num (n : Number) : Ordered (.num n)
  | str (s : String) : Ordered (.str s)
  | arr {items : List Value} (h : ∀ v ∈ items, Ordered v) : Ordered (.arr items)
  | obj {fields : Fields Value} (hnames : fields.Ordered) (h : ∀ entry ∈ fields, Ordered entry.2) :
      Ordered (.obj fields)

theorem documentsOf_eq_map (items : List Value) : documentsOf items = items.map toDocument := by
  induction items with
  | nil => rfl
  | cons v rest ih => rw [documentsOf, ih, List.map_cons]

theorem documentFieldsOf_eq_map (fields : Fields Value) :
    documentFieldsOf fields = fields.map fun entry => (entry.1, entry.2.toDocument) := by
  induction fields with
  | nil => rfl
  | cons entry rest ih => rw [documentFieldsOf, ih, List.map_cons]

end Value

namespace Document

theorem valuesOf_eq_map (items : List Document) : valuesOf items = items.map toValue := by
  induction items with
  | nil => rfl
  | cons d rest ih => rw [valuesOf, ih, List.map_cons]

theorem valueFieldsOf_eq_map (fields : Fields Document) :
    valueFieldsOf fields = fields.map fun entry => (entry.1, entry.2.toValue) := by
  induction fields with
  | nil => rfl
  | cons entry rest ih => rw [valueFieldsOf, ih, List.map_cons]

mutual

/-- Whatever a document holds, its value is in order. -/
theorem ordered_toValue : ∀ d : Document, d.toValue.Ordered
  | .null => .null
  | .bool b => .bool b
  | .int n => .num (.int n)
  | .float (.finite x) => .num (.float x)
  | .float (.infinity _) | .float .undefined => .null
  | .str s => .str s
  | .arr items => .arr (ordered_valuesOf items)
  | .obj fields =>
      .obj (Fields.ordered_ofList _) fun entry hentry =>
        ordered_valueFieldsOf fields entry (Fields.mem_of_mem_ofList hentry)

theorem ordered_valuesOf : ∀ items : List Document, ∀ v ∈ valuesOf items, v.Ordered
  | [] => by simp [valuesOf]
  | d :: rest => by
      rw [valuesOf, List.forall_mem_cons]
      exact ⟨ordered_toValue d, ordered_valuesOf rest⟩

theorem ordered_valueFieldsOf : ∀ fields : List (String × Document),
    ∀ entry ∈ valueFieldsOf fields, entry.2.Ordered
  | [] => by simp [valueFieldsOf]
  | (name, d) :: rest => by
      rw [valueFieldsOf, List.forall_mem_cons]
      exact ⟨ordered_toValue d, ordered_valueFieldsOf rest⟩

end

end Document

/-- A value in order is that of its document. -/
theorem Value.Ordered.toValue_toDocument {v : Value} (h : v.Ordered) : v.toDocument.toValue = v := by
  induction h with
  | null => rfl
  | bool b => rfl
  | num n => cases n <;> rfl
  | str s => rfl
  | @arr items _ ih =>
      rw [toDocument, documentsOf_eq_map, Document.toValue, Document.valuesOf_eq_map, List.map_map]
      exact congrArg Value.arr ((List.map_congr_left ih).trans (List.map_id' items))
  | @obj fields hnames _ ih =>
      have hfields : fields.map (fun entry => (entry.1, entry.2.toDocument.toValue)) = fields := by
        refine (List.map_congr_left ?_).trans (List.map_id' fields)
        intro entry hentry
        rw [ih entry hentry]
      rw [toDocument, documentFieldsOf_eq_map, Document.toValue, Document.valueFieldsOf_eq_map,
        List.map_map]
      have hlist := (congrArg Fields.ofList hfields).trans (Fields.ofList_of_ordered hnames)
      exact congrArg Value.obj hlist

/-! ## Records -/

namespace Document

theorem params?_toDocument {fields : Params} (h : (Value.obj fields).Ordered) :
    params? (Value.obj fields).toDocument = some fields :=
  congrArg some (Value.obj.inj h.toValue_toDocument)

theorem namedOnce_iff {fields : Fields Document} :
    namedOnce fields = true ↔ (fields.map Prod.fst).Nodup := by
  induction fields with
  | nil => simp [namedOnce]
  | cons entry rest ih =>
      rw [namedOnce, List.map_cons, List.nodup_cons, Bool.and_eq_true, ih, Bool.not_eq_true',
        ← Bool.not_eq_true, List.any_eq_true]
      simp only [beq_iff_eq, List.mem_map]

/-- Of fields that are named once all that are known are found. -/
theorem exists_fields? {fields : Fields Document} (h : (fields.map Prod.fst).Nodup)
    (names : List String) :
    ∃ known, (obj fields).fields? names = some known ∧
      ∀ name ∈ names, known.get? name = fields.get? name := by
  refine ⟨fields.filter fun entry => names.contains entry.1, ?_, fun name hname => ?_⟩
  · rw [fields?, if_pos]
    rw [namedOnce_iff]
    exact h.sublist (List.filter_sublist.map Prod.fst)
  · exact Fields.get?_filter (fun _ => by simpa using hname) fields

/-- The document of a value in order is read by what stands under each name. -/
theorem exists_fields?_toDocument {fields : Fields Value} (h : fields.Ordered)
    (names : List String) :
    ∃ known, (Value.obj fields).toDocument.fields? names = some known ∧
      ∀ name ∈ names, known.get? name = (fields.get? name).map Value.toDocument := by
  have hnames : ((Value.documentFieldsOf fields).map Prod.fst).Nodup := by
    rw [Value.documentFieldsOf_eq_map, List.map_map]
    exact h.nodup
  obtain ⟨known, hknown, hget⟩ := exists_fields? hnames names
  refine ⟨known, hknown, fun name hname => ?_⟩
  rw [hget name hname, Value.documentFieldsOf_eq_map, Fields.get?_map]

/-- What becomes of a document that is turned into a value. -/
def settle (d : Document) : Document := d.toValue.toDocument

theorem settle_arr (items : List Document) : (arr items).settle = .arr (items.map settle) := by
  rw [settle, toValue, valuesOf_eq_map, Value.toDocument, Value.documentsOf_eq_map, List.map_map]
  rfl

theorem settle_toDocument {v : Value} (h : v.Ordered) : v.toDocument.settle = v.toDocument := by
  rw [settle, h.toValue_toDocument]

theorem get?_toValue {fields : Fields Document} (h : (fields.map Prod.fst).Nodup) (name : String) :
    (Fields.ofList (valueFieldsOf fields)).get? name = (fields.get? name).map toValue := by
  have hnames : ((valueFieldsOf fields).map Prod.fst).Nodup := by
    rw [valueFieldsOf_eq_map, List.map_map]
    exact h
  rw [Fields.get?_ofList hnames, valueFieldsOf_eq_map, Fields.get?_map]

theorem exists_fields?_settle {fields : Fields Document} (h : (fields.map Prod.fst).Nodup)
    (names : List String) :
    ∃ known, (obj fields).settle.fields? names = some known ∧
      ∀ name ∈ names, known.get? name = (fields.get? name).map settle := by
  obtain ⟨known, hknown, hget⟩ :=
    exists_fields?_toDocument (Fields.ordered_ofList (valueFieldsOf fields)) names
  refine ⟨known, hknown, fun name hname => ?_⟩
  rw [hget name hname, get?_toValue h, Option.map_map]
  rfl

end Document

end Cohort
