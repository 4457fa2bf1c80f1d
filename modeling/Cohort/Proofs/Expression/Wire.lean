import Cohort.Expression.Wire
import Cohort.Proofs.Document.Respelling
import Cohort.Proofs.Expression.Meaning
import Mathlib.Logic.Relation

/-! # Expressions are read as they are written

What is written of an expression, well formed or not, is read back, and so is every other spelling of
it: a document is read the same whether what is left out is null, whether other fields stand in it,
and in whatever order.
-/

namespace Cohort

open Document

/-! ## Tags -/

namespace Tag

theorem ofDocument?_obj (fields : Fields Document) :
    ofDocument? (.obj fields) =
      if namedOnce (known fieldNames fields) = true then do
        return {
          builderId := ← field? fields "builderID" text?
          params := ← fieldOr? fields "params" (orDefault? params? []) [] }
      else none := by
  have hid : Fields.get? (known fieldNames fields) "builderID" = fields.get? "builderID" :=
    get?_known (by decide) fields
  have hparams : Fields.get? (known fieldNames fields) "params" = fields.get? "params" :=
    get?_known (by decide) fields
  have hrecord : (obj fields).record? fieldNames =
      if namedOnce (known fieldNames fields) = true then some (known fieldNames fields) else none := rfl
  rw [ofDocument?, hrecord]
  by_cases honce : namedOnce (known fieldNames fields) = true
  · rw [if_pos honce, if_pos honce, Option.bind_eq_bind, Option.bind_some]
    simp only [field?, fieldOr?, hid, hparams]
  · rw [if_neg honce, if_neg honce]
    rfl

/-- The document of a tag is written another way: its parameters may be left out or be null, and those
that are empty may be null as well. -/
inductive Respells : Document → Document → Prop where
  | fields {fields fields' : Fields Document}
      (h : Document.RespellsFields fieldNames (· = "params") fields fields') :
      Respells (.obj fields) (.obj fields')
  | emptyParams (before after : Fields Document) :
      Respells (.obj (before ++ ("params", .obj []) :: after))
        (.obj (before ++ ("params", .null) :: after))

theorem Respells.ofDocument?_eq {d d' : Document} (h : Respells d d') :
    ofDocument? d' = ofDocument? d := by
  cases h with
  | @fields fields fields' h =>
      rw [ofDocument?_obj, ofDocument?_obj, h.namedOnce_eq]
      by_cases honce : namedOnce (known fieldNames fields) = true
      · have hid : field? fields' "builderID" text? = field? fields "builderID" text? :=
          h.field?_eq honce (by decide) (by decide)
        have hparams : fieldOr? fields' "params" (orDefault? params? []) [] =
            fieldOr? fields "params" (orDefault? params? []) [] :=
          h.fieldOr?_eq honce (by decide) fun _ => rfl
        rw [if_pos honce, if_pos honce, hid, hparams]
      · rw [if_neg honce, if_neg honce]
  | emptyParams before after =>
      have hid : field? (before ++ ("params", .null) :: after) "builderID" text? =
          field? (before ++ ("params", .obj []) :: after) "builderID" text? := by
        simp [field?, Fields.get?_middle]
      have hparams : fieldOr? (before ++ ("params", .null) :: after) "params"
          (orDefault? params? []) [] =
          fieldOr? (before ++ ("params", .obj []) :: after) "params" (orDefault? params? []) [] :=
        fieldOr?_exchange before after fun _ => rfl
      rw [ofDocument?_obj, ofDocument?_obj, namedOnce_exchange (d := .obj []), hid, hparams]

theorem Respells.nullable?_eq {d d' : Document} (h : Respells d d') :
    nullable? ofDocument? d' = nullable? ofDocument? d := by
  have hread := congrArg (Option.map some) h.ofDocument?_eq
  cases h <;> exact hread

theorem ofDocument?_toDocument {t : Tag} (h : (Value.obj t.params).Ordered) :
    ofDocument? t.toDocument = some t := by
  have honce : namedOnce (known fieldNames [("builderID", .str t.builderId),
      ("params", (Value.obj t.params).toDocument)]) = true := rfl
  have hid : field? [("builderID", .str t.builderId), ("params", (Value.obj t.params).toDocument)]
      "builderID" text? = some t.builderId := rfl
  have hparams : fieldOr? [("builderID", .str t.builderId),
      ("params", (Value.obj t.params).toDocument)] "params" (orDefault? params? []) [] =
        some t.params := by
    have hread := params?_toDocument h
    rw [Value.toDocument] at hread ⊢
    exact hread
  rw [toDocument, ofDocument?_obj, if_pos honce, hid, hparams]
  rfl

end Tag

/-! ## Expressions -/

theorem SetOperation.key_inj {op op' : SetOperation} : op.key = op'.key ↔ op = op' := by
  cases op <;> cases op' <;> decide

theorem SetOperation.key_ne_tag (op : SetOperation) : op.key ≠ "tag" := by
  cases op <;> decide

theorem SetOperation.key_mem (op : SetOperation) : op.key ∈ Expression.fieldNames := by
  cases op <;> decide

theorem SetOperation.ofKey?_key (op : SetOperation) : ofKey? op.key = some op := by
  cases op <;> decide

theorem SetOperation.eq_key_of_ofKey? {op : SetOperation} {name : String}
    (h : ofKey? name = some op) : name = op.key := by
  have hname := List.find?_some h
  exact (beq_iff_eq.mp hname).symm

namespace Expression

variable {fields fields' : Fields Document} {e : Expression} {op : SetOperation}

/-- The children in the field of an operation, if there is one. -/
def childrenUnder? (fields : Fields Document) (op : SetOperation) : Option (List Expression) :=
  fieldOr? fields op.key childrenOf? []

/-- The tag in its field, if there is one. -/
def tagUnder? (fields : Fields Document) : Option (Option Tag) :=
  fieldOr? fields "tag" (nullable? Tag.ofDocument?) none

/-- The expression of the parts in some fields. -/
def ofParts? (fields : Fields Document) : Option Expression := do
  return {
    intersect := ← childrenUnder? fields .intersect
    union := ← childrenUnder? fields .union
    except := ← childrenUnder? fields .except
    tag := ← tagUnder? fields }

theorem childrenUnder?_cons_self (d : Document) (rest : Fields Document) (op : SetOperation) :
    childrenUnder? ((op.key, d) :: rest) op = childrenOf? d := by
  simp [childrenUnder?, fieldOr?, Fields.get?]

theorem ofParts?_cons_key {rest : Fields Document} (h : op.key ∉ rest.map Prod.fst) (d : Document) :
    ofParts? ((op.key, d) :: rest) = do
      let e ← ofParts? rest
      return e.withChildren op (← childrenOf? d) := by
  have hnone : childrenUnder? rest op = some [] := by
    rw [childrenUnder?, fieldOr?, Fields.get?_eq_none h]
  have hother : ∀ op', op' ≠ op →
      childrenUnder? ((op.key, d) :: rest) op' = childrenUnder? rest op' := fun op' hop =>
    fieldOr?_cons_of_ne (fun hkey => hop (SetOperation.key_inj.mp hkey)) d rest
  have htag : tagUnder? ((op.key, d) :: rest) = tagUnder? rest :=
    fieldOr?_cons_of_ne op.key_ne_tag.symm d rest
  have hself := childrenUnder?_cons_self d rest op
  cases op <;>
    simp only [ofParts?, hself, hother, hnone, htag, ne_eq, reduceCtorEq, not_false_iff] <;>
    cases childrenOf? d <;> cases childrenUnder? rest .intersect <;>
    cases childrenUnder? rest .union <;> cases childrenUnder? rest .except <;>
    cases tagUnder? rest <;> rfl

theorem ofParts?_cons_tag {rest : Fields Document} (h : "tag" ∉ rest.map Prod.fst) (d : Document) :
    ofParts? (("tag", d) :: rest) = do
      let e ← ofParts? rest
      return { e with tag := ← nullable? Tag.ofDocument? d } := by
  have hnone : tagUnder? rest = some none := by
    rw [tagUnder?, fieldOr?, Fields.get?_eq_none h]
  have hchildren : ∀ op, childrenUnder? (("tag", d) :: rest) op = childrenUnder? rest op :=
    fun op => fieldOr?_cons_of_ne op.key_ne_tag d rest
  have hself : tagUnder? (("tag", d) :: rest) = nullable? Tag.ofDocument? d := by
    simp [tagUnder?, fieldOr?, Fields.get?]
  simp only [ofParts?, hself, hchildren, hnone]
  cases nullable? Tag.ofDocument? d <;> cases childrenUnder? rest .intersect <;>
    cases childrenUnder? rest .union <;> cases childrenUnder? rest .except <;> rfl

theorem ofParts?_congr (hchildren : ∀ op, childrenUnder? fields' op = childrenUnder? fields op)
    (htag : tagUnder? fields' = tagUnder? fields) : ofParts? fields' = ofParts? fields := by
  simp only [ofParts?, hchildren, htag]

theorem ofFields?_eq (h : ((known fieldNames fields).map Prod.fst).Nodup) :
    ofFields? fields = ofParts? fields := by
  induction fields with
  | nil => rfl
  | cons entry rest ih =>
      obtain ⟨name, d⟩ := entry
      have hrest : ((known fieldNames rest).map Prod.fst).Nodup :=
        h.sublist (((List.sublist_cons_self _ _).filter _).map _)
      have hfresh : name ∈ fieldNames → name ∉ rest.map Prod.fst := by
        intro hname hmem
        obtain ⟨entry, hentry, rfl⟩ := List.mem_map.mp hmem
        rw [known, List.filter_cons, if_pos (by simpa using hname), List.map_cons,
          List.nodup_cons] at h
        refine h.1 (List.mem_map.mpr ⟨entry, List.mem_filter.mpr ⟨hentry, ?_⟩, rfl⟩)
        simpa using hname
      rw [ofFields?, ih hrest]
      cases hop : SetOperation.ofKey? name with
      | some op =>
          obtain rfl := SetOperation.eq_key_of_ofKey? hop
          exact (ofParts?_cons_key (hfresh op.key_mem) d).symm
      | none =>
          have hkey : ∀ op : SetOperation, op.key ≠ name := by
            rintro op rfl
            rw [op.ofKey?_key] at hop
            cases hop
          by_cases htag : name = "tag"
          · subst htag
            exact (ofParts?_cons_tag (hfresh (by decide)) d).symm
          · have hsame : ofParts? ((name, d) :: rest) = ofParts? rest :=
              ofParts?_congr (fun op => fieldOr?_cons_of_ne (hkey op) d rest)
                (fieldOr?_cons_of_ne (Ne.symm htag) d rest)
            simp only [if_neg htag, hsame]
            cases ofParts? rest <;> rfl

theorem ofDocument?_obj (fields : Fields Document) :
    ofDocument? (.obj fields) =
      if namedOnce (known fieldNames fields) = true then ofParts? fields else none := by
  rw [ofDocument?]
  split
  · next honce => exact ofFields?_eq (namedOnce_iff.mp honce)
  · rfl

/-- The document of an expression is written another way, at one of its nodes or in a tag: lists and
tag may be null where they are left out. -/
inductive Respells : Document → Document → Prop where
  | fields {fields fields' : Fields Document}
      (h : Document.RespellsFields fieldNames (· ∈ fieldNames) fields fields') :
      Respells (.obj fields) (.obj fields')
  | child (op : SetOperation) (before after : Fields Document) (xs ys : List Document)
      {d d' : Document} (h : Respells d d') :
      Respells (.obj (before ++ (op.key, .arr (xs ++ d :: ys)) :: after))
        (.obj (before ++ (op.key, .arr (xs ++ d' :: ys)) :: after))
  | tag (before after : Fields Document) {d d' : Document} (h : Tag.Respells d d') :
      Respells (.obj (before ++ ("tag", d) :: after)) (.obj (before ++ ("tag", d') :: after))

theorem ofDocuments?_exchange {d d' : Document} (h : ofDocument? d' = ofDocument? d)
    (xs ys : List Document) : ofDocuments? (xs ++ d' :: ys) = ofDocuments? (xs ++ d :: ys) := by
  induction xs with
  | nil => rw [List.nil_append, List.nil_append, ofDocuments?, ofDocuments?, h]
  | cons x xs ih => rw [List.cons_append, List.cons_append, ofDocuments?, ofDocuments?, ih]

/-- A document that is written another way is read as the same expression, or not at all as before. -/
theorem Respells.ofDocument?_eq {d d' : Document} (h : Respells d d') :
    ofDocument? d' = ofDocument? d := by
  induction h with
  | @fields fields fields' h =>
      rw [ofDocument?_obj, ofDocument?_obj, h.namedOnce_eq]
      by_cases honce : namedOnce (known fieldNames fields) = true
      · rw [if_pos honce, if_pos honce]
        exact ofParts?_congr (fun op => h.fieldOr?_eq honce op.key_mem fun _ => rfl)
          (h.fieldOr?_eq honce (by decide) fun _ => rfl)
      · rw [if_neg honce, if_neg honce]
  | @child op before after xs ys d d' h ih =>
      have hchildren : childrenOf? (.arr (xs ++ d' :: ys)) = childrenOf? (.arr (xs ++ d :: ys)) := by
        rw [childrenOf?, childrenOf?, ofDocuments?_exchange ih]
      rw [ofDocument?_obj, ofDocument?_obj, namedOnce_exchange (d := .arr (xs ++ d :: ys)),
        ofParts?_congr (fun op' => fieldOr?_exchange before after fun _ => hchildren)
          (fieldOr?_exchange before after fun htag => absurd htag.symm op.key_ne_tag)]
  | @tag before after d d' h =>
      rw [ofDocument?_obj, ofDocument?_obj, namedOnce_exchange (d := d),
        ofParts?_congr (fun op => fieldOr?_exchange before after fun hkey =>
            absurd hkey op.key_ne_tag)
          (fieldOr?_exchange before after fun _ => h.nullable?_eq)]

/-! ## Writing -/

/-- The fields of an expression as they are written. -/
def toFields (e : Expression) : Fields Document :=
  childField .intersect (e.intersect.map toDocument) ++ childField .union (e.union.map toDocument) ++
    childField .except (e.except.map toDocument) ++ e.tag.toList.map fun t => ("tag", t.toDocument)

theorem documentsOf_eq_map (es : List Expression) : documentsOf es = es.map toDocument := by
  induction es with
  | nil => rw [documentsOf, List.map_nil]
  | cons e es ih => rw [documentsOf, ih, List.map_cons]

theorem toDocument_eq (e : Expression) : e.toDocument = .obj e.toFields := by
  cases e
  rw [toDocument]
  simp only [documentsOf_eq_map, toFields]

theorem names_childField (op : SetOperation) (ds : List Document) :
    ((childField op ds).map Prod.fst).Sublist [op.key] := by
  cases ds <;> simp [childField]

theorem nodup_toFields (e : Expression) : (e.toFields.map Prod.fst).Nodup := by
  have htag : ((e.tag.toList.map fun t => ("tag", t.toDocument)).map Prod.fst).Sublist ["tag"] := by
    cases e.tag <;> simp
  have hnames : (["intersect"] ++ ["union"] ++ ["except"] ++ ["tag"]).Nodup := by decide
  refine hnames.sublist ?_
  simp only [toFields, List.map_append]
  exact (((names_childField .intersect _).append (names_childField .union _)).append
    (names_childField .except _)).append htag

theorem mem_toFields_iff {name : String} {d : Document} :
    (name, d) ∈ e.toFields ↔
      (∃ op, e.children op ≠ [] ∧ name = op.key ∧ d = .arr ((e.children op).map toDocument)) ∨
        ∃ t, e.tag = some t ∧ name = "tag" ∧ d = t.toDocument := by
  have hfield : ∀ op (es : List Expression), (name, d) ∈ childField op (es.map toDocument) ↔
      es ≠ [] ∧ name = op.key ∧ d = .arr (es.map toDocument) := by
    intro op es
    cases es <;> simp [childField]
  have hop : ∀ {p : SetOperation → Prop}, (∃ op, p op) ↔ (p .intersect ∨ p .union) ∨ p .except := by
    intro p
    constructor
    · rintro ⟨op, h⟩
      cases op with
      | intersect => exact .inl (.inl h)
      | union => exact .inl (.inr h)
      | except => exact .inr h
    · rintro ((h | h) | h) <;> exact ⟨_, h⟩
  rw [hop, toFields, List.mem_append, List.mem_append, List.mem_append, hfield, hfield, hfield]
  refine or_congr Iff.rfl ?_
  simp [eq_comm]

theorem get?_toFields_key (e : Expression) (op : SetOperation) :
    Fields.get? e.toFields op.key =
      if e.children op = [] then none else some (.arr ((e.children op).map toDocument)) := by
  refine Option.ext fun d => ?_
  rw [Fields.get?_eq_some_iff e.nodup_toFields, mem_toFields_iff]
  constructor
  · rintro (⟨op', hne, hkey, rfl⟩ | ⟨t, -, htag, -⟩)
    · obtain rfl := SetOperation.key_inj.mp hkey
      rw [if_neg hne]
    · exact absurd htag op.key_ne_tag
  · intro h
    split at h
    · cases h
    · next hne => exact .inl ⟨op, hne, rfl, (Option.some.inj h).symm⟩

theorem get?_toFields_tag (e : Expression) :
    Fields.get? e.toFields "tag" = e.tag.map Tag.toDocument := by
  refine Option.ext fun d => ?_
  rw [Fields.get?_eq_some_iff e.nodup_toFields, mem_toFields_iff, Option.map_eq_some_iff]
  constructor
  · rintro (⟨op, -, hkey, -⟩ | ⟨t, ht, -, rfl⟩)
    · exact absurd hkey.symm op.key_ne_tag
    · exact ⟨t, ht, rfl⟩
  · rintro ⟨t, ht, rfl⟩
    exact .inr ⟨t, ht, rfl, rfl⟩

theorem ofDocuments?_map {es : List Expression}
    (h : ∀ e ∈ es, ofDocument? e.toDocument = some e) :
    ofDocuments? (es.map toDocument) = some es := by
  induction es with
  | nil => rfl
  | cons e es ih =>
      obtain ⟨he, hes⟩ := List.forall_mem_cons.mp h
      rw [List.map_cons, ofDocuments?, he, ih hes]
      rfl

theorem mem_leaves_of_mem_children {c : Expression} {t : Tag} (hc : c ∈ e.children op)
    (ht : t ∈ c.leaves) : t ∈ e.leaves := by
  obtain ⟨intersect, union, except, tag⟩ := e
  have hmem : t ∈ leavesOf (children ⟨intersect, union, except, tag⟩ op) := by
    rw [leavesOf_eq_flatMap]
    exact List.mem_flatMap.mpr ⟨c, hc, ht⟩
  rw [leaves]
  cases op <;> simp [children] at hmem <;> simp [hmem]

theorem mem_leaves_of_tag {t : Tag} (h : e.tag = some t) : t ∈ e.leaves := by
  obtain ⟨intersect, union, except, tag⟩ := e
  obtain rfl : tag = some t := h
  simp [leaves]

/-- An expression whose parameters are in order is read as it is written. -/
theorem ofDocument?_toDocument (e : Expression) :
    (∀ t ∈ e.leaves, (Value.obj t.params).Ordered) → ofDocument? e.toDocument = some e := by
  induction e using node_induction with
  | hnode e ih =>
      intro h
      have honce : namedOnce (known fieldNames e.toFields) = true :=
        namedOnce_iff.mpr (e.nodup_toFields.sublist (List.filter_sublist.map _))
      have hchildren : ∀ op, childrenUnder? e.toFields op = some (e.children op) := by
        intro op
        have hread := ofDocuments?_map fun c hc =>
          ih op c hc fun t ht => h t (mem_leaves_of_mem_children hc ht)
        rw [childrenUnder?, fieldOr?, get?_toFields_key]
        by_cases hnil : e.children op = []
        · rw [if_pos hnil, hnil]
        · rw [if_neg hnil]
          exact hread
      have htag : tagUnder? e.toFields = some e.tag := by
        rw [tagUnder?, fieldOr?, get?_toFields_tag]
        cases htag : e.tag with
        | none => rfl
        | some t =>
            have hread := Tag.ofDocument?_toDocument (h t (mem_leaves_of_tag htag))
            exact congrArg (Option.map some) hread
      rw [toDocument_eq, ofDocument?_obj, if_pos honce, ofParts?, hchildren, hchildren, hchildren,
        htag]
      cases e
      rfl

/-! ## Main result -/

/-- What is written of an expression holds, at each of its nodes, the lists that are not empty and
the tag if there is one, each once, and nothing else. It is read back as the expression, and so is
every other spelling of it. -/
theorem read_back_respelled {e : Expression} (h : ∀ t ∈ e.leaves, (Value.obj t.params).Ordered) :
    ofDocument? e.toDocument = some e ∧
    (∃ fields, e.toDocument = .obj fields ∧ (fields.map Prod.fst).Nodup ∧
      ∀ name d, (name, d) ∈ fields ↔
        (∃ op, e.children op ≠ [] ∧ name = op.key ∧ d = .arr ((e.children op).map toDocument)) ∨
          ∃ t, e.tag = some t ∧ name = "tag" ∧ d = t.toDocument) ∧
    ∀ d, Relation.ReflTransGen Respells e.toDocument d → ofDocument? d = some e := by
  have hread := e.ofDocument?_toDocument h
  refine ⟨hread, ⟨e.toFields, e.toDocument_eq, e.nodup_toFields, fun name d => mem_toFields_iff⟩,
    fun d hd => ?_⟩
  induction hd with
  | refl => exact hread
  | tail _ hstep ih => rw [hstep.ofDocument?_eq, ih]

/-- A node with a list and a tag, which is not well formed. -/
def taggedList : Expression :=
  ⟨[ofTag ⟨"gender", [("value", .str "MALE")]⟩], [], [], some ⟨"adult", []⟩⟩

/-- What is written of it. -/
def taggedListFields : Fields Document :=
  [("intersect", .arr [.obj [("tag", .obj [("builderID", .str "gender"),
      ("params", .obj [("value", .str "MALE")])])]]),
    ("tag", .obj [("builderID", .str "adult"), ("params", .obj [])])]

/-- Another spelling of it. -/
def taggedListRespelled : Document :=
  .obj [("intersect", .arr [.obj [("note", .bool true), ("tag", .obj [("builderID", .str "gender"),
      ("params", .obj [("value", .str "MALE")])])]]),
    ("union", .null), ("tag", .obj [("builderID", .str "adult"), ("params", .null)])]

theorem read_back_taggedList :
    (∀ t ∈ taggedList.leaves, (Value.obj t.params).Ordered) ∧
      taggedList.toDocument = .obj taggedListFields ∧
      ofDocument? taggedList.toDocument = some taggedList ∧
      ofDocument? taggedListRespelled = some taggedList := by
  have hleaves : taggedList.leaves = [⟨"gender", [("value", .str "MALE")]⟩, ⟨"adult", []⟩] := by
    simp [taggedList, leaves, leavesOf, ofTag]
  have hordered : ∀ t ∈ taggedList.leaves, (Value.obj t.params).Ordered := by
    rw [hleaves, List.forall_mem_cons, List.forall_mem_singleton]
    exact ⟨.obj (List.pairwise_singleton _ _) (by simpa using .str "MALE"), .obj .nil (by simp)⟩
  have hwritten : taggedList.toDocument = .obj taggedListFields := by
    simp [taggedList, taggedListFields, ofTag, toDocument, documentsOf, childField,
      Tag.toDocument, Value.toDocument, Value.documentFieldsOf, SetOperation.key]
  have hunion : Respells (.obj taggedListFields) _ :=
    .fields (.null (taggedListFields.take 1) (taggedListFields.drop 1) "union" (by decide)
      (by decide))
  have hparams : Respells
      (.obj (taggedListFields.take 1 ++ ("union", .null) :: taggedListFields.drop 1)) _ :=
    .tag (taggedListFields.take 1 ++ [("union", .null)]) []
      (.emptyParams [("builderID", .str "adult")] [])
  have hnote : Respells _ taggedListRespelled :=
    .child .intersect []
      [("union", .null), ("tag", .obj [("builderID", .str "adult"), ("params", .null)])] [] []
      (.fields (.unknown [] _ "note" (by decide) (.bool true)))
  obtain ⟨hread, -, hall⟩ := read_back_respelled hordered
  rw [hwritten] at hall
  have hchain := ((Relation.ReflTransGen.single hunion).tail hparams).tail hnote
  exact ⟨hordered, hwritten, hread, hall _ hchain⟩

end Expression

end Cohort
