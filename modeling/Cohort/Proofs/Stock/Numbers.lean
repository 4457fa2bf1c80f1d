import Cohort.Proofs.Stock.Answers
import Cohort.Proofs.Stock.Trees
import Cohort.Stock.Event

/-! # Stock builders on numbers, dates and events

The form of a builder and its template are written apart from each other. Here they are brought
together: what the form lets pass, the template finds.
-/

namespace Cohort.Stock

open Template

variable {params : Params}

/-! ## What queries say for what is submitted -/

/-- What a query says for the name that is submitted in a field, by a table. -/
def Chosen (params : Params) (field : String) (table : List (String × String)) (text : String) :
    Prop :=
  ∃ name, params.get? field = some (.str name) ∧ (name, text) ∈ table

/-- The signs of the operators that compare to one number. -/
def signs : List (String × String) :=
  [("EQ", "="), ("NE", "!="), ("LT", "<"), ("LTE", "<="), ("GT", ">"), ("GTE", ">=")]

/-- The times from which events are counted. -/
def starts : List (String × String) :=
  [("7D", "TIMESTAMP_SUB(CURRENT_TIMESTAMP(), INTERVAL 7 DAY)"),
    ("10D", "TIMESTAMP_SUB(CURRENT_TIMESTAMP(), INTERVAL 10 DAY)"),
    ("30D", "TIMESTAMP_SUB(CURRENT_TIMESTAMP(), INTERVAL 30 DAY)"),
    ("90D", "TIMESTAMP_SUB(CURRENT_TIMESTAMP(), INTERVAL 90 DAY)")]

/-- What is counted of events. -/
def aggregates : List (String × String) :=
  [("COUNT", "COUNT(1)"), ("DAYS", "COUNT(DISTINCT DATE(created_at))")]

/-! ## What a form lets pass -/

/-- What a number is compared to in the parameters, with a gap for each value that is bound: an
operator that takes one operand with it, or two bounds. -/
inductive Compares (operator value low high : String) (params : Params) : Skeleton → Prop where
  | single {sign : String} {v : Value} (hsign : Chosen params operator signs sign)
      (hv : params.get? value = some v) :
        Compares operator value low high params (.gap (" " ++ sign ++ " ") v (.last ""))
  | between {v w : Value} (hoperator : params.get? operator = some (.str "BETWEEN"))
      (hv : params.get? low = some v) (hw : params.get? high = some w) :
        Compares operator value low high params
          (.gap " BETWEEN " v (.gap " AND " w (.last "")))

/-- The slots of a number: the operand is not asked for between two bounds, and these only then. -/
structure NumberSlots (operator value low high : String)
    (operatorSlot valueSlot lowSlot highSlot : Slot) : Prop where
  asksOperator : operatorSlot.Asks operator [] []
  asksValue : valueSlot.Asks value (whenEqual operator NumberOperator.between.name) []
  asksLow : lowSlot.Asks low [] (whenEqual operator NumberOperator.between.name)
  asksHigh : highSlot.Asks high [] (whenEqual operator NumberOperator.between.name)
  plain : Condition.hasOperators operator = false

theorem exists_sign {op : NumberOperator} (h : op ≠ .between) :
    ∃ sign, (op.name, sign) ∈ signs := by
  cases op with
  | between => exact absurd rfl h
  | _ => exact ⟨_, by simp [signs, NumberOperator.name]; rfl⟩

theorem NumberOperator.name_inj {op op' : NumberOperator} (h : op.name = op'.name) : op = op' := by
  cases op <;> cases op' <;> simp_all [NumberOperator.name]

section

variable {operator value low high : String} {operatorSlot valueSlot lowSlot highSlot : Slot}
  {label : NumberOperator → String} {valueControl lowControl highControl : Control}

/-- A form with the slots of a number lets nothing pass but a whole comparison. -/
theorem NumberSlots.exists_compares
    (h : NumberSlots operator value low high operatorSlot valueSlot lowSlot highSlot)
    (hoperator : Fragment.Passes ⟨operatorSlot,
      .select (NumberOperator.all.map (optionOf NumberOperator.name label)) false⟩ params)
    (hvalue : Fragment.Passes ⟨valueSlot, valueControl⟩ params)
    (hlow : Fragment.Passes ⟨lowSlot, lowControl⟩ params)
    (hhigh : Fragment.Passes ⟨highSlot, highControl⟩ params) :
    ∃ s, Compares operator value low high params s := by
  obtain ⟨op, -, hop⟩ := name_of_passes h.asksOperator hoperator
  have hholds : Condition.holds params (whenEqual operator NumberOperator.between.name) =
      .ok (op.name == NumberOperator.between.name) := by
    rw [whenEqual, Condition.holds_equal h.plain hop, Value.same]
  have hne : whenEqual operator NumberOperator.between.name ≠ [] := List.cons_ne_nil _ _
  by_cases hbetween : op = .between
  · subst hbetween
    have hskip := h.asksLow.shouldSkip_skipUnless hne hholds
    have hskip' := h.asksHigh.shouldSkip_skipUnless hne hholds
    obtain ⟨v, hv, -⟩ := h.asksLow.of_passes (by simpa using hskip) hlow
    obtain ⟨w, hw, -⟩ := h.asksHigh.of_passes (by simpa using hskip') hhigh
    exact ⟨_, .between hop hv hw⟩
  · have hname : (op.name == NumberOperator.between.name) = false := by
      simpa using fun heq => hbetween (NumberOperator.name_inj heq)
    have hskip := h.asksValue.shouldSkip_skipIf hne hholds
    rw [hname] at hskip
    obtain ⟨v, hv, -⟩ := h.asksValue.of_passes hskip hvalue
    obtain ⟨sign, hsign⟩ := exists_sign hbetween
    exact ⟨_, .single ⟨op.name, hop, hsign⟩ hv⟩

/-! ## What a template finds -/

/-- A choice that has a case for each name of a table shows the case of what was chosen. -/
theorem Chosen.shows {field text : String} {table : List (String × String)}
    {cases : List (String × List Node)} {nodes : List Node} {s t : Skeleton}
    (h : Chosen params field table text) (body : String → List Node)
    (hcases : ∀ entry ∈ table, cases.lookup entry.1 = some (body entry.2))
    (otherwise : Option (List Node)) (hbody : Shows params (body text) s)
    (hrest : Shows params nodes t) :
    Shows params (.choice field cases otherwise :: nodes) (s ++ t) := by
  obtain ⟨name, hname, hmem⟩ := h
  exact Shows.choice hname (hcases (name, text) hmem) otherwise hbody hrest

theorem lookup_numberCases {join : List Node} : ∀ entry ∈ signs,
    (numberCases value low join high).lookup entry.1 =
      some [.text (" " ++ entry.2 ++ " "), .action (.arg value)] := by
  simp only [signs, List.forall_mem_cons]
  exact ⟨rfl, rfl, rfl, rfl, rfl, rfl, by simp⟩

theorem Compares.shows {s t : Skeleton} {join nodes : List Node}
    (hjoin : ∀ w, params.get? high = some w →
      Shows params (join ++ [.action (.arg high)]) (.gap " AND " w (.last "")))
    (h : Compares operator value low high params s) (hrest : Shows params nodes t) :
    Shows params (numberNode operator value low join high :: nodes) (s ++ t) := by
  cases h with
  | single hsign hv =>
      exact hsign.shows (fun sign => [.text (" " ++ sign ++ " "), .action (.arg value)])
        lookup_numberCases _ (shows_nil.textArg _ hv) hrest
  | between hoperator hv hw =>
      exact Shows.choice hoperator rfl _ ((hjoin _ hw).textArg " BETWEEN " hv) hrest

end

/-! ## Builders -/

/-- A name that stands in a source as it is: it opens no action, and white space behind it is not its
own. -/
structure Writable (name : String) : Prop where
  ne_empty : name ≠ ""
  opens_nothing : ¬ ['\x7b', '\x7b'] <:+: name.toList
  last : endsInBlank name.toList = false

theorem exists_compares_of_numberView {min max : Extended}
    (hok : (numberView min max).validate params = .ok ()) :
    ∃ s, Compares "operator" "value" "min" "max" params s := by
  have hpasses := View.validate_eq_ok_iff.mp hok
  simp only [numberView, List.forall_mem_cons] at hpasses
  obtain ⟨hoperator, hvalue, hlow, -, hhigh, -⟩ := hpasses
  refine NumberSlots.exists_compares ?_ hoperator hvalue hlow hhigh
  exact ⟨asks_required (by decide) _ _ _, asks_required (by decide) _ _ _,
    asks_required (by decide) _ _ _, asks_required (by decide) _ _ _, by decide⟩

theorem Compares.shows_number {s : Skeleton}
    (hs : Compares "operator" "value" "min" "max" params s) :
    Shows params [numberNode "operator" "value" "min" [.text " AND "] "max"] (s ++ .last "") :=
  hs.shows (fun _ hw => shows_nil.textArg " AND " hw) shows_nil

theorem answers_number (t : FieldTag) (min max : Extended) (f : Placeholder) (ctx : Context)
    (params : Params) (h : Writable t.column) :
    Answers (numberBuilder t min max f).toSqlBuilder ctx params fun sql =>
      ∃ s, Compares "operator" "value" "min" "max" params s ∧
        sql = ⟨"SELECT user_id FROM users WHERE " ++ t.column ++ s.fill f ctx.argOffset,
          s.values⟩ := by
  refine answers_of_shows rfl (read_numberSource h.opens_nothing h.ne_empty h.last) fun hok => ?_
  obtain ⟨s, hs⟩ := exists_compares_of_numberView hok
  refine ⟨_, hs.shows_number.text _, s, hs, ?_⟩
  simp [Skeleton.fill_append, numberBuilder]

theorem answers_period (t : FieldTag) (includeTime : Bool) (f : Placeholder) (ctx : Context)
    (params : Params) (h : ¬ ['\x7b', '\x7b'] <:+: t.column.toList) :
    Answers (periodBuilder t includeTime f).toSqlBuilder ctx params fun sql =>
      ∃ v w, params.get? "start" = some v ∧ params.get? "end" = some w ∧
        sql = ⟨"SELECT user_id FROM users WHERE " ++ t.column ++ " BETWEEN " ++ f ctx.argOffset ++
          " AND " ++ f (ctx.argOffset + 1), [v, w]⟩ := by
  refine answers_of_shows rfl (read_periodSource h) fun hok => ?_
  have hstart : (required "start").Asks "start" [] [] := asks_required (by decide) _ _ _
  have hend : (required "end").Asks "end" [] [] := asks_required (by decide) _ _ _
  have hpasses := View.validate_eq_ok_iff.mp hok
  simp only [periodView, List.forall_mem_cons] at hpasses
  obtain ⟨-, hfirst, -, hlast, -⟩ := hpasses
  obtain ⟨v, hv, -⟩ := hstart.of_passes hstart.shouldSkip_nil hfirst
  obtain ⟨w, hw, -⟩ := hend.of_passes hend.shouldSkip_nil hlast
  refine ⟨_, (shows_nil.textArg " AND " hw).textArg _ hv, v, w, hv, hw, ?_⟩
  simp [Skeleton.fill, periodBuilder, String.append_assoc]

/-- A quote that is written twice parts braces as one does. -/
theorem not_opens_quoteText {event : String} (h : ¬ ['\x7b', '\x7b'] <:+: event.toList) :
    ¬ ['\x7b', '\x7b'] <:+: (quoteText event '\'').toList := by
  have hdoubled : ∀ s : List Char, ¬ ['\x7b', '\x7b'] <:+: s →
      ¬ ['\x7b', '\x7b'] <:+: s.flatMap fun c => if c = '\'' then [c, c] else [c] := by
    intro s hs
    induction s with
    | nil => exact hs
    | cons c s ih =>
        rw [List.infix_cons_iff, not_or] at hs
        have hrest := ih hs.2
        rw [List.flatMap_cons]
        by_cases hquote : c = '\''
        · subst hquote
          exact not_opens_append_right (by decide) hrest
        · rw [if_neg hquote, List.singleton_append, List.infix_cons_iff, not_or]
          refine ⟨fun hfirst => hs.1 ?_, hrest⟩
          obtain ⟨rfl, hnext⟩ := List.cons_prefix_cons.mp hfirst
          cases s with
          | nil => simp at hnext
          | cons d s =>
              have hd : d = '\x7b' := by
                by_cases hquote' : d = '\'' <;> simp [hquote'] at hnext
                exact hnext.symm
              exact ⟨s, by rw [hd]; rfl⟩
  rw [quoteText, String.toList_ofList]
  have hend := not_opens_append_left (t := ['\'']) (hdoubled _ h) (by decide)
  exact not_opens_append_right (s := ['\'']) (by decide) hend

theorem mem_starts (r : TimeRange) : (r.name, r.start) ∈ starts := by
  cases r <;> decide

theorem mem_aggregates (a : Accumulation) : (a.name, a.aggregate) ∈ aggregates := by
  cases a <;> decide

theorem shows_range {start : String} {nodes : List Node} {s : Skeleton}
    (hstart : Chosen params "timeRange" starts start) (h : Shows params nodes s) :
    Shows params (rangeNode :: nodes) (.last (" " ++ start) ++ s) := by
  refine hstart.shows (fun text => [.text (" " ++ text)]) ?_ _ (shows_text (" " ++ start)) h
  simp only [starts, List.forall_mem_cons]
  exact ⟨rfl, rfl, rfl, rfl, by simp⟩

theorem shows_accumulation {aggregate : String} {nodes : List Node} {s : Skeleton}
    (haggregate : Chosen params "accumulation" aggregates aggregate) (h : Shows params nodes s) :
    Shows params (accumulationNode :: nodes) (.last ("\nHAVING " ++ aggregate) ++ s) := by
  refine haggregate.shows (fun text => [.text ("\nHAVING " ++ text)]) ?_ _
    (shows_text ("\nHAVING " ++ aggregate)) h
  simp only [aggregates, List.forall_mem_cons]
  exact ⟨rfl, rfl, by simp⟩

/-- An event template answers by its form, whatever its first line shows. -/
theorem answers_event_of_read (event label : String) (categoryId : Option String)
    (f : Placeholder) (ctx : Context) (params : Params) {first : String} {nodes : List Node}
    (hread : Template.read (eventSource (quoteText event '\'')) = .ok ⟨nodes ++ eventBody⟩)
    (hfirst : ∀ {rest : List Node} {s : Skeleton}, Shows params rest s →
      Shows params (nodes ++ rest) (s.behind first)) :
    Answers (eventBuilder event label categoryId f).toSqlBuilder ctx params fun sql =>
      ∃ start aggregate s, Chosen params "timeRange" starts start ∧
        Chosen params "accumulation" aggregates aggregate ∧
        Compares "countOperator" "countValue" "countMin" "countMax" params s ∧
        sql = ⟨first ++ " " ++ start ++ "\nGROUP BY user_id\nHAVING " ++ aggregate ++
            s.fill f ctx.argOffset, s.values⟩ := by
  refine answers_of_shows rfl hread fun hok => ?_
  have hpasses := View.validate_eq_ok_iff.mp hok
  simp only [eventView, List.forall_mem_cons] at hpasses
  obtain ⟨-, haccumulation, hoperator, hvalue, hlow, -, hhigh, -, hrange, -⟩ := hpasses
  obtain ⟨s, hs⟩ : ∃ s, Compares "countOperator" "countValue" "countMin" "countMax" params s := by
    refine NumberSlots.exists_compares ?_ hoperator hvalue hlow hhigh
    exact ⟨asks_required (by decide) _ _ _, asks_required (by decide) _ _ _,
      asks_required (by decide) _ _ _, asks_required (by decide) _ _ _, by decide⟩
  obtain ⟨a, -, ha⟩ :
      ∃ a ∈ Accumulation.all, params.get? "accumulation" = some (.str a.name) :=
    name_of_passes (asks_required (by decide) _ _ _) haccumulation
  obtain ⟨r, -, hr⟩ : ∃ r ∈ TimeRange.all, params.get? "timeRange" = some (.str r.name) :=
    name_of_passes (asks_required (by decide) _ _ _) hrange
  have hand : ∀ w, params.get? "countMax" = some w →
      Shows params ([.action (.literal " AND ")] ++ [.action (.arg "countMax")])
        (.gap " AND " w (.last "")) := by
    intro w hw
    exact (shows_nil.arg hw).literal " AND "
  have hstart : Chosen params "timeRange" starts r.start := ⟨r.name, hr, mem_starts r⟩
  have haggregate : Chosen params "accumulation" aggregates a.aggregate :=
    ⟨a.name, ha, mem_aggregates a⟩
  have hcounts := shows_accumulation haggregate (hs.shows hand shows_nil)
  have hshows := hfirst (shows_range hstart (hcounts.text "\nGROUP BY user_id"))
  refine ⟨_, hshows, r.start, a.aggregate, s, hstart, haggregate, hs, ?_⟩
  -- The texts of neighbouring nodes meet in the statement.
  have hgroup : "\nGROUP BY user_id\nHAVING " = "\nGROUP BY user_id" ++ "\nHAVING " := rfl
  have hplaceholder : (eventBuilder event label categoryId f).placeholder = f := rfl
  simp only [Skeleton.last_append, Skeleton.fill_append, Skeleton.fill_behind, Skeleton.fill_last,
    Skeleton.values_append, Skeleton.values_behind, Skeleton.values_last, String.append_empty,
    List.append_nil, hplaceholder, String.append_assoc]
  rw [append_seam hgroup]

theorem answers_event (event label : String) (categoryId : Option String) (f : Placeholder)
    (ctx : Context) (params : Params) (h : ¬ ['\x7b', '\x7b'] <:+: event.toList) :
    Answers (eventBuilder event label categoryId f).toSqlBuilder ctx params fun sql =>
      ∃ start aggregate s, Chosen params "timeRange" starts start ∧
        Chosen params "accumulation" aggregates aggregate ∧
        Compares "countOperator" "countValue" "countMin" "countMax" params s ∧
        sql = ⟨"SELECT user_id FROM events\nWHERE event_name = " ++ quoteText event '\'' ++
            "\nAND created_at >= " ++ start ++ "\nGROUP BY user_id\nHAVING " ++ aggregate ++
            s.fill f ctx.argOffset, s.values⟩ := by
  have hread : Template.read (eventSource (quoteText event '\'')) =
      .ok ⟨[.text (eventLead (quoteText event '\''))] ++ eventBody⟩ :=
    read_eventSource (not_opens_quoteText h)
  have hanswers := answers_event_of_read event label categoryId f ctx params hread
    fun hs => hs.text (eventLead (quoteText event '\''))
  have hsince : "\nAND created_at >= " = "\nAND created_at >=" ++ " " := rfl
  rw [hsince]
  unfold eventLead at hanswers
  simpa only [String.append_assoc] using hanswers

/-- The builders of numbers, periods and events answer by their forms. What passes gives a query
that compares by the operator submitted, with the values submitted for it and no others, and that
counts what was asked for since when it was asked for: the last parts of choices are never taken. -/
theorem answers_by_form (f : Placeholder) (ctx : Context) (params : Params) :
    (∀ (t : FieldTag) (min max : Extended), Writable t.column →
      Answers (numberBuilder t min max f).toSqlBuilder ctx params fun sql =>
        ∃ s, Compares "operator" "value" "min" "max" params s ∧
          sql = ⟨"SELECT user_id FROM users WHERE " ++ t.column ++ s.fill f ctx.argOffset,
            s.values⟩) ∧
    (∀ (t : FieldTag) (includeTime : Bool), Writable t.column →
      Answers (periodBuilder t includeTime f).toSqlBuilder ctx params fun sql =>
        ∃ v w, params.get? "start" = some v ∧ params.get? "end" = some w ∧
          sql = ⟨"SELECT user_id FROM users WHERE " ++ t.column ++ " BETWEEN " ++ f ctx.argOffset ++
            " AND " ++ f (ctx.argOffset + 1), [v, w]⟩) ∧
    (∀ (event label : String) (categoryId : Option String), Writable event →
      Answers (eventBuilder event label categoryId f).toSqlBuilder ctx params fun sql =>
        ∃ start aggregate s, Chosen params "timeRange" starts start ∧
          Chosen params "accumulation" aggregates aggregate ∧
          Compares "countOperator" "countValue" "countMin" "countMax" params s ∧
          sql = ⟨"SELECT user_id FROM events\nWHERE event_name = " ++ quoteText event '\'' ++
              "\nAND created_at >= " ++ start ++ "\nGROUP BY user_id\nHAVING " ++ aggregate ++
              s.fill f ctx.argOffset, s.values⟩) :=
  ⟨fun t min max h => answers_number t min max f ctx params h,
    fun t includeTime h => answers_period t includeTime f ctx params h.opens_nothing,
    fun event label categoryId h =>
      answers_event event label categoryId f ctx params h.opens_nothing⟩

/-- Parameters that pass the forms of numbers, periods and events. -/
def comparedParams : Params :=
  [("accumulation", .str "DAYS"), ("countMax", .ofNat 9), ("countMin", .ofNat 3),
    ("countOperator", .str "BETWEEN"), ("end", .str "2024-02-01"), ("operator", .str "LT"),
    ("start", .str "2024-01-01"), ("timeRange", .str "30D"), ("value", .ofNat 5)]

theorem answers_by_form_brace : Writable "a\x7b" ∧
    (∃ sql s, (numberBuilder ⟨"n", "N", "", "", "a\x7b"⟩ .zero .zero (fun _ => "?")).build
        .background comparedParams = .ok sql ∧
      Compares "operator" "value" "min" "max" comparedParams s ∧
      sql = ⟨"SELECT user_id FROM users WHERE " ++ "a\x7b" ++ s.fill (fun _ => "?") 0, s.values⟩) ∧
    (∃ sql, (periodBuilder ⟨"p", "P", "", "", "a\x7b"⟩ false (fun _ => "?")).build
      .background comparedParams = .ok sql) ∧
    ∃ sql start aggregate s,
      (eventBuilder "a\x7b" "A" none (fun _ => "?")).build .background comparedParams = .ok sql ∧
      Chosen comparedParams "timeRange" starts start ∧
      Chosen comparedParams "accumulation" aggregates aggregate ∧
      Compares "countOperator" "countValue" "countMin" "countMax" comparedParams s ∧
      sql = ⟨"SELECT user_id FROM events\nWHERE event_name = " ++ quoteText "a\x7b" '\'' ++
          "\nAND created_at >= " ++ start ++ "\nGROUP BY user_id\nHAVING " ++ aggregate ++
          s.fill (fun _ => "?") 0, s.values⟩ := by
  have hbrace : Writable "a\x7b" := ⟨by decide, by decide, by decide⟩
  obtain ⟨hnumber, hperiod, hevent⟩ :=
    answers_by_form (fun _ => "?") .background comparedParams
  obtain ⟨sql, hsql, s, hs, heq⟩ :=
    (hnumber ⟨"n", "N", "", "", "a\x7b"⟩ .zero .zero hbrace).exists_build rfl (by decide +kernel)
  obtain ⟨sql', hsql', -⟩ :=
    (hperiod ⟨"p", "P", "", "", "a\x7b"⟩ false hbrace).exists_build rfl (by decide +kernel)
  obtain ⟨sql'', hsql'', hcounts⟩ :=
    (hevent "a\x7b" "A" none hbrace).exists_build rfl (by decide +kernel)
  obtain ⟨start, aggregate, s'', hparts⟩ := hcounts
  exact ⟨hbrace, ⟨sql, s, hsql, hs, heq⟩, ⟨sql', hsql'⟩, sql'', start, aggregate, s'', hsql'',
    hparts⟩

end Cohort.Stock
