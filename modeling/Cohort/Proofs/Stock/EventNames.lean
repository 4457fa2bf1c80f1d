import Cohort.Proofs.Stock.Numbers
import Cohort.Proofs.Template.Literals

/-! # The event that a query asks for

The name of an event is written as an SQL literal into the source of a template. The quotes keep it
apart from the query around it, but not from the actions of the template.
-/

namespace Cohort.Stock

open Text Template

/-- What stands before the name of an event in a query. -/
def nameLead : String := "SELECT user_id FROM events\nWHERE event_name = "

/-- What stands behind the name of an event in a query. -/
def nameEnd : String := "\nAND created_at >="

/-- The event that a query asks for, and what follows its name. -/
def askedEvent? (query : String) : Option (String × List Char) :=
  (dropPrefix? nameLead.toList query.toList).bind (sqlLiteral? '\'')

theorem askedEvent?_of_quoted (event rest : String) :
    askedEvent? (nameLead ++ quoteText event '\'' ++ nameEnd ++ rest) =
      some (event, (nameEnd ++ rest).toList) := by
  have hlead : dropPrefix? nameLead.toList
      (nameLead ++ quoteText event '\'' ++ nameEnd ++ rest).toList =
        some ((quoteText event '\'').toList ++ (nameEnd ++ rest).toList) :=
    dropPrefix?_eq_some_iff.mpr (by simp only [String.toList_append, List.append_assoc])
  have hend : (nameEnd ++ rest).toList.head? ≠ some '\'' := by simp [nameEnd]
  rw [askedEvent?, hlead, Option.bind_some]
  exact sqlLiteral?_eq_some_iff.mpr ⟨hend, rfl⟩

/-- An event template whose first line shows the name of some event asks for that one. -/
theorem asks_of_read {event label text : String} {categoryId : Option String} {f : Placeholder}
    {ctx : Context} {params : Params} {nodes : List Node}
    (hread : Template.read (eventSource (quoteText event '\'')) = .ok ⟨nodes ++ eventBody⟩)
    (hfirst : ∀ {rest : List Node} {s : Skeleton}, Shows params rest s →
      Shows params (nodes ++ rest) (s.behind (nameLead ++ quoteText text '\'' ++ nameEnd)))
    (hok : eventView.validate params = .ok ()) :
    ∃ sql rest, (eventBuilder event label categoryId f).build ctx params = .ok sql ∧
      sql.query = nameLead ++ quoteText text '\'' ++ nameEnd ++ rest ∧
      askedEvent? sql.query = some (text, (nameEnd ++ rest).toList) := by
  have hview : (eventBuilder event label categoryId f).toSqlBuilder.metadata.view =
      some eventView := rfl
  obtain ⟨sql, hsql, start, aggregate, s, -, -, -, heq⟩ :=
    (answers_event_of_read event label categoryId f ctx params hread hfirst).exists_build hview
      (by rw [hok]; rfl)
  have hquery : sql.query = nameLead ++ quoteText text '\'' ++ nameEnd ++ (" " ++ start ++
      "\nGROUP BY user_id\nHAVING " ++ aggregate ++ s.fill f ctx.argOffset) := by
    rw [heq]
    simp only [String.append_assoc]
  exact ⟨sql, _, hsql, hquery, hquery ▸ askedEvent?_of_quoted text _⟩

/-- The query of an event asks for it by name, whatever quotes there are in the name, if no action
begins in it. -/
theorem asks_for_event (event label : String) (categoryId : Option String) (f : Placeholder)
    (ctx : Context) (params : Params) (hopen : ¬ ['\x7b', '\x7b'] <:+: event.toList)
    (hok : eventView.validate params = .ok ()) :
    ∃ sql rest, (eventBuilder event label categoryId f).build ctx params = .ok sql ∧
      sql.query = nameLead ++ quoteText event '\'' ++ nameEnd ++ rest ∧
      askedEvent? sql.query = some (event, (nameEnd ++ rest).toList) := by
  have hread : Template.read (eventSource (quoteText event '\'')) =
      .ok ⟨[.text (nameLead ++ quoteText event '\'' ++ nameEnd)] ++ eventBody⟩ :=
    read_eventSource (not_opens_quoteText hopen)
  exact asks_of_read hread (fun hs => hs.text _) hok

theorem validate_comparedParams : eventView.validate comparedParams = .ok () :=
  eq_ok_of_isOk (by decide +kernel)

theorem asks_for_quotedBrace :
    ¬ ['\x7b', '\x7b'] <:+: "it's \x7b'' AND".toList ∧
      eventView.validate comparedParams = .ok () ∧
        ∃ sql, (eventBuilder "it's \x7b'' AND" "E" none (fun _ => "?")).build .background
            comparedParams = .ok sql ∧
          (askedEvent? sql.query).map Prod.fst = some "it's \x7b'' AND" := by
  have hopen : ¬ ['\x7b', '\x7b'] <:+: "it's \x7b'' AND".toList := by decide
  have hok := validate_comparedParams
  obtain ⟨sql, rest, hsql, -, hasked⟩ :=
    asks_for_event "it's \x7b'' AND" "E" none (fun _ => "?") .background comparedParams hopen hok
  exact ⟨hopen, hok, sql, hsql, by rw [hasked, Option.map_some]⟩

/-! ## Names that are actions -/

/-- The name of an event that is an action by itself, one that prints a text. -/
def printingName (text : String) : String :=
  "\x7b\x7b \"" ++ String.ofList (text.toList.flatMap escaped) ++ "\" \x7d\x7d"

/-- Quotes are doubled in a text before or after it is written in double quotes. -/
theorem doubled_escaped (s : List Char) :
    doubled '\'' (s.flatMap escaped) = (doubled '\'' s).flatMap escaped := by
  rw [doubled, doubled, List.flatMap_assoc, List.flatMap_assoc]
  refine List.flatMap_congr fun c _ => ?_
  by_cases hescaped : c = '"' ∨ c = '\\'
  · obtain rfl | rfl := hescaped <;> decide
  · by_cases hquote : c = '\'' <;> simp [escaped, hescaped, hquote]

/-- A literal holds its text with the quotes doubled. -/
theorem quoteText_eq (text : String) :
    quoteText text '\'' = "'" ++ String.ofList (doubled '\'' text.toList) ++ "'" := by
  rw [← String.toList_inj]
  simp [toList_quoteText]

/-- The nodes of the template of such an event, behind what stands before the name. -/
def printingNodes (text : String) : List Node :=
  [.action (.literal (String.ofList (doubled '\'' text.toList))), .text ("'" ++ nameEnd)]

theorem line_printingName (text : String) :
    Line (.text (nameLead ++ "'") :: tokensOf (printingNodes text))
      (eventLead (quoteText (printingName text) '\'')).toList := by
  have hend : Line [.text ("'" ++ nameEnd)] ("'" ++ nameEnd).toList :=
    line_text (by decide) (by decide) (by decide)
  have hlead : isText (nameLead ++ "'") = true := by decide
  have ha : (Action.print
      (.literal (String.ofList (doubled '\'' text.toList)))).isCanonical = true := rfl
  have hsource : (eventLead (quoteText (printingName text) '\'')).toList =
      (nameLead ++ "'").toList ++ ((Token.action (.print (.literal
        (String.ofList (doubled '\'' text.toList))))).source ++ ("'" ++ nameEnd).toList) := by
    have hopen : doubled '\'' "\x7b\x7b \"".toList = "\x7b\x7b \"".toList := by decide
    have hclose : doubled '\'' "\" \x7d\x7d".toList = "\" \x7d\x7d".toList := by decide
    have hname : doubled '\'' (printingName text).toList = "\x7b\x7b \"".toList ++
        ((doubled '\'' text.toList).flatMap escaped ++ "\" \x7d\x7d".toList) := by
      have htext : (String.ofList (text.toList.flatMap escaped)).toList =
          text.toList.flatMap escaped := String.toList_ofList
      rw [printingName, String.toList_append, String.toList_append, htext, doubled_append,
        doubled_append, doubled_escaped, hopen, hclose, List.append_assoc]
    unfold eventLead
    simp [toList_quoteText, hname, nameLead, nameEnd, Token.source, Action.padded, Action.source,
      Pipeline.literal, Pipeline.source, declsSource, Command.source, Operand.source,
      literalSource, stagesSource]
  rw [hsource]
  exact hend.textAction hlead ha

theorem allCanonical_printingNodes (text : String) :
    Node.allCanonical (printingNodes text ++ eventBody) = true := by
  have hend : isText ("'" ++ nameEnd) = true := by decide
  have hliteral : (Pipeline.literal (String.ofList (doubled '\'' text.toList))).isCanonical 1 =
      true := rfl
  have hbody : eventBody.head?.any Node.isText = false := rfl
  simp [printingNodes, Node.allCanonical, Node.isCanonical, hend, hliteral, hbody, Node.isText,
    allCanonical_eventBody]

theorem shows_printingNodes {params : Params} {nodes : List Node} {s : Skeleton} (text : String)
    (h : Shows params nodes s) :
    Shows params ((.text (nameLead ++ "'") :: printingNodes text) ++ nodes)
      (s.behind (nameLead ++ quoteText text '\'' ++ nameEnd)) := by
  have hshows := ((h.text ("'" ++ nameEnd)).literal
    (String.ofList (doubled '\'' text.toList))).text (nameLead ++ "'")
  have hbehind : ∀ t u : String, (s.behind t).behind u = s.behind (u ++ t) := by
    intro t u
    cases s <;> simp [Skeleton.behind, String.append_assoc]
  rw [hbehind, hbehind] at hshows
  rw [quoteText_eq]
  simpa only [printingNodes, List.cons_append, List.nil_append, String.append_assoc] using hshows

/-- Any event can be asked for under another name, the action that prints it. -/
theorem asks_for_printed (text label : String) (categoryId : Option String) (f : Placeholder)
    (ctx : Context) (params : Params) (hok : eventView.validate params = .ok ()) :
    ∃ sql rest, (eventBuilder (printingName text) label categoryId f).build ctx params = .ok sql ∧
      sql.query = nameLead ++ quoteText text '\'' ++ nameEnd ++ rest ∧
      askedEvent? sql.query = some (text, (nameEnd ++ rest).toList) := by
  have hread := read_eventSource_of_line (line_printingName text) (allCanonical_printingNodes text)
  rw [← List.cons_append] at hread
  exact asks_of_read hread (shows_printingNodes text) hok

/-- What passes the form of an event may give the query of another one. -/
theorem asks_for_another :
    printingName "LOGIN" = "\x7b\x7b \"LOGIN\" \x7d\x7d" ∧
      eventView.validate comparedParams = .ok () ∧
        ∃ sql, (eventBuilder (printingName "LOGIN") "E" none (fun _ => "?")).build .background
            comparedParams = .ok sql ∧
          (askedEvent? sql.query).map Prod.fst = some "LOGIN" ∧
          ¬ ∃ rest,
            sql.query = nameLead ++ quoteText (printingName "LOGIN") '\'' ++ nameEnd ++ rest := by
  have hname : printingName "LOGIN" = "\x7b\x7b \"LOGIN\" \x7d\x7d" := by decide +kernel
  have hok := validate_comparedParams
  obtain ⟨sql, after, hsql, -, hasked⟩ :=
    asks_for_printed "LOGIN" "E" none (fun _ => "?") .background comparedParams hok
  refine ⟨hname, hok, sql, hsql, by rw [hasked, Option.map_some], ?_⟩
  rintro ⟨rest, hrest⟩
  rw [hrest, askedEvent?_of_quoted, hname] at hasked
  obtain ⟨hsame, -⟩ := Prod.mk.inj (Option.some.inj hasked)
  revert hsame
  decide

end Cohort.Stock
