import Cohort.Stock.Field

/-! # Stock builders on events -/

namespace Cohort.Stock

/-- A bound that is a natural number. -/
def wholeBound (n : Nat) : Extended := .finite (.ofInt n)

/-- The form of an event: what is counted, how often, and how far back. -/
def eventView : View :=
  let between := whenEqual "countOperator" NumberOperator.between.name
  let count := Control.numberInput (wholeBound 1) (wholeBound 1000)
  ⟨[caption "with",
    ⟨{ required "accumulation" with defaultValue := .str Accumulation.count.name },
      .select (Accumulation.all.map (optionOf Accumulation.name Accumulation.label)) false⟩,
    ⟨{ required "countOperator" with defaultValue := .str NumberOperator.atLeast.name },
      .select (NumberOperator.all.map (optionOf NumberOperator.name NumberOperator.countLabel))
        false⟩,
    ⟨{ required "countValue" with defaultValue := .num (.float (.ofInt 1)), skipIf := between },
      count⟩,
    ⟨{ required "countMin" with skipUnless := between }, count⟩,
    ⟨{ skipUnless := between }, .text "and"⟩,
    ⟨{ required "countMax" with skipUnless := between }, count⟩,
    caption "times in",
    ⟨{ required "timeRange" with defaultValue := .str TimeRange.month.name },
      .select (TimeRange.all.map (optionOf TimeRange.name TimeRange.label)) false⟩]⟩

/-- What is told of the builder of an event. Without a category it is among the activities. -/
def eventMetadata (event label : String) (categoryId : Option String) : Metadata :=
  { id := "event_" ++ Text.toLower event
    name := label ++ " Events"
    description := "Filter users by " ++ Text.toLower label ++ " events in a time period"
    categoryId := (categoryId.filter fun c => !c.isEmpty).getD "activities"
    view := some eventView }

/-- The builder that asks for a number of events, or of days with events, in a recent time. -/
def eventBuilder (event label : String) (categoryId : Option String)
    (placeholder : Template.Placeholder) : TemplateBuilder :=
  ⟨eventMetadata event label categoryId, eventSource (Template.quoteText event '\''), placeholder⟩

end Cohort.Stock
