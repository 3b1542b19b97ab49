import MetricDesk.Calendar.Window
import MetricDesk.Series.Row

/-! Queries for a series, and the sources that answer them. -/
namespace MetricDesk

/-- One request to a source. Metric, granularity and breakdowns are names: a source need not
know them. -/
structure Query where
  tenant : String
  metric : String
  window : Window
  granularity : String
  breakdowns : List String
  deriving DecidableEq

/-- How a source answers. -/
inductive SourceAnswer where
  | rows (rows : List Fields)
  | fails (failure : Failure)
  /-- No answer comes. -/
  | stalls

/-- A warehouse of pre-aggregated series. -/
abbrev Source := Query → SourceAnswer

/-- What is known of something asked for: that it is there, that it failed, or nothing. -/
inductive Outcome (α : Type) where
  | done (a : α)
  | failed (failure : Failure)
  | pending

namespace Outcome

def ofExcept : Except Failure α → Outcome α
  | .ok a => .done a
  | .error f => .failed f

def map (f : α → β) : Outcome α → Outcome β
  | .done a => .done (f a)
  | .failed e => .failed e
  | .pending => .pending

/-- What follows from something that is there. -/
def andThen (o : Outcome α) (f : α → Except Failure β) : Outcome β :=
  match o with
  | .done a => ofExcept (f a)
  | .failed e => .failed e
  | .pending => .pending

/-- Things asked for at once. The first failure decides, even while others are pending. -/
def all : List (Outcome α) → Outcome (List α)
  | [] => .done []
  | .failed e :: _ => .failed e
  | .done a :: rest => (all rest).map (a :: ·)
  | .pending :: rest =>
    match all rest with
    | .failed e => .failed e
    | _ => .pending

end Outcome

/-- The rows that a source has for a query, in their common form. -/
def Query.fetch (source : Source) (q : Query) : Outcome (List (SeriesRow Double)) :=
  match source q with
  | .rows rows => .ofExcept (rows.mapM (SeriesRow.ofFields q.breakdowns))
  | .fails failure => .failed failure
  | .stalls => .pending

end MetricDesk
