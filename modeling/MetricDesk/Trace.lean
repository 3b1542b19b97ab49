import MetricDesk.Template.Basic

/-! Lines of the log: those of one request carry its trace. -/
namespace MetricDesk.Trace

/-- A line of a request. The trace is part of the template. -/
def line (trace template : String) (arguments : List Value) : Except Failure String :=
  Template.fill ("[trace=" ++ trace ++ "] " ++ template) arguments

end MetricDesk.Trace
