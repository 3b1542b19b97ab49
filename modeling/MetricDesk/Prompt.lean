import MetricDesk.Json.Writer
import MetricDesk.Result.Basic

/-! What the model is asked: to plan a question, and to narrate a result. -/
namespace MetricDesk.Prompt

/-- The names of a vocabulary as alternatives. -/
def alternatives (names : List String) : String := "|".intercalate names

/-- Names in double quotes. -/
def inQuotes (names : List String) : List String := names.map fun s => "\"" ++ s ++ "\""

/-- Metrics that can be broken down. -/
def groupedMetrics : List String :=
  (Metric.all.filter fun m => !m.breakdowns.isEmpty).map (·.name)

/-- A double quote in the question would end it early and becomes a single one. -/
def withoutQuotes (question : String) : String :=
  String.ofList (question.toList.map fun c => if c = '"' then '\'' else c)

def plannerLines (question today : String) : List String := [
  "SYSTEM:",
  "You are a strict analytics planner. You must output JSON only that matches the schema.",
  "No extra text. No markdown. Use only allowed fields and values.",
  "",
  "USER:",
  "Question: \"" ++ withoutQuotes question ++ "\"",
  "",
  "Schema:",
  "\x7b",
  "  \"game\": \"string\",",
  "  \"metric\": \"" ++ alternatives (Metric.all.map (·.name)) ++ "\",",
  "  \"granularity\": \"" ++ alternatives (Granularity.all.map (·.name)) ++ "\",",
  "  \"time_range\": \x7b\"type\":\"last_n_days\",\"n\":number\x7d,",
  "  \"breakdowns\": [" ++ alternatives (inQuotes (Breakdown.all.map (·.name))) ++ "],",
  "  \"comparison\": \x7b\"type\":\"" ++ alternatives (Comparison.all.map (·.name)) ++ "\"\x7d,",
  "  \"analysis\": [" ++ ",".intercalate (inQuotes analysisNames) ++ "],",
  "  \"filters\": [],",
  "  \"response_mode\": \"" ++ alternatives (ResponseMode.all.map (·.name)) ++ "\"",
  "\x7d",
  "",
  "Rules:",
  "- Only return JSON.",
  "- Default granularity=day.",
  "- Default response_mode=short.",
  "- time_range.n is a whole number of days between 1 and " ++ toString maxWindowDays ++ ".",
  "- Breakdowns are only allowed for: " ++ ", ".intercalate groupedMetrics ++ ".",
  "- If the question requests a comparison, use comparison.type=previous_period.",
  "- If you are unsure about the game name, still set game to the closest match and set "
    ++ "response_mode=deep.",
  "- Today's date: " ++ today]

/-- The prompt of the planner for a question, which names the day. -/
def planner (question today : String) : String := "\n".intercalate (plannerLines question today)

def narrationLines (document : String) : List String := [
  "SYSTEM:",
  "You are a narrator. You ONLY use numbers from the JSON provided.",
  "Do not invent numbers. If attribution is weak or missing, say \"inconclusive\".",
  "Answer directly without mentioning internals.",
  "",
  "USER:",
  "Result JSON:",
  document,
  "",
  "Answer requirements:",
  "- Direct answer",
  "- Cite key numbers that exist in JSON only",
  "- If confidence is low or attribution empty, say \"inconclusive\"."]

/-- The prompt of the narrator, with the result on one line of its own. -/
def narration (result : Result) : String :=
  "\n".intercalate (narrationLines (Json.text Json.compact result.toValue))

end MetricDesk.Prompt
