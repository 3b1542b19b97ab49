import MetricDesk.Value.Basic

/-! Settings: where the warehouse is, which model is asked and how, how long answers are kept. -/
namespace MetricDesk

structure Settings where
  databaseUser : String := "copilot"
  databasePassword : String := "copilot_pw"
  databaseName : String := "analytics"
  databaseHost : String := "localhost"
  databasePort : Int := 5432
  /-- The limit of one statement, in milliseconds. -/
  sqlTimeout : Int := 10000
  provider : String := "mock"
  openaiKey : String := ""
  anthropicKey : String := ""
  plannerModel : String := "gpt-4o-mini"
  narratorModel : String := "gpt-4o-mini"
  anthropicModel : String := "claude-3-haiku-20240307"
  plannerTokens : Int := 400
  shortTokens : Int := 220
  deepTokens : Int := 600
  /-- How long plans and results are kept, in seconds. -/
  planTtl : Double := .ofInt 3600
  resultTtl : Double := .ofInt 300
  cacheSize : Int := 1024
  /-- The budget of one request, in seconds. -/
  requestBudget : Double := .ofInt 45
  apiPort : Int := 8000
  logLevel : String := "INFO"
  deriving DecidableEq

namespace Settings

def default : Settings := {}

def databaseUrl (s : Settings) : String :=
  "postgresql://" ++ s.databaseUser ++ ":" ++ s.databasePassword ++ "@" ++ s.databaseHost ++ ":"
    ++ toString s.databasePort ++ "/" ++ s.databaseName

/-- The settings under the names by which they are set. -/
def toFields (s : Settings) : Fields := [
  ("postgres_user", .str s.databaseUser),
  ("postgres_password", .str s.databasePassword),
  ("postgres_db", .str s.databaseName),
  ("postgres_host", .str s.databaseHost),
  ("postgres_port", .int s.databasePort),
  ("sql_timeout_ms", .int s.sqlTimeout),
  ("llm_provider", .str s.provider),
  ("openai_api_key", .str s.openaiKey),
  ("anthropic_api_key", .str s.anthropicKey),
  ("ai_planner_model", .str s.plannerModel),
  ("ai_narrator_model", .str s.narratorModel),
  ("anthropic_model", .str s.anthropicModel),
  ("ai_planner_max_tokens", .int s.plannerTokens),
  ("ai_short_max_tokens", .int s.shortTokens),
  ("ai_deep_max_tokens", .int s.deepTokens),
  ("ai_plan_cache_ttl_seconds", .dbl s.planTtl),
  ("ai_result_cache_ttl_seconds", .dbl s.resultTtl),
  ("ai_cache_max_size", .int s.cacheSize),
  ("ai_request_timeout_seconds", .dbl s.requestBudget),
  ("api_port", .int s.apiPort),
  ("log_level", .str s.logLevel)]

def names : List String := default.toFields.keys

end Settings
end MetricDesk
