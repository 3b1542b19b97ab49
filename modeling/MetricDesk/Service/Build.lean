import MetricDesk.Service.Basic

/-! A service from its settings. -/
namespace MetricDesk.Service

/-- The model of a service: the one that is given, or the client of the provider in the settings.
The built-in rules need none. -/
def modelFor (s : Settings) (given : Option (Model σ)) (own : Client → Model σ) :
    Except Failure (Option (Model σ)) :=
  match given, Mode.ofName s.provider with
  | some model, _ => .ok (some model)
  | none, .rules => .ok none
  | none, .model => (Client.ofName "" s).map fun c => some (own c)

/-- A number of tokens, the usual one where it is zero. -/
def tokens (n usual : Int) : Value := .int (if n = 0 then usual else n)

/-- Narrations have their usual lengths whatever the settings say. -/
def ofSettings (s : Settings) (model : Option (Model σ)) (source : Source)
    (digest : Key.Digest) : Service σ where
  mode := Mode.ofName s.provider
  model := model
  planner := ⟨Mode.ofChoice s.provider, model,
    tokens s.plannerTokens Settings.default.plannerTokens⟩
  narrator := ⟨Mode.ofChoice s.provider, model, .int Settings.default.shortTokens,
    .int Settings.default.deepTokens⟩
  source := source
  digest := digest
  budget := some (.dbl s.requestBudget)

/-- Caches without entries. -/
def cachesFor (s : Settings) : Caches Number ρ :=
  .empty (.dbl s.planTtl) (.dbl s.resultTtl) s.cacheSize

end MetricDesk.Service
