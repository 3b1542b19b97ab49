/-! Routes: what can be asked for over HTTP, by which method and under which path. -/
namespace MetricDesk.Http

/-- Pages about the interface. What they say is not the service's own. -/
inductive Page where
  | description
  | explorer
  | explorerReturn
  | reference
  deriving DecidableEq, Repr

def Page.path : Page → String
  | .description => "/openapi.json"
  | .explorer => "/docs"
  | .explorerReturn => "/docs/oauth2-redirect"
  | .reference => "/redoc"

inductive Route where
  | ask
  | plan
  | examples
  | cacheStats
  | cacheClear
  | metrics
  | catalog
  | health
  /-- A page for readers of the interface. -/
  | page (page : Page)
  deriving DecidableEq, Repr

namespace Route

def all : List Route :=
  [.ask, .plan, .examples, .cacheStats, .cacheClear, .metrics, .catalog, .health,
    .page .description, .page .explorer, .page .explorerReturn, .page .reference]

def path : Route → String
  | .ask => "/ask"
  | .plan => "/ask/plan"
  | .examples => "/ask/examples"
  | .cacheStats => "/ask/cache/stats"
  | .cacheClear => "/ask/cache/clear"
  | .metrics => "/metrics"
  | .catalog => "/catalog"
  | .health => "/health"
  | .page p => p.path

def method : Route → String
  | .ask | .plan | .cacheClear => "POST"
  | _ => "GET"

/-- Of a page the head may be asked for alone. -/
def allows (r : Route) (method : String) : Bool :=
  match r with
  | .page _ => method = r.method || method = "HEAD"
  | _ => method = r.method

/-- Why there is no route. -/
inductive Missing where
  | path
  | method
  /-- There is one without the slashes at the end. -/
  | elsewhere
  deriving DecidableEq, Repr

def Missing.status : Missing → Nat
  | .path => 404
  | .method => 405
  | .elsewhere => 307

/-- The words for it; one that is elsewhere needs none. -/
def Missing.message? : Missing → Option String
  | .path => some "Not Found"
  | .method => some "Method Not Allowed"
  | .elsewhere => none

/-- The route under a path; one line end behind the path does not count. -/
def ofPath? (path : String) : Option Route :=
  all.find? fun r => path == r.path || path == r.path ++ "\n"

/-- The path without slashes at its end. -/
def trimmed (path : String) : String :=
  String.ofList ((path.toList.reverse.dropWhile (· = '/')).reverse)

def find (method path : String) : Except Missing Route :=
  match ofPath? path with
  | some r => if r.allows method then .ok r else .error .method
  | none => .error (if (ofPath? (trimmed path)).isSome then .elsewhere else .path)

end Route
end MetricDesk.Http
