import CivicRegistry.Calendar.Moment
import CivicRegistry.Json.Value
import CivicRegistry.Token.Issuer

/-!
# Settings

What the service is set up with.  Every stage of deployment has settings to
start from, which the environment can override one by one.
-/

namespace CivicRegistry

/-- A stage of deployment. -/
inductive Stage where
  | development
  | staging
  | production
deriving DecidableEq

def Stage.name : Stage → String
  | .development => "Development"
  | .staging => "Staging"
  | .production => "Production"

namespace Settings

structure Database where
  url : Option String
  maxConnections : Nat
  /-- In seconds. -/
  connectionTimeout : Nat
  queryTimeoutMillis : Nat
  logsQueries : Bool
  warnsOfSlowQueries : Bool
  slowQueryMillis : Nat
deriving DecidableEq

structure Security where
  secret : Token.Secret
  accessMinutes : Int
  refreshHours : Int
  allowsOrigins : Bool
  origins : List String
deriving DecidableEq

/-- The shared ledger of revoked tokens, if there is one. -/
structure Cache where
  url : Option String
  timeoutMillis : Nat
deriving DecidableEq

namespace Database

def queryTimeout (database : Database) : Calendar.Span :=
  .ofMillis database.queryTimeoutMillis

/-- From which time on a query counts as slow, if slow queries are warned of. -/
def slowQuery? (database : Database) : Option Calendar.Span :=
  if database.warnsOfSlowQueries then some (.ofMillis database.slowQueryMillis)
  else none

end Database

namespace Security

/-- How long tokens for access are good for, unless that is too long. -/
def accessLifetime? (security : Security) : Option Token.Lifetime :=
  Token.Lifetime.ofSeconds? (security.accessMinutes * 60)

/-- How long tokens for the exchange are good for, unless that is too long. -/
def refreshLifetime? (security : Security) : Option Token.Lifetime :=
  Token.Lifetime.ofSeconds? (security.refreshHours * 3600)

end Security

def Cache.timeout (cache : Cache) : Calendar.Span :=
  .ofMillis cache.timeoutMillis

end Settings

structure Settings where
  stage : Stage
  port : Nat
  database : Settings.Database
  defaultPageSize : Nat
  security : Settings.Security
  cache : Settings.Cache
deriving DecidableEq

namespace Settings

/-- The settings that a stage starts from. -/
def ofStage : Stage → Settings
  | .development => {
      stage := .development
      port := 8080
      database := ⟨none, 10, 30, 10000, true, true, 100⟩
      defaultPageSize := 20
      security :=
        ⟨"dpms-development-secret", 60, 24 * 7, true,
          ["http://localhost:3000", "http://localhost:5173"]⟩
      cache := ⟨none, 2000⟩ }
  | .staging => {
      stage := .staging
      port := 8080
      database := ⟨none, 20, 10, 5000, true, true, 500⟩
      defaultPageSize := 20
      security := ⟨"", 30, 24, true, ["https://staging.example.com"]⟩
      cache := ⟨none, 1000⟩ }
  | .production => {
      stage := .production
      port := 8080
      database := ⟨none, 50, 5, 3000, false, true, 1000⟩
      defaultPageSize := 20
      security := ⟨"", 15, 24, true, ["https://app.example.com"]⟩
      cache := ⟨none, 500⟩ }

def Database.json (database : Database) : Json :=
  .object [("url", .ofOption .text database.url),
    ("max_connections", .integer database.maxConnections),
    ("connection_timeout", .integer database.connectionTimeout),
    ("query_timeout_ms", .integer database.queryTimeoutMillis),
    ("enable_query_logging", .boolean database.logsQueries),
    ("enable_slow_query_warning", .boolean database.warnsOfSlowQueries),
    ("slow_query_threshold_ms", .integer database.slowQueryMillis)]

/-- The document of the security settings, which does not tell the secret. -/
def Security.json (security : Security) : Json :=
  .object [("access_token_expiry_minutes", .integer security.accessMinutes),
    ("refresh_token_expiry_hours", .integer security.refreshHours),
    ("enable_cors", .boolean security.allowsOrigins),
    ("cors_origins", .texts security.origins)]

def Cache.json (cache : Cache) : Json :=
  .object [("redis_url", .ofOption .text cache.url),
    ("operation_timeout_ms", .integer cache.timeoutMillis)]

def json (settings : Settings) : Json :=
  .object [("environment", .text settings.stage.name),
    ("server", .object [("port", .integer settings.port)]),
    ("database", settings.database.json),
    ("pagination",
      .object [("default_page_size", .integer settings.defaultPageSize)]),
    ("security", settings.security.json), ("cache", settings.cache.json)]

end Settings

end CivicRegistry
