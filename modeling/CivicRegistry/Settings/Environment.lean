import CivicRegistry.Settings.Basic
import CivicRegistry.Text.Blank
import CivicRegistry.Text.Decimal

/-!
# Settings from the environment

A variable overrides the setting of its name when its text can be read as one;
otherwise the setting stays as the stage has it.
-/

namespace CivicRegistry

/-- The texts of variables by their names. -/
abbrev Environment := String → Option String

namespace Settings

/-- The number of some decimal digits, of which there has to be one. -/
def digits? (digits : List Char) : Option Nat :=
  if !digits.isEmpty ∧ digits.all Char.isDigit then some (Text.decimal digits)
  else none

/-- A number of at most `bits` bits, which may have a plus in front. -/
def natural? (bits : Nat) (text : String) : Option Nat := do
  let number ← digits? <| match text.toList with
    | '+' :: digits => digits
    | digits => digits
  if number < Nat.pow 2 bits then some number else none

/-- An integer of 64 bits, which may have a sign in front. -/
def integer? (text : String) : Option Int := do
  let number : Int ← match text.toList with
    | '+' :: digits => (digits? digits).map (fun n : Nat => (n : Int))
    | '-' :: digits => (digits? digits).map (fun n : Nat => -(n : Int))
    | digits => (digits? digits).map (fun n : Nat => (n : Int))
  if -Int.pow 2 63 ≤ number ∧ number < Int.pow 2 63 then some number else none

def truth? (text : String) : Option Bool :=
  if text = "true" then some true
  else if text = "false" then some false else none

/-- A text without the blanks at its ends, or nothing if only blanks are in
it. -/
def presentText (text : String) : Option String :=
  let trimmed := Text.trim text
  if trimmed.isEmpty then none else some trimmed

/-- The texts between commas, without the blanks at their ends, as far as there
is anything between. -/
def listed (text : String) : List String :=
  (text.toList.splitOn ',').filterMap fun part =>
    presentText (String.ofList part)

/-- The value of a variable, or the given one where it cannot be read. -/
def overriding {α : Type} (environment : Environment) (name : String)
    (read : String → Option α) (current : α) : α :=
  ((environment name).bind read).getD current

/-- The stage that a name stands for; a name that is not known stands for
development. -/
def stageOfName : Option String → Stage
  | some "production" => .production
  | some "prod" => .production
  | some "staging" => .staging
  | some "stage" => .staging
  | _ => .development

def Database.overridden (environment : Environment) (database : Database) :
    Database where
  url := overriding environment "DATABASE_URL" (some ∘ presentText) database.url
  maxConnections :=
    overriding environment "DATABASE_MAX_CONNECTIONS" (natural? 32)
      database.maxConnections
  connectionTimeout :=
    overriding environment "DATABASE_CONNECTION_TIMEOUT" (natural? 64)
      database.connectionTimeout
  queryTimeoutMillis :=
    overriding environment "DATABASE_QUERY_TIMEOUT_MS" (natural? 64)
      database.queryTimeoutMillis
  logsQueries :=
    overriding environment "DATABASE_ENABLE_QUERY_LOGGING" truth?
      database.logsQueries
  warnsOfSlowQueries :=
    overriding environment "DATABASE_ENABLE_SLOW_QUERY_WARNING" truth?
      database.warnsOfSlowQueries
  slowQueryMillis :=
    overriding environment "DATABASE_SLOW_QUERY_THRESHOLD_MS" (natural? 64)
      database.slowQueryMillis

def Security.overridden (environment : Environment) (security : Security) :
    Security where
  secret := overriding environment "JWT_SECRET" some security.secret
  accessMinutes :=
    overriding environment "SECURITY_ACCESS_TOKEN_EXPIRY_MINUTES" integer?
      security.accessMinutes
  refreshHours :=
    overriding environment "SECURITY_REFRESH_TOKEN_EXPIRY_HOURS" integer?
      security.refreshHours
  allowsOrigins :=
    overriding environment "SECURITY_ENABLE_CORS" truth? security.allowsOrigins
  origins :=
    overriding environment "SECURITY_CORS_ORIGINS" (some ∘ listed)
      security.origins

def Cache.overridden (environment : Environment) (cache : Cache) : Cache where
  url := overriding environment "REDIS_URL" (some ∘ presentText) cache.url
  timeoutMillis :=
    overriding environment "CACHE_OPERATION_TIMEOUT_MS" (natural? 64)
      cache.timeoutMillis

/-- The settings that an environment asks for. -/
def ofEnvironment (environment : Environment) : Settings :=
  let settings := ofStage (stageOfName (environment "APP_ENV"))
  { stage := settings.stage
    port := overriding environment "PORT" (natural? 16) settings.port
    database := settings.database.overridden environment
    defaultPageSize :=
      overriding environment "PAGINATION_DEFAULT_PAGE_SIZE" (natural? 32)
        settings.defaultPageSize
    security := settings.security.overridden environment
    cache := settings.cache.overridden environment }

end Settings

end CivicRegistry
