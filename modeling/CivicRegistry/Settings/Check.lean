import CivicRegistry.Settings.Basic
import CivicRegistry.Store.Fault
import CivicRegistry.Text.Blank
import CivicRegistry.Url.Basic

/-!
# Checking settings

The service does not start with settings that miss a secret outside development
or that name a database or a shared ledger by what is no locator.
-/

namespace CivicRegistry.Settings

/-- Why the service does not start. -/
inductive Fault where
  | noSecret (stage : Stage)
  | invalidUrl (name : String)
deriving DecidableEq

def Fault.message : Fault → String
  | .noSecret stage => "JWT_SECRET must be set in " ++ stage.name
  | .invalidUrl name => "Invalid URL for " ++ name

/-- A locator that is given has to be one. -/
def checkUrl (name : String) (url : Option String) : Except Fault Unit :=
  if url.all Url.isValid then .ok () else .error (.invalidUrl name)

/-- Outside development the secret must not be blank. -/
def checkSecret (settings : Settings) : Except Fault Unit :=
  if settings.stage ≠ .development ∧
      (Text.trim settings.security.secret).isEmpty then
    .error (.noSecret settings.stage)
  else .ok ()

/-- The checks on starting; the first that fails decides. -/
def check (settings : Settings) : Except Fault Unit := do
  settings.checkSecret
  checkUrl "DATABASE_URL" settings.database.url
  checkUrl "REDIS_URL" settings.cache.url

/-- Why no connection to a database is tried: there is no locator of one, or it
is not one of this kind of database. -/
def Database.connectionFault? (database : Database) : Option Store.Fault :=
  match database.url with
  | none => some (.missingSetting "DATABASE_URL")
  | some url =>
    match Url.scheme? url with
    | some scheme =>
      if scheme ∈ ["postgres", "postgresql"] then none else some .invalidUrl
    | none => some .invalidUrl

end CivicRegistry.Settings
