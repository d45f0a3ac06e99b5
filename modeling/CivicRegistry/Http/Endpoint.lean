import CivicRegistry.Entity.Basic

/-!
# Endpoints

The paths under which the service can be called.  Some are open to everybody;
the others are answered to those alone who show a token for access.
-/

namespace CivicRegistry.Http

/-- What everybody can call. -/
inductive OpenEndpoint where
  | home
  | health
  | refresh
deriving DecidableEq

/-- What can be called with a token for access. -/
inductive GuardedEndpoint where
  | whoami
  | logout
  | search (entity : Entity)
  | fields (entity : Entity)
deriving DecidableEq

inductive Endpoint where
  | toAll (endpoint : OpenEndpoint)
  | guarded (endpoint : GuardedEndpoint)
deriving DecidableEq

/-- Whether an endpoint is asked for something or sent something. -/
inductive Access where
  | reading
  | sending
deriving DecidableEq

namespace Access

/-- The methods that go with an access. -/
def methods : Access → List String
  | .reading => ["GET", "HEAD"]
  | .sending => ["POST"]

/-- The methods as they are listed for a client. -/
def listed (access : Access) : String :=
  ",".intercalate access.methods

end Access

def OpenEndpoint.path : OpenEndpoint → String
  | .home => "/"
  | .health => "/health"
  | .refresh => "/auth/refresh"

def OpenEndpoint.access : OpenEndpoint → Access
  | .home => .reading
  | .health => .reading
  | .refresh => .sending

def GuardedEndpoint.path : GuardedEndpoint → String
  | .whoami => "/api/auth/whoami"
  | .logout => "/api/auth/logout"
  | .search entity => "/api/" ++ entity.name ++ "/search"
  | .fields entity => "/api/" ++ entity.name ++ "/fields"

def GuardedEndpoint.access : GuardedEndpoint → Access
  | .whoami => .reading
  | .logout => .sending
  | .search _ => .sending
  | .fields _ => .reading

namespace Endpoint

def path : Endpoint → String
  | .toAll endpoint => endpoint.path
  | .guarded endpoint => endpoint.path

def access : Endpoint → Access
  | .toAll endpoint => endpoint.access
  | .guarded endpoint => endpoint.access

def all : List Endpoint :=
  [.toAll .home, .toAll .health, .toAll .refresh, .guarded .whoami,
    .guarded .logout] ++
    Entity.all.map (.guarded <| .search ·) ++
    Entity.all.map (.guarded <| .fields ·)

/-- The endpoint at a path. -/
def ofPath? (path : String) : Option Endpoint :=
  all.find? fun endpoint => endpoint.path == path

end Endpoint

end CivicRegistry.Http
