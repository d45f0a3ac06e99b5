import CivicRegistry.Http.Bearer
import CivicRegistry.Http.Body
import CivicRegistry.Http.Endpoint
import CivicRegistry.Http.Target
import CivicRegistry.Token.Issuer

/-!
# The gateway

The gateway answers requests.  It finds the endpoint of a request, lets nobody
without a token for access to the guarded ones, and has the endpoint do its
work.  All of it is a procedure, so whatever a request leads to can be read off
the answer to it.
-/

namespace CivicRegistry.Http

open Service (Procedure)

structure Gateway where
  issuer : Token.Issuer
  searching : Service.SearchSettings

/-- Who calls a guarded endpoint, and the token that says so. -/
structure Session where
  identity : Token.Subject
  token : String
deriving DecidableEq

/-- A procedure that may come to a fault that clients are told. -/
abbrev Attempt (α : Type) := ExceptT Fault Procedure α

/-- What is known without asking. -/
def known {α : Type} (result : Except Fault α) : Attempt α :=
  ExceptT.mk (.done result)

/-- The response to an attempt to get data. -/
def responding (attempt : Attempt Json) : Procedure Response := do
  match ← attempt.run with
  | .ok data => return .success data
  | .error fault => return fault.response

namespace Gateway

/-- What the service says about itself. -/
def description : Json :=
  .object [("name", .text "DPMS API"), ("version", .text "0.1.0"),
    ("description",
      .text "Population management search API: users, families and administrative geography"),
    ("endpoints", .object [
      ("home", .text "/ (public)"),
      ("health", .text "/health (public)"),
      ("public_auth", .text "/auth/refresh (public - token rotation)"),
      ("auth", .text "/api/auth/whoami, /api/auth/logout (protected)"),
      ("search", .text
        "/api/\x7busers|families|provinces|districts|municipalities|wards\x7d/search (protected)"),
      ("fields", .text "/api/\x7bentity\x7d/fields (protected)")])]

/-- The response about the state of the stores at an instant. -/
def healthResponse (time : Calendar.Instant) :
    Except Store.Fault Unit → Response
  | .ok () =>
    .success (.object [("status", .text "ok"), ("timestamp", .text time.text),
      ("database", .text "ok")])
  | .error _ =>
    .ofJson 503 (.object [("success", .boolean false),
      ("error", .text "database unavailable"),
      ("code", .text "SERVICE_UNAVAILABLE"),
      ("data", .object [("status", .text "degraded"),
        ("timestamp", .text time.text)])])

/-- Tells whether the stores are well. -/
def health : Procedure Response := do
  let now ← Procedure.question .moment
  return healthResponse now.instant (← Procedure.question .health)

/-- The attributes of an entity that can be asked for, by the sets in which they
are usually wanted. -/
def fields (entity : Entity) : Json :=
  let wires (fields : List entity.Field) :=
    Json.texts (fields.map fun field => (Entity.info field).wire)
  .object [("entity", .text entity.name),
    ("default", wires entity.defaultFields),
    ("summary", wires entity.summaryFields), ("detail", wires entity.fields),
    ("audit", wires entity.auditFields)]

/-- The document of an identity. -/
def identityJson (identity : Token.Subject) : Json :=
  .object [("userId", .text identity.userId.text),
    ("email", .text identity.email),
    ("roles", .texts (identity.roles.map Vocabulary.word))]

variable (gateway : Gateway)

/-- Exchanges the token of a request for a new pair. -/
def refresh (request : Request) : Attempt Json := do
  let token ← known request.exchangedToken
  let pair ← (gateway.issuer.refresh token).adapt Fault.ofToken
  return pair.json

/-- Revokes the token of a session, and then the one that the request gives up
besides. -/
def logout (request : Request) (session : Session) : Attempt Json := do
  let givenUp ← known request.givenUpToken?
  (gateway.issuer.revoke session.token).adapt Fault.ofToken
  match givenUp with
  | some token => (gateway.issuer.revoke token).adapt Fault.ofToken
  | none => pure ()
  return .object [("loggedOut", .boolean true)]

/-- Searches an entity as the body of a request asks. -/
def search (entity : Entity) (request : Request) : Attempt Json := do
  let criteria ←
    known ((request.read (Criteria.ofOutline entity)).mapError BodyFault.fault)
  let page ←
    (ExceptT.mk (Service.search gateway.searching criteria)).adapt
      Fault.ofSearch
  return page.json Projection.json

/-- The work of an open endpoint. -/
def handleOpen (request : Request) : OpenEndpoint → Procedure Response
  | .home => return .success description
  | .health => health
  | .refresh => responding (gateway.refresh request)

/-- The work of a guarded endpoint. -/
def handleGuarded (request : Request) (session : Session) :
    GuardedEndpoint → Procedure Response
  | .whoami => return .success (identityJson session.identity)
  | .logout => responding (gateway.logout request session)
  | .search entity => responding (gateway.search entity request)
  | .fields entity => return .success (fields entity)

/-- The session of a request that shows a token for access. -/
def authenticate (request : Request) : Attempt Session := do
  let token ←
    known ((bearerToken (request.header? "authorization")).mapError fun fault =>
      .unauthorized fault.message)
  let claims ← (gateway.issuer.verify token .access).adapt Fault.ofToken
  return ⟨claims.subject, token⟩

/-- Lets a request through to a handler if it shows a token for access. -/
def guarded (request : Request) (handler : Session → Procedure Response) :
    Procedure Response := do
  match ← (gateway.authenticate request).run with
  | .ok session => handler session
  | .error fault => return fault.response

/-- The work of an endpoint that is called by one of its methods. -/
def handle (request : Request) : Endpoint → Procedure Response
  | .toAll endpoint => gateway.handleOpen request endpoint
  | .guarded endpoint =>
    gateway.guarded request fun session =>
      gateway.handleGuarded request session endpoint

/-- The response to a call by another method.  A guarded endpoint tells of it
only those whom it would answer. -/
def refuseMethod (request : Request) : Endpoint → Procedure Response
  | .toAll _ => return .empty 405
  | .guarded _ => gateway.guarded request fun _ => return .empty 405

/-- Answers a request to an endpoint. -/
def respondAt (request : Request) (endpoint : Endpoint) :
    Procedure Response := do
  if request.method = "OPTIONS" then
    return (Response.empty 200).withAllow endpoint.access.listed
  else if request.method ∈ endpoint.access.methods then
    let response ← gateway.handle request endpoint
    return if request.method = "HEAD" then response.withoutBody else response
  else
    let response ← gateway.refuseMethod request endpoint
    return response.withAllow endpoint.access.listed

/-- Answers a request. -/
def respond (request : Request) : Procedure Response :=
  match Endpoint.ofPath?
      (String.ofList (pathOfTarget request.target.toList)) with
  | some endpoint => gateway.respondAt request endpoint
  | none => return .empty (if request.method = "OPTIONS" then 200 else 404)

end Gateway

end CivicRegistry.Http
