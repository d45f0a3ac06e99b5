import CivicRegistry.Digest.Sha256
import CivicRegistry.Json.Value

/-!
# Messages

What the service is sent and what it sends back.  A header can hold any bytes;
only one that is printable is a text.
-/

namespace CivicRegistry.Http

open CivicRegistry.Digest (Bytes)

structure Request where
  method : String
  /-- What the request asks for: a path or a locator. -/
  target : String
  /-- The headers in their order, under names in lower case. -/
  headers : List (String × Bytes)
  body : Bytes

/-- The first header of a name. -/
def Request.header? (request : Request) (name : String) : Option Bytes :=
  request.headers.lookup name

/-- The text of a header whose bytes are printable characters of ASCII or
tabulators. -/
def printable? (bytes : Bytes) : Option String :=
  if bytes.all fun byte => byte = 9 || (32 ≤ byte && byte < 127) then
    some (String.ofList (bytes.map fun byte => Char.ofNat byte.toNat))
  else none

/-- What is sent back; `allow` lists the methods of a path that was asked for by
another one. -/
structure Response where
  status : Nat
  contentType : Option String
  allow : Option String
  body : Option Json

namespace Response

/-- A response without a body. -/
def empty (status : Nat) : Response := ⟨status, none, none, none⟩

def ofJson (status : Nat) (document : Json) : Response :=
  ⟨status, some "application/json", none, some document⟩

/-- The answer to a request that succeeded. -/
def success (data : Json) : Response :=
  ofJson 200 (.object [("data", data), ("success", .boolean true)])

/-- The response to a request for the head alone. -/
def withoutBody (response : Response) : Response :=
  { response with body := none }

def withAllow (methods : String) (response : Response) : Response :=
  { response with allow := some methods }

end Response

end CivicRegistry.Http
