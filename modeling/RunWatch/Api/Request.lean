import RunWatch.Http.Failure
import RunWatch.Json.Value

/-!
# Requests and replies

What is sent to the platform and what comes back.  A reply is a response of any status, or the failure to
get one.
-/

namespace RunWatch.Api

/-- The verbs that the interface uses. -/
inductive Method where
  | get
  | post
  | patch
  | delete
  deriving DecidableEq

/-- A verb as it is sent. -/
def Method.verb : Method → String
  | get => "GET"
  | post => "POST"
  | patch => "PATCH"
  | delete => "DELETE"

/-- A request with its full address. -/
structure Request where
  method : Method
  url : String
  query : List (String × String)
  body : Option Json.Value
  deriving DecidableEq

namespace Request

/-- A request without query and body. -/
def plain (method : Method) (url : String) : Request :=
  ⟨method, url, [], none⟩

/-- The first value that a query parameter has. -/
def queryValue? (r : Request) (key : String) : Option String :=
  (r.query.find? fun q => q.1 = key).map Prod.snd

end Request

/-- A response: its status and the text of its body. -/
structure Response where
  status : Nat
  body : String
  deriving DecidableEq

/-- Whether a response reports success. -/
def Response.isSuccess (r : Response) : Bool :=
  decide (200 ≤ r.status) && decide (r.status < 300)

/-- What comes of a request. -/
inductive Reply where
  | response (r : Response)
  | failure (f : Http.Failure)
  deriving DecidableEq

end RunWatch.Api
