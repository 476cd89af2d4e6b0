import RunWatch.Api.Request

/-!
# Faults of the interface

The ways in which a call to the platform can fail, and how they are told apart and put into words.
-/

namespace RunWatch.Api

/-- A call that failed. -/
inductive Fault where
  /-- No response came. -/
  | noReply (failure : Http.Failure)
  /-- The platform refused or failed, with this status and body. -/
  | status (code : Nat) (body : String)
  /-- The response is not what was asked for. -/
  | unreadable (reason : String)
  /-- The call asks for something that cannot be done. -/
  | invalid (reason : String)
  deriving DecidableEq

namespace Fault

/-- A body that does not decode. -/
def badBody : Fault :=
  .unreadable "Failed to parse JSON response: the body is not of the expected form"

/-- A fault in words. -/
def message : Fault → String
  | noReply failure => "HTTP request failed: " ++ failure.message
  | status code body => "API error (status " ++ toString code ++ "): " ++ body
  | unreadable reason => "Failed to parse response: " ++ reason
  | invalid reason => "Invalid request: " ++ reason

/-- A fault in words, followed by its causes. -/
def chain : Fault → List String
  | noReply failure => message (noReply failure) :: failure.chain
  | fault => [fault.message]

/-- Whether what was asked for does not exist. -/
def isNotFound : Fault → Bool
  | status code _ => code = 404
  | _ => false

/-- Whether the session was refused. -/
def isAuth : Fault → Bool
  | status code _ => code = 401 || code = 403
  | _ => false

/-- Whether the platform blames the request. -/
def isClient : Fault → Bool
  | status code _ => decide (400 ≤ code) && decide (code < 500)
  | _ => false

/-- Whether the platform failed. -/
def isServer : Fault → Bool
  | status code _ => decide (500 ≤ code)
  | _ => false

end Fault

end RunWatch.Api
