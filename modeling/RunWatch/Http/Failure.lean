/-!
# Failed exchanges

Why a request got no reply at all.  A failure either happened while the request was put together or while
it was on its way; it names the address if it is known and tells its causes from the outermost to the
innermost.
-/

namespace RunWatch.Http

/-- The stage at which an exchange failed. -/
inductive Stage where
  | building
  | sending
  deriving DecidableEq

/-- An exchange that brought no reply. -/
structure Failure where
  stage : Stage
  url : Option String
  causes : List String
  deriving DecidableEq

namespace Failure

/-- The message of a failure, without its causes. -/
def message (f : Failure) : String :=
  let what := match f.stage with
    | .building => "builder error"
    | .sending => "error sending request"
  match f.url with
  | some url => what ++ " for url (" ++ url ++ ")"
  | none => what

/-- The messages of a failure and of its causes. -/
def chain (f : Failure) : List String :=
  f.message :: f.causes

/-- An address that is no address. -/
def badUrl (cause : String) : Failure := ⟨.building, none, [cause]⟩

/-- A token that cannot stand in a header. -/
def badHeader : Failure := ⟨.building, none, ["failed to parse header value"]⟩

/-- An address that is too long for a request line or has a host that may not stand on one. -/
def badRequestLine (url : String) : Failure :=
  ⟨.building, some url, ["Parsed Url is not a valid Uri"]⟩

/-- The cause when an address asks for a connection that is not plain. -/
def plainOnly : String := "invalid URL, scheme is not http"

/-- A connection that could not be made. -/
def noConnection (url : String) (causes : List String) : Failure :=
  ⟨.sending, some url, "client error (Connect)" :: causes⟩

end Failure

end RunWatch.Http
