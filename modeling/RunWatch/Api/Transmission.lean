import RunWatch.Api.Request
import RunWatch.Http.Credentials
import RunWatch.Http.Message
import RunWatch.Json.Writer

/-!
# Transmission

How the requests of the interface go out over the web and how the responses come back.  A request fails
before it is sent if its address is none, if the token cannot stand in a header or if the address cannot stand
on a request line.
-/

namespace RunWatch.Api

namespace Request

/-- The failure of a request whose address is none. -/
def urlFailure (fault : Http.UrlFault) : Http.Failure :=
  match fault with
  | .otherScheme address => { Http.Failure.badUrl fault.message with url := some address }
  | fault => .badUrl fault.message

/-- The fields about credentials, token and body. -/
def fields (r : Request) (credentials : Option Http.Credentials) (token : Option String) :
    List (String × String) :=
  (credentials.map fun c => ("authorization", c.presented)).toList ++
    (r.body.map fun _ => ("content-type", "application/json")).toList ++
    (token.map fun t => ("authorization", "Bearer " ++ t)).toList

/-- A request as it goes out. -/
def outgoing (r : Request) (token : Option String) : Except Http.Failure Http.Outgoing :=
  match Http.Url.read r.url with
  | .error fault => .error (urlFailure fault)
  | .ok url =>
    let (url, credentials) := (url.addPairs r.query).withoutCredentials
    let o : Http.Outgoing :=
      ⟨r.method.verb, url, r.fields credentials token, r.body.map Json.Value.compact⟩
    if !token.all Http.Outgoing.isFieldValue then .error .badHeader
    else if !o.isAddressed then .error (.badRequestLine url.text)
    else .ok o

end Request

/-- What a response on the wire says. -/
def Response.ofIncoming (i : Http.Incoming) : Response :=
  ⟨i.status, String.ofList (Text.lossyChars i.body)⟩

/-- Whether a host is known without asking anybody: it is an address, or this machine. -/
def isKnownHost (host : String) : Bool :=
  host = "localhost" || "[".toList.isPrefixOf host.toList || Http.Host.endsInNumber host.toList

/-- The reply of a network that cannot be reached. -/
def Reply.unreachable (o : Http.Outgoing) : Reply :=
  .failure (.noConnection o.url.text
    (if o.url.secure then [Http.Failure.plainOnly]
    else if isKnownHost o.url.host then ["tcp connect error", "Network is unreachable (os error 101)"]
    else ["dns error", "failed to lookup address information: Temporary failure in name resolution"]))

/-- The reply to a request while the network cannot be reached. -/
def Request.offline (r : Request) (token : Option String) : Reply :=
  match r.outgoing token with
  | .error failure => .failure failure
  | .ok o => .unreachable o

end RunWatch.Api
