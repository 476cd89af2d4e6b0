import RunWatch.Api.Dialogue
import RunWatch.Api.Route
import RunWatch.Api.Settings
import RunWatch.Json.Reader
import RunWatch.Platform.Agent
import RunWatch.Platform.Project
import RunWatch.Platform.TestOutcome
import RunWatch.Platform.Event
import RunWatch.Text.Described

/-!
# Endpoints

The calls that the platform offers for one type of records: fetch one, fetch a page, find all, create,
update and delete.  Each call is a `Dialogue` of one request, except `findAll`, which first asks for the
total and then for everything as one page.

What is sent leaves out the keys that only the platform writes, see `Endpoint.body`.
-/

namespace RunWatch.Api

open Json (Codec Value Members)

/-! ## Single exchanges -/

/-- What a text in a codec's form stands for. -/
def decodeText? (c : Codec α) (s : String) : Option α :=
  (Json.read? s).bind (c.read .direct)

/-- What a reply says: the decoded body of a successful response, or else a fault. -/
def Reply.decode (c : Codec α) : Reply → Except Fault α
  | .failure f => .error (.noReply f)
  | .response r =>
    if r.isSuccess then
      match decodeText? c r.body with
      | some a => .ok a
      | none => .error .badBody
    else .error (.status r.status r.body)

/-- What a reply says when its body does not matter. -/
def Reply.confirm : Reply → Except Fault Unit
  | .failure f => .error (.noReply f)
  | .response r => if r.isSuccess then .ok () else .error (.status r.status r.body)

/-- Sends one request and decodes the reply. -/
def exchange (c : Codec α) (request : Request) : Call α :=
  .ask request fun reply => .answer (reply.decode c)

/-! ## The calls of a type -/

/-- Access to the records of one type. -/
structure Endpoint (R : Type) where
  root : String
  route : Route
  deriving DecidableEq

namespace Endpoint

variable {R : Type} [Record R]

/-- The endpoint of a type whose collections stand at the top. -/
def top (R : Type) [Record R] (root : String) : Endpoint R :=
  ⟨root, ⟨Record.kind R, none⟩⟩

/-- The endpoint of a type whose collections stand below a parent. -/
def below (R : Type) [Record R] (parent : Kind) (root : String) : Endpoint R :=
  ⟨root, ⟨Record.kind R, some parent⟩⟩

/-- The members of an object without some keys; other values stay as they are. -/
def without (keys : List String) : Value → Value
  | .object ms => .object (keys.foldl (fun ms key => Members.erase key ms) ms)
  | v => v

/-- What is sent for a value: without the keys that only the platform writes, and without the identifier
if that is in the address. -/
def body (R : Type) [Record R] (v : Value) (dropId : Bool) : Value :=
  without (Record.readonly R ++ if dropId then ["id"] else []) v

/-! ### Requests -/

def getRequest (e : Endpoint R) (id : Uuid) : Request :=
  .plain .get (e.route.itemUrl e.root id)

def pageRequest (e : Endpoint R) (r : PageRequest) : Request :=
  { Request.plain .get (e.route.collectionUrl e.root r.parent) with query := Query.ofPage r }

def createRequest (e : Endpoint R) (parentId : Option Uuid) (v : Value) : Request :=
  { Request.plain .post (e.route.collectionUrl e.root parentId) with body := some (body R v false) }

def patchRequest (e : Endpoint R) (id : Uuid) (v : Value) : Request :=
  { Request.plain .patch (e.route.itemUrl e.root id) with body := some (body R v true) }

def deleteRequest (e : Endpoint R) (id : Uuid) : Request :=
  .plain .delete (e.route.itemUrl e.root id)

/-! ### Calls -/

/-- Fetches one record. -/
def getOne (e : Endpoint R) (id : Uuid) : Call R :=
  exchange (Record.codec (R := R)) (e.getRequest id)

/-- Fetches one page. -/
def getPage (e : Endpoint R) (r : PageRequest) : Call (Page R) :=
  exchange (Page.codec R) (e.pageRequest r)

/-- The fault of a list that is longer than a page can be. -/
def tooMany (e : Endpoint R) (total : UInt64) : Fault :=
  .invalid (toString total.toNat ++ " " ++ e.route.kind.segment ++ " entities exceed a single page")

/-- Fetches everything that fits.  The total is asked for first with a page of no items; the second
request fetches that many and is left out if there is nothing to fetch. -/
def findAll (e : Endpoint R) (r : FindRequest) : Call (Page R) :=
  (e.getPage (r.toPage 0)).andThen fun probe =>
    if probe.total = 0 then .answer (.ok (Page.empty R))
    else if probe.total.toNat < UInt32.size then e.getPage (r.toPage probe.total.toUInt32)
    else .answer (.error (e.tooMany probe.total))

/-- Creates a record, below a parent if one is given. -/
def create (e : Endpoint R) (parentId : Option Uuid) (v : Value) : Call R :=
  exchange (Record.codec (R := R)) (e.createRequest parentId v)

/-- Changes some members of a record. -/
def patch (e : Endpoint R) (id : Uuid) (v : Value) : Call R :=
  exchange (Record.codec (R := R)) (e.patchRequest id v)

/-- Changes a record to the given one. -/
def update (e : Endpoint R) (r : R) : Call R :=
  e.patch (Record.id r) (Record.encode r)

/-- Deletes a record. -/
def delete (e : Endpoint R) (id : Uuid) : Call Deleted :=
  .ask (e.deleteRequest id) fun reply => .answer (reply.confirm.map fun _ => ⟨id⟩)

end Endpoint

/-! ## The endpoints of the platform -/

/-- A client of the platform: the root of its addresses. -/
structure Client where
  root : String
  deriving DecidableEq

namespace Client

/-- The client of a connection. -/
def ofSettings (s : Settings) : Client := ⟨s.root⟩

def projects (c : Client) : Endpoint Project := .top Project c.root

def journeys (c : Client) : Endpoint Journey := .below Journey .project c.root

def components (c : Client) : Endpoint Component := .below Component .project c.root

/-- Schedules are created below their component. -/
def schedules (c : Client) : Endpoint Schedule := .below Schedule .component c.root

def runs (c : Client) : Endpoint Run := .below Run .project c.root

/-- The steps of a run stand below it. -/
def runTasks (c : Client) : Endpoint RunTask := .below RunTask .run c.root

def tests (c : Client) : Endpoint TestOutcome := .below TestOutcome .project c.root

def instances (c : Client) : Endpoint JourneyInstance := .below JourneyInstance .project c.root

def events (c : Client) : Endpoint Event := .below Event .project c.root

def agents (c : Client) : Endpoint Agent := .below Agent .project c.root

/-- A client in words. -/
def describe (c : Client) : String :=
  "ApiClient \x7b root: " ++ Text.describe c.root ++ " \x7d"

end Client

end RunWatch.Api
