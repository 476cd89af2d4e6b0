import RunWatch.Calendar.Stamp
import RunWatch.Platform.Record

/-!
# Agents

The agents that push events from a tool into a project, and how they are doing.
-/

namespace RunWatch

open Json (Shape Codec)

/-- The health of an agent. -/
inductive AgentStatus where
  | online
  | unhealthy
  | offline
  deriving DecidableEq

namespace AgentStatus

def wireName : AgentStatus → String
  | online => "ONLINE"
  | unhealthy => "UNHEALTHY"
  | offline => "OFFLINE"

/-- The name of a status in messages. -/
def label : AgentStatus → String
  | online => "Online"
  | unhealthy => "Unhealthy"
  | offline => "Offline"

def codec : Codec AgentStatus :=
  Codec.constant ([online, unhealthy, offline].map fun s => (s.wireName, s)) wireName

end AgentStatus

/-- An agent of a project. -/
structure Agent where
  id : Uuid
  key : String
  tool : String
  version : Option String
  latestHeartbeat : Instant
  status : AgentStatus
  deriving DecidableEq

namespace Agent

def shape : Shape Agent :=
  ((Shape.required "id" Uuid.codec).both <|
    (Shape.required "key" Codec.text).both <|
    (Shape.required "tool" Codec.text).both <|
    (Shape.possible "version" Codec.text).both <|
    (Shape.required "latest_heartbeat" Instant.codec).both <|
    Shape.required "status" AgentStatus.codec).of
    (fun (id, key, tool, version, heartbeat, status) => ⟨id, key, tool, version, heartbeat, status⟩)
    (fun a => (a.id, a.key, a.tool, a.version, a.latestHeartbeat, a.status))

instance : Record Agent where
  kind := .agent
  codec := Codec.record shape
  id a := a.id
  readonly := assignedKeys

end Agent

end RunWatch
