import RunWatch.Json.Codec

/-!
# Kinds of resources

The kinds of resources that the platform's interface knows, each with a fixed segment in addresses.
-/

namespace RunWatch

/-- A kind of resource. -/
inductive Kind where
  | user
  | company
  | organization
  | project
  | event
  | pipeline
  | run
  | task
  | rule
  | journey
  | journeyInstance
  | component
  | serviceKey
  | dashboards
  | agent
  | schedule
  | testOutcome
  | alert
  deriving DecidableEq

namespace Kind

/-- The segment of addresses that stands for a kind. -/
def segment : Kind → String
  | user => "users"
  | company => "companies"
  | organization => "organizations"
  | project => "projects"
  | event => "events"
  | pipeline => "pipelines"
  | run => "runs"
  | task => "tasks"
  | rule => "rules"
  | journey => "journeys"
  | journeyInstance => "instances"
  | component => "components"
  | serviceKey => "service-account-key"
  | dashboards => "dashboards"
  | agent => "agents"
  | schedule => "schedules"
  | testOutcome => "tests"
  | alert => "alerts"

/-- The name of a kind in JSON. -/
def name : Kind → String
  | user => "User"
  | company => "Company"
  | organization => "Organization"
  | project => "Project"
  | event => "Event"
  | pipeline => "Pipeline"
  | run => "Run"
  | task => "Task"
  | rule => "Rule"
  | journey => "Journey"
  | journeyInstance => "Instance"
  | component => "Component"
  | serviceKey => "ServiceKey"
  | dashboards => "Dashboards"
  | agent => "Agent"
  | schedule => "Schedule"
  | testOutcome => "TestOutcome"
  | alert => "Alert"

/-- Every kind, in the order of declaration. -/
def all : List Kind :=
  [user, company, organization, project, event, pipeline, run, task, rule, journey, journeyInstance,
    component, serviceKey, dashboards, agent, schedule, testOutcome, alert]

/-- Kinds stand in JSON by their names. -/
def codec : Json.Codec Kind :=
  Json.Codec.constant (all.map fun k => (k.name, k)) name

end Kind

end RunWatch
