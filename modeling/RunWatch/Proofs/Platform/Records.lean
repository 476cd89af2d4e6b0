import RunWatch.Platform.Agent
import RunWatch.Platform.Event
import RunWatch.Platform.Page
import RunWatch.Platform.TestOutcome
import RunWatch.Proofs.Platform.Project

/-!
# Records written and read

Everything that the platform and its clients send each other is recovered from what is written for it
(`wire_format_recovers`).  The layouts are the wire format at a glance: the keys of each type, and what it means
if one of them is missing.  Most parts that may be missing are null or empty then; the others are `active`, which
is true of a profile and false of an instance, the `count` of an alert, its `description` and the `filters` of a
request.
-/

namespace RunWatch

open Json (Codec Layout Members Shape)

/-! ## Statuses -/

theorem RunStatus.codec_lawful : codec.Lawful :=
  Codec.constant_lawful fun s => by cases s <;> rfl

theorem TestStatus.codec_lawful : codec.Lawful :=
  Codec.constant_lawful fun s => by cases s <;> rfl

theorem AlertLevel.codec_lawful : codec.Lawful :=
  Codec.constant_lawful fun l => by cases l <;> rfl

theorem AgentStatus.codec_lawful : codec.Lawful :=
  Codec.constant_lawful fun s => by cases s <;> rfl

namespace StatusCount

def layout : Layout :=
  [("status", none), ("count", none)]

theorem shape_restores {S : Type} [StatusKey S] (h : (StatusKey.codec (S := S)).Lawful) (r : StatusCount S) :
    (shape S).Restores layout r := by
  have hstatus := Shape.required_restores "status" (h r.status)
  have hcount := Shape.required_restores "count" (Codec.uint64_lawful r.count)
  exact Shape.Restores.of (hstatus.both hcount) rfl

theorem codec_lawful {S : Type} [StatusKey S] (h : (StatusKey.codec (S := S)).Lawful) : (codec S).Lawful :=
  fun r => Codec.record_restores (shape_restores h r) (by decide)

end StatusCount

/-! ## Journeys -/

namespace Journey

def layout : Layout :=
  Profile.layout ++ [("project", some .null)]

theorem shape_restores (j : Journey) : shape.Restores layout j := by
  have hprofile := (Profile.shape_restores j.profile).heldBack
  have hproject := Shape.possible_restores "project" Uuid.codec_lawful Uuid.codec_neverNull j.project
  exact Shape.Restores.of (hprofile.both hproject) rfl

theorem codec_lawful : (Record.codec (R := Journey)).Lawful :=
  fun j => Codec.shared_restores (shape_restores j) (by decide) _

end Journey

/-! ## Schedules -/

theorem Expectation.codec_lawful : codec.Lawful :=
  Codec.constant_lawful fun e => by cases e <;> rfl

namespace Schedule

def layout : Layout :=
  [("id", none), ("component", some .null), ("schedule", none), ("timezone", some .null), ("margin", some .null),
    ("expectation", none)]

theorem shape_restores (s : Schedule) : shape.Restores layout s := by
  have hid := Shape.required_restores "id" (Uuid.codec_lawful s.id)
  have hcomponent := Shape.possible_restores "component" Uuid.codec_lawful Uuid.codec_neverNull s.component
  have hschedule := Shape.required_restores "schedule" (Codec.text_lawful s.schedule)
  have htimezone := Shape.possible_restores "timezone" Codec.text_lawful Codec.text_neverNull s.timezone
  have hmargin := Shape.possible_restores "margin" Codec.uint64_lawful Codec.uint64_neverNull s.margin
  have hexpectation := Shape.required_restores "expectation" (Expectation.codec_lawful s.expectation)
  have h := hid.both (hcomponent.both (hschedule.both (htimezone.both (hmargin.both hexpectation))))
  exact Shape.Restores.of h rfl

theorem codec_lawful : (Record.codec (R := Schedule)).Lawful :=
  fun s => Codec.record_restores (shape_restores s) (by decide)

end Schedule

namespace ScheduleDraft

def layout : Layout :=
  [("schedule", none), ("timezone", some .null), ("margin", some .null), ("expectation", none)]

theorem shape_restores (d : ScheduleDraft) : shape.Restores layout d := by
  have hschedule := Shape.required_restores "schedule" (Codec.text_lawful d.schedule)
  have htimezone := Shape.possible_restores "timezone" Codec.text_lawful Codec.text_neverNull d.timezone
  have hmargin := Shape.possible_restores "margin" Codec.uint64_lawful Codec.uint64_neverNull d.margin
  have hexpectation := Shape.required_restores "expectation" (Expectation.codec_lawful d.expectation)
  exact Shape.Restores.of (hschedule.both (htimezone.both (hmargin.both hexpectation))) rfl

end ScheduleDraft

/-! ## Components -/

theorem ComponentType.codec_lawful : codec.Lawful :=
  Codec.constant_lawful fun t => by cases t <;> rfl

namespace Component

def layout : Layout :=
  Profile.layout ++ [("type", none), ("key", none), ("tool", some .null), ("display_name", some .null),
    ("project", some .null), ("schedules", some (.array []))]

theorem shape_restores (c : Component) : shape.Restores layout c := by
  have hprofile := (Profile.shape_restores c.profile).heldBack
  have htype := Shape.required_restores "type" (ComponentType.codec_lawful c.type)
  have hkey := Shape.required_restores "key" (Codec.text_lawful c.key)
  have htool := Shape.possible_restores "tool" Codec.text_lawful Codec.text_neverNull c.tool
  have hname := Shape.possible_restores "display_name" Codec.text_lawful Codec.text_neverNull c.displayName
  have hproject := Shape.possible_restores "project" Uuid.codec_lawful Uuid.codec_neverNull c.project
  have hschedules := Shape.listed_restores "schedules" Schedule.codec_lawful c.schedules
  have h := hprofile.both (htype.both (hkey.both (htool.both (hname.both (hproject.both hschedules)))))
  exact Shape.Restores.of h rfl

theorem codec_lawful : (Record.codec (R := Component)).Lawful :=
  fun c => Codec.shared_restores (shape_restores c) (by decide) _

end Component

namespace ComponentRef

def layout : Layout :=
  [("id", none), ("key", some .null), ("display_name", some .null), ("tool", some .null)]

theorem shape_restores (c : ComponentRef) : shape.Restores layout c := by
  have hid := Shape.required_restores "id" (Uuid.codec_lawful c.id)
  have hkey := Shape.possible_restores "key" Codec.text_lawful Codec.text_neverNull c.key
  have hname := Shape.possible_restores "display_name" Codec.text_lawful Codec.text_neverNull c.displayName
  have htool := Shape.possible_restores "tool" Codec.text_lawful Codec.text_neverNull c.tool
  exact Shape.Restores.of (hid.both (hkey.both (hname.both htool))) rfl

theorem codec_lawful : codec.Lawful :=
  fun c => Codec.record_restores (shape_restores c) (by decide)

end ComponentRef

/-! ## Alerts, runs and their steps -/

namespace Alert

/-- An alert without a count is one. -/
def layout : Layout :=
  [("id", none), ("level", none), ("type", none), ("description", some (.string "")), ("created_on", none),
    ("count", some (.number (.ofUInt64 1)))]

theorem shape_restores (a : Alert) : shape.Restores layout a := by
  have hid := Shape.required_restores "id" (Uuid.codec_lawful a.id)
  have hlevel := Shape.required_restores "level" (AlertLevel.codec_lawful a.level)
  have htype := Shape.required_restores "type" (Codec.text_lawful a.type)
  have hdescription := Shape.defaulted_restores "description" (Codec.text_lawful a.description) (Codec.text_lawful "")
  have hcreatedOn := Shape.required_restores "created_on" (Instant.codec_lawful a.createdOn)
  have hcount := Shape.defaulted_restores "count" (Codec.uint64_lawful a.count) (Codec.uint64_lawful 1)
  have h := hid.both (hlevel.both (htype.both (hdescription.both (hcreatedOn.both hcount))))
  exact Shape.Restores.of h rfl

theorem codec_lawful : (Record.codec (R := Alert)).Lawful :=
  fun a => Codec.record_restores (shape_restores a) (by decide)

end Alert

namespace Run

def layout : Layout :=
  [("id", none), ("key", none), ("name", some .null), ("pipeline", none), ("status", none),
    ("start_time", some .null), ("end_time", some .null), ("tasks_summary", some (.array [])),
    ("tests_summary", some (.array [])), ("alerts", some (.array []))]

theorem shape_restores (r : Run) : shape.Restores layout r := by
  have hid := Shape.required_restores "id" (Uuid.codec_lawful r.id)
  have hkey := Shape.required_restores "key" (Codec.text_lawful r.key)
  have hname := Shape.possible_restores "name" Codec.text_lawful Codec.text_neverNull r.name
  have hpipeline := Shape.required_restores "pipeline" (ComponentRef.codec_lawful r.pipeline)
  have hstatus := Shape.required_restores "status" (RunStatus.codec_lawful r.status)
  have hstart := Shape.possible_restores "start_time" Instant.codec_lawful Instant.codec_neverNull r.startTime
  have hend := Shape.possible_restores "end_time" Instant.codec_lawful Instant.codec_neverNull r.endTime
  have htasks := Shape.listed_restores "tasks_summary" (StatusCount.codec_lawful RunStatus.codec_lawful) r.tasksSummary
  have htests := Shape.listed_restores "tests_summary" (StatusCount.codec_lawful TestStatus.codec_lawful)
    r.testsSummary
  have halerts := Shape.listed_restores "alerts" Alert.codec_lawful r.alerts
  have h := hid.both <| hkey.both <| hname.both <| hpipeline.both <| hstatus.both <| hstart.both <| hend.both <|
    htasks.both <| htests.both halerts
  exact Shape.Restores.of h rfl

theorem codec_lawful : (Record.codec (R := Run)).Lawful :=
  fun r => Codec.record_restores (shape_restores r) (by decide)

end Run

namespace TaskRef

def layout : Layout :=
  [("id", none), ("key", none), ("display_name", some .null)]

theorem shape_restores (t : TaskRef) : shape.Restores layout t := by
  have hid := Shape.required_restores "id" (Uuid.codec_lawful t.id)
  have hkey := Shape.required_restores "key" (Codec.text_lawful t.key)
  have hname := Shape.possible_restores "display_name" Codec.text_lawful Codec.text_neverNull t.displayName
  exact Shape.Restores.of (hid.both (hkey.both hname)) rfl

theorem codec_lawful : codec.Lawful :=
  fun t => Codec.record_restores (shape_restores t) (by decide)

end TaskRef

namespace RunTask

def layout : Layout :=
  [("id", none), ("run", some .null), ("task", none), ("start_time", none), ("end_time", some .null),
    ("status", none)]

theorem shape_restores (t : RunTask) : shape.Restores layout t := by
  have hid := Shape.required_restores "id" (Uuid.codec_lawful t.id)
  have hrun := Shape.possible_restores "run" Uuid.codec_lawful Uuid.codec_neverNull t.run
  have htask := Shape.required_restores "task" (TaskRef.codec_lawful t.task)
  have hstart := Shape.required_restores "start_time" (Instant.codec_lawful t.startTime)
  have hend := Shape.possible_restores "end_time" Instant.codec_lawful Instant.codec_neverNull t.endTime
  have hstatus := Shape.required_restores "status" (RunStatus.codec_lawful t.status)
  exact Shape.Restores.of (hid.both (hrun.both (htask.both (hstart.both (hend.both hstatus))))) rfl

theorem codec_lawful : (Record.codec (R := RunTask)).Lawful :=
  fun t => Codec.record_restores (shape_restores t) (by decide)

end RunTask

/-! ## Test outcomes and instances -/

namespace Measurement

theorem codec_restores {x : Measurement} (h : x.isFinite = true) : codec.Restores x ∧ codec.write x ≠ .null := by
  cases x with
  | finite x => exact ⟨fun _ => rfl, nofun⟩
  | infinite negative => cases h
  | undefined => cases h

theorem read_of_not_finite {x : Measurement} (h : x.isFinite = false) (m : Json.Manner) :
    codec.read m (codec.write x).tree = none := by
  cases x with
  | finite x => cases h
  | infinite negative => rfl
  | undefined => rfl

/-- An option that has a finite measurement or none is written like the one given. -/
theorem optional_write_filter (x : Option Measurement) :
    codec.optional.write (x.filter isFinite) = codec.optional.write x := by
  rcases x with - | - | - | - <;> rfl

end Measurement

namespace TestOutcome

/-- Whether the thresholds of a test outcome are finite, as far as it has any. -/
def IsFinite (t : TestOutcome) : Prop :=
  (∀ x ∈ t.minThreshold, x.isFinite = true) ∧ ∀ x ∈ t.maxThreshold, x.isFinite = true

/-- A test outcome without the thresholds that are not finite. -/
def finitePart (t : TestOutcome) : TestOutcome :=
  { t with minThreshold := t.minThreshold.filter (·.isFinite), maxThreshold := t.maxThreshold.filter (·.isFinite) }

def layout : Layout :=
  [("id", none), ("name", none), ("status", none), ("description", some .null), ("start_time", some .null),
    ("end_time", some .null), ("component", none), ("min_threshold", some .null), ("max_threshold", some .null)]

theorem shape_restores {t : TestOutcome} (h : t.IsFinite) : shape.Restores layout t := by
  have hid := Shape.required_restores "id" (Uuid.codec_lawful t.id)
  have hname := Shape.required_restores "name" (Codec.text_lawful t.name)
  have hstatus := Shape.required_restores "status" (TestStatus.codec_lawful t.status)
  have hdescription := Shape.possible_restores "description" Codec.text_lawful Codec.text_neverNull t.description
  have hstart := Shape.possible_restores "start_time" Instant.codec_lawful Instant.codec_neverNull t.startTime
  have hend := Shape.possible_restores "end_time" Instant.codec_lawful Instant.codec_neverNull t.endTime
  have hcomponent := Shape.required_restores "component" (ComponentRef.codec_lawful t.component)
  have hmin := Shape.possible_restores_of "min_threshold" fun x hx => Measurement.codec_restores (h.1 x hx)
  have hmax := Shape.possible_restores_of "max_threshold" fun x hx => Measurement.codec_restores (h.2 x hx)
  have hparts := hid.both <| hname.both <| hstatus.both <| hdescription.both <| hstart.both <| hend.both <|
    hcomponent.both <| hmin.both hmax
  exact Shape.Restores.of hparts rfl

theorem isFinite_finitePart (t : TestOutcome) : t.finitePart.IsFinite :=
  ⟨fun _ hx => (Option.filter_eq_some_iff.mp hx).2, fun _ hx => (Option.filter_eq_some_iff.mp hx).2⟩

theorem finitePart_eq_self {t : TestOutcome} : t.finitePart = t ↔ t.IsFinite := by
  refine ⟨fun h => h ▸ isFinite_finitePart t, fun ⟨hmin, hmax⟩ => ?_⟩
  have hkept {x : Option Measurement} (h : ∀ y ∈ x, y.isFinite = true) : x.filter (·.isFinite) = x := by
    cases x with
    | none => rfl
    | some y => exact Option.filter_some_pos (h y rfl)
  rw [finitePart, hkept hmin, hkept hmax]

theorem encode_finitePart (t : TestOutcome) : Record.encode t.finitePart = Record.encode t := by
  have hmembers : shape.members t.finitePart = shape.members t := by
    have hmin := Measurement.optional_write_filter t.minThreshold
    have hmax := Measurement.optional_write_filter t.maxThreshold
    simp only [shape, Shape.of, Shape.both, Shape.required, Shape.possible, Shape.defaulted, Shape.field, finitePart, hmin,
      hmax]
  exact congrArg Json.Value.ofMembers hmembers

/-- A test outcome is read from what is written for it without the thresholds that are not finite. -/
theorem decode?_encode (t : TestOutcome) : Record.decode? (Record.encode t) = some t.finitePart := by
  rw [← encode_finitePart]
  exact Codec.record_restores (shape_restores (isFinite_finitePart t)) (by decide) .direct

end TestOutcome

namespace JourneyRef

def layout : Layout :=
  [("id", none), ("name", some .null)]

theorem shape_restores (j : JourneyRef) : shape.Restores layout j := by
  have hid := Shape.required_restores "id" (Uuid.codec_lawful j.id)
  have hname := Shape.possible_restores "name" Codec.text_lawful Codec.text_neverNull j.name
  exact Shape.Restores.of (hid.both hname) rfl

theorem codec_lawful : codec.Lawful :=
  fun j => Codec.record_restores (shape_restores j) (by decide)

end JourneyRef

namespace JourneyInstance

/-- An instance without the key `active` is over. -/
def layout : Layout :=
  [("id", none), ("journey", none), ("active", some (.bool false)), ("start_time", none), ("end_time", some .null),
    ("runs_summary", some (.array [])), ("tests_summary", some (.array [])), ("alerts_summary", some (.array []))]

theorem shape_restores (i : JourneyInstance) : shape.Restores layout i := by
  have hid := Shape.required_restores "id" (Uuid.codec_lawful i.id)
  have hjourney := Shape.required_restores "journey" (JourneyRef.codec_lawful i.journey)
  have hactive := Shape.defaulted_restores "active" (Codec.flag_lawful i.active) (Codec.flag_lawful false)
  have hstart := Shape.required_restores "start_time" (Instant.codec_lawful i.startTime)
  have hend := Shape.possible_restores "end_time" Instant.codec_lawful Instant.codec_neverNull i.endTime
  have hruns := Shape.listed_restores "runs_summary" (StatusCount.codec_lawful RunStatus.codec_lawful) i.runsSummary
  have htests := Shape.listed_restores "tests_summary" (StatusCount.codec_lawful TestStatus.codec_lawful)
    i.testsSummary
  have halerts := Shape.listed_restores "alerts_summary" (StatusCount.codec_lawful AlertLevel.codec_lawful)
    i.alertsSummary
  have h := hid.both <| hjourney.both <| hactive.both <| hstart.both <| hend.both <| hruns.both <|
    htests.both halerts
  exact Shape.Restores.of h rfl

theorem codec_lawful : (Record.codec (R := JourneyInstance)).Lawful :=
  fun i => Codec.record_restores (shape_restores i) (by decide)

end JourneyInstance

/-! ## Agents -/

namespace Agent

def layout : Layout :=
  [("id", none), ("key", none), ("tool", none), ("version", some .null), ("latest_heartbeat", none),
    ("status", none)]

theorem shape_restores (a : Agent) : shape.Restores layout a := by
  have hid := Shape.required_restores "id" (Uuid.codec_lawful a.id)
  have hkey := Shape.required_restores "key" (Codec.text_lawful a.key)
  have htool := Shape.required_restores "tool" (Codec.text_lawful a.tool)
  have hversion := Shape.possible_restores "version" Codec.text_lawful Codec.text_neverNull a.version
  have hheartbeat := Shape.required_restores "latest_heartbeat" (Instant.codec_lawful a.latestHeartbeat)
  have hstatus := Shape.required_restores "status" (AgentStatus.codec_lawful a.status)
  exact Shape.Restores.of (hid.both (hkey.both (htool.both (hversion.both (hheartbeat.both hstatus))))) rfl

theorem codec_lawful : (Record.codec (R := Agent)).Lawful :=
  fun a => Codec.record_restores (shape_restores a) (by decide)

end Agent

/-! ## Events -/

theorem DatasetOperation.codec_lawful : codec.Lawful :=
  Codec.constant_lawful fun o => by cases o <;> rfl

theorem MessageLevel.codec_lawful : codec.Lawful :=
  Codec.constant_lawful fun l => by cases l <;> rfl

namespace ReportedTest

def layout : Layout :=
  [("name", none), ("status", none), ("description", some .null)]

theorem shape_restores (t : ReportedTest) : shape.Restores layout t := by
  have hname := Shape.required_restores "name" (Codec.text_lawful t.name)
  have hstatus := Shape.required_restores "status" (TestStatus.codec_lawful t.status)
  have hdescription := Shape.possible_restores "description" Codec.text_lawful Codec.text_neverNull t.description
  exact Shape.Restores.of (hname.both (hstatus.both hdescription)) rfl

theorem codec_lawful : codec.Lawful :=
  fun t => Codec.record_restores (shape_restores t) (by decide)

end ReportedTest

namespace Payload

theorem Variety.codec_lawful : Variety.codec.Lawful := by
  intro v m
  cases v <;> rfl

/-- The keys that come with an event of some type. -/
def Variety.layout : Variety → Layout
  | .runStatus => [("status", none), ("run_key", some .null)]
  | .datasetOperation => [("operation", none), ("path", some .null)]
  | .testOutcomes => [("test_outcomes", some (.array []))]
  | .messageLog => [("log_level", none), ("message", none)]
  | .metricLog => [("metric_key", none), ("metric_value", none)]

/-- Whether the value of a metric is finite, if it is a metric that is reported. -/
def IsFinite : Payload → Prop
  | .metricLog _ value => value.isFinite = true
  | _ => True

theorem parts_restores {p : Payload} (h : p.IsFinite) : p.variety.shape.Restores p.variety.layout p.parts := by
  cases p with
  | runStatus status runKey =>
    exact (Shape.required_restores "status" (RunStatus.codec_lawful status)).both
      (Shape.possible_restores "run_key" Codec.text_lawful Codec.text_neverNull runKey)
  | datasetOperation operation path =>
    exact (Shape.required_restores "operation" (DatasetOperation.codec_lawful operation)).both
      (Shape.possible_restores "path" Codec.text_lawful Codec.text_neverNull path)
  | testOutcomes outcomes => exact Shape.listed_restores "test_outcomes" ReportedTest.codec_lawful outcomes
  | messageLog level message =>
    exact (Shape.required_restores "log_level" (MessageLevel.codec_lawful level)).both
      (Shape.required_restores "message" (Codec.text_lawful message))
  | metricLog key value =>
    exact (Shape.required_restores "metric_key" (Codec.text_lawful key)).both
      (Shape.required_restores "metric_value" (Measurement.codec_restores h).1)

theorem build_parts (p : Payload) : build p.variety p.parts = p := by
  cases p <;> rfl

theorem shape_keys (p : Payload) :
    (shape.members p).map Prod.fst = ((Variety.key, none) :: p.variety.layout).map Prod.fst := by
  cases p <;> rfl

/-- The type of an event is read first, and it tells which parts there are to be read. -/
theorem read_shape {p : Payload} {m : Json.Manner} {ms : List (String × Json.Tree)}
    (h : Shape.under Variety.key ms = [(Variety.codec.write p.variety).tree]) :
    shape.read m ms = (p.variety.shape.read m ms).map (build p.variety) := by
  have htype : (Shape.required Variety.key Variety.codec).read m ms = some p.variety := by
    simp only [Shape.required, Shape.field, h]
    exact Variety.codec_lawful p.variety m
  simp [shape, htype]

theorem shape_restores {p : Payload} (h : p.IsFinite) : shape.Restores ((Variety.key, none) :: p.variety.layout) p := by
  have htype := Shape.required_restores Variety.key (Variety.codec_lawful p.variety)
  have hall := htype.both (parts_restores h)
  refine ⟨shape_keys p, fun hkeys m ms hms => ?_⟩
  have hread := hall.read hkeys m ms hms
  obtain ⟨hvariety, hparts⟩ : (Shape.required Variety.key Variety.codec).read m ms = some p.variety ∧
      p.variety.shape.read m ms = some p.parts := by
    simpa [Shape.both, Option.bind_eq_some_iff] using hread
  simp [shape, hvariety, hparts, build_parts]

theorem shape_refuses {p : Payload} (h : ¬p.IsFinite) : shape.Refuses p := by
  cases p with
  | metricLog key value =>
    have hvalue : value.isFinite = false := Bool.eq_false_iff.mpr h
    have hparts : (Variety.shape .metricLog).Refuses (key, value) :=
      Shape.Refuses.both _ key (Shape.required_refuses "metric_value" (Measurement.read_of_not_finite hvalue))
    intro m ms hms
    rw [read_shape (p := .metricLog key value) (hms _ List.mem_cons_self)]
    exact congrArg (Option.map _) (hparts m ms fun e he => hms e (List.mem_cons_of_mem _ he))
  | _ => exact absurd trivial h

end Payload

namespace Event

/-- The keys of an event of some type. -/
def layout (v : Payload.Variety) : Layout :=
  [("id", none), ("timestamp", none), ("component", some .null), ("event_type", none)] ++ v.layout

theorem nodup_layout (v : Payload.Variety) : ((layout v).map Prod.fst).Nodup := by
  cases v <;> decide

theorem shape_keys (e : Event) : (shape.members e).map Prod.fst = (layout e.payload.variety).map Prod.fst :=
  congrArg (["id", "timestamp", "component"] ++ ·) (Payload.shape_keys e.payload)

theorem shape_restores {e : Event} (h : e.payload.IsFinite) : shape.Restores (layout e.payload.variety) e := by
  have hid := Shape.required_restores "id" (Uuid.codec_lawful e.id)
  have htimestamp := Shape.required_restores "timestamp" (Instant.codec_lawful e.timestamp)
  have hcomponent := Shape.possible_restores "component" ComponentRef.codec_lawful (Codec.record_neverNull _)
    e.component
  have hpayload := (Payload.shape_restores h).heldBack
  exact Shape.Restores.of (hid.both (htimestamp.both (hcomponent.both hpayload))) rfl

theorem shape_refuses {e : Event} (h : ¬e.payload.IsFinite) : shape.Refuses e :=
  .of (.both _ _ (.both _ _ (.both _ _ (Payload.shape_refuses h).heldBack)))

theorem decode?_encode {e : Event} (h : e.payload.IsFinite) : Record.decode? (Record.encode e) = some e :=
  Codec.shared_restores (shape_restores h) (nodup_layout _) _ .direct

/-- An event that reports an infinite or undefined metric is not read from what is written for it. -/
theorem decode?_encode_eq_none {e : Event} (h : ¬e.payload.IsFinite) :
    Record.decode? (Record.encode e) = (none : Option Event) :=
  Codec.shared_refuses (shape_refuses h) (shape_keys e ▸ nodup_layout _) _

end Event

/-! ## Pages and requests -/

namespace Page

def layout : Layout :=
  [("entities", none), ("total", none)]

theorem shape_restores {R : Type} [Record R] (h : (Record.codec (R := R)).Lawful) (p : Page R) :
    (shape R).Restores layout p := by
  have hitems := Shape.required_restores "entities" (Codec.list_lawful h p.items)
  have htotal := Shape.required_restores "total" (Codec.uint64_lawful p.total)
  exact Shape.Restores.of (hitems.both htotal) rfl

end Page

/-- Filters are restored if the objects in them are in order; without the key there are none. -/
theorem filters_restored {filters : Members} (h : (Json.Value.object filters).Ordered) :
    (Shape.defaulted "filters" Codec.members []).Restores [("filters", some (.object []))] filters :=
  Shape.defaulted_restores "filters" (Codec.members_restores h)
    (Codec.members_restores (.object Members.sorted_nil nofun))

namespace PageRequest

def layout : Layout :=
  [("page", none), ("count", none), ("filters", some (.object [])), ("sort", some .null), ("parent_id", some .null)]

theorem shape_restores {r : PageRequest} (h : (Json.Value.object r.filters).Ordered) : shape.Restores layout r := by
  have hpage := Shape.required_restores "page" (Codec.uint32_lawful r.page)
  have hcount := Shape.required_restores "count" (Codec.uint32_lawful r.count)
  have hsort := Shape.possible_restores "sort" Codec.text_lawful Codec.text_neverNull r.sort
  have hparent := Shape.possible_restores "parent_id" Uuid.codec_lawful Uuid.codec_neverNull r.parent
  exact Shape.Restores.of (hpage.both (hcount.both ((filters_restored h).both (hsort.both hparent)))) rfl

end PageRequest

namespace FindRequest

def layout : Layout :=
  [("filters", some (.object [])), ("sort", some .null), ("parent_id", some .null)]

theorem shape_restores {r : FindRequest} (h : (Json.Value.object r.filters).Ordered) : shape.Restores layout r := by
  have hsort := Shape.possible_restores "sort" Codec.text_lawful Codec.text_neverNull r.sort
  have hparent := Shape.possible_restores "parent_id" Uuid.codec_lawful Uuid.codec_neverNull r.parent
  exact Shape.Restores.of ((filters_restored h).both (hsort.both hparent)) rfl

end FindRequest

/-! ## The wire format -/

/-- Whatever is sent is recovered from what is written for it, also if keys are added that its layout does not
declare or keys are left out whose value is the default.  Measurements have to be finite, and the filters of a request
in order, as those of every object are that has been read. -/
theorem wire_format_recovers :
    (∀ p : Project, Record.codec.Recovers Profile.layout p) ∧
      (∀ j : Journey, Record.codec.Recovers Journey.layout j) ∧
      (∀ c : Component, Record.codec.Recovers Component.layout c) ∧
      (∀ s : Schedule, Record.codec.Recovers Schedule.layout s) ∧
      (∀ r : Run, Record.codec.Recovers Run.layout r) ∧
      (∀ t : RunTask, Record.codec.Recovers RunTask.layout t) ∧
      (∀ t : TestOutcome, t.IsFinite → Record.codec.Recovers TestOutcome.layout t) ∧
      (∀ i : JourneyInstance, Record.codec.Recovers JourneyInstance.layout i) ∧
      (∀ e : Event, e.payload.IsFinite → Record.codec.Recovers (Event.layout e.payload.variety) e) ∧
      (∀ a : Agent, Record.codec.Recovers Agent.layout a) ∧
      (∀ a : Alert, Record.codec.Recovers Alert.layout a) ∧
      (∀ d : ScheduleDraft, ScheduleDraft.codec.Recovers ScheduleDraft.layout d) ∧
      (∀ r : PageRequest, (Json.Value.object r.filters).Ordered →
        PageRequest.codec.Recovers PageRequest.layout r) ∧
      (∀ r : FindRequest, (Json.Value.object r.filters).Ordered →
        FindRequest.codec.Recovers FindRequest.layout r) ∧
      (∀ p : Page Project, (Page.codec Project).Recovers Page.layout p) ∧
      (∀ r : StatusCount RunStatus, (StatusCount.codec RunStatus).Recovers StatusCount.layout r) ∧
      (∀ r : StatusCount TestStatus, (StatusCount.codec TestStatus).Recovers StatusCount.layout r) ∧
      ∀ r : StatusCount AlertLevel, (StatusCount.codec AlertLevel).Recovers StatusCount.layout r := by
  refine ⟨fun p => ?_, fun j => ?_, fun c => ?_, fun s => ?_, fun r => ?_, fun t => ?_, fun t h => ?_, fun i => ?_,
    fun e h => ?_, fun a => ?_, fun a => ?_, fun d => ?_, fun r h => ?_, fun r h => ?_, fun p => ?_, fun r => ?_,
    fun r => ?_, fun r => ?_⟩
  · exact Codec.shared_recovers (Project.shape_restores p) (by decide) _
  · exact Codec.shared_recovers (Journey.shape_restores j) (by decide) _
  · exact Codec.shared_recovers (Component.shape_restores c) (by decide) _
  · exact Codec.record_recovers (Schedule.shape_restores s) (by decide)
  · exact Codec.record_recovers (Run.shape_restores r) (by decide)
  · exact Codec.record_recovers (RunTask.shape_restores t) (by decide)
  · exact Codec.record_recovers (TestOutcome.shape_restores h) (by decide)
  · exact Codec.record_recovers (JourneyInstance.shape_restores i) (by decide)
  · exact Codec.shared_recovers (Event.shape_restores h) (Event.nodup_layout _) _
  · exact Codec.record_recovers (Agent.shape_restores a) (by decide)
  · exact Codec.record_recovers (Alert.shape_restores a) (by decide)
  · exact Codec.record_recovers (ScheduleDraft.shape_restores d) (by decide)
  · exact Codec.record_recovers (PageRequest.shape_restores h) (by decide)
  · exact Codec.record_recovers (FindRequest.shape_restores h) (by decide)
  · exact Codec.record_recovers (Page.shape_restores Project.codec_lawful p) (by decide)
  · exact Codec.record_recovers (StatusCount.shape_restores RunStatus.codec_lawful r) (by decide)
  · exact Codec.record_recovers (StatusCount.shape_restores TestStatus.codec_lawful r) (by decide)
  · exact Codec.record_recovers (StatusCount.shape_restores AlertLevel.codec_lawful r) (by decide)

/-- An event and a request with a key added each, without the component of the one and the order and the parent of
the other. -/
theorem sparse_objects_recovered :
    let morning : Instant := ⟨⟨2026, 1, 1, by decide⟩, 28800, 0, by decide⟩
    let event : Event := ⟨⟨List.replicate 32 1, rfl⟩, morning, none, .messageLog .warning "late"⟩
    let request : PageRequest := ⟨0, 20, [("status", .string "FAILED")], none, none⟩
    Record.decode? (.ofMembers [("event_type", .string "MessageLogEvent"), ("host", .string "etl"),
        ("id", .string "11111111-1111-1111-1111-111111111111"), ("log_level", .string "WARNING"), ("message", .string "late"),
        ("timestamp", .string "2026-01-01T08:00:00Z")]) = some event ∧
      PageRequest.codec.ofValue? (.ofMembers [("count", .number (.ofUInt64 20)), ("cursor", .null),
        ("filters", .object request.filters), ("page", .number (.ofUInt64 0))]) = some request := by
  intro morning event request
  have hordered : (Json.Value.object request.filters).Ordered :=
    .object (List.pairwise_singleton _ _) fun m hm => List.mem_singleton.mp hm ▸ .string "FAILED"
  obtain ⟨-, -, -, -, -, -, -, -, hevents, -, -, -, hrequests, -⟩ := wire_format_recovers
  obtain ⟨-, full, hevent, hrecovers⟩ := hevents event trivial
  obtain ⟨-, full', hrequest, hrecovers'⟩ := hrequests request hordered
  constructor
  · refine hrecovers _ (Members.sorted_ofList _) ?_
    cases hevent
    unfold Members.StandsFor
    decide +kernel
  · refine hrecovers' _ (Members.sorted_ofList _) ?_
    cases hrequest
    unfold Members.StandsFor
    decide +kernel

end RunWatch
