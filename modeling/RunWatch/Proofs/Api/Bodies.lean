import RunWatch.Proofs.Api.Exchanges
import RunWatch.Proofs.Platform.Records

/-!
# What is sent of a record

A record is changed by sending it without its identifier and without the keys that only the platform writes, and
created by sending an object without the latter.  `Withholds` says this of one type: the keys that are withheld, and
the keys that are left of a record, for which its layout gives the answer (`Withholds.of_layout`).  Withholding is a
matter of the keys of the object alone, so whatever stands under the keys that are left goes out as it is, and nothing
of the record is lost to whoever still has the keys withheld, that was not lost in writing it: measurements that are
infinite or undefined have no place in JSON (`infinite_threshold_lost`).
-/

namespace RunWatch.Api

open Json (Layout Members Shape Value)

/-! ## Bodies -/

/-- A type keeps some keys to the platform: of a record that is changed they are left out together with the
identifier, which leaves the keys given, and of an object to create a record from they are left out alone.  With the
keys left out added again, the former still stands for the record, if that is one of those that can be written.  What
is not an object is sent as it is. -/
structure Withholds (R : Type) [Record R] (withheld : List String) (left : R → List String) (writable : R → Prop) :
    Prop where
  update : ∀ (e : Endpoint R) (r : R) (replies : List Reply), ∃ full sent : Members,
    Record.encode r = .object full ∧
      (e.update r).asked replies = [⟨.patch, e.route.itemUrl e.root (Record.id r), [], some (.object sent)⟩] ∧
      sent.LeavesOut (withheld ++ ["id"]) full ∧ sent.map Prod.fst = left r ∧
      (Record.decode? (.object (sent.addAll (full.filter fun m => m.1 ∈ withheld ++ ["id"]))) = some r ↔ writable r)
  create : ∀ (e : Endpoint R) (parent : Option Uuid) (given : Members) (replies : List Reply), ∃ sent : Members,
    (e.create parent (.object given)).asked replies =
        [⟨.post, e.route.collectionUrl e.root parent, [], some (.object sent)⟩] ∧
      sent.LeavesOut withheld given ∧ sent.find? "id" = given.find? "id"
  other : ∀ (e : Endpoint R) (parent : Option Uuid) (id : Uuid) (v : Value) (replies : List Reply),
    (∀ ms, v ≠ .object ms) →
      (e.create parent v).asked replies = [⟨.post, e.route.collectionUrl e.root parent, [], some v⟩] ∧
        (e.patch id v).asked replies = [⟨.patch, e.route.itemUrl e.root id, [], some v⟩]

namespace Endpoint

theorem without_object (keys : List String) (ms : Members) :
    without keys (.object ms) = .object (ms.filter fun m => m.1 ∉ keys) :=
  congrArg Value.object (Members.foldl_erase keys ms)

theorem without_of_ne_object {v : Value} (h : ∀ ms, v ≠ .object ms) (keys : List String) : without keys v = v := by
  cases v with
  | object ms => exact absurd rfl (h ms)
  | _ => rfl

variable {R : Type} [Record R]

theorem asked_create (e : Endpoint R) (parent : Option Uuid) (v : Value) (replies : List Reply) :
    (e.create parent v).asked replies =
      [⟨.post, e.route.collectionUrl e.root parent, [], some (without (Record.readonly R) v)⟩] := by
  have hbody : body R v false = without (Record.readonly R) v := congrArg (without · v) (List.append_nil _)
  rw [create, asked_exchange, createRequest, hbody]
  rfl

theorem asked_patch (e : Endpoint R) (id : Uuid) (v : Value) (replies : List Reply) :
    (e.patch id v).asked replies =
      [⟨.patch, e.route.itemUrl e.root id, [], some (without (Record.readonly R ++ ["id"]) v)⟩] := by
  rw [patch, asked_exchange]
  rfl

end Endpoint

/-! ## From the layout of a record -/

/-- The keys of a layout, without those withheld and the identifier, are those left when they are put in order. -/
def Leaves (layout : Layout) (withheld left : List String) : Prop :=
  (layout.map Prod.fst).Nodup ∧ left.Pairwise (· < ·) ∧
    ((layout.map Prod.fst).filter (· ∉ withheld ++ ["id"])).Perm left

instance (layout : Layout) (withheld left : List String) : Decidable (Leaves layout withheld left) :=
  inferInstanceAs (Decidable (_ ∧ _ ∧ _))

section

variable {R : Type} [Record R] {s : Shape R} {layout : R → Layout} {withheld : List String} {left : R → List String}
  {writable : R → Prop}

/-- What a type withholds can be read off the layout of its records. -/
theorem Withholds.of_layout (hreadonly : Record.readonly R = withheld) (hid : "id" ∉ withheld)
    (hencode : ∀ r : R, Record.encode r = .ofMembers (s.members r))
    (hkeys : ∀ r, (s.members r).map Prod.fst = (layout r).map Prod.fst)
    (hwritable : ∀ r : R, Record.decode? (Record.encode r) = some r ↔ writable r)
    (hleaves : ∀ r, Leaves (layout r) withheld (left r)) : Withholds R withheld left writable where
  update e r replies := by
    obtain ⟨hdistinct, hordered, hleft⟩ := hleaves r
    have hfull : (Members.ofList (s.members r)).Sorted := Members.sorted_ofList _
    have hsent := Members.leavesOut_filter (withheld ++ ["id"]) (Members.ofList (s.members r))
    refine ⟨Members.ofList (s.members r), _, hencode r, ?_, hsent, ?_, ?_⟩
    · rw [Endpoint.update, e.asked_patch, hreadonly, hencode, Value.ofMembers, Endpoint.without_object]
    · -- Both lists of keys ascend, so it is enough that one is the other in some order.
      rw [← hkeys r] at hdistinct hleft
      have hperm := ((Members.keys_ofList_perm hdistinct).filter (· ∉ withheld ++ ["id"])).trans hleft
      rw [hsent.1]
      exact hperm.eq_of_pairwise (fun _ _ _ _ hlt hgt => absurd hlt (lt_asymm hgt)) (hfull.keys.filter _) hordered
    · rw [Members.addAll_filter hfull, ← Value.ofMembers, ← hencode]
      exact hwritable r
  create e parent given replies := by
    refine ⟨given.filter fun m => m.1 ∉ withheld, ?_, Members.leavesOut_filter withheld given, ?_⟩
    · rw [e.asked_create, hreadonly, Endpoint.without_object]
    · exact (Members.leavesOut_filter withheld given).2 "id" hid
  other e parent id v replies h := by
    rw [e.asked_create, e.asked_patch, Endpoint.without_of_ne_object h, Endpoint.without_of_ne_object h]
    exact ⟨rfl, rfl⟩

/-- A type of which every record can be written. -/
theorem Withholds.of_lawful (hreadonly : Record.readonly R = withheld) (hid : "id" ∉ withheld)
    (hencode : ∀ r : R, Record.encode r = .ofMembers (s.members r)) (hlawful : (Record.codec (R := R)).Lawful)
    (hshape : ∀ r, s.Restores (layout r) r) (hleaves : ∀ r, Leaves (layout r) withheld (left r)) :
    Withholds R withheld left fun _ => True :=
  .of_layout hreadonly hid hencode (fun r => (hshape r).keys) (fun r => iff_of_true (hlawful r .direct) trivial) hleaves

end

/-! ## The types of the platform -/

/-- The keys that are sent of an event: those that all events have, and those of its type. -/
def eventKeys : Payload.Variety → List String
  | .runStatus => ["component", "event_type", "run_key", "status", "timestamp"]
  | .datasetOperation => ["component", "event_type", "operation", "path", "timestamp"]
  | .testOutcomes => ["component", "event_type", "test_outcomes", "timestamp"]
  | .messageLog => ["component", "event_type", "log_level", "message", "timestamp"]
  | .metricLog => ["component", "event_type", "metric_key", "metric_value", "timestamp"]

theorem leaves_eventKeys (v : Payload.Variety) : Leaves (Event.layout v) assignedKeys (eventKeys v) := by
  cases v <;> decide +kernel

theorem testOutcome_writable (t : TestOutcome) : Record.decode? (Record.encode t) = some t ↔ t.IsFinite := by
  rw [t.decode?_encode, Option.some_inj, TestOutcome.finitePart_eq_self]

theorem event_writable (e : Event) : Record.decode? (Record.encode e) = some e ↔ e.payload.IsFinite := by
  by_cases h : e.payload.IsFinite
  · exact iff_of_true (Event.decode?_encode h) h
  · exact iff_of_false (Event.decode?_encode_eq_none h ▸ nofun) h

/-- What each type withholds, and the keys that are sent when a record is changed.  All records can be recovered from
what is sent, but for test outcomes and events whose measurements are not finite. -/
theorem protected_keys_withheld :
    Withholds Project assignedKeys (fun _ => ["description", "name"]) (fun _ => True) ∧
      Withholds Journey (assignedKeys ++ ["project"]) (fun _ => ["description", "name"]) (fun _ => True) ∧
      Withholds Component (assignedKeys ++ ["project", "schedules", "type"])
        (fun _ => ["description", "display_name", "key", "name", "tool"]) (fun _ => True) ∧
      Withholds Schedule ["component"] (fun _ => ["expectation", "margin", "schedule", "timezone"]) (fun _ => True) ∧
      Withholds Run assignedKeys (fun _ => ["alerts", "end_time", "key", "name", "pipeline", "start_time", "status",
        "tasks_summary", "tests_summary"]) (fun _ => True) ∧
      Withholds RunTask assignedKeys (fun _ => ["end_time", "run", "start_time", "status", "task"]) (fun _ => True) ∧
      Withholds TestOutcome assignedKeys (fun _ => ["component", "description", "end_time", "max_threshold",
        "min_threshold", "name", "start_time", "status"]) TestOutcome.IsFinite ∧
      Withholds JourneyInstance assignedKeys (fun _ => ["alerts_summary", "end_time", "journey", "runs_summary",
        "start_time", "tests_summary"]) (fun _ => True) ∧
      Withholds Event assignedKeys (fun e => eventKeys e.payload.variety) (fun e => e.payload.IsFinite) ∧
      Withholds Agent assignedKeys (fun _ => ["key", "latest_heartbeat", "status", "tool", "version"]) (fun _ => True) ∧
      Withholds Alert assignedKeys (fun _ => ["count", "description", "level", "type"]) (fun _ => True) := by
  refine ⟨?_, ?_, ?_, ?_, ?_, ?_, ?_, ?_, ?_, ?_, ?_⟩
  · exact .of_lawful rfl (by decide) (fun _ => rfl) Project.codec_lawful Project.shape_restores
      fun _ => by decide +kernel
  · exact .of_lawful rfl (by decide) (fun _ => rfl) Journey.codec_lawful Journey.shape_restores
      fun _ => by decide +kernel
  · exact .of_lawful rfl (by decide) (fun _ => rfl) Component.codec_lawful Component.shape_restores
      fun _ => by decide +kernel
  · exact .of_lawful rfl (by decide) (fun _ => rfl) Schedule.codec_lawful Schedule.shape_restores
      fun _ => by decide +kernel
  · exact .of_lawful rfl (by decide) (fun _ => rfl) Run.codec_lawful Run.shape_restores fun _ => by decide +kernel
  · exact .of_lawful rfl (by decide) (fun _ => rfl) RunTask.codec_lawful RunTask.shape_restores
      fun _ => by decide +kernel
  · have hkeys (t : TestOutcome) : (TestOutcome.shape.members t).map Prod.fst = TestOutcome.layout.map Prod.fst := rfl
    exact .of_layout rfl (by decide) (fun _ => rfl) hkeys testOutcome_writable fun _ => by decide +kernel
  · exact .of_lawful rfl (by decide) (fun _ => rfl) JourneyInstance.codec_lawful JourneyInstance.shape_restores
      fun _ => by decide +kernel
  · exact .of_layout rfl (by decide) (fun _ => rfl) Event.shape_keys event_writable
      fun e => leaves_eventKeys e.payload.variety
  · exact .of_lawful rfl (by decide) (fun _ => rfl) Agent.codec_lawful Agent.shape_restores fun _ => by decide +kernel
  · exact .of_lawful rfl (by decide) (fun _ => rfl) Alert.codec_lawful Alert.shape_restores fun _ => by decide +kernel

/-- The identifiers inside a run are sent with it, and so is the identifier chosen for a new component. -/
theorem inner_identifiers_sent :
    let client : Client := ⟨"http://api.test"⟩
    let morning : Instant := ⟨⟨2026, 1, 1, by decide⟩, 28800, 0, by decide⟩
    let pipeline : ComponentRef := ⟨⟨List.replicate 32 1, rfl⟩, none, none, none⟩
    let alert : Alert := ⟨⟨List.replicate 32 2, rfl⟩, .error, "LATE_END", "late", morning, 1⟩
    let run : Run := ⟨⟨List.replicate 32 3, rfl⟩, "nightly", none, pipeline, .running, none, none, [], [], [alert]⟩
    (∃ sent : Members, (client.runs.update run).asked [] =
        [⟨.patch, "http://api.test/runs/33333333-3333-3333-3333-333333333333", [], some (.object sent)⟩] ∧
      sent.map Prod.fst = ["alerts", "end_time", "key", "name", "pipeline", "start_time", "status", "tasks_summary",
        "tests_summary"] ∧
      sent.find? "pipeline" = some (.ofMembers [("id", .string "11111111-1111-1111-1111-111111111111"),
        ("key", .null), ("display_name", .null), ("tool", .null)]) ∧
      sent.find? "alerts" = some (.array [.ofMembers [("id", .string "22222222-2222-2222-2222-222222222222"),
        ("level", .string "ERROR"), ("type", .string "LATE_END"), ("description", .string "late"),
        ("created_on", .string "2026-01-01T08:00:00Z"), ("count", .number (.ofUInt64 1))]])) ∧
      (∃ sent : Members, (client.components.create none (.object [("id", .string "etl"), ("key", .string "etl"),
          ("type", .string "SERVER")])).asked [] =
          [⟨.post, "http://api.test/components", [], some (.object sent)⟩] ∧
        sent.map Prod.fst = ["id", "key"] ∧ sent.find? "id" = some (.string "etl")) ∧
      (client.projects.create none .null).asked [] = [⟨.post, "http://api.test/projects", [], some .null⟩] := by
  intro client morning pipeline alert run
  obtain ⟨hproject, -, hcomponent, -, hrun, -⟩ := protected_keys_withheld
  refine ⟨?_, ?_, ?_⟩
  · obtain ⟨full, sent, hfull, hasked, ⟨-, hsame⟩, hkeys, -⟩ := hrun.update client.runs run []
    cases hfull
    refine ⟨sent, hasked, hkeys, ?_, ?_⟩
    · exact (hsame "pipeline" (by decide)).trans (by decide +kernel)
    · exact (hsame "alerts" (by decide)).trans (by decide +kernel)
  · obtain ⟨sent, hasked, ⟨hkeys, -⟩, hid⟩ := hcomponent.create client.components none _ []
    exact ⟨sent, hasked, hkeys, hid⟩
  · exact (hproject.other client.projects none ⟨List.replicate 32 0, rfl⟩ .null [] nofun).1

/-- A test outcome is changed whose upper threshold is infinite.  With the identifier added again, what is sent stands
for a test outcome without an upper threshold.  What is sent of an event with an undefined metric stands for none. -/
theorem infinite_threshold_lost :
    let client : Client := ⟨"http://api.test"⟩
    let morning : Instant := ⟨⟨2026, 1, 1, by decide⟩, 28800, 0, by decide⟩
    let component : ComponentRef := ⟨⟨List.replicate 32 1, rfl⟩, none, none, none⟩
    let outcome (high : Option Measurement) : TestOutcome :=
      ⟨⟨List.replicate 32 2, rfl⟩, "rows", .passed, none, none, none, component, none, high⟩
    let event : Event := ⟨⟨List.replicate 32 3, rfl⟩, morning, none, .metricLog "rows" .undefined⟩
    let body : List Request → Members
      | [⟨_, _, _, some (.object sent)⟩] => sent
      | _ => []
    let sent := body ((client.tests.update (outcome (some (.infinite false)))).asked [])
    let sent' := body ((client.events.update event).asked [])
    sent.find? "max_threshold" = some .null ∧ sent'.find? "metric_value" = some .null ∧
      Record.decode? (.object (sent.insert "id" (.string "22222222-2222-2222-2222-222222222222"))) =
        some (outcome none) ∧
      outcome none ≠ outcome (some (.infinite false)) ∧
      Record.decode? (.object (sent'.insert "id" (.string "33333333-3333-3333-3333-333333333333"))) =
        (none : Option Event) := by
  decide +kernel

end RunWatch.Api
