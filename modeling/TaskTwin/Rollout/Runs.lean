import TaskTwin.Audit.Appender
import TaskTwin.Audit.EventInput
import TaskTwin.Rollout.Observation

/-!
# Rollouts and their audit trail

The trail that the transactions of rollouts append to.  Its schemas read a
time from a string; a payload with a date in place of the string is refused,
and so is the transaction that wrote it.
-/

namespace TaskTwin.Rollout

open Text Schema Audit Store

/-- `appendAuditEventTransactional`: an event that is refused throws. -/
def appendAuditEventTransactional
    (parseOther : JsString → Option TimeValue)
    (hasher : AuditHasher)
    (newRow : AuditStore → NewRow)
    (store : AuditStore)
    (event : JsValue) :
    Option AuditStore :=
  match appendAuditEvent parseOther hasher store
      { row := newRow store, input := event } with
  | (store', .ok _) => some store'
  | (_, .error _) => none

variable
  {parseOther : JsString → Option TimeValue}
  {hasher : AuditHasher}
  {newRow : AuditStore → NewRow}

/-- What is appended has parsed. -/
theorem parses_of_appended
    {store store' : AuditStore}
    {event : JsValue}
    (appended :
      appendAuditEventTransactional parseOther hasher newRow store event =
        some store') :
    ∃ parsed, parseAuditEventInput parseOther event = some parsed := by
  cases isParsed : parseAuditEventInput parseOther event with
  | none =>
      simp [appendAuditEventTransactional, appendAuditEvent,
        isParsed] at appended
  | some parsed => exact ⟨parsed, rfl⟩

/-- A date is not the text of a time. -/
theorem date_refused
    {shape : List Field}
    {name : String}
    (isTime : required name (auditTimestamp parseOther) ∈ shape)
    {fields : List (JsString × JsValue)}
    {time : Option TimeValue}
    (isDate : fields.lookup (js name) = some (.date time)) :
    strictObject shape (.object fields) = none := by
  cases parsed : strictObject shape (.object fields) with
  | none => rfl
  | some value =>
      obtain ⟨read, isRead⟩ := strictObject_field parsed isTime
      simp [Field.parse, required, isDate, auditTimestamp] at isRead

theorem changeEvent_payload
    (input : ChangeRolloutState)
    (rollout : RunnerReleaseRollout) :
    ∃ payload,
      input.event rollout =
          auditEvent rollout.workspaceId input.action.eventType
            (userActor input.actorUserId)
            (entity "runner_release_rollout" rollout.id)
            []
            input.now
            (js input.action.eventType ++ [unit ':'] ++ rollout.id ++
              [unit ':'] ++ input.now.toISOString)
            payload ∧
        payload.lookup (js "changedAt") = some (.date (some input.now)) := by
  refine ⟨_, rfl, ?_⟩
  cases input.action <;> rfl

theorem eventType_parse (action : RolloutAction) :
    ∃ eventType,
      AuditEventType.parse (js action.eventType) = some eventType ∧
        auditPayloadSchemas parseOther eventType =
          runnerRolloutStatusPayload parseOther := by
  cases action
  case activate =>
    exact
      ⟨.runnerRolloutActivated,
        AuditEventType.parse_text .runnerRolloutActivated, rfl⟩
  case pause =>
    exact
      ⟨.runnerRolloutPaused,
        AuditEventType.parse_text .runnerRolloutPaused, rfl⟩
  case cancel =>
    exact
      ⟨.runnerRolloutCancelled,
        AuditEventType.parse_text .runnerRolloutCancelled, rfl⟩

/-- The event of an activation, a pause or a cancellation is refused. -/
theorem changeEvent_refused
    (store : AuditStore)
    (input : ChangeRolloutState)
    (rollout : RunnerReleaseRollout) :
    appendAuditEventTransactional parseOther hasher newRow store
        (input.event rollout) =
      none := by
  cases appended :
      appendAuditEventTransactional parseOther hasher newRow store
        (input.event rollout) with
  | none => rfl
  | some store' =>
      obtain ⟨parsed, isParsed⟩ := parses_of_appended appended
      obtain ⟨payload, isEvent, isDate⟩ := changeEvent_payload input rollout
      obtain ⟨eventType, isType, isShape⟩ :=
        @eventType_parse parseOther input.action
      rw [isEvent, auditEvent] at isParsed
      obtain ⟨-, ⟨typeText, isText, isOther⟩, -, -, isPayload⟩ :=
        @parseAuditEventInput_properties parseOther _ _ isParsed
      obtain rfl : js input.action.eventType = typeText :=
        JsValue.string.inj isText
      rw [← Option.some.inj (isType.symm.trans isOther)] at isPayload
      have refused :
          parseAuditPayload parseOther eventType (.object payload) = none := by
        rw [parseAuditPayload, isShape]
        exact @date_refused parseOther _ "changedAt"
          (by simp [runnerRolloutStatusPayload]) _ _ isDate
      exact absurd (isPayload.symm.trans refused) (by simp)

end TaskTwin.Rollout

namespace TaskTwin.Rollout

open Text Audit Store

variable {Trail : Type} {append : Trail → JsValue → Option Trail}

/-- Tables before the first rollout. -/
structure Initial (db : Database Trail) : Prop where
  releaseIds : (db.releases.map RunnerRelease.id).Nodup
  runnerIds : (db.runners.map RunnerDevice.id).Nodup
  noDesire :
    ∀ runner ∈ db.runners, runner.desiredRolloutAssignmentId = none
  noRollouts : db.rollouts = []
  noStages : db.stages = []
  noAssignments : db.assignments = []

variable {db : Database Trail}

theorem Initial.invariant
    (initial : Initial db) :
    Invariant db := by
  obtain ⟨releaseIds, runnerIds, noDesire, noRollouts, noStages,
    noAssignments⟩ := initial
  refine ⟨?_, ?_, ?_⟩
  · constructor
    case releaseIds => exact releaseIds
    case runnerIds => exact runnerIds
    all_goals simp [noRollouts, noStages, noAssignments]
  · constructor
    case desired =>
      intro runner isRunner assignmentId isDesired
      rw [noDesire runner isRunner] at isDesired
      cases isDesired
    case assigned => simp [noAssignments]
  · constructor <;> simp [noRollouts, noStages]

/-- What an operation does: nothing, or what its description says. -/
inductive Performed
    (append : Trail → JsValue → Option Trail)
    (db db' : Database Trail) :
    Operation → Prop where
  | nothing (operation : Operation) (same : db' = db) :
      Performed append db db' operation
  | created (input : CreateRollout) (created : Created input db db') :
      Performed append db db' (.create input)
  | changed
      (input : ChangeRolloutState)
      (rollout : RunnerReleaseRollout)
      (changed : RolloutChanged append input.action rollout db db') :
      Performed append db db' (.changeRolloutState input)
  | activated
      (input : ActivateStage)
      (rollout : RunnerReleaseRollout)
      (stage : RunnerReleaseRolloutStage)
      (activated : StageActivated rollout stage db db') :
      Performed append db db' (.activateStage input)
  | taken
      (input : Heartbeat)
      (device : RunnerDevice)
      (taken : HeartbeatTaken append input device db db') :
      Performed append db db' (.heartbeat input)
  | released
      (input : ChangeReleaseStatus)
      (release : RunnerRelease)
      (changed : ReleaseChanged append input release db db') :
      Performed append db db' (.changeStatus input)

theorem step_performed
    (distinctRunners : (db.runners.map RunnerDevice.id).Nodup)
    (operation : Operation) :
    Performed append db (step append db operation) operation := by
  rw [step]
  cases performed : perform append operation db with
  | error failure => exact .nothing operation rfl
  | ok db' =>
      cases operation with
      | create input =>
          rcases create_ok distinctRunners performed with same | created
          · exact .nothing _ same
          · exact .created input created
      | changeRolloutState input =>
          rcases changeRolloutState_ok performed with same | ⟨rollout, changed⟩
          · exact .nothing _ same
          · exact .changed input rollout changed
      | activateStage input =>
          rcases activateStage_ok performed with
            same | ⟨rollout, stage, activated⟩
          · exact .nothing _ same
          · exact .activated input rollout stage activated
      | heartbeat input =>
          obtain ⟨device, taken⟩ := heartbeat_ok performed
          exact .taken input device taken
      | changeStatus input =>
          rcases changeStatus_ok performed with same | ⟨release, changed⟩
          · exact .nothing _ same
          · exact .released input release changed

theorem Performed.invariant
    {operation : Operation}
    {db db' : Database Trail}
    (performed : Performed append db db' operation)
    (invariant : Invariant db) :
    Invariant db' := by
  cases performed with
  | nothing operation same => exact same ▸ invariant
  | created input created => exact created.invariant invariant
  | changed input rollout changed => exact changed.invariant invariant
  | activated input rollout stage activated =>
      exact activated.invariant invariant
  | taken input device taken => exact taken.invariant invariant
  | released input release changed => exact changed.invariant invariant

theorem step_invariant
    (invariant : Invariant db)
    (operation : Operation) :
    Invariant (step append db operation) :=
  (step_performed invariant.keys.runnerIds operation).invariant invariant

theorem run_invariant
    (invariant : Invariant db)
    (operations : List Operation) :
    Invariant (run append db operations) := by
  induction operations generalizing db with
  | nil => exact invariant
  | cons operation operations inductionHypothesis =>
      exact inductionHypothesis (step_invariant invariant operation)

/-- Tables in which nothing has been activated. -/
structure Dormant (db : Database Trail) : Prop where
  runners : ∀ runner ∈ db.runners, runner.desiredRolloutAssignmentId = none
  rollouts : ∀ rollout ∈ db.rollouts, rollout.status = .draft
  stages : ∀ stage ∈ db.stages, stage.status = .pending
  assignments :
    ∀ assignment ∈ db.assignments, assignment.status = .pending

theorem Initial.dormant
    {db : Database Trail}
    (initial : Initial db) :
    Dormant db := by
  obtain ⟨-, -, noDesire, noRollouts, noStages, noAssignments⟩ := initial
  constructor
  · exact noDesire
  all_goals simp [noRollouts, noStages, noAssignments]

theorem SameRows.dormant
    {db db' : Database Trail}
    (same : SameRows db db')
    (dormant : Dormant db) :
    Dormant db' := by
  obtain ⟨_, _, _, _⟩ := dormant
  constructor <;>
    simpa only [same.runners, same.rollouts, same.stages, same.assignments]

section Repository

variable
  {parseOther : JsString → Option TimeValue}
  {hasher : AuditHasher}
  {newRow : AuditStore → NewRow}

/-- No rollout is activated: the event of its activation carries a date where
the schema wants a text, and with the event the activation is refused. -/
theorem Performed.dormant
    {operation : Operation}
    {db db' : Database AuditStore}
    (performed :
      Performed (appendAuditEventTransactional parseOther hasher newRow) db db'
        operation)
    (dormant : Dormant db) :
    Dormant db' := by
  cases performed with
  | nothing operation same => exact same ▸ dormant
  | created input created =>
      refine created.rows.dormant ?_
      constructor
      case runners => exact dormant.runners
      case rollouts =>
        simp only [List.forall_mem_append, List.forall_mem_singleton]
        exact ⟨dormant.rollouts, rfl⟩
      case stages =>
        simp only [List.forall_mem_append]
        exact
          ⟨dormant.stages, fun _ isNew => (CreateRollout.mem_stages isNew).2.1⟩
      case assignments =>
        simp only [List.forall_mem_append]
        exact
          ⟨dormant.assignments,
            fun _ isNew => (CreateRollout.mem_assignments isNew).2.1⟩
  | changed input rollout changed =>
      obtain ⟨change, -, trail, trail', appended⟩ := changed.audited
      rw [changeEvent_refused] at appended
      cases appended
  | activated input rollout stage activated =>
      have isDraft := dormant.rollouts rollout activated.isRollout
      rw [activated.active] at isDraft
      cases isDraft
  | taken input device taken =>
      rcases taken.rows with ⟨-, rows⟩ | ⟨observed, _, isObserved, -⟩
      · refine rows.dormant ?_
        constructor
        case runners =>
          rw [(reportRows_changedBy input db).runners]
          simp only [List.forall_mem_map, reportChange_desired]
          exact dormant.runners
        case rollouts => exact dormant.rollouts
        case stages => exact dormant.stages
        case assignments => exact dormant.assignments
      · simp [desiredAssignment, dormant.runners device taken.isDevice]
          at isObserved
  | released input release changed =>
      obtain ⟨affected, active, -, rows⟩ := changed.rows
      have noneAffected : affected = [] := by
        apply List.eq_nil_iff_forall_not_mem.mpr
        intro rollout listed
        obtain ⟨isRollout, isActive⟩ := active rollout listed
        rw [dormant.rollouts rollout isRollout] at isActive
        cases isActive
      subst noneAffected
      refine rows.dormant ?_
      exact
        ⟨dormant.runners, dormant.rollouts, dormant.stages,
          dormant.assignments⟩

theorem run_dormant
    {db : Database AuditStore}
    (initial : Initial db)
    (operations : List Operation) :
    Dormant
      (run (appendAuditEventTransactional parseOther hasher newRow) db
        operations) := by
  suffices both :
      ∀ db : Database AuditStore, Invariant db → Dormant db →
        Dormant
          (run (appendAuditEventTransactional parseOther hasher newRow) db
            operations) from
    both db initial.invariant initial.dormant
  clear initial db
  induction operations with
  | nil => exact fun _ _ dormant => dormant
  | cons operation operations inductionHypothesis =>
      intro db invariant dormant
      have performed :=
        @step_performed _
          (appendAuditEventTransactional parseOther hasher newRow) _
          invariant.keys.runnerIds operation
      exact inductionHypothesis _ (performed.invariant invariant)
        (performed.dormant dormant)

end Repository

/-- One release, one runner, and somebody who may roll the release out. -/
def exampleDatabase (Trail : Type) (trail : Trail) : Database Trail where
  releases :=
    [{ id := js "00000000-0000-4000-8000-000000000002"
       product := js "tasktwin-runner"
       version := js "1.2.3"
       status := .available
       statusReasonCode := none
       targets := [{ platform := .windows, architecture := .x64 }] }]
  runners :=
    [{ id := js "00000000-0000-4000-8000-000000000005"
       workspaceId := js "00000000-0000-4000-8000-000000000001"
       platform := js "win32"
       architecture := js "x64"
       revoked := false
       credential := some { id := js "credential", revoked := false }
       runnerVersion := js "1.0.0"
       runProtocolVersion := none
       workflowSchemaVersion := none
       localStateSchemaVersion := none
       softwareMetadataRevision := 0
       desiredReleaseId := none
       desiredRolloutAssignmentId := none }]
  rollouts := []
  stages := []
  assignments := []
  managers :=
    [(js "manager", js "00000000-0000-4000-8000-000000000001")]
  systemAdministrators := []
  trail

theorem exampleDatabase_initial
    (Trail : Type)
    (trail : Trail) :
    Initial (exampleDatabase Trail trail) := by
  constructor <;> simp [exampleDatabase]

def exampleTime : TimeValue :=
  { milliseconds := 0, inRange := by decide }

def exampleId : JsString := js "00000000-0000-4000-8000-000000000003"

/-- A rollout is created and activated. -/
def exampleOperations : List Operation :=
  [.create
      { actorUserId := js "manager"
        clientRolloutId := js "client"
        requestDigest := js "digest"
        plan :=
          { workspaceId := js "00000000-0000-4000-8000-000000000001"
            targetReleaseId := js "00000000-0000-4000-8000-000000000002"
            stages :=
              [{ stageNumber := 1
                 runnerDeviceIds :=
                   [js "00000000-0000-4000-8000-000000000005"] }] }
        now := exampleTime
        newRolloutId := exampleId
        newStageId := fun _ => js "stage"
        newAssignmentId := id },
    .changeRolloutState
      { actorUserId := js "manager"
        rolloutId := exampleId
        action := .activate
        now := exampleTime }]

/-- The stage of the rollout is activated. -/
def exampleActivation : Operation :=
  .activateStage
    { actorUserId := js "manager"
      rolloutId := exampleId
      stageNumber := 1
      now := exampleTime }

def constantHasher : AuditHasher where
  sha256Hex _ := List.replicate 64 (unit 'a')

def emptyRow : NewRow where
  id := []
  createdAt := []

def exampleAppend : AuditStore → JsValue → Option AuditStore :=
  appendAuditEventTransactional (fun _ => none) constantHasher
    fun _ => emptyRow

/-- With the audit trail of the repository, nothing is ever activated: no
command changes a rollout after it was created. -/
theorem rollouts_neverActivated
    (parseOther : JsString → Option TimeValue)
    (hasher : AuditHasher)
    (newRow : AuditStore → NewRow)
    (db : Database AuditStore)
    (initial : Initial db)
    (operations : List Operation) :
    let append := appendAuditEventTransactional parseOther hasher newRow
    let db' := run append db operations
    Dormant db' ∧
      (∀ input, step append db' (.changeRolloutState input) = db') ∧
      ∀ input, step append db' (.activateStage input) = db' := by
  intro append db'
  have dormant : Dormant db' := run_dormant initial operations
  have invariant : Invariant db' := run_invariant initial.invariant operations
  have performed (operation : Operation) :
      Performed append db' (step append db' operation) operation :=
    step_performed invariant.keys.runnerIds operation
  refine ⟨dormant, ?_, ?_⟩
  · intro input
    cases performed (.changeRolloutState input) with
    | nothing _ same => exact same
    | changed _ rollout changed =>
        obtain ⟨change, -, trail, trail', appended⟩ := changed.audited
        cases (changeEvent_refused trail change rollout).symm.trans appended
  · intro input
    cases performed (.activateStage input) with
    | nothing _ same => exact same
    | activated _ rollout stage activated =>
        have isDraft := dormant.rollouts rollout activated.isRollout
        rw [activated.active] at isDraft
        cases isDraft

theorem rollouts_neverActivated_example :
    step exampleAppend
        (run exampleAppend (exampleDatabase AuditStore .empty)
          exampleOperations)
        exampleActivation =
      run exampleAppend (exampleDatabase AuditStore .empty)
        exampleOperations :=
  (rollouts_neverActivated (fun _ => none) constantHasher (fun _ => emptyRow)
    (exampleDatabase AuditStore .empty) (exampleDatabase_initial _ _)
    exampleOperations).2.2 _

end TaskTwin.Rollout
