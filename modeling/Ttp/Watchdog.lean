import Ttp.SessionSafety

/-!
`ttp/watchdog/service.py`, `supervisor.py` and `commands/watchdog.py`: the
supervisor of a session, the commands that start and stop it, and the
observation of it that they and the readers make. The supervisor says what it
knows in the `watchdog` record; a record that is old, from another invocation
or not from a finished evaluation reads as `unknown`.
-/
namespace Ttp.Watchdog
open Ttp.Python Ttp.Evidence Ttp.Program Ttp.Machine Ttp.State Ttp.Records Ttp.SessionSafety
open Ttp.SessionSettings (Settings fromSnapshot seconds WatchdogSettings)

variable (py : Interpreter)

/-! ### The observation -/

def unknown (reason : String) (pid : Json) : Obj := [("value", .str "unknown"), ("reason", .str reason), ("pid", pid)]

/-- The time of an evaluation as a float. -/
def observedAt : Json → Except Exc (Option Flt)
  | .int n => if floatOverflow n then .error .overflowError else .ok (some (.finite n))
  | .float x => .ok (some x)
  | _ => .ok none

/-- The observation of a record that was read, for the active unit. -/
def observe (settings : WatchdogSettings) (session boot instanceId : String) (pid : Int) (now : ℚ) (record : Payload) :
    Except Exc Obj := do
  let data := record.data
  let progress : Observation :=
    ⟨((data.find? "value").getD (.str "unknown")).text py, record.sessionId, record.bootId,
      ((data.find? "instance_id").getD (.str "")).text py, .finite record.writtenAt, ""⟩
  let maxAge := seconds settings.observationMaxAge
  if progress.isCurrent session boot instanceId now maxAge then
    match ← observedAt (data.get "observed_at") with
    | none => .ok (unknown (((data.find? "reason").getD (.str "watchdog.evaluation_pending")).text py) (.int pid))
    | some observed =>
      if Observation.isCurrent { progress with observedAt := observed } session boot instanceId now maxAge then
        .ok (data.update [("pid", .int pid), ("instance_id", .str instanceId),
          ("progress_at", .float (.finite record.writtenAt))])
      else .ok (unknown "watchdog.integrity_stale" (.int pid))
  else .ok (unknown "watchdog.progress_stale" .null)

/-- `watchdog_observation`. -/
def watchdogObservation : Py Obj :=
  Prog.handle
    (do
      match ← readLock true with
      | none => pure [("value", .str "not_requested"), ("reason", .str "watchdog.not_requested"), ("pid", .null)]
      | some lock =>
        if lock.isEmpty || !(lock.get "watchdog_requested").truthy then
          pure [("value", .str "not_requested"), ("reason", .str "watchdog.not_requested"), ("pid", .null)]
        else
          let settings ← Prog.ofExcept (fromSnapshot py (lock.get "settings"))
          let fields ← checked (step (.showUnit (seconds settings.watchdog.checkTimeout)))
          if fields.activeState != "active" then
            pure [("value", .str "unavailable"), ("reason", .str "watchdog.unit_not_active"), ("pid", .null)]
          else
            match sessionIdOf lock with
            | none => .raise (.stateError "An observation requires a session identity")
            | some session =>
              match ← Records.read py .watchdog session with
              | none => pure (unknown "watchdog.observation_unavailable" .null)
              | some record =>
                if fields.mainPid ≤ 0 then pure (unknown "watchdog.observation_unavailable" .null)
                else
                  let boot ← checked (step .bootId)
                  let now ← step .clock
                  Prog.ofExcept
                    (observe py settings.watchdog session boot fields.invocationId fields.mainPid now record))
    fun e => if e.isException then some (pure (unknown "watchdog.observation_unavailable" .null)) else none

/-- The supervisor works: it verifies, or holds an emergency. -/
def operational (observed : Obj) : Bool :=
  (observed.get "value").isStr "healthy" || (observed.get "value").isStr "emergency"

/-! ### The commands -/

/-- `start_watchdog`. -/
def startWatchdog : Py Unit := do
  match ← readLock true with
  | none => .raise (.torError "No session to supervise")
  | some lock =>
    if lock.isEmpty then .raise (.torError "No session to supervise")
    else
      let settings ← Prog.ofExcept (fromSnapshot py (lock.get "settings"))
      Records.prepare
      updateLockKeys [("watchdog_requested", .bool true)]
      match lock.find? "session_id" with
      | none => .raise .keyError
      | some _ =>
        checked (step (.external "ttp-watchdog.service"))
        Prog.handle
          (do
            checked (step (.external "systemctl daemon-reload"))
            checked (step (.external s!"systemctl start, {seconds settings.watchdog.readinessTimeout} s"))
            let observed ← watchdogObservation py
            let latched ← (if (observed.get "value").isStr "healthy" then emergencyLatched py lock
              else pure true : Py Bool)
            if latched then .raise (.torError "Required supervisor is not ready and healthy")
            else updateLockKeys [("watchdog_active", .bool true), ("watchdog_pid", observed.get "pid")])
          fun e => if e.isException then some (.raise (.torError s!"Required watchdog unavailable: {e.text}")) else none

/-- `stop_watchdog`. -/
def stopWatchdog : Py Unit := do
  checked (step (.external "systemctl stop"))
  checked (step (.external "unlink ttp-watchdog.service"))
  checked (step (.external "systemctl daemon-reload"))
  (updateLockKeys [("watchdog_active", .bool false), ("watchdog_pid", .null)]).handle fun e =>
    if e.isException then some (pure ()) else none

/-- `watchdog start`, where `config` is what the administrator's configuration reads as. -/
def watchdogStart (config : Except Exc Settings) : Py Unit := do
  checked (step (.external "require root"))
  match ← readLock true with
  | none => .raise (.exit 1)
  | some lock =>
    Prog.handle
      (do
        let settings ← Prog.ofExcept
          (if (lock.get "settings").truthy then fromSnapshot py (lock.get "settings") else config)
        let selected ← Prog.ofExcept (settings.select py (some true) none)
        let session ←
          (if (lock.get "session_id").truthy then pure (lock.get "session_id") else Json.str <$> step .uuid4 : Py Json)
        Records.prepare
        let snapshot ← Prog.ofExcept (selected.snapshot py)
        updateLockKeys [("session_id", session), ("settings", .obj snapshot), ("watchdog_requested", .bool true)])
      fun e => if e.isSettingsError || e.isOSError then some (.raise (.exit 5)) else none
    Prog.handle
      (do
        checked (step (.external "require the watchdog's dependency"))
        startWatchdog py)
      fun e =>
        if e.isException then
          some (do
            let current ← readLock true
            let result ← requestEmergency py (current.getD [])
              ⟨.watchdogUnavailable, "watchdog.start_failed", "watchdog", "start",
                "Requested supervisor could not start", true⟩ false false
            .raise (.exit result.exitCode.value))
        else none

/-- `watchdog stop`: a session that requires its watchdog keeps it. -/
def watchdogStop : Py Unit := do
  checked (step (.external "require root"))
  let lock := (← readLock true).getD []
  if !lock.isEmpty && (lock.get "watchdog_requested").truthy && !(lock.get "phase").isStr "stopping" then
    .raise (.exit ExitCode.watchdogUnavailable.value)
  else stopWatchdog

/-! ### The supervisor -/

/-- `_cause`. -/
def superviseCause (component reason : String) : Diagnostic :=
  ⟨if component = "watchdog" then .watchdogUnavailable else .error, reason, component, "supervise",
    "Required local integrity unavailable", true⟩

/-- The variables of the supervisor's loop. -/
structure Loop where
  observation : Obj
  ready : Bool
  lastCheck : ℚ

section
variable (lock : Obj) (session : String) (settings : WatchdogSettings)

/-- `publish`: say what is known, with the time of the evaluation that is complete. -/
def say (observation : Obj) (value reason : String) (completed : Bool) : Py Obj := do
  let stamp ← (if completed then (fun now => Json.float (.finite now)) <$> step .clock else pure Json.null : Py Json)
  let observation := observation.update [("value", .str value), ("reason", .str reason), ("observed_at", stamp)]
  Records.write py .watchdog session observation
  pure observation

/-- `contain`. -/
def contain (observation : Obj) (cause : Diagnostic) : Py Obj := do
  let result ← requestEmergency py lock cause true false
  say py session (observation.set "result" (.obj result.asDict)) "emergency" "watchdog.emergency_latched" true

/-- A second look after Tor was healed: what fails now, `watchdog` at a deadline. -/
def heal (first : Option (String × String)) (ready : Bool) : Py (Option (String × String)) := do
  let deadline := some ("watchdog", "Local healing exceeded its deadline")
  match ← step .heal with
  | .error e => if e = .checkDeadline then pure deadline else .raise e
  | .ok false => pure first
  | .ok true =>
    onlyIf ready (checked (step (.external "notify progress")))
    match ← step .integrity with
    | .error e => if e = .checkDeadline then pure deadline else .raise e
    | .ok second => pure second

/-- One evaluation of the local integrity. -/
def evaluate (observation : Obj) (ready : Bool) : Py Obj := do
  let observation ← say py session observation "unknown" "watchdog.evaluation_pending" false
  match ← step .integrity with
  | .error e =>
    if e = .checkDeadline then contain py lock session observation (superviseCause "watchdog" "watchdog.check_timeout")
    else .raise e
  | .ok first =>
    let recovering := first.map (·.1) == some "tor"
    let (failed, observation) ←
      (if recovering then do
        let observation ← say py session observation "unknown" "watchdog.tor_healing" false
        onlyIf ready (checked (step (.external "notify progress")))
        let failed ← heal first ready
        pure (failed, observation)
      else pure (first, observation) : Py (Option (String × String) × Obj))
    match failed with
    | some (component, _) =>
      contain py lock session observation (superviseCause component s!"watchdog.{component}_integrity_failed")
    | none =>
      let observation ← say py session observation "healthy" "watchdog.local_integrity_verified" true
      onlyIf recovering (do let _ ← checked (step (.emit "recovered" false)))
      pure observation

/-- Whether the emergency is latched, with the observation after evidence that cannot be read. -/
def latchedNow (observation : Obj) : Py (Bool × Obj) := do
  let latched ← Prog.handle (some <$> emergencyLatched py lock) fun e =>
    if e.isStateError then some (pure none) else none
  match latched with
  | some latched => pure (latched, observation)
  | none =>
    let observation ← contain py lock session observation (superviseCause "session" "session.evidence_invalid")
    pure (true, observation)

/-- Hold the emergency, or evaluate when it is time: the observation and the time of the last check. -/
def check (latched ready : Bool) (lastCheck : ℚ) (observation : Obj) : Py (Obj × ℚ) := do
  if latched then
    let observation ← contain py lock session observation (superviseCause "watchdog" "watchdog.emergency_latched")
    pure (observation, lastCheck)
  else
    let now ← step .clock
    if now - lastCheck ≥ seconds settings.checkInterval then
      let observation ← evaluate py lock session observation ready
      let done ← step .clock
      pure (observation, done)
    else pure (observation, lastCheck)

/-- How long a turn waits for events. -/
def delay (latched : Bool) (now lastCheck : ℚ) : ℚ :=
  if latched then seconds settings.heartbeatInterval
  else min (seconds settings.heartbeatInterval) (max 0 (seconds settings.checkInterval - (now - lastCheck)))

/-- One turn of the loop, none when the session is over. -/
def turn (s : Loop) : Py (Option Loop) := do
  match ← readLock true with
  | none => pure none
  | some current =>
    if current.isEmpty || !(current.get "session_id").isStr session || (current.get "phase").isStr "stopping" then
      pure none
    else
      let (latched, observation) ← latchedNow py lock session s.observation
      let (observation, lastCheck) ← check py lock session settings latched s.ready s.lastCheck observation
      Records.write py .watchdog session observation
      checked (step (.external (if s.ready then "notify progress" else "notify progress, ready")))
      let now ← step .clock
      if ← step (.select (delay settings latched now lastCheck)) then
        let observation ← say py session observation "unknown" "watchdog.event_invalidated" false
        checked (step (.external "drain the events"))
        pure (some ⟨observation, true, -seconds settings.checkInterval⟩)
      else pure (some ⟨observation, true, lastCheck⟩)

/-- At most `n` turns. -/
def turns : Nat → Loop → Py Unit
  | 0, _ => pure ()
  | n + 1, s => do
    match ← turn py lock session settings s with
    | none => pure ()
    | some s => turns n s

end

/-- `run_supervisor` of the invocation `instanceId`, cut off after `n` turns. -/
def runSupervisor (instanceId : String) (n : Nat) : Py Unit := do
  match ← readLock true with
  | none => pure ()
  | some lock =>
    if lock.isEmpty || (lock.get "phase").isStr "stopping" then pure ()
    else
      let settings ← Prog.ofExcept (fromSnapshot py (lock.get "settings"))
      match sessionIdOf lock with
      | none => .raise (.stateError "Watchdog requires a session identity")
      | some session =>
        checked (step (.external "INVOCATION_ID"))
        let body : Py Unit := do
          let observation ← say py session
            [("value", .str "unknown"), ("instance_id", .str instanceId), ("observed_at", .null)]
            "unknown" "watchdog.initializing" false
          checked (step (.external "subscribe to events"))
          turns py lock session settings.watchdog n ⟨observation, false, -seconds settings.watchdog.checkInterval⟩
        body.handle fun e =>
          if e.isException then
            some (do
              let _ ← requestEmergency py lock (superviseCause "watchdog" "watchdog.failed") true false
              .raise e)
          else none

end Ttp.Watchdog
