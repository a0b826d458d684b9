import Ttp.Lifecycle

/-!
`commands/start.py`, `_preflight.py`, `stop_restart.py` and `session_report.py`:
starting and restarting a session, and checking it. Questions to the user and
steps that leave no trace on the host are external operations; what the
arguments resolve to comes as one record.
-/
namespace Ttp.Start
open Ttp.Python Ttp.Evidence Ttp.Program Ttp.Machine Ttp.State Ttp.Records Ttp.Firewall Ttp.SessionSafety Ttp.Watchdog
open Ttp.Lifecycle
open Ttp.SessionSettings (Settings fromSnapshot)

variable (py : Interpreter)

/-- What the options of `start` and the files they name resolve to. -/
structure StartArgs where
  /-- What the administrator's configuration reads as. -/
  config : Except Exc Settings
  watchdog : Option Bool := none
  notifications : Option Bool := none
  externalDaemon : Bool := false
  rules : Builder.Config
  lock : LockArgs
  /-- A desktop recipient was selected. -/
  recipient : Bool := false

/-- `except (..) as exc: print_error(..); raise typer.Exit(code)`. -/
def orExit {α : Type} (code : Nat) (catches : Exc → Bool) (p : Py α) : Py α :=
  p.handle fun e => if catches e then some (.raise (.exit code)) else none

/-- `check_session_state`. -/
def checkSessionState : Py Unit := do
  match ← readLock false with
  | none => pure ()
  | some lock =>
    if lock.isEmpty then pure ()
    else if (lock.get "session_id").truthy then .raise (.exit 1)
    else if ← isOrphan then
      let _ ← attemptRecovery (do let _ ← destroyRules) restoreDns
    else .raise (.exit 1)

/-- The rollback of a start that fails. -/
def rollBack (externalDaemon : Bool) : Py Unit := do
  onlyIf (!externalDaemon) stopTorService
  let _ ← destroyRules

/-- Roll back, with what else is to be undone, and exit. -/
def orRollBack {α : Type} (externalDaemon : Bool) (catches : Exc → Bool) (more : Py Unit) (p : Py α) : Py α :=
  p.handle fun e =>
    if catches e then
      some (do
        rollBack externalDaemon
        more
        .raise (.exit 1))
    else none

/-- `record_verification`. -/
def recordVerification (lock : Obj) (v : Verification) : Py Result := do
  let result := v.result
  let written ← Prog.handle
    (do
      match lock.find? "session_id" with
      | some (.str session) =>
        Records.write py .verification session
          [("state", .str v.state.value), ("reason", .str v.reason),
            ("observed_at", (v.observedAt.map fun q => Json.float (.finite q)).getD .null),
            ("ip", (v.ip.map Json.str).getD .null), ("result", .obj result.asDict)]
        pure []
      | some _ => .raise (.stateError "An observation requires a session identity")
      | none => .raise .keyError)
    fun e =>
      if e.isStateError || e = .keyError then
        some (pure [⟨.error, "session.verification_write_failed", "session", "verify",
          "Could not retain verification evidence", true⟩])
      else none
  let result := result.add written
  if v.state = .negative then
    let contained ← requestEmergency py lock
      ⟨.torNegative, "tor.valid_negative", "tor", "verify",
        "A non-exempt verification request returned IsTor=false", true⟩ false false
    pure (result.add contained.diagnostics)
  else pure result

/-- Start the required watchdog; the result of the containment if it does not become ready. -/
def requireWatchdog (lock : Obj) (watchdog : Bool) : Py (Option Result) :=
  if watchdog then
    Prog.handle
      (do
        startWatchdog py
        pure none)
      fun e =>
        if e.isException then
          some (some <$> requestEmergency py lock
            ⟨.watchdogUnavailable, "watchdog.start_failed", "watchdog", "start",
              "Required watchdog did not become ready", true⟩ false false)
        else none
  else pure none

/-- The verification of a session whose watchdog did not fail. -/
def verifyUnless (lock : Obj) : Option Result → Py Result
  | some contained => pure contained
  | none => do
    let verification ← step .verify
    recordVerification py lock verification

/-- What `start_command` does once the lock is there: the watchdog, the verification, the latch. -/
def supervise (lock : Obj) (watchdog : Bool) : Py Result := do
  let failed ← requireWatchdog py lock watchdog
  let result ← verifyUnless py lock failed
  Prog.handle
    (do
      if ← emergencyLatched py lock then
        let contained ← requestEmergency py lock
          ⟨.error, "session.emergency_latched", "session", "start",
            "Emergency remains latched until explicit termination", true⟩ true false
        pure (result.add contained.diagnostics)
      else pure result)
    fun e =>
      if e.isStateError then
        some (pure (result.add [⟨.containmentUnconfirmed, "session.evidence_invalid", "session", "start",
          "Cannot inspect emergency evidence", true⟩]))
      else none

/-- `start_command` up to `register_signal_handlers`: whether the watchdog is selected. -/
def validateStart (a : StartArgs) : Py Settings := do
  checked (step (.external "require root"))
  checked (step (.external "require systemd"))
  let selected ← orExit 1 Exc.isSettingsError
    (Prog.ofExcept (a.config.bind fun s => s.select py a.watchdog a.notifications))
  checked (step (.external "select the notifications"))
  onlyIf (a.externalDaemon && selected.watchdog.enabled.truthy) (.raise (.exit 1))
  onlyIf selected.watchdog.enabled.truthy (checked (step (.external "require the watchdog's dependency")))
  checked (step (.external "parse users, groups, bridges and ports"))
  checked (step (.external "require DNSSEC compatibility"))
  pure selected

/-- Tor: the one that is running, or the managed service. -/
def provideTor (externalDaemon : Bool) : Py Unit :=
  if externalDaemon then checked (step (.external "resolve the user of Tor"))
  else orExit 1 (fun e => match e with | .torError _ => true | _ => false) (checked (step .startTor))

/-- The set-up of the network: Tor, the rules, DNS and, last, the lock. -/
def setUp (a : StartArgs) (selected : Settings) : Py Unit := do
  provideTor a.externalDaemon
  orRollBack a.externalDaemon Exc.isFirewallError (pure ()) (applyRules a.rules)
  checked (step (.external "detect the active interface"))
  let backup ← orRollBack a.externalDaemon Exc.isException (pure ()) applyDns
  orRollBack a.externalDaemon Exc.isStateError (restoreDns backup)
    (do
      checked (step (.external "nft -s list table"))
      let snapshot ← Prog.ofExcept (selected.snapshot py)
      writeLock { a.lock with
        dnsBackup := backup
        externalDaemon := a.externalDaemon
        watchdogRequested := selected.watchdog.enabled.truthy
        settings := .obj snapshot })

/-- The event of a session that started. -/
def startedEvent (result : Result) : String :=
  if result.exitCode = .containmentUnconfirmed then "containment_unconfirmed"
  else if result.exitCode = .emergencyVerified then "emergency_verified"
  else if result.diagnostics.any fun d => d.active && d.code == .unverified then "inconclusive"
  else "started"

/-- Emit an event to the desktop, if notifications are enabled. -/
def announce (settings : Settings) (event : String) (result : Result) : Py Result :=
  if settings.notifications.enabled.truthy then do
    let more ← checked (step (.emit event true))
    pure (result.add more)
  else pure result

/-- `start_command` from `register_signal_handlers` on. -/
def beginSession (a : StartArgs) (selected : Settings) : Py Unit := do
  step .registerHandlers
  let _ ← step (.ask "IPv6 is supported")
  checkSessionState
  checked (step (.external "preflight checks"))
  orExit 1 (fun e => e.isOSError || e.isStateError) (do
    checked (step .ensureRuntimeDir)
    Records.prepare)
  setUp py a selected
  match ← readLock true with
  | none => .raise (.exit ExitCode.containmentUnconfirmed.value)
  | some lock =>
    onlyIf a.recipient (logged (checked (step (.external "start the notification agent"))))
    let result ← supervise py lock selected.watchdog.enabled.truthy
    let result ← announce selected (startedEvent result) result
    onlyIf (result.exitCode != .ok) (.raise (.exit result.exitCode.value))

/-- `start_command`. -/
def startCommand (a : StartArgs) : Py Unit := do
  let selected ← validateStart py a
  beginSession py a selected

/-- `restart_command`. -/
def restartCommand (a : StartArgs) : Py Unit := do
  checked (step (.external "require root"))
  checked (step (.external "require systemd"))
  checked (step (.external "require DNSSEC compatibility"))
  orExit 1 (fun e => e.isSettingsError || e.isStateError) (do
    let _ ← Prog.ofExcept (a.config.bind fun s => s.select py a.watchdog a.notifications)
    let lock := (← readLock true).getD []
    let latched ← (if (lock.get "session_id").truthy then emergencyLatched py lock else pure false : Py Bool)
    onlyIf latched (.raise (.exit 7)))
  let current ← readLock false
  onlyIf current.isSome (do
    doStop py
    checked (step (.external "sleep")))
  startCommand py a

/-! ### Checking -/

/-- `session_settings`. -/
def sessionSettings (lock : Obj) : Except Exc Settings :=
  match lock.find? "settings" with
  | none => .ok {}
  | some .null => .ok {}
  | some raw => fromSnapshot py raw

/-- The last verification of the session, for its state. -/
def previousVerification (lock : Obj) : Py (Option Payload) :=
  match sessionIdOf lock with
  | some session => Records.read py .verification session
  | none =>
    if (lock.get "session_id").truthy then .raise (.stateError "An observation requires a session identity")
    else pure none

/-- The look at a required supervisor: one that is not operational calls for containment. -/
def checkSupervisor (lock : Obj) (result : Result) : Py Result := do
  if (lock.get "watchdog_requested").truthy then
    let observed ← watchdogObservation py
    if operational observed then pure result
    else
      let contained ← requestEmergency py lock
        ⟨.watchdogUnavailable, "watchdog.unavailable", "watchdog", "check",
          "Required supervisor has no current operational evidence", true⟩ false false
      pure (result.add contained.diagnostics)
  else pure result

/-- The event of a check, if there is one. -/
def checkedEvent (previous : Option Payload) (verification : Verification) (result : Result) : Option String :=
  if result.exitCode = .emergencyVerified then some "emergency_verified"
  else if result.exitCode = .containmentUnconfirmed then some "containment_unconfirmed"
  else if !verification.confirmed then some "inconclusive"
  else if (previous.map fun record => (record.data.get "state").isStr "inconclusive").getD false then some "recovered"
  else none

/-- `check_session`, where `config` is what the administrator's configuration reads as. -/
def checkSession (config : Except Exc Settings) : Py (Option Verification × Result) := do
  let lock := (← readLock true).getD []
  let settings ← Prog.ofExcept (if lock.isEmpty then config else sessionSettings py lock)
  let latched ← (if (lock.get "session_id").truthy then emergencyLatched py lock else pure false : Py Bool)
  if latched then
    -- `observe_session`: reads only
    let check ← inspectEmergencyRules (SessionSettings.seconds settings.watchdog.checkTimeout)
    pure (none, Result.add {} [check.diagnostic])
  else
    let previous ← previousVerification py lock
    let verification ← step .verify
    let result ← (if lock.isEmpty then pure verification.result
      else recordVerification py lock verification : Py Result)
    let result ← checkSupervisor py lock result
    match if lock.isEmpty then none else checkedEvent previous verification result with
    | some event =>
      let result ← announce settings event result
      pure (some verification, result)
    | none => pure (some verification, result)

end Ttp.Start
