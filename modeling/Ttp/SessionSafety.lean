import Ttp.Firewall
import Ttp.Records
import Ttp.SessionSettings

/-!
`ttp/session_safety.py`: emergency containment and explicit termination. The
session lock expresses the intent of root, the emergency record latches an
emergency; every change of the network looks at the intent again under the
transition lock that explicit termination takes too.
-/
namespace Ttp.SessionSafety
open Ttp.Python Ttp.Evidence Ttp.Program Ttp.Machine Ttp.State Ttp.Records Ttp.Firewall
open Ttp.SessionSettings (fromSnapshot seconds)

variable (py : Interpreter)

/-- `_failure`. -/
def failure (reason message : String) : Diagnostic :=
  ⟨.containmentUnconfirmed, reason, "session", "contain", message, true⟩

/-- The session identity of a lock: a string that is not empty. -/
def sessionIdOf (lock : Obj) : Option String :=
  match lock.get "session_id" with
  | .str s => if s = "" then none else some s
  | _ => none

/-- `emergency_latched`. -/
def emergencyLatched (lock : Obj) : Py Bool :=
  match sessionIdOf lock with
  | none => .raise (.stateError "Session identity is missing")
  | some session => do
    match ← Records.read py .emergency session with
    | none => pure false
    | some record =>
      match record.data.get "requested" with
      | .bool true => pure true
      | _ => .raise (.stateError "Invalid emergency latch")

/-! ### Containment -/

/-- The timeout of a containment, with the diagnostic of a settings snapshot that is refused. -/
def containmentTimeout (lock : Obj) : Except Exc (ℚ × List Diagnostic) :=
  if (lock.get "settings").truthy then
    match fromSnapshot py (lock.get "settings") with
    | .ok settings => .ok (seconds settings.watchdog.checkTimeout, [])
    | .error e =>
      if e.isSettingsError then
        .ok (10, [failure "session.policy_invalid" "Cannot recover containment timing; using bounded defaults"])
      else .error e
  else .ok (10, [])

/-- The recheck of the intent: no stop was requested, and the lock still is this session's and
    runs. A lock that is gone or unreadable counts only for a caller that asks for it. -/
def stillIntended (session : String) (requireDespiteMissingLock : Bool) : Py Bool := do
  if ← stopWasRequested session then pure false
  else
    let current ← (readLock true).handle fun e =>
      if e.isStateError && requireDespiteMissingLock then some (pure none) else none
    match current with
    | none => pure requireDespiteMissingLock
    | some lock => pure ((lock.get "session_id").isStr session && !(lock.get "phase").isStr "stopping")

/-- What the previous record contributes: the `applied` flag, the causes with the new one last,
    whether that one is new, and the diagnostics of the old ones. -/
structure Prior where
  applied : Json
  causes : List Json
  newCause : Bool
  diagnostics : List Diagnostic

def evidenceInvalid : Diagnostic := failure "session.evidence_invalid" "Previous emergency evidence is unreadable"

def Prior.none (cause : Diagnostic) : Prior := ⟨.null, [.obj cause.asDict], true, []⟩

/-- `item.get("reason") != cause.reason`, for the items that are objects. -/
def otherReason (cause : Diagnostic) : Json → Bool
  | .obj item => !(Obj.get item "reason").isStr cause.reason
  | _ => false

def isObject : Json → Bool
  | .obj _ => true
  | _ => false

def readCauses : List Json → Except Exc (List Diagnostic)
  | [] => .ok []
  | item :: rest => do
    let d ← Diagnostic.fromDict item
    let ds ← readCauses rest
    .ok (d :: ds)

/-- The evidence of a record that could be read. A cause that is no diagnostic makes the evidence
    invalid, and stays among the causes. -/
def Prior.of (cause : Diagnostic) (data : Obj) : Prior :=
  let applied := data.get "applied"
  match (data.find? "causes").getD (.arr []) with
  | .arr old =>
    if old.all isObject then
      let kept := old.filter (otherReason cause)
      let diagnostics :=
        match readCauses kept with
        | .ok diagnostics => diagnostics
        | .error _ => [evidenceInvalid]
      ⟨applied, kept ++ [.obj cause.asDict], old.all (otherReason cause), diagnostics⟩
    else { Prior.none cause with applied, diagnostics := [evidenceInvalid] }
  | _ => { Prior.none cause with applied, diagnostics := [evidenceInvalid] }

/-- Read the previous record; a record that cannot be read leaves a diagnostic. -/
def priorEvidence (cause : Diagnostic) (session : String) : Py Prior :=
  Prog.handle
    (do
      match ← Records.read py .emergency session with
      | none => pure (Prior.none cause)
      | some previous => pure (Prior.of cause previous.data))
    fun e =>
      if e.isStateError || e.isValueError then
        some (pure { Prior.none cause with diagnostics := [evidenceInvalid] })
      else none

/-- The data of an emergency record. -/
def emergencyData (applied : Json) (verified : Bool) (causes : List Json) (result : Option Result) : Obj :=
  [("requested", .bool true), ("applied", applied), ("verified", .bool verified), ("causes", .arr causes)] ++
    (result.map fun r => ("result", .obj r.asDict)).toList

/-- Write the emergency record; a failure leaves the diagnostic. -/
def publish (session : String) (data : Obj) (diagnostic : Diagnostic) : Py (List Diagnostic) :=
  Prog.handle
    (do
      Records.write py .emergency session data
      pure [])
    fun e => if e.isStateError then some (pure [diagnostic]) else none

/-- Install the emergency table and inspect the kernel. -/
def apply (timeout : ℚ) : Py (KernelCheck × Json × List Diagnostic) := do
  let (applied, failed) ← Prog.handle
    (do
      applyEmergencyKillswitch timeout
      pure (Json.bool true, ([] : List Diagnostic)))
    fun e =>
      if e.isException then
        some (pure (.bool false, [⟨.error, "firewall.emergency_apply_failed", "firewall", "apply_emergency",
          s!"Emergency application failed ({e.typeName})", true⟩]))
      else none
  let check ← inspectEmergencyRules timeout
  pure (check, applied, failed)

/-- Apply if necessary: a repair first looks whether the emergency table already is in place. -/
def enforce (repair : Bool) (timeout : ℚ) (applied : Json) : Py (KernelCheck × Json × List Diagnostic) := do
  if repair then
    let check ← inspectEmergencyRules timeout
    if check.verified then pure (check, applied, []) else apply timeout
  else apply timeout

/-- The part of `request_emergency` under the transition lock: none if the session was stopped, else
    the result and whether the cause is new. -/
def containLocked (session : String) (cause : Diagnostic) (repair requireDespiteMissingLock : Bool) (timeout : ℚ)
    (result : Result) : Py (Option (Result × Bool)) := do
  if ← stillIntended session requireDespiteMissingLock then
    let prior ← priorEvidence py cause session
    let requested := if repair then prior.applied else .bool false
    let latched ← publish py session (emergencyData requested false prior.causes .none)
      (failure "session.latch_write_failed" "Could not persist the emergency latch")
    let (check, applied, failed) ← enforce repair timeout requested
    let result := ((result.add prior.diagnostics).add latched).add (failed ++ [check.diagnostic])
    let written ← publish py session (emergencyData applied check.verified prior.causes (some result))
      (failure "session.evidence_write_failed" "Could not publish containment evidence")
    pure (some (result.add written, prior.newCause))
  else pure none

/-- The desktop notifications, after the action and its verification are complete. -/
def notify (lock : Obj) (cause : Diagnostic) (result : Result) (newCause : Bool) : Py Result := do
  if (lock.get "settings").truthy then
    let event := if result.exitCode = .emergencyVerified then "emergency_verified" else "containment_unconfirmed"
    let first ←
      (if newCause ∧ (cause.code = .watchdogUnavailable ∨ cause.code = .torNegative) ∧
          cause.reason ≠ "watchdog.emergency_latched" then
        step (.emit (if cause.code = .torNegative then "tor_negative" else "watchdog_unavailable") false)
      else pure (.ok []) : Py (Except Exc (List Diagnostic)))
    match first with
    | .error e => if e.isException then pure result else .raise e
    | .ok more =>
      match ← step (.emit event false) with
      | .error e => if e.isException then pure (result.add more) else .raise e
      | .ok rest => pure ((result.add more).add rest)
  else pure result

/-- `request_emergency`. -/
def requestEmergency (lock : Obj) (cause : Diagnostic) (repair requireDespiteMissingLock : Bool) : Py Result :=
  match sessionIdOf lock with
  | none =>
    pure (Result.add {} [cause, failure "session.identity_missing" "Cannot associate containment with a session"])
  | some session => do
    let (timeout, policy) ← Prog.ofExcept (containmentTimeout py lock)
    let result := Result.add {} (cause :: policy)
    let contained ←
      (transition timeout (containLocked py session cause repair requireDespiteMissingLock timeout result)).handle
        fun e =>
        if e.isOSError || e.isStateError then
          some (pure (some (result.add [failure "session.transition_failed"
            s!"Containment could not be serialized ({e.typeName})"], true)))
        else none
    match contained with
    | none => pure {}
    | some (result, newCause) => notify lock cause result newCause

/-! ### Termination -/

/-- `mark_stopping`. -/
def markStopping (lock : Obj) : Py Unit := do
  Records.prepare
  transition 10 do
    match ← readLock true with
    | none => .raise (.stateError "Session changed before termination")
    | some current =>
      if (current.get "session_id").eq (lock.get "session_id") then
        updateLockKeys [("phase", .str "stopping")]
        match lock.find? "session_id" with
        | none => .raise .keyError
        | some session => writeStopMarker session
      else .raise (.stateError "Session changed before termination")

/-- The cause of `supervision_terminated`. -/
def terminatedCause : Diagnostic :=
  ⟨.watchdogUnavailable, "watchdog.terminated", "watchdog", "terminate",
    "Required supervisor terminated; containment requested", true⟩

/-- What a lock calls for when its supervisor is gone. -/
def terminatedLock (lock : Obj) (required : Bool) : Py Result :=
  if lock.isEmpty || !(lock.get "watchdog_requested").truthy || (lock.get "phase").isStr "stopping" then pure {}
  else requestEmergency py lock terminatedCause true required

/-- `supervision_terminated`. -/
def supervisionTerminated (expectedSession : Option String) : Py Result := do
  let lock ← Prog.handle
    (do
      let lock ← readLock true
      pure (Except.ok lock))
    fun e => if e.isStateError then some (pure (Except.error ())) else none
  match lock, expectedSession with
  | .error _, none =>
    pure (Result.add {} [failure "session.intent_unreadable" "Cannot read supervision intent in termination handler"])
  | .ok none, none => pure {}
  | .ok (some lock), none => terminatedLock py lock false
  | .ok (some lock), some expected =>
    if !lock.isEmpty && !(lock.get "session_id").isStr expected then pure {}
    else terminatedLock py lock true
  | _, some expected =>
    terminatedLock py [("session_id", .str expected), ("watchdog_requested", .bool true)] true

/-! ### Sessions without a record -/

section
variable {py : Interpreter} {session : String} (encodes : filename py session = .error .unicodeEncodeError)
include encodes

theorem read_unencodable (name : RecordName) : Records.read py name session = .raise .unicodeEncodeError := by
  rw [Records.read, encodes]
  rfl

theorem write_unencodable (name : RecordName) (data : Obj) :
    Records.write py name session data = .raise .unicodeEncodeError := by
  rw [Records.write, encodes]
  rfl

theorem priorEvidence_unencodable (cause : Diagnostic) :
    priorEvidence py cause session = pure { Prior.none cause with diagnostics := [evidenceInvalid] } := by
  rw [priorEvidence, read_unencodable encodes]
  rfl

theorem publish_unencodable (data : Obj) (diagnostic : Diagnostic) :
    publish py session data diagnostic = .raise .unicodeEncodeError := by
  rw [publish, write_unencodable encodes]
  rfl

/-- The latch of a session that cannot be encoded gets past the handler of its write. -/
theorem containLocked_unencodable (cause : Diagnostic) (repair required : Bool) (timeout : ℚ) (result : Result) :
    containLocked py session cause repair required timeout result = (do
      if ← stillIntended session required then .raise .unicodeEncodeError else pure none) := by
  simp only [containLocked, priorEvidence_unencodable encodes, publish_unencodable encodes]
  rfl

end

end Ttp.SessionSafety
