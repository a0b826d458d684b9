import Ttp.Machine

/-!
`ttp/state.py`: the session lock and the stop marker. Both files are replaced as
a whole, so a reader sees the old or the new content; `update_lock_keys` reads
and replaces in two steps.
-/
namespace Ttp.State
open Ttp.Python Ttp.Program Ttp.Machine

/-- What `read_lock` makes of the file. -/
def lockOf (strict : Bool) (file : Loaded) : Except Exc (Option Obj) :=
  match file.loads with
  | .ok (.obj data) => .ok (some data)
  | .ok _ => if strict then .error (.stateError "Session lock is not an object") else .ok none
  | .error e =>
    if e = .osError "FileNotFoundError" then .ok none
    else if e = .jsonDecodeError ∨ e.isOSError then
      if strict then .error (.stateError "Cannot read the session intent") else .ok none
    else .error e

/-- `read_lock`. -/
def readLock (strict : Bool) : Py (Option Obj) := do
  let file ← step .readLock
  Prog.ofExcept (lockOf strict file)

/-- `_write_lock_file` for the lock. -/
def writeLockFile (data : Obj) : Py Unit := do
  checked (step .ensureRuntimeDir)
  checked (step (.replaceLock data))

/-- The arguments of `write_lock`, with its defaults; the process fills in the first two. -/
structure LockArgs where
  pid : Json := .null
  timestamp : Json := .null
  dnsBackup : Json := .null
  transportPort : Nat := 9041
  dnsPort : Nat := 9054
  allowRoot : Bool := false
  lanBypass : Bool := true
  watchdogActive : Bool := false
  watchdogPid : Json := .null
  interface : Json := .null
  bypassUsers : List Json := []
  bypassGroups : List Json := []
  useBridges : Bool := false
  bridgeFile : Json := .null
  bridges : List Json := []
  externalDaemon : Bool := false
  noIpv6 : Bool := false
  torUid : Json := .null
  tableFingerprint : Json := .null
  watchdogRequested : Bool := false
  settings : Json := .null
  settingsOrigins : Json := .null
  notificationTarget : Json := .null

def LockArgs.data (a : LockArgs) (session : String) : Obj :=
  [("session_id", .str session), ("phase", .str "running"), ("watchdog_requested", .bool a.watchdogRequested),
    ("settings", a.settings), ("settings_origins", a.settingsOrigins), ("notification_target", a.notificationTarget),
    ("pid", a.pid), ("timestamp", a.timestamp), ("dns_backup", a.dnsBackup),
    ("transport_port", .int a.transportPort), ("dns_port", .int a.dnsPort), ("allow_root", .bool a.allowRoot),
    ("lan_bypass", .bool a.lanBypass), ("watchdog_active", .bool a.watchdogActive), ("watchdog_pid", a.watchdogPid),
    ("interface", a.interface), ("bypass_users", .arr a.bypassUsers), ("bypass_groups", .arr a.bypassGroups),
    ("use_bridges", .bool a.useBridges), ("bridge_file", a.bridgeFile), ("bridges", .arr a.bridges),
    ("external_daemon", .bool a.externalDaemon), ("no_ipv6", .bool a.noIpv6), ("tor_uid", a.torUid),
    ("table_fingerprint", a.tableFingerprint)]

/-- `write_lock`: publish the session, then drop the marker of an earlier stop. -/
def writeLock (a : LockArgs) : Py Unit :=
  Prog.handle
    (do
      let session ← step .uuid4
      writeLockFile (a.data session)
      checked (step .unlinkMarker))
    fun e => if e.isOSError then some (.raise (.stateError s!"Failed to write session lock file: {e.text}")) else none

/-- `update_lock_keys`. -/
def updateLockKeys (changes : Obj) : Py Unit := do
  match ← readLock false with
  | none => .raise (.stateError "No active TTP session found to update.")
  | some data =>
    (writeLockFile (data.update changes)).handle fun e =>
      if e.isOSError then some (.raise (.stateError s!"Failed to update session lock file: {e.text}")) else none

/-- `delete_lock`. -/
def deleteLock : Py Unit := checked (step .unlinkLock)

/-- `write_stop_marker`. -/
def writeStopMarker (session : Json) : Py Unit := do
  checked (step .ensureRuntimeDir)
  checked (step (.replaceMarker session))

/-- What `stop_was_requested` makes of the marker file. -/
def stopOf (session : String) (file : Loaded) : Except Exc Bool :=
  match file.loads with
  | .ok (.obj payload) =>
    match Obj.get payload "session_id" with
    | .str stopped => .ok (stopped == session || stopped == "*")
    | _ => .error (.stateError "Invalid explicit-stop marker")
  | .ok _ => .error (.stateError "Invalid explicit-stop marker")
  | .error e =>
    if e = .osError "FileNotFoundError" then .ok false
    else if e.isOSError || e.isValueError then .error (.stateError "Explicit-stop intent is unreadable")
    else .error e

/-- `stop_was_requested`. -/
def stopWasRequested (session : String) : Py Bool := do
  let file ← step .readMarker
  Prog.ofExcept (stopOf session file)

/-- `is_orphan`: the recorded process is gone, or is no ttp process. -/
def isOrphan : Py Bool := do
  match ← readLock false with
  | none => pure false
  | some data =>
    match data.get "pid" with
    | .null => pure true
    | _ =>
      match ← step (.external "os.kill") with
      | .ok _ => pure false
      | .error _ => pure true

/-- `attempt_recovery`. -/
def attemptRecovery (destroyFirewall : Py Unit) (restoreDns : Json → Py Unit) : Py Bool := do
  match ← readLock false with
  | none => pure false
  | some data =>
    (do
      destroyFirewall
      restoreDns (data.get "dns_backup")).always deleteLock
    pure true

/-- The part of a lock that the containment of a session reads. -/
def requiredLock (session : String) : Obj :=
  [("session_id", .str session), ("phase", .str "running"), ("watchdog_requested", .bool true)]

/-! ### What a lock file reads as -/

/-- Only an object is a lock. -/
theorem lockOf_some {strict : Bool} {file : Loaded} {lock : Obj} :
    lockOf strict file = .ok (some lock) ↔ file = .json (.obj lock) := by
  constructor
  · intro read
    unfold lockOf at read
    split at read
    case h_1 loaded =>
      obtain rfl : _ = lock := by simpa using read
      cases file <;> simp [Loaded.loads] at loaded
      rw [loaded]
    · split at read <;> simp at read
    · repeat' split at read
      all_goals simp at read
  · rintro rfl
    rfl

/-- The lock file can be decoded, to a lock or to none. -/
def Readable (file : Loaded) : Prop := file ≠ .notUtf8 ∧ file ≠ .tooDeep ∧ file ≠ .tooManyDigits

theorem readable_iff {file : Loaded} : Readable file ↔ ∃ found, lockOf false file = .ok found := by
  cases file with
  | json value => cases value <;> simp [Readable, lockOf, Loaded.loads]
  | _ => simp [Readable, lockOf, Loaded.loads, Exc.isOSError]

/-- A strict read fails with a `StateError`, or on a file that the decoder itself does not finish. -/
theorem lockOf_decoded {file : Loaded} : (∀ e, lockOf true file = .error e → e.isStateError = true) ↔
    file ≠ .notUtf8 ∧ file ≠ .tooDeep ∧ file ≠ .tooManyDigits := by
  constructor
  · intro caught
    refine ⟨?_, ?_, ?_⟩ <;>
    · rintro rfl
      exact absurd (caught _ rfl) (by decide)
  · rintro ⟨utf8, shallow, digits⟩ e failed
    unfold lockOf at failed
    split at failed
    · simp at failed
    · obtain rfl := Except.error.inj failed
      rfl
    case h_3 raised =>
      split at failed
      · simp at failed
      split at failed
      · obtain rfl := Except.error.inj failed
        rfl
      case isFalse _ uncaught =>
        refine absurd ?_ uncaught
        cases file with
        | missing =>
          obtain rfl := Except.error.inj raised
          exact Or.inr rfl
        | ioError kind =>
          obtain rfl := Except.error.inj raised
          exact Or.inr rfl
        | malformed =>
          obtain rfl := Except.error.inj raised
          exact Or.inl rfl
        | notUtf8 => exact absurd rfl utf8
        | tooDeep => exact absurd rfl shallow
        | tooManyDigits => exact absurd rfl digits
        | json value => simp [Loaded.loads] at raised


section
variable {a : LockArgs} {session : String}

@[simp] theorem data_session : (a.data session).get "session_id" = .str session := rfl

@[simp] theorem data_phase : (a.data session).get "phase" = .str "running" := rfl

end

end Ttp.State
