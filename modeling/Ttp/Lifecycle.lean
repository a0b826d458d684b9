import Ttp.Text
import Ttp.Watchdog

/-!
`ttp/dns.py`, `dns_resolved.py`, `tor_service.py` and `commands/lifecycle.py`:
what sets up and tears down the network of a session, and the handler of
SIGINT and SIGTERM, which tears the session down that the lock names.
-/
namespace Ttp.Lifecycle
open Ttp.Python Ttp.Evidence Ttp.Program Ttp.Machine Ttp.State Ttp.Records Ttp.Firewall Ttp.SessionSafety Ttp.Watchdog

variable (py : Interpreter)

/-- A command whose non-zero exit is only logged. -/
def unchecked (p : Py Unit) : Py Unit := p.handle fun e => if e = .calledProcessError then some (pure ()) else none

/-! ### DNS -/

/-- `restore_resolved`. -/
def restoreResolved : Py Unit := do
  (checked (step .removeDropIn)).handle fun e => if e.isOSError then some (pure ()) else none
  logged (checked (step (.external "systemctl restart systemd-resolved")))
  logged (checked (step (.external "resolvectl flush-caches")))

/-- `apply_resolved`. -/
def applyResolved : Py Bool := do
  if ← step (.ask "systemd-resolved is active") then
    Prog.handle
      (do
        checked (step .writeDropIn)
        checked (step (.external "systemctl restart systemd-resolved"))
        checked (step (.external "resolvectl flush-caches"))
        pure true)
      fun e =>
        if e.isException then
          some (do
            restoreResolved
            .raise e)
        else none
  else pure false

/-- Unmount the overlay if it is there. -/
def clearOverlay : Py Unit := do
  let mounted ← step .isMounted
  onlyIf mounted (unchecked (checked (step .unmountOverlay)))

/-- `apply_dns`: the backup that a restoration needs. -/
def applyDns : Py Json := do
  let failed (e : Exc) : Exc := .dnsError s!"Failed to apply DNS configuration: {e.text}"
  let resolved ← applyResolved.handle fun e => if e.isException then some (.raise (failed e)) else none
  Prog.handle
    (do
      checked (step (.external "write resolv.conf"))
      clearOverlay
      checked (step .mountOverlay)
      pure (.obj [("mode", .str "overlay"), ("mount_target", .str "/etc/resolv.conf"),
        ("systemd_resolved", .bool resolved)]))
    fun e =>
      if e.isException then
        some (do
          onlyIf resolved (logged restoreResolved)
          .raise (failed e))
      else none

/-- The backup as a dictionary. -/
def backupOf : Json → Obj
  | .obj backup => backup
  | _ => []

/-- `restore_dns`. -/
def restoreDns (backup : Json) : Py Unit := do
  clearOverlay
  onlyIf (Obj.get (backupOf backup) "systemd_resolved").truthy (logged restoreResolved)
  (checked (step (.external "unlink resolv.conf"))).handle fun e => if e.isOSError then some (pure ()) else none

/-! ### Stopping -/

/-- `stop_tor_service`. -/
def stopTorService : Py Unit := do
  checked (step .stopTor)
  checked (step (.external "unlink ttp-tor.service"))
  checked (step (.external "systemctl daemon-reload"))

/-- What `int` skips on both sides of a numeral. -/
def isPadding (c : Char) : Bool := Text.isSpace c && !(28 ≤ c.toNat && c.toNat < 32)

/-- How many digits `int` takes of a text. -/
def maxStrDigits : Nat := 4300

/-- The digits of a numeral, with single underscores between them. -/
def numeral (text : List Char) : Option (List Nat) := do
  let groups ← (text.splitOn '_').mapM fun group => if group = [] then none else group.mapM py.decimal
  return groups.flatten

/-- `int(text)`, if that is no `ValueError`. -/
def textInt (text : List Char) : Option Int :=
  let (sign, unsigned) : Int × List Char :=
    match (text.dropWhile isPadding).rdropWhile isPadding with
    | '-' :: rest => (-1, rest)
    | '+' :: rest => (1, rest)
    | rest => (1, rest)
  (numeral py unsigned).bind fun digits =>
    if maxStrDigits < digits.length then none else some (sign * (digits.foldl (fun n digit => 10 * n + digit) 0 : Nat))

example : [" 107 ", "+107", "107\n", "1_07", "-7"].map (textInt .cpython ·.toList) =
    [some 107, some 107, some 107, some 107, some (-7)] := by decide

example : ["", "+", "1__07", "107_", "- 7"].map (textInt .cpython ·.toList) = List.replicate 5 none := by decide

/-- `int(value)`. -/
def pyInt : Json → Except Exc Int
  | .int n => .ok n
  | .bool b => .ok (if b then 1 else 0)
  | .float (.finite q) => .ok (q.num.tdiv q.den)
  | .float .nan => .error (.valueError "cannot convert float NaN to integer")
  | .float _ => .error .overflowError
  | .str s =>
    match textInt py s.toList with
    | some n => .ok n
    | none => .error (.valueError "invalid literal for int() with base 10")
  | _ => .error .typeError

/-- The user of Tor that the lock names, none for a value that is no plain integer. -/
def lockedUid (lock : Obj) : Except Exc (Option Nat) :=
  match lock.get "tor_uid" with
  | .null => .ok none
  | raw =>
    match pyInt py raw with
    | .ok n => .ok (if n < 0 then none else some n.toNat)
    | .error e => if e = .typeError ∨ e.isValueError then .ok none else .error e

/-- The user of Tor, by the lock or by a look at the host. -/
def findUid (lock : Obj) : Py (Option Nat) := do
  match ← Prog.ofExcept (lockedUid py lock) with
  | some uid => pure (some uid)
  | none => step .findTorUid

/-- The end of `do_stop`: whatever happens to the table, the lock goes with it. -/
def releaseNetwork (lock : Obj) : Py Unit :=
  Prog.always
    (do
      let _ ← destroyRules
      logged (restoreDns (lock.get "dns_backup")))
    deleteLock

/-- The part of `do_stop` that takes the network down. -/
def tearDown (lock : Obj) : Py Unit := do
  let torUid ← findUid py lock
  applyTeardownLockdown torUid
  onlyIf (!(lock.get "external_daemon").truthy) (do
    checked (step (.external "Tor SHUTDOWN"))
    stopTorService
    checked (step (.external "unlabel the ports")))
  applyActiveSocketSlaughter
  unchecked (checked (step (.external "conntrack -F")))
  releaseNetwork lock

/-- `do_stop`. -/
def doStop : Py Unit := do
  match ← readLock false with
  | none => pure ()
  | some lock =>
    onlyIf (lock.get "session_id").truthy (markStopping lock)
    onlyIf (!(lock.get "external_daemon").truthy) (logged stopWatchdog)
    tearDown py lock
    checked (step (.external "finish notifications"))

/-- Whether the session of the lock is to be retained; evidence that cannot be read retains it. -/
def retained (lock : Obj) : Py Bool :=
  if (lock.get "session_id").truthy then
    (emergencyLatched py lock).handle fun e => if e.isException then some (pure true) else none
  else pure false

/-- `signal_handler`. -/
def signalHandler : Py Unit := do
  let lock ← readLock false
  let latched ← retained py (lock.getD [])
  if latched then .raise (.systemExit 8)
  else
    doStop py
    .raise (.systemExit 0)

/-- `stop_command`. -/
def stopCommand (restoreOnly : Bool) : Py Unit := do
  checked (step (.external "require root"))
  if restoreOnly then
    checked (step .ensureRuntimeDir)
    Records.prepare
    transition 10 (writeStopMarker (.str "*"))
    logged stopWatchdog
    checked (step (.external "Tor SHUTDOWN"))
    stopTorService
    let _ ← destroyRules
    let lock := (← readLock false).getD []
    onlyIf (!lock.isEmpty) (checked (step (.external "unlabel the ports")))
    restoreDns (lock.get "dns_backup")
    deleteLock
    onlyIf (!lock.isEmpty) (checked (step (.external "finish notifications")))
    .raise (.exit 0)
  else
    match ← readLock false with
    | none => .raise (.exit 0)
    | some _ => doStop py

end Ttp.Lifecycle
