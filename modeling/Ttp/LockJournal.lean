import Ttp.Footprint

/-!
The session lock as one process after another writes it: the host with every
lock that was written, what a program does to the lock by the kinds of its
operations, and the programs that update it. An invariant that survives the
removal of the lock (`Closed`) is preserved by a program whose updates preserve
it.
-/
namespace Ttp.LockJournal
open Ttp.Python Ttp.Evidence Ttp.Program Ttp.Machine Ttp.State Ttp.Records Ttp.Firewall Ttp.SessionSafety Ttp.Watchdog
open Ttp.Lifecycle Ttp.Start Ttp.Footprint
open Ttp.SessionSettings (Settings fromSnapshot)

structure Journal where
  host : Host
  /-- The locks that were written. -/
  written : List Obj

/-- A step fails with an exception of its own, and a UUID is not empty. -/
def possible : Op → Fate → Bool
  | .uuid4, .name s => s != ""
  | o, .fails e => o.raises e
  | _, _ => true

def Journal.note (w : Journal) : (o : Op) → o.Res → List Obj
  | .replaceLock data, .ok _ => data :: w.written
  | _, _ => w.written

def perform (w : Journal) (o : Op) (fate : Fate) : Option (o.Res × Journal) :=
  if possible o fate then (w.host.perform 0 o fate).map fun done => (done.1, ⟨done.2, w.note o done.1⟩) else none

/-! ### Steps -/

section
variable {w w' : Journal} {o : Op} {fate : Fate} {r : o.Res} {kinds : List Kind}

theorem perform_some (performed : perform w o fate = some (r, w')) : possible o fate = true ∧
    w.host.perform 0 o fate = some (r, w'.host) ∧ w'.written = w.note o r := by
  unfold perform at performed
  split at performed
  case isTrue able =>
    obtain ⟨⟨r', h⟩, done, same⟩ := Option.map_eq_some_iff.mp performed
    obtain ⟨rfl, rfl⟩ := Prod.mk.inj same
    exact ⟨able, done, rfl⟩
  case isFalse => simp at performed

/-- A way that an operation can always turn out. -/
def usual : Op → Fate
  | .acquire _ => .fails (.stateError "Timed out waiting for a session transition")
  | .nftInsert .. => .fails .calledProcessError
  | .clock => .time 0
  | .uuid4 => .name "a"
  | .showUnit _ => .fails .timeoutExpired
  | .verify => .verification { state := .notRun, reason := "" }
  | .integrity => .integrity none
  | .heal => .ready false
  | .ask _ => .ready false
  | .select _ => .ready false
  | .emit .. => .said []
  | _ => .ok

theorem perform_total (w : Journal) (o : Op) : ∃ fate r w', perform w o fate = some (r, w') := by
  have able : possible o (usual o) = true := by cases o <;> rfl
  have turns : (w.host.outcome o (usual o)).isSome = true := by
    cases o with
    | nftListing => cases table : w.host.table <;> simp [usual, Host.outcome, table]
    | _ => rfl
  obtain ⟨done, outcome⟩ := Option.isSome_iff_exists.mp turns
  exact ⟨usual o, done.1, _, by rw [perform, if_pos able, Host.perform, outcome]; rfl⟩

/-- What was written stays written. -/
theorem note_grows : w.written ⊆ w.note o r := by
  unfold Journal.note
  split
  · exact List.subset_cons_self _ _
  · exact fun _ => id

/-- Only a replacement writes a lock, and only a removal takes it away. -/
theorem perform_lock (performed : perform w o fate = some (r, w')) (notReplaced : kind o ≠ .replaceLock) :
    w'.written = w.written ∧ (w'.host.lock = w.host.lock ∨ w'.host.lock = .missing) := by
  obtain ⟨_, done, noted⟩ := perform_some performed
  have same : w.note o r = w.written := by
    cases o with
    | replaceLock => exact absurd rfl notReplaced
    | _ => rfl
  refine ⟨noted.trans same, ?_⟩
  rcases Host.perform_effect done with unchanged | effect
  · exact Or.inl (congrArg Host.lock unchanged)
  · by_cases unlinked : kind o = .unlinkLock
    · cases o with
      | unlinkLock => exact Or.inr (congrArg Host.lock effect)
      | nftTransaction t timeout => rcases kind_transaction t timeout with other | other <;> simp [other] at unlinked
      | _ => simp [kind] at unlinked
    · exact Or.inl ((congrArg Host.lock effect).trans (effect_lock notReplaced unlinked))

/-- The lock that is there was written. -/
def Held (w : Journal) : Prop := ∀ lock : Obj, w.host.lock = .json (.obj lock) → lock ∈ w.written

theorem perform_held (performed : perform w o fate = some (r, w')) (held : Held w) :
    Held w' := by
  by_cases replaced : kind o = .replaceLock
  · cases o with
    | replaceLock data =>
      obtain ⟨_, done, noted⟩ := perform_some performed
      obtain ⟨took, outcome, changed⟩ := Host.perform_outcome.mp done
      intro lock there
      rcases Host.attempted_cases (by simpa [Host.outcome] using outcome) with ⟨rfl, rfl⟩ | ⟨e, rfl, rfl⟩
      · obtain rfl : data = lock := by simpa [changed, Host.effect] using there
        rw [noted]
        exact List.mem_cons_self
      · rw [noted]
        exact held lock (congrArg Host.lock changed ▸ there)
    | nftTransaction t timeout => rcases kind_transaction t timeout with other | other <;> simp [other] at replaced
    | _ => simp [kind] at replaced
  · obtain ⟨written, lock⟩ := perform_lock performed replaced
    intro l there
    rcases lock with same | gone
    · exact written ▸ held l (same ▸ there)
    · simp [gone] at there

/-! ### Invariants of the lock -/

/-- The lock file was left alone. -/
def Untouched (w w' : Journal) : Prop := w'.written = w.written ∧ w'.host.lock = w.host.lock

/-- The lock file was at most removed. -/
def Dropped (w w' : Journal) : Prop := w'.written = w.written ∧ (w'.host.lock = w.host.lock ∨ w'.host.lock = .missing)

/-- `Inv` holds on when the lock file is left alone or removed. -/
def Closed (Inv : Journal → Prop) : Prop := ∀ w w', Dropped w w' → Inv w → Inv w'

/-- `Inv` holds on when `data` is written. -/
def Accepts (Inv : Journal → Prop) (data : Obj) : Prop :=
  ∀ w w', Inv w → w'.written = data :: w.written → w'.host.lock = .json (.obj data) → Inv w'

theorem untouched_trans {u v : Journal} (first : Untouched u v) (second : Untouched v w) : Untouched u w :=
  ⟨second.1.trans first.1, second.2.trans first.2⟩

theorem untouched_ensures {α : Type} {p : Py α} (used : p.Uses (among kinds)) (notReplaced : .replaceLock ∉ kinds)
    (notUnlinked : .unlinkLock ∉ kinds) : p.Ensures perform w fun _ w' => Untouched w w' := by
  refine ensures_related used (fun _ => ⟨rfl, rfl⟩) (fun w o fate r w' inside performed => ?_) ?_
  · have notReplaced : kind o ≠ .replaceLock := fun replaced => notReplaced (replaced ▸ inside)
    have notUnlinked : kind o ≠ .unlinkLock := fun unlinked => notUnlinked (unlinked ▸ inside)
    refine ⟨(perform_lock performed notReplaced).1, ?_⟩
    rcases Host.perform_effect (perform_some performed).2.1 with unchanged | effect
    · exact congrArg Host.lock unchanged
    · exact (congrArg Host.lock effect).trans (effect_lock notReplaced notUnlinked)
  · rintro u v w first second
    exact untouched_trans first second

section
variable {py : Interpreter} {α : Type} {Inv : Journal → Prop} (closed : Closed Inv)
include closed

theorem untouched_closed (untouched : Untouched w w') (inv : Inv w) : Inv w' :=
  closed w w' ⟨untouched.1, Or.inl untouched.2⟩ inv

theorem preserves_op {o : Op} (notReplaced : kind o ≠ .replaceLock) : (step o).Preserves perform Inv :=
  fun w inv _ _ w' performed => closed w w' (perform_lock performed notReplaced) inv

theorem preserves_uses {p : Py α} (used : p.Uses (among kinds)) (notReplaced : .replaceLock ∉ kinds) :
    p.Preserves perform Inv :=
  preserves_of_uses used fun w _ _ _ w' inside performed inv =>
    closed w w' (perform_lock performed fun replaced => notReplaced (replaced ▸ inside)) inv

theorem external_preserves {what : String} : (checked (step (.external what))).Preserves perform Inv :=
  preserves_uses closed (external_uses (List.mem_singleton_self Kind.quiet)) (by decide)

theorem readLock_preserves {strict : Bool} : (readLock strict).Preserves perform Inv :=
  preserves_uses closed (readLock_uses (List.mem_singleton_self _)) (by decide)

theorem prepare_preserves : Records.prepare.Preserves perform Inv :=
  preserves_uses closed (prepare_uses (List.mem_singleton_self _)) (by decide)

theorem network_preserves {p : Py α} (used : p.Uses (among network)) : p.Preserves perform Inv :=
  preserves_uses closed used (by decide)

theorem transition_preserves {timeout : Rat} {body : Py α} (preserves : body.Preserves perform Inv) :
    (transition timeout body).Preserves perform Inv := by
  unfold transition
  split
  · exact preserves_raise _
  · refine preserves_bind (preserves_bind (preserves_op closed (by simp [kind])) preserves_ofExcept) fun _ => ?_
    exact preserves_always preserves (preserves_op closed (by decide))

end

section
variable {α : Type} {Inv : Journal → Prop}

theorem checked_preserves {p : Py (Except Exc α)} (body : p.Preserves perform Inv) :
    (checked p).Preserves perform Inv :=
  preserves_bind body preserves_ofExcept

theorem onlyIf_preserves {c : Bool} {p : Py Unit} (body : p.Preserves perform Inv) :
    (onlyIf c p).Preserves perform Inv := by
  unfold onlyIf
  split
  · exact body
  · exact preserves_pure ()

theorem logged_preserves {p : Py Unit} (body : p.Preserves perform Inv) : (logged p).Preserves perform Inv :=
  preserves_catch body fun _ => preserves_pure ()

end

/-! ### Writing the lock -/

theorem ensures_readLock {strict : Bool} {Q : Except Exc (Option Obj) → Journal → Prop}
    (reached : Q (lockOf strict w.host.lock) w) :
    (readLock strict).Ensures perform w Q := by
  rw [readLock, ensures_bind]
  intro fate r w' performed
  obtain ⟨_, done, noted⟩ := perform_some performed
  obtain ⟨took, outcome, changed⟩ := Host.perform_outcome.mp done
  cases fate <;> simp only [Host.outcome, Option.some.injEq, Prod.mk.injEq, reduceCtorEq] at outcome
  obtain ⟨rfl, rfl⟩ := outcome
  obtain rfl : w' = w := by
    cases w'
    simp only [Host.effect, if_true] at changed
    simp only [Journal.note] at noted
    subst changed noted
    rfl
  exact (ensures_ofExcept _).mpr reached

section
variable {py : Interpreter} {Inv : Journal → Prop}

/-- A lock that may be written becomes the lock, or does not. -/
theorem writeLockFile_ensures {data : Obj} (closed : Closed Inv) (inv : Inv w) (accepts : Accepts Inv data) :
    (writeLockFile data).Ensures perform w fun x w' => Inv w' ∧ (x = .ok () → w'.host.lock = .json (.obj data)) := by
  rw [writeLockFile]
  refine preserves_then (checked_preserves (preserves_op closed (by decide))) inv (fun _ w' inv' => ?_)
    fun _ w' inv' => ⟨inv', by simp⟩
  rw [ensures_checked]
  intro fate r w'' performed
  obtain ⟨_, done, noted⟩ := perform_some performed
  obtain ⟨took, outcome, changed⟩ := Host.perform_outcome.mp done
  rcases Host.attempted_cases (by simpa [Host.outcome] using outcome) with ⟨rfl, rfl⟩ | ⟨e, rfl, rfl⟩
  · have lock : w''.host.lock = .json (.obj data) := by rw [changed]; rfl
    exact ⟨accepts w' w'' inv' noted lock, fun _ => lock⟩
  · exact ⟨closed w' w'' ⟨noted, Or.inl (congrArg Host.lock changed)⟩ inv', by simp [Except.bind]⟩

/-- An update whose outcome may be written. -/
theorem update_ensures {changes : Obj} (closed : Closed Inv) (inv : Inv w)
    (accepts : ∀ lock : Obj, w.host.lock = .json (.obj lock) → Accepts Inv (lock.update changes)) :
    (updateLockKeys changes).Ensures perform w fun x w' => Inv w' ∧
      (x = .ok () → ∃ lock : Obj, w.host.lock = .json (.obj lock) ∧
        w'.host.lock = .json (.obj (lock.update changes))) := by
  rw [updateLockKeys, ensures_bind]
  refine ensures_readLock ?_
  cases read : lockOf false w.host.lock with
  | error e => exact ⟨inv, by simp⟩
  | ok found =>
    cases found with
    | none => exact ⟨inv, by simp⟩
    | some lock =>
      have there := lockOf_some.mp read
      simp only [afterwards]
      rw [ensures_handle]
      refine ensures_mono (writeLockFile_ensures closed inv (accepts lock there)) fun x w' written => ?_
      cases x with
      | ok _ => exact ⟨written.1, fun _ => ⟨lock, there, written.2 rfl⟩⟩
      | error e =>
        simp only [caught]
        split <;> exact ⟨written.1, by simp⟩

theorem update_preserves {changes : Obj} (closed : Closed Inv)
    (accepts : ∀ w, Inv w → ∀ lock : Obj, w.host.lock = .json (.obj lock) → Accepts Inv (lock.update changes)) :
    (updateLockKeys changes).Preserves perform Inv :=
  fun w inv => ensures_mono (update_ensures closed inv (accepts w inv)) fun _ _ ended => ended.1

/-- `write_lock` writes a lock for a new session. -/
theorem writeLock_ensures {a : LockArgs} (closed : Closed Inv) (inv : Inv w)
    (accepts : ∀ session, session ≠ "" → Accepts Inv (a.data session)) :
    (writeLock a).Ensures perform w fun x w' => Inv w' ∧
      (x = .ok () → ∃ session, w'.host.lock = .json (.obj (a.data session))) := by
  have refused (e : Exc) (w' : Journal) (inv' : Inv w') : caught perform (fun e =>
      if e.isOSError then some (.raise (.stateError s!"Failed to write session lock file: {e.text}") : Py Unit)
      else none)
      (fun x w' => Inv w' ∧ (x = .ok () → ∃ session, w'.host.lock = .json (.obj (a.data session)))) (.error e) w' := by
    simp only [caught]
    split <;> exact ⟨inv', by simp⟩
  rw [writeLock, ensures_handle, ensures_bind]
  intro fate session w₁ performed
  have inv₁ := closed w w₁ (perform_lock performed (by decide)) inv
  have named : session ≠ "" := by
    obtain ⟨able, done, _⟩ := perform_some performed
    obtain ⟨took, outcome, _⟩ := Host.perform_outcome.mp done
    cases fate <;> simp only [Host.outcome, Option.some.injEq, Prod.mk.injEq, reduceCtorEq] at outcome
    obtain ⟨rfl, _⟩ := outcome
    simpa [possible] using able
  simp only [afterwards, ensures_ret]
  rw [ensures_bind]
  refine ensures_mono (writeLockFile_ensures closed inv₁ (accepts session named)) fun x w₂ written => ?_
  cases x with
  | error e => exact refused e w₂ written.1
  | ok _ =>
    have unlinks : (checked (step .unlinkMarker)).Uses (among [.unlinkMarker]) :=
      checked_uses ⟨by simp [kind], fun _ => trivial⟩
    simp only [afterwards]
    refine ensures_mono (untouched_ensures unlinks (by decide) (by decide)) fun x w₃ untouched => ?_
    have inv₃ := untouched_closed closed untouched written.1
    cases x with
    | error e => exact refused e w₃ inv₃
    | ok _ => exact ⟨inv₃, fun _ => ⟨session, untouched.2.trans (written.2 rfl)⟩⟩

/-! ### The watchdog of a session -/

/-- `start_watchdog` asks for the watchdog and, where it became ready, says so. -/
theorem startWatchdog_preserves (closed : Closed Inv)
    (requests : (updateLockKeys [("watchdog_requested", .bool true)]).Preserves perform Inv)
    (activates : ∀ pid,
      (updateLockKeys [("watchdog_active", .bool true), ("watchdog_pid", pid)]).Preserves perform Inv) :
    (startWatchdog py).Preserves perform Inv := by
  have observes : (watchdogObservation py).Preserves perform Inv :=
    preserves_uses closed (watchdogObservation_uses (by decide) (by decide) : Prog.Uses (among [.quiet, .readLock]) _)
      (by decide)
  refine preserves_bind (readLock_preserves closed) fun found => ?_
  split
  · exact preserves_raise _
  split
  · exact preserves_raise _
  refine preserves_bind (preserves_ofExcept _) fun settings => preserves_bind (prepare_preserves closed) fun _ => ?_
  refine preserves_bind requests fun _ => ?_
  split
  · exact preserves_raise _
  refine preserves_bind (external_preserves closed) fun _ => preserves_catch ?_ fun e => preserves_raise _
  refine preserves_bind (external_preserves closed) fun _ => preserves_bind (external_preserves closed) fun _ => ?_
  refine preserves_bind observes fun observed => preserves_bind ?_ fun latched => ?_
  · split
    · exact preserves_uses closed (emergencyLatched_uses (List.mem_singleton_self _)) (by decide)
    · exact preserves_pure _
  · split
    · exact preserves_raise _
    · exact activates _

theorem supervise_preserves {lock : Obj} {watchdog : Bool} (closed : Closed Inv)
    (starts : watchdog = true → (startWatchdog py).Preserves perform Inv) :
    (supervise py lock watchdog).Preserves perform Inv := by
  have contains {cause : Diagnostic} {repair : Bool} :
      (requestEmergency py lock cause repair false).Preserves perform Inv :=
    preserves_uses closed requestEmergency_uses (by decide)
  refine preserves_bind ?_ fun failed => ?_
  · unfold requireWatchdog
    split
    case isFalse => exact preserves_pure _
    case isTrue required =>
      refine preserves_catch (preserves_bind (starts required) fun _ => preserves_pure _) fun e => ?_
      exact preserves_bind contains fun _ => preserves_pure _
  refine preserves_bind (preserves_uses closed verifyUnless_uses (by decide)) fun result =>
    preserves_catch ?_ fun _ => preserves_pure _
  refine preserves_bind (preserves_uses closed (emergencyLatched_uses (List.mem_singleton_self _)) (by decide))
    fun latched => ?_
  split
  · exact preserves_bind contains fun _ => preserves_pure _
  · exact preserves_pure _

/-! ### A start -/

/-- Validated settings that enable no watchdog beside an external daemon. -/
structure Chosen (py : Interpreter) (a : StartArgs) (selected : Settings) : Prop where
  valid : ∃ settings : Settings, settings.validate py = .ok selected
  allowed : (a.externalDaemon && selected.watchdog.enabled.truthy) = false

/-- The lock that a start writes. -/
def startData (a : StartArgs) (selected : Settings) (backup : Json) (snapshot : Obj) (session : String) : Obj :=
  LockArgs.data { a.lock with
    dnsBackup := backup
    externalDaemon := a.externalDaemon
    watchdogRequested := selected.watchdog.enabled.truthy
    settings := .obj snapshot } session

/-- The lock of the start is in place. -/
def Begun (py : Interpreter) (a : StartArgs) (selected : Settings) (w : Journal) : Prop := ∃ backup snapshot session,
  selected.snapshot py = .ok snapshot ∧ w.host.lock = .json (.obj (startData a selected backup snapshot session))

/-- A start goes on with settings that were chosen. -/
theorem validateStart_ensures {a : StartArgs} (closed : Closed Inv) (inv : Inv w) :
    (validateStart py a).Ensures perform w
    fun x w' => Inv w' ∧ ∀ selected, x = .ok selected → Chosen py a selected := by
  have fails (e : Exc) (w' : Journal) (inv : Inv w') :
      Inv w' ∧ ∀ selected, (.error e : Except Exc Settings) = .ok selected → Chosen py a selected := ⟨inv, by simp⟩
  have outside {what : String} : (checked (step (.external what))).Preserves perform Inv := external_preserves closed
  refine preserves_then outside inv (fun _ w inv => preserves_then outside inv (fun _ w inv => ?_) fails) fails
  rw [ensures_bind, orExit, ensures_handle, ensures_ofExcept]
  cases chosen : a.config.bind fun s => s.select py a.watchdog a.notifications with
  | error e =>
    simp only [caught]
    split <;> exact fails _ w inv
  | ok selected =>
    obtain ⟨configured, _, valid⟩ := bind_ok chosen
    refine preserves_then outside inv (fun _ w inv => ?_) fails
    cases conflict : a.externalDaemon && selected.watchdog.enabled.truthy with
    | true => exact fails _ w inv
    | false =>
      refine preserves_then (preserves_pure ()) inv (fun _ w inv => ?_) fails
      refine preserves_then (onlyIf_preserves outside) inv (fun _ w inv => ?_) fails
      refine preserves_then outside inv (fun _ w inv => preserves_then outside inv (fun _ w inv => ?_) fails) fails
      refine ⟨inv, ?_⟩
      rintro _ ⟨⟩
      exact ⟨⟨_, valid⟩, conflict⟩

theorem setUp_ensures {a : StartArgs} {selected : Settings} (closed : Closed Inv) (inv : Inv w)
    (accepts : ∀ backup snapshot session, selected.snapshot py = .ok snapshot → session ≠ "" →
      Accepts Inv (startData a selected backup snapshot session)) :
    (setUp py a selected).Ensures perform w fun x w' => Inv w' ∧ (x = .ok () → Begun py a selected w') := by
  have fails (e : Exc) (w' : Journal) (inv : Inv w') :
      Inv w' ∧ ((.error e : Except Exc Unit) = .ok () → Begun py a selected w') := ⟨inv, by simp⟩
  refine preserves_then (network_preserves closed provideTor_uses) inv (fun _ w inv => ?_) fails
  refine preserves_then (network_preserves closed (orRollBack_uses (uses_pure ()) applyRules_uses)) inv
    (fun _ w inv => ?_) fails
  refine preserves_then (external_preserves closed) inv (fun _ w inv => ?_) fails
  refine preserves_then (network_preserves closed (orRollBack_uses (uses_pure ()) applyDns_uses)) inv
    (fun backup w inv => ?_) fails
  have rolls (e : Exc) (w' : Journal) (inv' : Inv w') : caught perform (fun e => if e.isStateError then some (do
      rollBack a.externalDaemon
      restoreDns backup
      .raise (.exit 1) : Py Unit) else none)
      (fun x w' => Inv w' ∧ (x = .ok () → Begun py a selected w')) (.error e) w' := by
    simp only [caught]
    split
    · refine preserves_then (network_preserves closed rollBack_uses) inv' (fun _ w inv => ?_) fails
      exact preserves_then (network_preserves closed (network_uses restoreDns_uses)) inv
        (fun _ w inv => fails _ w inv) fails
    · exact fails e w' inv'
  rw [orRollBack, ensures_handle]
  refine preserves_then (external_preserves closed) inv (fun _ w inv => ?_) rolls
  rw [ensures_bind, ensures_ofExcept]
  cases copied : selected.snapshot py with
  | error e => exact rolls e w inv
  | ok snapshot =>
    refine ensures_mono (writeLock_ensures closed inv fun session named =>
      accepts backup snapshot session copied named) fun x w' written => ?_
    cases x with
    | error e => exact rolls e w' written.1
    | ok _ =>
      obtain ⟨session, holds⟩ := written.2 rfl
      exact ⟨written.1, fun _ => ⟨backup, snapshot, session, copied, holds⟩⟩

/-- A start that succeeds is one whose lock was written; from there on `After` is preserved. -/
theorem startCommand_ensures {a : StartArgs} {After : Settings → Journal → Prop} (closed : Closed Inv) (inv : Inv w)
    (accepts : ∀ selected backup snapshot session, Chosen py a selected →
      selected.snapshot py = .ok snapshot → session ≠ "" →
      Accepts Inv (startData a selected backup snapshot session))
    (closes : ∀ selected, Closed (After selected))
    (installs : ∀ w selected backup snapshot session,
      w.host.lock = .json (.obj (startData a selected backup snapshot session)) → After selected w)
    (starts : ∀ selected, selected.watchdog.enabled.truthy = true →
      (startWatchdog py).Preserves perform fun w => Inv w ∧ After selected w) :
    (startCommand py a).Ensures perform w fun x w' =>
      Inv w' ∧ (x = .ok () → ∃ selected, Chosen py a selected ∧ After selected w') := by
  have fails (e : Exc) (w' : Journal) (inv : Inv w') :
      Inv w' ∧ ((.error e : Except Exc Unit) = .ok () → ∃ selected, Chosen py a selected ∧ After selected w') :=
        ⟨inv, by simp⟩
  rw [startCommand, ensures_bind]
  refine ensures_mono (validateStart_ensures closed inv) fun x w ended => ?_
  obtain ⟨inv, chosen⟩ := ended
  cases x with
  | error e => exact fails e w inv
  | ok selected =>
    have chosen := chosen selected rfl
    have prepares : (orExit 1 (fun e => e.isOSError || e.isStateError) (do
        checked (step .ensureRuntimeDir)
        Records.prepare)).Preserves perform Inv :=
      preserves_catch (preserves_bind (checked_preserves (preserves_op closed (by decide))) fun _ =>
        prepare_preserves closed)
        fun _ => preserves_raise _
    refine preserves_then (preserves_op closed (by decide)) inv (fun _ w inv => ?_) fails
    refine preserves_then (preserves_op closed (by simp [kind])) inv (fun _ w inv => ?_) fails
    refine preserves_then (preserves_uses closed checkSessionState_uses (by decide)) inv (fun _ w inv => ?_) fails
    refine preserves_then (external_preserves closed) inv
      (fun _ w inv => preserves_then prepares inv (fun _ w inv => ?_) fails) fails
    rw [ensures_bind]
    refine ensures_mono (setUp_ensures closed inv fun backup snapshot session =>
      accepts selected backup snapshot session chosen) fun x w ended => ?_
    obtain ⟨inv, written⟩ := ended
    cases x with
    | error e => exact fails e w inv
    | ok _ =>
      obtain ⟨backup, snapshot, session, _, holds⟩ := written rfl
      have both : Closed fun w => Inv w ∧ After selected w :=
        fun w w' dropped held => ⟨closed w w' dropped held.1, closes selected w w' dropped held.2⟩
      refine ensures_mono ((?_ : Prog.Preserves perform (fun w => Inv w ∧ After selected w) _) w
        ⟨inv, installs w selected backup snapshot session holds⟩) fun x w' held =>
        ⟨held.1, fun _ => ⟨selected, chosen, held.2⟩⟩
      refine preserves_bind (readLock_preserves both) fun found => ?_
      split
      · exact preserves_raise _
      refine preserves_bind (onlyIf_preserves (logged_preserves (external_preserves both))) fun _ => ?_
      refine preserves_bind (supervise_preserves both (starts selected)) fun result => ?_
      exact preserves_bind (preserves_uses both announce_uses (by decide)) fun result =>
        onlyIf_preserves (preserves_raise _)

end

end

end Ttp.LockJournal
