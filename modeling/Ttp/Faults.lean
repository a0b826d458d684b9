import Ttp.Lifecycle

/-!
Runs in which an operation can also fail after it took effect: the cleanup after
the replacement of a file raises, or the deadline of a command passes that the
kernel has already carried out. A run keeps a log of how its operations turned
out, so that what a program leaves behind can be told from that log.
-/
namespace Ttp.Faults
open Ttp.Python Ttp.Program Ttp.Machine Ttp.State Ttp.Firewall Ttp.Lifecycle

/-- How an operation turns out: as on the host, or it takes effect and raises. -/
inductive Fault where
  | fate (fate : Fate)
  | late (e : Exc)

structure Event where
  op : Op
  fault : Fault

/-- The operation raised. -/
def Event.failed (event : Event) : Bool :=
  match event.fault with
  | .fate (.fails _) => true
  | .late _ => true
  | _ => false

/-- The operation took effect. -/
def Event.took (event : Event) : Bool :=
  match event.fault with
  | .fate .ok => true
  | .late _ => true
  | _ => false

/-- The host, and the log of the run. -/
structure Run where
  host : Host
  log : List Event

def Run.start (h : Host) : Run := ⟨h, []⟩

/-- What an operation that took effect raises with. -/
def lateResult : (o : Op) → Exc → Option o.Res
  | .replaceLock _, e => some (.error e)
  | .replaceMarker _, e => some (.error e)
  | .writeRecord .., e => some (.error e)
  | .nftTransaction .., e => some (.error e)
  | .nftInsert .., e => some (.error e)
  | .nftFlush, e => some (.error e)
  | .nftDelete, e => some (.error e)
  | .startTor, e => some (.error e)
  | .stopTor, e => some (.error e)
  | .writeDropIn, e => some (.error e)
  | .removeDropIn, e => some (.error e)
  | .mountOverlay, e => some (.error e)
  | .unmountOverlay, e => some (.error e)
  | _, _ => none

/-- An operation of process `i`. -/
def perform (i : Nat) (w : Run) (o : Op) (fault : Fault) : Option (o.Res × Run) :=
  match fault with
  | .fate fate => (w.host.perform i o fate).map fun done => (done.1, ⟨done.2, w.log ++ [⟨o, fault⟩]⟩)
  | .late e => (lateResult o e).map fun r => (r, ⟨w.host.effect i o, w.log ++ [⟨o, fault⟩]⟩)

theorem forall_fault {P : Fault → Prop} : (∀ fault, P fault) ↔ (∀ fate, P (.fate fate)) ∧ ∀ e, P (.late e) :=
  ⟨fun all => ⟨fun _ => all _, fun _ => all _⟩, fun each fault => by
    cases fault with
    | fate fate => exact each.1 fate
    | late e => exact each.2 e⟩

section
variable {i : Nat} {w : Run}

/-- The run after an operation. -/
def Run.next (w : Run) (i : Nat) (o : Op) (took : Bool) (fault : Fault) : Run :=
  ⟨if took then w.host.effect i o else w.host, w.log ++ [⟨o, fault⟩]⟩

theorem ensures_outcomes {o : Op} {Q : Except Exc o.Res → Run → Prop} :
    (step o).Ensures (perform i) w Q ↔
      (∀ fate r took, w.host.outcome o fate = some (r, took) → Q (.ok r) (w.next i o took (.fate fate))) ∧
        ∀ e r, lateResult o e = some r → Q (.ok r) (w.next i o true (.late e)) := by
  simp only [step, ensures_op, forall_fault, perform, Host.perform, Option.map_map,
    Option.map_eq_some_iff, Prod.mk.injEq,
    Function.comp_apply, Prod.exists]
  constructor
  · rintro ⟨fates, lates⟩
    exact ⟨fun fate r took outcome => fates fate r _ ⟨r, took, outcome, rfl, rfl⟩, fun e r late =>
      lates e r _ ⟨r, late, rfl, rfl⟩⟩
  · rintro ⟨fates, lates⟩
    refine ⟨fun fate r w' => ?_, fun e r w' => ?_⟩
    · rintro ⟨r', took, outcome, rfl, rfl⟩
      exact fates fate r' took outcome
    · rintro ⟨r', late, rfl, rfl⟩
      exact lates e r' late

/-- An operation is logged, and takes effect or not. -/
theorem perform_next {o : Op} {fault : Fault} {r : o.Res} {w' : Run} (performed : perform i w o fault = some (r, w')) :
    ∃ took, w' = w.next i o took fault ∧ ∀ fate, fault = .fate fate → w.host.outcome o fate = some (r, took) := by
  cases fault with
  | fate fate =>
    obtain ⟨⟨r', h'⟩, ran, same⟩ := Option.map_eq_some_iff.mp performed
    obtain ⟨took, outcome, rfl⟩ := Host.perform_outcome.mp ran
    obtain ⟨rfl, rfl⟩ := Prod.mk.inj same
    refine ⟨took, rfl, fun fate' same => ?_⟩
    obtain rfl : fate = fate' := by simpa using same
    exact outcome
  | late e =>
    obtain ⟨r', _, same⟩ := Option.map_eq_some_iff.mp performed
    obtain ⟨rfl, rfl⟩ := Prod.mk.inj same
    exact ⟨true, rfl, by simp⟩

/-! ### Logs -/

/-- A program adds its operations to the log. -/
theorem ensures_grown {α : Type} {p : Py α} {ops : Op → Prop} (used : p.Uses ops) :
    p.Ensures (perform i) w fun _ w' => ∃ more, w'.log = w.log ++ more ∧ ∀ event ∈ more, ops event.op := by
  refine ensures_related (R := fun w w' : Run => ∃ more, w'.log = w.log ++ more ∧ ∀ event ∈ more, ops event.op) used
    (fun w => ⟨[], by simp⟩) (fun w o fault r w' inside performed => ?_) ?_
  · obtain ⟨took, rfl, _⟩ := perform_next performed
    exact ⟨[⟨o, fault⟩], rfl, by simpa using inside⟩
  · rintro u v w ⟨first, log, inside⟩ ⟨second, log', inside'⟩
    refine ⟨first ++ second, by rw [log', log, List.append_assoc], fun event member => ?_⟩
    exact (List.mem_append.mp member).elim (inside event) (inside' event)

theorem perform_shift {h : Host} {log earlier : List Event} {o : Op} {fault : Fault} {r : o.Res} {w' : Run}
    (performed : perform i ⟨h, earlier ++ log⟩ o fault = some (r, w')) :
    perform i ⟨h, log⟩ o fault = some (r, ⟨w'.host, log ++ [⟨o, fault⟩]⟩) ∧ w'.log = earlier ++
      (log ++ [⟨o, fault⟩]) := by
  cases fault with
  | fate fate =>
    obtain ⟨done, ran, same⟩ := Option.map_eq_some_iff.mp performed
    obtain ⟨rfl, rfl⟩ := Prod.mk.inj same
    exact ⟨Option.map_eq_some_iff.mpr ⟨done, ran, rfl⟩, List.append_assoc ..⟩
  | late e =>
    obtain ⟨r', ran, same⟩ := Option.map_eq_some_iff.mp performed
    obtain ⟨rfl, rfl⟩ := Prod.mk.inj same
    exact ⟨Option.map_eq_some_iff.mpr ⟨r', ran, rfl⟩, List.append_assoc ..⟩

/-- What went before a program has no part in how it runs. -/
theorem ensures_shift {α : Type} {p : Py α} {h : Host} {log earlier : List Event} {Q : Except Exc α → Run → Prop}
    (alone : p.Ensures (perform i) ⟨h, log⟩ Q) :
    p.Ensures (perform i) ⟨h, earlier ++ log⟩ fun x w' => ∃ more, w'.log = earlier ++ more ∧ Q x ⟨w'.host, more⟩ := by
  induction p generalizing h log with
  | ret a => exact ⟨log, rfl, alone⟩
  | raise e => exact ⟨log, rfl, alone⟩
  | call o k ih =>
    intro fault r w' performed
    obtain ⟨ran, shifted⟩ := perform_shift performed
    have rest := ih r (alone fault r _ ran)
    rw [← shifted] at rest
    exact rest

/-! ### Single operations -/

section
variable {Q : Except Exc Unit → Run → Prop}

/-- What has to hold after an operation that succeeds, fails, or fails after it took effect. -/
def Attempted (i : Nat) (w : Run) (o : Op) (Q : Except Exc Unit → Run → Prop) : Prop :=
  Q (.ok ()) (w.next i o true (.fate .ok)) ∧ (∀ e, Q (.error e) (w.next i o false (.fate (.fails e)))) ∧
    ∀ e, Q (.error e) (w.next i o true (.late e))

/-- What has to hold after an operation that succeeds or fails. -/
def Tried (i : Nat) (w : Run) (o : Op) (Q : Except Exc Unit → Run → Prop) : Prop :=
  Q (.ok ()) (w.next i o true (.fate .ok)) ∧ ∀ e, Q (.error e) (w.next i o false (.fate (.fails e)))

attribute [local simp] Host.outcome Host.attempted lateResult Attempted Tried Except.bind

theorem ensures_replaceLock {data : Obj} :
    (checked (step (.replaceLock data))).Ensures (perform i) w Q ↔ Attempted i w (.replaceLock data) Q := by
  rw [ensures_checked, ensures_outcomes, forall_fate]
  simp [and_assoc]

theorem ensures_replaceMarker {session : Json} :
    (checked (step (.replaceMarker session))).Ensures (perform i) w Q ↔ Attempted i w (.replaceMarker session) Q := by
  rw [ensures_checked, ensures_outcomes, forall_fate]
  simp [and_assoc]

theorem ensures_nftTransaction {table : Nft.Table} {timeout : ℚ} :
    (checked (step (.nftTransaction table timeout))).Ensures (perform i) w Q ↔
      Attempted i w (.nftTransaction table timeout) Q := by
  rw [ensures_checked, ensures_outcomes, forall_fate]
  simp [and_assoc]

theorem ensures_writeDropIn : (checked (step .writeDropIn)).Ensures (perform i) w Q ↔ Attempted i w .writeDropIn Q := by
  rw [ensures_checked, ensures_outcomes, forall_fate]
  simp [and_assoc]

theorem ensures_removeDropIn : (checked (step .removeDropIn)).Ensures (perform i) w Q ↔
    Attempted i w .removeDropIn Q := by
  rw [ensures_checked, ensures_outcomes, forall_fate]
  simp [and_assoc]

theorem ensures_mountOverlay : (checked (step .mountOverlay)).Ensures (perform i) w Q ↔
    Attempted i w .mountOverlay Q := by
  rw [ensures_checked, ensures_outcomes, forall_fate]
  simp [and_assoc]

theorem ensures_unmountOverlay : (checked (step .unmountOverlay)).Ensures (perform i) w Q ↔
    Attempted i w .unmountOverlay Q := by
  rw [ensures_checked, ensures_outcomes, forall_fate]
  simp [and_assoc]

theorem ensures_unlinkMarker : (checked (step .unlinkMarker)).Ensures (perform i) w Q ↔ Tried i w .unlinkMarker Q := by
  rw [ensures_checked, ensures_outcomes, forall_fate]
  simp

theorem ensures_runtimeDir : (checked (step .ensureRuntimeDir)).Ensures (perform i) w Q ↔
    Tried i w .ensureRuntimeDir Q := by
  rw [ensures_checked, ensures_outcomes, forall_fate]
  simp

theorem ensures_prepare : Records.prepare.Ensures (perform i) w Q ↔ Tried i w .prepareStore Q := by
  rw [Records.prepare, ensures_checked, ensures_outcomes, forall_fate]
  simp

theorem ensures_external {what : String} :
    (checked (step (.external what))).Ensures (perform i) w Q ↔ Tried i w (.external what) Q := by
  rw [ensures_checked, ensures_outcomes, forall_fate]
  simp

theorem ensures_unlinkLock : deleteLock.Ensures (perform i) w Q ↔ Tried i w .unlinkLock Q := by
  rw [deleteLock, ensures_checked, ensures_outcomes, forall_fate]
  simp

theorem ensures_readLock {strict : Bool} {Q : Except Exc (Option Obj) → Run → Prop} :
    (readLock strict).Ensures (perform i) w Q ↔
      Q (lockOf strict w.host.lock) (w.next i .readLock true (.fate .ok)) := by
  rw [readLock, ensures_bind, ensures_outcomes, forall_fate]
  simp [afterwards, Run.next, Host.effect]

/-- A transition fails before its body, or the body runs and the lock is released after it. -/
theorem ensures_transition {α : Type} {timeout : ℚ} {body : Py α} {Q : Except Exc α → Run → Prop}
    (positive : 0 < timeout) :
    (Records.transition timeout body).Ensures (perform i) w Q ↔
      (∀ e, Q (.error e) (w.next i (.acquire timeout) false (.fate (.fails e)))) ∧
        (w.host.transition = none → body.Ensures (perform i) (w.next i (.acquire timeout) true (.fate .ok))
          fun x w' => Q x (w'.next i .release true (.fate .ok))) := by
  have released (x : Except Exc α) (w : Run) : afterBody (perform i) (step .release) Q x w ↔
      Q x (w.next i .release true (.fate .ok)) := by
    rw [afterBody, ensures_outcomes, forall_fate]
    simp
  have body (w : Run) : (body.always (step .release)).Ensures (perform i) w Q ↔
      body.Ensures (perform i) w fun x w' => Q x (w'.next i .release true (.fate .ok)) := by
    rw [ensures_always]
    exact ⟨fun first => ensures_mono first fun x w' => (released x w').mp,
      fun first => ensures_mono first fun x w' => (released x w').mpr⟩
  rw [Records.transition, if_neg (not_le.mpr positive), ensures_bind, ensures_checked, ensures_outcomes, forall_fate]
  by_cases free : w.host.transition = none
  · simp only [Host.outcome, free, if_true, lateResult]
    simp [afterwards, body, and_comm]
  · simp [Host.outcome, free, lateResult, afterwards]

/-- The handler of an update makes one exception of another. -/
theorem ensures_updateLockKeys {changes current : Obj} (there : w.host.lock = .json (.obj current))
    (done : Q (.ok ()) (((w.next i .readLock true (.fate .ok)).next i .ensureRuntimeDir true (.fate .ok)).next i
      (.replaceLock (current.update changes)) true (.fate .ok)))
    (unmade : ∀ e e', Q (.error e')
      ((w.next i .readLock true (.fate .ok)).next i .ensureRuntimeDir false (.fate (.fails e))))
    (unwritten : ∀ e e', Q (.error e')
      (((w.next i .readLock true (.fate .ok)).next i .ensureRuntimeDir true (.fate .ok)).next i
      (.replaceLock (current.update changes)) false (.fate (.fails e))))
    (late : ∀ e e', Q (.error e')
      (((w.next i .readLock true (.fate .ok)).next i .ensureRuntimeDir true (.fate .ok)).next i
      (.replaceLock (current.update changes)) true (.late e))) :
    (updateLockKeys changes).Ensures (perform i) w Q := by
  have mapped (w' : Run) (e : Exc) (any : ∀ e', Q (.error e') w') : caught (perform i)
      (fun e => if e.isOSError then some (.raise (.stateError s!"Failed to update session lock file: {e.text}"))
        else none)
      Q (.error e) w' := by
    by_cases io : e.isOSError = true <;> simp [caught, io, any]
  rw [updateLockKeys, ensures_bind, ensures_readLock, lockOf_some.mpr there, afterwards, ensures_handle, writeLockFile,
    ensures_bind, ensures_runtimeDir]
  refine ⟨?_, fun e => mapped _ _ (unmade e)⟩
  rw [afterwards, ensures_replaceLock]
  exact ⟨done, fun e => mapped _ _ (unwritten e), fun e => mapped _ _ (late e)⟩

end

end

end Ttp.Faults
