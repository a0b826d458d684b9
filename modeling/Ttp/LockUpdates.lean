import Ttp.Footprint

/-!
The updates of the session lock by several processes. `update_lock_keys` reads
the file and replaces it in two steps, so an update can be based on a file that
another process has replaced or removed meanwhile. In the runs where none is
(`Fresh`), every update stays until another one of the same key, `stopping`
stays, and a lock that was deleted stays away (`updates_kept`).
-/
namespace Ttp.LockUpdates
open Ttp.Python Ttp.Program Ttp.Machine Ttp.State Ttp.Records Ttp.SessionSafety Ttp.Watchdog Ttp.Lifecycle Ttp.Footprint
open Ttp.SessionSettings (Settings)

/-! ### The system -/

inductive Call where
  | startWatchdog
  | watchdogStart (config : Except Exc Settings)
  | stopWatchdog
  | markStopping (lock : Obj)
  | stop

def program (py : Interpreter) : Call → Py Unit
  | .startWatchdog => startWatchdog py
  | .watchdogStart config => watchdogStart py config
  | .stopWatchdog => stopWatchdog
  | .markStopping lock => markStopping lock
  | .stop => doStop py

/-- The lock that a file holds. -/
def object : Loaded → Option Obj
  | .json (.obj lock) => some lock
  | _ => none

theorem object_some {file : Loaded} {lock : Obj} : object file = some lock ↔ file = .json (.obj lock) := by
  constructor
  · intro held
    unfold object at held
    split at held
    · rw [Option.some.inj held]
    · simp at held
  · rintro rfl
    rfl

/-- The host with what happened to the lock on it. -/
structure Ledger where
  host : Host
  /-- What each process read last. -/
  seen : Nat → Option Obj
  /-- The updates so far: what each was based on and what it wrote. -/
  updates : List (Obj × Obj)
  /-- `stopping` was published. -/
  stopping : Bool
  deleted : Bool

def Ledger.start (h : Host) : Ledger := ⟨h, fun _ => none, [], false, false⟩

def Ledger.note (i : Nat) (w : Ledger) : (o : Op) → o.Res → Ledger
  | .readLock, file => { w with seen := Function.update w.seen i (object file) }
  | .replaceLock data, .ok _ =>
    { w with
      updates := w.updates ++ [((w.seen i).getD [], data)]
      stopping := w.stopping || (Obj.get data "phase").isStr "stopping" }
  | .unlinkLock, .ok _ => { w with deleted := true }
  | _, _ => w

def system (py : Interpreter) : System Op Op.Res Exc Ledger Call Fate Empty where
  program := program py
  perform i _ w o fate := (w.host.perform i o fate).map fun done => (done.1, { w.note i o done.1 with host := done.2 })
  begins i _ w := some { w with seen := Function.update w.seen i none }
  ends i _ w := { w with host := w.host.effect i .release }
  environ e _ := e.elim
  diverts _ _ _ := none

/-- An update is written over the file that it is based on. -/
def Fresh : Condition Op Op.Res Ledger Call := fun w i _ o _ => kind o = .replaceLock → w.seen i = object w.host.lock

instance (w : Ledger) (i : Nat) (c : Call) (o : Op) (r : o.Res) : Decidable (Fresh w i c o r) :=
  inferInstanceAs (Decidable (kind o = .replaceLock → w.seen i = object w.host.lock))

/-- No update is lost: an update of a key stays until another one of that key, `stopping` stays,
    and the lock stays away once it was deleted. -/
structure Kept (w : Ledger) : Prop where
  updates : ∀ lock, w.host.lock = .json (.obj lock) → ∀ before update after key,
    w.updates = before ++ update :: after → update.2.find? key ≠ update.1.find? key →
      (∀ later ∈ after, later.2.find? key = later.1.find? key) → Obj.find? lock key = update.2.find? key
  stopping : w.stopping = true → ∀ lock, w.host.lock = .json (.obj lock) →
    (Obj.get lock "phase").isStr "stopping" = true
  deleted : w.deleted = true → w.host.lock = .missing

/-! ### The protocol of an update -/

/-- An update does not take `stopping` back. -/
def keepsStopping (seen data : Obj) : Bool :=
  !(seen.get "phase").isStr "stopping" || (data.get "phase").isStr "stopping"

/-- The local state of a process is what it read last; it only writes an update of that. -/
def next (_ : Call) : Option Obj → (o : Op) → o.Res → Option (Option Obj)
  | _, .readLock, file => some (object file)
  | some seen, .replaceLock data, _ => if keepsStopping seen data then some (some seen) else none
  | none, .replaceLock _, _ => none
  | l, _, _ => some l

section
variable {py : Interpreter} {c : Call}

theorem next_allowed {l : Option Obj} {o : Op} {r : o.Res} (notReplaced : kind o ≠ .replaceLock) :
    ∃ l', next c l o r = some l' := by
  cases o with
  | replaceLock => exact absurd rfl notReplaced
  | _ => cases l <;> exact ⟨_, rfl⟩

/-- What does not replace the lock keeps to the protocol. -/
theorem obeys_quiet {α : Type} {p : Py α} {kinds : List Kind} (used : p.Uses (among kinds))
    (notReplaced : Kind.replaceLock ∉ kinds) : p.Obeys (next c) :=
  obeys_of_uses used fun _ _ _ inside => next_allowed fun replaced => notReplaced (replaced ▸ inside)

/-- A lock that was read is what the process knows. -/
theorem readLock_follows {strict : Bool} {l : Option Obj} : (readLock strict).Follows (next c) l
    fun x l' => ∀ lock, x = .ok (some lock) → l' = some lock := by
  refine follows_bind (Q := fun x l' => ∀ file, x = .ok file → l' = object file) ?_ (fun file l' known => ?_) (by simp)
  · intro file
    refine ⟨object file, by cases l <;> rfl, ?_⟩
    rintro _ ⟨⟩
    rfl
  · simp only [follows_ofExcept]
    intro lock read
    rw [known file rfl, lockOf_some.mp read]
    rfl

theorem updateLockKeys_obeys {changes : Obj} (keeps : ∀ seen : Obj, keepsStopping seen (seen.update changes) = true) :
    (updateLockKeys changes).Obeys (next c) := by
  intro l
  refine follows_bind readLock_follows (fun lock l' known => ?_) fun _ _ _ => trivial
  cases lock with
  | none => trivial
  | some seen =>
    obtain rfl := known seen rfl
    have written : (writeLockFile (seen.update changes)).Follows (next c) (some seen) fun _ _ => True := by
      refine follows_bind (Q := fun _ l' => l' = some seen) (checked_follows fun _ => ⟨_, rfl, rfl⟩) ?_
        fun _ _ _ => trivial
      rintro _ _ rfl
      exact checked_follows fun _ => ⟨some seen, by simp [next, keeps], trivial⟩
    refine follows_handle written (fun _ _ _ => trivial) fun e l' _ => ?_
    by_cases os : e.isOSError = true <;> simp [os]

theorem op_obeys {o : Op} (notReplaced : kind o ≠ .replaceLock) : (step o).Obeys (next c) :=
  fun _ _ => (next_allowed notReplaced).imp fun _ allowed => ⟨allowed, trivial⟩

theorem checked_obeys {α : Type} {p : Py (Except Exc α)} (obeys : p.Obeys (next c)) : (checked p).Obeys (next c) :=
  obeys_bind obeys obeys_ofExcept

theorem external_obeys {what : String} : (checked (step (.external what))).Obeys (next c) :=
  obeys_quiet (external_uses (List.mem_singleton_self Kind.quiet)) (by decide)

theorem readLock_obeys {strict : Bool} : (readLock strict).Obeys (next c) :=
  obeys_quiet (readLock_uses (List.mem_singleton_self _)) (by decide)

theorem prepare_obeys : Records.prepare.Obeys (next c) :=
  obeys_quiet (prepare_uses (List.mem_singleton_self _)) (by decide)

/-- Updates of other keys leave the phase alone. -/
theorem keeps_other {changes : Obj} (other : "phase" ∉ changes.keys) (seen : Obj) :
    keepsStopping seen (seen.update changes) = true := by
  simp [keepsStopping, get_update changes other]

theorem startWatchdog_obeys : (startWatchdog py).Obeys (next c) := by
  have observes : (watchdogObservation py).Obeys (next c) :=
    obeys_quiet (watchdogObservation_uses (by decide) (by decide) : Prog.Uses (among [.quiet, .readLock]) _) (by decide)
  refine obeys_bind readLock_obeys fun lock => ?_
  split
  · exact obeys_raise _
  split
  · exact obeys_raise _
  refine obeys_bind (obeys_ofExcept _) fun settings => obeys_bind prepare_obeys fun _ => ?_
  refine obeys_bind (updateLockKeys_obeys (keeps_other (by decide))) fun _ => ?_
  split
  · exact obeys_raise _
  refine obeys_bind external_obeys fun _ => obeys_catch ?_ fun e => obeys_raise _
  refine obeys_bind external_obeys fun _ => obeys_bind external_obeys fun _ => obeys_bind observes fun observed => ?_
  refine obeys_bind ?_ fun latched => ?_
  · split
    · exact obeys_quiet (emergencyLatched_uses (List.mem_singleton_self _)) (by decide)
    · exact obeys_pure _
  · split
    · exact obeys_raise _
    · exact updateLockKeys_obeys (keeps_other (by simp [Obj.keys]))

theorem stopWatchdog_obeys : stopWatchdog.Obeys (next c) := by
  refine obeys_bind external_obeys fun _ => obeys_bind external_obeys fun _ => obeys_bind external_obeys fun _ => ?_
  exact obeys_catch (updateLockKeys_obeys (keeps_other (by decide))) fun _ => obeys_pure _

theorem watchdogStart_obeys {config : Except Exc Settings} : (watchdogStart py config).Obeys (next c) := by
  refine obeys_bind external_obeys fun _ => obeys_bind readLock_obeys fun lock => ?_
  split
  · exact obeys_raise _
  refine obeys_bind (obeys_catch ?_ fun _ => obeys_raise _) fun _ => obeys_catch ?_ fun _ => ?_
  · refine obeys_bind (obeys_ofExcept _) fun settings => obeys_bind (obeys_ofExcept _) fun selected => ?_
    refine obeys_bind ?_ fun session => obeys_bind prepare_obeys fun _ =>
      obeys_bind (obeys_ofExcept _) fun snapshot => ?_
    · split
      · exact obeys_pure _
      · exact obeys_bind (op_obeys (by decide)) fun _ => obeys_pure _
    · exact updateLockKeys_obeys (keeps_other (by simp [Obj.keys]))
  · exact obeys_bind external_obeys fun _ => startWatchdog_obeys
  · refine obeys_bind readLock_obeys fun current =>
      obeys_bind (obeys_quiet requestEmergency_uses (by decide)) fun _ => ?_
    exact obeys_raise _

theorem transition_obeys {α : Type} {timeout : ℚ} {body : Py α} (used : body.Obeys (next c)) :
    (transition timeout body).Obeys (next c) := by
  unfold transition
  split
  · exact obeys_raise _
  · exact obeys_bind (checked_obeys (op_obeys (by simp [kind]))) fun _ => obeys_always used (op_obeys (by decide))

theorem markStopping_obeys {lock : Obj} : (markStopping lock).Obeys (next c) := by
  refine obeys_bind prepare_obeys fun _ => transition_obeys (obeys_bind readLock_obeys fun current => ?_)
  split
  · exact obeys_raise _
  split
  · refine obeys_bind (updateLockKeys_obeys fun seen => ?_) fun _ => ?_
    · simp [keepsStopping, Obj.update, Json.isStr]
    · split
      · exact obeys_raise _
      · exact obeys_bind (checked_obeys (op_obeys (by decide))) fun _ => checked_obeys (op_obeys (by simp [kind]))
  · exact obeys_raise _

theorem onlyIf_obeys {b : Bool} {p : Py Unit} (obeys : p.Obeys (next c)) : (onlyIf b p).Obeys (next c) := by
  unfold onlyIf
  split
  · exact obeys
  · exact obeys_pure _

theorem doStop_obeys : (doStop py).Obeys (next c) := by
  refine obeys_bind readLock_obeys fun lock => ?_
  split
  · exact obeys_pure _
  refine obeys_bind (onlyIf_obeys markStopping_obeys) fun _ => ?_
  refine obeys_bind (onlyIf_obeys (obeys_catch stopWatchdog_obeys fun _ => obeys_pure _)) fun _ => ?_
  exact obeys_bind (obeys_quiet tearDown_uses (by decide)) fun _ => external_obeys

theorem program_obeys (call : Call) : (program py call).Obeys (next call) := by
  cases call with
  | startWatchdog => exact startWatchdog_obeys
  | watchdogStart config => exact watchdogStart_obeys
  | stopWatchdog => exact stopWatchdog_obeys
  | markStopping lock => exact markStopping_obeys
  | stop => exact doStop_obeys

end

/-! ### The invariant -/

section
variable {w : Ledger} {h : Host} {i : Nat} {o : Op} {r : o.Res} {c : Call} {l : Option Obj} {data : Obj}

theorem note_other (notRead : kind o ≠ .readLock) (notReplaced : kind o ≠ .replaceLock)
    (notUnlinked : kind o ≠ .unlinkLock) :
    w.note i o r = w := by
  cases o with
  | readLock => exact absurd rfl notRead
  | replaceLock => exact absurd rfl notReplaced
  | unlinkLock => exact absurd rfl notUnlinked
  | _ => rfl

theorem next_other (notRead : kind o ≠ .readLock) (notReplaced : kind o ≠ .replaceLock) : next c l o r = some l := by
  cases o with
  | readLock => exact absurd rfl notRead
  | replaceLock => exact absurd rfl notReplaced
  | _ => cases l <;> rfl

theorem kept_host (kept : Kept w) (same : h.lock = w.host.lock) : Kept { w with host := h } :=
  ⟨fun lock content => kept.updates lock (same ▸ content), fun said lock content =>
    kept.stopping said lock (same ▸ content),
    fun gone => same.trans (kept.deleted gone)⟩

theorem kept_seen (kept : Kept w) (seen : Nat → Option Obj) : Kept { w with seen := seen } :=
  ⟨kept.updates, kept.stopping, kept.deleted⟩

/-- An update that is written over what it is based on keeps all updates before it. -/
theorem kept_update {seen : Obj} (kept : Kept w) (fresh : w.host.lock = .json (.obj seen))
    (keeps : keepsStopping seen data = true) :
    Kept { w with
      host := { w.host with lock := .json (.obj data) }
      updates := w.updates ++ [(seen, data)]
      stopping := w.stopping || (Obj.get data "phase").isStr "stopping" } where
  updates := by
    rintro lock content before update after key split changed untouched
    obtain rfl : data = lock := by simpa using content
    rcases List.eq_nil_or_concat after with rfl | ⟨earlier, last, rfl⟩
    · -- the update is the new one
      obtain ⟨_, rfl⟩ : w.updates = before ∧ (seen, data) = update := by simpa using split
      rfl
    · -- the new one leaves the key alone
      have parts : w.updates ++ [(seen, data)] = (before ++ update :: earlier) ++ [last] := by simpa using split
      obtain ⟨older, newest⟩ := List.append_inj' parts rfl
      obtain rfl : (seen, data) = last := by simpa using newest
      have same : data.find? key = seen.find? key := untouched (seen, data) (by simp)
      rw [same]
      exact kept.updates seen fresh before update earlier key older changed fun later inside =>
        untouched later (by simp [inside])
  stopping := by
    intro said lock content
    obtain rfl : data = lock := by simpa using content
    rcases Bool.or_eq_true_iff.mp said with before | now
    · have stopping := kept.stopping before seen fresh
      simpa [keepsStopping, stopping] using keeps
    · exact now
  deleted := by
    intro gone
    simp [kept.deleted gone] at fresh

theorem kept_unlinked : Kept { w with host := { w.host with lock := .missing }, deleted := true } :=
  ⟨fun lock content => by simp at content, fun _ lock content => by simp at content, fun _ => rfl⟩

/-- What an operation of a process that keeps to the protocol makes of the ledger. -/
theorem kept_op {l' : Option Obj} {fate : Fate} {py : Interpreter} {w' : Ledger} (kept : Kept w) (known : w.seen i = l)
    (performs : (system py).perform i c w o fate = some (r, w')) (fresh : Fresh w i c o r)
    (allowed : next c l o r = some l') :
    Kept w' ∧ w'.seen = Function.update w.seen i l' := by
  obtain ⟨⟨r', h'⟩, performed, same⟩ := Option.map_eq_some_iff.mp performs
  obtain ⟨rfl, rfl⟩ := Prod.mk.inj same
  have other (notRead : kind o ≠ .readLock) (notReplaced : kind o ≠ .replaceLock) (notUnlinked : kind o ≠ .unlinkLock) :
      Kept { w.note i o r' with host := h' } ∧
        ({ w.note i o r' with host := h' } : Ledger).seen = Function.update w.seen i l' := by
    have lock : h'.lock = w.host.lock := by
      rcases Host.perform_effect performed with rfl | rfl
      · rfl
      · exact effect_lock notReplaced notUnlinked
    obtain rfl : l = l' := by simpa [next_other notRead notReplaced] using allowed
    rw [note_other notRead notReplaced notUnlinked]
    exact ⟨kept_host kept lock, by simp [← known]⟩
  cases o with
  | readLock =>
    obtain ⟨took, outcome, rfl⟩ := Host.perform_outcome.mp performed
    obtain rfl : object r' = l' := by cases l <;> simpa [next] using allowed
    refine ⟨?_, rfl⟩
    cases took <;> exact kept_host (kept_seen kept _) rfl
  | replaceLock data =>
    obtain ⟨took, outcome, rfl⟩ := Host.perform_outcome.mp performed
    cases l with
    | none => simp [next] at allowed
    | some seen =>
      have keeps : keepsStopping seen data = true := by
        by_contra breaks
        simp [next, breaks] at allowed
      obtain rfl : some seen = l' := by simpa [next, keeps] using allowed
      have content : w.host.lock = .json (.obj seen) := object_some.mp ((fresh rfl).symm.trans known)
      rcases Host.attempted_cases (by simpa [Host.outcome] using outcome) with ⟨rfl, rfl⟩ | ⟨e, rfl, rfl⟩
      · refine ⟨?_, ?_⟩
        · simpa [Ledger.note, known, Host.effect] using kept_update kept content keeps
        · simp [Ledger.note, ← known]
      · exact ⟨kept, by simp [Ledger.note, ← known]⟩
  | unlinkLock =>
    obtain ⟨took, outcome, rfl⟩ := Host.perform_outcome.mp performed
    obtain rfl : l = l' := by cases l <;> simpa [next] using allowed
    rcases Host.attempted_cases (by simpa [Host.outcome] using outcome) with ⟨rfl, rfl⟩ | ⟨e, rfl, rfl⟩
    · exact ⟨kept_unlinked, by simp [Ledger.note, ← known]⟩
    · exact ⟨kept, by simp [Ledger.note, ← known]⟩
  | nftTransaction t timeout =>
    rcases kind_transaction t timeout with same | same <;> exact other (by simp [same]) (by simp [same])
      (by simp [same])
  | _ => exact other (by simp [kind]) (by simp [kind]) (by simp [kind])

end

/-- In fresh runs every process knows what it read last, and no update is lost. -/
def regime (py : Interpreter) (h : Host) : Regime (system py) Fresh (.start h) (Option Obj) where
  next := next
  entry _ := none
  Shared := Kept
  Local w i _ l := w.seen i = l
  follows c := follows_mono (program_obeys c none) fun _ _ _ => trivial
  first := by
    refine ⟨fun _ _ before update after key split => ?_, fun said => ?_, fun gone => ?_⟩
    · simp [Ledger.start] at split
    · simp [Ledger.start] at said
    · simp [Ledger.start] at gone
  begin := by
    rintro w i c w' kept begins
    obtain rfl := Option.some.inj begins
    exact ⟨kept_seen kept _, by simp, fun j c' l other known => by simpa [other] using known⟩
  op := by
    rintro w i c l o fate r w' l' kept known performs fresh allowed
    obtain ⟨kept', seen⟩ := kept_op kept known performs fresh allowed
    exact ⟨kept', by simp [seen], fun j c' l other known => by simpa [seen, other] using known⟩
  leave := by
    rintro w i c l kept known
    exact ⟨kept_host kept (effect_lock (by decide) (by decide)), fun j c' l other known => known⟩
  divert := by
    rintro w i c l c' _ _ diverts
    simp [system] at diverts
  env := by
    rintro w e
    exact e.elim

/-- In every run whose updates are each written over the file they are based on, no update is lost,
    `stopping` stays and a deleted lock stays away. -/
theorem updates_kept {py : Interpreter} {h : Host} {cfg : Config Op Op.Res Exc Ledger Call}
    (reached : (system py).Reached Fresh (.start h) cfg) : Kept cfg.world :=
  (regime py h).shared reached

/-! ### A fresh run and a stale one -/

/-- A running session. -/
def running : Host := { Host.fresh with lock := .json (.obj (requiredLock "a")) }

/-- The updates of a watchdog that is stopped and of a session that is, one after the other. -/
theorem fresh_kept : ∃ cfg : Config Op Op.Res Exc Ledger Call, cfg.world.updates.length = 2 ∧ Kept cfg.world := by
  have ran : (((system .cpython).run Fresh (.start (.start running))
      [.begin 0 .stopWatchdog, .op 0 .ok, .op 0 .ok, .op 0 .ok, .op 0 .ok, .op 0 .ok, .op 0 .ok, .leave 0,
        .begin 1 (.markStopping (requiredLock "a")), .op 1 .ok, .op 1 .ok, .op 1 .ok, .op 1 .ok, .op 1 .ok,
        .op 1 .ok]).map fun cfg => cfg.world.updates.length) = some 2 := by decide
  obtain ⟨cfg, reached, updates⟩ := Option.map_eq_some_iff.mp ran
  exact ⟨cfg, updates, updates_kept (reached_run .start reached)⟩

/-- `stop_watchdog` reads the lock before and replaces it after the session was marked as stopping. -/
def staleSchedule : List (Act Call Fate Empty) :=
  [.begin 0 .stopWatchdog, .op 0 .ok, .op 0 .ok, .op 0 .ok, .op 0 .ok,
    .begin 1 (.markStopping (requiredLock "a")), .op 1 .ok, .op 1 .ok, .op 1 .ok, .op 1 .ok, .op 1 .ok, .op 1 .ok,
    .op 0 .ok, .op 0 .ok]

/-- A stale update takes a published `stopping` back. -/
theorem stale_update : ¬ ∀ (py : Interpreter) (h : Host) (cfg : Config Op Op.Res Exc Ledger Call),
    (system py).Reached anyStep (.start h) cfg → Kept cfg.world := by
  intro all
  have ran : (((system .cpython).run anyStep (.start (.start running)) staleSchedule).map fun cfg =>
      (cfg.world.stopping, (object cfg.world.host.lock).map fun lock => (Obj.get lock "phase").isStr "stopping")) =
      some (true, some false) := by decide
  obtain ⟨cfg, reached, ended⟩ := Option.map_eq_some_iff.mp ran
  obtain ⟨stopping, phase⟩ := Prod.mk.inj ended
  obtain ⟨lock, held, notStopping⟩ := Option.map_eq_some_iff.mp phase
  have kept := all .cpython running cfg (reached_run .start reached)
  simp [kept.stopping stopping lock (object_some.mp held)] at notStopping

end Ttp.LockUpdates
