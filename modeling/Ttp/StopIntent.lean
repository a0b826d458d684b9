import Ttp.Faults
import Ttp.Footprint

/-!
`mark_stopping` publishes the intent to stop in two files, first the phase of
the lock and then the stop marker. A failure in between leaves the lock saying
that the session is stopping, which every supervisor of it takes as the end.
-/
namespace Ttp.StopIntent
open Ttp.Python Ttp.Evidence Ttp.Program Ttp.Machine Ttp.State Ttp.SessionSafety Ttp.Faults Ttp.Footprint

/-- The phase that a lock file gives its session. -/
def phaseOf : Loaded → Option Json
  | .json (.obj lock) => some (Obj.get lock "phase")
  | _ => none

/-- A call that raised left the phase of the lock and the stop marker as they were. -/
def AllOrNothing (h : Host) (x : Except Exc Unit) (h' : Host) : Prop :=
  ∀ e, x = .error e → phaseOf h'.lock = phaseOf h.lock ∧ h'.marker = h.marker

/-- Some operation of the kind took effect. -/
def Took (what : Kind) (log : List Event) : Prop := ∃ event ∈ log, kind event.op = what ∧ event.took = true

/-- An operation failed, or the lock that is to be stopped has no session. -/
def Interrupted (lock : Obj) (log : List Event) : Prop :=
  (∃ event ∈ log, event.failed = true) ∨ lock.find? "session_id" = none

/-- Where an interruption comes after a file was replaced, the file said the same before. -/
def Undisturbed (h : Host) (lock : Obj) (log : List Event) : Prop :=
  Interrupted lock log →
    (Took .replaceLock log → phaseOf h.lock = some (.str "stopping")) ∧
      (Took .replaceMarker log → ∃ session, lock.find? "session_id" = some session ∧
        h.marker = .json (.obj [("session_id", session)]))

section
variable {i : Nat} {h : Host} {lock : Obj}

theorem stopping_phase (data : Obj) :
    phaseOf (.json (.obj (data.update [("phase", .str "stopping")]))) = some (.str "stopping") := by
  simp [phaseOf, Obj.update]

/-- Nothing was replaced. -/
theorem unreplaced {x : Except Exc Unit} {w' : Run} (same : w'.host.lock = h.lock ∧ w'.host.marker = h.marker)
    (quiet : ∀ event ∈ w'.log, kind event.op ≠ .replaceLock ∧ kind event.op ≠ .replaceMarker ∨ event.took = false) :
    AllOrNothing h x w'.host ↔ Undisturbed h lock w'.log := by
  have nothing (what : Kind) (other : what = .replaceLock ∨ what = .replaceMarker) : ¬ Took what w'.log := by
    rintro ⟨event, member, rfl, took⟩
    rcases quiet event member with ⟨notLock, notMarker⟩ | failed
    · exact other.elim notLock notMarker
    · simp [failed] at took
  refine ⟨fun _ _ => ⟨fun took => absurd took (nothing _ (Or.inl rfl)), fun took =>
    absurd took (nothing _ (Or.inr rfl))⟩, ?_⟩
  intro _ e _
  exact ⟨by rw [same.1], same.2⟩

/-- The lock was replaced, and then something failed. -/
theorem replaced_lock {x : Except Exc Unit} {w' : Run}
    (after : phaseOf w'.host.lock = some (.str "stopping")) (marker : w'.host.marker = h.marker)
    (raised : ∃ e, x = .error e) (interrupted : Interrupted lock w'.log) (took : Took .replaceLock w'.log)
    (unmarked : ¬ Took .replaceMarker w'.log) : AllOrNothing h x w'.host ↔ Undisturbed h lock w'.log := by
  obtain ⟨e, rfl⟩ := raised
  constructor
  · intro same _
    exact ⟨fun _ => (same e rfl).1.symm.trans after, fun marked => absurd marked unmarked⟩
  · intro undisturbed _ _
    exact ⟨after.trans ((undisturbed interrupted).1 took).symm, marker⟩

/-- The marker was replaced as well, and then something failed. -/
theorem replaced_marker {x : Except Exc Unit} {w' : Run} {session : Json}
    (named : lock.find? "session_id" = some session)
    (after : phaseOf w'.host.lock = some (.str "stopping"))
    (marker : w'.host.marker = .json (.obj [("session_id", session)]))
    (raised : ∃ e, x = .error e) (interrupted : Interrupted lock w'.log) (took : Took .replaceLock w'.log)
    (marked : Took .replaceMarker w'.log) : AllOrNothing h x w'.host ↔ Undisturbed h lock w'.log := by
  obtain ⟨e, rfl⟩ := raised
  constructor
  · intro same _
    obtain ⟨phase, kept⟩ := same e rfl
    exact ⟨fun _ => phase.symm.trans after, fun _ => ⟨session, named, kept.symm.trans marker⟩⟩
  · intro undisturbed _ _
    obtain ⟨phase, kept⟩ := undisturbed interrupted
    obtain ⟨session', named', before⟩ := kept marked
    obtain rfl := Option.some.inj (named.symm.trans named')
    exact ⟨after.trans (phase took).symm, marker.trans before.symm⟩

/-- The release of the transition lock changes nothing of this. -/
theorem released {x : Except Exc Unit} {w' : Run} (settled : AllOrNothing h x w'.host ↔ Undisturbed h lock w'.log) :
    AllOrNothing h x (w'.next i .release true (.fate .ok)).host ↔
      Undisturbed h lock (w'.next i .release true (.fate .ok)).log := by
  have lock' : (w'.next i .release true (.fate .ok)).host.lock = w'.host.lock :=
    @effect_lock i w'.host .release (by decide) (by decide)
  have marker : (w'.next i .release true (.fate .ok)).host.marker = w'.host.marker :=
    @effect_marker i w'.host .release (by decide) (by decide)
  have took (what : Kind) (other : what ≠ .transition) : Took what (w'.next i .release true (.fate .ok)).log ↔
      Took what w'.log := by
    simp [Took, Run.next, kind, Ne.symm other]
  have interrupted : Interrupted lock (w'.next i .release true (.fate .ok)).log ↔ Interrupted lock w'.log := by
    simp [Interrupted, Run.next, Event.failed]
  rw [AllOrNothing, Undisturbed, lock', marker, took _ (by decide), took _ (by decide), interrupted]
  exact settled

/-- `mark_stopping` is all-or-nothing exactly where nothing fails once a file was replaced. -/
theorem markStopping_atomic (i : Nat) (h : Host) (lock : Obj) :
    (markStopping lock).Ensures (perform i) (.start h) fun x w' =>
      AllOrNothing h x w'.host ↔ Undisturbed h lock w'.log := by
  rw [markStopping, ensures_bind, ensures_prepare]
  refine ⟨?_, fun e => unreplaced ⟨rfl, rfl⟩ (by simp [Run.next, Run.start, kind])⟩
  rw [afterwards, ensures_transition (by decide)]
  refine ⟨fun e => unreplaced ⟨rfl, rfl⟩ (by simp [Run.next, Run.start, kind]), fun free => ?_⟩
  refine ensures_mono ?_ fun x w' settled => released settled
  rw [ensures_bind, ensures_readLock]
  have lock' : ((Run.next (Run.start h) i .prepareStore true (.fate .ok)).next i (.acquire 10) true
    (.fate .ok)).host.lock = h.lock := rfl
  rw [lock']
  cases strict : lockOf true h.lock with
  | error e => exact unreplaced ⟨rfl, rfl⟩ (by simp [Run.next, Run.start, kind])
  | ok found =>
    cases found with
    | none => exact unreplaced ⟨rfl, rfl⟩ (by simp [Run.next, Run.start, kind])
    | some current =>
      have there := lockOf_some.mp strict
      rw [afterwards]
      dsimp only
      split
      case isFalse => exact unreplaced ⟨rfl, rfl⟩ (by simp [Run.next, Run.start, kind])
      rw [ensures_bind]
      refine ensures_updateLockKeys there ?_ (fun e e' => ?_) (fun e e' => ?_) (fun e e' => ?_)
      · rw [afterwards]
        cases named : lock.find? "session_id" with
        | none =>
          refine replaced_lock (stopping_phase current) rfl ⟨.keyError, rfl⟩ (Or.inr named) ?_ ?_
          all_goals simp [Run.next, Run.start, Took, kind, Event.took]
        | some session =>
          dsimp only
          rw [writeStopMarker, ensures_bind, ensures_runtimeDir]
          refine ⟨?_, fun e => ?_⟩
          · rw [afterwards, ensures_replaceMarker]
            refine ⟨?_, fun e => ?_, fun e => ?_⟩
            · refine ⟨fun _ interrupted => ?_, fun _ e ended => by simp at ended⟩
              simp [Run.next, Run.start, Interrupted, Event.failed, named] at interrupted
            · refine replaced_lock (stopping_phase current) rfl ⟨e, rfl⟩ ?_ ?_ ?_
              all_goals simp [Run.next, Run.start, Interrupted, Took, kind, Event.took, Event.failed]
            · refine replaced_marker named (stopping_phase current) rfl ⟨e, rfl⟩ ?_ ?_ ?_
              all_goals simp [Run.next, Run.start, Interrupted, Took, kind, Event.took, Event.failed]
          · refine replaced_lock (stopping_phase current) rfl ⟨e, rfl⟩ ?_ ?_ ?_
            all_goals simp [Run.next, Run.start, Interrupted, Took, kind, Event.took, Event.failed]
      · exact unreplaced ⟨rfl, rfl⟩ (by simp [Run.next, Run.start, kind])
      · exact unreplaced ⟨rfl, rfl⟩ (by simp [Run.next, Run.start, kind, Event.took])
      · refine replaced_lock (stopping_phase current) rfl ⟨e', rfl⟩ ?_ ?_ ?_
        all_goals simp [Run.next, Run.start, Interrupted, Took, kind, Event.took, Event.failed]

end

/-! ### A marker that cannot be written -/

/-- The lock of a session that its watchdog supervises. -/
def running : Obj := [("session_id", .str "a"), ("phase", .str "running"), ("watchdog_requested", .bool true)]

/-- The lock is replaced, and the file system is full when the marker follows. -/
def full : List Fault := List.replicate 7 (.fate .ok) ++ [.fate (.fails (.osError "OSError")), .fate .ok]

theorem full_torn : ∃ w', (markStopping running).Ends (perform 0)
    (.start { Host.fresh with lock := .json (.obj running) })
    (.error (.osError "OSError")) w' ∧ w'.host.lock = .json (.obj (running.update [("phase", .str "stopping")])) ∧
      w'.host.marker = .missing := by
  have ran : ∃ w', (markStopping running).run (perform 0)
    (.start { Host.fresh with lock := .json (.obj running) }) full =
      some (.error (.osError "OSError"), w') ∧
      w'.host.lock = .json (.obj (running.update [("phase", .str "stopping")])) ∧
        w'.host.marker = .missing := ⟨_, rfl, rfl, rfl⟩
  obtain ⟨w', ran, lock, marker⟩ := ran
  exact ⟨w', run_ends ran, lock, marker⟩

/-- A call that raised has ended the supervision of a session whose stop left no marker. -/
theorem markStopping_torn :
    ¬ (∀ i h lock, (markStopping lock).Ensures (perform i) (.start h) fun x w' => AllOrNothing h x w'.host) ∧
    ∀ py required, terminatedLock py (running.update [("phase", .str "stopping")]) required = pure {} := by
  constructor
  · intro atomic
    obtain ⟨w', ended, lock, _⟩ := full_torn
    have same := (ends_ensured ended (atomic 0 _ running)) _ rfl
    rw [lock, stopping_phase] at same
    exact absurd same.1 (by simp [phaseOf, running, Obj.get, Obj.find?])
  · intro py required
    rfl

end Ttp.StopIntent
