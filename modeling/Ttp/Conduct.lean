import Ttp.Footprint

/-!
What the commands do besides containing a session: they look, wait, say what they know and work with
the services. A protocol that allows this, and that has its own reasons for a containment and for an
update of the lock, is kept by the supervisor, by the check and by the commands of the watchdog.
-/
namespace Ttp.Conduct
open Ttp.Python Ttp.Evidence Ttp.Program Ttp.Machine Ttp.State Ttp.Records Ttp.Firewall Ttp.SessionSafety Ttp.Watchdog
open Ttp.Start Ttp.Footprint
open Ttp.SessionSettings (Settings)

/-- The kinds of operations that look, wait, say what is known, or work with the services. -/
def harmless : List Kind :=
  [.quiet, .readLock, .readMarker, .unlinkMarker, .transition, .record .watchdog, .record .verification, .tor,
    .dropIn, .overlay]

/-- A protocol that allows what is harmless, containments for a lock that is there, and updates that leave the session
    what it is. -/
structure Tolerant {L : Type} (py : Interpreter) (next : L → (o : Op) → o.Res → Option L) : Prop where
  allows : ∀ l o r, kind o ∈ harmless → ∃ l', next l o r = some l'
  contains : ∀ lock cause repair, (requestEmergency py lock cause repair false).Obeys next
  updates : ∀ changes : Obj, "session_id" ∉ changes.keys → (updateLockKeys changes).Obeys next

section
variable {L : Type} {next : L → (o : Op) → o.Res → Option L}

theorem checked_obeys {α : Type} {p : Py (Except Exc α)} (obeys : p.Obeys next) : (checked p).Obeys next :=
  obeys_bind obeys obeys_ofExcept

theorem onlyIf_obeys {b : Bool} {p : Py Unit} (obeys : p.Obeys next) : (onlyIf b p).Obeys next := by
  unfold onlyIf
  split
  · exact obeys
  · exact obeys_pure _

section
variable {py : Interpreter} (tolerant : Tolerant py next)
include tolerant

theorem harmless_obeys {α : Type} {p : Py α} (kinds : List Kind) (used : p.Uses (among kinds))
    (within : kinds ⊆ harmless) :
    p.Obeys next :=
  obeys_of_uses used fun l o r inside => tolerant.allows l o r (within inside)

theorem step_obeys {o : Op} (safe : kind o ∈ harmless) : (step o).Obeys next :=
  fun l r => (tolerant.allows l o r safe).imp fun _ allowed => ⟨allowed, trivial⟩

theorem external_obeys {what : String} : (checked (step (.external what))).Obeys next :=
  checked_obeys (step_obeys tolerant (by simp [kind, harmless]))

theorem readLock_obeys {strict : Bool} : (readLock strict).Obeys next :=
  harmless_obeys tolerant _ (readLock_uses (List.mem_singleton_self Kind.readLock)) (by decide)

theorem prepare_obeys : Records.prepare.Obeys next :=
  harmless_obeys tolerant _ (prepare_uses (List.mem_singleton_self Kind.quiet)) (by decide)

theorem observation_obeys : (watchdogObservation py).Obeys next :=
  harmless_obeys tolerant [.quiet, .readLock] (watchdogObservation_uses (by decide) (by decide)) (by decide)

theorem emergencyLatched_obeys {lock : Obj} : (emergencyLatched py lock).Obeys next :=
  harmless_obeys tolerant _ (emergencyLatched_uses (List.mem_singleton_self Kind.quiet)) (by decide)

theorem inspects_obeys {timeout : ℚ} : (inspectEmergencyRules timeout).Obeys next :=
  harmless_obeys tolerant _ (inspect_uses (List.mem_singleton_self Kind.quiet)) (by decide)

/-- A record that is no latch. -/
theorem write_obeys {name : RecordName} {session : String} {data : Obj} (other : Kind.record name ∈ harmless) :
    (Records.write py name session data).Obeys next := by
  refine harmless_obeys tolerant [.quiet, .record name] (write_uses (.head _) (.head _) fun _ => .tail _ (.head _)) ?_
  exact List.cons_subset.mpr ⟨by decide, List.cons_subset.mpr ⟨other, List.nil_subset _⟩⟩

/-! ### The commands of the watchdog -/

theorem startWatchdog_obeys : (startWatchdog py).Obeys next := by
  refine obeys_bind (readLock_obeys tolerant) fun lock => ?_
  split
  · exact obeys_raise _
  split
  · exact obeys_raise _
  refine obeys_bind (obeys_ofExcept _) fun settings => obeys_bind (prepare_obeys tolerant) fun _ => ?_
  refine obeys_bind (tolerant.updates _ (by decide)) fun _ => ?_
  split
  · exact obeys_raise _
  refine obeys_bind (external_obeys tolerant) fun _ => obeys_catch ?_ fun e => obeys_raise _
  refine obeys_bind (external_obeys tolerant) fun _ => obeys_bind (external_obeys tolerant) fun _ => ?_
  refine obeys_bind (observation_obeys tolerant) fun observed => obeys_bind ?_ fun latched => ?_
  · split
    · exact emergencyLatched_obeys tolerant
    · exact obeys_pure _
  · split
    · exact obeys_raise _
    · exact tolerant.updates _ (by simp [Obj.keys])

theorem stopWatchdog_obeys : stopWatchdog.Obeys next := by
  refine obeys_bind (external_obeys tolerant) fun _ => obeys_bind (external_obeys tolerant) fun _ => ?_
  refine obeys_bind (external_obeys tolerant) fun _ => ?_
  exact obeys_catch (tolerant.updates _ (by decide)) fun _ => obeys_pure _

theorem watchdogStop_obeys : watchdogStop.Obeys next := by
  refine obeys_bind (external_obeys tolerant) fun _ => obeys_bind (readLock_obeys tolerant) fun found => ?_
  show Prog.Obeys _ (if _ then .raise _ else stopWatchdog)
  split
  · exact obeys_raise _
  · exact stopWatchdog_obeys tolerant

/-! ### The supervisor -/

theorem say_obeys {s value reason : String} {observation : Obj} {completed : Bool} :
    (say py s observation value reason completed).Obeys next := by
  refine obeys_bind ?_ fun stamp => obeys_bind (write_obeys tolerant (by decide)) fun _ => obeys_pure _
  split
  · exact obeys_bind (step_obeys tolerant (by decide)) fun _ => obeys_pure _
  · exact obeys_pure _

section
variable {lock observation : Obj} {s : String} {settings : SessionSettings.WatchdogSettings}

theorem contain_obeys {cause : Diagnostic} : (contain py lock s observation cause).Obeys next :=
  obeys_bind (tolerant.contains _ _ _) fun _ => say_obeys tolerant

theorem heal_obeys {first : Option (String × String)} {ready : Bool} : (heal first ready).Obeys next := by
  refine obeys_bind (step_obeys tolerant (by decide)) fun healed => ?_
  split
  · split
    · exact obeys_pure _
    · exact obeys_raise _
  · exact obeys_pure _
  · refine obeys_bind (onlyIf_obeys (external_obeys tolerant)) fun _ =>
      obeys_bind (step_obeys tolerant (by decide)) fun second => ?_
    split
    · split
      · exact obeys_pure _
      · exact obeys_raise _
    · exact obeys_pure _

theorem evaluate_obeys {ready : Bool} : (evaluate py lock s observation ready).Obeys next := by
  refine obeys_bind (say_obeys tolerant) fun observation =>
    obeys_bind (step_obeys tolerant (by decide)) fun outcome => ?_
  split
  · split
    · exact contain_obeys tolerant
    · exact obeys_raise _
  · refine obeys_bind ?_ fun ⟨failed, observation⟩ => ?_
    · split
      · refine obeys_bind (say_obeys tolerant) fun observation =>
          obeys_bind (onlyIf_obeys (external_obeys tolerant)) fun _ => ?_
        exact obeys_bind (heal_obeys tolerant) fun _ => obeys_pure _
      · exact obeys_pure _
    · dsimp only
      split
      · exact contain_obeys tolerant
      · have emits : (checked (step (.emit "recovered" false))).Obeys next :=
          checked_obeys (step_obeys tolerant (by decide))
        refine obeys_bind (say_obeys tolerant) fun observation => ?_
        exact obeys_bind (onlyIf_obeys (obeys_bind emits fun _ => obeys_pure _)) fun _ => obeys_pure _

theorem latchedNow_obeys : (latchedNow py lock s observation).Obeys next := by
  refine obeys_bind (obeys_catch (obeys_bind (emergencyLatched_obeys tolerant) fun _ => obeys_pure _) fun _ =>
    obeys_pure _) fun latched => ?_
  split
  · exact obeys_pure _
  · exact obeys_bind (contain_obeys tolerant) fun _ => obeys_pure _

theorem check_obeys {latched ready : Bool} {lastCheck : ℚ} :
    (check py lock s settings latched ready lastCheck observation).Obeys next := by
  unfold check
  split
  · exact obeys_bind (contain_obeys tolerant) fun _ => obeys_pure _
  · refine obeys_bind (step_obeys tolerant (by decide)) fun now => ?_
    split
    · refine obeys_bind (evaluate_obeys tolerant) fun _ =>
        obeys_bind (step_obeys tolerant (by decide)) fun _ => obeys_pure _
    · exact obeys_pure _

theorem turn_obeys {loop : Loop} : (turn py lock s settings loop).Obeys next := by
  refine obeys_bind (readLock_obeys tolerant) fun current => ?_
  split
  · exact obeys_pure _
  split
  · exact obeys_pure _
  refine obeys_bind (latchedNow_obeys tolerant) fun found => obeys_bind (check_obeys tolerant) fun found => ?_
  refine obeys_bind (write_obeys tolerant (by decide)) fun _ => obeys_bind (external_obeys tolerant) fun _ => ?_
  refine obeys_bind (step_obeys tolerant (by decide)) fun now => ?_
  refine obeys_bind (step_obeys tolerant (by simp [kind, harmless])) fun readable => ?_
  split
  · exact obeys_bind (say_obeys tolerant) fun _ => obeys_bind (external_obeys tolerant) fun _ => obeys_pure _
  · exact obeys_pure _

theorem turns_obeys (n : ℕ) (loop : Loop) : (turns py lock s settings n loop).Obeys next := by
  induction n generalizing loop with
  | zero => exact obeys_pure _
  | succ n ih =>
    refine obeys_bind (turn_obeys tolerant) fun loop' => ?_
    split
    · exact obeys_pure _
    · exact ih _

end

theorem runSupervisor_obeys {instanceId : String} {n : ℕ} : (runSupervisor py instanceId n).Obeys next := by
  refine obeys_bind (readLock_obeys tolerant) fun found => ?_
  split
  · exact obeys_pure _
  split
  · exact obeys_pure _
  refine obeys_bind (obeys_ofExcept _) fun settings => ?_
  split
  · exact obeys_raise _
  refine obeys_bind (external_obeys tolerant) fun _ => obeys_catch ?_ fun e =>
    obeys_bind (tolerant.contains _ _ _) fun _ => obeys_raise _
  exact obeys_bind (say_obeys tolerant) fun _ => obeys_bind (external_obeys tolerant) fun _ => turns_obeys tolerant _ _

/-! ### Starting and checking -/

theorem recordVerification_obeys {lock : Obj} {v : Verification} : (recordVerification py lock v).Obeys next := by
  refine obeys_bind (obeys_catch ?_ fun _ => obeys_pure _) fun written => ?_
  · split
    · exact obeys_bind (write_obeys tolerant (by decide)) fun _ => obeys_pure _
    · exact obeys_raise _
    · exact obeys_raise _
  · split
    · exact obeys_bind (tolerant.contains _ _ _) fun _ => obeys_pure _
    · exact obeys_pure _

theorem announce_obeys {settings : Settings} {event : String} {result : Result} :
    (announce settings event result).Obeys next :=
  harmless_obeys tolerant _ announce_uses (by decide)

theorem previousVerification_obeys {lock : Obj} : (previousVerification py lock).Obeys next := by
  unfold previousVerification
  split
  · exact harmless_obeys tolerant [.quiet] (read_uses (by decide) (List.mem_singleton_self _)) (by decide)
  · split
    · exact obeys_raise _
    · exact obeys_pure _

theorem checkSupervisor_obeys {lock : Obj} {result : Result} : (checkSupervisor py lock result).Obeys next := by
  unfold checkSupervisor
  split
  · refine obeys_bind (observation_obeys tolerant) fun observed => ?_
    split
    · exact obeys_pure _
    · exact obeys_bind (tolerant.contains _ _ _) fun _ => obeys_pure _
  · exact obeys_pure _

theorem checkSession_obeys {config : Except Exc Settings} : (checkSession py config).Obeys next := by
  refine obeys_bind (readLock_obeys tolerant) fun found => obeys_bind (obeys_ofExcept _) fun settings =>
    obeys_bind ?_ fun latched => ?_
  · split
    · exact emergencyLatched_obeys tolerant
    · exact obeys_pure _
  · split
    · exact obeys_bind (inspects_obeys tolerant) fun _ => obeys_pure _
    · refine obeys_bind (previousVerification_obeys tolerant) fun previous => ?_
      refine obeys_bind (step_obeys tolerant (by decide)) fun verification => obeys_bind ?_ fun result => ?_
      · split
        · exact obeys_pure _
        · exact recordVerification_obeys tolerant
      · refine obeys_bind (checkSupervisor_obeys tolerant) fun result => ?_
        split
        · exact obeys_bind (announce_obeys tolerant) fun _ => obeys_pure _
        · exact obeys_pure _

/-- What a start does once the lock is there. -/
theorem supervise_obeys {lock : Obj} {watchdog : Bool} : (supervise py lock watchdog).Obeys next := by
  refine obeys_bind ?_ fun failed => obeys_bind ?_ fun result => ?_
  · unfold requireWatchdog
    split
    · exact obeys_catch (obeys_bind (startWatchdog_obeys tolerant) fun _ => obeys_pure _) fun e =>
        obeys_bind (tolerant.contains _ _ _) fun _ => obeys_pure _
    · exact obeys_pure _
  · unfold verifyUnless
    split
    · exact obeys_pure _
    · exact obeys_bind (step_obeys tolerant (by decide)) fun _ => recordVerification_obeys tolerant
  · refine obeys_catch (obeys_bind (emergencyLatched_obeys tolerant) fun latched => ?_) fun _ => obeys_pure _
    split
    · exact obeys_bind (tolerant.contains _ _ _) fun _ => obeys_pure _
    · exact obeys_pure _

/-- What `start` looks at before it changes anything. -/
theorem validateStart_obeys {a : StartArgs} : (validateStart py a).Obeys next := by
  refine obeys_bind (external_obeys tolerant) fun _ => obeys_bind (external_obeys tolerant) fun _ =>
    obeys_bind ?_ fun selected => ?_
  · exact obeys_catch (obeys_ofExcept _) fun _ => obeys_raise _
  · refine obeys_bind (external_obeys tolerant) fun _ => obeys_bind (onlyIf_obeys (obeys_raise _)) fun _ => ?_
    refine obeys_bind (onlyIf_obeys (external_obeys tolerant)) fun _ => obeys_bind (external_obeys tolerant) fun _ => ?_
    exact obeys_bind (external_obeys tolerant) fun _ => obeys_pure _

end
end

end Ttp.Conduct
