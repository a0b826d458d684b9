import Ttp.EmergencyHistory
import Ttp.Lockdown
import Ttp.Persistence

/-!
The stop marker while sessions come and go. Commands, supervisors and handlers of any sessions run
in any order, arbitrarily late, and the lock file may be lost or spoiled at any time. Whoever
contains a session looked at the marker under the transition lock, which whoever publishes a stop
holds as well: a session is not contained while the marker asks for its stop. Once a later session
dropped or replaced the marker, only the lock of that session keeps a late handler away.
-/
namespace Ttp.StopMarker
open Ttp.Python Ttp.Evidence Ttp.Program Ttp.Machine Ttp.State Ttp.Records Ttp.Firewall Ttp.SessionSafety Ttp.Watchdog
open Ttp.Lifecycle Ttp.Start Ttp.Footprint
open Ttp.Conduct (Tolerant harmless)
open Ttp.EmergencyHistory (sessionIdOf_named)
open Ttp.Lockdown (updateLockKeys_uses markStopping_uses)
open Ttp.SessionSettings (Settings)

/-! ### The system -/

inductive Call where
  | command (c : Persistence.Call)
  | stop (restoreOnly : Bool)
  /-- A containment whose lock and cause were taken at any time before. -/
  | request (lock : Obj) (cause : Diagnostic) (repair required : Bool)

def program (py : Interpreter) : Call → Py Unit
  | .command c => Persistence.program py c
  | .stop restoreOnly => stopCommand py restoreOnly
  | .request lock cause repair required => do let _ ← requestEmergency py lock cause repair required

/-- The session that a call is about from the beginning. -/
def Call.session : Call → Option String
  | .command (.terminated expected) => expected
  | .request lock _ _ _ => sessionIdOf lock
  | _ => none

/-- The session that the lock names. -/
def sessionIn : Loaded → Option String
  | .json (.obj lock) => sessionIdOf lock
  | _ => none

/-- The marker can be read, and asks for the stop of another session or of none. -/
def unasked (session : String) (marker : Loaded) : Bool :=
  match stopOf session marker with
  | .ok false => true
  | _ => false

/-- The host, the session that each process is about (the one of its call, then the last one that it read), and
    whether the marker ever asked for the stop of the session. -/
structure World where
  host : Host
  about : ℕ → Option String
  stopped : Bool

def World.start (session : String) (h : Host) : World := ⟨h, fun _ => none, !unasked session h.marker⟩

def World.note (i : ℕ) (w : World) : (o : Op) → o.Res → ℕ → Option String
  | .readLock, file => Function.update w.about i ((sessionIn file).or (w.about i))
  | _, _ => w.about

/-- Sessions come and go, a signal turns a start or a restart into its handler, and the lock file becomes anything at
    any time. -/
def system (py : Interpreter) (session : String) : System Op Op.Res Exc World Call Fate Loaded where
  program := program py
  perform i _ w o fate := (w.host.perform i o fate).map fun done =>
    (done.1, ⟨done.2, w.note i o done.1, w.stopped || !unasked session done.2.marker⟩)
  begins i c w := some { w with about := Function.update w.about i c.session }
  ends i _ w := { w with host := w.host.effect i .release }
  environ file w := some { w with host := { w.host with lock := file } }
  diverts _ c _ := match c with
    | .command (.start _) | .command (.restart _) => some (.command .signal)
    | _ => none

/-- The operation is part of a containment of the session: it writes the session's emergency record, or installs the
    emergency table for a process that is about the session. -/
def Contains (w : World) (i : ℕ) (session : String) : Op → Prop
  | .writeRecord .emergency s _ => s = session
  | .nftTransaction t _ => matchesEmergencyContract t = true ∧ w.about i = some session
  | _ => False

/-! ### The protocol -/

/-- What a process holds: the transition lock, with the marker that it read under it, and then the lock file. -/
inductive Hold where
  | free
  | held
  | looked (marker : Loaded)
  | rechecked (marker lock : Loaded)

/-- The marker that was read. -/
@[simp] def Hold.marker : Hold → Option Loaded
  | .looked marker | .rechecked marker _ => some marker
  | _ => none

/-- The session that a process is about, as far as it knows, and what it holds. -/
structure Known where
  about : Option String
  hold : Hold

/-- The recheck of the lock lets a containment of the session go on: the lock is the session's and it runs, or it is
    gone or unreadable for a caller that asks for the containment despite that. -/
def intends (despite : Bool) (session : String) (file : Loaded) : Bool :=
  match lockOf true file with
  | .ok none => despite
  | .ok (some lock) => (lock.get "session_id").isStr session && !(lock.get "phase").isStr "stopping"
  | .error e => e.isStateError && despite

/-- The call contains its session although the lock is gone. -/
def Call.despite : Call → Bool
  | .command (.terminated expected) => expected.isSome
  | .request _ _ _ required => required
  | _ => false

/-- The process looked under the transition lock: nobody asks for the stop of the session, and the lock still intends
    it. -/
def Known.clears (despite : Bool) (l : Known) (session : String) : Bool :=
  match l.hold with
  | .rechecked marker file => unasked session marker && intends despite session file
  | _ => false

/-- A look at the marker counts under the transition lock. -/
def Hold.look (marker : Loaded) : Hold → Hold
  | .free => .free
  | _ => .looked marker

/-- And the first look at the lock after it. -/
def Hold.recheck (file : Loaded) : Hold → Hold
  | .free => .free
  | .looked marker => .rechecked marker file
  | _ => .held

/-- Contain what is cleared, and publish a stop under the transition lock. -/
def next (despite : Bool) (l : Known) : (o : Op) → o.Res → Option Known
  | .readLock, file => some ⟨(sessionIn file).or l.about, l.hold.recheck file⟩
  | .acquire _, .ok _ => some { l with hold := .held }
  | .release, _ => some { l with hold := .free }
  | .readMarker, marker => some { l with hold := l.hold.look marker }
  | .replaceMarker _, _ =>
    match l.hold with
    | .free => none
    | _ => some { l with hold := .held }
  | .writeRecord .emergency s _, _ => if l.about = some s ∧ l.clears despite s = true then some l else none
  | .nftTransaction t _, _ =>
    if matchesEmergencyContract t && !l.about.any (l.clears despite) then none else some l
  | _, _ => some l

/-- The kinds of operations that a process needs the transition lock for. -/
def guarded : List Kind := [.replaceMarker, .record .emergency, .emergency]

section
variable {py : Interpreter} {despite : Bool} {l l' : Known} {timeout : ℚ} {s : String}

theorem next_unguarded {o : Op} {r : o.Res} (safe : kind o ∉ guarded) : ∃ l', next despite l o r = some l' := by
  cases o with
  | replaceMarker => simp [kind, guarded] at safe
  | writeRecord name session payload =>
    cases name with
    | emergency => simp [kind, guarded] at safe
    | _ => exact ⟨_, rfl⟩
  | nftTransaction t timeout =>
    refine ⟨l, if_neg ?_⟩
    by_cases emergency : matchesEmergencyContract t = true
    · simp [kind, guarded, emergency] at safe
    · simp [emergency]
  | acquire timeout => cases r <;> exact ⟨_, rfl⟩
  | _ => exact ⟨_, rfl⟩

theorem unguarded_obeys {α : Type} {p : Py α} (kinds : List Kind) (used : p.Uses (among kinds))
    (safe : ∀ k ∈ kinds, k ∉ guarded) :
    p.Obeys (next despite) :=
  obeys_of_uses used fun _ _ _ inside => next_unguarded (safe _ inside)

/-! ### Containment -/

theorem sessionIn_read {strict : Bool} {file : Loaded} {lock : Obj} (read : lockOf strict file = .ok (some lock)) :
    sessionIn file = sessionIdOf lock := by
  rw [lockOf_some.mp read, sessionIn]

theorem sessionIn_unread (strict : Bool) {file : Loaded} (unread : ∀ lock, lockOf strict file ≠ .ok (some lock)) :
    sessionIn file = none := by
  unfold sessionIn
  split
  case h_1 lock => exact absurd (lockOf_some.mpr rfl) (unread lock)
  case h_2 => rfl

/-- What a process knows after a read of the lock. -/
theorem readLock_follows {strict : Bool} : (readLock strict).Follows (next despite) l fun x l' =>
    ∃ file, x = lockOf strict file ∧ l' = ⟨(sessionIn file).or l.about, l.hold.recheck file⟩ := by
  intro file
  exact ⟨_, rfl, (follows_ofExcept _).mpr ⟨file, rfl, rfl⟩⟩

/-- The recheck's read of the lock: a caller that contains despite a missing lock takes an unreadable one for that. -/
theorem recheck_follows {required : Bool} {marker : Loaded} (looked : l.hold = .looked marker) :
    ((readLock true).handle fun e =>
      if e.isStateError && required then some (pure none) else none).Follows (next despite) l fun x l' =>
      ∃ file, l' = ⟨(sessionIn file).or l.about, .rechecked marker file⟩ ∧ ∀ found, x = .ok found →
        lockOf true file = .ok found ∨
          found = none ∧ required = true ∧ ∃ e, lockOf true file = .error e ∧ e.isStateError = true := by
  apply follows_handle readLock_follows
  · rintro found l₁ ⟨file, read, rfl⟩
    exact ⟨file, by rw [looked]; rfl, fun _ same => .inl (by rw [← read, same])⟩
  · rintro e l₁ ⟨file, read, rfl⟩
    split
    case isTrue tolerated =>
      obtain ⟨state, required'⟩ := Bool.and_eq_true_iff.mp tolerated
      exact ⟨file, by rw [looked]; rfl, fun _ same => .inr ⟨(Except.ok.inj same).symm, required', e, read.symm, state⟩⟩
    case isFalse => exact ⟨file, by rw [looked]; rfl, by simp⟩

/-- Under the transition lock, the recheck of the intent clears the session that the process is about, or comes to
    nothing. -/
theorem stillIntended_follows {required : Bool} (named : s ≠ "") (held : l.hold = .held)
    (about : required = true → despite = true ∧ l.about = some s) :
    (stillIntended s required).Follows (next despite) l fun x l' =>
      x = .ok true → l'.about = some s ∧ l'.clears despite s = true := by
  apply follows_bind (Q := fun x l' => l'.about = l.about ∧
    ∃ marker, l'.hold = .looked marker ∧ (x = .ok false → unasked s marker = true))
  · intro marker
    refine ⟨_, rfl, (follows_ofExcept _).mpr ⟨rfl, marker, by simp [held, Hold.look], fun unstopped => ?_⟩⟩
    simp [unasked, unstopped]
  · rintro stopped l₁ ⟨same, marker, looked, clears⟩
    cases stopped with
    | true => simp
    | false =>
      have cleared := clears rfl
      apply follows_bind (recheck_follows looked)
      · rintro found l₂ ⟨file, rfl, read⟩
        cases found with
        | none =>
          intro required'
          obtain rfl := Except.ok.inj required'
          obtain ⟨rfl, ours⟩ := about rfl
          rcases read none rfl with gone | ⟨_, _, e, unread, state⟩
          · have unnamed : sessionIn file = none := sessionIn_unread true (by simp [gone])
            exact ⟨by simp [unnamed, same, ours], by simp [Known.clears, cleared, intends, gone]⟩
          · have unnamed : sessionIn file = none := sessionIn_unread true (by simp [unread])
            exact ⟨by simp [unnamed, same, ours], by simp [Known.clears, cleared, intends, unread, state]⟩
        | some lock =>
          intro intended
          have running := Except.ok.inj intended
          have ours := isStr_eq (Bool.and_eq_true_iff.mp running).1
          rcases read (some lock) rfl with there | ⟨⟨⟩, _⟩
          refine ⟨?_, by simpa [Known.clears, cleared, intends, there] using running⟩
          simp [sessionIn_read there, sessionIdOf, ours, named]
      · simp
  · simp

/-- The operation is allowed and leaves what the process knows. -/
def Still (despite : Bool) (l : Known) (o : Op) : Prop := ∀ r, next despite l o r = some l

theorem still_obeys {α : Type} {p : Py α} (used : p.Uses (Still despite l)) :
    p.Follows (next despite) l fun _ _ => True :=
  follows_mono (follows_of_uses used fun _ r same => same r) fun _ _ _ => trivial

theorem publish_still (about : l.about = some s) (clears : l.clears despite s = true) {data : Obj}
    {diagnostic : Diagnostic} :
    (publish py s data diagnostic).Uses (Still despite l) := by
  refine uses_catch (uses_bind (write_uses (fun _ => rfl) (fun _ => rfl) fun _ _ => ?_) fun _ => trivial)
    fun _ => trivial
  exact if_pos ⟨about, clears⟩

theorem enforce_still (about : l.about = some s) (clears : l.clears despite s = true) {repair : Bool} {applied : Json} :
    (enforce repair timeout applied).Uses (Still despite l) := by
  have installs : (applyEmergencyKillswitch timeout).Uses (Still despite l) :=
    killswitch_uses fun _ => if_neg (by simp [about, clears])
  have inspects : (inspectEmergencyRules timeout).Uses (Still despite l) := inspect_uses fun _ => rfl
  have applies : (apply timeout).Uses (Still despite l) := by
    refine uses_bind (uses_catch (uses_bind installs fun _ => trivial) fun _ => trivial) fun applied => ?_
    exact uses_bind inspects fun _ => trivial
  unfold enforce
  split
  · refine uses_bind inspects fun check => ?_
    split
    · trivial
    · exact applies
  · exact applies

/-- Under the transition lock, a containment acts only where it looked and found its session cleared. -/
theorem containLocked_follows {cause : Diagnostic} {repair required : Bool} {result : Result} (named : s ≠ "")
    (held : l.hold = .held) (about : required = true → despite = true ∧ l.about = some s) :
    (containLocked py s cause repair required timeout result).Follows (next despite) l fun _ _ => True := by
  apply follows_bind (stillIntended_follows named held about)
  · rintro intended l₁ cleared
    cases intended with
    | false => trivial
    | true =>
      obtain ⟨about₁, clears⟩ := cleared rfl
      have prior : (priorEvidence py cause s).Uses (Still despite l₁) := by
        refine uses_catch (uses_bind (read_uses (fun _ => rfl) fun _ => rfl) fun previous => ?_) fun _ => trivial
        split <;> trivial
      refine still_obeys (uses_bind prior fun _ => uses_bind (publish_still about₁ clears) fun _ => ?_)
      exact uses_bind (enforce_still about₁ clears) fun _ => uses_bind (publish_still about₁ clears) fun _ => trivial
  · exact fun _ _ _ => trivial

/-- What runs under the transition lock begins where the process holds it and is about the same session. -/
theorem transition_follows {α : Type} {body : Py α}
    (inside : body.Follows (next despite) { l with hold := .held } fun _ _ => True) :
    (transition timeout body).Follows (next despite) l fun _ _ => True := by
  unfold transition
  split
  · trivial
  · apply follows_bind (Q := fun x l' => x = .ok () → l' = { l with hold := .held })
    · apply checked_follows
      intro acquired
      cases acquired with
      | ok _ => exact ⟨_, rfl, fun _ => rfl⟩
      | error e => exact ⟨_, rfl, fun none => by simp [Except.bind] at none⟩
    · rintro _ l' acquired
      rw [acquired rfl]
      refine follows_always inside fun _ _ _ _ => ⟨_, rfl, trivial⟩
    · exact fun _ _ _ => trivial

/-- A containment keeps to the protocol; the lock may be missing where the process is about the session. -/
theorem requestEmergency_follows {lock : Obj} {cause : Diagnostic} {repair required : Bool}
    (about : required = true → despite = true ∧ ∀ s, sessionIdOf lock = some s → l.about = some s) :
    (requestEmergency py lock cause repair required).Follows (next despite) l fun _ _ => True := by
  unfold requestEmergency
  split
  · trivial
  case h_2 session identity =>
    apply follows_bind (Q := fun _ l' => l' = l) ((follows_ofExcept _).mpr rfl)
    · rintro ⟨timeout, policy⟩ l₁ same
      subst l₁
      apply follows_bind (Q := fun _ _ => True)
      · apply follows_handle (Q := fun _ _ => True)
        · exact transition_follows
            (containLocked_follows (sessionIdOf_named identity) rfl fun need =>
              ⟨(about need).1, (about need).2 session identity⟩)
        · exact fun _ _ _ => trivial
        · intro e l₁ _
          split <;> trivial
      · rintro contained l₁ _
        split
        · trivial
        · exact unguarded_obeys [.quiet] (notify_uses fun _ => List.mem_singleton_self _) (by decide) _
      · exact fun _ _ _ => trivial
    · exact fun _ _ _ => trivial

/-- The commands and the supervisor keep to the protocol wherever they do not stop a session. -/
theorem tolerant (py : Interpreter) : Tolerant py (next despite) where
  allows _ _ _ inside := next_unguarded ((by decide : ∀ k ∈ harmless, k ∉ guarded) _ inside)
  contains _ _ _ _ := requestEmergency_follows (by simp)
  updates _ _ := unguarded_obeys _ updateLockKeys_uses (by decide)

/-! ### Stopping -/

/-- Reads of the lock and its replacement leave a process the transition lock. -/
theorem hold_follows {α : Type} {p : Py α} (used : p.Uses (among [.readLock, .replaceLock, .quiet]))
    (held : l.hold = .held) : p.Follows (next despite) l fun _ l' => l'.hold = .held := by
  refine follows_invariant used (fun l₁ o r same inside => ?_) held
  cases o with
  | readLock => exact ⟨_, rfl, by rw [same]; rfl⟩
  | acquire | release | readMarker | replaceMarker => simp [among, kind] at inside
  | writeRecord => simp [among, kind] at inside
  | nftTransaction t timeout => rcases kind_transaction t timeout with other | other <;> simp [among, other] at inside
  | _ => exact ⟨l₁, rfl, same⟩

/-- A marker is published under the transition lock. -/
theorem writeStopMarker_follows {session : Json} (held : l.hold = .held) :
    (writeStopMarker session).Follows (next despite) l fun _ _ => True := by
  apply follows_bind (Q := fun _ l' => l'.hold = .held)
  · exact hold_follows (checked_uses ⟨by decide, fun _ => trivial⟩) held
  · intro _ l₁ held₁
    apply checked_follows
    intro done
    exact ⟨{ l₁ with hold := .held }, by simp [next, held₁], trivial⟩
  · exact fun _ _ _ => trivial

theorem markStopping_obeys {lock : Obj} : (markStopping lock).Obeys (next despite) := by
  refine obeys_bind (Conduct.prepare_obeys (tolerant .cpython)) fun _ l => transition_follows ?_
  apply follows_bind (hold_follows (readLock_uses (by decide)) rfl)
  · intro found l₁ held
    split
    · trivial
    split
    · apply follows_bind (hold_follows updateLockKeys_uses held)
      · intro _ l₂ held'
        split
        · trivial
        · exact writeStopMarker_follows held'
      · exact fun _ _ _ => trivial
    · trivial
  · exact fun _ _ _ => trivial

/-- What changes the network and the lock is free. -/
theorem network_obeys {α : Type} {p : Py α} (used : p.Uses (among (.unlinkLock :: network))) : p.Obeys (next despite) :=
  unguarded_obeys _ used (by decide)

theorem quiet_obeys {what : String} : (checked (step (.external what))).Obeys (next despite) :=
  network_obeys (external_uses (by simp [among, kind, network]))

theorem reads_obeys {strict : Bool} : (readLock strict).Obeys (next despite) :=
  unguarded_obeys [.readLock] (readLock_uses (by decide)) (by decide)

theorem doStop_obeys : (doStop py).Obeys (next despite) := by
  refine obeys_bind reads_obeys fun found => ?_
  split
  · exact obeys_pure _
  refine obeys_bind (Conduct.onlyIf_obeys markStopping_obeys) fun _ => obeys_bind (Conduct.onlyIf_obeys ?_) fun _ => ?_
  · exact obeys_catch (Conduct.stopWatchdog_obeys (tolerant .cpython)) fun _ => obeys_pure _
  · exact obeys_bind (network_obeys tearDown_uses) fun _ => network_obeys (external_uses (by decide))

theorem stopCommand_obeys {restoreOnly : Bool} : (stopCommand py restoreOnly).Obeys (next despite) := by
  refine obeys_bind quiet_obeys fun _ => ?_
  split
  · refine obeys_bind (network_obeys (checked_uses ⟨by decide, fun _ => trivial⟩)) fun _ => ?_
    refine obeys_bind (network_obeys (prepare_uses (by decide))) fun _ => ?_
    refine obeys_bind (fun l => transition_follows (writeStopMarker_follows rfl)) fun _ => ?_
    refine obeys_bind (obeys_catch (Conduct.stopWatchdog_obeys (tolerant .cpython)) fun _ => obeys_pure _) fun _ => ?_
    refine obeys_bind quiet_obeys fun _ =>
      obeys_bind (network_obeys (uses_among stopTorService_uses (by decide))) fun _ => ?_
    refine obeys_bind (network_obeys (uses_among destroyRules_uses (by decide))) fun _ =>
      obeys_bind reads_obeys fun found => ?_
    refine obeys_bind (Conduct.onlyIf_obeys quiet_obeys) fun _ => ?_
    refine obeys_bind (network_obeys (uses_among restoreDns_uses (by decide))) fun _ => ?_
    refine obeys_bind (network_obeys (checked_uses ⟨by decide, fun _ => trivial⟩)) fun _ => ?_
    exact obeys_bind (Conduct.onlyIf_obeys quiet_obeys) fun _ => obeys_raise _
  · refine obeys_bind reads_obeys fun found => ?_
    split
    · exact obeys_raise _
    · exact doStop_obeys

theorem signalHandler_obeys : (signalHandler py).Obeys (next despite) := by
  refine obeys_bind reads_obeys fun lock => obeys_bind ?_ fun latched => ?_
  · unfold retained
    split
    · exact obeys_catch (Conduct.emergencyLatched_obeys (tolerant py)) fun _ => obeys_pure _
    · exact obeys_pure _
  · split
    · exact obeys_raise _
    · exact obeys_bind doStop_obeys fun _ => obeys_raise _

/-! ### Starting -/

/-- `write_lock` drops the marker, which needs no transition lock. -/
theorem writeLock_obeys {a : LockArgs} : (writeLock a).Obeys (next despite) := by
  have used : (writeLock a).Uses (among [.quiet, .replaceLock, .unlinkMarker]) := by
    refine uses_catch (uses_bind ⟨by decide, fun _ => trivial⟩ fun session => uses_bind ?_ fun _ => ?_) fun _ => trivial
    · refine uses_bind (checked_uses ⟨by decide, fun _ => trivial⟩) fun _ =>
        checked_uses ⟨by simp [among, kind], fun _ => trivial⟩
    · exact checked_uses ⟨by decide, fun _ => trivial⟩
  exact unguarded_obeys _ used (by decide)

theorem setUp_obeys {a : StartArgs} {selected : Settings} : (setUp py a selected).Obeys (next despite) := by
  have changes {α : Type} {p : Py α} (used : p.Uses (among network)) : p.Obeys (next despite) :=
    network_obeys (uses_among used (by decide))
  have undone {α : Type} {catches : Exc → Bool} {more : Py Unit} {p : Py α} (obeys : p.Obeys (next despite))
    (undoes : more.Uses (among network)) :
      (orRollBack a.externalDaemon catches more p).Obeys (next despite) :=
    obeys_catch obeys fun _ => obeys_bind (changes rollBack_uses) fun _ =>
      obeys_bind (changes undoes) fun _ => obeys_raise _
  refine obeys_bind (changes provideTor_uses) fun _ => obeys_bind (undone (changes applyRules_uses) trivial) fun _ => ?_
  refine obeys_bind (changes (external_uses (by decide))) fun _ =>
    obeys_bind (undone (changes applyDns_uses) trivial) fun backup => ?_
  refine undone ?_ (network_uses restoreDns_uses)
  refine obeys_bind (changes (external_uses (by decide))) fun _ => obeys_bind (obeys_ofExcept _) fun snapshot => ?_
  exact writeLock_obeys

theorem startCommand_obeys {a : StartArgs} : (startCommand py a).Obeys (next despite) := by
  refine obeys_bind (Conduct.validateStart_obeys (tolerant py)) fun selected => ?_
  refine obeys_bind (Conduct.step_obeys (tolerant py) (by decide)) fun _ => ?_
  refine obeys_bind (Conduct.step_obeys (tolerant py) (by decide)) fun _ => ?_
  refine obeys_bind (unguarded_obeys _ checkSessionState_uses (by decide)) fun _ => obeys_bind quiet_obeys fun _ => ?_
  refine obeys_bind (obeys_catch ?_ fun _ => obeys_raise _) fun _ => obeys_bind setUp_obeys fun _ => ?_
  · refine obeys_bind (network_obeys (checked_uses ⟨by decide, fun _ => trivial⟩)) fun _ => ?_
    exact network_obeys (prepare_uses (by decide))
  · refine obeys_bind reads_obeys fun found => ?_
    split
    · exact obeys_raise _
    · refine obeys_bind (Conduct.onlyIf_obeys (obeys_catch quiet_obeys fun _ => obeys_pure _)) fun _ => ?_
      refine obeys_bind (Conduct.supervise_obeys (tolerant py)) fun result => ?_
      refine obeys_bind (Conduct.announce_obeys (tolerant py)) fun result => ?_
      exact Conduct.onlyIf_obeys (obeys_raise _)

theorem restartCommand_obeys {a : StartArgs} : (restartCommand py a).Obeys (next despite) := by
  refine obeys_bind quiet_obeys fun _ => obeys_bind quiet_obeys fun _ => obeys_bind quiet_obeys fun _ => ?_
  refine obeys_bind (obeys_catch ?_ fun _ => obeys_raise _) fun _ => obeys_bind reads_obeys fun current => ?_
  · refine obeys_bind (obeys_ofExcept _) fun _ => obeys_bind reads_obeys fun found => obeys_bind ?_ fun latched => ?_
    · split
      · exact Conduct.emergencyLatched_obeys (tolerant py)
      · exact obeys_pure _
    · exact Conduct.onlyIf_obeys (obeys_raise _)
  · exact obeys_bind (Conduct.onlyIf_obeys (obeys_bind doStop_obeys fun _ => quiet_obeys)) fun _ => startCommand_obeys

theorem watchdogStart_obeys {config : Except Exc Settings} : (watchdogStart py config).Obeys (next despite) := by
  refine obeys_bind quiet_obeys fun _ => obeys_bind reads_obeys fun found => ?_
  split
  · exact obeys_raise _
  · refine obeys_bind (obeys_catch ?_ fun _ => obeys_raise _) fun _ => obeys_catch ?_ fun _ => ?_
    · refine obeys_bind (obeys_ofExcept _) fun settings => obeys_bind (obeys_ofExcept _) fun selected =>
        obeys_bind ?_ fun session => ?_
      · split
        · exact obeys_pure _
        · exact obeys_bind (Conduct.step_obeys (tolerant py) (by decide)) fun _ => obeys_pure _
      · refine obeys_bind (Conduct.prepare_obeys (tolerant py)) fun _ =>
          obeys_bind (obeys_ofExcept _) fun snapshot => ?_
        exact unguarded_obeys _ updateLockKeys_uses (by decide)
    · exact obeys_bind quiet_obeys fun _ => Conduct.startWatchdog_obeys (tolerant py)
    · refine obeys_bind reads_obeys fun current => obeys_bind ((tolerant py).contains _ _ _) fun result => ?_
      exact obeys_raise _

/-! ### The handlers -/

/-- The handler of a supervisor's end contains the session that it was started for, whatever became of the lock. -/
theorem supervisionTerminated_follows {expected : Option String} (about : l.about = expected) :
    (supervisionTerminated py expected).Follows (next expected.isSome) l fun _ _ => True := by
  have terminated {lock : Obj} {required : Bool} {l₁ : Known} (about : required = true →
      expected.isSome = true ∧ ∀ s, sessionIdOf lock = some s → l₁.about = some s) :
      (terminatedLock py lock required).Follows (next expected.isSome) l₁ fun _ _ => True := by
    unfold terminatedLock
    split
    · trivial
    · exact requestEmergency_follows about
  apply follows_bind (Q := fun x l₁ => (∀ lock, x = .ok (.ok (some lock)) → l₁.about = (sessionIdOf lock).or expected) ∧
    ((∀ lock, x ≠ .ok (.ok (some lock))) → l₁.about = expected))
  · apply follows_handle (Q := fun x l₁ =>
      (∀ lock, x = .ok (.ok (some lock)) → l₁.about = (sessionIdOf lock).or expected) ∧
      ((∀ lock, x ≠ .ok (.ok (some lock))) → l₁.about = expected))
    · apply follows_bind readLock_follows
      · rintro found l₁ ⟨file, read, rfl⟩
        refine ⟨fun lock same => ?_, fun other => ?_⟩
        · obtain rfl := Except.ok.inj (Except.ok.inj same)
          rw [sessionIn_read read.symm, about]
        · rw [sessionIn_unread true fun lock same => other lock (by rw [Except.ok.inj (read.trans same)]),
            Option.none_or, about]
      · rintro e l₁ ⟨file, read, rfl⟩
        refine ⟨by simp, fun _ => ?_⟩
        rw [sessionIn_unread true fun lock same => by simp [← read] at same, Option.none_or, about]
    · exact fun _ _ known => known
    · rintro e l₁ ⟨_, unread⟩
      split <;> exact ⟨by simp, fun _ => unread (by simp)⟩
  · rintro found l₁ ⟨read, unread⟩
    split
    · trivial
    · trivial
    · exact terminated (by simp)
    case h_4 lock session =>
      split
      · trivial
      · exact terminated fun _ => ⟨rfl, fun s identity => by simp [read lock rfl, identity]⟩
    case h_5 _ _ session other =>
      refine terminated fun _ => ⟨rfl, fun s identity => ?_⟩
      refine (unread fun lock same => other lock (Except.ok.inj same)).trans ?_
      have named : (if session = "" then none else some session) = some s := identity
      split_ifs at named
      exact named
  · exact fun _ _ _ => trivial

theorem program_follows (c : Call) : (program py c).Follows (next c.despite) ⟨c.session, .free⟩ fun _ _ => True := by
  have ends {α : Type} {p : Py α} {l : Known} {despite : Bool} (follows : p.Follows (next despite) l fun _ _ => True) :
      (do let _ ← p : Py Unit).Follows (next despite) l fun _ _ => True :=
    follows_bind follows (fun _ _ _ => trivial) fun _ _ _ => trivial
  cases c with
  | command c =>
    cases c with
    | start a => exact startCommand_obeys _
    | restart a => exact restartCommand_obeys _
    | signal => exact signalHandler_obeys _
    | check config => exact ends (Conduct.checkSession_obeys (tolerant py) _)
    | watchdogStart config => exact watchdogStart_obeys _
    | watchdogStop => exact Conduct.watchdogStop_obeys (tolerant py) _
    | supervisor instanceId n => exact Conduct.runSupervisor_obeys (tolerant py) _
    | terminated expected => exact ends (supervisionTerminated_follows rfl)
    | alert component =>
      refine ends (obeys_bind reads_obeys (fun found => ?_) _)
      split
      · exact obeys_pure _
      · exact (tolerant py).contains _ _ _
  | stop restoreOnly => exact stopCommand_obeys _
  | request lock cause repair required =>
    exact ends (requestEmergency_follows fun needed => ⟨needed, fun _ identity => identity⟩)

end

/-! ### The invariant -/

/-- What a process knows is true: the session that it is about, and that it holds the transition lock, under which the
    marker that it read is there or was dropped since. -/
structure Holds (w : World) (i : ℕ) (l : Known) : Prop where
  about : ∀ s, l.about = some s → w.about i = some s
  alone : l.hold ≠ .free → w.host.transition = some i
  looked : ∀ marker, l.hold.marker = some marker → w.host.marker = marker ∨ w.host.marker = .missing

section
variable {py : Interpreter} {session : String} {despite : Bool} {w w' : World} {h h' : Host} {i j : ℕ} {l l' : Known}
  {c : Call} {o : Op} {r : o.Res} {fate : Fate}

/-- The kinds of operations that change what a process knows. -/
def telling : List Kind := [.readLock, .transition, .readMarker, .replaceMarker]

theorem next_same (other : kind o ∉ telling) (allowed : next despite l o r = some l') : l' = l := by
  cases o with
  | readLock | acquire | release | readMarker | replaceMarker => simp [kind, telling] at other
  | writeRecord name session payload =>
    cases name with
    | emergency => exact (Option.some.inj (Option.ite_none_right_eq_some.mp allowed).2).symm
    | _ => exact (Option.some.inj allowed).symm
  | nftTransaction t timeout =>
    simp only [next, Option.ite_none_left_eq_some, Option.some.injEq] at allowed
    exact allowed.2.symm
  | _ => exact (Option.some.inj allowed).symm

theorem effect_transition (other : kind o ≠ .transition) : (h.effect i o).transition = h.transition := by
  cases o with
  | acquire | release => exact absurd rfl other
  | _ => rfl

/-- What is true of a process stays true while the transition lock stays where it is, and the marker at most goes
    away. -/
theorem holds_frame {w' : World} (holds : Holds w i l) (about : w'.about i = w.about i)
    (transition : w'.host.transition = w.host.transition)
    (marker : w'.host.marker = w.host.marker ∨ w'.host.marker = .missing) : Holds w' i l where
  about s same := about.trans (holds.about s same)
  alone busy := transition.trans (holds.alone busy)
  looked m same := marker.elim (fun kept => kept ▸ holds.looked m same) Or.inr

theorem release_marker : (h.effect i .release).marker = h.marker := effect_marker (by simp [kind]) (by simp [kind])

theorem note_other (other : j ≠ i) : w.note i o r j = w.about j := by
  cases o with
  | readLock => simp [World.note, other]
  | _ => rfl

theorem note_same (other : kind o ≠ .readLock) : w.note i o r = w.about := by
  cases o with
  | readLock => exact absurd rfl other
  | _ => rfl

theorem effect_dropped (other : kind o ≠ .replaceMarker) :
    (h.effect i o).marker = h.marker ∨ (h.effect i o).marker = .missing := by
  by_cases dropped : kind o = .unlinkMarker
  · cases o with
    | unlinkMarker => exact .inr rfl
    | nftTransaction t timeout => rcases kind_transaction t timeout with same | same <;> simp [same] at dropped
    | _ => simp [kind] at dropped
  · exact .inl (effect_marker other dropped)

/-- Another process that lets the transition lock go does not hold it. -/
theorem holds_released (holds : Holds w j l) (other : j ≠ i) :
    Holds { w with host := w.host.effect i .release } j l where
  about := holds.about
  alone busy := by simp [Host.effect, holds.alone busy, other]
  looked m same := by
    rw [show (w.host.effect i .release).marker = w.host.marker from release_marker]
    exact holds.looked m same

theorem recheck_busy {hold : Hold} {file : Loaded} (busy : hold.recheck file ≠ .free) : hold ≠ .free := by
  rintro rfl
  exact busy rfl

theorem recheck_marker {hold : Hold} {file marker : Loaded} (looked : (hold.recheck file).marker = some marker) :
    hold.marker = some marker := by
  cases hold with
  | looked | free => exact looked
  | held | rechecked => cases looked

/-- What an operation of a process does to what all of them know. -/
theorem holds_op (holds : Holds w i l) (performs : (system py session).perform i c w o fate = some (r, w'))
    (allowed : next despite l o r = some l') :
    Holds w' i l' ∧ ∀ j m, j ≠ i → Holds w j m → Holds w' j m := by
  obtain ⟨⟨r', h'⟩, performed, same⟩ := Option.map_eq_some_iff.mp performs
  obtain ⟨rfl, rfl⟩ := Prod.mk.inj same
  obtain ⟨took, outcome, after⟩ := Host.perform_outcome.mp performed
  have changed := Host.perform_effect performed
  -- the transition lock and the marker stay, apart from the operations that are about them
  have frame (other : kind o ≠ .transition) (kept : kind o ≠ .replaceMarker) : h'.transition = w.host.transition ∧
      (h'.marker = w.host.marker ∨ h'.marker = .missing) := by
    rcases changed with rfl | rfl
    · exact ⟨rfl, .inl rfl⟩
    · exact ⟨effect_transition other, effect_dropped kept⟩
  have rest (other : kind o ≠ .transition) (kept : kind o ≠ .replaceMarker) (j : ℕ) (m : Known) (others : j ≠ i)
    (held : Holds w j m) :
      Holds ⟨h', w.note i o r', w.stopped || !unasked session h'.marker⟩ j m :=
    holds_frame held (note_other others) (frame other kept).1 (frame other kept).2
  by_cases tells : kind o ∈ telling
  · cases o with
    | readLock =>
      refine ⟨?_, rest (by simp [kind]) (by simp [kind])⟩
      obtain ⟨transition, marker⟩ := frame (by simp [kind]) (by simp [kind])
      obtain rfl := Option.some.inj allowed
      refine ⟨fun s same => ?_, fun busy => transition.trans (holds.alone (recheck_busy busy)), fun m same => ?_⟩
      · cases named : sessionIn r' with
        | some s' => simpa [World.note, named] using same
        | none => simpa [World.note, named] using holds.about s (by simpa [named] using same)
      · exact marker.elim (fun kept => kept ▸ holds.looked m (recheck_marker same)) Or.inr
    | acquire timeout =>
      cases fate <;> simp only [Host.outcome, reduceCtorEq, Option.ite_none_right_eq_some, Option.some.injEq,
        Prod.mk.injEq] at outcome
      case ok =>
        obtain ⟨free, rfl, rfl⟩ := outcome
        obtain rfl := Option.some.inj allowed
        refine ⟨⟨holds.about, fun _ => by simp [after, Host.effect], by simp⟩,
          fun j m other held => ⟨held.about, fun busy => ?_, ?_⟩⟩
        · have taken := held.alone busy
          simp [free] at taken
        · intro marker same
          have taken := held.alone fun idle => by simp [idle] at same
          simp [free] at taken
      case fails e =>
        obtain ⟨rfl, rfl⟩ := outcome
        obtain rfl := Option.some.inj allowed
        obtain rfl : h' = w.host := after
        exact ⟨holds_frame holds rfl rfl (.inl rfl), fun j m _ held => holds_frame held rfl rfl (.inl rfl)⟩
    | release =>
      obtain rfl := Option.some.inj allowed
      have marker : h'.marker = w.host.marker := by
        rcases changed with rfl | rfl
        · rfl
        · exact release_marker
      refine ⟨⟨holds.about, by simp, by simp⟩,
        fun j m other held => ⟨held.about, fun busy => ?_, fun m' same => marker ▸ held.looked m' same⟩⟩
      have taken := held.alone busy
      rcases changed with rfl | rfl
      · exact taken
      · simp [Host.effect, taken, other]
    | readMarker =>
      refine ⟨?_, rest (by simp [kind]) (by simp [kind])⟩
      cases fate <;> simp only [Host.outcome, reduceCtorEq, Option.some.injEq, Prod.mk.injEq] at outcome
      obtain ⟨rfl, rfl⟩ := outcome
      obtain rfl := Option.some.inj allowed
      obtain rfl : h' = w.host := after
      refine ⟨holds.about, fun busy => holds.alone fun free => busy (by simp [free, Hold.look]), fun m same => .inl ?_⟩
      cases hold : l.hold with
      | free => simp [hold, Hold.look] at same
      | held | looked | rechecked => simpa [hold, Hold.look] using same
    | replaceMarker session =>
      have alone : w.host.transition = some i := holds.alone fun free => by simp [next, free] at allowed
      have transition : h'.transition = w.host.transition := by
        rcases changed with rfl | rfl
        · rfl
        · exact effect_transition (by simp [kind])
      have held' : l' = { l with hold := .held } := by
        simp only [next] at allowed
        split at allowed
        · simp at allowed
        · exact (Option.some.inj allowed).symm
      subst held'
      refine ⟨⟨holds.about, fun _ => transition.trans alone, by simp⟩, fun j m other held => ?_⟩
      -- nobody else holds the transition lock
      have free : m.hold = .free := by
        by_contra busy
        exact other (Option.some.inj ((held.alone busy).symm.trans alone))
      exact ⟨held.about, fun busy => absurd free busy, fun m' same => by simp [free] at same⟩
    | nftTransaction t timeout => rcases kind_transaction t timeout with same | same <;> simp [same, telling] at tells
    | _ => simp [kind, telling] at tells
  · have other : kind o ≠ .transition := fun same => tells (by simp [same, telling])
    have kept : kind o ≠ .replaceMarker := fun same => tells (by simp [same, telling])
    obtain rfl := next_same tells allowed
    refine ⟨holds_frame holds ?_ (frame other kept).1 (frame other kept).2, rest other kept⟩
    rw [note_same fun same => tells (by simp [same, telling])]

end

/-- The invariant of all runs. -/
def regime (py : Interpreter) (session : String) (h : Host) :
    Regime (system py session) anyStep (.start session h) Known where
  next c := next c.despite
  entry c := ⟨c.session, .free⟩
  Shared _ := True
  Local w i _ l := Holds w i l
  follows := program_follows
  first := trivial
  begin := by
    rintro w i c _ _ ⟨⟩
    refine ⟨trivial, ⟨fun s same => by simpa using same, by simp, by simp⟩, fun j _ l other held => ?_⟩
    exact ⟨fun s same => by simpa [other] using held.about s same, held.alone, held.looked⟩
  op := by
    intro w i c l o fate r w' l' _ holds performs _ allowed
    obtain ⟨here, others⟩ := holds_op holds performs allowed
    exact ⟨trivial, here, fun j _ m => others j m⟩
  leave := fun _ _ => ⟨trivial, fun _ _ _ other held => holds_released held other⟩
  divert := by
    intro w i c l c' _ _ diverts
    have signal : c' = .command .signal := by
      simp only [system] at diverts
      split at diverts
      · exact (Option.some.inj diverts).symm
      · exact (Option.some.inj diverts).symm
      · simp at diverts
    subst signal
    exact ⟨by simp [Call.session], by simp, by simp⟩
  env := by
    rintro w file _ _ ⟨⟩
    exact ⟨trivial, fun i _ l held => ⟨held.about, held.alone, held.looked⟩⟩

/-! ### Containment and stop -/

section
variable {py : Interpreter} {despite : Bool} {session s : String} {h : Host} {cfg : Config Op Op.Res Exc World Call}
  {i : ℕ} {c : Call} {o : Op} {r : o.Res} {w : World}

/-- What is cleared under the transition lock is not asked for. -/
theorem clears_rechecked {l : Known} (clears : l.clears despite s = true) : ∃ marker file,
    l.hold = .rechecked marker file ∧ unasked s marker = true ∧ intends despite s file = true := by
  unfold Known.clears at clears
  split at clears
  case h_1 marker file rechecked => exact ⟨marker, file, rechecked, Bool.and_eq_true_iff.mp clears⟩
  case h_2 => cases clears

/-- What contains a session is allowed to a process that is about it and has cleared it. -/
theorem contains_cleared {l l' : Known} (holds : Holds w i l) (allowed : next despite l o r = some l')
    (contains : Contains w i s o) : l.about = some s ∧ l.clears despite s = true := by
  cases o with
  | writeRecord name s' payload =>
    cases name with
    | emergency =>
      obtain rfl := contains
      exact (Option.ite_none_right_eq_some.mp allowed).1
    | _ => exact contains.elim
  | nftTransaction t timeout =>
    obtain ⟨emergency, about⟩ := contains
    cases known : l.about with
    | none => simp [next, emergency, known] at allowed
    | some s' =>
      obtain rfl : s = s' := Option.some.inj (about.symm.trans (holds.about s' known))
      refine ⟨rfl, ?_⟩
      by_contra uncleared
      simp [next, emergency, known, uncleared] at allowed
  | _ => exact contains.elim

/-- Whoever contains a session holds the transition lock, and the marker does not ask for the stop of the session. -/
theorem contains_unasked (reached : (system py session).Reached anyStep (.start session h) cfg)
    (performs : (system py session).Performs cfg i c o r w) (contains : Contains cfg.world i s o) :
    cfg.world.host.transition = some i ∧ unasked s cfg.world.host.marker = true := by
  obtain ⟨l, l', _, holds, allowed⟩ := (regime py session h).allowed reached performs
  obtain ⟨_, clears⟩ := contains_cleared holds allowed contains
  obtain ⟨marker, file, rechecked, cleared, _⟩ := clears_rechecked clears
  refine ⟨holds.alone (by simp [rechecked]), ?_⟩
  rcases holds.looked marker (by simp [rechecked]) with same | gone
  · rw [same, cleared]
  · rw [gone]
    rfl

/-! ### The end of a session -/

/-- The operation does not take the stop of the session back. -/
def keeps (session : String) : Op → Bool
  | .unlinkMarker => false
  | .replaceMarker stopped => !unasked session (.json (.obj [("session_id", stopped)]))
  | _ => true

/-- Once the marker asked for the stop of the session, nobody drops it and nobody replaces it with that of another
    session. -/
def Standing (session : String) : Condition Op Op.Res World Call :=
  fun w _ _ o _ => w.stopped = true → keeps session o = true

instance (session : String) (w : World) (i : ℕ) (c : Call) (o : Op) (r : o.Res) :
    Decidable (Standing session w i c o r) :=
  inferInstanceAs (Decidable (w.stopped = true → keeps session o = true))

/-- The marker still asks for what it once asked for. -/
theorem stopped_asked (reached : (system py session).Reached (Standing session) (.start session h) cfg) :
    cfg.world.stopped = true → unasked session cfg.world.host.marker = false := by
  induction reached with
  | start => simp [Config.start, World.start]
  | begin _ _ begins ih =>
    obtain rfl := Option.some.inj begins
    exact ih
  | @op cfg i c o k fate r w _ _ performs meets ih =>
    obtain ⟨⟨r', h'⟩, performed, same⟩ := Option.map_eq_some_iff.mp performs
    obtain ⟨rfl, rfl⟩ := Prod.mk.inj same
    intro stopped
    rcases Bool.or_eq_true_iff.mp stopped with before | now
    · have asked := ih before
      rcases Host.perform_effect performed with rfl | rfl
      · exact asked
      · have kept := meets before
        cases o with
        | unlinkMarker => simp [keeps] at kept
        | replaceMarker other =>
          have asks : unasked session (.json (.obj [("session_id", other)])) = false := by simpa [keeps] using kept
          exact asks
        | release => exact (congrArg (unasked session) release_marker).trans asked
        | _ => exact asked
    · simpa using now
  | leave _ _ ih => exact fun stopped => (congrArg (unasked session) release_marker).trans (ih stopped)
  | divert _ _ _ ih => exact ih
  | env _ environ ih =>
    obtain rfl := Option.some.inj environ
    exact ih

/-- A stop is final while no other session takes its marker: in every run of commands, supervisors, late containments
    and handlers of any sessions, in which nobody replaces or drops the marker that asked for the stop of the session,
    nobody contains the session once the marker asked for its stop; and whoever contains it before holds the
    transition lock. -/
theorem stop_final {py : Interpreter} {session : String} {h : Host} {cfg : Config Op Op.Res Exc World Call} {i : ℕ}
    {c : Call} {o : Op}
    {r : o.Res} {w : World} (reached : (system py session).Reached (Standing session) (.start session h) cfg)
    (performs : (system py session).Performs cfg i c o r w) (contains : Contains cfg.world i session o) :
    cfg.world.stopped = false ∧ cfg.world.host.transition = some i := by
  obtain ⟨alone, cleared⟩ := contains_unasked (reached_mono (fun _ _ _ _ _ _ => trivial) reached) performs contains
  refine ⟨?_, alone⟩
  by_contra stopped
  simp [stopped_asked reached (by simpa using stopped)] at cleared

/-! ### The end of a session after which others come -/

/-- Whoever rechecks the lock for the session under the transition lock, once it was stopped and the marker does not
    ask for its stop any more, does not find a lock that lets the containment go on. -/
def settled (session : String) (w : World) (i : ℕ) (c : Call) : (o : Op) → o.Res → Bool
  | .readLock, file => !(w.stopped && w.host.transition == some i && (sessionIn file).or (w.about i) == some session &&
      unasked session w.host.marker && intends c.despite session file)
  | _, _ => true

def Settled (session : String) : Condition Op Op.Res World Call := fun w i c o r => settled session w i c o r = true

instance (session : String) (w : World) (i : ℕ) (c : Call) (o : Op) (r : o.Res) :
    Decidable (Settled session w i c o r) :=
  inferInstanceAs (Decidable (settled session w i c o r = true))

/-- What the process rechecked before the stop. -/
def Passed (session : String) (c : Call) (w : World) (l : Known) : Prop := ∀ marker file,
  l.hold = .rechecked marker file → l.about = some session → unasked session marker = true →
    intends c.despite session file = true → w.stopped = false

/-- A marker that asks for the stop of the session was seen. -/
def Seen (session : String) (w : World) : Prop := unasked session w.host.marker = false → w.stopped = true

theorem stopped_same {h' : Host} (seen : Seen session w)
    (marker : h'.marker = w.host.marker ∨ h'.marker = .missing) :
    (w.stopped || !unasked session h'.marker) = w.stopped := by
  rcases marker with same | gone
  · rw [same]
    cases asked : unasked session w.host.marker with
    | true => simp
    | false => simp [seen asked]
  · rw [gone]
    exact Bool.or_false _

/-- The recheck of the lock passes only before the stop. -/
theorem passed_recheck {l : Known} {file : Loaded} (holds : Holds w i l)
    (meets : Settled session w i c .readLock file) :
    Passed session c w ⟨(sessionIn file).or l.about, l.hold.recheck file⟩ := by
  intro marker file' rechecked about cleared intended
  have looked : l.hold = .looked marker ∧ file = file' := by
    cases hold : l.hold with
    | looked m => simpa [hold, Hold.recheck] using rechecked
    | free | held | rechecked => simp [hold, Hold.recheck] at rechecked
  obtain ⟨looked, rfl⟩ := looked
  have alone : w.host.transition = some i := holds.alone (by simp [looked])
  have ours : (sessionIn file).or (w.about i) = some session := by
    cases named : sessionIn file with
    | some s' => simpa [named] using about
    | none => exact holds.about session (by simpa [named] using about)
  have unaskedNow : unasked session w.host.marker = true := by
    rcases holds.looked marker (by simp [looked]) with same | gone
    · rw [same, cleared]
    · rw [gone]
      rfl
  by_contra stopped
  simp [Settled, settled, alone, ours, unaskedNow, intended, stopped] at meets

/-- What an operation of a process does to what was rechecked. -/
theorem passed_op {l l' : Known} {w' : World} {fate : Fate} (seen : Seen session w) (holds : Holds w i l)
    (passed : Passed session c w l) (performs : (system py session).perform i c w o fate = some (r, w'))
    (meets : Settled session w i c o r) (allowed : next despite l o r = some l') :
    Seen session w' ∧ Passed session c w' l' ∧
      ∀ j c' m, j ≠ i → Holds w j m → Passed session c' w m → Passed session c' w' m := by
  obtain ⟨⟨r', h'⟩, performed, same⟩ := Option.map_eq_some_iff.mp performs
  obtain ⟨rfl, rfl⟩ := Prod.mk.inj same
  have idle {w' : World} {c' : Call} {m : Known} (idle : ∀ marker file, m.hold ≠ .rechecked marker file) :
      Passed session c' w' m :=
    fun marker file rechecked => absurd rechecked (idle marker file)
  refine ⟨fun asked => by simp [show unasked session h'.marker = false from asked], ?_⟩
  by_cases replaced : kind o = .replaceMarker
  · cases o with
    | replaceMarker other =>
      have alone : w.host.transition = some i := holds.alone fun free => by simp [next, free] at allowed
      have held' : l'.hold = .held := by
        simp only [next] at allowed
        split at allowed
        · simp at allowed
        · rw [← Option.some.inj allowed]
      refine ⟨idle (by simp [held']), fun j c' m other held _ => idle fun marker file rechecked => ?_⟩
      have busy := held.alone (by simp [rechecked])
      exact other (Option.some.inj (busy.symm.trans alone))
    | nftTransaction t timeout => rcases kind_transaction t timeout with same | same <;> simp [same] at replaced
    | _ => simp [kind] at replaced
  · have marker : h'.marker = w.host.marker ∨ h'.marker = .missing := by
      rcases Host.perform_effect performed with rfl | rfl
      · exact .inl rfl
      · exact effect_dropped replaced
    have keeps {c' : Call} {m : Known} (before : Passed session c' w m) :
        Passed session c' ⟨h', w.note i o r', w.stopped || !unasked session h'.marker⟩ m :=
      fun marker' file rechecked about cleared intended =>
        (stopped_same seen marker).trans (before marker' file rechecked about cleared intended)
    refine ⟨keeps ?_, fun _ _ _ _ _ => keeps⟩
    by_cases tells : kind o ∈ telling
    · cases o with
      | readLock =>
        obtain rfl := Option.some.inj allowed
        exact passed_recheck holds meets
      | acquire timeout =>
        cases r' with
        | ok _ =>
          obtain rfl := Option.some.inj allowed
          exact idle (by simp)
        | error e =>
          obtain rfl := Option.some.inj allowed
          exact passed
      | release =>
        obtain rfl := Option.some.inj allowed
        exact idle (by simp)
      | readMarker =>
        obtain rfl := Option.some.inj allowed
        refine idle fun _ _ => ?_
        cases l.hold <;> simp [Hold.look]
      | replaceMarker => exact absurd rfl replaced
      | nftTransaction t timeout => rcases kind_transaction t timeout with same | same <;> simp [same, telling] at tells
      | _ => simp [kind, telling] at tells
    · obtain rfl := next_same tells allowed
      exact passed

/-- The invariant of the runs in which the stop stands, or the lock of another session does. -/
def settledRegime (py : Interpreter) (session : String) (h : Host) :
    Regime (system py session) (Settled session) (.start session h) Known where
  next c := next c.despite
  entry c := ⟨c.session, .free⟩
  Shared := Seen session
  Local w i c l := Holds w i l ∧ Passed session c w l
  follows := program_follows
  first asked := by simp [World.start, show unasked session h.marker = false from asked]
  begin := by
    intro w i c w' seen begins
    obtain ⟨_, here, others⟩ := (regime py session h).begin trivial begins
    obtain rfl := Option.some.inj begins
    exact ⟨seen, ⟨here, fun _ _ none => by cases none⟩, fun j c' l other held => ⟨others j c' l other held.1, held.2⟩⟩
  op := by
    intro w i c l o fate r w' l' seen held performs meets allowed
    obtain ⟨here, others⟩ := holds_op held.1 performs allowed
    obtain ⟨seen', passed, kept⟩ := passed_op seen held.1 held.2 performs meets allowed
    exact ⟨seen', ⟨here, passed⟩, fun j c' m other held => ⟨others j m other held.1, kept j c' m other held.1 held.2⟩⟩
  leave := by
    intro w i c l seen _
    refine ⟨fun asked => seen ?_, fun j c' m other held => ⟨holds_released held.1 other, held.2⟩⟩
    rw [← asked]
    exact (congrArg (unasked session) release_marker).symm
  divert := by
    intro w i c l c' _ held diverts
    exact ⟨(regime py session h).divert trivial held.1 diverts, fun _ _ none => by cases none⟩
  env := by
    intro w file w' seen environ
    obtain ⟨_, others⟩ := (regime py session h).env trivial environ
    obtain rfl := Option.some.inj environ
    exact ⟨seen, fun i c l held => ⟨others i c l held.1, held.2⟩⟩

/-- A stop is final whatever other sessions come and go: once the marker asked for the stop of the session, nobody
    contains it, as long as whoever looks for it after its marker was dropped or replaced does not find a lock that
    lets the containment go on. -/
theorem stopped_uncontained {py : Interpreter} {session : String} {h : Host} {cfg : Config Op Op.Res Exc World Call}
    {i : ℕ} {c : Call} {o : Op} {r : o.Res} {w : World}
    (reached : (system py session).Reached (Settled session) (.start session h) cfg)
    (stopped : cfg.world.stopped = true) (performs : (system py session).Performs cfg i c o r w) :
    ¬ Contains cfg.world i session o := by
  intro contains
  obtain ⟨l, l', _, ⟨holds, passed⟩, allowed⟩ := (settledRegime py session h).allowed reached performs
  obtain ⟨about, clears⟩ := contains_cleared holds allowed contains
  obtain ⟨marker, file, rechecked, cleared, intended⟩ := clears_rechecked clears
  simp [passed marker file rechecked about cleared intended] at stopped

end

/-- The handler of the supervisor's end, up to the write of the emergency record. -/
def handler : List (Act Call Fate Loaded) :=
  .begin 0 (.command (.terminated (some "a"))) :: List.replicate 7 (.op 0 .ok) ++ [.op 0 (.time 1)]

/-- The process is about to write the emergency record of the session. -/
def latching (session : String) : Option (Call × Py Unit) → Bool
  | some (_, .call (.writeRecord .emergency s _) _) => s = session
  | _ => false

theorem latching_some {session : String} {x : Option (Call × Py Unit)} (latches : latching session x = true) :
    ∃ c payload k, x = some (c, .call (.writeRecord .emergency session payload) k) := by
  unfold latching at latches
  split at latches
  case h_1 c s payload k =>
    obtain rfl := of_decide_eq_true latches
    exact ⟨c, payload, k, rfl⟩
  case h_2 => simp at latches

/-- The lock is lost, and the handler writes the record under the transition lock, as nobody asked for a stop. -/
theorem stop_final_lost : ∃ cfg : Config Op Op.Res Exc World Call, latching "a" (cfg.procs 0) = true ∧
    cfg.world.stopped = false ∧ cfg.world.host.transition = some 0 := by
  have ran : (((system .cpython "a").run (Standing "a") (.start (.start "a" Persistence.running))
    (.env .missing :: handler)).map
      fun cfg => latching "a" (cfg.procs 0)) = some true := by decide +kernel
  obtain ⟨cfg, run, latches⟩ := Option.map_eq_some_iff.mp ran
  obtain ⟨c, payload, k, running⟩ := latching_some latches
  exact ⟨cfg, latches, stop_final (reached_run .start run) ⟨k, .ok, running, rfl⟩ rfl⟩

/-! ### A handler that comes late -/

def startArgs : StartArgs :=
  { config := .ok {}, rules := ⟨107, 9041, 9054, true, false, true, none, none, none, false⟩, lock := {} }

/-- The session under the rules that a start installs. -/
def shielded : Host :=
  { Persistence.running with table := some (Builder.buildRuleset startArgs.rules), tor := true, overlay := true }

/-- A stop, to its end. -/
def stops (i : ℕ) : List (Act Call Fate Loaded) :=
  .begin i (.stop false) :: List.replicate 35 (.op i .ok) ++ [.leave i]

/-- How the operations of a start turn out. -/
def outcomes (session : String) : List Fate :=
  List.replicate 6 .ok ++ .ready true :: List.replicate 8 .ok ++ .ready false :: List.replicate 4 .ok ++
    [.name session, .ok, .ok, .ok, .ok, .verification ⟨.confirmed, "tor.confirmed", none, some 1, []⟩, .ok, .time 1,
      .ok, .ok, .ok]

/-- A start of the session, to its end. -/
def starts (i : ℕ) (session : String) : List (Act Call Fate Loaded) :=
  .begin i (.command (.start startArgs)) :: (outcomes session).map (.op i) ++ [.leave i]

/-- A containment of the stopped session comes when its marker was dropped, and finds the lock of the next one. -/
theorem stopped_uncontained_next : ∃ cfg : Config Op Op.Res Exc World Call, cfg.world.stopped = true ∧
    unasked "a" cfg.world.host.marker = true ∧ ∀ i c o r w, (system .cpython "a").Performs cfg i c o r w →
      ¬ Contains cfg.world i "a" o := by
  have ran : (((system .cpython "a").run (Settled "a") (.start (.start "a" shielded))
    (stops 1 ++ starts 2 "b" ++ .begin 0 (.request (requiredLock "a") terminatedCause true false) ::
      List.replicate 3 (.op 0 .ok))).map fun cfg => cfg.world.stopped && unasked "a" cfg.world.host.marker) =
      some true := by decide +kernel
  obtain ⟨cfg, run, found⟩ := Option.map_eq_some_iff.mp ran
  obtain ⟨stopped, unasked⟩ := Bool.and_eq_true_iff.mp found
  exact ⟨cfg, stopped, unasked, fun _ _ _ _ _ performs => stopped_uncontained (reached_run .start run) stopped performs⟩

/-- The handler of a session that was stopped, and after which another one was started and stopped, contains it. -/
theorem stopped_contained : ∃ cfg : Config Op Op.Res Exc World Call,
    (system .cpython "a").Reached anyStep (.start "a" shielded) cfg ∧ cfg.world.stopped = true ∧
    ∃ c o r w, (system .cpython "a").Performs cfg 0 c o r w ∧ Contains cfg.world 0 "a" o := by
  have ran : (((system .cpython "a").run anyStep (.start (.start "a" shielded))
    (stops 1 ++ starts 2 "b" ++ stops 3 ++ handler)).map fun cfg =>
      cfg.world.stopped && latching "a" (cfg.procs 0)) = some true := by decide +kernel
  obtain ⟨cfg, run, found⟩ := Option.map_eq_some_iff.mp ran
  obtain ⟨stopped, latches⟩ := Bool.and_eq_true_iff.mp found
  obtain ⟨c, payload, k, running⟩ := latching_some latches
  exact ⟨cfg, reached_run .start run, stopped, c, _, _, _, ⟨k, .ok, running, rfl⟩, rfl⟩

end Ttp.StopMarker
