import Ttp.Conduct
import Ttp.Containment
import Ttp.Latch

/-!
An emergency of a session that the lock names: once the emergency table and the latch are both in
place, they stay in place whatever commands, supervisors and handlers run, in any order and with any
failures, until somebody stops the session. Commands that could take the table down look at the lock
or the latch first and end there.
-/
namespace Ttp.Persistence
open Ttp.Python Ttp.Evidence Ttp.Program Ttp.Machine Ttp.State Ttp.Records Ttp.Firewall Ttp.SessionSafety Ttp.Watchdog
open Ttp.Lifecycle Ttp.Start Ttp.Footprint
open Ttp.Conduct (Tolerant harmless checked_obeys external_obeys readLock_obeys prepare_obeys startWatchdog_obeys
  step_obeys validateStart_obeys)
open Ttp.Containment (recordOf)
open Ttp.SessionSettings (Settings)

/-! ### The system -/

/-- `trigger_emergency_killswitch`, for a component that its sanitization leaves as it is. -/
def triggerEmergencyKillswitch (py : Interpreter) (component : String) : Py Result := do
  match ← readLock true with
  | none => pure {}
  | some lock => requestEmergency py lock (Latch.alertCause component) false false

inductive Call where
  | start (a : StartArgs)
  | restart (a : StartArgs)
  | signal
  | check (config : Except Exc Settings)
  | watchdogStart (config : Except Exc Settings)
  | watchdogStop
  | supervisor (instanceId : String) (n : ℕ)
  | terminated (expected : Option String)
  | alert (component : String)

def program (py : Interpreter) : Call → Py Unit
  | .start a => startCommand py a
  | .restart a => restartCommand py a
  | .signal => signalHandler py
  | .check config => do let _ ← checkSession py config
  | .watchdogStart config => watchdogStart py config
  | .watchdogStop => watchdogStop
  | .supervisor instanceId n => runSupervisor py instanceId n
  | .terminated expected => do let _ ← supervisionTerminated py expected
  | .alert component => do let _ ← triggerEmergencyKillswitch py component

/-- The calls that take a table down where they find no emergency of the session. -/
def Call.looks : Call → Bool
  | .start _ => true
  | .restart _ => true
  | .signal => true
  | _ => false

/-- The lock names the session. -/
def names (session : String) : Loaded → Bool
  | .json (.obj lock) => (Obj.get lock "session_id").isStr session
  | _ => false

/-- The emergency record does not read as the session's. -/
def absent (py : Interpreter) (session boot : String) (file : Loaded) : Bool :=
  match recordOf py .emergency session boot file with
  | .ok none => true
  | _ => false

/-- The emergency is latched, and its table is in the kernel. -/
def inPlace (py : Interpreter) (session : String) (h : Host) : Bool :=
  !absent py session h.bootId (h.records .emergency session) && h.table.any matchesEmergencyContract

/-- The host, and whether the emergency ever was in place. -/
structure World where
  host : Host
  contained : Bool

def World.start (py : Interpreter) (session : String) (h : Host) : World := ⟨h, inPlace py session h⟩

/-- The calls for the session. Those that look for an emergency begin once there is one. -/
def system (py : Interpreter) (session : String) : System Op Op.Res Exc World Call Fate Empty where
  program := program py
  perform i _ w o fate := (w.host.perform i o fate).map fun done =>
  (done.1, ⟨done.2, w.contained || inPlace py session done.2⟩)
  begins _ c w := if c.looks && !w.contained then none else some w
  ends i _ w := { w with host := w.host.effect i .release }
  environ e _ := e.elim
  diverts _ _ _ := none

/-! ### The protocol -/

/-- What a process read: the session, or something that may be another one. -/
inductive Known where
  | session
  | other
deriving DecidableEq

section
variable (py : Interpreter) (session boot : String)

/-- As long as all that it read is of the session, a process keeps the lock, the latch and the table. -/
def next (c : Call) : Known → (o : Op) → o.Res → Option Known
  | .other, _, _ => some .other
  | .session, .readLock, file => some (if names session file then .session else .other)
  | .session, .bootId, .ok id => some (if id = boot then .session else .other)
  | .session, .readRecord .emergency s, .ok file =>
    some (if c.looks && s = session && absent py session boot file then .other else .session)
  | .session, .readRecord .emergency s, .error e =>
    some (if c.looks && s = session && e = .osError "FileNotFoundError" then .other else .session)
  | .session, .replaceLock data, _ => if (Obj.get data "session_id").isStr session then some .session else none
  | .session, .writeRecord .emergency s payload, _ =>
    if s = session && absent py session boot (.json payload) then none else some .session
  | .session, .nftTransaction t _, _ => if matchesEmergencyContract t then some .session else none
  | .session, .unlinkLock, _ => none
  | .session, .nftInsert .., _ => none
  | .session, .nftFlush, _ => none
  | .session, .nftDelete, _ => none
  | .session, _, _ => some .session

end

/-- The kinds of operations that may take something of the emergency away. -/
def risky : List Kind := [.replaceLock, .unlinkLock, .record .emergency, .table]

theorem payloadOf_envelope_owner {py : Interpreter} {session boot : String} {now : ℚ} {data : Obj} {payload : Payload}
    (read : payloadOf py (envelope session boot now data) = .ok payload) :
    payload.sessionId = session ∧ payload.bootId = boot := by
  have checks : payloadOf py (envelope session boot now data) =
      if session = "" then .error (.stateError "Invalid observation payload")
      else if py.isUuid boot then do
        let writtenAt ← timestamp (.float (.finite now))
        .ok { sessionId := session, bootId := boot, writtenAt, data }
      else .error (.valueError "badly formed hexadecimal UUID string") := rfl
  rw [checks] at read
  split_ifs at read
  obtain ⟨writtenAt, _, same⟩ := bind_ok read
  obtain rfl := Except.ok.inj same
  exact ⟨rfl, rfl⟩

section
variable {py : Interpreter} {session boot : String} {c : Call} {l : Known} {timeout : ℚ}

theorem next_safe {o : Op} {r : o.Res} (safe : kind o ∉ risky) : ∃ l', next py session boot c l o r = some l' := by
  cases l with
  | other => exact ⟨_, rfl⟩
  | session =>
    cases o with
    | replaceLock | unlinkLock | nftInsert | nftFlush | nftDelete => simp [kind, risky] at safe
    | writeRecord name s payload =>
      cases name with
      | emergency => simp [kind, risky] at safe
      | _ => exact ⟨_, rfl⟩
    | nftTransaction t timeout =>
      refine ⟨.session, if_pos ?_⟩
      by_contra other
      simp [kind, risky, other] at safe
    | readRecord name s => cases name <;> cases r <;> exact ⟨_, rfl⟩
    | bootId => cases r <;> exact ⟨_, rfl⟩
    | _ => exact ⟨_, rfl⟩

theorem safe_obeys {α : Type} {p : Py α} (kinds : List Kind) (used : p.Uses (among kinds))
    (safe : ∀ k ∈ kinds, k ∉ risky) :
    p.Obeys (next py session boot c) :=
  obeys_of_uses used fun _ _ _ inside => next_safe (safe _ inside)

/-- Once it read something else, a process is free. -/
theorem other_follows {α : Type} (p : Py α) : p.Follows (next py session boot c) .other fun _ l' => l' = .other :=
  follows_of_uses (uses_any p) fun _ _ _ => rfl

theorem other_obeys {α : Type} {p : Py α} (session' : p.Follows (next py session boot c) .session fun _ _ => True) :
    p.Obeys (next py session boot c) := by
  intro l
  cases l with
  | session => exact session'
  | other => exact follows_mono (other_follows p) fun _ _ _ => trivial

/-- The lock that was read is the session's. -/
theorem readLock_follows {strict : Bool} : (readLock strict).Follows (next py session boot c) l fun x l' =>
    l' = .other ∨ l' = .session ∧ ∃ lock : Obj, x = .ok (some lock) ∧ lock.get "session_id" = .str session := by
  cases l with
  | other => exact follows_mono (other_follows _) fun _ _ other => .inl other
  | session =>
    intro file
    refine ⟨_, rfl, ?_⟩
    apply (follows_ofExcept _).mpr
    split
    case isTrue named =>
      unfold names at named
      split at named
      case h_1 lock => exact Or.inr ⟨rfl, lock, rfl, isStr_eq named⟩
      case h_2 => simp at named
    case isFalse => exact Or.inl rfl

/-! ### Containment -/

/-- A record of the session that is written is there for whoever reads it. -/
theorem envelope_absent {now : ℚ} {data : Obj} :
    absent py session boot (.json (envelope session boot now data)) = false := by
  unfold absent recordOf
  simp only [Loaded.loads, Except.bind]
  cases read : payloadOf py (envelope session boot now data) with
  | ok payload =>
    obtain ⟨ours, booted⟩ := payloadOf_envelope_owner read
    simp [ours, booted]
  | error e =>
    have found : e ≠ .osError "FileNotFoundError" := by
      rintro rfl
      simpa [Exc.isStateError, Exc.isValueError] using payloadOf_error py read
    dsimp only [Containment.unreadable]
    rw [if_neg found]
    cases e.isOSError || e.isValueError <;> rfl

theorem write_obeys {s : String} {data : Obj} :
    (Records.write py .emergency s data).Obeys (next py session boot c) := by
  apply other_obeys
  cases named : filename py s with
  | error e =>
    rw [Records.write, named]
    trivial
  | ok _ =>
  rw [Records.write, bind_filename py named]
  apply follows_handle (Q := fun _ _ => True)
  · intro read
    cases read with
    | error e => exact ⟨.session, rfl, trivial⟩
    | ok id =>
      refine ⟨_, rfl, ?_⟩
      split
      case isFalse => exact follows_mono (other_follows _) fun _ _ _ => trivial
      case isTrue same =>
        subst same
        intro now
        refine ⟨.session, rfl, ?_⟩
        apply follows_bind (Q := fun _ l' => l' = .session) ((follows_ofExcept _).mpr rfl)
        · rintro _ _ rfl done
          have kept : (decide (s = session) && absent py session id (.json (envelope s id now data))) = false := by
            by_cases ours : s = session
            · subst ours
              simp [envelope_absent]
            · simp [ours]
          refine ⟨.session, by simp [next, kept], ?_⟩
          cases done <;> trivial
        · exact fun _ _ _ => trivial
  · exact fun _ _ _ => trivial
  · intro e l' _
    split <;> trivial

theorem publish_obeys {s : String} {data : Obj} {diagnostic : Diagnostic} :
    (publish py s data diagnostic).Obeys (next py session boot c) :=
  obeys_catch (obeys_bind write_obeys fun _ => obeys_pure _) fun _ => obeys_pure _

theorem enforce_obeys {repair : Bool} {applied : Json} :
    (enforce repair timeout applied).Obeys (next py session boot c) := by
  have inspects : (inspectEmergencyRules timeout).Obeys (next py session boot c) :=
    safe_obeys _ (inspect_uses (List.mem_singleton_self Kind.quiet)) (by decide)
  have installs : (applyEmergencyKillswitch timeout).Obeys (next py session boot c) := by
    refine safe_obeys [.emergency] (killswitch_uses ?_) (by decide)
    simp [among, kind, emergencyTable_matches]
  have applies : (apply timeout).Obeys (next py session boot c) := by
    refine obeys_bind (obeys_catch (obeys_bind installs fun _ => obeys_pure _) fun _ => obeys_pure _) fun applied => ?_
    exact obeys_bind inspects fun _ => obeys_pure _
  unfold enforce
  split
  · refine obeys_bind inspects fun check => ?_
    split
    · exact obeys_pure _
    · exact applies
  · exact applies

theorem containLocked_obeys {s : String} {cause : Diagnostic} {repair required : Bool} {result : Result} :
    (containLocked py s cause repair required timeout result).Obeys (next py session boot c) := by
  refine obeys_bind ?_ fun intended => ?_
  · refine safe_obeys [.readMarker, .readLock] (stillIntended_uses ?_ ?_) (by decide) <;> decide
  · split
    · refine obeys_bind ?_ fun prior => obeys_bind publish_obeys fun latched => ?_
      · refine obeys_catch (obeys_bind ?_ fun previous => ?_) fun _ => obeys_pure _
        · exact safe_obeys [.quiet] (read_uses (by decide) (List.mem_singleton_self _)) (by decide)
        · split <;> exact obeys_pure _
      · exact obeys_bind enforce_obeys fun _ => obeys_bind publish_obeys fun _ => obeys_pure _
    · exact obeys_pure _

theorem transition_obeys {α : Type} {body : Py α} (obeys : body.Obeys (next py session boot c)) :
    (transition timeout body).Obeys (next py session boot c) := by
  have acquires : (checked (step (.acquire timeout))).Obeys (next py session boot c) :=
    safe_obeys [.transition] (checked_uses ⟨by simp [among, kind], fun _ => trivial⟩) (by decide)
  have releases : (step .release).Obeys (next py session boot c) :=
    safe_obeys [.transition] ⟨by simp [among, kind], fun _ => trivial⟩ (by decide)
  unfold transition
  split
  · exact obeys_raise _
  · exact obeys_bind acquires fun _ => obeys_always obeys releases

/-- A containment keeps the emergency that is there. -/
theorem requestEmergency_obeys {lock : Obj} {cause : Diagnostic} {repair required : Bool} :
    (requestEmergency py lock cause repair required).Obeys (next py session boot c) := by
  unfold requestEmergency
  split
  · exact obeys_pure _
  · refine obeys_bind (obeys_ofExcept _) fun timing => ?_
    refine obeys_bind (obeys_catch (transition_obeys containLocked_obeys) fun _ => obeys_pure _) fun contained => ?_
    split
    · exact obeys_pure _
    · exact safe_obeys [.quiet] (notify_uses fun _ => List.mem_singleton_self _) (by decide)

/-! ### The lock -/

/-- An update of what was read keeps the session in the lock. -/
theorem updateLockKeys_obeys {changes : Obj} (keeps : ∀ seen : Obj, seen.get "session_id" = .str session →
    (seen.update changes).get "session_id" = .str session) :
    (updateLockKeys changes).Obeys (next py session boot c) := by
  apply other_obeys
  apply follows_bind readLock_follows
  · rintro found l' (rfl | ⟨rfl, seen, read, ours⟩)
    · exact follows_mono (other_follows _) fun _ _ _ => trivial
    · obtain rfl := Except.ok.inj read
      apply follows_handle (Q := fun _ _ => True)
      · have replaces : (step (.replaceLock (seen.update changes))).Obeys (next py session boot c) := by
          apply other_obeys
          intro done
          exact ⟨.session, by simp [next, keeps seen ours, Json.isStr], trivial⟩
        have runtimeDir : (step .ensureRuntimeDir).Obeys (next py session boot c) :=
          safe_obeys [.quiet] ⟨by decide, fun _ => trivial⟩ (by decide)
        exact obeys_bind (checked_obeys runtimeDir) (fun _ => checked_obeys replaces) _
      · exact fun _ _ _ => trivial
      · intro e l' _
        split <;> trivial
  · exact fun _ _ _ => trivial

/-- Other keys are no matter. -/
theorem updateOthers_obeys {changes : Obj} (other : "session_id" ∉ changes.keys) :
    (updateLockKeys changes).Obeys (next py session boot c) :=
  updateLockKeys_obeys fun _ ours => (get_update changes other).trans ours

theorem tolerant : Tolerant py (next py session boot c) where
  allows _ _ _ inside := next_safe ((by decide : ∀ k ∈ harmless, k ∉ risky) _ inside)
  contains _ _ _ := requestEmergency_obeys
  updates _ other := updateOthers_obeys other

/-- The session that the command writes is the one that it read. -/
theorem watchdogStart_obeys {config : Except Exc Settings} (named : session ≠ "") :
    (watchdogStart py config).Obeys (next py session boot c) := by
  refine obeys_bind (external_obeys tolerant) fun _ =>
    other_obeys (follows_bind readLock_follows ?_ fun _ _ _ => trivial)
  rintro found l' (rfl | ⟨rfl, lock, read, ours⟩)
  · exact follows_mono (other_follows _) fun _ _ _ => trivial
  · obtain rfl := Except.ok.inj read
    have known : (lock.get "session_id").truthy = true := by simpa [ours, Json.truthy] using named
    refine obeys_bind (obeys_catch ?_ fun _ => obeys_raise _) (fun _ => obeys_catch ?_ fun _ => ?_) _
    · refine obeys_bind (obeys_ofExcept _) fun settings => obeys_bind (obeys_ofExcept _) fun selected => ?_
      rw [if_pos known, ours]
      show Prog.Obeys _ (Records.prepare >>= _)
      refine obeys_bind (prepare_obeys tolerant) fun _ => obeys_bind (obeys_ofExcept _) fun snapshot => ?_
      refine updateLockKeys_obeys fun seen _ => ?_
      simp [Obj.update, get_set]
    · exact obeys_bind (external_obeys tolerant) fun _ => startWatchdog_obeys tolerant
    · refine obeys_bind (readLock_obeys tolerant) fun current => obeys_bind requestEmergency_obeys fun _ => ?_
      exact obeys_raise _

/-! ### The handlers -/

theorem supervisionTerminated_obeys {expected : Option String} :
    (supervisionTerminated py expected).Obeys (next py session boot c) := by
  have terminated (lock : Obj) (required : Bool) :
      (terminatedLock py lock required).Obeys (next py session boot c) := by
    unfold terminatedLock
    split
    · exact obeys_pure _
    · exact requestEmergency_obeys
  refine obeys_bind (obeys_catch (obeys_bind (readLock_obeys tolerant) fun _ => obeys_pure _) fun _ => obeys_pure _)
    fun lock => ?_
  split
  · exact obeys_pure _
  · exact obeys_pure _
  · exact terminated _ _
  · split
    · exact obeys_pure _
    · exact terminated _ _
  · exact terminated _ _

theorem alert_obeys {component : String} :
    (triggerEmergencyKillswitch py component).Obeys (next py session boot c) := by
  refine obeys_bind (readLock_obeys tolerant) fun found => ?_
  split
  · exact obeys_pure _
  · exact requestEmergency_obeys

/-! ### Those that look for an emergency -/

/-- What such a call reads of the record: something else, or the emergency. -/
theorem read_follows (named : session ≠ "") (looks : c.looks = true) :
    (Records.read py .emergency session).Follows (next py session boot c) .session fun x l' =>
      l' = .other ∨ x ≠ .ok none := by
  rcases filename_named py named with filed | encodes
  swap
  · rw [read_unencodable encodes]
    exact Or.inr nofun
  rw [Records.read, bind_filename py filed]
  apply follows_bind (Q := fun x l' => l' = .other ∨ l' = .session ∧ ∀ id, x = .ok id → id = boot)
  · apply follows_handle (Q := fun x l' => l' = .other ∨ l' = .session ∧ ∀ id, x = .ok id → id = boot)
    · intro read
      cases read with
      | error e => exact ⟨.session, rfl, Or.inr ⟨rfl, fun _ none => by simp at none⟩⟩
      | ok id =>
        refine ⟨_, rfl, ?_⟩
        split
        case isTrue same => exact Or.inr ⟨rfl, fun _ told => (Except.ok.inj told).symm.trans same⟩
        case isFalse => exact Or.inl rfl
    · exact fun _ _ known => known
    · rintro e l' (other | ⟨same, _⟩)
      · split <;> exact Or.inl other
      · split <;> exact Or.inr ⟨same, fun _ none => by simp at none⟩
  · rintro id l' (rfl | ⟨rfl, known⟩)
    · exact follows_mono (other_follows _) fun _ _ other => Or.inl other
    · obtain rfl := known id rfl
      intro r
      cases r with
      | error e =>
        refine ⟨_, rfl, ?_⟩
        show Prog.Follows _ ((readError .emergency e).getD (.raise e)) _ _
        rw [Containment.readError_ofExcept]
        apply (follows_ofExcept _).mpr
        by_cases gone : e = .osError "FileNotFoundError"
        · exact Or.inl (by simp [looks, gone])
        · refine Or.inr fun unrecorded => ?_
          rw [Containment.unreadable, if_neg gone] at unrecorded
          split at unrecorded <;> simp at unrecorded
      | ok file =>
        refine ⟨_, rfl, ?_⟩
        show Prog.Follows _ (Prog.handle (do
          let content ← Prog.ofExcept file.loads
          let payload ← Prog.ofExcept (payloadOf py content)
          if payload.sessionId = session ∧ payload.bootId = id then pure (some payload) else pure none)
            (readError .emergency)) _ _
        rw [Containment.decoded_ofExcept]
        apply (follows_ofExcept _).mpr
        by_cases there : recordOf py .emergency session id file = .ok none
        · exact Or.inl (by simp [looks, absent, there])
        · exact Or.inr there
  · exact fun _ _ _ => Or.inr (by simp)

/-- What a look of such a call comes to: it read something else, or the emergency. -/
theorem latched_follows {lock : Obj} (named : session ≠ "") (ours : lock.get "session_id" = .str session)
    (looks : c.looks = true) :
    (emergencyLatched py lock).Follows (next py session boot c) .session fun x l' => l' = .other ∨ x ≠ .ok false := by
  have identity : sessionIdOf lock = some session := by simp [sessionIdOf, ours, named]
  unfold emergencyLatched
  rw [identity]
  apply follows_bind (read_follows named looks)
  · rintro found l' (rfl | there)
    · exact follows_mono (other_follows _) fun _ _ other => Or.inl other
    · cases found with
      | none => exact absurd rfl there
      | some record =>
        dsimp only
        split <;> exact Or.inr (by simp)
  · exact fun _ _ _ => Or.inr (by simp)

theorem session_truthy {lock : Obj} (named : session ≠ "") (ours : lock.get "session_id" = .str session) :
    (lock.get "session_id").truthy = true := by
  simpa [ours, Json.truthy] using named

/-- A signal handler that read the session's lock retains the session. -/
theorem retained_follows {lock : Obj} (named : session ≠ "") (looks : c.looks = true)
    (ours : lock.get "session_id" = .str session) :
    (retained py lock).Follows (next py session boot c) .session fun x l' => l' = .other ∨ x ≠ .ok false := by
  unfold retained
  rw [if_pos (session_truthy named ours)]
  apply follows_handle (latched_follows named ours looks)
  · exact fun _ _ held => held
  · rintro e l' (rfl | _)
    · split <;> exact Or.inl rfl
    · split <;> exact Or.inr (by simp)

/-- A restart that read the session's lock is refused. -/
theorem refuses_follows {lock : Obj} (named : session ≠ "") (looks : c.looks = true)
    (ours : lock.get "session_id" = .str session) :
    (do
      let latched ← (if (lock.get "session_id").truthy then emergencyLatched py lock else pure false : Py Bool)
      onlyIf latched (.raise (.exit 7)) : Py Unit).Follows (next py session boot c) .session fun x l' =>
      ∀ v, x = .ok v → l' = .other := by
  rw [if_pos (session_truthy named ours)]
  apply follows_bind (latched_follows named ours looks)
  · rintro latched l' (rfl | held)
    · exact follows_mono (other_follows _) fun _ _ other _ _ => other
    · have held : latched = true := by simpa using held
      subst held
      rintro v ⟨⟩
  · rintro e l' _ v ⟨⟩

/-- `check_session_state` lets nobody pass who read the session's lock. -/
theorem checkSessionState_follows (named : session ≠ "") :
    checkSessionState.Follows (next py session boot c) l fun x l' => ∀ v, x = .ok v → l' = .other := by
  apply follows_bind readLock_follows
  · rintro found l' (rfl | ⟨rfl, lock, read, ours⟩)
    · exact follows_mono (other_follows _) fun _ _ other _ _ => other
    · obtain rfl := Except.ok.inj read
      have known := session_truthy named ours
      have filled : lock.isEmpty = false := by
        cases lock with
        | nil => simp [Obj.get, Obj.find?, Json.truthy] at known
        | cons _ _ => rfl
      dsimp only
      rw [filled, if_neg Bool.false_ne_true, if_pos known]
      rintro v ⟨⟩
  · rintro e l' _ v ⟨⟩

/-- A start ends at the session's lock. -/
theorem startCommand_obeys (named : session ≠ "") {a : StartArgs} :
    (startCommand py a).Obeys (next py session boot c) := by
  refine obeys_bind (validateStart_obeys tolerant) fun selected =>
    obeys_bind (step_obeys tolerant (by decide)) fun _ => ?_
  refine obeys_bind (step_obeys tolerant (by decide)) fun _ => ?_
  intro l
  apply follows_bind (checkSessionState_follows named)
  · intro v l' passed
    obtain rfl := passed v rfl
    exact follows_mono (other_follows _) fun _ _ _ => trivial
  · exact fun _ _ _ => trivial

/-- A restart ends at the session's lock and its latch. -/
theorem restartCommand_obeys (named : session ≠ "") {a : StartArgs} (looks : c.looks = true) :
    (restartCommand py a).Obeys (next py session boot c) := by
  refine obeys_bind (external_obeys tolerant) fun _ => obeys_bind (external_obeys tolerant) fun _ =>
    obeys_bind (external_obeys tolerant) fun _ => ?_
  apply other_obeys
  apply follows_bind (Q := fun x l' => ∀ v, x = .ok v → l' = .other)
  · apply follows_handle (Q := fun x l' => ∀ v, x = .ok v → l' = .other)
    · apply follows_bind (Q := fun _ l' => l' = .session) ((follows_ofExcept _).mpr rfl)
      · rintro _ _ rfl
        apply follows_bind readLock_follows
        · rintro found l' (rfl | ⟨rfl, lock, read, ours⟩)
          · exact follows_mono (other_follows _) fun _ _ other _ _ => other
          · obtain rfl := Except.ok.inj read
            exact refuses_follows named looks ours
        · rintro e l' _ v ⟨⟩
      · rintro e l' _ v ⟨⟩
    · exact fun _ _ passed => passed
    · intro e l' _
      split <;> exact fun _ none => by simp at none
  · intro v l' passed
    obtain rfl := passed v rfl
    exact follows_mono (other_follows _) fun _ _ _ => trivial
  · exact fun _ _ _ => trivial

/-- A signal leaves a session with its latch alone. -/
theorem signalHandler_obeys (named : session ≠ "") (looks : c.looks = true) :
    (signalHandler py).Obeys (next py session boot c) := by
  apply other_obeys
  apply follows_bind readLock_follows
  · rintro found l' (rfl | ⟨rfl, lock, read, ours⟩)
    · exact follows_mono (other_follows _) fun _ _ _ => trivial
    · obtain rfl := Except.ok.inj read
      apply follows_bind (retained_follows named looks ours)
      · rintro latched l' (rfl | held)
        · exact follows_mono (other_follows _) fun _ _ _ => trivial
        · have held : latched = true := by simpa using held
          subst held
          trivial
      · exact fun _ _ _ => trivial
  · exact fun _ _ _ => trivial

theorem program_obeys (named : session ≠ "") : (program py c).Obeys (next py session boot c) := by
  cases c with
  | start a => exact startCommand_obeys named
  | restart a => exact restartCommand_obeys named rfl
  | signal => exact signalHandler_obeys named rfl
  | check config => exact obeys_bind (Conduct.checkSession_obeys tolerant) fun _ => obeys_pure _
  | watchdogStart config => exact watchdogStart_obeys named
  | watchdogStop => exact Conduct.watchdogStop_obeys tolerant
  | supervisor instanceId n => exact Conduct.runSupervisor_obeys tolerant
  | terminated expected => exact obeys_bind supervisionTerminated_obeys fun _ => obeys_pure _
  | alert component => exact obeys_bind alert_obeys fun _ => obeys_pure _

end

/-! ### The invariant -/

def reportedMissing : (o : Op) → o.Res → Bool
  | .readRecord .., .error e => e = .osError "FileNotFoundError"
  | _, _ => false

/-- A record file that is there is found. -/
def Found : Condition Op Op.Res World Call := fun _ _ _ o r => reportedMissing o r = false

instance (w : World) (i : ℕ) (c : Call) (o : Op) (r : o.Res) : Decidable (Found w i c o r) :=
  inferInstanceAs (Decidable (reportedMissing o r = false))

/-- The lock names the session, and an emergency that was in place still is. -/
structure Standing (py : Interpreter) (session boot : String) (w : World) : Prop where
  lock : names session w.host.lock = true
  booted : w.host.bootId = boot
  contained : w.contained = true → inPlace py session w.host = true

section
variable {py : Interpreter} {session boot : String} {c : Call} {w w' : World} {h : Host} {i : ℕ} {o : Op} {r : o.Res}
  {l' : Known} {fate : Fate}

/-- What a safe operation leaves as it is. -/
theorem effect_frame (safe : kind o ∉ risky) (stays : kind o ≠ .emergency) : (h.effect i o).lock = h.lock ∧
    (h.effect i o).bootId = h.bootId ∧ (h.effect i o).records .emergency = h.records .emergency ∧
    (h.effect i o).table = h.table := by
  cases o with
  | replaceLock | unlinkLock | nftInsert | nftFlush | nftDelete => simp [kind, risky] at safe
  | writeRecord name s payload =>
    cases name with
    | emergency => simp [kind, risky] at safe
    | _ => exact ⟨rfl, rfl, by simp [Host.effect, Host.setRecord], rfl⟩
  | nftTransaction t timeout =>
    rcases kind_transaction t timeout with same | same
    · exact absurd same stays
    · simp [same, risky] at safe
  | release =>
    simp only [Host.effect]
    split <;> exact ⟨rfl, rfl, rfl, rfl⟩
  | _ => exact ⟨rfl, rfl, rfl, rfl⟩

/-- The emergency is in place wherever the record and the table are the same. -/
theorem inPlace_same {h' : Host} (booted : h'.bootId = h.bootId)
    (records : h'.records .emergency = h.records .emergency)
    (table : h'.table = h.table) : inPlace py session h' = inPlace py session h := by
  rw [inPlace, inPlace, booted, records, table]

/-- What is true of the host after an operation that keeps the emergency. -/
theorem standing_after {h' : Host} (standing : Standing py session boot w) (lock : names session h'.lock = true)
    (booted : h'.bootId = w.host.bootId) (keeps : inPlace py session w.host = true → inPlace py session h' = true) :
    Standing py session boot ⟨h', w.contained || inPlace py session h'⟩ where
  lock := lock
  booted := booted.trans standing.booted
  contained := fun once => (Bool.or_eq_true_iff.mp once).elim (fun before => keeps (standing.contained before)) id

/-- What is read is the session's. -/
theorem reads_session {took : Bool} (standing : Standing py session boot w)
    (looks : c.looks = true → w.contained = true)
    (outcome : w.host.outcome o fate = some (r, took)) (found : Found w i c o r)
    (allowed : next py session boot c .session o r = some l') : l' = .session := by
  cases o with
  | readLock =>
    cases fate <;> simp only [Host.outcome, reduceCtorEq, Option.some.injEq, Prod.mk.injEq] at outcome
    obtain ⟨rfl, _⟩ := outcome
    simpa [next, standing.lock] using allowed.symm
  | bootId =>
    cases fate <;> simp only [Host.outcome, reduceCtorEq, Option.some.injEq, Prod.mk.injEq] at outcome
    case ok =>
      obtain ⟨rfl, _⟩ := outcome
      simpa [next, standing.booted] using allowed.symm
    case fails e =>
      obtain ⟨rfl, _⟩ := outcome
      exact (Option.some.inj allowed).symm
  | readRecord name s =>
    cases name with
    | emergency =>
      cases fate <;> simp only [Host.outcome, reduceCtorEq, Option.some.injEq, Prod.mk.injEq] at outcome
      case ok =>
        obtain ⟨rfl, _⟩ := outcome
        simp only [next, Option.some.injEq] at allowed
        subst allowed
        refine if_neg fun lost => ?_
        simp only [Bool.and_eq_true, decide_eq_true_eq] at lost
        obtain ⟨⟨looking, rfl⟩, gone⟩ := lost
        have there := standing.contained (looks looking)
        simp [inPlace, standing.booted, gone] at there
      case fails e =>
        obtain ⟨rfl, _⟩ := outcome
        simp only [next, Option.some.injEq] at allowed
        subst allowed
        refine if_neg fun lost => ?_
        have reported : decide (e = .osError "FileNotFoundError") = false := found
        simp [of_decide_eq_false reported] at lost
    | _ => cases r <;> exact (Option.some.inj allowed).symm
  | replaceLock data =>
    simp only [next] at allowed
    split at allowed
    · exact (Option.some.inj allowed).symm
    · simp at allowed
  | writeRecord name s payload =>
    cases name with
    | emergency =>
      simp only [next] at allowed
      split at allowed
      · simp at allowed
      · exact (Option.some.inj allowed).symm
    | _ => exact (Option.some.inj allowed).symm
  | nftTransaction t timeout =>
    simp only [next] at allowed
    split at allowed
    · exact (Option.some.inj allowed).symm
    · simp at allowed
  | unlinkLock | nftInsert | nftFlush | nftDelete => simp [next] at allowed
  | _ => exact (Option.some.inj allowed).symm

/-- What a process that read the session does keeps the emergency. -/
theorem effect_standing (standing : Standing py session boot w)
    (allowed : next py session boot c .session o r = some l') :
    names session (w.host.effect i o).lock = true ∧ (w.host.effect i o).bootId = w.host.bootId ∧
      (inPlace py session w.host = true → inPlace py session (w.host.effect i o) = true) := by
  have framed (safe : kind o ∉ risky) (stays : kind o ≠ .emergency) : names session (w.host.effect i o).lock = true ∧
      (w.host.effect i o).bootId = w.host.bootId ∧
      (inPlace py session w.host = true → inPlace py session (w.host.effect i o) = true) := by
    obtain ⟨lock, booted, records, table⟩ := @effect_frame w.host i o safe stays
    exact ⟨lock ▸ standing.lock, booted, fun there => (inPlace_same booted records table).trans there⟩
  cases o with
  | replaceLock data =>
    simp only [next] at allowed
    split at allowed
    case isTrue ours => exact ⟨ours, rfl, id⟩
    case isFalse => simp at allowed
  | writeRecord name s payload =>
    cases name with
    | emergency =>
      simp only [next] at allowed
      split at allowed
      case isTrue => simp at allowed
      case isFalse stays =>
        refine ⟨standing.lock, rfl, fun there => ?_⟩
        by_cases ours : session = s
        · subst ours
          have latched : absent py session w.host.bootId (.json payload) = false := by
            simpa [standing.booted] using stays
          simp only [inPlace, Bool.and_eq_true] at there
          simp [inPlace, Host.effect, Host.setRecord, latched, there.2]
        · simpa [inPlace, Host.effect, Host.setRecord, ours] using there
    | _ => exact framed (by simp [kind, risky]) (by simp [kind])
  | nftTransaction t timeout =>
    simp only [next] at allowed
    split at allowed
    case isTrue emergency =>
      refine ⟨standing.lock, rfl, fun there => ?_⟩
      simp only [inPlace, Bool.and_eq_true] at there
      simp [inPlace, Host.effect, there.1, emergency]
    case isFalse => simp at allowed
  | unlinkLock | nftInsert | nftFlush | nftDelete => simp [next] at allowed
  | _ => exact framed (by simp [kind, risky]) (by simp [kind])

/-- What an operation of a process that read the session comes to. -/
theorem standing_op (standing : Standing py session boot w) (looks : c.looks = true → w.contained = true)
    (performs : (system py session).perform i c w o fate = some (r, w')) (found : Found w i c o r)
    (allowed : next py session boot c .session o r = some l') : Standing py session boot w' ∧ l' = .session := by
  obtain ⟨⟨r', h'⟩, performed, same⟩ := Option.map_eq_some_iff.mp performs
  obtain ⟨rfl, rfl⟩ := Prod.mk.inj same
  obtain ⟨took, outcome, rfl⟩ := Host.perform_outcome.mp performed
  refine ⟨?_, reads_session standing looks outcome found allowed⟩
  obtain ⟨lock, booted, keeps⟩ := @effect_standing py session boot c w i o r' l' standing allowed
  cases took
  · exact standing_after standing standing.lock rfl id
  · exact standing_after standing lock booted keeps

end

/-- The invariant of the runs. -/
def regime (py : Interpreter) (session : String) (named : session ≠ "") (h : Host)
    (lock : names session h.lock = true) :
    Regime (system py session) Found (.start py session h) Known where
  next := next py session h.bootId
  entry _ := .session
  Shared := Standing py session h.bootId
  Local w _ c l := l = .session ∧ (c.looks = true → w.contained = true)
  follows _ := program_obeys named _
  first := ⟨lock, rfl, id⟩
  begin := by
    intro w i c w' standing begins
    simp only [system, Option.ite_none_left_eq_some, Option.some.injEq] at begins
    obtain ⟨gate, rfl⟩ := begins
    refine ⟨standing, ⟨rfl, fun looks => ?_⟩, fun _ _ _ _ held => held⟩
    simpa [looks] using gate
  op := by
    rintro w i c _ o fate r w' l' standing ⟨rfl, looks⟩ performs found allowed
    obtain ⟨standing', session'⟩ := standing_op standing looks performs found allowed
    have once : w.contained = true → w'.contained = true := by
      obtain ⟨done, _, same⟩ := Option.map_eq_some_iff.mp performs
      obtain ⟨_, rfl⟩ := Prod.mk.inj same
      intro before
      simp [before]
    exact ⟨standing', ⟨session', fun looking => once (looks looking)⟩,
      fun _ _ _ _ held => ⟨held.1, fun looking => once (held.2 looking)⟩⟩
  leave := by
    intro w i c l standing _
    obtain ⟨lock, booted, records, table⟩ := @effect_frame w.host i .release (by decide) (by decide)
    refine ⟨⟨lock ▸ standing.lock, booted.trans standing.booted, fun once => ?_⟩, fun _ _ _ _ held => held⟩
    exact (inPlace_same booted records table).trans (standing.contained once)
  divert := fun _ _ diverts => by simp [system] at diverts
  env := fun {_ e} => e.elim

/-- In every run of supervisors, checks, handlers and commands on a session that the lock names, with starts, restarts
    and signals from the time on at which the emergency was in place: once the table and the latch were both there,
    they are, and the lock names the session. -/
theorem emergency_stays {py : Interpreter} {session : String} {h : Host} {cfg : Config Op Op.Res Exc World Call}
    (named : session ≠ "")
    (lock : names session h.lock = true) (reached : (system py session).Reached Found (.start py session h) cfg) :
    names session cfg.world.host.lock = true ∧
      (cfg.world.contained = true → inPlace py session cfg.world.host = true) :=
  ⟨((regime py session named h lock).shared reached).lock, ((regime py session named h lock).shared reached).contained⟩

/-! ### A signal after the emergency -/

def running : Host := { Host.fresh with lock := .json (.obj (requiredLock "a")) }

/-- The handler of the supervisor's end contains the session, and the signal that follows leaves it alone. -/
def contains : List (Act Call Fate Empty) :=
  [.begin 0 (.terminated none), .op 0 .ok, .op 0 .ok, .op 0 .ok, .op 0 .ok, .op 0 .ok, .op 0 .ok, .op 0 .ok,
    .op 0 (.time 1), .op 0 .ok,
    .op 0 .ok, .op 0 .ok, .op 0 .ok, .op 0 .ok, .op 0 (.time 2), .op 0 .ok, .op 0 .ok, .leave 0,
    .begin 1 .signal, .op 1 .ok, .op 1 .ok, .op 1 .ok, .leave 1]

theorem emergency_stays_signal : ∃ cfg : Config Op Op.Res Exc World Call, cfg.world.contained = true ∧
    inPlace .cpython "a" cfg.world.host = true := by
  have ran : (((system .cpython "a").run Found (.start (.start .cpython "a" running)) contains).map fun cfg =>
    cfg.world.contained) =
      some true := by decide +kernel
  obtain ⟨cfg, reached, contained⟩ := Option.map_eq_some_iff.mp ran
  exact ⟨cfg, contained, (emergency_stays (by decide) (by decide) (reached_run .start reached)).2 contained⟩

end Ttp.Persistence
