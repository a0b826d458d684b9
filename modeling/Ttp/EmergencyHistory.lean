import Ttp.Containment
import Ttp.Footprint

/-!
Calls of `request_emergency` and `supervision_terminated`, one after the other,
on a host whose emergency records outlast them. The chronicle notes beside the
host what a reader of the records cannot see: which sessions the killswitch was
applied for, which causes reached the disk, what each call read, inspected and
wrote.
-/
namespace Ttp.EmergencyHistory
open Ttp.Python Ttp.Evidence Ttp.Program Ttp.Machine Ttp.State Ttp.Records Ttp.Firewall Ttp.SessionSafety
open Ttp.Containment (recordOf unreadable inspectionError_caught ensures_decoded ensures_unreadable)
open Ttp.Footprint (Kind kind among)

/-! ### The chronicle -/

/-- An emergency record that a call hands to the store. -/
structure Attempt where
  session : String
  payload : Json
  /-- The record was written. -/
  done : Bool
  /-- The killswitch had been applied for the session by then. -/
  known : Bool
  /-- An application of this call had failed by then. -/
  failed : Bool

structure Chronicle where
  host : Host
  /-- The sessions that the killswitch was applied for. -/
  applied : List String
  /-- The sessions and causes whose record was written. -/
  persisted : List (String × Diagnostic)
  /-- The sessions for which some call could not read the previous record. -/
  lost : List String
  /-- The session and the cause of the call. -/
  session : String
  cause : Diagnostic
  /-- What the call read as the previous record. -/
  read : Option (Except Exc (Option Payload))
  /-- What its last inspection found. -/
  checked : Option Bool
  failed : Bool
  attempts : List Attempt

namespace Chronicle

/-- The same notes beside another host. -/
def on (w : Chronicle) (h : Host) : Chronicle := { w with host := h }

/-- A call begins. -/
def call (w : Chronicle) (session : String) (cause : Diagnostic) : Chronicle :=
  { w with session, cause, read := none, checked := none, failed := false, attempts := [] }

def reads (w : Chronicle) (got : Except Exc (Option Payload)) : Chronicle :=
  { w with read := some got, lost := if got.isOk then w.lost else w.session :: w.lost }

def inspects (w : Chronicle) (verified : Bool) : Chronicle := { w with checked := some verified }

def applies (w : Chronicle) : Chronicle := { w with applied := w.session :: w.applied }

def fails (w : Chronicle) : Chronicle := { w with failed := true }

def writes (w : Chronicle) (session : String) (payload : Json) (done : Bool) : Chronicle :=
  { w with
    persisted := if done then (session, w.cause) :: w.persisted else w.persisted
    attempts := w.attempts ++ [⟨session, payload, done, w.applied.contains session, w.failed⟩] }

/-- What `read` reports when the boot identity cannot be determined. -/
def noBoot : Exc := .stateError "Cannot determine the current boot identity"

/-- The boot identity cannot be determined, which before the previous record was read is a failure
    to read it. -/
def unbooted (w : Chronicle) : Chronicle := if w.read.isNone then w.reads (.error noBoot) else w

end Chronicle

/-- The rules that an inspection found are the emergency table. -/
def verifies : Except Exc Listing → Bool
  | .ok (.table t) => matchesEmergencyContract t
  | _ => false

section
variable (py : Interpreter)

/-- What the chronicle notes of an operation. -/
def note (w : Chronicle) : (o : Op) → o.Res → Chronicle
  | .bootId, .error _ => w.unbooted
  | .readRecord .emergency _, .error e => w.reads (unreadable .emergency e)
  | .readRecord .emergency session, .ok file => w.reads (recordOf py .emergency session w.host.bootId file)
  | .nftListing _, r => w.inspects (verifies r)
  | .nftTransaction .., .ok _ => w.applies
  | .nftTransaction .., .error _ => w.fails
  | .writeRecord .emergency session payload, r => w.writes session payload r.isOk
  | _, _ => w

/-- Outcomes that occur: a file that is there is found, clocks run from the boot, an exit code is
    a byte, and exception classes have the names they have. -/
def possible (h : Host) : Op → Fate → Bool
  | .readRecord name session, .fails e =>
    (Op.readRecord name session).raises e &&
      (e != .osError "FileNotFoundError" ||
        match h.records name session with
        | .missing => true
        | _ => false)
  | .clock, .time q => 0 ≤ q
  | .nftListing _, .exits code => code < 256
  | .nftListing timeout, .fails e => (Op.nftListing timeout).raises e && e.typeName.length ≤ 40
  | o, .fails e => o.raises e
  | _, _ => true

def perform (w : Chronicle) (o : Op) (fate : Fate) : Option (o.Res × Chronicle) :=
  if possible w.host o fate then
    (w.host.perform 0 o fate).map fun done => (done.1, (note py w o done.1).on done.2)
  else none

end

/-! ### Its operations -/

section
variable {py : Interpreter} {w : Chronicle} {session : String}

/-- What an operation can come to. -/
theorem ensures_outcomes {o : Op} {Q : Except Exc o.Res → Chronicle → Prop} : (step o).Ensures (perform py) w Q ↔
    ∀ fate r took, possible w.host o fate = true → w.host.outcome o fate = some (r, took) →
      Q (.ok r) ((note py w o r).on (if took then w.host.effect 0 o else w.host)) := by
  constructor
  · intro all fate r took able outcome
    exact all fate r _ (by simp [perform, able, Host.perform, outcome])
  · intro all fate r w' performed
    unfold perform at performed
    split at performed
    case isTrue able =>
      simp only [Host.perform, Option.map_map, Option.map_eq_some_iff] at performed
      obtain ⟨⟨r', took⟩, outcome, same⟩ := performed
      obtain ⟨rfl, rfl⟩ := Prod.mk.inj same
      exact all fate r' took able outcome
    case isFalse => simp at performed

attribute [local simp] forall_fate Host.outcome Host.attempted possible Host.effect note Except.bind Op.raises

@[simp] theorem on_host : w.on w.host = w := rfl

@[simp] theorem reads_on {got : Except Exc (Option Payload)} : (w.reads got).on w.host = w.reads got := rfl

@[simp] theorem inspects_on {verified : Bool} : (w.inspects verified).on w.host = w.inspects verified := rfl

@[simp] theorem fails_on : w.fails.on w.host = w.fails := rfl

@[simp] theorem writes_on {payload : Json} {done : Bool} :
    (w.writes session payload done).on w.host = w.writes session payload done := rfl

@[simp] theorem unbooted_on : w.unbooted.on w.host = w.unbooted := by
  unfold Chronicle.unbooted
  split <;> rfl

theorem ensures_readLock {strict : Bool} {Q : Except Exc (Option Obj) → Chronicle → Prop} :
    (readLock strict).Ensures (perform py) w Q ↔ Q (lockOf strict w.host.lock) w := by
  have file {R : Except Exc Loaded → Chronicle → Prop} : (step .readLock).Ensures (perform py) w R ↔
      R (.ok w.host.lock) w := by
    rw [ensures_outcomes]
    simp [note]
  rw [readLock, ensures_bind, file]
  exact ensures_ofExcept _

theorem ensures_bootId {Q : Except Exc String → Chronicle → Prop} : (checked (step .bootId)).Ensures (perform py) w Q ↔
    Q (.ok w.host.bootId) w ∧ ∀ e, Op.bootId.raises e = true → Q (.error e) w.unbooted := by
  rw [ensures_checked, ensures_outcomes]
  simp

theorem ensures_clock {Q : Except Exc ℚ → Chronicle → Prop} :
    (step .clock).Ensures (perform py) w Q ↔ ∀ q, 0 ≤ q → Q (.ok q) w := by
  rw [ensures_outcomes]
  simp

/-- A record that is read gives its content; one that cannot be read was there. -/
theorem ensures_readRecord {Q : Except Exc Loaded → Chronicle → Prop}
    (ok : Q (.ok (w.host.records .emergency session))
      (w.reads (recordOf py .emergency session w.host.bootId (w.host.records .emergency session))))
    (fails : ∀ e, (Op.readRecord .emergency session).raises e = true →
      (e = .osError "FileNotFoundError" → w.host.records .emergency session = .missing) →
      Q (.error e) (w.reads (unreadable .emergency e))) :
    (checked (step (.readRecord .emergency session))).Ensures (perform py) w Q := by
  rw [ensures_checked, ensures_outcomes]
  intro fate r took able outcome
  cases fate with
  | ok =>
    obtain ⟨rfl, rfl⟩ : .ok (w.host.records .emergency session) = r ∧ true = took := by
      simpa [Host.outcome] using outcome
    exact ok
  | fails e =>
    obtain ⟨rfl, rfl⟩ : .error e = r ∧ false = took := by simpa [Host.outcome] using outcome
    simp only [possible, Bool.and_eq_true, Bool.or_eq_true, bne_iff_ne] at able
    refine fails e able.1 fun missing => ?_
    rcases able.2 with other | absent
    · exact absurd missing other
    · split at absent
      case h_1 gone => exact gone
      case h_2 => simp at absent
  | _ => simp [Host.outcome] at outcome

theorem ensures_writeRecord {payload : Json} {Q : Except Exc Unit → Chronicle → Prop} :
    (checked (step (.writeRecord .emergency session payload))).Ensures (perform py) w Q ↔
      Q (.ok ()) ((w.writes session payload true).on (w.host.setRecord .emergency session (.json payload))) ∧
        ∀ e, (Op.writeRecord .emergency session payload).raises e = true →
        Q (.error e) (w.writes session payload false) := by
  rw [ensures_checked, ensures_outcomes]
  simp [Except.isOk, Except.toBool]

theorem ensures_transaction {table : Nft.Table} {timeout : ℚ} {Q : Except Exc Unit → Chronicle → Prop} :
    (checked (step (.nftTransaction table timeout))).Ensures (perform py) w Q ↔
      Q (.ok ()) (w.applies.on { w.host with table := some table }) ∧
        ∀ e, e.isException = true → Q (.error e) w.fails := by
  rw [ensures_checked, ensures_outcomes]
  simp

theorem ensures_emit {event : String} {wait : Bool} {Q : Except Exc (Except Exc (List Diagnostic)) → Chronicle → Prop} :
    (step (.emit event wait)).Ensures (perform py) w Q ↔
      (∀ e, e.isException = true → Q (.ok (.error e)) w) ∧ ∀ ds, Q (.ok (.ok ds)) w := by
  rw [ensures_outcomes]
  simp

/-- The body of a transition runs with the lock held, if the lock was obtained. -/
theorem ensures_transition {α : Type} {timeout : ℚ} {body : Py α} {Q : Except Exc α → Chronicle → Prop}
    (refused : ∀ e, Q (.error e) w)
    (held : body.Ensures (perform py) (w.on { w.host with transition := some 0 })
      fun x w' => Q x (w'.on (w'.host.effect 0 .release))) : (transition timeout body).Ensures (perform py) w Q := by
  unfold transition
  split
  · exact refused _
  rw [ensures_bind, ensures_checked, ensures_outcomes]
  intro fate r took able outcome
  cases fate with
  | ok =>
    simp only [Host.outcome] at outcome
    split at outcome
    · obtain ⟨rfl, rfl⟩ : Except.ok () = r ∧ true = took := by simpa using outcome
      refine (ensures_always _ _).mpr (ensures_mono held fun x w' reached => ?_)
      rw [afterBody, ensures_outcomes]
      intro fate r took able outcome
      cases fate <;> simp only [Host.outcome, Option.some.injEq, Prod.mk.injEq, reduceCtorEq] at outcome
      obtain ⟨_, rfl⟩ := outcome
      exact reached
    · simp at outcome
  | fails e =>
    obtain ⟨rfl, rfl⟩ : Except.error e = r ∧ false = took := by simpa [Host.outcome] using outcome
    exact refused e
  | _ => simp [Host.outcome] at outcome

theorem ensures_listing {timeout : ℚ} {Q : Except Exc (Except Exc Listing) → Chronicle → Prop} :
    (step (.nftListing timeout)).Ensures (perform py) w Q ↔
      (∀ t, w.host.table = some t → Q (.ok (.ok (.table t))) (w.inspects (matchesEmergencyContract t))) ∧
        (w.host.table = none → Q (.ok (.ok (.exit 1))) (w.inspects false)) ∧
        (∀ e, (Op.nftListing timeout).raises e = true → e.typeName.length ≤ 40 →
          Q (.ok (.error e)) (w.inspects false)) ∧
        ∀ code, code < 256 → Q (.ok (.ok (.exit code))) (w.inspects false) := by
  rw [ensures_outcomes]
  cases table : w.host.table <;>
    simp [table, verifies]

end

/-! ### The parts of a containment -/

section
variable {py : Interpreter} {w : Chronicle} {session : String} {timeout : ℚ}

/-- The operations that the chronicle has nothing to note of. -/
def silent : Op → Bool
  | .readLock => true
  | .readMarker => true
  | _ => false

theorem silent_stays {o : Op} {fate : Fate} {r : o.Res} {w' : Chronicle} (quiet : silent o = true)
    (performed : perform py w o fate = some (r, w')) : w' = w := by
  simp only [perform] at performed
  split at performed
  case isFalse => simp at performed
  case isTrue =>
    obtain ⟨⟨r', h⟩, done, same⟩ := Option.map_eq_some_iff.mp performed
    obtain ⟨rfl, rfl⟩ := Prod.mk.inj same
    obtain ⟨took, _, rfl⟩ := Host.perform_outcome.mp done
    cases o <;> simp only [silent, Bool.false_eq_true] at quiet
    all_goals cases took <;> rfl

theorem stillIntended_ensures {required : Bool} :
    (stillIntended session required).Ensures (perform py) w fun _ w' => w' = w := by
  have reads {o : Op} (quiet : silent o = true) : (step o).Uses fun o => silent o = true := ⟨quiet, fun _ => trivial⟩
  refine ensures_of_uses (uses_bind (uses_bind (reads rfl) fun _ => uses_ofExcept _) fun stopped => ?_)
    fun _ _ _ _ _ => silent_stays
  split
  · trivial
  · refine uses_bind (uses_catch (uses_bind (reads rfl) fun _ => uses_ofExcept _) fun _ => trivial) fun current => ?_
    split <;> trivial

/-- The notifications may add diagnostics. -/
theorem notify_ensures {lock : Obj} {cause : Diagnostic} {result : Result} {newCause : Bool} :
    (notify lock cause result newCause).Ensures (perform py) w fun x w' =>
      w' = w ∧ ∀ r, x = .ok r → ∃ more, r = result.add more := by
  have same : result = result.add [] := by simp [Result.add]
  unfold notify
  split
  case isFalse => exact ⟨rfl, by rintro r ⟨⟩; exact ⟨[], same⟩⟩
  have ends (more : List Diagnostic) : (pure (result.add more) : Py Result).Ensures (perform py) w fun x w' =>
      w' = w ∧ ∀ r, x = .ok r → ∃ more, r = result.add more :=
    ⟨rfl, by rintro r ⟨⟩; exact ⟨more, rfl⟩⟩
  have emits {event : String} {k : Except Exc (List Diagnostic) → Py Result}
      (failed : ∀ e, e.isException = true → ∃ more, k (.error e) = pure (result.add more))
      (reported : ∀ more, (k (.ok more)).Ensures (perform py) w fun x w' =>
        w' = w ∧ ∀ r, x = .ok r → ∃ more, r = result.add more) :
      (step (.emit event false) >>= k).Ensures (perform py) w fun x w' =>
        w' = w ∧ ∀ r, x = .ok r → ∃ more, r = result.add more := by
    rw [ensures_bind, ensures_emit]
    refine ⟨fun e raised => ?_, reported⟩
    obtain ⟨more, continues⟩ := failed e raised
    simp only [afterwards, continues]
    exact ends more
  have combined (more rest : List Diagnostic) : (result.add more).add rest = result.add (more ++ rest) := by
    simp [Result.add]
  dsimp only
  split
  · refine emits (fun e raised => ⟨[], (if_pos raised).trans (congrArg pure same)⟩) fun more => ?_
    refine emits (fun e raised => ⟨more, if_pos raised⟩) fun rest => ?_
    simp only [combined]
    exact ends _
  · refine emits (fun e raised => ⟨[], if_pos raised⟩) fun rest => ?_
    simp only [combined]
    exact ends _

/-- What a reading of the previous record contributes. -/
def evidenceOf (cause : Diagnostic) : Except Exc (Option Payload) → Except Exc Prior
  | .ok none => .ok (Prior.none cause)
  | .ok (some previous) => .ok (Prior.of cause previous.data)
  | .error e =>
    if e.isStateError || e.isValueError then .ok { Prior.none cause with diagnostics := [evidenceInvalid] }
    else .error e

/-- A record that was read is the one on the disk. -/
def Current (py : Interpreter) (h : Host) (session : String) (got : Except Exc (Option Payload)) : Prop :=
  ∀ v, got = .ok v → recordOf py .emergency session h.bootId (h.records .emergency session) = .ok v

/-- The chronicle notes what was read. -/
theorem read_ensures (named : filename py session = .ok ()) :
    (Records.read py .emergency session).Ensures (perform py) w fun x w' =>
    Current py w.host session x ∧ (w.read = none → w' = w.reads x) := by
  rw [Records.read, bind_filename py named, ensures_bind, ensures_handle, ensures_bootId]
  refine ⟨?_, fun e raised => ?_⟩
  · simp only [caught, afterwards, ensures_handle]
    rw [ensures_bind]
    refine ensures_readRecord ?_ fun e raised missing => ?_
    · exact (ensures_decoded py _ _).mpr ⟨fun v found => found, fun _ => rfl⟩
    · refine ensures_unreadable.mpr ⟨fun v found => ?_, fun _ => rfl⟩
      by_cases gone : e = .osError "FileNotFoundError"
      · obtain rfl : none = v := by simpa [unreadable, gone] using found
        simp [missing gone, recordOf, Loaded.loads, Except.bind, unreadable]
      · simp only [unreadable, gone, if_false] at found
        split at found <;> cases found
  · have ordinary : (e.isOSError || e.isValueError) = true := raised
    simp only [caught, ordinary, if_true, Option.getD_some, ensures_raise, afterwards]
    exact ⟨by simp [Current], fun unread => by simp [Chronicle.unbooted, unread, Chronicle.noBoot]⟩

/-- The previous evidence comes from what the chronicle notes as read. -/
theorem priorEvidence_ensures {cause : Diagnostic} (named : filename py session = .ok ()) (unread : w.read = none) :
    (priorEvidence py cause session).Ensures (perform py) w fun x w' =>
      ∃ got, Current py w.host session got ∧ w' = w.reads got ∧ x = evidenceOf cause got := by
  rw [priorEvidence, ensures_handle, ensures_bind]
  refine ensures_mono (read_ensures named) fun x w' ended => ?_
  obtain ⟨current, noted⟩ := ended
  obtain rfl := noted unread
  cases x with
  | ok previous => cases previous <;> exact ⟨_, current, rfl, rfl⟩
  | error e =>
    simp only [afterwards, caught]
    by_cases caught : (e.isStateError || e.isValueError) = true
    · simp only [caught, if_true, Option.getD_some]
      exact ⟨_, current, rfl, by simp [evidenceOf, caught]⟩
    · simp only [caught, Bool.false_eq_true, if_false, Option.getD_none]
      exact ⟨_, current, rfl, by simp [evidenceOf, caught]⟩

/-- A record that was handed to the store, or not. -/
inductive Published (session : String) (data : Obj) (diagnostic : Diagnostic) (w : Chronicle) :
    Except Exc (List Diagnostic) → Chronicle → Prop where
  | unsent : Published session data diagnostic w (.ok [diagnostic]) w
  | raised (e : Exc) : Published session data diagnostic w (.error e) w
  | refused (now : ℚ) (started : 0 ≤ now) : Published session data diagnostic w (.ok [diagnostic])
      (w.writes session (envelope session w.host.bootId now data) false)
  | written (now : ℚ) (started : 0 ≤ now) : Published session data diagnostic w (.ok [])
      ((w.writes session (envelope session w.host.bootId now data) true).on
        (w.host.setRecord .emergency session (.json (envelope session w.host.bootId now data))))

theorem publish_ensures {data : Obj} {diagnostic : Diagnostic} (named : filename py session = .ok ())
    (read : w.read.isSome = true) :
    (publish py session data diagnostic).Ensures (perform py) w (Published session data diagnostic w) := by
  -- an exception that is not a `StateError` by then is raised from where it came
  have failed {e : Exc} {w' : Chronicle} (kept : Published session data diagnostic w (.ok [diagnostic]) w')
      (raised : (e.isStateError || e.isOSError || e.isValueError) = true) :
      Prog.Ensures (perform py)
        ((if e.isOSError || e.isValueError || e = .typeError then
          some (.raise (.stateError s!"Cannot publish {RecordName.emergency.text} observation: {e.text}"))
        else none).getD (.raise e) : Py Unit) w'
        (afterwards (perform py) (fun _ => pure []) (caught (perform py)
          (fun e => if e.isStateError then some (pure [diagnostic]) else none)
          (Published session data diagnostic w))) := by
    split
    · exact kept
    case isFalse neither =>
      simp only [Bool.or_eq_true, not_or] at neither raised
      rcases raised with (state | os) | value
      · simp only [Option.getD_none, ensures_raise, afterwards, caught, state, if_true, Option.getD_some, ensures_pure]
        exact kept
      · exact absurd os neither.1.1
      · exact absurd value neither.1.2
  have booted : w.unbooted = w := by
    unfold Chronicle.unbooted
    rw [if_neg]
    simp [Option.isNone_iff_eq_none, Option.isSome_iff_ne_none.mp read]
  rw [publish, ensures_handle, ensures_bind, Records.write, bind_filename py named, ensures_handle, ensures_bind,
    ensures_bootId, booted]
  refine ⟨?_, fun e raised => failed .unsent (by simpa [Op.raises, Bool.or_assoc] using Or.inr raised)⟩
  simp only [afterwards]
  rw [ensures_bind, ensures_clock]
  intro now started
  simp only [afterwards]
  rw [ensures_bind, ensures_ofExcept]
  cases dumped : (envelope session w.host.bootId now data).dumps py.encodeDepth with
  | error e =>
    rcases dumps_error _ _ _ dumped with value | rfl
    · exact failed .unsent (by simp [value])
    · exact .raised _
  | ok _ =>
    simp only [afterwards]
    rw [ensures_writeRecord]
    refine ⟨.written now started, fun e raised => failed (.refused now started) ?_⟩
    rcases Bool.or_eq_true_iff.mp raised with os | state
    · simp [os]
    · simp [state]

/-- The diagnostic of an application that failed. -/
def applyFailed : Diagnostic :=
  ⟨.error, "firewall.emergency_apply_failed", "firewall", "apply_emergency",
    "Emergency application failed (FirewallError)", true⟩

/-- A check that an inspection ends with. -/
structure Inspected (check : KernelCheck) : Prop where
  reason : check.reason ∈ ["firewall.emergency_verified", "firewall.emergency_rules_mismatch",
    "firewall.emergency_read_failed", "firewall.emergency_reply_invalid", "firewall.emergency_read_timeout"]
  message : check.message.length ≤ 48

theorem literal_length {chars : List Char} {n : Nat} (fits : chars.length ≤ n) : (String.ofList chars).length ≤ n := by
  rwa [String.length_ofList]

theorem inspection_inspected {e : Exc} {check : KernelCheck} (caught : inspectionError e = some check)
    (named : e.typeName.length ≤ 40) : Inspected check := by
  unfold inspectionError at caught
  split at caught
  · obtain rfl := Option.some.inj caught
    exact ⟨by simp, literal_length (by decide)⟩
  split at caught
  · obtain rfl := Option.some.inj caught
    exact ⟨by simp, Nat.le_trans named (by decide)⟩
  split at caught
  · obtain rfl := Option.some.inj caught
    exact ⟨by simp, literal_length (by decide)⟩
  · simp at caught

theorem inspect_ensures : (inspectEmergencyRules timeout).Ensures (perform py) w fun x w' =>
    ∃ check, x = .ok check ∧ Inspected check ∧ w' = w.inspects check.verified := by
  have exited (code : Nat) (small : code < 256) : Inspected
      ⟨false, "firewall.emergency_read_failed", s!"nft exit={code}"⟩ := by
    refine ⟨by simp, ?_⟩
    have digits : (toString code).length ≤ 3 := (Nat.length_repr_le_iff (by decide)).mpr (by omega)
    have words : "nft exit=".length ≤ 9 := literal_length (by decide)
    show (toString "nft exit=" ++ toString code).length ≤ 48
    simp only [String.length_append, toString] at digits words ⊢
    omega
  rw [inspectEmergencyRules, ensures_bind, ensures_listing]
  refine ⟨fun t _ => ?_, fun _ => ?_, fun e raised named => ?_, fun code small => ?_⟩
  · show Prog.Ensures (perform py) (if matchesEmergencyContract t = true then _ else _) _ _
    split
    case isTrue matched => exact ⟨_, rfl, ⟨by simp, literal_length (by decide)⟩, by rw [matched]⟩
    case isFalse unmatched =>
      exact ⟨_, rfl, ⟨by simp, literal_length (by decide)⟩, by rw [Bool.not_eq_true _ |>.mp unmatched]⟩
  · exact ⟨_, rfl, exited 1 (by decide), rfl⟩
  · obtain ⟨check, caught, unverified⟩ := inspectionError_caught raised
    simp only [afterwards, caught]
    exact ⟨check, rfl, inspection_inspected caught named, by rw [unverified]⟩
  · exact ⟨_, rfl, exited code small, rfl⟩

/-- The killswitch is applied, or fails with a `FirewallError`. -/
theorem killswitch_ensures : (applyEmergencyKillswitch timeout).Ensures (perform py) w fun x w' =>
    (x = .ok () ∧ w' = w.applies.on { w.host with table := some emergencyTable }) ∨
      (∃ message, x = .error (.firewallError message)) ∧ w' = w.fails := by
  rw [applyEmergencyKillswitch, applyTableAtomically, ensures_handle, ensures_handle, ensures_transaction]
  refine ⟨Or.inl ⟨rfl, rfl⟩, fun e raised => ?_⟩
  simp only [caught]
  split
  · exact Or.inr ⟨⟨_, rfl⟩, rfl⟩
  · simp only [Option.getD_none, ensures_raise, caught]
    split
    case isTrue firewall =>
      cases e <;> simp only [Exc.isFirewallError, Bool.false_eq_true] at firewall
      exact Or.inr ⟨⟨_, rfl⟩, rfl⟩
    case isFalse => exact Or.inr ⟨⟨_, rfl⟩, rfl⟩

/-- The end of a containment's action: what the kernel check found, the `applied` flag and the
    diagnostics of a failed application. -/
inductive Enforced (repair : Bool) (requested : Json) (w : Chronicle) :
    KernelCheck × Json × List Diagnostic → Chronicle → Prop where
  | kept (check : KernelCheck) (asked : repair = true) (verified : check.verified = true) (ended : Inspected check) :
      Enforced repair requested w (check, requested, []) (w.inspects true)
  | applied (check : KernelCheck) (seen : Chronicle) (before : seen = w ∨ seen = w.inspects false)
      (ended : Inspected check) :
      Enforced repair requested w (check, .bool true, [])
        ((seen.applies.on { seen.host with table := some emergencyTable }).inspects check.verified)
  | failed (check : KernelCheck) (seen : Chronicle) (before : seen = w ∨ seen = w.inspects false)
      (ended : Inspected check) :
      Enforced repair requested w (check, .bool false, [applyFailed]) (seen.fails.inspects check.verified)

theorem apply_ensures {repair : Bool} {requested : Json} {seen : Chronicle}
    (before : seen = w ∨ seen = w.inspects false) :
    (apply timeout).Ensures (perform py) seen fun x w' =>
      ∃ done, x = .ok done ∧ Enforced repair requested w done w' := by
  rw [apply, ensures_bind, ensures_handle, ensures_bind]
  refine ensures_mono killswitch_ensures fun x w' ended => ?_
  rcases ended with ⟨rfl, rfl⟩ | ⟨⟨message, rfl⟩, rfl⟩
  · simp only [afterwards, caught, ensures_pure]
    rw [ensures_bind]
    refine ensures_mono inspect_ensures fun y w'' inspected => ?_
    obtain ⟨check, rfl, ended, rfl⟩ := inspected
    exact ⟨_, rfl, .applied check seen before ended⟩
  · have ordinary : (Exc.firewallError message).isException = true := rfl
    simp only [afterwards, caught, ordinary, if_true, Option.getD_some, ensures_pure]
    rw [ensures_bind]
    refine ensures_mono inspect_ensures fun y w'' inspected => ?_
    obtain ⟨check, rfl, ended, rfl⟩ := inspected
    exact ⟨_, rfl, .failed check seen before ended⟩

theorem enforce_ensures {repair : Bool} {requested : Json} : (enforce repair timeout requested).Ensures (perform py) w
    fun x w' => ∃ done, x = .ok done ∧ Enforced repair requested w done w' := by
  unfold enforce
  split
  case isTrue asked =>
    rw [ensures_bind]
    refine ensures_mono inspect_ensures fun x w' inspected => ?_
    obtain ⟨check, rfl, ended, rfl⟩ := inspected
    show Prog.Ensures (perform py) (if check.verified = true then _ else _) _ _
    split
    case isTrue verified => exact ⟨_, rfl, verified ▸ .kept check asked verified ended⟩
    case isFalse unverified => exact apply_ensures (Or.inr (by rw [Bool.not_eq_true _ |>.mp unverified]))
  case isFalse => exact apply_ensures (Or.inl rfl)

/-- The diagnostics of the two writes. -/
def latchFailed : Diagnostic := failure "session.latch_write_failed" "Could not persist the emergency latch"

def evidenceFailed : Diagnostic := failure "session.evidence_write_failed" "Could not publish containment evidence"

/-- The part of a call under the transition lock: nothing, or the evidence, the latch, the action and
    the evidence of the action, up to an exception. -/
inductive Locked (py : Interpreter) (session : String) (cause : Diagnostic) (repair : Bool) (result : Result)
    (w : Chronicle) :
    Except Exc (Option (Result × Bool)) → Chronicle → Prop where
  | idle : Locked py session cause repair result w (.ok none) w
  | undecided (e : Exc) : Locked py session cause repair result w (.error e) w
  | unread (got : Except Exc (Option Payload)) (e : Exc) :
      Locked py session cause repair result w (.error e) (w.reads got)
  | unlatched {w₁ : Chronicle} (got : Except Exc (Option Payload)) (prior : Prior) (e : Exc)
      (current : Current py w.host session got) (evidence : evidenceOf cause got = .ok prior)
      (latch : Published session
        (emergencyData (if repair then prior.applied else .bool false) false prior.causes .none)
        latchFailed (w.reads got) (.error e) w₁) :
      Locked py session cause repair result w (.error e) w₁
  | ended {w₁ w₂ w₃ : Chronicle} (got : Except Exc (Option Payload)) (prior : Prior) (latched : List Diagnostic)
      (check : KernelCheck)
      (applied : Json) (failed : List Diagnostic) (written : Except Exc (List Diagnostic))
      (current : Current py w.host session got) (evidence : evidenceOf cause got = .ok prior)
      (latch : Published session
        (emergencyData (if repair then prior.applied else .bool false) false prior.causes .none)
        latchFailed (w.reads got) (.ok latched) w₁)
      (action : Enforced repair (if repair then prior.applied else .bool false) w₁ (check, applied, failed) w₂)
      (evidence' : Published session (emergencyData applied check.verified prior.causes
          (some (((result.add prior.diagnostics).add latched).add (failed ++ [check.diagnostic]))))
        evidenceFailed w₂ written w₃) :
      Locked py session cause repair result w
        (written.map fun ds =>
          some ((((result.add prior.diagnostics).add latched).add (failed ++ [check.diagnostic])).add ds,
            prior.newCause)) w₃

theorem containLocked_ensures {cause : Diagnostic} {repair required : Bool} {result : Result} (named : session ≠ "")
    (unread : w.read = none) : (containLocked py session cause repair required timeout result).Ensures (perform py) w
      (Locked py session cause repair result w) := by
  rcases filename_named py named with filed | encodes
  swap
  · -- nothing is written of a session that cannot be encoded
    rw [containLocked_unencodable encodes, ensures_bind]
    refine ensures_mono stillIntended_ensures fun x w' same => ?_
    subst same
    cases x with
    | error e => exact .undecided e
    | ok intended =>
      cases intended with
      | false => exact .idle
      | true => exact .undecided _
  rw [containLocked, ensures_bind]
  refine ensures_mono stillIntended_ensures fun x w' same => ?_
  subst same
  cases x with
  | error e => exact .undecided e
  | ok intended =>
    simp only [afterwards]
    split
    case isFalse => exact .idle
    rw [ensures_bind]
    refine ensures_mono (priorEvidence_ensures filed unread) fun x w' read => ?_
    obtain ⟨got, current, rfl, rfl⟩ := read
    cases evidence : evidenceOf cause got with
    | error e => exact .unread got e
    | ok prior =>
      simp only [afterwards]
      rw [ensures_bind]
      refine ensures_mono (publish_ensures filed rfl) fun x w₁ latch => ?_
      cases x with
      | error e => exact .unlatched got prior e current evidence latch
      | ok latched =>
        have known : w₁.read.isSome = true := by cases latch <;> rfl
        simp only [afterwards]
        rw [ensures_bind]
        refine ensures_mono enforce_ensures fun x w₂ done => ?_
        obtain ⟨⟨check, applied, failed⟩, rfl, action⟩ := done
        have known : w₂.read.isSome = true := by
          cases action with
          | kept => exact known
          | applied _ seen before => rcases before with rfl | rfl <;> exact known
          | failed _ seen before => rcases before with rfl | rfl <;> exact known
        simp only [afterwards]
        rw [ensures_bind]
        refine ensures_mono (publish_ensures filed known) fun x w₃ evidence' => ?_
        have ended := Locked.ended got prior latched check applied failed x current evidence latch action evidence'
        cases x <;> exact ended

/-- The diagnostic of settings that are refused. -/
def policyInvalid : Diagnostic :=
  failure "session.policy_invalid" "Cannot recover containment timing; using bounded defaults"

theorem policy_cases {lock : Obj} {timeout : ℚ} {policy : List Diagnostic}
    (settled : containmentTimeout py lock = .ok (timeout, policy)) :
    policy = [] ∨ policy = [policyInvalid] := by
  unfold containmentTimeout at settled
  split at settled
  · split at settled
    · simp only [Except.ok.injEq, Prod.mk.injEq] at settled
      exact Or.inl settled.2.symm
    · split_ifs at settled
      simp only [Except.ok.injEq, Prod.mk.injEq] at settled
      exact Or.inr settled.2.symm
  · simp only [Except.ok.injEq, Prod.mk.injEq] at settled
    exact Or.inl settled.2.symm

/-- The diagnostics of a call that does not get as far as a result of its own. -/
def identityMissing : Diagnostic := failure "session.identity_missing" "Cannot associate containment with a session"

def transitionFailed (e : Exc) : Diagnostic :=
  failure "session.transition_failed" s!"Containment could not be serialized ({e.typeName})"

/-- How a call ends that ended this way under the transition lock. -/
inductive Concluded (result : Result) : Except Exc (Option (Result × Bool)) → Except Exc Result → Prop where
  | idle : Concluded result (.ok none) (.ok {})
  | raised (y : Except Exc (Option (Result × Bool))) (e : Exc) : Concluded result y (.error e)
  | ended (r : Result) (newCause : Bool) (more : List Diagnostic) :
      Concluded result (.ok (some (r, newCause))) (.ok (r.add more))
  | failed (e : Exc) (more : List Diagnostic) : Concluded result (.error e)
      (.ok (result.add (transitionFailed e :: more)))

/-- How a call of `request_emergency` ends. -/
inductive Requested (py : Interpreter) (lock : Obj) (cause : Diagnostic) (repair : Bool) (w : Chronicle) :
    Except Exc Result → Chronicle → Prop where
  | nameless (identity : sessionIdOf lock = none) :
      Requested py lock cause repair w (.ok (Result.add {} [cause, identityMissing])) w
  | unsettled (e : Exc) (failed : containmentTimeout py lock = .error e) : Requested py lock cause repair w (.error e) w
  | refused {session : String} {timeout : ℚ} {policy : List Diagnostic} (identity : sessionIdOf lock = some session)
      (settled : containmentTimeout py lock = .ok (timeout, policy)) (e : Exc) {x : Except Exc Result}
      (concluded : Concluded (Result.add {} (cause :: policy)) (.error e) x) : Requested py lock cause repair w x w
  | locked {session : String} {timeout : ℚ} {policy : List Diagnostic} (identity : sessionIdOf lock = some session)
      (settled : containmentTimeout py lock = .ok (timeout, policy)) {y : Except Exc (Option (Result × Bool))}
      {w' : Chronicle}
      (inside : Locked py session cause repair (Result.add {} (cause :: policy))
        (w.on { w.host with transition := some 0 }) y w')
      {x : Except Exc Result} (concluded : Concluded (Result.add {} (cause :: policy)) y x) :
      Requested py lock cause repair w x (w'.on (w'.host.effect 0 .release))

theorem sessionIdOf_named {lock : Obj} (identity : sessionIdOf lock = some session) : session ≠ "" := by
  unfold sessionIdOf at identity
  split at identity
  · split_ifs at identity with blank
    obtain rfl := Option.some.inj identity
    exact blank
  · simp at identity

theorem requestEmergency_ensures {lock : Obj} {cause : Diagnostic} {repair required : Bool} (unread : w.read = none) :
    (requestEmergency py lock cause repair required).Ensures (perform py) w (Requested py lock cause repair w) := by
  unfold requestEmergency
  cases identity : sessionIdOf lock with
  | none => exact .nameless identity
  | some session =>
    simp only
    rw [ensures_bind, ensures_ofExcept]
    cases settled : containmentTimeout py lock with
    | error e => exact .unsettled e settled
    | ok found =>
      obtain ⟨timeout, policy⟩ := found
      simp only [afterwards]
      rw [ensures_bind, ensures_handle]
      -- what the rest of the call makes of the outcome under the lock
      have concludes {k : Option (Result × Bool) → Py Result} (idles : k none = pure {})
          (notifies : ∀ r newCause, k (some (r, newCause)) = notify lock cause r newCause)
          {y : Except Exc (Option (Result × Bool))} {u : Chronicle}
          (reached : ∀ x, Concluded (Result.add {} (cause :: policy)) y x → Requested py lock cause repair w x u) :
          caught (perform py) (fun e => if e.isOSError || e.isStateError then
              some (pure (some ((Result.add {} (cause :: policy)).add [failure "session.transition_failed"
                s!"Containment could not be serialized ({e.typeName})"], true)))
            else none)
            (afterwards (perform py) k (Requested py lock cause repair w)) y u := by
        cases y with
        | ok contained =>
          cases contained with
          | none =>
            simp only [caught, afterwards, idles]
            exact reached _ .idle
          | some pair =>
            obtain ⟨r, newCause⟩ := pair
            simp only [caught, afterwards, notifies]
            refine ensures_mono notify_ensures fun x u' ended => ?_
            obtain ⟨rfl, longer⟩ := ended
            cases x with
            | error e => exact reached _ (.raised _ e)
            | ok r' =>
              obtain ⟨more, rfl⟩ := longer r' rfl
              exact reached _ (.ended r newCause more)
        | error e =>
          simp only [caught]
          split
          · simp only [Option.getD_some, ensures_pure, afterwards, notifies]
            refine ensures_mono notify_ensures fun x u' ended => ?_
            obtain ⟨rfl, longer⟩ := ended
            cases x with
            | error e' => exact reached _ (.raised _ e')
            | ok r' =>
              obtain ⟨more, rfl⟩ := longer r' rfl
              have combined : ((Result.add {} (cause :: policy)).add [transitionFailed e]).add more =
                  (Result.add {} (cause :: policy)).add (transitionFailed e :: more) := by simp [Result.add]
              exact reached _ (combined ▸ .failed e more)
          · exact reached _ (.raised _ e)
      refine ensures_transition
        (fun e => concludes rfl (fun _ _ => rfl) fun x concluded => .refused identity settled e concluded) ?_
      refine ensures_mono (containLocked_ensures (sessionIdOf_named identity) unread) fun y w' inside => ?_
      exact concludes rfl (fun _ _ => rfl) fun x concluded => .locked identity settled inside concluded

end

end Ttp.EmergencyHistory
