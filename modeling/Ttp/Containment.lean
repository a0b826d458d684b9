import Ttp.SessionSafety

/-!
The termination handler of the supervisor, run alone on whatever the lock file
and the previous emergency record hold. It reaches the killswitch unless an
exception gets past its `except` clauses first: `Recoverable` names the
contents of the two files that raise one, and the handler always contains
exactly where there are none (`terminated_contains`).
-/
namespace Ttp.Containment
open Ttp.Python Ttp.Evidence Ttp.Program Ttp.Machine Ttp.State Ttp.Records Ttp.Firewall Ttp.SessionSafety
open Ttp.SessionSettings (Settings spelledOut fromSnapshot fromSnapshot_judged fromSnapshot_checkTimeout seconds)

/-! ### The handler and its host -/

/-- The host, and whether the handler verified the emergency table in the kernel or tried to install it. -/
structure Scene where
  host : Host
  contained : Bool

def contains : (o : Op) → o.Res → Bool
  | .nftTransaction t _, _ => matchesEmergencyContract t
  | .nftListing _, .ok (.table t) => matchesEmergencyContract t
  | _, _ => false

/-- Any success or failure, but the transition lock is obtained. -/
def possible : Op → Fate → Bool
  | .acquire _, .fails _ => false
  | o, .fails e => o.raises e
  | _, _ => true

def perform (w : Scene) (o : Op) (fate : Fate) : Option (o.Res × Scene) :=
  if possible o fate then
    (w.host.perform 0 o fate).map fun done => (done.1, ⟨done.2, w.contained || contains o done.1⟩)
  else none

/-! ### The previous record -/

/-- The causes that an emergency record contributes to the next one. -/
def keptCauses (data : Obj) : List Json :=
  match (data.find? "causes").getD (.arr []) with
  | .arr old => if old.all isObject then old.filter (otherReason terminatedCause) else []
  | _ => []

theorem prior_applied {cause : Diagnostic} (data : Obj) : (Prior.of cause data).applied = data.get "applied" := by
  unfold Prior.of
  split
  · split <;> rfl
  · rfl

theorem prior_causes (data : Obj) :
    (Prior.of terminatedCause data).causes = keptCauses data ++ [.obj terminatedCause.asDict] := by
  unfold Prior.of keptCauses
  generalize (data.find? "causes").getD (.arr []) = causes
  cases causes with
  | arr old => by_cases objects : old.all isObject = true <;> simp [objects, Prior.none]
  | _ => rfl

/-- What the record keeps can be encoded again: neither part is nested too deeply. -/
structure Encodable (py : Interpreter) (applied : Json) (kept : List Json) : Prop where
  applied : applied.dumps (py.encodeDepth - 2) ≠ .error .recursionError
  causes : (Json.arr kept).dumps (py.encodeDepth - 2) ≠ .error .recursionError

section
variable {fuel : Nat} {items more : List Json} {fields moreFields : Obj}

theorem dumpsItems_append : Json.dumpsItems fuel (items ++ more) =
    (Json.dumpsItems fuel items).bind fun _ => Json.dumpsItems fuel more := by
  induction items with
  | nil => rfl
  | cons item rest ih =>
    simp only [List.cons_append, Json.dumpsItems]
    cases item.dumps fuel with
    | ok _ => exact ih
    | error e => rfl

/-- A diagnostic is flat. -/
theorem dumps_diagnostic (d : Diagnostic) : (Json.obj d.asDict).dumps (fuel + 1) = .ok () := by
  simp [Diagnostic.asDict, Json.dumps, Json.dumpsFields]

theorem dumpsItems_flat (ds : List Diagnostic) :
    Json.dumpsItems (fuel + 1) (ds.map fun d => .obj d.asDict) = .ok () := by
  induction ds with
  | nil => rfl
  | cons d rest ih => simpa [Json.dumpsItems, dumps_diagnostic] using ih

theorem dumps_result (r : Result) : (Json.obj r.asDict).dumps (fuel + 3) = .ok () := by
  simp [Result.asDict, Json.dumps, Json.dumpsFields, dumpsItems_flat]

theorem envelope_dumps {session boot : String} {now : ℚ} {applied : Json} {verified : Bool} {causes : List Json}
    {result : Option Result} :
    (envelope session boot now (emergencyData applied verified causes result)).dumps (fuel + 5) =
      (applied.dumps (fuel + 3)).bind fun _ => (Json.arr causes).dumps (fuel + 3) := by
  have ended : Json.dumpsFields (fuel + 3) ((result.map fun r => ("result", Json.obj r.asDict)).toList) = .ok () := by
    cases result with
    | none => rfl
    | some r => simp [Json.dumpsFields, dumps_result]
  simp only [envelope, emergencyData, Json.dumps, Json.dumpsFields, List.cons_append, List.nil_append, ended]
  cases applied.dumps (fuel + 3) with
  | error e => rfl
  | ok _ =>
    simp only [Except.bind]
    cases Json.dumpsItems (fuel + 2) causes with
    | error e => rfl
    | ok _ => rfl
/-- A list of causes that encodes, encodes with a diagnostic at its end. -/
theorem dumps_causes (kept : List Json) (cause : Diagnostic) :
    (Json.arr (kept ++ [.obj cause.asDict])).dumps (fuel + 2) = (Json.arr kept).dumps (fuel + 2) := by
  simp only [Json.dumps, dumpsItems_append, Json.dumpsItems]
  cases Json.dumpsItems (fuel + 1) kept <;> rfl

/-- The record that keeps them can be written. -/
theorem encodable_dumps {py : Interpreter} {applied : Json} {kept : List Json} (encodable : Encodable py applied kept)
    (session boot : String) (now : ℚ) (verified : Bool) (result : Option Result) :
    (envelope session boot now (emergencyData applied verified (kept ++ [.obj terminatedCause.asDict]) result)).dumps
      py.encodeDepth ≠ .error .recursionError := by
  obtain ⟨fuel, deep⟩ : ∃ fuel, py.encodeDepth = fuel + 5 := ⟨py.encodeDepth - 5, by have := py.shallow; omega⟩
  obtain ⟨notApplied, notCauses⟩ := encodable
  rw [deep] at notApplied notCauses ⊢
  rw [envelope_dumps, dumps_causes]
  cases encoded : applied.dumps (fuel + 3) with
  | ok _ => exact notCauses
  | error e => simpa [Except.bind, encoded] using notApplied

end

/-! ### Its operations -/

section
variable {w : Scene} {session : String} {name : RecordName}

/-- What an operation can come to. -/
theorem ensures_outcomes {o : Op} {Q : Except Exc o.Res → Scene → Prop} : (step o).Ensures perform w Q ↔
    ∀ fate r took, possible o fate = true → w.host.outcome o fate = some (r, took) →
      Q (.ok r) ⟨if took then w.host.effect 0 o else w.host, w.contained || contains o r⟩ := by
  constructor
  · intro all fate r took able outcome
    exact all fate r _ (by simp [perform, able, Host.perform, outcome])
  · intro all fate r w' performed
    unfold perform at performed
    split at performed
    case isTrue able =>
      simp only [Host.perform, Option.map_map, Option.map_eq_some_iff] at performed
      obtain ⟨⟨r', took⟩, outcome, same⟩ := performed
      obtain ⟨rfl, rfl⟩ := Prod.mk.inj same
      exact all fate r' took able outcome
    case isFalse => simp at performed

attribute [local simp] forall_fate Host.outcome Host.attempted possible Host.effect contains Except.bind Op.raises

theorem ensures_lockFile {Q : Except Exc Loaded → Scene → Prop} :
    (step .readLock).Ensures perform w Q ↔ Q (.ok w.host.lock) w := by
  rw [ensures_outcomes]
  simp

theorem ensures_markerFile {Q : Except Exc Loaded → Scene → Prop} :
    (step .readMarker).Ensures perform w Q ↔ Q (.ok w.host.marker) w := by
  rw [ensures_outcomes]
  simp

theorem ensures_bootId {Q : Except Exc String → Scene → Prop} : (checked (step .bootId)).Ensures perform w Q ↔
    Q (.ok w.host.bootId) w ∧ ∀ e, Op.bootId.raises e = true → Q (.error e) w := by
  rw [ensures_checked, ensures_outcomes]
  simp

theorem ensures_clock {Q : Except Exc ℚ → Scene → Prop} : (step .clock).Ensures perform w Q ↔ ∀ q, Q (.ok q) w := by
  rw [ensures_outcomes]
  simp

theorem ensures_readRecord {Q : Except Exc Loaded → Scene → Prop} :
    (checked (step (.readRecord name session))).Ensures perform w Q ↔
      Q (.ok (w.host.records name session)) w ∧ ∀ e, (Op.readRecord name session).raises e = true → Q (.error e) w := by
  rw [ensures_checked, ensures_outcomes]
  simp

theorem ensures_writeRecord {payload : Json} {Q : Except Exc Unit → Scene → Prop} :
    (checked (step (.writeRecord name session payload))).Ensures perform w Q ↔
      Q (.ok ()) { w with host := w.host.setRecord name session (.json payload) } ∧
        ∀ e, (Op.writeRecord name session payload).raises e = true → Q (.error e) w := by
  rw [ensures_checked, ensures_outcomes]
  simp

theorem ensures_transaction {table : Nft.Table} {timeout : ℚ} {Q : Except Exc Unit → Scene → Prop} :
    (checked (step (.nftTransaction table timeout))).Ensures perform w Q ↔
      Q (.ok ()) ⟨{ w.host with table := some table }, w.contained || matchesEmergencyContract table⟩ ∧
        ∀ e, e.isException = true → Q (.error e)
        { w with contained := w.contained || matchesEmergencyContract table } := by
  rw [ensures_checked, ensures_outcomes]
  simp

theorem ensures_listing {timeout : ℚ} {Q : Except Exc (Except Exc Listing) → Scene → Prop} :
    (step (.nftListing timeout)).Ensures perform w Q ↔
      (∀ t, w.host.table = some t → Q (.ok (.ok (.table t)))
        { w with contained := w.contained || matchesEmergencyContract t }) ∧
        (w.host.table = none → Q (.ok (.ok (.exit 1))) w) ∧
        (∀ e, (Op.nftListing timeout).raises e = true → Q (.ok (.error e)) w) ∧ ∀ code,
        Q (.ok (.ok (.exit code))) w := by
  rw [ensures_outcomes]
  cases table : w.host.table <;>
    simp [table]

theorem ensures_emit {event : String} {wait : Bool} {Q : Except Exc (Except Exc (List Diagnostic)) → Scene → Prop} :
    (step (.emit event wait)).Ensures perform w Q ↔
      (∀ e, e.isException = true → Q (.ok (.error e)) w) ∧ ∀ ds, Q (.ok (.ok ds)) w := by
  rw [ensures_outcomes]
  simp

theorem ensures_readLock {strict : Bool} {Q : Except Exc (Option Obj) → Scene → Prop} :
    (readLock strict).Ensures perform w Q ↔ Q (lockOf strict w.host.lock) w := by
  rw [readLock, ensures_bind, ensures_lockFile]
  exact ensures_ofExcept _

theorem ensures_stopWasRequested {Q : Except Exc Bool → Scene → Prop} :
    (stopWasRequested session).Ensures perform w Q ↔ Q (stopOf session w.host.marker) w := by
  rw [stopWasRequested, ensures_bind, ensures_markerFile]
  exact ensures_ofExcept _

/-- With the transition lock obtained, the body runs under it. -/
theorem ensures_transition {α : Type} {timeout : ℚ} {body : Py α} {Q : Except Exc α → Scene → Prop}
    (positive : 0 < timeout)
    (free : w.host.transition = none) :
    (transition timeout body).Ensures perform w Q ↔
      body.Ensures perform { w with host := { w.host with transition := some 0 } }
        fun x w' => Q x { w' with host := w'.host.effect 0 .release } := by
  have released (x : Except Exc α) (w : Scene) : afterBody perform (step .release) Q x w ↔
      Q x { w with host := w.host.effect 0 .release } := by
    rw [afterBody, ensures_outcomes]
    simp
  have acquired {R : Except Exc Unit → Scene → Prop} : (checked (step (.acquire timeout))).Ensures perform w R ↔
      R (.ok ()) { w with host := { w.host with transition := some 0 } } := by
    rw [ensures_checked, ensures_outcomes]
    simp [free]
  rw [transition, if_neg (not_le.mpr positive), ensures_bind, acquired]
  refine (ensures_always _ _).trans ⟨fun first => ?_, fun first => ?_⟩
  · exact ensures_mono first fun x w' => (released x w').mp
  · exact ensures_mono first fun x w' => (released x w').mpr

end

/-! ### Its parts -/

section
variable {w : Scene} {session : String} {timeout : ℚ}

theorem inspectionError_caught {e : Exc} (raised : (Op.nftListing timeout).raises e = true) :
    ∃ check, inspectionError e = some check ∧ check.verified = false := by
  unfold inspectionError
  split
  · exact ⟨_, rfl, rfl⟩
  split
  · exact ⟨_, rfl, rfl⟩
  split
  · exact ⟨_, rfl, rfl⟩
  case isFalse notTimeout notOS notValue =>
    simp only [Op.raises, Bool.or_eq_true, decide_eq_true_eq] at raised
    simp only [Bool.or_eq_true, not_or] at notOS
    rcases raised with ((timeout | os) | binary) | value
    · exact absurd timeout notTimeout
    · exact absurd os notOS.1
    · exact absurd binary notOS.2
    · exact absurd value notValue

/-- An inspection ends with a check; a check that verified the rules has seen the emergency table. -/
theorem inspect_ensures : (inspectEmergencyRules timeout).Ensures perform w fun x w' =>
    ∃ check, x = .ok check ∧ (check.verified = true → w'.contained = true) ∧
      (w.contained = true → w'.contained = true) := by
  rw [inspectEmergencyRules, ensures_bind, ensures_listing]
  refine ⟨fun t _ => ?_, fun _ => ?_, fun e raised => ?_, fun code => ?_⟩
  · show Prog.Ensures perform (if matchesEmergencyContract t = true then _ else _) _ _
    split
    case isTrue matched => exact ⟨_, rfl, fun _ => by simp [matched], fun _ => by simp [matched]⟩
    case isFalse => exact ⟨_, rfl, by simp, fun before => by simp [before]⟩
  · exact ⟨_, rfl, by simp, id⟩
  · obtain ⟨check, caught, unverified⟩ := inspectionError_caught raised
    simp only [afterwards, caught]
    exact ⟨check, rfl, by simp [unverified], id⟩
  · exact ⟨_, rfl, by simp, id⟩

/-- The killswitch is attempted, and raises nothing that `except Exception` does not catch. -/
theorem killswitch_ensures : (applyEmergencyKillswitch timeout).Ensures perform w fun x w' =>
    (∀ e, x = .error e → e.isException = true) ∧ w'.contained = true := by
  rw [applyEmergencyKillswitch, applyTableAtomically, ensures_handle, ensures_handle, ensures_transaction]
  refine ⟨⟨by simp, by simp [emergencyTable_matches]⟩, fun e raised => ?_⟩
  have attempted : (w.contained || matchesEmergencyContract emergencyTable) = true := by simp [emergencyTable_matches]
  simp only [caught]
  split
  · exact ⟨by simp [Exc.isException], attempted⟩
  · simp only [Option.getD_none, ensures_raise, caught]
    split
    · exact ⟨by simp [raised], attempted⟩
    · simp only [Option.getD_some, ensures_raise]
      exact ⟨by simp [Exc.isException], attempted⟩

theorem apply_ensures : (apply timeout).Ensures perform w fun x w' =>
    (∃ check applied failed, x = .ok (check, .bool applied, failed)) ∧ w'.contained = true := by
  rw [apply, ensures_bind, ensures_handle, ensures_bind]
  refine ensures_mono killswitch_ensures fun x w' ended => ?_
  obtain ⟨ordinary, contained⟩ := ended
  have rest (b : Bool) (ds : List Diagnostic) : (do
      let check ← inspectEmergencyRules timeout
      pure (check, Json.bool b, ds) : Py (KernelCheck × Json × List Diagnostic)).Ensures perform w' fun x w' =>
        (∃ check applied failed, x = .ok (check, .bool applied, failed)) ∧ w'.contained = true := by
    rw [ensures_bind]
    refine ensures_mono inspect_ensures fun y w'' inspected => ?_
    obtain ⟨check, rfl, _, kept⟩ := inspected
    exact ⟨⟨check, b, ds, rfl⟩, kept contained⟩
  cases x with
  | ok _ => exact rest true []
  | error e =>
    simp only [afterwards, caught, ordinary e rfl, if_true, Option.getD_some]
    exact rest false _

/-- A repair that finds the emergency table in place keeps the `applied` flag. -/
theorem enforce_ensures {repair : Bool} {requested : Json} :
    (enforce repair timeout requested).Ensures perform w fun x w' =>
    (∃ check applied failed, x = .ok (check, applied, failed) ∧ (applied = requested ∨ ∃ b, applied = .bool b)) ∧
      w'.contained = true := by
  have applies {w : Scene} : (apply timeout).Ensures perform w fun x w' =>
      (∃ check applied failed, x = .ok (check, applied, failed) ∧ (applied = requested ∨ ∃ b, applied = .bool b)) ∧
        w'.contained = true := by
    refine ensures_mono apply_ensures fun x w' ended => ?_
    obtain ⟨⟨check, applied, failed, rfl⟩, contained⟩ := ended
    exact ⟨⟨check, _, failed, rfl, Or.inr ⟨applied, rfl⟩⟩, contained⟩
  unfold enforce
  split
  · rw [ensures_bind]
    refine ensures_mono inspect_ensures fun x w' ended => ?_
    obtain ⟨check, rfl, seen, _⟩ := ended
    show Prog.Ensures perform (if check.verified = true then _ else _) _ _
    split
    case isTrue verified => exact ⟨⟨check, requested, [], rfl, Or.inl rfl⟩, seen verified⟩
    case isFalse => exact applies
  · exact applies

/-- The `except` clauses of `read`, as far as the outcome goes. -/
def unreadable (name : RecordName) (e : Exc) : Except Exc (Option Payload) :=
  if e = .osError "FileNotFoundError" then .ok none
  else if e.isOSError || e.isValueError then .error (.stateError s!"Cannot inspect {name.text} observation: {e.text}")
  else .error e

theorem readError_ofExcept {name : RecordName} {e : Exc} :
    (readError name e).getD (.raise e) = (Prog.ofExcept (unreadable name e) : Py (Option Payload)) := by
  unfold readError unreadable
  split
  · rfl
  · split <;> rfl

theorem ensures_unreadable {World F : Type} {run : World → (o : Op) → F → Option (o.Res × World)} {u : World} {e : Exc}
    {Q : Except Exc (Option Payload) → World → Prop} :
    ((readError name e).getD (.raise e)).Ensures run u Q ↔ Q (unreadable name e) u := by
  rw [readError_ofExcept, ensures_ofExcept]

/-- What `read` makes of a record file. -/
def recordOf (py : Interpreter) (name : RecordName) (session boot : String) (file : Loaded) :
    Except Exc (Option Payload) :=
  match file.loads.bind (payloadOf py) with
  | .ok payload => .ok (if payload.sessionId = session ∧ payload.bootId = boot then some payload else none)
  | .error e => unreadable name e

/-- Decoding a file that was read does nothing. -/
theorem decoded_ofExcept (py : Interpreter) (boot : String) (file : Loaded) : Prog.handle (do
      let content ← Prog.ofExcept file.loads
      let payload ← Prog.ofExcept (payloadOf py content)
      if payload.sessionId = session ∧ payload.bootId = boot then pure (some payload) else pure none) (readError name) =
        (Prog.ofExcept (recordOf py name session boot file) : Py (Option Payload)) := by
  rw [recordOf]
  cases file.loads with
  | error e => exact readError_ofExcept
  | ok content =>
    show Prog.handle (Prog.ofExcept (payloadOf py content) >>= _) _ = Prog.ofExcept
      (match payloadOf py content with | .ok payload => _ | .error e => _)
    cases payloadOf py content with
    | error e => exact readError_ofExcept
    | ok payload =>
      show Prog.handle (if payload.sessionId = session ∧ payload.bootId = boot then pure (some payload)
        else pure none) _ =
        Prog.ofExcept (.ok (if payload.sessionId = session ∧ payload.bootId = boot then some payload else none))
      split <;> rfl

/-- Decoding a file that was read, whatever the world. -/
theorem ensures_decoded {World F : Type} {run : World → (o : Op) → F → Option (o.Res × World)} {u : World}
    (py : Interpreter)
    (boot : String) (file : Loaded) {Q : Except Exc (Option Payload) → World → Prop} : (do
      let content ← Prog.ofExcept file.loads
      let payload ← Prog.ofExcept (payloadOf py content)
      if payload.sessionId = session ∧ payload.bootId = boot then pure (some payload) else pure none :
        Py (Option Payload)).Ensures run u (caught run (readError name) Q) ↔
          Q (recordOf py name session boot file) u := by
  rw [← ensures_handle, decoded_ofExcept, ensures_ofExcept]

theorem ensures_read {py : Interpreter} {Q : Except Exc (Option Payload) → Scene → Prop}
    (named : filename py session = .ok ()) :
    (Records.read py name session).Ensures perform w Q ↔
      Q (recordOf py name session w.host.bootId (w.host.records name session)) w ∧
        (∀ e, (Op.readRecord name session).raises e = true → Q (unreadable name e) w) ∧
        Q (.error (.stateError "Cannot determine the current boot identity")) w := by
  have noBoot (e : Exc) (raised : Op.bootId.raises e = true) : (e.isOSError || e.isValueError) = true := raised
  rw [Records.read, bind_filename py named, ensures_bind, ensures_handle, ensures_bootId]
  simp only [caught, afterwards, ensures_handle]
  rw [ensures_bind, ensures_readRecord, and_assoc]
  refine and_congr (ensures_decoded py _ _)
    (and_congr (forall₂_congr fun e _ => ensures_unreadable) ⟨fun all => ?_, fun only e raised => ?_⟩)
  · exact all (.osError "OSError") rfl
  · simp only [noBoot e raised, if_true, Option.getD_some, ensures_raise]
    exact only

/-- The contents of the two files that the handler gets through. -/
structure Recoverable (py : Interpreter) (h : Host) (session : String) : Prop where
  /-- The session can have a record: it is not empty, and no character of it is a surrogate. -/
  named : filename py session = .ok ()
  /-- The lock file is UTF-8, and decoding it meets no limit of the decoder. -/
  decoded : h.lock ≠ .notUtf8 ∧ h.lock ≠ .tooDeep ∧ h.lock ≠ .tooManyDigits
  /-- The settings in the lock can be copied and compared. -/
  judged : ∀ lock, h.lock = .json (.obj lock) → (Obj.get lock "settings").truthy = true →
    ∀ s, spelledOut (Obj.get lock "settings") = .ok s → s.Judged py
  shallow : h.records .emergency session ≠ .tooDeep
  /-- The timestamp of the record is no integer beyond the floats. -/
  stamped : ∀ value, h.records .emergency session = .json value → payloadOf py value ≠ .error .overflowError
  /-- What a current record says was applied, and the causes it keeps, can be written again. -/
  encodable : ∀ value payload, h.records .emergency session = .json value → payloadOf py value = .ok payload →
    payload.sessionId = session → payload.bootId = h.bootId →
      Encodable py (payload.data.get "applied") (keptCauses payload.data)

theorem unreadable_cases {e : Exc} (ordinary : (e.isStateError || e.isOSError || e.isValueError) = true) :
    unreadable name e = .ok none ∨ ∃ e', unreadable name e = .error e' ∧ e'.isStateError = true := by
  unfold unreadable
  split
  · exact Or.inl rfl
  split
  · exact Or.inr ⟨_, rfl, rfl⟩
  case isFalse neither =>
    simp only [Bool.or_eq_true] at ordinary neither
    rcases ordinary with (state | os) | value
    · exact Or.inr ⟨e, rfl, state⟩
    · exact absurd (Or.inl os) neither
    · exact absurd (Or.inr value) neither

/-- A record without the contents that end the handler: it is none, an error that is caught, or
    what a current record contributes. -/
theorem recordOf_cases {py : Interpreter} {boot : String} {file : Loaded} (shallow : file ≠ .tooDeep)
    (stamped : ∀ value, file = .json value → payloadOf py value ≠ .error .overflowError) :
    recordOf py name session boot file = .ok none ∨
      (∃ e, recordOf py name session boot file = .error e ∧ e.isStateError = true) ∨
      ∃ value payload, recordOf py name session boot file = .ok (some payload) ∧ file = .json value ∧
        payloadOf py value = .ok payload ∧ payload.sessionId = session ∧ payload.bootId = boot := by
  have absent {e : Exc} (raised : file.loads.bind (payloadOf py) = .error e)
      (ordinary : (e.isStateError || e.isOSError || e.isValueError) = true) :
      recordOf py name session boot file = .ok none ∨
        (∃ e, recordOf py name session boot file = .error e ∧ e.isStateError = true) ∨
        ∃ value payload, recordOf py name session boot file = .ok (some payload) ∧ file = .json value ∧
          payloadOf py value = .ok payload ∧ payload.sessionId = session ∧ payload.bootId = boot := by
    rw [recordOf, raised]
    rcases unreadable_cases ordinary with none | caught
    · exact Or.inl none
    · exact Or.inr (Or.inl caught)
  cases file with
  | json value =>
    cases read : payloadOf py value with
    | error e =>
      refine absent read ?_
      rcases payloadOf_error py read with ordinary | overflow
      · simp only [Bool.or_eq_true] at ordinary ⊢
        exact ordinary.imp_left Or.inl
      · exact absurd (overflow ▸ read) (stamped value rfl)
    | ok payload =>
      have outcome : recordOf py name session boot (.json value) =
          .ok (if payload.sessionId = session ∧ payload.bootId = boot then some payload else none) := by
        simp [recordOf, Loaded.loads, Except.bind, read]
      rw [outcome]
      split
      case isTrue current => exact Or.inr (Or.inr ⟨value, payload, rfl, rfl, read, current⟩)
      case isFalse => exact Or.inl rfl
  | tooDeep => exact absurd rfl shallow
  | missing => exact absent rfl rfl
  | ioError kind => exact absent rfl rfl
  | notUtf8 => exact absent rfl rfl
  | malformed => exact absent rfl rfl
  | tooManyDigits => exact absent rfl rfl

/-- The evidence that the handler goes on with can be written again. -/
theorem evidence_ensures {py : Interpreter} (recoverable : Recoverable py w.host session) :
    (priorEvidence py terminatedCause session).Ensures perform w fun x w' =>
      (∃ prior kept, x = .ok prior ∧ prior.causes = kept ++ [.obj terminatedCause.asDict] ∧
        Encodable py prior.applied kept) ∧
        w' = w := by
  have empty : Encodable py .null [] := by
    refine ⟨by simp [Json.dumps], ?_⟩
    obtain ⟨fuel, deep⟩ : ∃ fuel, py.encodeDepth - 2 = fuel + 1 := ⟨py.encodeDepth - 3, by have := py.shallow; omega⟩
    simp [deep, Json.dumps, Json.dumpsItems]
  have caughtState {e : Exc} (state : e.isStateError = true) :
      (e.isStateError || e.isValueError) = true := by simp [state]
  rw [priorEvidence, ensures_handle, ensures_bind, ensures_read recoverable.named]
  refine ⟨?_, fun e raised => ?_, ?_⟩
  · rcases recordOf_cases recoverable.shallow recoverable.stamped with outcome | ⟨e, outcome, state⟩ | found
    · rw [outcome]
      exact ⟨⟨_, [], rfl, rfl, empty⟩, rfl⟩
    · rw [outcome]
      simp only [afterwards, caught, caughtState state, if_true, Option.getD_some]
      exact ⟨⟨_, [], rfl, rfl, empty⟩, rfl⟩
    · obtain ⟨value, payload, outcome, content, read, same, boot⟩ := found
      rw [outcome]
      refine ⟨⟨_, keptCauses payload.data, rfl, prior_causes _, ?_⟩, rfl⟩
      rw [prior_applied]
      exact recoverable.encodable value payload content read same boot
  · have ordinary : (e.isStateError || e.isOSError || e.isValueError) = true := by
      rcases Bool.or_eq_true_iff.mp raised with os | state
      · simp [os]
      · simp [state]
    rcases (unreadable_cases ordinary : unreadable .emergency e = .ok none ∨ _) with outcome | ⟨e', outcome, state⟩
    · rw [outcome]
      exact ⟨⟨_, [], rfl, rfl, empty⟩, rfl⟩
    · rw [outcome]
      simp only [afterwards, caught, caughtState state, if_true, Option.getD_some]
      exact ⟨⟨_, [], rfl, rfl, empty⟩, rfl⟩
  · exact ⟨⟨_, [], rfl, rfl, empty⟩, rfl⟩

/-- A record that can be encoded is published, or its failure is noted. -/
theorem publish_ensures {py : Interpreter} {data : Obj} {diagnostic : Diagnostic} (named : filename py session = .ok ())
    (encodes : ∀ boot now, (envelope session boot now data).dumps py.encodeDepth ≠ .error .recursionError) :
    (publish py session data diagnostic).Ensures perform w fun x w' =>
      (∃ ds, x = .ok ds) ∧ w'.contained = w.contained := by
  have failed {e : Exc} (ordinary : (e.isStateError || e.isOSError || e.isValueError) = true) :
      Prog.Ensures perform
        ((if e.isOSError || e.isValueError || e = .typeError then
          some (.raise (.stateError s!"Cannot publish {RecordName.emergency.text} observation: {e.text}"))
        else none).getD (.raise e) : Py Unit) w
        (afterwards perform (fun _ => pure []) (caught perform
          (fun e => if e.isStateError then some (pure [diagnostic]) else none)
          fun x w' => (∃ ds, x = .ok ds) ∧ w'.contained = w.contained)) := by
    split
    · exact ⟨⟨_, rfl⟩, rfl⟩
    case isFalse neither =>
      simp only [Bool.or_eq_true, not_or] at neither ordinary
      rcases ordinary with (state | os) | value
      · simp only [Option.getD_none, ensures_raise, afterwards, caught, state, if_true, Option.getD_some]
        exact ⟨⟨_, rfl⟩, rfl⟩
      · exact absurd os neither.1.1
      · exact absurd value neither.1.2
  rw [publish, ensures_handle, ensures_bind, Records.write, bind_filename py named, ensures_handle, ensures_bind,
    ensures_bootId]
  refine ⟨?_, fun e raised => failed (by simpa [Op.raises, Bool.or_assoc] using Or.inr raised)⟩
  simp only [afterwards]
  rw [ensures_bind, ensures_clock]
  intro now
  simp only [afterwards]
  rw [ensures_bind, ensures_ofExcept]
  cases dumped : (envelope session w.host.bootId now data).dumps py.encodeDepth with
  | error e =>
    refine failed ?_
    rcases dumps_error _ _ _ dumped with value | rfl
    · simp [value]
    · exact absurd dumped (encodes _ _)
  | ok _ =>
    simp only [afterwards]
    rw [ensures_writeRecord]
    refine ⟨⟨⟨_, rfl⟩, rfl⟩, fun e raised => failed ?_⟩
    rcases Bool.or_eq_true_iff.mp raised with os | state
    · simp [os]
    · simp [state]

/-- The notifications raise nothing. -/
theorem notify_ensures {lock : Obj} {cause : Diagnostic} {result : Result} {newCause : Bool} :
    (notify lock cause result newCause).Ensures perform w fun x w' =>
      (∃ r, x = .ok r) ∧ w'.contained = w.contained := by
  unfold notify
  split
  case isFalse => exact ⟨⟨_, rfl⟩, rfl⟩
  have emits {event : String} {k : Except Exc (List Diagnostic) → Py Result}
      (failed : ∀ e, e.isException = true → ∃ r, k (.error e) = pure r)
      (reported : ∀ more, (k (.ok more)).Ensures perform w fun x w' => (∃ r, x = .ok r) ∧ w'.contained = w.contained) :
      (step (.emit event false) >>= k).Ensures perform w fun x w' => (∃ r, x = .ok r) ∧ w'.contained = w.contained := by
    rw [ensures_bind, ensures_emit]
    refine ⟨fun e raised => ?_, reported⟩
    obtain ⟨r, continues⟩ := failed e raised
    rw [afterwards, continues, ensures_pure]
    exact ⟨⟨r, rfl⟩, rfl⟩
  dsimp only
  split
  · refine emits (fun e raised => ⟨_, if_pos raised⟩) fun more => ?_
    exact emits (fun e raised => ⟨_, if_pos raised⟩) fun rest => ⟨⟨_, rfl⟩, rfl⟩
  · exact emits (fun e raised => ⟨_, if_pos raised⟩) fun rest => ⟨⟨_, rfl⟩, rfl⟩

/-- What the transition finds: no stop, and a lock that runs the session, or none to read. -/
structure Intended (h : Host) (session : String) : Prop where
  marker : stopOf session h.marker = .ok false
  lock : ∀ current, lockOf true h.lock = .ok (some current) →
    (current.get "session_id").isStr session = true ∧ (current.get "phase").isStr "stopping" = false
  readable : ∀ e, lockOf true h.lock = .error e → e.isStateError = true

theorem ensures_stillIntended (intended : Intended w.host session) {Q : Except Exc Bool → Scene → Prop} :
    (stillIntended session true).Ensures perform w Q ↔ Q (.ok true) w := by
  rw [stillIntended, ensures_bind, ensures_stopWasRequested, intended.marker]
  simp only [afterwards, Bool.false_eq_true, if_false]
  rw [ensures_bind, ensures_handle, ensures_readLock]
  cases read : lockOf true w.host.lock with
  | error e => simp [caught, afterwards, intended.readable e read]
  | ok current =>
    cases current with
    | none => rfl
    | some lock =>
      obtain ⟨same, runs⟩ := intended.lock lock read
      simp [caught, afterwards, same, runs]

/-- With the intent still there, the part under the transition lock contains. -/
theorem containLocked_ensures {py : Interpreter} {result : Result}
    (recoverable : Recoverable py w.host session) (intended : Intended w.host session) :
    (containLocked py session terminatedCause true true timeout result).Ensures perform w fun x w' =>
      (∃ contained, x = .ok (some contained)) ∧ w'.contained = true := by
  rw [containLocked, ensures_bind, ensures_stillIntended intended]
  simp only [afterwards, if_true]
  rw [ensures_bind]
  refine ensures_mono (evidence_ensures recoverable) fun x w₁ read => ?_
  obtain ⟨⟨prior, kept, rfl, causes, encodable⟩, rfl⟩ := read
  simp only [afterwards]
  rw [ensures_bind, causes]
  refine ensures_mono (publish_ensures recoverable.named fun boot now => encodable_dumps encodable _ _ _ _ _)
    fun x w₂ published => ?_
  obtain ⟨⟨latched, rfl⟩, _⟩ := published
  simp only [afterwards]
  rw [ensures_bind]
  refine ensures_mono enforce_ensures fun x w₃ enforced => ?_
  obtain ⟨⟨check, applied, failed, rfl, source⟩, contained⟩ := enforced
  have again : Encodable py applied kept := by
    rcases source with rfl | ⟨b, rfl⟩
    · exact encodable
    · exact ⟨by simp [Json.dumps], encodable.causes⟩
  simp only [afterwards]
  rw [ensures_bind]
  refine ensures_mono (publish_ensures recoverable.named fun boot now => encodable_dumps again _ _ _ _ _)
    fun x w₄ written => ?_
  obtain ⟨⟨ds, rfl⟩, kept⟩ := written
  exact ⟨⟨_, rfl⟩, kept ▸ contained⟩

/-- The timeout of a containment is found and positive where the settings are judged. -/
theorem containmentTimeout_ok {py : Interpreter} {lock : Obj} (judged : (lock.get "settings").truthy = true →
    ∀ s, spelledOut (lock.get "settings") = .ok s → s.Judged py) :
    ∃ timeout policy, containmentTimeout py lock = .ok (timeout, policy) ∧ 0 < timeout := by
  unfold containmentTimeout
  split
  case isTrue truthy =>
    cases accepted : fromSnapshot py (lock.get "settings") with
    | ok s => exact ⟨_, _, rfl, fromSnapshot_checkTimeout accepted⟩
    | error e =>
      have settings := fromSnapshot_judged.mp (judged truthy) e accepted
      simp only [settings, if_true]
      exact ⟨10, _, rfl, by decide⟩
  case isFalse => exact ⟨10, [], rfl, by decide⟩

/-- `request_emergency` of the handler contains. -/
theorem requestEmergency_ensures {py : Interpreter} {lock : Obj} (identity : sessionIdOf lock = some session)
    (free : w.host.transition = none) (intended : Intended w.host session)
    (recoverable : Recoverable py w.host session)
    (judged : (lock.get "settings").truthy = true → ∀ s, spelledOut (lock.get "settings") = .ok s → s.Judged py) :
    (requestEmergency py lock terminatedCause true true).Ensures perform w fun x w' =>
      (∃ r, x = .ok r) ∧ w'.contained = true := by
  obtain ⟨timeout, policy, found, positive⟩ := containmentTimeout_ok judged
  simp only [requestEmergency, identity]
  rw [ensures_bind, ensures_ofExcept, found]
  simp only [afterwards]
  rw [ensures_bind, ensures_handle, ensures_transition positive free]
  have locked : Recoverable py { w.host with transition := some 0 } session :=
    ⟨recoverable.named, recoverable.decoded, recoverable.judged, recoverable.shallow, recoverable.stamped,
      recoverable.encodable⟩
  have still : Intended { w.host with transition := some 0 } session :=
    ⟨intended.marker, intended.lock, intended.readable⟩
  refine ensures_mono (containLocked_ensures locked still) fun x w' ended => ?_
  obtain ⟨⟨⟨result, newCause⟩, rfl⟩, contained⟩ := ended
  exact ensures_mono notify_ensures fun x w'' notified => ⟨notified.1, notified.2.trans contained⟩

end

/-! ### Where an exception gets past the handlers -/

section
variable {w : Scene} {session : String} {timeout : ℚ} {py : Interpreter} {data : Obj} {diagnostic : Diagnostic}

theorem publish_recursion {Q : Except Exc (List Diagnostic) → Scene → Prop} (named : filename py session = .ok ())
    (deep : (envelope session w.host.bootId 0 data).dumps py.encodeDepth = .error .recursionError)
    (all : (publish py session data diagnostic).Ensures perform w Q) : Q (.error .recursionError) w := by
  rw [publish, ensures_handle, ensures_bind, Records.write, bind_filename py named, ensures_handle, ensures_bind,
    ensures_bootId] at all
  have written := all.1
  simp only [afterwards] at written
  rw [ensures_bind, ensures_clock] at written
  have dumped := written 0
  simp only [afterwards] at dumped
  rw [ensures_bind, ensures_ofExcept, deep] at dumped
  exact dumped

theorem publish_refused {Q : Except Exc (List Diagnostic) → Scene → Prop} (named : filename py session = .ok ())
    (all : (publish py session data diagnostic).Ensures perform w Q) : Q (.ok [diagnostic]) w := by
  rw [publish, ensures_handle, ensures_bind, Records.write, bind_filename py named, ensures_handle, ensures_bind,
    ensures_bootId] at all
  exact all.2 (.osError "OSError") rfl

/-- An inspection that fails, and the killswitch after it. -/
theorem enforce_applies {requested : Json} {Q : Except Exc (KernelCheck × Json × List Diagnostic) → Scene → Prop}
    (all : (enforce true timeout requested).Ensures perform w Q) :
    ∃ check w', Q (.ok (check, .bool true, [])) w' ∧ w'.host.bootId = w.host.bootId := by
  rw [enforce, if_pos rfl, ensures_bind, inspectEmergencyRules, ensures_bind, ensures_listing] at all
  have applied := all.2.2.2 1
  simp only [afterwards, ensures_pure, Bool.false_eq_true, if_false] at applied
  rw [apply, ensures_bind, ensures_handle, ensures_bind, applyEmergencyKillswitch, applyTableAtomically, ensures_handle,
    ensures_handle, ensures_transaction] at applied
  have installed := applied.1
  simp only [afterwards, caught, ensures_pure] at installed
  rw [ensures_bind, inspectEmergencyRules, ensures_bind, ensures_listing] at installed
  exact ⟨_, _, installed.2.2.2 1, rfl⟩

theorem dumps_deep_applied {applied : Json} {causes : List Json} {boot : String} {verified : Bool}
    {result : Option Result}
    (deep : applied.dumps (py.encodeDepth - 2) = .error .recursionError) :
    (envelope session boot 0 (emergencyData applied verified causes result)).dumps py.encodeDepth =
      .error .recursionError := by
  obtain ⟨fuel, depth⟩ : ∃ fuel, py.encodeDepth = fuel + 5 := ⟨py.encodeDepth - 5, by have := py.shallow; omega⟩
  rw [depth] at deep ⊢
  have deep : applied.dumps (fuel + 3) = .error .recursionError := deep
  rw [envelope_dumps, deep]
  rfl

theorem dumps_deep_causes {kept : List Json} {boot : String} {applied verified : Bool} {result : Option Result}
    (deep : (Json.arr kept).dumps (py.encodeDepth - 2) = .error .recursionError) :
    (envelope session boot 0 (emergencyData (.bool applied) verified
      (kept ++ [.obj terminatedCause.asDict]) result)).dumps
      py.encodeDepth = .error .recursionError := by
  obtain ⟨fuel, depth⟩ : ∃ fuel, py.encodeDepth = fuel + 5 := ⟨py.encodeDepth - 5, by have := py.shallow; omega⟩
  rw [depth] at deep ⊢
  rw [envelope_dumps, dumps_causes]
  exact deep

/-- A locked part that raises only what its caller catches found a record it could go on with. -/
theorem containLocked_recoverable {result : Result} {Q : Except Exc (Option (Result × Bool)) → Scene → Prop}
    (named : filename py session = .ok ()) (intended : Intended w.host session)
    (all : (containLocked py session terminatedCause true true timeout result).Ensures perform w Q)
    (handled : ∀ e w', Q (.error e) w' → (e.isOSError || e.isStateError) = true) :
    w.host.records .emergency session ≠ .tooDeep ∧
      (∀ value, w.host.records .emergency session = .json value → payloadOf py value ≠ .error .overflowError) ∧
      ∀ value payload, w.host.records .emergency session = .json value → payloadOf py value = .ok payload →
        payload.sessionId = session → payload.bootId = w.host.bootId →
          Encodable py (payload.data.get "applied") (keptCauses payload.data) := by
  rw [containLocked, ensures_bind, ensures_stillIntended intended] at all
  simp only [afterwards, if_true] at all
  rw [ensures_bind, priorEvidence, ensures_handle, ensures_bind, ensures_read named] at all
  have read := all.1
  refine ⟨fun deep => ?_, fun value content overflow => ?_, fun value payload content valid same boot => ?_⟩
  · rw [deep] at read
    exact absurd (handled _ _ read) (by decide)
  · rw [content, recordOf, Loaded.loads, Except.bind, overflow] at read
    exact absurd (handled _ _ read) (by decide)
  · rw [content, recordOf, Loaded.loads, Except.bind, valid] at read
    simp only [same, boot, and_self, if_true, afterwards, ensures_pure, caught] at read
    rw [ensures_bind] at read
    refine ⟨fun deep => ?_, fun deep => ?_⟩
    · have raised := publish_recursion named (dumps_deep_applied (by rw [prior_applied]; exact deep)) read
      exact absurd (handled _ _ raised) (by decide)
    · have latched := publish_refused named read
      simp only [afterwards] at latched
      rw [ensures_bind] at latched
      obtain ⟨check, w', enforced, sameBoot⟩ := enforce_applies latched
      simp only [afterwards] at enforced
      rw [ensures_bind, prior_causes] at enforced
      have raised := publish_recursion named (dumps_deep_causes deep) enforced
      exact absurd (handled _ _ raised) (by decide)

end

/-! ### The handler -/

/-- The handler returns, and has seen the emergency table in the kernel or tried to install it. -/
def Contains (x : Except Exc Result) (w : Scene) : Prop := (∃ r, x = .ok r) ∧ w.contained = true

/-- A marker file without a stop of this session: none, or one that names another session only. -/
def NotStopped (h : Host) (session : String) : Prop :=
  h.marker = .missing ∨ ∃ marker stopped, h.marker = .json (.obj marker) ∧ Obj.get marker "session_id" = .str stopped ∧
    stopped ≠ session ∧ stopped ≠ "*"

/-- A lock that can be read is one of this session, which runs and requires a watchdog. -/
def Requires (h : Host) (session : String) : Prop :=
  ∀ lock, h.lock = .json (.obj lock) → Obj.get lock "session_id" = .str session ∧
    (Obj.get lock "phase").isStr "stopping" = false ∧ (Obj.get lock "watchdog_requested").truthy = true

section
variable {py : Interpreter} {h : Host} {session : String}

theorem intended_of (decoded : h.lock ≠ .notUtf8 ∧ h.lock ≠ .tooDeep ∧ h.lock ≠ .tooManyDigits)
    (notStopped : NotStopped h session) (requires : Requires h session) : Intended h session where
  marker := by
    rcases notStopped with none | ⟨marker, stopped, content, names, other, notAll⟩
    · rw [none]
      rfl
    · rw [content]
      simp [stopOf, Loaded.loads, names, other, notAll]
  lock := by
    intro current read
    obtain ⟨same, runs, _⟩ := requires current (lockOf_some.mp read)
    exact ⟨by simp [same, Json.isStr], runs⟩
  readable := lockOf_decoded.mpr decoded

/-- Once the handler has a lock to contain, it contains exactly where the settings in it are judged
    and the record can be recovered. -/
theorem request_contains {lock : Obj} (identity : lock.get "session_id" = .str session)
    (free : h.transition = none) (notStopped : NotStopped h session) (requires : Requires h session)
    (decoded : h.lock ≠ .notUtf8 ∧ h.lock ≠ .tooDeep ∧ h.lock ≠ .tooManyDigits)
    (settings : ((lock.get "settings").truthy = true → ∀ s, spelledOut (lock.get "settings") = .ok s → s.Judged py) ↔
      ∀ current, h.lock = .json (.obj current) → (Obj.get current "settings").truthy = true →
        ∀ s, spelledOut (Obj.get current "settings") = .ok s → s.Judged py) :
    (requestEmergency py lock terminatedCause true true).Ensures perform ⟨h, false⟩ Contains ↔
      Recoverable py h session := by
  have intended := intended_of decoded notStopped requires
  constructor
  · intro all
    have nonempty : session ≠ "" := by
      rintro rfl
      simp [requestEmergency, sessionIdOf, identity, Contains] at all
    have identity : sessionIdOf lock = some session := by simp [sessionIdOf, identity, nonempty]
    have judged : (lock.get "settings").truthy = true → ∀ s, spelledOut (lock.get "settings") = .ok s →
        s.Judged py := by
      intro truthy
      refine fromSnapshot_judged.mpr fun e failed => ?_
      by_contra other
      simp only [requestEmergency, identity, containmentTimeout, truthy, failed, other, if_true] at all
      simp [Contains, afterwards] at all
    obtain ⟨timeout, policy, found, positive⟩ := containmentTimeout_ok judged
    simp only [requestEmergency, identity] at all
    rw [ensures_bind, ensures_ofExcept, found] at all
    simp only [afterwards] at all
    rw [ensures_bind, ensures_handle, ensures_transition positive free] at all
    have locked : Intended { h with transition := some 0 } session :=
      ⟨intended.marker, intended.lock, intended.readable⟩
    -- what leaves the locked part has to be caught
    obtain ⟨Q, all, handled⟩ : ∃ Q : Except Exc (Option (Result × Bool)) → Scene → Prop,
        (containLocked py session terminatedCause true true timeout (Result.add {} (terminatedCause :: policy))).Ensures
          perform ⟨{ h with transition := some 0 }, false⟩ Q ∧
        ∀ e w', Q (.error e) w' → (e.isOSError || e.isStateError) = true := by
      refine ⟨_, all, fun e w' ended => ?_⟩
      by_contra other
      simp only [caught, other, if_false, Option.getD_none, ensures_raise, afterwards, Contains] at ended
      simp at ended
    have named : filename py session = .ok () := by
      refine (filename_named py nonempty).resolve_right fun encodes => ?_
      rw [containLocked_unencodable encodes, ensures_bind, ensures_stillIntended locked] at all
      exact absurd (handled _ _ all) (by decide)
    obtain ⟨shallow, stamped, encodable⟩ := containLocked_recoverable named locked all handled
    exact ⟨named, decoded, settings.mp judged, shallow, stamped, encodable⟩
  · intro recoverable
    have nonempty := ((filename_ok py).mp recoverable.named).1
    have identity : sessionIdOf lock = some session := by simp [sessionIdOf, identity, nonempty]
    exact requestEmergency_ensures identity free intended recoverable (settings.mpr recoverable.judged)

/-- Run with the transition lock free, the termination handler of a required session always contains exactly
    where the session can have a record, and the lock file and the previous record hold nothing that raises
    past its handlers. -/
theorem terminated_contains (free : h.transition = none) (notStopped : NotStopped h session)
    (requires : Requires h session) :
    (supervisionTerminated py (some session)).Ensures perform ⟨h, false⟩ Contains ↔ Recoverable py h session := by
  rw [supervisionTerminated, ensures_bind, ensures_handle, ensures_bind, ensures_readLock]
  by_cases decoded : h.lock ≠ .notUtf8 ∧ h.lock ≠ .tooDeep ∧ h.lock ≠ .tooManyDigits
  · -- without a lock to read, the handler contains the session it was started for
    have substitute (missing : ∀ lock, h.lock ≠ .json (.obj lock)) :
        (requestEmergency py [("session_id", .str session), ("watchdog_requested", .bool true)] terminatedCause true
          true).Ensures perform ⟨h, false⟩ Contains ↔ Recoverable py h session :=
      request_contains (by simp [Obj.get, find?_cons]) free notStopped requires decoded
        ⟨fun _ lock content => absurd content (missing lock), fun _ truthy => by
          simp [Obj.get, find?_cons, Json.truthy] at truthy⟩
    cases read : lockOf true h.lock with
    | error e =>
      have state := lockOf_decoded.mpr decoded e read
      simp only [afterwards, caught, state, if_true, Option.getD_some]
      exact substitute fun lock content => by simp [lockOf_some.mpr content] at read
    | ok current =>
      cases current with
      | none => exact substitute fun lock content => by simp [lockOf_some.mpr content] at read
      | some lock =>
        have content := lockOf_some.mp read
        obtain ⟨same, runs, required⟩ := requires lock content
        have filled : lock.isEmpty = false := by
          cases lock with
          | nil => simp [Obj.get] at same
          | cons _ _ => rfl
        have named' : (lock.get "session_id").isStr session = true := by simp [same, Json.isStr]
        simp only [afterwards, caught, ensures_pure, filled, named', runs, required, terminatedLock, Bool.not_true,
          Bool.and_false, Bool.false_eq_true, Bool.or_self, if_false]
        exact request_contains same free notStopped requires decoded
          ⟨fun judged current here => by
            obtain rfl : lock = current := by simpa [content] using here
            exact judged, fun all => all lock content⟩
  · refine iff_of_false (fun all => ?_) fun recoverable => decoded recoverable.decoded
    refine decoded (lockOf_decoded.mp fun e read => ?_)
    by_contra other
    rw [read] at all
    simp [caught, afterwards, other, Contains] at all

end

theorem running_contained : (supervisionTerminated .cpython (some "a")).Ensures perform
    ⟨{ Host.fresh with lock := .json (.obj (requiredLock "a")) }, false⟩ Contains := by
  refine (terminated_contains rfl (Or.inl rfl) ?_).mpr ⟨rfl, ⟨by simp, by simp, by simp⟩, ?_, by simp [Host.fresh],
    by simp [Host.fresh], by simp [Host.fresh]⟩
  · rintro lock content
    obtain rfl : requiredLock "a" = lock := by simpa using content
    exact ⟨rfl, rfl, rfl⟩
  · rintro lock content truthy
    obtain rfl : requiredLock "a" = lock := by simpa using content
    simp [requiredLock, Obj.get, find?_cons, Json.truthy] at truthy

/-- A lock file that is not UTF-8 leaves the host without containment. -/
theorem undecodable_uncontained : ¬ ∀ (py : Interpreter) (h : Host) (session : String), session ≠ "" →
    h.transition = none →
    NotStopped h session → Requires h session →
      (supervisionTerminated py (some session)).Ensures perform ⟨h, false⟩ Contains := by
  intro all
  have uncaught := all .cpython { Host.fresh with lock := .notUtf8 } "a" (by decide) rfl (Or.inl rfl)
    (fun lock content => by simp at content)
  rw [supervisionTerminated, ensures_bind, ensures_handle, ensures_bind, ensures_readLock] at uncaught
  simp [lockOf, Loaded.loads, Exc.isOSError, Exc.isStateError, caught, afterwards, Contains] at uncaught

end Ttp.Containment
