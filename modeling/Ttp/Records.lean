import Ttp.State

/-!
`ttp/runtime_records.py`: the records of the watchdog's directory and the lock
that serializes transitions. A record of another session or boot reads as none,
one that is not what `write` publishes as an error.
-/
namespace Ttp.Records
open Ttp.Python Ttp.Program Ttp.Machine Ttp.State

variable (py : Interpreter)

/-- What a record file holds once its schema was checked. -/
structure Payload where
  sessionId : String
  bootId : String
  writtenAt : ℚ
  data : Obj

/-- `written_at` as a number that is finite and not negative. -/
def timestamp {S : Type} : Json S → Except Exc ℚ
  | .int n =>
    if floatOverflow n then .error .overflowError
    else if n < 0 then .error (.stateError "Invalid observation timestamp")
    else .ok n
  | .float (.finite q) => if q < 0 then .error (.stateError "Invalid observation timestamp") else .ok q
  | _ => .error (.stateError "Invalid observation timestamp")

/-- The schema checks of `read`, in their order. -/
def payloadOf : Json → Except Exc Payload
  | .obj payload =>
    match Obj.get payload "schema" with
    | .int 1 =>
      match Obj.get payload "data", Obj.get payload "session_id", Obj.get payload "boot_id" with
      | .obj data, .str sessionId, .str bootId =>
        if sessionId = "" then .error (.stateError "Invalid observation payload")
        else if py.isUuid bootId then do
          let writtenAt ← timestamp (Obj.get payload "written_at")
          .ok { sessionId, bootId, writtenAt, data }
        else .error (.valueError "badly formed hexadecimal UUID string")
      | _, _, _ => .error (.stateError "Invalid observation payload")
    | _ => .error (.stateError "Unrecognized observation schema")
  | _ => .error (.stateError "Unrecognized observation schema")

/-- The `except` clauses of `read`. -/
def readError {α : Type} (name : RecordName) (e : Exc) : Option (Py (Option α)) :=
  if e = .osError "FileNotFoundError" then some (pure none)
  else if e.isOSError || e.isValueError then
    some (.raise (.stateError s!"Cannot inspect {name.text} observation: {e.text}"))
  else none

/-- What `_filename` makes of the session: the file is named by a hash of its encoding. -/
def filename (session : String) : Except Exc Unit :=
  if session = "" then .error (.stateError "An observation requires a session identity")
  else if py.encodes session then .ok ()
  else .error .unicodeEncodeError

/-- `RecordStore.read`. -/
def read (name : RecordName) (session : String) : Py (Option Payload) := do
  Prog.ofExcept (filename py session)
  let boot ← (checked (step .bootId)).handle fun e =>
    if e.isOSError || e.isValueError then
      some (.raise (.stateError "Cannot determine the current boot identity"))
    else none
  Prog.handle
    (do
      let file ← checked (step (.readRecord name session))
      let content ← Prog.ofExcept file.loads
      let payload ← Prog.ofExcept (payloadOf py content)
      if payload.sessionId = session ∧ payload.bootId = boot then pure (some payload) else pure none)
    (readError name)

/-- The payload of a record. -/
def envelope (session boot : String) (now : ℚ) (data : Obj) : Json :=
  .obj [("schema", .int 1), ("session_id", .str session), ("boot_id", .str boot), ("written_at", .float (.finite now)),
    ("data", .obj data)]

/-- `RecordStore.write`. -/
def write (name : RecordName) (session : String) (data : Obj) : Py Unit := do
  Prog.ofExcept (filename py session)
  Prog.handle
    (do
      let boot ← checked (step .bootId)
      let now ← step .clock
      Prog.ofExcept ((envelope session boot now data).dumps py.encodeDepth)
      checked (step (.writeRecord name session (envelope session boot now data))))
    fun e =>
      if e.isOSError || e.isValueError || e = .typeError then
        some (.raise (.stateError s!"Cannot publish {name.text} observation: {e.text}"))
      else none

/-- `prepare`. -/
def prepare : Py Unit := checked (step .prepareStore)

/-- `with transition(timeout): body`. -/
def transition {α : Type} (timeout : ℚ) (body : Py α) : Py α := do
  if timeout ≤ 0 then
    .raise (.stateError "Transition timeout must be finite and positive")
  else
    checked (step (.acquire timeout))
    body.always (step .release)

/-! ### The sessions that have records -/

theorem filename_ok {session : String} :
    filename py session = .ok () ↔ session ≠ "" ∧ py.encodes session = true := by
  unfold filename
  by_cases empty : session = ""
  · simp [empty]
  · cases encodes : py.encodes session <;> simp [empty]

theorem bind_filename {α : Type} {session : String} (named : filename py session = .ok ()) (f : Unit → Py α) :
    (Prog.ofExcept (filename py session) >>= f) = f () := by
  rw [named]
  rfl

theorem filename_named {session : String} (named : session ≠ "") :
    filename py session = .ok () ∨ filename py session = .error .unicodeEncodeError := by
  rw [filename, if_neg named]
  split
  · exact .inl rfl
  · exact .inr rfl

/-! ### What a file can fail with -/

theorem timestamp_error {S : Type} {value : Json S} {e : Exc} (failed : timestamp value = .error e) :
    e.isStateError = true ∨ e = .overflowError := by
  unfold timestamp at failed
  repeat' split at failed
  all_goals first
    | (obtain rfl := Except.error.inj failed; simp [Exc.isStateError])
    | simp at failed

theorem payloadOf_error {value : Json} {e : Exc} (failed : payloadOf py value = .error e) :
    (e.isStateError || e.isValueError) = true ∨ e = .overflowError := by
  unfold payloadOf at failed
  repeat' split at failed
  case h_1.isFalse.isTrue =>
    simp only [bind, Except.bind] at failed
    split at failed
    case h_1 stamp =>
      obtain rfl := Except.error.inj failed
      rcases timestamp_error stamp with state | overflow
      · exact Or.inl (by simp [state])
      · exact Or.inr overflow
    · simp at failed
  all_goals
    obtain rfl := Except.error.inj failed
    exact Or.inl rfl

/-- A record names its session, and its boot by a UUID. -/
theorem payloadOf_named {value : Json} {payload : Payload} (read : payloadOf py value = .ok payload) :
    payload.sessionId ≠ "" ∧ py.isUuid payload.bootId = true := by
  unfold payloadOf at read
  repeat' split at read
  case h_1.isFalse.isTrue named uuid =>
    obtain ⟨now, _, same⟩ := bind_ok read
    obtain rfl := Except.ok.inj same
    exact ⟨named, uuid⟩
  all_goals simp at read

/-! ### What was written reads back -/

theorem timestamp_started {S : Type} {now : ℚ} (started : 0 ≤ now) :
    timestamp (.float (.finite now) : Json S) = .ok now := by
  simp [timestamp, not_lt.mpr started]

theorem payloadOf_envelope (session boot : String) (now : ℚ) (data : Obj) (named : session ≠ "")
    (uuid : py.isUuid boot = true) (started : 0 ≤ now) :
    payloadOf py (envelope session boot now data) = .ok ⟨session, boot, now, data⟩ := by
  simp [payloadOf, envelope, Obj.get, Obj.find?, named, uuid, timestamp_started started, bind, Except.bind]

end Ttp.Records
