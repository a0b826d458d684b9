import Ttp.RecordSize

/-!
`RecordStore.read` and `RecordStore.write` by their single steps in the
directory of the watchdog: a record is written to a temporary file and renamed,
and the files are closed and the temporary one is unlinked afterwards, whatever
happened before. The strings of the data and of the session are code points,
since a dictionary that was decoded from JSON can hold surrogates.
-/
namespace Ttp.RecordFiles
open Ttp.Python Ttp.Program Ttp.RecordSize
open Ttp.Machine (RecordName)
open Ttp.Records (timestamp timestamp_error timestamp_started)

/-! ### Names -/

/-- `_filename`, by what its digest stands for. -/
def filename (session : PyText) : Except Exc String :=
  if session = [] then .error (.stateError "An observation requires a session identity") else session.encode

/-! ### Contents -/

/-- The characters that a code point of a string is escaped as. -/
def pointSize (c : Fin 0x110000) : Nat := if isSurrogate c then 6 else charSize (Char.ofNat c.val)

instance : Sized PyText := ⟨fun text => 2 + (text.map pointSize).sum⟩

section
variable {S : Type}

mutual
/-- The most digits of an integer in a value. -/
def digits : Json S → Nat
  | .int n => (toString n.natAbs).length
  | .arr items => digitsItems items
  | .obj fields => digitsFields fields
  | _ => 0
def digitsItems : List (Json S) → Nat
  | [] => 0
  | item :: rest => max (digits item) (digitsItems rest)
def digitsFields : List (S × Json S) → Nat
  | [] => 0
  | (_, value) :: rest => max (digits value) (digitsFields rest)
end

end

mutual
/-- What the text of a value reads as: the escapes of a surrogate pair are those of one code point. -/
def joined : Json PyText → Json PyText
  | .str text => .str text.joined
  | .arr items => .arr (joinedItems items)
  | .obj fields => .obj (Obj.update [] (joinedFields fields))
  | value => value
def joinedItems : List (Json PyText) → List (Json PyText)
  | [] => []
  | item :: rest => joined item :: joinedItems rest
def joinedFields : List (PyText × Json PyText) → List (PyText × Json PyText)
  | [] => []
  | (key, value) :: rest => (key.joined, joined value) :: joinedFields rest
end

mutual
/-- A value of Python, whose dictionaries have each key once, without a surrogate pair in two code points. -/
def Whole : Json PyText → Prop
  | .str text => text.Whole
  | .arr items => WholeItems items
  | .obj fields => (Obj.keys fields).Nodup ∧ WholeFields fields
  | _ => True
def WholeItems : List (Json PyText) → Prop
  | [] => True
  | item :: rest => Whole item ∧ WholeItems rest
def WholeFields : List (PyText × Json PyText) → Prop
  | [] => True
  | (key, value) :: rest => key.Whole ∧ Whole value ∧ WholeFields rest
end

mutual
theorem whole_joined : ∀ value : Json PyText, Whole value → joined value = value
  | .null, _ => rfl
  | .bool _, _ => rfl
  | .int _, _ => rfl
  | .float _, _ => rfl
  | .str text, whole => by rw [joined, joined_whole whole]
  | .arr items, whole => by rw [joined, whole_joinedItems items whole]
  | .obj fields, whole => by
    rw [joined, whole_joinedFields fields whole.2, update_new fields (by simpa using whole.1), List.nil_append]
theorem whole_joinedItems : ∀ items : List (Json PyText), WholeItems items → joinedItems items = items
  | [], _ => rfl
  | item :: rest, whole => by rw [joinedItems, whole_joined item whole.1, whole_joinedItems rest whole.2]
theorem whole_joinedFields : ∀ fields : List (PyText × Json PyText), WholeFields fields → joinedFields fields = fields
  | [], _ => rfl
  | (key, value) :: rest, whole => by
    rw [joinedFields, joined_whole whole.1, whole_joined value whole.2.1, whole_joinedFields rest whole.2.2]
end

example : joined (.str [0xD83D, 0xDE00, 0xD800]) = .str [0x1F600, 0xD800] := rfl

/-- How far the decoder goes, and how many digits an integer may have in a text. -/
structure Limits where
  depth : Nat
  digits : Nat

/-- What a text decodes to that a value was encoded as. -/
def decoded (limits : Limits) (value : Json PyText) : Content PyText :=
  if limits.depth < value.depth then .tooDeep
  else if limits.digits < digits value then .tooManyDigits
  else .json (joined value)

structure File where
  bytes : Nat
  content : Content PyText

/-! ### Payloads -/

/-- What a record file holds once its schema was checked. -/
structure Payload where
  sessionId : PyText
  bootId : PyText
  writtenAt : ℚ
  data : Obj PyText

/-- The strings that `uuid.UUID` accepts, none of them with a surrogate. -/
def isUuid (py : Interpreter) (text : PyText) : Bool :=
  match text.encode with
  | .ok s => py.isUuid s
  | .error _ => false

/-- The schema checks of `read`, in their order. -/
def payloadOf (py : Interpreter) : Json PyText → Except Exc Payload
  | .obj payload =>
    match Obj.get payload (PyText.of "schema") with
    | .int 1 =>
      match Obj.get payload (PyText.of "data"), Obj.get payload (PyText.of "session_id"),
        Obj.get payload (PyText.of "boot_id") with
      | .obj data, .str sessionId, .str bootId =>
        if sessionId = [] then .error (.stateError "Invalid observation payload")
        else if isUuid py bootId then do
          let writtenAt ← timestamp (Obj.get payload (PyText.of "written_at"))
          .ok { sessionId, bootId, writtenAt, data }
        else .error (.valueError "badly formed hexadecimal UUID string")
      | _, _, _ => .error (.stateError "Invalid observation payload")
    | _ => .error (.stateError "Unrecognized observation schema")
  | _ => .error (.stateError "Unrecognized observation schema")

/-- The payload of a record. -/
def envelope (session : PyText) (boot : String) (now : ℚ) (data : Obj PyText) : Json PyText :=
  .obj [(PyText.of "schema", .int 1), (PyText.of "session_id", .str session),
    (PyText.of "boot_id", .str (PyText.of boot)),
    (PyText.of "written_at", .float (.finite now)), (PyText.of "data", .obj data)]

theorem payloadOf_error {py : Interpreter} {value : Json PyText} {e : Exc} (failed : payloadOf py value = .error e) :
    (e.isStateError || e.isValueError) = true ∨ e = .overflowError := by
  unfold payloadOf at failed
  repeat' split at failed
  case h_1.isFalse.isTrue =>
    simp only [bind, Except.bind] at failed
    split at failed
    case h_1 stamp =>
      obtain rfl := Except.error.inj failed
      rcases timestamp_error stamp with state | overflow
      · exact Or.inl (by simp [state])
      · exact Or.inr overflow
    · simp at failed
  all_goals
    obtain rfl := Except.error.inj failed
    exact Or.inl rfl

theorem payloadOf_envelope (py : Interpreter) {session : PyText} {boot : String} {now : ℚ} (data : Obj PyText)
    (named : session ≠ [])
    (uuid : py.isUuid boot = true) (started : 0 ≤ now) :
    payloadOf py (envelope session boot now data) = .ok ⟨session, PyText.of boot, now, data⟩ := by
  have booted : isUuid py (PyText.of boot) = true := by simp [isUuid, encode_of, uuid]
  simp [payloadOf, envelope, Obj.get, find?_cons, named, booted, timestamp_started started, bind, Except.bind]

/-! ### Steps -/

inductive Op where
  | bootId
  | clock
  | openDirectory
  /-- `fstat`, and the check of the owner and the mode. -/
  | inspectDirectory
  | closeDirectory
  | openRecord (name : RecordName) (session : String)
  | inspectRecord
  | readContent
  | openTemporary
  /-- `fchmod` and `fchown`. -/
  | restrict
  | fill (file : File)
  | rename (name : RecordName) (session : String)
  | close
  | unlinkTemporary

/-- What a step comes back with that works. -/
abbrev Op.Value : Op → Type
  | .bootId => String
  | .clock => ℚ
  | .openRecord .. => File
  | _ => Unit

abbrev Op.Res (o : Op) : Type := Except Exc o.Value

abbrev Py (α : Type) : Type := Prog Op Op.Res Exc α

/-- One step, raising what it fails with. -/
def act (o : Op) : Py o.Value := Prog.op o >>= Prog.ofExcept

/-- `with self._directory(): body`. -/
def directory {α : Type} (body : Py α) : Py α := do
  act .openDirectory
  Prog.always
    (do
      act .inspectDirectory
      body)
    (act .closeDirectory)

variable (py : Interpreter) (limits : Limits) (floats : FloatText)

/-! ### Reading -/

/-- The part of `read` after the content was read. -/
def examine (session : PyText) (boot : String) (file : File) : Except Exc (Option Payload) :=
  if maxRecordBytes < file.bytes then .error (.stateError "Observation record exceeds its size limit")
  else do
    let content ← file.content.loads
    let payload ← payloadOf py content
    .ok (if payload.sessionId = session ∧ payload.bootId = PyText.of boot then some payload else none)

/-- The `except` clauses of `read`. -/
def settle (name : RecordName) (e : Exc) : Except Exc (Option Payload) :=
  if e = .osError "FileNotFoundError" then .ok none
  else if e.isOSError || e.isValueError then .error (.stateError s!"Cannot inspect {name.text} observation: {e.text}")
  else .error e

/-- `RecordStore.read`. -/
def read (name : RecordName) (session : PyText) : Py (Option Payload) := do
  let text ← Prog.ofExcept (filename session)
  let boot ← (act .bootId).handle fun e =>
    if e.isOSError || e.isValueError then some (.raise (.stateError "Cannot determine the current boot identity"))
    else none
  Prog.handle
    (do
      let file ← directory (do
        let file ← act (.openRecord name text)
        Prog.always
          (do
            act .inspectRecord
            act .readContent
            pure file)
          (act .close))
      Prog.ofExcept (examine py session boot file))
    fun e => some (Prog.ofExcept (settle name e))

/-! ### Writing -/

/-- `json.dumps(payload, allow_nan=False)` and the check of its length. -/
def serialize (payload : Json PyText) : Except Exc File := do
  payload.dumps py.encodeDepth
  if limits.digits < digits payload then .error (.valueError "Exceeds the limit for integer string conversion")
  else if maxRecordBytes < recordBytes floats payload then
    .error (.stateError "Observation record exceeds its size limit")
  else .ok ⟨recordBytes floats payload, decoded limits payload⟩

/-- The temporary file, and its renaming. -/
def publish (name : RecordName) (session : String) (file : File) : Py Unit := do
  act .openTemporary
  Prog.always
    (do
      act .restrict
      act (.fill file)
      act (.rename name session))
    (do
      act .close
      (act .unlinkTemporary).handle fun e => if e = .osError "FileNotFoundError" then some (pure ()) else none)

/-- `RecordStore.write`. -/
def write (name : RecordName) (session : PyText) (data : Obj PyText) : Py Unit := do
  let text ← Prog.ofExcept (filename session)
  Prog.handle
    (do
      let boot ← act .bootId
      let now ← act .clock
      let file ← Prog.ofExcept (serialize py limits floats (envelope session boot now data))
      directory (publish name text file))
    fun e =>
      if e.isOSError || e.isValueError || e = .typeError then
        some (.raise (.stateError s!"Cannot publish {name.text} observation: {e.text}"))
      else none

/-! ### The directory -/

/-- The records by their names, two sessions never having the same digest, and the file being written. -/
structure Store where
  boot : String
  files : RecordName → String → Option File
  temporary : Option File

def Store.renamed (s : Store) (name : RecordName) (session : String) : Store :=
  { s with files := fun n t => if n = name ∧ t = session then s.temporary else s.files n t, temporary := none }

/-- How a step turns out. -/
inductive Fate where
  | ok
  | fails (e : Exc)
  | time (q : ℚ)

structure Event where
  op : Op
  fate : Fate

structure Run where
  store : Store
  log : List Event

/-- The result of a step, and the directory after it; one that fails changes nothing. -/
def Store.does (s : Store) (o : Op) (fate : Fate) : Option (o.Res × Store) :=
  match o, fate with
  | _, .fails e => some (.error e, s)
  | .clock, .time q => if 0 ≤ q then some (.ok q, s) else none
  | .clock, .ok => none
  | _, .time _ => none
  | .bootId, .ok => some (if py.isUuid s.boot then .ok s.boot
      else .error (.valueError "badly formed hexadecimal UUID string"), s)
  | .openRecord name session, .ok =>
    match s.files name session with
    | some file => some (.ok file, s)
    | none => some (.error (.osError "FileNotFoundError"), s)
  | .openTemporary, .ok => some (.ok (), { s with temporary := some ⟨0, .malformed⟩ })
  | .fill file, .ok => some (.ok (), { s with temporary := some file })
  | .rename name session, .ok => some (.ok (), s.renamed name session)
  | .unlinkTemporary, .ok =>
    match s.temporary with
    | some _ => some (.ok (), { s with temporary := none })
    | none => some (.error (.osError "FileNotFoundError"), s)
  | .openDirectory, .ok => some (.ok (), s)
  | .inspectDirectory, .ok => some (.ok (), s)
  | .closeDirectory, .ok => some (.ok (), s)
  | .inspectRecord, .ok => some (.ok (), s)
  | .readContent, .ok => some (.ok (), s)
  | .restrict, .ok => some (.ok (), s)
  | .close, .ok => some (.ok (), s)

def perform (w : Run) (o : Op) (fate : Fate) : Option (o.Res × Run) :=
  (w.store.does py o fate).map fun done => (done.1, ⟨done.2, w.log ++ [⟨o, fate⟩]⟩)

/-! ### What a program comes back with -/

section
variable {py} {α β : Type} {w : Run} {s : Store}

theorem ensures_act {o : Op} {Q : Except Exc o.Value → Run → Prop} : (act o).Ensures (perform py) w Q ↔
    ∀ fate r s', w.store.does py o fate = some (r, s') → Q r ⟨s', w.log ++ [⟨o, fate⟩]⟩ := by
  have each (r : o.Res) (u : Run) : afterwards (perform py) Prog.ofExcept Q (.ok r) u ↔ Q r u := ensures_ofExcept r
  rw [act, ensures_bind, ensures_op]
  constructor
  · intro all fate r s' done
    exact (each _ _).mp (all fate r _ (by rw [perform, done]; rfl))
  · intro all fate r w' performed
    obtain ⟨⟨r', s'⟩, done, same⟩ := Option.map_eq_some_iff.mp performed
    obtain ⟨rfl, rfl⟩ := Prod.mk.inj same
    exact (each _ _).mpr (all fate r' s' done)

end

/-- A step that worked. -/
def Event.Calm (event : Event) : Prop := ∀ e, event.fate ≠ .fails e

section
variable {py} {α : Type} {w : Run} {s : Store}

theorem does_calm (s : Store) (o : Op) : ∃ fate r s', s.does py o fate = some (r, s') ∧ ∀ e, fate ≠ .fails e := by
  cases o with
  | clock => exact ⟨.time 0, .ok 0, s, by simp [Store.does], by simp⟩
  | openRecord name session =>
    cases found : s.files name session with
    | some file => exact ⟨.ok, .ok file, s, by simp [Store.does, found], by simp⟩
    | none => exact ⟨.ok, .error (.osError "FileNotFoundError"), s, by simp [Store.does, found], by simp⟩
  | unlinkTemporary =>
    cases found : s.temporary with
    | some file => exact ⟨.ok, .ok (), { s with temporary := none }, by simp [Store.does, found], by simp⟩
    | none => exact ⟨.ok, .error (.osError "FileNotFoundError"), s, by simp [Store.does, found], by simp⟩
  | _ => exact ⟨.ok, _, _, rfl, by simp⟩

/-- A program can run with all of its steps working. -/
theorem calm_ends (p : Py α) (calm : ∀ event ∈ w.log, event.Calm) :
    ∃ x w', p.Ends (perform py) w x w' ∧ ∀ event ∈ w'.log, event.Calm := by
  induction p generalizing w with
  | ret a => exact ⟨.ok a, w, ⟨rfl, rfl⟩, calm⟩
  | raise e => exact ⟨.error e, w, ⟨rfl, rfl⟩, calm⟩
  | call o k ih =>
    obtain ⟨fate, r, s', done, works⟩ := @does_calm py w.store o
    have calm' : ∀ event ∈ w.log ++ [⟨o, fate⟩], event.Calm := by
      intro event member
      rcases List.mem_append.mp member with earlier | new
      · exact calm event earlier
      · obtain rfl := List.mem_singleton.mp new
        exact works
    obtain ⟨x, w', ended, after⟩ := ih r (w := ⟨s', w.log ++ [⟨o, fate⟩]⟩) calm'
    exact ⟨x, w', ⟨fate, r, _, by rw [perform, done]; rfl, ended⟩, after⟩

end

end Ttp.RecordFiles
