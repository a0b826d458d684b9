import Ttp.Faults
import Ttp.RecordFiles

/-!
What the readers of the session's files come back with. A record is read as its
payload, as none, or with a `StateError`, but for a session that cannot be
encoded, a file that is nested too deeply and a timestamp that is no float; the
lock is read with the declared errors but for a file that cannot be decoded.
-/
namespace Ttp.RecordReads
open Ttp.Python Ttp.Program Ttp.RecordSize Ttp.RecordFiles
open Ttp.Machine (RecordName)
open Ttp.Records (timestamp)

/-! ### Reading a record -/

section
variable {py : Interpreter} {α β : Type} {w : Run} {s : Store}

/-- A program that leaves the directory alone: it comes back with what the directory determines, or a step of it failed
    with what it raises. -/
def Yields (py : Interpreter) (p : Py α) (f : Store → Except Exc α) : Prop :=
  ∀ w : Run, p.Ensures (perform py) w fun x w' => w'.store = w.store ∧ ∃ more, w'.log = w.log ++ more ∧
    ((∀ event ∈ more, event.Calm) ∧ x = f w.store ∨ ∃ event ∈ more, event.op ≠ .bootId ∧ ∃ e,
      event.fate = .fails e ∧ x = .error e)

theorem yields_ofExcept (r : Except Exc α) : Yields py (Prog.ofExcept r) fun _ => r := by
  intro w
  rw [ensures_ofExcept]
  exact ⟨rfl, [], by simp, Or.inl ⟨by simp, rfl⟩⟩

theorem yields_pure (a : α) : Yields py (pure a) fun _ => .ok a := yields_ofExcept (.ok a)

/-- A step that changes nothing and needs no clock. -/
theorem yields_act {o : Op} {f : Store → o.Res} (other : o ≠ .bootId)
    (same : ∀ (s s' : Store) fate r, s.does py o fate = some (r, s') → s' = s ∧
      (fate = .ok ∧ r = f s ∨ ∃ e, fate = .fails e ∧ r = .error e)) :
    Yields py (act o) f := by
  intro w
  rw [ensures_act]
  intro fate r s' done
  obtain ⟨rfl, ⟨rfl, rfl⟩ | ⟨e, rfl, rfl⟩⟩ := same _ _ _ _ done
  · exact ⟨rfl, [_], rfl, Or.inl ⟨by simp [Event.Calm], rfl⟩⟩
  · exact ⟨rfl, [_], rfl, Or.inr ⟨_, List.mem_singleton_self _, other, e, rfl, rfl⟩⟩

theorem yields_bind {p : Py α} {q : α → Py β} {f : Store → Except Exc α} {g : α → Store → Except Exc β}
    (first : Yields py p f)
    (rest : ∀ a, Yields py (q a) (g a)) : Yields py (p >>= q) fun s => f s >>= fun a => g a s := by
  intro w
  rw [ensures_bind]
  refine ensures_mono (first w) fun x w' yielded => ?_
  obtain ⟨store, more, log, ⟨calm, rfl⟩ | ⟨event, member, other, e, fate, rfl⟩⟩ := yielded
  · cases found : f w.store with
    | error e =>
      refine ⟨store, more, log, Or.inl ⟨calm, ?_⟩⟩
      simp only [found]
      rfl
    | ok a =>
      refine ensures_mono (rest a w') fun y w'' yielded => ?_
      obtain ⟨store', more', log', outcome⟩ := yielded
      refine ⟨store'.trans store, more ++ more', by rw [log', log, List.append_assoc], ?_⟩
      rcases outcome with ⟨calm', rfl⟩ | ⟨event, member, other, e, fate, rfl⟩
      · refine Or.inl ⟨fun event member => (List.mem_append.mp member).elim (calm event) (calm' event), ?_⟩
        simp only [found, store]
        rfl
      · exact Or.inr ⟨event, List.mem_append_right _ member, other, e, fate, rfl⟩
  · exact ⟨store, more, log, Or.inr ⟨event, member, other, e, fate, rfl⟩⟩

/-- A cleanup that works leaves the outcome as it is. -/
theorem yields_always {p : Py α} {c : Py Unit} {f : Store → Except Exc α} (body : Yields py p f)
    (final : Yields py c fun _ => .ok ()) :
    Yields py (p.always c) f := by
  intro w
  rw [ensures_always]
  refine ensures_mono (body w) fun x w' yielded => ensures_mono (final w') fun y w'' closed => ?_
  obtain ⟨store, more, log, outcome⟩ := yielded
  obtain ⟨store', more', log', closing⟩ := closed
  have grown : w''.log = w.log ++ (more ++ more') := by rw [log', log, List.append_assoc]
  rcases closing with ⟨calm', rfl⟩ | ⟨event, member, other, e, fate, rfl⟩
  · refine ⟨store'.trans store, more ++ more', grown, ?_⟩
    rcases outcome with ⟨calm, rfl⟩ | ⟨event, member, other, e, fate, rfl⟩
    · exact Or.inl ⟨fun event member => (List.mem_append.mp member).elim (calm event) (calm' event), rfl⟩
    · exact Or.inr ⟨event, List.mem_append_left _ member, other, e, fate, rfl⟩
  · exact ⟨store'.trans store, more ++ more', grown,
      Or.inr ⟨event, List.mem_append_right _ member, other, e, fate, rfl⟩⟩

/-- The content of a record, as the directory determines it. -/
def opened (name : RecordName) (session : String) (s : Store) : Except Exc File :=
  match s.files name session with
  | some file => .ok file
  | none => .error (.osError "FileNotFoundError")

theorem yields_openRecord {name : RecordName} {session : String} :
    Yields py (act (.openRecord name session)) (opened name session) := by
  refine yields_act (by simp) fun s s' fate r done => ?_
  cases fate with
  | ok =>
    unfold opened
    cases found : s.files name session with
    | some file =>
      simp only [Store.does, found, Option.some.injEq, Prod.mk.injEq] at done
      exact ⟨done.2.symm, Or.inl ⟨rfl, done.1.symm⟩⟩
    | none =>
      simp only [Store.does, found, Option.some.injEq, Prod.mk.injEq] at done
      exact ⟨done.2.symm, Or.inl ⟨rfl, done.1.symm⟩⟩
  | fails e =>
    obtain ⟨rfl, rfl⟩ : Except.error e = r ∧ s = s' := by simpa [Store.does] using done
    exact ⟨rfl, Or.inr ⟨e, rfl, rfl⟩⟩
  | time q => simp [Store.does] at done

/-- Steps that the directory has no part in. -/
theorem yields_plain : Yields py (act .openDirectory) (fun _ => .ok ()) ∧
    Yields py (act .inspectDirectory) (fun _ => .ok ()) ∧
    Yields py (act .closeDirectory) (fun _ => .ok ()) ∧ Yields py (act .inspectRecord) (fun _ => .ok ()) ∧
      Yields py (act .readContent) (fun _ => .ok ()) ∧ Yields py (act .close) (fun _ => .ok ()) := by
  refine ⟨?_, ?_, ?_, ?_, ?_, ?_⟩
  all_goals
    refine yields_act (by simp) fun s s' fate r done => ?_
    cases fate with
    | ok =>
      obtain ⟨rfl, rfl⟩ : Except.ok () = r ∧ s = s' := by simpa [Store.does] using done
      exact ⟨rfl, Or.inl ⟨rfl, rfl⟩⟩
    | fails e =>
      obtain ⟨rfl, rfl⟩ : Except.error e = r ∧ s = s' := by simpa [Store.does] using done
      exact ⟨rfl, Or.inr ⟨e, rfl, rfl⟩⟩
    | time q => simp [Store.does] at done

theorem yields_directory {body : Py α} {f : Store → Except Exc α} (inside : Yields py body f) :
    Yields py (directory body) f := by
  obtain ⟨opens, inspects, closes, _⟩ := @yields_plain py
  exact yields_bind opens fun _ => yields_always (yields_bind inspects fun _ => inside) closes

/-- What the handlers of `read` make of an outcome. -/
def settled (name : RecordName) : Except Exc (Option Payload) → Except Exc (Option Payload)
  | .ok found => .ok found
  | .error e => settle name e

/-- What `read` comes back with when all of its steps work. -/
def readNow (py : Interpreter) (s : Store) (name : RecordName) (session : PyText) : Except Exc (Option Payload) :=
  match filename session with
  | .error e => .error e
  | .ok text =>
    if py.isUuid s.boot then settled name (opened name text s >>= examine py session s.boot)
    else .error (.stateError "Cannot determine the current boot identity")

/-- What `read` makes of a failed step. -/
def refused (name : RecordName) (o : Op) (e : Exc) : Except Exc (Option Payload) :=
  match o with
  | .bootId => if e.isOSError || e.isValueError then .error
      (.stateError "Cannot determine the current boot identity") else .error e
  | _ => settle name e

theorem refused_other {name : RecordName} {o : Op} {e : Exc} (other : o ≠ .bootId) :
    refused name o e = settle name e := by
  cases o with
  | bootId => exact absurd rfl other
  | _ => rfl

/-- How a read ends: its steps work, and the directory determines what it comes back with, or one failed. -/
def Told (py : Interpreter) (s : Store) (name : RecordName) (session : PyText) (x : Except Exc (Option Payload))
    (w : Run) : Prop :=
  w.store = s ∧ ((∀ event ∈ w.log, event.Calm) ∧ x = readNow py s name session ∨
    ∃ event ∈ w.log, ∃ e, event.fate = .fails e ∧ x = refused name event.op e)

theorem read_told {name : RecordName} {session : PyText} {text : String}
    (named : filename session = .ok text) (s : Store) :
    (RecordFiles.read py name session).Ensures (perform py) ⟨s, []⟩ (Told py s name session) := by
  obtain ⟨_, _, _, inspects, reads, closes⟩ := @yields_plain py
  have inside := yields_bind (yields_directory (yields_bind (@yields_openRecord py name text) fun file =>
    yields_always (yields_bind inspects fun _ => yields_bind reads fun _ => yields_pure file) closes)) fun file =>
      yields_ofExcept (examine py session s.boot file)
  rw [RecordFiles.read, named, ensures_bind, ensures_ofExcept, afterwards, ensures_bind, ensures_handle, ensures_act]
  intro fate r s' done
  cases fate with
  | ok =>
    obtain ⟨rfl, rfl⟩ := Prod.mk.inj (Option.some.inj done)
    by_cases uuid : py.isUuid s.boot = true
    · rw [if_pos uuid, caught, afterwards, ensures_handle]
      refine ensures_mono (inside _) fun x w' yielded => ?_
      obtain ⟨store, more, log, outcome⟩ := yielded
      have ended : Told py s name session (settled name x) w' := by
        refine ⟨store, ?_⟩
        rcases outcome with ⟨calm, rfl⟩ | ⟨event, member, other, e, fate, rfl⟩
        · refine Or.inl ⟨fun event member => ?_, ?_⟩
          · rw [log] at member
            rcases List.mem_append.mp member with first | later
            · obtain rfl : event = ⟨.bootId, .ok⟩ := by simpa using first
              simp [Event.Calm]
            · exact calm event later
          · simp only [readNow, named, if_pos uuid]
            cases opened name text s <;> rfl
        · exact Or.inr ⟨event, log ▸ List.mem_append_right _ member, e, fate, (refused_other other).symm⟩
      cases x with
      | ok found => exact ended
      | error e => exact (ensures_ofExcept (settle name e)).mpr ended
    · rw [if_neg uuid]
      refine ⟨rfl, Or.inl ⟨by simp [Event.Calm], ?_⟩⟩
      simp [readNow, named, uuid]
  | fails e =>
    obtain ⟨rfl, rfl⟩ : Except.error e = r ∧ s = s' := by simpa [Store.does] using done
    by_cases caughtHere : (e.isOSError || e.isValueError) = true
    · rw [caught, if_pos caughtHere]
      exact ⟨rfl, Or.inr ⟨_, List.mem_singleton_self _, e, rfl, by simp [refused, caughtHere]⟩⟩
    · rw [caught, if_neg caughtHere]
      exact ⟨rfl, Or.inr ⟨_, List.mem_singleton_self _, e, rfl, by simp [refused, caughtHere]⟩⟩
  | time q => simp [Store.does] at done

end

/-- A read can come back with what the directory determines. -/
theorem read_ends (py : Interpreter) {name : RecordName} {session : PyText} {text : String}
    (named : filename session = .ok text) (s : Store) :
    ∃ w', (RecordFiles.read py name session).Ends (perform py) ⟨s, []⟩ (readNow py s name session) w' := by
  obtain ⟨x, w', ended, calm⟩ := @calm_ends py _ ⟨s, []⟩ (RecordFiles.read py name session) (by simp)
  obtain ⟨_, ⟨_, rfl⟩ | ⟨event, member, e, fate, _⟩⟩ := ends_ensured ended (read_told named s)
  · exact ⟨w', ended⟩
  · exact absurd fate (calm event member e)

/-! ### The declared outcomes -/

section
variable {py : Interpreter}

/-- An integer that is no float, in a record that passes the checks before that of its timestamp. -/
def Unstamped (py : Interpreter) (value : Json PyText) : Prop :=
  ∃ payload data session boot n, value = .obj payload ∧ Obj.get payload (PyText.of "schema") = .int 1 ∧
    Obj.get payload (PyText.of "data") = .obj data ∧
    Obj.get payload (PyText.of "session_id") = .str session ∧ session ≠ [] ∧
      Obj.get payload (PyText.of "boot_id") = .str boot ∧ isUuid py boot = true ∧
        Obj.get payload (PyText.of "written_at") = .int n ∧ floatOverflow n = true

theorem timestamp_overflow {S : Type} {value : Json S} :
    timestamp value = .error .overflowError ↔ ∃ n, value = .int n ∧ floatOverflow n = true := by
  constructor
  · intro failed
    unfold timestamp at failed
    repeat' split at failed
    case h_1.isTrue n overflow => exact ⟨n, rfl, overflow⟩
    all_goals simp at failed
  · rintro ⟨n, rfl, overflow⟩
    simp [timestamp, overflow]

theorem payloadOf_overflow {value : Json PyText} : payloadOf py value = .error .overflowError ↔ Unstamped py value := by
  constructor
  · intro failed
    unfold payloadOf at failed
    repeat' split at failed
    case h_1.isFalse.isTrue schema _ _ _ _ _ _ held session booted named uuid =>
      simp only [bind, Except.bind] at failed
      split at failed
      case h_1 stamp =>
        obtain rfl := Except.error.inj failed
        obtain ⟨n, written, overflow⟩ := timestamp_overflow.mp stamp
        exact ⟨_, _, _, _, n, rfl, schema, held, session, named, booted, uuid, written, overflow⟩
      case h_2 => simp at failed
    all_goals simp at failed
  · rintro ⟨payload, data, session, boot, n, rfl, schema, held, named, nonempty, booted, uuid, written, overflow⟩
    have stamp := timestamp_overflow.mpr ⟨n, written, overflow⟩
    simp [payloadOf, schema, held, named, nonempty, booted, uuid, stamp, bind, Except.bind]

/-- The file of a record, if there is one. -/
def Stored (s : Store) (name : RecordName) (session : PyText) (file : File) : Prop :=
  ∃ text, filename session = .ok text ∧ s.files name text = some file

/-- A record that passes the checks of the schema. -/
def Sound (py : Interpreter) (s : Store) (name : RecordName) (session : PyText) (payload : Payload) : Prop :=
  ∃ file value, Stored s name session file ∧ file.content = .json value ∧ payloadOf py value = .ok payload

/-- The record is of this session and of this boot. -/
def Current (s : Store) (session : PyText) (payload : Payload) : Prop :=
  payload.sessionId = session ∧ payload.bootId = PyText.of s.boot

/-- What `read` may come back with: the record, none for one that is not found or not current, or a `StateError`. -/
def Declared (py : Interpreter) (s : Store) (name : RecordName) (session : PyText) (log : List Event) :
    Except Exc (Option Payload) → Prop
  | .ok (some payload) => Sound py s name session payload ∧ Current s session payload
  | .ok none => (∀ file, ¬ Stored s name session file) ∨
      (∃ event ∈ log, event.fate = .fails (.osError "FileNotFoundError")) ∨
      ∃ payload, Sound py s name session payload ∧ ¬ Current s session payload
  | .error e => e.isStateError = true

/-- The steps fail as the operating system and the checks of the code do. -/
def Ordinary (log : List Event) : Prop :=
  ∀ event ∈ log, ∀ e, event.fate = .fails e → e.isOSError = true ∨ e.isStateError = true ∨
    (event.op = .bootId ∧ e.isValueError = true)

/-- The session cannot be encoded, or all steps work and the file is nested too deeply or its timestamp is no float. -/
def Escapes (py : Interpreter) (s : Store) (name : RecordName) (session : PyText) (log : List Event) : Prop :=
  session.any isSurrogate = true ∨ (∀ event ∈ log, event.Calm) ∧ py.isUuid s.boot = true ∧
    ∃ file, Stored s name session file ∧ file.bytes ≤ maxRecordBytes ∧
      (file.content = .tooDeep ∨ ∃ value, file.content = .json value ∧ Unstamped py value)

section
variable {s : Store} {name : RecordName} {session : PyText} {log : List Event}

theorem settle_caught {e : Exc} (caught : (e.isStateError || e.isValueError) = true) :
    ∃ e', settle name e = .error e' ∧ e'.isStateError = true := by
  cases e <;> simp [settle, Exc.isStateError, Exc.isValueError, Exc.isOSError] at caught ⊢

/-- A record that was read comes back as declared, unless it escapes. -/
theorem examined_declared {text : String} {file : File} (named : filename session = .ok text)
    (found : s.files name text = some file) :
    Declared py s name session log (settled name (examine py session s.boot file)) ↔
      ¬ (file.bytes ≤ maxRecordBytes ∧
        (file.content = .tooDeep ∨ ∃ value, file.content = .json value ∧ Unstamped py value)) := by
  have stored : Stored s name session file := ⟨text, named, found⟩
  have refusal {e : Exc} (caught : (e.isStateError || e.isValueError) = true) :
      Declared py s name session log (settle name e) := by
    obtain ⟨e', settled, state⟩ := @settle_caught name e caught
    rw [settled]
    exact state
  unfold examine
  by_cases large : maxRecordBytes < file.bytes
  · rw [if_pos large]
    exact iff_of_true (refusal rfl) fun escapes => absurd escapes.1 (Nat.not_le.mpr large)
  rw [if_neg large]
  have fits := Nat.not_lt.mp large
  cases content : file.content with
  | notUtf8 => exact iff_of_true (refusal rfl) (by simp)
  | malformed => exact iff_of_true (refusal rfl) (by simp)
  | tooManyDigits => exact iff_of_true (refusal rfl) (by simp)
  | tooDeep =>
    refine iff_of_false ?_ (by simp [fits])
    simp [Content.loads, settled, settle, bind, Except.bind, Declared, Exc.isOSError, Exc.isValueError,
      Exc.isStateError]
  | json value =>
    cases read : payloadOf py value with
    | error e =>
      have ended : settled name (do
          let content ← Content.loads (.json value)
          let payload ← payloadOf py content
          .ok (if payload.sessionId = session ∧ payload.bootId = PyText.of s.boot then some payload else none)) =
          settle name e := by
        simp [Content.loads, bind, Except.bind, read, settled]
      rw [ended]
      rcases payloadOf_error read with caught | rfl
      · refine iff_of_true (refusal caught) ?_
        rintro ⟨_, deep | ⟨value', same, unstamped⟩⟩
        · cases deep
        · obtain rfl := Content.json.inj same
          have overflow := payloadOf_overflow.mpr unstamped
          rw [read] at overflow
          obtain rfl := Except.error.inj overflow
          simp [Exc.isStateError, Exc.isValueError] at caught
      · refine iff_of_false ?_ (not_not.mpr ⟨fits, Or.inr ⟨value, rfl, payloadOf_overflow.mp read⟩⟩)
        simp [settle, Declared, Exc.isOSError, Exc.isValueError, Exc.isStateError]
    | ok payload =>
      have sound : Sound py s name session payload := ⟨file, value, stored, content, read⟩
      have ended : settled name (do
          let content ← Content.loads (.json value)
          let payload ← payloadOf py content
          .ok (if payload.sessionId = session ∧ payload.bootId = PyText.of s.boot then some payload else none)) =
            .ok (if payload.sessionId = session ∧ payload.bootId = PyText.of s.boot then some payload else none) := by
        simp [Content.loads, bind, Except.bind, read, settled]
      rw [ended]
      refine iff_of_true ?_ ?_
      · by_cases current : payload.sessionId = session ∧ payload.bootId = PyText.of s.boot
        · rw [if_pos current]
          exact ⟨sound, current⟩
        · rw [if_neg current]
          exact Or.inr (Or.inr ⟨payload, sound, current⟩)
      · rintro ⟨_, deep | ⟨value', same, unstamped⟩⟩
        · cases deep
        · obtain rfl := Content.json.inj same
          rw [payloadOf_overflow.mpr unstamped] at read
          cases read

theorem filename_cases (session : PyText) : (∃ text, filename session = .ok text ∧ session.any isSurrogate = false) ∨
    (∃ e, filename session = .error e ∧ e.isStateError = true ∧ session.any isSurrogate = false) ∨
      (filename session = .error .unicodeEncodeError ∧ session.any isSurrogate = true) := by
  cases session with
  | nil => exact Or.inr (Or.inl ⟨_, rfl, rfl, rfl⟩)
  | cons c rest =>
    by_cases surrogates : (c :: rest).any isSurrogate = true
    · exact Or.inr (Or.inr ⟨by rw [filename, if_neg (by simp), PyText.encode, if_pos surrogates], surrogates⟩)
    · refine Or.inl ⟨String.ofList ((c :: rest).map fun c => Char.ofNat c.val), ?_, by simpa using surrogates⟩
      rw [filename, if_neg (by simp), PyText.encode, if_neg surrogates]

/-- `read` ends as declared exactly where it does not escape. -/
theorem read_declared (py : Interpreter) (s : Store) (name : RecordName) (session : PyText) :
    (RecordFiles.read py name session).Ensures (perform py) ⟨s, []⟩ fun x w' =>
      Ordinary w'.log → (Declared py s name session w'.log x ↔ ¬ Escapes py s name session w'.log) := by
  have unnamed (e : Exc) (refused : filename session = .error e) (Q : Except Exc (Option Payload) → Run → Prop)
    (ended : Q (.error e) ⟨s, []⟩) :
      (RecordFiles.read py name session).Ensures (perform py) ⟨s, []⟩ Q := by
    rw [RecordFiles.read, refused, ensures_bind, ensures_ofExcept]
    exact ended
  rcases filename_cases session with ⟨text, named, encodable⟩ | ⟨e, refused, state, encodable⟩ | ⟨refused, surrogates⟩
  · refine ensures_mono (read_told named s) fun x w' told ordinary => ?_
    obtain ⟨_, ⟨calm, rfl⟩ | ⟨event, member, e, fate, rfl⟩⟩ := told
    · by_cases uuid : py.isUuid s.boot = true
      · have reads : readNow py s name session = settled name (opened name text s >>= examine py session s.boot) := by
          simp only [readNow, named, if_pos uuid]
        rw [reads]
        cases found : s.files name text with
        | none =>
          have absent (file : File) : ¬ Stored s name session file := by
            rintro ⟨text', named', there⟩
            obtain rfl := Except.ok.inj (named.symm.trans named')
            rw [found] at there
            cases there
          refine iff_of_true ?_ ?_
          · simp only [opened, found, bind, Except.bind, settled, settle, if_pos]
            exact Or.inl absent
          · rintro (escapes | ⟨_, _, file, stored, _⟩)
            · simp [encodable] at escapes
            · exact absent file stored
        | some file =>
          have only (file' : File) : Stored s name session file' ↔ file' = file := by
            constructor
            · rintro ⟨text', named', there⟩
              obtain rfl := Except.ok.inj (named.symm.trans named')
              exact (Option.some.inj (found.symm.trans there)).symm
            · rintro rfl
              exact ⟨text, named, found⟩
          have examined := @examined_declared py s name session w'.log text file named found
          simp only [opened, found]
          refine examined.trans (not_congr ⟨fun escapes => ?_, ?_⟩)
          · exact Or.inr ⟨calm, uuid, file, (only file).mpr rfl, escapes⟩
          · rintro (escapes | ⟨_, _, file', stored, escapes⟩)
            · simp [encodable] at escapes
            · obtain rfl := (only file').mp stored
              exact escapes
      · refine iff_of_true ?_ ?_
        · simp only [readNow, named, if_neg uuid]
          exact rfl
        · rintro (escapes | ⟨_, booted, _⟩)
          · simp [encodable] at escapes
          · exact uuid booted
    · -- a step failed
      refine iff_of_true ?_ ?_
      · have kinds := ordinary event member e fate
        by_cases booted : event.op = .bootId
        · rw [booted]
          by_cases here : (e.isOSError || e.isValueError) = true
          · simp only [refused, if_pos here]
            exact rfl
          · simp only [refused, if_neg here]
            rcases kinds with os | state | ⟨_, value⟩
            · simp [os] at here
            · exact state
            · simp [value] at here
        · rw [refused_other booted]
          rcases kinds with os | state | ⟨boot, _⟩
          · by_cases missing : e = .osError "FileNotFoundError"
            · rw [settle, if_pos missing]
              exact Or.inr (Or.inl ⟨event, member, missing ▸ fate⟩)
            · rw [settle, if_neg missing, if_pos (by simp [os])]
              exact rfl
          · obtain ⟨e', settled, state'⟩ := @settle_caught name e (by simp [state])
            rw [settled]
            exact state'
          · exact absurd boot booted
      · rintro (escapes | ⟨calm, _⟩)
        · simp [encodable] at escapes
        · exact calm event member e fate
  · refine unnamed e refused _ fun _ => iff_of_true state ?_
    rintro (escapes | ⟨_, _, file, ⟨text, named, _⟩, _⟩)
    · simp [encodable] at escapes
    · cases refused.symm.trans named
  · refine unnamed _ refused _ fun _ =>
      iff_of_false (by simp [Declared, Exc.isStateError]) (not_not.mpr (Or.inl surrogates))

end

end

/-! ### The readers -/

open Ttp.State Ttp.Machine

/-- What a strict `read_lock` may come back with: a lock, none where there is no file, or a `StateError`. -/
def StrictlyDeclared (file : Loaded) : Except Exc (Option Obj) → Prop
  | .ok (some _) => True
  | .ok none => file = .missing ∨ file = .ioError "FileNotFoundError"
  | .error e => e.isStateError = true

theorem lockOf_declared {file : Loaded} : StrictlyDeclared file (lockOf true file) ↔ Readable file := by
  cases file with
  | json value => cases value <;> simp [lockOf, Loaded.loads, StrictlyDeclared, Readable, Exc.isStateError]
  | ioError kind =>
    by_cases missing : kind = "FileNotFoundError"
    · simp [lockOf, Loaded.loads, StrictlyDeclared, Readable, missing]
    · simp [lockOf, Loaded.loads, StrictlyDeclared, Readable, missing, Exc.isOSError, Exc.isStateError]
  | _ => simp [lockOf, Loaded.loads, StrictlyDeclared, Readable, Exc.isOSError, Exc.isStateError]

/-- The readers end as declared exactly where a record does not escape and the lock file can be decoded. -/
theorem readers_declared (py : Interpreter) (s : Store) (name : RecordName) (session : PyText) (i : Nat) (h : Host) :
    ((RecordFiles.read py name session).Ensures (RecordFiles.perform py) ⟨s, []⟩ fun x w' =>
      Ordinary w'.log → (Declared py s name session w'.log x ↔ ¬ Escapes py s name session w'.log)) ∧
    ((readLock true).Ensures (Faults.perform i) (.start h) fun x _ => StrictlyDeclared h.lock x ↔ Readable h.lock) ∧
      (readLock false).Ensures (Faults.perform i) (.start h) fun x _ => (∃ found, x = .ok found) ↔ Readable h.lock := by
  refine ⟨read_declared py s name session, ?_, ?_⟩
  · rw [Faults.ensures_readLock]
    exact lockOf_declared
  · rw [Faults.ensures_readLock]
    exact readable_iff.symm

/-- A lone surrogate, which a lock reads from an escape. -/
def surrogate : PyText := [0xD800]

/-- A directory with one record of the session `s`. -/
def holding (file : File) : Store :=
  ⟨Host.fresh.bootId, fun name text => if name = .emergency ∧ text = "s" then some file else none, none⟩

theorem holding_reads (file : File) :
    readNow .cpython (holding file) .emergency [115] = settled .emergency
      (examine .cpython [115] Host.fresh.bootId file) := by
  have named : filename [115] = .ok "s" := rfl
  have uuid : Interpreter.cpython.isUuid (holding file).boot = true := by
    show Interpreter.cpython.isUuid Host.fresh.bootId = true
    decide
  have found : opened .emergency "s" (holding file) = .ok file := by simp [opened, holding]
  simp only [readNow, named]
  rw [if_pos uuid, found]
  rfl

/-- A record whose timestamp has more than 300 digits. -/
def farFuture : Json PyText :=
  .obj [(PyText.of "schema", .int 1), (PyText.of "session_id", .str [115]),
    (PyText.of "boot_id", .str (PyText.of Host.fresh.bootId)),
    (PyText.of "written_at", .int (2 ^ 1024)), (PyText.of "data", .obj [])]

theorem farFuture_unstamped : Unstamped .cpython farFuture := by
  refine ⟨_, [], [115], PyText.of Host.fresh.bootId, 2 ^ 1024, rfl, ?_, ?_,
    ?_, by decide, ?_, by decide, ?_, by decide +kernel⟩
  all_goals simp only [Obj.get, find?_cons, of_inj, String.reduceEq, if_true, if_false, Option.getD_some]

/-- Each reader can raise something else, with all of its steps working: for a session with a lone surrogate, for a
    record that is nested too deeply or stamped too far in the future, and for a lock file that is not UTF-8. -/
theorem readers_raise :
    (∃ s w', (RecordFiles.read .cpython .emergency surrogate).Ends (RecordFiles.perform .cpython) ⟨s, []⟩
      (.error .unicodeEncodeError) w') ∧
    (∃ s w', (RecordFiles.read .cpython .emergency [115]).Ends (RecordFiles.perform .cpython) ⟨s, []⟩
      (.error .recursionError) w') ∧
      (∃ s w', (RecordFiles.read .cpython .emergency [115]).Ends (RecordFiles.perform .cpython) ⟨s, []⟩
        (.error .overflowError) w') ∧
        ∃ h w', ∀ strict, (readLock strict).Ends (Faults.perform 0) (.start h) (.error .unicodeDecodeError) w' := by
  have named : filename [115] = .ok "s" := rfl
  refine ⟨?_, ?_, ?_, ?_⟩
  · exact ⟨holding ⟨0, .malformed⟩, _, rfl, rfl⟩
  · exact ⟨holding ⟨40000, .tooDeep⟩, read_ends .cpython named _⟩
  · have examined : examine .cpython [115] Host.fresh.bootId ⟨500, .json farFuture⟩ = .error .overflowError := by
      have unstamped := payloadOf_overflow.mpr farFuture_unstamped
      simp [examine, maxRecordBytes, Content.loads, unstamped, bind, Except.bind]
    have reads : readNow .cpython (holding ⟨500, .json farFuture⟩) .emergency [115] = .error .overflowError := by
      rw [holding_reads, examined]
      rfl
    exact ⟨_, reads ▸ read_ends .cpython named _⟩
  · let h : Host := { Host.fresh with lock := .notUtf8 }
    have ran (strict : Bool) : (readLock strict).run (Faults.perform 0) (.start h) [.fate .ok] =
        some (.error .unicodeDecodeError, ⟨h, [⟨.readLock, .fate .ok⟩]⟩) := by cases strict <;> rfl
    exact ⟨h, _, fun strict => run_ends (ran strict)⟩

end Ttp.RecordReads
