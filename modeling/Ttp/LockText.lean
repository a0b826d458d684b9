import Ttp.RecordText
import Ttp.State

/-!
The characters of the session lock and of the stop marker. Whatever processes
publish, update and delete the lock in any order, its text stands for the
dictionary that they would leave, and reads as that.
-/
namespace Ttp.LockText
open Ttp.Python Ttp.JsonText Ttp.RecordFiles Ttp.RecordText Ttp.State

/-! ### The files -/

/-- A file with a content. -/
def loaded : Content → Loaded
  | .notUtf8 => .notUtf8
  | .malformed => .malformed
  | .tooDeep => .tooDeep
  | .tooManyDigits => .tooManyDigits
  | .json value => .json value

/-- What `_write_lock_file` writes. -/
def lockText (floats : Floats) (data : Obj) : List Char := encode floats (.indented 2) 0 (.obj data) ++ ['\n']

/-- `json.dump(data, f, indent=2)`. -/
def dump (py : Interpreter) (limits : Limits) (floats : Floats) (data : Obj) : Except Exc (List Char) :=
  if py.encodeDepth < (Json.obj data).depth then .error .recursionError
  else if limits.digits < digits (.obj data) then .error (.valueError "Exceeds the limit for integer string conversion")
  else .ok (lockText floats data)

/-- A file by its text, if there is one. -/
def fileOf (limits : Limits) (floats : Floats) : Option (List Char) → Option Loaded
  | none => some .missing
  | some text => (contentOf limits floats text).map loaded

/-! ### The processes -/

inductive Act where
  /-- `write_lock` replaces the file. -/
  | publish (a : LockArgs) (session : String)
  /-- `update_lock_keys` of a process reads the file. -/
  | read (i : ℕ)
  /-- And replaces it, with its changes. -/
  | replace (i : ℕ) (changes : Obj)
  | delete

/-- The text of the lock, and the dictionary that each process read last. -/
structure Texts where
  file : Option (List Char)
  seen : ℕ → Option Obj

section
variable (py : Interpreter) (limits : Limits) (floats : Floats)

/-- The file with a dictionary in it, or as it was where that cannot be encoded. -/
def Texts.put (w : Texts) (data : Obj) : Texts :=
  match dump py limits floats data with
  | .ok text => { w with file := some text }
  | .error _ => w

def Texts.step (w : Texts) : Act → Option Texts
  | .publish a session => some (w.put py limits floats (a.data session))
  | .read i => (fileOf limits floats w.file).map fun file =>
    { w with seen := Function.update w.seen i ((lockOf false file).toOption.join) }
  | .replace i changes =>
    match w.seen i with
    | some data => some (w.put py limits floats (data.update changes))
    | none => some w
  | .delete => some { w with file := none }

def Texts.run (w : Texts) : List Act → Option Texts
  | [] => some w
  | act :: rest => (w.step py limits floats act).bind fun w => Texts.run w rest

end

/-- The dictionary of the lock, and those that were read. -/
structure Locks where
  file : Option Obj
  seen : ℕ → Option Obj

section
variable (py : Interpreter) (limits : Limits)

def Locks.put (l : Locks) (data : Obj) : Locks :=
  if (Json.obj data).depth ≤ py.encodeDepth ∧ digits (.obj data) ≤ limits.digits then
    { l with file := some data }
  else l

def Locks.step (l : Locks) : Act → Locks
  | .publish a session => l.put py limits (a.data session)
  | .read i => { l with seen := Function.update l.seen i (l.file.filter fun data => (Json.obj data).depth ≤ limits.depth) }
  | .replace i changes =>
    match l.seen i with
    | some data => l.put py limits (data.update changes)
    | none => l
  | .delete => { l with file := none }

def Locks.run (l : Locks) (acts : List Act) : Locks := acts.foldl (Locks.step py limits) l

end

/-! ### Dictionaries that Python has -/

/-- The arguments are values of Python. -/
def Act.Held (floats : Floats) : Act → Prop
  | .publish a session => RecordText.Held floats (.obj (a.data session))
  | .replace _ changes => RecordText.Held floats (.obj changes)
  | _ => True

/-- Every dictionary is one of Python, and the one in the file can be encoded. -/
structure Locks.Sound (limits : Limits) (floats : Floats) (l : Locks) : Prop where
  file : ∀ data, l.file = some data → RecordText.Held floats (.obj data) ∧ digits (.obj data) ≤ limits.digits
  seen : ∀ i data, l.seen i = some data → RecordText.Held floats (.obj data)

section
variable {py : Interpreter} {limits : Limits} {floats : Floats} {l : Locks} {n : ℕ}

theorem keys_set {data : Obj} {key : String} (present : key ∈ Obj.keys data) (v : Json) :
    Obj.keys (data.set key v) = Obj.keys data := by
  induction data with
  | nil => simp [Obj.keys] at present
  | cons field data ih =>
    obtain ⟨other, found⟩ := field
    by_cases same : other = key
    · simp [Obj.set, Obj.keys, same]
    · have later : key ∈ Obj.keys data := (List.mem_cons.mp present).resolve_left fun here => same here.symm
      rw [Obj.set, if_neg (by simpa using same)]
      exact congrArg (other :: ·) (ih later)

theorem mem_set {data : Obj} {key : String} {v : Json} {field : String × Json} (member : field ∈ data.set key v) :
    field ∈ data ∨ field.2 = v := by
  induction data with
  | nil => exact .inr (by simp_all [Obj.set])
  | cons first data ih =>
    obtain ⟨other, found⟩ := first
    unfold Obj.set at member
    split_ifs at member
    · rcases List.mem_cons.mp member with rfl | later
      · exact .inr rfl
      · exact .inl (List.mem_cons_of_mem _ later)
    · rcases List.mem_cons.mp member with rfl | later
      · exact .inl List.mem_cons_self
      · exact (ih later).imp (List.mem_cons_of_mem _) id

theorem fine_set {data : Obj} (fine : Fine floats n (.obj data)) (key : String) {v : Json} (new : Fine floats n v) :
    Fine floats n (.obj (data.set key v)) := by
  rw [Fine] at fine ⊢
  obtain ⟨distinct, values⟩ := fine
  constructor
  · by_cases present : key ∈ Obj.keys data
    · rwa [keys_set present]
    · rw [set_new present, Obj.keys, List.map_append]
      exact List.nodup_append.mpr ⟨distinct, by simp, fun a here b there same => by simp_all [Obj.keys]⟩
  · rw [fineFields_iff] at values ⊢
    intro field member
    rcases mem_set member with old | rfl
    · exact values field old
    · exact ⟨trivial, new⟩

theorem fine_update {data changes : Obj} (fine : Fine floats n (.obj data)) (new : FineFields floats n changes) :
    Fine floats n (.obj (data.update changes)) := by
  induction changes generalizing data with
  | nil => exact fine
  | cons field changes ih => exact ih (fine_set fine field.1 new.2.1) new.2.2

theorem held_update {data changes : Obj} (held : RecordText.Held floats (.obj data))
    (new : RecordText.Held floats (.obj changes)) :
    RecordText.Held floats (.obj (data.update changes)) := by
  have first := fine_digits _ held (le_max_left _ (digits (.obj changes)))
  have second := fine_digits _ new (le_max_right (digits (.obj data)) _)
  rw [Fine] at second
  exact held_fine (fine_update first second.2)

theorem dump_some {data : Obj} (shallow : (Json.obj data).depth ≤ py.encodeDepth)
    (few : digits (.obj data) ≤ limits.digits) :
    dump py limits floats data = .ok (lockText floats data) := by
  rw [dump, if_neg (not_lt.mpr shallow), if_neg (not_lt.mpr few)]

/-- The texts that the dictionaries have. -/
def Locks.spell (floats : Floats) (l : Locks) : Texts := ⟨l.file.map (lockText floats), l.seen⟩

theorem put_spell (l : Locks) (data : Obj) :
    (l.spell floats).put py limits floats data = (l.put py limits data).spell floats := by
  by_cases fits : (Json.obj data).depth ≤ py.encodeDepth ∧ digits (.obj data) ≤ limits.digits
  · rw [Texts.put, dump_some fits.1 fits.2, Locks.put, if_pos fits]
    rfl
  · rw [Locks.put, if_neg fits, Texts.put, dump]
    by_cases deep : py.encodeDepth < (Json.obj data).depth
    · rw [if_pos deep]
    · have long : limits.digits < digits (.obj data) := by
        by_contra few
        exact fits ⟨not_lt.mp deep, not_lt.mp few⟩
      rw [if_neg deep, if_pos long]

theorem Locks.Sound.put (sound : l.Sound limits floats) {data : Obj} (held : RecordText.Held floats (.obj data)) :
    (l.put py limits data).Sound limits floats := by
  unfold Locks.put
  split_ifs with fits
  · refine ⟨fun found same => ?_, sound.seen⟩
    obtain rfl := Option.some.inj same
    exact ⟨held, fits.2⟩
  · exact sound

/-- The lock reads as its dictionary, if the decoder goes that deep. -/
theorem read_lock (limits : Limits) {data : Obj} (held : RecordText.Held floats (.obj data))
    (few : digits (.obj data) ≤ limits.digits) (strict : Bool) :
    (fileOf limits floats (some (lockText floats data))).map (lockOf strict) =
      some (if limits.depth < (Json.obj data).depth then .error .recursionError else .ok (some data)) := by
  rw [fileOf, lockText, contentOf_fine (.indented 2) (fine_digits _ held few) blank_newline]
  split_ifs
  · rfl
  · rfl

theorem step_spell (py : Interpreter) (sound : l.Sound limits floats) {act : Act} (held : act.Held floats) :
    (l.spell floats).step py limits floats act = some ((l.step py limits act).spell floats) ∧
      (l.step py limits act).Sound limits floats := by
  cases act with
  | publish a session => exact ⟨congrArg some (put_spell l _), sound.put held⟩
  | read i =>
    have found : (fileOf limits floats (l.file.map (lockText floats))).map
      (fun file => (lockOf false file).toOption.join) =
        some (l.file.filter fun data => (Json.obj data).depth ≤ limits.depth) := by
      cases stored : l.file with
      | none => rfl
      | some data =>
        obtain ⟨known, few⟩ := sound.file data stored
        have read := congrArg (Option.map fun x => (Except.toOption x).join) (read_lock limits known few false)
        rw [Option.map_map] at read
        refine read.trans ?_
        by_cases deep : limits.depth < (Json.obj data).depth
        · simp [Option.filter, deep, Except.toOption]
        · simp [Option.filter, deep, not_lt.mp deep, Except.toOption]
    refine ⟨?_, sound.file, fun j data held => ?_⟩
    · obtain ⟨file, here, read⟩ := Option.map_eq_some_iff.mp found
      simp only [Texts.step, Locks.spell, here, Option.map_some, read, Locks.step]
    · by_cases same : j = i
      · subst same
        simp only [Locks.step, Function.update_self] at held
        exact (sound.file data (Option.filter_eq_some_iff.mp held).1).1
      · simp only [Locks.step, Function.update_of_ne same] at held
        exact sound.seen j data held
  | replace i changes =>
    cases known : l.seen i with
    | none =>
      have same : l.step py limits (.replace i changes) = l := by simp only [Locks.step, known]
      have still : (l.spell floats).step py limits floats (.replace i changes) = some (l.spell floats) := by
        simp only [Texts.step, Locks.spell, known]
      rw [same]
      exact ⟨still, sound⟩
    | some data =>
      have next : l.step py limits (.replace i changes) = l.put py limits (data.update changes) := by
        simp only [Locks.step, known]
      have put : (l.spell floats).step py limits floats
          (.replace i changes) = some ((l.spell floats).put py limits floats (data.update changes)) := by
        simp only [Texts.step, Locks.spell, known]
      rw [next, put, put_spell]
      exact ⟨rfl, sound.put (held_update (sound.seen i data known) held)⟩
  | delete =>
    refine ⟨rfl, fun data gone => ?_, sound.seen⟩
    cases gone

theorem run_spell (py : Interpreter) (sound : l.Sound limits floats) {acts : List Act}
    (held : ∀ act ∈ acts, act.Held floats) :
    (l.spell floats).run py limits floats acts = some ((l.run py limits acts).spell floats) ∧
      (l.run py limits acts).Sound limits floats := by
  induction acts generalizing l with
  | nil => exact ⟨rfl, sound⟩
  | cons act acts ih =>
    obtain ⟨stepped, after⟩ := step_spell py sound (held act List.mem_cons_self)
    have rest := ih after fun act member => held act (List.mem_cons_of_mem _ member)
    rw [Texts.run, stepped]
    exact rest

end

/-- The start of a machine: no lock, and nothing was read. -/
def Locks.bare : Locks := ⟨none, fun _ => none⟩

/-- However the steps of publishing, updating and deleting the lock interleave, its text is the one of the dictionary
    that the same steps on dictionaries lead to, and reading it gives that dictionary, if the decoder goes that
    deep. -/
theorem lock_refines (py : Interpreter) (limits : Limits) (floats : Floats) (acts : List Act)
    (held : ∀ act ∈ acts, act.Held floats) :
    (Locks.bare.spell floats).run py limits floats acts = some ((Locks.bare.run py limits acts).spell floats) ∧
      ∀ data, (Locks.bare.run py limits acts).file = some data → ∀ strict,
        (fileOf limits floats (some (lockText floats data))).map (lockOf strict) =
          some (if limits.depth < (Json.obj data).depth then .error .recursionError else .ok (some data)) := by
  have sound : Locks.bare.Sound limits floats := by
    refine ⟨fun data found => ?_, fun i data found => ?_⟩
    · cases found
    · cases found
  obtain ⟨ran, after⟩ := run_spell py sound held
  exact ⟨ran, fun data found strict => read_lock limits (after.file data found).1 (after.file data found).2 strict⟩

/-- An update of the lock of a session. -/
def stopping : List Act := [.publish {} "s", .read 0, .replace 0 [("phase", .str "stopping")]]

theorem lock_refines_update : ∃ data, (Locks.bare.run .cpython ⟨900, 4300⟩ stopping).file = some data ∧
    (fileOf ⟨900, 4300⟩ nought (some (lockText nought data))).map (lockOf true) = some (.ok (some data)) := by
  have held : ∀ act ∈ stopping, act.Held nought := by
    intro act member
    simp only [stopping, List.mem_cons, List.not_mem_nil, or_false] at member
    rcases member with rfl | rfl | rfl
    · simp [Act.Held, LockArgs.data, RecordText.Held, Fine, FineItems, FineFields, Obj.keys, digits, digitsFields]
      decide +kernel
    · trivial
    · simp [Act.Held, RecordText.Held, Fine, FineFields, Obj.keys]
  have left : ∃ data, (Locks.bare.run .cpython ⟨900, 4300⟩ stopping).file = some data ∧
      (Json.obj data).depth ≤ 900 := by
    refine ⟨(LockArgs.data {} "s").update [("phase", .str "stopping")], ?_, by decide⟩
    decide +kernel
  obtain ⟨data, found, shallow⟩ := left
  have reads := (lock_refines .cpython ⟨900, 4300⟩ nought stopping held).2 data found true
  rw [if_neg (not_lt.mpr shallow)] at reads
  exact ⟨data, found, reads⟩

/-- The marker of a stop stops its own session, or every one. -/
theorem marker_read (limits : Limits) (floats : Floats) (stopped session : String) (decodes : 1 ≤ limits.depth) :
    (fileOf limits floats (some (lockText floats [("session_id", .str stopped)]))).map (stopOf session) =
      some (.ok (stopped == session || stopped == "*")) := by
  have held : RecordText.Held floats (.obj [("session_id", .str stopped)]) := by
    simp [RecordText.Held, Fine, FineFields, Obj.keys]
  have fine : Fine floats limits.digits (.obj [("session_id", .str stopped)]) :=
    fine_digits _ held (by simp [digits, digitsFields])
  rw [fileOf, lockText, contentOf_fine (.indented 2) fine blank_newline,
    if_neg (by simp [Json.depth, Json.depthFields]; omega)]
  simp [loaded, stopOf, Loaded.loads, Obj.get, find?_cons]

end Ttp.LockText
