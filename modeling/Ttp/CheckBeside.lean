import Ttp.Deadlines
import Ttp.Persistence

/-!
`check_session` beside a supervisor that finds nothing wrong. The supervisor says `unknown` in its record at the
beginning of every evaluation and at every event, and `healthy` at the end of the evaluation; a check takes what the
record says at the time of its read for the state of the supervision.
-/
namespace Ttp.CheckBeside
open Ttp.Python Ttp.Evidence Ttp.Program Ttp.Machine Ttp.State Ttp.Records Ttp.SessionSafety Ttp.Watchdog Ttp.Start
open Ttp.Containment (recordOf)
open Ttp.SessionSettings (Settings WatchdogSettings fromSnapshot seconds)

/-! ### The system -/

/-- A session under supervision: the lock, its settings and the invocation of the supervisor. -/
structure Supervised (py : Interpreter) where
  lock : Obj
  session : String
  settings : Settings
  boot : String
  instanceId : String
  named : session ≠ ""
  encodes : py.encodes session = true
  identity : lock.get "session_id" = .str session
  runs : (lock.get "phase").isStr "stopping" = false
  requested : (lock.get "watchdog_requested").truthy = true
  frozen : fromSnapshot py (lock.get "settings") = .ok settings
  booted : py.isUuid boot = true ∧ boot ≠ ""
  invoked : instanceId ≠ ""

theorem Supervised.filed {py : Interpreter} (v : Supervised py) : filename py v.session = .ok () :=
  (filename_ok py).mpr ⟨v.named, v.encodes⟩

inductive Call where
  | supervisor (n : ℕ)
  | check (config : Except Exc Settings)

def Call.checks : Call → Bool
  | .supervisor _ => false
  | .check _ => true

/-- The host, and the supervisor's record as each process read it last. -/
structure World where
  host : Host
  seen : ℕ → Loaded

def World.note (i : ℕ) (w : World) : (o : Op) → o.Res → World
  | .readRecord .watchdog _, .ok file => { w with seen := Function.update w.seen i file }
  | _, _ => w

section
variable {py : Interpreter} (v : Supervised py)

def program : Call → Py Unit
  | .supervisor n => runSupervisor py v.instanceId n
  | .check config => do let _ ← checkSession py config

def system : System Op Op.Res Exc World Call Fate Empty where
  program := program v
  perform i _ w o fate := (w.host.perform i o fate).map fun done => (done.1, { w.note i o done.1 with host := done.2 })
  begins i _ w := some { w with seen := Function.update w.seen i .missing }
  ends i _ w := { w with host := w.host.effect i .release }
  environ e _ := e.elim
  diverts _ _ _ := none

/-- What the supervisor's record says. -/
def said : Loaded → Obj
  | .json (.obj payload) => match Obj.get payload "data" with
    | .obj data => data
    | _ => []
  | _ => []

/-- The time is within the age limit of the record and of the evaluation that it is about. -/
def timely (maxAge : ℚ) (now : ℚ) : Loaded → Bool
  | .json (.obj payload) =>
    match Obj.get payload "written_at", Obj.get (said (.json (.obj payload))) "observed_at" with
    | .float (.finite written), .float (.finite observed) =>
      decide (0 ≤ now - written) && decide (now - written < maxAge) && decide (0 ≤ now - observed) &&
        decide (now - observed < maxAge)
    | _, _ => true
  | _ => true

/-- Nothing fails, the unit is active, the evaluations and the verification find nothing wrong. -/
def faultless : (o : Op) → o.Res → Bool
  | .bootId, r => r.isOk
  | .clock, now => decide (0 ≤ now)
  | .readRecord .., r => r.isOk
  | .writeRecord .., r => r.isOk
  | .external _, r => r.isOk
  | .integrity, .ok none => true
  | .integrity, _ => false
  | .showUnit _, .ok fields => fields.activeState == "active" && decide (0 < fields.mainPid) &&
      fields.invocationId == v.instanceId
  | .showUnit _, .error _ => false
  | .verify, found => found.state == .confirmed
  | _, _ => true

/-- The check reads the record while it says `healthy`, and looks at the clock in time. -/
def settled (w : World) (i : ℕ) : (o : Op) → o.Res → Bool
  | .readRecord .watchdog _, .ok file => ((said file).get "value").isStr "healthy"
  | .clock, now => timely (seconds v.settings.watchdog.observationMaxAge) now (w.seen i)
  | _, _ => true

/-- Nothing is wrong, and no check reads the record between an `unknown` and the `healthy` that follows. -/
def Routine : Condition Op Op.Res World Call :=
  fun w i c o r => faultless v o r = true ∧ (c.checks = true → settled v w i o r = true)

instance (w : World) (i : ℕ) (c : Call) (o : Op) (r : o.Res) : Decidable (Routine v w i c o r) :=
  inferInstanceAs (Decidable (faultless v o r = true ∧ (c.checks = true → settled v w i o r = true)))

/-! ### The protocol of the routine -/

/-- What the supervisor holds in its variables in the routine. -/
structure Observed (data : Obj) : Prop where
  instance' : data.get "instance_id" = .str v.instanceId
  stamped : data.get "value" = .str "healthy" → ∃ t, data.get "observed_at" = .float (.finite t)

/-- A record that the supervisor writes. -/
def Said (payload : Json) : Prop :=
  ∃ written data, payload = envelope v.session v.boot written data ∧ 0 ≤ written ∧ Observed v data

/-- A record of a finished evaluation. -/
def Healthy (file : Loaded) : Prop :=
  ∃ written data, file = .json (envelope v.session v.boot written data) ∧ 0 ≤ written ∧
  Observed v data ∧ data.get "value" = .str "healthy"

/-- The supervisor's record as a process read it last, or that something is not as in the routine. -/
inductive Known where
  | routine (seen : Loaded)
  | other

/-- What operations come back with in the routine. -/
def expected (checks : Bool) (seen : Loaded) : (o : Op) → o.Res → Prop
  | .readLock, file => file = .json (.obj v.lock)
  | .bootId, r => r = .ok v.boot
  | .clock, now => 0 ≤ now ∧ (checks = true → timely (seconds v.settings.watchdog.observationMaxAge) now seen = true)
  | .readRecord .emergency s, r => ∃ file, r = .ok file ∧ (s = v.session → file = .missing)
  | .readRecord .watchdog s, r => ∃ file, r = .ok file ∧ (s = v.session → checks = true → Healthy v file)
  | .readRecord _ _, r => ∃ file, r = .ok file
  | .writeRecord .., r => r = .ok ()
  | .external _, r => r = .ok ()
  | .integrity, r => r = .ok none
  | .showUnit _, r => ∃ fields, r = .ok fields ∧ fields.activeState = "active" ∧ 0 < fields.mainPid ∧
      fields.invocationId = v.instanceId
  | .verify, found => found.state = .confirmed
  | _, _ => True

open scoped Classical in
/-- What is done in the routine: the supervisor's record is written, and that of the verification. -/
noncomputable def advance (seen : Loaded) : (o : Op) → o.Res → Option Known
  | .readRecord .watchdog _, .ok file => some (.routine file)
  | .writeRecord .watchdog s payload, _ => if s = v.session ∧ Said v payload then some (.routine seen) else none
  | .writeRecord .verification .., _ => some (.routine seen)
  | .writeRecord .., _ => none
  | .acquire _, _ => none
  | .replaceLock _, _ => none
  | .unlinkLock, _ => none
  | .replaceMarker _, _ => none
  | .unlinkMarker, _ => none
  | .nftTransaction .., _ => none
  | .nftInsert .., _ => none
  | .nftFlush, _ => none
  | .nftDelete, _ => none
  | _, _ => some (.routine seen)

open scoped Classical in
noncomputable def next (c : Call) : Known → (o : Op) → o.Res → Option Known
  | .routine seen, o, r => if expected v c.checks seen o r then advance v seen o r else some .other
  | .other, _, _ => some .other

end

section
variable {py : Interpreter} {v : Supervised py} {c : Call} {α β : Type}

theorem other_follows (p : Py α) : p.Follows (next v c) .other fun _ l' => l' = .other :=
  follows_of_uses (uses_any p) fun _ _ _ => rfl

/-- In the routine the program comes to an end like this. -/
def Keeps (v : Supervised py) (c : Call) (P : Except Exc α → Prop) (p : Py α) : Prop := ∀ seen,
  p.Follows (next v c) (.routine seen) fun x l' => l' = .other ∨ (∃ seen', l' = .routine seen') ∧ P x

/-- The program comes back with such a value. -/
def Gives (P : α → Prop) (x : Except Exc α) : Prop := ∃ a, x = .ok a ∧ P a

theorem keeps_mono {P Q : Except Exc α → Prop} {p : Py α} (keeps : Keeps v c P p) (weaker : ∀ x, P x → Q x) :
    Keeps v c Q p :=
  fun seen => follows_mono (keeps seen) fun x _ ended => ended.imp_right fun ⟨routine, holds⟩ =>
    ⟨routine, weaker x holds⟩

theorem keeps_pure {P : α → Prop} {a : α} (holds : P a) : Keeps v c (Gives P) (pure a : Py α) :=
  fun seen => Or.inr ⟨⟨seen, rfl⟩, a, rfl, holds⟩

theorem keeps_bind {P : Except Exc α → Prop} {Q : Except Exc β → Prop} {p : Py α} {f : α → Py β} (first : Keeps v c P p)
    (rest : ∀ a, P (.ok a) → Keeps v c Q (f a)) (error : ∀ e, P (.error e) → Q (.error e)) : Keeps v c Q (p >>= f) := by
  intro seen
  apply follows_bind (first seen)
  · rintro a l' (rfl | ⟨⟨seen', rfl⟩, holds⟩)
    · exact follows_mono (other_follows _) fun _ _ other => Or.inl other
    · exact rest a holds seen'
  · rintro e l' (other | ⟨routine, holds⟩)
    · exact Or.inl other
    · exact Or.inr ⟨routine, error e holds⟩

/-- The rest of a program whose first part comes back with a value. -/
theorem keeps_then {P : α → Prop} {Q : Except Exc β → Prop} {p : Py α} {f : α → Py β} (first : Keeps v c (Gives P) p)
    (rest : ∀ a, P a → Keeps v c Q (f a)) : Keeps v c Q (p >>= f) := by
  apply keeps_bind first
  · rintro a ⟨_, same, holds⟩
    obtain rfl := Except.ok.inj same
    exact rest a holds
  · rintro e ⟨_, ⟨⟩, _⟩

theorem keeps_handle {P : α → Prop} {p : Py α} {handler : Exc → Option (Py α)} (first : Keeps v c (Gives P) p) :
    Keeps v c (Gives P) (p.handle handler) := by
  intro seen
  apply follows_handle (first seen)
  · exact fun _ _ ended => ended
  · rintro e l' (rfl | ⟨_, _, ⟨⟩, _⟩)
    exact follows_mono (other_follows _) fun _ _ other => Or.inl other

theorem keeps_step {o : Op} {P : o.Res → Prop} (each : ∀ seen r, expected v c.checks seen o r →
    (∃ seen', advance v seen o r = some (.routine seen')) ∧ P r) : Keeps v c (Gives P) (step o) := by
  intro seen r
  by_cases usual : expected v c.checks seen o r
  · obtain ⟨⟨seen', advanced⟩, holds⟩ := each seen r usual
    exact ⟨.routine seen', by simp [next, usual, advanced], Or.inr ⟨⟨seen', rfl⟩, r, rfl, holds⟩⟩
  · exact ⟨.other, by simp [next, usual], Or.inl rfl⟩

theorem keeps_ofExcept {P : α → Prop} {x : Except Exc α} (holds : Gives P x) :
    Keeps v c (Gives P) (Prog.ofExcept x) := by
  obtain ⟨a, rfl, holds⟩ := holds
  exact keeps_pure holds

theorem keeps_checked {P : Except Exc α → Prop} {Q : α → Prop} {p : Py (Except Exc α)} (first : Keeps v c (Gives P) p)
    (succeeds : ∀ x, P x → Gives Q x) : Keeps v c (Gives Q) (checked p) :=
  keeps_then first fun x holds => keeps_ofExcept (succeeds x holds)

/-! ### The supervisor -/

theorem keeps_lock {strict : Bool} : Keeps v c (Gives (· = some v.lock)) (readLock strict) := by
  apply keeps_then (P := fun file => file = .json (.obj v.lock))
  · exact keeps_step fun seen file usual => ⟨⟨seen, rfl⟩, usual⟩
  · rintro _ rfl
    exact keeps_ofExcept ⟨_, rfl, rfl⟩

theorem keeps_boot : Keeps v c (Gives (· = v.boot)) (checked (step .bootId)) := by
  apply keeps_checked (P := (· = .ok v.boot))
  · exact keeps_step fun seen r usual => ⟨⟨seen, by rw [usual]; rfl⟩, usual⟩
  · rintro _ rfl
    exact ⟨_, rfl, rfl⟩

theorem keeps_clock : Keeps v c (Gives fun now : ℚ => 0 ≤ now) (step .clock) :=
  keeps_step fun seen _ usual => ⟨⟨seen, rfl⟩, usual.1⟩

theorem keeps_external {what : String} : Keeps v c (Gives fun _ => True) (checked (step (.external what))) := by
  apply keeps_checked (P := (· = .ok ()))
  · exact keeps_step fun seen r usual => ⟨⟨seen, rfl⟩, usual⟩
  · rintro _ rfl
    exact ⟨_, rfl, trivial⟩

/-- There is no emergency. -/
theorem keeps_latched : Keeps v c (Gives (· = false)) (emergencyLatched py v.lock) := by
  have identity : sessionIdOf v.lock = some v.session := by simp [sessionIdOf, v.identity, v.named]
  have reads : Keeps v c (Gives (· = none)) (Records.read py .emergency v.session) := by
    rw [Records.read, bind_filename py v.filed]
    apply keeps_then (keeps_handle keeps_boot)
    rintro _ rfl
    intro seen r
    by_cases usual : expected v c.checks seen (.readRecord .emergency v.session) r
    · obtain ⟨file, rfl, missing⟩ := usual
      obtain rfl := missing rfl
      exact ⟨.routine seen, by simp [next, expected, advance], Or.inr ⟨⟨seen, rfl⟩, _, rfl, rfl⟩⟩
    · exact ⟨.other, by simp [next, usual], follows_mono (other_follows _) fun _ _ other => Or.inl other⟩
  unfold emergencyLatched
  rw [identity]
  apply keeps_then reads
  rintro _ rfl
  exact keeps_pure rfl

/-- What the supervisor says can be written. -/
theorem keeps_write {data : Obj} (observed : Observed v data) (light : Deadlines.Light py data) :
    Keeps v c (Gives fun _ => True) (Records.write py .watchdog v.session data) := by
  rw [Records.write, bind_filename py v.filed]
  apply keeps_handle
  apply keeps_then keeps_boot
  rintro _ rfl
  apply keeps_then keeps_clock
  intro now started
  apply keeps_then (P := fun _ => True) (keeps_ofExcept ⟨(), Deadlines.light_dumps light, trivial⟩)
  intro _ _
  apply keeps_checked (P := (· = .ok ()))
  · refine keeps_step fun seen r usual => ⟨⟨seen, ?_⟩, usual⟩
    exact if_pos ⟨rfl, now, data, rfl, started, observed⟩
  · rintro _ rfl
    exact ⟨_, rfl, trivial⟩

/-- What the supervisor holds, and can write. -/
def Ready (v : Supervised py) (data : Obj) : Prop := Observed v data ∧ Deadlines.Light py data

theorem keeps_say {observation : Obj} {value reason : String} {completed : Bool} (ready : Ready v observation)
    (stamped : value = "healthy" → completed = true) :
    Keeps v c (Gives (Ready v)) (say py v.session observation value reason completed) := by
  obtain ⟨observed, light⟩ := ready
  have stamps : Keeps v c (Gives fun stamp => (completed = true → ∃ t, stamp = .float (.finite t)) ∧ ∀ fuel,
    stamp.dumps fuel = .ok ())
      (if completed then (fun now => Json.float (.finite now)) <$> step .clock else pure Json.null : Py Json) := by
    split
    · apply keeps_then keeps_clock
      intro now _
      exact keeps_pure ⟨fun _ => ⟨now, rfl⟩, fun fuel => by simp [Json.dumps]⟩
    case isFalse incomplete => exact keeps_pure ⟨fun done => absurd done incomplete, fun fuel => by simp [Json.dumps]⟩
  unfold say
  apply keeps_then stamps
  rintro stamp ⟨timed, flat⟩
  have said : Ready v (observation.update
      [("value", .str value), ("reason", .str reason), ("observed_at", stamp)]) := by
    refine ⟨⟨?_, ?_⟩, Deadlines.light_update light fun kv inside => ?_⟩
    · simpa [Obj.update] using observed.instance'
    · intro healthy
      have told : value = "healthy" := by simpa [Obj.update] using healthy
      obtain ⟨t, rfl⟩ := timed (stamped told)
      exact ⟨t, by simp [Obj.update]⟩
    · simp only [List.mem_cons, List.not_mem_nil, or_false] at inside
      rcases inside with rfl | rfl | rfl
      · simp [Json.dumps]
      · simp [Json.dumps]
      · exact flat _
  apply keeps_then (keeps_write said.1 said.2)
  intro _ _
  exact keeps_pure said

theorem filled : v.lock.isEmpty = false := by
  cases same : v.lock with
  | nil => simpa [same, Obj.get, Obj.find?, Json.truthy] using v.requested
  | cons _ _ => rfl

theorem keeps_evaluate {observation : Obj} {ready : Bool} (held : Ready v observation) :
    Keeps v c (Gives (Ready v)) (evaluate py v.lock v.session observation ready) := by
  unfold evaluate
  apply keeps_then (keeps_say held (by decide))
  intro observation held
  apply keeps_then (P := fun r : Op.Res .integrity => r = .ok none)
    (keeps_step fun seen _ usual => ⟨⟨seen, rfl⟩, usual⟩)
  rintro _ rfl
  show Keeps v c _ (say py v.session observation "healthy" "watchdog.local_integrity_verified" true >>= _)
  apply keeps_then (keeps_say held fun _ => rfl)
  intro observation held
  exact keeps_pure held

theorem keeps_turn {loop : Loop} (held : Ready v loop.observation) :
    Keeps v c (Gives fun found : Option Loop => ∀ loop', found = some loop' → Ready v loop'.observation)
      (turn py v.lock v.session v.settings.watchdog loop) := by
  have ours : (v.lock.isEmpty || !(v.lock.get "session_id").isStr v.session ||
      (v.lock.get "phase").isStr "stopping") = false := by
    rw [filled, v.runs, v.identity]
    simp [Json.isStr]
  have latched : Keeps v c (Gives (· = (false, loop.observation)))
      (latchedNow py v.lock v.session loop.observation) := by
    unfold latchedNow
    apply keeps_then (P := (· = some false))
    · apply keeps_handle
      apply keeps_then keeps_latched
      rintro _ rfl
      exact keeps_pure rfl
    · rintro _ rfl
      exact keeps_pure rfl
  have checks : Keeps v c (Gives fun found => Ready v found.1)
      (check py v.lock v.session v.settings.watchdog false loop.ready loop.lastCheck loop.observation) := by
    unfold check
    rw [if_neg Bool.false_ne_true]
    apply keeps_then keeps_clock
    intro now _
    split
    · apply keeps_then (keeps_evaluate held)
      intro observation held
      apply keeps_then keeps_clock
      intro done _
      exact keeps_pure held
    · exact keeps_pure held
  unfold turn
  apply keeps_then keeps_lock
  rintro _ rfl
  dsimp only
  rw [ours, if_neg Bool.false_ne_true]
  apply keeps_then latched
  rintro _ rfl
  apply keeps_then checks
  rintro ⟨observation, lastCheck⟩ held
  apply keeps_then (keeps_write held.1 held.2)
  intro _ _
  apply keeps_then keeps_external
  intro _ _
  apply keeps_then keeps_clock
  intro now _
  apply keeps_then (P := fun _ => True) (keeps_step fun seen _ _ => ⟨⟨seen, rfl⟩, trivial⟩)
  intro readable _
  split
  · apply keeps_then (keeps_say held (by decide))
    intro observation held
    apply keeps_then keeps_external
    intro _ _
    apply keeps_pure
    rintro _ ⟨⟩
    exact held
  · apply keeps_pure
    rintro _ ⟨⟩
    exact held

theorem keeps_turns (n : ℕ) {loop : Loop} (held : Ready v loop.observation) :
    Keeps v c (Gives fun _ => True) (turns py v.lock v.session v.settings.watchdog n loop) := by
  induction n generalizing loop with
  | zero => exact keeps_pure trivial
  | succ n ih =>
    apply keeps_then (keeps_turn held)
    intro found kept
    cases found with
    | none => exact keeps_pure trivial
    | some loop' => exact ih (kept loop' rfl)

/-- A supervisor in the routine goes on without an exception. -/
theorem keeps_supervisor (n : ℕ) : Keeps v c (Gives fun _ => True) (runSupervisor py v.instanceId n) := by
  have identity : sessionIdOf v.lock = some v.session := by simp [sessionIdOf, v.identity, v.named]
  have runs : (v.lock.isEmpty || (v.lock.get "phase").isStr "stopping") = false := by rw [filled, v.runs, Bool.or_false]
  have initial : Ready v [("value", .str "unknown"), ("instance_id", .str v.instanceId), ("observed_at", .null)] := by
    refine ⟨⟨rfl, fun healthy => ?_⟩, fun kv inside => ?_⟩
    · simp [Obj.get, Obj.find?] at healthy
    · simp only [List.mem_cons, List.not_mem_nil, or_false] at inside
      rcases inside with rfl | rfl | rfl <;> simp [Json.dumps]
  unfold runSupervisor
  apply keeps_then keeps_lock
  rintro _ rfl
  dsimp only
  rw [runs, if_neg Bool.false_ne_true, identity]
  apply keeps_then (P := (· = v.settings)) (keeps_ofExcept ⟨_, v.frozen, rfl⟩)
  rintro _ rfl
  apply keeps_then keeps_external
  intro _ _
  apply keeps_handle
  apply keeps_then (keeps_say initial (by decide))
  intro observation held
  apply keeps_then keeps_external
  intro _ _
  exact keeps_turns n held

/-! ### The check -/

theorem find?_of_get {data : Obj} {key text : String} (there : data.get key = .str text) :
    data.find? key = some (.str text) := by
  rw [Obj.get] at there
  cases found : data.find? key with
  | none => simp [found] at there
  | some value => simpa [found] using there

/-- A timely look at the record of a finished evaluation finds the supervisor at work. -/
theorem observe_operational {written now : ℚ} {data : Obj} (pid : ℤ) (observed : Observed v data)
    (healthy : data.get "value" = .str "healthy")
    (time : timely (seconds v.settings.watchdog.observationMaxAge) now
      (.json (envelope v.session v.boot written data)) = true) :
    Gives (fun found => operational found = true)
      (observe py v.settings.watchdog v.session v.boot v.instanceId pid now ⟨v.session, v.boot, written, data⟩) := by
  obtain ⟨t, stamp⟩ := observed.stamped healthy
  have instance' : data.find? "instance_id" = some (.str v.instanceId) := find?_of_get observed.instance'
  have recent : 0 ≤ now - written ∧ now - written < seconds v.settings.watchdog.observationMaxAge ∧ 0 ≤ now - t ∧
      now - t < seconds v.settings.watchdog.observationMaxAge := by
    have stated : Obj.get (said (.json (envelope v.session v.boot written data))) "observed_at" = .float
      (.finite t) := stamp
    have dated : Obj.get [("schema", .int 1), ("session_id", .str v.session), ("boot_id", .str v.boot),
      ("written_at", .float (.finite written)), ("data", .obj data)] "written_at" = .float (.finite written) := rfl
    simp only [timely, envelope] at stated time
    rw [dated, stated] at time
    simpa [and_assoc] using time
  obtain ⟨aged, young, aged', young'⟩ := recent
  have positive : 0 < seconds v.settings.watchdog.observationMaxAge := lt_of_le_of_lt aged young
  have current (q : ℚ) (aged : 0 ≤ now - q) (young : now - q < seconds v.settings.watchdog.observationMaxAge)
    (value : String) :
      Observation.isCurrent ⟨value, v.session, v.boot, v.instanceId, .finite q, ""⟩ v.session v.boot v.instanceId now
        (seconds v.settings.watchdog.observationMaxAge) = true := by
    simp [Observation.isCurrent, v.named, v.booted.2, v.invoked, positive, young, sub_nonneg.mp aged]
  refine ⟨data.update [("pid", .int pid), ("instance_id", .str v.instanceId),
    ("progress_at", .float (.finite written))], ?_, ?_⟩
  · simp only [observe, instance', Option.getD_some, Json.text, stamp, observedAt]
    rw [if_pos (current written aged young _)]
    show (if Observation.isCurrent ⟨_, _, _, _, _, _⟩ _ _ _ _ _ = true then _ else _) = _
    rw [if_pos (current t aged' young' _)]
  · simp [operational, Obj.update, healthy, Json.isStr]

/-- The record of a finished evaluation reads as such. -/
theorem read_follows (checks : c.checks = true) {seen : Loaded} :
    (Records.read py .watchdog v.session).Follows (next v c) (.routine seen)
    fun x l' => l' = .other ∨ ∃ written data, l' = .routine (.json (envelope v.session v.boot written data)) ∧
    Observed v data ∧
      data.get "value" = .str "healthy" ∧ x = .ok (some ⟨v.session, v.boot, written, data⟩) := by
  rw [Records.read, bind_filename py v.filed]
  apply follows_bind (keeps_handle keeps_boot seen)
  · rintro boot l' (rfl | ⟨⟨seen', rfl⟩, _, same, rfl⟩)
    · exact follows_mono (other_follows _) fun _ _ other => Or.inl other
    · obtain rfl := Except.ok.inj same
      intro r
      by_cases usual : expected v c.checks seen' (.readRecord .watchdog v.session) r
      · obtain ⟨file, rfl, healthy⟩ := usual
        obtain ⟨written, data, rfl, started, observed, value⟩ := healthy rfl checks
        refine ⟨.routine (.json (envelope v.session v.boot written data)), ?_, ?_⟩
        · have usual : expected v c.checks seen' (.readRecord .watchdog v.session)
            (.ok (.json (envelope v.session v.boot written data))) :=
            ⟨_, rfl, fun _ _ => ⟨written, data, rfl, started, observed, value⟩⟩
          simp [next, usual, advance]
        · show Prog.Follows _ (Prog.handle (do
            let content ← Prog.ofExcept (Loaded.loads (.json (envelope v.session v.boot written data)))
            let payload ← Prog.ofExcept (payloadOf py content)
            if payload.sessionId = v.session ∧ payload.bootId = v.boot then pure (some payload) else pure none)
              (readError .watchdog)) _ _
          rw [Containment.decoded_ofExcept]
          apply (follows_ofExcept _).mpr
          refine Or.inr ⟨written, data, rfl, observed, value, ?_⟩
          simp [recordOf, Loaded.loads, Except.bind,
            payloadOf_envelope py v.session v.boot written data v.named v.booted.1 started]
      · exact ⟨.other, by simp [next, usual], follows_mono (other_follows _) fun _ _ other => Or.inl other⟩
  · rintro e l' (rfl | ⟨_, _, ⟨⟩, _⟩)
    exact Or.inl rfl

/-- In the routine a check finds the supervisor at work. -/
theorem keeps_observation (checks : c.checks = true) :
    Keeps v c (Gives fun observed => operational observed = true) (watchdogObservation py) := by
  have identity : sessionIdOf v.lock = some v.session := by simp [sessionIdOf, v.identity, v.named]
  have wanted : (v.lock.isEmpty || !(v.lock.get "watchdog_requested").truthy) = false := by
    rw [filled, v.requested]; rfl
  unfold watchdogObservation
  apply keeps_handle
  apply keeps_then keeps_lock
  rintro _ rfl
  dsimp only
  rw [wanted, if_neg Bool.false_ne_true, identity]
  apply keeps_then (P := (· = v.settings)) (keeps_ofExcept ⟨_, v.frozen, rfl⟩)
  rintro _ rfl
  apply keeps_then (P := fun fields => fields.activeState = "active" ∧ 0 < fields.mainPid ∧
    fields.invocationId = v.instanceId)
  · apply keeps_checked (P := fun r : Except Exc UnitFields =>
      ∃ fields, r = .ok fields ∧ fields.activeState = "active" ∧ 0 < fields.mainPid ∧
      fields.invocationId = v.instanceId)
    · exact keeps_step fun seen _ usual => ⟨⟨seen, rfl⟩, usual⟩
    · exact fun _ usual => usual
  rintro ⟨active, pid, invocation⟩ ⟨rfl, working, rfl⟩
  dsimp only
  rw [bne_self_eq_false, if_neg Bool.false_ne_true]
  intro seen
  apply follows_bind (read_follows checks)
  · rintro found l' (rfl | ⟨written, data, rfl, observed, healthy, same⟩)
    · exact follows_mono (other_follows _) fun _ _ other => Or.inl other
    · obtain rfl := Except.ok.inj same
      dsimp only
      rw [if_neg (not_le.mpr working)]
      intro r
      by_cases usual : expected v c.checks (.json (envelope v.session v.boot written data)) .bootId r
      · have same : r = .ok v.boot := usual
        subst same
        refine ⟨_, if_pos usual, fun now => ?_⟩
        by_cases usual : expected v c.checks (.json (envelope v.session v.boot written data)) .clock now
        · refine ⟨_, if_pos usual, ?_⟩
          obtain ⟨found, same, works⟩ := observe_operational pid observed healthy (usual.2 checks)
          apply (follows_ofExcept _).mpr
          exact Or.inr ⟨⟨_, rfl⟩, found, same, works⟩
        · exact ⟨_, if_neg usual, follows_mono (other_follows _) fun _ _ other => Or.inl other⟩
      · exact ⟨_, if_neg usual, follows_mono (other_follows _) fun _ _ other => Or.inl other⟩
  · rintro e l' (rfl | ⟨_, _, _, _, _, ⟨⟩⟩)
    exact Or.inl rfl

/-- Whatever comes of the part, no containment does. -/
theorem keeps_any {P : α → Prop} {p : Py α} (keeps : Keeps v c (Gives P) p) : Keeps v c (fun _ => True) p :=
  keeps_mono keeps fun _ _ => trivial

theorem keeps_return {a : α} : Keeps v c (fun _ => True) (pure a : Py α) := fun seen => Or.inr ⟨⟨seen, rfl⟩, trivial⟩

theorem keeps_raise {e : Exc} : Keeps v c (fun _ => True) (.raise e : Py α) := fun seen => Or.inr ⟨⟨seen, rfl⟩, trivial⟩

theorem keeps_result {x : Except Exc α} : Keeps v c (fun _ => True) (Prog.ofExcept x : Py α) := by
  cases x
  · exact keeps_raise
  · exact keeps_return

theorem keeps_next {p : Py α} {f : α → Py β} (first : Keeps v c (fun _ => True) p)
    (rest : ∀ a, Keeps v c (fun _ => True) (f a)) :
    Keeps v c (fun _ => True) (p >>= f) := keeps_bind first (fun a _ => rest a) fun _ _ => trivial

theorem keeps_handled {p : Py α} {handler : Exc → Option (Py α)} (first : Keeps v c (fun _ => True) p)
    (handles : ∀ e, Keeps v c (fun _ => True) ((handler e).getD (.raise e))) :
    Keeps v c (fun _ => True) (p.handle handler) := by
  intro seen
  apply follows_handle (first seen)
  · exact fun _ _ ended => ended
  · rintro e l' (rfl | ⟨⟨seen', rfl⟩, _⟩)
    · exact follows_mono (other_follows _) fun _ _ other => Or.inl other
    · exact handles e seen'

/-- A step that is no part of a containment. -/
theorem keeps_free {o : Op} (free :
    ∀ seen r, expected v c.checks seen o r → ∃ seen', advance v seen o r = some (.routine seen')) :
    Keeps v c (fun _ => True) (step o) :=
  keeps_any (P := fun _ => True) (keeps_step fun seen r usual => ⟨free seen r usual, trivial⟩)

theorem keeps_previous : Keeps v c (fun _ => True) (previousVerification py v.lock) := by
  have identity : sessionIdOf v.lock = some v.session := by simp [sessionIdOf, v.identity, v.named]
  unfold previousVerification
  rw [identity]
  dsimp only
  rw [Records.read, bind_filename py v.filed]
  apply keeps_next (keeps_any (keeps_handle keeps_boot))
  intro boot
  apply keeps_handled
  · apply keeps_next (keeps_next (keeps_free fun seen _ _ => ⟨seen, rfl⟩) fun _ => keeps_result)
    intro file
    apply keeps_next keeps_result
    intro content
    apply keeps_next keeps_result
    intro payload
    split <;> exact keeps_return
  · intro e
    unfold readError
    split
    · exact keeps_return
    · split <;> exact keeps_raise

theorem keeps_recordVerification {found : Verification} (positive : found.state = .confirmed) :
    Keeps v c (fun _ => True) (recordVerification py v.lock found) := by
  have writes {s : String} {data : Obj} : Keeps v c (fun _ => True) (Records.write py .verification s data) := by
    rw [Records.write]
    apply keeps_next keeps_result
    intro _
    apply keeps_handled
    · apply keeps_next (keeps_any keeps_boot)
      intro boot
      apply keeps_next (keeps_any keeps_clock)
      intro now
      apply keeps_next keeps_result
      intro _
      exact keeps_next (keeps_free fun seen _ _ => ⟨seen, rfl⟩) fun _ => keeps_result
    · intro e
      split <;> exact keeps_raise
  unfold recordVerification
  apply keeps_next
  · apply keeps_handled
    · split
      · exact keeps_next writes fun _ => keeps_return
      · exact keeps_raise
      · exact keeps_raise
    · intro e
      split
      · exact keeps_return
      · exact keeps_raise
  · intro written
    show Keeps v c _ (if found.state = .negative then _ else _)
    rw [if_neg (by simp [positive])]
    exact keeps_return

theorem keeps_supervised {result : Result} (checks : c.checks = true) :
    Keeps v c (fun _ => True) (checkSupervisor py v.lock result) := by
  unfold checkSupervisor
  rw [if_pos v.requested]
  apply keeps_then (keeps_observation checks)
  intro observed works
  rw [if_pos works]
  exact keeps_return

theorem keeps_announce {settings : Settings} {event : String} {result : Result} :
    Keeps v c (fun _ => True) (announce settings event result) := by
  unfold announce
  split
  · exact keeps_next (keeps_next (keeps_free fun seen _ _ => ⟨seen, rfl⟩) fun _ => keeps_result) fun _ => keeps_return
  · exact keeps_return

/-- In the routine a check asks for no containment. -/
theorem keeps_check (config : Except Exc Settings) (checks : c.checks = true) :
    Keeps v c (fun _ => True) (checkSession py config) := by
  have known : (v.lock.get "session_id").truthy = true := by simpa [v.identity, Json.truthy] using v.named
  have looks : (if (v.lock.get "session_id").truthy = true then emergencyLatched py v.lock else pure false : Py Bool) =
      emergencyLatched py v.lock := if_pos known
  unfold checkSession
  apply keeps_then keeps_lock
  rintro _ rfl
  apply keeps_next keeps_result
  intro settings
  show Keeps v c _ ((if (v.lock.get "session_id").truthy = true then emergencyLatched py v.lock
    else pure false : Py Bool) >>= _)
  rw [looks]
  apply keeps_then keeps_latched
  rintro _ rfl
  rw [if_neg Bool.false_ne_true]
  apply keeps_next keeps_previous
  intro previous
  apply keeps_then (P := fun found : Verification => found.state = .confirmed)
    (keeps_step fun seen _ usual => ⟨⟨seen, rfl⟩, usual⟩)
  intro found positive
  have records : (if v.lock.isEmpty = true then pure found.result else recordVerification py v.lock found : Py Result) =
      recordVerification py v.lock found := by rw [filled, if_neg Bool.false_ne_true]
  show Keeps v c _ ((if v.lock.isEmpty = true then pure found.result
    else recordVerification py v.lock found : Py Result) >>= _)
  rw [records]
  apply keeps_next (keeps_recordVerification positive)
  intro result
  apply keeps_next (keeps_supervised checks)
  intro result
  split
  · apply keeps_next keeps_announce
    exact fun _ => keeps_return
  · exact keeps_return

theorem program_follows (c : Call) : (program v c).Follows (next v c) (.routine .missing) fun _ _ => True := by
  cases c with
  | supervisor n => exact follows_mono (keeps_supervisor n .missing) fun _ _ _ => trivial
  | check config =>
    have ends := keeps_next (keeps_check (v := v) (c := .check config) config rfl) fun _ => keeps_return (a := ())
    exact follows_mono (ends .missing) fun _ _ _ => trivial

end

/-! ### The invariant -/

/-- A session that is supervised and has no emergency. -/
structure Calm {py : Interpreter} (v : Supervised py) (h : Host) : Prop where
  lock : h.lock = .json (.obj v.lock)
  booted : h.bootId = v.boot
  unlatched : h.records .emergency v.session = .missing
  record : h.records .watchdog v.session = .missing ∨ ∃ payload,
    h.records .watchdog v.session = .json payload ∧ Said v payload

section
variable {py : Interpreter} {v : Supervised py} {c : Call} {w w' : World} {h : Host} {i : ℕ} {o : Op} {r : o.Res}
  {l' : Known} {fate : Fate}

/-- A record that told `healthy` is one of a finished evaluation. -/
theorem healthy_record (calm : Calm v h)
    (told : ((said (h.records .watchdog v.session)).get "value").isStr "healthy" = true) :
    Healthy v (h.records .watchdog v.session) := by
  rcases calm.record with missing | ⟨_, there, written, data, rfl, started, observed⟩
  · rw [missing] at told
    simp [said, Obj.get, Obj.find?, Json.isStr] at told
  · refine ⟨written, data, there, started, observed, ?_⟩
    rw [there] at told
    exact isStr_eq told

/-- In the routine every operation comes back with what is expected. -/
theorem routine_expected {took : Bool} (calm : Calm v w.host) (outcome : w.host.outcome o fate = some (r, took))
    (routine : Routine v w i c o r) :
    expected v c.checks (w.seen i) o r := by
  obtain ⟨fine, settled'⟩ := routine
  cases o with
  | readLock =>
    cases fate <;> simp only [Host.outcome, reduceCtorEq, Option.some.injEq, Prod.mk.injEq] at outcome
    exact outcome.1.symm.trans calm.lock
  | bootId =>
    cases fate <;> simp only [Host.outcome, reduceCtorEq, Option.some.injEq, Prod.mk.injEq] at outcome
    case ok => exact outcome.1.symm.trans (by rw [calm.booted])
    case fails e =>
      obtain ⟨rfl, _⟩ := outcome
      simp [faultless, Except.isOk, Except.toBool] at fine
  | clock =>
    refine ⟨of_decide_eq_true fine, fun checks => ?_⟩
    exact settled' checks
  | readRecord name s =>
    have opened : ∃ file, r = .ok file := by
      cases r with
      | ok file => exact ⟨file, rfl⟩
      | error e => simp [faultless, Except.isOk, Except.toBool] at fine
    obtain ⟨file, rfl⟩ := opened
    have content : file = w.host.records name s := by
      cases fate <;> simp only [Host.outcome, reduceCtorEq, Option.some.injEq, Prod.mk.injEq, Except.ok.injEq,
        false_and] at outcome
      exact outcome.1.symm
    subst content
    cases name with
    | emergency =>
      refine ⟨_, rfl, ?_⟩
      rintro rfl
      exact calm.unlatched
    | watchdog =>
      refine ⟨_, rfl, ?_⟩
      rintro rfl checks
      exact healthy_record calm (settled' checks)
    | _ => exact ⟨_, rfl⟩
  | writeRecord name s payload =>
    cases r with
    | ok _ => rfl
    | error e => simp [faultless, Except.isOk, Except.toBool] at fine
  | external what =>
    cases r with
    | ok _ => rfl
    | error e => simp [faultless, Except.isOk, Except.toBool] at fine
  | integrity =>
    cases r with
    | ok found =>
      cases found with
      | none => rfl
      | some _ => simp [faultless] at fine
    | error e => simp [faultless] at fine
  | showUnit timeout =>
    cases r with
    | ok fields =>
      simp only [faultless, Bool.and_eq_true, beq_iff_eq, decide_eq_true_eq] at fine
      exact ⟨fields, rfl, fine.1.1, fine.1.2, fine.2⟩
    | error e => simp [faultless] at fine
  | verify =>
    have positive : (r.state == .confirmed) = true := fine
    exact beq_iff_eq.mp positive
  | _ => trivial

theorem release_same : (h.effect i .release).lock = h.lock ∧ (h.effect i .release).bootId = h.bootId ∧
    (h.effect i .release).records = h.records ∧ (h.effect i .release).table = h.table := by
  simp only [Host.effect]
  split <;> exact ⟨rfl, rfl, rfl, rfl⟩

/-- What is done in the routine leaves the session calm, and the table alone. -/
theorem routine_keeps {took : Bool} (calm : Calm v w.host) (outcome : w.host.outcome o fate = some (r, took))
    (advanced : advance v (w.seen i) o r = some l') : Calm v (if took then w.host.effect i o else w.host) ∧
      (if took then w.host.effect i o else w.host).table = w.host.table ∧ l' = .routine ((w.note i o r).seen i) ∧
      ∀ j, j ≠ i → (w.note i o r).seen j = w.seen j := by
  have framed (host : (w.host.effect i o).lock = w.host.lock ∧ (w.host.effect i o).bootId = w.host.bootId ∧
      (w.host.effect i o).records = w.host.records ∧ (w.host.effect i o).table = w.host.table)
      (steps : l' = .routine ((w.note i o r).seen i)) (others : ∀ j, j ≠ i → (w.note i o r).seen j = w.seen j) :
      Calm v (if took then w.host.effect i o else w.host) ∧
        (if took then w.host.effect i o else w.host).table = w.host.table ∧
        l' = .routine ((w.note i o r).seen i) ∧ ∀ j, j ≠ i → (w.note i o r).seen j = w.seen j := by
    obtain ⟨lock, booted, records, table⟩ := host
    cases took
    · exact ⟨calm, rfl, steps, others⟩
    · exact ⟨⟨lock.trans calm.lock, booted.trans calm.booted, records ▸ calm.unlatched, records ▸ calm.record⟩,
        table, steps, others⟩
  cases o with
  | readRecord name s =>
    cases name with
    | watchdog =>
      cases r with
      | ok file =>
        refine framed ⟨rfl, rfl, rfl, rfl⟩ ?_ fun j other => ?_
        · simpa [World.note] using (Option.some.inj advanced).symm
        · simp [World.note, other]
      | error e => exact framed ⟨rfl, rfl, rfl, rfl⟩ (Option.some.inj advanced).symm fun _ _ => rfl
    | _ => exact framed ⟨rfl, rfl, rfl, rfl⟩ (Option.some.inj advanced).symm fun _ _ => rfl
  | writeRecord name s payload =>
    cases name with
    | watchdog =>
      simp only [advance, Option.ite_none_right_eq_some, Option.some.injEq] at advanced
      obtain ⟨⟨rfl, record⟩, rfl⟩ := advanced
      cases took
      · exact ⟨calm, rfl, rfl, fun _ _ => rfl⟩
      · refine ⟨⟨calm.lock, calm.booted, ?_, Or.inr ⟨payload, ?_, record⟩⟩, rfl, rfl, fun _ _ => rfl⟩
        · simpa [Host.effect, Host.setRecord] using calm.unlatched
        · simp [Host.effect, Host.setRecord]
    | verification =>
      obtain rfl := Option.some.inj advanced
      cases took
      · exact ⟨calm, rfl, rfl, fun _ _ => rfl⟩
      · refine ⟨⟨calm.lock, calm.booted, ?_, ?_⟩, rfl, rfl, fun _ _ => rfl⟩
        · simpa [Host.effect, Host.setRecord] using calm.unlatched
        · simpa [Host.effect, Host.setRecord] using calm.record
    | _ => simp [advance] at advanced
  | acquire | replaceLock | unlinkLock | replaceMarker | unlinkMarker | nftTransaction | nftInsert | nftFlush | nftDelete =>
    simp [advance] at advanced
  | release => exact framed release_same (Option.some.inj advanced).symm fun _ _ => rfl
  | _ => exact framed ⟨rfl, rfl, rfl, rfl⟩ (Option.some.inj advanced).symm fun _ _ => rfl

end

/-- The invariant of the routine. -/
noncomputable def regime {py : Interpreter} (v : Supervised py) (h : Host) (calm : Calm v h) :
    Regime (system v) (Routine v) ⟨h, fun _ => .missing⟩ Known where
  next := next v
  entry _ := .routine .missing
  Shared w := Calm v w.host ∧ w.host.table = h.table
  Local w i _ l := l = .routine (w.seen i)
  follows := program_follows
  first := ⟨calm, rfl⟩
  begin := by
    intro w i c w' shared begins
    obtain rfl := Option.some.inj begins
    refine ⟨shared, by simp, fun j c' l other known => ?_⟩
    simpa [other] using known
  op := by
    rintro w i c _ o fate r w' l' ⟨calm, table⟩ rfl performs routine allowed
    obtain ⟨⟨r', h'⟩, performed, same⟩ := Option.map_eq_some_iff.mp performs
    obtain ⟨rfl, rfl⟩ := Prod.mk.inj same
    obtain ⟨took, outcome, rfl⟩ := Host.perform_outcome.mp performed
    rw [next, if_pos (routine_expected calm outcome routine)] at allowed
    obtain ⟨calm', table', here, others⟩ := routine_keeps calm outcome allowed
    exact ⟨⟨calm', table'.trans table⟩, here, fun j c' l other known => known.trans (congrArg _ (others j other).symm)⟩
  leave := by
    rintro w i c l ⟨calm, table⟩ _
    obtain ⟨lock, booted, records, table'⟩ := @release_same w.host i
    refine ⟨⟨⟨lock.trans calm.lock, booted.trans calm.booted, ?_, ?_⟩, table'.trans table⟩, fun _ _ _ _ known => known⟩
    · exact (congrFun (congrFun records _) _).trans calm.unlatched
    · exact records ▸ calm.record
  divert := fun _ _ diverts => by simp [system] at diverts
  env := fun {_ e} => e.elim

section
variable {py : Interpreter} {v : Supervised py} {h : Host} {cfg : Config Op Op.Res Exc World Call}

theorem routine_unasked {i : ℕ} {c : Call} {timeout : ℚ} {r : Except Exc Unit} {w : World} (calm : Calm v h)
    (reached : (system v).Reached (Routine v) ⟨h, fun _ => .missing⟩ cfg) :
    ¬ (system v).Performs cfg i c (.acquire timeout) r w := by
  intro performs
  obtain ⟨l, l', _, known, allowed⟩ := (regime v h calm).allowed reached performs
  subst known
  simp [regime, next, expected, advance] at allowed

/-- Of a session that is well, a check that does not read the supervisor's record while that says `unknown` asks for no
    containment. -/
theorem check_uncontained (calm : Calm v h) (reached : (system v).Reached (Routine v) ⟨h, fun _ => .missing⟩ cfg)
    (i : ℕ) (config : Except Exc Settings) (timeout : ℚ) (r : Except Exc Unit) (w : World) :
    ¬ (system v).Performs cfg i (.check config) (.acquire timeout) r w :=
  routine_unasked calm reached

end

/-- In every run of supervisors and checks in which nothing is wrong and no check looks while the supervisor has said
    `unknown`, no process asks for a containment, and there is no emergency. -/
theorem no_containment {py : Interpreter} {v : Supervised py} {h : Host} {cfg : Config Op Op.Res Exc World Call}
    (calm : Calm v h)
    (reached : (system v).Reached (Routine v) ⟨h, fun _ => .missing⟩ cfg) :
    (∀ i c timeout r w, ¬ (system v).Performs cfg i c (.acquire timeout) r w) ∧
      cfg.world.host.records .emergency v.session = .missing ∧ cfg.world.host.table = h.table := by
  obtain ⟨calm', table⟩ := (regime v h calm).shared reached
  exact ⟨fun _ _ _ _ _ => routine_unasked calm reached, calm'.unlatched, table⟩

/-! ### A check after an evaluation, and one within it -/

/-- The lock of a session that its supervisor watches. -/
def watched : Obj := Deadlines.slowLock {} ++ [("phase", .str "running"), ("watchdog_requested", .bool true)]

def supervised : Supervised .cpython where
  lock := watched
  session := Deadlines.slowSession
  settings := {}
  boot := Host.fresh.bootId
  instanceId := "6c1f"
  named := by decide
  encodes := rfl
  identity := rfl
  runs := rfl
  requested := rfl
  frozen := Deadlines.slowLock_settings (SessionSettings.default_valid .cpython)
  booted := by decide
  invoked := by decide

def calmHost : Host := { Host.fresh with lock := .json (.obj watched) }

theorem calmHost_calm : Calm supervised calmHost := ⟨rfl, rfl, rfl, Or.inl rfl⟩

/-- The supervisor up to the beginning of its first evaluation. -/
def begins : List (Act Call Fate Empty) :=
  [.begin 0 (.supervisor 1), .op 0 .ok, .op 0 .ok, .op 0 .ok, .op 0 (.time 100), .op 0 .ok, .op 0 .ok, .op 0 .ok,
    .op 0 .ok, .op 0 .ok, .op 0 (.time 100), .op 0 .ok, .op 0 (.time 100), .op 0 .ok]

/-- The rest of its turn, which an event ends, up to the `unknown` that it leads to. -/
def invalidates : List (Act Call Fate Empty) :=
  [.op 0 (.integrity none), .op 0 (.time 101), .op 0 .ok, .op 0 (.time 101), .op 0 .ok, .op 0 (.time 101), .op 0 .ok,
    .op 0 (.time 101), .op 0 .ok, .op 0 .ok, .op 0 (.time 101), .op 0 (.ready true), .op 0 .ok, .op 0 (.time 101),
    .op 0 .ok]

/-- The rest of its turn, when there is none. -/
def finishes : List (Act Call Fate Empty) :=
  [.op 0 (.integrity none), .op 0 (.time 101), .op 0 .ok, .op 0 (.time 101), .op 0 .ok, .op 0 (.time 101), .op 0 .ok,
    .op 0 (.time 101), .op 0 .ok, .op 0 .ok, .op 0 (.time 101), .op 0 (.ready false)]

def confirmed : Verification := ⟨.confirmed, "tor.confirmed", none, some 101, []⟩

/-- The check up to its look at the supervisor. -/
def looks : List (Act Call Fate Empty) :=
  [.begin 1 (.check (.ok {})), .op 1 .ok, .op 1 .ok, .op 1 .ok, .op 1 .ok, .op 1 .ok, .op 1 (.verification confirmed),
    .op 1 .ok, .op 1 (.time 102), .op 1 .ok, .op 1 .ok, .op 1 (.unit ⟨"active", 7, "6c1f"⟩), .op 1 .ok, .op 1 .ok]

theorem no_containment_after : ∃ cfg :
    Config Op Op.Res Exc World Call, ((said (cfg.world.seen 1)).get "value").isStr "healthy" = true ∧
    cfg.world.host.records .emergency Deadlines.slowSession = .missing := by
  have ran : (((system supervised).run (Routine supervised) (.start ⟨calmHost, fun _ => .missing⟩)
      (begins ++ finishes ++ looks ++ [.op 1 .ok, .op 1 (.time 102), .leave 1])).map fun cfg =>
        ((said (cfg.world.seen 1)).get "value").isStr "healthy") = some true := by decide +kernel
  obtain ⟨cfg, reached, healthy⟩ := Option.map_eq_some_iff.mp ran
  exact ⟨cfg, healthy, (no_containment calmHost_calm (reached_run .start reached)).2.1⟩

theorem check_uncontained_after : ∃ cfg : Config Op Op.Res Exc World Call,
    ((said (cfg.world.seen 1)).get "value").isStr "healthy" = true ∧
    ∀ config timeout r w, ¬ (system supervised).Performs cfg 1 (.check config) (.acquire timeout) r w := by
  have ran : (((system supervised).run (Routine supervised) (.start ⟨calmHost, fun _ => .missing⟩)
      (begins ++ finishes ++ looks ++ [.op 1 .ok, .op 1 (.time 102)])).map fun cfg =>
        ((said (cfg.world.seen 1)).get "value").isStr "healthy") = some true := by decide +kernel
  obtain ⟨cfg, reached, healthy⟩ := Option.map_eq_some_iff.mp ran
  exact ⟨cfg, healthy, check_uncontained calmHost_calm (reached_run .start reached) 1⟩

/-- Nothing fails, and everything that is looked at is in order. -/
def Faultless : Condition Op Op.Res World Call := fun _ _ _ o r => faultless supervised o r = true

instance (w : World) (i : ℕ) (c : Call) (o : Op) (r : o.Res) : Decidable (Faultless w i c o r) :=
  inferInstanceAs (Decidable (faultless supervised o r = true))

/-- The process is a check that is about to take the lock for a containment. -/
def containing (cfg : Config Op Op.Res Exc World Call) (i : ℕ) : Bool :=
  match cfg.procs i with
  | some (.check config, .call (.acquire timeout) _) =>
    ((system supervised).perform i (.check config) cfg.world (.acquire timeout) .ok).any fun done => Except.isOk done.1
  | _ => false

theorem containing_performs {cfg : Config Op Op.Res Exc World Call} {i : ℕ} (asks : containing cfg i = true) :
    ∃ config timeout w, (system supervised).Performs cfg i (.check config) (.acquire timeout) (.ok ()) w := by
  rw [containing] at asks
  split at asks
  case h_1 config timeout k running =>
    cases performed : (system supervised).perform i (.check config) cfg.world (.acquire timeout) .ok with
    | none => simp [performed] at asks
    | some done =>
      obtain ⟨r, w⟩ := done
      rw [performed, Option.any_some] at asks
      cases r with
      | ok u => exact ⟨config, timeout, w, k, .ok, running, performed⟩
      | error e => cases asks
  case h_2 => cases asks

/-- A check that looks between an event and the next evaluation contains the session, although nothing is wrong. -/
theorem check_contains : ∃ cfg cfg' : Config Op Op.Res Exc World Call,
    (system supervised).Reached Faultless ⟨calmHost, fun _ => .missing⟩ cfg ∧
    (∃ config timeout w, (system supervised).Performs cfg 1 (.check config) (.acquire timeout) (.ok ()) w) ∧
    (system supervised).Reached Faultless ⟨calmHost, fun _ => .missing⟩ cfg' ∧
    Persistence.inPlace .cpython Deadlines.slowSession cfg'.world.host = true := by
  have asks : (((system supervised).run Faultless (.start ⟨calmHost, fun _ => .missing⟩)
      (begins ++ invalidates ++ looks ++ [.op 1 .ok, .op 1 (.time 102)])).map fun cfg => containing cfg 1) =
        some true := by decide +kernel
  have contains : (((system supervised).run Faultless (.start ⟨calmHost, fun _ => .missing⟩)
      (begins ++ invalidates ++ looks ++ [.op 1 .ok, .op 1 (.time 102), .op 1 .ok, .op 1 .ok, .op 1 .ok, .op 1 .ok,
        .op 1 .ok, .op 1 .ok, .op 1 (.time 102), .op 1 .ok, .op 1 .ok, .op 1 .ok])).map fun cfg =>
        Persistence.inPlace .cpython Deadlines.slowSession cfg.world.host) = some true := by decide +kernel
  obtain ⟨cfg, reached, asked⟩ := Option.map_eq_some_iff.mp asks
  obtain ⟨cfg', reached', contained⟩ := Option.map_eq_some_iff.mp contains
  exact ⟨cfg, cfg', reached_run .start reached, containing_performs asked, reached_run .start reached', contained⟩

end Ttp.CheckBeside
