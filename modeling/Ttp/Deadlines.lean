import Mathlib.Algebra.Order.Field.Rat
import Mathlib.Tactic.Linarith
import Ttp.Containment
import Ttp.Footprint
import Ttp.Snapshots

/-!
How long the supervisor goes without a sign of life. systemd kills it where `notify_progress` does
not come within `service_timeout` of the one before, or not within `readiness_timeout` of its start;
a containment alone has four bounded waits and its desktop notifications, and a turn can have two
containments.
-/
namespace Ttp.Deadlines
open Ttp.Python Ttp.Program Ttp.Machine Ttp.State Ttp.Records Ttp.Firewall Ttp.SessionSafety Ttp.Watchdog
open Ttp.Evidence (Diagnostic)
open Ttp.SessionSettings (Settings WatchdogSettings NotificationSettings fromSnapshot seconds)

/-! ### Time -/

/-- The time, and the times of the calls of `notify_progress`, the last one first. -/
structure Clocked where
  now : ℚ
  progress : List ℚ := []

def notifies : Op → Bool
  | .external what => what = "notify progress" || what = "notify progress, ready"
  | _ => false

/-- What the steps with a socket may take: a notification that `emit` does not wait for, and `notify_progress`. -/
structure Sockets where
  emit : ℚ
  progress : ℚ
  emit_nonneg : 0 ≤ emit
  progress_nonneg : 0 ≤ progress

/-- The timeout of `notify_progress` on its socket. -/
def progressTimeout : ℚ := 1

/-- The timeout of `emit` on its socket where it does not wait for the reply. -/
def emitTimeout : ℚ := 1 / 5

/-- What the code allows: each socket connects and sends. -/
def timeouts : Sockets where
  emit := 2 * emitTimeout
  progress := 2 * progressTimeout
  emit_nonneg := by norm_num [emitTimeout]
  progress_nonneg := by norm_num [progressTimeout]

/-- Sockets that take no time. -/
def prompt : Sockets := ⟨0, 0, le_rfl, le_rfl⟩

/-- What a notification takes, if notifications are on. -/
def emitTime (k : Sockets) (settings : NotificationSettings) : ℚ := if settings.enabled.truthy then k.emit else 0

/-- What an operation of the supervisor may take: a local check its timeout, a wait and an `nft` call what they are
    given, `select` its delay, and what uses a socket the timeouts of that. Local files take no time. -/
def limit (k : Sockets) (s : Settings) : Op → ℚ
  | .integrity => seconds s.watchdog.checkTimeout
  | .heal => seconds s.watchdog.checkTimeout
  | .acquire timeout => max 0 timeout
  | .nftTransaction _ timeout => max 0 timeout
  | .nftListing timeout => max 0 timeout
  | .select delay => max 0 delay
  | .emit .. => emitTime k s.notifications
  | .external what => if notifies (.external what) then k.progress else 0
  | _ => 0

/-- After an operation that took this long; a sign of life comes when it was sent. -/
def Clocked.after (w : Clocked) (o : Op) (time : ℚ) : Clocked :=
  ⟨w.now + time, if notifies o then (w.now + time) :: w.progress else w.progress⟩

/-- What an operation comes back with, and when. -/
structure Answer where
  result : (o : Op) → o.Res
  time : ℚ

/-- The clock tells the time. -/
def Clocked.told (w : Clocked) (result : (o : Op) → o.Res) : (o : Op) → o.Res
  | .clock => w.now
  | o => result o

def perform (k : Sockets) (s : Settings) (w : Clocked) (o : Op) (a : Answer) : Option (o.Res × Clocked) :=
  if 0 ≤ a.time ∧ a.time ≤ limit k s o then some (w.told a.result o, w.after o a.time) else none

/-- The deadlines of the unit were met by a process that began at `start`. -/
def InTime (wd : WatchdogSettings) (start : ℚ) : List ℚ → Prop
  | [] => True
  | [first] => first - start ≤ seconds wd.readinessTimeout
  | later :: earlier :: rest => later - earlier ≤ seconds wd.serviceTimeout ∧ InTime wd start (earlier :: rest)

/-- `run_supervisor` once the lock was read, cut off after `n` turns. -/
def superviseLock (py : Interpreter) (lock : Obj) (instanceId : String) (n : ℕ) : Py Unit := do
  if lock.isEmpty || (lock.get "phase").isStr "stopping" then pure ()
  else
    let settings ← Prog.ofExcept (fromSnapshot py (lock.get "settings"))
    match sessionIdOf lock with
    | none => .raise (.stateError "Watchdog requires a session identity")
    | some session =>
      checked (step (.external "INVOCATION_ID"))
      let body : Py Unit := do
        let observation ← say py session
          [("value", .str "unknown"), ("instance_id", .str instanceId), ("observed_at", .null)]
          "unknown" "watchdog.initializing" false
        checked (step (.external "subscribe to events"))
        turns py lock session settings.watchdog n ⟨observation, false, -seconds settings.watchdog.checkInterval⟩
      body.handle fun e =>
        if e.isException then
          some (do
            let _ ← requestEmergency py lock (superviseCause "watchdog" "watchdog.failed") true false
            .raise e)
        else none

theorem runSupervisor_reads (py : Interpreter) (instanceId : String) (n : ℕ) : runSupervisor py instanceId n = (do
    match ← readLock true with
    | none => pure ()
    | some lock => superviseLock py lock instanceId n) := rfl

/-- Whatever its operations come back with within their limits, the supervisor of a session with these settings is in
    time. -/
def KeptAlive (k : Sockets) (py : Interpreter) (s : Settings) : Prop :=
  ∀ (lock : Obj) (instanceId : String) (n : ℕ) (start : ℚ), 0 ≤ start →
  fromSnapshot py (lock.get "settings") = .ok s →
    (superviseLock py lock instanceId n).Ensures (perform k s) ⟨start, []⟩ fun _ w =>
      InTime s.watchdog start w.progress

/-! ### A budget -/

/-- A bound for the time since the last sign of life, or since the start before the first one. -/
structure Budget where
  ready : Bool
  since : ℚ

/-- What may have passed when a sign of life comes. -/
def allowed (wd : WatchdogSettings) (ready : Bool) : ℚ :=
  if ready then seconds wd.serviceTimeout else seconds wd.readinessTimeout

def next (k : Sockets) (s : Settings) (l : Budget) (o : Op) (_ : o.Res) : Option Budget :=
  if notifies o then if l.since + limit k s o ≤ allowed s.watchdog l.ready then some ⟨true, 0⟩ else none
  else some ⟨l.ready, l.since + limit k s o⟩

/-- The budget is one of this process. -/
structure Tracks (wd : WatchdogSettings) (start : ℚ) (l : Budget) (w : Clocked) : Prop where
  inTime : InTime wd start w.progress
  ready : l.ready = !w.progress.isEmpty
  since : w.now - w.progress.headD start ≤ l.since

theorem tracks_after {k : Sockets} {s : Settings} {start time : ℚ} {l l' : Budget} {w : Clocked} {o : Op} {r : o.Res}
    (tracks : Tracks s.watchdog start l w) (short : time ≤ limit k s o) (spent : next k s l o r = some l') :
    Tracks s.watchdog start l' (w.after o time) := by
  obtain ⟨inTime, ready, since⟩ := tracks
  unfold next at spent
  split at spent
  case isTrue tells =>
    split at spent
    case isTrue within =>
      obtain rfl := Option.some.inj spent
      refine ⟨?_, by simp [Clocked.after, tells], ?_⟩
      · simp only [Clocked.after, tells, if_true]
        cases told : w.progress with
        | nil =>
          simp only [told, ready, allowed, List.isEmpty_nil, Bool.not_true, Bool.false_eq_true, if_false,
            List.headD_nil]
            at within since
          show w.now + time - start ≤ _
          linarith
        | cons last rest =>
          simp only [told, ready, allowed, List.isEmpty_cons, Bool.not_false, if_true, List.headD_cons] at within since
          refine ⟨?_, told ▸ inTime⟩
          linarith
      · simp [Clocked.after, tells]
    case isFalse => simp at spent
  case isFalse quiet =>
    obtain rfl := Option.some.inj spent
    refine ⟨by simpa [Clocked.after, quiet] using inTime, by simpa [Clocked.after, quiet] using ready, ?_⟩
    simp only [Clocked.after, quiet, Bool.false_eq_true, if_false]
    linarith

/-- A program that keeps within its budget is in time. -/
theorem follows_inTime {k : Sockets} {s : Settings} {start : ℚ} {α : Type} {p : Py α} {l : Budget} {w : Clocked}
    {Q : Except Exc α → Budget → Prop} (follows : p.Follows (next k s) l Q) (tracks : Tracks s.watchdog start l w) :
    p.Ensures (perform k s) w fun _ w' => InTime s.watchdog start w'.progress := by
  induction p generalizing l w with
  | ret a => exact tracks.inTime
  | raise e => exact tracks.inTime
  | call o k ih =>
    intro a r w' performed
    unfold perform at performed
    split at performed
    case isTrue within =>
      obtain ⟨rfl, rfl⟩ := Prod.mk.inj (Option.some.inj performed)
      obtain ⟨l', spent, rest⟩ := follows (w.told a.result o)
      exact ih _ rest (tracks_after tracks within.2 spent)
    case isFalse => simp at performed

/-! ### What a part of a turn takes -/

section
variable {k : Sockets} {s : Settings} {l : Budget} {α β : Type} {a b : ℚ}

/-- The part takes at most this long, and gives no sign of life. -/
def Takes (k : Sockets) (s : Settings) (time : ℚ) (p : Py α) : Prop := ∀ l, p.Follows (next k s) l fun _ l' =>
  l'.ready = l.ready ∧ l'.since ≤ l.since + time

/-- The operation takes no time and is no sign of life. -/
def Silent (k : Sockets) (s : Settings) (o : Op) : Prop := ∀ l r, next k s l o r = some l

theorem silent_of {o : Op} (quiet : notifies o = false) (free : limit k s o = 0) : Silent k s o := by
  intro l r
  simp [next, quiet, free]

theorem takes_of_uses {p : Py α} (used : p.Uses (Silent k s)) : Takes k s 0 p := by
  intro l
  refine follows_mono (follows_of_uses used fun o r silent => silent l r) ?_
  rintro _ _ rfl
  exact ⟨rfl, le_of_eq (add_zero _).symm⟩

theorem takes_mono {p : Py α} (takes : Takes k s a p) (within : a ≤ b) : Takes k s b p := by
  intro l
  refine follows_mono (takes l) ?_
  rintro _ l' ⟨same, spent⟩
  exact ⟨same, le_trans spent (by linarith)⟩

theorem takes_bind {p : Py α} {f : α → Py β} (first : Takes k s a p) (rest : ∀ x, Takes k s b (f x))
    (positive : 0 ≤ b) : Takes k s (a + b) (p >>= f) := by
  intro l
  apply follows_bind (first l)
  · rintro x l₁ ⟨same, spent⟩
    refine follows_mono (rest x l₁) ?_
    rintro _ l₂ ⟨same', spent'⟩
    exact ⟨same'.trans same, by linarith⟩
  · rintro e l₁ ⟨same, spent⟩
    exact ⟨same, by linarith⟩

theorem takes_after {p : Py α} {f : α → Py β} (first : Takes k s 0 p) (rest : ∀ x, Takes k s b (f x))
    (positive : 0 ≤ b) : Takes k s b (p >>= f) := by
  have all : Takes k s (0 + b) (p >>= f) := takes_bind first rest positive
  rwa [zero_add] at all

theorem takes_before {p : Py α} {f : α → Py β} (first : Takes k s a p) (rest : ∀ x, Takes k s 0 (f x)) :
    Takes k s a (p >>= f) := by
  have all : Takes k s (a + 0) (p >>= f) := takes_bind first rest (le_refl 0)
  rwa [add_zero] at all

/-- A handler that takes no time. -/
theorem takes_handle {p : Py α} {h : Exc → Option (Py α)} (body : Takes k s a p)
    (handler : ∀ e, Takes k s 0 ((h e).getD (.raise e))) :
    Takes k s a (p.handle h) := by
  intro l
  apply follows_handle (body l)
  · exact fun _ _ spent => spent
  · rintro e l₁ ⟨same, spent⟩
    refine follows_mono (handler e l₁) ?_
    rintro _ l₂ ⟨same', spent'⟩
    exact ⟨same'.trans same, by linarith⟩

/-- A last part that takes no time. -/
theorem takes_always {p : Py α} {f : Py Unit} (body : Takes k s a p) (final : Takes k s 0 f) :
    Takes k s a (p.always f) := by
  intro l
  apply follows_always (body l)
  rintro x l₁ ⟨same, spent⟩
  refine follows_mono (final l₁) ?_
  rintro y l₂ ⟨same', spent'⟩
  split <;> exact ⟨same'.trans same, by linarith⟩

theorem takes_raise {e : Exc} : Takes k s 0 (.raise e : Py α) := takes_of_uses trivial

theorem takes_pure {x : α} : Takes k s 0 (pure x : Py α) := takes_of_uses trivial

theorem takes_checked {p : Py (Except Exc α)} (takes : Takes k s a p) : Takes k s a (checked p) :=
  takes_before takes fun x => takes_of_uses (uses_ofExcept x)

/-- An operation that is no sign of life takes what it may take. -/
theorem takes_step {o : Op} (quiet : notifies o = false) : Takes k s (limit k s o) (step o) :=
  fun l _ => ⟨⟨l.ready, l.since + limit k s o⟩, by simp [next, quiet], rfl, le_refl _⟩

end

/-! ### A containment -/

section
variable {k : Sockets} {s : Settings} {py : Interpreter} {lock : Obj} {session : String} {timeout : ℚ}
  {cause : Diagnostic}

theorem stillIntended_takes {required : Bool} : Takes k s 0 (stillIntended session required) :=
  takes_of_uses (Footprint.stillIntended_uses (silent_of rfl rfl) (silent_of rfl rfl))

theorem read_takes {name : RecordName} : Takes k s 0 (Records.read py name session) :=
  takes_of_uses (Footprint.read_uses (silent_of rfl rfl) (silent_of rfl rfl))

theorem write_takes {name : RecordName} {data : Obj} : Takes k s 0 (Records.write py name session data) :=
  takes_of_uses (Footprint.write_uses (silent_of rfl rfl) (silent_of rfl rfl) fun _ => silent_of rfl rfl)

theorem priorEvidence_takes : Takes k s 0 (priorEvidence py cause session) := by
  apply takes_handle
  · apply takes_after read_takes _ (le_refl 0)
    intro previous
    split <;> exact takes_pure
  · intro e
    split
    · exact takes_pure
    · exact takes_raise

theorem publish_takes {data : Obj} {diagnostic : Diagnostic} : Takes k s 0 (publish py session data diagnostic) := by
  apply takes_handle
  · exact takes_after write_takes (fun _ => takes_pure) (le_refl 0)
  · intro e
    split
    · exact takes_pure
    · exact takes_raise

omit py lock session in
theorem emitTime_nonneg (k : Sockets) (settings : NotificationSettings) : 0 ≤ emitTime k settings := by
  unfold emitTime
  split
  · exact k.emit_nonneg
  · exact le_refl 0

/-- How often a containment notifies: of its cause, where that is new, and of how it ended. -/
def emits (cause : Diagnostic) : ℚ :=
  if (cause.code = .watchdogUnavailable ∨ cause.code = .torNegative) ∧
    cause.reason ≠ "watchdog.emergency_latched" then 2
  else 1

theorem emits_bounds (cause : Diagnostic) : 1 ≤ emits cause ∧ emits cause ≤ 2 := by
  unfold emits
  split <;> norm_num

/-- The notification of the end, after that of the cause or none. -/
theorem end_takes {result : Evidence.Result} (event : String) (first : Except Exc (List Diagnostic)) :
    Takes k s (emitTime k s.notifications) (match first with
      | .error e => if e.isException then pure result else .raise e
      | .ok more => do
        match ← step (.emit event false) with
        | .error e => if e.isException then pure (result.add more) else .raise e
        | .ok rest => pure ((result.add more).add rest) : Py Evidence.Result) := by
  have once := emitTime_nonneg k s.notifications
  have sends : Takes k s (emitTime k s.notifications) (step (.emit event false)) := takes_step rfl
  split
  · split
    · exact takes_mono takes_pure once
    · exact takes_mono takes_raise once
  · refine takes_before sends fun sent => ?_
    split
    · split
      · exact takes_pure
      · exact takes_raise
    · exact takes_pure

theorem notify_takes {result : Evidence.Result} {newCause : Bool} :
    Takes k s (emits cause * emitTime k s.notifications) (notify lock cause result newCause) := by
  have once := emitTime_nonneg k s.notifications
  have several := (emits_bounds cause).1
  have sends {event : String} : Takes k s (emitTime k s.notifications) (step (.emit event false)) := takes_step rfl
  unfold notify
  split
  · dsimp only
    split
    case isTrue asked =>
      have both : emits cause = 2 := if_pos asked.2
      rw [both, two_mul]
      exact takes_bind sends (end_takes _) once
    case isFalse =>
      refine takes_mono (takes_after takes_pure (end_takes _) once) ?_
      nlinarith
  · exact takes_mono takes_pure (by positivity)

variable (positive : 0 < seconds s.watchdog.checkTimeout)
include positive

theorem inspect_takes : Takes k s (seconds s.watchdog.checkTimeout)
    (inspectEmergencyRules (seconds s.watchdog.checkTimeout)) := by
  have listing : Takes k s (seconds s.watchdog.checkTimeout)
      (step (.nftListing (seconds s.watchdog.checkTimeout))) := by
    have most : Takes k s (max 0 (seconds s.watchdog.checkTimeout))
      (step (.nftListing (seconds s.watchdog.checkTimeout))) := takes_step rfl
    rwa [max_eq_right positive.le] at most
  apply takes_before listing
  intro found
  split
  · split <;> exact takes_pure
  · exact takes_pure
  · exact takes_pure
  · split
    · exact takes_pure
    · exact takes_raise

theorem killswitch_takes : Takes k s (seconds s.watchdog.checkTimeout)
    (applyEmergencyKillswitch (seconds s.watchdog.checkTimeout)) := by
  have transaction : Takes k s (seconds s.watchdog.checkTimeout)
      (step (.nftTransaction emergencyTable (seconds s.watchdog.checkTimeout))) := by
    have most : Takes k s (max 0 (seconds s.watchdog.checkTimeout))
      (step (.nftTransaction emergencyTable (seconds s.watchdog.checkTimeout))) := takes_step rfl
    rwa [max_eq_right positive.le] at most
  apply takes_handle
  · apply takes_handle (takes_checked transaction)
    intro e
    split <;> exact takes_raise
  · intro e
    split
    · exact takes_raise
    · split <;> exact takes_raise

theorem apply_takes : Takes k s (2 * seconds s.watchdog.checkTimeout) (apply (seconds s.watchdog.checkTimeout)) := by
  rw [two_mul]
  apply takes_bind
  · apply takes_handle
    · exact takes_before (killswitch_takes positive) fun _ => takes_pure
    · intro e
      split
      · exact takes_pure
      · exact takes_raise
  · intro applied
    exact takes_before (inspect_takes positive) fun _ => takes_pure
  · exact positive.le

theorem enforce_takes {repair : Bool} {applied : Json} :
    Takes k s (3 * seconds s.watchdog.checkTimeout) (enforce repair (seconds s.watchdog.checkTimeout) applied) := by
  unfold enforce
  split
  · have parts : 3 * seconds s.watchdog.checkTimeout = seconds s.watchdog.checkTimeout + 2 *
      seconds s.watchdog.checkTimeout := by linarith
    rw [parts]
    apply takes_bind (inspect_takes positive)
    · intro check
      split
      · exact takes_mono takes_pure (by linarith)
      · exact apply_takes positive
    · linarith
  · exact takes_mono (apply_takes positive) (by linarith)

theorem containLocked_takes {repair required : Bool} {result : Evidence.Result} :
    Takes k s (3 * seconds s.watchdog.checkTimeout)
      (containLocked py session cause repair required (seconds s.watchdog.checkTimeout) result) := by
  have long : 0 ≤ 3 * seconds s.watchdog.checkTimeout := by linarith
  apply takes_after stillIntended_takes _ long
  intro intended
  split
  · apply takes_after priorEvidence_takes _ long
    intro prior
    apply takes_after publish_takes _ long
    intro latched
    apply takes_before (enforce_takes positive)
    rintro ⟨check, applied, failed⟩
    exact takes_before publish_takes fun _ => takes_pure
  · exact takes_mono takes_pure long

theorem transition_takes {α : Type} {body : Py α} {time : ℚ} (takes : Takes k s time body) (later : 0 ≤ time) :
    Takes k s (seconds s.watchdog.checkTimeout + time) (transition (seconds s.watchdog.checkTimeout) body) := by
  have waits : Takes k s (seconds s.watchdog.checkTimeout) (step (.acquire (seconds s.watchdog.checkTimeout))) := by
    have most : Takes k s (max 0 (seconds s.watchdog.checkTimeout))
      (step (.acquire (seconds s.watchdog.checkTimeout))) := takes_step rfl
    rwa [max_eq_right positive.le] at most
  unfold transition
  rw [if_neg (not_le.mpr positive)]
  apply takes_bind (takes_checked waits) _ later
  exact fun _ => takes_always takes (takes_step rfl)

end

/-- The settings of the lock are those that a containment goes by. -/
theorem containmentTimeout_settings {py : Interpreter} {lock : Obj} {s : Settings}
    (settings : fromSnapshot py (lock.get "settings") = .ok s) :
    containmentTimeout py lock = .ok (seconds s.watchdog.checkTimeout, []) := by
  have there : (lock.get "settings").truthy = true := by
    cases raw : lock.get "settings" with
    | obj fields =>
      cases fields with
      | nil => simp [raw, fromSnapshot, SessionSettings.spelledOut, SessionSettings.hasKeys, Obj.keys, bind,
          Except.bind] at settings
      | cons first rest => rfl
    | _ => simp [raw, fromSnapshot, SessionSettings.spelledOut, bind, Except.bind] at settings
  simp [containmentTimeout, there, settings]

section
variable {k : Sockets} {s : Settings} {py : Interpreter} {lock : Obj} {session : String} {observation : Obj}

theorem say_takes {value reason : String} {completed : Bool} :
    Takes k s 0 (say py session observation value reason completed) := by
  apply takes_after _ _ (le_refl 0)
  · split
    · exact takes_before (takes_step rfl) fun _ => takes_pure
    · exact takes_pure
  · intro stamp
    exact takes_before write_takes fun _ => takes_pure

variable (settings : fromSnapshot py (lock.get "settings") = .ok s)
include settings

/-- What a containment takes. -/
def containment (k : Sockets) (s : Settings) (cause : Diagnostic) : ℚ :=
  4 * seconds s.watchdog.checkTimeout + emits cause * emitTime k s.notifications

/-- A containment waits for the transition lock, looks, installs and looks again, and notifies. -/
theorem requestEmergency_takes {cause : Diagnostic} {repair required : Bool} :
    Takes k s (containment k s cause) (requestEmergency py lock cause repair required) := by
  have positive := SessionSettings.fromSnapshot_checkTimeout settings
  have notified : 0 ≤ emits cause * emitTime k s.notifications :=
    mul_nonneg (le_trans zero_le_one (emits_bounds cause).1) (emitTime_nonneg k s.notifications)
  have long : 0 ≤ containment k s cause := by
    unfold containment
    linarith
  unfold requestEmergency
  split
  · exact takes_mono takes_pure long
  intro l
  apply follows_bind (Q := fun x l' => x = .ok (seconds s.watchdog.checkTimeout, []) ∧ l' = l)
  · exact (follows_ofExcept _).mpr ⟨containmentTimeout_settings settings, rfl⟩
  · rintro _ l ⟨⟨⟩, rfl⟩
    have parts : containment k s cause = seconds s.watchdog.checkTimeout + 3 * seconds s.watchdog.checkTimeout +
        emits cause * emitTime k s.notifications := by
      unfold containment
      linarith
    rw [parts]
    refine takes_bind (takes_handle (transition_takes positive (containLocked_takes positive) (by linarith)) ?_) ?_
      notified l
    · intro e
      split
      · exact takes_pure
      · exact takes_raise
    · intro contained
      split
      · exact takes_mono takes_pure notified
      · exact notify_takes
  · rintro e _ ⟨⟨⟩, _⟩

theorem contain_takes {cause : Diagnostic} :
    Takes k s (containment k s cause) (contain py lock session observation cause) :=
  takes_before (requestEmergency_takes settings) fun _ => say_takes

end

/-! ### A turn -/

/-- Between two bounds: where at most `a` has passed before, at most `b` has after. -/
def Paced (k : Sockets) (s : Settings) (ready : Bool) (a b : ℚ) {α : Type} (p : Py α) : Prop :=
  ∀ l : Budget, l.ready = ready → l.since ≤ a → p.Follows (next k s) l fun _ l' => l'.ready = ready ∧ l'.since ≤ b

section
variable {k : Sockets} {s : Settings} {ready : Bool} {a b c time : ℚ} {α β : Type}

theorem paced_takes {p : Py α} (takes : Takes k s time p) (within : a + time ≤ b) : Paced k s ready a b p := by
  intro l known before
  refine follows_mono (takes l) ?_
  rintro _ l' ⟨same, spent⟩
  exact ⟨same.trans known, by linarith⟩

theorem paced_bind {p : Py α} {f : α → Py β} (first : Paced k s ready a b p) (rest : ∀ x, Paced k s ready b c (f x))
    (within : b ≤ c) :
    Paced k s ready a c (p >>= f) := by
  intro l known before
  apply follows_bind (first l known before)
  · rintro x l' ⟨known', after⟩
    exact rest x l' known' after
  · rintro e l' ⟨known', after⟩
    exact ⟨known', le_trans after within⟩

theorem limit_notify {what : String} (tells : notifies (.external what) = true) :
    limit k s (.external what) = k.progress :=
  if_pos tells

/-- A sign of life that comes in time. -/
theorem paced_notify (later : 0 ≤ a) (inTime : ready = true → a + k.progress ≤ seconds s.watchdog.serviceTimeout) :
    Paced k s ready a a (onlyIf ready (checked (step (.external "notify progress")))) := by
  intro l known before
  unfold onlyIf
  split
  case isTrue told =>
    subst told
    apply checked_follows
    intro done
    refine ⟨⟨true, 0⟩, ?_, rfl, later⟩
    have within : l.since + limit k s (.external "notify progress") ≤ allowed s.watchdog l.ready := by
      rw [known, allowed, if_pos rfl, limit_notify rfl]
      linarith [inTime rfl]
    exact (if_pos rfl).trans (if_pos within)
  case isFalse => exact ⟨known, before⟩

end

section
variable {k : Sockets} {s : Settings} {py : Interpreter} {lock : Obj} {session : String} {observation : Obj}
  {ready : Bool} {b : ℚ}

/-- What a turn may take before its sign of life: two containments that notify of how they ended, or an evaluation and
    one that notifies of its cause too. -/
def turnTime (k : Sockets) (s : Settings) : ℚ := 8 * seconds s.watchdog.checkTimeout + 2 * emitTime k s.notifications

/-- What the settings have to leave room for. -/
structure Roomy (k : Sockets) (s : Settings) : Prop where
  service : seconds s.watchdog.heartbeatInterval + turnTime k s + k.progress ≤ seconds s.watchdog.serviceTimeout
  readiness : turnTime k s + k.progress ≤ seconds s.watchdog.readinessTimeout

theorem integrity_takes : Takes k s (seconds s.watchdog.checkTimeout) (step .integrity) := takes_step rfl

theorem containment_le (cause : Diagnostic) :
    containment k s cause ≤ 4 * seconds s.watchdog.checkTimeout + 2 * emitTime k s.notifications := by
  have several := (emits_bounds cause).2
  have once := emitTime_nonneg k s.notifications
  unfold containment
  nlinarith

/-- A containment that only notifies of how it ended. -/
theorem containment_plain {cause : Diagnostic} (plain : emits cause = 1) :
    containment k s cause = 4 * seconds s.watchdog.checkTimeout + emitTime k s.notifications := by
  rw [containment, plain, one_mul]

variable (settings : fromSnapshot py (lock.get "settings") = .ok s)
include settings

theorem heal_paced {first : Option (String × String)} (later : 0 ≤ b)
    (inTime : ready = true → b + seconds s.watchdog.checkTimeout + k.progress ≤ seconds s.watchdog.serviceTimeout) :
    Paced k s ready b (b + 2 * seconds s.watchdog.checkTimeout) (heal first ready) := by
  have positive := SessionSettings.fromSnapshot_checkTimeout settings
  have healed : Takes k s (seconds s.watchdog.checkTimeout) (step .heal) := takes_step rfl
  unfold heal
  apply paced_bind (paced_takes healed (le_refl _))
  · intro outcome
    split
    · split
      · exact paced_takes takes_pure (by linarith)
      · exact paced_takes takes_raise (by linarith)
    · exact paced_takes takes_pure (by linarith)
    · apply paced_bind (paced_notify (by linarith) fun told => by linarith [inTime told])
      · intro _
        apply paced_bind (paced_takes integrity_takes (le_refl _))
        · intro second
          split
          · split
            · exact paced_takes takes_pure (by linarith)
            · exact paced_takes takes_raise (by linarith)
          · exact paced_takes takes_pure (by linarith)
        · linarith
      · linarith
  · linarith

theorem conclude_paced {failed : Option (String × String)} {recovering : Bool} :
    Paced k s ready b (b + 4 * seconds s.watchdog.checkTimeout + 2 * emitTime k s.notifications) (match failed with
      | some (component, _) => contain py lock session observation
          (superviseCause component s!"watchdog.{component}_integrity_failed")
      | none => do
        let observation ← say py session observation "healthy" "watchdog.local_integrity_verified" true
        onlyIf recovering (do let _ ← checked (step (.emit "recovered" false)))
        pure observation : Py Obj) := by
  have positive := SessionSettings.fromSnapshot_checkTimeout settings
  split
  · refine paced_takes (contain_takes settings) ?_
    rw [add_assoc]
    exact add_le_add_right (containment_le _) b
  · have once := emitTime_nonneg k s.notifications
    have sends : Takes k s (emitTime k s.notifications) (step (.emit "recovered" false)) := takes_step rfl
    refine paced_takes (takes_after say_takes (fun data => takes_before ?_ fun _ => takes_pure) once) (by linarith)
    unfold onlyIf
    split
    · exact takes_before (takes_checked sends) fun _ => takes_pure
    · exact takes_mono takes_pure once

theorem evaluate_paced (later : 0 ≤ b)
    (inTime : ready = true → b + turnTime k s + k.progress ≤ seconds s.watchdog.serviceTimeout) :
    Paced k s ready b (b + turnTime k s) (evaluate py lock session observation ready) := by
  have positive := SessionSettings.fromSnapshot_checkTimeout settings
  have once := emitTime_nonneg k s.notifications
  unfold turnTime at inTime ⊢
  unfold evaluate
  apply paced_bind (b := b) (paced_takes say_takes (by linarith))
  · intro pending
    apply paced_bind (paced_takes integrity_takes (le_refl _))
    · intro found
      split
      · split
        · exact paced_takes (takes_mono (contain_takes settings) (containment_le _)) (by linarith)
        · exact paced_takes takes_raise (by linarith)
      · apply paced_bind (b := b + 3 * seconds s.watchdog.checkTimeout)
        · split
          · apply paced_bind (b := b + seconds s.watchdog.checkTimeout) (paced_takes say_takes (by linarith))
            · intro healing
              apply paced_bind (paced_notify (by linarith) fun told => by linarith [inTime told])
              · intro _
                apply paced_bind (b := b + 3 * seconds s.watchdog.checkTimeout)
                · intro l known before
                  refine follows_mono (heal_paced settings (by linarith)
                    (fun told => by linarith [inTime told]) l known before) ?_
                  rintro _ l' ⟨known', after⟩
                  exact ⟨known', by linarith⟩
                · exact fun failed => paced_takes takes_pure (by linarith)
                · exact le_refl _
              · linarith
            · linarith
          · exact paced_takes takes_pure (by linarith)
        · rintro ⟨failed, data⟩ l known before
          refine follows_mono (conclude_paced settings l known before) ?_
          rintro _ l' ⟨known', after⟩
          exact ⟨known', by linarith⟩
        · linarith
    · linarith
  · linarith

/-- A latch that cannot be read is answered by a containment; otherwise it is read at once. -/
theorem latchedNow_budget {l : Budget} : (latchedNow py lock session observation).Follows (next k s) l fun x l' =>
    l'.ready = l.ready ∧ l'.since ≤ l.since + (4 * seconds s.watchdog.checkTimeout + emitTime k s.notifications) ∧
      ∀ found, x = .ok found → found.1 = false → l'.since ≤ l.since := by
  have positive := SessionSettings.fromSnapshot_checkTimeout settings
  have once := emitTime_nonneg k s.notifications
  have plain : emits (superviseCause "session" "session.evidence_invalid") = 1 := if_neg (by decide)
  have reads : Takes k s 0 (Prog.handle (some <$> emergencyLatched py lock) fun e =>
    if e.isStateError then some (pure none) else none) := by
    apply takes_handle
    · apply takes_before _ fun _ => takes_pure
      unfold emergencyLatched
      split
      · exact takes_raise
      · apply takes_before read_takes
        intro record
        split
        · exact takes_pure
        · split
          · exact takes_pure
          · exact takes_raise
    · intro e
      split
      · exact takes_pure
      · exact takes_raise
  apply follows_bind (reads l)
  · rintro latched l₁ ⟨same, spent⟩
    split
    · exact ⟨same, by linarith, fun _ _ _ => by linarith⟩
    · have contains := @contain_takes k s py lock session observation settings
        (superviseCause "session" "session.evidence_invalid")
      rw [containment_plain plain] at contains
      apply follows_bind (contains l₁)
      · rintro data l₂ ⟨same', spent'⟩
        refine ⟨same'.trans same, by linarith, ?_⟩
        rintro _ ⟨⟩ ⟨⟩
      · rintro e l₂ ⟨same', spent'⟩
        refine ⟨same'.trans same, by linarith, ?_⟩
        rintro _ ⟨⟩
  · rintro e l₁ ⟨same, spent⟩
    refine ⟨same, by linarith, ?_⟩
    rintro _ ⟨⟩

/-- However a turn comes to its end, at most two containments have passed. -/
theorem check_budget {latched : Bool} {lastCheck : ℚ} {l : Budget} (later : 0 ≤ b) (known : l.ready = ready)
    (inTime : ready = true → b + turnTime k s + k.progress ≤ seconds s.watchdog.serviceTimeout)
    (before : l.since ≤ b + (4 * seconds s.watchdog.checkTimeout + emitTime k s.notifications))
    (free : latched = false → l.since ≤ b) :
    (check py lock session s.watchdog latched ready lastCheck observation).Follows (next k s) l fun _ l' =>
      l'.ready = ready ∧ l'.since ≤ b + turnTime k s := by
  have positive := SessionSettings.fromSnapshot_checkTimeout settings
  have once := emitTime_nonneg k s.notifications
  have long : 0 ≤ turnTime k s := by
    unfold turnTime
    linarith
  have clock {a : ℚ} : Paced k s ready a a (step .clock) := paced_takes (takes_step rfl) (le_of_eq (add_zero a))
  unfold check
  split
  · have plain : emits (superviseCause "watchdog" "watchdog.emergency_latched") = 1 := if_neg (by decide)
    have held : Paced k s ready (b + (4 * seconds s.watchdog.checkTimeout + emitTime k s.notifications))
      (b + turnTime k s) (do
        let observation ← contain py lock session observation (superviseCause "watchdog" "watchdog.emergency_latched")
        pure (observation, lastCheck) : Py (Obj × ℚ)) :=
      paced_takes (takes_before (contain_takes settings) fun _ => takes_pure) (by
        rw [containment_plain plain, turnTime]
        linarith)
    exact held l known before
  case isFalse unlatched =>
    have evaluated : Paced k s ready b (b + turnTime k s) (do
        let now ← step .clock
        if now - lastCheck ≥ seconds s.watchdog.checkInterval then
          let observation ← evaluate py lock session observation ready
          let done ← step .clock
          pure (observation, done)
        else pure (observation, lastCheck) : Py (Obj × ℚ)) := by
      apply paced_bind clock
      · intro now
        split
        · apply paced_bind (evaluate_paced settings later inTime)
          · intro data
            exact paced_bind clock (fun _ => paced_takes takes_pure (by linarith)) (le_refl _)
          · exact le_refl _
        · exact paced_takes takes_pure (by linarith)
      · linarith
    exact evaluated l known (free (by simpa using unlatched))

/-! ### The loop -/

omit settings in
theorem delay_le {wd : WatchdogSettings} {latched : Bool} {now lastCheck : ℚ} :
    delay wd latched now lastCheck ≤ seconds wd.heartbeatInterval := by
  unfold delay
  split
  · exact le_refl _
  · exact min_le_left _ _

/-- What may have passed at the beginning of a turn. -/
def slack (wd : WatchdogSettings) (ready : Bool) : ℚ := if ready then seconds wd.heartbeatInterval else 0

omit settings in
theorem progress_budget {l : Budget} (roomy : Roomy k s) (known : l.ready = ready)
    (before : l.since ≤ slack s.watchdog ready + turnTime k s) :
    (checked (step (.external (if ready then "notify progress" else "notify progress, ready")))).Follows
      (next k s) l fun _ l' =>
      l' = ⟨true, 0⟩ := by
  apply checked_follows
  intro done
  have within : l.since + k.progress ≤ allowed s.watchdog l.ready := by
    rw [known]
    cases ready with
    | true =>
      rw [slack, if_pos rfl] at before
      rw [allowed, if_pos rfl]
      linarith [roomy.service]
    | false =>
      rw [slack, if_neg Bool.false_ne_true] at before
      rw [allowed, if_neg Bool.false_ne_true]
      linarith [roomy.readiness]
  refine ⟨⟨true, 0⟩, ?_, rfl⟩
  cases ready
  · exact (if_pos rfl).trans (if_pos within)
  · exact (if_pos rfl).trans (if_pos within)

omit settings in
/-- After the sign of life of a turn, `select` waits for a heartbeat at most. -/
theorem events_budget {latched : Bool} {lastCheck : ℚ} (heartbeat : 0 < seconds s.watchdog.heartbeatInterval) : (do
      let now ← step .clock
      if ← step (.select (delay s.watchdog latched now lastCheck)) then
        let observation ← say py session observation "unknown" "watchdog.event_invalidated" false
        checked (step (.external "drain the events"))
        pure (some ⟨observation, true, -seconds s.watchdog.checkInterval⟩)
      else pure (some ⟨observation, true, lastCheck⟩) : Py (Option Loop)).Follows (next k s) ⟨true, 0⟩ fun x l' =>
        ∀ loop', x = .ok (some loop') → l'.ready = loop'.ready ∧ l'.since ≤ slack s.watchdog loop'.ready := by
  have waited {x : Except Exc (Option Loop)} {l : Budget} (known : l.ready = true)
    (within : l.since ≤ seconds s.watchdog.heartbeatInterval)
      (told : ∀ loop', x = .ok (some loop') → loop'.ready = true) :
      ∀ loop', x = .ok (some loop') → l.ready = loop'.ready ∧ l.since ≤ slack s.watchdog loop'.ready := by
    intro loop' same
    rw [told loop' same, slack, if_pos rfl]
    exact ⟨known, within⟩
  apply follows_bind (Q := fun _ l' => l' = ⟨true, 0⟩)
  · exact fun _ => ⟨⟨true, 0⟩, by simp [next, notifies, limit], rfl⟩
  · rintro now _ rfl
    apply follows_bind (Q := fun _ l' => l'.ready = true ∧ l'.since ≤ seconds s.watchdog.heartbeatInterval)
    · intro readable
      refine ⟨⟨true, 0 + max 0 (delay s.watchdog latched now lastCheck)⟩, rfl, rfl, ?_⟩
      rw [zero_add]
      exact max_le heartbeat.le delay_le
    · rintro readable l ⟨known, within⟩
      have drains : Takes k s 0 (checked (step (.external "drain the events"))) := takes_checked (takes_step rfl)
      split
      · apply follows_bind (say_takes l)
        · rintro data l₁ ⟨known₁, spent₁⟩
          apply follows_bind (drains l₁)
          · rintro _ l₂ ⟨known₂, spent₂⟩
            exact waited (known₂.trans (known₁.trans known)) (by linarith) (by rintro _ ⟨⟩; rfl)
          · rintro e _ _ _ ⟨⟩
        · rintro e _ _ _ ⟨⟩
      · exact waited known within (by rintro _ ⟨⟩; rfl)
    · rintro e l ⟨known, within⟩
      exact waited known within (by rintro _ ⟨⟩)
  · rintro e _ rfl _ ⟨⟩

variable (heartbeat : 0 < seconds s.watchdog.heartbeatInterval) (roomy : Roomy k s)
include heartbeat roomy

/-- What one turn preserves. -/
theorem turn_budget {loop : Loop} {l : Budget} (known : l.ready = loop.ready)
    (before : l.since ≤ slack s.watchdog loop.ready) :
    (turn py lock session s.watchdog loop).Follows (next k s) l fun x l' =>
      ∀ loop', x = .ok (some loop') → l'.ready = loop'.ready ∧ l'.since ≤ slack s.watchdog loop'.ready := by
  have positive := SessionSettings.fromSnapshot_checkTimeout settings
  have later : 0 ≤ slack s.watchdog loop.ready := by
    unfold slack
    split
    · exact heartbeat.le
    · exact le_refl 0
  have inTime : loop.ready = true → slack s.watchdog loop.ready + turnTime k s + k.progress ≤
      seconds s.watchdog.serviceTimeout := by
    intro ready
    rw [slack, if_pos ready]
    exact roomy.service
  have reads : Takes k s 0 (readLock true) := takes_of_uses (Footprint.readLock_uses (silent_of rfl rfl))
  unfold turn
  apply follows_bind (reads l)
  · rintro current l₁ ⟨same₁, spent₁⟩
    split
    · rintro _ ⟨⟩
    split
    · rintro _ ⟨⟩
    apply follows_bind (latchedNow_budget settings)
    · rintro ⟨latched, data⟩ l₂ ⟨same₂, spent₂, free⟩
      apply follows_bind (check_budget settings later (same₂.trans (same₁.trans known)) inTime (by linarith) ?_)
      · rintro ⟨data, lastCheck⟩ l₃ ⟨known₃, spent₃⟩
        apply follows_bind (write_takes l₃)
        · rintro _ l₄ ⟨same₄, spent₄⟩
          apply follows_bind (progress_budget roomy (same₄.trans known₃) (by linarith))
          · rintro _ _ rfl
            exact events_budget heartbeat
          · rintro e _ rfl _ ⟨⟩
        · rintro e _ _ _ ⟨⟩
      · rintro e _ _ _ ⟨⟩
      · intro unlatched
        have quick := free (latched, data) rfl unlatched
        linarith
    · rintro e _ _ _ ⟨⟩
  · rintro e _ _ _ ⟨⟩

/-- What any number of turns keeps to. -/
theorem turns_budget {n : ℕ} {loop : Loop} {l : Budget} (known : l.ready = loop.ready)
    (before : l.since ≤ slack s.watchdog loop.ready) :
    (turns py lock session s.watchdog n loop).Follows (next k s) l fun _ _ => True := by
  induction n generalizing loop l with
  | zero => trivial
  | succ n ih =>
    apply follows_bind (turn_budget settings heartbeat roomy known before)
    · intro found l' reached
      cases found with
      | none => trivial
      | some loop' =>
        obtain ⟨known', before'⟩ := reached loop' rfl
        exact ih known' before'
    · exact fun _ _ _ => trivial

theorem superviseLock_budget {instanceId : String} {n : ℕ} :
    (superviseLock py lock instanceId n).Follows (next k s) ⟨false, 0⟩ fun _ _ => True := by
  have silent {what : String} (other : notifies (.external what) = false) :
      Takes k s 0 (checked (step (.external what))) :=
    takes_checked (takes_of_uses ⟨silent_of other (if_neg (by simp [other])), fun _ => trivial⟩)
  unfold superviseLock
  split
  · trivial
  apply follows_bind (Q := fun x l' => x = .ok s ∧ l' = ⟨false, 0⟩)
  · exact (follows_ofExcept _).mpr ⟨settings, rfl⟩
  · rintro _ _ ⟨⟨⟩, rfl⟩
    split
    · trivial
    apply follows_bind (silent rfl _)
    · rintro _ l₁ ⟨known₁, spent₁⟩
      apply follows_handle (Q := fun _ _ => True)
      · apply follows_bind (say_takes l₁)
        · rintro data l₂ ⟨known₂, spent₂⟩
          apply follows_bind (silent rfl l₂)
          · rintro _ l₃ ⟨known₃, spent₃⟩
            apply turns_budget settings heartbeat roomy
            · exact known₃.trans (known₂.trans known₁)
            · show l₃.since ≤ 0
              linarith
          · exact fun _ _ _ => trivial
        · exact fun _ _ _ => trivial
      · exact fun _ _ _ => trivial
      · intro e l' _
        split
        · apply follows_bind (requestEmergency_takes settings l')
          · exact fun _ _ _ => trivial
          · exact fun _ _ _ => trivial
        · trivial
    · exact fun _ _ _ => trivial
  · exact fun _ _ _ => trivial

end

theorem timed_positive {value : Json} (timed : SessionSettings.Timed value) : 0 < seconds value := by
  obtain ⟨q, number, positive, _⟩ := timed
  simpa [seconds, number] using positive

/-- Settings that leave room keep the supervisor alive. -/
theorem roomy_alive {k : Sockets} {py : Interpreter} {s : Settings} (accepted : s.validate py = .ok s)
    (roomy : Roomy k s) : KeptAlive k py s := by
  intro lock instanceId n start _ settings
  have consistent := (SessionSettings.validate_consistent.mp accepted).2
  have heartbeat : 0 < seconds s.watchdog.heartbeatInterval :=
    timed_positive (consistent.timed _ (by simp [Settings.timeouts]))
  exact follows_inTime (superviseLock_budget settings heartbeat roomy) ⟨trivial, rfl, by simp⟩

/-! ### The longest run -/

/-- What the operations of the longest run come back with: the evidence of the latch cannot be read, and the emergency
    table is not there. -/
def slowResult (file : Loaded) : (o : Op) → o.Res
  | .readLock => file
  | .readMarker => .missing
  | .release => ()
  | .bootId => .ok ""
  | .clock => 0
  | .readRecord .. => .error (.stateError "")
  | .nftDelete => .ok true
  | .nftList => .ok true
  | .nftListing _ => .ok (.exit 1)
  | .uuid4 => ""
  | .showUnit _ => .error .timeoutExpired
  | .verify => { state := .notRun, reason := "" }
  | .integrity => .ok none
  | .heal => .ok true
  | .ask _ => false
  | .select _ => false
  | .isMounted => true
  | .findTorUid => none
  | .registerHandlers => ()
  | .emit .. => .ok []
  | .replaceLock _ => .ok ()
  | .unlinkLock => .ok ()
  | .replaceMarker _ => .ok ()
  | .unlinkMarker => .ok ()
  | .ensureRuntimeDir => .ok ()
  | .prepareStore => .ok ()
  | .acquire _ => .ok ()
  | .writeRecord .. => .ok ()
  | .nftTransaction .. => .ok ()
  | .nftInsert .. => .ok ()
  | .nftFlush => .ok ()
  | .startTor => .ok ()
  | .stopTor => .ok ()
  | .writeDropIn => .ok ()
  | .removeDropIn => .ok ()
  | .mountOverlay => .ok ()
  | .unmountOverlay => .ok ()
  | .external _ => .ok ()

/-- Every operation takes as long as it may. -/
def slowly (k : Sockets) (s : Settings) (file : Loaded) (w : Clocked) (o : Op) (_ : Unit) : Option (o.Res × Clocked) :=
  some (w.told (slowResult file) o, w.after o (limit k s o))

theorem limit_nonneg {k : Sockets} {s : Settings} (positive : 0 < seconds s.watchdog.checkTimeout) (o : Op) :
    0 ≤ limit k s o := by
  cases o with
  | emit => exact emitTime_nonneg k s.notifications
  | external what =>
    rw [limit]
    split
    · exact k.progress_nonneg
    · exact le_refl 0
  | integrity => exact positive.le
  | heal => exact positive.le
  | acquire timeout => exact le_max_left _ _
  | nftTransaction t timeout => exact le_max_left _ _
  | nftListing timeout => exact le_max_left _ _
  | select delay => exact le_max_left _ _
  | _ => exact le_refl 0

/-- The longest run is one of those that the limits allow. -/
theorem slowly_ensured {k : Sockets} {s : Settings} {file : Loaded} {α : Type} {p : Py α} {w : Clocked}
    {Q : Except Exc α → Clocked → Prop}
    (positive : 0 < seconds s.watchdog.checkTimeout) (ensured : p.Ensures (perform k s) w Q) :
    p.Ensures (slowly k s file) w Q := by
  induction p generalizing w with
  | ret a => exact ensured
  | raise e => exact ensured
  | call o _ ih =>
    rintro fate r w' performed
    obtain ⟨rfl, rfl⟩ := Prod.mk.inj (Option.some.inj performed)
    refine ih _ (ensured ⟨slowResult file, limit k s o⟩ _ _ ?_)
    rw [perform, if_pos ⟨limit_nonneg positive o, le_refl _⟩]

/-- It comes to an end. -/
theorem slowly_ends {k : Sockets} {s : Settings} {file : Loaded} {α : Type} {p : Py α} {w : Clocked}
    {Q : Except Exc α → Clocked → Prop}
    (ensured : p.Ensures (slowly k s file) w Q) : ∃ x w', Q x w' := by
  induction p generalizing w with
  | ret a => exact ⟨_, _, ensured⟩
  | raise e => exact ⟨_, _, ensured⟩
  | call o k ih => exact ih _ (ensured () _ _ rfl)

section
variable {k : Sockets} {s : Settings} {file : Loaded} {α β : Type} {a b : ℚ} {P : α → Prop} {Q : β → Prop}

/-- In the longest run the part comes back with a value like this after this time, and gives no sign of life. -/
def Plays (k : Sockets) (s : Settings) (file : Loaded) (time : ℚ) (P : α → Prop) (p : Py α) : Prop :=
  ∀ w, p.Ensures (slowly k s file) w fun x w' =>
  (∃ v, x = .ok v ∧ P v) ∧ w' = ⟨w.now + time, w.progress⟩

theorem plays_pure {v : α} (holds : P v) : Plays k s file 0 P (pure v) := fun w => ⟨⟨v, rfl, holds⟩, by rw [add_zero]⟩

/-- What the rest of a program comes to after such a part. -/
theorem plays_then {p : Py α} {f : α → Py β} {w : Clocked} {R : Except Exc β → Clocked → Prop}
    (first : Plays k s file a P p)
    (rest : ∀ v, P v → (f v).Ensures (slowly k s file) ⟨w.now + a, w.progress⟩ R) :
    (p >>= f).Ensures (slowly k s file) w R := by
  rw [ensures_bind]
  refine ensures_mono (first w) ?_
  rintro _ _ ⟨⟨v, rfl, holds⟩, rfl⟩
  exact rest v holds

theorem plays_bind {p : Py α} {f : α → Py β} (first : Plays k s file a P p)
    (rest : ∀ v, P v → Plays k s file b Q (f v)) : Plays k s file (a + b) Q (p >>= f) := by
  intro w
  apply plays_then first
  intro v holds
  have later := rest v holds ⟨w.now + a, w.progress⟩
  rw [add_assoc] at later
  exact later

theorem plays_after {p : Py α} {f : α → Py β} (first : Plays k s file 0 P p)
    (rest : ∀ v, P v → Plays k s file b Q (f v)) : Plays k s file b Q (p >>= f) := by
  have all := plays_bind first rest
  rwa [zero_add] at all

theorem plays_before {p : Py α} {f : α → Py β} (first : Plays k s file a P p)
    (rest : ∀ v, P v → Plays k s file 0 Q (f v)) : Plays k s file a Q (p >>= f) := by
  have all := plays_bind first rest
  rwa [add_zero] at all

theorem plays_handle {p : Py α} {h : Exc → Option (Py α)} (body : Plays k s file a P p) :
    Plays k s file a P (p.handle h) := by
  intro w
  rw [ensures_handle]
  refine ensures_mono (body w) ?_
  rintro _ _ ⟨⟨v, rfl, holds⟩, same⟩
  exact ⟨⟨v, rfl, holds⟩, same⟩

theorem plays_mono {p : Py α} {P' : α → Prop} (plays : Plays k s file a P p) (weaker : ∀ v, P v → P' v) :
    Plays k s file a P' p := by
  intro w
  refine ensures_mono (plays w) ?_
  rintro _ _ ⟨⟨v, rfl, holds⟩, same⟩
  exact ⟨⟨v, rfl, weaker v holds⟩, same⟩

theorem plays_step {o : Op} (quiet : notifies o = false) :
    Plays k s file (limit k s o) (fun r => ∃ w : Clocked, r = w.told (slowResult file) o) (step o) := by
  rintro w fate r w' performed
  obtain ⟨rfl, rfl⟩ := Prod.mk.inj (Option.some.inj performed)
  exact ⟨⟨_, rfl, w, rfl⟩, by simp [Clocked.after, quiet]⟩

end

/-! ### What is published in it -/

/-- The values can be encoded in a record. -/
def Light (py : Interpreter) (data : Obj) : Prop := ∀ kv ∈ data, kv.2.dumps (py.encodeDepth - 2) = .ok ()

section
variable {py : Interpreter} {data changes : Obj} {session boot : String} {now : ℚ}

theorem light_set {key : String} {value : Json} (light : Light py data)
    (encodes : value.dumps (py.encodeDepth - 2) = .ok ()) :
    Light py (data.set key value) := by
  induction data with
  | nil =>
    intro kv inside
    obtain rfl := List.mem_singleton.mp inside
    exact encodes
  | cons first rest ih =>
    obtain ⟨k, v⟩ := first
    have later : Light py rest := fun kv inside => light kv (List.mem_cons_of_mem _ inside)
    intro kv inside
    simp only [Obj.set] at inside
    split at inside
    · rcases List.mem_cons.mp inside with rfl | old
      · exact encodes
      · exact later kv old
    · rcases List.mem_cons.mp inside with rfl | old
      · exact light (k, v) List.mem_cons_self
      · exact ih later kv old

theorem light_update (light : Light py data) (more : Light py changes) : Light py (data.update changes) := by
  induction changes generalizing data with
  | nil => exact light
  | cons first rest ih =>
    refine ih (light_set light (more first List.mem_cons_self)) ?_
    exact fun kv inside => more kv (List.mem_cons_of_mem _ inside)

theorem light_dumps (light : Light py data) : (envelope session boot now data).dumps py.encodeDepth = .ok () := by
  obtain ⟨fuel, deep⟩ : ∃ fuel, py.encodeDepth = fuel + 2 := ⟨py.encodeDepth - 2, by have := py.shallow; omega⟩
  have values : Json.dumpsFields fuel data = .ok () := SessionSettings.dumpsFields_ok fun kv inside => by
    have encodes := light kv inside
    rwa [deep, Nat.add_sub_cancel] at encodes
  simp [deep, envelope, Json.dumps, Json.dumpsFields, values]

end

section
variable {k : Sockets} {s : Settings} {py : Interpreter} {lock observation : Obj} {session : String} {file : Loaded}

theorem write_plays {name : RecordName} {data : Obj} (named : filename py session = .ok ())
    (encodes : ∀ boot now, (envelope session boot now data).dumps py.encodeDepth = .ok ()) :
    Plays k s file 0 (fun _ => True) (Records.write py name session data) := by
  have boot : Plays k s file 0 (fun _ => True) (checked (step .bootId)) :=
    plays_after (plays_step rfl) fun r told => by
      obtain ⟨_, rfl⟩ := told
      exact plays_pure trivial
  rw [Records.write, bind_filename py named]
  apply plays_handle
  apply plays_after boot
  intro boot _
  apply plays_after (plays_step rfl)
  intro now _
  rw [encodes]
  apply plays_after (P := fun _ => True) (plays_pure trivial)
  intro _ _
  apply plays_after (plays_step rfl)
  rintro _ ⟨_, rfl⟩
  exact plays_pure trivial

/-- What the supervisor says can always be written. -/
theorem say_plays {value reason : String} {completed : Bool} (named : filename py session = .ok ())
    (light : Light py observation) :
    Plays k s file 0 (Light py) (say py session observation value reason completed) := by
  unfold say
  apply plays_after (P := fun stamp => ∀ fuel, stamp.dumps fuel = .ok ())
  · split
    · apply plays_after (plays_step rfl)
      intro now _
      exact plays_pure fun fuel => by simp [Json.dumps]
    · exact plays_pure fun fuel => by simp [Json.dumps]
  · intro stamp flat
    have said : Light py (observation.update
        [("value", .str value), ("reason", .str reason), ("observed_at", stamp)]) := by
      apply light_update light
      intro kv inside
      simp only [List.mem_cons, List.not_mem_nil, or_false] at inside
      rcases inside with rfl | rfl | rfl
      · simp [Json.dumps]
      · simp [Json.dumps]
      · exact flat _
    apply plays_after (write_plays named fun boot now => light_dumps said)
    intro _ _
    exact plays_pure said

/-- An operation that takes the time it is given. -/
theorem plays_given {o : Op} {time : ℚ} (quiet : notifies o = false) (given : limit k s o = time) :
    Plays k s file time (fun r => ∃ w : Clocked, r = w.told (slowResult file) o) (step o) := by
  have all : Plays k s file (limit k s o) _ (step o) := plays_step quiet
  rwa [given] at all

/-- The evidence of the latch cannot be read. -/
theorem read_slowly {w : Clocked} (named : filename py session = .ok ()) :
    (Records.read py .emergency session).Ensures (slowly k s file) w fun x w' =>
    x = .error (.stateError "") ∧ w' = w := by
  rw [Records.read, bind_filename py named, ensures_bind]
  rintro _ _ _ booted
  obtain ⟨rfl, rfl⟩ := Prod.mk.inj (Option.some.inj booted)
  rintro _ _ _ read
  obtain ⟨rfl, rfl⟩ := Prod.mk.inj (Option.some.inj read)
  exact ⟨rfl, by simp [Clocked.after, notifies, limit]⟩

theorem priorEvidence_plays {cause : Diagnostic} (named : filename py session = .ok ()) :
    Plays k s file 0 (fun prior => prior.applied = .null ∧ prior.causes = [.obj cause.asDict])
      (priorEvidence py cause session) := by
  intro w
  rw [priorEvidence, ensures_handle, ensures_bind]
  refine ensures_mono (read_slowly named) ?_
  rintro _ _ ⟨rfl, rfl⟩
  exact ⟨⟨_, rfl, rfl, rfl⟩, by rw [add_zero]⟩

theorem publish_plays {data : Obj} {diagnostic : Diagnostic} (named : filename py session = .ok ())
    (encodes : ∀ boot now, (envelope session boot now data).dumps py.encodeDepth = .ok ()) :
    Plays k s file 0 (fun _ => True) (publish py session data diagnostic) :=
  plays_handle (plays_after (write_plays named encodes) fun _ _ => plays_pure trivial)

theorem emergency_dumps {applied : Json} {verified : Bool} {cause : Diagnostic} {result : Option Evidence.Result}
    {boot : String} {now : ℚ}
    (flat : ∀ fuel, applied.dumps fuel = .ok ()) :
    (envelope session boot now (emergencyData applied verified [.obj cause.asDict] result)).dumps py.encodeDepth = .ok
      () := by
  obtain ⟨fuel, deep⟩ : ∃ fuel, py.encodeDepth = fuel + 5 := ⟨py.encodeDepth - 5, by have := py.shallow; omega⟩
  have causes : (Json.arr ([] ++ [.obj cause.asDict])).dumps (fuel + 1 + 2) = (Json.arr []).dumps (fuel + 1 + 2) :=
    Containment.dumps_causes _ _
  rw [deep, Containment.envelope_dumps, flat]
  exact causes

variable (positive : 0 < seconds s.watchdog.checkTimeout)
include positive

theorem inspect_plays : Plays k s file (seconds s.watchdog.checkTimeout) (fun check => check.verified = false)
    (inspectEmergencyRules (seconds s.watchdog.checkTimeout)) := by
  apply plays_before (plays_given (o := .nftListing (seconds s.watchdog.checkTimeout)) rfl (max_eq_right positive.le))
  rintro _ ⟨_, rfl⟩
  exact plays_pure rfl

theorem killswitch_plays : Plays k s file (seconds s.watchdog.checkTimeout) (fun _ => True)
    (applyEmergencyKillswitch (seconds s.watchdog.checkTimeout)) := by
  apply plays_handle
  apply plays_handle
  apply plays_before (plays_given (o := .nftTransaction emergencyTable (seconds s.watchdog.checkTimeout)) rfl
    (max_eq_right positive.le))
  rintro _ ⟨_, rfl⟩
  exact plays_pure trivial

/-- A repair that finds the table gone looks, installs and looks again. -/
theorem enforce_plays {applied : Json} : Plays k s file (3 * seconds s.watchdog.checkTimeout)
    (fun done => ∀ fuel, done.2.1.dumps fuel = .ok ()) (enforce true (seconds s.watchdog.checkTimeout) applied) := by
  have parts : 3 * seconds s.watchdog.checkTimeout =
      seconds s.watchdog.checkTimeout + (seconds s.watchdog.checkTimeout + seconds s.watchdog.checkTimeout) := by
        linarith
  rw [parts]
  apply plays_bind (inspect_plays positive)
  intro check missing
  rw [if_neg (by simp [missing])]
  apply plays_bind (P := fun applied => applied = (Json.bool true, []))
  · apply plays_handle
    exact plays_before (killswitch_plays positive) fun _ _ => plays_pure rfl
  · rintro _ rfl
    apply plays_before (inspect_plays positive)
    intro check _
    exact plays_pure fun fuel => by simp [Json.dumps]

end

/-- The session of the longest run, and the instance of its agent. -/
def slowSession : String := "7c9e6679742540de944be07fc1f90ae7"

theorem ascii_literal {chars : List Char} (plain : chars.all (·.toNat < 128) = true) :
    ∀ c ∈ (String.ofList chars).toList, c.toNat < 128 := by
  simpa [String.toList_ofList] using plain

theorem slowSession_named (py : Interpreter) : filename py slowSession = .ok () :=
  (filename_ok py).mpr ⟨by decide, py.ascii _ (ascii_literal (by decide))⟩

/-- The lock of a session with these settings, that runs and has a recipient. -/
def slowLock (s : Settings) : Obj :=
  [("session_id", .str slowSession), ("settings", .obj (s.sections.map fun group => (group.1, .obj group.2))),
    ("notification_target", .obj [("uid", .int 1000)])]

theorem slowLock_settings {py : Interpreter} {s : Settings} (accepted : s.validate py = .ok s) :
    fromSnapshot py (Obj.get (slowLock s) "settings") = .ok s := by
  show fromSnapshot py (.obj (s.sections.map fun group => (group.1, .obj group.2))) = .ok s
  rw [fromSnapshot, SessionSettings.spelledOut_sections]
  exact accepted

section
variable {k : Sockets} {s : Settings} {py : Interpreter} {observation : Obj} {cause : Diagnostic}

theorem stillIntended_plays : Plays k s (.json (.obj (slowLock s))) 0 (fun intended => intended = true)
    (stillIntended slowSession false) := by
  apply plays_after (P := fun stopped => stopped = false)
  · apply plays_after (plays_step rfl)
    rintro _ ⟨_, rfl⟩
    exact plays_pure rfl
  · rintro _ rfl
    apply plays_after (P := fun current => current = some (slowLock s))
    · apply plays_handle
      apply plays_after (plays_step rfl)
      rintro _ ⟨_, rfl⟩
      exact plays_pure rfl
    · rintro _ rfl
      exact plays_pure rfl

theorem containLocked_plays {result : Evidence.Result} (positive : 0 < seconds s.watchdog.checkTimeout) :
    Plays k s (.json (.obj (slowLock s))) (3 * seconds s.watchdog.checkTimeout)
      (fun contained => contained.isSome = true)
      (containLocked py slowSession cause true false (seconds s.watchdog.checkTimeout) result) := by
  have named := slowSession_named py
  apply plays_after stillIntended_plays
  rintro _ rfl
  apply plays_after (priorEvidence_plays named)
  rintro prior ⟨applied, causes⟩
  rw [causes]
  apply plays_after (publish_plays named fun boot now => emergency_dumps fun fuel => by simp [applied, Json.dumps])
  intro latched _
  apply plays_before (enforce_plays positive)
  rintro ⟨check, applied, failed⟩ flat
  apply plays_after (publish_plays named fun boot now => emergency_dumps flat)
  intro written _
  exact plays_pure rfl

theorem transition_plays {α : Type} {file : Loaded} {P : α → Prop} {body : Py α} {time : ℚ}
    (positive : 0 < seconds s.watchdog.checkTimeout) (plays : Plays k s file time P body) :
    Plays k s file (seconds s.watchdog.checkTimeout + time) P (transition (seconds s.watchdog.checkTimeout) body) := by
  unfold transition
  rw [if_neg (not_le.mpr positive)]
  apply plays_bind (P := fun _ => True)
  · apply plays_before (plays_given (o := .acquire (seconds s.watchdog.checkTimeout)) rfl (max_eq_right positive.le))
    rintro _ ⟨_, rfl⟩
    exact plays_pure trivial
  · intro _ _ w
    rw [ensures_always]
    refine ensures_mono (plays w) ?_
    rintro x w' ⟨held, rfl⟩ _ _ _ released
    obtain ⟨rfl, rfl⟩ := Prod.mk.inj (Option.some.inj released)
    exact ⟨held, by simp [Clocked.after, notifies, limit]⟩

/-- A containment notifies of how it ended. -/
theorem notify_plays {file : Loaded} {result : Evidence.Result} {newCause : Bool} (plain : emits cause = 1) :
    Plays k s file (emitTime k s.notifications) (fun _ => True) (notify (slowLock s) cause result newCause) := by
  have unasked : ¬ ((cause.code = .watchdogUnavailable ∨ cause.code = .torNegative) ∧
      cause.reason ≠ "watchdog.emergency_latched") := by
    intro asked
    rw [emits, if_pos asked] at plain
    norm_num at plain
  unfold notify
  rw [if_pos (by rfl)]
  dsimp only
  rw [if_neg fun asked => unasked asked.2]
  apply plays_after (P := fun sent => sent = .ok []) (plays_pure rfl)
  rintro _ rfl
  apply plays_before (plays_given rfl (rfl : limit k s _ = emitTime k s.notifications))
  rintro _ ⟨_, rfl⟩
  exact plays_pure trivial

end

section
variable {k : Sockets} {s : Settings} {py : Interpreter} {observation : Obj} {cause : Diagnostic}
variable (accepted : s.validate py = .ok s)
include accepted

/-- A containment takes all of its four waits, and notifies. -/
theorem requestEmergency_plays (plain : emits cause = 1) :
    Plays k s (.json (.obj (slowLock s))) (4 * seconds s.watchdog.checkTimeout + emitTime k s.notifications)
      (fun _ => True) (requestEmergency py (slowLock s) cause true false) := by
  have settings := slowLock_settings accepted
  have positive := SessionSettings.fromSnapshot_checkTimeout settings
  have parts : 4 * seconds s.watchdog.checkTimeout + emitTime k s.notifications =
      seconds s.watchdog.checkTimeout + 3 * seconds s.watchdog.checkTimeout + emitTime k s.notifications := by linarith
  have identity : sessionIdOf (slowLock s) = some slowSession := rfl
  unfold requestEmergency
  rw [identity, containmentTimeout_settings settings, parts]
  apply plays_after (P := fun timing => timing = (seconds s.watchdog.checkTimeout, [])) (plays_pure rfl)
  rintro _ rfl
  apply plays_bind (plays_handle (transition_plays positive (containLocked_plays positive)))
  intro contained done
  split
  · simp at done
  · exact notify_plays plain

theorem contain_plays (plain : emits cause = 1) (light : Light py observation) : Plays k s (.json (.obj (slowLock s)))
    (4 * seconds s.watchdog.checkTimeout + emitTime k s.notifications) (Light py)
    (contain py (slowLock s) slowSession observation cause) := by
  apply plays_before (requestEmergency_plays accepted plain)
  intro result _
  apply say_plays (slowSession_named py)
  apply light_set light
  obtain ⟨fuel, deep⟩ : ∃ fuel, py.encodeDepth = fuel + 3 + 2 := ⟨py.encodeDepth - 5, by have := py.shallow; omega⟩
  rw [deep, Nat.add_sub_cancel]
  exact Containment.dumps_result result

/-- The evidence that cannot be read is answered by a containment. -/
theorem latchedNow_plays (light : Light py observation) : Plays k s (.json (.obj (slowLock s)))
    (4 * seconds s.watchdog.checkTimeout + emitTime k s.notifications) (fun found => found.1 = true ∧ Light py found.2)
    (latchedNow py (slowLock s) slowSession observation) := by
  unfold latchedNow
  apply plays_after (P := fun latched => latched = none)
  · intro w
    have identity : sessionIdOf (slowLock s) = some slowSession := rfl
    rw [ensures_handle]
    unfold emergencyLatched
    rw [identity]
    show Prog.Ensures _ ((Records.read py .emergency slowSession >>= _) >>= fun latched => pure (some latched)) _ _
    rw [ensures_bind, ensures_bind]
    refine ensures_mono (read_slowly (slowSession_named py)) ?_
    rintro _ _ ⟨rfl, rfl⟩
    exact ⟨⟨none, rfl, rfl⟩, by rw [add_zero]⟩
  · rintro _ rfl
    apply plays_before (contain_plays accepted (if_neg (by decide)) light)
    intro data said
    exact plays_pure ⟨rfl, said⟩

omit accepted in
theorem told_slowly {file : Loaded} {w : Clocked} (ready : Bool) :
    (checked (step (.external (if ready then "notify progress" else "notify progress, ready")))).Ensures
      (slowly k s file) w fun x w' =>
      x = .ok () ∧ w' = ⟨w.now + k.progress, (w.now + k.progress) :: w.progress⟩ := by
  rintro _ _ _ told
  obtain ⟨rfl, rfl⟩ := Prod.mk.inj (Option.some.inj told)
  exact ⟨rfl, by cases ready <;> simp [Clocked.after, notifies, limit]⟩

/-- A turn of the longest run has two containments, a sign of life and the wait of a heartbeat. -/
theorem turn_slowly {loop : Loop} {w : Clocked} (light : Light py loop.observation)
    (heartbeat : 0 ≤ seconds s.watchdog.heartbeatInterval) :
    (turn py (slowLock s) slowSession s.watchdog loop).Ensures (slowly k s (.json (.obj (slowLock s)))) w fun x w' =>
      (∃ loop', x = .ok (some loop') ∧ Light py loop'.observation) ∧
        w' = ⟨w.now + (turnTime k s + k.progress) + seconds s.watchdog.heartbeatInterval,
          (w.now + (turnTime k s + k.progress)) :: w.progress⟩ := by
  have reads : Plays k s (.json (.obj (slowLock s))) 0 (fun current => current = some (slowLock s))
      (readLock true) := by
    apply plays_after (plays_step rfl)
    rintro _ ⟨_, rfl⟩
    exact plays_pure rfl
  have holds (data : Obj) (said : Light py data) : Plays k s (.json (.obj (slowLock s)))
      (4 * seconds s.watchdog.checkTimeout + emitTime k s.notifications) (fun found => Light py found.1)
      (check py (slowLock s) slowSession s.watchdog true loop.ready loop.lastCheck data) := by
    apply plays_before (contain_plays accepted (if_neg (by decide)) said)
    intro data said
    exact plays_pure said
  have waits (now lastCheck : ℚ) : Plays k s (.json (.obj (slowLock s))) (seconds s.watchdog.heartbeatInterval)
      (fun readable => readable = false) (step (.select (delay s.watchdog true now lastCheck))) := by
    have all : Plays k s (.json (.obj (slowLock s))) _ _ (step (.select (delay s.watchdog true now lastCheck))) :=
      plays_step rfl
    have given : limit k s (.select (delay s.watchdog true now lastCheck)) = seconds s.watchdog.heartbeatInterval :=
      max_eq_right heartbeat
    rw [given] at all
    refine plays_mono all ?_
    rintro _ ⟨_, rfl⟩
    rfl
  unfold turn
  apply plays_then reads
  rintro _ rfl
  show Prog.Ensures _ (if false then pure none else _) _ _
  rw [if_neg Bool.false_ne_true]
  apply plays_then (latchedNow_plays accepted light)
  rintro ⟨latched, data⟩ ⟨rfl, said⟩
  apply plays_then (holds data said)
  rintro ⟨data, lastCheck⟩ said
  apply plays_then (write_plays (slowSession_named py) fun boot now => light_dumps said)
  intro _ _
  rw [ensures_bind]
  refine ensures_mono (told_slowly loop.ready) ?_
  rintro _ _ ⟨rfl, rfl⟩
  apply plays_then (plays_step rfl)
  intro now _
  apply plays_then (waits now lastCheck)
  rintro _ rfl
  refine ⟨⟨_, rfl, said⟩, ?_⟩
  simp only [Clocked.mk.injEq, List.cons.injEq, and_true, limit, turnTime]
  constructor <;> linarith

/-- The longest run of two turns. -/
theorem superviseLock_slowly {start : ℚ} (heartbeat : 0 ≤ seconds s.watchdog.heartbeatInterval) :
    (superviseLock py (slowLock s) "" 2).Ensures (slowly k s (.json (.obj (slowLock s)))) ⟨start, []⟩ fun _ w' =>
      w'.progress = [start + (turnTime k s + k.progress) + seconds s.watchdog.heartbeatInterval +
        (turnTime k s + k.progress), start + (turnTime k s + k.progress)] := by
  have settings := slowLock_settings accepted
  have external (what : String) (other : notifies (.external what) = false) : Plays k s (.json (.obj (slowLock s))) 0
      (fun _ => True) (checked (step (.external what))) := by
    apply plays_after (plays_given other (if_neg (by simp [other])))
    rintro _ ⟨_, rfl⟩
    exact plays_pure trivial
  have initial : Light py [("value", .str "unknown"), ("instance_id", .str ""), ("observed_at", .null)] := by
    intro kv inside
    simp only [List.mem_cons, List.not_mem_nil, or_false] at inside
    rcases inside with rfl | rfl | rfl <;> simp [Json.dumps]
  unfold superviseLock
  rw [settings]
  show Prog.Ensures _ (if false then pure () else _) _ _
  rw [if_neg Bool.false_ne_true]
  apply plays_then (P := fun parsed => parsed = s) (plays_pure rfl)
  intro parsed same
  subst parsed
  apply plays_then (external "INVOCATION_ID" rfl)
  intro _ _
  rw [ensures_handle]
  apply plays_then (say_plays (slowSession_named py) initial)
  intro data said
  apply plays_then (external "subscribe to events" rfl)
  intro _ _
  rw [turns, ensures_bind]
  refine ensures_mono (@turn_slowly k s py accepted ⟨data, _, _⟩ _ said heartbeat) ?_
  rintro _ _ ⟨⟨first, rfl, said⟩, rfl⟩
  show (turns _ _ _ _ 1 first).Ensures _ _ _
  rw [turns, ensures_bind]
  refine ensures_mono (turn_slowly accepted said heartbeat) ?_
  rintro _ _ ⟨⟨second, rfl, _⟩, rfl⟩
  show _ :: _ = _
  simp only [add_zero]

end

/-- A supervisor that is always in time has room for the longest run. -/
theorem alive_roomy {k : Sockets} {py : Interpreter} {s : Settings} (accepted : s.validate py = .ok s)
    (alive : KeptAlive k py s) : Roomy k s := by
  have settings := slowLock_settings accepted
  have positive := SessionSettings.fromSnapshot_checkTimeout settings
  have consistent := (SessionSettings.validate_consistent.mp accepted).2
  have heartbeat : 0 < seconds s.watchdog.heartbeatInterval :=
    timed_positive (consistent.timed _ (by simp [Settings.timeouts]))
  have inTime : (superviseLock py (slowLock s) "" 2).Ensures (slowly k s (.json (.obj (slowLock s)))) ⟨0, []⟩
      fun _ w => InTime s.watchdog 0 w.progress :=
        slowly_ensured positive (alive (slowLock s) "" 2 0 (le_refl 0) settings)
  obtain ⟨_, w, kept, progress⟩ := slowly_ends (ensures_both inTime (superviseLock_slowly accepted heartbeat.le))
  rw [progress] at kept
  obtain ⟨service, readiness⟩ := kept
  have first : 0 + (turnTime k s + k.progress) - 0 ≤ seconds s.watchdog.readinessTimeout := readiness
  exact ⟨by linarith, by linarith⟩

/-- For validated settings: the supervisor meets the deadlines of its unit in every run exactly where these fit
    between two signs of life: a heartbeat, the waits of two containments, their notifications, and the sending of the
    sign of life; and all but the heartbeat before the first. -/
theorem alive_room {k : Sockets} {py : Interpreter} {s : Settings} (accepted : s.validate py = .ok s) :
    KeptAlive k py s ↔ Roomy k s :=
  ⟨alive_roomy accepted, roomy_alive accepted⟩

/-- Settings with two minutes for systemd, and notifications. -/
def patient : Settings :=
  { watchdog := { serviceTimeout := .int 120, readinessTimeout := .int 120 }, notifications := { enabled := .bool true } }

theorem patient_valid : patient.validate .cpython = .ok patient := by
  have shallow : patient.snapshot .cpython = .ok (patient.sections.map fun group => (group.1, .obj group.2)) := rfl
  have checked : SessionSettings.checkSections patient.sections = .ok () := by decide +kernel
  have related : (patient.relations .cpython).find? (·.1) = none := by decide +kernel
  simp [Settings.validate, shallow, checked, related, bind, Except.bind]

/-- Where nothing but the checks, the waits, the `nft` calls and the heartbeat takes time. -/
theorem alive_prompt_iff (py : Interpreter) (s : Settings) (accepted : s.validate py = .ok s) : KeptAlive prompt py s ↔
    seconds s.watchdog.heartbeatInterval + 8 * seconds s.watchdog.checkTimeout ≤ seconds s.watchdog.serviceTimeout ∧
      8 * seconds s.watchdog.checkTimeout ≤ seconds s.watchdog.readinessTimeout := by
  have free : emitTime prompt s.notifications = 0 := ite_self 0
  have spent : turnTime prompt s + prompt.progress = 8 * seconds s.watchdog.checkTimeout := by
    rw [turnTime, free, mul_zero, add_zero]
    exact add_zero _
  rw [alive_room accepted, ← spent, ← add_assoc]
  exact ⟨fun room => ⟨room.service, room.readiness⟩, fun room => ⟨room.1, room.2⟩⟩

/-- With two minutes for systemd there is room. -/
theorem alive_prompt_patient : KeptAlive prompt .cpython patient :=
  (alive_prompt_iff .cpython patient patient_valid).mpr (by decide +kernel)

/-- The defaults are accepted, and a containment of theirs can be cut off by systemd. -/
theorem default_killed : Settings.validate .cpython {} = .ok {} ∧ ¬ KeptAlive prompt .cpython {} := by
  have accepted := SessionSettings.default_valid .cpython
  refine ⟨accepted, fun alive => ?_⟩
  have room := ((alive_room accepted).mp alive).service
  revert room
  decide +kernel

end Ttp.Deadlines
