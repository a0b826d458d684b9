import Mathlib.Algebra.Order.Field.Rat
import Mathlib.Tactic.Linarith
import Ttp.Program
import Ttp.Python

/-!
The desktop agent's deliveries (`notifications/delivery.py`): the calls of the notification
server for an event, the receipt that they come to, and what the object remembers of it for
the next event.
-/
namespace Ttp.Receipts
open Ttp.Python Ttp.Program

/-! ### Events and receipts -/

structure Event where
  title : String
  body : String
  severity : ℕ

/-- `EVENTS`. -/
def events : List (String × Event) :=
  [("started", ⟨"TTP session started",
    "Selected startup requirements were satisfied. Inspect ttp status for observations.", 1⟩),
    ("stopped", ⟨"TTP session stopped", "TTP protection was removed. Applications may reconnect outside Tor.", 1⟩),
    ("inconclusive", ⟨"Tor verification inconclusive",
      "The session remains configured. Inspect ttp check and the journal; this is not proof of isolation.", 1⟩),
    ("watchdog_unavailable", ⟨"Required watchdog unavailable",
      "Supervision failed. Containment was requested; inspect ttp status for the outcome.", 2⟩),
    ("tor_negative", ⟨"Tor verification returned a negative result",
      "Containment was requested. Inspect ttp status for the outcome.", 2⟩),
    ("emergency_verified", ⟨"TTP emergency rules verified",
      "Close sensitive applications before sudo ttp stop; they may reconnect outside Tor.", 2⟩),
    ("containment_unconfirmed", ⟨"TTP containment UNCONFIRMED",
      "Isolation could not be established. Inspect ttp status and the journal. Close sensitive applications before terminating TTP.", 3⟩),
    ("recovered", ⟨"TTP verification recovered",
      "A new evaluation succeeded. Inspect ttp status for its scope. Any latched emergency remains until explicit stop.", 1⟩)]

/-- `EVENTS[name]`. -/
def event? (name : String) : Option Event := (events.find? (·.1 == name)).map (·.2)

inductive State where
  | accepted
  | unconfirmed
  | failed
deriving DecidableEq, Repr

/-- A receipt; the keys that only some receipts have are options. -/
structure Receipt where
  state : State
  reason : String
  event : String
  notificationId : Option ℤ := none
  attempts : Option ℕ := none
  observedAt : ℚ
  deduplicated : Bool := false
deriving DecidableEq, Repr

/-- What `deliver` reads of the settings. -/
structure NotificationSettings where
  callTimeout : ℚ
  deliveryTimeout : ℚ
  attempts : ℤ

structure Delivery where
  bus : String
  settings : NotificationSettings
  lastEvent : Option String := none
  notificationId : ℤ := 0
  lastReceipt : Option Receipt := none

/-! ### One call -/

/-- How `busctl` turns out. -/
inductive Process where
  /-- It ended well; its output by the number of its characters and by what it decodes to. -/
  | printed (length : ℕ) (stdout : Content)
  /-- It ended with a status other than zero. -/
  | exited
  | expired
  /-- It was not found or could not be run, by the class of the error. -/
  | unstarted (kind : String)
  /-- It ended with this status, and what it printed is not UTF-8. -/
  | undecodable (status : ℤ)
  /-- `resolve` does not trust the program. -/
  | untrusted (message : String)

inductive Op where
  | boottime
  /-- Runs what `resolve("busctl")` gives, with these arguments. -/
  | busctl (arguments : List String) (timeout : ℚ)

def Op.Res : Op → Type
  | .boottime => ℚ
  | .busctl .. => Process

abbrev Py (α : Type) := Prog Op Op.Res Exc α

def boottime : Py ℚ := Prog.op Op.boottime

def busctl (arguments : List String) (timeout : ℚ) : Py Process := Prog.op (Op.busctl arguments timeout)

def service : String := "org.freedesktop.Notifications"

def object : String := "/org/freedesktop/Notifications"

/-- What `call` returns or raises, once the process is done. -/
def reply : Process → Except Exc Obj
  | .expired => .error .timeoutExpired
  | .exited => .error .calledProcessError
  | .unstarted kind => .error (.osError kind)
  -- the output is decoded before the status is looked at
  | .undecodable _ => .error .unicodeDecodeError
  | .untrusted message => .error (.unsafeBinaryError message)
  | .printed length stdout =>
    if 4096 < length then .error (.valueError "Oversized notification server reply")
    else do
      match ← stdout.loads with
      | .obj payload => .ok payload
      | _ => .error (.valueError "Invalid notification server reply")

/-- The identifier of an acceptance. -/
def acceptedId (payload : Obj) : Option ℤ :=
  match payload.get "data" with
  | .arr [.int id] => if (payload.get "type").isStr "u" ∧ 0 < id ∧ id < 2 ^ 32 then some id else none
  | _ => none

/-- What the body of the `try` comes to. -/
def notified (process : Process) : Except Exc ℤ := do
  match acceptedId (← reply process) with
  | some id => .ok id
  | none => .error (.valueError "Invalid notification acceptance identifier")

section
-- how a number is written with `:g`
variable (general : ℚ → String)

/-- The arguments that `call` gives to `busctl`. -/
def commandLine (bus method : String) (args : List String) (timeout : ℚ) : List String :=
  [s!"--address={bus}", s!"--timeout={general timeout}", "--json=short", "--", "call", service, object, service,
    method] ++ args

/-- The arguments of `Notify`. -/
def notifyArgs (notificationId : ℤ) (event : Event) : List String :=
  ["susssasa{sv}i", "TTP", toString notificationId, "network-vpn", event.title, event.body, "0", "1", "urgency", "y",
    toString (min event.severity 2), if 2 ≤ event.severity then "0" else "-1"]

def notifyLine (d : Delivery) (event : Event) (timeout : ℚ) : List String :=
  commandLine general d.bus "Notify" (notifyArgs d.notificationId event) timeout

/-! ### A delivery -/

/-- The receipt of a delivery without an acceptance. -/
def giveUp (d : Delivery) (name : String) (ambiguous : Bool) (reason : String) : Py (Receipt × Delivery) := do
  let now ← boottime
  let receipt : Receipt :=
    { state := if ambiguous then .unconfirmed else .failed, reason := reason, event := name, observedAt := now }
  pure (receipt, { d with lastEvent := some name, lastReceipt := some receipt })

/-- The loop over the attempts, by the number of those made and of those left. -/
def tryAttempts (d : Delivery) (name : String) (event : Event) (deadline : ℚ) (attempt : ℕ) (ambiguous : Bool)
    (reason : String) :
    ℕ → Py (Receipt × Delivery)
  | 0 => giveUp d name ambiguous reason
  | left + 1 => do
    let remaining := deadline - (← boottime)
    if remaining ≤ 0 then giveUp d name ambiguous reason
    else
      let budget := min d.settings.callTimeout remaining
      let process ← busctl (notifyLine general d event budget) budget
      match notified process with
      | .ok id =>
        let now ← boottime
        let receipt : Receipt :=
          { state := .accepted, reason := "notifications.server_accepted", event := name, notificationId := some id,
            attempts := some (attempt + 1), observedAt := now }
        pure (receipt, { d with notificationId := id, lastEvent := some name, lastReceipt := some receipt })
      | .error e =>
        -- the server may have accepted the call before its reply was lost
        if e = .timeoutExpired then
          tryAttempts d name event deadline (attempt + 1) true "notifications.reply_timeout" left
        else if e = .calledProcessError then
          tryAttempts d name event deadline (attempt + 1) true "notifications.call_unconfirmed" left
        else if e.isOSError || e.isValueError then
          tryAttempts d name event deadline (attempt + 1) ambiguous "notifications.reply_invalid" left
        else .raise e

/-- `deliver`, with the object as it leaves it; where it raises the object stays as it is. -/
def deliver (d : Delivery) (name : String) : Py (Receipt × Delivery) :=
  match event? name with
  | none => .raise .keyError
  | some event =>
    match d.lastReceipt with
    | some receipt =>
      if d.lastEvent = some name ∧ receipt.state = .accepted then pure ({ receipt with deduplicated := true }, d)
      else start event
    | none => start event
where
  start (event : Event) : Py (Receipt × Delivery) := do
    let deadline := (← boottime) + d.settings.deliveryTimeout
    tryAttempts general d name event deadline 0 false "notifications.server_failed" d.settings.attempts.toNat

end

/-! ### Runs -/

/-- An operation that is over. -/
inductive Entry where
  | read (time : ℚ)
  /-- A call: the last reading of the clock before it, and how it turned out. -/
  | called (now : ℚ) (arguments : List String) (budget : ℚ) (process : Process)

def Entry.isCall : Entry → Bool
  | .called .. => true
  | .read _ => false

/-- The clock, and the log of a delivery. -/
structure Scene where
  now : ℚ
  log : List Entry

/-- How an operation turns out: the time that is read, which is not before the last one, or what becomes of the
    process. -/
inductive Fate where
  | time (t : ℚ)
  | process (process : Process)

def perform (w : Scene) : (o : Op) → Fate → Option (o.Res × Scene)
  | .boottime, .time t => if w.now ≤ t then some (t, ⟨t, w.log ++ [.read t]⟩) else none
  | .busctl arguments budget, .process process =>
    some (process, ⟨w.now, w.log ++ [.called w.now arguments budget process]⟩)
  | _, _ => none

section
variable {α : Type} {w : Scene} {Q : Except Exc α → Scene → Prop}

theorem boottime_then {f : ℚ → Py α} (rest : ∀ t, w.now ≤ t → (f t).Ensures perform ⟨t, w.log ++ [.read t]⟩ Q) :
    (boottime >>= f).Ensures perform w Q := by
  refine (ensures_bind _ _).mpr ?_
  intro fate r w' performed
  cases fate with
  | process process => cases performed
  | time t =>
    change (if w.now ≤ t then some (t, (⟨t, w.log ++ [.read t]⟩ : Scene)) else none) = some (r, w') at performed
    by_cases later : w.now ≤ t
    · rw [if_pos later] at performed
      obtain ⟨rfl, rfl⟩ := Prod.mk.inj (Option.some.inj performed)
      exact rest t later
    · rw [if_neg later] at performed
      cases performed

theorem busctl_then {f : Process → Py α} {arguments : List String} {budget : ℚ}
    (rest : ∀ process, (f process).Ensures perform ⟨w.now, w.log ++ [.called w.now arguments budget process]⟩ Q) :
    (busctl arguments budget >>= f).Ensures perform w Q := by
  refine (ensures_bind _ _).mpr ?_
  intro fate r w' performed
  cases fate with
  | time t => cases performed
  | process process =>
    obtain ⟨rfl, rfl⟩ := Prod.mk.inj (Option.some.inj performed)
    exact rest process

end

/-! ### One delivery -/

/-- The call timed out, or ended with a status other than zero. -/
def Entry.ambiguous : Entry → Bool
  | .called _ _ _ .expired | .called _ _ _ .exited => true
  | .called _ _ _ (.undecodable status) => status != 0
  | _ => false

/-- The call ended with a status other than zero, and printed what is not UTF-8. -/
def Entry.lost : Entry → Bool
  | .called _ _ _ (.undecodable status) => status != 0
  | _ => false

/-- The calls that `deliver` takes for ambiguous. -/
def Entry.counted : Entry → Bool
  | .called _ _ _ .expired | .called _ _ _ .exited => true
  | _ => false

theorem ambiguous_iff (entry : Entry) : entry.ambiguous = true ↔ entry.counted = true ∨ entry.lost = true := by
  cases entry with
  | read time => simp [Entry.ambiguous, Entry.counted, Entry.lost]
  | called now arguments budget process => cases process <;> simp [Entry.ambiguous, Entry.counted, Entry.lost]

/-- What a reply that is not an acceptance fails with. -/
theorem printed_error {length : ℕ} {stdout : Content} {e : Exc}
    (failed : notified (.printed length stdout) = .error e) :
    e.isValueError = true ∨ stdout = .tooDeep ∧ e = .recursionError := by
  rw [notified, reply] at failed
  split at failed
  · cases failed
    exact .inl rfl
  · cases stdout with
    | tooDeep =>
      cases failed
      exact .inr ⟨rfl, rfl⟩
    | json value =>
      refine .inl ?_
      cases value with
      | obj payload =>
        simp only [Content.loads, bind, Except.bind] at failed
        cases accepted : acceptedId payload with
        | some id => simp [accepted] at failed
        | none =>
          simp only [accepted, Except.error.injEq] at failed
          subst failed
          rfl
      | _ =>
        cases failed
        rfl
    | _ =>
      cases failed
      exact .inl rfl

theorem notified_error {process : Process} {e : Exc} (failed : notified process = .error e) :
    (e = .timeoutExpired ↔ process = .expired) ∧ (e = .calledProcessError ↔ process = .exited) := by
  cases process with
  | printed length stdout =>
    rcases printed_error failed with value | ⟨_, rfl⟩
    · cases e <;> simp [Exc.isValueError] at value ⊢
    · simp
  | _ =>
    cases failed
    simp

/-- The identifier that the reply to a call accepts the notification with. -/
def Entry.acceptedAs : Entry → Option ℤ
  | .called _ _ _ process => (notified process).toOption
  | .read _ => none

/-- The call raised something that `deliver` does not catch. -/
def Entry.Stray (e : Exc) : Entry → Prop
  | .called _ _ _ process =>
    notified process = .error e ∧ e ≠ .timeoutExpired ∧ e ≠ .calledProcessError ∧
      (e.isOSError || e.isValueError) = false
  | .read _ => False

section
variable (general : ℚ → String) (d : Delivery) (name : String) (event : Event)

/-- A delivery that began with a reading of the clock and has made at most `k` calls, each for its
    event and within what then remained of its time. -/
structure Within (start : ℚ) (k : ℕ) (log : List Entry) : Prop where
  started : log.head? = some (.read start)
  few : log.countP Entry.isCall ≤ k
  budgets : ∀ now arguments budget process, .called now arguments budget process ∈ log →
    arguments = notifyLine general d event budget ∧ budget ≤ start + d.settings.deliveryTimeout - now

/-- None of the calls was accepted or ended the delivery, and the flag tells whether one was taken
    for ambiguous. -/
structure Unaccepted (ambiguous : Bool) (log : List Entry) : Prop where
  none : ∀ entry ∈ log, entry.acceptedAs = .none
  kept : ∀ entry ∈ log, ∀ e, ¬ entry.Stray e
  flag : log.any Entry.counted = ambiguous

/-- What a receipt says is what the log of its delivery has. -/
def Told (receipt : Receipt) (log : List Entry) : Prop :=
  (receipt.state = .accepted ∧ ∃ id, receipt.notificationId = some id ∧ ∃ entry ∈ log, entry.acceptedAs = some id) ∨
    receipt.notificationId = none ∧ ∃ ambiguous, Unaccepted ambiguous log ∧
    receipt.state = if ambiguous then .unconfirmed else .failed

/-- How a delivery ends that makes calls. -/
def Closed (start : ℚ) (k : ℕ) : Except Exc (Receipt × Delivery) → Scene → Prop
  | .ok (receipt, d'), w =>
    Within general d event start k w.log ∧ Told receipt w.log ∧ receipt.event = name ∧ receipt.deduplicated = false ∧
      d' = { d with
        lastEvent := some name, notificationId :=
          receipt.notificationId.getD d.notificationId, lastReceipt := some receipt }
  | .error e, w =>
    Within general d event start k w.log ∧ (∀ entry ∈ w.log, entry.acceptedAs = none) ∧ ∃ entry ∈ w.log, entry.Stray e

end

section
variable {general : ℚ → String} {d : Delivery} {name : String} {event : Event} {start : ℚ} {k : ℕ} {log : List Entry}
  {ambiguous : Bool}

theorem Within.read (within : Within general d event start k log) (t : ℚ) :
    Within general d event start k (log ++ [.read t]) where
  started := by
    obtain ⟨rest, rfl⟩ := List.head?_eq_some_iff.mp within.started
    rfl
  few := by simpa [Entry.isCall] using within.few
  budgets now arguments budget process member := by
    rcases List.mem_append.mp member with old | new
    · exact within.budgets now arguments budget process old
    · simp at new

theorem Within.called (within : Within general d event start k log) {now budget : ℚ} (process : Process)
    (remains : budget ≤ start + d.settings.deliveryTimeout - now) :
    Within general d event start (k + 1) (log ++ [.called now (notifyLine general d event budget) budget process]) where
  started := by
    obtain ⟨rest, rfl⟩ := List.head?_eq_some_iff.mp within.started
    rfl
  few := by
    have few := within.few
    simpa [Entry.isCall] using few
  budgets other arguments timeout process member := by
    rcases List.mem_append.mp member with old | new
    · exact within.budgets other arguments timeout process old
    · simp only [List.mem_singleton, Entry.called.injEq] at new
      obtain ⟨rfl, rfl, rfl, rfl⟩ := new
      exact ⟨rfl, remains⟩

theorem Within.more {l : ℕ} (within : Within general d event start k log) (more : k ≤ l) :
    Within general d event start l log :=
  ⟨within.started, within.few.trans more, within.budgets⟩

theorem Unaccepted.read (unaccepted : Unaccepted ambiguous log) (t : ℚ) : Unaccepted ambiguous (log ++ [.read t]) where
  none entry member := by
    rcases List.mem_append.mp member with old | new
    · exact unaccepted.none entry old
    · rw [List.mem_singleton.mp new]
      rfl
  kept entry member e := by
    rcases List.mem_append.mp member with old | new
    · exact unaccepted.kept entry old e
    · rw [List.mem_singleton.mp new]
      exact id
  flag := by
    rw [List.any_append, unaccepted.flag]
    simp [Entry.counted]

theorem unaccepted_called (none : ∀ entry ∈ log, entry.acceptedAs = Option.none) (now budget : ℚ)
    (arguments : List String) {process : Process} {e : Exc} (failed : notified process = .error e) :
    ∀ entry ∈ log ++ [.called now arguments budget process], entry.acceptedAs = Option.none := by
  intro entry member
  rcases List.mem_append.mp member with old | new
  · exact none entry old
  · rw [List.mem_singleton.mp new, Entry.acceptedAs, failed]
    rfl

theorem Unaccepted.called (unaccepted : Unaccepted ambiguous log) (now budget : ℚ) (arguments : List String)
    {process : Process} {e : Exc} (failed : notified process = .error e)
    (caught : e = .timeoutExpired ∨ e = .calledProcessError ∨ (e.isOSError || e.isValueError) = true) :
    Unaccepted (ambiguous || (Entry.called now arguments budget process).counted)
      (log ++ [.called now arguments budget process]) where
  none := unaccepted_called unaccepted.none now budget arguments failed
  kept entry member other := by
    rcases List.mem_append.mp member with old | new
    · exact unaccepted.kept entry old other
    · rw [List.mem_singleton.mp new]
      rintro ⟨told, notTimeout, notExit, uncaught⟩
      obtain rfl : e = other := Except.error.inj (failed.symm.trans told)
      rcases caught with isTimeout | isExit | isCaught
      · exact notTimeout isTimeout
      · exact notExit isExit
      · rw [isCaught] at uncaught
        cases uncaught
  flag := by
    rw [List.any_append, unaccepted.flag]
    simp

theorem giveUp_closed {w : Scene} (within : Within general d event start k w.log)
    (unaccepted : Unaccepted ambiguous w.log) (reason : String) :
    (giveUp d name ambiguous reason).Ensures perform w (Closed general d name event start k) :=
  boottime_then fun t _ => ⟨within.read t, .inr ⟨rfl, ambiguous, unaccepted.read t, rfl⟩, rfl, rfl, rfl⟩

/-- The loop, from any attempt on. -/
theorem tryAttempts_closed {w : Scene} (attempt left : ℕ) (reason : String)
    (within : Within general d event start attempt w.log)
    (unaccepted : Unaccepted ambiguous w.log) :
    (tryAttempts general d name event (start + d.settings.deliveryTimeout) attempt ambiguous reason left).Ensures
      perform w
      (Closed general d name event start (attempt + left)) := by
  induction left generalizing attempt ambiguous reason w with
  | zero => exact giveUp_closed within unaccepted reason
  | succ left ih =>
    rw [tryAttempts]
    refine boottime_then fun t _ => ?_
    by_cases late : start + d.settings.deliveryTimeout - t ≤ 0
    · simp only [if_pos late]
      exact giveUp_closed ((within.read t).more (Nat.le_add_right _ _)) (unaccepted.read t) reason
    · simp only [if_neg late]
      refine busctl_then fun process => ?_
      generalize bounded : min d.settings.callTimeout (start + d.settings.deliveryTimeout - t) = budget
      have remains : budget ≤ start + d.settings.deliveryTimeout - t := bounded ▸ min_le_right _ _
      have called := (within.read t).called process remains
      cases told : notified process with
      | ok id =>
        refine boottime_then fun later _ => ?_
        refine ⟨(called.read later).more (by omega),
          .inl ⟨rfl, id, rfl, .called t (notifyLine general d event budget) budget process, ?_, ?_⟩, rfl, rfl, rfl⟩
        · simp
        · rw [Entry.acceptedAs, told]
          rfl
      | error e =>
        obtain ⟨timedOut, exited⟩ := notified_error told
        have unaccepted' := (unaccepted.read t).called t budget (notifyLine general d event budget) told
        have next (caught : e = .timeoutExpired ∨ e = .calledProcessError ∨ (e.isOSError || e.isValueError) = true)
            (reason : String) :=
          ih (w := ⟨t, w.log ++ [.read t] ++ [.called t (notifyLine general d event budget) budget process]⟩)
            (attempt + 1) reason called (unaccepted' caught)
        rw [show attempt + 1 + left = attempt + (left + 1) by omega] at next
        by_cases isTimeout : e = .timeoutExpired
        · simp only [if_pos isTimeout]
          have next := next (.inl isTimeout) "notifications.reply_timeout"
          rw [timedOut.mp isTimeout] at next ⊢
          simpa [Entry.counted] using next
        · simp only [if_neg isTimeout]
          by_cases isExit : e = .calledProcessError
          · simp only [if_pos isExit]
            have next := next (.inr (.inl isExit)) "notifications.call_unconfirmed"
            rw [exited.mp isExit] at next ⊢
            simpa [Entry.counted] using next
          · simp only [if_neg isExit]
            have definite : (Entry.called t (notifyLine general d event budget) budget process).counted = false := by
              cases process with
              | expired => exact absurd (timedOut.mpr rfl) isTimeout
              | exited => exact absurd (exited.mpr rfl) isExit
              | _ => rfl
            by_cases caught : (e.isOSError || e.isValueError) = true
            · simp only [if_pos caught]
              have next := next (.inr (.inr caught)) "notifications.reply_invalid"
              rw [definite, Bool.or_false] at next
              exact next
            · simp only [if_neg caught]
              have none := unaccepted_called (unaccepted.read t).none t budget (notifyLine general d event budget) told
              exact ⟨called.more (by omega), none,
                .called t (notifyLine general d event budget) budget process, by simp,
                told, isTimeout, isExit, by simpa using caught⟩

/-- How a delivery ends. -/
inductive Delivered (general : ℚ → String) (d : Delivery) (name : String) :
    Except Exc (Receipt × Delivery) → Scene → Prop where
  | unknown {w : Scene} (unknown : event? name = none) (quiet : w.log = []) :
      Delivered general d name (.error .keyError) w
  | repeated {receipt : Receipt} {w : Scene} (last : d.lastReceipt = some receipt) (same : d.lastEvent = some name)
      (accepted : receipt.state = .accepted) (quiet : w.log = []) :
      Delivered general d name (.ok ({ receipt with deduplicated := true }, d)) w
  | made {event : Event} {start : ℚ} {x : Except Exc (Receipt × Delivery)} {w : Scene}
      (known : event? name = some event)
      (closed : Closed general d name event start d.settings.attempts.toNat x w) : Delivered general d name x w

theorem start_closed (known : event? name = some event) (now : ℚ) :
    (deliver.start general d name event).Ensures perform ⟨now, []⟩ (Delivered general d name) := by
  refine boottime_then fun start _ => ?_
  have within : Within general d event start 0 [.read start] := ⟨rfl, by simp [Entry.isCall], by simp⟩
  have unaccepted : Unaccepted false [.read start] := ⟨by simp [Entry.acceptedAs], by simp [Entry.Stray], rfl⟩
  refine ensures_mono (tryAttempts_closed
    (w := ⟨start, [.read start]⟩) 0 d.settings.attempts.toNat _ within unaccepted) fun x w closed => ?_
  rw [Nat.zero_add] at closed
  exact .made known closed

theorem deliver_delivered (now : ℚ) :
    (deliver general d name).Ensures perform ⟨now, []⟩ (Delivered general d name) := by
  rw [deliver]
  cases known : event? name with
  | none => exact .unknown known rfl
  | some event =>
    cases last : d.lastReceipt with
    | none => exact start_closed known now
    | some receipt =>
      by_cases repeated : d.lastEvent = some name ∧ receipt.state = .accepted
      · simp only [if_pos repeated]
        exact .repeated last repeated.1 repeated.2 rfl
      · simp only [if_neg repeated]
        exact start_closed known now

end

/-! ### Acceptances -/

/-- A call for the event whose reply accepts it with this identifier. -/
def Accepts (general : ℚ → String) (name : String) (id : ℤ) (log : List Entry) : Prop :=
  ∃ event now bus replaced budget length, ∃ payload : Obj, event? name = some event ∧
    .called now (commandLine general bus "Notify" (notifyArgs replaced event) budget) budget
    (.printed length (.json (.obj payload))) ∈ log ∧
    length ≤ 4096 ∧ (payload.get "type").isStr "u" = true ∧ payload.get "data" = .arr [.int id] ∧ 1 ≤ id ∧
    id ≤ 2 ^ 32 - 1

theorem acceptedId_some {payload : Obj} {id : ℤ} (accepted : acceptedId payload = some id) :
    (payload.get "type").isStr "u" = true ∧ payload.get "data" = .arr [.int id] ∧ 1 ≤ id ∧ id ≤ 2 ^ 32 - 1 := by
  rw [acceptedId] at accepted
  split at accepted
  case h_1 data =>
    split_ifs at accepted with shape
    obtain rfl := Option.some.inj accepted
    obtain ⟨type, positive, small⟩ := shape
    exact ⟨type, data, by omega, by omega⟩
  case h_2 => cases accepted

theorem notified_ok {process : Process} {id : ℤ} (accepted : notified process = .ok id) :
    ∃ length payload, process = .printed length (.json (.obj payload)) ∧ length ≤ 4096 ∧
      acceptedId payload = some id := by
  cases process with
  | printed length stdout =>
    rw [notified, reply] at accepted
    split at accepted
    · cases accepted
    case isFalse short =>
      cases stdout with
      | json value =>
        cases value with
        | obj payload =>
          refine ⟨length, payload, rfl, not_lt.mp short, ?_⟩
          simp only [Content.loads, bind, Except.bind] at accepted
          cases found : acceptedId payload with
          | some other =>
            simp only [found, Except.ok.injEq] at accepted
            rw [accepted]
          | none => simp [found] at accepted
        | _ => cases accepted
      | _ => cases accepted
  | _ => cases accepted

section
variable {general : ℚ → String} {d d' : Delivery} {name : String} {receipt : Receipt} {event : Event}
  {start : ℚ} {k : ℕ}
variable {w : Scene} {x : Except Exc (Receipt × Delivery)}

theorem Within.accepts (within : Within general d event start k w.log) (known : event? name = some event)
    {entry : Entry} {id : ℤ}
    (member : entry ∈ w.log) (accepted : entry.acceptedAs = some id) : Accepts general name id w.log := by
  cases entry with
  | read time => cases accepted
  | called now arguments budget process =>
    have ok : notified process = .ok id := by
      rw [Entry.acceptedAs] at accepted
      cases told : notified process with
      | ok other => simpa [told, Except.toOption] using accepted
      | error e => simp [told, Except.toOption] at accepted
    obtain ⟨length, payload, rfl, short, shape⟩ := notified_ok ok
    obtain ⟨rfl, _⟩ := within.budgets now arguments budget _ member
    exact ⟨event, now, d.bus, d.notificationId, budget, length, payload, known, member, short, acceptedId_some shape⟩

/-- A receipt of acceptance that is not a copy comes with the reply. -/
theorem closed_accepts (known : event? name = some event)
    (closed : Closed general d name event start k (.ok (receipt, d')) w)
    (accepted : receipt.state = .accepted) :
    ∃ id, receipt.notificationId = some id ∧ Accepts general name id w.log := by
  obtain ⟨within, told, _⟩ := closed
  rcases told with ⟨_, id, identifier, entry, member, reply⟩ | ⟨_, ambiguous, _, state⟩
  · exact ⟨id, identifier, within.accepts known member reply⟩
  · rw [state] at accepted
    cases ambiguous <;> cases accepted

/-! ### Any number of deliveries -/

/-- A delivery, as it ended. -/
structure Made where
  name : String
  result : Except Exc (Receipt × Delivery)
  log : List Entry

/-- The object after a delivery. -/
def after (d : Delivery) : Except Exc (Receipt × Delivery) → Delivery
  | .ok (_, d') => d'
  | .error _ => d

/-- The deliveries of one object, one after the other, and the time at the end of the last. -/
inductive Runs (general : ℚ → String) (d : Delivery) : List Made → Delivery → ℚ → Prop where
  | start (now : ℚ) : Runs general d [] d now
  | delivered {past : List Made} {d' : Delivery} {now began : ℚ} {made : Made} {w : Scene} :
      Runs general d past d' now → now ≤ began →
      (deliver general d' made.name).Ends perform ⟨began, []⟩ made.result w → w.log = made.log →
        Runs general d (past ++ [made]) (after d' made.result) w.now

/-- A receipt of these deliveries: of its own calls, and no other event was delivered since. -/
structure Standing (general : ℚ → String) (past : List Made) (name : Option String) (receipt : Receipt) : Prop where
  original : receipt.deduplicated = false
  source : ∃ earlier source later d', past = earlier ++ source :: later ∧ source.result = .ok (receipt, d') ∧
    name = some source.name ∧
    (receipt.state = .accepted → ∃ id, receipt.notificationId = some id ∧ Accepts general source.name id source.log) ∧
    ∀ item ∈ later, item.name = source.name ∨ ∃ e, item.result = .error e

/-- What the object has of the deliveries before. -/
structure Remembers (general : ℚ → String) (settings : NotificationSettings) (past : List Made) (d : Delivery) :
    Prop where
  settings : d.settings = settings
  last : ∀ receipt, d.lastReceipt = some receipt → Standing general past d.lastEvent receipt

theorem Standing.extend {past : List Made} {last : Option String}
    (standing : Standing general past last receipt) {made : Made}
    (same : last = some made.name ∨ ∃ e, made.result = .error e) : Standing general (past ++ [made]) last receipt where
  original := standing.original
  source := by
    obtain ⟨earlier, source, later, d', rfl, result, named, accepts, others⟩ := standing.source
    refine ⟨earlier, source, later ++ [made], d', by simp, result, named, accepts, fun item member => ?_⟩
    rcases List.mem_append.mp member with old | new
    · exact others item old
    · rw [List.mem_singleton.mp new]
      exact same.imp_left fun same => Option.some.inj (same.symm.trans named)

theorem Standing.fresh (past : List Made) {log : List Entry} (d' : Delivery) (original : receipt.deduplicated = false)
    (accepts : receipt.state = .accepted → ∃ id, receipt.notificationId = some id ∧ Accepts general name id log) :
    Standing general (past ++ [⟨name, .ok (receipt, d'), log⟩]) (some name) receipt where
  original := original
  source := ⟨past, ⟨name, .ok (receipt, d'), log⟩, [], d', rfl, rfl, rfl, accepts,
    fun _ member => absurd member List.not_mem_nil⟩

/-- One delivery keeps what is remembered. -/
theorem Remembers.delivered {settings : NotificationSettings} {past : List Made}
    (remembers : Remembers general settings past d)
    (delivered : Delivered general d name x w) :
    Remembers general settings (past ++ [⟨name, x, w.log⟩]) (after d x) := by
  have raised {e : Exc} (raised : x = .error e) : Remembers general settings (past ++ [⟨name, x, w.log⟩])
      (after d x) := by
    subst raised
    exact ⟨remembers.settings, fun receipt last => (remembers.last receipt last).extend (.inr ⟨e, rfl⟩)⟩
  cases delivered with
  | unknown _ _ => exact raised rfl
  | repeated last same accepted quiet =>
    exact ⟨remembers.settings, fun receipt last => (remembers.last receipt last).extend (.inl same)⟩
  | made known closed =>
    cases x with
    | error e => exact raised rfl
    | ok returned =>
      obtain ⟨receipt, d'⟩ := returned
      have accepts := closed_accepts known closed
      obtain ⟨_, _, _, original, rfl⟩ := closed
      exact ⟨remembers.settings, fun other last => Option.some.inj last ▸ Standing.fresh past _ original accepts⟩

theorem runs_remembers {bus : String} {settings : NotificationSettings} {past : List Made} {now : ℚ}
    (runs : Runs general { bus := bus, settings := settings } past d now) : Remembers general settings past d := by
  induction runs with
  | start now => exact ⟨rfl, nofun⟩
  | delivered _ _ ended logged ih =>
    have remembers := ih.delivered (ends_ensured ended (deliver_delivered _))
    rw [logged] at remembers
    exact remembers

end

/-- Whether a program turned out in one of the ways that `deliver` answers with a receipt: `busctl` is trusted, and no
    reply is nested too deeply for the decoder. -/
def Entry.answered : Entry → Bool
  | .called _ _ _ (.untrusted _) | .called _ _ _ (.printed _ .tooDeep) => false
  | _ => true

theorem stray_unanswered {entry : Entry} {e : Exc} (stray : entry.Stray e) : entry.answered = false := by
  cases entry with
  | read time => exact stray.elim
  | called now arguments budget process =>
    obtain ⟨failed, noTimeout, noExit, uncaught⟩ := stray
    cases process with
    | untrusted message => rfl
    | printed length stdout =>
      rcases printed_error failed with value | ⟨rfl, _⟩
      · simp [value] at uncaught
      · rfl
    | expired =>
      cases failed
      exact absurd rfl noTimeout
    | exited =>
      cases failed
      exact absurd rfl noExit
    | _ =>
      cases failed
      cases uncaught

/-- What a receipt of acceptance rests on: a reply to a call of its own delivery, or, for a copy, one to a call of an
    earlier delivery of the same event with no other event delivered since. -/
def Founded (general : ℚ → String) (past : List Made) (name : String) (receipt : Receipt) (log : List Entry) : Prop :=
  (receipt.deduplicated = false ∧ ∃ id, receipt.notificationId = some id ∧ Accepts general name id log) ∨
    ∃ earlier source later original d', past = earlier ++ source :: later ∧ source.name = name ∧
    source.result = .ok (original, d') ∧
      original.state = .accepted ∧ original.deduplicated = false ∧ receipt = { original with deduplicated := true } ∧
      (∃ id, original.notificationId = some id ∧ Accepts general name id source.log) ∧
      ∀ item ∈ later, item.name = name ∨ ∃ e, item.result = .error e

/-- A delivery that does not claim more than its calls showed, and that keeps to its bounds. -/
structure Honest (general : ℚ → String) (settings : NotificationSettings) (past : List Made) (d : Delivery)
    (name : String)
    (x : Except Exc (Receipt × Delivery)) (log : List Entry) : Prop where
  accepted : ∀ receipt d', x = .ok (receipt, d') → receipt.state = .accepted → Founded general past name receipt log
  unconfirmed : ∀ receipt d', x = .ok (receipt, d') → log.any Entry.ambiguous = true →
    (∀ id, ¬ Accepts general name id log) →
    receipt.state = .unconfirmed
  failed : ∀ receipt d', x = .ok (receipt, d') → receipt.state = .failed → log.any Entry.ambiguous = false
  replaced : (after d x).notificationId ≠ d.notificationId →
    ∃ receipt d', x = .ok (receipt, d') ∧ receipt.state = .accepted ∧ Accepts general name d'.notificationId log
  few : log.countP Entry.isCall ≤ settings.attempts.toNat
  budgets : ∀ now arguments budget process, .called now arguments budget process ∈ log →
    ∃ start, log.head? = some (.read start) ∧ budget ≤ start + settings.deliveryTimeout - now
  returns : event? name ≠ none → (∀ entry ∈ log, entry.answered = true) → ∃ receipt d', x = .ok (receipt, d')

/-- Where a call was lost, another call of the delivery settles what is said: `deliver` takes it for
    ambiguous, or it was accepted, or it ended the delivery with what `deliver` does not catch. -/
def Certain (log : List Entry) : Prop :=
  log.any Entry.lost = true →
    log.any Entry.counted = true ∨ ∃ entry ∈ log, (∃ id, entry.acceptedAs = some id) ∨ ∃ e, entry.Stray e

theorem lost_ambiguous {log : List Entry} (lost : log.any Entry.lost = true) : log.any Entry.ambiguous = true := by
  obtain ⟨entry, member, lost⟩ := List.any_eq_true.mp lost
  exact List.any_eq_true.mpr ⟨entry, member, (ambiguous_iff entry).mpr (.inr lost)⟩

/-- In such a delivery without an acceptance, the flag tells whether a call was ambiguous. -/
theorem Certain.flag {log : List Entry} {flag : Bool} (certain : Certain log) (unaccepted : Unaccepted flag log) :
    log.any Entry.ambiguous = flag := by
  refine Eq.trans ?_ unaccepted.flag
  rw [Bool.eq_iff_iff]
  constructor
  · intro ambiguous
    obtain ⟨entry, member, told⟩ := List.any_eq_true.mp ambiguous
    rcases (ambiguous_iff entry).mp told with counted | lost
    · exact List.any_eq_true.mpr ⟨entry, member, counted⟩
    · rcases certain (List.any_eq_true.mpr ⟨entry, member, lost⟩)
        with counted | ⟨other, known, ⟨id, accepted⟩ | ⟨e, stray⟩⟩
      · exact counted
      · cases accepted.symm.trans (unaccepted.none other known)
      · exact absurd stray (unaccepted.kept other known e)
  · intro counted
    obtain ⟨entry, member, told⟩ := List.any_eq_true.mp counted
    exact List.any_eq_true.mpr ⟨entry, member, (ambiguous_iff entry).mpr (.inl told)⟩

section
variable {general : ℚ → String} {settings : NotificationSettings} {past : List Made} {d : Delivery} {name : String}
  {event : Event}
variable {start : ℚ} {receipt : Receipt} {x : Except Exc (Receipt × Delivery)} {w : Scene}

/-- A delivery that makes no call. -/
theorem Honest.quiet (quiet : w.log = []) (same : (after d x).notificationId = d.notificationId)
    (accepted : ∀ receipt d', x = .ok (receipt, d') → receipt.state = .accepted →
      Founded general past name receipt w.log)
    (returns : event? name ≠ none → ∃ receipt d', x = .ok (receipt, d')) :
    Honest general settings past d name x w.log where
  accepted := accepted
  unconfirmed _ _ _ ambiguous _ := by simp [quiet] at ambiguous
  failed _ _ _ _ := by simp [quiet]
  replaced changed := absurd same changed
  few := by simp [quiet]
  budgets now arguments budget process member := by simp [quiet] at member
  returns known _ := returns known

theorem Within.bounded {k : ℕ} (within : Within general d event start k w.log) (now : ℚ) (arguments : List String)
    (budget : ℚ) (process : Process)
    (member : .called now arguments budget process ∈ w.log) :
    ∃ start, w.log.head? = some (.read start) ∧ budget ≤ start + d.settings.deliveryTimeout - now :=
  ⟨start, within.started, (within.budgets now arguments budget process member).2⟩

theorem Honest.raised {e : Exc} (closed : Closed general d name event start d.settings.attempts.toNat (.error e) w) :
    Honest general d.settings past d name (.error e) w.log := by
  obtain ⟨within, _, entry, member, stray⟩ := closed
  refine ⟨by simp, by simp, by simp, fun changed => absurd rfl changed, within.few, within.bounded, fun _ answered => ?_⟩
  simpa [stray_unanswered stray] using answered entry member

theorem Honest.returned {d' : Delivery} (known : event? name = some event) (certain : Certain w.log)
    (closed : Closed general d name event start d.settings.attempts.toNat (.ok (receipt, d')) w) :
    Honest general d.settings past d name (.ok (receipt, d')) w.log := by
  have accepts := closed_accepts known closed
  obtain ⟨within, told, _, original, rfl⟩ := closed
  refine ⟨?_, ?_, ?_, ?_, within.few, within.bounded, fun _ _ => ⟨receipt, _, rfl⟩⟩
  · rintro _ _ ⟨⟩ accepted
    exact .inl ⟨original, accepts accepted⟩
  · rintro _ _ ⟨⟩ ambiguous unaccepted
    rcases told with ⟨accepted, _⟩ | ⟨_, flag, none, state⟩
    · obtain ⟨id, _, reply⟩ := accepts accepted
      exact absurd reply (unaccepted id)
    · rw [state, if_pos ((certain.flag none).symm.trans ambiguous)]
  · rintro _ _ ⟨⟩ failed
    rcases told with ⟨accepted, _⟩ | ⟨_, flag, none, state⟩
    · rw [accepted] at failed
      cases failed
    · rw [certain.flag none]
      cases flag with
      | false => rfl
      | true =>
        rw [state] at failed
        cases failed
  · intro changed
    rcases told with ⟨accepted, _⟩ | ⟨unidentified, _⟩
    · obtain ⟨id, identifier, reply⟩ := accepts accepted
      refine ⟨receipt, _, rfl, accepted, ?_⟩
      simpa [identifier] using reply
    · exact absurd (by simp [after, unidentified]) changed

/-- A reply that accepts is found among the calls. -/
theorem Accepts.entry {id : ℤ} {log : List Entry} (accepts : Accepts general name id log) :
    ∃ entry ∈ log, entry.acceptedAs = some id := by
  obtain ⟨event, now, bus, replaced, budget, length, payload, _, member, short, type, data, positive, small⟩ := accepts
  refine ⟨_, member, ?_⟩
  have short : ¬ 4096 < length := by omega
  have shape : acceptedId payload = some id := by
    rw [acceptedId, data]
    exact if_pos ⟨type, by omega, by omega⟩
  simp [Entry.acceptedAs, notified, reply, short, Content.loads, shape, bind, Except.bind, Except.toOption]

/-- An honest delivery that lost a call has another one to go by. -/
theorem Honest.certain (closed : Closed general d name event start d.settings.attempts.toNat x w)
    (honest : Honest general d.settings past d name x w.log) : Certain w.log := by
  intro lost
  cases x with
  | error e =>
    obtain ⟨_, _, entry, member, stray⟩ := closed
    exact .inr ⟨entry, member, .inr ⟨e, stray⟩⟩
  | ok returned =>
    obtain ⟨receipt, d'⟩ := returned
    obtain ⟨_, told, _⟩ := closed
    rcases told with ⟨_, id, _, entry, member, accepted⟩ | ⟨_, flag, none, state⟩
    · exact .inr ⟨entry, member, .inl ⟨id, accepted⟩⟩
    · have unaccepted (id : ℤ) : ¬ Accepts general name id w.log := by
        intro accepts
        obtain ⟨entry, member, accepted⟩ := accepts.entry
        cases accepted.symm.trans (none.none entry member)
      have unconfirmed := honest.unconfirmed receipt d' rfl (lost_ambiguous lost) unaccepted
      rw [state] at unconfirmed
      cases flag with
      | true => exact .inl none.flag
      | false => cases unconfirmed

/-- Whatever was delivered before, a delivery is honest if and only if a call that it lost is not all that
    it has to go by. -/
theorem receipts_honest_iff {bus : String} {now began : ℚ}
    (runs : Runs general { bus := bus, settings := settings } past d now)
    (ended : (deliver general d name).Ends perform ⟨began, []⟩ x w) :
    Honest general settings past d name x w.log ↔ Certain w.log := by
  have remembers := runs_remembers runs
  have silent (quiet : w.log = []) : Certain w.log := by
    rw [quiet]
    exact nofun
  cases ends_ensured ended (deliver_delivered began) with
  | unknown unknown quiet =>
    exact iff_of_true (Honest.quiet quiet rfl (by simp) fun known => absurd unknown known) (silent quiet)
  | repeated last same accepted quiet =>
    refine iff_of_true (Honest.quiet quiet rfl ?_ fun _ => ⟨_, _, rfl⟩) (silent quiet)
    rintro _ _ ⟨⟩ _
    obtain ⟨original, earlier, source, later, d', split, result, named, accepts, others⟩ := remembers.last _ last
    obtain rfl := Option.some.inj (same.symm.trans named)
    exact .inr ⟨earlier, source, later, _, d', split, rfl, result, accepted, original, rfl, accepts accepted, others⟩
  | made known closed =>
    rw [← remembers.settings]
    constructor
    · exact Honest.certain closed
    · intro certain
      cases x with
      | error e => exact Honest.raised closed
      | ok returned => exact Honest.returned known certain closed

end

def desktop : Delivery := { bus := "unix:path=/run/user/1000/bus", settings := ⟨5, 20, 3⟩ }

def acceptance : Process := .printed 24 (.json (.obj [("type", .str "u"), ("data", .arr [.int 7])]))

/-- The receipt of a second call that is accepted. -/
def stopped : Receipt :=
  { state := .accepted, reason := "notifications.server_accepted", event := "stopped", notificationId := some 7, attempts := some 2,
    observedAt := 106 }

def delivered : Delivery :=
  { desktop with lastEvent := some "stopped", notificationId := 7, lastReceipt := some stopped }

theorem unicodeDecodeError_caught :
    Exc.unicodeDecodeError ≠ .timeoutExpired ∧ Exc.unicodeDecodeError ≠ .calledProcessError ∧
      Exc.isValueError .unicodeDecodeError = true :=
  ⟨nofun, nofun, rfl⟩

/-- The first call is lost, and the second is accepted. -/
theorem deliver_second : ∃ w, (deliver (fun _ => "5") desktop "stopped").run perform ⟨100, []⟩
      [.time 100, .time 100, .process (.undecodable 1), .time 105, .process acceptance, .time 106] =
        some (.ok (stopped, delivered), w) ∧ Certain w.log := by
  obtain ⟨event, known⟩ : ∃ event, event? "stopped" = some event := ⟨_, rfl⟩
  have undecodable : notified (.undecodable 1) = .error .unicodeDecodeError := rfl
  obtain ⟨notTimeout, notExit, caught⟩ := unicodeDecodeError_caught
  have accepted : notified acceptance = .ok 7 := rfl
  simp only [deliver, known, desktop, deliver.start, show Int.toNat 3 = 3 from rfl]
  norm_num [tryAttempts, boottime, busctl, bind, Prog.bind, Prog.op, Prog.run, perform, undecodable, notTimeout,
    notExit, caught, accepted, stopped, delivered, desktop]
  refine ⟨_, rfl, fun _ => .inr ?_⟩
  simp [Entry.acceptedAs, accepted, Except.toOption]

/-- A delivery whose second call was accepted, and the same event again. -/
theorem receipts_honest_copy : ∃ log,
    Honest (fun _ => "5") desktop.settings [] desktop "stopped" (.ok (stopped, delivered)) log ∧
      Honest (fun _ => "5") desktop.settings [⟨"stopped", .ok (stopped, delivered), log⟩] delivered "stopped"
        (.ok ({ stopped with deduplicated := true }, delivered)) [] := by
  obtain ⟨w, ran, certain⟩ := deliver_second
  have first : Runs (fun _ => "5") desktop [] desktop 100 := .start 100
  have runs : Runs (fun _ => "5") desktop ([] ++ [⟨"stopped", .ok (stopped, delivered), w.log⟩]) delivered w.now :=
    .delivered first le_rfl (run_ends ran) rfl
  have again : (deliver (fun _ => "5") delivered "stopped").Ends perform ⟨w.now, []⟩
      (.ok ({ stopped with deduplicated := true }, delivered)) ⟨w.now, []⟩ := ⟨rfl, rfl⟩
  exact ⟨w.log, (receipts_honest_iff first (run_ends ran)).mpr certain, (receipts_honest_iff runs again).mpr nofun⟩

/-- A delivery of one call. -/
def single : Delivery := { desktop with settings := ⟨5, 20, 1⟩ }

/-- The receipt where that call exits with status 1 and its error output is not UTF-8. -/
def overlooked : Receipt :=
  { state := .failed, reason := "notifications.reply_invalid", event := "stopped", observedAt := 101 }

def misled : Delivery := { single with lastEvent := some "stopped", lastReceipt := some overlooked }

/-- It says that nothing was delivered, although the server may have the call. -/
theorem receipts_overclaim : ∃ w, (deliver (fun _ => "5") single "stopped").run perform ⟨100, []⟩
      [.time 100, .time 100, .process (.undecodable 1), .time 101] = some (.ok (overlooked, misled), w) ∧
        ¬ Honest (fun _ => "5") single.settings [] single "stopped" (.ok (overlooked, misled)) w.log := by
  obtain ⟨event, known⟩ : ∃ event, event? "stopped" = some event := ⟨_, rfl⟩
  have undecodable : notified (.undecodable 1) = .error .unicodeDecodeError := rfl
  obtain ⟨notTimeout, notExit, caught⟩ := unicodeDecodeError_caught
  simp only [deliver, known, single, desktop, deliver.start, show Int.toNat 1 = 1 from rfl]
  norm_num [tryAttempts, giveUp, boottime, busctl, bind, Prog.bind, Prog.op, Prog.run, perform, undecodable,
    notTimeout, notExit, caught]
  refine ⟨_, rfl, fun honest => ?_⟩
  have clear := honest.failed _ _ rfl rfl
  simp [Entry.ambiguous] at clear

end Ttp.Receipts
