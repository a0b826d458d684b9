import Ttp.Methods
import Ttp.Python

/-!
The view of `ttp monitor` (`monitor.py`, `commands/monitor.py`): what it keeps of the
snapshots of a session that it is given one after the other.
-/
namespace Ttp.Monitor
open Ttp.Python Ttp.Methods

variable (py : Interpreter) {τ : Type}

/-- An event, with the time that the call was given which recorded it. -/
structure MonitorEvent (τ : Type) where
  time : τ
  message : String

structure MonitorView (τ : Type) where
  events : Deque (MonitorEvent τ) 6 := .empty
  report : Option Obj := none
  error : Option String := none
  sampledAt : Option τ := none
  rejectedDelta : Option ℤ := none
  watchdogAge : Option Flt := none
  seenSample : Bool := false
  sessionId : Option String := none
  previousCount : Option ℤ := none

abbrev Act (τ : Type) := Method (MonitorView τ) Exc

/-- `_record`. -/
def record (time : τ) (message : String) : Act τ Unit :=
  .change fun view => { view with events := view.events.append ⟨time, message⟩ }

/-- Records an event when something has changed. -/
def recordIf (changed : Bool) (time : τ) (message : String) : Act τ Unit :=
  if changed then record time message else pure ()

/-- `unavailable`. -/
def unavailable (time : τ) (reason : String) : Act τ Unit := do
  let view ← Method.self
  recordIf view.error.isNone time "Observation became unavailable"
  .change fun view =>
    { view with
      report := none
      error := some reason
      sampledAt := some time
      rejectedDelta := none
      watchdogAge := none
      previousCount := none
      seenSample := true }

/-! ### The transitions between two snapshots -/

/-- `value.get(key)`. -/
def attr (value : Json) (key : String) : Act τ Json :=
  .ofExcept (match value with
    | .obj fields => .ok (Obj.get fields key)
    | _ => .error .attributeError)

/-- `value or text`. -/
def orText (value : Json) (text : String) : String := if value.truthy then value.text py else text

/-- `data.get(key, "unknown")`, in a text. -/
def getText (data : Obj) (key : String) : String := ((data.find? key).getD (.str "unknown")).text py

/-- `data.get(key, {})`. -/
def part (data : Obj) (key : String) : Json := (data.find? key).getD (.obj [])

/-- `a != b`, of tuples. -/
def differ (a b : List Json) : Bool := !Json.eqItems a b

def watchdogChanges (old new : Json) (time : τ) : Act τ Unit := do
  let oldValue ← attr old "value"
  let oldReason ← attr old "reason"
  let newValue ← attr new "value"
  let newReason ← attr new "reason"
  if differ [oldValue, oldReason] [newValue, newReason] then
    record time ("Watchdog: " ++ orText py oldValue "unknown" ++ " → " ++ orText py newValue "unknown" ++ " (" ++
      orText py newReason "no reason" ++ ")")
  else
    let oldInstance ← attr old "instance_id"
    let newInstance ← attr new "instance_id"
    recordIf (differ [oldInstance] [newInstance]) time "Watchdog service instance changed"

def verificationChanges (old new : Json) (time : τ) : Act τ Unit := do
  let oldState ← attr old "state"
  let oldObserved ← attr old "observed_at"
  let newState ← attr new "state"
  let newObserved ← attr new "observed_at"
  recordIf (differ [oldState, oldObserved] [newState, newObserved]) time
    ("New Tor verification record: " ++ orText py newState "unknown")

def emergencyChanges (old new : Json) (time : τ) : Act τ Unit := do
  let oldRequested ← attr old "requested"
  let oldApplied ← attr old "applied"
  let oldVerified ← attr old "verified"
  let newRequested ← attr new "requested"
  let newApplied ← attr new "applied"
  let newVerified ← attr new "verified"
  let state := if newVerified = .bool true then "kernel rules verified" else "containment unconfirmed"
  recordIf (differ [oldRequested, oldApplied, oldVerified] [newRequested, newApplied, newVerified]) time
    (if newRequested.truthy then s!"Emergency containment: {state}" else "Emergency containment no longer requested")

def notificationChanges (old new : Json) (time : τ) : Act τ Unit := do
  let oldState ← attr old "state"
  let oldReason ← attr old "reason"
  let newState ← attr new "state"
  let newReason ← attr new "reason"
  recordIf (differ [oldState, oldReason] [newState, newReason]) time ("Notifications: " ++ orText py newState "unknown")

/-- `_record_changes`. -/
def recordChanges (old new : Obj) (time : τ) : Act τ Unit := do
  recordIf (differ [old.get "phase"] [new.get "phase"]) time
    ("Session phase: " ++ getText py old "phase" ++ " → " ++ getText py new "phase")
  recordIf (differ [old.get "health"] [new.get "health"]) time ("Health assessment: " ++ getText py new "health")
  watchdogChanges py (part old "watchdog") (part new "watchdog") time
  verificationChanges py (part old "verification") (part new "verification") time
  emergencyChanges (part old "emergency") (part new "emergency") time
  notificationChanges py (part old "notifications") (part new "notifications") time

/-! ### `accept` -/

/-- The identity that a snapshot names. -/
def identityOf (report : Obj) : Option String := (report.get "session_id").str?

/-- The events that a snapshot gives rise to. -/
def noteSample (report : Obj) (time : τ) : Act τ Unit := do
  let view ← Method.self
  if view.seenSample && identityOf report != view.sessionId then
    .change fun view => { view with events := .empty, previousCount := none }
    record time
      (if (report.get "phase").isStr "absent" then "Session ended"
      else if identityOf report = none then "Session identity unavailable"
      else "Session started or changed")
  else if view.error.isSome then record time "Observation restored"
  else
    match view.report with
    | some old => recordChanges py old report time
    | none => pure ()

/-- What a count of rejected packets adds to that of the snapshot before. -/
def compareCount (count : ℤ) (time : τ) : Act τ Unit := do
  let view ← Method.self
  match view.previousCount with
  | some previous =>
    if previous ≤ count then .change fun view => { view with rejectedDelta := some (count - previous) }
    else record time "Rejected-packet counter reset"
  | none => pure ()

def countRejected (report : Obj) (time : τ) : Act τ Unit := do
  .change fun view => { view with rejectedDelta := none }
  match report.get "rejected_packets" with
  | .int count =>
    compareCount count time
    .change fun view => { view with previousCount := some count }
  | _ => .change fun view => { view with previousCount := none }

/-- The difference of two floats: rounded, and infinite beyond the largest one. -/
def floatMinus : Flt → Flt → Flt
  | .finite a, .finite b =>
    if 2 ^ 1024 - 2 ^ 970 ≤ a - b then .posInf
    else if a - b ≤ -(2 ^ 1024 - 2 ^ 970) then .negInf
    else .finite (py.round (a - b))
  | .nan, _ | _, .nan | .posInf, .posInf | .negInf, .negInf => .nan
  | .posInf, _ | _, .negInf => .posInf
  | .negInf, _ | _, .posInf => .negInf

/-- The age of the watchdog's progress; no number, no age. -/
def ageOf (progressAt : Json) (bootNow : Flt) : Except Exc (Option Flt) :=
  let age : Except Exc (Option Flt) :=
    match progressAt with
    | .int n => if floatOverflow n then .error .overflowError
        else .ok (some (floatMinus py bootNow (.finite (py.round n))))
    | .float x => .ok (some (floatMinus py bootNow x))
    | _ => .ok none
  age.map fun
    | some (.finite age) => if 0 ≤ age then some (.finite age) else none
    | _ => none

def ageWatchdog (report : Obj) (bootNow : Flt) : Act τ Unit := do
  let progressAt :=
    match part report "watchdog" with
    | .obj fields => Obj.get fields "progress_at"
    | _ => .null
  .change fun view => { view with watchdogAge := none }
  let age ← .ofExcept (ageOf py progressAt bootNow)
  .change fun view => { view with watchdogAge := age }

def accept (report : Obj) (time : τ) (bootNow : Flt) : Act τ Unit := do
  noteSample py report time
  countRejected report time
  ageWatchdog py report bootNow
  .change fun view =>
    { view with
      report := some report
      error := none
      sampledAt := some time
      sessionId := identityOf report
      seenSample := true }

/-! ### Sequences of calls -/

inductive Call (τ : Type) where
  | accept (report : Obj) (time : τ) (bootNow : Flt)
  | unavailable (time : τ) (reason : String)

def Call.time : Call τ → τ
  | .accept _ time _ | .unavailable time _ => time

def step (view : MonitorView τ) : Call τ → Except Exc Unit × MonitorView τ
  | .accept report time bootNow => accept py report time bootNow view
  | .unavailable time reason => unavailable time reason view

/-- The view after a sequence of calls. -/
abbrev shown (calls : List (Call τ)) : MonitorView τ := after (step py) {} calls

/-! ### What a call leaves of the view -/

/-- The view but for its events, and an event that is new has the time of the call. -/
structure Noted (time : τ) (before after : MonitorView τ) : Prop where
  rest : after = { before with events := after.events }
  events : ∀ e ∈ after.events.items, e ∈ before.events.items ∨ e.time = time

theorem noted_refl (time : τ) (view : MonitorView τ) : Noted time view view := ⟨rfl, fun _ member => .inl member⟩

theorem noted_trans {time : τ} {r s t : MonitorView τ} (first : Noted time r s) (second : Noted time s t) :
    Noted time r t := by
  refine ⟨?_, fun e member => ?_⟩
  · rw [second.rest, first.rest]
  · rcases second.events e member with old | new
    · exact first.events e old
    · exact .inr new

/-- The method does nothing to the view but record events. -/
abbrev Notes (time : τ) {α : Type} (act : Act τ α) : Prop := act.Within (Noted time)

theorem notes_bind {time : τ} {α β : Type} {act : Act τ α} {rest : α → Act τ β} (first : Notes time act)
    (next : ∀ a, Notes time (rest a)) :
    Notes time (act >>= rest) := Method.within_bind noted_trans first next

theorem notes_pure (time : τ) {α : Type} (a : α) : Notes time (pure a : Act τ α) :=
  Method.within_pure (noted_refl time) a

theorem notes_attr (time : τ) (value : Json) (key : String) : Notes time (attr value key : Act τ Json) :=
  Method.within_ofExcept (noted_refl time) _

theorem notes_record (time : τ) (message : String) : Notes time (record time message) := by
  apply Method.within_change
  intro view
  refine ⟨rfl, fun e member => ?_⟩
  rcases Deque.mem_append member with old | new
  · exact .inl old
  · exact .inr (by rw [new])

theorem notes_recordIf (changed : Bool) (time : τ) (message : String) : Notes time (recordIf changed time message) := by
  cases changed
  · exact notes_pure time ()
  · exact notes_record time message

theorem notes_watchdogChanges (old new : Json) (time : τ) : Notes time (watchdogChanges py old new time) := by
  refine notes_bind (notes_attr _ _ _) fun _ => notes_bind (notes_attr _ _ _) fun _ => ?_
  refine notes_bind (notes_attr _ _ _) fun _ => notes_bind (notes_attr _ _ _) fun _ => ?_
  split
  · exact notes_record _ _
  · exact notes_bind (notes_attr _ _ _) fun _ => notes_bind (notes_attr _ _ _) fun _ => notes_recordIf _ _ _

theorem notes_verificationChanges (old new : Json) (time : τ) : Notes time (verificationChanges py old new time) := by
  refine notes_bind (notes_attr _ _ _) fun _ => notes_bind (notes_attr _ _ _) fun _ => ?_
  exact notes_bind (notes_attr _ _ _) fun _ => notes_bind (notes_attr _ _ _) fun _ => notes_recordIf _ _ _

theorem notes_emergencyChanges (old new : Json) (time : τ) : Notes time (emergencyChanges old new time) := by
  refine notes_bind (notes_attr _ _ _) fun _ => notes_bind (notes_attr _ _ _) fun _ =>
    notes_bind (notes_attr _ _ _) fun _ => ?_
  refine notes_bind (notes_attr _ _ _) fun _ => notes_bind (notes_attr _ _ _) fun _ =>
    notes_bind (notes_attr _ _ _) fun _ => ?_
  exact notes_recordIf _ _ _

theorem notes_notificationChanges (old new : Json) (time : τ) : Notes time (notificationChanges py old new time) := by
  refine notes_bind (notes_attr _ _ _) fun _ => notes_bind (notes_attr _ _ _) fun _ => ?_
  exact notes_bind (notes_attr _ _ _) fun _ => notes_bind (notes_attr _ _ _) fun _ => notes_recordIf _ _ _

theorem notes_recordChanges (old new : Obj) (time : τ) : Notes time (recordChanges py old new time) := by
  refine notes_bind (notes_recordIf _ _ _) fun _ => notes_bind (notes_recordIf _ _ _) fun _ => ?_
  refine notes_bind (notes_watchdogChanges py _ _ _) fun _ => notes_bind (notes_verificationChanges py _ _ _)
    fun _ => ?_
  exact notes_bind (notes_emergencyChanges _ _ _) fun _ => notes_notificationChanges py _ _ _

/-- The snapshot names another session than the last one that was accepted. -/
def renewed (view : MonitorView τ) (report : Obj) : Bool := view.seenSample && identityOf report != view.sessionId

/-- The count of a snapshot. -/
def countOf (report : Obj) : Option ℤ :=
  match report.get "rejected_packets" with
  | .int count => some count
  | _ => none

/-- What a count adds to the one before, when it is not smaller. -/
def deltaOf : Option ℤ → Option ℤ → Option ℤ
  | some previous, some count => if previous ≤ count then some (count - previous) else none
  | _, _ => none

/-- What the events of a snapshot leave of the view: the baseline of the count stays unless the session is another. -/
structure Begun (report : Obj) (time : τ) (before after : MonitorView τ) : Prop where
  rest : after = { before with events := after.events, previousCount := if renewed before report then none else before.previousCount }
  events : ∀ e ∈ after.events.items, (renewed before report = false ∧ e ∈ before.events.items) ∨ e.time = time

theorem begun_of_noted {report : Obj} {time : τ} {before after : MonitorView τ} (same : renewed before report = false)
    (noted : Noted time before after) : Begun report time before after where
  rest := by
    rw [if_neg (by simp [same])]
    exact noted.rest
  events e member := (noted.events e member).imp_left fun old => ⟨same, old⟩

theorem noteSample_begun (report : Obj) (time : τ) (view : MonitorView τ) :
    Begun report time view (noteSample py report time view).2 := by
  rw [noteSample, Method.self_bind]
  by_cases other : renewed view report = true
  · rw [renewed] at other
    rw [if_pos other, Method.change_bind]
    have noted := notes_record time
      (if (report.get "phase").isStr "absent" then "Session ended"
      else if identityOf report = none then "Session identity unavailable"
      else "Session started or changed") { view with events := .empty, previousCount := none }
    refine ⟨?_, fun e member => ?_⟩
    · rw [renewed, if_pos other]
      exact noted.rest
    · rcases noted.events e member with old | new
      · cases old
      · exact .inr new
  · have same : renewed view report = false := by simpa using other
    rw [renewed] at other
    rw [if_neg other]
    apply begun_of_noted same
    split
    · exact notes_record time _ view
    · cases view.report with
      | some old => exact notes_recordChanges py _ _ _ view
      | none => exact noted_refl time view

/-- Counting never raises; what it leaves is the difference to the baseline, and the count as the next one. -/
structure Counted (report : Obj) (time : τ) (before after : MonitorView τ) : Prop where
  rest : after = { before with
    events := after.events, rejectedDelta := deltaOf before.previousCount (countOf report), previousCount :=
      countOf report }
  events : ∀ e ∈ after.events.items, e ∈ before.events.items ∨ e.time = time

theorem compareCount_compared (count : ℤ) (time : τ) (view : MonitorView τ) (unset : view.rejectedDelta = none) :
    ∃ events : Deque (MonitorEvent τ) 6, (∀ e ∈ events.items, e ∈ view.events.items ∨ e.time = time) ∧
      compareCount count time view =
      (.ok (), { view with events := events, rejectedDelta := deltaOf view.previousCount (some count) }) := by
  obtain ⟨events, report, error, sampledAt, rejectedDelta, age, seen, session, baseline⟩ := view
  obtain rfl : rejectedDelta = none := unset
  rw [compareCount, Method.self_bind]
  cases baseline with
  | none => exact ⟨events, fun _ member => .inl member, rfl⟩
  | some previous =>
    by_cases grown : previous ≤ count
    · exact ⟨events, fun _ member => .inl member, by simp [deltaOf, grown]⟩
    · have noted := notes_record time "Rejected-packet counter reset"
        ⟨events, report, error, sampledAt, none, age, seen, session, some previous⟩
      exact ⟨_, noted.events, by simp [deltaOf, grown, record]⟩

theorem countRejected_counted (report : Obj) (time : τ) (view : MonitorView τ) :
    ∃ view', countRejected report time view = (.ok (), view') ∧ Counted report time view view' := by
  rw [countRejected, Method.change_bind]
  cases counted : report.get "rejected_packets" with
  | int count =>
    obtain ⟨events, noted, ran⟩ := compareCount_compared count time { view with rejectedDelta := none } rfl
    dsimp only
    rw [Method.bind_returns ran]
    refine ⟨_, rfl, ?_, noted⟩
    simp [countOf, counted]
  | _ => exact ⟨_, rfl, by simp [countOf, counted, deltaOf], fun _ member => .inl member⟩

theorem ageWatchdog_aged (report : Obj) (bootNow : Flt) (view : MonitorView τ) :
    ∃ result age, ageWatchdog py report bootNow view = (result, { view with watchdogAge := age }) := by
  rw [ageWatchdog, Method.change_bind]
  generalize ageOf py _ bootNow = aged
  cases aged with
  | error e => exact ⟨.error e, none, rfl⟩
  | ok age => exact ⟨.ok (), age, rfl⟩

/-- A snapshot that was accepted is all that the view is about. -/
structure Accepted (report : Obj) (before after : MonitorView τ) : Prop where
  delta : after.rejectedDelta = deltaOf (if renewed before report then none else before.previousCount) (countOf report)
  count : after.previousCount = countOf report
  session : after.sessionId = identityOf report
  seen : after.seenSample = true
  report : after.report = some report
  error : after.error = none

/-- One that made `accept` raise has not changed what the next ones are compared with, but for the count. -/
structure Refused (before after : MonitorView τ) : Prop where
  session : after.sessionId = before.sessionId
  seen : after.seenSample = before.seenSample
  report : after.report = before.report
  error : after.error = before.error

theorem accept_cases (report : Obj) (time : τ) (bootNow : Flt) (view : MonitorView τ) :
    (∃ after, accept py report time bootNow view = (.ok (), after) ∧ Accepted report view after) ∨
      ∃ e after, accept py report time bootNow view = (.error e, after) ∧ Refused view after := by
  have begun := noteSample_begun py report time view
  rw [accept]
  cases noted : noteSample py report time view with
  | mk result first =>
    rw [noted] at begun
    have rest : first = { view with
        events := first.events, previousCount := if renewed view report then none else view.previousCount } :=
          begun.rest
    cases result with
    | error e =>
      refine .inr ⟨e, first, Method.bind_raises noted _, ?_⟩
      rw [rest]
      exact ⟨rfl, rfl, rfl, rfl⟩
    | ok _ =>
      rw [Method.bind_returns noted]
      obtain ⟨second, ran, counted⟩ := countRejected_counted report time first
      rw [Method.bind_returns ran]
      obtain ⟨result, age, ran⟩ := ageWatchdog_aged py report bootNow second
      cases result with
      | error e =>
        refine .inr ⟨e, _, Method.bind_raises ran _, ?_⟩
        rw [counted.rest, rest]
        exact ⟨rfl, rfl, rfl, rfl⟩
      | ok _ =>
        refine .inl ⟨_, Method.bind_returns ran _, ?_⟩
        rw [counted.rest, rest]
        exact ⟨rfl, rfl, rfl, rfl, rfl, rfl⟩

/-- No event of another session stays in the view, and a new one has the time of the call. -/
theorem accept_events (report : Obj) (time : τ) (bootNow : Flt) (view : MonitorView τ) :
    ∀ e ∈ (accept py report time bootNow view).2.events.items, (renewed view report = false ∧ e ∈ view.events.items) ∨
      e.time = time := by
  have begun := noteSample_begun py report time view
  rw [accept]
  cases noted : noteSample py report time view with
  | mk result first =>
    rw [noted] at begun
    cases result with
    | error e =>
      rw [Method.bind_raises noted]
      exact begun.events
    | ok _ =>
      rw [Method.bind_returns noted]
      obtain ⟨second, ran, counted⟩ := countRejected_counted report time first
      rw [Method.bind_returns ran]
      have kept : ∀ e ∈ second.events.items, (renewed view report = false ∧ e ∈ view.events.items) ∨ e.time = time := by
        intro e member
        rcases counted.events e member with old | new
        · exact begun.events e old
        · exact .inr new
      obtain ⟨result, age, ran⟩ := ageWatchdog_aged py report bootNow second
      cases result with
      | error e =>
        rw [Method.bind_raises ran]
        exact kept
      | ok _ =>
        rw [Method.bind_returns ran]
        exact kept

theorem unavailable_apply (time : τ) (reason : String) (view : MonitorView τ) :
    ∃ events : Deque (MonitorEvent τ) 6, (∀ e ∈ events.items, e ∈ view.events.items ∨ e.time = time) ∧
      unavailable time reason view =
        (.ok (), { view with
          events := events, report := none, error := some reason, sampledAt := some time, rejectedDelta := none,
          watchdogAge := none, previousCount := none, seenSample := true }) := by
  rw [unavailable, Method.self_bind]
  have noted := notes_recordIf view.error.isNone time "Observation became unavailable" view
  refine ⟨_, noted.events, ?_⟩
  cases view.error.isNone
  · rfl
  · rfl

/-! ### Sequences of calls -/

/-- The identity of the last snapshot that was accepted, of calls on a view; none before the first. -/
def lastIdentity (view : MonitorView τ) (known : Option (Option String)) : List (Call τ) → Option (Option String)
  | [] => known
  | call :: rest =>
    let known :=
      match call, (step py view call).1 with
      | .accept report _ _, .ok _ => some (identityOf report)
      | _, _ => known
    lastIdentity (step py view call).2 known rest

theorem shown_snoc (calls : List (Call τ)) (call : Call τ) :
    shown py (calls ++ [call]) = (step py (shown py calls) call).2 :=
  after_snoc _ _ _ _

theorem step_events (view : MonitorView τ) (call : Call τ) :
    ∀ e ∈ (step py view call).2.events.items, e ∈ view.events.items ∨ e.time = call.time := by
  cases call with
  | accept report time bootNow =>
    intro e member
    exact (accept_events py report time bootNow view e member).imp_left And.right
  | unavailable time reason =>
    obtain ⟨events, noted, ran⟩ := unavailable_apply time reason view
    rw [step, ran]
    exact noted

/-- The view knows the identity of the last snapshot that was accepted. -/
theorem lastIdentity_shown {view : MonitorView τ} {known : Option (Option String)} {identity : Option String}
    {calls : List (Call τ)}
    (start : ∀ identity, known = some identity → view.seenSample = true ∧ view.sessionId = identity)
    (last : lastIdentity py view known calls = some identity) :
    (after (step py) view calls).seenSample = true ∧ (after (step py) view calls).sessionId = identity := by
  induction calls generalizing view known with
  | nil => exact start identity last
  | cons call calls ih =>
    refine ih (fun identity known' => ?_) last
    cases call with
    | accept report time bootNow =>
      rcases accept_cases py report time bootNow view with ⟨after, ran, accepted⟩ | ⟨e, after, ran, refused⟩
      · simp only [step, ran, Option.some.injEq] at known' ⊢
        exact ⟨accepted.seen, known' ▸ accepted.session⟩
      · simp only [step, ran] at known' ⊢
        rw [refused.seen, refused.session]
        exact start identity known'
    | unavailable time reason =>
      obtain ⟨events, _, ran⟩ := unavailable_apply time reason view
      simp only [step, ran] at known' ⊢
      exact ⟨trivial, (start identity known').2⟩

/-- The snapshot of the call has another identity than the last one that was accepted before it. -/
def Changes (front : List (Call τ)) : Call τ → Prop
  | .accept report _ _ => ∃ identity, lastIdentity py {} none front = some identity ∧ identityOf report ≠ identity
  | .unavailable _ _ => False

theorem change_clears {front : List (Call τ)} {call : Call τ} (changes : Changes py front call) :
    ∀ e ∈ (shown py (front ++ [call])).events.items, e.time = call.time := by
  cases call with
  | unavailable => exact changes.elim
  | accept report time bootNow =>
    obtain ⟨identity, last, other⟩ := changes
    have known := lastIdentity_shown py (fun _ none => by cases none) last
    have other : renewed (shown py front) report = true := by
      rw [renewed, known.1, known.2]
      simpa using other
    rw [shown_snoc]
    intro e member
    rcases accept_events py report time bootNow (shown py front) e member with old | new
    · rw [other] at old
      cases old.1
    · exact new

/-- Every event that is shown was recorded since the last change of the identity. -/
theorem events_since {front rest : List (Call τ)} {call : Call τ} (changes : Changes py front call) :
    ∀ e ∈ (shown py (front ++ call :: rest)).events.items, e.time ∈ (call :: rest).map Call.time := by
  induction rest using List.reverseRecOn with
  | nil =>
    intro e member
    simpa using change_clears py changes e member
  | append_singleton rest later ih =>
    intro e member
    rw [← List.cons_append, ← List.append_assoc, shown_snoc] at member
    rw [← List.cons_append, List.map_append, List.mem_append]
    rcases step_events py _ later e member with old | new
    · exact .inl (ih e old)
    · exact .inr (by simp [new])

/-- The two snapshots are of one session and have counts, the later one not smaller by so much. -/
def Grown (earlier later : Call τ) (delta : ℤ) : Prop :=
  ∃ old oldTime oldNow new newTime newNow previous count, earlier = .accept old oldTime oldNow ∧
    later = .accept new newTime newNow ∧
    identityOf new = identityOf old ∧ old.get "rejected_packets" = .int previous ∧
    new.get "rejected_packets" = .int count ∧
    previous ≤ count ∧ delta = count - previous

theorem countOf_some {report : Obj} {count : ℤ} :
    countOf report = some count ↔ report.get "rejected_packets" = .int count := by
  rw [countOf]
  cases report.get "rejected_packets" <;> simp

theorem deltaOf_some {previous count : Option ℤ} {delta : ℤ} (grown : deltaOf previous count = some delta) :
    ∃ p c, previous = some p ∧ count = some c ∧ p ≤ c ∧ delta = c - p := by
  cases previous with
  | none => cases grown
  | some p =>
    cases count with
    | none => cases grown
    | some c =>
      rw [deltaOf] at grown
      by_cases le : p ≤ c
      · rw [if_pos le] at grown
        exact ⟨p, c, rfl, rfl, le, (Option.some.inj grown).symm⟩
      · rw [if_neg le] at grown
        cases grown

/-- A delta is the difference to the baseline, which is of the same session. -/
theorem Accepted.grown {report : Obj} {before after : MonitorView τ} {delta : ℤ}
    (accepted : Accepted report before after)
    (set : after.rejectedDelta = some delta) :
    renewed before report = false ∧
      ∃ previous count, before.previousCount = some previous ∧ report.get "rejected_packets" = .int count ∧
      previous ≤ count ∧
        delta = count - previous := by
  obtain ⟨previous, count, baseline, counted, le, equal⟩ := deltaOf_some (accepted.delta ▸ set)
  have same : renewed before report = false := by
    by_contra other
    rw [if_pos (by simpa using other)] at baseline
    cases baseline
  rw [if_neg (by simp [same])] at baseline
  exact ⟨same, previous, count, baseline, countOf_some.mp counted, le, equal⟩

/-- A view that has just accepted a snapshot knows its identity and its count. -/
theorem Accepted.known {old new : Obj} {before after : MonitorView τ} {previous : ℤ}
    (accepted : Accepted old before after)
    (same : renewed after new = false) (baseline : after.previousCount = some previous) :
    identityOf new = identityOf old ∧ old.get "rejected_packets" = .int previous := by
  simp only [renewed, accepted.seen, accepted.session, Bool.true_and, bne_eq_false_iff_eq] at same
  rw [accepted.count] at baseline
  exact ⟨same, countOf_some.mp baseline⟩

/-- A delta tells two accepted snapshots apart that the view was given one right after the other. -/
theorem delta_grown {front : List (Call τ)} {call : Call τ} {delta : ℤ}
    (returned : (step py (shown py front) call).1 = .ok ())
    (set : (shown py (front ++ [call])).rejectedDelta = some delta) :
    ∃ earlier previous, front = earlier ++ [previous] ∧
      ((∃ e, (step py (shown py earlier) previous).1 = .error e) ∨ Grown previous call delta) := by
  rw [shown_snoc] at set
  cases call with
  | unavailable time reason =>
    obtain ⟨events, _, ran⟩ := unavailable_apply time reason (shown py front)
    rw [step, ran] at set
    cases set
  | accept new newTime newNow =>
    rcases accept_cases py new newTime newNow (shown py front) with ⟨view, ran, accepted⟩ | ⟨e, view, ran, _⟩
    · rw [step, ran] at set
      obtain ⟨same, previous, count, baseline, counted, le, rfl⟩ := accepted.grown set
      induction front using List.reverseRecOn with
      | nil => cases baseline
      | append_singleton earlier call =>
        refine ⟨earlier, call, rfl, ?_⟩
        rw [shown_snoc] at baseline same
        cases call with
        | unavailable time reason =>
          obtain ⟨events, _, before⟩ := unavailable_apply time reason (shown py earlier)
          rw [step, before] at baseline
          cases baseline
        | accept old oldTime oldNow =>
          rcases accept_cases py old oldTime oldNow (shown py earlier) with ⟨view, before, known⟩ | ⟨e, view, before, _⟩
          · rw [step, before] at baseline same
            obtain ⟨identity, counts⟩ := known.known same baseline
            exact .inr ⟨old, oldTime, oldNow, new, newTime, newNow, previous, count, rfl, rfl, identity, counts,
              counted, le, rfl⟩
          · exact .inl ⟨e, by rw [step, before]⟩
    · rw [step, ran] at returned
      cases returned

/-- In every sequence of calls with any snapshots: a delta is shown after a call that returns only
    when it is the difference of the counts of two snapshots of one session that were given one
    right after the other, or the call before raised; there are never more than six events, each
    recorded since the identity last changed (the times are of any type, so a time can be made to
    tell which call it was given); and nothing stays of a snapshot once `unavailable` was called. -/
theorem view_current (calls : List (Call τ)) :
    (∀ front call, calls = front ++ [call] → (step py (shown py front) call).1 = .ok () →
        ∀ delta, (shown py calls).rejectedDelta = some delta →
          ∃ earlier previous, front = earlier ++ [previous] ∧
            ((∃ e, (step py (shown py earlier) previous).1 = .error e) ∨ Grown previous call delta)) ∧
      (shown py calls).events.items.length ≤ 6 ∧
      (∀ e ∈ (shown py calls).events.items, e.time ∈ calls.map Call.time) ∧
      (∀ front call rest, calls = front ++ call :: rest → Changes py front call →
        ∀ e ∈ (shown py calls).events.items, e.time ∈ (call :: rest).map Call.time) ∧
      ∀ front time reason, calls = front ++ [.unavailable time reason] →
        (shown py calls).report = none ∧ (shown py calls).rejectedDelta = none ∧
        (shown py calls).watchdogAge = none := by
  refine ⟨?_, (shown py calls).events.bounded, ?_, ?_, ?_⟩
  · rintro front call rfl returned delta set
    exact delta_grown py returned set
  · refine after_induction (P := fun calls (view : MonitorView τ) =>
      ∀ e ∈ view.events.items, e.time ∈ calls.map Call.time) _ _ ?_ ?_ calls
    · intro e member
      cases member
    · intro calls call ih e member
      rw [List.map_append, List.mem_append]
      rcases step_events py _ call e member with old | new
      · exact .inl (ih e old)
      · exact .inr (by simp [new])
  · rintro front call rest rfl changes
    exact events_since py changes
  · rintro front time reason rfl
    obtain ⟨events, _, ran⟩ := unavailable_apply time reason (shown py front)
    rw [shown_snoc, step, ran]
    exact ⟨rfl, rfl, rfl⟩

def counting (session : String) (count : ℤ) : Obj := [("session_id", .str session), ("rejected_packets", .int count)]

/-- A snapshot with a count, and a progress of the watchdog that may be too large for a float. -/
def progressing (session : String) (count progress : ℤ) : Obj :=
  [("session_id", .str session), ("rejected_packets", .int count), ("watchdog", .obj [("progress_at", .int progress)])]

def mixing (progress : ℤ) : List (Call ℕ) :=
  [.accept (counting "one" 5) 0 (.finite 1), .accept (progressing "two" 7 progress) 1 (.finite 1)]

theorem mixing_raises {progress : ℤ} (large : floatOverflow progress = true) :
    shown .cpython (mixing progress) =
      { events := (Deque.empty.append ⟨1, "Session started or changed"⟩ : Deque (MonitorEvent ℕ) 6)
        report := some (counting "one" 5)
        sampledAt := some 0
        seenSample := true
        sessionId := some "one"
        previousCount := some 7 } := by
  have overflow : ageOf .cpython (.int progress) (.finite 1) = .error .overflowError := by
    simp [ageOf, large, Except.map]
  have aged (view : MonitorView ℕ) : ageWatchdog .cpython (progressing "two" 7 progress) (.finite 1) view =
      (.error .overflowError, { view with watchdogAge := none }) := by
    rw [ageWatchdog, Method.change_bind]
    show (Method.ofExcept (ageOf .cpython (.int progress) (.finite 1)) >>= _) _ = _
    rw [overflow]
    rfl
  let one : MonitorView ℕ :=
    { report := some (counting "one" 5), sampledAt := some 0, seenSample := true, sessionId := some "one",
      previousCount := some 5 }
  let other : MonitorView ℕ :=
    { one with events := Deque.empty.append ⟨1, "Session started or changed"⟩, previousCount := none }
  have noted : noteSample .cpython (progressing "two" 7 progress) 1 one = (.ok (), other) := rfl
  have counted : countRejected (progressing "two" 7 progress) 1 other =
    (.ok (), { other with previousCount := some 7 }) := rfl
  have raised : accept .cpython (progressing "two" 7 progress) 1 (.finite 1) one =
      (.error .overflowError, { other with previousCount := some 7 }) := by
    rw [accept, Method.bind_returns noted, Method.bind_returns counted, Method.bind_raises (aged _)]
  have first : (step .cpython {} (.accept (counting "one" 5) 0 (.finite 1))).2 = one := rfl
  rw [shown, mixing, after, List.foldl_cons, List.foldl_cons, List.foldl_nil, first, step, raised]

/-- A snapshot whose watchdog is no dictionary. -/
def mangled (session : String) (count : ℤ) : Obj :=
  [("session_id", .str session), ("rejected_packets", .int count), ("watchdog", .str "gone")]

/-- A snapshot that makes `accept` raise leaves the delta of the two before it in the view; and
    where it raises half way it leaves its count, for the next one to be compared with, though it
    is of another session. -/
theorem view_mixed :
    ((shown .cpython [.accept (counting "one" 5) 0 (.finite 1), .accept (counting "one" 7) 1 (.finite 1),
          .accept (mangled "one" 100) 2 (.finite 1)]).rejectedDelta = some 2 ∧
        ¬@Grown ℕ (.accept (counting "one" 7) 1 (.finite 1)) (.accept (mangled "one" 100) 2 (.finite 1)) 2) ∧
      (step .cpython (shown .cpython (mixing (2 ^ 1024))) (.accept (counting "one" 9) 2 (.finite 1))).1 = .ok () ∧
        (shown .cpython (mixing (2 ^ 1024) ++ [.accept (counting "one" 9) 2 (.finite 1)])).rejectedDelta = some 2 ∧
          ¬@Grown ℕ (.accept (progressing "two" 7 (2 ^ 1024)) 1 (.finite 1)) (.accept (counting "one" 9) 2 (.finite 1)) 2 := by
  have large : floatOverflow (2 ^ 1024) = true := by decide +kernel
  have left := mixing_raises large
  refine ⟨⟨rfl, ?_⟩, ?_, ?_, ?_⟩
  · rintro ⟨_, _, _, _, _, _, _, _, first, second, _, before, now, _, delta⟩
    cases first
    cases second
    cases before
    cases now
    exact absurd delta (by decide)
  · rw [left]
    rfl
  · rw [shown_snoc, left]
    rfl
  · rintro ⟨_, _, _, _, _, _, _, _, first, second, same, _⟩
    cases first
    cases second
    exact absurd same (by decide)

/-! ### The monitor -/

/-- One turn of the loop of `monitor_command`: what `observe_session` returned or raised, and the
    times that were read on the way. -/
structure Turn (τ : Type) where
  observed : Except Exc Obj
  sampledAt : τ
  bootNow : Flt
  failedAt : τ

/-- The reason that an exception is shown with. -/
def reasonOf (e : Exc) : String := s!"{e.typeName}: {e.text}"

/-- The view that a turn leaves to be rendered: an exception of the observation or of `accept` is answered by
    `unavailable`. -/
def takeTurn (view : MonitorView τ) (turn : Turn τ) : MonitorView τ :=
  match turn.observed with
  | .error e => (unavailable turn.failedAt (reasonOf e) view).2
  | .ok report =>
    match accept py report turn.sampledAt turn.bootNow view with
    | (.ok _, view') => view'
    | (.error e, view') => (unavailable turn.failedAt (reasonOf e) view').2

/-- The view after some turns. -/
def rendered (turns : List (Turn τ)) : MonitorView τ := turns.foldl (takeTurn py) {}

theorem rendered_snoc (turns : List (Turn τ)) (turn : Turn τ) :
    rendered py (turns ++ [turn]) = takeTurn py (rendered py turns) turn := by
  rw [rendered, List.foldl_append]
  rfl

/-- After a turn the view is about the snapshot that it accepted, or about none. -/
theorem takeTurn_cases (view : MonitorView τ) (turn : Turn τ) :
    (∃ report, turn.observed = .ok report ∧ Accepted report view (takeTurn py view turn)) ∨
      (takeTurn py view turn).report = none ∧ (takeTurn py view turn).rejectedDelta = none ∧
        (takeTurn py view turn).watchdogAge = none ∧ (takeTurn py view turn).previousCount = none := by
  have answered (before : MonitorView τ) (e : Exc) :
      (unavailable turn.failedAt (reasonOf e) before).2.report = none ∧
        (unavailable turn.failedAt (reasonOf e) before).2.rejectedDelta = none ∧
        (unavailable turn.failedAt (reasonOf e) before).2.watchdogAge = none ∧
          (unavailable turn.failedAt (reasonOf e) before).2.previousCount = none := by
    obtain ⟨events, _, ran⟩ := unavailable_apply turn.failedAt (reasonOf e) before
    rw [ran]
    exact ⟨rfl, rfl, rfl, rfl⟩
  rw [takeTurn]
  cases turn.observed with
  | error e => exact .inr (answered view e)
  | ok report =>
    rcases accept_cases py report turn.sampledAt turn.bootNow view with ⟨view', ran, accepted⟩ | ⟨e, view', ran, _⟩
    · simp only [ran]
      exact .inl ⟨report, rfl, accepted⟩
    · simp only [ran]
      exact .inr (answered view' e)

/-- What the monitor renders is never mixed: a delta is the difference of the counts of the two
    snapshots that the last two turns observed, of one session. -/
theorem rendered_delta {turns : List (Turn τ)} {delta : ℤ} (set : (rendered py turns).rejectedDelta = some delta) :
    ∃ front earlier later old new previous count, turns = front ++ [earlier, later] ∧ earlier.observed = .ok old ∧
      later.observed = .ok new ∧ identityOf new = identityOf old ∧ old.get "rejected_packets" = .int previous ∧
        new.get "rejected_packets" = .int count ∧ previous ≤ count ∧ delta = count - previous := by
  induction turns using List.reverseRecOn with
  | nil => cases set
  | append_singleton turns later =>
    rw [rendered_snoc] at set
    rcases takeTurn_cases py (rendered py turns) later with ⟨new, observed, accepted⟩ | ⟨_, none, _⟩
    · obtain ⟨same, previous, count, baseline, counted, le, rfl⟩ := accepted.grown set
      induction turns using List.reverseRecOn with
      | nil => cases baseline
      | append_singleton front earlier =>
        rw [rendered_snoc] at baseline same
        rcases takeTurn_cases py (rendered py front) earlier with ⟨old, before, known⟩ | ⟨_, _, _, none⟩
        · obtain ⟨identity, counts⟩ := known.known same baseline
          exact ⟨front, earlier, later, old, new, previous,
            count, by simp, before, observed, identity, counts, counted, le, rfl⟩
        · rw [none] at baseline
          cases baseline
    · rw [none] at set
      cases set

end Ttp.Monitor
