import Ttp.Evidence
import Ttp.Receipts
import Ttp.SessionSettings
import Ttp.TwoRuns

/-!
`notifications/service.py` and `protocol.py`: the exchange with the agent of the desktop's user,
and what a notification comes to for the command that sends it.
-/
namespace Ttp.Notifications
open Ttp.Python Ttp.Evidence Ttp.Program Ttp.TwoRuns
open Ttp.Receipts (event?)
open Ttp.SessionSettings (Settings fromSnapshot seconds)

/-! ### The exchange -/

inductive Contact where
  /-- A socket with this timeout, connected to the path. -/
  | connect (path : String) (timeout : ℚ)
  | peer
  | send (payload : Obj)
  | receive
  /-- The write of the `notifications` record. -/
  | retain (session : Json) (payload : Obj)

abbrev Contact.Res : Contact → Type
  | .connect .. => Except Exc Unit
  | .peer => Except Exc ℤ
  | .send _ => Except Exc Unit
  -- the number of bytes, what they decode to, and the clock after it
  | .receive => Except Exc (ℕ × Content × ℚ)
  | .retain .. => Except Exc Unit

abbrev Talk (ε α : Type) := Prog Contact Contact.Res ε α

inductive Raised where
  /-- `NotificationError`. -/
  | notification (message : String)
  | other (e : Exc)

/-- Raises what an operation or a check failed with. -/
def raised {α : Type} (x : Except Exc α) : Talk Raised α := Prog.ofExcept (x.mapError .other)

section
-- `uuid.UUID(text).hex`, where that is a UUID
variable (py : Interpreter) (uuidHex : String → Option String)

def badUuid : Exc := .valueError "badly formed hexadecimal UUID string"

def socketPath (uid session : Json) : Except Exc (ℤ × String) :=
  match uid with
  | .int n =>
    if n ≤ 0 then .error (.valueError "A non-root notification recipient is required")
    else
      match session with
      | .str text =>
        match uuidHex text with
        | some identifier => .ok (n, s!"/run/ttp-notify-{n}/{identifier}.sock")
        | none => .error badUuid
      | .null => .error .typeError
      | _ => .error .attributeError
  | _ => .error (.valueError "A non-root notification recipient is required")

/-- The recipient of a session, its identity and the path of its socket. -/
def address (lock : Obj) : Except Raised (ℤ × Json × String) :=
  match lock.get "notification_target" with
  | .obj target =>
    match Obj.find? target "uid", lock.find? "session_id" with
    | some uid, some session =>
      ((socketPath uuidHex uid session).map fun found => (found.1, session, found.2)).mapError .other
    | _, _ => .error (.other .keyError)
  | _ => .error (.notification "No notification recipient recorded")

def maxMessage : ℕ := 8192

/-- What `receive` makes of a message. -/
def message (length : ℕ) (content : Content) : Except Raised Obj :=
  if length = 0 ∨ maxMessage < length then .error (.other (.valueError "Invalid notification message length"))
  else do
    match ← content.loads.mapError .other with
    | .obj payload => .ok payload
    | _ => .error (.other (.valueError "Invalid notification message"))

def states : List String := ["pending", "accepted", "unconfirmed", "failed"]

/-- The receipt is of this session and has a state; a container cannot be looked up in the set of them. -/
def checkReceipt (session : Json) (payload : Obj) : Except Raised Unit :=
  if (payload.get "session_id").eq session then
    match payload.get "state" with
    | .arr _ => .error (.other .typeError)
    | .obj _ => .error (.other .typeError)
    | state => if states.any state.isStr then .ok () else .error (.notification "Notification receipt is invalid")
  else .error (.notification "Notification receipt is invalid")

/-- `0 <= now - progress <= max_age`, of a number; the difference to an integer that no float can hold raises. -/
def isCurrent (maxAge now : ℚ) : Json → Except Exc Bool
  | .int n => if floatOverflow n then .error .overflowError
      else .ok (0 ≤ py.round (now - py.round n) ∧ py.round (now - py.round n) ≤ maxAge)
  | .float (.finite q) => .ok (0 ≤ py.round (now - q) ∧ py.round (now - q) ≤ maxAge)
  | _ => .ok false

def unidentified : Raised := .notification "Notification agent identity or progress is invalid"

/-- The receipt is of an agent that was started by the service manager and works. -/
def checkAgent (maxAge now : ℚ) (payload : Obj) : Except Raised Unit :=
  match payload.get "instance_id" with
  | .str text =>
    match uuidHex text with
    | some identifier =>
      if identifier = text then do
        if ← (isCurrent py maxAge now (payload.get "progress_at")).mapError .other then .ok () else .error unidentified
      else .error unidentified
    | none => .error (.other badUuid)
  | _ => .error unidentified

def checkAcceptance (payload : Obj) : Except Raised Unit :=
  if (payload.get "state").isStr "accepted" then
    match payload.get "notification_id" with
    | .int id => if 0 < id ∧ id < 2 ^ 32 then .ok ()
        else .error (.notification "Notification acceptance identifier is invalid")
    | _ => .error (.notification "Notification acceptance identifier is invalid")
  else .ok ()

/-- The receipt that a reply is. -/
def judge (session : Json) (maxAge : ℚ) (length : ℕ) (content : Content) (now : ℚ) : Except Raised Obj := do
  let payload ← message length content
  checkReceipt session payload
  checkAgent py uuidHex maxAge now payload
  checkAcceptance payload
  .ok payload

/-- `rpc`, for an event. -/
def rpc (lock : Obj) (maxAge : ℚ) (operation event : String) (timeout : ℚ) (wait : Bool) : Talk Raised Obj := do
  let (uid, session, path) ← Prog.ofExcept (address uuidHex lock)
  raised (← Prog.op (.connect path timeout))
  let peer ← raised (← Prog.op .peer)
  if peer = uid then do
    raised (← Prog.op (.send [("session_id", session), ("operation", .str operation), ("event", .str event)]))
    if wait then
      let (length, content, now) ← raised (← Prog.op .receive)
      Prog.ofExcept (judge py uuidHex session maxAge length content now)
    else pure [("state", .str "pending"), ("reason", .str "notifications.enqueued"), ("event", .str event)]
  else .raise (.notification "Notification agent peer identity mismatch")

/-! ### The notification -/

/-- The receipt of a notification: that of the agent, or one for the lack of it. -/
def receiptOf (event : String) : Except Raised Obj → Except Exc Obj
  | .ok receipt => .ok receipt
  | .error (.notification _) =>
    .ok [("state", .str "failed"), ("reason", .str "notifications.agent_unavailable"), ("event", .str event)]
  | .error (.other e) =>
    if e = .osError "TimeoutError" then
      .ok [("state", .str "unconfirmed"), ("reason", .str "notifications.agent_timeout"), ("event", .str event)]
    else if e.isOSError || e.isValueError then
      .ok [("state", .str "failed"), ("reason", .str "notifications.agent_unavailable"), ("event", .str event)]
    else .error e

/-- A receipt that was waited for is not pending. -/
def settle (wait : Bool) (receipt : Obj) : Obj :=
  if wait && (receipt.get "state").isStr "pending" then
    receipt.update [("state", .str "unconfirmed"), ("reason", .str "notifications.acceptance_pending")]
  else receipt

/-- The diagnostic of a receipt that confirms nothing, with its reason as a text. -/
def diagnosed (receipt : Obj) : Except Exc (List Diagnostic) :=
  if (receipt.get "state").isStr "accepted" || (receipt.get "state").isStr "pending" then .ok []
  else
    match receipt.find? "reason" with
    | some reason =>
      .ok [⟨.notificationFailed, reason.text py, "notifications", "deliver",
        "Desktop delivery was not confirmed; inspect CLI and journal", true⟩]
    | none => .error .keyError

def unretained : Diagnostic :=
  ⟨.notificationFailed, "notifications.evidence_write_failed", "notifications", "deliver",
    "Could not retain notification delivery evidence", true⟩

/-- What is left to do with the answer to a notification. -/
def conclude (lock : Obj) (event : String) (wait : Bool) (answer : Except Raised Obj) : Talk Exc (List Diagnostic) := do
  let receipt ← Prog.ofExcept ((receiptOf event answer).map (settle wait))
  let diagnostics ← Prog.ofExcept (diagnosed py receipt)
  match lock.find? "session_id" with
  | none => pure (diagnostics ++ [unretained])
  | some session =>
    let payload := receipt.update [("result", .obj (Result.add {} diagnostics).asDict)]
    match ← (Prog.op (Contact.retain session payload) : Talk Exc (Except Exc Unit)) with
    | .ok _ => pure diagnostics
    | .error e => if e.isException then pure (diagnostics ++ [unretained]) else .raise e

/-- `emit`, once the settings of the session were read. -/
def emitEnabled (lock : Obj) (settings : Settings) (event : String) (wait : Bool) : Talk Exc (List Diagnostic) := do
  let answer ← attempt (rpc py uuidHex lock (seconds settings.watchdog.observationMaxAge) "notify" event
    (if wait then seconds settings.notifications.deliveryTimeout else 1 / 5) wait)
  conclude py lock event wait answer

/-- The settings that `emit` reads off the lock. -/
def lockSettings (lock : Obj) : Except Exc Settings :=
  match lock.find? "settings" with
  | some raw => fromSnapshot py raw
  | none => .error .keyError

/-- `emit`. -/
def emit (lock : Obj) (event : String) (wait : Bool) : Talk Exc (List Diagnostic) := do
  let settings ← Prog.ofExcept (lockSettings py lock)
  if settings.notifications.enabled.truthy then
    match event? event with
    | some _ => emitEnabled py uuidHex lock settings event wait
    | none => .raise (.valueError "Unknown notification event")
  else pure []

/-! ### What the agent can do to it -/

/-- What the steps of the exchange can come to: sockets raise `OSError`, a message can be too long, and the record
    raises any exception. -/
def Possible : (o : Contact) → o.Res → Prop
  | .connect .., r => ∀ e, r = .error e → e.isOSError = true
  | .peer, r => ∀ e, r = .error e → e.isOSError = true
  | .send _, r => ∀ e, r = .error e → e.isOSError = true ∨ e.isValueError = true
  | .receive, r => ∀ e, r = .error e → e.isOSError = true
  | .retain .., r => ∀ e, r = .error e → e.isException = true

/-- A payload of the session with an instance that is a UUID as the service manager writes it. -/
structure Ours (session : Json) (payload : Obj) : Prop where
  session : (payload.get "session_id").eq session = true
  instance_ : ∃ text, payload.get "instance_id" = .str text ∧ uuidHex text = some text

/-- Replies that `rpc` and `emit` raise at with an exception that `emit` does not catch. -/
inductive Trips (session : Json) (maxAge now : ℚ) : Content → Prop where
  | deep : Trips session maxAge now .tooDeep
  /-- The state is a container. -/
  | unhashable {payload : Obj} (ours : (payload.get "session_id").eq session = true)
      (container : (∃ items, payload.get "state" = .arr items) ∨ ∃ fields, payload.get "state" = .obj fields) :
      Trips session maxAge now (.json (.obj payload))
  /-- The progress is an integer that no float can hold. -/
  | huge {payload : Obj} {n : ℤ} (ours : Ours uuidHex session payload)
      (known : states.any (payload.get "state").isStr = true)
      (progress : payload.get "progress_at" = .int n) (large : floatOverflow n = true) :
      Trips session maxAge now (.json (.obj payload))
  /-- A current receipt that confirms nothing gives no reason. -/
  | unexplained {payload : Obj} (ours : Ours uuidHex session payload)
      (unconfirmed : (payload.get "state").isStr "failed" = true ∨ (payload.get "state").isStr "unconfirmed" = true)
      (current : isCurrent py maxAge now (payload.get "progress_at") = .ok true)
      (reason : payload.find? "reason" = none) :
      Trips session maxAge now (.json (.obj payload))

/-- The diagnostics of an answer can be told. -/
def Answered (event : String) (wait : Bool) (answer : Except Raised Obj) : Prop :=
  ∃ receipt diagnostics, (receiptOf event answer).map (settle wait) = .ok receipt ∧
    diagnosed py receipt = .ok diagnostics

/-- No reply that is received is one that `rpc` and `emit` raise at. -/
def Harmless (lock : Obj) : (o : Contact) → o.Res → Prop
  | .receive, r => ∀ length content now session settings, r = .ok (length, content, now) → length ≠ 0 →
      length ≤ maxMessage →
      lock.find? "session_id" = some session → lockSettings py lock = .ok settings →
        ¬Trips py uuidHex session (seconds settings.watchdog.observationMaxAge) now content
  | _, _ => True

/-- What `emit` catches of the exchange. -/
def Caught : Raised → Prop
  | .notification _ => True
  | .other e => e.isOSError = true ∨ e.isValueError = true

/-- A step of the exchange comes to something possible and, where the reply is waited for, to none that trips the
    caller. -/
def Gentle (lock : Obj) (wait : Bool) (o : Contact) (r : o.Res) : Prop :=
  Possible o r ∧ (wait = true → Harmless py uuidHex lock o r)

/-- The end of a notification that only leaves diagnostics of its own. -/
def Noticed (x : Except Exc (List Diagnostic)) : Prop :=
  ∃ diagnostics, x = .ok diagnostics ∧ ∀ d ∈ diagnostics, d.code = .notificationFailed

end

section
variable {py : Interpreter} {uuidHex : String → Option String} {event : String} {wait : Bool} {session : Json}
  {maxAge now : ℚ}
variable {payload : Obj} {length : ℕ} {content : Content}

theorem answered_caught {failure : Raised} (caught : Caught failure) : Answered py event wait (.error failure) := by
  have failed : Answered py event wait (.error (.notification "")) := by
    cases wait <;> exact ⟨_, _, rfl, rfl⟩
  cases failure with
  | notification text => exact failed
  | other e =>
    by_cases late : e = .osError "TimeoutError"
    · subst late
      cases wait <;> exact ⟨_, _, rfl, rfl⟩
    · have same : receiptOf event (.error (.other e)) = receiptOf event (.error (.notification "")) := by
        simp only [receiptOf, if_neg late]
        exact if_pos (by simpa [Caught] using caught)
      rw [Answered, same]
      exact failed

theorem isCurrent_error {progress : Json} {e : Exc} (failed : isCurrent py maxAge now progress = .error e) :
    ∃ n, progress = .int n ∧ floatOverflow n = true := by
  cases progress with
  | int n =>
    rw [isCurrent] at failed
    split at failed
    case isTrue large => exact ⟨n, rfl, large⟩
    case isFalse => cases failed
  | float x => cases x <;> cases failed
  | _ => cases failed

theorem known_cases (known : states.any (payload.get "state").isStr = true) :
    payload.get "state" = .str "pending" ∨ payload.get "state" = .str "accepted" ∨
      payload.get "state" = .str "unconfirmed" ∨
      payload.get "state" = .str "failed" := by
  cases state : payload.get "state" with
  | str text =>
    simp only [state, states, List.any_cons, List.any_nil, Bool.or_false, Bool.or_eq_true, Json.isStr, beq_iff_eq]
      at known
    simpa using known
  | _ => simp [state, states, Json.isStr] at known

theorem checkReceipt_known (ours : (payload.get "session_id").eq session = true)
    (known : states.any (payload.get "state").isStr = true) :
    checkReceipt session payload = .ok () := by
  rw [checkReceipt, if_pos ours]
  rcases known_cases known with state | state | state | state <;> rw [state] <;> rfl

theorem checkAgent_identified (identified : ∃ text, payload.get "instance_id" = .str text ∧ uuidHex text = some text) :
    checkAgent py uuidHex maxAge now payload = (do
      if ← (isCurrent py maxAge now (payload.get "progress_at")).mapError .other then .ok ()
      else .error unidentified) := by
  obtain ⟨text, instance_, hex⟩ := identified
  rw [checkAgent, instance_]
  simp only [hex, if_true]

theorem diagnosed_reason {reason : Json} (found : payload.find? "reason" = some reason) :
    ∃ diagnostics, diagnosed py payload = .ok diagnostics := by
  rw [diagnosed, found]
  split
  · exact ⟨_, rfl⟩
  · exact ⟨_, rfl⟩

/-- A payload with a known state and, where that confirms nothing, a reason. -/
theorem receipt_answered (known : states.any (payload.get "state").isStr = true)
    (explained : payload.get "state" = .str "unconfirmed" ∨ payload.get "state" = .str "failed" →
      payload.find? "reason" ≠ none) :
    Answered py event wait (.ok payload) := by
  have good (receipt : Obj) (settled : settle wait payload = receipt)
    (told : ∃ diagnostics, diagnosed py receipt = .ok diagnostics) :
      Answered py event wait (.ok payload) := by
    obtain ⟨diagnostics, told⟩ := told
    exact ⟨receipt, diagnostics, congrArg Except.ok settled, told⟩
  have explained (unconfirmed : payload.get "state" = .str "unconfirmed" ∨ payload.get "state" = .str "failed") :
      ∃ diagnostics, diagnosed py payload = .ok diagnostics := by
    obtain ⟨reason, found⟩ := Option.ne_none_iff_exists'.mp (explained unconfirmed)
    exact diagnosed_reason found
  rcases known_cases known with state | state | state | state
  · cases wait with
    | true =>
      refine good (payload.update
        [("state", .str "unconfirmed"), ("reason", .str "notifications.acceptance_pending")]) ?_ ?_
      · simp [settle, state, Json.isStr]
      · have reason : (payload.update
          [("state", .str "unconfirmed"), ("reason", .str "notifications.acceptance_pending")]).find? "reason" =
            some (.str "notifications.acceptance_pending") := by simp [Obj.update]
        exact diagnosed_reason reason
    | false => exact good payload rfl ⟨[], by simp [diagnosed, state, Json.isStr]⟩
  · exact good payload (by simp [settle, state, Json.isStr]) ⟨[], by simp [diagnosed, state, Json.isStr]⟩
  · exact good payload (by simp [settle, state, Json.isStr]) (explained (.inl state))
  · exact good payload (by simp [settle, state, Json.isStr]) (explained (.inr state))

theorem checkAcceptance_cases (payload : Obj) :
    checkAcceptance payload = .ok () ∨ ∃ text, checkAcceptance payload = .error (.notification text) := by
  rw [checkAcceptance]
  split
  · split
    · split
      · exact .inl rfl
      · exact .inr ⟨_, rfl⟩
    · exact .inr ⟨_, rfl⟩
  · exact .inl rfl

/-- What the check of the agent comes to. -/
theorem checkAgent_cases (py : Interpreter) (uuidHex : String → Option String) (maxAge now : ℚ) (payload : Obj) :
    (∃ failure, Caught failure ∧ checkAgent py uuidHex maxAge now payload = .error failure) ∨
      (∃ text, payload.get "instance_id" = .str text ∧ uuidHex text = some text) ∧
      ((∃ n e, payload.get "progress_at" = .int n ∧ floatOverflow n = true ∧
        checkAgent py uuidHex maxAge now payload = .error (.other e)) ∨
        isCurrent py maxAge now (payload.get "progress_at") = .ok true ∧
        checkAgent py uuidHex maxAge now payload = .ok ()) := by
  by_cases identified : ∃ text, payload.get "instance_id" = .str text ∧ uuidHex text = some text
  · have rest : checkAgent py uuidHex maxAge now payload = _ := checkAgent_identified identified
    cases current : isCurrent py maxAge now (payload.get "progress_at") with
    | error e =>
      obtain ⟨n, progress, large⟩ := isCurrent_error current
      exact .inr ⟨identified, .inl ⟨n, e, progress, large, by rw [rest, current]; rfl⟩⟩
    | ok fresh =>
      cases fresh with
      | true => exact .inr ⟨identified, .inr ⟨rfl, by rw [rest, current]; rfl⟩⟩
      | false => exact .inl ⟨unidentified, trivial, by rw [rest, current]; rfl⟩
  · left
    rw [checkAgent]
    split
    case h_1 text instance_ =>
      split
      case h_1 identifier hex =>
        have different : identifier ≠ text := by
          rintro rfl
          exact identified ⟨_, instance_, hex⟩
        exact ⟨unidentified, trivial, if_neg different⟩
      case h_2 => exact ⟨.other badUuid, .inr rfl, rfl⟩
    case h_2 => exact ⟨unidentified, trivial, rfl⟩

/-- The checks of a payload that does not trip the caller end with a receipt, or with what is caught. -/
theorem payload_answered (harmless : ¬Trips py uuidHex session maxAge now (.json (.obj payload))) :
    Answered py event wait (do
    checkReceipt session payload
    checkAgent py uuidHex maxAge now payload
    checkAcceptance payload
    Except.ok payload) := by
  have caught {failure : Raised} (caught : Caught failure) : Answered py event wait (.error failure) :=
    answered_caught caught
  by_cases ours : (payload.get "session_id").eq session = true
  · by_cases known : states.any (payload.get "state").isStr = true
    · rw [checkReceipt_known ours known]
      rcases checkAgent_cases py uuidHex maxAge now payload with
        ⟨failure, isCaught, failed⟩ | ⟨hex, ⟨n, e, progress, large, _⟩ | ⟨current, passed⟩⟩
      · show Answered py event wait (checkAgent py uuidHex maxAge now payload >>= _)
        rw [failed]
        exact caught isCaught
      · exact absurd (.huge ⟨ours, hex⟩ known progress large) harmless
      · show Answered py event wait (checkAgent py uuidHex maxAge now payload >>= _)
        rw [passed]
        show Answered py event wait (checkAcceptance payload >>= _)
        rcases checkAcceptance_cases payload with accepted | ⟨text, refused⟩
        · rw [accepted]
          refine receipt_answered known fun unconfirmed none => harmless (.unexplained ⟨ours, hex⟩ ?_ current none)
          rcases unconfirmed with state | state
          · exact .inr (by simp [state, Json.isStr])
          · exact .inl (by simp [state, Json.isStr])
        · rw [refused]
          exact caught trivial
    · rw [checkReceipt, if_pos ours]
      cases state : payload.get "state" with
      | arr items => exact absurd (.unhashable ours (.inl ⟨items, state⟩)) harmless
      | obj fields => exact absurd (.unhashable ours (.inr ⟨fields, state⟩)) harmless
      | _ =>
        rw [state] at known
        simp only [if_neg known]
        exact caught trivial
  · rw [checkReceipt, if_neg ours]
    exact caught trivial

/-- A reply that does not trip the caller is answered. -/
theorem judge_answered (harmless : length ≠ 0 → length ≤ maxMessage → ¬Trips py uuidHex session maxAge now content) :
    Answered py event wait (judge py uuidHex session maxAge length content now) := by
  have caught {failure : Raised} (caught : Caught failure) : Answered py event wait (.error failure) :=
    answered_caught caught
  rw [judge, message]
  by_cases size : length = 0 ∨ maxMessage < length
  · rw [if_pos size]
    exact caught (.inr rfl)
  · rw [if_neg size]
    rw [not_or, not_lt] at size
    have harmless := harmless size.1 size.2
    cases content with
    | json value =>
      cases value with
      | obj payload =>
        exact payload_answered harmless
      | _ => exact caught (.inr rfl)
    | tooDeep => exact absurd .deep harmless
    | _ => exact caught (.inr rfl)

theorem receiptOf_uncaught {failure : Raised} (uncaught : ¬Caught failure) :
    ∃ e, receiptOf event (.error failure) = .error e := by
  cases failure with
  | notification text => exact absurd trivial uncaught
  | other e =>
    have late : e ≠ .osError "TimeoutError" := by
      rintro rfl
      exact uncaught (.inl rfl)
    refine ⟨e, ?_⟩
    simp only [receiptOf, if_neg late]
    exact if_neg (by simpa [Caught] using uncaught)

theorem unanswered {failure : Raised} (uncaught : ¬Caught failure) : ¬Answered py event wait (.error failure) := by
  rintro ⟨receipt, diagnostics, settled, _⟩
  obtain ⟨e, other⟩ : ∃ e, receiptOf event (.error failure) = .error e := receiptOf_uncaught uncaught
  rw [other] at settled
  cases settled

/-- A reply that trips the caller is not answered. -/
theorem judge_trips (trips : Trips py uuidHex session maxAge now content) (filled : length ≠ 0)
    (fits : length ≤ maxMessage) :
    ¬Answered py event true (judge py uuidHex session maxAge length content now) := by
  have size : ¬(length = 0 ∨ maxMessage < length) := by omega
  rw [judge, message, if_neg size]
  cases trips with
  | deep =>
    apply unanswered
    simp [Caught, Exc.isOSError, Exc.isValueError]
  | unhashable ours container =>
    rename_i payload
    have refused : checkReceipt session payload = .error (.other .typeError) := by
      rw [checkReceipt, if_pos ours]
      rcases container with ⟨items, state⟩ | ⟨fields, state⟩ <;> rw [state]
    show ¬Answered py event true (checkReceipt session payload >>= _)
    rw [refused]
    apply unanswered
    simp [Caught, Exc.isOSError, Exc.isValueError]
  | huge ours known progress large =>
    rename_i payload n
    have refused : checkAgent py uuidHex maxAge now payload = .error (.other .overflowError) := by
      rw [checkAgent_identified ours.instance_, progress, isCurrent, if_pos large]
      rfl
    show ¬Answered py event true (checkReceipt session payload >>= _)
    rw [checkReceipt_known ours.session known]
    show ¬Answered py event true (checkAgent py uuidHex maxAge now payload >>= _)
    rw [refused]
    apply unanswered
    simp [Caught, Exc.isOSError, Exc.isValueError]
  | unexplained ours unconfirmed current reason =>
    rename_i payload
    have state : payload.get "state" = .str "failed" ∨ payload.get "state" = .str "unconfirmed" := by
      cases named : payload.get "state" with
      | str text => simpa [named, Json.isStr] using unconfirmed
      | _ => simp [named, Json.isStr] at unconfirmed
    have known : states.any (payload.get "state").isStr = true := by
      rcases state with state | state <;> rw [state] <;> decide
    have accepted : checkAcceptance payload = .ok () := by
      rcases state with state | state <;> simp [checkAcceptance, state, Json.isStr]
    have kept : settle true payload = payload := by
      rcases state with state | state <;> simp [settle, state, Json.isStr]
    have untold : diagnosed py payload = .error .keyError := by
      rcases state with state | state <;> simp [diagnosed, state, Json.isStr, reason]
    show ¬Answered py event true (checkReceipt session payload >>= _)
    rw [checkReceipt_known ours.session known]
    show ¬Answered py event true (checkAgent py uuidHex maxAge now payload >>= _)
    rw [checkAgent_identified ours.instance_, current]
    show ¬Answered py event true (checkAcceptance payload >>= _)
    rw [accepted]
    rintro ⟨receipt, diagnostics, settled, told⟩
    obtain rfl : settle true payload = receipt := Except.ok.inj settled
    rw [kept, untold] at told
    cases told

/-- The replies that are answered are those that do not trip the caller. -/
theorem judge_answered_iff : Answered py event true (judge py uuidHex session maxAge length content now) ↔
    (length ≠ 0 → length ≤ maxMessage → ¬Trips py uuidHex session maxAge now content) := by
  constructor
  · intro answered filled fits trips
    exact judge_trips trips filled fits answered
  · exact judge_answered

/-! ### The notification comes to diagnostics of its own -/

variable {lock : Obj}

theorem diagnosed_noticed {diagnostics : List Diagnostic} (told : diagnosed py payload = .ok diagnostics) :
    ∀ d ∈ diagnostics, d.code = .notificationFailed := by
  intro d member
  rw [diagnosed] at told
  split at told
  · cases told
    simp at member
  · split at told
    · cases told
      rw [List.mem_singleton.mp member]
    · cases told

theorem conclude_gives {possible : (o : Contact) → o.Res → Prop} (able : ∀ o r, possible o r → Possible o r)
    {answer : Except Raised Obj}
    (answered : Answered py event wait answer) : Gives possible Noticed (conclude py lock event wait answer) := by
  obtain ⟨receipt, diagnostics, settled, told⟩ := answered
  have own : ∀ d ∈ diagnostics, d.code = .notificationFailed := diagnosed_noticed told
  have ownMore : ∀ d ∈ diagnostics ++ [unretained], d.code = .notificationFailed := by
    intro d member
    rcases List.mem_append.mp member with member | member
    · exact own d member
    · rw [List.mem_singleton.mp member, unretained]
  rw [conclude, settled]
  apply gives_ofExcept
  · intro e failed
    cases failed
  intro receipt same
  cases same
  rw [told]
  apply gives_ofExcept
  · intro e failed
    cases failed
  intro diagnostics same
  cases same
  split
  · exact ⟨_, rfl, ownMore⟩
  · apply gives_op
    intro r retained
    cases r with
    | ok done => exact ⟨_, rfl, own⟩
    | error e =>
      have isException : e.isException = true := able _ _ retained e rfl
      simp only [isException, if_true]
      exact ⟨_, rfl, ownMore⟩

theorem raised_gives {α β : Type} {possible : (o : Contact) → o.Res → Prop} {B : Except Raised β → Prop}
    {x : Except Exc α}
    {f : α → Talk Raised β} (failed : ∀ e, x = .error e → B (.error (.other e)))
    (rest : ∀ a, x = .ok a → Gives possible B (f a)) :
    Gives possible B (raised x >>= f) := by
  cases x with
  | ok a => exact rest a rfl
  | error e => exact failed e rfl

theorem address_session {found : ℤ × Json × String} (named : address uuidHex lock = .ok found) :
    lock.find? "session_id" = some found.2.1 := by
  rw [address] at named
  split at named
  case h_1 target _ =>
    split at named
    case h_1 uid session _ present =>
      rw [present]
      cases path : socketPath uuidHex uid session with
      | ok place =>
        rw [path] at named
        cases named
        rfl
      | error e =>
        rw [path] at named
        cases named
    case h_2 => cases named
  case h_2 => cases named

/-- The exchange with a recipient that the lock names is answered, if no reply trips the caller. -/
theorem rpc_answered {found : ℤ × Json × String} {settings : Settings} {timeout : ℚ}
    (named : address uuidHex lock = .ok found)
    (loaded : lockSettings py lock = .ok settings) : Gives (Gentle py uuidHex lock wait) (Answered py event wait)
      (rpc py uuidHex lock (seconds settings.watchdog.observationMaxAge) "notify" event timeout wait) := by
  have caught {failure : Raised} (caught : Caught failure) : Answered py event wait (.error failure) :=
    answered_caught caught
  have session := address_session named
  rw [rpc, named]
  apply gives_ofExcept
  · intro e failed
    cases failed
  intro recipient same
  cases same
  -- the connection and the identity of its peer
  apply gives_op
  intro connected able
  apply raised_gives
  · intro e failed
    exact caught (.inl (able.1 e failed))
  intro _ _
  apply gives_op
  intro peer able
  apply raised_gives
  · intro e failed
    exact caught (.inl (able.1 e failed))
  intro uid _
  split
  case isFalse => exact caught trivial
  -- the request, and the reply where it is waited for
  apply gives_op
  intro sent able
  apply raised_gives
  · intro e failed
    exact caught (able.1 e failed)
  intro _ _
  cases wait with
  | false => exact ⟨_, _, rfl, rfl⟩
  | true =>
    apply gives_op
    intro received able
    apply raised_gives
    · intro e failed
      exact caught (.inl (able.1 e failed))
    rintro ⟨length, content, now⟩ arrived
    apply gives_end
    apply judge_answered
    intro filled fits
    exact able.2 rfl length content now found.2.1 settings arrived filled fits session loaded

theorem conclude_uncaught {failure : Raised} (uncaught : ¬Caught failure) :
    ∃ e, conclude py lock event wait (.error failure) = .raise e := by
  obtain ⟨e, other⟩ := receiptOf_uncaught uncaught
  exact ⟨e, by rw [conclude, other]; rfl⟩

/-- A notification that no reply trips raises what the lock makes it raise, or comes to diagnostics of its own. -/
theorem emit_gives (py : Interpreter) (uuidHex : String → Option String) (lock : Obj) (event : String) (wait : Bool) :
    (∃ e, emit py uuidHex lock event wait = .raise e) ∨
      Gives (Gentle py uuidHex lock wait) Noticed (emit py uuidHex lock event wait) := by
  have concluded {answer : Except Raised Obj} (answered : Answered py event wait answer) :
      Gives (Gentle py uuidHex lock wait) Noticed (conclude py lock event wait answer) :=
    conclude_gives (fun _ _ able => able.1) answered
  cases loaded : lockSettings py lock with
  | error e => exact .inl ⟨e, by rw [emit, loaded]; rfl⟩
  | ok settings =>
    have enabled : emit py uuidHex lock event wait = if settings.notifications.enabled.truthy then
        match event? event with
        | some _ => emitEnabled py uuidHex lock settings event wait
        | none => .raise (.valueError "Unknown notification event")
      else pure [] := by
      rw [emit, loaded]
      rfl
    rw [enabled]
    split
    case isFalse => exact .inr ⟨[], rfl, by simp⟩
    split
    case h_2 => exact .inl ⟨_, rfl⟩
    cases named : address uuidHex lock with
    | ok found =>
      right
      rw [emitEnabled]
      refine gives_bind (gives_attempt (rpc_answered named loaded)) fun answer answered => ?_
      obtain ⟨answer, rfl, answered⟩ := answered
      exact concluded answered
    | error failure =>
      have unsent : emitEnabled py uuidHex lock settings event wait = conclude py lock event wait (.error failure) := by
        rw [emitEnabled, rpc, named]
        rfl
      rw [unsent]
      by_cases caught : Caught failure
      · exact .inr (concluded (answered_caught caught))
      · exact .inl (conclude_uncaught caught)

end

end Ttp.Notifications
