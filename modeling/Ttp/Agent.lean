import Ttp.NonInterference

/-!
The desktop agent (`notifications/agent.py`) beside the commands that notify it and anyone else who connects to its
socket: what it calls the notification server for, what its replies say, and what a command makes of them.
-/
namespace Ttp.Agent
open Ttp.Python Ttp.Evidence Ttp.Program Ttp.TwoRuns
open Ttp.Receipts (Delivery Receipt NotificationSettings Entry Process Scene Accepts event? commandLine
  notifyArgs notifyLine)
open Ttp.Notifications (Contact Raised message judge rpc emit socketPath maxMessage badUuid)
open Ttp.NonInterference (hexOf notifyingLock)

/-! ### The agent -/

inductive Op where
  | geteuid
  /-- `lstat`, with whether that is a socket, and its owner. -/
  | lstat (path : String)
  /-- What a delivery does: the clock is read, or `busctl` runs. -/
  | delivery (o : Receipts.Op)
  | unlink (path : String)
  /-- `bind`, `chmod` and `listen`. -/
  | listen (path : String)
  /-- `notify_progress`. -/
  | progress (ready : Bool)
  | accept (timeout : ℚ)
  | peer
  | receive
  | send (payload : Obj)

abbrev Op.Res : Op → Type
  | .geteuid => ℤ
  | .lstat _ => Except Exc (Bool × ℤ)
  | .delivery o => o.Res
  | .unlink _ => Except Exc Unit
  | .listen _ => Except Exc Unit
  | .progress _ => Except Exc Unit
  | .accept _ => Except Exc Unit
  | .peer => Except Exc ℤ
  -- the number of bytes, and what they decode to
  | .receive => Except Exc (ℕ × Content)
  | .send _ => Except Exc Unit

abbrev Py (α : Type) := Prog Op Op.Res Exc α

def step (o : Op) : Py o.Res := Prog.op o

/-- A part of a delivery as one of the agent's. -/
def within {α : Type} : Receipts.Py α → Py α := expand fun o => step (.delivery o)

/-- Raises what an operation failed with. -/
def checked {α : Type} (p : Py (Except Exc α)) : Py α := do
  Prog.ofExcept (← p)

def stateName : Receipts.State → String
  | .accepted => "accepted"
  | .unconfirmed => "unconfirmed"
  | .failed => "failed"

/-- The dictionary that a receipt is. -/
def asDict (receipt : Receipt) : Obj :=
  [("state", .str (stateName receipt.state)), ("reason", .str receipt.reason), ("event", .str receipt.event)] ++
    (receipt.notificationId.toList.map fun id => ("notification_id", Json.int id)) ++
    (receipt.attempts.toList.map fun n : ℕ => ("attempts", Json.int n)) ++
    [("observed_at", .float (.finite receipt.observedAt))] ++
    if receipt.deduplicated then [("deduplicated", .bool true)] else []

/-- What the status is before the first delivery. -/
def noEvent : Obj := [("state", .str "pending"), ("reason", .str "notifications.no_event")]

/-- What the agent is started with, and its `INVOCATION_ID`. -/
structure Options where
  uid : ℤ
  session : String
  watchdogUid : ℤ
  settings : NotificationSettings
  heartbeat : ℚ
  invocation : Option String

/-- What `receive` returns or raises. -/
def received (length : ℕ) (content : Content) : Except Exc Obj :=
  match message length content with
  | .ok payload => .ok payload
  | .error (.other e) => .error e
  | .error (.notification text) => .error (.valueError text)

/-- What a request asks for. -/
inductive Request where
  | notify (event : String)
  | status
  | other

def request (session : String) (payload : Obj) : Request :=
  if (payload.get "session_id").isStr session then
    match payload.get "operation", payload.get "event" with
    | .str operation, .str event =>
      if operation = "notify" ∧ (event? event).isSome then .notify event
      else if operation = "status" then .status else .other
    | .str operation, _ => if operation = "status" then .status else .other
    | _, _ => .other
  else .other

section
-- how a number is written with `:g`, and `uuid.UUID(text).hex` where that is a UUID
variable (general : ℚ → String) (uuidHex : String → Option String) (v : Options)

/-- The reply with this receipt. -/
def reply (now : ℚ) (receipt : Obj) : Obj :=
  Obj.update [("session_id", .str v.session), ("instance_id", (v.invocation.map Json.str).getD .null),
    ("progress_at", .float (.finite now))] receipt

/-- Sends a receipt to the peer. -/
def respond (receipt : Obj) : Py Unit := do
  let now ← within Receipts.boottime
  checked (step (.send (reply v now receipt)))

/-- What a request comes to: the object as it leaves it, and whether there was a reply or what the sending of it
    raised. -/
def carryOut (d : Delivery) : Request → Py (Delivery × Except Exc Bool)
  | .notify event => do
    let (receipt, d') ← within (Receipts.deliver general d event)
    let sent ← attempt (respond v (asDict receipt))
    pure (d', sent.map fun _ => true)
  | .status => do
    let sent ← attempt (respond v ((d.lastReceipt.map asDict).getD noEvent))
    pure (d, sent.map fun _ => true)
  | .other => pure (d, .ok false)

/-- Whom the agent answers. -/
abbrev Trusted (uid : ℤ) : Prop := uid = 0 ∨ uid = v.watchdogUid

/-- The body of the `try`; where it raises itself, the object stays as it is. -/
def answer (d : Delivery) : Py (Delivery × Except Exc Bool) := do
  let uid ← checked (step .peer)
  if Trusted v uid then
    let (length, content) ← checked (step .receive)
    let payload ← Prog.ofExcept (received length content)
    carryOut general v d (request v.session payload)
  else pure (d, .ok false)

/-- The handlers around it, and the progress; a `continue` leaves that out. -/
def finish (d : Delivery) : Except Exc Bool → Py Delivery
  | .ok false => pure d
  | .ok true => do
    checked (step (.progress false))
    pure d
  | .error e =>
    if e.isOSError || e.isValueError then do
      checked (step (.progress false))
      pure d
    else .raise e

/-- A connection, from its beginning on. -/
def connection (d : Delivery) : Py Delivery := do
  match ← attempt (answer general v d) with
  | .ok (d', done) => finish d' done
  | .error e => finish d (.error e)

/-- The first turns of the loop. -/
def serve (d : Delivery) : ℕ → Py Unit
  | 0 => pure ()
  | n + 1 => do
    match ← step (.accept v.heartbeat) with
    | .ok _ => serve (← connection general v d) n
    | .error e =>
      if e = .osError "TimeoutError" then do
        checked (step (.progress false))
        serve d n
      else .raise e

/-- `check_server`. -/
def checkServer (bus : String) (timeout : ℚ) : Py Unit := do
  let process ← within (Receipts.busctl (commandLine general bus "GetServerInformation" [] timeout) timeout)
  let payload ← Prog.ofExcept (Receipts.reply process)
  match payload.get "type", payload.get "data" with
  | .str "ssss", .arr [.str _, .str _, .str _, .str _] => pure ()
  | _, _ => .raise (.valueError "Invalid GetServerInformation response")

def busPath : String := s!"/run/user/{v.uid}/bus"

def delivery : Delivery := { bus := s!"unix:path={busPath v}", settings := v.settings }

/-- `run_agent`, for as many turns. -/
def runAgent (n : ℕ) : Py Unit := do
  let euid ← step .geteuid
  if euid ≠ v.uid ∨ v.uid ≤ 0 then .raise (.osError "PermissionError")
  else
    match uuidHex v.session with
    | none => .raise badUuid
    | some _ =>
      let (isSocket, owner) ← checked (step (.lstat (busPath v)))
      if !isSocket ∨ owner ≠ v.uid then .raise (.osError "PermissionError")
      else
        checkServer general (delivery v).bus v.settings.callTimeout
        let (_, path) ← Prog.ofExcept (socketPath uuidHex (.int v.uid) (.str v.session))
        checked (step (.unlink path))
        checked (step (.listen path))
        checked (step (.progress true))
        serve general v (delivery v) n

end

/-! ### The commands, and everyone else -/

inductive ClientOp where
  | contact (o : Contact)
  /-- Sends any message. -/
  | post (length : ℕ) (content : Content)
  /-- What a command goes on with after a notification. -/
  | outcome (x : Except Exc (List Diagnostic))

abbrev ClientOp.Res : ClientOp → Type
  | .contact o => o.Res
  | .post .. => Except Exc Unit
  | .outcome _ => Unit

inductive Call where
  | agent (euid : ℤ) (n : ℕ)
  /-- A command or the watchdog that notifies of an event. -/
  | command (uid : ℤ) (lock : Obj) (event : String) (wait : Bool)
  /-- Anyone, with any program. -/
  | anyone (uid : ℤ) (p : Prog ClientOp ClientOp.Res Exc Unit)

def Call.uid : Call → ℤ
  | .agent euid _ => euid
  | .command uid .. => uid
  | .anyone uid _ => uid

/-- A connection to the socket: both ends, and what was sent on it. -/
structure Connection where
  owner : ℕ
  peer : ℤ
  agent : ℤ
  sent : List (ℕ × Content) := []
  pending : List (ℕ × Content) := []
  replies : List (ℕ × Content) := []

structure World where
  /-- The clock, and the log of the notification server. -/
  scene : Scene
  /-- Who listens at the path, and as whom. -/
  listener : Option (ℕ × ℤ) := none
  backlog : ℕ → List ℕ := fun _ => []
  connections : ℕ → Connection
  count : ℕ := 0
  held : ℕ → Option ℕ := fun _ => none

def World.put (w : World) (k : ℕ) (c : Connection) : World :=
  { w with connections := Function.update w.connections k c }

inductive Fate where
  | ok
  | raises (e : Exc)
  | found (isSocket : Bool) (owner : ℤ)
  | delivered (fate : Receipts.Fate)
  | time (t : ℚ)
  /-- The other side has closed the connection. -/
  | eof

/-- An operation that raises. -/
def failed {α : Type} (w : World) (e : Exc) (able : Bool) : Option (Except Exc α × World) :=
  if able then some (.error e, w) else none

/-- What is received of a closed connection. -/
def closed : ℕ × Content := (0, .malformed)

def tooLarge : Exc := .valueError "Notification message too large"

section
variable (general : ℚ → String) (py : Interpreter) (uuidHex : String → Option String) (v : Options)
-- the number of bytes that a payload is encoded in
variable (size : Obj → ℕ)

def emitted (lock : Obj) (event : String) (wait : Bool) : Prog ClientOp ClientOp.Res Exc Unit := do
  let x ← attempt (expand (fun o => Prog.op (ClientOp.contact o)) (emit py uuidHex lock event wait))
  Prog.op (ClientOp.outcome x)

def program : Call → Mixed Op.Res ClientOp.Res Exc Unit
  | .agent _ n => expand (fun o => Prog.op (.inl o)) (runAgent general uuidHex v n)
  | .command _ lock event wait => TwoRuns.hidden Op.Res (emitted py uuidHex lock event wait)
  | .anyone _ p => TwoRuns.hidden Op.Res p

/-- An operation of an agent. -/
def serveOp (i : ℕ) (uid : ℤ) (w : World) : (o : Op) → Fate → Option (o.Res × World)
  | .geteuid, .ok => some (uid, w)
  | .lstat _, .found isSocket owner => some (.ok (isSocket, owner), w)
  | .lstat _, .raises e => failed w e e.isOSError
  | .delivery o, .delivered fate => (Receipts.perform w.scene o fate).map fun done =>
    (done.1, { w with scene := done.2 })
  | .unlink _, .ok => some (.ok (), { w with listener := none })
  | .unlink _, .raises e => failed w e e.isOSError
  | .listen _, .ok => some (.ok (), { w with listener := some (i, uid), backlog := Function.update w.backlog i [] })
  | .listen _, .raises e => failed w e e.isOSError
  | .progress _, .ok => some (.ok (), w)
  | .progress _, .raises e => failed w e e.isException
  | .accept _, .ok =>
    match w.backlog i with
    | k :: rest => some (.ok (),
        { w with held := Function.update w.held i (some k), backlog := Function.update w.backlog i rest })
    | [] => none
  | .accept _, .raises e => failed w e e.isOSError
  | .peer, .ok => (w.held i).map fun k => (.ok (w.connections k).peer, w)
  | .peer, .raises e => failed w e e.isOSError
  | .receive, .ok => (w.held i).bind fun k =>
    match (w.connections k).pending with
    | m :: rest => some (.ok m, w.put k { w.connections k with pending := rest })
    | [] => none
  | .receive, .eof => some (.ok closed, w)
  | .receive, .raises e => failed w e e.isOSError
  | .send payload, .ok =>
    if maxMessage < size payload then some (.error tooLarge, w)
    else (w.held i).map fun k =>
      (.ok (), w.put k { w.connections k with
        replies := (w.connections k).replies ++ [(size payload, .json (.obj payload))] })
  | .send _, .raises e => failed w e e.isOSError
  | _, _ => none

/-- A message from the side that connected. -/
def World.push (w : World) (i : ℕ) (m : ℕ × Content) : Option (Except Exc Unit × World) :=
  (w.held i).map fun k =>
    (.ok (), w.put k { w.connections k with
      sent := (w.connections k).sent ++ [m]
      pending := (w.connections k).pending ++ [m] })

/-- An operation of a process that is not an agent. -/
def connectOp (i : ℕ) (uid : ℤ) (w : World) : (o : ClientOp) → Fate → Option (o.Res × World)
  | .contact (.connect path _), .ok =>
    match w.listener, socketPath uuidHex (.int v.uid) (.str v.session) with
    | some (a, agent), .ok (_, socket) =>
      if path = socket then
        some (.ok (), { w with
          connections := Function.update w.connections w.count ⟨i, uid, agent, [], [], []⟩, count := w.count + 1,
          backlog := Function.update w.backlog a (w.backlog a ++ [w.count]), held :=
            Function.update w.held i (some w.count) })
      else none
    | _, _ => none
  | .contact (.connect ..), .raises e => failed w e e.isOSError
  | .contact .peer, .ok => (w.held i).map fun k => (.ok (w.connections k).agent, w)
  | .contact .peer, .raises e => failed w e e.isOSError
  | .contact (.send payload), .ok =>
    if maxMessage < size payload then some (.error tooLarge, w) else w.push i (size payload, .json (.obj payload))
  | .contact (.send _), .raises e => failed w e e.isOSError
  | .contact .receive, .time now => (w.held i).bind fun k =>
    match (w.connections k).replies with
    | m :: rest =>
      if w.scene.now ≤ now then
        some (.ok (m.1, m.2, now),
          { w.put k { w.connections k with replies := rest } with scene := { w.scene with now := now } })
      else none
    | [] => none
  | .contact .receive, .eof => some (.ok (closed.1, closed.2, w.scene.now), w)
  | .contact .receive, .raises e => failed w e e.isOSError
  | .contact (.retain ..), .ok => some (.ok (), w)
  | .contact (.retain ..), .raises e => failed w e e.isException
  | .post length content, .ok => w.push i (length, content)
  | .post .., .raises e => failed w e e.isOSError
  | .outcome _, .ok => some ((), w)
  | _, _ => none

/-- The socket of a session's agents. -/
def system : System (Op ⊕ ClientOp) (Res Op.Res ClientOp.Res) Exc World Call Fate Empty where
  program := program general py uuidHex v
  perform i c w
    | .inl o, fate => serveOp size i c.uid w o fate
    | .inr o, fate => connectOp uuidHex v size i c.uid w o fate
  begins i _ w := some { w with held := Function.update w.held i none }
  ends i _ w := { w with
    held := Function.update w.held i none, backlog := Function.update w.backlog i [],
    listener := if w.listener.any (·.1 == i) then none else w.listener }
  environ e _ := e.elim
  diverts _ _ _ := none

end

/-! ### What a receipt rests on -/

/-- A receipt of acceptance comes with a reply that accepts its event. -/
def Grounded (general : ℚ → String) (log : List Entry) (receipt : Receipt) : Prop :=
  receipt.state = .accepted → ∃ id, receipt.notificationId = some id ∧ Accepts general receipt.event id log

/-- What the object has of the deliveries before. -/
structure Kept (general : ℚ → String) (v : Options) (log : List Entry) (d : Delivery) : Prop where
  bus : d.bus = (delivery v).bus
  last : ∀ receipt, d.lastReceipt = some receipt → d.lastEvent = some receipt.event ∧ Grounded general log receipt

section
variable {general : ℚ → String} {v : Options} {name : String} {id : ℤ} {log more : List Entry} {d : Delivery}
  {receipt : Receipt}

theorem accepts_mono (accepts : Accepts general name id log) (sub : ∀ entry ∈ log, entry ∈ more) :
    Accepts general name id more := by
  obtain ⟨event, now, bus, replaced, budget, length, payload, known, member, rest⟩ := accepts
  exact ⟨event, now, bus, replaced, budget, length, payload, known, sub _ member, rest⟩

theorem Grounded.mono (grounded : Grounded general log receipt) (sub : ∀ entry ∈ log, entry ∈ more) :
    Grounded general more receipt := by
  intro accepted
  obtain ⟨id, identified, accepts⟩ := grounded accepted
  exact ⟨id, identified, accepts_mono accepts sub⟩

theorem Kept.mono (kept : Kept general v log d) (sub : ∀ entry ∈ log, entry ∈ more) : Kept general v more d where
  bus := kept.bus
  last receipt last := ⟨(kept.last receipt last).1, (kept.last receipt last).2.mono sub⟩

/-- A delivery after others, as it ends. -/
theorem delivered_kept {past : List Entry} {d' : Delivery} {w : Scene} (kept : Kept general v past d)
    (delivered : Receipts.Delivered general d name (.ok (receipt, d')) w) :
    receipt.event = name ∧ Grounded general (past ++ w.log) receipt ∧ Kept general v (past ++ w.log) d' := by
  cases delivered with
  | @repeated original _ last same accepted quiet =>
    have old : ∀ entry ∈ past, entry ∈ past ++ w.log := fun entry member => List.mem_append_left _ member
    obtain ⟨about, grounded⟩ := kept.last original last
    have event : original.event = name := Option.some.inj (about.symm.trans same)
    refine ⟨event, ?_, kept.mono old⟩
    intro _
    exact grounded.mono old accepted
  | made known closed =>
    have accepts := Receipts.closed_accepts known closed
    obtain ⟨_, _, event, _, rfl⟩ := closed
    subst event
    have grounded : Grounded general (past ++ w.log) receipt := by
      intro accepted
      obtain ⟨id, identified, accepts⟩ := accepts accepted
      exact ⟨id, identified, accepts_mono accepts fun entry member => List.mem_append_right _ member⟩
    refine ⟨rfl, grounded, kept.bus, ?_⟩
    intro other last
    obtain rfl := Option.some.inj last
    exact ⟨rfl, grounded⟩

/-- The calls that a delivery makes. -/
def Calls (general : ℚ → String) (bus name : String) : Receipts.Op → Prop
  | .boottime => True
  | .busctl arguments budget => ∃ event replaced, event? name = some event ∧
      arguments = commandLine general bus "Notify" (notifyArgs replaced event) budget

theorem tryAttempts_calls {event : Receipts.Event} (known : event? name = some event) (deadline : ℚ)
    (attempt left : ℕ) (ambiguous : Bool)
    (reason : String) : (Receipts.tryAttempts general d name event deadline attempt ambiguous reason left).Uses
    (Calls general d.bus name) := by
  have spent (ambiguous : Bool) (reason : String) :
      (Receipts.giveUp d name ambiguous reason).Uses (Calls general d.bus name) :=
    ⟨trivial, fun _ => trivial⟩
  induction left generalizing attempt ambiguous reason with
  | zero => exact spent ambiguous reason
  | succ left ih =>
    rw [Receipts.tryAttempts]
    refine uses_bind ((uses_op _).mpr trivial) fun now => ?_
    by_cases late : deadline - now ≤ 0
    · simpa only [if_pos late] using spent ambiguous reason
    simp only [if_neg late]
    refine uses_bind ((uses_op _).mpr ⟨event, d.notificationId, known, rfl⟩) fun process => ?_
    split
    · exact ⟨trivial, fun _ => trivial⟩
    split_ifs
    · exact ih ..
    · exact ih ..
    · exact ih ..
    · trivial

theorem deliver_calls (general : ℚ → String) (d : Delivery) (name : String) :
    (Receipts.deliver general d name).Uses (Calls general d.bus name) := by
  rw [Receipts.deliver]
  cases known : event? name with
  | none => trivial
  | some event =>
    have started : (Receipts.deliver.start general d name event).Uses (Calls general d.bus name) :=
      ⟨trivial, fun now => tryAttempts_calls known ..⟩
    dsimp only
    split
    · split_ifs
      · trivial
      · exact started
    · exact started

end

/-! ### The protocol of the agent -/

/-- What an agent has read: the clock and the replies of the notification server, and what came with the last
    connection. -/
structure Serving where
  scene : Scene
  peer : Option ℤ := none
  heard : Option (ℕ × Content) := none

/-- What a process has read, or that it read what none can. -/
inductive Known where
  | agent (s : Serving)
  | client (seen : Option (ℕ × Content))
  | other

section
variable (general : ℚ → String) (v : Options)

/-- The message asks for a notification of the event. -/
def Asks (event : String) (m : ℕ × Content) : Prop :=
  ∃ payload : Obj, m.2 = .json (.obj payload) ∧ request v.session payload = .notify event

/-- A peer that is answered has asked for it. -/
def Serving.Asked (s : Serving) (event : String) : Prop :=
  (∃ uid, s.peer = some uid ∧ Trusted v uid) ∧ ∃ m, s.heard = some m ∧ Asks v event m

/-- What an agent runs `busctl` with. -/
def Spoken (s : Serving) (arguments : List String) (budget : ℚ) : Prop :=
  arguments = commandLine general (delivery v).bus "GetServerInformation" [] budget ∨
    ∃ name event replaced, event? name = some event ∧ s.Asked v name ∧
      arguments = commandLine general (delivery v).bus "Notify" (notifyArgs replaced event) budget

/-- What a reply says to a request for these events. -/
structure Says (log : List Entry) (asked : String → Prop) (payload : Obj) : Prop where
  session : payload.get "session_id" = .str v.session
  progress : ∃ t, payload.get "progress_at" = .float (.finite t)
  state : ∃ text ∈ Notifications.states, payload.get "state" = .str text
  reason : ∃ text, payload.find? "reason" = some (.str text)
  accepted : payload.get "state" = .str "accepted" → ∃ event id, payload.get "event" = .str event ∧
    payload.get "notification_id" = .int id ∧ Accepts general event id log ∧ ∀ other, asked other → other = event

open scoped Classical in
noncomputable def heed (s : Serving) : (o : Op) → o.Res → Option Known
  | .delivery .boottime, t =>
    some (if s.scene.now ≤ t then .agent { s with scene := ⟨t, s.scene.log ++ [.read t]⟩ } else .other)
  | .delivery (.busctl arguments budget), process =>
    if Spoken general v s arguments budget then
      some (.agent { s with scene := ⟨s.scene.now, s.scene.log ++ [.called s.scene.now arguments budget process]⟩ })
    else none
  | .accept _, .ok _ => some (.agent { s with peer := none, heard := none })
  | .peer, .ok uid => some (.agent { s with peer := some uid })
  | .receive, .ok m => some (.agent { s with heard := some m })
  | .send payload, _ =>
    if ∃ m, s.heard = some m ∧ m ≠ closed ∧ Says general v s.scene.log (Asks v · m) payload then some (.agent s)
    else none
  | _, _ => some (.agent s)

noncomputable def next : Known → (o : Op) → o.Res → Option Known
  | .agent s, o, r => heed general v s o r
  | .client _, _, _ => none
  | .other, _, _ => some .other

/-- From where `A` holds, the program comes to where `P` does. -/
def Serves {ε α : Type} (A : Serving → Prop) (P : Except ε α → Serving → Prop) (p : Prog Op Op.Res ε α) : Prop :=
  ∀ s, A s → p.Follows (next general v) (.agent s) fun x l => l = .other ∨ ∃ s', l = .agent s' ∧ P x s'

end

section
variable {general : ℚ → String} {v : Options} {ε ε' α β : Type} {A B : Serving → Prop} {P : Except ε α → Serving → Prop}
variable {Q : Except ε β → Serving → Prop} {p : Prog Op Op.Res ε α}

theorem lost_follows (p : Prog Op Op.Res ε α) : p.Follows (next general v) .other fun _ l => l = .other :=
  follows_of_uses (uses_any p) fun _ _ _ => rfl

theorem serves_mono {P' : Except ε α → Serving → Prop} (serves : Serves general v A P p)
    (weaker : ∀ x s, P x s → P' x s) :
    Serves general v A P' p := by
  intro s here
  refine follows_mono (serves s here) ?_
  rintro x l (lost | ⟨s', same, holds⟩)
  · exact .inl lost
  · exact .inr ⟨s', same, weaker x s' holds⟩

theorem serves_from (serves : Serves general v A P p) (here : ∀ s, B s → A s) : Serves general v B P p :=
  fun s there => serves s (here s there)

theorem serves_bind {f : α → Prog Op Op.Res ε β} (first : Serves general v A P p)
    (rest : ∀ a, Serves general v (P (.ok a)) Q (f a))
    (error : ∀ e s, P (.error e) s → Q (.error e) s) : Serves general v A Q (p >>= f) := by
  intro s here
  refine follows_bind (first s here) ?_ ?_
  · rintro a l (rfl | ⟨s', rfl, holds⟩)
    · exact follows_mono (lost_follows _) fun _ _ lost => .inl lost
    · exact rest a s' holds
  · rintro e l (lost | ⟨s', same, holds⟩)
    · exact .inl lost
    · exact .inr ⟨s', same, error e s' holds⟩

theorem serves_attempt (serves : Serves general v A P p) :
    Serves general v A (fun y : Except ε' (Except ε α) => fun s => ∃ x, y = .ok x ∧ P x s) (attempt p) := by
  intro s here
  refine follows_mono (follows_attempt (serves s here)) ?_
  rintro y l ⟨x, same, lost | ⟨s', there, holds⟩⟩
  · exact .inl lost
  · exact .inr ⟨s', there, x, same, holds⟩

theorem serves_pure (a : α) (ends : ∀ s, A s → P (.ok a) s) : Serves general v A P (pure a) :=
  fun s here => .inr ⟨s, rfl, ends s here⟩

theorem serves_raise (e : ε) (ends : ∀ s, A s → P (.error e) s) : Serves general v A P (.raise e) :=
  fun s here => .inr ⟨s, rfl, ends s here⟩

theorem serves_ofExcept (x : Except ε α) (ends : ∀ s, A s → P x s) : Serves general v A P (Prog.ofExcept x) := by
  intro s here
  exact (follows_ofExcept x).mpr (.inr ⟨s, rfl, ends s here⟩)

theorem serves_step {o : Op} {P : Except Exc o.Res → Serving → Prop}
    (each : ∀ s r, A s → ∃ s', heed general v s o r = some (.agent s') ∧ P (.ok r) s') :
    Serves general v A P (step o) := by
  intro s here r
  obtain ⟨s', allowed, holds⟩ := each s r here
  exact ⟨.agent s', allowed, .inr ⟨s', rfl, holds⟩⟩

/-- An operation that raises what it fails with. -/
theorem serves_checked {α : Type} {p : Py (Except Exc α)} {P : Except Exc α → Serving → Prop}
    (serves : Serves general v A (fun y s => ∃ x, y = .ok x ∧ P x s) p) : Serves general v A P (checked p) := by
  refine serves_bind serves ?_ ?_
  · intro x
    refine serves_ofExcept x ?_
    rintro s ⟨_, ⟨⟩, holds⟩
    exact holds
  · rintro e s ⟨_, ⟨⟩, _⟩

/-- A part of a delivery, whose calls are ones that were asked for. -/
theorem serves_within {p : Receipts.Py α} {Q : Except Exc α → Scene → Prop} {allowed : Receipts.Op → Prop}
    (past : List Entry) {w : Scene}
    {s : Serving} (used : p.Uses allowed) (ensured : p.Ensures Receipts.perform w Q)
    (scene : s.scene = ⟨w.now, past ++ w.log⟩)
    (spoken : ∀ arguments budget, allowed (.busctl arguments budget) → Spoken general v s arguments budget) :
    (within p).Follows (next general v) (.agent s) fun x l => l = .other ∨
      ∃ w', Q x w' ∧ l = .agent { s with scene := ⟨w'.now, past ++ w'.log⟩ } := by
  induction p generalizing w s with
  | ret a => exact .inr ⟨w, ensured, by rw [← scene]⟩
  | raise e => exact .inr ⟨w, ensured, by rw [← scene]⟩
  | call o k ih =>
    cases o with
    | boottime =>
      intro t
      have time : s.scene.now = w.now := by rw [scene]
      by_cases later : s.scene.now ≤ t
      · refine ⟨_, congrArg some (if_pos later), ?_⟩
        have performed : Receipts.perform w .boottime (.time t) = some (t, ⟨t, w.log ++ [.read t]⟩) :=
          if_pos (time ▸ later)
        refine ih t (s := { s with scene := ⟨t, s.scene.log ++ [.read t]⟩ }) (used.2 t)
          (ensured _ _ _ performed) ?_ spoken
        rw [scene]
        simp
      · exact ⟨_, congrArg some (if_neg later), follows_mono (lost_follows _) fun _ _ lost => .inl lost⟩
    | busctl arguments budget =>
      intro process
      refine ⟨_, if_pos (spoken arguments budget used.1), ?_⟩
      have performed : Receipts.perform w (.busctl arguments budget) (.process process) =
        some (process, ⟨w.now, w.log ++ [.called w.now arguments budget process]⟩) := rfl
      refine ih process (s := { s with scene := ⟨s.scene.now, s.scene.log ++ [.called s.scene.now arguments budget process]⟩ })
        (used.2 process) (ensured _ _ _ performed) ?_ spoken
      rw [scene]
      simp

end

/-! ### The replies -/

section
variable {data changes : Obj} {key : String} {value : Json}

theorem set_fresh (fresh : key ∉ data.keys) : data.set key value = data ++ [(key, value)] := by
  induction data with
  | nil => rfl
  | cons field rest ih =>
    obtain ⟨k, old⟩ := field
    simp only [Obj.keys, List.map_cons, List.mem_cons, not_or] at fresh
    simp only [Obj.set, beq_iff_eq, if_neg (Ne.symm fresh.1), List.cons_append]
    rw [ih fresh.2]

/-- Changes that name no key of the dictionary, and no key twice, go to its end. -/
theorem update_fresh (distinct : changes.keys.Nodup) (fresh : ∀ key ∈ changes.keys, key ∉ data.keys) :
    data.update changes = data ++ changes := by
  induction changes generalizing data with
  | nil => simp [Obj.update]
  | cons field rest ih =>
    obtain ⟨key, value⟩ := field
    simp only [Obj.keys, List.map_cons, List.nodup_cons, List.mem_cons, forall_eq_or_imp] at distinct fresh
    have step : data.update ((key, value) :: rest) = (data.set key value).update rest := rfl
    rw [step, set_fresh fresh.1, ih distinct.2]
    · simp
    · intro other member old
      simp only [Obj.keys, List.map_append, List.mem_append, List.map_cons, List.map_nil, List.mem_singleton] at old
      rcases old with old | rfl
      · exact fresh.2 other member old
      · exact distinct.1 member

theorem find?_append (more : Obj) : Obj.find? (data ++ more) key = (data.find? key).or (Obj.find? more key) := by
  simp only [Obj.find?, List.find?_append]
  cases List.find? (·.1 == key) data <;> rfl

end

section
variable {general : ℚ → String} {v : Options} {log more : List Entry} {asked : String → Prop} {payload : Obj}
  {now : ℚ} {receipt : Receipt}

theorem Says.mono (said : Says general v log asked payload) (sub : ∀ entry ∈ log, entry ∈ more) :
    Says general v more asked payload where
  session := said.session
  progress := said.progress
  state := said.state
  reason := said.reason
  accepted state := by
    obtain ⟨event, id, about, identified, accepts, only⟩ := said.accepted state
    exact ⟨event, id, about, identified, accepts_mono accepts sub, only⟩

theorem reply_noEvent : Says general v log asked (reply v now noEvent) where
  session := by simp [reply, noEvent, Obj.update, Obj.set, Obj.get, find?_cons]
  progress := ⟨now, by simp [reply, noEvent, Obj.update, Obj.set, Obj.get, find?_cons]⟩
  state := ⟨"pending", by decide, by simp [reply, noEvent, Obj.update, Obj.set, Obj.get, find?_cons]⟩
  reason := ⟨"notifications.no_event", by simp [reply, noEvent, Obj.update, Obj.set, find?_cons]⟩
  accepted state := by simp [reply, noEvent, Obj.update, Obj.set, Obj.get, find?_cons] at state

/-- The keys of a receipt are not those that the agent adds to it. -/
theorem reply_asDict : reply v now (asDict receipt) =
    [("session_id", .str v.session), ("instance_id", (v.invocation.map Json.str).getD .null),
      ("progress_at", .float (.finite now))] ++
      asDict receipt := by
  obtain ⟨state, reason, event, id, attempts, observed, deduplicated⟩ := receipt
  refine update_fresh ?_ ?_
  · cases id <;> cases attempts <;> cases deduplicated <;> simp [asDict, Obj.keys]
  · cases id <;> cases attempts <;> cases deduplicated <;> simp [asDict, Obj.keys]

theorem reply_says (grounded : Grounded general log receipt) (only : ∀ other, asked other → other = receipt.event) :
    Says general v log asked (reply v now (asDict receipt)) := by
  have state : (reply v now (asDict receipt)).get "state" = .str (stateName receipt.state) := by
    rw [Obj.get, reply_asDict]
    simp [asDict, find?_cons]
  have event : (reply v now (asDict receipt)).get "event" = .str receipt.event := by
    rw [Obj.get, reply_asDict]
    simp [asDict, find?_cons]
  constructor
  · simp [reply_asDict, Obj.get, find?_cons]
  · exact ⟨now, by simp [reply_asDict, Obj.get, find?_cons]⟩
  · refine ⟨_, ?_, state⟩
    cases receipt.state <;> decide
  · exact ⟨receipt.reason, by rw [reply_asDict]; simp [asDict, find?_cons]⟩
  · intro accepted
    rw [state, Json.str.injEq] at accepted
    have isAccepted : receipt.state = .accepted := by
      cases outcome : receipt.state with
      | accepted => rfl
      | _ => simp [outcome, stateName] at accepted
    obtain ⟨id, identified, accepts⟩ := grounded isAccepted
    refine ⟨receipt.event, id, event, ?_, accepts, only⟩
    rw [Obj.get, reply_asDict]
    simp [asDict, find?_cons, identified]

end

/-! ### The agent keeps to it -/

section
variable {general : ℚ → String} {uuidHex : String → Option String} {v : Options}

/-- The operation is allowed, and nothing comes of it that matters to the protocol. -/
def Quiet (general : ℚ → String) (v : Options) (o : Op) : Prop := ∀ s r, heed general v s o r = some (.agent s)

theorem quiet_serves {α : Type} {p : Py α} {A : Serving → Prop} (used : p.Uses (Quiet general v)) :
    Serves general v A (fun _ s => A s) p := by
  intro s here
  refine follows_mono (follows_of_uses used fun o r quiet => ?_) fun _ _ same => .inr ⟨s, same, here⟩
  exact quiet s r

theorem checked_uses {α : Type} {p : Py (Except Exc α)} {ops : Op → Prop} (used : p.Uses ops) : (checked p).Uses ops :=
  uses_bind used fun x => uses_ofExcept x

theorem serves_progress (ready : Bool) {A : Serving → Prop} :
    Serves general v A (fun _ s => A s) (checked (step (.progress ready))) :=
  quiet_serves (checked_uses ((uses_op _).mpr fun _ _ => rfl))

/-- What is said in answer to the last request. -/
theorem respond_serves {m : ℕ × Content} {d : Delivery} {receipt : Obj} (filled : m ≠ closed) : Serves general v
    (fun s => s.heard = some m ∧ Kept general v s.scene.log d ∧ ∀ log now, (∀ entry ∈ s.scene.log, entry ∈ log) →
      Says general v log (Asks v · m) (reply v now receipt))
    (fun _ s => Kept general v s.scene.log d) (respond v receipt) := by
  intro s here
  obtain ⟨heard, kept, speech⟩ := here
  intro t
  by_cases later : s.scene.now ≤ t
  · refine ⟨_, congrArg some (if_pos later), ?_⟩
    have longer : ∀ entry ∈ s.scene.log, entry ∈ s.scene.log ++ [.read t] :=
      fun entry member => List.mem_append_left _ member
    intro r
    refine ⟨_, if_pos ⟨m, heard, filled, speech _ _ longer⟩, ?_⟩
    exact (follows_ofExcept _).mpr (.inr ⟨_, rfl, kept.mono longer⟩)
  · refine ⟨_, congrArg some (if_neg later), ?_⟩
    exact follows_mono (lost_follows _) fun _ _ lost => .inl lost

theorem deliver_serves {m : ℕ × Content} {uid : ℤ} {d : Delivery} {event : String} (trusted : Trusted v uid)
    (asks : Asks v event m) :
    Serves general v (fun s => s.peer = some uid ∧ s.heard = some m ∧ Kept general v s.scene.log d)
      (fun x s => s.heard = some m ∧ (∀ e, x = .error e → Kept general v s.scene.log d) ∧
        ∀ receipt d', x = .ok (receipt, d') → receipt.event = event ∧ Grounded general s.scene.log receipt ∧
        Kept general v s.scene.log d')
      (within (Receipts.deliver general d event)) := by
  rintro s ⟨peer, heard, kept⟩
  have spoken : ∀ arguments budget, Calls general d.bus event (.busctl arguments budget) →
      Spoken general v s arguments budget := by
    rintro arguments budget ⟨found, replaced, known, rfl⟩
    refine .inr ⟨event, found, replaced, known, ⟨⟨uid, peer, trusted⟩, m, heard, asks⟩, ?_⟩
    rw [kept.bus]
  refine follows_mono (serves_within s.scene.log (deliver_calls general d event)
    (Receipts.deliver_delivered s.scene.now) (by simp) spoken) ?_
  rintro x l (lost | ⟨w, delivered, rfl⟩)
  · exact .inl lost
  refine .inr ⟨_, rfl, heard, ?_, ?_⟩
  · intro e _
    exact kept.mono fun entry member => List.mem_append_left _ member
  · rintro receipt d' rfl
    exact delivered_kept kept delivered

/-- A message that is taken for a request. -/
theorem received_content {length : ℕ} {content : Content} {payload : Obj}
    (taken : received length content = .ok payload) :
    content = .json (.obj payload) := by
  rw [received, message] at taken
  by_cases size : length = 0 ∨ maxMessage < length
  · simp [if_pos size] at taken
  · rw [if_neg size] at taken
    cases content with
    | json value =>
      cases value with
      | obj fields =>
        obtain rfl := Except.ok.inj taken
        rfl
      | _ => cases taken
    | _ => cases taken

/-- What the object has after the body of the `try`. -/
def Answers (general : ℚ → String) (v : Options) (d : Delivery) (x : Except Exc (Delivery × Except Exc Bool))
    (s : Serving) : Prop :=
  (∀ e, x = .error e → Kept general v s.scene.log d) ∧ ∀ d' done, x = .ok (d', done) → Kept general v s.scene.log d'

theorem answers_ok {d d' : Delivery} {done : Except Exc Bool} {s : Serving} (kept : Kept general v s.scene.log d') :
    Answers general v d (.ok (d', done)) s := by
  constructor
  · intro e same
    cases same
  · intro other done' same
    cases same
    exact kept

theorem answers_error {d : Delivery} {e : Exc} {s : Serving} (kept : Kept general v s.scene.log d) :
    Answers general v d (.error e) s := by
  constructor
  · intro _ _
    exact kept
  · intro d' done same
    cases same

/-- A reply, and the end of the request. -/
theorem replied_serves {m : ℕ × Content} {d d' : Delivery} {receipt : Obj} (filled : m ≠ closed) : Serves general v
    (fun s => s.heard = some m ∧ Kept general v s.scene.log d' ∧ ∀ log now, (∀ entry ∈ s.scene.log, entry ∈ log) →
      Says general v log (Asks v · m) (reply v now receipt))
    (Answers general v d) (do
      let sent ← attempt (respond v receipt)
      pure (d', sent.map fun _ => true)) := by
  refine serves_bind (serves_attempt (respond_serves filled)) ?_ ?_
  · intro sent
    refine serves_pure _ ?_
    rintro s ⟨_, _, kept⟩
    exact answers_ok kept
  · rintro e s ⟨_, ⟨⟩, _⟩

/-- Every request that is carried out was made by the peer. -/
theorem carryOut_serves {m : ℕ × Content} {uid : ℤ} {payload : Obj} (d : Delivery) (trusted : Trusted v uid)
    (json : m.2 = .json (.obj payload)) :
    Serves general v (fun s => s.peer = some uid ∧ s.heard = some m ∧ Kept general v s.scene.log d)
      (Answers general v d)
      (carryOut general v d (request v.session payload)) := by
  have asking {event : String} (asks : Asks v event m) : request v.session payload = .notify event := by
    obtain ⟨other, same, asks⟩ := asks
    cases json.symm.trans same
    exact asks
  have filled : m ≠ closed := by
    rintro rfl
    cases json
  cases asked : request v.session payload with
  | other =>
    refine serves_pure _ ?_
    rintro s ⟨_, _, kept⟩
    exact answers_ok kept
  | status =>
    refine serves_from (replied_serves filled) ?_
    rintro s ⟨_, heard, kept⟩
    refine ⟨heard, kept, fun log now longer => ?_⟩
    cases last : d.lastReceipt with
    | none => exact reply_noEvent
    | some receipt =>
      refine reply_says ((kept.last receipt last).2.mono longer) fun other asks => ?_
      cases asked.symm.trans (asking asks)
  | notify event =>
    refine serves_bind (deliver_serves trusted ⟨payload, json, asked⟩) ?_ fun e s done => answers_error (done.2.1 e rfl)
    rintro ⟨receipt, d'⟩
    refine serves_from (replied_serves filled) ?_
    rintro s ⟨heard, _, delivered⟩
    obtain ⟨about, grounded, kept⟩ := delivered receipt d' rfl
    refine ⟨heard, kept, fun log now longer => reply_says (grounded.mono longer) fun other asks => ?_⟩
    cases asked.symm.trans (asking asks)
    exact about.symm

theorem answer_serves (d : Delivery) :
    Serves general v (fun s => Kept general v s.scene.log d) (Answers general v d) (answer general v d) := by
  have peer : Serves general v (fun s => Kept general v s.scene.log d)
      (fun x s => Kept general v s.scene.log d ∧ ∀ uid, x = .ok uid → s.peer = some uid) (checked (step .peer)) := by
    refine serves_checked (serves_step ?_)
    intro s r kept
    cases r with
    | ok uid => exact ⟨{ s with peer := some uid }, rfl, .ok uid, rfl, kept,
        fun _ same => congrArg some (Except.ok.inj same)⟩
    | error e => exact ⟨s, rfl, .error e, rfl, kept, nofun⟩
  refine serves_bind peer ?_ fun e s here => answers_error here.1
  intro uid
  by_cases trusted : Trusted v uid
  · have heard : Serves general v
      (fun s => Kept general v s.scene.log d ∧ ∀ other, (.ok uid : Except Exc ℤ) = .ok other → s.peer = some other)
        (fun x s => Kept general v s.scene.log d ∧ s.peer = some uid ∧ ∀ m, x = .ok m → s.heard = some m)
        (checked (step .receive)) := by
      refine serves_checked (serves_step ?_)
      rintro s r ⟨kept, peer⟩
      cases r with
      | ok m => exact ⟨{ s with heard := some m }, rfl, .ok m, rfl, kept, peer uid rfl,
          fun _ same => congrArg some (Except.ok.inj same)⟩
      | error e => exact ⟨s, rfl, .error e, rfl, kept, peer uid rfl, nofun⟩
    rw [if_pos trusted]
    refine serves_bind heard ?_ fun e s here => answers_error here.1
    rintro ⟨length, content⟩
    dsimp only
    cases taken : received length content with
    | error e => exact serves_raise _ fun s here => answers_error here.1
    | ok payload =>
      refine serves_from (carryOut_serves (m := (length, content)) d trusted (received_content taken)) ?_
      rintro s ⟨kept, peer, heard⟩
      exact ⟨peer, heard _ rfl, kept⟩
  · rw [if_neg trusted]
    exact serves_pure _ fun s here => answers_ok here.1

theorem finish_serves {d : Delivery} (done : Except Exc Bool) {A : Serving → Prop}
    (kept : ∀ s, A s → Kept general v s.scene.log d) :
    Serves general v A (fun x s => ∀ d', x = .ok d' → Kept general v s.scene.log d') (finish d done) := by
  have ended : Serves general v A (fun x s => ∀ d', x = .ok d' → Kept general v s.scene.log d')
      (pure d : Py Delivery) :=
    serves_pure _ fun s here d' same => Except.ok.inj same ▸ kept s here
  have notified : Serves general v A (fun x s => ∀ d', x = .ok d' → Kept general v s.scene.log d') (do
      checked (step (.progress false))
      pure d) := by
    refine serves_bind (serves_progress false) (fun _ => ended) ?_
    intro e s _ d' same
    cases same
  cases done with
  | ok replied =>
    cases replied
    · exact ended
    · exact notified
  | error e =>
    rw [finish]
    by_cases caught : (e.isOSError || e.isValueError) = true
    · rw [if_pos caught]
      exact notified
    · rw [if_neg caught]
      refine serves_raise _ ?_
      intro s _ d' same
      cases same

theorem connection_serves (d : Delivery) : Serves general v (fun s => Kept general v s.scene.log d)
    (fun x s => ∀ d', x = .ok d' → Kept general v s.scene.log d') (connection general v d) := by
  refine serves_bind (serves_attempt (answer_serves d)) ?_ ?_
  · intro answered
    cases answered with
    | ok pair =>
      refine finish_serves pair.2 ?_
      rintro s ⟨_, same, kept⟩
      cases same
      exact kept.2 _ _ rfl
    | error e =>
      refine finish_serves (.error e) ?_
      rintro s ⟨_, same, kept⟩
      cases same
      exact kept.1 e rfl
  · rintro e s ⟨_, ⟨⟩, _⟩

theorem serve_serves (d : Delivery) (n : ℕ) :
    Serves general v (fun s => Kept general v s.scene.log d) (fun _ _ => True) (serve general v d n) := by
  induction n generalizing d with
  | zero => exact serves_pure _ fun _ _ => trivial
  | succ n ih =>
    have accepted : Serves general v (fun s => Kept general v s.scene.log d) (fun _ s => Kept general v s.scene.log d)
        (step (.accept v.heartbeat)) := by
      refine serves_step ?_
      intro s r kept
      cases r with
      | ok _ => exact ⟨{ s with peer := none, heard := none }, rfl, kept⟩
      | error e => exact ⟨s, rfl, kept⟩
    refine serves_bind accepted ?_ fun _ _ _ => trivial
    intro r
    cases r with
    | ok _ =>
      exact serves_bind (connection_serves d) (fun d' => serves_from (ih d') fun s kept => kept d' rfl) fun _ _ _ => trivial
    | error e =>
      dsimp only
      by_cases late : e = .osError "TimeoutError"
      · rw [if_pos late]
        exact serves_bind (serves_progress false) (fun _ => ih d) fun _ _ _ => trivial
      · rw [if_neg late]
        exact serves_raise _ fun _ _ => trivial

theorem checkServer_serves (timeout : ℚ) :
    Serves general v (fun _ => True) (fun _ _ => True) (checkServer general (delivery v).bus timeout) := by
  have asked : Serves general v (fun _ => True) (fun _ _ => True)
      (within (Receipts.busctl (commandLine general (delivery v).bus "GetServerInformation" [] timeout) timeout)) := by
    intro s _ process
    exact ⟨_, if_pos (.inl rfl), .inr ⟨_, rfl, trivial⟩⟩
  refine serves_bind asked ?_ fun _ _ _ => trivial
  intro process
  refine serves_bind (serves_ofExcept (P := fun _ _ => True) _ fun _ _ => trivial) ?_ fun _ _ _ => trivial
  intro payload
  split
  · exact serves_pure _ fun _ _ => trivial
  · exact serves_raise _ fun _ _ => trivial

theorem runAgent_serves (n : ℕ) : Serves general v (fun _ => True) (fun _ _ => True)
    (runAgent general uuidHex v n) := by
  have quiet {α : Type} {p : Py α} (used : p.Uses (Quiet general v)) :
      Serves general v (fun _ => True) (fun _ _ => True) p :=
    serves_mono (quiet_serves used) fun _ _ _ => trivial
  refine serves_bind (quiet ((uses_op _).mpr fun _ _ => rfl)) ?_ fun _ _ _ => trivial
  intro euid
  by_cases wrong : euid ≠ v.uid ∨ v.uid ≤ 0
  · rw [if_pos wrong]
    exact serves_raise _ fun _ _ => trivial
  rw [if_neg wrong]
  split
  · exact serves_raise _ fun _ _ => trivial
  refine serves_bind (quiet (checked_uses ((uses_op _).mpr fun _ _ => rfl))) ?_ fun _ _ _ => trivial
  rintro ⟨isSocket, owner⟩
  by_cases foreign : !isSocket ∨ owner ≠ v.uid
  · simp only [if_pos foreign]
    exact serves_raise _ fun _ _ => trivial
  simp only [if_neg foreign]
  refine serves_bind (checkServer_serves _) ?_ fun _ _ _ => trivial
  intro _
  refine serves_bind (serves_ofExcept (P := fun _ _ => True) _ fun _ _ => trivial) ?_ fun _ _ _ => trivial
  rintro ⟨_, path⟩
  refine serves_bind (quiet (checked_uses ((uses_op _).mpr fun _ _ => rfl))) ?_ fun _ _ _ => trivial
  intro _
  refine serves_bind (quiet (checked_uses ((uses_op _).mpr fun _ _ => rfl))) ?_ fun _ _ _ => trivial
  intro _
  refine serves_bind (quiet (checked_uses ((uses_op _).mpr fun _ _ => rfl))) ?_ fun _ _ _ => trivial
  intro _
  exact serves_from (serve_serves _ n) fun s _ => ⟨rfl, nofun⟩

end

/-! ### The protocol of a command -/

section
variable (py : Interpreter) (uuidHex : String → Option String) (lock : Obj) (event : String) (wait : Bool)

/-- The request of a command. -/
def Own (m : ℕ × Content) : Prop := ∃ session, lock.find? "session_id" = some session ∧
  m.2 = .json (.obj [("session_id", session), ("operation", .str "notify"), ("event", .str event)])

/-- A receipt of acceptance is the reply that was received. -/
def Backed (seen : Option (ℕ × Content)) (receipt : Obj) : Prop := receipt.get "state" = .str "accepted" →
  ∃ length, ∃ reply : Obj, ∃ session, seen = some (length, .json (.obj reply)) ∧
  lock.find? "session_id" = some session ∧
    (reply.get "session_id").eq session = true ∧ ∀ key, key ≠ "result" → reply.get key = receipt.get key

open scoped Classical in
noncomputable def answered (seen : Option (ℕ × Content)) : (o : Contact) → o.Res → Option Known
  | .send payload, _ => if ∃ length, Own lock event (length, .json (.obj payload)) then some (.client seen) else none
  | .receive, .ok (length, content, _) => some (.client (some (length, content)))
  | .retain _ receipt, _ => if (event? event).isSome = true ∧
      Backed lock seen receipt then some (.client seen) else none
  | _, _ => some (.client seen)

open scoped Classical in
noncomputable def contacts : Known → (o : Contact) → o.Res → Option Known
  | .client seen, o, r => if Notifications.Gentle py uuidHex lock wait o r then answered lock event seen o r
      else some .other
  | .agent _, _, _ => none
  | .other, _, _ => some .other

def Tells {ε α : Type} (A : Option (ℕ × Content) → Prop) (P : Except ε α → Option (ℕ × Content) → Prop)
    (p : Prog Contact Contact.Res ε α) : Prop :=
  ∀ seen, A seen → p.Follows (contacts py uuidHex lock event wait) (.client seen) fun x l =>
    l = .other ∨ ∃ seen', l = .client seen' ∧ P x seen'

end

section
variable {py : Interpreter} {uuidHex : String → Option String} {lock : Obj} {event : String} {wait : Bool}
  {ε ε' α β : Type}
variable {A : Option (ℕ × Content) → Prop} {P : Except ε α → Option (ℕ × Content) → Prop}
  {Q : Except ε β → Option (ℕ × Content) → Prop}
variable {p : Prog Contact Contact.Res ε α}

theorem astray_follows (p : Prog Contact Contact.Res ε α) :
    p.Follows (contacts py uuidHex lock event wait) .other fun _ l => l = .other :=
  follows_of_uses (uses_any p) fun _ _ _ => rfl

theorem tells_bind {f : α → Prog Contact Contact.Res ε β} (first : Tells py uuidHex lock event wait A P p)
    (rest : ∀ a, Tells py uuidHex lock event wait (P (.ok a)) Q (f a))
    (error : ∀ e seen, P (.error e) seen → Q (.error e) seen) :
    Tells py uuidHex lock event wait A Q (p >>= f) := by
  intro seen here
  refine follows_bind (first seen here) ?_ ?_
  · rintro a l (rfl | ⟨seen', rfl, holds⟩)
    · exact follows_mono (astray_follows _) fun _ _ lost => .inl lost
    · exact rest a seen' holds
  · rintro e l (lost | ⟨seen', same, holds⟩)
    · exact .inl lost
    · exact .inr ⟨seen', same, error e seen' holds⟩

theorem tells_attempt (tells : Tells py uuidHex lock event wait A P p) :
    Tells py uuidHex lock event wait A (fun y : Except ε' (Except ε α) => fun seen => ∃ x, y = .ok x ∧ P x seen)
      (attempt p) := by
  intro seen here
  refine follows_mono (follows_attempt (tells seen here)) ?_
  rintro y l ⟨x, same, lost | ⟨seen', there, holds⟩⟩
  · exact .inl lost
  · exact .inr ⟨seen', there, x, same, holds⟩

theorem tells_ofExcept (x : Except ε α) (ends : ∀ seen, A seen → P x seen) :
    Tells py uuidHex lock event wait A P (Prog.ofExcept x) := by
  intro seen here
  exact (follows_ofExcept x).mpr (.inr ⟨seen, rfl, ends seen here⟩)

theorem tells_op {o : Contact} {P : Except ε o.Res → Option (ℕ × Content) → Prop}
    (each : ∀ seen r, A seen → ∃ seen', answered lock event seen o r = some (.client seen') ∧ P (.ok r) seen') :
    Tells py uuidHex lock event wait A P (Prog.op o) := by
  intro seen here r
  by_cases gentle : Notifications.Gentle py uuidHex lock wait o r
  · obtain ⟨seen', allowed, holds⟩ := each seen r here
    exact ⟨.client seen', (if_pos gentle).trans allowed, .inr ⟨seen', rfl, holds⟩⟩
  · exact ⟨.other, if_neg gentle, .inl rfl⟩

/-- The answer to a notification, when it is one of acceptance. -/
def Received (lock : Obj) (x : Except Raised Obj) (seen : Option (ℕ × Content)) : Prop :=
  ∀ receipt, x = .ok receipt → Backed lock seen receipt

theorem received_error {e : Raised} {seen : Option (ℕ × Content)} : Received lock (.error e) seen := by
  intro receipt same
  cases same

/-- A step of the exchange that raises what it failed with. -/
theorem tells_raised {α : Type} {o : Contact} {B : α → Option (ℕ × Content) → Prop}
    {f : α → Notifications.Talk Raised Obj} {x : o.Res → Except Exc α}
    (each : ∀ seen r, A seen → ∃ seen', answered lock event seen o r = some (.client seen') ∧ ∀ a,
      x r = .ok a → B a seen')
    (rest : ∀ a, Tells py uuidHex lock event wait (B a) (Received lock) (f a)) :
    Tells py uuidHex lock event wait A (Received lock) (Prog.op o >>= fun r => Notifications.raised (x r) >>= f) := by
  refine tells_bind (P := fun y seen => ∀ r, y = .ok r → ∀ a, x r = .ok a → B a seen) (tells_op ?_) ?_ ?_
  · intro seen r here
    obtain ⟨seen', allowed, holds⟩ := each seen r here
    refine ⟨seen', allowed, ?_⟩
    intro other same
    cases same
    exact holds
  · intro r
    cases result : x r with
    | ok a =>
      intro seen here
      exact rest a seen (here r rfl a result)
    | error e => exact tells_ofExcept (.error _) fun _ _ => received_error
  · intro e seen _
    exact received_error

/-- What `judge` takes for a receipt. -/
theorem judge_ok {session : Json} {maxAge now : ℚ} {length : ℕ} {content : Content} {receipt : Obj}
    (judged : judge py uuidHex session maxAge length content now = .ok receipt) :
    content = .json (.obj receipt) ∧ (receipt.get "session_id").eq session = true := by
  rw [judge] at judged
  cases taken : message length content with
  | error e => simp [taken, bind, Except.bind] at judged
  | ok payload =>
    have isReceived : received length content = .ok payload := by rw [received, taken]
    have isContent := received_content isReceived
    cases checked : Notifications.checkReceipt session payload with
    | error e => simp [taken, checked, bind, Except.bind] at judged
    | ok _ =>
      have same : payload = receipt := by
        cases agent : Notifications.checkAgent py uuidHex maxAge now payload with
        | error e => simp [taken, checked, agent, bind, Except.bind] at judged
        | ok _ =>
          cases acceptance : Notifications.checkAcceptance payload with
          | error e => simp [taken, checked, agent, acceptance, bind, Except.bind] at judged
          | ok _ => simpa [taken, checked, agent, acceptance, bind, Except.bind] using judged
      subst same
      refine ⟨isContent, ?_⟩
      by_contra foreign
      simp [Notifications.checkReceipt, foreign] at checked

theorem rpc_tells (maxAge timeout : ℚ) : Tells py uuidHex lock event wait (fun _ => True) (Received lock)
    (rpc py uuidHex lock maxAge "notify" event timeout wait) := by
  rw [rpc]
  cases addressed : Notifications.address uuidHex lock with
  | error e => exact tells_ofExcept (.error e) fun _ _ => received_error
  | ok found =>
    obtain ⟨uid, session, path⟩ := found
    have named : lock.find? "session_id" = some session := Notifications.address_session addressed
    refine tells_raised (o := .connect path timeout) (x := id) (B := fun _ _ => True)
      (fun seen r _ => ⟨seen, rfl, fun _ _ => trivial⟩) ?_
    intro _
    refine tells_raised (o := .peer) (x := id) (B := fun _ _ => True)
      (fun seen r _ => ⟨seen, rfl, fun _ _ => trivial⟩) ?_
    intro peer
    by_cases expected : peer = uid
    case neg =>
      rw [if_neg expected]
      exact tells_ofExcept (.error _) fun _ _ => received_error
    rw [if_pos expected]
    refine tells_raised (o := .send _) (x := id) (B := fun _ _ => True)
      (fun seen r _ => ⟨seen, if_pos ⟨0, session, named, rfl⟩, fun _ _ => trivial⟩) ?_
    intro _
    cases wait with
    | false =>
      refine tells_ofExcept (.ok _) ?_
      intro seen _ receipt same accepted
      cases same
      simp [Obj.get, find?_cons] at accepted
    | true =>
      refine tells_raised (o := .receive) (x := id) (B := fun m seen => seen = some (m.1, m.2.1)) ?_ ?_
      · intro seen r _
        cases r with
        | ok m => exact ⟨some (m.1, m.2.1), rfl, fun a same => by cases same; rfl⟩
        | error e => exact ⟨seen, rfl, fun a same => by cases same⟩
      · rintro ⟨length, content, now⟩
        refine tells_ofExcept _ ?_
        rintro seen rfl receipt judged accepted
        obtain ⟨rfl, ours⟩ := judge_ok judged
        exact ⟨length, receipt, session, rfl, named, ours, fun _ _ => rfl⟩

theorem backed_other {seen : Option (ℕ × Content)} {receipt : Obj} (text : String)
    (state : receipt.get "state" = .str text)
    (other : text ≠ "accepted") : Backed lock seen receipt := by
  intro accepted
  rw [state, Json.str.injEq] at accepted
  exact absurd accepted other

theorem settle_backed {answer : Except Raised Obj} {seen : Option (ℕ × Content)} {receipt : Obj}
    (taken : Received lock answer seen)
    (settled : (Notifications.receiptOf event answer).map (Notifications.settle wait) = .ok receipt) :
    Backed lock seen receipt := by
  cases answer with
  | ok reply =>
    obtain rfl := Except.ok.inj settled
    by_cases unsettled : (wait && (reply.get "state").isStr "pending") = true
    · refine backed_other "unconfirmed" ?_ (by decide)
      simp [Notifications.settle, unsettled, Obj.update]
    · rw [Notifications.settle, if_neg unsettled]
      exact taken reply rfl
  | error failure =>
    have own {text reason : String} (known : text = "failed" ∨ text = "unconfirmed")
        (same : Notifications.settle wait [("state", .str text), ("reason", .str reason), ("event", .str event)] =
          receipt) : Backed lock seen receipt := by
      have kept : Notifications.settle wait [("state", .str text), ("reason", .str reason), ("event", .str event)] =
          [("state", .str text), ("reason", .str reason), ("event", .str event)] := by
        rcases known with rfl | rfl <;> simp [Notifications.settle, Obj.get, find?_cons, Json.isStr]
      rw [kept] at same
      subst same
      refine backed_other text (by simp [Obj.get, find?_cons]) ?_
      rcases known with rfl | rfl <;> decide
    cases failure with
    | notification message => exact own (.inl rfl) (Except.ok.inj settled)
    | other e =>
      rw [Notifications.receiptOf] at settled
      by_cases late : e = .osError "TimeoutError"
      · rw [if_pos late] at settled
        exact own (.inr rfl) (Except.ok.inj settled)
      · rw [if_neg late] at settled
        by_cases caught : (e.isOSError || e.isValueError) = true
        · rw [if_pos caught] at settled
          exact own (.inl rfl) (Except.ok.inj settled)
        · rw [if_neg caught] at settled
          cases settled

theorem conclude_tells (known : (event? event).isSome = true) (answer : Except Raised Obj) :
    Tells py uuidHex lock event wait (Received lock answer) (fun _ _ => True)
    (Notifications.conclude py lock event wait answer) := by
  refine tells_bind (P := fun x seen => ∀ receipt, x = .ok receipt → Backed lock seen receipt)
    (tells_ofExcept _ ?_) ?_ fun _ _ _ => trivial
  · intro seen taken receipt settled
    exact settle_backed taken settled
  intro receipt
  refine tells_bind (P := fun _ seen => Backed lock seen receipt)
    (tells_ofExcept _ fun seen backed => backed receipt rfl) ?_ fun _ _ _ => trivial
  intro diagnostics
  split
  · exact tells_ofExcept (.ok _) fun _ _ => trivial
  · refine tells_bind (P := fun _ _ => True) (tells_op ?_) ?_ fun _ _ _ => trivial
    · intro seen r backed
      refine ⟨seen, if_pos ⟨known, ?_⟩, trivial⟩
      have same (key : String) (other : key ≠ "result") :
          (receipt.update [("result", .obj (Result.add {} diagnostics).asDict)]).get key = receipt.get key :=
        get_update _ (by simpa [Obj.keys] using other)
      intro accepted
      rw [same "state" (by decide)] at accepted
      obtain ⟨length, reply, session, isSeen, named, ours, agrees⟩ := backed accepted
      exact ⟨length, reply, session, isSeen, named, ours,
        fun key other => (agrees key other).trans (same key other).symm⟩
    · intro r
      cases r with
      | ok _ => exact tells_ofExcept (.ok _) fun _ _ => trivial
      | error e =>
        by_cases isException : e.isException = true
        · simp only [if_pos isException]
          exact tells_ofExcept (.ok _) fun _ _ => trivial
        · simp only [if_neg isException]
          exact tells_ofExcept (.error e) fun _ _ => trivial

theorem emit_tells : Tells py uuidHex lock event wait (fun _ => True) (fun _ _ => True)
    (emit py uuidHex lock event wait) := by
  refine tells_bind (P := fun _ _ => True) (tells_ofExcept _ fun _ _ => trivial) ?_ fun _ _ _ => trivial
  intro settings
  by_cases enabled : settings.notifications.enabled.truthy = true
  case neg =>
    rw [if_neg enabled]
    exact tells_ofExcept (.ok _) fun _ _ => trivial
  rw [if_pos enabled]
  cases found : event? event with
  | none => exact tells_ofExcept (.error _) fun _ _ => trivial
  | some _ =>
    refine tells_bind (tells_attempt (rpc_tells _ _)) ?_ fun _ _ _ => trivial
    intro answer seen here
    obtain ⟨_, same, taken⟩ := here
    cases same
    exact conclude_tells (by rw [found]; rfl) answer seen taken

end

/-! ### The invariant -/

section
variable (general : ℚ → String) (py : Interpreter) (uuidHex : String → Option String) (v : Options)

/-- What a command goes on with: diagnostics, or what its lock makes it raise before anything is sent. -/
def Comes (lock : Obj) (event : String) (wait : Bool) (x : Except Exc (List Diagnostic)) : Prop :=
  Notifications.Noticed x ∨ ∃ e, emit py uuidHex lock event wait = .raise e

open scoped Classical in
noncomputable def protocol : Call → Known → (o : Op ⊕ ClientOp) → Res Op.Res ClientOp.Res o → Option Known
  | .agent .., l, .inl o, r => next general v l o r
  | .command _ lock event wait, l, .inr (.contact o), r => contacts py uuidHex lock event wait l o r
  | .command _ lock event wait, l, .inr (.outcome x), _ =>
    if l = .other ∨ Comes py uuidHex lock event wait x then some l else none
  | .anyone .., l, .inr _, _ => some l
  | _, _, _, _ => none

/-- What came over a connection in reply to one of these messages. -/
def Replied (log : List Entry) (asked : ℕ × Content → Prop) (content : Content) : Prop :=
  ∃ payload, content = .json (.obj payload) ∧ ∃ m, asked m ∧ Says general v log (Asks v · m) payload

/-- What process `i` received, over a connection of its own, in reply to one of these messages. -/
def Answered (w : World) (i : ℕ) (asked : ℕ × Content → Prop) (content : Content) : Prop :=
  ∃ k, k < w.count ∧ (w.connections k).owner = i ∧
    Replied general v w.scene.log (fun m => m ∈ (w.connections k).sent ∧ asked m) content

structure Shared (start w : World) : Prop where
  clock : start.scene.now ≤ w.scene.now
  backlog : ∀ i, ∀ k ∈ w.backlog i, k < w.count
  pending : ∀ k, ∀ m ∈ (w.connections k).pending, m ∈ (w.connections k).sent
  replies : ∀ k, ∀ m ∈ (w.connections k).replies, Replied general v w.scene.log (· ∈ (w.connections k).sent) m.2

/-- What an agent has read is so. -/
structure Reads (w : World) (i : ℕ) (s : Serving) : Prop where
  clock : s.scene.now ≤ w.scene.now
  accepts : ∀ event id, Accepts general event id s.scene.log → Accepts general event id w.scene.log
  held : ∀ k, w.held i = some k → k < w.count
  peer : ∀ uid, s.peer = some uid → ∃ k, w.held i = some k ∧ (w.connections k).peer = uid
  heard : ∀ m, s.heard = some m → m = closed ∨ ∃ k, w.held i = some k ∧ m ∈ (w.connections k).sent

/-- The connection of a process is its own. -/
def Holds (w : World) (i : ℕ) : Prop := ∀ k, w.held i = some k → k < w.count ∧ (w.connections k).owner = i

structure Waits (w : World) (i : ℕ) (lock : Obj) (event : String) (seen : Option (ℕ × Content)) : Prop where
  holds : Holds w i
  sent : ∀ k, w.held i = some k → ∀ m ∈ (w.connections k).sent, Own lock event m
  seen : ∀ m, seen = some m → m = closed ∨ Answered general v w i (Own lock event) m.2

def Local (w : World) (i : ℕ) : Call → Known → Prop
  | .agent .., .agent s => Reads general w i s
  | .command _ lock event _, .client seen => Waits general v w i lock event seen
  | .anyone .., .client _ => Holds w i
  | _, _ => False

/-- What a step of process `i` leaves to the others. -/
structure Extends (i : ℕ) (w w' : World) : Prop where
  clock : w.scene.now ≤ w'.scene.now
  log : ∀ entry ∈ w.scene.log, entry ∈ w'.scene.log
  count : w.count ≤ w'.count
  held : ∀ j, j ≠ i → w'.held j = w.held j
  ends : ∀ k, k < w.count → (w'.connections k).peer = (w.connections k).peer ∧
    (w'.connections k).owner = (w.connections k).owner
  sent : ∀ k, k < w.count → ∀ m ∈ (w.connections k).sent, m ∈ (w'.connections k).sent
  foreign : ∀ k, k < w.count → (w.connections k).owner ≠ i → (w'.connections k).sent = (w.connections k).sent

end

section
variable {general : ℚ → String} {py : Interpreter} {uuidHex : String → Option String} {v : Options}
  {w w' : World} {i j : ℕ}
variable {log more : List Entry} {asked asked' : ℕ × Content → Prop} {content : Content}

theorem Replied.mono (replied : Replied general v log asked content) (sub : ∀ entry ∈ log, entry ∈ more)
    (asks : ∀ m, asked m → asked' m) :
    Replied general v more asked' content := by
  obtain ⟨payload, same, m, was, said⟩ := replied
  exact ⟨payload, same, m, asks m was, said.mono sub⟩

theorem Extends.refl (w : World) : Extends i w w :=
  ⟨le_rfl, fun _ member => member, le_rfl, fun _ _ => rfl, fun _ _ => ⟨rfl, rfl⟩, fun _ _ _ member =>
    member, fun _ _ _ => rfl⟩

theorem Answered.mono (received : Answered general v w j asked content) (extended : Extends i w w')
    (asks : ∀ m, asked m → asked' m) :
    Answered general v w' j asked' content := by
  obtain ⟨k, below, owner, replied⟩ := received
  refine ⟨k, below.trans_le extended.count, (extended.ends k below).2.trans owner, replied.mono extended.log ?_⟩
  exact fun m was => ⟨extended.sent k below m was.1, asks m was.2⟩

theorem local_extends (extended : Extends i w w') {c : Call} {l : Known} (other : j ≠ i)
    (known : Local general v w j c l) :
    Local general v w' j c l := by
  have holds (held : Holds w j) : Holds w' j := by
    intro k now
    rw [extended.held j other] at now
    obtain ⟨below, owner⟩ := held k now
    exact ⟨below.trans_le extended.count, (extended.ends k below).2.trans owner⟩
  cases c with
  | agent euid n =>
    cases l with
    | agent s =>
      refine ⟨known.clock.trans extended.clock,
        fun event id accepts => accepts_mono (known.accepts event id accepts) extended.log, ?_, ?_, ?_⟩
      · intro k now
        rw [extended.held j other] at now
        exact (known.held k now).trans_le extended.count
      · intro uid peer
        obtain ⟨k, now, same⟩ := known.peer uid peer
        exact ⟨k, (extended.held j other).trans now, ((extended.ends k (known.held k now)).1).trans same⟩
      · intro m heard
        rcases known.heard m heard with spent | ⟨k, now, member⟩
        · exact .inl spent
        · exact .inr ⟨k, (extended.held j other).trans now, extended.sent k (known.held k now) m member⟩
    | client _ => exact known.elim
    | other => exact known.elim
  | command uid lock event wait =>
    cases l with
    | client seen =>
      refine ⟨holds known.holds, ?_, ?_⟩
      · intro k now
        rw [extended.held j other] at now
        obtain ⟨below, owner⟩ := known.holds k now
        rw [extended.foreign k below (by rw [owner]; exact other)]
        exact known.sent k now
      · intro m last
        exact (known.seen m last).imp_right fun received => received.mono extended fun _ own => own
    | agent _ => exact known.elim
    | other => exact known.elim
  | anyone uid p =>
    cases l with
    | client _ => exact holds known
    | agent _ => exact known.elim
    | other => exact known.elim

/-- A reply of the agent does not trip a command. -/
theorem says_harmless {asked : String → Prop} {payload : Obj} (said : Says general v log asked payload)
    (session : Json) (maxAge now : ℚ) :
    ¬ Notifications.Trips py uuidHex session maxAge now (.json (.obj payload)) := by
  intro trips
  cases trips with
  | unhashable _ container =>
    obtain ⟨text, _, state⟩ := said.state
    rcases container with ⟨items, same⟩ | ⟨fields, same⟩
    · rw [state] at same
      cases same
    · rw [state] at same
      cases same
  | huge _ _ progress _ =>
    obtain ⟨t, float⟩ := said.progress
    rw [float] at progress
    cases progress
  | unexplained _ _ _ reason =>
    obtain ⟨text, given⟩ := said.reason
    rw [given] at reason
    cases reason

end

/-! ### One step -/

section
variable {general : ℚ → String} {py : Interpreter} {uuidHex : String → Option String} {v : Options} {size : Obj → ℕ}
  {start w w' : World}
variable {i : ℕ} {uid : ℤ} {fate : Fate}

theorem failed_same {α : Type} {e : Exc} {able : Bool} {r : Except Exc α} (performed : failed w e able = some (r, w')) :
    w' = w ∧ r = .error e ∧ able = true := by
  rw [failed] at performed
  by_cases possible : able = true
  · rw [if_pos possible] at performed
    cases performed
    exact ⟨rfl, rfl, possible⟩
  · rw [if_neg possible] at performed
    cases performed

theorem Shared.mono (shared : Shared general v start w) (clock : w.scene.now ≤ w'.scene.now)
    (log : ∀ entry ∈ w.scene.log, entry ∈ w'.scene.log)
    (backlog : ∀ i, ∀ k ∈ w'.backlog i, k < w'.count)
    (pending : ∀ k, ∀ m ∈ (w'.connections k).pending, m ∈ (w.connections k).pending)
    (replies : ∀ k, ∀ m ∈ (w'.connections k).replies, m ∈ (w.connections k).replies)
    (sent : ∀ k, (w'.connections k).sent = (w.connections k).sent) : Shared general v start w' where
  clock := shared.clock.trans clock
  backlog := backlog
  pending k m member := by
    rw [sent k]
    exact shared.pending k m (pending k m member)
  replies k m member := by
    rw [sent k]
    exact (shared.replies k m (replies k m member)).mono log fun _ asked => asked

/-- A reading that is not of the notification server accepts nothing. -/
theorem accepts_read {event : String} {id : ℤ} {log : List Entry} {t : ℚ}
    (accepts : Accepts general event id (log ++ [.read t])) :
    Accepts general event id log := by
  obtain ⟨found, now, bus, replaced, budget, length, payload, known, member, rest⟩ := accepts
  rcases List.mem_append.mp member with old | new
  · exact ⟨found, now, bus, replaced, budget, length, payload, known, old, rest⟩
  · simp at new

/-- What a call accepts does not depend on when it was made. -/
theorem accepts_called {event : String} {id : ℤ} {log more : List Entry} {now later budget : ℚ}
    {arguments : List String} {process : Process}
    (old : Accepts general event id log → Accepts general event id more)
    (accepts : Accepts general event id (log ++ [.called now arguments budget process])) :
    Accepts general event id (more ++ [.called later arguments budget process]) := by
  obtain ⟨found, time, bus, replaced, timeout, length, payload, known, member, rest⟩ := accepts
  rcases List.mem_append.mp member with before | new
  · exact accepts_mono (old ⟨found, time, bus, replaced, timeout, length, payload, known, before, rest⟩)
      fun entry member => List.mem_append_left _ member
  · simp only [List.mem_singleton, Entry.called.injEq] at new
    obtain ⟨rfl, rfl, rfl, rfl⟩ := new
    exact ⟨found, later, bus, replaced, timeout, length, payload, known, by simp, rest⟩

/-- A step of a delivery. -/
theorem delivery_keeps {s : Serving} {o : Receipts.Op} {r : o.Res} {l : Known} {turn : Receipts.Fate} {scene : Scene}
    (shared : Shared general v start w) (reads : Reads general w i s)
    (performed : Receipts.perform w.scene o turn = some (r, scene))
    (allowed : heed general v s (.delivery o) r = some l) :
    Shared general v start { w with scene := scene } ∧
      (∃ s', l = .agent s' ∧ Reads general { w with scene := scene } i s') ∧
      Extends i w { w with scene := scene } := by
  have grows (clock : w.scene.now ≤ scene.now) (log : ∀ entry ∈ w.scene.log, entry ∈ scene.log) :
      Shared general v start { w with scene := scene } ∧ Extends i w { w with scene := scene } :=
    ⟨shared.mono clock log shared.backlog (fun _ _ member => member) (fun _ _ member => member) fun _ => rfl,
      clock, log, le_rfl, fun _ _ => rfl, fun _ _ => ⟨rfl, rfl⟩, fun _ _ _ member => member, fun _ _ _ => rfl⟩
  cases o with
  | boottime =>
    cases turn with
    | process process => cases performed
    | time t =>
      change (if w.scene.now ≤ t then some (t, (⟨t, w.scene.log ++ [.read t]⟩ : Scene)) else none) =
        some (r, scene) at performed
      by_cases later : w.scene.now ≤ t
      · rw [if_pos later] at performed
        cases performed
        have after : s.scene.now ≤ r := reads.clock.trans later
        rw [heed, if_pos after] at allowed
        cases allowed
        have longer : ∀ entry ∈ w.scene.log, entry ∈ w.scene.log ++ [.read r] :=
          fun entry member => List.mem_append_left _ member
        obtain ⟨shared', extended⟩ := grows later longer
        refine ⟨shared', ⟨_, rfl, le_rfl, ?_, reads.held, reads.peer, reads.heard⟩, extended⟩
        intro event id accepts
        exact accepts_mono (reads.accepts event id (accepts_read accepts)) longer
      · rw [if_neg later] at performed
        cases performed
  | busctl arguments budget =>
    cases turn with
    | time t => cases performed
    | process process =>
      cases performed
      rw [heed] at allowed
      by_cases spoken : Spoken general v s arguments budget
      · rw [if_pos spoken] at allowed
        cases allowed
        obtain ⟨shared', extended⟩ := grows le_rfl fun entry member => List.mem_append_left _ member
        refine ⟨shared', ⟨_, rfl, reads.clock, ?_, reads.held, reads.peer, reads.heard⟩, extended⟩
        intro event id accepts
        exact accepts_called (reads.accepts event id) accepts
      · rw [if_neg spoken] at allowed
        cases allowed

/-- A change of one connection of the agent's. -/
theorem put_keeps {k : ℕ} {c : Connection} (shared : Shared general v start w)
    (same : c.peer = (w.connections k).peer ∧ c.owner = (w.connections k).owner ∧ c.sent = (w.connections k).sent)
    (pending : ∀ m ∈ c.pending, m ∈ (w.connections k).pending)
    (replies : ∀ m ∈ c.replies, Replied general v w.scene.log (· ∈ (w.connections k).sent) m.2) :
    Shared general v start (w.put k c) ∧ Extends i w (w.put k c) := by
  have sent (n : ℕ) : ((w.put k c).connections n).sent = (w.connections n).sent := by
    by_cases here : n = k
    · subst here
      simpa [World.put] using same.2.2
    · simp [World.put, here]
  constructor
  · refine ⟨shared.clock, shared.backlog, ?_, ?_⟩
    · intro n m member
      rw [sent n]
      by_cases here : n = k
      · subst here
        exact shared.pending n m (pending m (by simpa [World.put] using member))
      · exact shared.pending n m (by simpa [World.put, here] using member)
    · intro n m member
      rw [sent n]
      by_cases here : n = k
      · subst here
        exact replies m (by simpa [World.put] using member)
      · exact shared.replies n m (by simpa [World.put, here] using member)
  · refine ⟨le_rfl, fun _ member => member, le_rfl, fun _ _ => rfl, ?_, ?_, fun n _ _ => sent n⟩
    · intro n _
      by_cases here : n = k
      · subst here
        simpa [World.put] using ⟨same.1, same.2.1⟩
      · simp [World.put, here]
    · intro n _ m member
      rw [sent n]
      exact member

/-- Every step of an agent. -/
theorem serveOp_keeps {s : Serving} {o : Op} {r : o.Res} {l : Known} (shared : Shared general v start w)
    (reads : Reads general w i s)
    (performed : serveOp size i uid w o fate = some (r, w')) (allowed : heed general v s o r = some l) :
    Shared general v start w' ∧ (∃ s', l = .agent s' ∧ Reads general w' i s') ∧ Extends i w w' := by
  have still (same : w' = w) (quiet : l = .agent s) :
      Shared general v start w' ∧ (∃ s', l = .agent s' ∧ Reads general w' i s') ∧ Extends i w w' := by
    subst same
    exact ⟨shared, ⟨s, quiet, reads⟩, Extends.refl _⟩
  have failing {α : Type} {e : Exc} {able : Bool} {x : Except Exc α} (raises : failed w e able = some (x, w'))
      (quiet : x = .error e → l = .agent s) :
      Shared general v start w' ∧ (∃ s', l = .agent s' ∧ Reads general w' i s') ∧ Extends i w w' := by
    obtain ⟨same, failed, _⟩ := failed_same raises
    exact still same (quiet failed)
  cases o with
  | geteuid =>
    cases fate <;> simp only [serveOp, reduceCtorEq, Option.some.injEq, Prod.mk.injEq] at performed
    exact still performed.2.symm (Option.some.inj allowed).symm
  | lstat path =>
    cases fate <;> simp only [serveOp, reduceCtorEq, Option.some.injEq, Prod.mk.injEq] at performed
    case found => exact still performed.2.symm (Option.some.inj allowed).symm
    case raises e => exact failing performed fun _ => (Option.some.inj allowed).symm
  | delivery o =>
    cases fate <;> simp only [serveOp, reduceCtorEq] at performed
    case delivered turn =>
      obtain ⟨⟨r', scene⟩, turned, same⟩ := Option.map_eq_some_iff.mp performed
      cases same
      exact delivery_keeps shared reads turned allowed
  | unlink path =>
    cases fate <;> simp only [serveOp, reduceCtorEq, Option.some.injEq, Prod.mk.injEq] at performed
    case ok =>
      obtain ⟨rfl, rfl⟩ := performed
      cases Option.some.inj allowed
      exact ⟨⟨shared.clock, shared.backlog, shared.pending, shared.replies⟩,
        ⟨s, rfl, ⟨reads.clock, reads.accepts, reads.held, reads.peer, reads.heard⟩⟩,
        ⟨le_rfl, fun _ member => member, le_rfl, fun _ _ => rfl, fun _ _ => ⟨rfl, rfl⟩, fun _ _ _ member =>
          member, fun _ _ _ => rfl⟩⟩
    case raises e => exact failing performed fun _ => (Option.some.inj allowed).symm
  | listen path =>
    cases fate <;> simp only [serveOp, reduceCtorEq, Option.some.injEq, Prod.mk.injEq] at performed
    case ok =>
      obtain ⟨rfl, rfl⟩ := performed
      cases Option.some.inj allowed
      refine ⟨⟨shared.clock, ?_, shared.pending, shared.replies⟩,
        ⟨s, rfl, ⟨reads.clock, reads.accepts, reads.held, reads.peer, reads.heard⟩⟩,
        ⟨le_rfl, fun _ member => member, le_rfl, fun _ _ => rfl, fun _ _ => ⟨rfl, rfl⟩, fun _ _ _ member =>
          member, fun _ _ _ => rfl⟩⟩
      intro j k member
      by_cases here : j = i
      · subst here
        simp at member
      · exact shared.backlog j k (by simpa [here] using member)
    case raises e => exact failing performed fun _ => (Option.some.inj allowed).symm
  | progress ready =>
    cases fate <;> simp only [serveOp, reduceCtorEq, Option.some.injEq, Prod.mk.injEq] at performed
    case ok => exact still performed.2.symm (Option.some.inj allowed).symm
    case raises e => exact failing performed fun _ => (Option.some.inj allowed).symm
  | accept timeout =>
    cases fate <;> simp only [serveOp, reduceCtorEq] at performed
    case ok =>
      split at performed
      case h_1 k rest waiting =>
        cases performed
        cases Option.some.inj allowed
        have below : k < w.count := shared.backlog i k (by rw [waiting]; exact List.mem_cons_self)
        refine ⟨⟨shared.clock, ?_, shared.pending, shared.replies⟩,
          ⟨_, rfl, ⟨reads.clock, reads.accepts, ?_, nofun, nofun⟩⟩,
          ⟨le_rfl, fun _ member => member, le_rfl, ?_, fun _ _ => ⟨rfl, rfl⟩, fun _ _ _ member =>
            member, fun _ _ _ => rfl⟩⟩
        · intro j n member
          by_cases here : j = i
          · subst here
            exact shared.backlog j n (by rw [waiting]; exact List.mem_cons_of_mem _ (by simpa using member))
          · exact shared.backlog j n (by simpa [here] using member)
        · intro n now
          have same : k = n := by simpa using now
          exact same ▸ below
        · intro j other
          simp [other]
      case h_2 => cases performed
    case raises e =>
      refine failing performed fun failed => ?_
      subst failed
      exact (Option.some.inj allowed).symm
  | peer =>
    cases fate <;> simp only [serveOp, reduceCtorEq] at performed
    case ok =>
      obtain ⟨k, held, same⟩ := Option.map_eq_some_iff.mp performed
      cases same
      cases Option.some.inj allowed
      refine ⟨shared, ⟨_, rfl, ⟨reads.clock, reads.accepts, reads.held, ?_, reads.heard⟩⟩, Extends.refl _⟩
      intro other peer
      exact ⟨k, held, Option.some.inj peer⟩
    case raises e =>
      refine failing performed fun failed => ?_
      subst failed
      exact (Option.some.inj allowed).symm
  | receive =>
    cases fate <;> simp only [serveOp, reduceCtorEq, Option.some.injEq, Prod.mk.injEq] at performed
    case ok =>
      obtain ⟨k, held, taken⟩ := Option.bind_eq_some_iff.mp performed
      split at taken
      case h_1 m rest waiting =>
        cases taken
        cases Option.some.inj allowed
        have member : m ∈ (w.connections k).sent := shared.pending k m (by rw [waiting]; exact List.mem_cons_self)
        obtain ⟨shared', extended⟩ := put_keeps (c := { w.connections k with pending := rest }) shared ⟨rfl, rfl, rfl⟩
          (fun n member => by rw [waiting]; exact List.mem_cons_of_mem _ member) (shared.replies k)
        refine ⟨shared', ⟨_, rfl, ⟨reads.clock, reads.accepts, reads.held, ?_, ?_⟩⟩, extended⟩
        · intro other peer
          obtain ⟨n, there, same⟩ := reads.peer other peer
          exact ⟨n, there, ((extended.ends n (reads.held n there)).1).trans same⟩
        · intro n same
          cases same
          exact .inr ⟨k, held, extended.sent k (reads.held k held) _ member⟩
      case h_2 => cases taken
    case eof =>
      obtain ⟨rfl, rfl⟩ := performed
      cases Option.some.inj allowed
      refine ⟨shared, ⟨_, rfl, ⟨reads.clock, reads.accepts, reads.held, reads.peer, ?_⟩⟩, Extends.refl _⟩
      intro n same
      exact .inl (Option.some.inj same).symm
    case raises e =>
      refine failing performed fun failed => ?_
      subst failed
      exact (Option.some.inj allowed).symm
  | send payload =>
    rw [heed] at allowed
    by_cases speech : ∃ m, s.heard = some m ∧ m ≠ closed ∧ Says general v s.scene.log (Asks v · m) payload
    case neg =>
      rw [if_neg speech] at allowed
      cases allowed
    rw [if_pos speech] at allowed
    cases fate <;> simp only [serveOp, reduceCtorEq] at performed
    case ok =>
      by_cases large : maxMessage < size payload
      · rw [if_pos large] at performed
        cases performed
        exact still rfl (Option.some.inj allowed).symm
      · rw [if_neg large] at performed
        obtain ⟨k, held, same⟩ := Option.map_eq_some_iff.mp performed
        cases same
        cases Option.some.inj allowed
        obtain ⟨m, heard, filled, said⟩ := speech
        have member : m ∈ (w.connections k).sent := by
          rcases reads.heard m heard with spent | ⟨n, there, member⟩
          · exact absurd spent filled
          · cases held.symm.trans there
            exact member
        have said' : Says general v w.scene.log (Asks v · m) payload := by
          refine ⟨said.session, said.progress, said.state, said.reason, fun accepted => ?_⟩
          obtain ⟨event, id, about, identified, accepts, only⟩ := said.accepted accepted
          exact ⟨event, id, about, identified, reads.accepts event id accepts, only⟩
        obtain ⟨shared', extended⟩ := put_keeps (k := k)
          (c := { w.connections k with replies := (w.connections k).replies ++ [(size payload, .json (.obj payload))] })
          shared ⟨rfl, rfl, rfl⟩
          (fun _ member => member) (by
            intro n new
            rcases List.mem_append.mp new with old | new
            · exact shared.replies k n old
            · rw [List.mem_singleton.mp new]
              exact ⟨payload, rfl, m, member, said'⟩)
        refine ⟨shared', ⟨s, rfl, ⟨reads.clock, reads.accepts, reads.held, ?_, ?_⟩⟩, extended⟩
        · intro other peer
          obtain ⟨n, there, same⟩ := reads.peer other peer
          exact ⟨n, there, ((extended.ends n (reads.held n there)).1).trans same⟩
        · intro n there
          exact (reads.heard n there).imp_right fun ⟨c, held, member⟩ =>
            ⟨c, held, extended.sent c (reads.held c held) n member⟩
    case raises e => exact failing performed fun _ => (Option.some.inj allowed).symm

/-- What an operation sends. -/
def Sends : ClientOp → ℕ × Content → Prop
  | .contact (.send payload), m => m.2 = .json (.obj payload)
  | .post length content, m => m = (length, content)
  | _, _ => False

/-- A step of a process that is not an agent keeps the invariant, and what is sent on its connection. -/
def Connects (general : ℚ → String) (v : Options) (start : World) (i : ℕ) (o : ClientOp) (w w' : World) : Prop :=
  Shared general v start w' ∧ Holds w' i ∧ Extends i w w' ∧
    ∀ k, w'.held i = some k → ∀ m ∈ (w'.connections k).sent,
    (w.held i = some k ∧ m ∈ (w.connections k).sent) ∨ Sends o m

theorem connects_same {o : ClientOp} (shared : Shared general v start w) (holds : Holds w i) :
    Connects general v start i o w w :=
  ⟨shared, holds, Extends.refl w, fun _ held _ member => .inl ⟨held, member⟩⟩

theorem push_keeps {o : ClientOp} {m : ℕ × Content} {r : Except Exc Unit} (shared : Shared general v start w)
    (holds : Holds w i)
    (pushed : w.push i m = some (r, w')) (sends : Sends o m) : Connects general v start i o w w' := by
  obtain ⟨k, held, same⟩ := Option.map_eq_some_iff.mp pushed
  cases same
  obtain ⟨below, owner⟩ := holds k held
  refine ⟨⟨shared.clock, shared.backlog, ?_, ?_⟩, ?_,
    ⟨le_rfl, fun _ member => member, le_rfl, fun _ _ => rfl, ?_, ?_, ?_⟩, ?_⟩
  · intro n q member
    by_cases here : n = k
    · subst here
      simp only [World.put, Function.update_self, List.mem_append] at member ⊢
      exact member.imp_left (shared.pending n q)
    · simpa [World.put, here] using shared.pending n q (by simpa [World.put, here] using member)
  · intro n q member
    by_cases here : n = k
    · subst here
      simp only [World.put, Function.update_self] at member ⊢
      exact (shared.replies n q member).mono (fun _ member => member) fun _ asked => List.mem_append_left _ asked
    · simpa [World.put, here] using shared.replies n q (by simpa [World.put, here] using member)
  · intro n now
    cases held.symm.trans now
    exact ⟨below, by simpa [World.put] using owner⟩
  · intro n _
    by_cases here : n = k
    · subst here
      simp [World.put]
    · simp [World.put, here]
  · intro n _ q member
    by_cases here : n = k
    · subst here
      simp only [World.put, Function.update_self, List.mem_append]
      exact .inl member
    · simpa [World.put, here] using member
  · intro n _ foreign
    have other : n ≠ k := by
      rintro rfl
      exact foreign owner
    simp [World.put, other]
  · intro n now q member
    cases held.symm.trans now
    simp only [World.put, Function.update_self, List.mem_append, List.mem_singleton] at member
    rcases member with old | rfl
    · exact .inl ⟨held, old⟩
    · exact .inr sends

/-- A new connection. -/
theorem connect_keeps {o : ClientOp} {a : ℕ} {agent : ℤ} (shared : Shared general v start w) :
    Connects general v start i o w { w with
      connections := Function.update w.connections w.count ⟨i, uid, agent, [], [], []⟩, count := w.count + 1,
      backlog := Function.update w.backlog a (w.backlog a ++ [w.count]), held :=
        Function.update w.held i (some w.count) } := by
  refine ⟨⟨shared.clock, ?_, ?_, ?_⟩, ?_, ⟨le_rfl, fun _ member => member, Nat.le_succ _, ?_, ?_, ?_, ?_⟩, ?_⟩
  · intro j k member
    by_cases here : j = a
    · subst here
      simp only [Function.update_self, List.mem_append, List.mem_singleton] at member
      rcases member with old | rfl
      · exact (shared.backlog j k old).trans (Nat.lt_succ_self _)
      · exact Nat.lt_succ_self _
    · exact (shared.backlog j k (by simpa [here] using member)).trans (Nat.lt_succ_self _)
  · intro n q member
    by_cases here : n = w.count
    · subst here
      simp at member
    · simpa [here] using shared.pending n q (by simpa [here] using member)
  · intro n q member
    by_cases here : n = w.count
    · subst here
      simp at member
    · simpa [here] using shared.replies n q (by simpa [here] using member)
  · intro n now
    have same : w.count = n := by simpa using now
    subst same
    exact ⟨Nat.lt_succ_self _, by simp⟩
  · intro j other
    simp [other]
  · intro n below
    simp [below.ne]
  · intro n below q member
    simpa [below.ne] using member
  · intro n below _
    simp [below.ne]
  · intro n now q member
    have same : w.count = n := by simpa using now
    subst same
    simp at member

theorem connectOp_keeps {o : ClientOp} {r : o.Res} (shared : Shared general v start w) (holds : Holds w i)
    (performed : connectOp uuidHex v size i uid w o fate = some (r, w')) : Connects general v start i o w w' := by
  have still (same : w' = w) : Connects general v start i o w w' := by
    subst same
    exact connects_same shared holds
  have failing {α : Type} {e : Exc} {able : Bool} {x : Except Exc α} (raises : failed w e able = some (x, w')) :
      Connects general v start i o w w' := still (failed_same raises).1
  cases o with
  | contact o =>
    cases o with
    | connect path timeout =>
      cases fate <;> simp only [connectOp, reduceCtorEq] at performed
      case ok =>
        split at performed
        · split_ifs at performed with path
          cases performed
          exact connect_keeps shared
        · cases performed
      case raises e => exact failing performed
    | peer =>
      cases fate <;> simp only [connectOp, reduceCtorEq] at performed
      case ok =>
        obtain ⟨k, held, same⟩ := Option.map_eq_some_iff.mp performed
        cases same
        exact still rfl
      case raises e => exact failing performed
    | send payload =>
      cases fate <;> simp only [connectOp, reduceCtorEq] at performed
      case ok =>
        by_cases large : maxMessage < size payload
        · rw [if_pos large] at performed
          cases performed
          exact still rfl
        · rw [if_neg large] at performed
          exact push_keeps shared holds performed rfl
      case raises e => exact failing performed
    | receive =>
      cases fate <;> simp only [connectOp, reduceCtorEq, Option.some.injEq, Prod.mk.injEq] at performed
      case time now =>
        obtain ⟨k, held, taken⟩ := Option.bind_eq_some_iff.mp performed
        split at taken
        case h_1 m rest waiting =>
          split_ifs at taken with later
          cases taken
          obtain ⟨⟨clock, backlog, pending, replies⟩, extended⟩ :=
            put_keeps (c := { w.connections k with replies := rest }) shared ⟨rfl, rfl, rfl⟩
            (fun _ member => member) (fun n member =>
              shared.replies k n (by rw [waiting]; exact List.mem_cons_of_mem _ member))
          refine ⟨⟨clock.trans later, backlog, pending, replies⟩, ?_,
            ⟨later, fun _ member => member, le_rfl, fun _ _ => rfl, extended.ends, extended.sent, extended.foreign⟩, ?_⟩
          · intro n there
            obtain ⟨below, owner⟩ := holds n there
            exact ⟨below, (extended.ends n below).2.trans owner⟩
          · intro n there q member
            cases held.symm.trans there
            exact .inl ⟨held, by simpa [World.put] using member⟩
        case h_2 => cases taken
      case eof => exact still performed.2.symm
      case raises e => exact failing performed
    | retain session payload =>
      cases fate <;> simp only [connectOp, reduceCtorEq, Option.some.injEq, Prod.mk.injEq] at performed
      case ok => exact still performed.2.symm
      case raises e => exact failing performed
  | post length content =>
    cases fate <;> simp only [connectOp, reduceCtorEq] at performed
    case ok => exact push_keeps shared holds performed rfl
    case raises e => exact failing performed
  | outcome x =>
    cases fate <;> simp only [connectOp, reduceCtorEq, Option.some.injEq, Prod.mk.injEq] at performed
    exact still performed.2.symm

/-- What an operation of the exchange comes to is possible. -/
theorem connectOp_possible {o : Contact} {r : o.Res}
    (performed : connectOp uuidHex v size i uid w (.contact o) fate = some (r, w')) :
    Notifications.Possible o r := by
  have failing {α : Type} {e e' : Exc} {able : Bool} {x : Except Exc α} (raises : failed w e able = some (x, w'))
    (same : x = .error e') :
      e = e' ∧ able = true := by
    obtain ⟨_, failed, able⟩ := failed_same raises
    rw [failed] at same
    exact ⟨Except.error.inj same, able⟩
  cases o with
  | connect path timeout =>
    rintro e rfl
    cases fate <;> simp only [connectOp, reduceCtorEq] at performed
    case ok =>
      split at performed
      · split_ifs at performed
        cases performed
      · cases performed
    case raises e =>
      obtain ⟨rfl, able⟩ := failing performed rfl
      exact able
  | peer =>
    rintro e rfl
    cases fate <;> simp only [connectOp, reduceCtorEq] at performed
    case ok =>
      obtain ⟨k, held, same⟩ := Option.map_eq_some_iff.mp performed
      cases same
    case raises e =>
      obtain ⟨rfl, able⟩ := failing performed rfl
      exact able
  | send payload =>
    rintro e rfl
    cases fate <;> simp only [connectOp, reduceCtorEq] at performed
    case ok =>
      split_ifs at performed
      · cases performed
        exact .inr rfl
      · obtain ⟨k, held, same⟩ := Option.map_eq_some_iff.mp performed
        cases same
    case raises e =>
      obtain ⟨rfl, able⟩ := failing performed rfl
      exact .inl able
  | receive =>
    rintro e rfl
    cases fate <;> simp only [connectOp, reduceCtorEq, Option.some.injEq, Prod.mk.injEq, false_and] at performed
    case time now =>
      obtain ⟨k, held, taken⟩ := Option.bind_eq_some_iff.mp performed
      split at taken
      · split_ifs at taken
        cases taken
      · cases taken
    case raises e =>
      obtain ⟨rfl, able⟩ := failing performed rfl
      exact able
  | retain session payload =>
    rintro e rfl
    cases fate <;> simp only [connectOp, reduceCtorEq, Option.some.injEq, Prod.mk.injEq, false_and] at performed
    case raises e =>
      obtain ⟨rfl, able⟩ := failing performed rfl
      exact able

/-- What a command receives is nothing, or a reply to what it sent. -/
theorem receive_replied {lock : Obj} {event : String} {seen : Option (ℕ × Content)} {length : ℕ}
    {content : Content} {now : ℚ}
    (shared : Shared general v start w) (waits : Waits general v w i lock event seen)
    (performed : connectOp uuidHex v size i uid w (.contact .receive) fate = some (.ok (length, content, now), w')) :
    (length, content) = closed ∨ Answered general v w i (Own lock event) content := by
  cases fate <;> simp only [connectOp, reduceCtorEq, Option.some.injEq, Prod.mk.injEq, Except.ok.injEq] at performed
  case time t =>
    obtain ⟨k, held, taken⟩ := Option.bind_eq_some_iff.mp performed
    split at taken
    case h_1 m rest waiting =>
      split_ifs at taken
      cases taken
      obtain ⟨below, owner⟩ := waits.holds k held
      have replied := shared.replies k m (by rw [waiting]; exact List.mem_cons_self)
      exact .inr ⟨k, below, owner, replied.mono (fun _ member => member) fun n member =>
        ⟨member, waits.sent k held n member⟩⟩
    case h_2 => cases taken
  case eof =>
    obtain ⟨⟨rfl, rfl, _⟩, _⟩ := performed
    exact .inl rfl
  case raises e =>
    have failed := (failed_same performed).2.1
    cases failed

/-- No step of the exchange trips a command. -/
theorem connectOp_gentle {lock : Obj} {event : String} {wait : Bool} {seen : Option (ℕ × Content)}
    {o : Contact} {r : o.Res}
    (shared : Shared general v start w) (waits : Waits general v w i lock event seen)
    (performed : connectOp uuidHex v size i uid w (.contact o) fate = some (r, w')) :
    Notifications.Gentle py uuidHex lock wait o r := by
  refine ⟨connectOp_possible performed, fun _ => ?_⟩
  cases o with
  | receive =>
    rintro length content now session settings rfl _ _ _ _
    rcases receive_replied shared waits performed with spent | ⟨_, _, _, payload, rfl, _, _, said⟩
    · cases spent
      intro trips
      cases trips
    · exact says_harmless said session _ now
  | _ => trivial

/-- Every step of a command. -/
theorem command_keeps {lock : Obj} {event : String} {wait : Bool} {seen : Option (ℕ × Content)} {o : Contact}
    {r : o.Res} {l : Known}
    (shared : Shared general v start w) (waits : Waits general v w i lock event seen)
    (performed : connectOp uuidHex v size i uid w (.contact o) fate = some (r, w'))
    (allowed : contacts py uuidHex lock event wait (.client seen) o r = some l) :
    Shared general v start w' ∧ (∃ seen', l = .client seen' ∧ Waits general v w' i lock event seen') ∧
      Extends i w w' := by
  obtain ⟨shared', holds, extended, sent⟩ := connectOp_keeps shared waits.holds performed
  rw [contacts, if_pos (connectOp_gentle shared waits performed)] at allowed
  -- what was seen before is seen as it was
  have going {seen' : Option (ℕ × Content)} (own : ∀ m, Sends (.contact o) m → Own lock event m)
      (received : ∀ m, seen' = some m → m = closed ∨ Answered general v w i (Own lock event) m.2) :
      Waits general v w' i lock event seen' := by
    refine ⟨holds, ?_, ?_⟩
    · intro k held m member
      rcases sent k held m member with ⟨held, member⟩ | new
      · exact waits.sent k held m member
      · exact own m new
    · intro m last
      exact (received m last).imp_right fun received => received.mono extended fun _ own => own
  refine ⟨shared', ?_, extended⟩
  cases o with
  | send payload =>
    rw [answered] at allowed
    by_cases own : ∃ length, Own lock event (length, .json (.obj payload))
    · rw [if_pos own] at allowed
      refine ⟨seen, (Option.some.inj allowed).symm, going ?_ waits.seen⟩
      intro m same
      obtain ⟨length, session, named, request⟩ := own
      exact ⟨session, named, Eq.trans same request⟩
    · rw [if_neg own] at allowed
      cases allowed
  | receive =>
    cases r with
    | ok m =>
      obtain ⟨length, content, now⟩ := m
      refine ⟨some (length, content), (Option.some.inj allowed).symm, going (fun _ none => none.elim) ?_⟩
      intro m same
      obtain rfl := Option.some.inj same
      exact receive_replied shared waits performed
    | error e => exact ⟨seen, (Option.some.inj allowed).symm, going (fun _ none => none.elim) waits.seen⟩
  | retain session payload =>
    rw [answered] at allowed
    split_ifs at allowed
    exact ⟨seen, (Option.some.inj allowed).symm, going (fun _ none => none.elim) waits.seen⟩
  | _ => exact ⟨seen, (Option.some.inj allowed).symm, going (fun _ none => none.elim) waits.seen⟩

end

/-! ### Every run -/

section
variable {general : ℚ → String} {py : Interpreter} {uuidHex : String → Option String} {v : Options} {size : Obj → ℕ}
  {start : World}

theorem agent_follows (n : ℕ) (euid : ℤ) (s : Serving) :
    (program general py uuidHex v (.agent euid n)).Follows (protocol general py uuidHex v (.agent euid n)) (.agent s)
      fun _ _ => True := by
  have served : (runAgent general uuidHex v n).Follows (next general v) (.agent s) fun _ _ => True :=
    follows_mono (runAgent_serves n s trivial) fun _ _ _ => trivial
  refine follows_expand served ?_
  intro o l able r
  obtain ⟨l', allowed⟩ := able r
  exact ⟨l', allowed, r, rfl, allowed⟩

/-- A program of one side as one of both. -/
theorem follows_hidden {L ε α : Type} {p : Prog ClientOp ClientOp.Res ε α}
    {next : L → (o : ClientOp) → o.Res → Option L}
    {both : L → (o : Op ⊕ ClientOp) → Res Op.Res ClientOp.Res o → Option L} {l : L} {Q : Except ε α → L → Prop}
    (follows : p.Follows next l Q) (same : ∀ l o r, both l (.inr o) r = next l o r) :
    (TwoRuns.hidden Op.Res p).Follows both l Q := by
  induction p generalizing l with
  | ret a => exact follows
  | raise e => exact follows
  | call o k ih =>
    intro r
    obtain ⟨l', allowed, rest⟩ := follows r
    exact ⟨l', (same l o r).trans allowed, ih r rest⟩

/-- What a notification comes to, unless something was read that none can read. -/
theorem emit_follows (py : Interpreter) (uuidHex : String → Option String) (lock : Obj) (event : String) (wait : Bool) :
    (emit py uuidHex lock event wait).Follows (contacts py uuidHex lock event wait) (.client none)
      fun x l => l = .other ∨ Comes py uuidHex lock event wait x := by
  rcases Notifications.emit_gives py uuidHex lock event wait with ⟨e, raises⟩ | gives
  · rw [raises]
    exact .inr (.inr ⟨e, raises⟩)
  · have leaves (l : Known) (o : Contact) (r : o.Res) (l' : Known)
      (astray : ¬ Notifications.Gentle py uuidHex lock wait o r)
        (allowed : contacts py uuidHex lock event wait l o r = some l') : l' = .other := by
      cases l with
      | client seen =>
        rw [contacts, if_neg astray] at allowed
        exact (Option.some.inj allowed).symm
      | agent s => cases allowed
      | other => exact (Option.some.inj allowed).symm
    have stays (l : Known) (o : Contact) (r : o.Res) (l' : Known) (lost : l = .other)
        (allowed : contacts py uuidHex lock event wait l o r = some l') : l' = .other := by
      subst lost
      exact (Option.some.inj allowed).symm
    exact follows_mono (follows_gives (emit_tells none trivial) gives leaves stays) fun x l ended =>
      ended.2.imp_right .inl

theorem command_follows (uid : ℤ) (lock : Obj) (event : String) (wait : Bool) :
    (program general py uuidHex v (.command uid lock event wait)).Follows
      (protocol general py uuidHex v (.command uid lock event wait))
      (.client none) fun _ _ => True := by
  have exchange : (expand (fun o => Prog.op (ClientOp.contact o)) (emit py uuidHex lock event wait)).Follows
      (fun l o r => protocol general py uuidHex v (.command uid lock event wait) l (.inr o) r) (.client none)
      fun x l => l = .other ∨ Comes py uuidHex lock event wait x := by
    refine follows_expand (emit_follows py uuidHex lock event wait) ?_
    intro o l able r
    obtain ⟨l', allowed⟩ := able r
    exact ⟨l', allowed, r, rfl, allowed⟩
  have whole : (emitted py uuidHex lock event wait).Follows
      (fun l o r => protocol general py uuidHex v (.command uid lock event wait) l (.inr o) r) (.client none)
      fun _ _ => True := by
    refine follows_bind (follows_attempt exchange) ?_ ?_
    · rintro x l ⟨_, same, ended⟩ _
      cases same
      exact ⟨l, if_pos ended, trivial⟩
    · intros
      trivial
  exact follows_hidden whole fun _ _ _ => rfl

theorem anyone_follows (uid : ℤ) (p : Prog ClientOp ClientOp.Res Exc Unit) :
    (program general py uuidHex v (.anyone uid p)).Follows (protocol general py uuidHex v (.anyone uid p))
      (.client none) fun _ _ => True := by
  have free : p.Follows (fun (l : Known) _ _ => some l) (.client none) fun _ _ => True :=
    follows_mono (follows_of_uses (uses_any p) fun _ _ _ => rfl) fun _ _ _ => trivial
  exact follows_hidden free fun _ _ _ => rfl

/-- Nobody is connected yet, and the notification server has not been called. -/
def World.first (now : ℚ) : World := { scene := ⟨now, []⟩, connections := fun _ => ⟨0, 0, 0, [], [], []⟩ }

def entry (now : ℚ) : Call → Known
  | .agent .. => .agent { scene := ⟨now, []⟩ }
  | _ => .client none

/-- The invariant of the socket. -/
noncomputable def regime (general : ℚ → String) (py : Interpreter) (uuidHex : String → Option String) (v : Options)
    (size : Obj → ℕ) (now : ℚ) :
    Regime (system general py uuidHex v size) anyStep (World.first now) Known where
  next := protocol general py uuidHex v
  entry := entry now
  Shared := Shared general v (World.first now)
  Local := Local general v
  follows c := by
    cases c with
    | agent euid n => exact agent_follows n euid _
    | command uid lock event wait => exact command_follows uid lock event wait
    | anyone uid p => exact anyone_follows uid p
  first := ⟨le_rfl, by simp [World.first], by simp [World.first], by simp [World.first]⟩
  begin := by
    intro w i c w' shared begins
    cases begins
    have extended : Extends i w { w with held := Function.update w.held i none } :=
      ⟨le_rfl, fun _ member => member, le_rfl,
        fun j other => by simp [other], fun _ _ => ⟨rfl, rfl⟩, fun _ _ _ member => member, fun _ _ _ => rfl⟩
    refine ⟨⟨shared.clock, shared.backlog, shared.pending, shared.replies⟩, ?_,
      fun j c' l other known => local_extends extended other known⟩
    have free : ∀ k, Function.update w.held i none i ≠ some k := by simp
    cases c with
    | agent euid n =>
      refine ⟨shared.clock, ?_, fun k held => absurd held (free k), nofun, nofun⟩
      rintro event id ⟨_, _, _, _, _, _, _, _, member, _⟩
      cases member
    | command uid lock event wait =>
      exact ⟨fun k held => absurd held (free k), fun k held => absurd held (free k), nofun⟩
    | anyone uid p => exact fun k held => absurd held (free k)
  op := by
    intro w i c l o fate r w' l' shared known performs _ allowed
    have done {c' : Call} (kept : Shared general v (World.first now) w' ∧ Local general v w' i c' l' ∧ Extends i w w') :
        Shared general v (World.first now) w' ∧ Local general v w' i c' l' ∧
          ∀ j c l, j ≠ i → Local general v w j c l → Local general v w' j c l :=
      ⟨kept.1, kept.2.1, fun j c l other there => local_extends kept.2.2 other there⟩
    cases c with
    | agent euid n =>
      cases l with
      | agent s =>
        cases o with
        | inl o =>
          obtain ⟨shared', ⟨s', rfl, reads⟩, extended⟩ := serveOp_keeps shared known performs allowed
          exact done ⟨shared', reads, extended⟩
        | inr o => cases allowed
      | client _ => exact known.elim
      | other => exact known.elim
    | command uid lock event wait =>
      cases l with
      | client seen =>
        cases o with
        | inl o => cases allowed
        | inr o =>
          cases o with
          | contact o =>
            obtain ⟨shared', ⟨seen', rfl, waits⟩, extended⟩ := command_keeps shared known performs allowed
            exact done ⟨shared', waits, extended⟩
          | post length content => cases allowed
          | outcome x =>
            have same : w' = w := by
              cases fate <;> simp only [system, connectOp, reduceCtorEq, Option.some.injEq, Prod.mk.injEq] at performs
              exact performs.2.symm
            subst same
            rw [protocol] at allowed
            split_ifs at allowed
            cases allowed
            exact done ⟨shared, known, Extends.refl _⟩
      | agent _ => exact known.elim
      | other => exact known.elim
    | anyone uid p =>
      cases l with
      | client seen =>
        cases o with
        | inl o => cases allowed
        | inr o =>
          obtain ⟨shared', holds, extended, _⟩ := connectOp_keeps shared known performs
          cases Option.some.inj allowed
          exact done ⟨shared', holds, extended⟩
      | agent _ => exact known.elim
      | other => exact known.elim
  leave := by
    intro w i c l shared known
    refine ⟨⟨shared.clock, ?_, shared.pending, shared.replies⟩,
      fun j c' l' other there => local_extends (i := i) ?_ other there⟩
    · intro j k member
      by_cases here : j = i
      · subst here
        simp [system] at member
      · exact shared.backlog j k (by simpa [system, here] using member)
    · exact ⟨le_rfl, fun _ member => member, le_rfl,
        fun j other => by simp [system, other], fun _ _ => ⟨rfl, rfl⟩, fun _ _ _ member => member,
        fun _ _ _ => rfl⟩
  divert := fun _ _ diverts => by simp [system] at diverts
  env := fun {_ e} => e.elim

variable {now : ℚ} {cfg : Config (Op ⊕ ClientOp) (Res Op.Res ClientOp.Res) Exc World Call} {i : ℕ} {w' : World}

/-- An agent runs `busctl` to look whether the notification server is there, or for an event that a trusted peer asked
    for on a connection to the socket. -/
theorem calls_asked {euid : ℤ} {n : ℕ} {arguments : List String} {budget : ℚ} {process : Process}
    (reached : (system general py uuidHex v size).Reached anyStep (World.first now) cfg)
    (performs : (system general py uuidHex v size).Performs cfg i (.agent euid n)
      (.inl (.delivery (.busctl arguments budget))) process w') :
    arguments = commandLine general (delivery v).bus "GetServerInformation" [] budget ∨
      ∃ k name event replaced, Trusted v (cfg.world.connections k).peer ∧
      (∃ m ∈ (cfg.world.connections k).sent, Asks v name m) ∧
        event? name = some event ∧ arguments = commandLine general (delivery v).bus "Notify"
        (notifyArgs replaced event) budget := by
  obtain ⟨l, l', _, known, allowed⟩ := (regime general py uuidHex v size now).allowed reached performs
  cases l with
  | agent s =>
    change heed general v s (.delivery (.busctl arguments budget)) process = some l' at allowed
    by_cases spoken : Spoken general v s arguments budget
    · rcases spoken with server | ⟨name, event, replaced, found, ⟨⟨uid, peer, trusted⟩, m, heard, asks⟩, spelled⟩
      · exact .inl server
      · right
        have reads : Reads general cfg.world i s := known
        obtain ⟨k, held, same⟩ := reads.peer uid peer
        rcases reads.heard m heard with rfl | ⟨k', held', member⟩
        · obtain ⟨_, none, _⟩ := asks
          cases none
        · cases held.symm.trans held'
          exact ⟨k, name, event, replaced, same ▸ trusted, ⟨m, member, asks⟩, found, spelled⟩
    · have refused : heed general v s (.delivery (.busctl arguments budget)) process = none := if_neg spoken
      cases refused.symm.trans allowed
  | client _ => exact known.elim
  | other => exact known.elim

/-- What a command goes on with after a notification are diagnostics of the notification, or what its lock makes it
    raise before. -/
theorem outcome_noticed {uid : ℤ} {lock : Obj} {event : String} {wait : Bool}
    {x : Except Exc (List Diagnostic)} {r : Unit}
    (reached : (system general py uuidHex v size).Reached anyStep (World.first now) cfg)
    (performs : (system general py uuidHex v size).Performs cfg i (.command uid lock event wait)
      (.inr (.outcome x)) r w') :
    Notifications.Noticed x ∨ ∃ e, emit py uuidHex lock event wait = .raise e := by
  obtain ⟨l, l', _, held, allowed⟩ := (regime general py uuidHex v size now).allowed reached performs
  cases l with
  | client seen =>
    by_cases comes : Known.client seen = .other ∨ Comes py uuidHex lock event wait x
    · exact comes.resolve_left nofun
    · have refused : protocol general py uuidHex v (.command uid lock event wait) (.client seen)
        (.inr (.outcome x)) r = none := if_neg comes
      cases refused.symm.trans allowed
  | agent _ => exact held.elim
  | other => exact held.elim

end

/-! ### A notification that is accepted -/

/-- What a process does next. -/
def upcoming (cfg : Config (Op ⊕ ClientOp) (Res Op.Res ClientOp.Res) Exc World Call) (i : ℕ) :
    Option (Call × (Op ⊕ ClientOp)) :=
  match cfg.procs i with
  | some (c, .call o _) => some (c, o)
  | _ => none

/-- The agent of a session, started by the service manager. -/
def desktop : Options where
  uid := 1000
  session := NonInterference.session
  watchdogUid := 990
  settings := ⟨5, 20, 3⟩
  heartbeat := 5
  invocation := some "7c9e6679742540de944be07fc1f90ae7"

def plain : System (Op ⊕ ClientOp) (Res Op.Res ClientOp.Res) Exc World Call Fate Empty :=
  system (fun _ => "5") .cpython hexOf desktop fun _ => 300

theorem upcoming_performs {cfg : Config (Op ⊕ ClientOp) (Res Op.Res ClientOp.Res) Exc World Call} {i : ℕ} {c : Call}
    {o : Op ⊕ ClientOp}
    (fate : Fate) {r : Res Op.Res ClientOp.Res o} {w' : World} (next : upcoming cfg i = some (c, o))
    (performed : plain.perform i c cfg.world o fate = some (r, w')) : plain.Performs cfg i c o r w' := by
  rw [upcoming] at next
  split at next
  case h_1 k running =>
    cases next
    exact ⟨k, fate, running, performed⟩
  case h_2 => cases next

def information : Process :=
  .printed 60 (.json (.obj [("type", .str "ssss"),
    ("data", .arr [.str "mako", .str "emersion", .str "1.9.0", .str "1.2"])]))

/-- The agent up to its listening, and a command up to its request. -/
def requested : List (Act Call Fate Empty) :=
  [.begin 0 (.agent 1000 1), .op 0 .ok, .op 0 (.found true 1000), .op 0 (.delivered (.process information)),
    .op 0 .ok, .op 0 .ok, .op 0 .ok,
    .begin 1 (.command 0 notifyingLock "stopped" true), .op 1 .ok, .op 1 .ok, .op 1 .ok]

/-- The agent up to its call. -/
def heard : List (Act Call Fate Empty) :=
  requested ++ [.op 0 .ok, .op 0 .ok, .op 0 .ok, .op 0 (.delivered (.time 100)), .op 0 (.delivered (.time 100))]

/-- The reply, up to what the command retains. -/
def replied : List (Act Call Fate Empty) :=
  heard ++ [.op 0 (.delivered (.process Receipts.acceptance)), .op 0 (.delivered (.time 101)),
    .op 0 (.delivered (.time 101)), .op 0 .ok,
    .op 1 (.time 102)]

/-- An agent is about to call the notification server for an event. -/
def notifies : Call × (Op ⊕ ClientOp) → Bool
  | (.agent .., .inl (.delivery (.busctl arguments _))) => arguments[8]? == some "Notify"
  | _ => false

/-- A command is about to go on without a diagnostic. -/
def goesOn : Call × (Op ⊕ ClientOp) → Bool
  | (.command .., .inr (.outcome (.ok []))) => true
  | _ => false

theorem run_upcoming (acts : List (Act Call Fate Empty)) (i : ℕ) (test : Call × (Op ⊕ ClientOp) → Bool)
    (ran : ((plain.run anyStep (.start (World.first 100)) acts).map fun cfg => (upcoming cfg i).any test) = some true) :
    ∃ cfg c o, plain.Reached anyStep (World.first 100) cfg ∧ upcoming cfg i = some (c, o) ∧ test (c, o) = true := by
  obtain ⟨cfg, reached, tested⟩ := Option.map_eq_some_iff.mp ran
  cases next : upcoming cfg i with
  | none => simp [next] at tested
  | some pair => exact ⟨cfg, pair.1, pair.2, reached_run .start reached, next, by simpa [next] using tested⟩

theorem calls_asked_stopped : ∃ cfg, plain.Reached anyStep (World.first 100) cfg ∧ ∃ k name,
    Trusted desktop (cfg.world.connections k).peer ∧
    ∃ m ∈ (cfg.world.connections k).sent, Asks desktop name m := by
  obtain ⟨cfg, c, o, reached, next, test⟩ := run_upcoming heard 0 notifies (by decide +kernel)
  rw [notifies.eq_def] at test
  split at test
  case h_2 => cases test
  case h_1 euid n arguments budget same =>
    cases same
    have performs := upcoming_performs (.delivered (.process .exited)) next rfl
    rcases calls_asked reached performs with rfl | ⟨k, name, _, _, trusted, asks, _⟩
    · simp [commandLine] at test
    · exact ⟨cfg, reached, k, name, trusted, asks⟩

theorem outcome_noticed_stopped : ∃ cfg lock, plain.Reached anyStep (World.first 100) cfg ∧
    (Notifications.Noticed (.ok []) ∨ ∃ event wait e, emit .cpython hexOf lock event wait = .raise e) := by
  obtain ⟨cfg, c, o, reached, next, test⟩ := run_upcoming (replied ++ [.op 1 .ok]) 1 goesOn (by decide +kernel)
  rw [goesOn.eq_def] at test
  split at test
  case h_2 => cases test
  case h_1 uid lock event wait same =>
    cases same
    have performs := upcoming_performs .ok next rfl
    exact ⟨cfg, lock, reached, (outcome_noticed reached performs).imp_right fun raises => ⟨event, wait, raises⟩⟩

end Ttp.Agent
