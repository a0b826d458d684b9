import Ttp.Footprint
import Ttp.Overclaim
import Ttp.Supervision

/-!
`observe_session` of `session_report.py`, the report that `ttp status` prints,
while other processes change the host between any two of its steps. It changes
nothing itself, says that the emergency rules are verified only if they were
in the kernel at one of its steps, and has the exit code 0 only if it saw no
latched emergency, no unreadable evidence, a supervisor that works where the
session requires one and an answer of the agent where notifications are on.
-/
namespace Ttp.StatusReport
open Ttp.Python Ttp.Evidence Ttp.Program Ttp.Machine Ttp.State Ttp.Records Ttp.Firewall Ttp.SessionSafety
  Ttp.Watchdog Ttp.Footprint
open Ttp.Start (sessionSettings)
open Ttp.SessionSettings (Settings fromSnapshot seconds)
open Ttp.Supervision (Fresh observe_current sessionIdOf_get)
open Ttp.Containment (recordOf)

/-! ### The report -/

/-- `report["notifications"]`, by what becomes of the request to the agent. -/
inductive Notice where
  | disabled
  | answered
  | unavailable
deriving DecidableEq

/-- What the records say: `report["verification"]`, `report["emergency"]` and `report["health"]`, with the
    diagnostics. -/
structure Found where
  verification : Obj
  emergency : Obj
  health : String
  result : Result

/-- Before a record is read. -/
def Found.initial : Found :=
  ⟨[("state", .str "not_run")], [("requested", .bool false), ("applied", .null), ("verified", .null)], "unknown", {}⟩

structure Report where
  phase : Json
  sessionId : Json
  started : Json
  transportPort : Json
  dnsPort : Json
  watchdogRequested : Json
  watchdog : Obj
  notificationsRequested : Json
  lanBypass : Json
  allowRoot : Json
  ipv6 : String
  /-- `session.legacy_observations_unavailable`, for a session without identity. -/
  legacy : Bool
  found : Found
  notifications : Notice
  result : Result

/-- How an observation ends that raises nothing else. -/
inductive Outcome where
  | absent
  | report (r : Report)
  /-- `assert emergency is not None` fails. -/
  | vanished

section
variable (py : Interpreter)

/-- `Diagnostic.from_dict(item) for item in emergency["data"].get("causes", [])`, with its `except` clause. -/
def causesOf (data : Obj) : Except Exc (List Diagnostic) :=
  let read : Except Exc (List Diagnostic) :=
    match (data.find? "causes").getD (.arr []) with
    | .arr items => items.mapM Diagnostic.fromDict
    | .obj [] => .ok []
    | .str "" => .ok []
    -- the keys of a dictionary and the characters of a string are no diagnostics
    | .obj _ => .error (.valueError "Invalid diagnostic code")
    | .str _ => .error (.valueError "Invalid diagnostic code")
    | _ => .error .typeError
  read.mapError fun e => if e = .typeError ∨ e.isValueError then .stateError "Emergency causes are invalid" else e

def unreadableEvidence : Diagnostic :=
  ⟨.containmentUnconfirmed, "session.evidence_invalid", "session", "observe",
    "Emergency or verification evidence is unreadable", true⟩

/-- `report["verification"]` of a record, at a time. -/
def measured (record : Payload) (now : ℚ) : Obj :=
  let age := py.round (now - record.writtenAt)
  record.data.update [("age_seconds", if 0 < age then .float (.finite age) else .int 0),
    ("scope", .str "recorded_measurement")]

/-- The part of the `try` block about the verification. -/
def readVerification (session : String) : Py Obj := do
  match ← Records.read py .verification session with
  | some record =>
    let now ← step .clock
    pure (measured py record now)
  | none => pure Found.initial.verification

/-- The part of the `try` block about the emergency; nothing where the record is gone. -/
def readEmergency (lock : Obj) (timeout : ℚ) (session : String) (verification : Obj) : Py (Option Found) := do
  if ← emergencyLatched py lock then
    match ← Records.read py .emergency session with
    | none => pure none
    | some record =>
      let causes ← Prog.ofExcept (causesOf record.data)
      let check ← inspectEmergencyRules timeout
      pure (some ⟨verification,
        record.data.update [("verified", .bool check.verified), ("reason", .str check.reason)],
        if check.verified then "emergency_verified" else "containment_unconfirmed", ⟨causes ++ [check.diagnostic]⟩⟩)
  else pure (some { Found.initial with verification })

/-- `except StateError`, with what was found before. -/
def orUnreadable (verification : Obj) (p : Py (Option Found)) : Py (Option Found) :=
  p.handle fun e =>
    if e.isStateError then some (pure (some { Found.initial with verification, result := ⟨[unreadableEvidence]⟩ }))
    else none

/-- The `try` block. -/
def evidence (lock : Obj) (timeout : ℚ) : Py (Option Found) :=
  match sessionIdOf lock with
  | none => pure (some { Found.initial with result := ⟨[unreadableEvidence]⟩ })
  | some session => do
    let verification ← (do
        let verification ← readVerification py session
        pure (some verification)).handle fun e => if e.isStateError then some (pure none) else none
    match (verification : Option Obj) with
    | some verification => orUnreadable verification (readEmergency py lock timeout session verification)
    | none => pure (some { Found.initial with result := ⟨[unreadableEvidence]⟩ })

/-- The diagnostic of a required supervisor without current evidence; an observation without the two keys raises. -/
def watchdogDiagnostics (requested : Json) (watchdog : Obj) : Except Exc (List Diagnostic) :=
  if requested.truthy then
    match watchdog.find? "value", watchdog.find? "reason" with
    | some value, reason =>
      if value.isStr "healthy" ∨ value.isStr "emergency" then .ok []
      else
        match reason with
        | some reason =>
          .ok [⟨.watchdogUnavailable, reason.text py, "watchdog", "observe",
            "Required supervision has no current operational evidence", true⟩]
        | none => .error .keyError
    | none, _ => .error .keyError
  else .ok []

def noAgent : Diagnostic :=
  ⟨.notificationFailed, "notifications.agent_unavailable", "notifications", "observe",
    "No current notification agent response", true⟩

/-- `rpc(lock, "status", timeout=1)`, where notifications are enabled. -/
def askAgent (enabled : Json) : Py Notice :=
  if enabled.truthy then do
    match ← step (.external "notification agent") with
    | .ok _ => pure .answered
    | .error e => if e.isException then pure .unavailable else .raise e
  else pure .disabled

/-- `observe_session`. -/
def observeSession : Py Outcome := do
  match ← readLock true with
  | none => pure .absent
  | some lock =>
    let settings ← Prog.ofExcept (sessionSettings py lock)
    let watchdog ← watchdogObservation py
    let ipv6 ← (if (lock.get "no_ipv6").truthy then pure "Disabled (Force Dropped)"
      else do
        if ← step (.ask "ipv6") then pure "Enabled (Redirect configured)" else pure "Not supported by host" : Py String)
    checked (step (.external "nft list counters"))
    let legacy := !(lock.get "session_id").truthy
    let found ← (if legacy then pure (some Found.initial)
      else evidence py lock (seconds settings.watchdog.checkTimeout) : Py (Option Found))
    match found with
    | none => pure .vanished
    | some found =>
      let supervision ← Prog.ofExcept (watchdogDiagnostics py (lock.get "watchdog_requested") watchdog)
      let notifications ← askAgent settings.notifications.enabled
      pure (.report {
        phase := (lock.find? "phase").getD (.str "recorded")
        sessionId := lock.get "session_id"
        started := lock.get "timestamp"
        transportPort := (lock.find? "transport_port").getD (.int 9041)
        dnsPort := (lock.find? "dns_port").getD (.int 9054)
        watchdogRequested := (lock.find? "watchdog_requested").getD (.bool false)
        watchdog
        notificationsRequested := settings.notifications.enabled
        lanBypass := (lock.find? "lan_bypass").getD (.bool true)
        allowRoot := (lock.find? "allow_root").getD (.bool false)
        ipv6
        legacy
        found
        notifications
        result := found.result.add (supervision ++ if notifications = .unavailable then [noAgent] else []) })

end

/-! ### The steps of an observation -/

/-- A step, on the host as the other processes had left it, and how it turned out. -/
structure Moment where
  op : Op
  host : Host
  fate : Fate

def perform (past : List Moment) (o : Op) (f : Host × Fate) : Option (o.Res × List Moment) :=
  (f.1.outcome o f.2).map fun done => (done.1, past ++ [⟨o, f.1, f.2⟩])

/-- A record was read as `found`: at one step the boot identity, and at one the file, or there was none. -/
def ReadAs (py : Interpreter) (name : RecordName) (session : String) (found : Option Payload) (w : List Moment) :
    Prop :=
  ∃ boot ∈ w, ∃ m ∈ w, boot.op = .bootId ∧ m.op = .readRecord name session ∧
    (found = none ∧ m.fate = .fails (.osError "FileNotFoundError") ∨
      recordOf py name session boot.host.bootId (m.host.records name session) = .ok found)

/-- The emergency of the session was latched at a step. -/
def LatchedAt (py : Interpreter) (session : String) (w : List Moment) : Prop :=
  ∃ record : Payload, ReadAs py .emergency session (some record) w ∧ record.data.get "requested" = .bool true

/-- The kernel had the emergency rules at a step. -/
def RulesAt (w : List Moment) : Prop :=
  ∃ m ∈ w, ∃ timeout table, m.op = .nftListing timeout ∧ m.host.table = some table ∧
    matchesEmergencyContract table = true

/-- The lock was read as `found` at a step. -/
def LockAt (found : Option Obj) (w : List Moment) : Prop :=
  ∃ m ∈ w, m.op = .readLock ∧ lockOf true m.host.lock = .ok found

/-- The notification agent answered at a step. -/
def AnsweredAt (w : List Moment) : Prop := ∃ m ∈ w, m.op = .external "notification agent" ∧ m.fate = .ok

/-- What the observation of a supervisor that works has read. -/
structure Sighting where
  lock : Obj
  settings : Settings
  fields : UnitFields
  session : String
  record : Payload
  now : ℚ

/-- At the steps, the lock requests a supervisor, its unit is active with a process, and the session's record of it is
    of the host's boot and of the unit's invocation, with fresh progress and a fresh evaluation. -/
structure Sighting.In (py : Interpreter) (s : Sighting) (w : List Moment) : Prop where
  intent : LockAt (some s.lock) w
  requested : (s.lock.get "watchdog_requested").truthy = true
  snapshot : fromSnapshot py (s.lock.get "settings") = .ok s.settings
  shown : ∃ m ∈ w, ∃ timeout, m.op = .showUnit timeout ∧ m.fate = .unit s.fields
  active : s.fields.activeState = "active"
  running : 0 < s.fields.mainPid
  sameSession : s.lock.get "session_id" = .str s.session
  read : ReadAs py .watchdog s.session (some s.record) w
  sameBoot : ∃ m ∈ w, m.op = .bootId ∧ m.host.bootId = s.record.bootId
  sameInvocation : ((s.record.data.find? "instance_id").getD (.str "")).text py = s.fields.invocationId
  clock : ∃ m ∈ w, m.op = .clock ∧ m.fate = .time s.now
  progressed : Fresh s.now (seconds s.settings.watchdog.observationMaxAge) s.record.writtenAt
  evaluated : ∃ time, observedAt (s.record.data.get "observed_at") = .ok (some (.finite time)) ∧
    Fresh s.now (seconds s.settings.watchdog.observationMaxAge) time

/-- The supervisor worked, as far as the steps show. -/
def OperatedAt (py : Interpreter) (w : List Moment) : Prop := ∃ s : Sighting, s.In py w

theorem ReadAs.mono {py : Interpreter} {name : RecordName} {session : String} {found : Option Payload}
    {w w' : List Moment}
    (read : ReadAs py name session found w) (more : w <+: w') : ReadAs py name session found w' := by
  obtain ⟨boot, bootIn, m, mIn, facts⟩ := read
  exact ⟨boot, more.subset bootIn, m, more.subset mIn, facts⟩

theorem LatchedAt.mono {py : Interpreter} {session : String} {w w' : List Moment} (latched : LatchedAt py session w)
    (more : w <+: w') :
    LatchedAt py session w' := by
  obtain ⟨record, read, requested⟩ := latched
  exact ⟨record, read.mono more, requested⟩

theorem member_mono {P : Moment → Prop} {w w' : List Moment} (found : ∃ m ∈ w, P m) (more : w <+: w') :
    ∃ m ∈ w', P m := by
  obtain ⟨m, mIn, holds⟩ := found
  exact ⟨m, more.subset mIn, holds⟩

theorem OperatedAt.mono {py : Interpreter} {w w' : List Moment} (operated : OperatedAt py w) (more : w <+: w') :
    OperatedAt py w' := by
  obtain ⟨s, seen⟩ := operated
  exact ⟨s, { seen with
    intent := member_mono seen.intent more
    shown := member_mono seen.shown more
    read := seen.read.mono more
    sameBoot := member_mono seen.sameBoot more
    clock := member_mono seen.clock more }⟩

/-- From `w`, the program adds steps, and what it returns stands in the relation to all of them. -/
def Told {α : Type} (w : List Moment) (p : Py α) (R : α → List Moment → Prop) : Prop :=
  p.Ensures perform w fun x w' => w <+: w' ∧ ∀ a, x = .ok a → R a w'

section
variable {α β : Type} {w : List Moment} {R : α → List Moment → Prop} {S : β → List Moment → Prop}

theorem told_pure {a : α} (here : R a w) : Told w (pure a) R :=
  ⟨List.prefix_rfl, fun _ same => Except.ok.inj same ▸ here⟩

theorem told_raise (e : Exc) : Told w (.raise e) R := ⟨List.prefix_rfl, fun _ same => by cases same⟩

theorem told_ofExcept {x : Except Exc α} (here : ∀ a, x = .ok a → R a w) : Told w (Prog.ofExcept x) R := by
  cases x with
  | ok a => exact told_pure (here a rfl)
  | error e => exact told_raise e

theorem told_bind {p : Py α} {f : α → Py β} (first : Told w p R) (rest : ∀ a w', w <+: w' → R a w' → Told w' (f a) S) :
    Told w (p >>= f) S := by
  rw [Told, ensures_bind]
  refine ensures_mono first fun x w' told => ?_
  cases x with
  | ok a => exact ensures_mono (rest a w' told.1 (told.2 a rfl)) fun _ _ after => ⟨told.1.trans after.1, after.2⟩
  | error e => exact ⟨told.1, fun _ same => by cases same⟩

theorem told_handle {p : Py α} {h : Exc → Option (Py α)} (body : Told w p R)
    (handler : ∀ e q w', w <+: w' → h e = some q → Told w' q R) : Told w (p.handle h) R := by
  rw [Told, ensures_handle]
  refine ensures_mono body fun x w' told => ?_
  cases x with
  | ok a => exact told
  | error e =>
    cases caught : h e with
    | none =>
      simp only [Program.caught, caught, Option.getD_none]
      exact ⟨told.1, fun _ same => by cases same⟩
    | some q =>
      simp only [Program.caught, caught, Option.getD_some]
      exact ensures_mono (handler e q w' told.1 caught) fun _ _ after => ⟨told.1.trans after.1, after.2⟩

theorem told_mono {p : Py α} {R' : α → List Moment → Prop} (told : Told w p R)
    (weaker : ∀ a w', w <+: w' → R a w' → R' a w') : Told w p R' :=
  ensures_mono told fun _ w' both => ⟨both.1, fun a same => weaker a w' both.1 (both.2 a same)⟩

theorem told_step {o : Op} {R : o.Res → List Moment → Prop}
    (here : ∀ host fate r took, host.outcome o fate = some (r, took) → R r (w ++ [⟨o, host, fate⟩])) :
    Told w (step o) R := by
  rintro ⟨host, fate⟩ r w' performed
  obtain ⟨⟨r', took⟩, outcome, same⟩ := Option.map_eq_some_iff.mp performed
  obtain ⟨rfl, rfl⟩ := Prod.mk.inj same
  exact ⟨List.prefix_append _ _, fun a same => Except.ok.inj same ▸ here host fate r' took outcome⟩

theorem told_any (p : Py α) : Told w p fun _ _ => True := by
  have added : p.Ensures perform w fun _ w' => w <+: w' := by
    refine ensures_related (R := fun w w' => w <+: w') (uses_any p) (fun _ => List.prefix_rfl) ?_ fun _ _ _ =>
      List.IsPrefix.trans
    intro w o f r w' _ performed
    obtain ⟨done, _, same⟩ := Option.map_eq_some_iff.mp performed
    obtain ⟨_, rfl⟩ := Prod.mk.inj same
    exact List.prefix_append _ _
  exact ensures_mono added fun _ _ more => ⟨more, fun _ _ => trivial⟩

end

/-! ### What the steps tell -/

section
variable {α : Type} {py : Interpreter} {w : List Moment} {session : String} {lock : Obj} {timeout : ℚ}

theorem checked_told {p : Py (Except Exc α)} {R : α → List Moment → Prop}
    (first : Told w p fun r w' => ∀ a, r = .ok a → R a w') : Told w (checked p) R :=
  told_bind first fun _ _ _ read => told_ofExcept read

theorem lock_told : Told w (readLock true) LockAt := by
  refine told_bind (R := fun file w' => ∃ m ∈ w', m.op = .readLock ∧ m.host.lock = file) ?_ fun file w' _ read => ?_
  · refine told_step fun host fate r took outcome => ⟨⟨.readLock, host, fate⟩, by simp, rfl, ?_⟩
    cases fate with
    | ok => exact (Prod.mk.inj (Option.some.inj outcome)).1
    | _ => simp [Host.outcome] at outcome
  · obtain ⟨m, mIn, op, rfl⟩ := read
    exact told_ofExcept fun found same => ⟨m, mIn, op, same⟩

theorem unit_told : Told w (checked (step (.showUnit timeout))) fun fields w' =>
    ∃ m ∈ w', ∃ timeout, m.op = .showUnit timeout ∧ m.fate = .unit fields := by
  refine checked_told (told_step fun host fate r took outcome fields same => ?_)
  refine ⟨⟨.showUnit timeout, host, fate⟩, by simp, timeout, rfl, ?_⟩
  subst same
  cases fate with
  | unit shown => rw [Except.ok.inj (Prod.mk.inj (Option.some.inj outcome)).1]
  | _ => simp [Host.outcome] at outcome

theorem clock_told : Told w (step .clock) fun now w' => ∃ m ∈ w', m.op = .clock ∧ m.fate = .time now := by
  refine told_step fun host fate r took outcome => ⟨⟨.clock, host, fate⟩, by simp, rfl, ?_⟩
  cases fate with
  | time q => rw [(Prod.mk.inj (Option.some.inj outcome)).1]
  | _ => simp [Host.outcome] at outcome

theorem boot_told : Told w (checked (step .bootId)) fun boot w' => ∃ m ∈ w', m.op = .bootId ∧ m.host.bootId = boot := by
  refine checked_told (told_step fun host fate r took outcome boot same => ?_)
  refine ⟨⟨.bootId, host, fate⟩, by simp, rfl, ?_⟩
  subst same
  cases fate with
  | ok => exact Except.ok.inj (Prod.mk.inj (Option.some.inj outcome)).1
  | _ => simp [Host.outcome] at outcome

/-- A boot identity that was read. -/
theorem bootId_told : Told w ((checked (step .bootId)).handle fun e =>
    if e.isOSError || e.isValueError then some (.raise (.stateError "Cannot determine the current boot identity"))
    else none)
    fun boot w' => ∃ m ∈ w', m.op = .bootId ∧ m.host.bootId = boot := by
  refine told_handle boot_told fun e q w' _ caught => ?_
  · split at caught
    · obtain rfl := Option.some.inj caught
      exact told_raise _
    · cases caught

theorem read_told (py : Interpreter) (name : RecordName) (session : String) :
    Told w (Records.read py name session) fun found w' => ReadAs py name session found w' := by
  refine told_bind (told_ofExcept (R := fun _ _ => True) fun _ _ => trivial) fun _ w _ _ => ?_
  refine told_bind bootId_told fun boot w' _ known => ?_
  obtain ⟨b, bootIn, bootOp, rfl⟩ := known
  rw [Told, ensures_handle, ensures_bind, ensures_checked]
  rintro ⟨host, fate⟩ r w'' performed
  obtain ⟨⟨r', took⟩, outcome, same⟩ := Option.map_eq_some_iff.mp performed
  obtain ⟨rfl, rfl⟩ := Prod.mk.inj same
  have added : w' <+: w' ++ [⟨.readRecord name session, host, fate⟩] := List.prefix_append _ _
  cases fate with
  | ok =>
    obtain rfl := (Prod.mk.inj (Option.some.inj outcome)).1
    refine (Containment.ensures_decoded py _ _).mpr ⟨added, fun found same => ?_⟩
    exact ⟨b, added.subset bootIn, ⟨.readRecord name session, host, .ok⟩, by simp, bootOp, rfl, .inr same⟩
  | fails e =>
    obtain rfl := (Prod.mk.inj (Option.some.inj outcome)).1
    refine Containment.ensures_unreadable.mpr ⟨added, fun found same => ?_⟩
    refine ⟨b, added.subset bootIn, ⟨.readRecord name session, host, .fails e⟩, by simp, bootOp, rfl, .inl ?_⟩
    unfold Containment.unreadable at same
    split_ifs at same with missing
    obtain rfl := Except.ok.inj same
    exact ⟨rfl, by rw [missing]⟩
  | _ => simp [Host.outcome] at outcome

/-- An observation of a supervisor that works has read that one does. -/
theorem observation_told : Told w (watchdogObservation py) fun observed w' =>
    operational observed = true → OperatedAt py w' := by
  unfold watchdogObservation
  refine told_handle ?_ fun e q w' _ caught => ?_
  · refine told_bind lock_told fun found w _ intent => ?_
    cases found with
    | none => exact told_pure fun works => by cases works
    | some lock =>
      by_cases idle : (lock.isEmpty || !(lock.get "watchdog_requested").truthy) = true
      · dsimp only
        rw [if_pos idle]
        exact told_pure fun works => by cases works
      have requested : (lock.get "watchdog_requested").truthy = true := by
        rw [Bool.or_eq_true, not_or] at idle
        simpa using idle.2
      dsimp only
      rw [if_neg idle]
      refine told_bind (told_ofExcept (R := fun settings _ => fromSnapshot py (lock.get "settings") = .ok settings)
        fun _ same => same) fun settings w₁ more₁ snapshot => ?_
      refine told_bind unit_told fun fields w₂ more₂ shown => ?_
      by_cases active : fields.activeState = "active"
      case neg =>
        rw [if_pos (bne_iff_ne.mpr active)]
        exact told_pure fun works => by cases works
      rw [if_neg (by simp [active])]
      cases named : sessionIdOf lock with
      | none => exact told_raise _
      | some session =>
        refine told_bind (read_told py .watchdog session) fun record w₃ more₃ read => ?_
        cases record with
        | none => exact told_pure fun works => by cases works
        | some record =>
          dsimp only
          split_ifs with stopped
          · exact told_pure fun works => by cases works
          refine told_bind boot_told fun boot w₄ more₄ booted => told_bind clock_told fun now w₅ more₅ clock => ?_
          refine told_ofExcept fun observed seen works => ?_
          obtain ⟨sameBoot, _, sameInvocation, progressed, evaluated⟩ := observe_current seen works
          have more := more₄.trans more₅
          refine ⟨⟨lock, settings, fields, session, record, now⟩, ?_⟩
          exact
            { requested, snapshot, active, sameInvocation, clock, progressed, evaluated
              intent := member_mono intent (((more₁.trans more₂).trans more₃).trans more)
              shown := member_mono shown (more₃.trans more)
              running := not_le.mp stopped
              sameSession := sessionIdOf_get named
              read := read.mono more
              sameBoot := member_mono (sameBoot ▸ booted) more₅ }
  · split at caught
    · obtain rfl := Option.some.inj caught
      exact told_pure fun works => by cases works
    · cases caught

/-- What becomes of the request to the agent: none is made where notifications are off. -/
theorem agent_told (enabled : Json) : Told w (askAgent enabled) fun notice w' =>
    (notice = .answered → AnsweredAt w') ∧ (notice = .disabled → enabled.truthy = false) := by
  unfold askAgent
  split
  case isTrue on =>
    refine told_bind (R := fun r w' => ∀ a, r = .ok a → AnsweredAt w') ?_ fun r w' _ asked => ?_
    · refine told_step fun host fate r took outcome a same =>
        ⟨⟨.external "notification agent", host, fate⟩, by simp, rfl, ?_⟩
      subst same
      cases fate with
      | ok => rfl
      | _ => simp [Host.outcome, Host.attempted] at outcome
    · cases r with
      | ok a => exact told_pure ⟨fun _ => asked a rfl, fun off => by cases off⟩
      | error e =>
        dsimp only
        split
        · exact told_pure ⟨fun answered => (by cases answered), fun off => by cases off⟩
        · exact told_raise e
  case isFalse off => exact told_pure ⟨fun answered => (by cases answered), fun _ => by simpa using off⟩

theorem latched_told : Told w (emergencyLatched py lock) fun latched w' => ∀ session, sessionIdOf lock = some session →
    if latched then LatchedAt py session w' else ReadAs py .emergency session none w' := by
  unfold emergencyLatched
  cases owner : sessionIdOf lock with
  | none => exact told_raise _
  | some session =>
    refine told_bind (read_told py .emergency session) fun found w' _ read => ?_
    cases found with
    | none => exact told_pure fun _ same => Option.some.inj same ▸ read
    | some record =>
      dsimp only
      split
      case h_1 requested => exact told_pure fun _ same => Option.some.inj same ▸ ⟨record, read, requested⟩
      case h_2 => exact told_raise _

theorem inspect_told : Told w (inspectEmergencyRules timeout) fun check w' => check.verified = true → RulesAt w' := by
  unfold inspectEmergencyRules
  refine told_bind (R := fun r w' => ∀ t, r = .ok (.table t) → ∃ m ∈ w', m.op = .nftListing timeout ∧
    m.host.table = some t) ?_ ?_
  · refine told_step fun host fate r took outcome t same => ⟨⟨.nftListing timeout, host, fate⟩, by simp, rfl, ?_⟩
    subst same
    cases fate with
    | ok =>
      simp only [Host.outcome] at outcome
      split at outcome
      case h_1 table there =>
        obtain rfl := Listing.table.inj (Except.ok.inj (Prod.mk.inj (Option.some.inj outcome)).1)
        exact there
      case h_2 => simp at outcome
    | _ => simp [Host.outcome] at outcome
  · intro r w' _ listed
    split
    case h_1 t =>
      split
      case isTrue matched =>
        obtain ⟨m, mIn, op, there⟩ := listed t rfl
        exact told_pure fun _ => ⟨m, mIn, timeout, t, op, there, matched⟩
      case isFalse => exact told_pure (by simp)
    case h_2 => exact told_pure (by simp)
    case h_3 => exact told_pure (by simp)
    case h_4 e =>
      cases caught : inspectionError e with
      | some check =>
        have unverified : check.verified = false := by
          unfold inspectionError at caught
          split_ifs at caught <;> (obtain rfl := Option.some.inj caught; rfl)
        exact told_pure (by simp [unverified])
      | none => exact told_raise _

/-- What the `try` block found: no latch, nothing that it could read, or a latch, with the rules as they were
    inspected. -/
def Shown (py : Interpreter) (session : String) (found : Found) (w : List Moment) : Prop :=
  found.health = "unknown" ∧ ReadAs py .emergency session none w ∨
    found.health = "unknown" ∧ unreadableEvidence ∈ found.result.diagnostics ∨
      LatchedAt py session w ∧ ∃ check : KernelCheck, check.diagnostic ∈ found.result.diagnostics ∧
        found.health = (if check.verified then "emergency_verified" else "containment_unconfirmed") ∧
        (check.verified = true → RulesAt w)

/-- The latch was read, and then its record was gone. -/
def Gone (py : Interpreter) (session : String) (w : List Moment) : Prop :=
  LatchedAt py session w ∧ ReadAs py .emergency session none w

theorem unreadable_shown (verification emergency : Obj) :
    Shown py session ⟨verification, emergency, "unknown", ⟨[unreadableEvidence]⟩⟩ w :=
      .inr (.inl ⟨rfl, List.mem_singleton_self _⟩)

theorem emergency_told (owner : sessionIdOf lock = some session) (verification : Obj) :
    Told w (orUnreadable verification (readEmergency py lock timeout session verification)) fun found w' =>
      match found with
      | some found => Shown py session found w'
      | none => Gone py session w' := by
  refine told_handle ?_ fun e q w' _ caught => ?_
  · refine told_bind latched_told fun latched w' _ told => ?_
    have told := told session owner
    cases latched with
    | false => exact told_pure (.inl ⟨rfl, told⟩)
    | true =>
      refine told_bind (read_told py .emergency session) fun record w'' more read => ?_
      cases record with
      | none => exact told_pure ⟨LatchedAt.mono told more, read⟩
      | some record =>
        refine told_bind (told_ofExcept (R := fun _ _ => True) fun _ _ => trivial) fun causes u more' _ => ?_
        refine told_bind inspect_told fun check u' more'' rules => ?_
        exact told_pure (.inr (.inr
          ⟨LatchedAt.mono told ((more.trans more').trans more''), check, by simp, rfl, rules⟩))
  · split at caught
    · obtain rfl := Option.some.inj caught
      exact told_pure (unreadable_shown _ _)
    · cases caught

theorem evidence_told : Told w (evidence py lock timeout) fun found w' =>
    match found with
    | some found => unreadableEvidence ∈ found.result.diagnostics ∧ found.health = "unknown" ∨
        ∃ session, sessionIdOf lock = some session ∧ Shown py session found w'
    | none => ∃ session, sessionIdOf lock = some session ∧ Gone py session w' := by
  unfold evidence
  cases owner : sessionIdOf lock with
  | none => exact told_pure (.inl ⟨List.mem_singleton_self _, rfl⟩)
  | some session =>
    refine told_bind (told_any _) fun verification w' _ _ => ?_
    cases verification with
    | none => exact told_pure (.inl ⟨List.mem_singleton_self _, rfl⟩)
    | some verification =>
      refine told_mono (emergency_told owner verification) fun found w'' _ shown => ?_
      cases found with
      | none => exact ⟨session, rfl, shown⟩
      | some found => exact .inr ⟨session, rfl, shown⟩

end

/-! ### The report is honest -/

/-- What a report says of the lock that it is about. -/
structure About (py : Interpreter) (lock : Obj) (r : Report) : Prop where
  session : r.sessionId = lock.get "session_id"
  legacy : r.legacy = !(lock.get "session_id").truthy
  watchdog : r.watchdogRequested = (lock.find? "watchdog_requested").getD (.bool false)
  notifications : ∃ settings, sessionSettings py lock = .ok settings ∧
    r.notificationsRequested = settings.notifications.enabled

structure Honest (py : Interpreter) (r : Report) (w : List Moment) : Prop where
  /-- Rules that are said to be verified were in the kernel. -/
  verified : r.found.health = "emergency_verified" → RulesAt w
  /-- An emergency is reported only where one was latched, and never with an exit code that says less. -/
  latched : r.found.health ≠ "unknown" → (∃ session, r.sessionId = .str session ∧ LatchedAt py session w) ∧
    ExitCode.emergencyVerified.priority ≤ r.result.exitCode.priority
  unconfirmed : r.found.health = "containment_unconfirmed" →
    ExitCode.containmentUnconfirmed.priority ≤ r.result.exitCode.priority
  /-- A supervisor that is said to work was seen to. -/
  supervised : operational r.watchdog = true → OperatedAt py w
  answered : r.notifications = .answered → AnsweredAt w
  /-- The exit code 0 says that no latch was read, the required supervisor works and the agent answered where
      notifications are on. -/
  clean : r.result.exitCode = .ok → r.found.health = "unknown" ∧
    (r.watchdogRequested.truthy = true → operational r.watchdog = true) ∧
    (r.notifications = .answered ∨ r.notifications = .disabled ∧ r.notificationsRequested.truthy = false) ∧
      (r.legacy = true ∨ ∃ session, r.sessionId = .str session ∧ ReadAs py .emergency session none w)

/-- What an observation ends with. -/
def Reported (py : Interpreter) (outcome : Outcome) (w : List Moment) : Prop :=
  match outcome with
  | .absent => LockAt none w
  | .report r => ∃ lock, LockAt (some lock) w ∧ About py lock r ∧ Honest py r w
  | .vanished => ∃ session, Gone py session w

section
variable {py : Interpreter} {w : List Moment} {lock : Obj}

theorem exitCode_ok {r : Result} {d : Diagnostic} (ended : r.exitCode = .ok) (member : d ∈ r.diagnostics)
    (active : d.active = true) :
    d.code.priority = 0 := by
  have outranked := Overclaim.priority_exitCode member active
  rw [ended] at outranked
  exact Nat.le_zero.mp outranked

theorem watchdogDiagnostics_ok {requested : Json} {watchdog : Obj} {ds : List Diagnostic}
    (made : watchdogDiagnostics py requested watchdog = .ok ds) (required : requested.truthy = true) :
    operational watchdog = true ∨ ∃ d ∈ ds, d.active = true ∧ d.code = .watchdogUnavailable := by
  rw [watchdogDiagnostics, if_pos required] at made
  split at made
  case h_1 _ reason value present =>
    split_ifs at made with works
    · exact .inl (by simp [operational, Obj.get, present, works])
    · split at made
      · obtain rfl := Except.ok.inj made
        exact .inr ⟨_, List.mem_singleton_self _, rfl, rfl⟩
      · cases made
  case h_2 => cases made

/-- What the evidence of a report came to. -/
def Evident (py : Interpreter) (lock : Obj) (legacy : Bool) (found : Found) (w : List Moment) : Prop :=
  legacy = true ∧ found = Found.initial ∨ unreadableEvidence ∈ found.result.diagnostics ∧ found.health = "unknown" ∨
    ∃ session, sessionIdOf lock = some session ∧ Shown py session found w

/-- A report with a health other than unknown inspected the rules for a latch that it read. -/
theorem evident_latched {legacy : Bool} {found : Found} (evident : Evident py lock legacy found w)
    (known : found.health ≠ "unknown") :
    ∃ session, sessionIdOf lock = some session ∧ LatchedAt py session w ∧ ∃ check : KernelCheck,
      check.diagnostic ∈ found.result.diagnostics ∧
      found.health = (if check.verified then "emergency_verified" else "containment_unconfirmed") ∧
      (check.verified = true → RulesAt w) := by
  rcases evident with ⟨_, initial⟩ | ⟨_, unknown⟩ | ⟨session, owner, ⟨unknown, _⟩ | ⟨unknown, _⟩ | ⟨latched, inspected⟩⟩
  · exact absurd (by rw [initial]; rfl) known
  · exact absurd unknown known
  · exact absurd unknown known
  · exact absurd unknown known
  · exact ⟨session, owner, latched, inspected⟩

theorem honest_of {r : Report} {supervision : List Diagnostic}
    (same : r.result = r.found.result.add (supervision ++ if r.notifications = .unavailable then [noAgent] else []))
    (about : About py lock r)
    (made : watchdogDiagnostics py (lock.get "watchdog_requested") r.watchdog = .ok supervision)
    (evident : Evident py lock r.legacy r.found w) (supervised : operational r.watchdog = true → OperatedAt py w)
    (asked : (r.notifications = .answered → AnsweredAt w) ∧
      (r.notifications = .disabled → r.notificationsRequested.truthy = false)) : Honest py r w := by
  have kept {d : Diagnostic} (member : d ∈ r.found.result.diagnostics) : d ∈ r.result.diagnostics := by
    rw [same]
    exact List.mem_append_left _ member
  have more {d : Diagnostic} (member : d ∈ supervision ++ if r.notifications = .unavailable then [noAgent] else []) :
      d ∈ r.result.diagnostics := by
    rw [same]
    exact List.mem_append_right _ member
  constructor
  · intro verified
    obtain ⟨session, _, _, check, _, health, rules⟩ := evident_latched evident (by rw [verified]; decide)
    refine rules ?_
    by_contra unverified
    rw [if_neg unverified, verified] at health
    exact absurd health (by decide)
  · intro known
    obtain ⟨session, owner, latched, check, member, _⟩ := evident_latched evident known
    refine ⟨⟨session, by rw [about.session, sessionIdOf_get owner], latched⟩, ?_⟩
    have outranked := Overclaim.priority_exitCode (kept member) rfl
    refine Nat.le_trans ?_ outranked
    cases verified : check.verified <;> simp [KernelCheck.diagnostic, verified, ExitCode.priority]
  · intro unconfirmed
    obtain ⟨session, _, _, check, member, health, _⟩ := evident_latched evident (by rw [unconfirmed]; decide)
    have outranked := Overclaim.priority_exitCode (kept member) rfl
    have unverified : check.verified = false := by
      by_contra verified
      rw [Bool.not_eq_false] at verified
      rw [if_pos verified, unconfirmed] at health
      exact absurd health (by decide)
    simpa [KernelCheck.diagnostic, unverified] using outranked
  · exact supervised
  · exact asked.1
  · intro ended
    have zero {d : Diagnostic} (member : d ∈ r.result.diagnostics) (active : d.active = true) : d.code.priority = 0 :=
      exitCode_ok ended member active
    refine ⟨?_, ?_, ?_, ?_⟩
    · by_contra known
      obtain ⟨_, _, _, check, member, _⟩ := evident_latched evident known
      have none := zero (kept member) rfl
      cases verified : check.verified <;> simp [KernelCheck.diagnostic, verified, ExitCode.priority] at none
    · intro requested
      have needed : (lock.get "watchdog_requested").truthy = true := by
        rw [about.watchdog] at requested
        unfold Obj.get
        cases found : lock.find? "watchdog_requested" with
        | none => simp [found, Json.truthy] at requested
        | some value => simpa [found] using requested
      rcases watchdogDiagnostics_ok made needed with works | ⟨d, member, active, code⟩
      · exact works
      · have none := zero (more (List.mem_append_left _ member)) active
        rw [code] at none
        exact absurd none (by decide)
    · cases notice : r.notifications with
      | answered => exact .inl rfl
      | disabled => exact .inr ⟨rfl, asked.2 notice⟩
      | unavailable =>
        have none := zero (more (d := noAgent) (by simp [notice])) rfl
        exact absurd none (by decide)
    · rcases evident with ⟨legacy, _⟩ | ⟨unreadable, _⟩ | ⟨session, owner,
        ⟨_, read⟩ | ⟨_, unreadable⟩ | ⟨_, check, member, _⟩⟩
      · exact .inl legacy
      · exact absurd (zero (kept unreadable) rfl) (by decide)
      · exact .inr ⟨session, by rw [about.session, sessionIdOf_get owner], read⟩
      · exact absurd (zero (kept unreadable) rfl) (by decide)
      · have none := zero (kept member) rfl
        cases verified : check.verified <;> simp [KernelCheck.diagnostic, verified, ExitCode.priority] at none

theorem Evident.mono {legacy : Bool} {found : Found} {w' : List Moment} (evident : Evident py lock legacy found w)
    (more : w <+: w') :
    Evident py lock legacy found w' := by
  rcases evident with legacy | unreadable | ⟨session, owner,
    ⟨unknown, read⟩ | unreadable | ⟨latched, check, member, health, rules⟩⟩
  · exact .inl legacy
  · exact .inr (.inl unreadable)
  · exact .inr (.inr ⟨session, owner, .inl ⟨unknown, read.mono more⟩⟩)
  · exact .inr (.inr ⟨session, owner, .inr (.inl unreadable)⟩)
  · refine .inr (.inr ⟨session, owner, .inr (.inr ⟨latched.mono more, check, member, health, fun verified => ?_⟩)⟩)
    obtain ⟨m, mIn, facts⟩ := rules verified
    exact ⟨m, more.subset mIn, facts⟩

theorem observe_told (py : Interpreter) (w : List Moment) : Told w (observeSession py) (Reported py) := by
  unfold observeSession
  refine told_bind lock_told fun lock w₁ _ locked => ?_
  cases lock with
  | none => exact told_pure locked
  | some lock =>
    refine told_bind (told_ofExcept (R := fun settings _ => sessionSettings py lock = .ok settings) fun _ same => same)
      fun settings w₂ more₂ configured => ?_
    refine told_bind observation_told fun watchdog w₃ more₃ supervised => ?_
    refine told_bind (told_any _) fun ipv6 w₄ more₄ _ => told_bind (told_any _) fun _ w₅ more₅ _ => ?_
    have found : Told w₅ (if !(lock.get "session_id").truthy then pure (some Found.initial)
        else evidence py lock (seconds settings.watchdog.checkTimeout) : Py (Option Found)) fun found u =>
          match found with
          | some found => Evident py lock (!(lock.get "session_id").truthy) found u
          | none => ∃ session, Gone py session u := by
      split
      case isTrue legacy => exact told_pure (.inl ⟨legacy, rfl⟩)
      case isFalse =>
        refine told_mono evidence_told fun found u _ told => ?_
        cases found with
        | some found =>
          rcases told with unreadable | shown
          · exact .inr (.inl unreadable)
          · exact .inr (.inr shown)
        | none =>
          obtain ⟨session, _, gone⟩ := told
          exact ⟨session, gone⟩
    refine told_bind found fun found w₆ more₆ evident => ?_
    cases found with
    | none => exact told_pure evident
    | some found =>
      refine told_bind (told_ofExcept (R := fun ds _ =>
        watchdogDiagnostics py (lock.get "watchdog_requested") watchdog = .ok ds) fun _ same => same)
        fun supervision w₇ more₇ made => ?_
      refine told_bind (agent_told _) fun notifications w₈ more₈ asked => told_pure ?_
      have later : w₃ <+: w₈ := (((more₄.trans more₅).trans more₆).trans more₇).trans more₈
      refine ⟨lock, member_mono locked ((more₂.trans more₃).trans later),
        ⟨rfl, rfl, rfl, settings, configured, rfl⟩, ?_⟩
      exact honest_of rfl ⟨rfl, rfl, rfl, settings, configured, rfl⟩ made (Evident.mono evident (more₇.trans more₈))
        (fun works => (supervised works).mono later) asked

/-! ### Reading only -/

theorem effect_reads {o : Op} (reads : among [.quiet, .readLock] o) (i : Nat) (h : Host) : h.effect i o = h := by
  cases o with
  | nftTransaction t timeout =>
    rcases kind_transaction t timeout with emergency | table
    · simp [among, emergency] at reads
    · simp [among, table] at reads
  | _ => first | rfl | simp [among, kind] at reads

theorem evidence_uses (py : Interpreter) (lock : Obj) (timeout : ℚ) :
    (evidence py lock timeout).Uses (among [.quiet, .readLock]) := by
  have quiet : Kind.quiet ∈ [Kind.quiet, Kind.readLock] := List.mem_cons_self
  unfold evidence
  split
  case h_1 => trivial
  case h_2 session _ =>
    refine uses_bind (uses_catch (uses_bind ?_ fun _ => trivial) fun _ => trivial) fun verification => ?_
    · refine uses_bind (read_uses quiet quiet) fun found => ?_
      cases found with
      | none => trivial
      | some record => exact uses_bind ⟨quiet, fun _ => trivial⟩ fun _ => trivial
    · cases verification with
      | none => trivial
      | some verification =>
        refine uses_catch (uses_bind (emergencyLatched_uses quiet) fun latched => ?_) fun _ => trivial
        cases latched with
        | false => trivial
        | true =>
          refine uses_bind (read_uses quiet quiet) fun found => ?_
          cases found with
          | none => trivial
          | some record => exact uses_bind (uses_ofExcept _) fun _ => uses_bind (inspect_uses quiet) fun _ => trivial

theorem askAgent_uses (enabled : Json) : (askAgent enabled).Uses (among [.quiet, .readLock]) := by
  unfold askAgent
  split
  · refine uses_bind ⟨List.mem_cons_self, fun _ => trivial⟩ fun answer => ?_
    cases answer with
    | ok => trivial
    | error e =>
      dsimp only
      split <;> trivial
  · trivial

theorem observe_uses (py : Interpreter) : (observeSession py).Uses (among [.quiet, .readLock]) := by
  have quiet : Kind.quiet ∈ [Kind.quiet, Kind.readLock] := List.mem_cons_self
  have reads : Kind.readLock ∈ [Kind.quiet, Kind.readLock] := List.mem_cons_of_mem _ List.mem_cons_self
  unfold observeSession
  refine uses_bind (readLock_uses reads) fun lock => ?_
  cases lock with
  | none => trivial
  | some lock =>
    refine uses_bind (uses_ofExcept _) fun settings =>
      uses_bind (watchdogObservation_uses quiet reads) fun watchdog => ?_
    refine uses_bind ?_ fun ipv6 => uses_bind (external_uses quiet) fun _ => uses_bind ?_ fun found => ?_
    · split
      · trivial
      · refine uses_bind ⟨quiet, fun _ => trivial⟩ fun supported => ?_
        cases supported <;> trivial
    · split
      · trivial
      · exact evidence_uses py lock _
    · cases found with
      | none => trivial
      | some found => exact uses_bind (uses_ofExcept _) fun _ => uses_bind (askAgent_uses _) fun _ => trivial

end

/-- However the host changes between its steps, an observation changes nothing itself, and its report is honest about
    what it read. -/
theorem observe_honest (py : Interpreter) : (observeSession py).Ensures perform [] fun x w =>
    (∀ m ∈ w, ∀ i (h : Host), h.effect i m.op = h) ∧ ∀ outcome, x = .ok outcome → Reported py outcome w := by
  have readOnly : (observeSession py).Preserves perform fun w => ∀ m ∈ w, among [.quiet, .readLock] m.op := by
    refine preserves_of_uses (observe_uses py) fun w o f r w' used performed before m member => ?_
    obtain ⟨done, _, same⟩ := Option.map_eq_some_iff.mp performed
    obtain ⟨_, rfl⟩ := Prod.mk.inj same
    rcases List.mem_append.mp member with earlier | here
    · exact before m earlier
    · obtain rfl := List.mem_singleton.mp here
      exact used
  refine ensures_mono (ensures_both (readOnly [] (by simp)) (observe_told py [])) fun x w both => ?_
  exact ⟨fun m member i h => effect_reads (both.1 m member) i h, both.2.2⟩

end Ttp.StatusReport
