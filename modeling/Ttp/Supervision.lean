import Ttp.Accounts
import Ttp.Text
import Ttp.Watchdog

/-!
`watchdog_observation` and `watchdog_liveness` of `ttp/watchdog/service.py`, by
what the calls below them come back with: the lock, what `systemctl show` prints,
the record, the boot identity and the clock, each of them anything.
-/
namespace Ttp.Supervision
open Ttp.Accounts Ttp.Python Ttp.Program Ttp.Machine Ttp.State Ttp.Records Ttp.SessionSafety Ttp.Watchdog
open Ttp.Evidence (Observation)
open Ttp.SessionSettings (Settings fromSnapshot seconds WatchdogSettings)

variable (py : Interpreter) (num : Numerals)

/-- `watchdog_liveness`. -/
def watchdogLiveness : Py (Bool × Json) := do
  let observation ← watchdogObservation py
  let live := operational observation
  pure (live, if live then observation.get "pid" else .null)

/-! ### What `systemctl show` prints -/

/-- `line.split("=", 1)`. -/
def keyValue (line : List Char) : String × String :=
  (String.ofList (line.takeWhile (· != '=')), String.ofList ((line.dropWhile (· != '=')).drop 1))

/-- `fields.get(key)`: the last line of a key counts. -/
def unitField (printed key : String) : Option String :=
  ((((Text.splitLines printed.toList).filter (·.contains '=')).map keyValue).reverse.find? (·.1 == key)).map (·.2)

/-- The fields of the unit. The pid is only converted for a unit that is active. -/
def unitFields (printed : String) : Except Exc UnitFields :=
  let activeState := (unitField printed "ActiveState").getD ""
  let invocationId := (unitField printed "InvocationID").getD ""
  if activeState = "active" then
    (num.int ((unitField printed "MainPID").getD "0")).map fun mainPid => ⟨activeState, mainPid, invocationId⟩
  else .ok ⟨activeState, 0, invocationId⟩

/-! ### Answers -/

/-- What a call comes back with. -/
inductive Answer where
  | lockFile (file : Loaded)
  | shown (printed : Except Exc String)
  | boot (id : Except Exc String)
  | record (file : Except Exc Loaded)
  | clock (now : ℚ)

/-- A host that gives any answer to a call, and the answers so far. -/
def answered (log : List Answer) : (o : Op) → Answer → Option (o.Res × List Answer)
  | .readLock, .lockFile file => some (file, log ++ [.lockFile file])
  | .showUnit _, .shown printed => some (printed.bind (unitFields num), log ++ [.shown printed])
  | .bootId, .boot id => some (id, log ++ [.boot id])
  | .readRecord .., .record file => some (file, log ++ [.record file])
  | .clock, .clock now => some (now, log ++ [.clock now])
  | _, _ => none

/-- At most now, and less than `maxAge` old. -/
def Fresh (now maxAge time : ℚ) : Prop := time ≤ now ∧ now - time < maxAge

/-- The answers of an observation that gets to the end, with what they were read as. -/
structure Reading where
  lockFile : Loaded
  lock : Obj
  settings : Settings
  printed : String
  bootBefore : String
  recordFile : Loaded
  content : Json
  record : Payload
  boot : String
  now : ℚ

def Reading.answers (r : Reading) : List Answer :=
  [.lockFile r.lockFile, .shown (.ok r.printed), .boot (.ok r.bootBefore), .record (.ok r.recordFile),
    .boot (.ok r.boot), .clock r.now]

/-- The lock requests a watchdog, the unit is active with a process, and a fresh record of a fresh evaluation
    is of the lock's session, of this boot and of this invocation. -/
structure Reading.Live (r : Reading) : Prop where
  intent : lockOf true r.lockFile = .ok (some r.lock)
  requested : (r.lock.get "watchdog_requested").truthy = true
  snapshot : fromSnapshot py (r.lock.get "settings") = .ok r.settings
  active : unitField r.printed "ActiveState" = some "active"
  running : ∃ pid, num.int ((unitField r.printed "MainPID").getD "0") = .ok pid ∧ 0 < pid
  decoded : r.recordFile.loads = .ok r.content
  payload : payloadOf py r.content = .ok r.record
  sameSession : r.lock.get "session_id" = .str r.record.sessionId
  sameBoot : r.record.bootId = r.boot
  sameInvocation : ∃ id, unitField r.printed "InvocationID" = some id ∧
    ((r.record.data.find? "instance_id").getD (.str "")).text py = id
  progressed : Fresh r.now (seconds r.settings.watchdog.observationMaxAge) r.record.writtenAt
  evaluated : ∃ time, observedAt (r.record.data.get "observed_at") = .ok (some (.finite time)) ∧
    Fresh r.now (seconds r.settings.watchdog.observationMaxAge) time

section
variable {py num} {log : List Answer}

theorem answered_readLock {Q : Except Exc (Option Obj) → List Answer → Prop}
    (each : ∀ file, Q (lockOf true file) (log ++ [.lockFile file])) :
    (readLock true).Ensures (answered num) log Q := by
  rw [readLock, ensures_bind]
  rintro fate r log' performed
  cases fate <;> simp only [answered, Option.some.injEq, Prod.mk.injEq, reduceCtorEq] at performed
  case lockFile file =>
    obtain ⟨rfl, rfl⟩ := performed
    exact (ensures_ofExcept _).mpr (each file)

theorem answered_showUnit {timeout : ℚ} {Q : Except Exc UnitFields → List Answer → Prop}
    (each : ∀ printed, Q (printed.bind (unitFields num)) (log ++ [.shown printed])) :
    (checked (step (.showUnit timeout))).Ensures (answered num) log Q := by
  rw [ensures_checked]
  rintro fate r log' performed
  cases fate <;> simp only [answered, Option.some.injEq, Prod.mk.injEq, reduceCtorEq] at performed
  case shown printed =>
    obtain ⟨rfl, rfl⟩ := performed
    exact each printed

theorem answered_bootId {Q : Except Exc String → List Answer → Prop} (each : ∀ id, Q id (log ++ [.boot id])) :
    (checked (step .bootId)).Ensures (answered num) log Q := by
  rw [ensures_checked]
  rintro fate r log' performed
  cases fate <;> simp only [answered, Option.some.injEq, Prod.mk.injEq, reduceCtorEq] at performed
  case boot id =>
    obtain ⟨rfl, rfl⟩ := performed
    exact each id

theorem answered_clock {Q : Except Exc ℚ → List Answer → Prop} (each : ∀ now, Q (.ok now) (log ++ [.clock now])) :
    (step .clock).Ensures (answered num) log Q := by
  rintro fate r log' performed
  cases fate <;> simp only [answered, Option.some.injEq, Prod.mk.injEq, reduceCtorEq] at performed
  case clock now =>
    obtain ⟨rfl, rfl⟩ := performed
    exact each now

theorem answered_readRecord {session : String} {Q : Except Exc Loaded → List Answer → Prop}
    (each : ∀ file, Q file (log ++ [.record file])) :
    (checked (step (.readRecord .watchdog session))).Ensures (answered num) log Q := by
  rw [ensures_checked]
  rintro fate r log' performed
  cases fate <;> simp only [answered, Option.some.injEq, Prod.mk.injEq, reduceCtorEq] at performed
  case record file =>
    obtain ⟨rfl, rfl⟩ := performed
    exact each file

/-- The record that a reading gives is of its session and of the boot it reads itself. -/
theorem answered_read {session : String} {Q : Except Exc (Option Payload) → List Answer → Prop}
    (nothing : ∀ x log', (∀ record, x ≠ .ok (some record)) → Q x log')
    (found : ∀ boot file content record, file.loads = .ok content → payloadOf py content = .ok record →
      record.sessionId = session →
      record.bootId = boot → Q (.ok (some record)) (log ++ [.boot (.ok boot), .record (.ok file)])) :
    (Records.read py .watchdog session).Ensures (answered num) log Q := by
  have failing {e : Exc} {log' : List Answer} : ((readError .watchdog e).getD (.raise e)).Ensures
      (answered num) log' Q := by
    unfold readError
    split_ifs <;> exact nothing _ _ (by simp)
  rw [Records.read, ensures_bind, ensures_ofExcept]
  cases named : filename py session with
  | error e => exact nothing _ _ (by simp)
  | ok _ =>
  show Prog.Ensures _ _ _ _
  rw [ensures_bind, ensures_handle]
  refine answered_bootId fun id => ?_
  cases id with
  | error e =>
    by_cases refused : (e.isOSError || e.isValueError) = true
    · simpa [caught, refused, afterwards] using nothing _ _ (by simp)
    · simpa [caught, refused, afterwards] using nothing _ _ (by simp)
  | ok boot =>
    show (Prog.handle _ _).Ensures (answered num) _ Q
    rw [ensures_handle, ensures_bind]
    refine answered_readRecord fun file => ?_
    cases file with
    | error e => exact failing
    | ok file =>
      show Prog.Ensures _ _ _ _
      rw [ensures_bind, ensures_ofExcept]
      cases decoded : file.loads with
      | error e => exact failing
      | ok content =>
        show Prog.Ensures _ _ _ _
        rw [ensures_bind, ensures_ofExcept]
        cases payload : payloadOf py content with
        | error e => exact failing
        | ok record =>
          show Prog.Ensures _ (if record.sessionId = session ∧ record.bootId = boot then pure (some record)
            else pure none) _ _
          split_ifs with same
          · have ends := found boot file content record decoded payload same.1 same.2
            simpa [caught] using ends
          · exact nothing _ _ (by simp)

theorem isCurrent_fresh {o : Observation} {session boot instanceId : String} {now maxAge : ℚ}
    (current : o.isCurrent session boot instanceId now maxAge = true) :
    o.bootId = boot ∧ o.instanceId = instanceId ∧ instanceId ≠ "" ∧ ∃ time, o.observedAt = .finite time ∧
      Fresh now maxAge time := by
  simp only [Observation.isCurrent, Bool.and_eq_true, bne_iff_ne, beq_iff_eq] at current
  obtain ⟨⟨⟨⟨⟨⟨_, _⟩, named⟩, _⟩, sameBoot⟩, sameInstance⟩, aged⟩ := current
  refine ⟨sameBoot, sameInstance, named, ?_⟩
  cases stamp : o.observedAt with
  | finite time =>
    simp only [stamp, Bool.and_eq_true, decide_eq_true_eq, sub_nonneg] at aged
    exact ⟨time, rfl, aged.1.2, aged.2⟩
  | _ => simp [stamp] at aged

theorem unknown_idle (reason : String) (pid : Json) : operational (unknown reason pid) = false := rfl

/-- What the record shows to be current where the observation of it is one of a supervisor that works. -/
theorem observe_current {settings : WatchdogSettings} {session boot instanceId : String} {pid : Int} {now : ℚ}
    {record : Payload} {observed : Obj}
    (seen : observe py settings session boot instanceId pid now record = .ok observed)
    (works : operational observed = true) :
    record.bootId = boot ∧ instanceId ≠ "" ∧ ((record.data.find? "instance_id").getD (.str "")).text py = instanceId ∧
      Fresh now (seconds settings.observationMaxAge) record.writtenAt ∧
        ∃ time, observedAt (record.data.get "observed_at") = .ok (some (.finite time)) ∧
        Fresh now (seconds settings.observationMaxAge) time := by
  simp only [observe] at seen
  split_ifs at seen with progress
  · obtain ⟨sameBoot, sameInstance, named, written, at_, progressed⟩ := isCurrent_fresh progress
    obtain rfl := Flt.finite.inj at_
    obtain ⟨stamp, evaluation, rest⟩ := bind_ok seen
    cases stamp with
    | none =>
      obtain rfl := Except.ok.inj rest
      cases (unknown_idle _ _).symm.trans works
    | some stamp =>
      simp only at rest
      split_ifs at rest with current
      · obtain ⟨_, _, _, time, rfl, evaluated⟩ := isCurrent_fresh current
        exact ⟨sameBoot, named, sameInstance, progressed, time, evaluation, evaluated⟩
      · obtain rfl := Except.ok.inj rest
        cases (unknown_idle _ _).symm.trans works
  · obtain rfl := Except.ok.inj seen
    cases (unknown_idle _ _).symm.trans works

theorem unitFields_active {printed : String} {fields : UnitFields} (read : unitFields num printed = .ok fields)
    (active : fields.activeState = "active") (named : fields.invocationId ≠ "") :
    unitField printed "ActiveState" = some "active" ∧
      num.int ((unitField printed "MainPID").getD "0") = .ok fields.mainPid ∧
      unitField printed "InvocationID" = some fields.invocationId := by
  simp only [unitFields] at read
  split_ifs at read with running
  · cases pid : num.int ((unitField printed "MainPID").getD "0") with
    | error e => simp [pid, Except.map] at read
    | ok n =>
      rw [pid] at read
      obtain rfl := Except.ok.inj read
      refine ⟨?_, rfl, ?_⟩
      · cases state : unitField printed "ActiveState" with
        | none => simp [state] at running
        | some text => simpa [state] using running
      · cases invocation : unitField printed "InvocationID" with
        | none => simp [invocation] at named
        | some text => rfl
  · obtain rfl := Except.ok.inj read
    exact absurd active running

end

section
variable {py num}

/-- Where an observation is of a supervisor that works, its calls came back with a reading that shows one. -/
def Shown (py : Interpreter) (num : Numerals) (x : Except Exc Obj) (log : List Answer) : Prop :=
  ∀ observed, x = .ok observed → operational observed = true → ∃ r : Reading, log = r.answers ∧ r.Live py num

theorem shown_idle {observed : Obj} {log : List Answer} (idle : operational observed = false) :
    Shown py num (.ok observed) log := by
  intro observed' same works
  obtain rfl := Except.ok.inj same
  cases idle.symm.trans works

theorem shown_error {e : Exc} {log : List Answer} : Shown py num (.error e) log := fun _ same => by cases same

theorem sessionIdOf_get {lock : Obj} {session : String} (named : sessionIdOf lock = some session) :
    lock.get "session_id" = .str session := by
  unfold sessionIdOf at named
  split at named
  case h_1 id found =>
    split_ifs at named
    rw [found, Option.some.inj named]
  case h_2 => cases named

theorem observation_shown : (watchdogObservation py).Ensures (answered num) [] (Shown py num) := by
  have failing {e : Exc} {log : List Answer} : caught (answered num)
      (fun e => if e.isException then some (pure (unknown "watchdog.observation_unavailable" .null)) else none)
      (Shown py num) (.error e) log := by
    by_cases usual : e.isException = true
    · simpa [caught, usual] using shown_idle (unknown_idle _ _)
    · simpa [caught, usual] using shown_error
  unfold watchdogObservation
  rw [ensures_handle, ensures_bind]
  refine answered_readLock fun lockFile => ?_
  cases intent : lockOf true lockFile with
  | error e => exact failing
  | ok found =>
    cases found with
    | none => exact shown_idle rfl
    | some lock =>
      simp only [afterwards]
      by_cases idle : (lock.isEmpty || !(lock.get "watchdog_requested").truthy) = true
      · rw [if_pos idle]
        exact shown_idle rfl
      have requested : (lock.get "watchdog_requested").truthy = true := by
        rw [Bool.or_eq_true, not_or] at idle
        simpa using idle.2
      rw [if_neg idle, ensures_bind, ensures_ofExcept]
      cases snapshot : fromSnapshot py (lock.get "settings") with
      | error e => exact failing
      | ok settings =>
        simp only [afterwards]
        rw [ensures_bind]
        refine answered_showUnit fun shown => ?_
        cases shown with
        | error e => exact failing
        | ok printed =>
          cases read : unitFields num printed with
          | error e => simpa [Except.bind, read, afterwards] using failing
          | ok fields =>
            simp only [Except.bind, read, afterwards]
            by_cases active : fields.activeState = "active"
            case neg =>
              rw [if_pos (bne_iff_ne.mpr active)]
              exact shown_idle rfl
            rw [if_neg (by simp [active])]
            cases named : sessionIdOf lock with
            | none => exact failing
            | some session =>
              simp only
              rw [ensures_bind]
              refine answered_read ?_ fun bootBefore recordFile content record decoded payload sameSession _ => ?_
              · intro x log other
                rcases x with e | _ | record
                · exact failing
                · exact shown_idle rfl
                · exact absurd rfl (other record)
              simp only [afterwards]
              split_ifs with stopped
              · exact shown_idle rfl
              rw [ensures_bind]
              refine answered_bootId fun id => ?_
              cases id with
              | error e => exact failing
              | ok boot =>
                simp only [afterwards]
                rw [ensures_bind]
                refine answered_clock fun now => ?_
                simp only [afterwards, ensures_ofExcept]
                cases seen :
                  observe py settings.watchdog session boot fields.invocationId fields.mainPid now record with
                | error e => exact failing
                | ok observed =>
                  intro observed' same works
                  obtain rfl := Except.ok.inj same
                  obtain ⟨sameBoot, invoked, sameInvocation, progressed, evaluated⟩ := observe_current seen works
                  obtain ⟨state, pid, invocation⟩ := unitFields_active read active invoked
                  refine ⟨⟨lockFile, lock, settings, printed, bootBefore, recordFile, content, record, boot, now⟩,
                    rfl, ?_⟩
                  exact
                    { intent, requested, snapshot, decoded, payload, sameBoot, progressed, evaluated
                      active := state
                      running := ⟨_, pid, not_le.mp stopped⟩
                      sameSession := by rw [sameSession]; exact sessionIdOf_get named
                      sameInvocation := ⟨_, invocation, sameInvocation⟩ }

/-- The liveness of the watchdog is that of a reading, too. -/
theorem liveness_shown : (watchdogLiveness py).Ensures (answered num) [] fun x log =>
    ∀ pid, x = .ok (true, pid) → ∃ r : Reading, log = r.answers ∧ r.Live py num := by
  rw [watchdogLiveness, ensures_bind]
  refine ensures_mono observation_shown fun x log shown => ?_
  cases x with
  | error e => exact fun pid same => by cases same
  | ok observed =>
    intro pid same
    exact shown observed rfl (Prod.mk.inj (Except.ok.inj same)).1

end

/-- Whatever its calls come back with, an observation is of a supervisor that works only if they show one that is
    live. -/
theorem observation_supervised (py : Interpreter) (num : Numerals) :
    (watchdogObservation py).Ensures (answered num) [] fun x log =>
    ∀ observed, x = .ok observed → operational observed = true → ∃ r : Reading, log = r.answers ∧ r.Live py num :=
  observation_shown

example : ((watchdogObservation .cpython).run (answered .ascii) []
    [.lockFile (.json (.obj [("session_id", .str "s"), ("watchdog_requested", .bool true),
      ("settings", .obj (({} : Settings).sections.map fun group => (group.1, .obj group.2)))])),
      .shown (.ok "ActiveState=active\nMainPID=41\nInvocationID=a1"),
      .boot (.ok "2f6c9c1e-7d1b-4c55-9a3e-0b8f0a7d5e21"),
      .record (.ok (.json (envelope "s" "2f6c9c1e-7d1b-4c55-9a3e-0b8f0a7d5e21" 90
        [("value", .str "healthy"), ("instance_id", .str "a1"), ("observed_at", .int 89)]))),
      .boot (.ok "2f6c9c1e-7d1b-4c55-9a3e-0b8f0a7d5e21"), .clock 100]).map
      (fun ended => ended.1.toOption.map operational) = some (some true) := by
  decide +kernel

end Ttp.Supervision
