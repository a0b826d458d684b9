import Ttp.EmergencyHistory

/-!
What a result of `request_emergency` and the records it leaves claim. A result
says that the emergency is verified only if this call saw it in the kernel and
nothing went wrong on the way, since every failure leaves a diagnostic of a
higher priority. A record says that the killswitch was applied only if it was,
or if the call repairs and the record that it found says so.
-/
namespace Ttp.Overclaim
open Ttp.Python Ttp.Evidence Ttp.Program Ttp.Machine Ttp.Records Ttp.Firewall Ttp.SessionSafety Ttp.EmergencyHistory
open Ttp.Containment (recordOf prior_applied)
open Ttp.State (requiredLock)
open Ttp.SessionSettings (fromSnapshot)

/-! ### Priorities -/

section
variable {r : Result} {d : Diagnostic}

theorem worst_left (a b : ExitCode) : a.priority ≤ (a.worst b).priority := by
  unfold ExitCode.worst
  split <;> omega

theorem worst_right (a b : ExitCode) : b.priority ≤ (a.worst b).priority := by
  unfold ExitCode.worst
  split <;> omega

theorem foldl_worst {codes : List ExitCode} {first code : ExitCode} (member : code = first ∨ code ∈ codes) :
    code.priority ≤ (codes.foldl ExitCode.worst first).priority := by
  induction codes generalizing first code with
  | nil =>
    obtain rfl : code = first := by simpa using member
    exact Nat.le_refl _
  | cons next rest ih =>
    rw [List.foldl_cons]
    have kept : (first.worst next).priority ≤ (rest.foldl ExitCode.worst (first.worst next)).priority := ih (Or.inl rfl)
    rcases member with rfl | member
    · exact Nat.le_trans (worst_left _ next) kept
    · rcases List.mem_cons.mp member with rfl | member
      · exact Nat.le_trans (worst_right first _) kept
      · exact ih (Or.inr member)

/-- The exit code outranks every active diagnostic. -/
theorem priority_exitCode (member : d ∈ r.diagnostics) (active : d.active = true) :
    d.code.priority ≤ r.exitCode.priority := by
  have present : d.code ∈ (r.diagnostics.filter (·.active)).map (·.code) :=
    List.mem_map.mpr ⟨d, List.mem_filter.mpr ⟨member, active⟩, rfl⟩
  unfold Result.exitCode
  split
  case h_1 empty => simp [empty] at present
  case h_2 first rest codes =>
    rw [codes] at present
    exact foldl_worst (List.mem_cons.mp present)

end

/-! ### What a call may claim -/

/-- The causes of a record that a call goes on with: objects, and diagnostics where they are kept. -/
def causesReadable (cause : Diagnostic) (data : Obj) : Bool :=
  match (data.find? "causes").getD (.arr []) with
  | .arr old => old.all isObject && (readCauses (old.filter (otherReason cause))).isOk
  | _ => false

/-- What a result that says verified rests on. -/
structure Verified (py : Interpreter) (lock : Obj) (cause : Diagnostic) (w : Chronicle) : Prop where
  inspected : w.checked = some true
  written : w.attempts.map (·.done) = [true, true]
  settings : (lock.get "settings").truthy = true → ∃ settings, fromSnapshot py (lock.get "settings") = .ok settings
  evidence : ∃ previous, w.read = some (.ok previous) ∧ ∀ p, previous = some p → causesReadable cause p.data = true

/-- The `applied` flag of a record. -/
def appliedOf : Json → Json
  | .obj payload =>
    match Obj.get payload "data" with
    | .obj data => Obj.get data "applied"
    | _ => .null
  | _ => .null

/-- The current record of the session says that the killswitch was applied. -/
def Claims (py : Interpreter) (h : Host) (session : String) : Prop :=
  ∃ payload, recordOf py .emergency session h.bootId (h.records .emergency session) = .ok (some payload) ∧
    payload.data.get "applied" = .bool true

/-- What the records claim is so. -/
def Truthful (py : Interpreter) (w : Chronicle) : Prop := ∀ session, Claims py w.host session → session ∈ w.applied

/-- What the attempted records of this call claim was so when they were made, unless they had `excuse`; and after an
    application that failed they do not claim it. -/
structure Honest (excuse : Prop) (w : Chronicle) : Prop where
  known : ∀ a ∈ w.attempts, appliedOf a.payload = .bool true → a.known = true ∨ excuse
  failed : ∀ a ∈ w.attempts, a.failed = true → appliedOf a.payload = .bool false

section
variable {py : Interpreter} {excuse : Prop} {w w' : Chronicle} {session : String}

theorem appliedOf_envelope {boot : String} {now : ℚ} {applied : Json} {verified : Bool} {causes : List Json}
    {result : Option Result} :
    appliedOf (envelope session boot now (emergencyData applied verified causes result)) = applied := by
  simp [appliedOf, envelope, emergencyData, Obj.get, find?_cons]

/-- A payload that reads as a record has the data that it was made of. -/
theorem payloadOf_data {boot : String} {now : ℚ} {data : Obj} {payload : Payload}
    (read : payloadOf py (envelope session boot now data) = .ok payload) : payload.data = data := by
  simp only [payloadOf, envelope, Obj.get, find?_cons, if_true, Option.getD_some, String.reduceEq, if_false] at read
  split_ifs at read
  obtain ⟨stamp, _, same⟩ := bind_ok read
  exact (congrArg Payload.data (Except.ok.inj same)).symm

theorem recordOf_data {boot boot' : String} {now : ℚ} {data : Obj} {payload : Payload}
    (read : recordOf py .emergency session boot (.json (envelope session boot' now data)) = .ok (some payload)) :
    payload.data = data := by
  simp only [recordOf, Loaded.loads, Except.bind] at read
  split at read
  case h_1 found content =>
    split_ifs at read
    · obtain rfl := Option.some.inj (Except.ok.inj read)
      exact payloadOf_data content
    · cases Except.ok.inj read
  case h_2 =>
    unfold Containment.unreadable at read
    split_ifs at read
    all_goals simp at read

/-- A record that was written claims what its data does. -/
theorem claims_written {h : Host} {now : ℚ} {data : Obj} (claims : Claims py (h.setRecord .emergency session
    (.json (envelope session h.bootId now data))) session) : data.get "applied" = .bool true := by
  obtain ⟨payload, read, applied⟩ := claims
  simp only [Host.setRecord, and_self, if_true] at read
  rwa [recordOf_data read] at applied

theorem claims_other {h : Host} {other : String} {payload : Json} (different : other ≠ session) :
    Claims py (h.setRecord .emergency session (.json payload)) other ↔ Claims py h other := by
  simp [Claims, Host.setRecord, different]

/-- A write keeps the records truthful if it claims an application only where there was one. -/
theorem published_truthful {applied : Json} {verified : Bool} {causes : List Json} {result : Option Result}
    {diagnostic : Diagnostic}
    {x : Except Exc (List Diagnostic)} (published :
      Published session (emergencyData applied verified causes result) diagnostic w x w')
    (truthful : Truthful py w) (so : applied = .bool true → session ∈ w.applied) :
    Truthful py w' ∧ w'.applied = w.applied := by
  cases published with
  | unsent => exact ⟨truthful, rfl⟩
  | raised => exact ⟨truthful, rfl⟩
  | refused => exact ⟨truthful, rfl⟩
  | written now =>
    refine ⟨fun other claims => ?_, rfl⟩
    by_cases same : other = session
    · subst same
      have stated : Obj.get (emergencyData applied verified causes result) "applied" = .bool true :=
        claims_written claims
      exact so (by simpa [emergencyData, Obj.get, find?_cons] using stated)
    · exact truthful other ((claims_other same).mp claims)

/-- And the call honest, if it does not claim one after an application that failed. -/
theorem published_honest {applied : Json} {verified : Bool} {causes : List Json} {result : Option Result}
    {diagnostic : Diagnostic}
    {x : Except Exc (List Diagnostic)}
    (published : Published session (emergencyData applied verified causes result) diagnostic w x w')
    (honest : Honest excuse w) (so : applied = .bool true → session ∈ w.applied ∨ excuse)
    (failed : w.failed = true → applied = .bool false) : Honest excuse w' := by
  have noted (now : ℚ) (done : Bool) :
      Honest excuse (w.writes session
        (envelope session w.host.bootId now (emergencyData applied verified causes result)) done) := by
    refine ⟨fun a member claims => ?_, fun a member after => ?_⟩
    · rcases List.mem_append.mp member with old | new
      · exact honest.known a old claims
      · obtain rfl := List.mem_singleton.mp new
        exact (so (appliedOf_envelope.symm.trans claims)).imp_left List.contains_iff_mem.mpr
    · rcases List.mem_append.mp member with old | new
      · exact honest.failed a old after
      · obtain rfl := List.mem_singleton.mp new
        exact appliedOf_envelope.trans (failed after)
  cases published with
  | unsent => exact honest
  | raised => exact honest
  | refused now => exact noted now false
  | written now => exact ⟨(noted now true).known, (noted now true).failed⟩

theorem published_kept {data : Obj} {diagnostic : Diagnostic} {x : Except Exc (List Diagnostic)}
    (published : Published session data diagnostic w x w') : w'.session = w.session ∧ w'.failed = w.failed := by
  cases published <;> exact ⟨rfl, rfl⟩

theorem published_notes {data : Obj} {diagnostic : Diagnostic} {x : Except Exc (List Diagnostic)}
    (published : Published session data diagnostic w x w') : w'.read = w.read ∧ w'.checked = w.checked := by
  cases published <;> exact ⟨rfl, rfl⟩

theorem enforced_notes {repair : Bool} {requested applied : Json} {check : KernelCheck} {failed : List Diagnostic}
    (action : Enforced repair requested w (check, applied, failed) w') :
    w'.checked = some check.verified ∧ w'.read = w.read ∧ w'.attempts = w.attempts := by
  cases action with
  | kept _ _ verified => exact ⟨by rw [verified]; rfl, rfl, rfl⟩
  | applied _ seen before => rcases before with rfl | rfl <;> exact ⟨rfl, rfl, rfl⟩
  | failed _ seen before => rcases before with rfl | rfl <;> exact ⟨rfl, rfl, rfl⟩

/-- An action ends with a flag that is so, if the one that it was asked to keep is; without an excuse the records
    stay truthful. -/
theorem enforced_keeps (py : Interpreter) {repair : Bool} {requested applied : Json} {check : KernelCheck}
    {failed : List Diagnostic}
    (action : Enforced repair requested w (check, applied, failed) w') (honest : Honest excuse w)
    (own : w.session = session)
    (unfailed : w.failed = false) (so : requested = .bool true → session ∈ w.applied ∨ excuse) :
    Honest excuse w' ∧ (Truthful py w → Truthful py w') ∧ (applied = .bool true → session ∈ w'.applied ∨ excuse) ∧
      (w'.failed = true → applied = .bool false) := by
  have seen₁ {seen : Chronicle} (before : seen = w ∨ seen = w.inspects false) :
      Honest excuse seen ∧ (Truthful py w → Truthful py seen) ∧ seen.session = session ∧ seen.failed = false := by
    rcases before with rfl | rfl
    · exact ⟨honest, id, own, unfailed⟩
    · exact ⟨⟨honest.known, honest.failed⟩, id, own, unfailed⟩
  cases action with
  | kept => exact ⟨⟨honest.known, honest.failed⟩, id, so, fun after => absurd (unfailed.symm.trans after) (by simp)⟩
  | applied _ seen before =>
    obtain ⟨honest, truthful, own, unfailed⟩ := seen₁ before
    refine ⟨⟨honest.known, honest.failed⟩, fun older other claims => ?_, fun _ => .inl ?_, fun after => ?_⟩
    · exact List.mem_cons_of_mem _ (truthful older other claims)
    · exact List.mem_cons.mpr (Or.inl own.symm)
    · exact absurd (unfailed.symm.trans after) (by simp)
  | failed _ seen before =>
    obtain ⟨honest, truthful, _, _⟩ := seen₁ before
    exact ⟨⟨honest.known, honest.failed⟩, truthful, by simp, fun _ => rfl⟩

/-- What a call does under the transition lock is honest, and truthful where no excuse is needed: a flag that is carried
    over is so, or has an excuse. -/
theorem locked_keeps {cause : Diagnostic} {repair : Bool} {result : Result} {y : Except Exc (Option (Result × Bool))}
    (inside : Locked py session cause repair result w y w') (honest : Honest excuse w) (own : w.session = session)
    (unfailed : w.failed = false)
    (so : ∀ got prior, Current py w.host session got → evidenceOf cause got = .ok prior → w'.read = some got →
      (if repair then prior.applied else .bool false) = .bool true → session ∈ w.applied ∨ excuse) :
    Honest excuse w' ∧ (¬ excuse → Truthful py w → Truthful py w') := by
  have reading (got : Except Exc (Option Payload)) : Honest excuse (w.reads got) := ⟨honest.known, honest.failed⟩
  cases inside with
  | idle => exact ⟨honest, fun _ truthful => truthful⟩
  | undecided => exact ⟨honest, fun _ truthful => truthful⟩
  | unread got => exact ⟨reading got, fun _ truthful => truthful⟩
  | unlatched got prior e current evidence latch =>
    have so := so got prior current evidence (published_notes latch).1
    refine ⟨published_honest latch (reading got) so (by simp [Chronicle.reads, unfailed]), fun strict truthful => ?_⟩
    exact (published_truthful latch truthful fun claimed => (so claimed).resolve_right strict).1
  | @ended w₁ w₂ _ got prior latched check applied failed written current evidence latch action evidence' =>
    have read : w'.read = some got := by
      rw [(published_notes evidence').1, (enforced_notes action).2.1, (published_notes latch).1]
      rfl
    have so := so got prior current evidence read
    obtain ⟨own₁, failed₁⟩ := published_kept latch
    have applied₁ : w₁.applied = w.applied := by cases latch <;> rfl
    have honest₁ := published_honest latch (reading got) so (by simp [Chronicle.reads, unfailed])
    obtain ⟨honest₂, truthful₂, known, refused⟩ :=
      enforced_keeps py action honest₁ (own₁.trans own) (failed₁.trans unfailed)
      (by rwa [applied₁])
    refine ⟨published_honest evidence' honest₂ known refused, fun strict truthful => ?_⟩
    have truthful₁ := (published_truthful latch truthful fun claimed => (so claimed).resolve_right strict).1
    exact (published_truthful evidence' (truthful₂ truthful₁) fun claimed => (known claimed).resolve_right strict).1

/-- The same of a whole call. -/
theorem requested_keeps (excuse : Prop) {lock : Obj} {cause : Diagnostic} {repair : Bool}
    {x : Except Exc Result}
    (requested : Requested py lock cause repair w x w') (honest : Honest excuse w)
    (own : ∀ s, sessionIdOf lock = some s → w.session = s) (unfailed : w.failed = false)
    (so : ∀ session got prior, Current py w.host session got → evidenceOf cause got = .ok prior → w'.read = some got →
      (if repair then prior.applied else .bool false) = .bool true → session ∈ w.applied ∨ excuse) :
    Honest excuse w' ∧ (¬ excuse → Truthful py w → Truthful py w') := by
  cases requested with
  | nameless => exact ⟨honest, fun _ truthful => truthful⟩
  | unsettled => exact ⟨honest, fun _ truthful => truthful⟩
  | refused => exact ⟨honest, fun _ truthful => truthful⟩
  | @locked session _ _ identity _ _ u inside =>
    obtain ⟨honest, kept⟩ := locked_keeps inside ⟨honest.known, honest.failed⟩
      (own session identity) unfailed (so session)
    have released : (u.host.effect 0 .release).records = u.host.records ∧
        (u.host.effect 0 .release).bootId = u.host.bootId := by
      simp only [Host.effect]
      split <;> exact ⟨rfl, rfl⟩
    refine ⟨⟨honest.known, honest.failed⟩, fun strict truthful other claims => kept strict truthful other ?_⟩
    obtain ⟨payload, read, applied⟩ := claims
    exact ⟨payload, by simpa only [Chronicle.on, released.1, released.2] using read, applied⟩

end

/-! ### Any number of calls -/

structure Call where
  lock : Obj
  cause : Diagnostic
  repair : Bool
  requireDespiteMissingLock : Bool

/-- Calls with any lock and cause; in between, anything may happen to the host, as long as nothing
    else writes a record that claims an application. -/
def calls (py : Interpreter) : Succession Op Op.Res Exc Chronicle Fate Call Result where
  program c := requestEmergency py c.lock c.cause c.repair c.requireDespiteMissingLock
  perform := perform py
  able _ _ := True
  begins c w := w.call ((sessionIdOf c.lock).getD "") c.cause
  environ w w' := w'.applied = w.applied ∧ ∀ session, Claims py w'.host session → Claims py w.host session

/-- A chronicle in which nothing happened yet, on the host of a session `a`. -/
def fresh : Chronicle :=
  ⟨{ Host.fresh with lock := .json (.obj (requiredLock "a")) }, [], [], [], "", terminatedCause, none, none, false, []⟩

/-- A call that contains, and one that repairs. -/
def contains : Call := ⟨requiredLock "a", terminatedCause, false, false⟩

def repairs : Call := { contains with repair := true }

/-- The steps of a write, of a call that contains, and of one that repairs and finds the rules in place. -/
def writing (now : ℚ) : List Fate := [.ok, .time now, .ok]

def containing : List Fate := List.replicate 5 .ok ++ writing 1 ++ [.ok, .ok] ++ writing 2 ++ [.ok]

def run (c : Call) (w : Chronicle) (fates : List Fate) : Option (Except Exc Result × Chronicle) :=
  ((calls .cpython).program c).run (perform .cpython) ((calls .cpython).begins c w) fates

/-- What a call came to: the exit code, the applications so far, and of each attempted record its claim and whether it
    is so. -/
def summary (ended : Except Exc Result × Chronicle) : Option ExitCode × List String × List (Json × Bool) :=
  (ended.1.toOption.map Result.exitCode, ended.2.applied, ended.2.attempts.map fun a => (appliedOf a.payload, a.known))

/-- A record that nothing in this boot was done for, beside the rules that it tells of. -/
def foreign : Chronicle :=
  fresh.on { fresh.host.setRecord .emergency "a"
    (.json (envelope "a" fresh.host.bootId 0 (emergencyData (.bool true) true [] none))) with table := some emergencyTable }

end Ttp.Overclaim
