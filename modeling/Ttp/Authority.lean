import Ttp.Probe

/-!
The verdict of a session comes from the first reply of the authority that
decides, and from nothing else: not from a reflector, and not from a run that a
broken worker or the deadline cut off before. The diagnostics account for every
fetch, and the run keeps to its deadline as long as its fetches and sleeps do.
-/
namespace Ttp.Authority
open Ttp.Python Ttp.Evidence Ttp.Program Ttp.Probe

/-! ### Runs -/

/-- An operation that is over, with the time it began and the time it ended. -/
inductive Event where
  | read (began ended : ℚ)
  | fetched (url : String) (budget : ℚ) (worker : Worker) (began ended : ℚ)
  | slept (budget began ended : ℚ)

namespace Event

def isFetch : Event → Bool
  | .fetched .. => true
  | _ => false

/-- A fetch or a sleep, which have a budget. -/
def budgeted : Event → Bool
  | .read .. => false
  | _ => true

def ended : Event → ℚ
  | .read _ ended | .fetched _ _ _ _ ended | .slept _ _ ended => ended

/-- It ended within its budget; reading the clock takes no time. -/
def Kept : Event → Prop
  | .read began ended => ended ≤ began
  | .fetched _ budget _ began ended => ended ≤ began + budget
  | .slept budget began ended => ended ≤ began + budget

/-- A reading of the clock at or after the deadline. -/
def Late (deadline : ℚ) : Event → Prop
  | .read _ ended => deadline ≤ ended
  | _ => False

/-- A fetch that was the last because of its issue. -/
def fatal : Event → Bool
  | .fetched url _ worker _ _ =>
    match fetch url worker with
    | .ok (.issue error) => error.reason ∈ fatalReasons
    | _ => false
  | _ => false

/-- A fetch of the authority. -/
def asks : Event → Bool
  | .fetched url .. => url = authority
  | _ => false

/-- What a fetch raised with, that ended neither with data nor with an issue. -/
def raised : Event → Option Exc
  | .fetched url _ worker _ _ =>
    match fetch url worker with
    | .error e => some e
    | _ => none
  | _ => none

/-- The verdict of a reply of the authority. -/
def answer (address : String → Option String) : Event → Option (Bool × String)
  | .fetched url _ worker _ _ =>
    match fetch url worker with
    | .ok (.data data) => if url = authority then verdictOf address data else none
    | _ => none
  | _ => none

/-- The issue of a fetch, its own or that of a reply that is of no use. -/
def issue (address : String → Option String) : Event → Option Diagnostic
  | .fetched url _ worker _ _ =>
    match fetch url worker with
    | .ok (.issue error) => some error
    | .ok (.data data) =>
      if url = authority then
        if verdictOf address data = none then some (Probe.issue "authority_response_invalid" url) else none
      else if reflected address data = none then some (Probe.issue "reflector_response_invalid" url) else none
    | .error _ => none
  | _ => none

end Event

/-- The clock, which never goes back, and the log of a run. -/
structure Run where
  now : ℚ
  log : List Event

def Run.next (w : Run) (event : Event) : Run := ⟨event.ended, w.log ++ [event]⟩

/-- How an operation turns out, and when it ends. -/
structure Fate where
  worker : Worker
  ended : ℚ

/-- The result of an operation, and its event. -/
def done (w : Run) (fate : Fate) : (o : Op) → o.Res × Event
  | .boottime => (fate.ended, .read w.now fate.ended)
  | .run url budget => (fate.worker, .fetched url budget fate.worker w.now fate.ended)
  | .sleep budget => ((), .slept budget w.now fate.ended)

def perform (w : Run) (o : Op) (fate : Fate) : Option (o.Res × Run) :=
  if w.now ≤ fate.ended then some ((done w fate o).1, w.next (done w fate o).2) else none

section
variable {w : Run}

theorem ensures_done {o : Op} {Q : Except Exc o.Res → Run → Prop} : (Prog.op o : Py o.Res).Ensures perform w Q ↔
    ∀ fate, w.now ≤ fate.ended → Q (.ok (done w fate o).1) (w.next (done w fate o).2) := by
  rw [ensures_op]
  constructor
  · intro all fate later
    exact all fate _ _ (if_pos later)
  · intro all fate r w' performed
    unfold perform at performed
    split at performed
    case isTrue later =>
      obtain ⟨rfl, rfl⟩ := Prod.mk.inj (Option.some.inj performed)
      exact all fate later
    case isFalse => cases performed

theorem ensures_boottime {Q : Except Exc ℚ → Run → Prop} :
    boottime.Ensures perform w Q ↔ ∀ t, w.now ≤ t → Q (.ok t) (w.next (.read w.now t)) :=
  ensures_done.trans ⟨fun all t => all ⟨.expired, t⟩, fun all fate => all fate.ended⟩

theorem ensures_run {url : String} {budget : ℚ} {Q : Except Exc Worker → Run → Prop} :
    (run url budget).Ensures perform w Q ↔
      ∀ worker t, w.now ≤ t → Q (.ok worker) (w.next (.fetched url budget worker w.now t)) :=
  ensures_done.trans ⟨fun all worker t => all ⟨worker, t⟩, fun all fate => all fate.worker fate.ended⟩

theorem ensures_sleep {budget : ℚ} {Q : Except Exc Unit → Run → Prop} :
    (sleep budget).Ensures perform w Q ↔ ∀ t, w.now ≤ t → Q (.ok ()) (w.next (.slept budget w.now t)) :=
  ensures_done.trans ⟨fun all t => all ⟨.expired, t⟩, fun all fate => all fate.ended⟩

end

/-! ### Time -/

/-- A run that began with the reading `first`, made at most `k` fetches, and ends by the deadline if they and its
    sleeps keep to their budgets. -/
structure Timed (first : Event) (deadline : ℚ) (k : Nat) (w : Run) : Prop where
  started : w.log.head? = some first
  few : w.log.countP Event.isFetch ≤ k
  inTime : (∀ event ∈ w.log, event.budgeted = true → event.Kept) → ∀ event ∈ w.log, event.budgeted = true →
    event.ended ≤ deadline
  ended : (∀ event ∈ w.log, event.Kept) → w.now ≤ deadline

section
variable {first : Event} {deadline : ℚ} {k : Nat} {w : Run}

theorem head_next {event : Event} (started : w.log.head? = some first) : (w.next event).log.head? = some first := by
  obtain ⟨rest, log⟩ := List.head?_eq_some_iff.mp started
  simp [Run.next, log]

theorem Timed.more {k' : Nat} (timed : Timed first deadline k w) (more : k ≤ k') : Timed first deadline k' w :=
  ⟨timed.started, timed.few.trans more, timed.inTime, timed.ended⟩

theorem timed_read {t : ℚ} (timed : Timed first deadline k w) : Timed first deadline k (w.next (.read w.now t)) := by
  refine ⟨head_next timed.started, ?_, ?_, ?_⟩
  · simpa [Run.next, Event.isFetch] using timed.few
  · simpa [Run.next, or_imp, forall_and, Event.budgeted] using timed.inTime
  · intro kept
    simp only [Run.next, List.mem_append, List.mem_singleton, or_imp, forall_and, forall_eq] at kept
    exact kept.2.trans (timed.ended kept.1)

/-- A fetch or a sleep with a budget of no more than what remains. -/
theorem timed_budgeted {event : Event} {budget t : ℚ} (timed : Timed first deadline k w)
    (kind : (∃ url worker, event = .fetched url budget worker w.now t) ∨ event = .slept budget w.now t)
    (remains : budget ≤ deadline - w.now) : Timed first deadline (k + 1) (w.next event) := by
  have ended : event.ended = t := by rcases kind with ⟨url, worker, rfl⟩ | rfl <;> rfl
  have kept : event.Kept ↔ t ≤ w.now + budget := by rcases kind with ⟨url, worker, rfl⟩ | rfl <;> rfl
  have budgeted : event.budgeted = true := by rcases kind with ⟨url, worker, rfl⟩ | rfl <;> rfl
  have counted : w.log.countP Event.isFetch + (if event.isFetch then 1 else 0) ≤ k + 1 := by
    have few := timed.few
    split <;> omega
  refine ⟨head_next timed.started, ?_, ?_, ?_⟩
  · simpa [Run.next, List.countP_cons] using counted
  · intro each
    simp only [Run.next, List.mem_append, List.mem_singleton, or_imp, forall_and, forall_eq] at each ⊢
    refine ⟨timed.inTime each.1, fun _ => ?_⟩
    have within := kept.mp (each.2 budgeted)
    rw [ended]
    linarith
  · intro each
    simp only [Run.next, List.mem_append, List.mem_singleton, or_imp, forall_and, forall_eq] at each ⊢
    have within := kept.mp each.2
    rw [ended]
    linarith

theorem timed_fetched {url : String} {worker : Worker} {budget t : ℚ} (timed : Timed first deadline k w)
    (remains : budget ≤ deadline - w.now) :
    Timed first deadline (k + 1) (w.next (.fetched url budget worker w.now t)) :=
  timed_budgeted timed (Or.inl ⟨_, _, rfl⟩) remains

theorem timed_slept {seconds t : ℚ} (timed : Timed first deadline k w) (remains : seconds ≤ deadline - w.now) :
    Timed first deadline k (w.next (.slept seconds w.now t)) := by
  have more := timed_budgeted (t := t) timed (Or.inr rfl) remains
  exact ⟨more.started, by simpa [Run.next, Event.isFetch] using timed.few, more.inTime, more.ended⟩

end

/-! ### Verdicts -/

section
variable (address : String → Option String)

/-- The first reply that decides, which no broken worker and no deadline came before. -/
def Decides (deadline : ℚ) (verdict : Bool) (found : String) (log : List Event) : Prop :=
  ∃ before event after, log = before ++ event :: after ∧ event.answer address = some (verdict, found) ∧
    ∀ earlier ∈ before, earlier.answer address = none ∧ earlier.fatal = false ∧ ¬ earlier.Late deadline

/-- What ends a run without a verdict: the identity, a broken worker, the deadline, or attempts that each asked the
    authority. -/
def Exhausted (deadline : ℚ) (identity : Option Exempt) (log : List Event) : Prop :=
  identity.isSome = true ∨ (∃ event ∈ log, event.fatal = true) ∨ (∃ event ∈ log, event.Late deadline) ∨
    5 ≤ log.countP Event.asks

/-- What a verification tells of the run behind it. -/
structure Faithful (deadline : ℚ) (identity : Option Exempt) (v : Verification) (log : List Event) : Prop where
  confirmed : v.state = .confirmed ↔ ∃ found, Decides address deadline true found log
  negative : v.state = .negative ↔ ∃ found, Decides address deadline false found log
  found : ∀ verdict found, Decides address deadline verdict found log → v.ip = some found
  sought : v.state = .inconclusive → Exhausted deadline identity log
  diagnostics : v.diagnostics = (identity.map Exempt.issue).toList ++
    (log.filterMap (Event.issue address)).map
    (fun d => { d with active := v.state != .confirmed && v.state != .negative }) ++
      if v.reason = "probe.deadline" then [Probe.issue "deadline" "verify"] else []

/-- A run that goes on. -/
structure Undecided (deadline : ℚ) (p : Progress) (w : Run) : Prop where
  unanswered : ∀ event ∈ w.log, event.answer address = none
  unbroken : ∀ event ∈ w.log, event.fatal = false
  late : ∀ event ∈ w.log, event.Late deadline → deadline ≤ w.now
  failures : p.failures = w.log.filterMap (Event.issue address)

variable {address} {first : Event} {deadline : ℚ} {k : Nat} {p : Progress} {v : Verification} {w : Run}

/-- There is only one reply that decides. -/
theorem decides_first {verdict : Bool} {found : String} {log : List Event}
    (decides : Decides address deadline verdict found log) :
    log.findSome? (Event.answer address) = some (verdict, found) := by
  obtain ⟨before, event, after, rfl, answered, earlier⟩ := decides
  have none : before.findSome? (Event.answer address) = none :=
    List.findSome?_eq_none_iff.mpr fun event member => (earlier event member).1
  rw [List.findSome?_append, none, Option.none_or, List.findSome?_cons, answered]

theorem replyOf_active {url : String} {payload : Json} {d : Diagnostic} (issued : replyOf url payload = .issue d) :
    d.active = true := by
  unfold replyOf at issued
  repeat' split at issued
  all_goals first
    | (obtain rfl := Fetched.issue.inj issued; rfl)
    | cases issued

theorem fetch_active {url : String} {worker : Worker} {d : Diagnostic} (issued : fetch url worker = .ok (.issue d)) :
    d.active = true := by
  cases worker with
  | expired =>
    obtain rfl := Fetched.issue.inj (Except.ok.inj issued)
    rfl
  | unstarted kind errno =>
    obtain rfl := Fetched.issue.inj (Except.ok.inj issued)
    rfl
  | raised e => cases issued
  | ended returncode length stdout =>
    simp only [fetch] at issued
    split_ifs at issued
    · obtain rfl := Fetched.issue.inj (Except.ok.inj issued)
      rfl
    · obtain rfl := Fetched.issue.inj (Except.ok.inj issued)
      rfl
    · cases loaded : stdout.loads with
      | ok payload =>
        rw [loaded] at issued
        exact replyOf_active (Except.ok.inj issued)
      | error e =>
        rw [loaded] at issued
        by_cases value : e.isValueError = true
        · simp only [value, if_true, Except.ok.injEq, Fetched.issue.injEq] at issued
          obtain rfl := issued
          rfl
        · simp [value] at issued

/-- An issue is active when it is met. -/
theorem issue_active {event : Event} {d : Diagnostic} (issued : event.issue address = some d) : d.active = true := by
  cases event with
  | read began ended => cases issued
  | slept budget began ended => cases issued
  | fetched url budget worker began ended =>
    cases outcome : fetch url worker with
    | error e => simp [Event.issue, outcome] at issued
    | ok reply =>
      cases reply with
      | issue error =>
        obtain rfl : error = d := by simpa [Event.issue, outcome] using issued
        exact fetch_active outcome
      | data data =>
        simp only [Event.issue, outcome] at issued
        split_ifs at issued
        all_goals
          obtain rfl := Option.some.inj issued
          rfl

theorem issues_active (log : List Event) :
    (log.filterMap (Event.issue address)).map (fun d => { d with active := true }) = log.filterMap
      (Event.issue address) := by
  refine (List.map_congr_left fun d member => ?_).trans (List.map_id _)
  obtain ⟨event, _, issued⟩ := List.mem_filterMap.mp member
  have active := issue_active issued
  cases d
  cases active
  rfl

/-- A run without a verdict. -/
theorem faithful_inconclusive {log : List Event} (unanswered : ∀ event ∈ log, event.answer address = none)
    (state : v.state = .inconclusive) {identity : Option Exempt}
    (diagnostics : v.diagnostics = (identity.map Exempt.issue).toList ++
      log.filterMap (Event.issue address) ++
      if v.reason = "probe.deadline" then [Probe.issue "deadline" "verify"] else [])
    (sought : Exhausted deadline identity log) : Faithful address deadline identity v log := by
  have undecided (verdict : Bool) (found : String) : ¬ Decides address deadline verdict found log := by
    rintro ⟨before, event, after, rfl, answered, _⟩
    simp [unanswered event (by simp)] at answered
  refine ⟨?_, ?_, fun verdict found decides => absurd decides (undecided verdict found), fun _ => sought, ?_⟩
  · simp [state, undecided]
  · simp [state, undecided]
  · have active : (v.state != .confirmed && v.state != .negative) = true := by rw [state]; rfl
    rw [active, issues_active, diagnostics]

/-- A run with a verdict. -/
theorem faithful_verdict {log : List Event} {verdict : Bool} {found : String}
    (decides : Decides address deadline verdict found log)
    (state : v.state = if verdict then .confirmed else .negative) (ip : v.ip = some found)
    (reason : v.reason = if verdict then "probe.tor_confirmed" else "probe.tor_negative")
    (diagnostics : v.diagnostics = (log.filterMap (Event.issue address)).map fun d => { d with active := false }) :
    Faithful address deadline none v log := by
  have same {verdict' : Bool} {found' : String} (other : Decides address deadline verdict' found' log) :
      verdict = verdict' ∧ found = found' := by
    have firsts := (decides_first decides).symm.trans (decides_first other)
    simpa using firsts
  have reads (b : Bool) : (∃ found, Decides address deadline b found log) ↔ verdict = b :=
    ⟨fun ⟨_, other⟩ => (same other).1, fun agrees => ⟨found, agrees ▸ decides⟩⟩
  refine ⟨?_, ?_, fun _ found' other => (same other).2 ▸ ip, fun open' => ?_, ?_⟩
  · cases verdict <;> simp [state, reads]
  · cases verdict <;> simp [state, reads]
  · cases verdict <;> simp [state] at open'
  · cases verdict <;> simp [state, reason, diagnostics]

/-! ### The loops -/

theorem late_ended {event : Event} (late : event.Late deadline) : deadline ≤ event.ended := by
  cases event with
  | read began ended => exact late
  | fetched => exact late.elim
  | slept => exact late.elim

theorem issues_next {event : Event} :
    (w.next event).log.filterMap (Event.issue address) = w.log.filterMap (Event.issue address) ++
      (event.issue address).toList := by
  rw [Run.next, List.filterMap_append]
  cases issued : event.issue address <;> simp [issued]

theorem unanswered_next {event : Event} (unanswered : ∀ other ∈ w.log, other.answer address = none)
    (also : event.answer address = none) :
    ∀ other ∈ (w.next event).log, other.answer address = none := by
  intro other member
  rcases List.mem_append.mp member with old | new
  · exact unanswered other old
  · obtain rfl := List.mem_singleton.mp new
    exact also

theorem undecided_next {event : Event} {p' : Progress} (undecided : Undecided address deadline p w)
    (later : w.now ≤ event.ended)
    (unanswered : event.answer address = none) (unbroken : event.fatal = false)
    (failures : p'.failures = p.failures ++ (event.issue address).toList) :
    Undecided address deadline p' (w.next event) := by
  refine ⟨unanswered_next undecided.unanswered unanswered, ?_, ?_, ?_⟩
  · simpa [Run.next, or_imp, forall_and, unbroken] using undecided.unbroken
  · intro other member late
    rcases List.mem_append.mp member with old | new
    · exact (undecided.late other old late).trans later
    · obtain rfl := List.mem_singleton.mp new
      exact late_ended late
  · rw [failures, undecided.failures, issues_next]

theorem undecided_read {t : ℚ} (undecided : Undecided address deadline p w) (later : w.now ≤ t) :
    Undecided address deadline p (w.next (.read w.now t)) :=
  undecided_next undecided later rfl rfl (by simp [Event.issue])

/-- A fetch raised with `e`. -/
def Raised (e : Exc) (log : List Event) : Prop := ∃ event ∈ log, event.raised = some e

variable (address)

/-- How a loop over the endpoints ends. -/
def Turned (first : Event) (deadline : ℚ) (k : Nat) : Except Exc (Verification ⊕ Progress) → Run → Prop
  | .ok (.inl v), w => Timed first deadline k w ∧ Faithful address deadline none v w.log
  | .ok (.inr p), w => Timed first deadline k w ∧ Undecided address deadline p w
  | .error e, w => Timed first deadline k w ∧ Raised e w.log

variable {address}

theorem turned_more {k' : Nat} (more : k ≤ k') {x : Except Exc (Verification ⊕ Progress)}
    (turned : Turned address first deadline k x w) :
    Turned address first deadline k' x w := by
  cases x with
  | error e => exact ⟨turned.1.more more, turned.2⟩
  | ok turn =>
    cases turn with
    | inl v => exact ⟨turned.1.more more, turned.2⟩
    | inr p => exact ⟨turned.1.more more, turned.2⟩

theorem member_next {event : Event} {P : Event → Prop} (found : ∃ other ∈ w.log, P other) :
    ∃ other ∈ (w.next event).log, P other := by
  obtain ⟨other, member, holds⟩ := found
  exact ⟨other, List.mem_append_left _ member, holds⟩

theorem expired_turned (timed : Timed first deadline k w) (undecided : Undecided address deadline p w)
    (late : ∃ event ∈ w.log, event.Late deadline) :
    (do
      let now ← boottime
      pure (.inl ⟨.inconclusive, "probe.deadline", p.fallbackIp, some now, p.failures ++
        [Probe.issue "deadline" "verify"]⟩) :
      Py (Verification ⊕ Progress)).Ensures perform w (Turned address first deadline k) := by
  rw [ensures_bind, ensures_boottime]
  intro t later
  rw [afterwards, ensures_pure]
  have undecided := undecided_read undecided later
  refine ⟨timed_read timed, faithful_inconclusive undecided.unanswered rfl (by simp [undecided.failures]) ?_⟩
  exact Or.inr (Or.inr (Or.inl (member_next late)))

/-- A broken worker ends it. -/
theorem broken_turned {error : Diagnostic} (timed : Timed first deadline k w)
    (unanswered : ∀ event ∈ w.log, event.answer address = none)
    (issues : w.log.filterMap (Event.issue address) = p.failures ++ [error]) (fatal : error.reason ∈ fatalReasons)
    (ends : ∃ event ∈ w.log, event.fatal = true) :
    (do
      let now ← boottime
      pure (.inl ⟨.inconclusive, error.reason, p.fallbackIp, some now, p.failures ++ [error]⟩) :
      Py (Verification ⊕ Progress)).Ensures perform w (Turned address first deadline k) := by
  rw [ensures_bind, ensures_boottime]
  intro t later
  rw [afterwards, ensures_pure]
  have broken : error.reason ≠ "probe.deadline" := by
    rintro same
    simp [same, fatalReasons] at fatal
  have unanswered := unanswered_next unanswered (rfl : (Event.read w.now t).answer address = none)
  refine ⟨timed_read timed, faithful_inconclusive unanswered rfl ?_ (Or.inr (Or.inl (member_next ends)))⟩
  rw [issues_next, issues]
  simp [broken, Event.issue]

/-- The authority decides. -/
theorem verdict_turned {before : List Event} {event : Event} {verdict : Bool} {found : String}
    (timed : Timed first deadline k w)
    (log : w.log = before ++ [event]) (answered : event.answer address = some (verdict, found))
    (earlier : ∀ other ∈ before, other.answer address = none ∧ other.fatal = false ∧ ¬ other.Late deadline)
    (issues : w.log.filterMap (Event.issue address) = p.failures) :
    (do
      let now ← boottime
      pure (.inl ⟨if verdict then .confirmed else .negative, if verdict then "probe.tor_confirmed"
        else "probe.tor_negative", some found, some now, p.failures.map fun item => { item with active := false }⟩) :
      Py (Verification ⊕ Progress)).Ensures perform w (Turned address first deadline k) := by
  rw [ensures_bind, ensures_boottime]
  intro t later
  rw [afterwards, ensures_pure]
  refine ⟨timed_read timed, faithful_verdict ⟨before, event, [.read w.now t], ?_, answered, earlier⟩ rfl rfl rfl ?_⟩
  · simp [Run.next, log, Event.ended]
  · rw [issues_next, issues]
    simp [Event.issue]

theorem tryEndpoints_turned (urls : List String) (timed : Timed first deadline k w)
    (undecided : Undecided address deadline p w) :
    (tryEndpoints address deadline urls p).Ensures perform w (Turned address first deadline (k + urls.length)) := by
  induction urls generalizing p k w with
  | nil =>
    rw [tryEndpoints, ensures_pure]
    exact ⟨timed, undecided⟩
  | cons url rest ih =>
    have length : k + (url :: rest).length = k + 1 + rest.length := by simp; omega
    rw [tryEndpoints, ensures_bind, ensures_boottime, length]
    intro t later
    have timed := timed_read (t := t) timed
    have undecided := undecided_read undecided later
    rw [afterwards]
    by_cases expired : deadline - t ≤ 0
    · rw [if_pos expired]
      have late : ∃ event ∈ (w.next (.read w.now t)).log, event.Late deadline :=
        ⟨.read w.now t, List.mem_append_right _ (List.mem_singleton_self _), show deadline ≤ t by linarith⟩
      exact ensures_mono (expired_turned timed undecided late) fun _ _ turned => turned_more (by omega) turned
    rw [if_neg expired, ensures_bind, ensures_run]
    intro worker t' later'
    rw [afterwards, ensures_bind, ensures_ofExcept]
    have early : ∀ event ∈ (w.next (.read w.now t)).log, ¬ event.Late deadline := by
      intro event member late
      have past : deadline ≤ t := undecided.late event member late
      exact expired (by linarith)
    set event := Event.fetched url (min 15 (deadline - t)) worker (w.next (.read w.now t)).now t' with fetched
    have timed : Timed first deadline (k + 1) ((w.next (.read w.now t)).next event) :=
      timed_fetched timed (min_le_right _ _)
    have turned_last {x : Except Exc (Verification ⊕ Progress)} {w' : Run}
      (turned : Turned address first deadline (k + 1) x w') :
        Turned address first deadline (k + 1 + rest.length) x w' := turned_more (by omega) turned
    cases outcome : fetch url worker with
    | error e =>
      refine turned_last (x := .error e) ⟨timed, event, by simp [Run.next], ?_⟩
      simp [fetched, Event.raised, outcome]
    | ok reply =>
      rw [afterwards]
      cases reply with
      | issue error =>
        have unanswered : event.answer address = none := by simp [fetched, Event.answer, outcome]
        have issued : event.issue address = some error := by simp [fetched, Event.issue, outcome]
        by_cases fatal : error.reason ∈ fatalReasons
        · simp only [if_pos fatal]
          have ends : ∃ other ∈ ((w.next (.read w.now t)).next event).log, other.fatal = true :=
            ⟨event, List.mem_append_right _
              (List.mem_singleton_self _), by simpa [fetched, Event.fatal, outcome] using fatal⟩
          refine ensures_mono (broken_turned timed (unanswered_next undecided.unanswered unanswered) ?_ fatal ends)
            fun _ _ => turned_last
          rw [issues_next, issued, ← undecided.failures, Option.toList_some]
        · simp only [if_neg fatal]
          have unbroken : event.fatal = false := by simpa [fetched, Event.fatal, outcome] using fatal
          exact ih timed (undecided_next undecided later' unanswered unbroken (by simp [Progress.failed, issued]))
      | data data =>
        have unbroken : event.fatal = false := by simp [fetched, Event.fatal, outcome]
        by_cases asked : url = authority
        · have answered : event.answer address = verdictOf address data := by
            simp only [fetched, Event.answer, outcome, if_pos asked]
          simp only [if_pos asked]
          cases decided : verdictOf address data with
          | none =>
            have issued : event.issue address = some (issue "authority_response_invalid" url) := by
              simp only [fetched, Event.issue, outcome, if_pos asked, decided, if_true]
            exact ih timed (undecided_next undecided later' (answered.trans decided) unbroken
              (by simp [Progress.failed, issued]))
          | some verdict =>
            obtain ⟨verdict, found⟩ := verdict
            have issued : event.issue address = none := by
              simp [fetched, Event.issue, outcome, if_pos asked, decided]
            refine ensures_mono (verdict_turned timed rfl (answered.trans decided) (fun earlier member => ?_) ?_)
              fun _ _ => turned_last
            · exact ⟨undecided.unanswered earlier member, undecided.unbroken earlier member, early earlier member⟩
            · rw [issues_next, issued, ← undecided.failures, Option.toList_none, List.append_nil]
        · have unanswered : event.answer address = none := by simp [fetched, Event.answer, outcome, asked]
          simp only [if_neg asked]
          cases shown : reflected address data with
          | none =>
            have issued : event.issue address = some (issue "reflector_response_invalid" url) := by
              simp [fetched, Event.issue, outcome, asked, shown]
            exact ih timed (undecided_next undecided later' unanswered unbroken (by simp [Progress.failed, issued]))
          | some found =>
            have issued : event.issue address = none := by simp [fetched, Event.issue, outcome, asked, shown]
            exact turned_last ⟨timed, undecided_next undecided later' unanswered unbroken (by simp [issued])⟩

/-- Fetches of the authority are never taken back. -/
theorem asks_kept {α : Type} (q : Py α) (n : ℕ) : q.Preserves perform fun w => n ≤ w.log.countP Event.asks := by
  refine preserves_of_uses (uses_any q) fun w o fate r w' _ performed enough => ?_
  unfold perform at performed
  split at performed
  case isTrue =>
    obtain ⟨rfl, rfl⟩ := Prod.mk.inj (Option.some.inj performed)
    rw [Run.next, List.countP_append]
    omega
  case isFalse => cases performed

/-- An attempt that goes on to the next one asked the authority. -/
theorem tryEndpoints_asks (rest : List String) :
    (tryEndpoints address deadline (authority :: rest) p).Ensures perform w fun x w' =>
    (∃ p', x = .ok (.inr p')) → w.log.countP Event.asks + 1 ≤ w'.log.countP Event.asks := by
  rw [tryEndpoints, ensures_bind, ensures_boottime]
  intro t later
  rw [afterwards]
  by_cases expired : deadline - t ≤ 0
  · rw [if_pos expired, ensures_bind, ensures_boottime]
    intro t' later'
    rw [afterwards, ensures_pure]
    rintro ⟨p', same⟩
    cases same
  · rw [if_neg expired, ensures_bind, ensures_run]
    intro worker t' later'
    rw [afterwards]
    refine ensures_mono (asks_kept _ (w.log.countP Event.asks + 1) _ ?_) fun _ _ more _ => more
    simp [Run.next, Event.asks]

variable (address)

/-- How the attempts end. -/
def Settled (first : Event) (deadline : ℚ) (k : Nat) : Except Exc Verification → Run → Prop
  | .ok v, w => Timed first deadline k w ∧ Faithful address deadline none v w.log
  | .error e, w => Timed first deadline k w ∧ Raised e w.log

variable {address}

theorem tryAttempts_settled (attempts : List Nat) (timed : Timed first deadline k w)
    (undecided : Undecided address deadline p w)
    (asked : 5 ≤ w.log.countP Event.asks + attempts.length) :
    (tryAttempts address deadline attempts p).Ensures perform w
      (Settled address first deadline (k + 3 * attempts.length)) := by
  induction attempts generalizing p k w with
  | nil =>
    rw [tryAttempts, ensures_bind, ensures_boottime]
    intro t later
    rw [afterwards, ensures_pure]
    have undecided := undecided_read undecided later
    refine ⟨timed_read timed, faithful_inconclusive undecided.unanswered rfl (by simp [undecided.failures]) ?_⟩
    exact Or.inr (Or.inr (Or.inr (by simpa [Run.next, Event.asks] using asked)))
  | cons attempt rest ih =>
    have length : k + 3 * (attempt :: rest).length = k + 3 + 3 * rest.length := by simp; omega
    rw [tryAttempts, ensures_bind, length]
    refine ensures_mono (ensures_both (tryEndpoints_turned endpoints timed undecided) (tryEndpoints_asks _))
      fun x w' both => ?_
    obtain ⟨turned, asks⟩ := both
    cases x with
    | error e => exact ⟨turned.1.more (by simp [endpoints]), turned.2⟩
    | ok turn =>
      rw [afterwards]
      cases turn with
      | inl v => exact ⟨turned.1.more (by simp [endpoints]), turned.2⟩
      | inr p' =>
        obtain ⟨timed, undecided⟩ := turned
        have asked : 5 ≤ w'.log.countP Event.asks + rest.length := by
          have more := asks ⟨p', rfl⟩
          rw [List.length_cons] at asked
          omega
        simp only
        rw [ensures_bind, ensures_boottime]
        intro t later
        have timed := timed_read (t := t) timed
        have undecided := undecided_read undecided later
        rw [afterwards]
        by_cases sleeps : attempt < 4 ∧ 0 < deadline - t
        · rw [if_pos sleeps, ensures_bind, ensures_sleep]
          intro t' later'
          refine ih (timed_slept timed (min_le_right _ _))
            (undecided_next undecided later' rfl rfl (by simp [Event.issue])) ?_
          simpa [Run.next, Event.asks] using asked
        · rw [if_neg sleeps]
          exact ih timed undecided (by simpa [Run.next, Event.asks] using asked)

/-- How a verification ends that begins at `begun`: with a verification that tells of its run, or raised, for a
    timeout out of range or a fetch that ended neither with data nor with an issue. -/
def Verified (address : String → Option String) (timeout : ℚ) (identity : Option Exempt) (begun : ℚ) :
    Except Exc Verification → Run → Prop
  | .ok v, w => ∃ started, Timed (.read begun started) (started + timeout) 15 w ∧
      Faithful address (started + timeout) identity v w.log
  | .error e, w => ¬ (0 < timeout ∧ timeout ≤ 3600) ∧ w.log = [] ∨
      ∃ started, Timed (.read begun started) (started + timeout) 15 w ∧ Raised e w.log

/-- The state is a verdict exactly where the first reply of the authority that decides says so, the diagnostics are
    the issues of the run, a run without a verdict has a reason for it, no more than 15 fetches are made, and fetches
    and sleeps that keep to their budgets keep the run to its deadline. -/
theorem verifySession_verified (address : String → Option String) (timeout : ℚ) (identity : Option Exempt) (begun : ℚ) :
    (verifySession address timeout identity).Ensures perform ⟨begun, []⟩ (Verified address timeout identity begun) := by
  rw [verifySession]
  by_cases range : 0 < timeout ∧ timeout ≤ 3600
  · rw [if_neg (not_not.mpr range), ensures_bind, ensures_boottime]
    intro started later
    have timed : Timed (.read begun started) (started + timeout) 0 (Run.next ⟨begun, []⟩ (.read begun started)) := by
      refine ⟨rfl, by simp [Run.next, Event.isFetch], by simp [Run.next, Event.budgeted], fun _ => ?_⟩
      have positive := range.1
      simp only [Run.next, Event.ended]
      linarith
    rw [afterwards]
    cases identity with
    | some exempt =>
      refine ⟨started, timed.more (by omega),
        faithful_inconclusive (by simp [Run.next, Event.answer]) rfl ?_ (Or.inl rfl)⟩
      cases exempt <;> simp [Exempt.issue, Probe.issue, Run.next, Event.issue]
    | none =>
      have undecided : Undecided address (started + timeout) ⟨[], none⟩
          (Run.next ⟨begun, []⟩ (.read begun started)) := by
        refine ⟨by simp [Run.next, Event.answer], by simp [Run.next, Event.fatal], fun event member late => ?_,
          by simp [Run.next, Event.issue]⟩
        obtain rfl := List.mem_singleton.mp member
        exact late
      refine ensures_mono (tryAttempts_settled (List.range 5) timed undecided (by simp)) fun x w' settled => ?_
      cases x with
      | ok v => exact ⟨started, settled.1.more (by simp), settled.2⟩
      | error e => exact Or.inr ⟨started, settled.1.more (by simp), settled.2⟩
  · rw [if_pos range]
    exact Or.inl ⟨range, rfl⟩

/-- The first attempt finds nobody, and the authority confirms in the second. -/
def retried : List Fate :=
  [⟨.expired, 0⟩, ⟨.expired, 0⟩, ⟨.expired, 10⟩, ⟨.expired, 10⟩, ⟨.expired, 20⟩, ⟨.expired, 20⟩, ⟨.expired, 30⟩,
    ⟨.expired, 30⟩, ⟨.expired, 33⟩, ⟨.expired, 33⟩,
    ⟨.ended 0 60 (.json (.obj [("data", .obj [("IsTor", .bool true), ("IP", .str "192.0.2.1")])])), 34⟩, ⟨.expired, 34⟩]

theorem verifySession_verified_retried : ∃ v w, (verifySession some 60 none).Ends perform ⟨0, []⟩ (.ok v) w ∧
    v.state = .confirmed ∧ (∃ deadline found, Decides some deadline true found w.log) ∧ v.diagnostics.length = 3 := by
  have ran : (((verifySession some 60 none).run perform ⟨0, []⟩ retried).bind fun ended => ended.1.toOption).map
      (fun v => (v.state, v.diagnostics.length)) = some (.confirmed, 3) := by decide +kernel
  obtain ⟨v, verified, facts⟩ := Option.map_eq_some_iff.mp ran
  obtain ⟨⟨x, w⟩, ran, verified⟩ := Option.bind_eq_some_iff.mp verified
  obtain ⟨confirmed, three⟩ := Prod.mk.inj facts
  cases x with
  | error e => cases verified
  | ok v' =>
  obtain rfl : v = v' := (Option.some.inj verified).symm
  obtain ⟨started, _, faithful⟩ := ends_ensured (run_ends ran) (verifySession_verified some 60 none 0)
  exact ⟨v, w, run_ends ran, confirmed, ⟨_, faithful.confirmed.mp confirmed⟩, three⟩

end

end Ttp.Authority
