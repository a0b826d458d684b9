import Ttp.LockText
import Ttp.Netprobe

/-!
The line that the probe's child prints, and what its parents read in it: the
verifier of a session (`probe._fetch`), and `_fetch_as_nobody` of
`ttp/tor_control.py`, which checks the fields once more.
-/
namespace Ttp.ProbeText
open Ttp.Python Ttp.JsonText Ttp.RecordSize Ttp.RecordFiles Ttp.RecordText Ttp.Netprobe
open Ttp.LockText (loaded)

/-! ### The child -/

/-- How the child ends. -/
inductive Child where
  | timedOut
  /-- It could not be run, by the class of the error. -/
  | unstarted (kind : String)
  | ended (returncode : ℤ) (stdout : List Char)

/-- The child with the line that `print(json.dumps(reply))` writes. -/
def child (floats : Floats) : Outcome → Child
  | .printed reply => .ended 0 (encode floats .compact 0 reply ++ ['\n'])
  | .refused _ => .ended 2 []
  | .died _ => .ended 1 []

/-! ### The parents -/

/-- The child as `probe._fetch` finds it. -/
def worker (limits : Limits) (floats : Floats) : Child → Option Probe.Worker
  | .timedOut => some .expired
  | .unstarted kind => some (.unstarted kind none)
  | .ended returncode stdout => (contentOf limits floats stdout).map fun content =>
    .ended returncode stdout.length (loaded content)

/-- `_MAX_PROBE_OUTPUT`. -/
def maxProbeOutput : ℕ := 4096

/-- A field of an answer that is a string of at most 64 characters. -/
def checkedText (data : Obj) (key : String) : Option (String × Json) :=
  match Obj.get data key with
  | .str value => if value.length ≤ 64 then some (key, .str value) else none
  | _ => none

/-- `checked`. -/
def checked (data : Obj) : Obj :=
  ["IP", "ip", "ip_addr"].filterMap (checkedText data) ++
    match Obj.get data "IsTor" with
    | .bool value => [("IsTor", .bool value)]
    | _ => []

/-- `_fetch_as_nobody`, unless a string has half of a surrogate pair. -/
def fetchAsNobody (limits : Limits) (floats : Floats) : Child → Option (Except Exc (Option Obj))
  | .timedOut => some (.ok none)
  | .unstarted kind => some (.error (.osError kind))
  | .ended returncode stdout =>
    if returncode ≠ 0 then some (.error (.osError "OSError"))
    else if maxProbeOutput < stdout.length then some (.ok none)
    else
      (contentOf limits floats stdout).map fun content =>
        match content.loads with
        | .ok (.obj data) => .ok (some (checked data))
        | .ok _ => .ok none
        | .error e => if e.isValueError then .ok none else .error e

/-! ### The reply -/

section
variable {limits : Limits} (floats : Floats) {data : Obj}

theorem textField_cases (payload : Obj) (key : String) :
    textField payload key = none ∨ ∃ value : String, value.length ≤ 64 ∧
      textField payload key = some (key, .str value) := by
  unfold textField
  split
  case h_1 value _ =>
    by_cases short : value.length ≤ maxField
    · exact .inr ⟨value, short, if_pos short⟩
    · exact .inl (if_neg short)
  case h_2 => exact .inl rfl

theorem boolField_cases (payload : Obj) (key : String) :
    boolField payload key = none ∨ ∃ value, boolField payload key = some (key, .bool value) := by
  unfold boolField
  split
  case h_1 value _ => exact .inr ⟨value, rfl⟩
  case h_2 => exact .inl rfl

/-- The reduced data has each key once and only strings and booleans, and passes the second check as it is. -/
theorem reduce_checked {payload : Json} (reduced : reduce payload = some data) (n : ℕ) :
    Fine floats n (.obj data) ∧ (Json.obj data).depth = 1 ∧ checked data = data := by
  cases payload with
  | obj payload =>
    obtain rfl := Option.some.inj reduced
    rcases textField_cases payload "IP" with a | ⟨a, shortA, keptA⟩ <;> rcases textField_cases payload "ip"
      with b | ⟨b, shortB, keptB⟩ <;>
      rcases textField_cases payload "ip_addr" with c | ⟨c, shortC, keptC⟩ <;> rcases boolField_cases payload "IsTor"
        with d | ⟨d, keptD⟩
    all_goals
      refine ⟨?_, ?_, ?_⟩
      · simp_all [Fine, FineFields, Obj.keys]
      · simp_all [Json.depth, Json.depthFields]
      · simp_all [checked, checkedText, Obj.get, find?_cons]
  | _ => cases reduced

theorem main_cases {number : String → Option Flt} {exchange : Exchange} {argv : List String} {reply : Json}
    (ended : main number exchange argv = .printed reply) :
    (∃ report, fetchReport exchange = .ok report ∧ reply = .obj report) ∨
      ∃ payload, Netprobe.fetch exchange = .ok payload ∧ reply = ((payload.bind reduce).map Json.obj).getD .null := by
  have of_printed {x : Except String Json} (same : printed x = .printed reply) : x = .ok reply := by
    cases x with
    | ok found => rw [Outcome.printed.inj same]
    | error kind => cases same
  unfold main at ended
  split at ended
  · split_ifs at ended
    split at ended
    · split_ifs at ended
      have told := of_printed ended
      cases reported : fetchReport exchange with
      | ok report =>
        rw [reported] at told
        exact .inl ⟨report, rfl, (Except.ok.inj told).symm⟩
      | error kind =>
        rw [reported] at told
        cases told
    · cases ended
  · split_ifs at ended
    have told := of_printed ended
    cases fetched : Netprobe.fetch exchange with
    | ok payload =>
      rw [fetched] at told
      exact .inr ⟨payload, rfl, (Except.ok.inj told).symm⟩
    | error kind =>
      rw [fetched] at told
      cases told
  · cases ended

theorem report_fine {exchange : Exchange} {report : Obj} (reported : fetchReport exchange = .ok report) {n : ℕ}
    (few : 3 ≤ n) :
    Fine floats n (.obj report) ∧ (Json.obj report).depth ≤ 2 := by
  rcases report_cases reported
    with ⟨payload, data, reduced, rfl⟩ | ⟨error, known, rfl⟩ | ⟨error, known, status, three, rfl⟩
  · obtain ⟨fine, depth, _⟩ := reduce_checked floats reduced n
    refine ⟨by simpa [Fine, FineFields, Obj.keys] using fine, ?_⟩
    simp only [Json.depth, Json.depthFields] at depth ⊢
    omega
  · exact ⟨by simp [refusal, Fine, FineFields, Obj.keys], by simp [refusal, Json.depth, Json.depthFields]⟩
  · have digits : (Nat.toDigits 10 (status : ℤ).natAbs).length ≤ 3 := by
      rw [← digits_int (S := String)]
      exact Nat.repr_length status 3 (by omega) (by omega)
    refine ⟨?_, by simp [Json.depth, Json.depthFields]⟩
    simp only [Fine, FineFields, Obj.keys]
    exact ⟨by simp, trivial, trivial, trivial, by omega, trivial⟩

/-- Whatever the child prints is a line of at most 4096 characters, which reads as the reply. -/
theorem printed_read {number : String → Option Flt} {exchange : Exchange} {argv : List String} {reply : Json}
    (ended : main number exchange argv = .printed reply) (deep : 2 ≤ limits.depth) (few : 3 ≤ limits.digits) :
    (encode floats .compact 0 reply ++ ['\n']).length = size (sizes floats) reply + 1 ∧
      size (sizes floats) reply + 1 ≤ 4096 ∧
      contentOf limits floats (encode floats .compact 0 reply ++ ['\n']) = some (.json reply) := by
  have facts : Fine floats limits.digits reply ∧ reply.depth ≤ 2 ∧ size (sizes floats) reply + 1 ≤ 4096 := by
    rcases main_cases ended with ⟨report, reported, rfl⟩ | ⟨payload, _, rfl⟩
    · obtain ⟨fine, depth⟩ := report_fine floats reported few
      exact ⟨fine, depth, report_size reported⟩
    · cases reduced : payload.bind reduce with
      | none => exact ⟨trivial, by simp [Json.depth], by simp [size]⟩
      | some data =>
        obtain ⟨found, _, reduced⟩ := Option.bind_eq_some_iff.mp reduced
        obtain ⟨fine, depth, _⟩ := reduce_checked floats reduced limits.digits
        have small := @reduce_size (sizes floats) _ _ reduced
        rw [Option.map_some, Option.getD_some]
        exact ⟨fine, by rw [depth]; decide, by omega⟩
  obtain ⟨fine, depth, small⟩ := facts
  refine ⟨?_, small, ?_⟩
  · rw [List.length_append, length_encode 0 reply fine, List.length_singleton]
  · rw [contentOf_fine .compact fine blank_newline, if_neg (by omega)]

end

theorem contentOf_empty (limits : Limits) (floats : Floats) :
    (contentOf limits floats [] : Option Content) = some .malformed := by
  have nothing (depth : ℕ) : (value floats limits.digits depth [] : Except Fault (Json × List Char)) =
    .error .malformed := by cases depth <;> rfl
  rw [contentOf, loads, if_neg (by simp), skip, List.dropWhile_nil, nothing]

/-- Both parents read what the child printed: the verifier finds the worker with the reply that it printed, and
    `_fetch_as_nobody` comes back with the fields that were kept of the answer, or with nothing where there was none. -/
theorem reply_read (limits : Limits) (floats : Floats) (number : String → Option Flt) (exchange : Exchange)
    (deep : 2 ≤ limits.depth) (few : 3 ≤ limits.digits) :
    (∀ argv, worker limits floats (child floats (main number exchange argv)) =
      some ((main number exchange argv).worker (sizes floats))) ∧
      ∀ url ∈ Probe.endpoints, fetchAsNobody limits floats (child floats (main number exchange [url])) =
        some (match Netprobe.fetch exchange with
          | .ok payload => .ok (payload.bind reduce)
          | .error _ => .error (.osError "OSError")) := by
  constructor
  · intro argv
    cases ended : main number exchange argv with
    | printed reply =>
      obtain ⟨length, _, content⟩ := printed_read floats ended deep few
      simp only [child, worker, content, length, Option.map_some, Outcome.worker, loaded]
    | refused message => simp only [child, worker, contentOf_empty, Option.map_some, Outcome.worker, loaded,
        List.length_nil]
    | died kind => simp only [child, worker, contentOf_empty, Option.map_some, Outcome.worker, loaded, List.length_nil]
  · intro url known
    have ran : main number exchange [url] = printed
        ((Netprobe.fetch exchange).map fun payload => ((payload.bind reduce).map Json.obj).getD .null) := by
      simp [main, known]
    cases fetched : Netprobe.fetch exchange with
    | error kind =>
      rw [ran, fetched]
      rfl
    | ok payload =>
      rw [fetched] at ran
      obtain ⟨length, small, content⟩ := printed_read floats ran deep few
      rw [ran]
      simp only [Except.map, printed, child, fetchAsNobody]
      rw [if_neg (by decide), if_neg (by rw [length, maxProbeOutput]; omega), content]
      cases reduced : payload.bind reduce with
      | none => simp only [reduced, Option.map_none, Option.getD_none, Option.map_some, Content.loads]
      | some data =>
        obtain ⟨found, _, reduced'⟩ := Option.bind_eq_some_iff.mp reduced
        have same := (reduce_checked floats reduced' 0).2.2
        simp only [reduced, Option.map_some, Option.getD_some, Content.loads, same]

/-- An answer with a field that is not read. -/
def answer : Exchange :=
  .ok ⟨49, .json (.obj [("IsTor", .bool true), ("IP", .str "192.0.2.1"), ("extra", .int 7)])⟩

theorem reply_read_answer : fetchAsNobody ⟨900, 4300⟩ nought
    (child nought (main (fun _ => none) answer [Probe.authority])) =
    some (.ok (some [("IP", .str "192.0.2.1"), ("IsTor", .bool true)])) :=
  (reply_read ⟨900, 4300⟩ nought (fun _ => none) answer (by decide) (by decide)).2 Probe.authority (by decide)

end Ttp.ProbeText
