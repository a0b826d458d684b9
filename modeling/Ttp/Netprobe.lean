import Mathlib.Data.Nat.Digits.Defs
import Ttp.Probe
import Ttp.RecordSize

/-!
`ttp/netprobe.py`: the worker that fetches one endpoint and prints what the
prober reads of it, and the reply protocol between the two. Whatever the HTTP
exchange comes to, the prober can tell it, but for an exception of `http.client`
and for a body nested more deeply than the decoder goes.
-/
namespace Ttp.Netprobe
open Ttp.Python Ttp.Probe Ttp.RecordSize

/-- `_MAX_FIELD`. -/
def maxField : Nat := 64

/-- `_MAX_BODY`. -/
def maxBody : Nat := 64 * 1024

/-! ### The exchange -/

/-- `exc.reason` of a `URLError`, by its class. -/
inductive Reason where
  | gaierror
  | sslError
  | timeoutError
  | other

/-- What the opener and the reading of the body can raise, by the first class of it that the handlers name. -/
inductive Failure where
  /-- A status other than success, of the three digits that `http.client` accepts. -/
  | httpError (status : Nat) (three : 100 ≤ status ∧ status ≤ 999)
  | urlError (reason : Reason)
  | timeoutError
  | sslError
  | osError (kind : String)
  | unicodeError
  | valueError
  /-- An `http.client.HTTPException` of none of these classes, by its own. -/
  | httpException (kind : String)

structure Body where
  length : Nat
  content : Content

abbrev Exchange : Type := Except Failure Body

/-! ### The worker -/

/-- A field that is a string of a bounded length. -/
def textField (payload : Obj) (key : String) : Option (String × Json) :=
  match Obj.get payload key with
  | .str value => if value.length ≤ maxField then some (key, .str value) else none
  | _ => none

/-- A field that is a boolean. -/
def boolField (payload : Obj) (key : String) : Option (String × Json) :=
  match Obj.get payload key with
  | .bool value => some (key, .bool value)
  | _ => none

/-- `reduce`: the fields that are read, with the right types and bounded lengths. -/
def reduce : Json → Option Obj
  | .obj payload => some (["IP", "ip", "ip_addr"].filterMap (textField payload) ++ (boolField payload "IsTor").toList)
  | _ => none

/-- `fetch`; what is not caught by its class. -/
def fetch : Exchange → Except String (Option Json)
  | .error (.httpException kind) => .error kind
  | .error _ => .ok none
  | .ok body =>
    match body.content with
    | .json payload => .ok (some payload)
    | .tooDeep => .error "RecursionError"
    | _ => .ok none

def refusal (error : String) : Obj := [("error", .str error)]

/-- `fetch_report`; what is not caught by its class. -/
def fetchReport : Exchange → Except String Obj
  | .ok body =>
    if maxBody < body.length then .ok (refusal "response_too_large")
    else
      match body.content with
      | .json payload =>
        match reduce payload with
        | some data => .ok [("data", .obj data)]
        | none => .ok (refusal "response_shape")
      | .notUtf8 => .ok (refusal "response_encoding")
      | .malformed | .tooManyDigits => .ok (refusal "response_json")
      | .tooDeep => .error "RecursionError"
  | .error (.httpError status _) =>
    .ok [("error", .str (if 300 ≤ status ∧ status < 400 then "http_redirect" else "http_error")),
      ("http_status", .int status)]
  | .error (.urlError reason) =>
    .ok (refusal
      (match reason with
      | .gaierror => "dns_error"
      | .sslError => "tls_error"
      | .timeoutError => "timeout"
      | .other => "connection_error"))
  | .error .timeoutError => .ok (refusal "timeout")
  | .error .sslError => .ok (refusal "tls_error")
  | .error (.osError _) => .ok (refusal "connection_error")
  | .error .unicodeError => .ok (refusal "response_encoding")
  | .error .valueError => .ok (refusal "response_json")
  | .error (.httpException kind) => .error kind

/-- How the worker ends: it prints a line of JSON, refuses its arguments, or dies of an exception. -/
inductive Outcome where
  | printed (reply : Json)
  | refused (message : String)
  | died (kind : String)

/-- `print(json.dumps(reply))`, unless there is an exception instead of a reply. -/
def printed : Except String Json → Outcome
  | .ok reply => .printed reply
  | .error kind => .died kind

/-- `main`; `number` gives `float(text)`, where the text is a number. -/
def main (number : String → Option Flt) (exchange : Exchange) (argv : List String) : Outcome :=
  match argv with
  | ["--report", url, timeout] =>
    if url ∈ endpoints then
      match number timeout with
      | some (.finite seconds) =>
        if 0 < seconds ∧ seconds ≤ 3600 then printed ((fetchReport exchange).map .obj)
        else .refused "probe timeout must be positive and at most 3600 seconds"
      | _ => .refused "probe timeout must be positive and at most 3600 seconds"
    else .refused "usage: python -m ttp.netprobe <one of TTP's verification endpoints>"
  | [url] =>
    if url ∈ endpoints then
      printed ((fetch exchange).map fun payload => ((payload.bind reduce).map Json.obj).getD .null)
    else .refused "usage: python -m ttp.netprobe <one of TTP's verification endpoints>"
  | _ => .refused "usage: python -m ttp.netprobe <one of TTP's verification endpoints>"

/-- The process of the worker as the prober finds it: a line that was printed reads back, and an exception leaves the
    exit code 1. -/
def Outcome.worker (floats : FloatText) : Outcome → Worker
  | .printed reply => .ended 0 (size floats reply + 1) (.json reply)
  | .refused _ => .ended 2 0 .malformed
  | .died _ => .ended 1 0 .malformed

/-! ### Sizes -/

section
variable {floats : FloatText}

theorem textField_size {payload : Obj} {key : String} {field : String × Json} (named : textSize key ≤ 9)
    (kept : textField payload key = some field) : textSize field.1 + size floats field.2 ≤ 790 := by
  unfold textField at kept
  split at kept
  case h_1 text _ =>
    split_ifs at kept with bounded
    obtain rfl := Option.some.inj kept
    have length := textSize_le text
    simp only [size, sized_string, maxField] at bounded ⊢
    omega
  case h_2 => cases kept

theorem boolField_size {payload : Obj} {field : String × Json} (kept : boolField payload "IsTor" = some field) :
    textSize field.1 + size floats field.2 ≤ 790 := by
  unfold boolField at kept
  split at kept
  case h_1 verdict _ =>
    obtain rfl := Option.some.inj kept
    have key : textSize "IsTor" ≤ 9 := short (by decide)
    have word : size floats (.bool verdict : Json) ≤ 5 := by cases verdict <;> simp [size]
    simp only at word ⊢
    omega
  case h_2 => cases kept

/-- At most four fields are kept, each of a bounded size. -/
theorem reduce_size {payload : Json} {data : Obj} (reduced : reduce payload = some data) :
    size floats (.obj data) ≤ 3200 := by
  cases payload with
  | obj payload =>
    obtain rfl := Option.some.inj reduced
    have few : (["IP", "ip", "ip_addr"].filterMap (textField payload) ++ (boolField payload "IsTor").toList).length ≤
        4 := by
      have texts := List.length_filterMap_le (textField payload) ["IP", "ip", "ip_addr"]
      have verdict : (boolField payload "IsTor").toList.length ≤ 1 := by cases boolField payload "IsTor" <;> simp
      rw [List.length_append]
      simp only [List.length_cons, List.length_nil] at texts
      omega
    have each : ∀ field ∈ ["IP", "ip", "ip_addr"].filterMap (textField payload) ++ (boolField payload "IsTor").toList,
        textSize field.1 + size floats field.2 ≤ 790 := by
      intro field member
      rcases List.mem_append.mp member with text | verdict
      · obtain ⟨key, named, kept⟩ := List.mem_filterMap.mp text
        refine textField_size ?_ kept
        simp only [List.mem_cons, List.not_mem_nil, or_false] at named
        rcases named with rfl | rfl | rfl
        · exact short (by decide)
        · exact short (by decide)
        · exact short (by decide)
      · exact boolField_size (Option.mem_toList.mp verdict)
    have fields := sizeFields_le each
    have most := Nat.mul_le_mul_right (790 + 4) few
    simp only [size]
    omega
  | _ => cases reduced

/-- A reply holds the reduced data, an error that the prober knows, or one with the status of the response. -/
theorem report_cases {exchange : Exchange} {report : Obj} (reported : fetchReport exchange = .ok report) :
    (∃ payload data, reduce payload = some data ∧ report = [("data", .obj data)]) ∨
      (∃ error ∈ workerErrors, report = refusal error) ∨
        ∃ error ∈ workerErrors, ∃ status : Nat, status ≤ 999 ∧
        report = [("error", .str error), ("http_status", .int status)] := by
  have refused (error : String) (known : error ∈ workerErrors)
    (same : (.ok (refusal error) : Except String Obj) = .ok report) :
      ∃ error ∈ workerErrors, report = refusal error := ⟨error, known, (Except.ok.inj same).symm⟩
  cases exchange with
  | ok body =>
    simp only [fetchReport] at reported
    split_ifs at reported with large
    · exact Or.inr (Or.inl (refused _ (by decide) reported))
    · cases content : body.content with
      | json payload =>
        simp only [content] at reported
        cases reduced : reduce payload with
        | some data =>
          rw [reduced] at reported
          exact Or.inl ⟨payload, data, reduced, (Except.ok.inj reported).symm⟩
        | none =>
          rw [reduced] at reported
          exact Or.inr (Or.inl (refused _ (by decide) reported))
      | notUtf8 =>
        simp only [content] at reported
        exact Or.inr (Or.inl (refused _ (by decide) reported))
      | malformed =>
        simp only [content] at reported
        exact Or.inr (Or.inl (refused _ (by decide) reported))
      | tooManyDigits =>
        simp only [content] at reported
        exact Or.inr (Or.inl (refused _ (by decide) reported))
      | tooDeep => simp [content] at reported
  | error failure =>
    cases failure with
    | httpError status three =>
      refine Or.inr (Or.inr ⟨_, ?_, status, three.2, (Except.ok.inj reported).symm⟩)
      split <;> decide
    | urlError reason =>
      cases reason with
      | gaierror => exact Or.inr (Or.inl (refused _ (by decide) reported))
      | sslError => exact Or.inr (Or.inl (refused _ (by decide) reported))
      | timeoutError => exact Or.inr (Or.inl (refused _ (by decide) reported))
      | other => exact Or.inr (Or.inl (refused _ (by decide) reported))
    | timeoutError => exact Or.inr (Or.inl (refused _ (by decide) reported))
    | sslError => exact Or.inr (Or.inl (refused _ (by decide) reported))
    | osError kind => exact Or.inr (Or.inl (refused _ (by decide) reported))
    | unicodeError => exact Or.inr (Or.inl (refused _ (by decide) reported))
    | valueError => exact Or.inr (Or.inl (refused _ (by decide) reported))
    | httpException kind => cases reported

theorem workerErrors_size {error : String} (known : error ∈ workerErrors) : textSize error ≤ 24 := by
  simp only [workerErrors, List.mem_cons, List.not_mem_nil, or_false] at known
  rcases known with rfl | rfl | rfl | rfl | rfl | rfl | rfl | rfl | rfl | rfl
  all_goals exact short (by decide)

/-- A reply fits into the 4096 characters that the prober reads. -/
theorem report_size {exchange : Exchange} {report : Obj} (reported : fetchReport exchange = .ok report) :
    size floats (.obj report) + 1 ≤ 4096 := by
  have keys : textSize "data" ≤ 6 ∧ textSize "error" ≤ 7 ∧ textSize "http_status" ≤ 13 :=
    ⟨short (by decide), short (by decide), short (by decide)⟩
  rcases report_cases reported
    with ⟨payload, data, reduced, rfl⟩ | ⟨error, known, rfl⟩ | ⟨error, known, status, three, rfl⟩
  · have fits := @reduce_size floats _ _ reduced
    simp only [size, sizeFields, sized_string] at fits ⊢
    omega
  · have brief := workerErrors_size known
    simp only [refusal, size, sizeFields, sized_string]
    omega
  · have brief := workerErrors_size known
    have digits : (toString (status : Int)).length ≤ 3 := Nat.repr_length status 3 (by omega) (by omega)
    simp only [size, sizeFields, sized_string]
    omega

end

/-! ### The protocol -/

/-- The exchanges whose exception the worker does not catch. -/
def Escapes : Exchange → Prop
  | .ok body => body.length ≤ maxBody ∧ body.content = .tooDeep
  | .error failure => ∃ kind, failure = .httpException kind

/-- The worker printed a line that is not too long, in which the prober finds data or a known error. -/
def Closed (floats : FloatText) (url : String) (outcome : Outcome) : Prop :=
  ∃ reply, outcome = .printed reply ∧ size floats reply + 1 ≤ 4096 ∧
    ((∃ data, Probe.fetch url (outcome.worker floats) = .ok (.data data)) ∨
      ∃ error message, error ∈ workerErrors ∧
      Probe.fetch url (outcome.worker floats) = .ok (.issue (issue error url message)))

/-- What the worker reports, the prober understands. -/
theorem report_understood {url : String} {exchange : Exchange} {report : Obj}
    (reported : fetchReport exchange = .ok report) :
    (∃ data, replyOf url (.obj report) = .data data) ∨
      ∃ error message, error ∈ workerErrors ∧ replyOf url (.obj report) = .issue (issue error url message) := by
  rcases report_cases reported with ⟨payload, data, _, rfl⟩ | ⟨error, known, rfl⟩ | ⟨error, known, status, _, rfl⟩
  · exact Or.inl ⟨data, by simp [replyOf, Obj.find?, Obj.get]⟩
  · exact Or.inr ⟨error, error, known, by simp [replyOf, refusal, Obj.find?, Obj.get, known]⟩
  · exact Or.inr ⟨error, _, known,
      by simp only [replyOf, Obj.find?, Obj.get, List.find?, beq_self_eq_true, Option.map_some, if_pos known]; rfl⟩

/-- Only an exchange that escapes leaves the worker without a report. -/
theorem fetchReport_escapes {exchange : Exchange} :
    (∃ report, fetchReport exchange = .ok report) ↔ ¬ Escapes exchange := by
  cases exchange with
  | ok body =>
    obtain ⟨length, content⟩ := body
    by_cases large : maxBody < length
    · simp [fetchReport, Escapes, large]
    · cases content with
      | json payload => cases reduced : reduce payload <;> simp [fetchReport, Escapes, large, reduced]
      | _ => simp [fetchReport, Escapes, large, Nat.not_lt.mp large]
  | error failure => cases failure <;> simp [fetchReport, Escapes]

/-- With valid arguments the worker's reply is one that the prober understands exactly where the exchange does not
    raise an `http.client.HTTPException` and its body is not nested too deeply. -/
theorem report_closed (floats : FloatText) (number : String → Option Flt) (exchange : Exchange)
    (url timeout : String) (seconds : ℚ)
    (known : url ∈ endpoints) (numeric : number timeout = some (.finite seconds))
    (range : 0 < seconds ∧ seconds ≤ 3600) :
    Closed floats url (main number exchange ["--report", url, timeout]) ↔ ¬ Escapes exchange := by
  have ran : main number exchange ["--report", url, timeout] = printed ((fetchReport exchange).map .obj) := by
    simp [main, known, numeric, range]
  rw [ran, ← fetchReport_escapes]
  constructor
  · rintro ⟨reply, outcome, _⟩
    cases reported : fetchReport exchange with
    | ok report => exact ⟨report, rfl⟩
    | error kind => simp [reported, printed, Except.map] at outcome
  · rintro ⟨report, reported⟩
    have fits := @report_size floats _ _ reported
    have small : ¬ 4096 < size floats (.obj report) + 1 := Nat.not_lt.mpr fits
    have read : Probe.fetch url (Outcome.worker floats (.printed (.obj report))) = .ok (replyOf url (.obj report)) := by
      simp [Outcome.worker, Probe.fetch, small, Loaded.loads]
    rw [reported]
    refine ⟨.obj report, rfl, fits, ?_⟩
    show (∃ data, Probe.fetch url (Outcome.worker floats (.printed (.obj report))) = .ok (.data data)) ∨ _
    rw [read]
    rcases @report_understood url _ _ reported with ⟨data, understood⟩ | ⟨error, message, listed, understood⟩
    · exact Or.inl ⟨data, by rw [understood]⟩
    · refine Or.inr ⟨error, message, listed, ?_⟩
      show Probe.fetch url (Outcome.worker floats (.printed (.obj report))) = _
      rw [read, understood]

/-- `float(text)` of the one text that the witnesses use. -/
def fifteen (text : String) : Option Flt := if text = "15" then some (.finite 15) else none

/-- A reply of the authority reaches the prober. -/
theorem report_closed_confirmed : Closed zeros authority
    (main fifteen (.ok ⟨40, .json (.obj [("IsTor", .bool true), ("IP", .str "185.220.101.1")])⟩)
      ["--report", authority, "15"]) :=
  (report_closed zeros fifteen _ authority "15" 15 (by decide) (by decide) (by constructor <;> decide)).mpr
    (by simp [Escapes])

/-- A server that closes the connection within its status line kills the worker, which ends the verification. -/
theorem report_worker_failed : ¬ Closed zeros authority
    (main fifteen (.error (.httpException "BadStatusLine")) ["--report", authority, "15"]) ∧
    Probe.fetch authority ((main fifteen (.error (.httpException "BadStatusLine"))
      ["--report", authority, "15"]).worker zeros) =
      .ok (.issue (issue "worker_failed" authority "exit=1")) := by
  constructor
  · rintro ⟨reply, outcome, _⟩
    have died : main fifteen (.error (.httpException "BadStatusLine"))
      ["--report", authority, "15"] = .died "BadStatusLine" := rfl
    rw [died] at outcome
    cases outcome
  · rfl

end Ttp.Netprobe
