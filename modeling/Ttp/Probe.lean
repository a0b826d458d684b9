import Mathlib.Algebra.Order.Field.Rat
import Mathlib.Tactic.Linarith
import Ttp.Evidence
import Ttp.Program

/-!
`ttp/probe.py`: the verification of a session. Workers fetch the endpoints in
turn, the authority and two reflectors, under one deadline. What became of the
operations is kept in a log, and the verdict is told from that log.
-/
namespace Ttp.Probe
open Ttp.Python Ttp.Evidence Ttp.Program

/-- `netprobe.ENDPOINTS`. -/
def endpoints : List String :=
  ["https://check.torproject.org/api/ip", "https://api.ipify.org?format=json", "https://ifconfig.me/all.json"]

/-- `ENDPOINTS[0]`. -/
def authority : String := "https://check.torproject.org/api/ip"

/-- `_WORKER_ERRORS`. -/
def workerErrors : List String :=
  ["response_too_large", "response_shape", "http_redirect", "http_error", "dns_error", "tls_error", "timeout",
    "connection_error", "response_encoding", "response_json"]

/-- `_issue`, without a message of its own. -/
def issue (reason endpoint : String) (message : String := "") : Diagnostic where
  code := .unverified
  reason := "probe." ++ reason
  component := "tor"
  operation := endpoint
  message := if message = "" then reason else message

/-! ### One fetch -/

/-- How the process of a worker turns out. -/
inductive Worker where
  /-- It ended; its output by the number of its characters and by what it decodes to. -/
  | ended (returncode : Int) (length : Nat) (stdout : Loaded)
  | expired
  /-- It could not be run, by the class of the error and its number. -/
  | unstarted (kind : String) (errno : Option Int)
  /-- `subprocess.run` raised something else. -/
  | raised (e : Exc)

inductive Fetched where
  | data (data : Obj)
  | issue (issue : Diagnostic)

/-- The reply of a worker that ended well. -/
def replyOf (url : String) (payload : Json) : Fetched :=
  match payload with
  | .obj payload =>
    match Obj.find? payload "error" with
    | some (.str error) =>
      if error ∈ workerErrors then
        match Obj.get payload "http_status" with
        | .int status => .issue (issue error url (if 100 ≤ status ∧ status ≤ 599 then s!"HTTP {status}" else error))
        | _ => .issue (issue error url error)
      else .issue (issue "invalid_worker_reply" url)
    | some _ => .issue (issue "invalid_worker_reply" url)
    | none =>
      match Obj.get payload "data" with
      | .obj data => .data data
      | _ => .issue (issue "invalid_worker_reply" url)
  | _ => .issue (issue "invalid_worker_reply" url)

/-- `_fetch`, once the worker is done. -/
def fetch (url : String) : Worker → Except Exc Fetched
  | .expired => .ok (.issue (issue "deadline" url))
  | .unstarted kind errno =>
    let number := (errno.map toString).getD "None"
    .ok (.issue (issue "execution_failed" url s!"{kind}: errno={number}"))
  | .raised e => .error e
  | .ended returncode length stdout =>
    if returncode ≠ 0 then .ok (.issue (issue "worker_failed" url s!"exit={returncode}"))
    else if 4096 < length then .ok (.issue (issue "invalid_worker_reply" url))
    else
      match stdout.loads with
      | .ok payload => .ok (replyOf url payload)
      | .error e => if e.isValueError then .ok (.issue (issue "invalid_worker_reply" url)) else .error e

/-- The issues after which no further fetch is tried. -/
def fatalReasons : List String := ["probe.execution_failed", "probe.worker_failed", "probe.invalid_worker_reply"]

/-! ### The session -/

inductive Op where
  | boottime
  | run (url : String) (timeout : ℚ)
  | sleep (seconds : ℚ)

def Op.Res : Op → Type
  | .boottime => ℚ
  | .run .. => Worker
  | .sleep _ => Unit

abbrev Py (α : Type) := Prog Op Op.Res Exc α

def boottime : Py ℚ := Prog.op Op.boottime

def run (url : String) (timeout : ℚ) : Py Worker := Prog.op (Op.run url timeout)

def sleep (seconds : ℚ) : Py Unit := Prog.op (Op.sleep seconds)

/-- What `_identity` finds against the worker's account. -/
inductive Exempt where
  | unavailable (message : String)
  | identity
  | cgroup

def Exempt.issue : Exempt → Diagnostic
  | .unavailable message => Probe.issue "identity_unavailable" "identity" message
  | .identity => Probe.issue "exempt_identity" "identity"
  | .cgroup => Probe.issue "exempt_cgroup" "identity"

/-- What the attempts have come to so far. -/
structure Progress where
  failures : List Diagnostic
  fallbackIp : Option String

def Progress.failed (p : Progress) (d : Diagnostic) : Progress := { p with failures := p.failures ++ [d] }

section
variable (address : String → Option String)

/-- `_ip`; `address` gives `str(ipaddress.ip_address(text))`, where the text is one. -/
def ip : Json → Option String
  | .str s => if 64 < s.length ∨ '%' ∈ s.toList then none else address s
  | _ => none

/-- A reply of the authority that decides. -/
def verdictOf (data : Obj) : Option (Bool × String) :=
  match Obj.get data "IsTor", ip address (Obj.get data "IP") with
  | .bool verdict, some found => some (verdict, found)
  | _, _ => none

/-- The address that a reflector reports. -/
def reflected (data : Obj) : Option String :=
  let reported := Obj.get data "ip"
  match ip address (if reported.truthy then reported else Obj.get data "ip_addr") with
  | some found => if found = "" then none else some found
  | none => none

/-- The inner loop: a verification that ends there, or the progress to go on with. -/
def tryEndpoints (deadline : ℚ) : List String → Progress → Py (Verification ⊕ Progress)
  | [], p => pure (.inr p)
  | url :: rest, p => do
    let remaining := deadline - (← boottime)
    if remaining ≤ 0 then
      let now ← boottime
      pure (.inl ⟨.inconclusive, "probe.deadline", p.fallbackIp, some now, p.failures ++ [issue "deadline" "verify"]⟩)
    else
      let worker ← run url (min 15 remaining)
      match ← Prog.ofExcept (fetch url worker) with
      | .issue error =>
        if error.reason ∈ fatalReasons then
          let now ← boottime
          pure (.inl ⟨.inconclusive, error.reason, p.fallbackIp, some now, p.failures ++ [error]⟩)
        else tryEndpoints deadline rest (p.failed error)
      | .data data =>
        if url = authority then
          match verdictOf address data with
          | some (verdict, found) =>
            let now ← boottime
            pure (.inl ⟨if verdict then .confirmed else .negative, if verdict then "probe.tor_confirmed"
              else "probe.tor_negative",
              some found, some now, p.failures.map fun item => { item with active := false }⟩)
          | none => tryEndpoints deadline rest (p.failed (issue "authority_response_invalid" url))
        else
          match reflected address data with
          | some found => pure (.inr { p with fallbackIp := some found })
          | none => tryEndpoints deadline rest (p.failed (issue "reflector_response_invalid" url))

/-- The outer loop. -/
def tryAttempts (deadline : ℚ) : List Nat → Progress → Py Verification
  | [], p => do
    let now ← boottime
    pure ⟨.inconclusive, "probe.no_authoritative_answer", p.fallbackIp, some now, p.failures⟩
  | attempt :: rest, p => do
    match ← tryEndpoints address deadline endpoints p with
    | .inl v => pure v
    | .inr p =>
      let remaining := deadline - (← boottime)
      if attempt < 4 ∧ 0 < remaining then
        sleep (min 3 remaining)
        tryAttempts deadline rest p
      else tryAttempts deadline rest p

/-- `verify_session`, by what `_identity` found. -/
def verifySession (timeout : ℚ) (identity : Option Exempt) : Py Verification :=
  if ¬ (0 < timeout ∧ timeout ≤ 3600) then
    .raise (.valueError "verification timeout must be positive and at most 3600 seconds")
  else do
    let deadline := (← boottime) + timeout
    match identity with
    | some exempt => pure { state := .inconclusive, reason := exempt.issue.reason, diagnostics := [exempt.issue] }
    | none => tryAttempts address deadline (List.range 5) ⟨[], none⟩

end

end Ttp.Probe
