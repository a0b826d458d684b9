import Ttp.Python

/-!
`ttp/evidence.py`: diagnostics, and the result that is read off a list of them.
The exit code of a result is the first of its active codes with the highest
priority.
-/
namespace Ttp.Evidence
open Ttp.Python

inductive ExitCode where
  | ok
  | error
  | usage
  | unverified
  | dnssecConflict
  | watchdogUnavailable
  | torNegative
  | emergencyVerified
  | containmentUnconfirmed
  | notificationFailed
  deriving DecidableEq, Repr

namespace ExitCode

/-- `int(code)`. -/
def value : ExitCode → Nat
  | .ok => 0
  | .error => 1
  | .usage => 2
  | .unverified => 3
  | .dnssecConflict => 4
  | .watchdogUnavailable => 5
  | .torNegative => 6
  | .emergencyVerified => 7
  | .containmentUnconfirmed => 8
  | .notificationFailed => 9

/-- `ExitCode(n)`. -/
def ofInt : Int → Option ExitCode
  | 0 => some .ok
  | 1 => some .error
  | 2 => some .usage
  | 3 => some .unverified
  | 4 => some .dnssecConflict
  | 5 => some .watchdogUnavailable
  | 6 => some .torNegative
  | 7 => some .emergencyVerified
  | 8 => some .containmentUnconfirmed
  | 9 => some .notificationFailed
  | _ => none

/-- `_PRIORITY`. -/
def priority : ExitCode → Nat
  | .ok => 0
  | .unverified => 10
  | .notificationFailed => 20
  | .error => 25
  | .watchdogUnavailable => 30
  | .torNegative => 40
  | .emergencyVerified => 50
  | .containmentUnconfirmed => 60
  | .usage => 70
  | .dnssecConflict => 70

@[simp] theorem ofInt_value (code : ExitCode) : ofInt code.value = some code := by cases code <;> rfl

end ExitCode

structure Diagnostic where
  code : ExitCode
  reason : String
  component : String
  operation : String
  message : String
  active : Bool := true
  deriving DecidableEq, Repr

/-- The phase that `as_dict` derives from the operation. -/
def phaseOf (operation : String) : String :=
  if operation = "start" then "startup"
  else if operation = "stop" then "teardown"
  else if operation = "terminate" ∨ operation = "supervise" then "supervision"
  else "session"

def Diagnostic.asDict (d : Diagnostic) : Obj :=
  [("code", .int d.code.value), ("reason", .str d.reason), ("component", .str d.component),
    ("operation", .str d.operation), ("message", .str d.message), ("active", .bool d.active),
    ("phase", .str (phaseOf d.operation))]

/-- `Diagnostic.from_dict`. -/
def Diagnostic.fromDict : Json → Except Exc Diagnostic
  | .obj value =>
    match Obj.get value "code" with
    | .int code =>
      match (Obj.get value "reason").str?, (Obj.get value "component").str?, (Obj.get value "operation").str?,
        (Obj.get value "message").str? with
      | some reason, some component, some operation, some message =>
        match (Obj.find? value "active").getD (.bool true) with
        | .bool active =>
          match ExitCode.ofInt code with
          | some code => .ok { code, reason, component, operation, message, active }
          | none => .error (.valueError s!"{code} is not a valid ExitCode")
        | _ => .error (.valueError "Invalid diagnostic activity")
      | _, _, _, _ => .error (.valueError "Invalid diagnostic fields")
    | _ => .error (.valueError "Invalid diagnostic code")
  | _ => .error (.valueError "Invalid diagnostic code")

structure Result where
  diagnostics : List Diagnostic := []
  deriving DecidableEq, Repr

def Result.add (r : Result) (more : List Diagnostic) : Result := ⟨r.diagnostics ++ more⟩

/-- The later of two codes only counts if its priority is higher. -/
def ExitCode.worst (a b : ExitCode) : ExitCode := if a.priority < b.priority then b else a

def Result.exitCode (r : Result) : ExitCode :=
  match (r.diagnostics.filter (·.active)).map (·.code) with
  | [] => .ok
  | code :: rest => rest.foldl ExitCode.worst code

def Result.asDict (r : Result) : Obj :=
  [("exit_code", .int r.exitCode.value), ("diagnostics", .arr (r.diagnostics.map fun d => .obj d.asDict))]

/-- What was written as a diagnostic reads as that diagnostic. -/
theorem fromDict_asDict (d : Diagnostic) : Diagnostic.fromDict (.obj d.asDict) = .ok d := by
  simp [Diagnostic.fromDict, Diagnostic.asDict, Obj.get, Obj.find?, Json.str?]

/-! ### Observations -/

structure Observation where
  value : String
  sessionId : String
  bootId : String
  instanceId : String
  observedAt : Flt
  reason : String := ""

/-- `is_current`, for a clock reading and an age limit that are finite. -/
def Observation.isCurrent (o : Observation) (sessionId bootId instanceId : String) (now maxAge : ℚ) : Bool :=
  sessionId != "" && bootId != "" && instanceId != "" &&
    o.sessionId == sessionId && o.bootId == bootId && o.instanceId == instanceId &&
    match o.observedAt with
    | .finite observed => decide (0 < maxAge) && decide (0 ≤ now - observed) && decide (now - observed < maxAge)
    | _ => false

inductive VerificationState where
  | notRun
  | confirmed
  | negative
  | inconclusive
  deriving DecidableEq, Repr

def VerificationState.value : VerificationState → String
  | .notRun => "not_run"
  | .confirmed => "confirmed"
  | .negative => "negative"
  | .inconclusive => "inconclusive"

structure Verification where
  state : VerificationState
  reason : String
  ip : Option String := none
  observedAt : Option ℚ := none
  diagnostics : List Diagnostic := []

def Verification.confirmed (v : Verification) : Bool := v.state == .confirmed

def Verification.result (v : Verification) : Result :=
  match v.state with
  | .confirmed => ⟨v.diagnostics⟩
  | .negative => Result.add ⟨v.diagnostics⟩ [⟨.torNegative, v.reason, "tor", "verify", v.state.value, true⟩]
  | _ => Result.add ⟨v.diagnostics⟩ [⟨.unverified, v.reason, "tor", "verify", v.state.value, true⟩]

end Ttp.Evidence
