import Ttp.Builder
import Ttp.State

/-!
`ttp/firewall/runner.py`, `emergency.py` and `verification.py`: the commands
that change the `inet ttp` table and the inspection of the emergency table. A
ruleset replaces the whole table in one transaction.
-/
namespace Ttp.Firewall
open Ttp.Python Ttp.Evidence Ttp.Program Ttp.Machine Ttp.State
open Ttp.Nft (Table Chain Rule Match Verdict)

/-- The ruleset of `apply_emergency_killswitch`. -/
def emergencyTable : Table where
  counters := []
  chains := [
    ⟨"filter_out", "filter", "output", 0, .drop, [⟨[.oifname "lo"], none, .accept⟩]⟩,
    ⟨"filter_forward", "filter", "forward", 0, .drop, []⟩,
    ⟨"filter_input", "filter", "input", 0, .drop, [⟨[.iifname "lo"], none, .accept⟩]⟩]

/-- `_apply_table_atomically`: an `OSError` or a non-zero exit becomes a `FirewallError`. -/
def applyTableAtomically (table : Table) (timeout : ℚ) : Py Unit :=
  (checked (step (.nftTransaction table timeout))).handle fun e =>
    if e.isOSError || e = .calledProcessError then some (.raise (.firewallError e.text)) else none

/-- `apply_emergency_killswitch`. -/
def applyEmergencyKillswitch (timeout : ℚ) : Py Unit :=
  (applyTableAtomically emergencyTable timeout).handle fun e =>
    if e.isFirewallError then some (.raise e)
    else if e.isException then
      some (.raise (.firewallError s!"Failed to apply emergency killswitch: {e.text}"))
    else none

/-- `destroy_rules`: flush, delete, and look whether the table is really gone. -/
def destroyRules : Py Bool := do
  checked (step .nftFlush)
  let deleted ← checked (step .nftDelete)
  checked (step (.external "unlink ttp.rules"))
  if deleted then pure true
  else
    let present ← checked (step .nftList)
    if present then .raise (.firewallError "Failed to destroy nftables ruleset") else pure true

/-- `apply_rules`, once the users are resolved into the configuration of `_build_ruleset`. -/
def applyRules (c : Builder.Config) : Py Unit := do
  (checked (step (.external "pwd.getpwnam"))).handle fun e =>
    if e = .keyError then some (.raise (.firewallError "Tor user not found on system.")) else none
  (applyTableAtomically (Builder.buildRuleset c) 10).handle fun e =>
    if e.isException then
      some (do
        let _ ← destroyRules
        if e.isFirewallError then .raise e
        else .raise (.firewallError s!"Failed to apply stateless rules: {e.text}"))
    else none

/-- `_log_teardown_failure`: a failed teardown step is only logged. -/
def logged (p : Py Unit) : Py Unit := p.handle fun e => if e.isException then some (pure ()) else none

/-- `apply_teardown_lockdown`: drop what leaves the host, Tor excepted. -/
def applyTeardownLockdown (torUid : Option Nat) : Py Unit :=
  let conds := (torUid.map Match.skuidNot).toList ++ [.oifnameNot "lo"]
  logged (checked (step (.nftInsert "filter_out" ⟨conds, none, .drop⟩)))

/-- `apply_active_socket_slaughter`. -/
def applyActiveSocketSlaughter : Py Unit :=
  logged (do
    checked (step (.nftInsert "filter_out" ⟨[.l4proto [.udp]], none, .reject⟩))
    checked (step (.nftInsert "filter_out" ⟨[.l4proto [.tcp]], none, .rejectTcpReset⟩)))

/-! ### The emergency contract -/

structure KernelCheck where
  verified : Bool
  reason : String
  message : String

def KernelCheck.diagnostic (c : KernelCheck) : Diagnostic :=
  ⟨if c.verified then .emergencyVerified else .containmentUnconfirmed, c.reason, "firewall", "verify_emergency",
    c.message, true⟩

/-- The hooks the emergency table has to bind, by the chain's name. -/
def expectedHooks : List (String × String) :=
  [("filter_out", "output"), ("filter_forward", "forward"), ("filter_input", "input")]

/-- The rules a chain of the emergency table has to hold. -/
def expectedRules (name : String) : List Rule :=
  if name = "filter_out" then [⟨[.oifname "lo"], none, .accept⟩]
  else if name = "filter_input" then [⟨[.iifname "lo"], none, .accept⟩]
  else []

/-- `matches_emergency_contract`, on a table: the three hooks drop, only loopback is accepted, and
    the old NAT chains may remain as long as they are empty. -/
def matchesEmergencyContract (t : Table) : Bool :=
  t.chains.all (fun c => (expectedHooks.map (·.1) ++ ["output", "prerouting"]).contains c.name) &&
    expectedHooks.all (fun (name, hook) =>
      t.chains.any fun c => c.name == name && c.type == "filter" && c.hook == hook && c.priority == 0 &&
        c.policy == .drop) &&
    t.chains.all (fun c => c.rules == expectedRules c.name) &&
    (t.chains.map (·.name)).eraseDups == t.chains.map (·.name)

/-- The `except` clauses of `inspect_emergency_rules`. -/
def inspectionError (e : Exc) : Option KernelCheck :=
  if e = .timeoutExpired then
    some ⟨false, "firewall.emergency_read_timeout", "Kernel rules inspection exceeded its deadline"⟩
  else if e.isOSError || e.isUnsafeBinaryError then some ⟨false, "firewall.emergency_read_failed", e.typeName⟩
  else if e.isValueError then some ⟨false, "firewall.emergency_reply_invalid", "nft returned invalid JSON"⟩
  else none

/-- `inspect_emergency_rules`. -/
def inspectEmergencyRules (timeout : ℚ) : Py KernelCheck := do
  match ← step (.nftListing timeout) with
  | .ok (.table t) =>
    if matchesEmergencyContract t then
      pure ⟨true, "firewall.emergency_verified", "Emergency rules verified in the kernel"⟩
    else
      pure ⟨false, "firewall.emergency_rules_mismatch", "Kernel rules do not match the emergency contract"⟩
  | .ok (.exit code) => pure ⟨false, "firewall.emergency_read_failed", s!"nft exit={code}"⟩
  | .ok .invalid => pure ⟨false, "firewall.emergency_reply_invalid", "nft returned invalid JSON"⟩
  | .error e =>
    match inspectionError e with
    | some check => pure check
    | none => .raise e

/-- What the killswitch installs is what the inspection accepts. -/
theorem emergencyTable_matches : matchesEmergencyContract emergencyTable = true := by decide

/-- A session table is not mistaken for the emergency table. -/
theorem session_mismatch (c : Builder.Config) : matchesEmergencyContract (Builder.buildRuleset c) = false := by
  simp [matchesEmergencyContract, Builder.buildRuleset, expectedHooks, Builder.prerouting, Builder.output,
    Builder.filterOut, Builder.filterForward]

end Ttp.Firewall
