import Ttp.Evidence
import Ttp.Nft
import Ttp.Program

/-!
The host that the commands act on, as far as they look at it: the files under
`/run/ttp`, the kernel's `inet ttp` table, the DNS overlay and the services. An
operation is one step that other processes see whole: a read, an atomic
replacement or removal of a file, one `nft` transaction, one service command.
-/
namespace Ttp.Machine
open Ttp.Python Ttp.Evidence Ttp.Program
open Ttp.Nft (Table Rule)

/-- `_NAMES`: the records of the watchdog's directory. -/
inductive RecordName where
  | emergency
  | watchdog
  | verification
  | notifications
  deriving DecidableEq, Repr

def RecordName.text : RecordName → String
  | .emergency => "emergency"
  | .watchdog => "watchdog"
  | .verification => "verification"
  | .notifications => "notifications"

structure Host where
  /-- `/run/ttp/ttp.lock`. -/
  lock : Loaded
  /-- `/run/ttp/stopping.json`. -/
  marker : Loaded
  records : RecordName → String → Loaded
  bootId : String
  /-- The process that holds `transition.lock`. -/
  transition : Option Nat
  table : Option Table
  /-- The `ttp-tor` service runs. -/
  tor : Bool
  /-- The overlay on `/etc/resolv.conf` is mounted. -/
  overlay : Bool
  /-- The drop-in of systemd-resolved is there. -/
  dropIn : Bool

/-- A host without a session. -/
def Host.fresh : Host where
  lock := .missing
  marker := .missing
  records := fun _ _ => .missing
  bootId := "2f6c9c1e-7d1b-4c55-9a3e-0b8f0a7d5e21"
  transition := none
  table := none
  tor := false
  overlay := false
  dropIn := false

/-- What `nft -j list table` gives. -/
inductive Listing where
  | exit (code : Nat)
  | invalid
  | table (t : Table)

/-- The fields of `systemctl show` for the watchdog unit. -/
structure UnitFields where
  activeState : String
  mainPid : Int
  invocationId : String

inductive Op where
  | readLock
  | replaceLock (data : Obj)
  | unlinkLock
  | readMarker
  | replaceMarker (session : Json)
  | unlinkMarker
  | ensureRuntimeDir
  | prepareStore
  | acquire (timeout : ℚ)
  | release
  | bootId
  | clock
  | readRecord (name : RecordName) (session : String)
  | writeRecord (name : RecordName) (session : String) (payload : Json)
  | nftTransaction (table : Table) (timeout : ℚ)
  | nftInsert (chain : String) (rule : Rule)
  | nftFlush
  | nftDelete
  | nftList
  | nftListing (timeout : ℚ)
  | startTor
  | stopTor
  | writeDropIn
  | removeDropIn
  | mountOverlay
  | unmountOverlay
  | uuid4
  | showUnit (timeout : ℚ)
  | verify
  | integrity
  /-- `attempt_auto_healing("tor")`: restart the service. -/
  | heal
  /-- A question about what is not part of this host, such as an active service. -/
  | ask (what : String)
  /-- `select` over the event sources of the supervisor: whether one of them is readable. -/
  | select (delay : ℚ)
  | isMounted
  /-- The user of Tor by its port or name. -/
  | findTorUid
  | registerHandlers
  | emit (event : String) (wait : Bool)
  /-- A step without an effect on this host that can fail: a console question, a preflight check, a
      service command of no lasting effect. -/
  | external (what : String)

/-- The result of a step that can fail. -/
abbrev Done := Except Exc Unit

abbrev Op.Res : Op → Type
  | .readLock => Loaded
  | .readMarker => Loaded
  | .release => Unit
  | .bootId => Except Exc String
  | .clock => ℚ
  | .readRecord .. => Except Exc Loaded
  | .nftDelete => Except Exc Bool
  | .nftList => Except Exc Bool
  | .nftListing _ => Except Exc Listing
  | .uuid4 => String
  | .showUnit _ => Except Exc UnitFields
  | .verify => Verification
  | .integrity => Except Exc (Option (String × String))
  | .heal => Except Exc Bool
  | .ask _ => Bool
  | .select _ => Bool
  | .isMounted => Bool
  | .findTorUid => Option Nat
  | .registerHandlers => Unit
  | .emit .. => Except Exc (List Diagnostic)
  | _ => Done

/-- A program over the host, with the exceptions it raises. -/
abbrev Py (α : Type) : Type := Prog Op Op.Res Exc α

/-- One operation. -/
abbrev step (o : Op) : Py o.Res := Prog.op o

/-- Raise what the program before came back with. -/
def checked {α : Type} (p : Py (Except Exc α)) : Py α := p >>= Prog.ofExcept

theorem checked_follows {L α : Type} {next : L → (o : Op) → o.Res → Option L} {l : L} {p : Py (Except Exc α)}
    {Q : Except Exc α → L → Prop} (first : p.Follows next l fun x l' => Q (x.bind id) l') :
    (checked p).Follows next l Q :=
  follows_bind first (fun a _ reached => (follows_ofExcept a).mpr reached) fun _ _ reached => reached

theorem checked_uses {α : Type} {ops : Op → Prop} {p : Py (Except Exc α)} (used : p.Uses ops) : (checked p).Uses ops :=
  uses_bind used uses_ofExcept

theorem external_uses {ops : Op → Prop} {what : String} (used : ops (.external what)) :
    (checked (step (.external what))).Uses ops :=
  checked_uses ⟨used, fun _ => trivial⟩

/-- `if c: p`. -/
def onlyIf (c : Bool) (p : Py Unit) : Py Unit := if c then p else pure ()

theorem onlyIf_uses {ops : Op → Prop} {c : Bool} {p : Py Unit} (used : p.Uses ops) : (onlyIf c p).Uses ops := by
  cases c
  · trivial
  · exact used

theorem ensures_checked {World Outcome α : Type}
    {perform : World → (o : Op) → Outcome → Option (o.Res × World)} {w : World}
    {p : Py (Except Exc α)} {Q : Except Exc α → World → Prop} :
    (checked p).Ensures perform w Q ↔ p.Ensures perform w fun x w' => Q (x.bind id) w' := by
  have each (x : Except Exc (Except Exc α)) (w' : World) :
      afterwards perform Prog.ofExcept Q x w' ↔ Q (x.bind id) w' := by
    cases x with
    | ok a => exact ensures_ofExcept a
    | error e => exact Iff.rfl
  rw [checked, ensures_bind]
  exact ⟨fun first => ensures_mono first fun x w' => (each x w').mp,
    fun first => ensures_mono first fun x w' => (each x w').mpr⟩

/-- How an operation turns out: it succeeds, fails with an exception, or reads something that this
    host does not determine. -/
inductive Fate where
  | ok
  | fails (e : Exc)
  | exits (code : Nat)
  | time (q : ℚ)
  | name (s : String)
  | unit (fields : UnitFields)
  | verification (v : Verification)
  | integrity (failure : Option (String × String))
  | ready (answer : Bool)
  | said (diagnostics : List Diagnostic)

theorem forall_fate {P : Fate → Prop} : (∀ fate, P fate) ↔
    P .ok ∧ (∀ e, P (.fails e)) ∧ (∀ code, P (.exits code)) ∧ (∀ q, P (.time q)) ∧ (∀ s, P (.name s)) ∧
      (∀ fields, P (.unit fields)) ∧ (∀ v, P (.verification v)) ∧ (∀ failure, P (.integrity failure)) ∧
      (∀ answer, P (.ready answer)) ∧ (∀ diagnostics, P (.said diagnostics)) := by
  constructor
  · intro all
    exact ⟨all _, fun _ => all _, fun _ => all _, fun _ => all _, fun _ => all _, fun _ => all _, fun _ => all _,
      fun _ => all _, fun _ => all _, fun _ => all _⟩
  · rintro ⟨ok, fails, exits, time, name, unit, verification, integrity, ready, said⟩ fate
    cases fate with
    | ok => exact ok
    | fails e => exact fails e
    | exits code => exact exits code
    | time q => exact time q
    | name s => exact name s
    | unit fields => exact unit fields
    | verification v => exact verification v
    | integrity failure => exact integrity failure
    | ready answer => exact ready answer
    | said diagnostics => exact said diagnostics

/-- The exceptions that the calls below an operation raise. -/
def Op.raises : Op → Exc → Bool
  | .bootId, e => e.isOSError || e.isValueError
  | .acquire _, e => e.isOSError || e.isStateError
  -- the size and ownership checks of a record are made by the calls themselves
  | .readRecord .., e => e.isOSError || e.isStateError
  | .writeRecord .., e => e.isOSError || e.isStateError
  | .nftListing _, e => e = .timeoutExpired || e.isOSError || e.isUnsafeBinaryError || e.isValueError
  | _, e => e.isException

namespace Host

def setRecord (h : Host) (name : RecordName) (session : String) (content : Loaded) : Host :=
  { h with records := fun n s => if n = name ∧ s = session then content else h.records n s }

/-- `nft insert rule`: at the head of a chain that is there. -/
def insertRule (t : Table) (chain : String) (rule : Rule) : Table :=
  { t with chains := t.chains.map fun c => if c.name == chain then { c with rules := rule :: c.rules } else c }

def flushed (t : Table) : Table := { t with chains := t.chains.map fun c => { c with rules := [] } }

/-- What the operation does when process `i` succeeds with it. -/
def effect (i : Nat) (h : Host) : Op → Host
  | .replaceLock data => { h with lock := .json (.obj data) }
  | .unlinkLock => { h with lock := .missing }
  | .replaceMarker session => { h with marker := .json (.obj [("session_id", session)]) }
  | .unlinkMarker => { h with marker := .missing }
  | .acquire _ => { h with transition := some i }
  | .release => if h.transition = some i then { h with transition := none } else h
  | .writeRecord name session payload => h.setRecord name session (.json payload)
  | .nftTransaction t _ => { h with table := some t }
  | .nftInsert chain rule => { h with table := h.table.map fun t => insertRule t chain rule }
  | .nftFlush => { h with table := h.table.map flushed }
  | .nftDelete => { h with table := none }
  | .startTor => { h with tor := true }
  | .heal => { h with tor := true }
  | .stopTor => { h with tor := false }
  | .writeDropIn => { h with dropIn := true }
  | .removeDropIn => { h with dropIn := false }
  | .mountOverlay => { h with overlay := true }
  | .unmountOverlay => { h with overlay := false }
  | _ => h

/-- A step that succeeds or raises. -/
def attempted : Fate → Option (Done × Bool)
  | .ok => some (.ok (), true)
  | .fails e => some (.error e, false)
  | _ => none

/-- The result of an operation that can turn out this way, and whether it took effect. -/
def outcome (h : Host) : (o : Op) → Fate → Option (o.Res × Bool)
  | .readLock, .ok => some (h.lock, true)
  | .readMarker, .ok => some (h.marker, true)
  -- another holder makes the caller wait until it fails
  | .acquire _, .ok => if h.transition = none then some (.ok (), true) else none
  | .acquire _, .fails e => some (.error e, false)
  | .release, .ok => some ((), true)
  | .bootId, .ok => some (.ok h.bootId, true)
  | .bootId, .fails e => some (.error e, false)
  | .clock, .time q => some (q, true)
  | .readRecord name session, .ok => some (.ok (h.records name session), true)
  | .readRecord .., .fails e => some (.error e, false)
  | .nftInsert chain _, .ok => if h.table.any fun t => t.chains.any (·.name == chain) then some (.ok (), true) else none
  | .nftInsert .., .fails e => some (.error e, false)
  | .nftFlush, .ok => some (.ok (), true)
  -- a non-zero exit of the flush is not looked at
  | .nftFlush, .exits _ => some (.ok (), false)
  | .nftFlush, .fails e => some (.error e, false)
  | .nftDelete, .ok => some (.ok h.table.isSome, true)
  | .nftDelete, .exits _ => some (.ok false, false)
  | .nftDelete, .fails e => some (.error e, false)
  | .nftList, .ok => some (.ok h.table.isSome, true)
  -- a listing can fail with the table in place
  | .nftList, .exits _ => some (.ok false, false)
  | .nftList, .fails e => some (.error e, false)
  | .nftListing _, .ok =>
    match h.table with
    | some t => some (.ok (.table t), true)
    | none => some (.ok (.exit 1), true)
  | .nftListing _, .exits code => some (.ok (.exit code), false)
  | .nftListing _, .fails e => some (.error e, false)
  | .uuid4, .name s => some (s, true)
  | .showUnit _, .unit fields => some (.ok fields, true)
  | .showUnit _, .fails e => some (.error e, false)
  | .verify, .verification v => some (v, true)
  | .integrity, .integrity failure => some (.ok failure, true)
  | .integrity, .fails e => some (.error e, false)
  | .heal, .ready healed => some (.ok healed, healed)
  | .heal, .fails e => some (.error e, false)
  | .ask _, .ready answer => some (answer, true)
  | .select _, .ready answer => some (answer, true)
  | .isMounted, .ok => some (h.overlay, true)
  | .findTorUid, .ok => some (none, true)
  | .findTorUid, .exits uid => some (some uid, true)
  | .registerHandlers, .ok => some ((), true)
  | .emit .., .said diagnostics => some (.ok diagnostics, true)
  | .emit .., .fails e => some (.error e, false)
  | .replaceLock _, fate => attempted fate
  | .unlinkLock, fate => attempted fate
  | .replaceMarker _, fate => attempted fate
  | .unlinkMarker, fate => attempted fate
  | .ensureRuntimeDir, fate => attempted fate
  | .prepareStore, fate => attempted fate
  | .writeRecord .., fate => attempted fate
  | .nftTransaction .., fate => attempted fate
  | .startTor, fate => attempted fate
  -- a non-zero exit of systemctl is not looked at
  | .stopTor, .exits _ => some (.ok (), false)
  | .stopTor, fate => attempted fate
  | .writeDropIn, fate => attempted fate
  | .removeDropIn, fate => attempted fate
  | .mountOverlay, fate => attempted fate
  | .unmountOverlay, fate => attempted fate
  | .external _, fate => attempted fate
  | _, _ => none

/-- Operation `o` of process `i`: its result, and the host after it. -/
def perform (i : Nat) (h : Host) (o : Op) (fate : Fate) : Option (o.Res × Host) :=
  (h.outcome o fate).map fun done => (done.1, if done.2 then h.effect i o else h)

section
variable {i : Nat} {h h' : Host} {o : Op} {fate : Fate} {r : o.Res}

theorem perform_outcome : h.perform i o fate = some (r, h') ↔
    ∃ took, h.outcome o fate = some (r, took) ∧ h' = if took then h.effect i o else h := by
  simp only [perform, Option.map_eq_some_iff, Prod.mk.injEq]
  constructor
  · rintro ⟨⟨_, took⟩, outcome, rfl, rfl⟩
    exact ⟨took, outcome, rfl⟩
  · rintro ⟨took, outcome, rfl⟩
    exact ⟨(r, took), outcome, rfl, rfl⟩

theorem perform_effect (performed : h.perform i o fate = some (r, h')) : h' = h ∨ h' = h.effect i o := by
  obtain ⟨took, _, rfl⟩ := perform_outcome.mp performed
  cases took
  · exact Or.inl rfl
  · exact Or.inr rfl

end

/-- A step that can fail took effect exactly where it did not. -/
theorem attempted_cases {fate : Fate} {r : Done} {took : Bool} (outcome : attempted fate = some (r, took)) :
    (r = .ok () ∧ took = true) ∨ ∃ e, r = .error e ∧ took = false := by
  cases fate <;> simp [attempted] at outcome
  case ok =>
    obtain ⟨rfl, rfl⟩ := outcome
    exact Or.inl ⟨rfl, rfl⟩
  case fails e =>
    obtain ⟨rfl, rfl⟩ := outcome
    exact Or.inr ⟨e, rfl, rfl⟩

end Host

end Ttp.Machine
