import Ttp.Start

/-!
What each program can do to the host, by the kinds of its operations: a frame
for every part of the host, and the kinds that each program of the commands
uses.
-/
namespace Ttp.Footprint
open Ttp.Python Ttp.Evidence Ttp.Program Ttp.Machine Ttp.State Ttp.Records Ttp.Firewall Ttp.SessionSafety Ttp.Watchdog
open Ttp.Lifecycle Ttp.Start

inductive Kind where
  | readLock
  | replaceLock
  | unlinkLock
  | readMarker
  | replaceMarker
  | unlinkMarker
  | transition
  | record (name : RecordName)
  /-- Installs the emergency table. -/
  | emergency
  /-- Changes the table otherwise. -/
  | table
  | tor
  | dropIn
  | overlay
  | quiet
  deriving DecidableEq

def kind : Op → Kind
  | .readLock => .readLock
  | .replaceLock _ => .replaceLock
  | .unlinkLock => .unlinkLock
  | .readMarker => .readMarker
  | .replaceMarker _ => .replaceMarker
  | .unlinkMarker => .unlinkMarker
  | .acquire _ => .transition
  | .release => .transition
  | .writeRecord name _ _ => .record name
  | .nftTransaction t _ => if matchesEmergencyContract t then .emergency else .table
  | .nftInsert .. => .table
  | .nftFlush => .table
  | .nftDelete => .table
  | .startTor => .tor
  | .stopTor => .tor
  | .heal => .tor
  | .writeDropIn => .dropIn
  | .removeDropIn => .dropIn
  | .mountOverlay => .overlay
  | .unmountOverlay => .overlay
  | _ => .quiet

theorem kind_transaction (t : Nft.Table) (timeout : ℚ) :
    kind (.nftTransaction t timeout) = .emergency ∨ kind (.nftTransaction t timeout) = .table := by
  by_cases emergency : matchesEmergencyContract t = true
  · exact Or.inl (by simp [kind, emergency])
  · exact Or.inr (by simp [kind, emergency])

/-- The operation is of one of the kinds. -/
abbrev among (kinds : List Kind) (o : Op) : Prop := kind o ∈ kinds

/-! ### Frames -/

section
variable {i : Nat} {h : Host} {o : Op}

theorem effect_lock (notReplaced : kind o ≠ .replaceLock) (notUnlinked : kind o ≠ .unlinkLock) :
    (h.effect i o).lock = h.lock := by
  cases o with
  | replaceLock => exact absurd rfl notReplaced
  | unlinkLock => exact absurd rfl notUnlinked
  | release =>
    simp only [Host.effect]
    split <;> rfl
  | _ => rfl

theorem effect_marker (notReplaced : kind o ≠ .replaceMarker) (notUnlinked : kind o ≠ .unlinkMarker) :
    (h.effect i o).marker = h.marker := by
  cases o with
  | replaceMarker => exact absurd rfl notReplaced
  | unlinkMarker => exact absurd rfl notUnlinked
  | release =>
    simp only [Host.effect]
    split <;> rfl
  | _ => rfl

end

/-! ### The state and the records -/

theorem uses_among {α : Type} {p : Py α} {kinds more : List Kind} (used : p.Uses (among kinds))
    (within : kinds ⊆ more) :
    p.Uses (among more) :=
  uses_mono used fun _ inside => within inside

section
variable {py : Interpreter} {session : String} {name : RecordName} {kinds : List Kind} {ops : Op → Prop} {timeout : ℚ}

theorem readLock_uses {strict : Bool} (reads : ops .readLock) : (readLock strict).Uses ops :=
  uses_bind ⟨reads, fun _ => trivial⟩ fun _ => uses_ofExcept _

theorem prepare_uses (prepares : ops .prepareStore) : Records.prepare.Uses ops :=
  checked_uses ⟨prepares, fun _ => trivial⟩

theorem stopWasRequested_uses (reads : ops .readMarker) : (stopWasRequested session).Uses ops :=
  uses_bind ⟨reads, fun _ => trivial⟩ fun _ => uses_ofExcept _

theorem read_uses (boot : ops .bootId) (reads : ops (.readRecord name session)) :
    (Records.read py name session).Uses ops := by
  have boot : (checked (step .bootId)).Uses ops := checked_uses ⟨boot, fun _ => trivial⟩
  have file : (checked (step (.readRecord name session))).Uses ops := checked_uses ⟨reads, fun _ => trivial⟩
  unfold Records.read
  refine uses_bind (uses_ofExcept _) fun _ => uses_bind (uses_catch boot fun _ => trivial) fun boot =>
    uses_handle ?_ fun e => ?_
  · refine uses_bind file fun file => uses_bind (uses_ofExcept _) fun content =>
      uses_bind (uses_ofExcept _) fun payload => ?_
    split <;> trivial
  · unfold readError
    split
    · trivial
    · split <;> trivial

theorem write_uses {data : Obj} (boot : ops .bootId) (clock : ops .clock)
    (writes : ∀ payload, ops (.writeRecord name session payload)) :
    (Records.write py name session data).Uses ops := by
  unfold Records.write
  refine uses_bind (uses_ofExcept _) fun _ => uses_catch ?_ fun _ => trivial
  refine uses_bind (checked_uses ⟨boot, fun _ => trivial⟩) fun boot => uses_bind ⟨clock, fun _ => trivial⟩ fun now => ?_
  exact uses_bind (uses_ofExcept _) fun _ => checked_uses ⟨writes _, fun _ => trivial⟩

theorem transition_uses {α : Type} {body : Py α} (acquires : ops (.acquire timeout)) (releases : ops .release)
    (used : body.Uses ops) :
    (transition timeout body).Uses ops := by
  unfold transition
  split
  · trivial
  · exact uses_bind (checked_uses ⟨acquires, fun _ => trivial⟩) fun _ => uses_always used ⟨releases, fun _ => trivial⟩

theorem emergencyLatched_uses {lock : Obj} (quiet : Kind.quiet ∈ kinds) :
    (emergencyLatched py lock).Uses (among kinds) := by
  unfold emergencyLatched
  split
  · trivial
  · refine uses_bind (read_uses quiet quiet) fun record => ?_
    split
    · trivial
    · split <;> trivial

/-! ### Containment -/

theorem inspect_uses (lists : ops (.nftListing timeout)) : (inspectEmergencyRules timeout).Uses ops := by
  refine uses_bind ⟨lists, fun _ => trivial⟩ fun listing => ?_
  split
  · split <;> trivial
  · trivial
  · trivial
  · split <;> trivial

theorem killswitch_uses (installs : ops (.nftTransaction emergencyTable timeout)) :
    (applyEmergencyKillswitch timeout).Uses ops := by
  refine uses_handle (uses_catch (checked_uses ⟨installs, fun _ => trivial⟩) fun _ => trivial) fun e => ?_
  split
  · trivial
  · split <;> trivial

/-- What a containment does once it is decided: latch, look, install the emergency table. -/
structure Acting (ops : Op → Prop) : Prop where
  boot : ops .bootId
  clock : ops .clock
  reads : ∀ session, ops (.readRecord .emergency session)
  writes : ∀ session payload, ops (.writeRecord .emergency session payload)
  installs : ∀ timeout, ops (.nftTransaction emergencyTable timeout)
  lists : ∀ timeout, ops (.nftListing timeout)

/-- What a containment does: decide under the transition lock, then act. -/
structure Containing (ops : Op → Prop) : Prop extends Acting ops where
  acquires : ∀ timeout, ops (.acquire timeout)
  releases : ops .release
  marker : ops .readMarker
  lock : ops .readLock

/-- The kinds of it. -/
def acting : List Kind := [.quiet, .record .emergency, .emergency]

def containment : List Kind := .transition :: .readMarker :: .readLock :: acting

theorem acting_among (quiet : Kind.quiet ∈ kinds) (writes : Kind.record .emergency ∈ kinds)
    (installs : Kind.emergency ∈ kinds) :
    Acting (among kinds) where
  boot := quiet
  clock := quiet
  reads := fun _ => quiet
  writes := fun _ _ => writes
  installs := fun _ => by simpa [among, kind, emergencyTable_matches] using installs
  lists := fun _ => quiet

theorem containing_among : Containing (among containment) where
  toActing := acting_among (by decide) (by decide) (by decide)
  acquires := fun _ => .head _
  releases := .head _
  marker := by decide
  lock := by decide

theorem stillIntended_uses {required : Bool} (marker : ops .readMarker) (lock : ops .readLock) :
    (stillIntended session required).Uses ops := by
  refine uses_bind (stopWasRequested_uses marker) fun stopped => ?_
  split
  · trivial
  · refine uses_bind (uses_catch (readLock_uses lock) fun _ => trivial) fun current => ?_
    split <;> trivial

section
variable (acts : Acting ops)
include acts

theorem priorEvidence_uses {cause : Diagnostic} : (priorEvidence py cause session).Uses ops := by
  refine uses_catch (uses_bind (read_uses acts.boot (acts.reads _)) fun previous => ?_) fun _ => trivial
  split <;> trivial

theorem publish_uses {data : Obj} {diagnostic : Diagnostic} : (publish py session data diagnostic).Uses ops :=
  uses_catch (uses_bind (write_uses acts.boot acts.clock (acts.writes _)) fun _ => trivial) fun _ => trivial

theorem apply_uses : (apply timeout).Uses ops := by
  refine uses_bind (uses_catch (uses_bind (killswitch_uses (acts.installs _)) fun _ => trivial) fun _ => trivial)
    fun applied => ?_
  exact uses_bind (inspect_uses (acts.lists _)) fun _ => trivial

theorem enforce_uses {repair : Bool} {applied : Json} : (enforce repair timeout applied).Uses ops := by
  unfold enforce
  split
  · refine uses_bind (inspect_uses (acts.lists _)) fun check => ?_
    split
    · trivial
    · exact apply_uses acts
  · exact apply_uses acts

/-- The part of a containment after the decision. -/
theorem contained_uses {cause : Diagnostic} {repair : Bool} {result : Result} : (do
    let prior ← priorEvidence py cause session
    let requested := if repair then prior.applied else .bool false
    let latched ← publish py session (emergencyData requested false prior.causes .none)
      (failure "session.latch_write_failed" "Could not persist the emergency latch")
    let (check, applied, failed) ← enforce repair timeout requested
    let result := ((result.add prior.diagnostics).add latched).add (failed ++ [check.diagnostic])
    let written ← publish py session (emergencyData applied check.verified prior.causes (some result))
      (failure "session.evidence_write_failed" "Could not publish containment evidence")
    pure (some (result.add written, prior.newCause)) : Py (Option (Result × Bool))).Uses ops := by
  refine uses_bind (priorEvidence_uses acts) fun prior => uses_bind (publish_uses acts) fun latched => ?_
  exact uses_bind (enforce_uses acts) fun _ => uses_bind (publish_uses acts) fun _ => trivial

end

theorem containLocked_uses {cause : Diagnostic} {repair required : Bool} {result : Result} (acts : Acting ops)
    (marker : ops .readMarker)
    (lock : ops .readLock) : (containLocked py session cause repair required timeout result).Uses ops := by
  refine uses_bind (stillIntended_uses marker lock) fun intended => ?_
  split
  · exact contained_uses acts
  · trivial

/-- A containment without its notifications. -/
theorem serialized_uses {cause : Diagnostic} {repair required : Bool} {result : Result} {c : Exc → Prop}
    [DecidablePred c]
    {q : Exc → Option (Result × Bool)} (contains : Containing ops) :
    ((transition timeout (containLocked py session cause repair required timeout result)).handle fun e =>
      if c e then some (pure (q e)) else none).Uses ops :=
  uses_catch (transition_uses (contains.acquires _) contains.releases
    (containLocked_uses contains.toActing contains.marker contains.lock)) fun _ => trivial

theorem notify_uses {lock : Obj} {cause : Diagnostic} {result : Result} {newCause : Bool}
    (emits : ∀ event, ops (.emit event false)) :
    (notify lock cause result newCause).Uses ops := by
  have emit (event : String) : (step (.emit event false)).Uses ops := ⟨emits event, fun _ => trivial⟩
  unfold notify
  split
  · refine uses_bind ?_ fun first => ?_
    · split
      · exact emit _
      · trivial
    · split
      · split <;> trivial
      · refine uses_bind (emit _) fun sent => ?_
        split
        · split <;> trivial
        · trivial
  · trivial

/-- A containment with its notifications. -/
theorem notified_uses {lock : Obj} {cause : Diagnostic} {repair required : Bool} (contains : Containing ops)
    (emits : ∀ event, ops (.emit event false)) : (requestEmergency py lock cause repair required).Uses ops := by
  unfold requestEmergency
  split
  · trivial
  · refine uses_bind (uses_ofExcept _) fun timing => ?_
    refine uses_bind (serialized_uses contains) fun contained => ?_
    split
    · trivial
    · exact notify_uses emits

theorem requestEmergency_uses {lock : Obj} {cause : Diagnostic} {repair required : Bool} :
    (requestEmergency py lock cause repair required).Uses (among containment) := by
  have quiet : Kind.quiet ∈ containment := by decide
  exact notified_uses containing_among fun _ => quiet

/-! ### The watchdog -/

theorem observation_uses (lock : ops .readLock) (unit : ∀ timeout, ops (.showUnit timeout)) (boot : ops .bootId)
    (clock : ops .clock)
    (reads : ∀ session, ops (.readRecord .watchdog session)) : (watchdogObservation py).Uses ops := by
  refine uses_catch (uses_bind (readLock_uses lock) fun lock => ?_) fun _ => trivial
  split
  · trivial
  split
  · trivial
  refine uses_bind (uses_ofExcept _) fun settings => ?_
  refine uses_bind (checked_uses ⟨unit _, fun _ => trivial⟩) fun fields => ?_
  split
  · trivial
  split
  · trivial
  refine uses_bind (read_uses boot (reads _)) fun record => ?_
  split
  · trivial
  split
  · trivial
  refine uses_bind (checked_uses ⟨boot, fun _ => trivial⟩) fun boot => ?_
  exact uses_bind ⟨clock, fun _ => trivial⟩ fun now => uses_ofExcept _

theorem watchdogObservation_uses (quiet : Kind.quiet ∈ kinds) (reads : Kind.readLock ∈ kinds) :
    (watchdogObservation py).Uses (among kinds) :=
  observation_uses reads (fun _ => quiet) quiet quiet fun _ => quiet

/-! ### Tearing down -/

theorem logged_uses {p : Py Unit} (used : p.Uses (among kinds)) : (logged p).Uses (among kinds) :=
  uses_catch used fun _ => trivial

theorem unchecked_uses {p : Py Unit} (used : p.Uses (among kinds)) : (unchecked p).Uses (among kinds) :=
  uses_catch used fun _ => trivial

/-- What changes the network, apart from the emergency table. -/
def network : List Kind := [.quiet, .table, .tor, .dropIn, .overlay]

/-- What changes the services, and not the table. -/
def services : List Kind := [.quiet, .tor, .dropIn, .overlay]

theorem network_uses {α : Type} {p : Py α} (used : p.Uses (among services)) : p.Uses (among network) :=
  uses_among used (by decide)

theorem restoreResolved_uses : restoreResolved.Uses (among services) := by
  refine uses_bind (uses_catch (checked_uses ⟨by decide, fun _ => trivial⟩) fun _ => trivial) fun _ => ?_
  exact uses_bind (logged_uses (external_uses (by decide))) fun _ => logged_uses (external_uses (by decide))

theorem clearOverlay_uses : clearOverlay.Uses (among services) := by
  refine uses_bind ⟨by decide, fun _ => trivial⟩ fun mounted => ?_
  exact onlyIf_uses (unchecked_uses (checked_uses ⟨by decide, fun _ => trivial⟩))

theorem restoreDns_uses {backup : Json} : (restoreDns backup).Uses (among services) := by
  have unlinked : (Prog.handle (checked (step (.external "unlink resolv.conf"))) fun e =>
      if e.isOSError then some (pure ()) else none).Uses (among services) :=
    uses_catch (external_uses (by decide)) fun _ => trivial
  refine uses_bind clearOverlay_uses fun _ => ?_
  exact uses_bind (onlyIf_uses (logged_uses restoreResolved_uses)) fun _ => unlinked

theorem destroyRules_uses : destroyRules.Uses (among network) := by
  refine uses_bind (checked_uses ⟨by decide, fun _ => trivial⟩) fun _ => ?_
  refine uses_bind (checked_uses ⟨by decide, fun _ => trivial⟩) fun deleted => ?_
  refine uses_bind (external_uses (by decide)) fun _ => ?_
  split
  · trivial
  refine uses_bind (checked_uses ⟨by decide, fun _ => trivial⟩) fun present => ?_
  split <;> trivial

theorem stopTorService_uses : stopTorService.Uses (among services) := by
  refine uses_bind (checked_uses ⟨by decide, fun _ => trivial⟩) fun _ => ?_
  exact uses_bind (external_uses (by decide)) fun _ => external_uses (by decide)

theorem lockdown_uses {torUid : Option Nat} : (applyTeardownLockdown torUid).Uses (among network) :=
  logged_uses (checked_uses ⟨by simp [kind, network], fun _ => trivial⟩)

theorem slaughter_uses : applyActiveSocketSlaughter.Uses (among network) :=
  logged_uses (uses_bind (checked_uses ⟨by decide, fun _ => trivial⟩) fun _ =>
    checked_uses ⟨by decide, fun _ => trivial⟩)

theorem findUid_uses {lock : Obj} : (findUid py lock).Uses (among services) := by
  refine uses_bind (uses_ofExcept _) fun uid => ?_
  split
  · trivial
  · exact ⟨by decide, fun _ => trivial⟩

/-- The tear-down also drops the lock. -/
theorem tearDown_uses {lock : Obj} : (tearDown py lock).Uses (among (.unlinkLock :: network)) := by
  have down {α : Type} {p : Py α} (used : p.Uses (among network)) : p.Uses (among (.unlinkLock :: network)) :=
    uses_among used (by decide)
  have released : (releaseNetwork lock).Uses (among (.unlinkLock :: network)) := by
    refine uses_always (uses_bind (down destroyRules_uses) fun _ => ?_) ?_
    · exact down (network_uses (logged_uses restoreDns_uses))
    exact checked_uses ⟨by decide, fun _ => trivial⟩
  refine uses_bind (down (network_uses findUid_uses)) fun torUid => uses_bind (down lockdown_uses) fun _ => ?_
  refine uses_bind (onlyIf_uses ?_) fun _ => ?_
  · refine uses_bind (external_uses (by decide)) fun _ =>
      uses_bind (down (network_uses stopTorService_uses)) fun _ => ?_
    exact external_uses (by decide)
  · refine uses_bind (down slaughter_uses) fun _ => ?_
    exact uses_bind (unchecked_uses (external_uses (by decide))) fun _ => released

/-! ### Starting -/

theorem applyRules_uses {c : Builder.Config} : (applyRules c).Uses (among network) := by
  have applied (t : Nft.Table) (timeout : ℚ) (other : matchesEmergencyContract t = false) :
      (applyTableAtomically t timeout).Uses (among network) :=
    uses_catch (checked_uses ⟨by simp [kind, other, network], fun _ => trivial⟩) fun _ => trivial
  refine uses_bind (uses_catch (external_uses (by decide)) fun _ => trivial) fun _ => ?_
  refine uses_catch (applied _ _ (session_mismatch c)) fun e => uses_bind destroyRules_uses fun _ => ?_
  split <;> trivial

theorem applyResolved_uses : applyResolved.Uses (among network) := by
  refine uses_bind ⟨by decide, fun _ => trivial⟩ fun active => ?_
  split
  · refine uses_catch ?_ fun e => uses_bind (network_uses restoreResolved_uses) fun _ => trivial
    refine uses_bind (checked_uses ⟨by decide, fun _ => trivial⟩) fun _ => ?_
    exact uses_bind (external_uses (by decide)) fun _ => uses_bind (external_uses (by decide)) fun _ => trivial
  · trivial

theorem applyDns_uses : applyDns.Uses (among network) := by
  refine uses_bind (uses_catch applyResolved_uses fun _ => trivial) fun resolved => ?_
  refine uses_catch ?_ fun e => uses_bind (onlyIf_uses (logged_uses (network_uses restoreResolved_uses)))
    fun _ => trivial
  refine uses_bind (external_uses (by decide)) fun _ => uses_bind (network_uses clearOverlay_uses) fun _ => ?_
  exact uses_bind (checked_uses ⟨by decide, fun _ => trivial⟩) fun _ => trivial

theorem rollBack_uses {external : Bool} : (rollBack external).Uses (among network) :=
  uses_bind (onlyIf_uses (network_uses stopTorService_uses)) fun _ => uses_bind destroyRules_uses fun _ => trivial

theorem orRollBack_uses {α : Type} {external : Bool} {catches : Exc → Bool} {more : Py Unit} {p : Py α}
    (undone : more.Uses (among network))
    (used : p.Uses (among network)) : (orRollBack external catches more p).Uses (among network) :=
  uses_catch used fun _ => uses_bind rollBack_uses fun _ => uses_bind undone fun _ => trivial

theorem provideTor_uses {external : Bool} : (provideTor external).Uses (among network) := by
  unfold provideTor
  split
  · exact external_uses (by decide)
  · refine uses_handle (checked_uses ⟨by decide, fun _ => trivial⟩) fun e => ?_
    split
    · trivial
    · trivial

/-- What looks for an earlier session, and recovers from one whose process is gone. -/
theorem checkSessionState_uses : checkSessionState.Uses (among (.readLock :: .unlinkLock :: network)) := by
  have down {α : Type} {p : Py α} (used : p.Uses (among network)) :
      p.Uses (among (.readLock :: .unlinkLock :: network)) :=
    uses_among used (by decide)
  refine uses_bind (readLock_uses (by decide)) fun lock => ?_
  split
  · trivial
  split
  · trivial
  split
  · trivial
  refine uses_bind ?_ fun orphan => ?_
  · refine uses_bind (readLock_uses (by decide)) fun found => ?_
    split
    · trivial
    · split
      · trivial
      · refine uses_bind ⟨by simp [kind, network], fun _ => trivial⟩ fun alive => ?_
        split <;> trivial
  · split
    · refine uses_bind ?_ fun _ => trivial
      refine uses_bind (readLock_uses (by decide)) fun found => ?_
      split
      · trivial
      · refine uses_bind (uses_always ?_ ?_) fun _ => trivial
        · exact uses_bind (uses_bind (down destroyRules_uses) fun _ => trivial) fun _ =>
            down (network_uses restoreDns_uses)
        · exact checked_uses ⟨by decide, fun _ => trivial⟩
    · trivial

/-- What a verification does: it may end in a containment. -/
def verifying : List Kind := .record .verification :: containment

theorem recordVerification_uses {lock : Obj} {v : Verification} :
    (recordVerification py lock v).Uses (among verifying) := by
  refine uses_bind (uses_catch ?_ fun _ => trivial) fun written => ?_
  · split
    · have quiet : Kind.quiet ∈ verifying := by decide
      exact uses_bind (write_uses quiet quiet fun _ => .head _) fun _ => trivial
    · trivial
    · trivial
  · split
    · exact uses_bind (uses_among requestEmergency_uses (by decide)) fun _ => trivial
    · trivial

theorem verifyUnless_uses {lock : Obj} {failed : Option Result} :
    (verifyUnless py lock failed).Uses (among verifying) := by
  unfold verifyUnless
  split
  · trivial
  · exact uses_bind ⟨by decide, fun _ => trivial⟩ fun _ => recordVerification_uses

theorem announce_uses {settings : SessionSettings.Settings} {event : String} {result : Result} :
    (announce settings event result).Uses (among [.quiet]) := by
  unfold announce
  split
  · exact uses_bind (checked_uses ⟨by simp [kind], fun _ => trivial⟩) fun _ => trivial
  · trivial

end

end Ttp.Footprint
