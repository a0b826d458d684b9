import Ttp.DestroyRules
import Ttp.Footprint

/-!
What `do_stop` does to the filter before it destroys the table. It puts rules
that drop or reject at the head of `filter_out`, so whatever of it succeeds, the
filter accepts no packet that it did not accept before; and once the lockdown
rule is in place nothing leaves the host but what Tor sends.
-/
namespace Ttp.Lockdown
open Ttp.Python Ttp.Nft Ttp.Program Ttp.Machine Ttp.State Ttp.Firewall Ttp.SessionSafety Ttp.Watchdog Ttp.Lifecycle
open Ttp.Footprint Ttp.Faults Ttp.DestroyRules

/-! ### Rules that deny -/

/-- A rule that lets no packet pass. -/
def Denies (rule : Rule) : Prop := rule.verdict = .drop ∨ rule.verdict = .reject ∨ rule.verdict = .rejectTcpReset

/-- A denying rule at the head of a chain decides what it hits, and leaves the rest to the chain. -/
theorem denying_head {isLocal : Addr → Bool} {p : Packet} {rule : Rule} (denies : Denies rule) (c : Chain) :
    ({ c with rules := rule :: c.rules } : Chain).verdict isLocal p =
      if rule.hits isLocal p then rule.verdict else c.verdict isLocal p := by
  have applied : rule.verdict.applied p = some rule.verdict := by
    rcases denies with drop | reject | reset
    · rw [drop]; rfl
    · rw [reject]; rfl
    · rw [reset]; rfl
  by_cases hit : rule.hits isLocal p = true
  · simp [Chain.verdict, eval_cons, Rule.eval, hit, applied]
  · simp [Chain.verdict, eval_cons, Rule.eval, hit]

theorem denies_accept {rule : Rule} (denies : Denies rule) : rule.verdict ≠ .accept := by
  rcases denies with drop | reject | reset
  · simp [drop]
  · simp [reject]
  · simp [reset]

theorem inserted_within {rule : Rule} (denies : Denies rule) (chain : String) (table : Option Table) :
    Within (table.map fun t => Host.insertRule t chain rule) table := by
  rintro isLocal p accepted t rfl c member named
  have after := accepted _ rfl _ (List.mem_map.mpr ⟨c, member, rfl⟩)
  by_cases here : (c.name == chain) = true
  · have verdict := after (by rw [if_pos here]; exact named)
    rw [if_pos here, denying_head denies] at verdict
    split at verdict
    · exact absurd verdict (denies_accept denies)
    · exact verdict
  · rw [if_neg here] at after
    exact after named

theorem within_trans {a b c : Option Table} (first : Within a b) (second : Within b c) : Within a c :=
  fun isLocal p accepted => second isLocal p (first isLocal p accepted)

/-! ### The lockdown -/

/-- The rule of `apply_teardown_lockdown`. -/
def lockdown (torUid : Option Nat) : Rule := ⟨(torUid.map Match.skuidNot).toList ++ [.oifnameNot "lo"], none, .drop⟩

/-- A packet of a socket that is not Tor's, on its way out of the host. -/
def Foreign (torUid : Option Nat) (p : Packet) : Prop :=
  (∃ uid, p.skuid = some uid ∧ torUid ≠ some uid) ∧ p.oifname ≠ "lo"

theorem lockdown_hits {torUid : Option Nat} {isLocal : Addr → Bool} {p : Packet} (foreign : Foreign torUid p) :
    (lockdown torUid).hits isLocal p = true := by
  obtain ⟨⟨uid, owner, other⟩, out⟩ := foreign
  cases torUid with
  | none => simp [lockdown, Rule.hits, Match.holds, out]
  | some tor =>
    have apart : uid ≠ tor := fun same => other (by rw [same])
    simp [lockdown, Rule.hits, Match.holds, out, owner, apart]

/-- With the lockdown at the head of a `filter_out` chain, no foreign packet leaves. -/
theorem locked_down {torUid : Option Nat} {t : Table} (there : t.chains.any (·.name == "filter_out") = true)
    {isLocal : Addr → Bool} {p : Packet} (foreign : Foreign torUid p) :
    ¬ Accepted isLocal (some (Host.insertRule t "filter_out" (lockdown torUid))) p := by
  intro accepted
  obtain ⟨c, member, named⟩ := List.any_eq_true.mp there
  have verdict := accepted _ rfl _ (List.mem_map.mpr ⟨c, member, rfl⟩) (by rw [if_pos named]; exact beq_iff_eq.mp named)
  rw [if_pos named, denying_head (Or.inl rfl), if_pos (lockdown_hits foreign)] at verdict
  simp [lockdown] at verdict

/-! ### Stopping -/

/-- An operation that `do_stop` may use: of the rules it inserts, all deny. -/
def Denying : Op → Prop
  | .nftTransaction .. => False
  | .nftInsert _ rule => Denies rule
  | _ => True

/-- `destroy_rules` has begun. -/
def Destroying (log : List Event) : Prop := ∃ event ∈ log, event.op = .nftFlush ∨ event.op = .nftDelete

/-- The lockdown for this user of Tor was inserted. -/
def LockedDown (torUid : Option Nat) (log : List Event) : Prop :=
  ⟨.nftInsert "filter_out" (lockdown torUid), .fate .ok⟩ ∈ log

/-- Until `destroy_rules` begins, the filter accepts no more than at first, and from the lockdown on no foreign
    packet. -/
def Narrowed (before : Option Table) (w : Run) : Prop := ¬ Destroying w.log →
  Within w.host.table before ∧
    ∀ torUid, LockedDown torUid w.log → ∀ isLocal p, Foreign torUid p → ¬ Accepted isLocal w.host.table p

section
variable {i : Nat} {before : Option Table} {w w' : Run}

theorem narrowed_next {o : Op} {took : Bool} {fault : Fault} (denying : Denying o) (narrowed : Narrowed before w)
    (inserted : ∀ chain rule, o = .nftInsert chain rule → fault = .fate .ok → took = true ∧
      (w.host.table.any fun t => t.chains.any (·.name == chain)) = true) : Narrowed before (w.next i o took fault) := by
  intro calm
  have earlier : ¬ Destroying w.log := fun ⟨event, member, op⟩ => calm ⟨event, List.mem_append_left _ member, op⟩
  have here : ¬ (o = .nftFlush ∨ o = .nftDelete) :=
    fun op => calm ⟨_, List.mem_append_right _ (List.mem_singleton_self _), op⟩
  obtain ⟨within, locked⟩ := narrowed earlier
  -- the table is the old one, or has one more rule that denies
  have step : Within (w.next i o took fault).host.table w.host.table := by
    cases took with
    | false => exact within_refl _
    | true =>
      cases o with
      | nftTransaction => exact denying.elim
      | nftInsert chain rule => exact inserted_within denying chain _
      | nftFlush => exact absurd (Or.inl rfl) here
      | nftDelete => exact absurd (Or.inr rfl) here
      | release =>
        simp only [Run.next, Host.effect, if_true]
        split <;> exact within_refl _
      | _ => exact within_refl _
  refine ⟨within_trans step within, fun torUid lockedDown isLocal p foreign accepted => ?_⟩
  rcases List.mem_append.mp lockedDown with first | now
  · exact locked torUid first isLocal p foreign (step isLocal p accepted)
  · obtain ⟨rfl, rfl⟩ : Op.nftInsert "filter_out" (lockdown torUid) = o ∧ Fault.fate .ok = fault := by simpa using now
    obtain ⟨rfl, chain⟩ := inserted _ _ rfl rfl
    cases table : w.host.table with
    | none => simp [table] at chain
    | some t =>
      have installed : (w.next i (.nftInsert "filter_out" (lockdown torUid)) true (.fate .ok)).host.table =
          some (Host.insertRule t "filter_out" (lockdown torUid)) := by simp [Run.next, Host.effect, table]
      rw [installed] at accepted
      exact locked_down (by simpa [table] using chain) foreign accepted

theorem narrowed_step {o : Op} {fault : Fault} {r : o.Res} (denying : Denying o)
    (performed : perform i w o fault = some (r, w'))
    (narrowed : Narrowed before w) : Narrowed before w' := by
  obtain ⟨took, rfl, outcome⟩ := perform_next performed
  refine narrowed_next denying narrowed ?_
  rintro chain rule rfl rfl
  have answered := outcome .ok rfl
  simp only [Host.outcome] at answered
  split at answered
  case isTrue there => exact ⟨(Prod.mk.inj (Option.some.inj answered)).2.symm, there⟩
  case isFalse => simp at answered

end

/-! ### What the programs insert -/

section
variable {py : Interpreter}

/-- Operations that leave the table alone deny. -/
theorem denying_among {α : Type} {p : Py α} {kinds : List Kind} (used : p.Uses (among kinds))
    (others : Kind.table ∉ kinds)
    (other : Kind.emergency ∉ kinds) : p.Uses Denying := by
  refine uses_mono used fun o member => ?_
  cases o with
  | nftTransaction t timeout =>
    rcases kind_transaction t timeout with emergency | table
    · exact absurd (emergency ▸ member) other
    · exact absurd (table ▸ member) others
  | nftInsert => exact absurd member others
  | _ => trivial

theorem updateLockKeys_uses {changes : Obj} :
    (updateLockKeys changes).Uses (among [.readLock, .replaceLock, .quiet]) := by
  refine uses_bind (readLock_uses (by decide)) fun found => ?_
  split
  · trivial
  · refine uses_catch (uses_bind (checked_uses ⟨by decide, fun _ => trivial⟩) fun _ => ?_) fun _ => trivial
    exact checked_uses ⟨by simp [kind], fun _ => trivial⟩

theorem markStopping_uses {lock : Obj} :
    (markStopping lock).Uses (among [.readLock, .replaceLock, .replaceMarker, .transition, .quiet]) := by
  refine uses_bind (prepare_uses (by decide)) fun _ => transition_uses ?_ ?_ ?_
  · simp [among, kind]
  · simp [among, kind]
  refine uses_bind (readLock_uses (by decide)) fun found => ?_
  split
  · trivial
  split
  · refine uses_bind (uses_among updateLockKeys_uses (by decide)) fun _ => ?_
    split
    · trivial
    · refine uses_bind (checked_uses ⟨by decide, fun _ => trivial⟩) fun _ => ?_
      exact checked_uses ⟨by simp [kind], fun _ => trivial⟩
  · trivial

theorem stopWatchdog_uses : stopWatchdog.Uses (among [.readLock, .replaceLock, .quiet]) := by
  refine uses_bind (external_uses (by decide)) fun _ => uses_bind (external_uses (by decide)) fun _ => ?_
  refine uses_bind (external_uses (by decide)) fun _ => ?_
  exact uses_catch updateLockKeys_uses fun _ => trivial

theorem insert_uses {chain : String} {rule : Rule} (denies : Denies rule) :
    (checked (step (.nftInsert chain rule))).Uses Denying := checked_uses ⟨denies, fun _ => trivial⟩

theorem logged_denying {p : Py Unit} (used : p.Uses Denying) : (logged p).Uses Denying :=
  uses_catch used fun _ => trivial

theorem destroyRules_denying : destroyRules.Uses Denying := by
  refine uses_bind (checked_uses ⟨trivial, fun _ => trivial⟩) fun _ => ?_
  refine uses_bind (checked_uses ⟨trivial, fun _ => trivial⟩) fun deleted => ?_
  refine uses_bind (checked_uses ⟨trivial, fun _ => trivial⟩) fun _ => ?_
  split
  · trivial
  refine uses_bind (checked_uses ⟨trivial, fun _ => trivial⟩) fun present => ?_
  split <;> trivial

theorem tearDown_denying {lock : Obj} : (tearDown py lock).Uses Denying := by
  have quietly {α : Type} {p : Py α} (used : p.Uses (among services)) : p.Uses Denying :=
    denying_among used (by decide) (by decide)
  have released : (releaseNetwork lock).Uses Denying := by
    refine uses_always (uses_bind destroyRules_denying fun _ => quietly (logged_uses restoreDns_uses)) ?_
    exact checked_uses ⟨trivial, fun _ => trivial⟩
  refine uses_bind (quietly findUid_uses) fun torUid => ?_
  refine uses_bind (logged_denying (insert_uses (Or.inl rfl))) fun _ => ?_
  refine uses_bind (quietly (onlyIf_uses ?_)) fun _ => ?_
  · refine uses_bind (external_uses (by decide)) fun _ => uses_bind stopTorService_uses fun _ => ?_
    exact external_uses (by decide)
  refine uses_bind (logged_denying
    (uses_bind (insert_uses (Or.inr (Or.inl rfl))) fun _ => insert_uses (Or.inr (Or.inr rfl)))) fun _ => ?_
  exact uses_bind (quietly (unchecked_uses (external_uses (by decide)))) fun _ => released

theorem doStop_denying : (doStop py).Uses Denying := by
  refine uses_bind (denying_among (readLock_uses (List.mem_singleton_self _)) (by decide) (by decide)) fun found => ?_
  split
  · trivial
  refine uses_bind (denying_among (onlyIf_uses markStopping_uses) (by decide) (by decide)) fun _ => ?_
  refine uses_bind (denying_among (onlyIf_uses (logged_uses stopWatchdog_uses)) (by decide) (by decide)) fun _ => ?_
  exact uses_bind tearDown_denying fun _ => checked_uses ⟨trivial, fun _ => trivial⟩

end

/-- Wherever a stop comes by before it destroys the table, the filter accepts no packet that it did not accept when the
    stop began, and from a successful lockdown on no foreign packet. -/
theorem doStop_narrows (py : Interpreter) (i : Nat) (h : Host) (w : Run)
    (visited : (doStop py).Visits (perform i) (.start h) w) (before : ¬ Destroying w.log) :
    Within w.host.table h.table ∧
      ∀ torUid, LockedDown torUid w.log → ∀ isLocal p, Foreign torUid p → ¬ Accepted isLocal w.host.table p := by
  have started : Narrowed h.table (.start h) :=
    fun _ => ⟨within_refl _, fun torUid lockedDown => by simp [LockedDown, Run.start] at lockedDown⟩
  exact visits_uses visited doStop_denying started
    (fun _ _ _ _ _ denying performed => narrowed_step denying performed) before

/-- The session that is stopped, with Tor as user 107. -/
def stopped : Host :=
  { Host.fresh with
    lock := .json (.obj [("external_daemon", .bool true), ("tor_uid", .int 107)])
    table := some (Builder.buildRuleset ⟨107, 9041, 9054, true, false, true, none, none, none, false⟩) }

/-- The lock is read and the lockdown inserted; the reset of TCP connections fails. -/
def partly : List Fault := [.fate .ok, .fate .ok, .fate .ok, .fate (.fails .calledProcessError)]

/-- Through the lockdown, and one of the two rejecting rules, a session of uid 107 lets out nothing that it did not let
    out before, and nothing of other users. -/
theorem doStop_narrows_partly : ∃ w, (doStop .cpython).Visits (perform 0) (.start stopped) w ∧
    Within w.host.table stopped.table ∧
    ∀ isLocal p, Foreign (some 107) p → ¬ Accepted isLocal w.host.table p := by
  have ran : ∃ w, (doStop .cpython).replay (perform 0) (.start stopped) partly = some w ∧
      ¬ Destroying w.log ∧ LockedDown (some 107) w.log :=
    ⟨_, rfl, by simp [Destroying, Run.start], by simp [LockedDown, lockdown]⟩
  obtain ⟨w, replayed, before, lockedDown⟩ := ran
  obtain ⟨within, locked⟩ := doStop_narrows .cpython 0 stopped w (replay_visits replayed) before
  exact ⟨w, replay_visits replayed, within, locked _ lockedDown⟩

end Ttp.Lockdown
