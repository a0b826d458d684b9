import Ttp.Lockdown

/-!
How far a stop gets with the restoration. `stop --restore-only` ends early at a
lock that cannot be decoded and where a step after the removal of the table
raises; `do_stop` deletes the lock also where the removal of the table raised,
and then leaves the DNS as it is.
-/
namespace Ttp.Restoration
open Ttp.Python Ttp.Program Ttp.Machine Ttp.State Ttp.Records Ttp.Firewall Ttp.SessionSafety Ttp.Watchdog Ttp.Lifecycle
open Ttp.Faults Ttp.Footprint Ttp.DestroyRules

/-! ### What a stop did -/

/-- The stop marker of every session was published. -/
def Published (log : List Event) : Prop := Took (.replaceMarker (.str "*")) log

/-- `restore_dns` began. -/
def Restored (log : List Event) : Prop := ∃ event ∈ log, event.op = .isMounted

/-- The lock was deleted. -/
def Deleted (log : List Event) : Prop := ⟨.unlinkLock, .fate .ok⟩ ∈ log

/-- `destroy_rules` returned, with `table` before it: it came to the listing only to find no table. -/
structure Destroyed (table : Option Nft.Table) (log : List Event) : Prop where
  unlinked : ⟨.external "unlink ttp.rules", .fate .ok⟩ ∈ log
  listed : ∀ e, ⟨.nftList, .fate (.fails e)⟩ ∉ log
  absent : ⟨.nftList, .fate .ok⟩ ∈ log → table = none

/-- The exceptions of an operation that do not end `stop --restore-only`. -/
def tolerated : Op → Exc → Bool
  | .unmountOverlay, e => e = .calledProcessError
  | .removeDropIn, e => e.isException
  | .external what, e =>
    if what = "systemctl restart systemd-resolved" ∨ what = "resolvectl flush-caches" then e.isException
    else if what = "unlink resolv.conf" then e.isOSError
    else what ≠ "unlabel the ports"
  | .unlinkLock, _ => false
  | _, _ => true

/-- The operation raised what ends the restoration. -/
def Uncaught (event : Event) : Prop :=
  ∃ e, (event.fault = .fate (.fails e) ∨ event.fault = .late e) ∧ tolerated event.op e = false

/-- Nothing ended the restoration. -/
def Clean (log : List Event) : Prop := ∀ event ∈ log, ¬ Uncaught event

/-! ### Logs -/

section
variable {table : Option Nft.Table} {log more : List Event}

/-- The operations that a stop uses before it takes the table down. -/
def calm : Op → Bool
  | .isMounted | .unlinkLock | .nftList | .nftTransaction .. | .nftFlush | .nftDelete => false
  | .external what => what ≠ "unlink ttp.rules"
  | _ => true

theorem destroyed_append (others : ∀ event ∈ more, event.op ≠ .nftList ∧ event.op ≠ .external "unlink ttp.rules") :
    Destroyed table (log ++ more) ↔ Destroyed table log := by
  have apart (event : Event) (kind : event.op = .nftList ∨ event.op = .external "unlink ttp.rules") :
      event ∈ log ++ more ↔ event ∈ log := by
    rw [List.mem_append]
    exact ⟨fun member => member.elim id fun later => kind.elim (fun op => absurd op (others _ later).1)
      fun op => absurd op (others _ later).2, Or.inl⟩
  constructor
  · intro destroyed
    exact ⟨(apart _ (Or.inr rfl)).mp destroyed.unlinked, fun e => mt (apart _ (Or.inl rfl)).mpr (destroyed.listed e),
      fun listed => destroyed.absent ((apart _ (Or.inl rfl)).mpr listed)⟩
  · intro destroyed
    exact ⟨(apart _ (Or.inr rfl)).mpr destroyed.unlinked, fun e => mt (apart _ (Or.inl rfl)).mp (destroyed.listed e),
      fun listed => destroyed.absent ((apart _ (Or.inl rfl)).mp listed)⟩

theorem restored_append : Restored (log ++ more) ↔ Restored log ∨ Restored more := by
  simp [Restored, or_and_right, exists_or]

theorem deleted_append : Deleted (log ++ more) ↔ Deleted log ∨ Deleted more := by
  simp [Deleted]

theorem clean_append : Clean (log ++ more) ↔ Clean log ∧ Clean more := by
  simp [Clean, or_imp, forall_and]

/-- A log of calm operations tells of no restoration. -/
theorem calm_log (still : ∀ event ∈ log, calm event.op = true) :
    ¬ Restored log ∧ ¬ Deleted log ∧ ¬ Destroyed table log := by
  refine ⟨?_, fun deleted => ?_, fun destroyed => ?_⟩
  · rintro ⟨event, member, op⟩
    simpa [op, calm] using still event member
  · simpa [calm] using still _ deleted
  · simpa [calm] using still _ destroyed.unlinked

end

/-! ### The removal of the table -/

section
variable {i : Nat} {table : Option Nft.Table} {w : Run}

/-- What the removal of the table does. -/
def removing : Op → Prop
  | .nftFlush | .nftDelete | .nftList => True
  | .external what => what = "unlink ttp.rules"
  | _ => False

theorem destroyRules_removing : destroyRules.Uses removing := by
  refine uses_bind (checked_uses ⟨trivial, fun _ => trivial⟩) fun _ => ?_
  refine uses_bind (checked_uses ⟨trivial, fun _ => trivial⟩) fun deleted => ?_
  refine uses_bind (checked_uses ⟨rfl, fun _ => trivial⟩) fun _ => ?_
  split
  · trivial
  · refine uses_bind (checked_uses ⟨trivial, fun _ => trivial⟩) fun present => ?_
    split <;> trivial

/-- The log tells whether `destroy_rules` returned. -/
theorem destroyRules_told (still : ∀ event ∈ w.log, calm event.op = true) (same : w.host.table.isSome = table.isSome) :
    destroyRules.Ensures (perform i) w fun x w' => Destroyed table w'.log ↔ ∃ gone, x = .ok gone := by
  have unseen (fault : Fault) : ⟨.external "unlink ttp.rules", fault⟩ ∉ w.log :=
    fun member => by simpa [calm] using still _ member
  have unlisted (fault : Fault) : ⟨.nftList, fault⟩ ∉ w.log := fun member => by simpa [calm] using still _ member
  have told (log : List Event) : Destroyed table log ↔ ⟨.external "unlink ttp.rules", .fate .ok⟩ ∈ log ∧
      (∀ e, ⟨.nftList, .fate (.fails e)⟩ ∉ log) ∧ (⟨.nftList, .fate .ok⟩ ∈ log → table = none) :=
    ⟨fun destroyed => ⟨destroyed.unlinked, destroyed.listed, destroyed.absent⟩, fun ⟨unlinked, listed, absent⟩ =>
      ⟨unlinked, listed, absent⟩⟩
  -- the table is there after the flush as it was before
  have onwards (u : Run) (flushed : ∃ fault, u.log = w.log ++ [⟨.nftFlush, fault⟩])
    (there : u.host.table.isSome = table.isSome) :
      (do
        let deleted ← checked (step .nftDelete)
        checked (step (.external "unlink ttp.rules"))
        if deleted then pure true
        else
          let present ← checked (step .nftList)
          if present then .raise (.firewallError "Failed to destroy nftables ruleset")
          else pure true : Py Bool).Ensures (perform i) u
        fun x w' => Destroyed table w'.log ↔ ∃ gone, x = .ok gone := by
    obtain ⟨fault, log⟩ := flushed
    rw [ensures_bind, ensures_delete]
    refine ⟨?_, fun code => ?_, fun e => ?_, fun e => ?_⟩
    · rw [afterwards, ensures_bind, ensures_external]
      refine ⟨?_, fun e => ?_⟩
      · rw [afterwards, there]
        cases table with
        | some t => simp [told, Run.next, log, unlisted]
        | none =>
          rw [if_neg (by simp), ensures_bind, ensures_list]
          refine ⟨?_, fun code => ?_, fun e => ?_⟩
          · simp [afterwards, told, Run.next, log, unlisted, Host.effect]
          · simp [afterwards, told, Run.next, log, unlisted]
          · exact iff_of_false (fun destroyed => destroyed.listed e (by simp [Run.next])) (by simp)
      · simp [afterwards, told, Run.next, log, unseen]
    · rw [afterwards, ensures_bind, ensures_external]
      refine ⟨?_, fun e => ?_⟩
      · rw [afterwards, if_neg (by simp), ensures_bind, ensures_list]
        refine ⟨?_, fun code => ?_, fun e => ?_⟩
        · rw [afterwards]
          have still : (((u.next i .nftDelete false (.fate (.exits code))).next i (.external "unlink ttp.rules") true
            (.fate .ok)).host.table).isSome = table.isSome := there
          rw [still]
          cases table <;> simp [told, Run.next, log, unlisted]
        · simp [afterwards, told, Run.next, log, unlisted]
        · exact iff_of_false (fun destroyed => destroyed.listed e (by simp [Run.next])) (by simp)
      · simp [afterwards, told, Run.next, log, unseen]
    · simp [afterwards, told, Run.next, log, unseen]
    · simp [afterwards, told, Run.next, log, unseen]
  rw [destroyRules, ensures_bind, ensures_flush]
  refine ⟨?_, fun code => ?_, fun e => ?_, fun e => ?_⟩
  · exact onwards _ ⟨_, rfl⟩ (by simpa [Run.next, Host.effect] using same)
  · exact onwards _ ⟨_, rfl⟩ same
  · simp [afterwards, told, Run.next, unseen]
  · simp [afterwards, told, Run.next, unseen]

/-! ### What a stop does before -/

/-- What holds until the table is taken down. -/
structure Before (table : Option Nft.Table) (w : Run) : Prop where
  still : ∀ event ∈ w.log, calm event.op = true
  same : w.host.table.isSome = table.isSome

theorem calm_table {i : Nat} {h : Host} {o : Op} (still : calm o = true) :
    (h.effect i o).table.isSome = h.table.isSome := by
  cases o with
  | nftTransaction => simp [calm] at still
  | nftFlush => simp [calm] at still
  | nftDelete => simp [calm] at still
  | nftInsert => simp [Host.effect]
  | release =>
    simp only [Host.effect]
    split <;> rfl
  | _ => rfl

theorem before_uses {α : Type} {p : Py α} (used : p.Uses fun o => calm o = true) :
    p.Preserves (perform i) (Before table) := by
  refine preserves_of_uses used fun w o fault r w' still performed before => ?_
  obtain ⟨took, rfl, _⟩ := perform_next performed
  refine ⟨fun event member => ?_, ?_⟩
  · rcases List.mem_append.mp member with earlier | new
    · exact before.still event earlier
    · obtain rfl := List.mem_singleton.mp new
      exact still
  · cases took with
    | false => exact before.same
    | true => exact (calm_table still).trans before.same

end

/-! ### `do_stop` -/

section
variable {i : Nat} {table : Option Nft.Table} {w : Run} {lock : Obj}

theorem updateLockKeys_calm {changes : Obj} : (updateLockKeys changes).Uses fun o => calm o = true := by
  refine uses_bind (uses_bind ⟨rfl, fun _ => trivial⟩ fun _ => uses_ofExcept _) fun found => ?_
  split
  · trivial
  · refine uses_catch (uses_bind (checked_uses ⟨rfl, fun _ => trivial⟩) fun _ => ?_) fun _ => trivial
    exact checked_uses ⟨rfl, fun _ => trivial⟩

theorem markStopping_calm : (markStopping lock).Uses fun o => calm o = true := by
  refine uses_bind (checked_uses ⟨rfl, fun _ => trivial⟩) fun _ => ?_
  unfold transition
  split
  · trivial
  refine uses_bind (checked_uses ⟨rfl, fun _ => trivial⟩) fun _ => uses_always ?_ ⟨rfl, fun _ => trivial⟩
  refine uses_bind (uses_bind ⟨rfl, fun _ => trivial⟩ fun _ => uses_ofExcept _) fun found => ?_
  split
  · trivial
  split
  · refine uses_bind updateLockKeys_calm fun _ => ?_
    split
    · trivial
    · refine uses_bind (checked_uses ⟨rfl, fun _ => trivial⟩) fun _ => ?_
      exact checked_uses ⟨rfl, fun _ => trivial⟩
  · trivial

theorem external_calm {what : String} (other : what ≠ "unlink ttp.rules") :
    (checked (step (.external what))).Uses fun o => calm o = true :=
  checked_uses ⟨by simp [calm, other], fun _ => trivial⟩

theorem stopWatchdog_calm : stopWatchdog.Uses fun o => calm o = true := by
  refine uses_bind (external_calm (by decide)) fun _ => uses_bind (external_calm (by decide)) fun _ => ?_
  exact uses_bind (external_calm (by decide)) fun _ => uses_catch updateLockKeys_calm fun _ => trivial

theorem stopTorService_calm : stopTorService.Uses fun o => calm o = true := by
  refine uses_bind (checked_uses ⟨rfl, fun _ => trivial⟩) fun _ => ?_
  exact uses_bind (external_calm (by decide)) fun _ => external_calm (by decide)

theorem logged_calm {p : Py Unit} (used : p.Uses fun o => calm o = true) : (logged p).Uses fun o => calm o = true :=
  uses_catch used fun _ => trivial

theorem onlyIf_calm {c : Bool} {p : Py Unit} (used : p.Uses fun o => calm o = true) :
    (onlyIf c p).Uses fun o => calm o = true := by
  unfold onlyIf
  split
  · exact used
  · trivial

theorem insert_calm {chain : String} {rule : Nft.Rule} :
    (checked (step (.nftInsert chain rule))).Uses fun o => calm o = true :=
  checked_uses ⟨rfl, fun _ => trivial⟩

theorem findUid_calm : (findUid py lock).Uses fun o => calm o = true := by
  refine uses_bind (uses_ofExcept _) fun found => ?_
  split
  · trivial
  · exact ⟨rfl, fun _ => trivial⟩

/-- The operations of a restoration. -/
def restoring : Op → Prop
  | .isMounted | .unmountOverlay | .removeDropIn => True
  | .external what => what ≠ "unlink ttp.rules"
  | _ => False

theorem restoreDns_restoring {backup : Json} : (restoreDns backup).Uses restoring := by
  have external {what : String} (other : what ≠ "unlink ttp.rules") :
      (checked (step (.external what))).Uses restoring :=
    checked_uses ⟨other, fun _ => trivial⟩
  have onlyIf_restoring {c : Bool} {p : Py Unit} (used : p.Uses restoring) : (onlyIf c p).Uses restoring := by
    unfold onlyIf
    split
    · exact used
    · trivial
  refine uses_bind (uses_bind ⟨trivial, fun _ => trivial⟩ fun mounted => ?_) fun _ => ?_
  · exact onlyIf_restoring (uses_catch (checked_uses ⟨trivial, fun _ => trivial⟩) fun _ => trivial)
  · refine uses_bind (onlyIf_restoring (uses_catch ?_ fun _ => trivial)) fun _ =>
      uses_catch (external (by decide)) fun _ => trivial
    refine uses_bind (uses_catch (checked_uses ⟨trivial, fun _ => trivial⟩) fun _ => trivial) fun _ => ?_
    exact uses_bind (uses_catch (external (by decide)) fun _ => trivial) fun _ =>
      uses_catch (external (by decide)) fun _ => trivial

/-- A restoration begins with a look at the mounts. -/
theorem restoreDns_attempted (backup : Json) (w : Run) : (restoreDns backup).Ensures (perform i) w fun _ w' =>
    ∃ more, w'.log = w.log ++ more ∧ Restored more ∧ ∀ event ∈ more, restoring event.op := by
  intro fault r w' performed
  obtain ⟨took, rfl, _⟩ := perform_next performed
  have used : (restoreDns backup).Uses restoring := restoreDns_restoring
  refine ensures_mono (ensures_grown (used.2 r)) fun x w'' grown => ?_
  obtain ⟨more, log, inside⟩ := grown
  refine ⟨⟨.isMounted, fault⟩ :: more, by simp [log, Run.next], ⟨_, List.mem_cons_self .., rfl⟩, fun event member => ?_⟩
  rcases List.mem_cons.mp member with rfl | later
  · trivial
  · exact inside event later

theorem logged_ensures {p : Py Unit} {Q : Run → Prop} (body : p.Ensures (perform i) w fun _ w' => Q w') :
    (logged p).Ensures (perform i) w fun _ w' => Q w' := by
  rw [logged, ensures_handle]
  refine ensures_mono body fun x w' reached => ?_
  cases x with
  | ok a => exact reached
  | error e =>
    by_cases exception : e.isException = true
    · simpa [caught, exception] using reached
    · simpa [caught, exception] using reached

/-- A lock that was deleted leaves no session to restore the DNS. -/
def Finished (table : Option Nft.Table) (log : List Event) : Prop :=
  (Deleted log → Restored log) ↔ (Deleted log → Destroyed table log)

theorem Before.finished (before : Before table w) : Finished table w.log := by
  obtain ⟨_, kept, _⟩ := @calm_log table _ before.still
  exact ⟨fun _ deleted => absurd deleted kept, fun _ deleted => absurd deleted kept⟩

/-- The DNS is restored where the table was taken down, whatever becomes of the lock. -/
theorem releaseNetwork_finished (before : Before table w) :
    (releaseNetwork lock).Ensures (perform i) w fun _ w' => Finished table w'.log := by
  have body : (do
      let _ ← destroyRules
      logged (restoreDns (lock.get "dns_backup")) : Py Unit).Ensures (perform i) w
      fun _ w' => Restored w'.log ↔ Destroyed table w'.log := by
    rw [ensures_bind]
    refine ensures_mono (ensures_both (destroyRules_told before.still before.same)
      (ensures_grown destroyRules_removing)) ?_
    rintro x w' ⟨told, more, log, inside⟩
    have unrestored : ¬ Restored w'.log := by
      rw [log, restored_append]
      rintro (earlier | ⟨event, member, op⟩)
      · exact (@calm_log table _ before.still).1 earlier
      · simpa [op, removing] using inside event member
    cases x with
    | error e => exact iff_of_false unrestored (by simp [told])
    | ok gone =>
      refine logged_ensures (ensures_mono (restoreDns_attempted _ w') fun _ w'' attempted => ?_)
      obtain ⟨more', log', restored, inside'⟩ := attempted
      have apart : ∀ event ∈ more', event.op ≠ .nftList ∧ event.op ≠ .external "unlink ttp.rules" := by
        intro event member
        have op := inside' event member
        exact ⟨fun same => by simp [same, restoring] at op, fun same => by simp [same, restoring] at op⟩
      rw [log', restored_append, destroyed_append apart]
      exact iff_of_true (Or.inr restored) (told.mpr ⟨gone, rfl⟩)
  rw [releaseNetwork, ensures_always]
  refine ensures_mono body fun x w' agree => ?_
  have kept (fault : Fault) : Restored (w'.log ++ [⟨.unlinkLock, fault⟩]) ↔
      Destroyed table (w'.log ++ [⟨.unlinkLock, fault⟩]) := by
    rw [restored_append, destroyed_append (by simp)]
    simpa [Restored] using agree
  rw [afterBody, ensures_unlinkLock]
  exact ⟨by simp only [Finished, Run.next, kept], fun e => by simp only [Finished, Run.next, kept]⟩

theorem tearDown_finished (before : Before table w) :
    (tearDown py lock).Ensures (perform i) w fun _ w' => Finished table w'.log := by
  have fails : ∀ (e : Exc) (w' : Run), Before table w' → Finished table w'.log := fun _ _ before => before.finished
  refine preserves_then (before_uses findUid_calm) before (fun torUid w before => ?_) fails
  refine preserves_then (before_uses (logged_calm insert_calm)) before (fun _ w before => ?_) fails
  refine preserves_then (before_uses (onlyIf_calm ?_)) before (fun _ w before => ?_) fails
  · refine uses_bind (external_calm (by decide)) fun _ => uses_bind stopTorService_calm fun _ => ?_
    exact external_calm (by decide)
  refine preserves_then (before_uses (logged_calm (uses_bind insert_calm fun _ => insert_calm))) before
    (fun _ w before => ?_) fails
  refine preserves_then (before_uses (uses_catch (external_calm (by decide)) fun _ => trivial)) before
    (fun _ w before => ?_) fails
  exact releaseNetwork_finished before

/-- `do_stop` attempts the restoration in the runs in which it deletes the lock exactly where the table was taken
    down. -/
theorem doStop_finished (py : Interpreter) (i : Nat) (h : Host) :
    (doStop py).Ensures (perform i) (.start h) fun _ w' => Finished h.table w'.log := by
  have fails : ∀ (e : Exc) (w' : Run), Before h.table w' → Finished h.table w'.log := fun _ _ before => before.finished
  have started : Before h.table (.start h) := ⟨by simp [Run.start], rfl⟩
  have reads : (readLock false).Uses fun o => calm o = true :=
    uses_bind ⟨rfl, fun _ => trivial⟩ fun _ => uses_ofExcept _
  refine preserves_then (before_uses reads) started (fun found w before => ?_) fails
  cases found with
  | none => exact before.finished
  | some lock =>
    refine preserves_then (before_uses (onlyIf_calm markStopping_calm)) before (fun _ w before => ?_) fails
    refine preserves_then (before_uses (onlyIf_calm (logged_calm stopWatchdog_calm))) before
      (fun _ w before => ?_) fails
    rw [ensures_bind]
    refine ensures_mono (tearDown_finished before) fun x w' finished => ?_
    cases x with
    | error e => exact finished
    | ok done =>
      have apart (fault : Fault) : Finished h.table (w'.log ++ [⟨.external "finish notifications", fault⟩]) ↔
          Finished h.table w'.log := by
        simp only [Finished]
        rw [restored_append, destroyed_append (by simp), deleted_append]
        simp [Restored, Deleted]
      rw [afterwards, ensures_external]
      exact ⟨(apart _).mpr finished, fun e => (apart _).mpr finished⟩

end

/-! ### `stop --restore-only`, after the table -/

/-- From a clean log on, the log is clean exactly where the program ends or raises something of `some`. -/
def Tells {α : Type} (i : Nat) (tolerates : Exc → Bool) (p : Py α) : Prop :=
  ∀ w : Run, Clean w.log → p.Ensures (perform i) w fun x w' => Clean w'.log ↔ ∀ e, x = .error e → tolerates e = true

section
variable {α β : Type} {i : Nat} {tolerates : Exc → Bool} {w : Run}

theorem tells_bind {p : Py α} {f : α → Py β} (first : Tells i tolerates p) (rest : ∀ a, Tells i tolerates (f a)) :
    Tells i tolerates (p >>= f) := by
  intro w clean
  rw [ensures_bind]
  refine ensures_mono (first w clean) fun x w' told => ?_
  cases x with
  | ok a => exact rest a w' (told.mpr (by simp))
  | error e => simpa [afterwards] using told

theorem tells_pure (a : α) : Tells i tolerates (pure a : Py α) := by
  intro w clean
  simpa using clean

theorem tells_onlyIf {c : Bool} {p : Py Unit} (body : Tells i tolerates p) : Tells i tolerates (onlyIf c p) := by
  unfold onlyIf
  split
  · exact body
  · exact tells_pure ()

/-- A handler tolerates what it catches. -/
theorem tells_catch {c : Exc → Prop} [DecidablePred c] {p : Py Unit}
    (body : Tells i (fun e => tolerates e || decide (c e)) p) :
    Tells i tolerates (p.handle fun e => if c e then some (pure ()) else none) := by
  intro w clean
  rw [ensures_handle]
  refine ensures_mono (body w clean) fun x w' told => ?_
  cases x with
  | ok a => simpa [caught] using told
  | error e =>
    by_cases catches : c e
    · simpa [caught, catches] using told
    · simpa [caught, catches] using told

theorem clean_next {o : Op} {took : Bool} {fault : Fault} (clean : Clean w.log) :
    Clean (w.next i o took fault).log ↔ ¬ Uncaught ⟨o, fault⟩ := by
  rw [Run.next, clean_append]
  exact ⟨fun both => both.2 _ (List.mem_singleton_self _), fun caught => ⟨clean, by simpa [Clean] using caught⟩⟩

theorem uncaught_ok {o : Op} : ¬ Uncaught ⟨o, .fate .ok⟩ := by simp [Uncaught]

theorem uncaught_fails {o : Op} {e : Exc} : Uncaught ⟨o, .fate (.fails e)⟩ ↔ tolerated o e = false := by simp [Uncaught]

theorem uncaught_late {o : Op} {e : Exc} : Uncaught ⟨o, .late e⟩ ↔ tolerated o e = false := by simp [Uncaught]

theorem tells_external {what : String} (same : ∀ e, tolerated (.external what) e = tolerates e) :
    Tells i tolerates (checked (step (.external what))) := by
  intro w clean
  rw [ensures_external]
  refine ⟨?_, fun e => ?_⟩
  · simp [clean_next clean, uncaught_ok]
  · simp [clean_next clean, uncaught_fails, same]

theorem tells_removeDropIn (same : ∀ e, e.isException = tolerates e) :
    Tells i tolerates (checked (step .removeDropIn)) := by
  intro w clean
  rw [ensures_checked, ensures_outcomes, forall_fate]
  simp [Host.outcome, Host.attempted, lateResult, Except.bind, clean_next clean, uncaught_ok, uncaught_fails,
    uncaught_late, tolerated, same]

theorem tells_unmountOverlay (same : ∀ e : Exc, decide (e = .calledProcessError) = tolerates e) :
    Tells i tolerates (checked (step .unmountOverlay)) := by
  intro w clean
  rw [ensures_checked, ensures_outcomes, forall_fate]
  simp [Host.outcome, Host.attempted, lateResult, Except.bind, clean_next clean, uncaught_ok, uncaught_fails,
    uncaught_late, tolerated, ← same]

theorem tells_restoreResolved : Tells i Exc.isException restoreResolved := by
  have command (what : String)
    (service : what = "systemctl restart systemd-resolved" ∨ what = "resolvectl flush-caches") :
      Tells i Exc.isException (logged (checked (step (.external what)))) :=
    tells_catch (tells_external fun e => by simp [tolerated, service])
  refine tells_bind (tells_catch (tells_removeDropIn fun e => ?_)) fun _ =>
    tells_bind (command _ (Or.inl rfl)) fun _ => command _ (Or.inr rfl)
  cases e <;> rfl

/-- A restoration of the DNS ends without an exception exactly where nothing ended it. -/
theorem tells_restoreDns (backup : Json) : Tells i (fun _ => false) (restoreDns backup) := by
  have mounted : Tells i (fun _ => false) (step .isMounted) := by
    intro w clean
    rw [ensures_outcomes, forall_fate]
    simp [Host.outcome, lateResult, clean_next clean, uncaught_ok]
  refine tells_bind (tells_bind mounted fun there => tells_onlyIf (tells_catch (tells_unmountOverlay fun e => ?_)))
    fun _ => ?_
  · simp
  · refine tells_bind (tells_onlyIf (tells_catch ?_)) fun _ => tells_catch (tells_external fun e => ?_)
    · simpa using tells_restoreResolved
    · simp [tolerated]

/-- A log that tells of no restoration and of nothing that ended one. -/
structure Fresh (log : List Event) : Prop where
  unrestored : ¬ Restored log
  kept : ¬ Deleted log
  clean : Clean log

theorem undeleted_grown {log more : List Event} (kept : ¬ Deleted log)
    (others : ∀ event ∈ more, event.op ≠ .unlinkLock) :
    ¬ Deleted (log ++ more) := by
  rw [deleted_append]
  rintro (earlier | later)
  · exact kept earlier
  · exact others _ later rfl

/-- After the lock was read, the restoration is complete exactly where nothing ends it. -/
theorem finish_told (lock : Obj) (fresh : Fresh w.log) : (do
      onlyIf (!lock.isEmpty) (checked (step (.external "unlabel the ports")))
      restoreDns (lock.get "dns_backup")
      deleteLock
      onlyIf (!lock.isEmpty) (checked (step (.external "finish notifications")))
      .raise (.exit 0) : Py Unit).Ensures (perform i) w fun _ w' =>
      Restored w'.log ∧ Deleted w'.log ↔ Clean w'.log := by
  have unlabel : (onlyIf (!lock.isEmpty) (checked (step (.external "unlabel the ports")))).Uses (among [.quiet]) :=
    onlyIf_uses (external_uses (List.mem_singleton_self Kind.quiet))
  have labels : Tells i (fun _ => false) (onlyIf (!lock.isEmpty) (checked (step (.external "unlabel the ports")))) :=
    tells_onlyIf (tells_external fun e => by simp [tolerated])
  rw [ensures_bind]
  refine ensures_mono (ensures_both (labels w fresh.clean) (ensures_grown unlabel)) ?_
  rintro x w' ⟨told, more, log, quiet⟩
  have kept : ¬ Deleted w'.log := by
    rw [log]
    refine undeleted_grown fresh.kept fun event member same => ?_
    simpa [among, same, kind] using quiet event member
  cases x with
  | error e =>
    have unclean : ¬ Clean w'.log := by simp [told]
    exact iff_of_false (fun done => kept done.2) unclean
  | ok done =>
    rw [afterwards, ensures_bind]
    refine ensures_mono (ensures_both (tells_restoreDns _ w' (told.mpr (by simp))) (restoreDns_attempted _ w')) ?_
    rintro x w'' ⟨told, more, log, restored, inside⟩
    have kept : ¬ Deleted w''.log := by
      rw [log]
      refine undeleted_grown kept fun event member same => ?_
      simpa [same, restoring] using inside event member
    cases x with
    | error e =>
      have unclean : ¬ Clean w''.log := by simp [told]
      exact iff_of_false (fun done => kept done.2) unclean
    | ok done =>
      have clean : Clean w''.log := told.mpr (by simp)
      have restored : Restored w''.log := by rw [log, restored_append]; exact Or.inr restored
      rw [afterwards, ensures_bind, ensures_unlinkLock]
      refine ⟨?_, fun e => iff_of_false ?_ ?_⟩
      · have deleted : Deleted (w''.next i .unlinkLock true (.fate .ok)).log := by simp [Run.next, Deleted]
        have restored : Restored (w''.next i .unlinkLock true (.fate .ok)).log := restored_append.mpr (Or.inl restored)
        have clean : Clean (w''.next i .unlinkLock true (.fate .ok)).log := (clean_next clean).mpr uncaught_ok
        generalize w''.next i .unlinkLock true (.fate .ok) = u at deleted restored clean
        -- what comes after the lock was deleted ends nothing
        have both (took : Bool) (fault : Fault) : Restored
          (u.next i (.external "finish notifications") took fault).log ∧
            Deleted (u.next i (.external "finish notifications") took fault).log ↔
              Clean (u.next i (.external "finish notifications") took fault).log := by
          refine iff_of_true ⟨restored_append.mpr (Or.inl restored), deleted_append.mpr (Or.inl deleted)⟩ ?_
          simp [clean_next clean, Uncaught, tolerated]
        rw [afterwards, onlyIf]
        split
        · rw [ensures_bind, ensures_external]
          exact ⟨both _ _, fun e => both _ _⟩
        · exact iff_of_true ⟨restored, deleted⟩ clean
      · rintro ⟨_, deleted⟩
        exact kept (by simpa [Run.next, Deleted] using deleted)
      · rw [clean_next clean, uncaught_fails]
        simp [tolerated]

end

/-! ### `stop --restore-only`, up to the table -/

/-- The operations that come before, apart from the update of the lock. -/
def early : Op → Bool
  | .replaceLock _ | .removeDropIn | .unmountOverlay => false
  | .external what => what ∉ ["unlink ttp.rules", "systemctl restart systemd-resolved", "resolvectl flush-caches",
      "unlink resolv.conf", "unlabel the ports"]
  | o => calm o

/-- What holds until the table is taken down. -/
structure Early (h : Host) (w : Run) : Prop where
  before : Before h.table w
  clean : Clean w.log
  lock : Readable w.host.lock ↔ Readable h.lock

section
variable {α : Type} {i : Nat} {h : Host} {w : Run} {o : Op} {took : Bool} {fault : Fault}

theorem early_calm (inside : early o = true) : calm o = true := by
  cases o with
  | external what =>
    simp only [early, List.mem_cons, not_or, decide_eq_true_eq] at inside
    simpa [calm] using inside.1
  | replaceLock => simp [early] at inside
  | removeDropIn => simp [early] at inside
  | unmountOverlay => simp [early] at inside
  | _ => exact inside

theorem early_tolerated (inside : early o = true) (e : Exc) : tolerated o e = true := by
  cases o with
  | external what =>
    simp only [early, List.mem_cons, not_or, decide_eq_true_eq] at inside
    obtain ⟨_, restart, flush, unlink, unlabel, _⟩ := inside
    simp [tolerated, restart, flush, unlink, unlabel]
  | unlinkLock => simp [early, calm] at inside
  | removeDropIn => simp [early] at inside
  | unmountOverlay => simp [early] at inside
  | _ => rfl

theorem early_lock (inside : early o = true) : (h.effect i o).lock = h.lock := by
  cases o with
  | replaceLock => simp [early] at inside
  | unlinkLock => simp [early, calm] at inside
  | release =>
    simp only [Host.effect]
    split <;> rfl
  | _ => rfl

theorem Early.next (first : Early h w) (still : calm o = true) (tolerates : ∀ e, tolerated o e = true)
    (lock : took = true → (Readable (w.host.effect i o).lock ↔ Readable w.host.lock)) :
    Early h (w.next i o took fault) := by
  refine ⟨⟨fun event member => ?_, ?_⟩, (clean_next first.clean).mpr ?_, ?_⟩
  · rcases List.mem_append.mp member with earlier | new
    · exact first.before.still event earlier
    · obtain rfl := List.mem_singleton.mp new
      exact still
  · cases took with
    | false => exact first.before.same
    | true => exact (calm_table still).trans first.before.same
  · simp [Uncaught, tolerates]
  · cases took with
    | false => exact first.lock
    | true => exact (lock rfl).trans first.lock

theorem early_uses {p : Py α} (used : p.Uses fun o => early o = true) : p.Preserves (perform i) (Early h) := by
  refine preserves_of_uses used fun w o fault r w' inside performed first => ?_
  obtain ⟨took, rfl, _⟩ := perform_next performed
  refine first.next (early_calm inside) (early_tolerated inside) fun _ => ?_
  rw [early_lock inside]

/-- The update of a lock that can be read leaves one that can be read. -/
theorem updateLockKeys_early {changes : Obj} : (updateLockKeys changes).Preserves (perform i) (Early h) := by
  intro w first
  have read : Early h (w.next i .readLock true (.fate .ok)) := first.next rfl (fun _ => rfl) fun _ => Iff.rfl
  rw [updateLockKeys, ensures_bind, ensures_readLock]
  cases found : lockOf false w.host.lock with
  | error e => exact read
  | ok lock =>
    have readable : Readable w.host.lock := readable_iff.mpr ⟨lock, found⟩
    cases lock with
    | none => exact read
    | some data =>
      have writes : (writeLockFile (data.update changes)).Uses fun o =>
        o = .ensureRuntimeDir ∨ o = .replaceLock (data.update changes) :=
        uses_bind (checked_uses ⟨Or.inl rfl, fun _ => trivial⟩) fun _ => checked_uses ⟨Or.inr rfl, fun _ => trivial⟩
      have kept : (writeLockFile (data.update changes)).Preserves (perform i) fun w =>
        Early h w ∧ Readable w.host.lock := by
        refine preserves_of_uses writes fun w o fault r w' inside performed both => ?_
        obtain ⟨took, rfl, _⟩ := perform_next performed
        obtain ⟨first, readable⟩ := both
        rcases inside with rfl | rfl
        · exact ⟨first.next rfl (fun _ => rfl) fun _ => Iff.rfl, by cases took <;> exact readable⟩
        · have replaced : Readable (.json (.obj (data.update changes))) := by simp [Readable]
          refine ⟨first.next rfl (fun _ => rfl) fun _ => iff_of_true replaced readable, ?_⟩
          cases took with
          | false => exact readable
          | true => exact replaced
      exact ensures_mono (preserves_catch kept (fun _ => preserves_raise _) _ ⟨read, readable⟩) fun x w' both => both.1

theorem stopWatchdog_early : (logged stopWatchdog).Preserves (perform i) (Early h) := by
  have external {what : String} (inside : early (.external what) = true) :
      (checked (step (.external what))).Preserves (perform i) (Early h) :=
    early_uses (checked_uses ⟨inside, fun _ => trivial⟩)
  refine preserves_catch ?_ fun _ => preserves_pure _
  refine preserves_bind (external (by decide)) fun _ => preserves_bind (external (by decide)) fun _ => ?_
  exact preserves_bind (external (by decide)) fun _ => preserves_catch updateLockKeys_early fun _ => preserves_pure _

theorem removing_tolerated {e : Exc} (inside : removing o) : tolerated o e = true := by
  cases o with
  | external what =>
    obtain rfl := inside
    simp [tolerated]
  | unlinkLock => exact inside.elim
  | removeDropIn => exact inside.elim
  | unmountOverlay => exact inside.elim
  | _ => rfl

theorem destroyRules_lock : destroyRules.Ensures (perform i) w fun _ w' => w'.host.lock = w.host.lock := by
  refine ensures_related (R := fun w w' : Run => w'.host.lock = w.host.lock) destroyRules_removing (fun _ => rfl)
    (fun w o fault r w' inside performed => ?_) fun _ _ _ first second => second.trans first
  obtain ⟨took, rfl, _⟩ := perform_next performed
  cases took with
  | false => rfl
  | true =>
    cases o with
    | replaceLock => exact inside.elim
    | unlinkLock => exact inside.elim
    | release => exact inside.elim
    | _ => rfl

/-- Once it published its marker and took the table down, it attempted the restoration and deleted the lock exactly
    where the lock file can be decoded and nothing ended the restoration. -/
def Completed (h : Host) (log : List Event) : Prop :=
  (Published log ∧ Destroyed h.table log → Restored log ∧ Deleted log) ↔
    (Published log ∧ Destroyed h.table log → Readable h.lock ∧ Clean log)

theorem stopCommand_completed (py : Interpreter) (i : Nat) (h : Host) :
    (stopCommand py true).Ensures (perform i) (.start h) fun _ w' => Completed h w'.log := by
  have fails : ∀ (e : Exc) (w' : Run), Early h w' → Completed h w'.log := fun _ _ first => by
    have standing := (@calm_log h.table _ first.before.still).2.2
    exact ⟨fun _ premise => absurd premise.2 standing, fun _ premise => absurd premise.2 standing⟩
  have external {what : String} (inside : early (.external what) = true) :
      (checked (step (.external what))).Preserves (perform i) (Early h) :=
    early_uses (checked_uses ⟨inside, fun _ => trivial⟩)
  have started : Early h (.start h) := ⟨⟨by simp [Run.start], rfl⟩, by simp [Clean, Run.start], Iff.rfl⟩
  have marks : (transition 10 (writeStopMarker (.str "*"))).Uses fun o => early o = true := by
    unfold transition
    split
    · trivial
    · refine uses_bind (checked_uses ⟨rfl, fun _ => trivial⟩) fun _ => uses_always ?_ ⟨rfl, fun _ => trivial⟩
      exact uses_bind (checked_uses ⟨rfl, fun _ => trivial⟩) fun _ => checked_uses ⟨rfl, fun _ => trivial⟩
  have stops : stopTorService.Uses fun o => early o = true := by
    refine uses_bind (checked_uses ⟨rfl, fun _ => trivial⟩) fun _ => ?_
    exact uses_bind (checked_uses ⟨by decide, fun _ => trivial⟩) fun _ => checked_uses ⟨by decide, fun _ => trivial⟩
  refine preserves_then (external (by decide)) started (fun _ w first => ?_) fails
  rw [if_pos rfl]
  refine preserves_then (early_uses (checked_uses ⟨rfl, fun _ => trivial⟩)) first (fun _ w first => ?_) fails
  refine preserves_then (early_uses (checked_uses ⟨rfl, fun _ => trivial⟩)) first (fun _ w first => ?_) fails
  refine preserves_then (early_uses marks) first (fun _ w first => ?_) fails
  refine preserves_then stopWatchdog_early first (fun _ w first => ?_) fails
  refine preserves_then (external (by decide)) first (fun _ w first => ?_) fails
  refine preserves_then (early_uses stops) first (fun _ w first => ?_) fails
  have told := destroyRules_told (i := i) first.before.still first.before.same
  rw [ensures_bind]
  refine ensures_mono (ensures_both (ensures_both told destroyRules_lock) (ensures_grown destroyRules_removing)) ?_
  rintro x w' ⟨⟨told, lock⟩, more, log, inside⟩
  cases x with
  | error e =>
    have standing : ¬ Destroyed h.table w'.log := by simp [told]
    exact ⟨fun _ premise => absurd premise.2 standing, fun _ premise => absurd premise.2 standing⟩
  | ok gone =>
    -- nothing of the removal is part of a restoration
    have fresh : Fresh (w'.next i .readLock true (.fate .ok)).log := by
      obtain ⟨unrestored, kept, _⟩ := @calm_log h.table _ first.before.still
      have removed : Fresh w'.log := by
        refine ⟨?_, ?_, ?_⟩
        · rw [log, restored_append]
          rintro (earlier | ⟨event, member, op⟩)
          · exact unrestored earlier
          · simpa [op, removing] using inside event member
        · rw [log]
          refine undeleted_grown kept fun event member same => ?_
          simpa [same, removing] using inside event member
        · rw [log, clean_append]
          refine ⟨first.clean, fun event member caught => ?_⟩
          obtain ⟨e, _, uncaught⟩ := caught
          simp [removing_tolerated (inside event member)] at uncaught
      refine ⟨?_, undeleted_grown removed.kept (by simp), (clean_next removed.clean).mpr uncaught_ok⟩
      rw [Run.next, restored_append]
      rintro (earlier | later)
      · exact removed.unrestored earlier
      · simp [Restored] at later
    rw [afterwards, ensures_bind, ensures_readLock]
    have readable : Readable h.lock ↔ ∃ found, lockOf false w'.host.lock = .ok found := by
      rw [← first.lock, readable_iff, lock]
    cases found : lockOf false w'.host.lock with
    | error e =>
      have unreadable : ¬ Readable h.lock := by simp [readable, found]
      exact imp_congr_right fun _ => iff_of_false (fun done => fresh.unrestored done.1) fun done => unreadable done.1
    | ok lock =>
      refine ensures_mono (finish_told (lock.getD []) fresh) fun x w'' told => imp_congr_right fun _ => ?_
      rw [told]
      exact (and_iff_right (readable.mpr ⟨lock, found⟩)).symm

end

/-! ### Both stops -/

/-- A stop finishes the restoration exactly where, with `--restore-only`, the lock file can be decoded and no step after
    the removal of the table raises what is not caught, and where `do_stop` deletes the lock only after `destroy_rules`
    returned. -/
theorem stops_restore (py : Interpreter) (i : Nat) (h : Host) :
    ((stopCommand py true).Ensures (perform i) (.start h) fun _ w' => Completed h w'.log) ∧
      (doStop py).Ensures (perform i) (.start h) fun _ w' => Finished h.table w'.log :=
  ⟨stopCommand_completed py i h, doStop_finished py i h⟩

/-- A host whose lock file is not UTF-8. -/
def garbled : Host := { Host.fresh with lock := .notUtf8 }

/-- The table cannot be deleted; everything else works. -/
def undeletable : List Fault :=
  [.fate .ok, .fate .ok, .fate .ok, .fate .ok, .fate .ok, .fate .ok, .fate (.exits 1), .fate .ok, .fate .ok, .fate .ok]

/-- `stop --restore-only` gives up at a lock that is not UTF-8, and `do_stop` deletes the lock without restoring the
    DNS. -/
theorem stops_unrestored :
    (∃ h x w', (stopCommand .cpython true).Ends (perform 0) (.start h) x w' ∧ Published w'.log ∧
      Destroyed h.table w'.log ∧
      ¬ Restored w'.log ∧ ¬ Deleted w'.log) ∧
      ∃ h x w', (doStop .cpython).Ends (perform 0) (.start h) x w' ∧ Deleted w'.log ∧ ¬ Restored w'.log := by
  constructor
  · have ran : ∃ w', (stopCommand .cpython true).run (perform 0) (.start garbled) (List.replicate 20 (.fate .ok)) =
        some (.error .unicodeDecodeError, w') ∧ Published w'.log ∧ Destroyed garbled.table w'.log ∧
        ¬ Restored w'.log ∧ ¬ Deleted w'.log := by
      refine ⟨_, rfl, ?_, ⟨?_, ?_, ?_⟩, ?_, ?_⟩
      · simp [Published, Took, Event.took, Run.start]
      · simp [Run.start]
      · simp [Run.start]
      · simp [garbled, Host.fresh]
      · simp [Restored, Run.start]
      · simp [Deleted, Run.start]
    obtain ⟨w', ran, facts⟩ := ran
    exact ⟨garbled, _, w', run_ends ran, facts⟩
  · have ran : ∃ w', (doStop .cpython).run (perform 0) (.start Lockdown.stopped) undeletable =
        some (.error (.firewallError "Failed to destroy nftables ruleset"), w') ∧ Deleted w'.log ∧
        ¬ Restored w'.log := by
      refine ⟨_, rfl, ?_, ?_⟩
      · simp [Deleted, Run.start]
      · simp [Restored, Run.start]
    obtain ⟨w', ran, facts⟩ := ran
    exact ⟨Lockdown.stopped, _, w', run_ends ran, facts⟩

end Ttp.Restoration
