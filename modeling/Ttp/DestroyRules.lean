import Ttp.Faults
import Ttp.Guillotine

/-!
What `destroy_rules` leaves of the filter. It flushes, deletes and lists with
separate commands, and the `filter_out` chain of a session accepts what no rule
decides: a flushed table lets everything pass, and so does a table that is gone.
-/
namespace Ttp.DestroyRules
open Ttp.Python Ttp.Nft Ttp.Program Ttp.Machine Ttp.Firewall Ttp.Faults

/-! ### What the filter accepts -/

/-- No `filter_out` chain of the table keeps the packet from leaving. -/
def Accepted (isLocal : Addr → Bool) (table : Option Table) (p : Packet) : Prop :=
  ∀ t, table = some t → ∀ c ∈ t.chains, c.name = "filter_out" → c.verdict isLocal p = .accept

/-- Whatever the second table accepts, the first accepts. -/
def Within (after before : Option Table) : Prop := ∀ isLocal p, Accepted isLocal after p → Accepted isLocal before p

theorem within_refl (table : Option Table) : Within table table := fun _ _ => id

/-- A table that is gone accepts everything. -/
theorem within_none {before : Option Table} : Within none before ↔ ∀ isLocal p, Accepted isLocal before p := by
  constructor
  · exact fun within isLocal p => within isLocal p fun t gone => by simp at gone
  · exact fun all isLocal p _ => all isLocal p

/-! ### Failing closed -/

/-- If it raised, nothing is accepted that was not before; if it returned, the table is gone. -/
def FailsClosed (before after : Option Table) (x : Except Exc Bool) : Prop :=
  (∀ e, x = .error e → Within after before) ∧ (x = .ok true → after = none)

/-- The operation took effect. -/
def Took (o : Op) (log : List Event) : Prop := ∃ event ∈ log, event.op = o ∧ event.took = true

/-- A command failed, or the listing found the table. -/
def Interrupted (before : Option Table) (log : List Event) : Prop :=
  (∃ event ∈ log, event.failed = true) ∨ (before ≠ none ∧ ⟨.nftList, .fate .ok⟩ ∈ log)

/-- A listing that failed was one of no table, and an interruption found no flush or deletion that opened the filter. -/
structure Closed (before : Option Table) (log : List Event) : Prop where
  listed : ∀ code, ⟨.nftList, .fate (.exits code)⟩ ∈ log → before = none
  flushed : Interrupted before log → Took .nftFlush log → Within (before.map Host.flushed) before
  deleted : Interrupted before log → Took .nftDelete log → Within none before

section
variable {before after : Option Table} {log : List Event}

theorem raised_closed {e : Exc} (interrupted : Interrupted before log)
    (unlisted : ∀ code, ⟨.nftList, .fate (.exits code)⟩ ∉ log)
    (deleted : Took .nftDelete log → after = none)
    (flushed : ¬ Took .nftDelete log → Took .nftFlush log → after = before.map Host.flushed)
    (kept : ¬ Took .nftDelete log → ¬ Took .nftFlush log → after = before) :
    FailsClosed before after (.error e) ↔ Closed before log := by
  constructor
  · rintro ⟨raised, _⟩
    have within := raised e rfl
    refine ⟨fun code found => absurd found (unlisted code), fun _ took => ?_, fun _ took => ?_⟩
    · by_cases gone : Took .nftDelete log
      · rw [deleted gone, within_none] at within
        exact fun isLocal p _ => within isLocal p
      · exact flushed gone took ▸ within
    · exact deleted took ▸ within
  · intro closed
    refine ⟨fun _ _ => ?_, by simp⟩
    by_cases gone : Took .nftDelete log
    · exact deleted gone ▸ closed.deleted interrupted gone
    · by_cases took : Took .nftFlush log
      · exact flushed gone took ▸ closed.flushed interrupted took
      · exact kept gone took ▸ within_refl before

theorem returned_closed (calm : ¬ Interrupted before log)
    (gone : after = none ↔ ∀ code, ⟨.nftList, .fate (.exits code)⟩ ∈ log → before = none) :
    FailsClosed before after (.ok true) ↔ Closed before log := by
  constructor
  · rintro ⟨_, returned⟩
    exact ⟨gone.mp (returned rfl), fun interrupted => absurd interrupted calm, fun interrupted =>
      absurd interrupted calm⟩
  · intro closed
    exact ⟨by simp, fun _ => gone.mpr closed.listed⟩

end

/-! ### The commands -/

section
variable {i : Nat} {w : Run}

attribute [local simp] Host.outcome lateResult Except.bind

theorem ensures_flush {Q : Except Exc Unit → Run → Prop} : (checked (step .nftFlush)).Ensures (perform i) w Q ↔
    Q (.ok ()) (w.next i .nftFlush true (.fate .ok)) ∧
      (∀ code, Q (.ok ()) (w.next i .nftFlush false (.fate (.exits code)))) ∧
      (∀ e, Q (.error e) (w.next i .nftFlush false (.fate (.fails e)))) ∧
        ∀ e, Q (.error e) (w.next i .nftFlush true (.late e)) := by
  rw [ensures_checked, ensures_outcomes, forall_fate]
  simp only [Host.outcome, lateResult, Option.some.injEq, Prod.mk.injEq, and_imp, reduceCtorEq,
    false_implies, implies_true, and_true, forall_eq', forall_apply_eq_imp_iff, Except.bind, id_eq]
  constructor
  · rintro ⟨⟨ok, fails, exits⟩, late⟩
    exact ⟨ok, exits, fails, late⟩
  · rintro ⟨ok, exits, fails, late⟩
    exact ⟨⟨ok, fails, exits⟩, late⟩

theorem ensures_delete {Q : Except Exc Bool → Run → Prop} : (checked (step .nftDelete)).Ensures (perform i) w Q ↔
    Q (.ok w.host.table.isSome) (w.next i .nftDelete true (.fate .ok)) ∧
      (∀ code, Q (.ok false) (w.next i .nftDelete false (.fate (.exits code)))) ∧
        (∀ e, Q (.error e) (w.next i .nftDelete false (.fate (.fails e)))) ∧
          ∀ e, Q (.error e) (w.next i .nftDelete true (.late e)) := by
  rw [ensures_checked, ensures_outcomes, forall_fate]
  simp only [Host.outcome, lateResult, Option.some.injEq, Prod.mk.injEq, and_imp, reduceCtorEq,
    false_implies, implies_true, and_true, forall_eq', forall_apply_eq_imp_iff, Except.bind, id_eq]
  constructor
  · rintro ⟨⟨ok, fails, exits⟩, late⟩
    exact ⟨ok, exits, fails, late⟩
  · rintro ⟨ok, exits, fails, late⟩
    exact ⟨⟨ok, fails, exits⟩, late⟩

theorem ensures_list {Q : Except Exc Bool → Run → Prop} : (checked (step .nftList)).Ensures (perform i) w Q ↔
    Q (.ok w.host.table.isSome) (w.next i .nftList true (.fate .ok)) ∧
      (∀ code, Q (.ok false) (w.next i .nftList false (.fate (.exits code)))) ∧
        ∀ e, Q (.error e) (w.next i .nftList false (.fate (.fails e))) := by
  rw [ensures_checked, ensures_outcomes, forall_fate]
  simp only [Host.outcome, lateResult, Option.some.injEq, Prod.mk.injEq, and_imp, reduceCtorEq,
    false_implies, implies_true, and_true, forall_eq', forall_apply_eq_imp_iff, Except.bind, id_eq]
  constructor
  · rintro ⟨ok, fails, exits⟩
    exact ⟨ok, exits, fails⟩
  · rintro ⟨ok, exits, fails⟩
    exact ⟨ok, fails, exits⟩

end

/-- The part after the flush, which took effect or was refused. -/
theorem afterFlush (i : Nat) {before : Option Table} {w : Run} {fault : Fault} (log : w.log = [⟨.nftFlush, fault⟩])
    (answered : fault = .fate .ok ∧ w.host.table = before.map Host.flushed ∨ (∃ code, fault = .fate (.exits code)) ∧
      w.host.table = before) :
    (do
      let deleted ← checked (step .nftDelete)
      checked (step (.external "unlink ttp.rules"))
      if deleted then pure true
      else
        let present ← checked (step .nftList)
        if present then .raise (.firewallError "Failed to destroy nftables ruleset") else pure true : Py Bool).Ensures
          (perform i) w
      fun x w' => FailsClosed before w'.host.table x ↔ Closed before w'.log := by
  have flushing : Took .nftFlush w.log → w.host.table = before.map Host.flushed := by
    rcases answered with ⟨_, table⟩ | ⟨⟨code, rfl⟩, _⟩
    · exact fun _ => table
    · simp [Took, log, Event.took]
  have keeping : ¬ Took .nftFlush w.log → w.host.table = before := by
    rcases answered with ⟨rfl, _⟩ | ⟨_, table⟩
    · simp [Took, log, Event.took]
    · exact fun _ => table
  have calm : fault = .fate .ok ∨ ∃ code, fault = .fate (.exits code) := answered.imp And.left And.left
  have same : w.host.table.isSome = before.isSome := by
    rcases answered with ⟨_, table⟩ | ⟨_, table⟩ <;> simp [table]
  rw [ensures_bind, ensures_delete]
  refine ⟨?_, fun code => ?_, fun e => ?_, fun e => ?_⟩
  · rw [afterwards, ensures_bind, ensures_external]
    refine ⟨?_, fun e => ?_⟩
    · rw [afterwards, same]
      cases before with
      | some t =>
        refine returned_closed ?_ ?_
        · rcases calm with rfl | ⟨_, rfl⟩ <;> simp [Interrupted, Run.next, log, Event.failed]
        · simp [Run.next, log, Host.effect]
      | none =>
        -- there was no table to delete, and the listing says so
        rw [if_neg (by simp), ensures_bind, ensures_list]
        refine ⟨?_, fun code => ?_, fun e => ?_⟩
        · refine returned_closed ?_ ?_
          · rcases calm with rfl | ⟨_, rfl⟩ <;> simp [Interrupted, Run.next, log, Event.failed]
          · simp [Run.next, log, Host.effect]
        · refine returned_closed ?_ ?_
          · rcases calm with rfl | ⟨_, rfl⟩ <;> simp [Interrupted, Run.next, log, Event.failed]
          · simp [Run.next, log, Host.effect]
        · refine raised_closed (Or.inl ?_) ?_ ?_ ?_ ?_
          all_goals simp_all [Run.next, Took, Event.took, Event.failed, Host.effect]
    · refine raised_closed (Or.inl ?_) ?_ ?_ ?_ ?_
      all_goals simp_all [Run.next, Took, Event.took, Event.failed, Host.effect]
  · rw [afterwards, ensures_bind, ensures_external]
    refine ⟨?_, fun e => ?_⟩
    · rw [afterwards, if_neg (by simp), ensures_bind, ensures_list]
      refine ⟨?_, fun code => ?_, fun e => ?_⟩
      · rw [afterwards]
        have there : (((w.next i .nftDelete false (.fate (.exits code))).next i (.external "unlink ttp.rules") true
          (.fate .ok)).host.table).isSome = before.isSome := same
        rw [there]
        cases before with
        | none =>
          refine returned_closed ?_ ?_
          · rcases calm with rfl | ⟨_, rfl⟩ <;> simp [Interrupted, Run.next, log, Event.failed]
          · simpa [Run.next, log, Host.effect] using same
        | some t =>
          refine raised_closed (Or.inr ?_) ?_ ?_ ?_ ?_
          all_goals simp_all [Run.next, Took, Event.took, Host.effect]
      · refine returned_closed ?_ ?_
        · rcases calm with rfl | ⟨_, rfl⟩ <;> simp [Interrupted, Run.next, log, Event.failed]
        · have gone : w.host.table = none ↔ before = none := by
            rcases answered with ⟨_, table⟩ | ⟨_, table⟩ <;> simp [table]
          simpa [Run.next, log, Host.effect] using gone
      · refine raised_closed (Or.inl ?_) ?_ ?_ ?_ ?_
        all_goals simp_all [Run.next, Took, Event.took, Event.failed, Host.effect]
    · refine raised_closed (Or.inl ?_) ?_ ?_ ?_ ?_
      all_goals simp_all [Run.next, Took, Event.took, Event.failed, Host.effect]
  · refine raised_closed (Or.inl ?_) ?_ ?_ ?_ ?_
    all_goals simp_all [Run.next, Took, Event.took, Event.failed, Host.effect]
  · refine raised_closed (Or.inl ?_) ?_ ?_ ?_ ?_
    all_goals simp_all [Run.next, Took, Event.took, Event.failed, Host.effect]

/-- `destroy_rules` fails closed exactly where no interruption comes after a flush or a deletion that opened
    the filter, and no listing fails for another reason than that the table is gone. -/
theorem destroyRules_closed (i : Nat) (h : Host) :
    destroyRules.Ensures (perform i) (.start h) fun x w' =>
      FailsClosed h.table w'.host.table x ↔ Closed h.table w'.log := by
  rw [destroyRules, ensures_bind, ensures_flush]
  refine ⟨?_, fun code => ?_, fun e => ?_, fun e => ?_⟩
  · exact afterFlush i rfl (Or.inl ⟨rfl, rfl⟩)
  · exact afterFlush i rfl (Or.inr ⟨⟨code, rfl⟩, rfl⟩)
  · refine raised_closed (Or.inl ?_) ?_ ?_ ?_ ?_
    all_goals simp [Run.next, Run.start, Event.failed, Took, Event.took]
  · refine raised_closed (Or.inl ?_) ?_ ?_ ?_ ?_
    all_goals simp [Run.next, Run.start, Event.failed, Took, Event.took, Host.effect]

/-! ### The table of a session -/

/-- A datagram that no session of any configuration lets out. -/
def datagram : Packet := ⟨ip4 1 1 1 1, .udp, 4500, none, none, [], "", "eth0", none⟩

theorem session_blocks (c : Builder.Config) : ¬ Accepted (fun _ => false) (some (Builder.buildRuleset c)) datagram := by
  intro accepted
  have verdict := accepted _ rfl (Builder.filterOut c) (by simp [Builder.buildRuleset]) rfl
  have stranger : ¬ Guillotine.Exempt c datagram := by simp [Guillotine.Exempt, Guillotine.Bypassed, datagram]
  obtain ⟨stays, _⟩ := (Guillotine.filterOut_fails_closed c (fun _ => false) datagram).1 stranger verdict
  have away : Builder.loopbackNet.contains datagram.daddr = false ∧ datagram.daddr ≠ Builder.localhost6 ∧
      Builder.lanNets.any (·.contains datagram.daddr) = false ∧
      Builder.lan6Nets.any (·.contains datagram.daddr) = false := by decide
  simp [Guillotine.InLan, away] at stays

/-- Flushed, the table of a session accepts everything. -/
theorem session_flushed (c : Builder.Config) (isLocal : Addr → Bool) (p : Packet) :
    Accepted isLocal ((some (Builder.buildRuleset c)).map Host.flushed) p := by
  rintro t flushed chain member named
  obtain rfl := Option.some.inj flushed
  simp only [Host.flushed, Builder.buildRuleset, List.map_cons, List.map_nil, List.mem_cons, List.not_mem_nil,
    or_false] at member
  rcases member with rfl | rfl | rfl | rfl
  · simp [Builder.prerouting] at named
  · simp [Builder.output] at named
  · rfl
  · simp [Builder.filterForward] at named

/-- On the table of a session an interruption fails closed only before anything took effect. -/
theorem session_closed (c : Builder.Config) (log : List Event) : Closed (some (Builder.buildRuleset c)) log ↔
    (∀ code, ⟨.nftList, .fate (.exits code)⟩ ∉ log) ∧
      (Interrupted (some (Builder.buildRuleset c)) log → ¬ Took .nftFlush log ∧ ¬ Took .nftDelete log) := by
  constructor
  · intro closed
    refine ⟨fun code listed => by simpa using closed.listed code listed, fun interrupted => ⟨fun took => ?_, fun took => ?_⟩⟩
    · exact session_blocks c (closed.flushed interrupted took _ _ (session_flushed c _ _))
    · exact session_blocks c (within_none.mp (closed.deleted interrupted took) _ _)
  · rintro ⟨unlisted, untouched⟩
    exact ⟨fun code listed => absurd listed (unlisted code), fun interrupted took =>
      absurd took (untouched interrupted).1,
      fun interrupted took => absurd took (untouched interrupted).2⟩

/-! ### Two runs -/

/-- A host with the table of a session. -/
def blocking : Host :=
  { Host.fresh with table := some (Builder.buildRuleset ⟨107, 9041, 9054, true, false, true, none, none, none, false⟩) }

/-- The flush works, the deletion does not. -/
def undeleted : List Fault := [.fate .ok, .fate (.exits 1), .fate .ok, .fate .ok]

/-- Neither works, and the listing fails too. -/
def unlisted : List Fault := [.fate (.exits 1), .fate (.exits 1), .fate .ok, .fate (.exits 1)]

theorem undeleted_ran : ∃ w' e, destroyRules.Ends (perform 0) (.start blocking) (.error e) w' ∧
    w'.host.table = blocking.table.map Host.flushed := by
  have ran : ∃ w', destroyRules.run (perform 0) (.start blocking) undeleted =
      some (.error (.firewallError "Failed to destroy nftables ruleset"), w') ∧
      w'.host.table = blocking.table.map Host.flushed := ⟨_, rfl, rfl⟩
  obtain ⟨w', ran, table⟩ := ran
  exact ⟨w', _, run_ends ran, table⟩

theorem unlisted_ran : ∃ w', destroyRules.Ends (perform 0) (.start blocking) (.ok true) w' ∧
    w'.host.table = blocking.table := by
  have ran : ∃ w', destroyRules.run (perform 0) (.start blocking) unlisted = some (.ok true, w') ∧
      w'.host.table = blocking.table := ⟨_, rfl, rfl⟩
  obtain ⟨w', ran, table⟩ := ran
  exact ⟨w', run_ends ran, table⟩

/-- `destroy_rules` can raise after it opened the filter, and return with the table still there. -/
theorem destroyRules_opens :
    (∃ h w' e, destroyRules.Ends (perform 0) (.start h) (.error e) w' ∧ ¬ Within w'.host.table h.table) ∧
      ∃ h w', destroyRules.Ends (perform 0) (.start h) (.ok true) w' ∧ w'.host.table ≠ none := by
  constructor
  · obtain ⟨w', e, ended, table⟩ := undeleted_ran
    refine ⟨blocking, w', e, ended, fun within => ?_⟩
    rw [table] at within
    exact session_blocks _ (within _ _ (session_flushed _ (fun _ => false) datagram))
  · obtain ⟨w', ended, table⟩ := unlisted_ran
    exact ⟨blocking, w', ended, by simp [table, blocking]⟩

end Ttp.DestroyRules
