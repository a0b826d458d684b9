import Ttp.Faults
import Ttp.Start

/-!
What a `start_command` leaves behind that exits because `apply_rules`,
`apply_dns` or `write_lock` failed. Its rollback undoes what it set up, but for
the SELinux port labels, a lock that was replaced before `write_lock` failed and
an overlay whose mount raised after it took effect.
-/
namespace Ttp.Rollback
open Ttp.Python Ttp.Program Ttp.Machine Ttp.State Ttp.Firewall Ttp.Lifecycle Ttp.Start Ttp.Faults
open Ttp.SessionSettings (Settings)

/-! ### Port labels -/

/-- A port by its number and its protocol. -/
abbrev Port : Type := Nat × String

/-- The `semanage` of the host, by the commands of it that succeed. -/
structure Semanage where
  add : Port → Bool
  modify : Port → Bool
  delete : Port → Bool

/-- The ports of a session. -/
def sessionPorts (transportPort dnsPort : Nat) : List Port := [(transportPort, "tcp"), (dnsPort, "udp")]

/-- `label_ports_selinux`, on the ports that are labelled; a mapping that cannot be added is modified. -/
def labelPortsSelinux (semanage : Option Semanage) (transportPort dnsPort : Nat) (labels : List Port) : List Port :=
  match semanage with
  | none => labels
  | some s =>
    (sessionPorts transportPort dnsPort).foldl
      (fun labels port => if s.add port || s.modify port then port :: labels else labels) labels

/-- `unlabel_ports_selinux`. -/
def unlabelPortsSelinux (semanage : Option Semanage) (transportPort dnsPort : Nat) (labels : List Port) : List Port :=
  match semanage with
  | none => labels
  | some s =>
    (sessionPorts transportPort dnsPort).foldl
      (fun labels port => if s.delete port then labels.filter (· != port) else labels) labels

/-- What an operation does to the labels: `start_tor_service` adds those of its ports. -/
def relabel (semanage : Option Semanage) (c : Builder.Config) (labels : List Port) (event : Event) : List Port :=
  if event.took then
    match event.op with
    | .startTor => labelPortsSelinux semanage c.transportPort c.dnsPort labels
    | .external what => if what = "unlabel the ports" then unlabelPortsSelinux semanage c.transportPort c.dnsPort
        labels else labels
    | _ => labels
  else labels

/-- The ports that are labelled after a run. -/
def labelled (semanage : Option Semanage) (c : Builder.Config) (labels : List Port) (log : List Event) : List Port :=
  log.foldl (relabel semanage c) labels

/-- What an operation does to the unit file of Tor: `start_tor_service` writes it, `stop_tor_service` unlinks it. -/
def linkUnit (there : Bool) (event : Event) : Bool :=
  if event.took then
    match event.op with
    | .startTor => true
    | .external what => if what = "unlink ttp-tor.service" then false else there
    | _ => there
  else there

/-- Whether the unit file is there after a run. -/
def unitFile (log : List Event) : Bool := log.foldl linkUnit false

/-! ### What a start creates -/

inductive Part where
  | table
  | overlay
  | dropIn
  | tor
  | lock

def Part.there : Part → Host → Prop
  | .table, h => h.table ≠ none
  | .overlay, h => h.overlay = true
  | .dropIn, h => h.dropIn = true
  | .tor, h => h.tor = true
  | .lock, h => h.lock ≠ .missing

def Part.createdBy : Part → Op → Bool
  | .table, .nftTransaction .. => true
  | .overlay, .mountOverlay => true
  | .dropIn, .writeDropIn => true
  | .tor, .startTor => true
  | .tor, .heal => true
  | .lock, .replaceLock _ => true
  | _, _ => false

def Created (part : Part) (log : List Event) : Prop := ∃ event ∈ log, event.took = true ∧ part.createdBy event.op = true

/-- What was created of the part is gone. -/
def Cleared (part : Part) (w : Run) : Prop := Created part w.log → ¬ part.there w.host

/-- Nothing remains of what a start created, with these ports labelled before it. -/
structure Undone (semanage : Option Semanage) (c : Builder.Config) (labels : List Port) (w : Run) : Prop where
  parts : ∀ part, Cleared part w
  unit : unitFile w.log = false
  labels : ∀ port ∈ labelled semanage c labels w.log, port ∈ labels

/-! ### How a start fails -/

/-- `apply_rules` begins with a look at the user of Tor. -/
def isRules : Op → Bool
  | .external what => what == "pwd.getpwnam"
  | _ => false

/-- `start_command` reads the lock back once `write_lock` is done. -/
def isRead : Op → Bool
  | .readLock => true
  | _ => false

/-- The run from `apply_rules` on. -/
def fromRules (log : List Event) : List Event := log.dropWhile fun event => !isRules event.op

/-- A step from `apply_rules` to `write_lock` failed. -/
def Failed (log : List Event) : Prop := fromRules log ≠ [] ∧ ∀ event ∈ fromRules log, isRead event.op = false

/-- No call below `start_command` raises `typer.Exit`. -/
def Ordinary (log : List Event) : Prop :=
  ∀ event ∈ log, ∀ code, event.fault ≠ .fate (.fails (.exit code)) ∧ event.fault ≠ .late (.exit code)

/-- The commands of the cleanup. -/
def cleaning : Op → Bool
  | .nftFlush | .nftDelete | .nftList | .stopTor | .removeDropIn => true
  | .external what => ["unlink ttp-tor.service", "systemctl daemon-reload", "unlink ttp.rules",
      "unlink resolv.conf"].contains what
  | _ => false

/-- The cleanup succeeds, and with it the unmounting of the overlay that was mounted. -/
structure Cleaned (log : List Event) : Prop where
  commands : ∀ event ∈ log, cleaning event.op = true → event.fault = .fate .ok
  unmount : log.Pairwise fun earlier later =>
    earlier.op = .mountOverlay → earlier.took = true → later.op = .unmountOverlay → later.fault = .fate .ok

/-- A step from `apply_rules` to `write_lock` failed, and the cleanup succeeded. -/
structure RolledBack (log : List Event) : Prop where
  failed : Failed log
  ordinary : Ordinary (fromRules log)
  cleaned : Cleaned (fromRules log)

/-- The mount raised after it took effect. -/
def LateMount (log : List Event) : Prop := ∃ event ∈ log, event.op = .mountOverlay ∧ ∃ e, event.fault = .late e

/-- No port is newly labelled, the mount does not raise once it took effect, and `write_lock` does not fail once the
    lock is replaced. -/
structure Avoids (semanage : Option Semanage) (a : StartArgs) (labels : List Port) (log : List Event) : Prop where
  labels : a.externalDaemon = true ∨ ∀ port ∈ labelPortsSelinux semanage a.rules.transportPort a.rules.dnsPort labels,
    port ∈ labels
  mount : ¬ LateMount log
  lock : ¬ Created .lock log

/-! ### Runs whose cleanup succeeds -/

def Good (w : Run) : Prop := Ordinary w.log ∧ Cleaned w.log

section
variable {i : Nat} {w w' : Run} {o : Op} {took : Bool} {fault : Fault} {log more : List Event}

theorem good_hereditary : Hereditary (perform i) Good := by
  rintro w o fault r w' performed ⟨ordinary, cleaned⟩
  obtain ⟨took, rfl, _⟩ := perform_next performed
  exact ⟨fun event member => ordinary event (List.mem_append_left _ member),
    fun event member => cleaned.commands event (List.mem_append_left _ member),
    (List.pairwise_append.mp cleaned.unmount).1⟩

theorem good_cleaning (good : Good (w.next i o took fault)) (cleans : cleaning o = true) : fault = .fate .ok :=
  good.2.commands ⟨o, fault⟩ (List.mem_append_right _ (List.mem_singleton_self _)) cleans

/-- The program ends in `Q` where its run is good. -/
abbrev Told {α : Type} (i : Nat) (p : Py α) (w : Run) (Q : Except Exc α → Run → Prop) : Prop :=
  p.Assuming (perform i) Good w Q

theorem created_append {part : Part} : Created part (log ++ more) ↔ Created part log ∨ Created part more := by
  simp [Created, or_and_right, exists_or]

theorem lateMount_append : LateMount (log ++ more) ↔ LateMount log ∨ LateMount more := by
  simp [LateMount, or_and_right, exists_or]

/-- What does not create a part leaves none. -/
theorem there_effect {part : Part} {h : Host} (other : part.createdBy o = false) (there : part.there (h.effect i o)) :
    part.there h := by
  cases part with
  | table =>
    cases o with
    | nftTransaction => cases other
    | nftInsert chain rule => exact fun absent => there (by simp [Host.effect, absent])
    | nftFlush => exact fun absent => there (by simp [Host.effect, absent])
    | nftDelete => exact absurd rfl there
    | release =>
      simp only [Host.effect] at there
      split at there <;> exact there
    | _ => exact there
  | overlay =>
    cases o with
    | mountOverlay => cases other
    | unmountOverlay => cases there
    | release =>
      simp only [Host.effect] at there
      split at there <;> exact there
    | _ => exact there
  | dropIn =>
    cases o with
    | writeDropIn => cases other
    | removeDropIn => cases there
    | release =>
      simp only [Host.effect] at there
      split at there <;> exact there
    | _ => exact there
  | tor =>
    cases o with
    | startTor => cases other
    | heal => cases other
    | stopTor => cases there
    | release =>
      simp only [Host.effect] at there
      split at there <;> exact there
    | _ => exact there
  | lock =>
    cases o with
    | replaceLock => cases other
    | unlinkLock => exact absurd rfl there
    | release =>
      simp only [Host.effect] at there
      split at there <;> exact there
    | _ => exact there

theorem there_next {part : Part} (other : part.createdBy o = false)
    (there : part.there (w.next i o took fault).host) : part.there w.host := by
  cases took with
  | false => exact there
  | true => exact there_effect other there

theorem created_next {part : Part} (other : part.createdBy o = false)
    (created : Created part (w.next i o took fault).log) :
    Created part w.log := by
  rcases created_append.mp created with earlier | ⟨event, member, _, creates⟩
  · exact earlier
  · obtain rfl := List.mem_singleton.mp member
    rw [other] at creates
    cases creates

section
variable {α : Type} {p : Py α}

/-- A part that is absent stays so in a program that does not create it. -/
theorem absent_uses (part : Part) (used : p.Uses fun o => part.createdBy o = false) :
    p.Preserves (perform i) fun w => ¬ part.there w.host := by
  refine preserves_of_uses used fun w o fault r w' other performed absent => ?_
  obtain ⟨took, rfl, _⟩ := perform_next performed
  exact mt (there_next other) absent

theorem cleared_uses (part : Part) (used : p.Uses fun o => part.createdBy o = false) :
    p.Preserves (perform i) (Cleared part) := by
  refine preserves_of_uses used fun w o fault r w' other performed cleared => ?_
  obtain ⟨took, rfl, _⟩ := perform_next performed
  exact fun created there => cleared (created_next other created) (there_next other there)

theorem uncreated_uses (part : Part) (used : p.Uses fun o => part.createdBy o = false) :
    p.Preserves (perform i) fun w => ¬ Created part w.log := by
  refine preserves_of_uses used fun w o fault r w' other performed uncreated => ?_
  obtain ⟨took, rfl, _⟩ := perform_next performed
  exact mt (created_next other) uncreated

end

/-! ### Operations -/

section
variable {Q : Except Exc Unit → Run → Prop}

theorem told_checked {α : Type} {p : Py (Except Exc α)} {Q : Except Exc α → Run → Prop}
    (first : Told i p w fun x w' => Q (x.bind id) w') : Told i (checked p) w Q := by
  rw [Told, Prog.Assuming, ensures_checked]
  exact first

/-- A command of the cleanup works. -/
theorem told_cleaning {o : Op} {Q : Except Exc o.Res → Run → Prop} (cleans : cleaning o = true)
    (works : ∀ r took, w.host.outcome o .ok = some (r, took) → Q (.ok r) (w.next i o took (.fate .ok))) :
    Told i (step o) w Q := by
  rw [Told, Prog.Assuming, ensures_outcomes]
  constructor
  · intro fate r took outcome good
    obtain rfl : fate = .ok := by simpa using good_cleaning good cleans
    exact works r took outcome
  · intro e r _ good
    exact absurd (good_cleaning good cleans) (by simp)

theorem told_attempted {p : Py Unit} (attempts : ∀ Q, p.Ensures (perform i) w Q ↔ Attempted i w o Q)
    (works : Good (w.next i o true (.fate .ok)) → Q (.ok ()) (w.next i o true (.fate .ok)))
    (fails : ∀ e, Good (w.next i o false (.fate (.fails e))) → Q (.error e) (w.next i o false (.fate (.fails e))))
    (late : ∀ e, Good (w.next i o true (.late e)) → Q (.error e) (w.next i o true (.late e))) : Told i p w Q := by
  rw [Told, Prog.Assuming, attempts]
  exact ⟨works, fails, late⟩

theorem told_tried {p : Py Unit} (tries : ∀ Q, p.Ensures (perform i) w Q ↔ Tried i w o Q)
    (works : Good (w.next i o true (.fate .ok)) → Q (.ok ()) (w.next i o true (.fate .ok)))
    (fails : ∀ e, Good (w.next i o false (.fate (.fails e))) → Q (.error e) (w.next i o false (.fate (.fails e)))) :
    Told i p w Q := by
  rw [Told, Prog.Assuming, tries]
  exact ⟨works, fails⟩

end

/-! ### Exceptions -/

/-- The program does not exit by itself. -/
def Sober {α : Type} (i : Nat) (p : Py α) : Prop := ∀ w, Told i p w fun x _ => ∀ code, x ≠ .error (.exit code)

theorem ordinary_next {e : Exc} (good : Good (w.next i o took fault))
    (raised : fault = .fate (.fails e) ∨ fault = .late e) (code : Nat) :
    e ≠ .exit code := by
  rintro rfl
  obtain ⟨fails, late⟩ := good.1 ⟨o, fault⟩ (List.mem_append_right _ (List.mem_singleton_self _)) code
  rcases raised with rfl | rfl
  · exact fails rfl
  · exact late rfl

section
variable {α β : Type}

theorem sober_pure (a : α) : Sober i (pure a : Py α) := fun _ _ _ => by simp

theorem sober_raise {e : Exc} (other : ∀ code, e ≠ .exit code) : Sober i (.raise e : Py α) := fun _ _ code => by
  simpa using other code

theorem sober_bind {p : Py α} {f : α → Py β} (first : Sober i p) (rest : ∀ a, Sober i (f a)) : Sober i (p >>= f) :=
  fun w => assuming_bind good_hereditary (first w) (fun a w' _ => rest a w') fun e w' other code => by
    simpa using other code

theorem sober_catch {c : Exc → Prop} [DecidablePred c] {p : Py α} {q : Exc → Py α} (body : Sober i p)
    (handler : ∀ e, Sober i (q e)) :
    Sober i (p.handle fun e => if c e then some (q e) else none) :=
  fun w => assuming_catch good_hereditary (body w) (fun a w' _ => by simp) (fun e w' _ _ => handler e w')
    fun e w' other _ => other

theorem sober_onlyIf {c : Bool} {p : Py Unit} (body : Sober i p) : Sober i (onlyIf c p) := by
  cases c
  · exact sober_pure ()
  · exact body

theorem sober_logged {p : Py Unit} (body : Sober i p) : Sober i (logged p) := sober_catch body fun _ => sober_pure ()

theorem sober_attempted {p : Py Unit} (attempts : ∀ w Q, p.Ensures (perform i) w Q ↔ Attempted i w o Q) : Sober i p :=
  fun w => told_attempted (attempts w) (fun _ => by simp)
    (fun e good code => by simpa using ordinary_next good (Or.inl rfl) code)
    fun e good code => by simpa using ordinary_next good (Or.inr rfl) code

theorem sober_tried {p : Py Unit} (tries : ∀ w Q, p.Ensures (perform i) w Q ↔ Tried i w o Q) : Sober i p :=
  fun w => told_tried (tries w) (fun _ => by simp) fun e good code => by
    simpa using ordinary_next good (Or.inl rfl) code

theorem sober_external {what : String} : Sober i (checked (step (.external what))) :=
  sober_tried fun _ _ => ensures_external

end

/-! ### The cleanup -/

/-- A first part that works. -/
theorem told_works {α β : Type} {p : Py α} {f : α → Py β} {R : α → Run → Prop} {Q : Except Exc β → Run → Prop}
    (first : Told i p w fun x w' => ∃ a, x = .ok a ∧ R a w') (rest : ∀ a w', R a w' → Told i (f a) w' Q) :
    Told i (p >>= f) w Q := by
  refine assuming_bind good_hereditary first ?_ ?_
  · rintro a w' ⟨_, same, reached⟩
    obtain rfl := Except.ok.inj same
    exact rest a w' reached
  · rintro e w' ⟨_, raised, _⟩
    cases raised

/-- A command of the cleanup that comes back with nothing. -/
theorem told_removal {what : String} (cleans : cleaning (.external what) = true) :
    Told i (checked (step (.external what))) w fun x w' =>
      ∃ u, x = .ok u ∧ w' = w.next i (.external what) true (.fate .ok) := by
  refine told_checked (told_cleaning cleans fun r took outcome => ?_)
  obtain ⟨rfl, rfl⟩ := Prod.mk.inj (Option.some.inj outcome)
  exact ⟨(), rfl, rfl⟩

theorem destroyRules_told : Told i destroyRules w fun x w' => ∃ b, x = .ok b ∧ w'.host.table = none := by
  refine told_works (R := fun _ _ => True) (told_checked (told_cleaning rfl fun r took outcome => ?_)) fun _ w _ => ?_
  · obtain ⟨rfl, _⟩ := Prod.mk.inj (Option.some.inj outcome)
    exact ⟨(), rfl, trivial⟩
  refine told_works (R := fun _ w' => w'.host.table = none)
    (told_checked (told_cleaning rfl fun r took outcome => ?_)) fun deleted w gone => ?_
  · obtain ⟨rfl, rfl⟩ := Prod.mk.inj (Option.some.inj outcome)
    exact ⟨_, rfl, rfl⟩
  refine told_works (told_removal (by decide)) ?_
  rintro _ _ rfl
  cases deleted with
  | true => exact fun _ => ⟨_, rfl, gone⟩
  | false =>
    refine told_works (R := fun present w' => present = false ∧ w'.host.table = none)
      (told_checked (told_cleaning rfl ?_)) ?_
    · intro r took outcome
      obtain ⟨rfl, rfl⟩ := Prod.mk.inj (Option.some.inj outcome)
      exact ⟨_, rfl, by simp [Run.next, Host.effect, gone], gone⟩
    · rintro present w ⟨rfl, gone⟩
      exact fun _ => ⟨_, rfl, gone⟩

/-- The unit file was unlinked. -/
def Unlinked (log : List Event) : Prop :=
  ∃ event ∈ log, event.took = true ∧ event.op = .external "unlink ttp-tor.service"

/-- The session's own service is stopped, and its unit file unlinked. -/
def Stopped (externalDaemon : Bool) (w : Run) : Prop := externalDaemon = false → w.host.tor = false ∧ Unlinked w.log

/-- The table and the session's own service are gone. -/
structure Rolled (externalDaemon : Bool) (w : Run) : Prop where
  table : w.host.table = none
  tor : Stopped externalDaemon w

theorem stopped_uses {α : Type} (externalDaemon : Bool) {p : Py α}
    (used : p.Uses fun o => Part.tor.createdBy o = false) :
    p.Preserves (perform i) (Stopped externalDaemon) := by
  refine preserves_of_uses used fun w o fault r w' other performed stopped own => ?_
  obtain ⟨took, rfl, _⟩ := perform_next performed
  obtain ⟨down, event, member, unlinked⟩ := stopped own
  have absent : ¬ Part.tor.there w.host := by simp [Part.there, down]
  have gone : ¬ Part.tor.there (w.next i o took fault).host := mt (there_next other) absent
  exact ⟨by simpa [Part.there] using gone, event, List.mem_append_left _ member, unlinked⟩

theorem stopTorService_told : Told i stopTorService w fun x w' =>
    ∃ u, x = .ok u ∧ w'.host.tor = false ∧ Unlinked w'.log := by
  refine told_works (R := fun _ w' => w'.host.tor = false) (told_checked (told_cleaning rfl fun r took outcome => ?_))
    fun _ w stopped => ?_
  · obtain ⟨rfl, rfl⟩ := Prod.mk.inj (Option.some.inj outcome)
    exact ⟨(), rfl, rfl⟩
  refine told_works (told_removal (by decide)) ?_
  rintro _ _ rfl
  refine assuming_mono (told_removal (by decide)) ?_
  rintro x _ ⟨u, rfl, rfl⟩
  refine ⟨u, rfl, stopped, ⟨.external "unlink ttp-tor.service", .fate .ok⟩, ?_, rfl, rfl⟩
  exact List.mem_append_left _ (List.mem_append_right _ (List.mem_singleton_self _))

/-- The operations of a rollback. -/
def undoing : Op → Bool
  | .nftFlush | .nftDelete | .nftList | .stopTor | .removeDropIn => true
  | .external what => what != "pwd.getpwnam" && what != "unlabel the ports"
  | _ => false

theorem undoing_creates (undoes : undoing o = true) (part : Part) : part.createdBy o = false := by
  cases o <;> simp [undoing] at undoes <;> cases part <;> rfl

theorem external_undoing {what : String} (other : undoing (.external what) = true) :
    (checked (step (.external what))).Uses fun o => undoing o = true := external_uses other

theorem destroyRules_undoing : destroyRules.Uses fun o => undoing o = true := by
  refine uses_bind (checked_uses ⟨rfl, fun _ => trivial⟩) fun _ => ?_
  refine uses_bind (checked_uses ⟨rfl, fun _ => trivial⟩) fun deleted => ?_
  refine uses_bind (external_undoing (by decide)) fun _ => ?_
  split
  · trivial
  · refine uses_bind (checked_uses ⟨rfl, fun _ => trivial⟩) fun present => ?_
    split <;> trivial

theorem stopTorService_undoing : stopTorService.Uses fun o => undoing o = true := by
  refine uses_bind (checked_uses ⟨rfl, fun _ => trivial⟩) fun _ => ?_
  exact uses_bind (external_undoing (by decide)) fun _ => external_undoing (by decide)

theorem rollBack_undoing {externalDaemon : Bool} : (rollBack externalDaemon).Uses fun o => undoing o = true :=
  uses_bind (onlyIf_uses stopTorService_undoing) fun _ => uses_bind destroyRules_undoing fun _ => trivial

theorem undoing_uses {α : Type} {p : Py α} (used : p.Uses fun o => undoing o = true) (part : Part) :
    p.Uses fun o => part.createdBy o = false := uses_mono used fun _ undoes => undoing_creates undoes part

theorem rolled_uses {α : Type} (externalDaemon : Bool) {p : Py α}
    (used : ∀ part : Part, p.Uses fun o => part.createdBy o = false) :
    p.Preserves (perform i) (Rolled externalDaemon) := by
  intro w rolled
  have absent : ¬ Part.table.there w.host := by simp [Part.there, rolled.table]
  refine ensures_mono (ensures_both (absent_uses .table (used .table) w absent)
    (stopped_uses externalDaemon (used .tor) w rolled.tor)) fun x w' kept => ?_
  exact ⟨by simpa [Part.there] using kept.1, kept.2⟩

theorem rollBack_told {externalDaemon : Bool} :
    Told i (rollBack externalDaemon) w fun x w' => ∃ u, x = .ok u ∧ Rolled externalDaemon w' := by
  refine told_works (R := fun _ w' => Stopped externalDaemon w') ?_ fun _ w stopped => ?_
  · cases externalDaemon with
    | true => exact fun _ => ⟨(), rfl, fun own => by cases own⟩
    | false =>
      refine assuming_mono stopTorService_told ?_
      rintro x w' ⟨u, rfl, stopped⟩
      exact ⟨u, rfl, fun _ => stopped⟩
  · refine told_works (R := fun _ w' => Rolled externalDaemon w') ?_ fun _ w rolled _ => ⟨(), rfl, rolled⟩
    have kept := stopped_uses (i := i) externalDaemon (undoing_uses destroyRules_undoing .tor)
    refine assuming_mono (assuming_both destroyRules_told (assuming_preserves kept stopped)) ?_
    rintro x w' ⟨⟨b, rfl, gone⟩, stopped⟩
    exact ⟨b, rfl, gone, stopped⟩

/-! ### DNS -/

theorem restoreResolved_undoing : restoreResolved.Uses fun o => undoing o = true := by
  refine uses_bind (uses_catch (checked_uses ⟨rfl, fun _ => trivial⟩) fun _ => trivial) fun _ => ?_
  refine uses_bind (uses_catch (external_undoing (by decide)) fun _ => trivial) fun _ => ?_
  exact uses_catch (external_undoing (by decide)) fun _ => trivial

/-- The drop-in goes, whatever the service does. -/
theorem restoreResolved_told : Told i restoreResolved w fun _ w' => w'.host.dropIn = false := by
  refine told_works (R := fun _ w' => w'.host.dropIn = false) ?_ fun _ w gone => ?_
  · refine assuming_handle good_hereditary (Q := fun x w' => ∃ u, x = .ok u ∧ w'.host.dropIn = false) ?_ ?_ ?_
    · refine told_checked (told_cleaning rfl fun r took outcome => ?_)
      obtain ⟨rfl, rfl⟩ := Prod.mk.inj (Option.some.inj outcome)
      exact ⟨(), rfl, rfl⟩
    · exact fun _ _ works => works
    · rintro e w' ⟨_, raised, _⟩
      cases raised
  · have rest : (do
        logged (checked (step (.external "systemctl restart systemd-resolved")))
        logged (checked (step (.external "resolvectl flush-caches"))) : Py Unit).Uses fun o => undoing o = true :=
      uses_bind (uses_catch (external_undoing (by decide)) fun _ => trivial) fun _ =>
        uses_catch (external_undoing (by decide)) fun _ => trivial
    have absent : ¬ Part.dropIn.there w.host := by simp [Part.there, gone]
    refine assuming_mono (assuming_preserves (absent_uses .dropIn (undoing_uses rest .dropIn)) absent)
      fun x w' absent => ?_
    simpa [Part.there] using absent

theorem sober_restoreResolved : Sober i restoreResolved := by
  refine sober_bind (sober_catch (sober_attempted fun _ _ => ensures_removeDropIn) fun _ => sober_pure ()) fun _ => ?_
  exact sober_bind (sober_logged sober_external) fun _ => sober_logged sober_external

theorem told_any {α : Type} (p : Py α) : Told i p w fun _ _ => True := by
  induction p generalizing w with
  | ret a => exact fun _ => trivial
  | raise e => exact fun _ => trivial
  | call o k ih => exact fun fate r w' _ => ih r

/-- The drop-in was not written, or a failure has removed it again. -/
def Configured : Except Exc Bool → Run → Prop
  | .ok resolved, w => resolved = false → ¬ Created .dropIn w.log
  | .error e, w => e.isException = true → w.host.dropIn = false

theorem applyResolved_told (fresh : ¬ Created .dropIn w.log) : Told i applyResolved w Configured := by
  have asks : (step (.ask "systemd-resolved is active")).Uses fun o => Part.dropIn.createdBy o = false :=
    ⟨rfl, fun _ => trivial⟩
  have asked : Told i (step (.ask "systemd-resolved is active")) w fun x w' =>
    ∃ active, x = .ok active ∧ ¬ Created .dropIn w'.log := by
    rw [Told, Prog.Assuming, ensures_outcomes]
    exact ⟨fun _ active _ _ _ => ⟨active, rfl, mt (created_next rfl) fresh⟩, fun _ active _ _ =>
      ⟨active, rfl, mt (created_next rfl) fresh⟩⟩
  refine told_works asked fun active w fresh => ?_
  cases active with
  | false => exact fun _ _ => fresh
  | true =>
    refine assuming_catch good_hereditary (Q := fun x _ => ∀ b, x = .ok b → b = true) ?_ ?_ ?_ ?_
    · refine assuming_bind good_hereditary (told_any _) (fun _ w _ => ?_) fun e w _ b raised => by cases raised
      refine assuming_bind good_hereditary (told_any _) (fun _ w _ => ?_) fun e w _ b raised => by cases raised
      refine assuming_bind good_hereditary (told_any _) (fun _ w _ => ?_) fun e w _ b raised => by cases raised
      exact fun _ b same => (Except.ok.inj same).symm
    · intro b w' configured unset
      rw [configured b rfl] at unset
      cases unset
    · intro e w' _ _
      exact assuming_bind good_hereditary restoreResolved_told (fun _ _ gone _ _ => gone) fun _ _ gone _ => gone
    · exact fun e w' _ other exception => absurd exception other

theorem sober_applyResolved : Sober i applyResolved := by
  have asks : Sober i (step (.ask "systemd-resolved is active")) := by
    intro w
    rw [Told, Prog.Assuming, ensures_outcomes]
    exact ⟨fun _ _ _ _ _ => by simp, fun _ _ _ _ => by simp⟩
  refine sober_bind asks fun active => ?_
  cases active with
  | false => exact sober_pure false
  | true =>
    intro w
    refine assuming_catch good_hereditary (Q := fun x _ => ∀ code, x ≠ .error (.exit code)) ?_
      (fun _ _ _ => by simp) ?_ fun _ _ other _ => other
    · refine sober_bind (sober_attempted fun _ _ => ensures_writeDropIn) (fun _ => ?_) w
      exact sober_bind sober_external fun _ => sober_bind sober_external fun _ => sober_pure true
    · intro e w' other _
      exact sober_bind sober_restoreResolved (fun _ => sober_raise fun code => by simpa using other code) w'

/-! ### The overlay -/

/-- The overlay was not mounted, or it is there since its mount raised. -/
def Mounting (w : Run) : Prop := ¬ Created .overlay w.log ∨ LateMount w.log ∧ w.host.overlay = true

theorem lateMount_created (late : LateMount log) : Created .overlay log := by
  obtain ⟨event, member, mounts, e, fault⟩ := late
  exact ⟨event, member, by simp [Event.took, fault], by simp [mounts, Part.createdBy]⟩

theorem mounting_cleared (mounting : Mounting w) : Cleared .overlay w ↔ ¬ LateMount w.log := by
  rcases mounting with uncreated | ⟨late, there⟩
  · exact iff_of_true (fun created => absurd created uncreated) (mt lateMount_created uncreated)
  · exact iff_of_false (fun cleared => cleared (lateMount_created late) there) (not_not.mpr late)

theorem effect_overlay {h : Host} (undoes : undoing o = true) : (h.effect i o).overlay = h.overlay := by
  cases o <;> simp [undoing] at undoes <;> rfl

theorem mounting_uses {α : Type} {p : Py α} (used : p.Uses fun o => undoing o = true) :
    p.Preserves (perform i) Mounting := by
  refine preserves_of_uses used fun w o fault r w' undoes performed mounting => ?_
  obtain ⟨took, rfl, _⟩ := perform_next performed
  rcases mounting with uncreated | ⟨late, there⟩
  · exact Or.inl (mt (created_next (undoing_creates undoes .overlay)) uncreated)
  · refine Or.inr ⟨lateMount_append.mpr (Or.inl late), ?_⟩
    cases took with
    | false => exact there
    | true => exact (effect_overlay undoes).trans there

/-- The overlay was mounted. -/
def Mounted (log : List Event) : Prop := ∃ event ∈ log, event.op = .mountOverlay ∧ event.took = true

/-- The backup says whether the drop-in was written. -/
def Recorded (resolved : Bool) (w : Run) : Prop := resolved = false → ¬ Created .dropIn w.log

def resolvedOf (backup : Json) : Bool := (Obj.get (backupOf backup) "systemd_resolved").truthy

/-- The overlay is mounted, and the backup can undo it. -/
def Overlaid (backup : Json) (w : Run) : Prop := Mounted w.log ∧ ¬ LateMount w.log ∧ Recorded (resolvedOf backup) w

/-- What `apply_dns` leaves. -/
def Applied : Except Exc Json → Run → Prop
  | .ok backup, w => Overlaid backup w
  | .error e, w => e.isException = true → Cleared .dropIn w ∧ Mounting w

theorem mountOverlay_told (fresh : ¬ Created .overlay w.log) : Told i (checked (step .mountOverlay)) w fun x w' =>
    (∃ u, x = .ok u) ∧ Mounted w'.log ∧ ¬ LateMount w'.log ∨ (∃ e, x = .error e) ∧ Mounting w' := by
  have unlate : ¬ LateMount w.log := mt lateMount_created fresh
  refine told_attempted (fun _ => ensures_mountOverlay) ?_ ?_ ?_
  · refine fun _ => Or.inl ⟨⟨(), rfl⟩,
      ⟨⟨.mountOverlay, .fate .ok⟩, List.mem_append_right _ (List.mem_singleton_self _), rfl, rfl⟩, ?_⟩
    intro late
    rcases lateMount_append.mp late with earlier | ⟨event, member, _, e, fault⟩
    · exact unlate earlier
    · obtain rfl := List.mem_singleton.mp member
      cases fault
  · refine fun e _ => Or.inr ⟨⟨e, rfl⟩, Or.inl fun created => ?_⟩
    rcases created_append.mp created with earlier | ⟨event, member, took, _⟩
    · exact fresh earlier
    · obtain rfl := List.mem_singleton.mp member
      cases took
  · exact fun e _ => Or.inr ⟨⟨e, rfl⟩, Or.inr
      ⟨⟨⟨.mountOverlay, .late e⟩, List.mem_append_right _ (List.mem_singleton_self _), rfl, e, rfl⟩, rfl⟩⟩

/-- The operation creates nothing. -/
def inert (o : Op) : Prop := ∀ part : Part, part.createdBy o = false

theorem inert_uses {α : Type} {p : Py α} (used : p.Uses inert) (part : Part) :
    p.Uses fun o => part.createdBy o = false :=
  uses_mono used fun _ creates => creates part

theorem external_inert {what : String} : (checked (step (.external what))).Uses inert :=
  checked_uses ⟨fun part => by cases part <;> rfl, fun _ => trivial⟩

theorem clearOverlay_inert : clearOverlay.Uses inert := by
  refine uses_bind ⟨fun part => by cases part <;> rfl, fun _ => trivial⟩ fun mounted =>
    onlyIf_uses (uses_catch ?_ fun _ => trivial)
  exact checked_uses ⟨fun part => by cases part <;> rfl, fun _ => trivial⟩

/-- Neither the overlay nor, unless it is recorded, the drop-in was written. -/
def Unapplied (resolved : Bool) (w : Run) : Prop := ¬ Created .overlay w.log ∧ Recorded resolved w

theorem unapplied_uses {α : Type} {resolved : Bool} {p : Py α} (used : p.Uses inert) :
    p.Preserves (perform i) (Unapplied resolved) := by
  refine preserves_of_uses used fun w o fault r w' creates performed unapplied => ?_
  obtain ⟨took, rfl, _⟩ := perform_next performed
  exact ⟨mt (created_next (creates .overlay)) unapplied.1,
    fun unset => mt (created_next (creates .dropIn)) (unapplied.2 unset)⟩

theorem recorded_uses {α : Type} {resolved : Bool} {p : Py α} (used : p.Uses fun o => Part.dropIn.createdBy o = false) :
    p.Preserves (perform i) (Recorded resolved) := by
  refine preserves_of_uses used fun w o fault r w' creates performed recorded unset => ?_
  obtain ⟨took, rfl, _⟩ := perform_next performed
  exact mt (created_next creates) (recorded unset)

/-- The set-up of the overlay. -/
theorem overlay_told {resolved : Bool} (unapplied : Unapplied resolved w) : Told i (do
      checked (step (.external "write resolv.conf"))
      clearOverlay
      checked (step .mountOverlay)
      pure (.obj [("mode", .str "overlay"), ("mount_target", .str "/etc/resolv.conf"),
        ("systemd_resolved", .bool resolved)]) : Py Json) w
    fun x w' => Recorded resolved w' ∧
      ((∃ backup, x = .ok backup ∧ resolvedOf backup = resolved) ∧ Mounted w'.log ∧ ¬ LateMount w'.log ∨
        (∃ e, x = .error e) ∧ Mounting w') := by
  refine assuming_bind good_hereditary (assuming_preserves (unapplied_uses external_inert) unapplied)
    (fun _ w unapplied => ?_)
    fun e w unapplied => ⟨unapplied.2, Or.inr ⟨⟨e, rfl⟩, Or.inl unapplied.1⟩⟩
  refine assuming_bind good_hereditary (assuming_preserves (unapplied_uses clearOverlay_inert) unapplied)
    (fun _ w unapplied => ?_)
    fun e w unapplied => ⟨unapplied.2, Or.inr ⟨⟨e, rfl⟩, Or.inl unapplied.1⟩⟩
  have mounts : (checked (step .mountOverlay)).Uses fun o => Part.dropIn.createdBy o = false :=
    checked_uses ⟨rfl, fun _ => trivial⟩
  refine assuming_bind good_hereditary
    (assuming_both (mountOverlay_told unapplied.1) (assuming_preserves (recorded_uses mounts) unapplied.2)) ?_ ?_
  · rintro u w ⟨⟨_, mounted⟩ | ⟨⟨e, raised⟩, _⟩, recorded⟩
    · exact fun _ => ⟨recorded, Or.inl ⟨⟨_, rfl, by cases resolved <;> rfl⟩, mounted⟩⟩
    · cases raised
  · rintro e w ⟨⟨⟨_, raised⟩, _⟩ | ⟨_, mounting⟩, recorded⟩
    · cases raised
    · exact ⟨recorded, Or.inr ⟨⟨e, rfl⟩, mounting⟩⟩

theorem applyResolved_overlay : applyResolved.Uses fun o => Part.overlay.createdBy o = false := by
  have external {what : String} : (checked (step (.external what))).Uses fun o => Part.overlay.createdBy o = false :=
    inert_uses external_inert .overlay
  refine uses_bind ⟨rfl, fun _ => trivial⟩ fun active => ?_
  cases active with
  | false => trivial
  | true =>
    refine uses_catch ?_ fun e => uses_bind (undoing_uses restoreResolved_undoing .overlay) fun _ => trivial
    exact uses_bind (checked_uses ⟨rfl, fun _ => trivial⟩) fun _ => uses_bind external fun _ =>
      uses_bind external fun _ => trivial

/-- The removal of the drop-in that a start or a stop finds recorded. -/
theorem unresolve_told {resolved : Bool} (recorded : Recorded resolved w) :
    Told i (onlyIf resolved (logged restoreResolved)) w fun _ w' => Cleared .dropIn w' := by
  cases resolved with
  | false => exact fun _ created => absurd created (recorded rfl)
  | true =>
    have removed {w : Run} (gone : w.host.dropIn = false) : Cleared .dropIn w := by
      intro _ there
      rw [Part.there, gone] at there
      cases there
    refine assuming_catch good_hereditary restoreResolved_told (fun _ _ => removed) ?_ fun _ _ gone _ => removed gone
    exact fun _ _ gone _ _ => removed gone

theorem unresolve_undoing {resolved : Bool} :
    (onlyIf resolved (logged restoreResolved)).Uses fun o => undoing o = true :=
  onlyIf_uses (uses_catch restoreResolved_undoing fun _ => trivial)

/-- What the first part of `apply_dns` leaves. -/
def Prepared : Except Exc Bool → Run → Prop
  | .ok resolved, w => Unapplied resolved w
  | .error e, w => e.isException = true → Cleared .dropIn w ∧ Mounting w

theorem applyDns_told (unwritten : ¬ Created .dropIn w.log) (unmounted : ¬ Created .overlay w.log) :
    Told i applyDns w Applied := by
  refine assuming_bind good_hereditary (Q := Prepared) ?_ (fun resolved w unapplied => ?_) fun e w failed => failed
  · refine assuming_catch good_hereditary
      (assuming_both (applyResolved_told unwritten)
        (assuming_preserves (uncreated_uses .overlay applyResolved_overlay) unmounted)) ?_ ?_ ?_
    · exact fun resolved w' configured => ⟨configured.2, configured.1⟩
    · refine fun e w' configured exception _ _ => ⟨fun _ there => ?_, Or.inl configured.2⟩
      rw [Part.there, configured.1 exception] at there
      cases there
    · exact fun e w' _ other exception => absurd exception other
  · refine assuming_catch good_hereditary (overlay_told unapplied) ?_ ?_ ?_
    · rintro _ w' ⟨recorded, ⟨⟨backup, same, told⟩, mounted, unlate⟩ | ⟨⟨e, raised⟩, _⟩⟩
      · obtain rfl := Except.ok.inj same
        exact ⟨mounted, unlate, told ▸ recorded⟩
      · cases raised
    · rintro e w' ⟨recorded, ⟨⟨_, raised, _⟩, _⟩ | ⟨_, mounting⟩⟩ exception
      · cases raised
      · refine assuming_bind good_hereditary (assuming_both (unresolve_told recorded)
          (assuming_preserves (mounting_uses unresolve_undoing) mounting)) (fun _ _ done _ _ => done)
          fun _ _ done _ => done
    · exact fun e w' _ other exception => absurd exception other

theorem sober_clearOverlay : Sober i clearOverlay := by
  have mounted : Sober i (step .isMounted) := by
    intro w
    rw [Told, Prog.Assuming, ensures_outcomes]
    exact ⟨fun _ _ _ _ _ => by simp, fun _ _ _ _ => by simp⟩
  refine sober_bind mounted fun mounted =>
    sober_onlyIf (sober_catch (sober_attempted fun _ _ => ensures_unmountOverlay) fun _ => sober_pure ())

theorem sober_applyDns : Sober i applyDns := by
  refine sober_bind (sober_catch sober_applyResolved fun e => sober_raise (by simp)) fun resolved =>
    sober_catch ?_ fun e => ?_
  · refine sober_bind sober_external fun _ => sober_bind sober_clearOverlay fun _ => ?_
    exact sober_bind (sober_attempted fun _ _ => ensures_mountOverlay) fun _ => sober_pure _
  · exact sober_bind (sober_onlyIf (sober_logged sober_restoreResolved)) fun _ => sober_raise (by simp)

/-! ### The restoration -/

theorem restoreDns_inert {backup : Json} : (restoreDns backup).Uses inert := by
  have undone {α : Type} {p : Py α} (used : p.Uses fun o => undoing o = true) : p.Uses inert :=
    uses_mono used fun _ undoes => undoing_creates undoes
  refine uses_bind clearOverlay_inert fun _ => uses_bind (undone unresolve_undoing) fun _ => ?_
  exact uses_catch external_inert fun _ => trivial

theorem mounted_append (mounted : Mounted log) : Mounted (log ++ more) := by
  obtain ⟨event, member, mounts⟩ := mounted
  exact ⟨event, List.mem_append_left _ member, mounts⟩

theorem good_unmount (good : Good (w.next i .unmountOverlay took fault)) (mounted : Mounted w.log) :
    fault = .fate .ok := by
  obtain ⟨event, member, mounts, took⟩ := mounted
  exact (List.pairwise_append.mp good.2.unmount).2.2 event member ⟨.unmountOverlay, fault⟩
    (List.mem_singleton_self _) mounts took rfl

/-- A mounted overlay is unmounted. -/
theorem clearOverlay_told (mounted : Mounted w.log) :
    Told i clearOverlay w fun x w' => ∃ u, x = .ok u ∧ w'.host.overlay = false := by
  have looks : Told i (step .isMounted) w fun x w' =>
    ∃ there, x = .ok there ∧ w'.host.overlay = there ∧ Mounted w'.log := by
    rw [Told, Prog.Assuming, ensures_outcomes, forall_fate]
    simpa [Host.outcome, lateResult, Run.next, Host.effect] using fun _ => mounted_append mounted
  refine told_works looks ?_
  rintro there w ⟨same, mounted⟩
  cases there with
  | false => exact fun _ => ⟨(), rfl, same⟩
  | true =>
    refine assuming_catch good_hereditary (Q := fun x w' => ∃ u, x = .ok u ∧ w'.host.overlay = false) ?_
      (fun _ _ works => works) ?_ ?_
    · refine told_attempted (fun _ => ensures_unmountOverlay) (fun _ => ⟨(), rfl, rfl⟩) ?_ ?_
      · exact fun e good => absurd (good_unmount good mounted) (by simp)
      · exact fun e good => absurd (good_unmount good mounted) (by simp)
    · rintro e w' ⟨_, raised, _⟩
      cases raised
    · rintro e w' ⟨_, raised, _⟩
      cases raised

/-- What does not mount the overlay raises no late mount. -/
theorem unlate_uses {α : Type} {p : Py α} (used : p.Uses fun o => Part.overlay.createdBy o = false) :
    p.Preserves (perform i) fun w => ¬ LateMount w.log := by
  refine preserves_of_uses used fun w o fault r w' creates performed unlate late => ?_
  obtain ⟨took, rfl, _⟩ := perform_next performed
  rcases lateMount_append.mp late with earlier | ⟨event, member, mounts, _⟩
  · exact unlate earlier
  · obtain rfl := List.mem_singleton.mp member
    obtain rfl : o = .mountOverlay := mounts
    cases creates

/-- The overlay is gone, and did not come late. -/
def Unmounted (w : Run) : Prop := ¬ Part.overlay.there w.host ∧ ¬ LateMount w.log

theorem unmounted_uses {α : Type} {p : Py α} (used : p.Uses fun o => Part.overlay.createdBy o = false) :
    p.Preserves (perform i) Unmounted :=
  fun w unmounted => ensures_both (absent_uses .overlay used w unmounted.1) (unlate_uses used w unmounted.2)

theorem restoreDns_told {backup : Json} (mounted : Mounted w.log) (unlate : ¬ LateMount w.log)
    (recorded : Recorded (resolvedOf backup) w) :
    Told i (restoreDns backup) w fun _ w' => Cleared .dropIn w' ∧ Unmounted w' := by
  have clears {part : Part} : clearOverlay.Uses fun o => part.createdBy o = false := inert_uses clearOverlay_inert part
  refine told_works (R := fun _ w' => Unmounted w' ∧ Recorded (resolvedOf backup) w') ?_ ?_
  · refine assuming_mono (assuming_both (clearOverlay_told mounted)
      (assuming_both (assuming_preserves (unlate_uses clears) unlate)
        (assuming_preserves (recorded_uses clears) recorded))) ?_
    rintro x w' ⟨⟨u, rfl, gone⟩, unlate, recorded⟩
    exact ⟨u, rfl, ⟨by simp [Part.there, gone], unlate⟩, recorded⟩
  rintro _ w ⟨unmounted, recorded⟩
  have kept : Told i (onlyIf (resolvedOf backup) (logged restoreResolved)) w fun _ w' => Unmounted w' :=
    assuming_preserves (unmounted_uses (undoing_uses unresolve_undoing .overlay)) unmounted
  refine assuming_bind good_hereditary (assuming_both (unresolve_told recorded) kept) ?_ fun _ _ done => done
  rintro _ w ⟨cleared, unmounted⟩
  have unlinks {part : Part} : ((checked (step (.external "unlink resolv.conf"))).handle fun e =>
      if e.isOSError then some (pure ()) else none).Uses fun o => part.createdBy o = false :=
    uses_catch (inert_uses external_inert part) fun _ => trivial
  exact assuming_both (assuming_preserves (cleared_uses .dropIn unlinks) cleared)
    (assuming_preserves (unmounted_uses unlinks) unmounted)

/-! ### The set-up -/

/-- The set-up of the network once Tor is provided. -/
def install (py : Interpreter) (a : StartArgs) (selected : Settings) : Py Unit := do
  orRollBack a.externalDaemon Exc.isFirewallError (pure ()) (applyRules a.rules)
  checked (step (.external "detect the active interface"))
  let backup ← orRollBack a.externalDaemon Exc.isException (pure ()) applyDns
  orRollBack a.externalDaemon Exc.isStateError (restoreDns backup)
    (do
      checked (step (.external "nft -s list table"))
      let snapshot ← Prog.ofExcept (selected.snapshot py)
      writeLock { a.lock with
        dnsBackup := backup
        externalDaemon := a.externalDaemon
        watchdogRequested := selected.watchdog.enabled.truthy
        settings := .obj snapshot })

theorem setUp_install (py : Interpreter) (a : StartArgs) (selected : Settings) :
    setUp py a selected = provideTor a.externalDaemon >>= fun _ => install py a selected := rfl

/-- What a rollback leaves. -/
structure Outcome (externalDaemon : Bool) (w : Run) : Prop where
  rolled : Rolled externalDaemon w
  dropIn : Cleared .dropIn w
  overlay : Cleared .overlay w ↔ ¬ LateMount w.log

/-- Neither the drop-in nor the overlay was written. -/
def Blank (w : Run) : Prop := ¬ Created .dropIn w.log ∧ ¬ Created .overlay w.log

theorem blank_uses {α : Type} {p : Py α} (dropIn : p.Uses fun o => Part.dropIn.createdBy o = false)
    (overlay : p.Uses fun o => Part.overlay.createdBy o = false) : p.Preserves (perform i) Blank :=
  fun w blank => ensures_both (uncreated_uses .dropIn dropIn w blank.1) (uncreated_uses .overlay overlay w blank.2)

theorem applyRules_uses {c : Builder.Config} {part : Part}
    (other : ∀ table timeout, part.createdBy (.nftTransaction table timeout) = false) :
    (applyRules c).Uses fun o => part.createdBy o = false := by
  refine uses_bind (uses_catch (inert_uses external_inert part) fun _ => trivial) fun _ => ?_
  refine uses_catch (uses_catch (checked_uses ⟨other _ _, fun _ => trivial⟩) fun _ => trivial) fun e => ?_
  refine uses_bind (undoing_uses destroyRules_undoing part) fun _ => ?_
  split <;> trivial

theorem sober_destroyRules : Sober i destroyRules := fun _ => assuming_mono destroyRules_told fun x _ ended code => by
  obtain ⟨b, rfl, _⟩ := ended
  simp

theorem sober_applyRules {c : Builder.Config} : Sober i (applyRules c) := by
  refine sober_bind (sober_catch sober_external fun _ => sober_raise (by simp)) fun _ => sober_catch ?_ fun e => ?_
  · exact sober_catch (sober_attempted fun _ _ => ensures_nftTransaction) fun _ => sober_raise (by simp)
  · refine sober_bind sober_destroyRules fun _ => ?_
    by_cases firewall : e.isFirewallError = true
    · rw [if_pos firewall]
      exact sober_raise fun code same => by rw [same] at firewall; cases firewall
    · rw [if_neg firewall]
      exact sober_raise (by simp)

theorem sober_writeLock {lock : LockArgs} : Sober i (writeLock lock) := by
  have named : Sober i (step .uuid4) := by
    intro w
    rw [Told, Prog.Assuming, ensures_outcomes]
    exact ⟨fun _ _ _ _ _ => by simp, fun _ _ _ _ => by simp⟩
  refine sober_catch (sober_bind named fun _ => sober_bind ?_ fun _ => sober_tried fun _ _ => ensures_unlinkMarker)
    fun _ => sober_raise (by simp)
  exact sober_bind (sober_tried fun _ _ => ensures_runtimeDir) fun _ => sober_attempted fun _ _ => ensures_replaceLock

theorem writeLock_uses {lock : LockArgs} {part : Part} (other : ∀ data, part.createdBy (.replaceLock data) = false) :
    (writeLock lock).Uses fun o => part.createdBy o = false := by
  have plain {o : Op} (creates : inert o) : part.createdBy o = false := creates part
  refine uses_catch (uses_bind ⟨plain fun part => by cases part <;> rfl, fun _ => trivial⟩ fun _ => ?_) fun _ => trivial
  refine uses_bind (uses_bind (checked_uses ⟨plain fun part => by cases part <;> rfl, fun _ => trivial⟩) fun _ => ?_)
    fun _ => ?_
  · exact checked_uses ⟨other _, fun _ => trivial⟩
  · exact checked_uses ⟨plain fun part => by cases part <;> rfl, fun _ => trivial⟩

/-- A step leaves `R`, or what a rollback can undo from if it raises what the rollback is for. -/
def Attempt {α : Type} (catches : Exc → Bool) (R : α → Run → Prop) (S : Run → Prop) : Except Exc α → Run → Prop
  | .ok a, w => R a w
  | .error e, w => catches e = true → S w

/-- A step leaves `R`, or exits with what a rollback leaves. -/
def Stepped {α : Type} (externalDaemon : Bool) (R : α → Run → Prop) : Except Exc α → Run → Prop
  | .ok a, w => R a w
  | .error e, w => e = .exit 1 → Outcome externalDaemon w

theorem orRollBack_told {α : Type} {externalDaemon : Bool} {catches : Exc → Bool} {more : Py Unit} {p : Py α}
    {R : α → Run → Prop}
    {S : Run → Prop} (sober : Sober i p) (body : Told i p w (Attempt catches R S))
    (kept : (rollBack externalDaemon).Preserves (perform i) S)
    (undone : ∀ w', Rolled externalDaemon w' → S w' → Told i more w' fun _ w'' => Outcome externalDaemon w'') :
    Told i (orRollBack externalDaemon catches more p) w (Stepped externalDaemon R) := by
  refine assuming_catch good_hereditary (assuming_both (sober w) body) (fun _ _ ended => ended.2) ?_ ?_
  · intro e w' ended caught
    refine assuming_bind good_hereditary (assuming_both rollBack_told (assuming_preserves kept (ended.2 caught))) ?_ ?_
    · rintro _ w ⟨⟨_, _, rolled⟩, held⟩
      exact assuming_bind good_hereditary (undone w rolled held) (fun _ _ outcome _ _ => outcome)
        fun _ _ outcome _ => outcome
    · rintro e w ⟨⟨_, raised, _⟩, _⟩
      cases raised
  · exact fun e w' ended _ exits => absurd (exits ▸ rfl) (ended.1 1)

theorem rules_told {a : StartArgs} (blank : Blank w) :
    Told i (orRollBack a.externalDaemon Exc.isFirewallError (pure ()) (applyRules a.rules)) w
      (Stepped a.externalDaemon fun _ => Blank) := by
  have uses {part : Part} (other : ∀ table timeout, part.createdBy (.nftTransaction table timeout) = false) :=
    @applyRules_uses a.rules part other
  have applied : (applyRules a.rules).Preserves (perform i) Blank :=
    blank_uses (uses fun _ _ => rfl) (uses fun _ _ => rfl)
  have rolls {part : Part} := undoing_uses (@rollBack_undoing a.externalDaemon) part
  refine orRollBack_told sober_applyRules (S := Blank) ?_ (blank_uses rolls rolls) fun w' rolled blank _ => ?_
  · refine assuming_mono (assuming_preserves applied blank) fun x w' blank => ?_
    cases x with
    | ok => exact blank
    | error e => exact fun _ => blank
  · exact ⟨rolled, fun created => absurd created blank.1, mounting_cleared (Or.inl blank.2)⟩

theorem dns_told {a : StartArgs} (blank : Blank w) :
    Told i (orRollBack a.externalDaemon Exc.isException (pure ()) applyDns) w (Stepped a.externalDaemon Overlaid) := by
  have rolls := @rollBack_undoing a.externalDaemon
  refine orRollBack_told sober_applyDns (S := fun w' => Cleared .dropIn w' ∧ Mounting w') ?_ ?_
    fun w' rolled held _ => ?_
  · refine assuming_mono (applyDns_told blank.1 blank.2) fun x w' applied => ?_
    cases x with
    | ok => exact applied
    | error e => exact applied
  · exact fun w held => ensures_both (cleared_uses .dropIn (undoing_uses rolls .dropIn) w held.1)
      (mounting_uses rolls w held.2)
  · exact ⟨rolled, held.1, mounting_cleared held.2⟩

theorem overlaid_uses {α : Type} {backup : Json} {p : Py α} (overlay : p.Uses fun o => Part.overlay.createdBy o = false)
    (dropIn : p.Uses fun o => Part.dropIn.createdBy o = false) : p.Preserves (perform i) (Overlaid backup) := by
  rintro w ⟨mounted, unlate, recorded⟩
  have grown : p.Ensures (perform i) w fun _ w' => Mounted w'.log := by
    refine ensures_mono (ensures_grown overlay) ?_
    rintro x w' ⟨more, log, _⟩
    rw [log]
    exact mounted_append mounted
  exact ensures_both grown (ensures_both (unlate_uses overlay w unlate) (recorded_uses dropIn w recorded))

theorem lock_told {a : StartArgs} {snapshot : Except Exc Obj} {lock : Obj → LockArgs} {backup : Json}
    (plain : ∀ code, snapshot ≠ .error (.exit code))
    (overlaid : Overlaid backup w) :
    Told i (orRollBack a.externalDaemon Exc.isStateError (restoreDns backup) (do
      checked (step (.external "nft -s list table"))
      let snapshot ← Prog.ofExcept snapshot
      writeLock (lock snapshot))) w (Stepped a.externalDaemon fun _ _ => True) := by
  have locks {part : Part} (other : ∀ data, part.createdBy (.replaceLock data) = false) : (do
      checked (step (.external "nft -s list table"))
      let snapshot ← Prog.ofExcept snapshot
      writeLock (lock snapshot) : Py Unit).Uses fun o => part.createdBy o = false :=
    uses_bind (inert_uses external_inert part) fun _ => uses_bind (uses_ofExcept _) fun _ => writeLock_uses other
  have copied : Sober i (Prog.ofExcept snapshot : Py Obj) := by
    intro w
    rw [Told, Prog.Assuming, ensures_ofExcept]
    exact fun _ => plain
  have rolls {part : Part} := undoing_uses (@rollBack_undoing a.externalDaemon) part
  refine orRollBack_told (S := Overlaid backup) ?_ ?_ (overlaid_uses rolls rolls) fun w' rolled overlaid => ?_
  · exact sober_bind sober_external fun _ => sober_bind copied fun _ => sober_writeLock
  · refine assuming_mono (assuming_preserves (overlaid_uses (locks fun _ => rfl) (locks fun _ => rfl)) overlaid)
      fun x w' overlaid => ?_
    cases x with
    | ok => trivial
    | error e => exact fun _ => overlaid
  · have kept : Told i (restoreDns backup) w' fun _ w'' => Rolled a.externalDaemon w'' :=
      assuming_preserves (rolled_uses a.externalDaemon (inert_uses restoreDns_inert)) rolled
    refine assuming_mono (assuming_both kept (restoreDns_told overlaid.1 overlaid.2.1 overlaid.2.2)) ?_
    rintro x w'' ⟨rolled, cleared, gone, unlate⟩
    exact ⟨rolled, cleared, iff_of_true (fun _ => gone) unlate⟩

/-- An exit of the set-up is that of a rollback. -/
theorem install_told {py : Interpreter} {a : StartArgs} {selected : Settings} (blank : Blank w) :
    Told i (install py a selected) w fun x w' => x = .error (.exit 1) → Outcome a.externalDaemon w' := by
  refine assuming_bind good_hereditary (rules_told blank) (fun _ w blank => ?_) fun e w' stepped exits =>
    stepped (Except.error.inj exits)
  have detects {part : Part} : (checked (step (.external "detect the active interface"))).Uses fun o =>
    part.createdBy o = false :=
    inert_uses external_inert part
  refine assuming_bind good_hereditary
    (assuming_both (sober_external w) (assuming_preserves (blank_uses detects detects) blank)) ?_
    fun e w' ended exits => absurd exits (ended.1 1)
  rintro _ w ⟨_, blank⟩
  refine assuming_bind good_hereditary (dns_told blank) (fun backup w overlaid => ?_) fun e w' stepped exits =>
    stepped (Except.error.inj exits)
  have plain : ∀ code, selected.snapshot py ≠ .error (.exit code) := by
    intro code
    unfold SessionSettings.Settings.snapshot
    split <;> simp
  refine assuming_mono (lock_told plain overlaid) fun x w' stepped exits => ?_
  subst exits
  exact stepped rfl

/-! ### What the set-up does to the log -/

/-- The operations of the set-up once Tor is provided. -/
def installing : Op → Bool
  | .external what => what != "unlabel the ports"
  | .nftTransaction .. | .nftFlush | .nftDelete | .nftList | .stopTor | .ask
      _ | .writeDropIn | .removeDropIn | .isMounted
  | .unmountOverlay | .mountOverlay | .uuid4 | .ensureRuntimeDir | .replaceLock _ | .unlinkMarker => true
  | _ => false

theorem undoing_installing {α : Type} {p : Py α} (used : p.Uses fun o => undoing o = true) :
    p.Uses fun o => installing o = true := by
  refine uses_mono used fun o undoes => ?_
  cases o <;> simp_all [undoing, installing]

theorem external_installing {what : String} (other : installing (.external what) = true) :
    (checked (step (.external what))).Uses fun o => installing o = true := external_uses other

theorem clearOverlay_installing : clearOverlay.Uses fun o => installing o = true := by
  refine uses_bind ⟨rfl, fun _ => trivial⟩ fun mounted => onlyIf_uses (uses_catch ?_ fun _ => trivial)
  exact checked_uses ⟨rfl, fun _ => trivial⟩

theorem restoreDns_installing {backup : Json} : (restoreDns backup).Uses fun o => installing o = true := by
  refine uses_bind clearOverlay_installing fun _ => uses_bind (undoing_installing unresolve_undoing) fun _ => ?_
  exact uses_catch (external_installing (by decide)) fun _ => trivial

theorem applyRules_installing {c : Builder.Config} : (applyRules c).Uses fun o => installing o = true := by
  refine uses_bind (uses_catch (external_installing (by decide)) fun _ => trivial) fun _ => ?_
  refine uses_catch (uses_catch (checked_uses ⟨rfl, fun _ => trivial⟩) fun _ => trivial) fun e => ?_
  refine uses_bind (undoing_installing destroyRules_undoing) fun _ => ?_
  split <;> trivial

theorem applyDns_installing : applyDns.Uses fun o => installing o = true := by
  have external {what : String} (other : installing (.external what) = true) := @external_installing what other
  have resolved : applyResolved.Uses fun o => installing o = true := by
    refine uses_bind ⟨rfl, fun _ => trivial⟩ fun active => ?_
    cases active with
    | false => trivial
    | true =>
      refine uses_catch ?_ fun e => uses_bind (undoing_installing restoreResolved_undoing) fun _ => trivial
      refine uses_bind (checked_uses ⟨rfl, fun _ => trivial⟩) fun _ => ?_
      exact uses_bind (external (by decide)) fun _ => uses_bind (external (by decide)) fun _ => trivial
  refine uses_bind (uses_catch resolved fun _ => trivial) fun resolved => uses_catch ?_ fun e => ?_
  · refine uses_bind (external (by decide)) fun _ => uses_bind clearOverlay_installing fun _ => ?_
    exact uses_bind (checked_uses ⟨rfl, fun _ => trivial⟩) fun _ => trivial
  · exact uses_bind (undoing_installing unresolve_undoing) fun _ => trivial

theorem writeLock_installing {lock : LockArgs} : (writeLock lock).Uses fun o => installing o = true := by
  refine uses_catch (uses_bind ⟨rfl, fun _ => trivial⟩ fun _ => uses_bind (uses_bind ?_ fun _ => ?_) fun _ => ?_)
    fun _ => trivial
  all_goals exact checked_uses ⟨rfl, fun _ => trivial⟩

theorem orRollBack_installing {α : Type} {externalDaemon : Bool} {catches : Exc → Bool} {more : Py Unit} {p : Py α}
    (body : p.Uses fun o => installing o = true) (undone : more.Uses fun o => installing o = true) :
    (orRollBack externalDaemon catches more p).Uses fun o => installing o = true :=
  uses_catch body fun _ => uses_bind (undoing_installing rollBack_undoing) fun _ => uses_bind undone fun _ => trivial

theorem install_installing {py : Interpreter} {a : StartArgs} {selected : Settings} :
    (install py a selected).Uses fun o => installing o = true := by
  refine uses_bind (orRollBack_installing applyRules_installing trivial) fun _ =>
    uses_bind (external_installing (by decide)) fun _ => ?_
  refine uses_bind (orRollBack_installing applyDns_installing trivial) fun backup =>
    orRollBack_installing ?_ restoreDns_installing
  exact uses_bind (external_installing (by decide)) fun _ => uses_bind (uses_ofExcept _) fun _ => writeLock_installing

theorem effect_lock {h : Host} (installs : installing o = true) (other : Part.lock.createdBy o = false) :
    (h.effect i o).lock = h.lock := by
  cases o <;> simp [installing] at installs <;> first | rfl | cases other

/-- A lock that was replaced stays, as long as none is unlinked. -/
theorem installing_lock {α : Type} {p : Py α} (used : p.Uses fun o => installing o = true) :
    p.Preserves (perform i) fun w => Created .lock w.log → w.host.lock ≠ .missing := by
  refine preserves_of_uses used fun w o fault r w' installs performed kept created => ?_
  by_cases other : Part.lock.createdBy o = false
  · obtain ⟨took, rfl, _⟩ := perform_next performed
    have there := kept (created_next other created)
    cases took with
    | false => exact there
    | true => exact fun missing => there ((effect_lock installs other).symm.trans missing)
  · obtain ⟨data, rfl⟩ : ∃ data, o = .replaceLock data := by cases o <;> first | exact ⟨_, rfl⟩ | exact absurd rfl other
    cases fault with
    | late e =>
      obtain ⟨_, rfl⟩ := Prod.mk.inj (Option.some.inj performed)
      exact fun missing => by cases missing
    | fate fate =>
      obtain ⟨took, rfl, outcome⟩ := perform_next performed
      obtain ⟨rfl, rfl⟩ | ⟨e, rfl, rfl⟩ := Host.attempted_cases (outcome fate rfl)
      · exact fun missing => by cases missing
      · refine kept ?_
        rcases created_append.mp created with earlier | ⟨event, member, took, _⟩
        · exact earlier
        · obtain rfl := List.mem_singleton.mp member
          have failed := outcome fate rfl
          cases fate <;> simp_all [Host.outcome, Host.attempted, Event.took]

/-! ### The whole command -/

/-- What a program does first stands first in what it adds to the log. -/
theorem ensures_begins {α : Type} {o : Op} {k : o.Res → Py α} : (Prog.call o k).Ensures (perform i) w fun _ w' =>
    ∃ fault rest, w'.log = w.log ++ ⟨o, fault⟩ :: rest := by
  intro fault r w' performed
  obtain ⟨took, rfl, _⟩ := perform_next performed
  refine ensures_mono (ensures_grown (uses_any (k r))) ?_
  rintro x w'' ⟨more, log, _⟩
  exact ⟨fault, more, by rw [log, Run.next, List.append_assoc]; rfl⟩

theorem install_begins {py : Interpreter} {a : StartArgs} {selected : Settings} :
    (install py a selected).Ensures (perform i) w fun _ w' =>
    ∃ fault rest, w'.log = w.log ++ ⟨.external "pwd.getpwnam", fault⟩ :: rest := ensures_begins

/-- The operations of a start up to the set-up, but for those of Tor. -/
def preparing : Op → Bool
  | .external what => what != "pwd.getpwnam" && what != "unlabel the ports"
  | .registerHandlers | .ask _ | .readLock | .unlinkLock | .nftFlush | .nftDelete | .nftList | .stopTor | .isMounted
  | .unmountOverlay | .removeDropIn | .ensureRuntimeDir | .prepareStore => true
  | _ => false

theorem preparing_creates (prepares : preparing o = true) : inert o := by
  intro part
  cases o <;> simp [preparing] at prepares <;> cases part <;> rfl

theorem preparing_rules (prepares : preparing o = true) : isRules o = false := by
  cases o <;> simp_all [preparing, isRules]

theorem external_preparing {what : String} (other : preparing (.external what) = true) :
    (checked (step (.external what))).Uses fun o => preparing o = true := external_uses other

theorem undoing_preparing {α : Type} {p : Py α} (used : p.Uses fun o => undoing o = true) :
    p.Uses fun o => preparing o = true := by
  refine uses_mono used fun o undoes => ?_
  cases o <;> simp_all [undoing, preparing]

theorem readLock_preparing {strict : Bool} : (readLock strict).Uses fun o => preparing o = true :=
  uses_bind ⟨rfl, fun _ => trivial⟩ fun _ => uses_ofExcept _

theorem validateStart_preparing {py : Interpreter} {a : StartArgs} :
    (validateStart py a).Uses fun o => preparing o = true := by
  have external {what : String} (other : preparing (.external what) = true) := @external_preparing what other
  refine uses_bind (external (by decide)) fun _ => uses_bind (external (by decide)) fun _ => ?_
  refine uses_bind (uses_catch (uses_ofExcept _) fun _ => trivial) fun selected =>
    uses_bind (external (by decide)) fun _ => ?_
  refine uses_bind (onlyIf_uses trivial) fun _ => uses_bind (onlyIf_uses (external (by decide))) fun _ => ?_
  exact uses_bind (external (by decide)) fun _ => uses_bind (external (by decide)) fun _ => trivial

theorem restoreDns_preparing {backup : Json} : (restoreDns backup).Uses fun o => preparing o = true := by
  refine uses_bind (uses_bind ⟨rfl, fun _ => trivial⟩ fun mounted => onlyIf_uses (uses_catch ?_ fun _ => trivial))
    fun _ => ?_
  · exact checked_uses ⟨rfl, fun _ => trivial⟩
  · exact uses_bind (undoing_preparing unresolve_undoing) fun _ =>
      uses_catch (external_preparing (by decide)) fun _ => trivial

theorem checkSessionState_preparing : checkSessionState.Uses fun o => preparing o = true := by
  refine uses_bind readLock_preparing fun lock => ?_
  split
  · trivial
  split
  · trivial
  split
  · trivial
  refine uses_bind ?_ fun orphan => ?_
  · refine uses_bind readLock_preparing fun found => ?_
    split
    · trivial
    · split
      · trivial
      · refine uses_bind ⟨by decide, fun _ => trivial⟩ fun alive => ?_
        split <;> trivial
  · split
    · refine uses_bind (uses_bind readLock_preparing fun found => ?_) fun _ => trivial
      split
      · trivial
      · refine uses_bind (uses_always ?_ (checked_uses ⟨rfl, fun _ => trivial⟩)) fun _ => trivial
        exact uses_bind (uses_bind (undoing_preparing destroyRules_undoing) fun _ => trivial) fun _ =>
          restoreDns_preparing
    · trivial

/-- Only steps before the set-up were taken. -/
def Early (w : Run) : Prop := ∀ event ∈ w.log, preparing event.op = true

theorem early_uses {α : Type} {p : Py α} (used : p.Uses fun o => preparing o = true) :
    p.Preserves (perform i) Early := by
  refine preserves_of_uses used fun w o fault r w' prepares performed early event member => ?_
  obtain ⟨took, rfl, _⟩ := perform_next performed
  rcases List.mem_append.mp member with earlier | new
  · exact early event earlier
  · obtain rfl := List.mem_singleton.mp new
    exact prepares

theorem fromRules_early (early : ∀ event ∈ log, isRules event.op = false) :
    fromRules (log ++ more) = fromRules more := by
  induction log with
  | nil => rfl
  | cons event rest ih =>
    have first : isRules event.op = false := early event (List.mem_cons_self ..)
    rw [fromRules, List.cons_append, List.dropWhile_cons_of_pos (by simp [first])]
    exact ih fun event member => early event (List.mem_cons_of_mem _ member)

theorem early_unfailed (early : Early w) : ¬ Failed w.log := by
  have nothing : fromRules (w.log ++ []) = fromRules [] :=
    fromRules_early fun event member => preparing_rules (early event member)
  rw [List.append_nil] at nothing
  exact fun failed => failed.1 nothing

/-- What a failed start is to have undone. -/
def Judged (semanage : Option Semanage) (a : StartArgs) (labels : List Port) (x : Except Exc Unit) (w : Run) : Prop :=
  x = .error (.exit 1) → RolledBack w.log → (Undone semanage a.rules labels w ↔ Avoids semanage a labels w.log)

/-- The steps before the set-up, and the start of the service unless it is external. -/
def Provided (externalDaemon : Bool) (log : List Event) : Prop :=
  ∃ before : List Event, (∀ event ∈ before, preparing event.op = true) ∧ log = if externalDaemon then before
    else before ++ [⟨.startTor, .fate .ok⟩]

theorem provided_cases {externalDaemon : Bool} (provided : Provided externalDaemon log) {event : Event}
    (member : event ∈ log) :
    preparing event.op = true ∨ externalDaemon = false ∧ event.op = .startTor := by
  obtain ⟨before, prepares, rfl⟩ := provided
  cases externalDaemon with
  | true => exact Or.inl (prepares event member)
  | false =>
    rcases List.mem_append.mp member with earlier | started
    · exact Or.inl (prepares event earlier)
    · obtain rfl := List.mem_singleton.mp started
      exact Or.inr ⟨rfl, rfl⟩

theorem provided_rules {externalDaemon : Bool} (provided : Provided externalDaemon log) :
    ∀ event ∈ log, isRules event.op = false := by
  intro event member
  rcases provided_cases provided member with prepares | ⟨_, started⟩
  · exact preparing_rules prepares
  · rw [started]
    rfl

/-- Nothing but the service of Tor was created. -/
theorem provided_uncreated {externalDaemon : Bool} (provided : Provided externalDaemon log) {part : Part}
    (other : externalDaemon = true ∨ part.createdBy .startTor = false) : ¬ Created part log := by
  rintro ⟨event, member, _, creates⟩
  rcases provided_cases provided member with prepares | ⟨own, started⟩
  · rw [preparing_creates prepares part] at creates
    cases creates
  · rcases other with external | apart
    · rw [own] at external
      cases external
    · rw [started, apart] at creates
      cases creates

/-- The operation leaves the labels alone. -/
def unlabelling : Op → Bool
  | .startTor => false
  | .external what => what != "unlabel the ports"
  | _ => true

theorem preparing_unlabelling (prepares : preparing o = true) : unlabelling o = true := by
  cases o <;> simp_all [preparing, unlabelling]

theorem labelled_same {semanage : Option Semanage} {c : Builder.Config} {labels : List Port}
    (apart : ∀ event ∈ log, unlabelling event.op = true) : labelled semanage c labels log = labels := by
  induction log with
  | nil => rfl
  | cons event rest ih =>
    have first : relabel semanage c labels event = labels := by
      have leaves := apart event (List.mem_cons_self ..)
      unfold relabel
      split
      · split
        · simp_all [unlabelling]
        · simp_all [unlabelling]
        · rfl
      · rfl
    rw [labelled, List.foldl_cons, first]
    exact ih fun event member => apart event (List.mem_cons_of_mem _ member)

theorem provided_labelled {semanage : Option Semanage} {c : Builder.Config} {labels : List Port} {externalDaemon : Bool}
    (provided : Provided externalDaemon log) (apart : ∀ event ∈ more, unlabelling event.op = true) :
    labelled semanage c labels (log ++ more) =
      if externalDaemon then labels else labelPortsSelinux semanage c.transportPort c.dnsPort labels := by
  have still {labels : List Port} : labelled semanage c labels more = labels := labelled_same apart
  obtain ⟨before, prepares, rfl⟩ := provided
  have first : labelled semanage c labels before = labels :=
    labelled_same fun event member => preparing_unlabelling (prepares event member)
  unfold labelled at first still ⊢
  cases externalDaemon with
  | true => rw [if_pos rfl, List.foldl_append, first, still, if_pos rfl]
  | false =>
    rw [if_neg (by simp), List.foldl_append, List.foldl_append, first, still, if_neg (by simp)]
    rfl

theorem unit_gone {there : Bool} (apart : ∀ event ∈ log, event.op ≠ .startTor) (gone : there = false ∨ Unlinked log) :
    log.foldl linkUnit there = false := by
  induction log generalizing there with
  | nil =>
    rcases gone with rfl | ⟨_, member, _⟩
    · rfl
    · cases member
  | cons event rest ih =>
    refine ih (fun event member => apart event (List.mem_cons_of_mem _ member)) ?_
    rcases gone with rfl | ⟨unlinking, member, took, op⟩
    · have first := apart event (List.mem_cons_self ..)
      left
      unfold linkUnit
      split
      · split
        · contradiction
        · split <;> rfl
        · rfl
      · rfl
    · rcases List.mem_cons.mp member with rfl | later
      · left
        simp [linkUnit, took, op]
      · exact Or.inr ⟨unlinking, later, took, op⟩

theorem installing_apart (installs : installing o = true) :
    unlabelling o = true ∧ o ≠ .startTor ∧ Part.tor.createdBy o = false ∧ isRead o = false := by
  cases o <;> simp_all [installing, unlabelling, Part.createdBy, isRead]

/-- What the set-up adds to a run, when it stands alone. -/
structure Installed (externalDaemon : Bool) (x : Except Exc Unit) (w : Run) : Prop where
  told : Good w → x = .error (.exit 1) → Outcome externalDaemon w
  ops : ∀ event ∈ w.log, installing event.op = true
  lock : Created .lock w.log → w.host.lock ≠ .missing
  begins : ∃ fault rest, w.log = ⟨.external "pwd.getpwnam", fault⟩ :: rest

theorem install_installed {py : Interpreter} {a : StartArgs} {selected : Settings} {h : Host} :
    (install py a selected).Ensures (perform i) ⟨h, []⟩ (Installed a.externalDaemon) := by
  have blank : Blank ⟨h, []⟩ := ⟨by simp [Created], by simp [Created]⟩
  have unreplaced : Created .lock ([] : List Event) → h.lock ≠ .missing := by simp [Created]
  refine ensures_mono (ensures_both (install_told blank) (ensures_both (ensures_grown install_installing)
    (ensures_both (installing_lock install_installing ⟨h, []⟩ unreplaced) install_begins))) ?_
  rintro x w' ⟨told, ⟨more, log, ops⟩, lock, fault, rest, begins⟩
  refine ⟨told, ?_, lock, fault, rest, begins⟩
  rw [List.nil_append] at log
  rwa [log]

/-- After the set-up of a provided Tor, what remains is told by the log. -/
theorem installed_judged {semanage : Option Semanage} {a : StartArgs} {labels : List Port}
    {x : Except Exc Unit} {h : Host}
    (provided : Provided a.externalDaemon log) (installed : Installed a.externalDaemon x ⟨h, more⟩) :
    Judged semanage a labels x ⟨h, log ++ more⟩ := by
  intro exits rolledBack
  obtain ⟨_, ordinary, cleaned⟩ := rolledBack
  obtain ⟨fault, rest, begins⟩ := installed.begins
  have whole : fromRules (log ++ more) = more := by
    rw [fromRules_early (provided_rules provided), show more = _ from begins]
    rfl
  rw [whole] at ordinary cleaned
  obtain ⟨rolled, dropIn, overlay⟩ := installed.told ⟨ordinary, cleaned⟩ exits
  have only {part : Part} (other : a.externalDaemon = true ∨ part.createdBy .startTor = false) :
      Created part (log ++ more) ↔ Created part more := by
    simp [created_append, provided_uncreated provided other]
  have late : LateMount (log ++ more) ↔ LateMount more := by
    have unlate : ¬ LateMount log := mt lateMount_created (provided_uncreated provided (Or.inr rfl))
    simp [lateMount_append, unlate]
  have told := @provided_labelled _ _ semanage a.rules labels _ provided
    fun event member => (installing_apart (installed.ops event member)).1
  have unit : unitFile (log ++ more) = false := by
    rw [unitFile, List.foldl_append]
    refine unit_gone (fun event member => (installing_apart (installed.ops event member)).2.1) ?_
    cases external : a.externalDaemon with
    | true =>
      refine Or.inl (unit_gone (fun event member started => ?_) (Or.inl rfl))
      rcases provided_cases provided member with prepares | ⟨own, _⟩
      · rw [started] at prepares
        cases prepares
      · rw [external] at own
        cases own
    | false => exact Or.inr (rolled.tor external).2
  constructor
  · intro undone
    refine ⟨?_, fun mounted => ?_, fun created => ?_⟩
    · cases external : a.externalDaemon with
      | true => exact Or.inl rfl
      | false =>
        right
        intro port member
        refine undone.labels port ?_
        rw [told, external]
        exact member
    · exact overlay.mp (fun created => undone.parts .overlay ((only (Or.inr rfl)).mpr created)) (late.mp mounted)
    · exact undone.parts .lock created (installed.lock ((only (Or.inr rfl)).mp created))
  · intro avoids
    refine ⟨fun part created => ?_, unit, fun port member => ?_⟩
    · cases part with
      | table => exact fun there => there rolled.table
      | overlay => exact overlay.mpr (mt late.mpr avoids.mount) ((only (Or.inr rfl)).mp created)
      | dropIn => exact dropIn ((only (Or.inr rfl)).mp created)
      | lock => exact absurd created avoids.lock
      | tor =>
        cases external : a.externalDaemon with
        | false => simpa [Part.there] using (rolled.tor external).1
        | true =>
          obtain ⟨event, member, _, creates⟩ := (only (Or.inl external)).mp created
          rw [(installing_apart (installed.ops event member)).2.2.1] at creates
          cases creates
    · rw [told] at member
      rcases avoids.labels with external | none
      · rwa [external] at member
      · split at member
        · exact member
        · exact none port member

/-- A start whose set-up came to an end did not fail there. -/
theorem read_unfailed {externalDaemon : Bool} {event : Event} {rest : List Event}
    (provided : Provided externalDaemon log)
    (begins : ∃ fault rest, more = ⟨.external "pwd.getpwnam", fault⟩ :: rest) (read : isRead event.op = true) :
    ¬ Failed (log ++ more ++ event :: rest) := by
  rintro ⟨_, unread⟩
  obtain ⟨fault, later, rfl⟩ := begins
  rw [List.append_assoc, fromRules_early (provided_rules provided)] at unread
  have whole : fromRules (⟨.external "pwd.getpwnam", fault⟩ :: later ++ event :: rest) =
    ⟨.external "pwd.getpwnam", fault⟩ :: later ++ event :: rest := rfl
  have member : event ∈ fromRules (⟨.external "pwd.getpwnam", fault⟩ :: later ++ event :: rest) := by
    rw [whole]
    exact List.mem_append_right _ (List.mem_cons_self ..)
  rw [unread event member] at read
  cases read

end

theorem ensures_startTor {w : Run} {Q : Except Exc Unit → Run → Prop} {i : Nat} :
    (checked (step .startTor)).Ensures (perform i) w Q ↔ Attempted i w .startTor Q := by
  rw [ensures_checked, ensures_outcomes, forall_fate]
  simp [and_assoc, Host.outcome, Host.attempted, lateResult, Attempted, Except.bind]

/-- The start of the service is no part of the set-up that is rolled back. -/
theorem started_unfailed {w : Run} {event : Event} (early : Early w) (starts : event.op = .startTor) :
    ¬ Failed (w.log ++ [event]) := by
  intro failed
  refine failed.1 ?_
  rw [fromRules_early fun event member => preparing_rules (early event member)]
  simp [fromRules, starts, isRules]

/-- What becomes of an exception has no part in the run. -/
theorem ensures_orExit {α : Type} {i code : Nat} {catches : Exc → Bool} {p : Py α} {w : Run}
    {Q : Except Exc α → Run → Prop}
    (body : p.Ensures (perform i) w fun x w' => (∀ a, x = .ok a → Q (.ok a) w') ∧ ∀ e, x = .error e → ∀ e',
      Q (.error e') w') :
    (orExit code catches p).Ensures (perform i) w Q := by
  rw [orExit, ensures_handle]
  refine ensures_mono body fun x w' ended => ?_
  cases x with
  | ok a => exact ended.1 a rfl
  | error e =>
    by_cases exits : catches e = true
    · rw [caught, if_pos exits]
      exact ended.2 e rfl _
    · rw [caught, if_neg exits]
      exact ended.2 e rfl _

/-- Tor is provided, or the start ends before its set-up. -/
theorem provideTor_provided {externalDaemon : Bool} {i : Nat} {w : Run} (first : Early w) :
    (provideTor externalDaemon).Ensures (perform i) w
    fun x w' => (∃ u, x = .ok u) ∧ Provided externalDaemon w'.log ∨ (∃ e, x = .error e) ∧ ¬ Failed w'.log := by
  cases externalDaemon with
  | true =>
    refine ensures_mono (early_uses (external_preparing (by decide)) w first) fun x w' early => ?_
    cases x with
    | ok u => exact Or.inl ⟨⟨u, rfl⟩, w'.log, early, rfl⟩
    | error e => exact Or.inr ⟨⟨e, rfl⟩, early_unfailed early⟩
  | false =>
    refine ensures_orExit (ensures_startTor.mpr
      ⟨⟨fun u _ => ?_, by simp⟩, fun e => ⟨by simp, fun _ _ e' => ?_⟩, fun e => ⟨by simp, fun _ _ e' => ?_⟩⟩)
    · exact Or.inl ⟨⟨u, rfl⟩, w.log, first, rfl⟩
    · exact Or.inr ⟨⟨e', rfl⟩, started_unfailed first rfl⟩
    · exact Or.inr ⟨⟨e', rfl⟩, started_unfailed first rfl⟩

section
variable {py : Interpreter} {a : StartArgs} {semanage : Option Semanage} {labels : List Port} {i : Nat} {w : Run}

theorem unfailed_judged {x : Except Exc Unit} (unfailed : ¬ Failed w.log) : Judged semanage a labels x w :=
  fun _ rolledBack => absurd rolledBack.failed unfailed

/-- The steps before the set-up. -/
theorem judged_early {α : Type} {p : Py α} {f : α → Py Unit} (used : p.Uses fun o => preparing o = true)
    (first : Early w)
    (rest : ∀ b w', Early w' → (f b).Ensures (perform i) w' (Judged semanage a labels)) :
    (p >>= f).Ensures (perform i) w (Judged semanage a labels) :=
  preserves_then (early_uses used) first rest fun _ _ early => unfailed_judged (early_unfailed early)

theorem setUp_judged {selected : Settings} {k : Option Obj → Py Unit} (first : Early w) :
    (setUp py a selected >>= fun _ => readLock true >>= k).Ensures (perform i) w (Judged semanage a labels) := by
  rw [setUp_install, ensures_bind, ensures_bind]
  refine ensures_mono (provideTor_provided first) ?_
  rintro x w' (⟨⟨u, rfl⟩, provided⟩ | ⟨⟨e, rfl⟩, unfailed⟩)
  · have alone : (install py a selected).Ensures (perform i) ⟨w'.host, []⟩ (Installed a.externalDaemon) :=
      install_installed
    have shifted : (install py a selected).Ensures (perform i) ⟨w'.host, w'.log ++ []⟩ _ := ensures_shift alone
    rw [List.append_nil] at shifted
    refine ensures_mono shifted ?_
    rintro x ⟨h, log⟩ ⟨more, rfl, installed⟩
    cases x with
    | error e => exact installed_judged provided installed
    | ok u =>
      have begins : (readLock true >>= k).Ensures (perform i) ⟨h, w'.log ++ more⟩ fun _ w'' =>
          ∃ fault rest, w''.log = w'.log ++ more ++ ⟨.readLock, fault⟩ :: rest := ensures_begins
      refine ensures_mono begins ?_
      rintro y w'' ⟨fault, rest, log⟩
      refine unfailed_judged ?_
      rw [log]
      exact read_unfailed provided installed.begins rfl
  · exact unfailed_judged unfailed

end

/-- Exactly where it avoids them, a start that fails from `apply_rules` to `write_lock` leaves nothing that it
    created. -/
theorem startCommand_undoes (py : Interpreter) (a : StartArgs) (semanage : Option Semanage) (labels : List Port)
    (i : Nat) (h : Host) :
    (startCommand py a).Ensures (perform i) (.start h) fun x w' =>
      x = .error (.exit 1) → RolledBack w'.log →
        (Undone semanage a.rules labels w' ↔ Avoids semanage a labels w'.log) := by
  refine judged_early validateStart_preparing (by simp [Early, Run.start]) fun selected w first => ?_
  refine judged_early (p := step .registerHandlers) ⟨rfl, fun _ => trivial⟩ first fun _ w first => ?_
  refine judged_early (p := step (.ask "IPv6 is supported")) ⟨rfl, fun _ => trivial⟩ first fun _ w first => ?_
  refine judged_early checkSessionState_preparing first fun _ w first => ?_
  refine judged_early (external_preparing (by decide)) first fun _ w first => ?_
  refine judged_early ?_ first fun _ w first => setUp_judged first
  refine uses_catch (uses_bind ?_ fun _ => ?_) fun _ => trivial
  all_goals exact checked_uses ⟨rfl, fun _ => trivial⟩

/-! ### What remains -/

/-- A start with its defaults, on a host without systemd-resolved. -/
def plainStart : StartArgs :=
  { config := .ok {}, lock := {}, rules := ⟨107, 9041, 9054, true, false, true, none, none, none, false⟩ }

/-- A `semanage` that does what it is told. -/
def obliging : Semanage := ⟨fun _ => true, fun _ => true, fun _ => true⟩

def done (o : Op) : Event := ⟨o, .fate .ok⟩

/-- The run up to `apply_rules`. -/
def untilRules : List Event :=
  [done (.external "require root"), done (.external "require systemd"), done (.external "select the notifications"),
    done (.external "parse users, groups, bridges and ports"), done (.external "require DNSSEC compatibility"),
    done .registerHandlers, ⟨.ask "IPv6 is supported", .fate (.ready true)⟩, done .readLock,
    done (.external "preflight checks"),
    done .ensureRuntimeDir, done .prepareStore, done .startTor]

/-- The end of Tor and of the table, which is there or not. -/
def untilRolled (table : Bool) : List Event :=
  [done .stopTor, done (.external "unlink ttp-tor.service"), done (.external "systemctl daemon-reload"),
    done .nftFlush, done .nftDelete, done (.external "unlink ttp.rules")] ++ if table then [] else [done .nftList]

/-- `apply_rules` is refused by `nft`. -/
def refusedRules : List Event :=
  [done (.external "pwd.getpwnam"),
    ⟨.nftTransaction (Builder.buildRuleset plainStart.rules) 10, .fate (.fails .calledProcessError)⟩,
    done .nftFlush, done .nftDelete, done (.external "unlink ttp.rules"), done .nftList] ++ untilRolled false

theorem plainStart_selects :
    (plainStart.config.bind fun s => s.select .cpython plainStart.watchdog plainStart.notifications) = .ok {} := by
  simp only [plainStart, Except.bind, SessionSettings.Settings.select, Option.map_none, Option.getD_none]
  exact SessionSettings.default_valid .cpython

theorem refusedRules_runs : ∃ h, (startCommand .cpython plainStart).run (perform 0) (.start .fresh)
    ((untilRules ++ refusedRules).map Event.fault) =
    some (.error (.exit 1), ⟨h, untilRules ++ refusedRules⟩) := by
  rw [startCommand, validateStart, plainStart_selects]
  exact ⟨_, rfl⟩

/-- `write_lock` replaces the lock, and cannot remove the marker of an earlier stop. -/
def refusedMarker (data : Obj) : List Event :=
  [done (.external "pwd.getpwnam"), done (.nftTransaction (Builder.buildRuleset plainStart.rules) 10),
    done (.external "detect the active interface"), ⟨.ask "systemd-resolved is active", .fate (.ready false)⟩,
    done (.external "write resolv.conf"), done .isMounted, done .mountOverlay, done (.external "nft -s list table"),
    ⟨.uuid4, .fate (.name "s")⟩, done .ensureRuntimeDir, done (.replaceLock data),
    ⟨.unlinkMarker, .fate (.fails (.osError "OSError"))⟩] ++
  untilRolled true ++ [done .isMounted, done .unmountOverlay, done (.external "unlink resolv.conf")]

theorem refusedMarker_runs : ∃ h data, (startCommand .cpython plainStart).run (perform 0) (.start .fresh)
      ((untilRules ++ refusedMarker data).map Event.fault) =
      some (.error (.exit 1), ⟨h, untilRules ++ refusedMarker data⟩) ∧
    h.lock = .json (.obj data) := by
  rw [startCommand, validateStart, plainStart_selects]
  exact ⟨_, _, rfl, rfl⟩

theorem rolledBack_of {log rest : List Event} (whole : fromRules log = rest) (begun : rest ≠ [])
    (unread : ∀ event ∈ rest, isRead event.op = false)
    (ordinary : Ordinary rest) (cleaned : Cleaned rest) : RolledBack log := by
  subst whole
  exact ⟨⟨begun, unread⟩, ordinary, cleaned⟩

/-- A refused ruleset leaves the labels of the ports, a marker that cannot be removed the lock. -/
theorem startCommand_leaves :
    (∃ w', (startCommand .cpython plainStart).Ends (perform 0) (.start .fresh) (.error (.exit 1)) w' ∧
      RolledBack w'.log ∧
      (9041, "tcp") ∈ labelled (some obliging) plainStart.rules [] w'.log) ∧
    ∃ w' data, (startCommand .cpython plainStart).Ends (perform 0) (.start .fresh) (.error (.exit 1)) w' ∧
    RolledBack w'.log ∧
      w'.host.lock = .json (.obj data) := by
  constructor
  · obtain ⟨h, ran⟩ := refusedRules_runs
    refine ⟨_, run_ends ran, rolledBack_of (show _ = refusedRules from rfl) ?_ ?_ ?_ ⟨?_, ?_⟩, ?_⟩
    · simp [refusedRules]
    · simp [refusedRules, untilRolled, done, isRead]
    · simp [Ordinary, refusedRules, untilRolled, done]
    · simp [refusedRules, untilRolled, done, cleaning]
    · simp [refusedRules, untilRolled, done]
    · show (9041, "tcp") ∈ labelled (some obliging) plainStart.rules [] (untilRules ++ refusedRules)
      decide
  · obtain ⟨h, data, ran, there⟩ := refusedMarker_runs
    refine ⟨_, data, run_ends ran, rolledBack_of (show _ = refusedMarker data from rfl) ?_ ?_ ?_ ⟨?_, ?_⟩, there⟩
    · simp [refusedMarker]
    · simp [refusedMarker, untilRolled, done, isRead]
    · simp [Ordinary, refusedMarker, untilRolled, done]
    · simp [refusedMarker, untilRolled, done, cleaning]
    · simp [refusedMarker, untilRolled, done]

end Ttp.Rollback
