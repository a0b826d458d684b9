import Ttp.Footprint
import Ttp.Notifications
import Ttp.Overclaim

/-!
What a notification can change of a containment or a check: its own diagnostics. The operations
of the host are the observed ones, the exchange with the agent and the record of the delivery the
hidden ones.
-/
namespace Ttp.NonInterference
open Ttp.Python Ttp.Evidence Ttp.Program Ttp.Machine Ttp.Records Ttp.SessionSafety Ttp.Watchdog Ttp.Start Ttp.TwoRuns
  Ttp.Notifications
open Ttp.SessionSettings (Settings)

/-! ### Results -/

/-- The diagnostics but for those of notifications. -/
def others (r : Result) : List Diagnostic := r.diagnostics.filter fun d => d.code ≠ .notificationFailed

/-- The codes of a containment. -/
def Contained (code : ExitCode) : Prop := code = .emergencyVerified ∨ code = .containmentUnconfirmed

theorem others_add (r : Result) (more : List Diagnostic) : others (r.add more) = others r ++ others ⟨more⟩ :=
  List.filter_append ..

theorem others_notices {more : List Diagnostic} (notices : ∀ d ∈ more, d.code = .notificationFailed) :
    others ⟨more⟩ = [] := by
  apply List.filter_eq_nil_iff.mpr
  intro d member
  simp [notices d member]

section
variable {r s : Result} {code : ExitCode}

theorem foldl_worst_mem (codes : List ExitCode) (first : ExitCode) :
    codes.foldl ExitCode.worst first ∈ first :: codes := by
  induction codes generalizing first with
  | nil => exact .head _
  | cons next rest ih =>
    rw [List.foldl_cons]
    have among := ih (first.worst next)
    rcases List.mem_cons.mp among with same | later
    · rw [same, ExitCode.worst]
      split
      · exact .tail _ (.head _)
      · exact .head _
    · exact .tail _ (.tail _ later)

theorem exitCode_mem (reported : r.exitCode ≠ .ok) : ∃ d ∈ r.diagnostics, d.active = true ∧ d.code = r.exitCode := by
  have member : r.exitCode ∈ (r.diagnostics.filter (·.active)).map (·.code) := by
    revert reported
    rw [Result.exitCode]
    split
    · intro reported
      exact absurd rfl reported
    case h_2 first rest codes =>
      intro _
      rw [codes]
      exact foldl_worst_mem rest first
  obtain ⟨d, kept, same⟩ := List.mem_map.mp member
  obtain ⟨member, active⟩ := List.mem_filter.mp kept
  exact ⟨d, member, active, same⟩

theorem contained_priority (contained : Contained code) {other : ExitCode} (same : other.priority = code.priority) :
    other = code := by
  rcases contained with rfl | rfl <;> cases other <;> first | rfl | cases same

/-- A containment is the exit code exactly where it is active and nothing outranks it. -/
theorem exitCode_contained (contained : Contained code) : r.exitCode = code ↔
    (∃ d ∈ r.diagnostics, d.active = true ∧ d.code = code) ∧ ∀ d ∈ r.diagnostics, d.active = true →
      d.code.priority ≤ code.priority := by
  constructor
  · rintro rfl
    constructor
    · apply exitCode_mem
      rintro ok
      rw [ok] at contained
      simp [Contained] at contained
    · intro d member active
      exact Overclaim.priority_exitCode member active
  · rintro ⟨⟨d, member, active, rfl⟩, outranks⟩
    have above := Overclaim.priority_exitCode member active
    apply contained_priority contained
    have reported : r.exitCode ≠ .ok := by
      intro ok
      rw [ok] at above
      rcases contained with code | code <;> rw [code] at above <;> exact absurd above (by decide)
    obtain ⟨top, present, live, same⟩ := exitCode_mem reported
    have below := outranks top present live
    rw [same] at below
    omega

theorem mem_others {d : Diagnostic} : d ∈ others r ↔ d ∈ r.diagnostics ∧ d.code ≠ .notificationFailed := by
  simp [others]

/-- Whether a containment is the exit code shows in the other diagnostics. -/
theorem exitCode_others (contained : Contained code) : r.exitCode = code ↔
    (∃ d ∈ others r, d.active = true ∧ d.code = code) ∧ ∀ d ∈ others r, d.active = true →
      d.code.priority ≤ code.priority := by
  rw [exitCode_contained contained]
  have different : code ≠ .notificationFailed := by
    rintro rfl
    simp [Contained] at contained
  have low : ExitCode.notificationFailed.priority ≤ code.priority := by
    rcases contained with rfl | rfl <;> decide
  constructor
  · rintro ⟨⟨d, member, active, rfl⟩, outranks⟩
    constructor
    · exact ⟨d, mem_others.mpr ⟨member, different⟩, active, rfl⟩
    · intro other kept
      exact outranks other (mem_others.mp kept).1
  · rintro ⟨⟨d, kept, active, rfl⟩, outranks⟩
    constructor
    · exact ⟨d, (mem_others.mp kept).1, active, rfl⟩
    · intro other member live
      by_cases notice : other.code = .notificationFailed
      · rw [notice]
        exact low
      · exact outranks other (mem_others.mpr ⟨member, notice⟩) live

theorem exitCode_agree (same : others r = others s) (contained : Contained code) :
    r.exitCode = code ↔ s.exitCode = code := by
  rw [exitCode_others contained, exitCode_others contained, same]

end

/-! ### The programs with their notifications -/

section
variable (py : Interpreter) (uuidHex : String → Option String) (lock : Obj)

/-- A notification is the exchange with the agent and the record of it, every other operation itself. -/
def carry : (o : Op) → Mixed Op.Res Contact.Res Exc o.Res
  | .emit event wait => hidden Op.Res (attempt (emit py uuidHex lock event wait))
  | o => Prog.op (Sum.inl o)

/-- The program, with its notifications delivered for the lock. -/
abbrev delivered {α : Type} (p : Py α) : Mixed Op.Res Contact.Res Exc α := expand (carry py uuidHex lock) p

/-- Not a notification. -/
def Silent (o : Op) : Prop := ∀ event wait, o ≠ .emit event wait

theorem carry_silent (o : Op) (silent : Silent o) : carry py uuidHex lock o = Prog.op (Sum.inl o) := by
  cases o with
  | emit event wait => exact absurd rfl (silent event wait)
  | _ => rfl

end

theorem silent_containing : Footprint.Containing Silent where
  boot := by simp [Silent]
  clock := by simp [Silent]
  reads := by simp [Silent]
  writes := by simp [Silent]
  installs := by simp [Silent]
  lists := by simp [Silent]
  acquires := by simp [Silent]
  releases := by simp [Silent]
  marker := by simp [Silent]
  lock := by simp [Silent]

/-- Ends of two runs that only differ in the diagnostics of notifications. -/
inductive Agree : Except Exc Result → Except Exc Result → Prop where
  | raised (e : Exc) : Agree (.error e) (.error e)
  | ended {r s : Result} (same : others r = others s) : Agree (.ok r) (.ok s)

theorem agree_refl (x : Except Exc Result) : Agree x x := by
  cases x with
  | ok r => exact .ended rfl
  | error e => exact .raised e

section
variable {py : Interpreter} {uuidHex : String → Option String} {lock : Obj} {possible : (o : Contact) → o.Res → Prop}
variable {α β : Type} {p : Py α}

/-- What comes after a program without notifications only has to be in lockstep for what that program comes to. -/
theorem silent_lockstep {S : Except Exc β → Except Exc β → Prop} {f g : α → Py β} (silent : p.Uses Silent)
    (raised : ∀ e, S (.error e) (.error e))
    (rest : ∀ a, Lockstep possible S (delivered py uuidHex lock (f a)) (delivered py uuidHex lock (g a))) :
    Lockstep possible S (delivered py uuidHex lock (p >>= f)) (delivered py uuidHex lock (p >>= g)) := by
  rw [delivered, delivered, expand_bind, expand_bind]
  apply lockstep_bind (lockstep_expand (carry_silent py uuidHex lock) silent)
  rintro x _ rfl
  cases x with
  | ok a => exact rest a
  | error e => exact .ended (x := .error e) (y := .error e) (raised e)

/-! ### What runs of the parts agree on -/

/-- Two notifications fail alike, or both leave diagnostics of their own. -/
inductive Delivered : Except Exc (Except Exc (List Diagnostic)) → Except Exc (Except Exc (List Diagnostic)) → Prop where
  | raised (e : Exc) : Delivered (.ok (.error e)) (.ok (.error e))
  | noticed {more more' : List Diagnostic} (own : ∀ d ∈ more, d.code = .notificationFailed)
      (own' : ∀ d ∈ more', d.code = .notificationFailed) : Delivered (.ok (.ok more)) (.ok (.ok more'))

theorem emit_lockstep {event : String} {wait : Bool} (gentle : ∀ o r, possible o r → Gentle py uuidHex lock wait o r) :
    Lockstep possible Delivered (delivered py uuidHex lock (step (.emit event wait)))
      (delivered py uuidHex lock (step (.emit event wait))) := by
  rw [delivered, expand_op, carry]
  rcases emit_gives py uuidHex lock event wait with ⟨e, raises⟩ | gives
  · rw [raises]
    exact Lockstep.ended (Delivered.raised e)
  · have gives := gives_able gentle gives
    apply lockstep_hidden (gives_attempt gives) (gives_attempt gives)
    rintro _ _ ⟨_, rfl, more, rfl, own⟩ ⟨_, rfl, more', rfl, own'⟩
    exact .noticed own own'

theorem others_more {r s : Result} {more more' : List Diagnostic} (same : others r = others s)
    (own : ∀ d ∈ more, d.code = .notificationFailed)
    (own' : ∀ d ∈ more', d.code = .notificationFailed) : others (r.add more) = others (s.add more') := by
  rw [others_add, others_add, same, others_notices own, others_notices own']

/-- Notifications without a reply leave the result what it is but for their diagnostics. -/
theorem notify_lockstep (able : ∀ o r, possible o r → Possible o r) {cause : Diagnostic} {result : Result}
    {newCause : Bool} :
    Lockstep possible Agree (delivered py uuidHex lock (notify lock cause result newCause))
      (delivered py uuidHex lock (notify lock cause result newCause)) := by
  have gentle (o : Contact) (r : o.Res) (allowed : possible o r) : Gentle py uuidHex lock false o r :=
    ⟨able o r allowed, fun waits => by cases waits⟩
  have excused (e : Exc) {r s : Result} (same : others r = others s) :
      Lockstep possible Agree (delivered py uuidHex lock (if e.isException then pure r else .raise e))
        (delivered py uuidHex lock (if e.isException then pure s else .raise e)) := by
    split
    · exact .ended (Agree.ended same)
    · exact .ended (Agree.raised e)
  unfold notify
  split
  case isFalse => exact .ended (agree_refl (.ok _))
  rw [delivered, expand_bind]
  apply lockstep_bind (R := Delivered)
  · split
    · exact emit_lockstep gentle
    · exact .ended (Delivered.noticed (by simp) (by simp))
  rintro _ _ (e | ⟨own, own'⟩)
  · exact excused e rfl
  · rename_i more more'
    have kept := others_more (Eq.refl (others result)) own own'
    show Lockstep possible Agree (delivered py uuidHex lock (step (.emit _ false) >>= _))
      (delivered py uuidHex lock (step (.emit _ false) >>= _))
    rw [delivered, delivered, expand_bind, expand_bind]
    apply lockstep_bind (emit_lockstep gentle)
    rintro _ _ (e | ⟨ownRest, ownRest'⟩)
    · exact excused e kept
    · exact .ended (Agree.ended (others_more kept ownRest ownRest'))

/-- A containment does the same whatever comes of its notifications. -/
theorem requestEmergency_lockstep (able : ∀ o r, possible o r → Possible o r) {cause : Diagnostic}
    {repair required : Bool} :
    Lockstep possible Agree (delivered py uuidHex lock (requestEmergency py lock cause repair required))
      (delivered py uuidHex lock (requestEmergency py lock cause repair required)) := by
  unfold requestEmergency
  split
  case h_1 => exact .ended (agree_refl (.ok _))
  apply silent_lockstep (uses_ofExcept _) .raised
  rintro ⟨timeout, policy⟩
  apply silent_lockstep (Footprint.serialized_uses silent_containing) .raised
  intro contained
  split
  · exact .ended (agree_refl (.ok _))
  · exact notify_lockstep able

/-- Results that agree, with the diagnostics of results that agree. -/
theorem agree_add {r s contained contained' : Result} (same : others r = others s)
    (contains : others contained = others contained') :
    others (r.add contained.diagnostics) = others (s.add contained'.diagnostics) := by
  rw [others_add, others_add, same]
  exact congrArg (others s ++ ·) contains

/-- A containment whose diagnostics are added to those of results that agree. -/
theorem adding_lockstep (able : ∀ o r, possible o r → Possible o r) {cause : Diagnostic}
    {repair required : Bool} {r s : Result}
    (same : others r = others s) : Lockstep possible Agree
      (delivered py uuidHex lock
        (do let contained ← requestEmergency py lock cause repair required; pure (r.add contained.diagnostics)))
      (delivered py uuidHex lock
        (do let contained ← requestEmergency py lock cause repair required; pure (s.add contained.diagnostics))) := by
  rw [delivered, delivered, expand_bind, expand_bind]
  apply lockstep_bind (requestEmergency_lockstep able)
  rintro _ _ (e | contains)
  · exact .ended (Agree.raised e)
  · exact .ended (Agree.ended (agree_add same contains))

theorem recordVerification_lockstep (able : ∀ o r, possible o r → Possible o r) {v : Verification} :
    Lockstep possible Agree (delivered py uuidHex lock (recordVerification py lock v))
      (delivered py uuidHex lock (recordVerification py lock v)) := by
  apply silent_lockstep ?_ .raised
  · intro written
    split
    · exact adding_lockstep able rfl
    · exact .ended (agree_refl (.ok _))
  · refine uses_catch ?_ fun _ => trivial
    split
    · refine uses_bind (Footprint.write_uses ?_ ?_ fun _ => ?_) fun _ => trivial <;> simp [Silent]
    · trivial
    · trivial

theorem checkSupervisor_lockstep (able : ∀ o r, possible o r → Possible o r) {r s : Result}
    (same : others r = others s) :
    Lockstep possible Agree (delivered py uuidHex lock (checkSupervisor py lock r))
      (delivered py uuidHex lock (checkSupervisor py lock s)) := by
  unfold checkSupervisor
  split
  · apply silent_lockstep ?_ .raised
    · intro observed
      split
      · exact .ended (Agree.ended same)
      · exact adding_lockstep able same
    · apply Footprint.observation_uses <;> simp [Silent]
  · exact .ended (Agree.ended same)

theorem announce_lockstep (gentle : ∀ o r, possible o r → Gentle py uuidHex lock true o r) {settings : Settings}
    {event : String} {r s : Result}
    (same : others r = others s) : Lockstep possible Agree (delivered py uuidHex lock (announce settings event r))
      (delivered py uuidHex lock (announce settings event s)) := by
  unfold announce
  split
  · rw [checked, bind_assoc, bind_assoc, delivered, delivered, expand_bind, expand_bind]
    apply lockstep_bind (emit_lockstep gentle)
    rintro _ _ (e | ⟨own, own'⟩)
    · exact .ended (Agree.raised e)
    · exact .ended (Agree.ended (others_more same own own'))
  · exact .ended (Agree.ended same)

end

/-! ### The check of a session -/

section
variable (py : Interpreter)

/-- `record_verification` and the rest of `check_session`. -/
def restOfCheck (lock : Obj) (settings : Settings) (previous : Option Payload) (verification : Verification) :
    Py Result := do
  let result ← recordVerification py lock verification
  let result ← checkSupervisor py lock result
  match checkedEvent previous verification result with
  | some event => announce settings event result
  | none => pure result

/-- What `check_session` does with a session that is not latched. -/
theorem checkSession_rest (config : Except Exc Settings) : checkSession py config = (do
    let lock := (← State.readLock true).getD []
    let settings ← Prog.ofExcept (if lock.isEmpty then config else sessionSettings py lock)
    let latched ← (if (lock.get "session_id").truthy then emergencyLatched py lock else pure false : Py Bool)
    if latched then
      let check ← Firewall.inspectEmergencyRules (SessionSettings.seconds settings.watchdog.checkTimeout)
      pure (none, Result.add {} [check.diagnostic])
    else
      let previous ← previousVerification py lock
      let verification ← step .verify
      let result ←
        (if lock.isEmpty then checkSupervisor py lock verification.result
          else restOfCheck py lock settings previous verification : Py Result)
      pure (some verification, result)) := by
  unfold checkSession
  congr 1
  funext found
  dsimp only
  congr 1
  funext settings
  congr 1
  funext latched
  split
  · rfl
  congr 1
  funext previous
  congr 1
  funext verification
  cases empty : (found.getD []).isEmpty with
  | true => rfl
  | false =>
    simp only [Bool.false_eq_true, if_false, restOfCheck, bind_assoc]
    congr 1
    funext recorded
    congr 1
    funext result
    cases checkedEvent previous verification result <;> rfl

end

section
variable {py : Interpreter} {uuidHex : String → Option String} {lock : Obj} {possible : (o : Contact) → o.Res → Prop}
variable {settings : Settings} {previous : Option Payload} {verification : Verification}

theorem checkedEvent_agree {r s : Result} (same : others r = others s) :
    checkedEvent previous verification r = checkedEvent previous verification s := by
  have verified : r.exitCode = .emergencyVerified ↔ s.exitCode = .emergencyVerified := exitCode_agree same (.inl rfl)
  have unconfirmed : r.exitCode = .containmentUnconfirmed ↔ s.exitCode = .containmentUnconfirmed :=
    exitCode_agree same (.inr rfl)
  rw [checkedEvent, checkedEvent]
  simp only [verified, unconfirmed]

/-- A check does the same up to its own notification. -/
theorem restOfCheck_lockstep {S : Except Exc Result → Except Exc Result → Prop}
    (able : ∀ o r, possible o r → Possible o r)
    (raised : ∀ e, S (.error e) (.error e)) (kept : ∀ r s, others r = others s → S (.ok r) (.ok s))
    (told : ∀ event r s, others r = others s →
      Lockstep possible S (delivered py uuidHex lock (announce settings event r))
      (delivered py uuidHex lock (announce settings event s))) :
    Lockstep possible S (delivered py uuidHex lock (restOfCheck py lock settings previous verification))
      (delivered py uuidHex lock (restOfCheck py lock settings previous verification)) := by
  rw [restOfCheck, delivered, expand_bind]
  apply lockstep_bind (recordVerification_lockstep able)
  rintro _ _ (e | recorded)
  · exact .ended (raised e)
  show Lockstep possible S (delivered py uuidHex lock (checkSupervisor py lock _ >>= _))
    (delivered py uuidHex lock (checkSupervisor py lock _ >>= _))
  rw [delivered, delivered, expand_bind, expand_bind]
  apply lockstep_bind (checkSupervisor_lockstep able recorded)
  rintro _ _ (e | same)
  · exact .ended (raised e)
  rename_i r s
  show Lockstep possible S
    (delivered py uuidHex lock
      (match checkedEvent previous verification r with | some event => announce settings event r | none => pure r))
    (delivered py uuidHex lock
      (match checkedEvent previous verification s with | some event => announce settings event s | none => pure s))
  rw [checkedEvent_agree same]
  split
  · exact told _ r s same
  · exact .ended (kept r s same)

/-- However the last notification ends, it is the last thing that is done. -/
theorem announce_last {event : String} {r s : Result} :
    Lockstep possible (fun _ _ => True) (delivered py uuidHex lock (announce settings event r))
    (delivered py uuidHex lock (announce settings event s)) := by
  have ends (r : Result) (x : Except Exc (Except Exc (List Diagnostic))) :
      (Prog.ofExcept x >>= fun sent => expand (carry py uuidHex lock)
        (Prog.ofExcept sent >>= fun more => pure (r.add more))) =
        Prog.ofExcept (x >>= fun sent => sent.map r.add) := by
    rcases x with e | (e | more) <;> rfl
  unfold announce
  split
  · rw [checked, bind_assoc, bind_assoc, delivered, delivered, expand_bind, expand_bind, expand_op, carry]
    apply lockstep_bind (lockstep_hidden (gives_any _) (gives_any _) fun _ _ _ _ => trivial)
    intro x y _
    rw [ends, ends]
    exact .ended trivial
  · exact .ended (x := .ok r) (y := .ok s) trivial

/-! ### Two runs -/

/-- The run ends with this exit code. -/
def Exits (x : Except Exc Result) (code : ExitCode) : Prop := ∃ r, x = .ok r ∧ r.exitCode = code

variable (py uuidHex lock possible) in
/-- Whatever comes of the notifications, runs of the program from one world whose operations turn out alike perform
    the same operations, leave the same world, and have ends that are related. -/
def Unaffected (R : Except Exc Result → Except Exc Result → Prop) (p : Py Result) : Prop :=
  ∀ (World Fate : Type) (perform : World → (o : Op) → Fate → Option (o.Res × World)) (w v v' : World)
    (log log' : List (Op × Fate))
    (x y : Except Exc Result), Runs perform possible (delivered py uuidHex lock p) w log x v →
    Runs perform possible (delivered py uuidHex lock p) w log' y v' → Alike log log' → log = log' ∧ v = v' ∧ R x y

/-- One of the ends is a containment exactly where the other is. -/
def SameContainment (x y : Except Exc Result) : Prop := ∀ code, Contained code → (Exits x code ↔ Exits y code)

theorem agree_sameContainment {x y : Except Exc Result} (agree : Agree x y) : SameContainment x y := by
  intro code contained
  cases agree with
  | raised e => rfl
  | ended same =>
    constructor
    · rintro ⟨_, ended, exits⟩
      cases ended
      exact ⟨_, rfl, (exitCode_agree same contained).mp exits⟩
    · rintro ⟨_, ended, exits⟩
      cases ended
      exact ⟨_, rfl, (exitCode_agree same contained).mpr exits⟩

theorem unaffected_of {R R' : Except Exc Result → Except Exc Result → Prop} {p : Py Result}
    (weaker : ∀ x y, R x y → R' x y)
    (lockstep : Lockstep possible R (delivered py uuidHex lock p) (delivered py uuidHex lock p)) :
    Unaffected py uuidHex lock possible R' p := by
  intro World Fate perform w v v' log log' x y first second alike
  obtain ⟨same, left, related⟩ := lockstep_runs lockstep first second alike
  exact ⟨same, left, weaker x y related⟩

end

/-- What comes of the notifications changes neither what a containment or a check does nor, for a containment and for
    a check without a reply that trips it, whether the exit code is that of a containment. -/
theorem notifications_unaffected (py : Interpreter) (uuidHex : String → Option String) (lock : Obj) :
    (∀ cause repair required, Unaffected py uuidHex lock Possible SameContainment
      (requestEmergency py lock cause repair required)) ∧
    ∀ settings previous verification,
      Unaffected py uuidHex lock Possible (fun _ _ => True) (restOfCheck py lock settings previous verification) ∧
      Unaffected py uuidHex lock (fun o r => Possible o r ∧ Harmless py uuidHex lock o r) SameContainment
        (restOfCheck py lock settings previous verification) := by
  refine ⟨fun cause repair required => ?_, fun settings previous verification => ⟨?_, ?_⟩⟩
  · exact unaffected_of (fun _ _ => agree_sameContainment) (requestEmergency_lockstep fun _ _ able => able)
  · refine unaffected_of (fun _ _ => id)
      (restOfCheck_lockstep (fun _ _ able => able) (fun _ => trivial) (fun _ _ _ => trivial) ?_)
    intro event r s _
    exact announce_last
  · refine unaffected_of (fun _ _ => agree_sameContainment)
      (restOfCheck_lockstep (fun _ _ able => able.1) .raised (fun _ _ => .ended) ?_)
    intro event r s same
    exact announce_lockstep (fun o r able => ⟨able.1, fun _ => able.2⟩) same

/-! ### A reply that trips the check -/

def session : String := "0f8fad5bd9cb469fa16570867728950e"

def notifying : Settings := { notifications := { enabled := .bool true } }

/-- A session with notifications to a user. -/
def notifyingLock : Obj :=
  [("session_id", .str session), ("settings", .obj (notifying.sections.map fun group => (group.1, .obj group.2))),
    ("notification_target", .obj [("uid", .int 1000)])]

/-- The digits of a UUID without its hyphens, in lower case. -/
def hexOf (text : String) : Option String :=
  if Interpreter.cpython.isUuid text then some (String.ofList ((text.toList.filter (· != '-')).map Char.toLower))
  else none

/-- An agent that is there, with what its reply comes to. -/
def agent (reply : Except Exc (ℕ × Content × ℚ)) : (o : Contact) → o.Res
  | .connect .. => .ok ()
  | .peer => .ok 1000
  | .send _ => .ok ()
  | .receive => reply
  | .retain .. => .ok ()

theorem agent_possible {reply : Except Exc (ℕ × Content × ℚ)} (able : ∀ e, reply = .error e → e.isOSError = true)
    (o : Contact) :
    Possible o (agent reply o) := by
  cases o with
  | receive => exact able
  | _ =>
    intro e failed
    cases failed

/-- A receipt that says it failed, and not why. -/
def unexplained : Content :=
  .json (.obj [("session_id", .str session), ("state", .str "failed"),
    ("instance_id", .str "7c9e6679742540de944be07fc1f90ae7"),
    ("progress_at", .int 100)])

def negative : Verification := ⟨.negative, "tor.valid_negative", none, none, []⟩

/-- The record of the verification is written, and the transition lock stays held by another process. -/
def held : List Fate := [.ok, .time 100, .ok, .fails (.stateError "Session transition lock timed out")]

def isUnconfirmed : Except Exc Result → Bool
  | .ok r => r.exitCode == .containmentUnconfirmed
  | .error _ => false

def isKeyError : Except Exc Result → Bool
  | .ok _ => false
  | .error e => e == .keyError

/-- A negative check that could not contain reports that where the agent does not reply in time, and raises where the
    reply does not say why the delivery failed. -/
theorem check_tripped :
    ¬Unaffected .cpython hexOf notifyingLock Possible SameContainment
      (restOfCheck .cpython notifyingLock notifying none negative) := by
  intro unaffected
  have late : ∀ o, Possible o (agent (.error (.osError "TimeoutError")) o) := by
    apply agent_possible
    rintro _ ⟨⟩
    rfl
  have replies : ∀ o, Possible o (agent (.ok (200, unexplained, 105)) o) := by
    apply agent_possible
    rintro _ ⟨⟩
  obtain ⟨log, x, v, ran, unconfirmed, turned⟩ : ∃ log x v, Runs (Host.perform 1) Possible
      (delivered .cpython hexOf notifyingLock (restOfCheck .cpython notifyingLock notifying none negative))
      Host.fresh log x v ∧
      isUnconfirmed x = true ∧ log.map (·.2) = held := follow_ends late (by decide +kernel)
  obtain ⟨log', y, v', ran', raised, turned'⟩ : ∃ log y v, Runs (Host.perform 1) Possible
      (delivered .cpython hexOf notifyingLock (restOfCheck .cpython notifyingLock notifying none negative))
      Host.fresh log y v ∧
      isKeyError y = true ∧ log.map (·.2) = held := follow_ends replies (by decide +kernel)
  obtain ⟨_, _, same⟩ := unaffected Host Fate (Host.perform 1) _ _ _ _ _ _ _ ran ran'
    (alike_same (turned.trans turned'.symm))
  cases x with
  | error e => cases unconfirmed
  | ok r =>
    obtain ⟨s, ended, _⟩ := (same .containmentUnconfirmed (.inr rfl)).mp
      ⟨r, rfl, by simpa [isUnconfirmed] using unconfirmed⟩
    rw [ended] at raised
    cases raised

end Ttp.NonInterference
