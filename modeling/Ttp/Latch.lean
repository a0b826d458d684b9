import Mathlib.Data.List.Nodup
import Ttp.EmergencyHistory
import Ttp.RecordSize
import Ttp.Watchdog

/-!
The emergency latch over any number of calls of `request_emergency` and
`supervision_terminated` within a boot. A record that requests an emergency is
only ever replaced by one that does, so the latch stays; and as long as every
call could read the record before it, the record keeps a cause for every reason
that was written and stays below the size limit.
-/
namespace Ttp.Latch
open Ttp.Python Ttp.Evidence Ttp.Program Ttp.Machine Ttp.State Ttp.Records Ttp.Firewall Ttp.SessionSafety
  Ttp.EmergencyHistory Ttp.RecordSize
open Ttp.Containment (recordOf)
open Ttp.Watchdog (superviseCause)

/-! ### The causes of the callers -/

/-- The cause of `trigger_emergency_killswitch`. -/
def alertCause (component : String) : Diagnostic :=
  ⟨if component = "watchdog" then .watchdogUnavailable else .error, "watchdog.integrity_failed", component, "supervise",
    "Required session integrity failed", true⟩

def startFailed (message : String) : Diagnostic :=
  ⟨.watchdogUnavailable, "watchdog.start_failed", "watchdog", "start", message, true⟩

/-- The causes that the callers of `request_emergency` give it. -/
def callersCauses : List Diagnostic :=
  [superviseCause "session" "session.evidence_invalid", superviseCause "watchdog" "watchdog.emergency_latched",
    superviseCause "watchdog" "watchdog.check_timeout", superviseCause "watchdog" "watchdog.failed",
    superviseCause "dns" "watchdog.dns_integrity_failed",
    superviseCause "firewall" "watchdog.firewall_integrity_failed",
    superviseCause "tor" "watchdog.tor_integrity_failed",
    superviseCause "watchdog" "watchdog.watchdog_integrity_failed",
    alertCause "dns", alertCause "firewall", alertCause "tor",
    ⟨.torNegative, "tor.valid_negative", "tor", "verify",
      "A non-exempt verification request returned IsTor=false", true⟩,
    ⟨.watchdogUnavailable, "watchdog.unavailable", "watchdog", "check",
      "Required supervisor has no current operational evidence", true⟩,
    startFailed "Required watchdog did not become ready", startFailed "Requested supervisor could not start",
    ⟨.error, "session.emergency_latched", "session", "start",
      "Emergency remains latched until explicit termination", true⟩,
    terminatedCause]

theorem callers_short {d : Diagnostic} (member : d ∈ callersCauses) : Short d := by
  simp only [callersCauses, List.mem_cons, List.not_mem_nil, or_false] at member
  rcases member with rfl | rfl | rfl | rfl | rfl | rfl | rfl | rfl | rfl | rfl | rfl | rfl | rfl | rfl | rfl | rfl | rfl
  all_goals exact ⟨short (by decide), short (by decide), short (by decide), short (by decide)⟩

theorem failure_short {reason message : List Char} (fits : 2 + (reason.map charSize).sum ≤ 64)
    (fits' : 2 + (message.map charSize).sum ≤ 600) : Short (failure (String.ofList reason) (String.ofList message)) :=
  ⟨short fits, short (by decide), short (by decide), short fits'⟩

theorem inspected_short {check : KernelCheck} (inspected : Inspected check) : Short check.diagnostic := by
  obtain ⟨reason, message⟩ := inspected
  have worded : textSize check.message ≤ 600 := Nat.le_trans (textSize_le _) (by omega)
  refine ⟨?_, short (by decide), short (by decide), worded⟩
  simp only [List.mem_cons, List.not_mem_nil, or_false] at reason
  show textSize check.reason ≤ 64
  rcases reason with named | named | named | named | named
  all_goals
    rw [named]
    exact short (by decide)

/-! ### What a record keeps -/

/-- The causes that a record holds, against those that were written for its session. -/
structure Accounted (w : Chronicle) (session : String) (causes : List Diagnostic) : Prop where
  distinct : (causes.map (·.reason)).Nodup
  given : ∀ d ∈ causes, d ∈ callersCauses
  written : ∀ d ∈ causes, (session, d) ∈ w.persisted
  complete : ∀ d, (session, d) ∈ w.persisted → d.reason ∈ causes.map (·.reason)

/-- The record of a session that no call lost sight of. -/
inductive Stored (py : Interpreter) (floats : FloatText) (w : Chronicle) (session : String) : Prop where
  | absent (unrecorded : recordOf py .emergency session w.host.bootId (w.host.records .emergency session) = .ok none)
      (unwritten : ∀ d, (session, d) ∉ w.persisted)
  | present (now : ℚ) (applied : Json) (verified : Bool) (causes : List Diagnostic) (result : Option Result)
      (named : session ≠ "") (started : 0 ≤ now)
      (content : w.host.records .emergency session = .json (envelope session w.host.bootId now
        (emergencyData applied verified (causes.map fun d => .obj d.asDict) result)))
      (plain : flag applied = true) (accounted : Accounted w session causes)
      (fits : session.length = 36 → recordBytes floats (envelope session w.host.bootId now
        (emergencyData applied verified (causes.map fun d => .obj d.asDict) result)) ≤ maxRecordBytes)

/-- What holds after every call. -/
structure Kept (py : Interpreter) (floats : FloatText) (w : Chronicle) : Prop where
  uuid : py.isUuid w.host.bootId = true
  booted : w.host.bootId.length = 36
  stored : ∀ session, session ∉ w.lost → Stored py floats w session
  fits : ∀ a ∈ w.attempts, a.session.length = 36 → a.session ∉ w.lost → recordBytes floats a.payload ≤ maxRecordBytes

section
variable {py : Interpreter} {floats : FloatText} {w w' : Chronicle} {session : String}

/-- At most one cause for each reason that the callers have. -/
theorem distinct_few {causes : List Diagnostic} (distinct : (causes.map (·.reason)).Nodup)
    (given : ∀ d ∈ causes, d ∈ callersCauses) :
    causes.length ≤ 17 :=
  (List.subperm_of_subset (List.Nodup.of_map _ distinct) given).length_le

theorem recordOf_envelope {boot : String} {now : ℚ} {data : Obj} (named : session ≠ "") (uuid : py.isUuid boot = true)
    (started : 0 ≤ now) : recordOf py .emergency session boot (.json (envelope session boot now data)) =
      .ok (some ⟨session, boot, now, data⟩) := by
  simp [recordOf, Loaded.loads, Except.bind, payloadOf_envelope py session boot now data named uuid started]

/-! ### One call -/

/-- The evidence that a call goes on with: the causes that were kept, and its own at the end. -/
structure Evident (w : Chronicle) (session : String) (cause : Diagnostic) (prior : Prior) : Prop where
  plain : flag prior.applied = true
  few : prior.diagnostics.length ≤ 17
  brief : ∀ d ∈ prior.diagnostics, Short d
  causes : ∃ old, prior.causes = (old ++ [cause]).map (fun d => .obj d.asDict) ∧
    ((old ++ [cause]).map (·.reason)).Nodup ∧
    (∀ d ∈ old, d ∈ callersCauses ∧ (session, d) ∈ w.persisted) ∧
    ∀ d, (session, d) ∈ w.persisted → d.reason ∈ (old ++ [cause]).map (·.reason)

/-- The diagnostics with other reasons. -/
def others (cause : Diagnostic) (causes : List Diagnostic) : List Diagnostic :=
  causes.filter fun d => d.reason != cause.reason

theorem filter_causes {cause : Diagnostic} {causes : List Diagnostic} :
    (causes.map fun d => Json.obj d.asDict).filter (otherReason cause) = (others cause causes).map fun d =>
      .obj d.asDict := by
  rw [List.filter_map, others]
  refine congrArg _ (List.filter_congr fun d _ => ?_)
  simp [otherReason, Diagnostic.asDict, Obj.get, Json.isStr, bne, find?_cons]

theorem readCauses_diagnostics (causes : List Diagnostic) :
    readCauses (causes.map fun d => .obj d.asDict) = .ok causes := by
  induction causes with
  | nil => rfl
  | cons d rest ih => simp [readCauses, fromDict_asDict, ih, bind, Except.bind]

/-- A record that the code wrote is evidence without a diagnostic of its own. -/
theorem prior_stored {cause : Diagnostic} {applied : Json} {verified : Bool} {causes : List Diagnostic}
    {result : Option Result} :
    ∃ newCause, Prior.of cause (emergencyData applied verified (causes.map fun d => .obj d.asDict) result) =
      ⟨applied, (others cause causes ++ [cause]).map (fun d => .obj d.asDict), newCause, others cause causes⟩ := by
  have listed : ((emergencyData applied verified (causes.map fun d => .obj d.asDict) result).find? "causes").getD
    (.arr []) =
      .arr (causes.map fun d => .obj d.asDict) := by
    simp [emergencyData, find?_cons]
  have stated : (emergencyData applied verified (causes.map fun d => .obj d.asDict) result).get
      "applied" = applied := by
    simp [emergencyData, Obj.get, find?_cons]
  have objects : (causes.map fun d => Json.obj d.asDict).all isObject = true := by simp [isObject]
  refine ⟨(causes.map fun d => Json.obj d.asDict).all (otherReason cause), ?_⟩
  simp only [Prior.of, listed, stated, objects, if_true, filter_causes, readCauses_diagnostics,
    List.map_append, List.map_cons, List.map_nil]

theorem others_reasons {cause : Diagnostic} {causes : List Diagnostic} (distinct : (causes.map (·.reason)).Nodup) :
    ((others cause causes ++ [cause]).map (·.reason)).Nodup := by
  rw [List.map_append, List.map_singleton, List.nodup_append]
  refine ⟨distinct.sublist (List.filter_sublist.map _), List.nodup_singleton _, ?_⟩
  rintro a member b same rfl
  obtain ⟨d, inside, reason⟩ := List.mem_map.mp member
  have other := (List.mem_filter.mp inside).2
  rw [reason, List.mem_singleton.mp same] at other
  simp at other

/-- Evidence that could be read is what was kept. -/
theorem evidence_evident {cause : Diagnostic} {previous : Option Payload} {prior : Prior} (kept : Kept py floats w)
    (known : session ∉ w.lost) (current : Current py w.host session (.ok previous))
    (evidence : evidenceOf cause (.ok previous) = .ok prior) : Evident w session cause prior := by
  have read := current previous rfl
  cases kept.stored session known with
  | absent unrecorded unwritten =>
    obtain rfl : none = previous := by simpa [unrecorded] using read
    obtain rfl : Prior.none cause = prior := by simpa [evidenceOf] using evidence
    exact ⟨rfl, by simp [Prior.none], by simp [Prior.none], [], by simp [Prior.none], by simp, by simp,
      fun d member => absurd member (unwritten d)⟩
  | present now applied verified causes result named started content plain accounted fits =>
    rw [content, recordOf_envelope named kept.uuid started] at read
    obtain rfl := Except.ok.inj read
    obtain ⟨newCause, same⟩ := @prior_stored cause applied verified causes result
    obtain rfl := (Except.ok.inj evidence)
    simp only [same]
    have few : (others cause causes).length ≤ causes.length := List.length_filter_le _ _
    refine ⟨plain, Nat.le_trans few (distinct_few accounted.distinct accounted.given),
      fun d member => ?_, others cause causes, rfl,
      others_reasons accounted.distinct, fun d member => ?_, fun d member => ?_⟩
    · exact callers_short (accounted.given d (List.mem_filter.mp member).1)
    · have inside := (List.mem_filter.mp member).1
      exact ⟨accounted.given d inside, accounted.written d inside⟩
    · obtain ⟨e, inside, reason⟩ := List.mem_map.mp (accounted.complete d member)
      by_cases same : d.reason = cause.reason
      · simp [same]
      · refine List.mem_map.mpr ⟨e, List.mem_append_left _ (List.mem_filter.mpr ⟨inside, ?_⟩), reason⟩
        simpa [reason] using same

/-- The same records and the same notes of them. -/
structure Same (w w' : Chronicle) : Prop where
  bootId : w'.host.bootId = w.host.bootId
  records : ∀ session, w'.host.records .emergency session = w.host.records .emergency session
  persisted : w'.persisted = w.persisted
  lost : w'.lost = w.lost
  attempts : w'.attempts = w.attempts
  cause : w'.cause = w.cause

theorem same_kept (same : Same w w') (kept : Kept py floats w) : Kept py floats w' := by
  obtain ⟨bootId, records, persisted, lost, attempts, _⟩ := same
  obtain ⟨uuid, booted, stored, fits⟩ := kept
  refine ⟨bootId ▸ uuid, bootId ▸ booted, fun s known => ?_, by rw [attempts, lost]; exact fits⟩
  cases stored s (lost ▸ known) with
  | absent unrecorded unwritten =>
    exact .absent (by rw [records, bootId]; exact unrecorded) (by rw [persisted]; exact unwritten)
  | present now applied verified causes result named started content plain accounted fits =>
    obtain ⟨distinct, given, written, complete⟩ := accounted
    exact .present now applied verified causes result named started (by rw [records, bootId]; exact content) plain
      ⟨distinct, given, by rw [persisted]; exact written, by rw [persisted]; exact complete⟩
      (by rw [bootId]; exact fits)

theorem same_evident {cause : Diagnostic} {prior : Prior} (persisted : w'.persisted = w.persisted)
    (evident : Evident w session cause prior) :
    Evident w' session cause prior := by
  obtain ⟨plain, few, brief, causes⟩ := evident
  exact ⟨plain, few, brief, by rw [persisted]; exact causes⟩

/-- A reading that fails loses sight of the session. -/
theorem reads_kept {got : Except Exc (Option Payload)} (kept : Kept py floats w) : Kept py floats (w.reads got) := by
  have grown (s : String) (known : s ∉ (w.reads got).lost) : s ∉ w.lost := by
    intro member
    refine known ?_
    simp only [Chronicle.reads]
    split
    · exact member
    · exact List.mem_cons_of_mem _ member
  refine ⟨kept.uuid, kept.booted, fun s known => ?_, fun a member size known => kept.fits a member size (grown _ known)⟩
  cases kept.stored s (grown s known) with
  | absent unrecorded unwritten => exact .absent unrecorded unwritten
  | present now applied verified causes result named started content plain accounted fits =>
    exact .present now applied verified causes result named started content plain
      ⟨accounted.distinct, accounted.given, accounted.written, accounted.complete⟩ fits

/-- The record that a call writes is within the limit. -/
theorem evident_fits {cause : Diagnostic} {prior : Prior} {applied : Json} {verified : Bool}
    {result : Option Result} {now : ℚ}
    (evident : Evident w session cause prior) (caller : cause ∈ callersCauses) (booted : w.host.bootId.length = 36)
    (plain : flag applied = true)
    (brief : ∀ r, result = some r → r.diagnostics.length ≤ 40 ∧ ∀ d ∈ r.diagnostics, Short d)
    (sized : session.length = 36) :
    recordBytes floats (envelope session w.host.bootId now (emergencyData applied verified prior.causes result)) ≤
      maxRecordBytes := by
  obtain ⟨old, stated, distinct, given, _⟩ := evident.causes
  have callers : ∀ d ∈ old ++ [cause], d ∈ callersCauses := by
    intro d member
    rcases List.mem_append.mp member with before | own
    · exact (given d before).1
    · exact List.mem_singleton.mp own ▸ caller
  rw [stated]
  exact record_fits (Nat.le_of_eq sized) (Nat.le_of_eq booted) plain
    (Nat.le_trans (distinct_few distinct callers) (by decide))
    (fun d member => callers_short (callers d member)) brief

/-- A record that is written, or not, is one that keeps the causes. -/
theorem published_keeps {cause diagnostic : Diagnostic} {prior : Prior} {applied : Json} {verified : Bool}
    {result : Option Result}
    {x : Except Exc (List Diagnostic)}
    (published : Published session (emergencyData applied verified prior.causes result) diagnostic w x w')
    (kept : Kept py floats w) (evident : session ∉ w.lost → Evident w session cause prior) (own : w.cause = cause)
    (caller : cause ∈ callersCauses) (named : session ≠ "") (plain : session ∉ w.lost → flag applied = true)
    (brief : session ∉ w.lost → ∀ r, result = some r → r.diagnostics.length ≤ 40 ∧ ∀ d ∈ r.diagnostics, Short d) :
    Kept py floats w' ∧ (session ∉ w.lost → Evident w' session cause prior) ∧ w'.lost = w.lost ∧
      w'.cause = w.cause := by
  obtain ⟨uuid, booted, stored, fits⟩ := kept
  have fits' (now : ℚ) (done : Bool) : ∀ a ∈ (w.writes session (envelope session w.host.bootId now
      (emergencyData applied verified prior.causes result)) done).attempts, a.session.length = 36 → a.session ∉ w.lost →
      recordBytes floats a.payload ≤ maxRecordBytes := by
    intro a member sized known
    rcases List.mem_append.mp member with before | own
    · exact fits a before sized known
    · obtain rfl := List.mem_singleton.mp own
      exact evident_fits (evident known) caller booted (plain known) (brief known) sized
  cases published with
  | unsent => exact ⟨⟨uuid, booted, stored, fits⟩, evident, rfl, rfl⟩
  | raised => exact ⟨⟨uuid, booted, stored, fits⟩, evident, rfl, rfl⟩
  | refused now started =>
    have unchanged : (w.writes session (envelope session w.host.bootId now
        (emergencyData applied verified prior.causes result)) false).persisted = w.persisted := rfl
    refine ⟨⟨uuid, booted, fun s known => ?_, fits' now false⟩,
      fun known => same_evident unchanged (evident known), rfl, rfl⟩
    cases stored s known with
    | absent unrecorded unwritten => exact .absent unrecorded unwritten
    | present now applied verified causes result named started content plain accounted fits =>
      exact .present now applied verified causes result named started content plain
        ⟨accounted.distinct, accounted.given, accounted.written, accounted.complete⟩ fits
  | written now started =>
    have noted : ∀ s d, (s, d) ∈ (w.writes session (envelope session w.host.bootId now
        (emergencyData applied verified prior.causes result)) true).persisted ↔ (s = session ∧ d = cause) ∨
        (s, d) ∈ w.persisted := by
      intro s d
      simp [Chronicle.writes, own]
    refine ⟨⟨uuid, booted, fun s known => ?_, fits' now true⟩, fun known => ?_, rfl, rfl⟩
    · by_cases here : s = session
      · subst here
        obtain ⟨old, stated, distinct, given, complete⟩ := (evident known).causes
        refine .present now applied verified (old ++ [cause]) result named started ?_ (plain known)
          ⟨distinct, ?_, ?_, ?_⟩ ?_
        · simp [Chronicle.on, Host.setRecord, stated]
        · intro d member
          rcases List.mem_append.mp member with before | new
          · exact (given d before).1
          · exact List.mem_singleton.mp new ▸ caller
        · intro d member
          refine (noted s d).mpr ?_
          rcases List.mem_append.mp member with before | new
          · exact Or.inr (given d before).2
          · exact Or.inl ⟨rfl, List.mem_singleton.mp new⟩
        · intro d member
          rcases (noted s d).mp member with ⟨_, rfl⟩ | before
          · simp
          · exact complete d before
        · intro sized
          have bytes : recordBytes floats
            (envelope s w.host.bootId now (emergencyData applied verified prior.causes result)) ≤
              maxRecordBytes := evident_fits (evident known) caller booted (plain known) (brief known) sized
          rwa [stated] at bytes
      · have elsewhere (d : Diagnostic) : (s, d) ∈ (w.writes session (envelope session w.host.bootId now
            (emergencyData applied verified prior.causes result)) true).persisted ↔ (s, d) ∈ w.persisted := by
          simp [noted, here]
        cases stored s known with
        | absent unrecorded unwritten =>
          refine .absent ?_ fun d member => unwritten d ((elsewhere d).mp member)
          simpa [Chronicle.on, Host.setRecord, here] using unrecorded
        | present now applied verified causes result named started content plain accounted fits =>
          refine .present now applied verified causes result named started ?_ plain
            ⟨accounted.distinct, accounted.given,
            fun d member => (elsewhere d).mpr (accounted.written d member),
            fun d member => accounted.complete d ((elsewhere d).mp member)⟩ fits
          simpa [Chronicle.on, Host.setRecord, here] using content
    · obtain ⟨plain, few, brief, old, stated, distinct, given, complete⟩ := evident known
      refine ⟨plain, few, brief, old, stated, distinct, fun d member => ⟨(given d member).1, ?_⟩, fun d member => ?_⟩
      · exact (noted session d).mpr (Or.inr (given d member).2)
      · rcases (noted session d).mp member with ⟨_, rfl⟩ | before
        · simp
        · exact complete d before

/-- What was read is evident, as long as it could be read. -/
theorem reads_evident {cause : Diagnostic} {got : Except Exc (Option Payload)} {prior : Prior} (kept : Kept py floats w)
    (own : w.session = session) (current : Current py w.host session got) (evidence : evidenceOf cause got = .ok prior)
    (known : session ∉ (w.reads got).lost) : Evident (w.reads got) session cause prior := by
  cases got with
  | ok previous => exact same_evident (w := w) rfl (evidence_evident kept known current evidence)
  | error e => exact absurd (List.mem_cons.mpr (Or.inl own.symm)) known

theorem published_brief {data : Obj} {diagnostic : Diagnostic} {ds : List Diagnostic}
    (published : Published session data diagnostic w (.ok ds) w') (small : Short diagnostic) :
    ds.length ≤ 1 ∧ ∀ d ∈ ds, Short d := by
  cases published with
  | unsent => exact ⟨by simp, by simpa using small⟩
  | refused => exact ⟨by simp, by simpa using small⟩
  | written => exact ⟨by simp, by simp⟩

/-- The action changes no record, and ends with a flag and short diagnostics. -/
theorem enforced_same {repair : Bool} {requested applied : Json} {check : KernelCheck} {failed : List Diagnostic}
    (enforced : Enforced repair requested w (check, applied, failed) w') :
    Same w w' ∧ (flag requested = true → flag applied = true) ∧ Short check.diagnostic ∧ failed.length ≤ 1 ∧
      ∀ d ∈ failed, Short d := by
  have brief : Short applyFailed := ⟨short (by decide), short (by decide), short (by decide), short (by decide)⟩
  cases enforced with
  | kept check asked verified ended =>
    exact ⟨⟨rfl, fun _ => rfl, rfl, rfl, rfl, rfl⟩, id, inspected_short ended, by simp, by simp⟩
  | applied check seen before ended =>
    refine ⟨?_, fun _ => rfl, inspected_short ended, by simp, by simp⟩
    rcases before with rfl | rfl <;> exact ⟨rfl, fun _ => rfl, rfl, rfl, rfl, rfl⟩
  | failed check seen before ended =>
    refine ⟨?_, fun _ => rfl, inspected_short ended, by simp, by simpa using brief⟩
    rcases before with rfl | rfl <;> exact ⟨rfl, fun _ => rfl, rfl, rfl, rfl, rfl⟩

/-- What a call does under the transition lock keeps the causes. -/
theorem locked_keeps {cause : Diagnostic} {repair : Bool} {policy : List Diagnostic}
    {y : Except Exc (Option (Result × Bool))}
    (inside : Locked py session cause repair (Result.add {} (cause :: policy)) w y w') (kept : Kept py floats w)
    (own : w.session = session) (stated : w.cause = cause) (caller : cause ∈ callersCauses) (named : session ≠ "")
    (settled : policy = [] ∨ policy = [policyInvalid]) : Kept py floats w' := by
  cases inside with
  | idle => exact kept
  | undecided => exact kept
  | unread got => exact reads_kept kept
  | unlatched got prior e current evidence latch =>
    have evident := reads_evident kept own current evidence
    refine (published_keeps latch (reads_kept kept) evident stated caller named (fun known => ?_) (by simp)).1
    split
    · exact (evident known).plain
    · rfl
  | @ended w₁ w₂ _ got prior latched check applied failed written current evidence latch action evidence' =>
    have evident := reads_evident kept own current evidence
    have plain (known : session ∉ (w.reads got).lost) :
        flag (if repair then prior.applied else .bool false) = true := by
      split
      · exact (evident known).plain
      · rfl
    obtain ⟨kept₁, evident₁, lost₁, cause₁⟩ :=
      published_keeps latch (reads_kept kept) evident stated caller named plain (by simp)
    obtain ⟨same, flagged, checked, few, brief⟩ := enforced_same action
    have latchedBrief := published_brief latch (failure_short (by decide) (by decide))
    have evident₂ (known : session ∉ w₂.lost) : Evident w₂ session cause prior :=
      same_evident same.persisted (evident₁ (lost₁ ▸ same.lost ▸ known))
    refine (published_keeps evidence' (same_kept same kept₁) evident₂
      ((same.cause.trans cause₁).trans stated) caller named
      (fun known => flagged (plain (lost₁ ▸ same.lost ▸ known))) fun known => ?_).1
    rintro r ⟨⟩
    have few' := (evident₂ known).few
    have refusedBrief : Short policyInvalid := failure_short (by decide) (by decide)
    have policyBrief : policy.length ≤ 1 ∧ ∀ d ∈ policy, Short d := by
      rcases settled with rfl | rfl
      · exact ⟨by simp, by simp⟩
      · exact ⟨by simp, by simpa using refusedBrief⟩
    constructor
    · simp only [Result.add, List.length_append, List.length_cons, List.length_nil, List.nil_append]
      omega
    · intro d member
      simp only [Result.add, List.nil_append, List.mem_append, List.mem_cons, List.not_mem_nil, or_false] at member
      rcases member with (((rfl | own) | old) | late) | refused | rfl
      · exact callers_short caller
      · exact policyBrief.2 d own
      · exact (evident₂ known).brief d old
      · exact latchedBrief.2 d late
      · exact brief d refused
      · exact checked

theorem release_same : Same w (w.on (w.host.effect 0 .release)) := by
  simp only [Host.effect]
  split <;> exact ⟨rfl, fun _ => rfl, rfl, rfl, rfl, rfl⟩

/-- A call keeps the causes. -/
theorem requested_keeps {lock : Obj} {cause : Diagnostic} {repair : Bool} {x : Except Exc Result}
    (requested : Requested py lock cause repair w x w') (kept : Kept py floats w)
    (own : ∀ s, sessionIdOf lock = some s → w.session = s) (stated : w.cause = cause) (caller : cause ∈ callersCauses) :
    Kept py floats w' := by
  cases requested with
  | nameless => exact kept
  | unsettled => exact kept
  | refused => exact kept
  | @locked session _ _ identity settled _ _ inside =>
    have held : Kept py floats (w.on { w.host with transition := some 0 }) :=
      same_kept (w := w) ⟨rfl, fun _ => rfl, rfl, rfl, rfl, rfl⟩ kept
    exact same_kept release_same
      (locked_keeps inside held (own session identity) stated caller (sessionIdOf_named identity)
      (policy_cases settled))

/-- The session of the lock that `supervision_terminated` goes on with. -/
def terminatedSession (h : Host) : Option String → String
  | some expected => expected
  | none =>
    match lockOf true h.lock with
    | .ok (some lock) => (sessionIdOf lock).getD ""
    | _ => ""

/-- A termination that does anything requests an emergency for its session. -/
theorem terminated_ensures {expected : Option String} (unread : w.read = none) :
    (supervisionTerminated py expected).Ensures (perform py) w fun x w' => w' = w ∨ ∃ lock,
      (∀ s, sessionIdOf lock = some s → terminatedSession w.host expected = s) ∧
      Requested py lock terminatedCause true w x w' := by
  have requests {lock : Obj} {required : Bool}
    (own : ∀ s, sessionIdOf lock = some s → terminatedSession w.host expected = s) :
      (terminatedLock py lock required).Ensures (perform py) w fun x w' => w' = w ∨ ∃ lock,
        (∀ s, sessionIdOf lock = some s → terminatedSession w.host expected = s) ∧
        Requested py lock terminatedCause true w x w' := by
    unfold terminatedLock
    split
    · exact Or.inl rfl
    · exact ensures_mono (requestEmergency_ensures unread) fun x w' requested => Or.inr ⟨lock, own, requested⟩
  have named (session : String) : ∀ s,
    sessionIdOf [("session_id", .str session), ("watchdog_requested", .bool true)] = some s →
      session = s := by
    intro s identity
    simp only [sessionIdOf, Obj.get, find?_cons, if_true, Option.getD_some] at identity
    split_ifs at identity
    exact Option.some.inj identity
  rw [supervisionTerminated, ensures_bind, ensures_handle, ensures_bind, ensures_readLock]
  cases read : lockOf true w.host.lock with
  | error e =>
    simp only [afterwards, caught]
    split
    · cases expected with
      | none => exact Or.inl rfl
      | some expected => exact requests (named expected)
    · exact Or.inl rfl
  | ok found =>
    simp only [afterwards, caught, ensures_pure]
    cases expected with
    | none =>
      cases found with
      | none => exact Or.inl rfl
      | some lock => exact requests fun s identity => by simp [terminatedSession, read, identity]
    | some expected =>
      cases found with
      | none => exact requests (named expected)
      | some lock =>
        show Prog.Ensures (perform py) (if _ then _ else _) _ _
        split
        · exact Or.inl rfl
        case isFalse matching =>
          refine requests fun s identity => ?_
          cases empty : lock.isEmpty with
          | true =>
            obtain rfl := List.isEmpty_iff.mp empty
            simp [sessionIdOf, Obj.get] at identity
          | false =>
            have same : (lock.get "session_id").isStr expected = true := by simpa [empty] using matching
            unfold sessionIdOf at identity
            split at identity
            case h_1 stated =>
              split_ifs at identity
              rw [stated] at same
              rw [← Option.some.inj identity]
              exact (beq_iff_eq.mp same).symm
            case h_2 => simp at identity

/-! ### The latch -/

/-- A record of the session can be read and requests the emergency. -/
def Latched (py : Interpreter) (session : String) (w : Chronicle) : Prop :=
  ∃ payload, recordOf py .emergency session w.host.bootId (w.host.records .emergency session) = .ok (some payload) ∧
    payload.data.get "requested" = .bool true

/-- What reads as a record was written for a session and in a boot that have an identity. -/
theorem recordOf_named {boot : String} {file : Loaded} {payload : Payload}
    (read : recordOf py .emergency session boot file = .ok (some payload)) : session ≠ "" ∧ py.isUuid boot = true := by
  unfold recordOf at read
  split at read
  case h_1 found content =>
    split_ifs at read with owned
    · obtain ⟨rfl, rfl⟩ := owned
      obtain ⟨value, _, decoded⟩ := bind_ok content
      exact payloadOf_named py decoded
    · simp at read
  case h_2 =>
    unfold Containment.unreadable at read
    split_ifs at read
    all_goals simp at read

theorem same_latched (same : Same w w') (latched : Latched py session w) : Latched py session w' := by
  obtain ⟨payload, read, requested⟩ := latched
  exact ⟨payload, by rw [same.records, same.bootId]; exact read, requested⟩

theorem published_latched {s : String} {applied : Json} {verified : Bool} {causes : List Json}
    {result : Option Result} {diagnostic : Diagnostic}
    {x : Except Exc (List Diagnostic)} (published :
      Published s (emergencyData applied verified causes result) diagnostic w x w')
    (latched : Latched py session w) : Latched py session w' := by
  cases published with
  | unsent => exact latched
  | raised => exact latched
  | refused => exact latched
  | written now started =>
    obtain ⟨payload, read, requested⟩ := latched
    by_cases here : session = s
    · subst here
      obtain ⟨named, uuid⟩ := recordOf_named read
      refine ⟨⟨session, w.host.bootId, now, emergencyData applied verified causes result⟩, ?_, rfl⟩
      have written := @recordOf_envelope _ _ _ _ (emergencyData applied verified causes result) named uuid started
      simpa [Chronicle.on, Host.setRecord] using written
    · exact ⟨payload, by simpa [Chronicle.on, Host.setRecord, here] using read, requested⟩

theorem locked_latched {s : String} {cause : Diagnostic} {repair : Bool} {result : Result}
    {y : Except Exc (Option (Result × Bool))}
    (inside : Locked py s cause repair result w y w') (latched : Latched py session w) : Latched py session w' := by
  cases inside with
  | idle => exact latched
  | undecided => exact latched
  | unread => exact latched
  | unlatched got prior e current evidence latch => exact published_latched latch latched
  | ended got prior latchedBy check applied failed written current evidence latch action evidence' =>
    exact published_latched evidence' (same_latched (enforced_same action).1 (published_latched latch latched))

theorem requested_latched {lock : Obj} {cause : Diagnostic} {repair : Bool} {x : Except Exc Result}
    (requested : Requested py lock cause repair w x w') (latched : Latched py session w) : Latched py session w' := by
  cases requested with
  | nameless => exact latched
  | unsettled => exact latched
  | refused => exact latched
  | locked identity settled inside => exact same_latched release_same (locked_latched inside latched)

/-- A latch that is set is seen, or cannot be read. -/
theorem emergencyLatched_ensures {lock : Obj} (identity : sessionIdOf lock = some session)
    (latched : Latched py session w) :
    (emergencyLatched py lock).Ensures (perform py) w fun x _ => x ≠ .ok false := by
  obtain ⟨payload, read, requested⟩ := latched
  unfold emergencyLatched
  simp only [identity]
  rw [ensures_bind]
  rcases filename_named py (sessionIdOf_named identity) with named | encodes
  swap
  · rw [read_unencodable encodes]
    exact nofun
  refine ensures_mono (read_ensures named) fun x w' ended => ?_
  cases x with
  | error e => exact fun same => by simp at same
  | ok found =>
    have same := (ended.1 found rfl).symm.trans read
    obtain rfl := Except.ok.inj same
    simp only [afterwards, requested]
    exact fun same => by simp at same

end

/-! ### Any number of calls -/

inductive Call where
  | request (lock : Obj) (cause : Diagnostic) (repair requireDespiteMissingLock : Bool)
  | terminated (expectedSession : Option String)

def Call.cause : Call → Diagnostic
  | .request _ cause _ _ => cause
  | .terminated _ => terminatedCause

def Call.session (h : Host) : Call → String
  | .request lock _ _ _ => (sessionIdOf lock).getD ""
  | .terminated expected => terminatedSession h expected

/-- Calls with the causes of the callers, within a boot; in between, anything may happen to the host but
    to the emergency records. -/
def calls (py : Interpreter) : Succession Op Op.Res Exc Chronicle Fate Call Result where
  program
    | .request lock cause repair required => requestEmergency py lock cause repair required
    | .terminated expected => supervisionTerminated py expected
  perform := perform py
  able c _ := c.cause ∈ callersCauses
  begins c w := w.call (c.session w.host) c.cause
  environ w w' := ∃ h, w' = w.on h ∧ h.bootId = w.host.bootId ∧ ∀ s,
  h.records .emergency s = w.host.records .emergency s

/-- A boot in which no emergency was recorded yet; `boot_id` words a UUID. -/
structure Fresh (py : Interpreter) (w : Chronicle) : Prop where
  uuid : py.isUuid w.host.bootId = true
  booted : w.host.bootId.length = 36
  unrecorded : ∀ s, recordOf py .emergency s w.host.bootId (w.host.records .emergency s) = .ok none
  unwritten : w.persisted = []
  begun : w.attempts = []

/-- The record of a session: it can be read, requests the emergency and accounts for the causes that were
    written, each of which reads back. -/
structure Recorded (py : Interpreter) (floats : FloatText) (w : Chronicle) (session : String) (payload : Payload)
    (causes : List Diagnostic) : Prop where
  read : recordOf py .emergency session w.host.bootId (w.host.records .emergency session) = .ok (some payload)
  requested : payload.data.get "requested" = .bool true
  listed : payload.data.get "causes" = .arr (causes.map fun d => .obj d.asDict)
  parsed : readCauses (causes.map fun d => .obj d.asDict) = .ok causes
  accounted : Accounted w session causes
  fits : session.length = 36 → ∀ value, w.host.records .emergency session = .json value →
    recordBytes floats value ≤ maxRecordBytes

section
variable {py : Interpreter} {floats : FloatText} {w w' : Chronicle} {session : String}

theorem call_requested {c : Call} : ((calls py).program c).Ensures (perform py) ((calls py).begins c w) fun x w' =>
    w' = (calls py).begins c w ∨ ∃ lock repair, (∀ s, sessionIdOf lock = some s → c.session w.host = s) ∧
      Requested py lock c.cause repair ((calls py).begins c w) x w' := by
  cases c with
  | request lock cause repair required =>
    refine ensures_mono (requestEmergency_ensures rfl) fun x w' requested =>
      Or.inr ⟨lock, repair, fun s identity => ?_, requested⟩
    simp [Call.session, identity]
  | terminated expected =>
    refine ensures_mono (terminated_ensures rfl) fun x w' ended => ?_
    rcases ended with idle | ⟨lock, own, requested⟩
    · exact Or.inl idle
    · exact Or.inr ⟨lock, true, own, requested⟩

theorem reached_latched {w₀ : Chronicle} (latched : Latched py session w₀) (reached : (calls py).Reached (· = w₀) w) :
    Latched py session w := by
  refine Succession.invariant reached (by rintro _ rfl; exact latched) (fun c w _ latched => ?_) ?_
  · refine ensures_mono call_requested fun x w' ended => ?_
    rcases ended with rfl | ⟨lock, repair, _, requested⟩
    · exact latched
    · exact requested_latched requested latched
  · rintro w _ latched ⟨h, rfl, booted, recorded⟩
    exact same_latched ⟨booted, recorded, rfl, rfl, rfl, rfl⟩ latched

theorem reached_kept (reached : (calls py).Reached (Fresh py) w) : Kept py floats w := by
  refine Succession.invariant reached (fun w fresh => ?_) (fun c w able kept => ?_) ?_
  · refine ⟨fresh.uuid, fresh.booted, fun s _ => .absent (fresh.unrecorded s) ?_, ?_⟩
    · simp [fresh.unwritten]
    · simp [fresh.begun]
  · -- a call starts without attempts of its own
    have begun : Kept py floats ((calls py).begins c w) := by
      refine ⟨kept.uuid, kept.booted, fun s known => ?_, by simp [calls, Chronicle.call]⟩
      cases kept.stored s known with
      | absent unrecorded unwritten => exact .absent unrecorded unwritten
      | present now applied verified causes result named started content plain accounted fits =>
        exact .present now applied verified causes result named started content plain
          ⟨accounted.distinct, accounted.given, accounted.written, accounted.complete⟩ fits
    refine ensures_mono call_requested fun x w' ended => ?_
    rcases ended with rfl | ⟨lock, repair, own, requested⟩
    · exact begun
    · exact requested_keeps requested begun own rfl able
  · rintro w _ kept ⟨h, rfl, booted, recorded⟩
    exact same_kept ⟨booted, recorded, rfl, rfl, rfl, rfl⟩ kept

theorem kept_recorded {d : Diagnostic} (kept : Kept py floats w) (known : session ∉ w.lost)
    (written : (session, d) ∈ w.persisted) :
    ∃ payload causes, Recorded py floats w session payload causes := by
  cases kept.stored session known with
  | absent _ unwritten => exact absurd written (unwritten d)
  | present now applied verified causes result named started content plain accounted fits =>
    have read := @recordOf_envelope _ _ _ _ (emergencyData applied verified (causes.map fun d => .obj d.asDict) result)
      named kept.uuid started
    refine ⟨_, causes, content ▸ read, rfl, ?_, readCauses_diagnostics causes, accounted, fun sized value holds => ?_⟩
    · simp [emergencyData, Obj.get, find?_cons]
    · rw [content] at holds
      obtain rfl := Loaded.json.inj holds
      exact fits sized

end

/-- A latch that was set is never seen unset again, and a record that every call could read accounts for every
    cause that was written and stays within the limit. -/
theorem latch_kept (py : Interpreter) (floats : FloatText) :
    (∀ w₀ w session lock, Latched py session w₀ → (calls py).Reached (· = w₀) w → sessionIdOf lock = some session →
      (emergencyLatched py lock).Ensures (perform py) w fun x _ => x ≠ .ok false) ∧
    ∀ w, (calls py).Reached (Fresh py) w →
      (∀ session d, session ∉ w.lost → (session, d) ∈ w.persisted → ∃ payload causes,
        Recorded py floats w session payload causes) ∧
      ∀ a ∈ w.attempts, a.session.length = 36 → a.session ∉ w.lost → recordBytes floats a.payload ≤ maxRecordBytes := by
  refine ⟨fun w₀ w session lock latched reached identity => ?_, fun w reached =>
    ⟨fun session d known written => ?_, ?_⟩⟩
  · exact emergencyLatched_ensures identity (reached_latched latched reached)
  · exact kept_recorded (reached_kept reached) known written
  · exact (reached_kept reached).fits

def sessionId : String := "0b54c7ee-57dd-4a8d-a3f0-5f3f4ff31f6e"

/-- A chronicle at the beginning of a boot, on the host of the session. -/
def booted : Chronicle :=
  ⟨{ Host.fresh with lock := .json (.obj (requiredLock sessionId)) }, [], [], [], "", terminatedCause, none,
    none, false, []⟩

theorem booted_fresh : Fresh .cpython booted where
  uuid := by decide +kernel
  booted := by decide +kernel
  unrecorded _ := by simp [recordOf, booted, Host.fresh, Containment.unreadable, Loaded.loads, Except.bind]
  unwritten := rfl
  begun := rfl

/-- Every float at its longest. -/
def longest : FloatText := ⟨fun _ => 24, fun _ => Nat.le_refl 24⟩

def dnsCause : Diagnostic := superviseCause "dns" "watchdog.dns_integrity_failed"

def torCause : Diagnostic := superviseCause "tor" "watchdog.tor_integrity_failed"

def repairs (cause : Diagnostic) : Call := .request (requiredLock sessionId) cause true false

/-- A supervisor that finds the DNS wrong and has the rules installed, and then the daemon, where the first write
    fails. -/
def dnsSteps : List Fate :=
  List.replicate 5 .ok ++ [.ok, .time 1, .ok] ++ List.replicate 3 .ok ++ [.ok, .time 2, .ok, .ok]

def torSteps : List Fate :=
  List.replicate 5 .ok ++ [.ok, .time 3, .fails (.osError "OSError")] ++ [.ok] ++ [.ok, .time 4, .ok, .ok]

def run (cause : Diagnostic) (w : Chronicle) (fates : List Fate) : Option (Except Exc Result × Chronicle) :=
  ((calls .cpython).program (repairs cause)).run (perform .cpython) ((calls .cpython).begins (repairs cause) w) fates

/-- What the record of the session requests. -/
def requestedOf (w : Chronicle) : Option (Option Json) :=
  (recordOf .cpython .emergency sessionId w.host.bootId (w.host.records .emergency sessionId)).toOption.map
    fun found => found.map (·.data.get "requested")

theorem requestedOf_latched {w : Chronicle} (requested : requestedOf w = some (some (.bool true))) :
    Latched .cpython sessionId w := by
  obtain ⟨found, read, stated⟩ := Option.map_eq_some_iff.mp requested
  obtain ⟨payload, rfl, stated⟩ := Option.map_eq_some_iff.mp stated
  cases file : recordOf .cpython .emergency sessionId w.host.bootId (w.host.records .emergency sessionId) with
  | error e => simp [file, Except.toOption] at read
  | ok v =>
    rw [file] at read
    obtain rfl := Option.some.inj read
    exact ⟨payload, file, Option.some.inj stated⟩

/-- What there is to know of the two calls. -/
structure Summary where
  requested : Option (Option Json)
  persisted : List (String × Diagnostic)
  lost : List String
  attempts : List (String × Bool)
deriving DecidableEq

def summary (first second : Chronicle) : Summary :=
  ⟨requestedOf first, second.persisted, second.lost, second.attempts.map fun a => (a.session, a.done)⟩

/-- Two calls with different causes, a write of the second failing: the latch of the first stays, and the record holds
    both. -/
theorem booted_kept : ∃ w₁ w, Latched .cpython sessionId w₁ ∧ (calls .cpython).Reached (· = w₁) w ∧
    ((emergencyLatched .cpython (requiredLock sessionId)).Ensures (perform .cpython) w fun x _ => x ≠ .ok false) ∧
      (∃ payload causes, Recorded .cpython longest w sessionId payload causes ∧
        dnsCause.reason ∈ causes.map (·.reason) ∧
        torCause.reason ∈ causes.map (·.reason)) ∧
        w.attempts.map (·.done) = [false, true] ∧ ∀ a ∈ w.attempts, recordBytes longest a.payload ≤ maxRecordBytes := by
  have told : ((run dnsCause booted dnsSteps).bind fun first => (run torCause first.2 torSteps).map fun second =>
      summary first.2 second.2) = some ⟨some (some (.bool true)),
        [(sessionId, torCause), (sessionId, dnsCause), (sessionId, dnsCause)], [],
        [(sessionId, false), (sessionId, true)]⟩ := by
    decide +kernel
  obtain ⟨⟨_, w₁⟩, first, told⟩ := Option.bind_eq_some_iff.mp told
  obtain ⟨⟨_, w⟩, second, same⟩ := Option.map_eq_some_iff.mp told
  simp only [summary, Summary.mk.injEq] at same
  obtain ⟨requested, persisted, lost, attempts⟩ := same
  have latched := requestedOf_latched requested
  have able (cause : Diagnostic) (member : cause ∈ callersCauses) (w : Chronicle) :
    (calls .cpython).able (repairs cause) w := member
  have dns := able dnsCause (by decide) booted
  have tor := able torCause (by decide) w₁
  have later : (calls .cpython).Reached (· = w₁) w := .call (.start rfl) tor (run_ends second)
  have reached : (calls .cpython).Reached (Fresh .cpython) w :=
    .call (.call (.start booted_fresh) dns (run_ends first)) tor (run_ends second)
  obtain ⟨recorded, fits⟩ := (latch_kept .cpython longest).2 w reached
  obtain ⟨payload, causes, record⟩ := recorded sessionId dnsCause (by simp [lost]) (by simp [persisted])
  have complete := record.accounted.complete
  refine ⟨w₁, w, latched, later, (latch_kept .cpython longest).1 w₁ w sessionId _ latched later (by decide),
    ⟨payload, causes, record, complete _ (by simp [persisted]), complete _ (by simp [persisted])⟩, ?_,
    fun a member => ?_⟩
  · have done := congrArg (List.map Prod.snd) attempts
    rwa [List.map_map] at done
  · have own : (a.session, a.done) ∈ w.attempts.map fun a => (a.session, a.done) := List.mem_map_of_mem member
    have session : a.session = sessionId := by
      rw [attempts] at own
      simp only [List.mem_cons, Prod.mk.injEq, List.not_mem_nil, or_false] at own
      rcases own with ⟨same, _⟩ | ⟨same, _⟩ <;> exact same
    exact fits a member (by rw [session]; decide +kernel) (by simp [lost])

end Ttp.Latch
