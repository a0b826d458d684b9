import Mathlib.Algebra.GroupWithZero.Nat
import Mathlib.Data.List.ReduceOption
import Ttp.Integrity

/-!
What the checks of a process report of the leak counters. A check examines the
counters one after the other and stops at the first with something new; what it
reports is the difference to the last reading that was examined, so the reports
of a counter that only grows add up to the last of its examined readings.
-/
namespace Ttp.Tally
open Ttp.Python Ttp.Accounts Ttp.Integrity
open Ttp.LeakCounters (leakCounters checkLeakCounters newSinceLastCheck)

/-! ### Differences of readings -/

/-- What each reading adds to the one before it, all of it where it is lower; a missing reading adds nothing. -/
def deltas : Nat → List (Option Nat) → List Nat
  | _, [] => []
  | previous, none :: rest => 0 :: deltas previous rest
  | previous, some current :: rest =>
    (if previous ≤ current then current - previous else current) :: deltas current rest

/-- The differences of readings that only grow add up. -/
theorem deltas_sum {previous : Nat} {readings : List (Option Nat)}
    (grows : (previous :: readings.reduceOption).IsChain (· ≤ ·)) :
    previous + (deltas previous readings).sum = readings.reduceOption.getLast?.getD previous := by
  induction readings generalizing previous with
  | nil => simp [deltas]
  | cons reading rest ih =>
    cases reading with
    | none =>
      rw [List.reduceOption_cons_of_none] at grows ⊢
      simpa [deltas] using ih grows
    | some current =>
      rw [List.reduceOption_cons_of_some] at grows ⊢
      obtain ⟨step, onwards⟩ := List.isChain_cons_cons.mp grows
      rw [List.getLast?_cons, Option.getD_some, ← ih onwards, deltas, if_pos step, List.sum_cons]
      omega

/-- A reading counts from the last one before it. -/
theorem deltas_at (previous current : Nat) (front back : List (Option Nat)) :
    (deltas previous (front ++ some current :: back))[front.length]? =
      some (if front.reduceOption.getLast?.getD previous ≤
        current then current - front.reduceOption.getLast?.getD previous
        else current) := by
  induction front generalizing previous with
  | nil => rfl
  | cons reading rest ih =>
    cases reading with
    | none => simpa [deltas, List.reduceOption_cons_of_none] using ih previous
    | some r =>
      rw [List.reduceOption_cons_of_some, List.getLast?_cons, Option.getD_some]
      simpa [deltas] using ih r

/-! ### What a check examines -/

/-- One counter as a check looked at it: its reading, and what is new of it. -/
structure Examination where
  name : String
  what : String
  current : Nat
  fired : Nat

/-- The failure that a check returns for a counter. -/
def alarm (what : String) (fired : Nat) : String × String :=
  ("firewall", s!"{what} reject rule matched {fired} packet(s) since the last check, which is only reachable when the NAT redirect has failed")

/-- The counters that the loop looks at: those that were read, up to the first with something new. -/
def examined (counters : String → Option Nat) : List (String × String) → (String → Nat) → List Examination
  | [], _ => []
  | (name, what) :: rest, baseline =>
    match counters name with
    | none => examined counters rest baseline
    | some current =>
      let (fired, baseline) := newSinceLastCheck baseline name current
      ⟨name, what, current, fired⟩ :: if fired ≠ 0 then [] else examined counters rest baseline

/-- The examination of one counter. -/
def lookAt (name : String) (looks : List Examination) : Option Examination := looks.find? (·.name == name)

/-- What a check reports for the counter: the packets that its alarm names, if it is one of that counter. -/
def Reports (what : String) (verdict : Except Exc (Option (String × String))) (n : Nat) : Prop :=
  if n = 0 then ∀ fired, verdict ≠ .ok (some (alarm what fired)) else verdict = .ok (some (alarm what n))

section
variable (counters : String → Option Nat)

theorem examined_sublist (watched : List (String × String)) (baseline : String → Nat) :
    ((examined counters watched baseline).map fun e => (e.name, e.what)).Sublist watched := by
  induction watched generalizing baseline with
  | nil => exact List.Sublist.slnil
  | cons w rest ih =>
    obtain ⟨name, what⟩ := w
    cases reading : counters name with
    | none => exact List.Sublist.cons _ (by simpa [examined, reading] using ih baseline)
    | some current =>
      by_cases quiet : (newSinceLastCheck baseline name current).1 = 0
      · simpa [examined, reading, quiet] using ih _
      · simp [examined, reading, quiet]

/-- A counter that was examined is found by its name. -/
theorem lookAt_member {looks : List Examination} (distinct : (looks.map (·.name)).Nodup) {e : Examination}
    (member : e ∈ looks) :
    lookAt e.name looks = some e := by
  induction looks with
  | nil => simp at member
  | cons first rest ih =>
    obtain ⟨fresh, distinct⟩ := List.nodup_cons.mp distinct
    rcases List.mem_cons.mp member with rfl | later
    · simp [lookAt]
    · have other : first.name ≠ e.name := fun same => fresh (List.mem_map.mpr ⟨e, later, same.symm⟩)
      simpa [lookAt, other] using ih distinct later

/-- The loop ends at the first counter with something new. -/
theorem examined_fired {watched : List (String × String)} {baseline : String → Nat} {e : Examination}
    (member : e ∈ examined counters watched baseline) (fired : e.fired ≠ 0) :
    (examined counters watched baseline).find? (·.fired != 0) = some e := by
  induction watched generalizing baseline with
  | nil => simp [examined] at member
  | cons w rest ih =>
    obtain ⟨name, what⟩ := w
    cases reading : counters name with
    | none =>
      simp only [examined, reading] at member ⊢
      exact ih member
    | some current =>
      by_cases quiet : (newSinceLastCheck baseline name current).1 = 0
      · simp only [examined, reading, quiet, ne_eq, not_true_eq_false, if_false, List.mem_cons] at member ⊢
        rcases member with rfl | later
        · exact absurd rfl fired
        · simpa [quiet] using ih later
      · simp only [examined, reading, ne_eq, quiet, not_false_eq_true, if_true, List.mem_singleton] at member ⊢
        simp [member, quiet]

/-- The loop fails with the alarm of the one examination that found something new. -/
theorem examined_alarm (watched : List (String × String)) (baseline : String → Nat) :
    (checkLeakCounters counters watched baseline).1 =
      ((examined counters watched baseline).find? (·.fired != 0)).map fun e => alarm e.what e.fired := by
  induction watched generalizing baseline with
  | nil => rfl
  | cons w rest ih =>
    obtain ⟨name, what⟩ := w
    cases reading : counters name with
    | none => simpa [checkLeakCounters, examined, reading] using ih baseline
    | some current =>
      by_cases quiet : (newSinceLastCheck baseline name current).1 = 0
      · simpa [checkLeakCounters, examined, reading, quiet] using ih _
      · simp [checkLeakCounters, examined, reading, quiet, alarm]

/-- A counter that the loop does not examine keeps its baseline; one that it does is new from there on,
    and its reading is remembered. -/
theorem examined_look (name : String) {watched : List (String × String)} (baseline : String → Nat)
    (distinct : (watched.map (·.1)).Nodup) :
    (checkLeakCounters counters watched baseline).2 name =
        ((lookAt name (examined counters watched baseline)).map (·.current)).getD (baseline name) ∧
      ∀ e ∈ lookAt name (examined counters watched baseline),
        e.fired = if baseline name ≤ e.current then e.current - baseline name else e.current := by
  induction watched generalizing baseline with
  | nil => exact ⟨rfl, by simp [examined, lookAt]⟩
  | cons w rest ih =>
    obtain ⟨other, what⟩ := w
    obtain ⟨fresh, distinct⟩ := List.nodup_cons.mp distinct
    cases reading : counters other with
    | none => simpa [checkLeakCounters, examined, reading] using ih baseline distinct
    | some current =>
      obtain ⟨kept, news⟩ := ih (newSinceLastCheck baseline other current).2 distinct
      by_cases same : other = name
      · subst same
        have remembered : (newSinceLastCheck baseline other current).2 other = current := Function.update_self ..
        have unseen : lookAt other (examined counters rest (newSinceLastCheck baseline other current).2) = none := by
          refine List.find?_eq_none.mpr fun e member named => fresh ?_
          have listed := (examined_sublist counters rest _).subset (List.mem_map.mpr ⟨e, member, rfl⟩)
          exact List.mem_map.mpr ⟨_, listed, by simpa using named⟩
        rw [unseen] at kept
        refine ⟨?_, by simp [examined, reading, lookAt, newSinceLastCheck]⟩
        by_cases quiet : (newSinceLastCheck baseline other current).1 = 0
        · simpa [checkLeakCounters, examined, reading, quiet, lookAt, remembered] using kept
        · simp [checkLeakCounters, examined, reading, quiet, lookAt, remembered]
      · have before : (newSinceLastCheck baseline other current).2 name = baseline name :=
          Function.update_of_ne (Ne.symm same) ..
        rw [before] at kept news
        by_cases quiet : (newSinceLastCheck baseline other current).1 = 0
        · simpa [checkLeakCounters, examined, reading, quiet, lookAt, same] using And.intro kept news
        · simpa [checkLeakCounters, examined, reading, quiet, lookAt, same] using before

/-- The words of the three alarms tell them apart. -/
theorem alarm_word {u v : String × String} (first : u ∈ leakCounters) (second : v ∈ leakCounters) {m n : Nat}
    (same : alarm u.2 m = alarm v.2 n) : u = v := by
  have begins (w : String × String) (member : w ∈ leakCounters) (k : Nat) :
      (alarm w.2 k).2.toList.take 3 = w.2.toList.take 3 := by
    have long : ∀ w ∈ leakCounters, 3 ≤ w.2.toList.length := by decide
    rw [show (alarm w.2 k).2.toList = w.2.toList ++ _ by simp [alarm, toString]; rfl]
    exact List.take_append_of_le_length (long w member)
  have apart : ∀ u ∈ leakCounters, ∀ v ∈ leakCounters, u.2.toList.take 3 = v.2.toList.take 3 → u = v := by decide
  exact apart u first v second
    ((begins u first m).symm.trans ((congrArg (·.2.toList.take 3) same).trans (begins v second n)))

/-- The loop reports what its examination of the counter found new. -/
theorem examined_reports {w : String × String} (member : w ∈ leakCounters) (baseline : String → Nat)
    {failure : Option (String × String)} (failed : (checkLeakCounters counters leakCounters baseline).1 = failure) :
    Reports w.2 (.ok failure) (((lookAt w.1 (examined counters leakCounters baseline)).map (·.fired)).getD 0) := by
  have sublist := examined_sublist counters leakCounters baseline
  have distinct : ((examined counters leakCounters baseline).map (·.name)).Nodup := by
    have names := sublist.map (·.1)
    rw [List.map_map] at names
    exact names.nodup (by decide)
  have listed (e : Examination) (here : e ∈ examined counters leakCounters baseline) :
      (e.name, e.what) ∈ leakCounters :=
    sublist.subset (List.mem_map.mpr ⟨e, here, rfl⟩)
  rw [examined_alarm] at failed
  unfold Reports
  split
  case isTrue nothing =>
    intro fired reported
    rw [← failed] at reported
    obtain ⟨e, found, same⟩ := Option.map_eq_some_iff.mp (Except.ok.inj reported)
    have here := List.mem_of_find?_eq_some found
    have positive : e.fired ≠ 0 := by simpa using List.find?_some found
    obtain rfl : (e.name, e.what) = w := alarm_word (listed e here) member same
    rw [lookAt_member distinct here] at nothing
    exact positive nothing
  case isFalse something =>
    cases look : lookAt w.1 (examined counters leakCounters baseline) with
    | none => simp [look] at something
    | some e =>
      simp only [look, Option.map_some, Option.getD_some] at something ⊢
      have here := List.mem_of_find?_eq_some look
      have named : e.name = w.1 := by simpa using List.find?_some look
      have unique : ∀ u ∈ leakCounters, ∀ v ∈ leakCounters, u.1 = v.1 → u = v := by decide
      have word : e.what = w.2 := congrArg Prod.snd (unique _ (listed e here) w member named)
      rw [← failed, examined_fired counters here something, Option.map_some, word]

end

/-! ### Sequences of checks -/

section
variable (py : Interpreter) (num : Numerals) (digest : String → String)

/-- What a check examines of the leak counters, nothing where it ends before them. -/
def looks (s : System) (baseline : String → Nat) : List Examination :=
  match readings py num digest s with
  | .error _ => []
  | .ok counters => examined (fun name => (counters name).map Int.toNat) leakCounters baseline

/-- What the checks of a process return, one after the other. -/
def verdicts : List System → (String → Nat) → List (Except Exc (Option (String × String)))
  | [], _ => []
  | s :: rest, baseline =>
    let (verdict, baseline) := checkSystemIntegrity py num digest s baseline
    verdict :: verdicts rest baseline

/-- The reading of the counter that each of the checks examined, if it examined one. -/
def examinedReadings (name : String) : List System → (String → Nat) → List (Option Nat)
  | [], _ => []
  | s :: rest, baseline =>
    (lookAt name (looks py num digest s baseline)).map (·.current) ::
      examinedReadings name rest (checkSystemIntegrity py num digest s baseline).2

variable {py num digest}

/-- A look at Tor fails with Tor. -/
theorem checkTor_blames {s : System} {component message : String}
    (stopped : checkTor s = .error (.failed component message)) :
    component = "tor" := by
  cases control : s.control with
  | error e => simp [checkTor, control, attempt, bind, Except.bind] at stopped
  | ok socket =>
    cases socket with
    | none =>
      cases printed : s.tor with
      | error e => simp [checkTor, control, printed, attempt, bind, Except.bind] at stopped
      | ok printed' =>
        simp only [checkTor, control, printed, attempt, bind, Except.bind, refuseIf] at stopped
        split at stopped
        · simp only [Except.error.injEq, Stop.failed.injEq] at stopped
          exact stopped.1.symm
        · simp at stopped
    | some answer =>
      cases answer with
      | ok => simp [checkTor, control, attempt, bind, Except.bind] at stopped
      | error e =>
        simp only [checkTor, control, attempt, bind, Except.bind] at stopped
        split at stopped
        · simp only [Except.error.injEq, Stop.failed.injEq] at stopped
          exact stopped.1.symm
        · simp at stopped

/-- What stops a check before or after the leak counters is no alarm. -/
theorem reports_stop {stop : Stop} {w : String × String} (member : w ∈ leakCounters)
    (other : ∀ component message, stop = .failed component message → component = "tor" ∨ component = "dns" ∨
      message.toList.head? = some 'n' ∨ message.toList.head? = some 'b') : Reports w.2 stop.outcome 0 := by
  intro fired reported
  cases stop with
  | raised e => simp [Stop.outcome] at reported
  | failed component message =>
    obtain ⟨firewall, worded⟩ := Prod.mk.inj (Option.some.inj (Except.ok.inj reported))
    have begins : (alarm w.2 fired).2.toList.head? = w.2.toList.head? := by
      have some : ∀ w ∈ leakCounters, w.2.toList ≠ [] := by decide
      simp [alarm, toString, List.head?_append, List.head?_eq_some_head (some w member)]
    have letters : ∀ w ∈ leakCounters, w.2.toList.head? ≠ some 'n' ∧ w.2.toList.head? ≠ some 'b' := by decide
    have letter : message.toList.head? = w.2.toList.head? := by rw [worded, ← begins]; rfl
    obtain ⟨n, b⟩ := letters w member
    rcases other component message rfl with tor | dns | nft | bypass
    · exact absurd (tor.symm.trans firewall) (by decide)
    · exact absurd (dns.symm.trans firewall) (by decide)
    · exact n (letter.symm.trans nft)
    · exact b (letter.symm.trans bypass)

/-- A check reports what is new of the counter, and remembers the reading that it examined. -/
theorem check_reports (s : System) (baseline : String → Nat) {w : String × String} (member : w ∈ leakCounters) :
    Reports w.2 (checkSystemIntegrity py num digest s baseline).1
        (((lookAt w.1 (looks py num digest s baseline)).map (·.fired)).getD 0) ∧
      (checkSystemIntegrity py num digest s baseline).2 w.1 =
        ((lookAt w.1 (looks py num digest s baseline)).map (·.current)).getD (baseline w.1) ∧
      ∀ e ∈ lookAt w.1 (looks py num digest s baseline),
        e.fired = if baseline w.1 ≤ e.current then e.current - baseline w.1 else e.current := by
  unfold looks checkSystemIntegrity
  cases read : readings py num digest s with
  | error stop =>
    refine ⟨reports_stop member fun component message failed => ?_, rfl, by simp [lookAt]⟩
    subst failed
    rcases blames_readings py num _ _ read with dns | ⟨_, nft | bypass⟩
    · exact Or.inr (Or.inl dns)
    · exact Or.inr (Or.inr (Or.inl nft))
    · exact Or.inr (Or.inr (Or.inr bypass))
  | ok counters =>
    have listed : (leakCounters.map (·.1)).Nodup := by decide
    obtain ⟨remembered, news⟩ := examined_look (fun name => (counters name).map Int.toNat) w.1 baseline listed
    cases looped : checkLeakCounters (fun name => (counters name).map Int.toNat) leakCounters baseline with
    | mk failure after =>
      have reported := examined_reports (fun name => (counters name).map Int.toNat) member baseline
        (congrArg Prod.fst looped)
      rw [looped] at remembered
      simp only [looped]
      cases failure with
      | some failure => exact ⟨reported, remembered, news⟩
      | none =>
        have quiet : ((lookAt w.1 (examined (fun name => (counters name).map Int.toNat) leakCounters baseline)).map
            (·.fired)).getD 0 = 0 := by
          by_contra fired
          rw [Reports, if_neg fired] at reported
          simp at reported
        cases tor : checkTor s with
        | ok _ => exact ⟨reported, remembered, news⟩
        | error stop =>
          refine ⟨?_, remembered, news⟩
          simp only [quiet]
          exact reports_stop member fun component message failed => Or.inl (checkTor_blames (failed ▸ tor))

/-- The checks report the differences of the readings that they examined. -/
theorem verdicts_report (checks : List System) (baseline : String → Nat) {w : String × String}
    (member : w ∈ leakCounters) :
    List.Forall₂ (Reports w.2) (verdicts py num digest checks baseline)
      (deltas (baseline w.1) (examinedReadings py num digest w.1 checks baseline)) := by
  induction checks generalizing baseline with
  | nil => exact List.Forall₂.nil
  | cons s rest ih =>
    obtain ⟨reported, remembered, news⟩ := check_reports s baseline member
    have onwards := ih (checkSystemIntegrity py num digest s baseline).2
    rw [remembered] at onwards
    cases look : lookAt w.1 (looks py num digest s baseline) with
    | none =>
      rw [look] at reported onwards
      simpa [verdicts, examinedReadings, look, deltas] using And.intro reported onwards
    | some e =>
      rw [look] at reported onwards
      rw [Option.map_some, Option.getD_some, news e look] at reported
      simpa [verdicts, examinedReadings, look, deltas] using And.intro reported onwards

end

/-- Over any checks of a process, each reports a number of packets of a leak counter. While the readings that
    were examined do not decrease, the reports add up to the last of them; one lower than the one examined
    before it is reported in full. -/
theorem reports_add_up (py : Interpreter) (num : Numerals) (digest : String → String) (checks : List System)
    (w : String × String) (member : w ∈ leakCounters) :
    ∃ counts, List.Forall₂ (Reports w.2) (verdicts py num digest checks fun _ => 0) counts ∧
      ((examinedReadings py num digest w.1 checks fun _ => 0).reduceOption.IsChain (· ≤ ·) →
        counts.sum = (examinedReadings py num digest w.1 checks fun _ => 0).reduceOption.getLast?.getD 0) ∧
      ∀ front back before current, (examinedReadings py num digest w.1 checks fun _ => 0) = front ++
      some current :: back →
        front.reduceOption.getLast? = some before → current < before → counts[front.length]? = some current := by
  refine ⟨_, verdicts_report checks (fun _ => 0) member, fun grows => ?_, ?_⟩
  · have chain : (0 :: (examinedReadings py num digest w.1 checks fun _ => 0).reduceOption).IsChain (· ≤ ·) := by
      generalize (examinedReadings py num digest w.1 checks fun _ => 0).reduceOption = readings at grows ⊢
      cases readings with
      | nil => simp
      | cons first rest => exact List.isChain_cons_cons.mpr ⟨Nat.zero_le _, grows⟩
    have sum := deltas_sum chain
    rwa [Nat.zero_add] at sum
  · intro front back before current readings last lower
    rw [readings, deltas_at, last, Option.getD_some, if_neg (Nat.not_le.mpr lower)]

/-- A system in which all is as it should be, and whose table has counted some DoT packets. -/
def counting (packets : Nat) : System where
  lock := .json (.obj [])
  link := none
  mounts := .ok ["ttp /etc/resolv.conf"]
  mountinfo := []
  resolvConf := .ok "nameserver ::1"
  dropIn := false
  resolved := .ok ""
  table := some ⟨"chain filter_out", "", [("dot_rejected", packets)], by simp⟩
  list := .works
  fingerprint := .works
  counting := .works
  garbled := false
  accounts :=
    { getpwnam := fun _ => none, getpwuid := fun _ => none, getgrnam := fun _ => none, getgrgid := fun _ => none }
  control := .ok (some (.ok ()))
  tor := .ok ""

/-- A reading of two packets, one that is missing, and one of five. -/
def growing : List System := [counting 2, { counting 4 with counting := .fails }, counting 5]

theorem growing_readings :
    examinedReadings .cpython .ascii id "dot_rejected" growing (fun _ => 0) = [some 2, none, some 5] := by
      decide +kernel

theorem growing_adds_up : ∃ counts,
    List.Forall₂ (Reports "DoT") (verdicts .cpython .ascii id growing fun _ => 0) counts ∧
    counts.sum = 5 := by
  obtain ⟨counts, reported, sum, _⟩ := reports_add_up .cpython .ascii id growing ("dot_rejected", "DoT") (by decide)
  refine ⟨counts, reported, ?_⟩
  rw [sum] <;> rw [growing_readings]
  · rfl
  · simp [List.reduceOption]

end Ttp.Tally
