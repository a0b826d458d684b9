import Ttp.Integrity
import Ttp.LockJournal

/-!
What a check that finds nothing wrong vouches for, on a session that `start`
began: with a recorded fingerprint, the table that the session applied; a mount
on `resolv.conf`, which names local resolvers only; systemd-resolved as it was
configured; leak counters that stand still, as far as they can be read; and Tor.
-/
namespace Ttp.Verdict
open Ttp.Python Ttp.Program Ttp.Machine Ttp.State Ttp.Accounts Ttp.Text Ttp.Integrity Ttp.Start Ttp.Watchdog
  Ttp.LockJournal
open Ttp.LeakCounters (leakCounters checkLeakCounters checkLeakCounters_quiet)
open Ttp.SessionSettings (Settings)

/-! ### The lock of a session -/

/-- What the watchdog's start changes in the lock. -/
def watchdogKeys : List String := ["watchdog_requested", "watchdog_active", "watchdog_pid"]

/-- The lock is one that the start wrote, apart from what the watchdog's start changed. -/
def WrittenBy (a : StartArgs) (selected : Settings) (lock : Obj) : Prop := ∃ backup snapshot session,
  ∀ key ∉ watchdogKeys, lock.get key = Obj.get (startData a selected backup snapshot session) key

section
variable {py : Interpreter} {a : StartArgs} {selected : Settings} {w w' : Journal}

def Written (a : StartArgs) (selected : Settings) (w : Journal) : Prop :=
  ∀ lock : Obj, w.host.lock = .json (.obj lock) → WrittenBy a selected lock

theorem written_closed : Closed (Written a selected) := by
  rintro w w' ⟨_, lock⟩ written l there
  rcases lock with same | gone
  · exact written l (same ▸ there)
  · simp [gone] at there

theorem written_update {changes : Obj} (only : ∀ key ∈ changes.keys, key ∈ watchdogKeys) :
    (updateLockKeys changes).Preserves perform fun w => True ∧ Written a selected w := by
  refine update_preserves (fun w w' dropped held => ⟨trivial, written_closed w w' dropped held.2⟩)
    fun w held lock there => ?_
  intro u u' _ _ lock' 
  refine ⟨trivial, fun l holds => ?_⟩
  obtain rfl : lock.update changes = l := by simpa using lock'.symm.trans holds
  obtain ⟨backup, snapshot, session, same⟩ := held.2 lock there
  exact ⟨backup, snapshot, session, fun key other =>
    (get_update changes fun member => other (only key member)).trans (same key other)⟩

/-- A start that ends without an exception leaves such a lock, if it leaves one. -/
theorem startCommand_written : (startCommand py a).Ensures perform w fun x w' =>
    x = .ok () → ∃ selected, Chosen py a selected ∧ Written a selected w' := by
  have always : Closed fun _ => True := fun _ _ _ _ => trivial
  refine ensures_mono (startCommand_ensures always trivial (fun _ _ _ _ _ _ _ _ _ _ _ _ => trivial)
    (fun _ => written_closed) ?_ ?_) fun _ _ ended => ended.2
  · intro w selected backup snapshot session holds lock there
    obtain rfl : startData a selected backup snapshot session = lock := by simpa using holds.symm.trans there
    exact ⟨backup, snapshot, session, fun _ _ => rfl⟩
  · intro selected _
    refine startWatchdog_preserves (fun w w' dropped held => ⟨trivial, written_closed w w' dropped held.2⟩)
      (written_update (by decide)) fun pid => written_update (by simp [Obj.keys, watchdogKeys])

end

/-- A start that succeeded with supervision and left this lock, with what it recorded of the table it applied. -/
structure Started (py : Interpreter) (digest : String → String) (applied : Integrity.Installed) (lock : Obj) :
    Prop where
  ran : ∃ a w w', (startCommand py a).Ends perform w (.ok ()) w' ∧ w'.host.lock = .json (.obj lock) ∧
    ∃ attempt fingerprint, tableFingerprint digest attempt (some applied) = .ok fingerprint ∧
      a.lock.tableFingerprint = (fingerprint.map Json.str).getD .null
  supervised : lock.get "watchdog_active" = .bool true

/-- The lock records the fingerprint of the table, or none. -/
theorem started_fingerprint {py : Interpreter} {digest : String → String} {applied : Integrity.Installed} {lock : Obj}
    (started : Started py digest applied lock) :
    lock.get "table_fingerprint" = .str (digest applied.stateless) ∨ lock.get "table_fingerprint" = .null := by
  obtain ⟨a, w, w', ended, there, attempt, fingerprint, computed, recorded⟩ := started.ran
  obtain ⟨selected, _, written⟩ := ends_ensured ended startCommand_written rfl
  obtain ⟨backup, snapshot, session, same⟩ := written lock there
  have kept : lock.get "table_fingerprint" = a.lock.tableFingerprint := same "table_fingerprint" (by decide)
  rw [kept, recorded]
  cases attempt with
  | works =>
    obtain rfl : some (digest applied.stateless) = fingerprint := by simpa [tableFingerprint, outputOf] using computed
    exact Or.inl rfl
  | fails =>
    obtain rfl : none = fingerprint := by simpa [tableFingerprint, outputOf] using computed
    exact Or.inr rfl
  | raises e =>
    simp only [tableFingerprint, outputOf] at computed
    split at computed
    · obtain rfl := Except.ok.inj computed
      exact Or.inr rfl
    · simp at computed

/-! ### A clean check -/

/-- The check went on past the leak counters: it found nothing wrong, or Tor. -/
def PastCounters (verdict : Except Exc (Option (String × String))) : Prop :=
  verdict = .ok none ∨ ∃ message, verdict = .ok (some ("tor", message))

structure Verified (py : Interpreter) (num : Numerals) (digest : String → String)
    (applied : Integrity.Installed) (lock : Obj)
    (earlier : List System) (now : System) : Prop where
  table : (lock.get "table_fingerprint").truthy = true → ∃ t, now.table = some t ∧ t.stateless = applied.stateless
  mounted : Mounted now
  resolver : ∃ content, now.resolvConf = .ok content ∧ nameservers content ≠ [] ∧
    ∀ address, Lists content.toList address → isLocal address = true
  resolved : configured lock = .ok true → now.dropIn = true ∧ ∃ printed, now.resolved = .ok printed ∧
    isActive printed = true
  /-- A leak counter that can be read is where it was remembered, or was restarted. -/
  counters : Readable now → ∀ w ∈ leakCounters, ∀ n, now.packets w.1 = some n →
    n = remembered py num digest earlier w.1 ∨ n = 0
  /-- What is remembered is what the previous check read, if it got that far. -/
  previous : ∀ past before, earlier = past ++ [before] →
    PastCounters (checkSystemIntegrity py num digest before (remembered py num digest past)).1 → Readable before →
    ∀ w ∈ leakCounters, ∀ n, before.packets w.1 = some n → remembered py num digest earlier w.1 = n
  tor : now.control = .ok (some (.ok ())) ∨ now.control = .ok none ∧ ∃ printed, now.tor = .ok printed ∧
    isActive printed = true

section
variable {py : Interpreter} {num : Numerals} {digest : String → String} {s : System} {baseline : String → Nat}

/-- A check that went on past the leak counters found them quiet. -/
theorem pastCounters_quiet (past : PastCounters (checkSystemIntegrity py num digest s baseline).1) :
    ∃ counters, readings py num digest s = .ok counters ∧
      checkLeakCounters (fun name => (counters name).map Int.toNat) leakCounters baseline =
        (none, (checkSystemIntegrity py num digest s baseline).2) := by
  unfold checkSystemIntegrity at past ⊢
  cases read : readings py num digest s with
  | error stop =>
    simp only [read] at past
    cases stop with
    | raised e => simp [PastCounters, Stop.outcome] at past
    | failed component message =>
      obtain rfl : component = "tor" := by simpa [PastCounters, Stop.outcome] using past
      exact absurd read (spares_readings py num message)
  | ok counters =>
    refine ⟨counters, rfl, ?_⟩
    simp only [read] at past
    cases looped : checkLeakCounters (fun name => (counters name).map Int.toNat) leakCounters baseline with
    | mk alarm after =>
      cases alarm with
      | none =>
        simp only [looped]
        cases checkTor s <;> rfl
      | some failure =>
        have firewall := LeakCounters.checkLeakCounters_alarm _ looped
        simp [looped, PastCounters, Prod.ext_iff, firewall] at past

theorem remembered_append (past : List System) (before : System) : remembered py num digest (past ++ [before]) =
    (checkSystemIntegrity py num digest before (remembered py num digest past)).2 := by
  simp [remembered]

/-- After a check that went past the counters, what it read is remembered. -/
theorem remembered_previous {past : List System} {before : System}
    (went : PastCounters (checkSystemIntegrity py num digest before (remembered py num digest past)).1)
    (readable : Readable before)
    (w : String × String) (member : w ∈ leakCounters) {n : Nat} (counted : before.packets w.1 = some n) :
    remembered py num digest (past ++ [before]) w.1 = n := by
  obtain ⟨counters, read, quiet⟩ := pastCounters_quiet went
  obtain ⟨_, found, _⟩ := checkLeakCounters_quiet _ (by decide) quiet
  obtain ⟨_, _, _, _, _, listed⟩ := readings_ok py num read
  rw [remembered_append, found w member, readCounters_readable py num readable listed w.1, counted]
  rfl

/-- A check that finds nothing wrong, on the lock of a session that was started with supervision. -/
theorem check_verifies {applied : Integrity.Installed} {lock : Obj} {earlier : List System} {now : System}
    (injective : Function.Injective digest) (started : Started py digest applied lock)
    (there : now.lock = .json (.obj lock))
    (clean : (checkSystemIntegrity py num digest now (remembered py num digest earlier)).1 = .ok none) :
    Verified py num digest applied lock earlier now := by
  obtain ⟨counters, read, quiet⟩ := pastCounters_quiet (Or.inl clean)
  obtain ⟨found, same, dns, resolved, firewall, listed⟩ := readings_ok py num read
  obtain rfl : some lock = found := by simpa [there, lockOf, Loaded.loads] using same
  obtain ⟨mounted, content, readable, some, loopback⟩ := checkDns_ok dns
  obtain ⟨t, table, fingerprint⟩ := checkFirewall_ok num firewall
  obtain ⟨quiet', _, _⟩ := checkLeakCounters_quiet _ (by decide) quiet
  refine ⟨fun recorded => ⟨t, table, ?_⟩, mounted, ⟨content, readable, some, fun address lists => ?_⟩, ?_, ?_, ?_, ?_⟩
  · rcases started_fingerprint started with fingerprinted | none
    · have equal := eq_str.mp (fingerprint recorded)
      exact injective (Json.str.inj (equal.symm.trans fingerprinted))
    · simp [none, Json.truthy] at recorded
  · exact loopback address (lists_nameservers lists)
  · exact checkResolved_ok resolved
  · intro readable w member n counted
    exact quiet' w member n ((readCounters_readable py num readable listed w.1).trans counted)
  · rintro past before rfl went readable w member n counted
    exact remembered_previous went readable w member counted
  · refine checkTor_ok ?_
    generalize (checkSystemIntegrity py num digest now (remembered py num digest earlier)).2 = after at quiet
    simp only [checkSystemIntegrity, read, quiet] at clean
    cases tor : checkTor now with
    | ok _ => rfl
    | error stop => cases stop <;> simp [tor, Stop.outcome] at clean

end

/-! ### A session, and what its checks skip -/

def startArgs (fingerprint : Json) : StartArgs :=
  { config := .ok {}, watchdog := some true, lock := { tableFingerprint := fingerprint }
    rules := ⟨107, 9041, 9054, true, false, true, none, none, none, false⟩ }

/-- The host on which the session's watchdog has published its first evaluation. -/
def host : Host :=
  { Host.fresh with
    records := fun name session =>
      if name = .watchdog ∧ session = "a" then
        .json (Records.envelope "a" Host.fresh.bootId 9 [("value", .str "healthy"), ("instance_id", .str "i"),
          ("observed_at", .float (.finite 9))])
      else .missing }

def done (n : Nat) : List Fate := List.replicate n .ok

def steps : List Fate :=
  List.flatten [done 7, [.ready true], done 8, [.ready false], done 4, [.name "a"], done 13, [.unit ⟨"active", 7, "i"⟩],
    done 3, [.time 10], done 5,
    [.verification { state := .confirmed, reason := "", observedAt := some 10 }, .ok, .time 10],
    done 3]

/-- The lock that the start leaves. -/
def lockAfter (fingerprint : Json) : Obj :=
  match (startCommand .cpython (startArgs fingerprint)).run perform ⟨host, []⟩ steps with
  | some (.ok (), w) =>
    match w.host.lock with
    | .json (.obj lock) => lock
    | _ => []
  | _ => []

theorem lockAfter_ended {fingerprint : Json} (some : (lockAfter fingerprint).isEmpty = false) :
    ∃ w', (startCommand .cpython (startArgs fingerprint)).Ends perform ⟨host, []⟩ (.ok ()) w' ∧
      w'.host.lock = .json (.obj (lockAfter fingerprint)) := by
  unfold lockAfter at some ⊢
  split
  case h_1 w ran =>
    simp only [ran] at some
    split
    case h_1 lock there => exact ⟨w, run_ends ran, there⟩
    case h_2 other => simp at some
  case h_2 other =>
    split at some
    case h_1 w ran => exact absurd ran (other w)
    case h_2 => simp at some

def listing : String := "table inet ttp \x7b\n\tchain filter_out \x7b\n\t\x7d\n\x7d\n"

/-- The SHA-256 of the listing, and something else for everything else. -/
def digest (text : String) : String :=
  if text = listing then "dd46a889657bd9473cb21e65c6cbd9b17d847865836c7c4fa67be4a6a791e821" else "-" ++ text

theorem digest_injective : Function.Injective digest := by
  have other (rest : String) : "dd46a889657bd9473cb21e65c6cbd9b17d847865836c7c4fa67be4a6a791e821" ≠ "-" ++ rest := by
    intro same
    have chars := congrArg String.toList same
    simp at chars
  intro a b same
  by_cases first : a = listing <;> by_cases second : b = listing
  · exact first.trans second.symm
  · simp only [digest, first, second, if_true, if_false] at same
    exact absurd same (other b)
  · simp only [digest, first, second, if_true, if_false] at same
    exact absurd same.symm (other a)
  · simpa [digest, first, second] using same

def applied : Integrity.Installed := ⟨listing, listing, [("doh_rejected", 0), ("dot_rejected", 0)], by decide⟩

/-- What a check looks at in such a lock. -/
def lockSeen (fingerprint : Json) : Obj :=
  [("dns_backup", .obj [("mode", .str "overlay"), ("mount_target", .str "/etc/resolv.conf"),
    ("systemd_resolved", .bool false)]),
    ("table_fingerprint", fingerprint), ("bypass_users", .arr []), ("bypass_groups", .arr [])]

theorem lockAfter_with : (seen (lockAfter (.str (digest listing))),
    (lockAfter (.str (digest listing))).get "watchdog_active") =
    (seen (lockSeen (.str (digest listing))), .bool true) := by decide +kernel

theorem lockAfter_without : (seen (lockAfter .null), (lockAfter .null).get "watchdog_active") =
    (seen (lockSeen .null), .bool true) := by decide +kernel

theorem lockAfter_started {fingerprint : Json} {attempt : Attempt} {found : Option String}
    (known : (seen (lockAfter fingerprint), (lockAfter fingerprint).get "watchdog_active") =
      (seen (lockSeen fingerprint), .bool true))
    (computed : tableFingerprint digest attempt (some applied) = .ok found)
    (recorded : fingerprint = (found.map Json.str).getD .null) :
    Started .cpython digest applied (lockAfter fingerprint) := by
  obtain ⟨same, active⟩ := Prod.mk.inj known
  have some : (lockAfter fingerprint).isEmpty = false := (Prod.mk.inj same).1
  obtain ⟨w', ended, there⟩ := lockAfter_ended some
  exact ⟨⟨_, _, w', ended, there, attempt, found, computed, recorded⟩, active⟩

theorem started_with : Started .cpython digest applied (lockAfter (.str (digest listing))) :=
  @lockAfter_started _ .works _ lockAfter_with rfl rfl

theorem started_without : Started .cpython digest applied (lockAfter .null) :=
  @lockAfter_started _ .fails _ lockAfter_without rfl rfl

/-- A system that is as the session left it. -/
def intact (lock : Obj) : System where
  lock := .json (.obj lock)
  link := none
  mounts := .ok ["tmpfs /etc/resolv.conf tmpfs rw,nosuid,nodev 0 0"]
  mountinfo := ["611 30 0:25 /ttp/resolv.conf /etc/resolv.conf rw,nosuid,nodev - tmpfs tmpfs rw"]
  resolvConf := .ok "# Generated by TTP\nnameserver 127.0.0.1\n"
  dropIn := false
  resolved := .ok "inactive\n"
  table := some applied
  list := .works
  fingerprint := .works
  counting := .works
  garbled := false
  accounts :=
    { getpwnam := fun _ => none, getpwuid := fun _ => none, getgrnam := fun _ => none, getgrgid := fun _ => none }
  control := .ok (some (.ok ()))
  tor := .ok "active\n"

/-- The table with rules that accept everything. -/
def opened : Integrity.Installed :=
  let listing := "table inet ttp \x7b\n\tchain filter_out \x7b\n\t\taccept\n\t\x7d\n\x7d\n"
  ⟨listing, listing, [], by decide⟩

/-- The applied table, after a query left past the redirect. -/
def leaking : Integrity.Installed := ⟨listing, listing, [("doh_rejected", 0), ("dot_rejected", 1)], by decide⟩

/-- The system with an opened table. -/
def openedUp (lock : Obj) : System := { intact lock with table := some opened }

/-- The system with a leaking table, whose counters cannot be listed. -/
def leakingUnread (lock : Obj) : System := { intact lock with table := some leaking, counting := .fails }

/-- The system with a mount on `resolv.conf` that a container runtime made. -/
def foreignMount (lock : Obj) : System :=
  { intact lock with
    mounts := .ok ["/dev/sda1 /etc/resolv.conf ext4 rw,relatime 0 0"]
    mountinfo := ["480 460 8:1 /var/lib/docker/containers/1/resolv.conf /etc/resolv.conf rw,relatime - ext4 /dev/sda1 rw"] }

/-- A check of the system on the lock of the session finds nothing wrong if one on what it sees of the lock does. -/
theorem clean_seen (s : System) {fingerprint : Json}
    (known : (seen (lockAfter fingerprint), (lockAfter fingerprint).get "watchdog_active") =
      (seen (lockSeen fingerprint), .bool true))
    {baseline : String → Nat}
    (clean : (checkSystemIntegrity .cpython .ascii digest
      { s with lock := .json (.obj (lockSeen fingerprint)) } baseline).1 = .ok none) :
    (checkSystemIntegrity .cpython .ascii digest { s with lock := .json (.obj (lockAfter fingerprint)) } baseline).1 =
      .ok none := by
  rw [check_seen _ _ (Prod.mk.inj known).1]
  exact clean

theorem intact_clean : (checkSystemIntegrity .cpython .ascii digest (intact (lockAfter (.str (digest listing))))
    fun _ => 0).1 = .ok none :=
  clean_seen (intact []) lockAfter_with (by decide +kernel)

theorem intact_verified : Verified .cpython .ascii digest applied (lockAfter (.str (digest listing))) []
    (intact (lockAfter (.str (digest listing)))) :=
  check_verifies digest_injective started_with rfl intact_clean

/-- After the earlier checks, one on the lock of a supervised session finds nothing wrong. -/
def FindsNothing (lock : Obj) (earlier : List System) (now : System) : Prop :=
  Started .cpython digest applied lock ∧ now.lock = .json (.obj lock) ∧
    (checkSystemIntegrity .cpython .ascii digest now (remembered .cpython .ascii digest earlier)).1 = .ok none

/-- A check may find nothing wrong although the table is not the applied one, although a leak counter grew since the
    previous check, and although what is mounted on `resolv.conf` is not the overlay. -/
theorem check_skips : Function.Injective digest ∧
    (∃ lock now t, FindsNothing lock [] now ∧ now.table = some t ∧ t.stateless ≠ applied.stateless) ∧
    (∃ lock before now m n, FindsNothing lock [before] now ∧ FindsNothing lock [] before ∧
      before.packets "dot_rejected" = some m ∧ now.packets "dot_rejected" = some n ∧ m < n) ∧
    (∃ lock now, FindsNothing lock [] now ∧ isTtpMount now.mountinfo (target now) = false) := by
  refine ⟨digest_injective, ?_, ?_, ?_⟩
  · refine ⟨_, openedUp (lockAfter .null), opened, ⟨started_without, rfl, ?_⟩, rfl, by decide⟩
    exact clean_seen (openedUp []) lockAfter_without (by decide +kernel)
  · refine ⟨_, intact (lockAfter (.str (digest listing))), leakingUnread (lockAfter (.str (digest listing))), 0, 1,
      ⟨started_with, rfl, ?_⟩, ⟨started_with, rfl, intact_clean⟩, rfl, rfl, by decide⟩
    exact clean_seen (leakingUnread []) lockAfter_with (by decide +kernel)
  · refine ⟨_, foreignMount (lockAfter (.str (digest listing))), ⟨started_with, rfl, ?_⟩, by decide +kernel⟩
    exact clean_seen (foreignMount []) lockAfter_with (by decide +kernel)

end Ttp.Verdict
