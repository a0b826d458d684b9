import Ttp.Accounts
import Ttp.LeakCounters
import Ttp.State
import Ttp.Text

/-!
`check_system_integrity` of `ttp/watchdog/integrity.py`, with `table_fingerprint`
and `read_counters` of `firewall/runner.py`: a sequence of questions to the live
system, each of which may fail or be skipped. What a check that finds nothing
wrong says about the system is `Verified`.
-/
namespace Ttp.Integrity
open Ttp.Python Ttp.Machine Ttp.State Ttp.Accounts Ttp.Text
open Ttp.LeakCounters (leakCounters checkLeakCounters)

/-! ### The live system -/

/-- The `inet ttp` table as `nft` lists it. -/
structure Installed where
  /-- `nft list table inet ttp`. -/
  listing : String
  /-- `nft -s list table inet ttp`, without the counts. -/
  stateless : String
  /-- The named counters and their packets. -/
  counters : List (String × Nat)
  distinct : (counters.map (·.1)).Nodup

def Installed.packets (t : Installed) (name : String) : Option Nat := (t.counters.find? (·.1 == name)).map (·.2)

/-- How a command ends that can do its work: with its output, with a failure of its own, or with an exception. -/
inductive Attempt where
  | works
  | fails
  | raises (e : Exc)

/-- What one check finds. -/
structure System where
  lock : Loaded
  /-- Where `/etc/resolv.conf` leads, if it is a link. -/
  link : Option String
  /-- The lines of `/proc/mounts`. -/
  mounts : Except Exc (List String)
  /-- The lines of `/proc/self/mountinfo`. -/
  mountinfo : List String
  /-- `/etc/resolv.conf`. -/
  resolvConf : Except Exc String
  /-- `/run/systemd/resolved.conf.d/ttp.conf`. -/
  dropIn : Bool
  /-- What `systemctl is-active systemd-resolved` prints. -/
  resolved : Except Exc String
  table : Option Installed
  list : Attempt
  fingerprint : Attempt
  counting : Attempt
  /-- The counters are not listed as JSON. -/
  garbled : Bool
  accounts : Database
  /-- The control socket of Tor, if it can be reached, with its answer. -/
  control : Except Exc (Option (Except Exc Unit))
  /-- What `systemctl is-active ttp-tor` prints. -/
  tor : Except Exc String

/-- The output of an `nft` command about the table, if it succeeds. -/
def outputOf (attempt : Attempt) (table : Option Installed) (listed : Installed → String) :
    Except Exc (Option String) :=
  match attempt with
  | .works => .ok (table.map listed)
  | .fails => .ok none
  | .raises e => .error e

/-! ### Reading the table -/

/-- `table_fingerprint`, where `digest` is the SHA-256 of a text in hexadecimal. -/
def tableFingerprint (digest : String → String) (attempt : Attempt) (table : Option Installed) :
    Except Exc (Option String) :=
  match outputOf attempt table (·.stateless) with
  | .ok text => .ok (text.map digest)
  | .error e => if e.isOSError || e = .timeoutExpired then .ok none else .error e

/-- The counter as `nft -j` lists it. -/
def counterEntry (counter : String × Nat) : Json :=
  .obj [("counter", .obj [("family", .str "inet"), ("name", .str counter.1), ("table", .str "ttp"),
    ("packets", .int counter.2)])]

/-- `nft -j list counters table inet ttp`. -/
def countersJson (t : Installed) : Json :=
  .obj [("nftables", .arr (.obj [("metainfo", .obj [("json_schema_version", .int 1)])] :: t.counters.map counterEntry))]

/-- `for item in value`. -/
def itemsOf : Json → Except Exc (List Json)
  | .arr items => .ok items
  | .obj fields => .ok (fields.map fun field => .str field.1)
  | .str s => .ok (s.toList.map fun c => .str (String.singleton c))
  | _ => .error .typeError

variable (py : Interpreter) (num : Numerals)

/-- `int(value)`. -/
def intOf : Json → Except Exc Int
  | .int n => .ok n
  | .bool b => .ok (if b then 1 else 0)
  | .float (.finite q) => .ok (Int.tdiv q.num q.den)
  | .float .nan => .error (.valueError "cannot convert float NaN to integer")
  | .float _ => .error .overflowError
  | .str s => num.int s
  | _ => .error .typeError

/-- One entry of the list of counters. -/
def countEntry (counters : String → Option Int) (entry : Json) : Except Exc (String → Option Int) :=
  match entry with
  | .obj fields =>
    match Obj.get fields "counter" with
    | .obj counter =>
      match Obj.find? counter "name" with
      | some name =>
        match intOf num ((Obj.find? counter "packets").getD (.int 0)) with
        | .ok packets => .ok (Function.update counters (name.text py) (some packets))
        | .error e => if e = .typeError || e.isValueError then .ok counters else .error e
      | none => .ok counters
    | _ => .ok counters
  | _ => .ok counters

/-- What `read_counters` makes of the document. -/
def countersOf : Json → Except Exc (String → Option Int)
  | .obj payload => do
    let entries ← itemsOf ((Obj.find? payload "nftables").getD (.arr []))
    entries.foldlM (countEntry py num) fun _ => none
  | _ => .error .attributeError

/-- `read_counters`: nothing where the counters cannot be read. -/
def readCounters (attempt : Attempt) (garbled : Bool) (table : Option Installed) : Except Exc (String → Option Int) :=
  match attempt, table with
  | .works, some t => if garbled then .ok fun _ => none else countersOf py num (countersJson t)
  | .raises e, _ => if e.isOSError || e = .timeoutExpired then .ok fun _ => none else .error e
  | _, _ => .ok fun _ => none

/-! ### The check -/

/-- What ends a check: an exception, or the component that failed and its message. -/
inductive Stop where
  | raised (e : Exc)
  | failed (component message : String)

abbrev Check := Except Stop Unit

def Stop.outcome : Stop → Except Exc (Option (String × String))
  | .raised e => .error e
  | .failed component message => .ok (some (component, message))

/-- `if c: return component, message`. -/
def refuseIf (c : Bool) (component message : String) : Check := if c then .error (.failed component message) else .ok ()

def attempt {α : Type} : Except Exc α → Except Stop α
  | .ok a => .ok a
  | .error e => .error (.raised e)

/-- The file that `/etc/resolv.conf` stands for. -/
def target (s : System) : String := s.link.getD "/etc/resolv.conf"

/-- A line of `/proc/mounts` that mounts something on the target. -/
def mountsOn (target line : String) : Bool := (split line.toList)[1]? == some target.toList

/-- `_is_mount_point`. -/
def isMountPoint (mounts : Except Exc (List String)) (target : String) : Except Exc Bool :=
  match mounts with
  | .ok lines => .ok (lines.any (mountsOn target))
  | .error e => if e.isOSError then .ok false else .error e

/-- `_is_ttp_mount`. -/
def isTtpMount (mountinfo : List String) (target : String) : Bool :=
  mountinfo.any fun line => (split line.toList)[4]? == some target.toList && contains line.toList "ttp".toList

/-- The nameserver of a line of `resolv.conf`. -/
def nameserver (line : List Char) : Option (List Char) :=
  let line := strip line
  if "nameserver".toList.isPrefixOf line then (split line)[1]? else none

def nameservers (content : String) : List (List Char) := (splitLines content.toList).filterMap nameserver

def isLocal (address : List Char) : Bool := address == "127.0.0.1".toList || address == "::1".toList

/-- The overlay on `resolv.conf`, and what it says. -/
def checkDns (s : System) : Check := do
  let mounted ← attempt (isMountPoint s.mounts (target s))
  refuseIf (!mounted) "dns" "resolv.conf overlay mount has been unmounted"
  match s.resolvConf with
  | .error e =>
    if e.isException then .error (.failed "dns" s!"Failed to read/verify resolv.conf: {e.text}") else .error (.raised e)
  | .ok content =>
    refuseIf (nameservers content).isEmpty "dns" "resolv.conf has no nameservers configured"
    match (nameservers content).find? (!isLocal ·) with
    | some address =>
      .error (.failed "dns" s!"resolv.conf nameserver points to non-local resolver: {String.ofList address}")
    | none => .ok ()

/-- A service that `systemctl is-active` calls active. -/
def isActive (printed : String) : Bool := strip printed.toList == "active".toList

/-- The lock says that systemd-resolved was configured. -/
def configured (lock : Obj) : Except Exc Bool :=
  let backup := lock.get "dns_backup"
  if backup.truthy then
    match backup with
    | .obj fields => .ok (Obj.get fields "systemd_resolved").truthy
    | _ => .error .attributeError
  else .ok false

/-- systemd-resolved, if it was active when the session started. -/
def checkResolved (s : System) (lock : Obj) : Check := do
  if ← attempt (configured lock) then
    refuseIf (!s.dropIn) "dns" "systemd-resolved drop-in configuration file has been deleted"
    let printed ← attempt s.resolved
    refuseIf (!isActive printed) "dns" "systemd-resolved systemd service is inactive/stopped"

/-- The rule of each user or group that bypasses Tor is in the listing. -/
def checkBypass (listing word abbreviation field : String) (resolve : String → Except Exc Nat) : List Json → Check
  | [] => .ok ()
  | .str name :: rest =>
    match resolve name with
    | .ok id =>
      if contains listing.toList s!"meta {field} {id} accept".toList then checkBypass listing word abbreviation
        field resolve rest
      else .error (.failed "firewall" s!"bypass rule for {word} '{name}' ({abbreviation} {id}) is missing")
    | .error e =>
      if e = .keyError then .error (.failed "firewall" s!"bypass {word} '{name}' cannot be resolved on system")
      else .error (.raised e)
  | _ :: _ => .error (.raised .attributeError)

/-- The table: it is there, it is the recorded one, and it has the bypass rules. -/
def checkFirewall (digest : String → String) (s : System) (lock : Obj) : Check := do
  match ← attempt (outputOf s.list s.table (·.listing)) with
  | none => .error (.failed "firewall" "nftables 'inet ttp' table is missing")
  | some listing =>
    refuseIf (!contains listing.toList "chain filter_out".toList) "firewall"
      "nftables 'inet ttp' table is incomplete (missing filter_out)"
    let recorded := lock.get "table_fingerprint"
    if recorded.truthy then
      let current ← attempt (tableFingerprint digest s.fingerprint s.table)
      refuseIf (!((current.map Json.str).getD .null).eq recorded) "firewall"
        "nftables 'inet ttp' table differs from the one this session applied"
    if !lock.isEmpty then
      let users ← attempt (itemsOf ((lock.find? "bypass_users").getD (.arr [])))
      checkBypass listing "user" "UID" "skuid" (uidOf num s.accounts) users
      let groups ← attempt (itemsOf ((lock.find? "bypass_groups").getD (.arr [])))
      checkBypass listing "group" "GID" "skgid" (gidOf num s.accounts) groups

/-- Tor answers on its control socket, or without one its service is active. -/
def checkTor (s : System) : Check := do
  match ← attempt s.control with
  | some (.ok _) => .ok ()
  | some (.error e) =>
    if e.isException then .error (.failed "tor" s!"Tor control interface unresponsive: {e.text}")
    else .error (.raised e)
  | none =>
    let printed ← attempt s.tor
    refuseIf (!isActive printed) "tor" "Tor systemd service is inactive/stopped"

/-- The check up to the leak counters, without a lock as with an empty one, and their readings. -/
def readings (digest : String → String) (s : System) : Except Stop (String → Option Int) := do
  let lock := (← attempt (lockOf false s.lock)).getD []
  checkDns s
  checkResolved s lock
  checkFirewall num digest s lock
  attempt (readCounters py num s.counting s.garbled s.table)

/-- `check_system_integrity`, with the readings of the counters that are remembered before and after it. -/
def checkSystemIntegrity (digest : String → String) (s : System) (baseline : String → Nat) :
    Except Exc (Option (String × String)) × (String → Nat) :=
  match readings py num digest s with
  | .error stop => (stop.outcome, baseline)
  | .ok counters =>
    match checkLeakCounters (fun name => (counters name).map Int.toNat) leakCounters baseline with
    | (some failure, baseline) => (.ok (some failure), baseline)
    | (none, baseline) =>
      match checkTor s with
      | .error stop => (stop.outcome, baseline)
      | .ok () => (.ok none, baseline)

/-- The readings that are remembered after the earlier checks of the process. -/
def remembered (digest : String → String) (earlier : List System) : String → Nat :=
  earlier.foldl (fun baseline s => (checkSystemIntegrity py num digest s baseline).2) fun _ => 0

/-! ### What a line of `resolv.conf` says -/

/-- The text has a line for a nameserver at the address. -/
structure Lists (text address : List Char) : Prop where
  line : ∃ before gap rest, text = before ++ ("nameserver".toList ++ gap ++ address ++ rest) ∧
    (before = [] ∨ ∃ earlier, before = earlier ++ ['\n']) ∧ gap ≠ [] ∧ (∀ c ∈ gap, c = ' ' ∨ c = '\t') ∧ Parted rest
  given : address ≠ []
  solid : ∀ c ∈ address, isSpace c = false

theorem takeWhile_parted {rest : List Char} (parted : Parted rest) : Parted (rest.takeWhile fun c => !isBreak c) := by
  cases rest with
  | nil => exact parted
  | cons c rest =>
    intro d first
    by_cases ends : isBreak c = true
    · simp [ends] at first
    · obtain rfl : c = d := by simpa [ends] using first
      exact parted c (by simp)

/-- The check sees every nameserver of the file. -/
theorem lists_nameservers {content : String} {address : List Char} (lists : Lists content.toList address) :
    address ∈ nameservers content := by
  obtain ⟨⟨before, gap, rest, text, begins, gapped, blanks, parted⟩, given, solid⟩ := lists
  have spaces (c : Char) (member : c ∈ gap) : isSpace c = true := by rcases blanks c member with rfl | rfl <;> decide
  have unbroken (c : Char) (member : c ∈ "nameserver".toList ++ gap ++ address) : (!isBreak c) = true := by
    simp only [List.mem_append] at member
    rcases member with (key | blank) | word
    · revert c
      simp [isBreak]
    · rcases blanks c blank with rfl | rfl <;> decide
    · by_contra ends
      have space := isSpace_of_isBreak (by simpa using ends)
      simp [solid c word] at space
  have named : ∀ c ∈ "nameserver".toList, isSpace c = false := by simp [isSpace]
  obtain ⟨started, others, words⟩ := split_strip (by decide) named gapped spaces given solid (takeWhile_parted parted)
  -- the line that the entry is on
  obtain ⟨lines, first⟩ := @splitLines_first ("nameserver".toList ++ gap ++ address ++ rest) (by simp)
  rw [List.takeWhile_append_of_pos unbroken] at first
  have member : "nameserver".toList ++ gap ++ address ++
      rest.takeWhile (fun c => !isBreak c) ∈ splitLines content.toList := by
    rw [text]
    rcases begins with rfl | ⟨earlier, rfl⟩
    · rw [List.nil_append, first]
      exact List.mem_cons_self
    · obtain ⟨line, more, split⟩ := splitLines_newline earlier ("nameserver".toList ++ gap ++ address ++ rest)
      rw [List.append_assoc, List.singleton_append, split, first]
      exact List.mem_append_right _ List.mem_cons_self
  refine List.mem_filterMap.mpr ⟨_, member, ?_⟩
  rw [nameserver, if_pos (List.isPrefixOf_iff_prefix.mpr started), words]
  rfl

/-! ### What a check says that finds nothing wrong -/

section
variable {α : Type} {digest : String → String} {s : System} {lock : Obj}

theorem then_ok {α β : Type} {x : Except Stop α} {f : α → Except Stop β} {b : β} :
    x >>= f = .ok b ↔ ∃ a, x = .ok a ∧ f a = .ok b := by
  cases x with
  | ok a =>
    constructor
    · exact fun rest => ⟨a, rfl, rest⟩
    · rintro ⟨a', same, rest⟩
      obtain rfl := Except.ok.inj same
      exact rest
  | error stop =>
    constructor
    · exact fun stopped => by simp [bind, Except.bind] at stopped
    · rintro ⟨a, same, _⟩
      simp at same

theorem refuseIf_ok {c : Bool} {component message : String} : refuseIf c component message = .ok () ↔ c = false := by
  cases c <;> simp [refuseIf]

theorem attempt_ok {x : Except Exc α} {a : α} : attempt x = .ok a ↔ x = .ok a := by
  cases x <;> simp [attempt]

/-- Something is mounted on the file that `/etc/resolv.conf` stands for. -/
def Mounted (s : System) : Prop := ∃ lines, s.mounts = .ok lines ∧ ∃ line ∈ lines, mountsOn (target s) line = true

theorem isMountPoint_mounted (mounted : isMountPoint s.mounts (target s) = .ok true) : Mounted s := by
  unfold isMountPoint at mounted
  split at mounted
  case h_1 lines found => exact ⟨lines, found, List.any_eq_true.mp (Except.ok.inj mounted)⟩
  case h_2 => split at mounted <;> simp at mounted

theorem checkDns_ok (passed : checkDns s = .ok ()) : Mounted s ∧ ∃ content, s.resolvConf = .ok content ∧
    nameservers content ≠ [] ∧ ∀ address ∈ nameservers content, isLocal address = true := by
  obtain ⟨mounted, found, onwards⟩ := then_ok.mp passed
  obtain ⟨_, there, reading⟩ := then_ok.mp onwards
  have mounted : isMountPoint s.mounts (target s) = .ok true := by
    rw [attempt_ok.mp found, show mounted = true by simpa using refuseIf_ok.mp there]
  refine ⟨isMountPoint_mounted mounted, ?_⟩
  cases read : s.resolvConf with
  | error e =>
    simp only [read] at reading
    split at reading <;> simp at reading
  | ok content =>
    simp only [read] at reading
    obtain ⟨_, some, clean⟩ := then_ok.mp reading
    refine ⟨content, rfl, fun none => by simp [none, refuseIf] at some, fun address member => ?_⟩
    cases far : (nameservers content).find? (!isLocal ·) with
    | some address => simp [far] at clean
    | none => simpa using List.find?_eq_none.mp far address member

theorem checkResolved_ok (passed : checkResolved s lock = .ok ()) (needed : configured lock = .ok true) :
    s.dropIn = true ∧ ∃ printed, s.resolved = .ok printed ∧ isActive printed = true := by
  obtain ⟨asks, found, onwards⟩ := then_ok.mp passed
  obtain rfl : asks = true := by simpa [needed] using (attempt_ok.mp found).symm
  obtain ⟨_, there, asking⟩ := then_ok.mp onwards
  obtain ⟨printed, asked, active⟩ := then_ok.mp asking
  exact ⟨by simpa using refuseIf_ok.mp there, printed, attempt_ok.mp asked, by simpa using refuseIf_ok.mp active⟩

/-- The table is there, and has the fingerprint that the lock records, if it records one. -/
theorem checkFirewall_ok (passed : checkFirewall num digest s lock = .ok ()) : ∃ t, s.table = some t ∧
    ((lock.get "table_fingerprint").truthy = true →
      (Json.str (digest t.stateless)).eq (lock.get "table_fingerprint") = true) := by
  obtain ⟨output, listed, onwards⟩ := then_ok.mp passed
  cases output with
  | none => simp at onwards
  | some listing =>
    obtain ⟨t, there⟩ : ∃ t, s.table = some t := by
      cases table : s.table with
      | some t => exact ⟨t, rfl⟩
      | none =>
        have nothing := attempt_ok.mp listed
        cases attempted : s.list <;> simp [outputOf, attempted, table] at nothing
    refine ⟨t, there, fun recorded => ?_⟩
    obtain ⟨_, _, fingerprints⟩ := then_ok.mp onwards
    simp only [recorded, if_true] at fingerprints
    obtain ⟨current, computed, compares⟩ := then_ok.mp fingerprints
    obtain ⟨_, same, _⟩ := then_ok.mp compares
    have equal : ((current.map Json.str).getD .null).eq (lock.get "table_fingerprint") = true := by
      simpa using refuseIf_ok.mp same
    have read := attempt_ok.mp computed
    have nothing : current ≠ none := by
      rintro rfl
      rw [eq_null.mp equal] at recorded
      exact absurd recorded (by decide)
    cases attempted : s.fingerprint with
    | works =>
      obtain rfl : some (digest t.stateless) = current := by
        simpa [tableFingerprint, outputOf, attempted, there] using read
      exact equal
    | fails => exact absurd (by simpa [tableFingerprint, outputOf, attempted] using read.symm) nothing
    | raises e =>
      simp only [tableFingerprint, outputOf, attempted] at read
      split at read
      · exact absurd (Except.ok.inj read).symm nothing
      · simp at read

theorem checkTor_ok (passed : checkTor s = .ok ()) : s.control = .ok (some (.ok ())) ∨
    s.control = .ok none ∧ ∃ printed, s.tor = .ok printed ∧ isActive printed = true := by
  obtain ⟨socket, found, onwards⟩ := then_ok.mp passed
  have control := attempt_ok.mp found
  match socket, onwards with
  | some (.ok ()), _ => exact Or.inl control
  | some (.error e), onwards =>
    simp only at onwards
    split at onwards <;> simp at onwards
  | none, onwards =>
    obtain ⟨printed, asked, active⟩ := then_ok.mp onwards
    exact Or.inr ⟨control, printed, attempt_ok.mp asked, by simpa using refuseIf_ok.mp active⟩

/-! ### The readings -/

/-- The counters can be listed. -/
def Readable (s : System) : Prop := s.counting = .works ∧ s.garbled = false

/-- The packets that the table has counted. -/
def System.packets (s : System) (name : String) : Option Nat := s.table.bind (·.packets name)

theorem countEntry_counterEntry (counters : String → Option Int) (counter : String × Nat) :
    countEntry py num counters (counterEntry counter) = .ok (Function.update counters counter.1 (some counter.2)) := rfl

theorem count_entries {entries : List (String × Nat)} (distinct : (entries.map (·.1)).Nodup)
    (counters : String → Option Int) :
    (entries.map counterEntry).foldlM (countEntry py num) counters = .ok fun name =>
      (((entries.find? (·.1 == name)).map fun c => (c.2 : Int)).or (counters name)) := by
  induction entries generalizing counters with
  | nil => rfl
  | cons counter rest ih =>
    obtain ⟨fresh, distinct⟩ := List.nodup_cons.mp distinct
    rw [List.map_cons, List.foldlM_cons, countEntry_counterEntry]
    refine (ih distinct _).trans (congrArg Except.ok (funext fun name => ?_))
    by_cases same : counter.1 = name
    · subst same
      have unlisted : rest.find? (·.1 == counter.1) = none := by
        refine List.find?_eq_none.mpr fun c member => ?_
        simpa using fun same => fresh (List.mem_map.mpr ⟨c, member, same⟩)
      simp [unlisted]
    · simp [same, Function.update_of_ne (Ne.symm same)]

/-- What is read are the packets of the table. -/
theorem readCounters_readable (readable : Readable s) {counters : String → Option Int}
    (read : readCounters py num s.counting s.garbled s.table = .ok counters) (name : String) :
    (counters name).map Int.toNat = s.packets name := by
  rw [readable.1, readable.2] at read
  cases table : s.table with
  | none =>
    obtain rfl : (fun _ => none) = counters := by simpa [readCounters, table] using read
    simp [System.packets, table]
  | some t =>
    have counted := count_entries py num t.distinct fun _ => none
    have listed : countersOf py num (countersJson t) = (t.counters.map counterEntry).foldlM (countEntry py num)
      fun _ => none := rfl
    rw [table, readCounters, if_neg (by simp), listed, counted] at read
    obtain rfl := Except.ok.inj read
    cases found : t.counters.find? (·.1 == name) <;> simp [System.packets, Installed.packets, table, found]

theorem readings_ok {counters : String → Option Int} (read : readings py num digest s = .ok counters) : ∃ found,
    lockOf false s.lock = .ok found ∧ checkDns s = .ok () ∧ checkResolved s (found.getD []) = .ok () ∧
      checkFirewall num digest s (found.getD []) = .ok () ∧
      readCounters py num s.counting s.garbled s.table = .ok counters := by
  obtain ⟨found, lock, onwards⟩ := then_ok.mp read
  obtain ⟨_, dns, onwards⟩ := then_ok.mp onwards
  obtain ⟨_, resolved, onwards⟩ := then_ok.mp onwards
  obtain ⟨_, firewall, listed⟩ := then_ok.mp onwards
  exact ⟨found, attempt_ok.mp lock, dns, resolved, firewall, attempt_ok.mp listed⟩

/-- The fields of the lock that a check looks at. -/
def seen (lock : Obj) : Bool × Json × Json × Option Json × Option Json :=
  (lock.isEmpty, lock.get "dns_backup", lock.get "table_fingerprint", lock.find? "bypass_users",
    lock.find? "bypass_groups")

/-- Locks that agree on these fields are checked alike. -/
theorem check_seen {other : Obj} {baseline : String → Nat} (same : seen lock = seen other) :
    checkSystemIntegrity py num digest { s with lock := .json (.obj lock) } baseline =
      checkSystemIntegrity py num digest { s with lock := .json (.obj other) } baseline := by
  simp only [seen, Prod.mk.injEq] at same
  obtain ⟨empty, backup, fingerprint, users, groups⟩ := same
  have alike : readings py num digest { s with lock := .json (.obj lock) } =
      readings py num digest { s with lock := .json (.obj other) } := by
    simp only [readings, checkResolved, checkFirewall, configured, lockOf, Loaded.loads, attempt, bind, Except.bind,
      Option.getD_some, empty, backup, fingerprint, users, groups]
    rfl
  simp only [checkSystemIntegrity, alike]
  rfl

/-! ### What a check reports -/

section
variable {report : String → String → Prop} {component message : String} {β : Type}

/-- A check that stops has a component and a message of some kind. -/
def Reports (report : String → String → Prop) (x : Except Stop α) : Prop :=
  ∀ component message, x = .error (.failed component message) → report component message

theorem reports_ok (a : α) : Reports report (.ok a : Except Stop α) := fun _ _ stopped => by cases stopped

theorem reports_raised (e : Exc) : Reports report (.error (.raised e) : Except Stop α) :=
  fun _ _ stopped => by cases stopped

theorem reports_failed (reported : report component message) :
    Reports report (.error (.failed component message) : Except Stop α) := by
  rintro _ _ ⟨⟩
  exact reported

theorem reports_bind {x : Except Stop α} {f : α → Except Stop β} (first : Reports report x)
    (rest : ∀ a, Reports report (f a)) :
    Reports report (x >>= f) := by
  cases x with
  | ok a => exact rest a
  | error stop =>
    exact fun component message stopped => first component message (by simpa [bind, Except.bind] using stopped)

theorem reports_attempt (x : Except Exc α) : Reports report (attempt x) := by
  cases x with
  | ok a => exact reports_ok a
  | error e => exact reports_raised e

theorem reports_refuseIf {c : Bool} (reported : report component message) :
    Reports report (refuseIf c component message) := by
  cases c with
  | false => exact reports_ok ()
  | true => exact reports_failed reported

end

/-! ### What a check blames -/

/-- A stop before the leak counters blames the DNS, or the firewall for what its rules are. -/
def Blames (x : Except Stop α) : Prop := ∀ component message, x = .error (.failed component message) →
  component = "dns" ∨ component = "firewall" ∧ (message.toList.head? = some 'n' ∨ message.toList.head? = some 'b')

theorem blames_bind {β : Type} {x : Except Stop α} {f : α → Except Stop β} (first : Blames x)
    (rest : ∀ a, Blames (f a)) :
    Blames (x >>= f) := reports_bind first rest

theorem blames_ok (a : α) : Blames (.ok a : Except Stop α) := reports_ok a

theorem blames_raised (e : Exc) : Blames (.error (.raised e) : Except Stop α) := reports_raised e

theorem blames_dns {message : String} : Blames (.error (.failed "dns" message) : Except Stop α) :=
  reports_failed (Or.inl rfl)

theorem blames_firewall {message : String}
    (begins : message.toList.head? = some 'n' ∨ message.toList.head? = some 'b') :
    Blames (.error (.failed "firewall" message) : Except Stop α) := reports_failed (Or.inr ⟨rfl, begins⟩)

theorem blames_attempt (x : Except Exc α) : Blames (attempt x) := reports_attempt x

theorem blames_refuseIf {c : Bool} {component message : String}
    (blames : Blames (.error (.failed component message) : Check)) : Blames (refuseIf c component message) :=
  reports_refuseIf (blames component message rfl)

theorem blames_checkDns : Blames (checkDns s) := by
  refine blames_bind (blames_attempt _) fun mounted => blames_bind (blames_refuseIf blames_dns) fun _ => ?_
  split
  · split
    · exact blames_dns
    · exact blames_raised _
  · refine blames_bind (blames_refuseIf blames_dns) fun _ => ?_
    split
    · exact blames_dns
    · exact blames_ok ()

theorem blames_checkResolved : Blames (checkResolved s lock) := by
  refine blames_bind (blames_attempt _) fun needed => ?_
  split
  · refine blames_bind (blames_refuseIf blames_dns) fun _ => blames_bind (blames_attempt _) fun printed => ?_
    exact blames_refuseIf blames_dns
  · exact blames_ok ()

theorem blames_checkBypass {listing word abbreviation field : String} {resolve : String → Except Exc Nat}
    (names : List Json) :
    Blames (checkBypass listing word abbreviation field resolve names) := by
  fun_induction checkBypass listing word abbreviation field resolve names with
  | case1 => exact blames_ok ()
  | case2 _ _ _ _ _ ih => exact ih
  | case3 => exact blames_firewall (Or.inr (by simp [toString]))
  | case4 => exact blames_firewall (Or.inr (by simp [toString]))
  | case5 => exact blames_raised _
  | case6 => exact blames_raised _

theorem blames_checkFirewall : Blames (checkFirewall num digest s lock) := by
  have bypasses {listing : String} : Blames (do
      let users ← attempt (itemsOf ((lock.find? "bypass_users").getD (.arr [])))
      checkBypass listing "user" "UID" "skuid" (uidOf num s.accounts) users
      let groups ← attempt (itemsOf ((lock.find? "bypass_groups").getD (.arr [])))
      checkBypass listing "group" "GID" "skgid" (gidOf num s.accounts) groups : Check) := by
    refine blames_bind (blames_attempt _) fun users => blames_bind (blames_checkBypass _) fun _ => ?_
    exact blames_bind (blames_attempt _) fun groups => blames_checkBypass _
  refine blames_bind (blames_attempt _) fun output => ?_
  split
  · exact blames_firewall (Or.inl (by decide))
  refine blames_bind (blames_refuseIf (blames_firewall (Or.inl (by decide)))) fun _ => ?_
  dsimp only
  split
  · refine blames_bind (blames_attempt _) fun current =>
      blames_bind (blames_refuseIf (blames_firewall (Or.inl (by decide)))) fun _ => ?_
    split
    · exact bypasses
    · exact blames_ok ()
  · split
    · exact bypasses
    · exact blames_ok ()

theorem blames_readings : Blames (readings py num digest s) := by
  refine blames_bind (blames_attempt _) fun found => blames_bind blames_checkDns fun _ => ?_
  refine blames_bind blames_checkResolved fun _ => blames_bind (blames_checkFirewall num) fun _ => ?_
  exact blames_attempt _

/-- A stop does not blame Tor. -/
def Spares (x : Except Stop α) : Prop := ∀ message, x ≠ .error (.failed "tor" message)

theorem spares_readings : Spares (readings py num digest s) := by
  intro message stopped
  rcases blames_readings py num _ _ stopped with dns | ⟨firewall, _⟩
  · exact absurd dns (by decide)
  · exact absurd firewall (by decide)

end

end Ttp.Integrity
