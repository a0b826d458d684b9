import Ttp.Accounts
import Ttp.LockJournal
import Ttp.Probe
import Ttp.Text

/-!
`commands/_tor_setup.py`, `commands/start.py` and `firewall/runner.py` against
`probe.py`: what the names in the options of a start resolve to for the rules,
and what the names in its lock resolve to for the probe. A probe that finds
nothing against its account is exempted by no rule of its session.
-/
namespace Ttp.Identity
open Ttp.Python Ttp.Program Ttp.Machine Ttp.State Ttp.Start Ttp.Accounts Ttp.Footprint Ttp.LockJournal
open Ttp.Nft (Match Rule Packet Addr)
open Ttp.Builder (Config buildRuleset)
open Ttp.Probe (Exempt)
open Ttp.SessionSettings (Settings)

variable (num : Numerals) (db : Database)

/-! ### The options of a start -/

/-- The names in an option: comma-separated, each stripped, the empty ones dropped. -/
def namesOf (option : Option (List String)) : List String :=
  (option.getD []).flatMap fun names =>
    (((names.toList.splitOn ',').map Text.strip).filter fun name => !name.isEmpty).map String.ofList

/-- `except KeyError`: a user or group that does not exist ends the command, once the message is printed. -/
def orExit (name : String) (resolved : Except Exc Nat) : Except Exc Nat :=
  match resolved with
  | .ok id => .ok id
  | .error e => .error (if e = .keyError then if num.prints name then .exit 1 else .markupError else e)

/-- A user as `_parse_bypass_users_groups` resolves it. -/
def bypassUid (u : String) : Except Exc Nat :=
  orExit num u (if num.isDigit u then do
    let uid := (← num.int u).toNat
    db.userNumbered uid
    .ok uid
  else db.uidNamed u)

def bypassGid (g : String) : Except Exc Nat :=
  orExit num g (if num.isDigit g then do
    let gid := (← num.int g).toNat
    db.groupNumbered gid
    .ok gid
  else db.gidNamed g)

/-- What `_parse_bypass_users_groups` returns. -/
structure Bypasses where
  users : List String
  groups : List String
  uids : List Nat
  gids : List Nat

/-- `_parse_bypass_users_groups`. -/
def parseBypassUsersGroups (bypassUser bypassGroup : Option (List String)) : Except Exc Bypasses := do
  let users := namesOf bypassUser
  let groups := namesOf bypassGroup
  let uids ← users.mapM (bypassUid num db)
  let gids ← groups.mapM (bypassGid num db)
  .ok ⟨users, groups, uids, gids⟩

/-- The options of `start`, and what it finds out about the host. -/
structure Options where
  config : Except Exc Settings
  watchdog : Option Bool := none
  notifications : Option Bool := none
  externalDaemon : Bool := false
  recipient : Bool := false
  bypassUser : Option (List String) := none
  bypassGroup : Option (List String) := none
  transportPort : Nat := 9041
  dnsPort : Nat := 9054
  allowRoot : Bool := false
  noLanBypass : Bool := false
  noIpv6 : Bool := false
  /-- The account of Tor, by its name or its number. -/
  torUser : String
  ipv6Supported : Bool
  cgroupBypassSupport : Bool
  /-- What else the lock says. -/
  lock : LockArgs := {}

/-- The rules that `apply_rules` asks `_build_ruleset` for. -/
def applyRulesConfig (o : Options) (uids gids : List Nat) : Except Exc Config :=
  match uidOf num db o.torUser with
  | .error e => .error (if e = .keyError then .firewallError s!"Tor user '{o.torUser}' not found on system." else e)
  | .ok torUid => .ok
    { torUid
      transportPort := o.transportPort
      dnsPort := o.dnsPort
      ipv6Avail := o.ipv6Supported && !o.noIpv6
      allowRoot := o.allowRoot
      lanBypass := !o.noLanBypass
      bypassUids := if uids.isEmpty then none else some uids
      bypassGids := if gids.isEmpty then none else some gids
      resolvedUid := ((db.getpwnam "systemd-resolve").or (db.getpwnam "systemd-resolved")).map Passwd.uid
      cgroupBypass := o.cgroupBypassSupport }

/-- The `tor_uid` of the lock. -/
def torUidVal (torUser : String) : Json :=
  match uidOf num db torUser with
  | .ok uid => .int uid
  | .error _ => .null

/-- What the options resolve to. -/
def resolve (o : Options) : Except Exc StartArgs := do
  let bypasses ← parseBypassUsersGroups num db o.bypassUser o.bypassGroup
  let rules ← applyRulesConfig num db o bypasses.uids bypasses.gids
  .ok
    { config := o.config
      watchdog := o.watchdog
      notifications := o.notifications
      externalDaemon := o.externalDaemon
      rules
      lock := { o.lock with
        transportPort := o.transportPort
        dnsPort := o.dnsPort
        allowRoot := o.allowRoot
        lanBypass := !o.noLanBypass
        bypassUsers := bypasses.users.map .str
        bypassGroups := bypasses.groups.map .str
        noIpv6 := o.noIpv6
        torUid := torUidVal num db o.torUser }
      recipient := o.recipient }

/-! ### The account of the probe -/

/-- The process that verifies: its account, its cgroup from the root down, and what `/proc/self/cgroup` has on
    the lines before and after that of the unified hierarchy. -/
structure Caller where
  euid : Nat
  egid : Nat
  groups : List Nat
  cgroup : List String
  earlier : List String := []
  later : List String := []
  /-- `/proc/self/cgroup` cannot be read. -/
  unreadable : Option Exc := none

/-- The path of the cgroup. -/
def Caller.path (c : Caller) : List Char :=
  if c.cgroup.isEmpty then ['/'] else c.cgroup.flatMap fun name => '/' :: name.toList

/-- The text of some lines. -/
def written (lines : List (List Char)) : List Char := lines.flatMap fun line => line ++ ['\n']

/-- `CGROUP_PATH.read_text()`: a line for each hierarchy. -/
def Caller.readCgroups (c : Caller) : Except Exc (List Char) :=
  match c.unreadable with
  | some e => .error e
  | none => .ok (written (c.earlier.map String.toList ++ ("0::".toList ++ c.path) :: c.later.map String.toList))

/-- The keywords that a worker is run with. -/
structure Credentials where
  user : Nat
  group : Nat
  extraGroups : List Nat

/-- Whom the worker runs as, with the groups that count for it. -/
structure Account where
  uid : Nat
  groups : List Nat
  credentials : Option Credentials

/-- The account that `_identity` resolves for the worker. -/
def accountOf (c : Caller) : Except Exempt Account :=
  if c.euid = 0 then
    match db.getpwnam "nobody" with
    | none => .error (.unavailable "KeyError")
    | some user =>
      if user.uid = 0 then .error (.unavailable "nobody must be unprivileged")
      else .ok ⟨user.uid, [user.gid], some ⟨user.uid, user.gid, []⟩⟩
  else .ok ⟨c.euid, c.egid :: c.groups, none⟩

/-- `int(name) if str(name).isdigit() else ..`, for an entry of the lock. -/
def entryOf (resolve : String → Except Exc Nat) : Json → Except Exc Nat
  | .str name => resolve name
  | .int (.ofNat n) => .ok n
  | _ => .error .typeError

/-- What `for name in value` goes through. -/
def entriesOf : Json → Except Exc (List Json)
  | .arr items => .ok items
  | .str s => .ok (s.toList.map fun c => .str (String.singleton c))
  | .obj fields => .ok (fields.map fun field => .str field.1)
  | _ => .error .typeError

/-- Whether an entry resolves to one of the numbers; the loop ends there. -/
def anyEntry (resolve : String → Except Exc Nat) (numbers : List Nat) : List Json → Except Exc Bool
  | [] => .ok false
  | name :: rest => do
    if numbers.contains (← entryOf resolve name) then .ok true else anyEntry resolve numbers rest

/-- `line.split(":", n)[-1]`. -/
def lastOfSplit : Nat → List Char → List Char
  | 0, text => text
  | n + 1, text =>
    match text.dropWhile (· != ':') with
    | [] => text
    | _ :: rest => lastOfSplit n rest

/-- `"ttp-bypass.slice" in line.split(":", 2)[-1].split("/")`. -/
def bypassed (line : List Char) : Bool := ((lastOfSplit 2 line).splitOn '/').contains "ttp-bypass.slice".toList

/-- The exemptions of a lock that the account falls under. -/
def exemption (c : Caller) (a : Account) (lock : Obj) : Except Exc (Option Exempt) := do
  if (Json.int a.uid).eq (lock.get "tor_uid") ||
    (a.uid == 0 && (lock.get "allow_root").truthy) then return some .identity
  let users ← entriesOf ((lock.find? "bypass_users").getD (.arr []))
  if ← anyEntry (uidOf num db) [a.uid] users then return some .identity
  let groups ← entriesOf ((lock.find? "bypass_groups").getD (.arr []))
  if ← anyEntry (gidOf num db) a.groups groups then return some .identity
  let cgroups ← c.readCgroups
  return if (Text.splitLines cgroups).any bypassed then some .cgroup else none

/-- `except (KeyError, OSError, TypeError, ValueError)`. -/
def caughtByIdentity (e : Exc) : Bool := e == .keyError || e.isOSError || e == .typeError || e.isValueError

/-- `_identity`. -/
def identity (c : Caller) (lock : Option Obj) : Except Exc (Option Credentials × Option Exempt) :=
  match accountOf db c with
  | .error e => .ok (none, some e)
  | .ok a =>
    match lock with
    | none => .ok (a.credentials, none)
    | some lock =>
      match exemption num db c a lock with
      | .ok found => .ok (a.credentials, found)
      | .error e => if caughtByIdentity e then .ok (a.credentials, some (.unavailable e.typeName)) else .error e

/-! ### The rules that exempt -/

/-- A match on who sends. -/
def bySender : Match → Bool
  | .skuid _ | .skgid _ | .cgroupv2 .. => true
  | _ => false

/-- A rule that lets a sender through. -/
def exempts (r : Rule) : Bool := r.verdict == .accept && r.conds.any bySender

/-- The senders that the rules of a session let through. -/
inductive Exempted (c : Config) : Match → Prop
  | tor : Exempted c (.skuid c.torUid)
  | slice : Exempted c (.cgroupv2 1 "ttp-bypass.slice")
  | root : c.allowRoot = true → Exempted c (.skuid 0)
  | user {uid : Nat} : uid ∈ c.bypassUids.getD [] → Exempted c (.skuid uid)
  | group {gid : Nat} : gid ∈ c.bypassGids.getD [] → Exempted c (.skgid gid)

/-- A packet of a socket that a worker with these credentials opens. -/
structure Opened (c : Caller) (credentials : Option Credentials) (p : Packet) : Prop where
  uid : p.skuid = some ((credentials.map Credentials.user).getD c.euid)
  gid : p.skgid = some ((credentials.map Credentials.group).getD c.egid)
  cgroup : p.cgroup = c.cgroup

section
variable {c : Config} {r : Rule}

theorem bypassNat_exempted {owner : Match} (exempted : Exempted c owner) (member : r ∈ Builder.bypassNat c owner) :
    ∃ m ∈ r.conds, Exempted c m := by
  refine ⟨owner, ?_, exempted⟩
  cases ipv6 : c.ipv6Avail <;> simp [Builder.bypassNat, Builder.when, Builder.rule, ipv6] at member
  · simp [member]
  · rcases member with rfl | rfl <;> simp

theorem bypassSlice_exempted (member : r ∈ Builder.bypassSlice c) : ∃ m ∈ r.conds, Exempted c m := by
  refine ⟨_, ?_, .slice⟩
  cases support : c.cgroupBypass <;> simp [Builder.bypassSlice, Builder.when, Builder.rule, support] at member
  simp [member]

theorem bypassRulesNat_exempted (member : r ∈ Builder.bypassRulesNat c) : ∃ m ∈ r.conds, Exempted c m := by
  rcases List.mem_append.mp member with first | ofGroup
  · rcases List.mem_append.mp first with slice | ofUser
    · exact bypassSlice_exempted slice
    · obtain ⟨uid, listed, member⟩ := List.mem_flatMap.mp ofUser
      exact bypassNat_exempted (.user listed) member
  · obtain ⟨gid, listed, member⟩ := List.mem_flatMap.mp ofGroup
    exact bypassNat_exempted (.group listed) member

theorem bypassRulesFilter_exempted (member : r ∈ Builder.bypassRulesFilter c) : ∃ m ∈ r.conds, Exempted c m := by
  rcases List.mem_append.mp member with first | ofGroup
  · rcases List.mem_append.mp first with slice | ofUser
    · exact bypassSlice_exempted slice
    · obtain ⟨uid, listed, rfl⟩ := List.mem_map.mp ofUser
      exact ⟨_, List.mem_singleton_self _, .user listed⟩
  · obtain ⟨gid, listed, rfl⟩ := List.mem_map.mp ofGroup
    exact ⟨_, List.mem_singleton_self _, .group listed⟩

theorem mem_when {flag : Bool} {rules : List Rule} : r ∈ Builder.when flag rules ↔ flag = true ∧ r ∈ rules := by
  cases flag <;> simp [Builder.when]

/-- Redirects, LAN and loopback rules look at the packet alone. -/
theorem redirect_exempts (member : r ∈ Builder.dnsRedirectIpv4 c ++
    (Builder.dnsRedirectIpv6 c ++ (Builder.lanRule c ++ (Builder.lan6Rule c ++
    (Builder.loopbackIpv4 ++ (Builder.loopbackIpv6 c ++
      (Builder.tcpRedirectIpv4 c ++ Builder.tcpRedirectIpv6 c))))))) : exempts r = false := by
  simp only [Builder.dnsRedirectIpv4, Builder.dnsRedirectIpv6, Builder.lanRule, Builder.lan6Rule,
    Builder.loopbackIpv4, Builder.loopbackIpv6,
    Builder.tcpRedirectIpv4, Builder.tcpRedirectIpv6, List.mem_append, mem_when, List.mem_cons, List.not_mem_nil,
    or_false] at member
  rcases member with (rfl | rfl) | ⟨_, rfl | rfl⟩ | ⟨_, rfl⟩ | ⟨_, _, rfl⟩ | rfl | ⟨_, rfl⟩ | rfl | ⟨_, rfl⟩ <;> rfl

theorem prerouting_exempts (member : r ∈ (Builder.prerouting c).rules) : exempts r = false := by
  refine redirect_exempts (c := c) ?_
  simp only [Builder.prerouting, List.mem_append] at member ⊢
  tauto

theorem traffic_exempts (member : r ∈ Builder.trafficRules c) : exempts r = false := by
  simp only [Builder.trafficRules, Builder.unredirectedDnsIpv4, Builder.unredirectedDnsIpv6, Builder.lanRule,
    Builder.lan6Rule,
    Builder.loopbackIpv4, Builder.loopbackIpv6, Builder.fibRule, Builder.dotReject, Builder.dohRejectIpv4,
    Builder.dohRejectIpv6,
    Builder.quicDohRejectIpv4, Builder.quicDohRejectIpv6, Builder.catchAll, List.mem_append, mem_when, List.mem_cons,
    List.not_mem_nil,
    or_false] at member
  rcases member with rfl | ⟨_, rfl⟩ | ⟨_, rfl⟩ | ⟨_, _, rfl⟩ | rfl | ⟨_, rfl⟩ | rfl | rfl | rfl | ⟨_, rfl⟩ | rfl | ⟨_,
    rfl⟩ | rfl | rfl <;> rfl

theorem sender_exempted (member : r ∈ Builder.senderRules c) (exempting : exempts r = true) :
    ∃ m ∈ r.conds, Exempted c m := by
  simp only [Builder.senderRules, Builder.torRule, Builder.ipv6LeakPrevention, Builder.rootRule, List.mem_append,
    mem_when, List.mem_cons, List.not_mem_nil, or_false] at member
  rcases member with rfl | ⟨_, rfl⟩ | bypass | resolved | ⟨allowed, rfl⟩
  · exact ⟨_, List.mem_singleton_self _, .tor⟩
  · cases exempting
  · exact bypassRulesFilter_exempted bypass
  · -- these drop
    unfold Builder.resolvedRules at resolved
    cases uid : c.resolvedUid with
    | none => simp [uid] at resolved
    | some uid' =>
      simp only [uid, List.mem_cons, mem_when, List.not_mem_nil, or_false] at resolved
      rcases resolved with rfl | ⟨_, rfl⟩ <;> cases exempting
  · exact ⟨_, List.mem_singleton_self _, .root allowed⟩

/-- Every rule that exempts does so by a sender of the session. -/
theorem exempts_exempted {chain : Nft.Chain} (inside : chain ∈ (buildRuleset c).chains) (member : r ∈ chain.rules)
    (exempting : exempts r = true) :
    ∃ m ∈ r.conds, Exempted c m := by
  simp only [buildRuleset, List.mem_cons, List.not_mem_nil, or_false] at inside
  rcases inside with rfl | rfl | rfl | rfl
  · simp [prerouting_exempts member] at exempting
  · rcases List.mem_append.mp member with tor | rest
    · obtain rfl := List.mem_singleton.mp tor
      exact ⟨_, List.mem_singleton_self _, .tor⟩
    · rcases List.mem_append.mp rest with bypass | plain
      · exact bypassRulesNat_exempted bypass
      · simp [redirect_exempts plain] at exempting
  · rcases List.mem_append.mp member with sender | traffic
    · exact sender_exempted sender exempting
    · simp [traffic_exempts traffic] at exempting
  · simp [Builder.filterForward] at member

end

/-! ### What is resolved twice -/

section
variable {num : Numerals} {db : Database} {resolve : String → Except Exc Nat} {numbers : List Nat}

theorem orExit_ok {name : String} {resolved : Except Exc Nat} {id : Nat} :
    orExit num name resolved = .ok id ↔ resolved = .ok id := by
  cases resolved <;> simp [orExit]

/-- What a start resolves, the probe resolves to the same. -/
theorem bypassUid_uidOf {u : String} {uid : Nat} (resolved : bypassUid num db u = .ok uid) :
    uidOf num db u = .ok uid := by
  rw [bypassUid, orExit_ok] at resolved
  unfold uidOf
  by_cases digits : num.isDigit u
  · rw [if_pos digits] at resolved ⊢
    obtain ⟨n, parsed, rest⟩ := bind_ok resolved
    obtain ⟨_, _, same⟩ := bind_ok rest
    rw [parsed]
    exact same
  · rwa [if_neg digits] at resolved ⊢

theorem bypassGid_gidOf {g : String} {gid : Nat} (resolved : bypassGid num db g = .ok gid) :
    gidOf num db g = .ok gid := by
  rw [bypassGid, orExit_ok] at resolved
  unfold gidOf
  by_cases digits : num.isDigit g
  · rw [if_pos digits] at resolved ⊢
    obtain ⟨n, parsed, rest⟩ := bind_ok resolved
    obtain ⟨_, _, same⟩ := bind_ok rest
    rw [parsed]
    exact same
  · rwa [if_neg digits] at resolved ⊢

theorem mapM_mem {α β : Type} {f : α → Except Exc β} {items : List α} {results : List β}
    (mapped : items.mapM f = .ok results) {b : β}
    (member : b ∈ results) : ∃ a ∈ items, f a = .ok b := by
  induction items generalizing results with
  | nil =>
    obtain rfl : [] = results := by simpa [pure, Except.pure] using mapped
    cases member
  | cons a rest ih =>
    rw [List.mapM_cons] at mapped
    obtain ⟨first, here, others⟩ := bind_ok mapped
    obtain ⟨tail, there, same⟩ := bind_ok others
    obtain rfl : first :: tail = results := by simpa [pure, Except.pure] using same
    rcases List.mem_cons.mp member with rfl | later
    · exact ⟨a, List.mem_cons_self .., here⟩
    · obtain ⟨a', inside, found⟩ := ih there later
      exact ⟨a', List.mem_cons_of_mem _ inside, found⟩

/-- A loop over the names of a lock that finds nothing has resolved them all. -/
theorem anyEntry_false {names : List String} (none : anyEntry resolve numbers (names.map .str) = .ok false)
    {name : String} (member : name ∈ names) :
    ∃ n, resolve name = .ok n ∧ n ∉ numbers := by
  induction names with
  | nil => cases member
  | cons first rest ih =>
    rw [List.map_cons, anyEntry] at none
    obtain ⟨n, found, others⟩ := bind_ok none
    by_cases hit : numbers.contains n
    · rw [if_pos hit] at others
      cases others
    · rw [if_neg hit] at others
      rcases List.mem_cons.mp member with rfl | later
      · exact ⟨n, found, by simpa using hit⟩
      · exact ih others later

end

/-! ### The cgroup -/

theorem splitLines_written (lines : List (List Char)) (text : List Char) :
    ∃ earlier, Text.splitLines (written lines ++ text) = earlier ++ Text.splitLines text := by
  induction lines with
  | nil => exact ⟨[], rfl⟩
  | cons line rest ih =>
    obtain ⟨earlier, found⟩ := ih
    obtain ⟨first, others, broken⟩ := Text.splitLines_newline line (written rest ++ text)
    refine ⟨first :: others ++ earlier, ?_⟩
    rw [List.append_assoc, ← found, ← broken]
    simp [written]

/-- A line that begins with the slice is that of a process in it. -/
theorem bypassed_slice {rest : List Char} (ends : rest = [] ∨ ∃ more, rest = '/' :: more) :
    bypassed ("0::/ttp-bypass.slice".toList ++ rest) = true := by
  have path : lastOfSplit 2 ("0::/ttp-bypass.slice".toList ++ rest) = '/' :: ("ttp-bypass.slice".toList ++ rest) := rfl
  have solid : '/' ∉ "ttp-bypass.slice".toList := by decide
  have root (text : List Char) : ('/' :: text).splitOn '/' = [] :: text.splitOn '/' :=
    List.splitOn_append_cons_self_of_not_mem List.not_mem_nil text
  rw [bypassed, path, root]
  rcases ends with rfl | ⟨more, rfl⟩
  · rw [List.append_nil, List.splitOn_eq_singleton solid]
    simp
  · rw [List.splitOn_append_cons_self_of_not_mem solid]
    simp

/-- The file names the slice where the process is in it. -/
theorem readCgroups_slice {c : Caller} {text : List Char} (read : c.readCgroups = .ok text)
    (inside : c.cgroup[0]? = some "ttp-bypass.slice") :
    (Text.splitLines text).any bypassed = true := by
  obtain ⟨below, cgroup⟩ : ∃ below, c.cgroup = "ttp-bypass.slice" :: below := by
    cases path : c.cgroup with
    | nil => simp [path] at inside
    | cons first below => exact ⟨below, by simpa [path] using inside⟩
  set descent : List Char := below.flatMap fun name => '/' :: name.toList with descends
  have path : c.path = "/ttp-bypass.slice".toList ++ descent := by simp [Caller.path, cgroup, descends]
  set after : List Char := written (c.later.map String.toList) with later
  have whole : text = written (c.earlier.map String.toList) ++
      ("0::/ttp-bypass.slice".toList ++ (descent ++ '\n' :: after)) := by
    unfold Caller.readCgroups at read
    cases unreadable : c.unreadable with
    | some e => simp [unreadable] at read
    | none =>
      rw [unreadable] at read
      rw [← Except.ok.inj read, path]
      simp [written, later]
  obtain ⟨earlier, found⟩ :=
    splitLines_written (c.earlier.map String.toList) ("0::/ttp-bypass.slice".toList ++ (descent ++ '\n' :: after))
  obtain ⟨lines, first⟩ := Text.splitLines_first
    (show "0::/ttp-bypass.slice".toList ++ (descent ++ '\n' :: after) ≠ [] by simp)
  have line : ("0::/ttp-bypass.slice".toList ++ (descent ++ '\n' :: after)).takeWhile (fun c => !Text.isBreak c) =
      "0::/ttp-bypass.slice".toList ++ (descent ++ '\n' :: after).takeWhile (fun c => !Text.isBreak c) :=
    List.takeWhile_append_of_pos (by simp [Text.isBreak])
  have ends : (descent ++ '\n' :: after).takeWhile (fun c => !Text.isBreak c) = [] ∨
      ∃ more, (descent ++ '\n' :: after).takeWhile (fun c => !Text.isBreak c) = '/' :: more := by
    cases below with
    | nil => exact Or.inl (by simp [descends, Text.isBreak])
    | cons name below => exact Or.inr ⟨_, by simp [descends, Text.isBreak]; rfl⟩
  rw [whole, found, first, line, List.any_append, List.any_cons, bypassed_slice ends]
  simp

/-! ### The probe of a session -/

section
variable {num : Numerals} {db : Database} {o : Options} {a : StartArgs} {c : Caller} {lock : Obj}

/-- What a lock says of the accounts that its session exempts. -/
structure Carries (a : StartArgs) (lock : Obj) : Prop where
  tor : lock.get "tor_uid" = a.lock.torUid
  users : lock.find? "bypass_users" = some (.arr a.lock.bypassUsers)
  groups : lock.find? "bypass_groups" = some (.arr a.lock.bypassGroups)

/-- What the names of a start resolve to, for its rules as for its lock. -/
structure Resolved (num : Numerals) (db : Database) (a : StartArgs) : Prop where
  tor : a.lock.torUid = .int a.rules.torUid
  users : ∃ names : List String, a.lock.bypassUsers = names.map .str ∧
    ∀ uid ∈ a.rules.bypassUids.getD [], ∃ name ∈ names, uidOf num db name = .ok uid
  groups : ∃ names : List String, a.lock.bypassGroups = names.map .str ∧
    ∀ gid ∈ a.rules.bypassGids.getD [], ∃ name ∈ names, gidOf num db name = .ok gid

theorem getD_nonempty (numbers : List Nat) : (if numbers.isEmpty then none else some numbers).getD [] = numbers := by
  cases numbers <;> rfl

theorem resolve_resolved (resolved : resolve num db o = .ok a) : Resolved num db a := by
  obtain ⟨bypasses, parsed, rest⟩ := bind_ok resolved
  obtain ⟨rules, applied, same⟩ := bind_ok rest
  obtain rfl := Except.ok.inj same
  obtain ⟨uids, usersParsed, rest⟩ := bind_ok parsed
  obtain ⟨gids, groupsParsed, same⟩ := bind_ok rest
  obtain rfl := Except.ok.inj same
  unfold applyRulesConfig at applied
  cases tor : uidOf num db o.torUser with
  | error e => simp [tor] at applied
  | ok torUid =>
    rw [tor] at applied
    obtain rfl := Except.ok.inj applied
    refine ⟨by simp [torUidVal, tor], ⟨_, rfl, fun uid member => ?_⟩, ⟨_, rfl, fun gid member => ?_⟩⟩
    · obtain ⟨name, listed, found⟩ := mapM_mem usersParsed (getD_nonempty uids ▸ member)
      exact ⟨name, listed, bypassUid_uidOf found⟩
    · obtain ⟨name, listed, found⟩ := mapM_mem groupsParsed (getD_nonempty gids ▸ member)
      exact ⟨name, listed, bypassGid_gidOf found⟩

/-- An account that falls under no exemption of the lock. -/
structure Unexempted (num : Numerals) (db : Database) (c : Caller) (account : Account) (a : StartArgs) : Prop where
  tor : a.lock.torUid ≠ .int account.uid
  users : ∀ name : String, .str name ∈ a.lock.bypassUsers → ∀ uid, uidOf num db name = .ok uid → uid ≠ account.uid
  groups : ∀ name : String, .str name ∈ a.lock.bypassGroups → ∀ gid, gidOf num db name = .ok gid → gid ∉ account.groups
  slice : c.cgroup[0]? ≠ some "ttp-bypass.slice"

theorem exemption_none {account : Account} (names : Resolved num db a) (carries : Carries a lock)
    (silent : exemption num db c account lock = .ok none) : Unexempted num db c account a := by
  obtain ⟨users, usersNamed, _⟩ := names.users
  obtain ⟨groups, groupsNamed, _⟩ := names.groups
  unfold exemption at silent
  rw [carries.tor, carries.users, carries.groups, usersNamed, groupsNamed] at silent
  by_cases owner :
      ((Json.int account.uid).eq a.lock.torUid || (account.uid == 0 && (lock.get "allow_root").truthy)) = true
  · simp [owner, pure, Except.pure] at silent
  rw [if_neg owner] at silent
  obtain ⟨_, listed, silent⟩ := bind_ok silent
  obtain rfl := Except.ok.inj listed
  obtain ⟨byUser, usersTold, silent⟩ := bind_ok silent
  cases byUser with
  | true => simp [pure, Except.pure] at silent
  | false =>
  obtain ⟨_, listed, silent⟩ := bind_ok silent
  obtain rfl := Except.ok.inj listed
  obtain ⟨byGroup, groupsTold, silent⟩ := bind_ok silent
  cases byGroup with
  | true => simp [pure, Except.pure] at silent
  | false =>
  obtain ⟨text, read, silent⟩ := bind_ok silent
  refine ⟨fun same => owner ?_, fun name member uid found => ?_, fun name member gid found => ?_, fun inside => ?_⟩
  · simp [same, Json.eq, Json.numeric]
  · rw [usersNamed] at member
    obtain ⟨name', listed, same⟩ := List.mem_map.mp member
    obtain rfl := Json.str.inj same
    obtain ⟨n, resolved, other⟩ := anyEntry_false usersTold listed
    obtain rfl := Except.ok.inj (found.symm.trans resolved)
    simpa using other
  · rw [groupsNamed] at member
    obtain ⟨name', listed, same⟩ := List.mem_map.mp member
    obtain rfl := Json.str.inj same
    obtain ⟨n, resolved, other⟩ := anyEntry_false groupsTold listed
    obtain rfl := Except.ok.inj (found.symm.trans resolved)
    exact other
  · simp [readCgroups_slice read inside, pure, Except.pure] at silent

/-- Whom the worker runs as: never root. -/
theorem accountOf_worker {account : Account} (found : accountOf db c = .ok account) : account.uid ≠ 0 ∧
    (account.credentials.map Credentials.user).getD c.euid = account.uid ∧
    (account.credentials.map Credentials.group).getD c.egid ∈ account.groups := by
  unfold accountOf at found
  by_cases root : c.euid = 0
  · rw [if_pos root] at found
    cases nobody : db.getpwnam "nobody" with
    | none => simp [nobody] at found
    | some user =>
      simp only [nobody] at found
      by_cases privileged : user.uid = 0
      · simp [privileged] at found
      · rw [if_neg privileged] at found
        obtain rfl := Except.ok.inj found
        exact ⟨privileged, rfl, List.mem_singleton_self _⟩
  · rw [if_neg root] at found
    obtain rfl := Except.ok.inj found
    exact ⟨root, rfl, List.mem_cons_self ..⟩

/-- A silent look at the account has gone through the exemptions. -/
theorem identity_silent {credentials : Option Credentials}
    (silent : identity num db c (some lock) = .ok (credentials, none)) :
    ∃ account, accountOf db c = .ok account ∧ account.credentials = credentials ∧
      exemption num db c account lock = .ok none := by
  unfold identity at silent
  cases found : accountOf db c with
  | error e => simp [found] at silent
  | ok account =>
    simp only [found] at silent
    cases looked : exemption num db c account lock with
    | error e =>
      simp only [looked] at silent
      split at silent <;> simp at silent
    | ok exempt =>
      simp only [looked, Except.ok.injEq, Prod.mk.injEq] at silent
      exact ⟨account, rfl, silent.1, looked.trans (congrArg Except.ok silent.2)⟩

/-- No sender that the session lets through is the worker. -/
theorem worker_unexempted {credentials : Option Credentials} {isLocal : Addr → Bool} {p : Packet}
    (names : Resolved num db a)
    (carries : Carries a lock) (silent : identity num db c (some lock) = .ok (credentials, none))
    (opened : Opened c credentials p) {m : Match}
    (exempted : Exempted a.rules m) : m.holds isLocal p = false := by
  obtain ⟨account, found, rfl, looked⟩ := identity_silent silent
  obtain ⟨unprivileged, uid, gid⟩ := accountOf_worker found
  have free := exemption_none names carries looked
  have sender : p.skuid = some account.uid := opened.uid.trans (by rw [uid])
  rw [Bool.eq_false_iff]
  intro holds
  cases exempted with
  | tor =>
    have same : account.uid = a.rules.torUid := by simpa [Match.holds, sender] using holds
    exact free.tor (names.tor.trans (by rw [same]))
  | slice =>
    refine free.slice ?_
    simpa [Match.holds, opened.cgroup] using holds
  | root allowed => exact unprivileged (by simpa [Match.holds, sender] using holds)
  | @user uid member =>
    obtain rfl : account.uid = uid := by simpa [Match.holds, sender] using holds
    obtain ⟨users, named, resolves⟩ := names.users
    obtain ⟨name, listed, resolved⟩ := resolves _ member
    exact free.users name (by simp [named, listed]) _ resolved rfl
  | @group gid' member =>
    obtain rfl : (account.credentials.map Credentials.group).getD c.egid = gid' := by
      simpa [Match.holds, opened.gid] using holds
    obtain ⟨groups, named, resolves⟩ := names.groups
    obtain ⟨name, listed, resolved⟩ := resolves _ member
    exact free.groups name (by simp [named, listed]) _ resolved gid

/-! ### The locks of a start -/

/-- Every lock that was written names the accounts of the start, and so does the one that is there once a start has
    written its own. -/
theorem startCommand_carries {py : Interpreter} (a : StartArgs) :
    (startCommand py a).Preserves perform fun w => ∀ lock ∈ w.written, Carries a lock := by
  have closed : Closed fun w => ∀ lock ∈ w.written, Carries a lock :=
    fun w w' dropped carried lock member => carried lock (dropped.1 ▸ member)
  have holds : Closed fun w => ∀ lock : Obj, w.host.lock = .json (.obj lock) → Carries a lock := by
    rintro w w' ⟨_, lock⟩ carried l there
    rcases lock with same | gone
    · exact carried l (same ▸ there)
    · simp [gone] at there
  have both : Closed fun w => (∀ lock ∈ w.written, Carries a lock) ∧ ∀ lock : Obj, w.host.lock = .json (.obj lock) →
      Carries a lock :=
    fun w w' dropped held => ⟨closed w w' dropped held.1, holds w w' dropped held.2⟩
  have accepts {data : Obj} (carries : Carries a data) :
      Accepts (fun w => ∀ lock ∈ w.written, Carries a lock) data := by
    intro w w' carried written _ lock member
    rw [written] at member
    rcases List.mem_cons.mp member with rfl | older
    · exact carries
    · exact carried lock older
  have begun (selected : Settings) (backup : Json) (snapshot : Obj) (session : String) :
      Carries a (startData a selected backup snapshot session) :=
    ⟨rfl, rfl, rfl⟩
  -- an update leaves the three keys alone
  have updates {changes : Obj} (others : ∀ key ∈ ["tor_uid", "bypass_users", "bypass_groups"], key ∉ changes.keys) :
      (updateLockKeys changes).Preserves perform fun w =>
        (∀ lock ∈ w.written, Carries a lock) ∧ ∀ lock : Obj, w.host.lock = .json (.obj lock) → Carries a lock := by
    refine update_preserves both fun w held lock there w' w'' held' written replaced => ?_
    have carries := held.2 lock there
    have updated : Carries a (lock.update changes) := ⟨(get_update changes (others _ (by simp))).trans carries.tor,
      (find?_update changes (others _ (by simp))).trans carries.users,
      (find?_update changes (others _ (by simp))).trans carries.groups⟩
    refine ⟨accepts updated w' w'' held'.1 written replaced, fun l there' => ?_⟩
    obtain rfl : lock.update changes = l := by simpa using replaced.symm.trans there'
    exact updated
  intro w carried
  refine ensures_mono (startCommand_ensures closed carried
    (fun selected backup snapshot session _ _ _ => accepts (begun selected backup snapshot session))
    (fun _ => holds) ?_ ?_) fun _ _ ended => ended.1
  · intro w selected backup snapshot session there lock there'
    obtain rfl : startData a selected backup snapshot session = lock := by simpa using there.symm.trans there'
    exact begun selected backup snapshot session
  · exact fun selected _ => startWatchdog_preserves both (updates (by decide)) fun pid => updates (by simp [Obj.keys])

theorem visits_carries {py : Interpreter} {h : Host} {w : Journal}
    (visited : (startCommand py a).Visits perform ⟨h, []⟩ w) :
    ∀ lock ∈ w.written, Carries a lock := by
  refine visits_ensured visited (startCommand_carries a _ (by simp)) perform_total
    fun w o fate r w' performed carried lock member => ?_
  obtain ⟨_, _, noted⟩ := perform_some performed
  exact carried lock (noted ▸ note_grows member)

end

/-- A probe that `_identity` finds nothing against, on a lock that the start wrote, is exempted by no rule of the
    start. -/
theorem identity_agrees {py : Interpreter} {num : Numerals} {db : Database} {o : Options} {a : StartArgs} {h : Host}
    {w : Journal} {lock : Obj}
    {c : Caller} {credentials : Option Credentials} {isLocal : Addr → Bool} {p : Packet} {chain : Nft.Chain} {r : Rule}
    (resolved : resolve num db o = .ok a) (visited : (startCommand py a).Visits perform ⟨h, []⟩ w)
    (wrote : lock ∈ w.written)
    (silent : identity num db c (some lock) = .ok (credentials, none)) (opened : Opened c credentials p)
    (inside : chain ∈ (buildRuleset a.rules).chains) (member : r ∈ chain.rules) (exempting : exempts r = true) :
    r.hits isLocal p = false := by
  obtain ⟨m, matched, exempted⟩ := exempts_exempted inside member exempting
  have missed : m.holds isLocal p = false :=
    worker_unexempted (resolve_resolved resolved) (visits_carries visited lock wrote) silent opened exempted
  rw [Rule.hits, List.all_eq_false]
  exact ⟨m, matched, by simp [missed]⟩

/-! ### A probe started by root -/

def accounts : Database where
  getpwnam := fun name =>
    if name = "nobody" then some ⟨65534, 65534⟩ else if name = "debian-tor" then some ⟨107, 113⟩
    else if name = "backup" then some ⟨34, 34⟩ else none
  getpwuid := fun _ => none
  getgrnam := fun _ => none
  getgrgid := fun _ => none

/-- `ttp start --bypass-user backup`. -/
def backupStart : Options where
  config := .ok {}
  bypassUser := some ["backup"]
  torUser := "debian-tor"
  ipv6Supported := true
  cgroupBypassSupport := true

/-- `ttp check`, run by root. -/
def rootCheck : Caller := ⟨0, 0, [0], ["user.slice"], [], [], none⟩

def untilLock : List Fate :=
  List.replicate 6 .ok ++ .ready true :: List.replicate 8 .ok ++ .ready false :: List.replicate 4 .ok ++
    [.name "a", .ok, .ok]

/-- Whether the probe runs as nobody and nothing is found against it. -/
def unsuspected (lock : Obj) : Bool :=
  match identity .ascii accounts rootCheck (some lock) with
  | .ok (some credentials, none) => credentials.user == 65534 && credentials.group == 65534
  | _ => false

/-- The locks that the start has written up to there, by whether they leave the probe unsuspected. -/
def unsuspectedBy (a : StartArgs) : Option (List Bool) :=
  ((startCommand .cpython a).replay perform ⟨Host.fresh, []⟩ untilLock).map fun w => w.written.map unsuspected

theorem backupStart_runs : ∃ a, resolve .ascii accounts backupStart = .ok a ∧ a.rules.bypassUids = some [34] ∧
    unsuspectedBy a = some [true] :=
  ⟨_, rfl, rfl, by decide +kernel⟩

theorem unsuspected_identity {lock : Obj} (free : unsuspected lock = true) :
    ∃ credentials, identity .ascii accounts rootCheck (some lock) = .ok (some credentials, none) ∧
      credentials.user = 65534 := by
  unfold unsuspected at free
  split at free
  case h_1 credentials told => exact ⟨credentials, told, by simpa using (Bool.and_eq_true_iff.mp free).1⟩
  case h_2 => cases free

/-- The probe of root, that runs as nobody, does not pass as the user that the session bypasses. -/
theorem backupStart_agrees : ∃ (a : StartArgs) (w : Journal) (lock : Obj) (credentials : Credentials),
    (startCommand .cpython a).Visits perform ⟨Host.fresh, []⟩ w ∧ lock ∈ w.written ∧
      identity .ascii accounts rootCheck (some lock) = .ok (some credentials, none) ∧ credentials.user = 65534 ∧
      ∀ isLocal p, Opened rootCheck (some credentials) p →
      (Builder.rule [.skuid 34] .accept).hits isLocal p = false := by
  obtain ⟨a, resolved, bypassed, told⟩ := backupStart_runs
  obtain ⟨w, replayed, written⟩ := Option.map_eq_some_iff.mp told
  obtain ⟨lock, wrote, free⟩ :=
    List.mem_map.mp (written ▸ List.mem_singleton_self true : true ∈ w.written.map unsuspected)
  obtain ⟨credentials, silent, nobody⟩ := unsuspected_identity free
  refine ⟨a, w, lock, credentials, replay_visits replayed, wrote, silent, nobody, fun isLocal p opened => ?_⟩
  have listed : Builder.rule [.skuid 34] .accept ∈ (Builder.filterOut a.rules).rules := by
    simp [Builder.filterOut, Builder.senderRules, Builder.bypassRulesFilter, bypassed]
  exact identity_agrees resolved (replay_visits replayed) wrote silent opened (by simp [buildRuleset]) listed rfl

end Ttp.Identity
