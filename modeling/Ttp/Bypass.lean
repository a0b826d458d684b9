import Ttp.Identity
import Ttp.Integrity

/-!
The users and groups that bypass Tor, from the options of a start to the ruleset,
to the check of the table and to the account of the probe: which entries end the
start with a `ValueError`, and that all others resolve to the same ids everywhere.
-/
namespace Ttp.Bypass
open Ttp.Python Ttp.Accounts Ttp.Identity Ttp.Integrity Ttp.Text
open Ttp.Nft (Rule Match Table)
open Ttp.Builder (Config buildRuleset)

variable (num : Numerals) (db : Database)

/-! ### Entries -/

/-- An entry of one of the options. -/
inductive Principal where
  | user (name : String)
  | group (name : String)

def Principal.name : Principal → String
  | .user name => name
  | .group name => name

def Principal.resolve : Principal → Except Exc Nat
  | .user name => bypassUid num db name
  | .group name => bypassGid num db name

/-- The entries, in the order in which they are resolved. -/
def entries (users groups : List String) : List Principal := users.map .user ++ groups.map .group

/-- A number that the database of the entry can be asked for. -/
def Principal.InRange (n : Nat) : Principal → Prop
  | .user _ => True
  | .group _ => n < idLimit

/-- A name that a database can be asked for. -/
def Encodable (name : String) : Prop := db.encodes name = true ∧ '\x00' ∉ name.toList

/-- A numeral that `int` converts, and that is not too large for a group, or a name that a database can be asked
    for; and the console can print it. -/
def Principal.Readable (p : Principal) : Prop :=
  (if num.isDigit p.name then ∃ n, num.int p.name = .ok n ∧ p.InRange n.toNat else Encodable db p.name) ∧
    num.prints p.name = true

/-- The account that an entry names by its number. -/
def Principal.numbered (n : Nat) : Principal → Bool
  | .user _ => n < idLimit && (db.getpwuid n).isSome
  | .group _ => n < idLimit && (db.getgrgid n).isSome

def Principal.named : Principal → Bool
  | .user name => (db.getpwnam name).isSome
  | .group name => (db.getgrnam name).isSome

/-- An entry that names an account. -/
def Principal.Known (p : Principal) : Prop :=
  if num.isDigit p.name then ∃ n, num.int p.name = .ok n ∧ p.numbered db n.toNat = true
  else Encodable db p.name ∧ p.named db = true

/-- The first entry that names no account, if there is one, can be read. -/
def Spelled (users groups : List String) : Prop :=
  ∀ before p after, entries users groups = before ++ p :: after → (∀ q ∈ before, q.Known num db) →
    p.Known num db ∨ p.Readable num db

/-! ### The table -/

/-- An owner rule, as the ruleset and the listing of `nft` have it. -/
def ownerText (r : Rule) : Option String :=
  match r with
  | ⟨[.skuid uid], none, .accept⟩ => some s!"meta skuid {uid} accept"
  | ⟨[.skgid gid], none, .accept⟩ => some s!"meta skgid {gid} accept"
  | _ => none

/-- The listing has every owner rule of the table as it was written, with numeric ids. -/
def Listed (listing : String) (t : Table) : Prop :=
  ∀ chain ∈ t.chains, ∀ r ∈ chain.rules, ∀ text, ownerText r = some text → contains listing.toList text.toList = true

/-- A system with the accounts of the start and its table, and the lock that has the names. -/
structure Unmodified (b : Bypasses) (c : Config) (s : System) (lock : Obj) : Prop where
  accounts : s.accounts = db
  uids : c.bypassUids.getD [] = b.uids
  gids : c.bypassGids.getD [] = b.gids
  users : lock.find? "bypass_users" = some (.arr (b.users.map .str))
  groups : lock.find? "bypass_groups" = some (.arr (b.groups.map .str))
  listed : ∀ t, s.table = some t → Listed t.listing (buildRuleset c)

/-- What a check of the table says that is no alarm about a bypass. -/
def otherAlarms : List String :=
  ["nftables 'inet ttp' table is missing", "nftables 'inet ttp' table is incomplete (missing filter_out)",
    "nftables 'inet ttp' table differs from the one this session applied"]

/-- What is claimed of the options: they resolve or end the command with code 1; what they resolve to, the names in
    the lock do too, for the check of the table and for the probe; and the check misses no bypass in the table of the
    start. -/
structure Resolves (bypassUser bypassGroup : Option (List String)) : Prop where
  ends : (∃ b, parseBypassUsersGroups num db bypassUser bypassGroup = .ok b) ∨
    parseBypassUsersGroups num db bypassUser bypassGroup = .error (.exit 1)
  checked : ∀ b, parseBypassUsersGroups num db bypassUser bypassGroup = .ok b →
    b.users.mapM (uidOf num db) = .ok b.uids ∧ b.groups.mapM (gidOf num db) = .ok b.gids
  probed : ∀ b, parseBypassUsersGroups num db bypassUser bypassGroup = .ok b →
    (b.users.map Json.str).mapM (entryOf (uidOf num db)) = .ok b.uids ∧
    (b.groups.map Json.str).mapM (entryOf (gidOf num db)) = .ok b.gids
  quiet : ∀ b, parseBypassUsersGroups num db bypassUser bypassGroup = .ok b → ∀ c s lock, Unmodified db b c s lock →
    ∀ digest component message, checkFirewall num digest s lock = .error (.failed component message) →
    message ∈ otherAlarms

/-! ### How an entry resolves -/

section
variable {num : Numerals} {db : Database} {p : Principal}

/-- The lookup of a name. -/
def Principal.lookup (db : Database) : Principal → Except Exc Nat
  | .user name => db.uidNamed name
  | .group name => db.gidNamed name

theorem encoded_cases (db : Database) (name : String) : (db.encoded name = .ok name ∧ Encodable db name) ∨
    ∃ e, db.encoded name = .error e ∧ e.isValueError = true ∧ ¬ Encodable db name := by
  unfold Database.encoded Encodable
  by_cases refused : db.encodes name = true
  · by_cases broken : '\x00' ∈ name.toList
    · exact .inr ⟨.valueError "embedded null byte", by simp [refused, broken], rfl, by simp [broken]⟩
    · exact .inl ⟨by simp [refused, broken], refused, broken⟩
  · exact .inr ⟨.unicodeEncodeError, by simp [refused], rfl, by simp [refused]⟩

theorem lookup_named : (∃ id, p.lookup db = .ok id) ↔ Encodable db p.name ∧ p.named db = true := by
  rcases encoded_cases db p.name with ⟨found, whole⟩ | ⟨e, failed, _, broken⟩
  · cases p with
    | user name =>
      simp only [Principal.name] at found whole
      cases account : db.getpwnam name <;>
        simp [Principal.lookup, Database.uidNamed, Principal.name, Principal.named, found, whole, account,
          bind, Except.bind]
    | group name =>
      simp only [Principal.name] at found whole
      cases account : db.getgrnam name <;>
        simp [Principal.lookup, Database.gidNamed, Principal.name, Principal.named, found, whole, account,
          bind, Except.bind]
  · refine iff_of_false ?_ fun known => broken known.1
    rintro ⟨id, resolved⟩
    cases p <;> simp [Principal.lookup, Database.uidNamed, Database.gidNamed, Principal.name, bind, Except.bind]
      at failed resolved <;>
      simp [failed] at resolved

theorem lookup_error {e : Exc} (failed : p.lookup db = .error e) :
    (¬ Encodable db p.name ∧ e.isValueError = true) ∨ (Encodable db p.name ∧ e = .keyError) := by
  rcases encoded_cases db p.name with ⟨found, whole⟩ | ⟨e', refused, value, broken⟩
  · refine .inr ⟨whole, ?_⟩
    cases p with
    | user name =>
      simp only [Principal.name] at found
      cases account : db.getpwnam name <;>
        simp [Principal.lookup, Database.uidNamed, found, account, bind, Except.bind] at failed
      exact failed.symm
    | group name =>
      simp only [Principal.name] at found
      cases account : db.getgrnam name <;>
        simp [Principal.lookup, Database.gidNamed, found, account, bind, Except.bind] at failed
      exact failed.symm
  · refine .inl ⟨broken, ?_⟩
    obtain rfl : e' = e := by
      cases p <;> simp only [Principal.name] at refused <;>
        simpa [Principal.lookup, Database.uidNamed, Database.gidNamed, refused, bind, Except.bind] using failed
    exact value

/-- The question for an account by its number. -/
def Principal.ask (db : Database) (n : Nat) : Principal → Except Exc Unit
  | .user _ => db.userNumbered n
  | .group _ => db.groupNumbered n

theorem ask_known (n : Nat) : p.ask db n = .ok () ↔ p.numbered db n = true := by
  cases p with
  | user name =>
    simp only [Principal.ask, Database.userNumbered, Principal.numbered, Bool.and_eq_true, decide_eq_true_eq]
    split_ifs with known
    · exact iff_of_true rfl known
    · exact iff_of_false nofun known
  | group name =>
    simp only [Principal.ask, Database.groupNumbered, Principal.numbered]
    by_cases large : idLimit ≤ n
    · simp [large]
    · cases (db.getgrgid n).isSome
      · simp [large]
      · simp only [if_neg large, if_true, Bool.and_true, decide_eq_true_eq, true_iff]
        omega

theorem ask_error {n : Nat} {e : Exc} (failed : p.ask db n = .error e) :
    (p.InRange n ∧ e = .keyError) ∨ (¬ p.InRange n ∧ e = .overflowError) := by
  cases p with
  | user name =>
    simp only [Principal.ask, Database.userNumbered] at failed
    split at failed
    · cases failed
    · exact .inl ⟨trivial, (Except.error.inj failed).symm⟩
  | group name =>
    simp only [Principal.ask, Database.groupNumbered] at failed
    split_ifs at failed with large
    · exact .inr ⟨not_lt.mpr large, (Except.error.inj failed).symm⟩
    · exact .inl ⟨not_le.mp large, (Except.error.inj failed).symm⟩

theorem resolve_shape : p.resolve num db = orExit num p.name (if num.isDigit p.name then
    (num.int p.name).bind fun n => (p.ask db n.toNat).bind fun _ => .ok n.toNat
  else p.lookup db) := by
  cases p <;> rfl

/-- An entry resolves exactly where it names an account. -/
theorem resolve_known : (∃ id, p.resolve num db = .ok id) ↔ p.Known num db := by
  rw [resolve_shape, Principal.Known]
  by_cases digits : num.isDigit p.name = true
  · rw [if_pos digits, if_pos digits]
    cases number : num.int p.name with
    | error e => simp [orExit, Except.bind]
    | ok n =>
      rw [show (∃ m, Except.ok n = (.ok m : Except Exc Int) ∧ p.numbered db m.toNat = true) ↔
        p.ask db n.toNat = .ok () by
        simp [ask_known]]
      cases asked : p.ask db n.toNat <;> simp [orExit, Except.bind, asked]
  · rw [if_neg digits, if_neg digits, ← lookup_named]
    simp only [orExit_ok]

/-- What `orExit` makes of a failure is the exit of the command for an unknown account whose name is printed. -/
theorem orExit_exit {name : String} {e : Exc} (ordinary : e ≠ .exit 1) :
    (if e = .keyError then if num.prints name then Exc.exit 1 else .markupError else e) = .exit 1 ↔
      e = .keyError ∧ num.prints name = true := by
  split_ifs with key printed
  · exact iff_of_true rfl ⟨key, printed⟩
  · exact iff_of_false nofun fun both => printed both.2
  · exact iff_of_false ordinary fun both => key both.1

/-- An entry that does not resolve ends the command exactly where it can be read. -/
theorem resolve_readable {e : Exc} (failed : p.resolve num db = .error e) : e = .exit 1 ↔ p.Readable num db := by
  rw [resolve_shape] at failed
  rw [Principal.Readable]
  have ended (e' : Exc) {known : Prop} (ordinary : e' ≠ .exit 1) (key : e' = .keyError ↔ known)
      (same : (if e' = .keyError then if num.prints p.name then Exc.exit 1 else .markupError else e') = e) :
      e = .exit 1 ↔ known ∧ num.prints p.name = true := by
    rw [← same, orExit_exit ordinary, key]
  by_cases digits : num.isDigit p.name = true
  · rw [if_pos digits] at failed ⊢
    cases number : num.int p.name with
    | error e' =>
      have value := num.refused _ _ number
      simp only [number, orExit, Except.bind, Except.error.injEq] at failed
      refine ended e' (by rintro rfl; cases value) (iff_of_false (by rintro rfl; cases value) ?_) failed
      simp
    | ok n =>
      cases asked : p.ask db n.toNat with
      | ok _ => simp [number, asked, orExit, Except.bind] at failed
      | error e' =>
        simp only [number, asked, orExit, Except.bind, Except.error.injEq] at failed
        rcases ask_error asked with ⟨fits, rfl⟩ | ⟨large, rfl⟩
        · exact ended .keyError (by simp) (iff_of_true rfl ⟨n, rfl, fits⟩) failed
        · refine ended .overflowError (by simp) (iff_of_false (by simp) ?_) failed
          rintro ⟨m, same, fits⟩
          exact large (Except.ok.inj same ▸ fits)
  · rw [if_neg digits] at failed ⊢
    cases found : p.lookup db with
    | ok id => simp [orExit, found] at failed
    | error e' =>
      simp only [orExit, found, Except.error.injEq] at failed
      rcases lookup_error found with ⟨broken, value⟩ | ⟨whole, rfl⟩
      · exact ended e' (by rintro rfl; cases value) (iff_of_false (by rintro rfl; cases value) broken) failed
      · exact ended .keyError (by simp) (iff_of_true rfl whole) failed

end

/-! ### The loops -/

section
variable {α β : Type} {f g : α → Except Exc β} {items : List α}

/-- A loop ends well, or with one exception, exactly where that is so of the first item that fails. -/
theorem mapM_ends (e : Exc) : ((∃ results, items.mapM f = .ok results) ∨ items.mapM f = .error e) ↔
    ∀ before a after, items = before ++ a :: after → (∀ b ∈ before, ∃ result, f b = .ok result) →
      (∃ result, f a = .ok result) ∨ f a = .error e := by
  induction items with
  | nil => simp [pure, Except.pure]
  | cons a rest ih =>
    rw [List.mapM_cons]
    cases first : f a with
    | error e' =>
      constructor
      · rintro (⟨results, done⟩ | failed) before b after same earlier
        · simp [bind, Except.bind] at done
        · cases before with
          | nil =>
            obtain ⟨rfl, rfl⟩ := List.cons.inj same
            exact Or.inr (by simpa [bind, Except.bind, first] using failed)
          | cons c before =>
            obtain ⟨rfl, _⟩ := List.cons.inj same
            obtain ⟨result, done⟩ := earlier a (by simp)
            rw [first] at done
            cases done
      · intro each
        rcases each [] a rest rfl (by simp) with ⟨result, done⟩ | failed
        · rw [first] at done
          cases done
        · right
          rw [first, Except.error.injEq] at failed
          rw [failed]
          rfl
    | ok b =>
      have onwards : ((∃ results, (do let bs ← rest.mapM f; pure (b :: bs)) = .ok results) ∨
        (do let bs ← rest.mapM f; pure (b :: bs)) = .error e) ↔
          ((∃ results, rest.mapM f = .ok results) ∨ rest.mapM f = .error e) := by
        cases rest.mapM f <;> simp [bind, Except.bind, pure, Except.pure]
      refine Iff.trans onwards (ih.trans
        ⟨fun each before c after same earlier => ?_, fun each before c after same earlier => ?_⟩)
      · cases before with
        | nil =>
          obtain ⟨rfl, rfl⟩ := List.cons.inj same
          exact Or.inl ⟨b, first⟩
        | cons d before =>
          obtain ⟨rfl, tail⟩ := List.cons.inj same
          exact each before c after tail fun x member => earlier x (by simp [member])
      · refine each (a :: before) c after (by rw [same, List.cons_append]) fun x member => ?_
        rcases List.mem_cons.mp member with rfl | member
        · exact ⟨b, first⟩
        · exact earlier x member

theorem mapM_refines (refines : ∀ a ∈ items, ∀ b, f a = .ok b → g a = .ok b) {results : List β}
    (done : items.mapM f = .ok results) :
    items.mapM g = .ok results := by
  induction items generalizing results with
  | nil => exact done
  | cons a rest ih =>
    rw [List.mapM_cons] at done ⊢
    obtain ⟨b, first, onwards⟩ := bind_ok done
    obtain ⟨bs, others, same⟩ := bind_ok onwards
    rw [refines a (by simp) b first, ← same]
    show (do let bs ← rest.mapM g; pure (b :: bs)) = _
    rw [ih (fun a member => refines a (by simp [member])) others]
    rfl

end

/-! ### The options -/

section
variable {num : Numerals} {db : Database} {bypassUser bypassGroup : Option (List String)} {b : Bypasses}

theorem mapM_map {α β γ : Type} (f : β → Except Exc γ) (g : α → β) (items : List α) :
    (items.map g).mapM f = items.mapM fun a => f (g a) := by
  induction items with
  | nil => rfl
  | cons a rest ih => simp [ih]

theorem parse_ok (parsed : parseBypassUsersGroups num db bypassUser bypassGroup = .ok b) :
    b.users.mapM (bypassUid num db) = .ok b.uids ∧ b.groups.mapM (bypassGid num db) = .ok b.gids := by
  obtain ⟨uids, users, onwards⟩ := bind_ok parsed
  obtain ⟨gids, groups, same⟩ := bind_ok onwards
  obtain rfl := Except.ok.inj same
  exact ⟨users, groups⟩

/-- The command goes through the entries one by one. -/
theorem parse_entries : ((∃ b, parseBypassUsersGroups num db bypassUser bypassGroup = .ok b) ∨
      parseBypassUsersGroups num db bypassUser bypassGroup = .error (.exit 1)) ↔
    (∃ ids, (entries (namesOf bypassUser) (namesOf bypassGroup)).mapM (Principal.resolve num db) = .ok ids) ∨
      (entries (namesOf bypassUser) (namesOf bypassGroup)).mapM (Principal.resolve num db) = .error (.exit 1) := by
  rw [entries, List.mapM_append, mapM_map, mapM_map]
  show _ ↔ (∃ ids, ((namesOf bypassUser).mapM (bypassUid num db) >>= fun uids =>
    (namesOf bypassGroup).mapM (bypassGid num db) >>= fun gids =>
      pure (uids ++ gids)) = .ok ids) ∨ ((namesOf bypassUser).mapM (bypassUid num db) >>= fun uids =>
        (namesOf bypassGroup).mapM (bypassGid num db) >>= fun gids => pure (uids ++ gids)) = .error (.exit 1)
  unfold parseBypassUsersGroups
  cases users : (namesOf bypassUser).mapM (bypassUid num db) with
  | error e => simp [users, bind, Except.bind]
  | ok uids =>
    cases groups : (namesOf bypassGroup).mapM (bypassGid num db) <;>
      simp [users, groups, bind, Except.bind, pure, Except.pure]

/-- The command resolves its options or ends with code 1 exactly where the first entry without an account can be
    read. -/
theorem parse_spelled : ((∃ b, parseBypassUsersGroups num db bypassUser bypassGroup = .ok b) ∨
      parseBypassUsersGroups num db bypassUser bypassGroup = .error (.exit 1)) ↔
      Spelled num db (namesOf bypassUser) (namesOf bypassGroup) := by
  have readable (p : Principal) :
      p.Known num db ∨ p.resolve num db = .error (.exit 1) ↔ p.Known num db ∨ p.Readable num db := by
    rw [← resolve_known]
    cases outcome : p.resolve num db with
    | ok id => simp
    | error e => simp [← resolve_readable outcome]
  rw [parse_entries, mapM_ends]
  simp only [resolve_known, readable]
  rfl

/-! ### The table of the start -/

/-- The text that the check looks for. -/
def soughtText (field : String) (id : Nat) : String := s!"meta {field} {id} accept"

theorem soughtText_skuid (uid : Nat) : soughtText "skuid" uid = s!"meta skuid {uid} accept" := by
  apply String.toList_injective
  simp [soughtText, toString]

theorem soughtText_skgid (gid : Nat) : soughtText "skgid" gid = s!"meta skgid {gid} accept" := by
  apply String.toList_injective
  simp [soughtText, toString]

theorem checkBypass_listed {listing field : String} (word abbreviation : String) {resolve : String → Except Exc Nat}
    {names : List String} {ids : List Nat}
    (resolved : names.mapM resolve = .ok ids)
    (listed : ∀ id ∈ ids, contains listing.toList (soughtText field id).toList = true) :
    checkBypass listing word abbreviation field resolve (names.map .str) = .ok () := by
  induction names generalizing ids with
  | nil => rfl
  | cons name rest ih =>
    rw [List.mapM_cons] at resolved
    obtain ⟨id, first, onwards⟩ := bind_ok resolved
    obtain ⟨others, later, same⟩ := bind_ok onwards
    obtain rfl := Except.ok.inj same
    simp only [List.map_cons, checkBypass, first]
    have here : contains listing.toList s!"meta {field} {id} accept".toList = true := listed id (by simp)
    rw [if_pos here]
    exact ih later fun id member => listed id (by simp [member])

/-- The listing of the table of the start has the rule of each user and group. -/
theorem listed_bypasses {c : Config} {listing : String} (listed : Listed listing (buildRuleset c)) :
    (∀ uid ∈ c.bypassUids.getD [], contains listing.toList (soughtText "skuid" uid).toList = true) ∧
      ∀ gid ∈ c.bypassGids.getD [], contains listing.toList (soughtText "skgid" gid).toList = true := by
  have inside : Builder.filterOut c ∈ (buildRuleset c).chains := by simp [buildRuleset]
  have rules {r : Rule} (member : r ∈ Builder.bypassRulesFilter c) : r ∈ (Builder.filterOut c).rules := by
    simp [Builder.filterOut, Builder.senderRules, member]
  constructor
  · intro uid member
    rw [soughtText_skuid]
    exact listed _ inside (Builder.rule [.skuid uid] .accept) 
      (rules (List.mem_append_left _ (List.mem_append_right _ (List.mem_map.mpr ⟨uid, member, rfl⟩)))) _ rfl
  · intro gid member
    rw [soughtText_skgid]
    exact listed _ inside (Builder.rule [.skgid gid] .accept) 
      (rules (List.mem_append_right _ (List.mem_map.mpr ⟨gid, member, rfl⟩))) _ rfl

theorem checkFirewall_quiet {c : Config} {s : System} {lock : Obj}
    (parsed : parseBypassUsersGroups num db bypassUser bypassGroup = .ok b)
    (unmodified : Unmodified db b c s lock) (digest : String → String) :
    Reports (fun _ message => message ∈ otherAlarms) (checkFirewall num digest s lock) := by
  obtain ⟨users, groups⟩ := parse_ok parsed
  have missing : "nftables 'inet ttp' table is missing" ∈ otherAlarms := List.mem_cons_self ..
  have incomplete : "nftables 'inet ttp' table is incomplete (missing filter_out)" ∈ otherAlarms :=
    List.mem_cons_of_mem _ (List.mem_cons_self ..)
  have differs : "nftables 'inet ttp' table differs from the one this session applied" ∈ otherAlarms :=
    List.mem_cons_of_mem _ (List.mem_cons_of_mem _ (List.mem_cons_self ..))
  have bypasses {t : Installed} (there : s.table = some t) : Reports (fun _ message => message ∈ otherAlarms) (do
      let users ← attempt (itemsOf ((lock.find? "bypass_users").getD (.arr [])))
      checkBypass t.listing "user" "UID" "skuid" (uidOf num s.accounts) users
      let groups ← attempt (itemsOf ((lock.find? "bypass_groups").getD (.arr [])))
      checkBypass t.listing "group" "GID" "skgid" (gidOf num s.accounts) groups : Check) := by
    obtain ⟨uids, gids⟩ := listed_bypasses (unmodified.listed t there)
    rw [unmodified.uids] at uids
    rw [unmodified.gids] at gids
    have usersListed := checkBypass_listed "user" "UID" (mapM_refines (fun _ _ _ => bypassUid_uidOf) users) uids
    have groupsListed := checkBypass_listed "group" "GID" (mapM_refines (fun _ _ _ => bypassGid_gidOf) groups) gids
    rw [unmodified.users, unmodified.groups, unmodified.accounts]
    show Reports (fun _ message => message ∈ otherAlarms) (do
      checkBypass t.listing "user" "UID" "skuid" (uidOf num db) (b.users.map .str)
      checkBypass t.listing "group" "GID" "skgid" (gidOf num db) (b.groups.map .str) : Check)
    rw [usersListed]
    show Reports (fun _ message => message ∈ otherAlarms)
      (checkBypass t.listing "group" "GID" "skgid" (gidOf num db) (b.groups.map .str))
    rw [groupsListed]
    exact reports_ok ()
  unfold checkFirewall
  cases listing : outputOf s.list s.table (·.listing) with
  | error e => exact fun _ _ failed => by cases failed
  | ok output =>
    cases output with
    | none => exact reports_failed missing
    | some text =>
      obtain ⟨t, there, rfl⟩ : ∃ t, s.table = some t ∧ t.listing = text := by
        cases works : s.list <;> simp [outputOf, works] at listing
        exact listing
      show Reports (fun _ message => message ∈ otherAlarms)
        (refuseIf _ "firewall" "nftables 'inet ttp' table is incomplete (missing filter_out)" >>= _)
      refine reports_bind (reports_refuseIf incomplete) fun _ => ?_
      dsimp only
      split
      · refine reports_bind (reports_attempt _) fun current => reports_bind (reports_refuseIf differs) fun _ => ?_
        split
        · exact bypasses there
        · exact reports_ok ()
      · split
        · exact bypasses there
        · exact reports_ok ()

end

/-- The options are resolved alike everywhere, or end the command with code 1, exactly where the first entry that
    names no account can be read: no numeral that `int` refuses or that is too large for a group, and no name that
    cannot be encoded, has a null character or is no markup. -/
theorem bypass_resolves (num : Numerals) (db : Database) (bypassUser bypassGroup : Option (List String)) :
    Resolves num db bypassUser bypassGroup ↔ Spelled num db (namesOf bypassUser) (namesOf bypassGroup) := by
  rw [← parse_spelled]
  refine ⟨fun resolves => resolves.ends, fun ends =>
    ⟨ends, fun b parsed => ?_, fun b parsed => ?_, fun b parsed c s lock unmodified digest component message =>
    checkFirewall_quiet parsed unmodified digest component message⟩⟩
  · obtain ⟨users, groups⟩ := parse_ok parsed
    exact ⟨mapM_refines (fun _ _ _ => bypassUid_uidOf) users, mapM_refines (fun _ _ _ => bypassGid_gidOf) groups⟩
  · obtain ⟨users, groups⟩ := parse_ok parsed
    rw [mapM_map, mapM_map]
    exact ⟨mapM_refines (fun _ _ _ => bypassUid_uidOf) users, mapM_refines (fun _ _ _ => bypassGid_gidOf) groups⟩

/-- The numerals of the Latin-1 characters: the superscripts are digits, and `int` refuses them. -/
def latinNumerals : Numerals where
  isDigit := fun s => !s.toList.isEmpty && s.toList.all fun c => c.isDigit || c == '¹' || c == '²' || c == '³'
  int := Numerals.ascii.int
  refused := Numerals.ascii.refused

def nobody : Database where
  getpwnam := fun _ => none
  getpwuid := fun _ => none
  getgrnam := fun _ => none
  getgrgid := fun _ => none

/-- `--bypass-user ²` neither resolves nor ends the command with code 1. -/
theorem bypass_crashes : ¬ Resolves latinNumerals nobody (some ["²"]) none := by
  intro resolves
  have refused : parseBypassUsersGroups latinNumerals nobody (some ["²"]) none =
      .error (.valueError "invalid literal for int() with base 10") := rfl
  rcases resolves.ends with ⟨b, parsed⟩ | ended
  · rw [refused] at parsed
    cases parsed
  · rw [refused] at ended
    cases ended

end Ttp.Bypass
