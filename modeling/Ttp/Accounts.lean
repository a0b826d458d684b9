import Ttp.Python

/-!
The account database, and the names of users and groups that the code resolves
against it, as they stand or as numerals.
-/
namespace Ttp.Accounts
open Ttp.Python

/-- `str.isdigit` and `int` for the numerals of every script, and what the console makes of a name. -/
structure Numerals where
  isDigit : String → Bool
  int : String → Except Exc Int
  /-- Whether `print_error` prints a message that quotes the name: the console reads it as markup. -/
  prints : String → Bool := fun _ => true
  /-- `int` refuses a text with a `ValueError`. -/
  refused : ∀ s e, int s = .error e → e.isValueError = true

/-- ASCII numerals. -/
def Numerals.ascii : Numerals where
  isDigit := fun s => !s.toList.isEmpty && s.toList.all Char.isDigit
  int := fun s =>
    if s.toList.isEmpty || !s.toList.all Char.isDigit then .error (.valueError "invalid literal for int() with base 10")
    else .ok (s.toList.foldl (fun n c => n * 10 + (c.toNat - 48)) 0 : Nat)
  refused := fun s e failed => by
    split at failed
    · exact Except.error.inj failed ▸ rfl
    · cases failed

/-- An entry of the user database. -/
structure Passwd where
  uid : Nat
  gid : Nat

structure Database where
  getpwnam : String → Option Passwd
  getpwuid : Nat → Option Passwd
  getgrnam : String → Option Nat
  getgrgid : Nat → Option Nat
  /-- Whether the encoding of the file system has the name: UTF-8 has all but those with a surrogate that
      stands for no byte. -/
  encodes : String → Bool := fun _ => true

/-- A name as the C library gets it: one that cannot be encoded is refused, and one with a null character. -/
def Database.encoded (db : Database) (name : String) : Except Exc String :=
  if !db.encodes name then .error .unicodeEncodeError
  else if name.toList.contains '\x00' then .error (.valueError "embedded null byte")
  else .ok name

/-- `pwd.getpwnam(name).pw_uid`. -/
def Database.uidNamed (db : Database) (name : String) : Except Exc Nat := do
  match db.getpwnam (← db.encoded name) with
  | some user => .ok user.uid
  | none => .error .keyError

/-- `grp.getgrnam(name).gr_gid`. -/
def Database.gidNamed (db : Database) (name : String) : Except Exc Nat := do
  match db.getgrnam (← db.encoded name) with
  | some gid => .ok gid
  | none => .error .keyError

/-- The numbers that the C library has for users and groups are below this one. -/
def idLimit : Nat := 2 ^ 32

/-- `pwd.getpwuid(uid)`: a number that is too large for the C library is the number of no user. -/
def Database.userNumbered (db : Database) (uid : Nat) : Except Exc Unit :=
  if uid < idLimit ∧ (db.getpwuid uid).isSome then .ok () else .error .keyError

/-- `grp.getgrgid(gid)`: a number that is too large for the C library is no number of a group at all. -/
def Database.groupNumbered (db : Database) (gid : Nat) : Except Exc Unit :=
  if idLimit ≤ gid then .error .overflowError
  else if (db.getgrgid gid).isSome then .ok ()
  else .error .keyError

section
variable (num : Numerals) (db : Database)

/-- `int(u) if u.isdigit() else pwd.getpwnam(u).pw_uid`. -/
def uidOf (u : String) : Except Exc Nat := if num.isDigit u then (num.int u).map Int.toNat else db.uidNamed u

/-- `int(g) if g.isdigit() else grp.getgrnam(g).gr_gid`. -/
def gidOf (g : String) : Except Exc Nat := if num.isDigit g then (num.int g).map Int.toNat else db.gidNamed g

end

end Ttp.Accounts
