import Mathlib.Data.Nat.Bitwise
import Ttp.Symlinks

/-!
Which program a bare name stands for (`paths.py`): the search through the directories of the
system, the test of ownership, and what of the way to the program that test covers.
-/
namespace Ttp.TrustedPaths
open Ttp.Symlinks

/-! ### The search -/

/-- `TRUSTED_DIRS`, by their parts. -/
def trustedDirs : List (List String) :=
  [["usr", "sbin"], ["sbin"], ["usr", "bin"], ["bin"], ["usr", "local", "sbin"], ["usr", "local", "bin"]]

inductive Refusal where
  | valueError (message : String)
  /-- `BinaryNotFoundError`. -/
  | notFound (message : String)
  | unsafeBinary (message : String)
  /-- Any other `OSError`, by the name of its class. -/
  | osError (kind : String)
deriving DecidableEq

/-- `str(path)`. -/
def text (path : List String) : String := "/" ++ "/".intercalate path

/-- `Path(directory) / binary`; a part that is a dot falls away. -/
def candidateIn (directory : List String) (binary : String) : List String :=
  if binary = "." then directory else directory ++ [binary]

def S_IWGRP : ℕ := 0o020

def S_IWOTH : ℕ := 0o002

section
-- whether `is_file` raises for an error other than that nothing is there, as it did before 3.14
variable (fs : FileSystem) (strict : Bool)

/-- `path.is_file()`, of a path that may have a null character in it. -/
def isFile (path : List String) : Except Refusal Bool :=
  if ∃ part ∈ path, '\x00' ∈ part.toList then .ok false
  else
    match fs.stat path with
    | .ok found => .ok (found.inode.kind = .regular)
    | .error .noEntry | .error .notDirectory | .error .loop => .ok false
    | .error (.other kind) => if strict then .error (.osError kind) else .ok false

/-- `_is_safely_owned`. -/
def isSafelyOwned (path : List String) : Bool :=
  [path, path.dropLast].all fun target =>
    match fs.stat target with
    | .error _ => false
    | .ok found => found.inode.uid = 0 && found.inode.mode &&& (S_IWGRP ||| S_IWOTH) = 0

-- whether the file at a place can be executed, and `repr` of a string
variable (executable : List String → Bool) (repr : String → String)

/-- `os.access(path, os.X_OK)`. -/
def access (path : List String) : Bool :=
  match fs.stat path with
  | .ok found => executable found.place
  | .error _ => false

/-- The loop of `resolve`, over the directories that are left. -/
def search (binary : String) (searched : List String) : List (List String) → Except Refusal (List String)
  | [] =>
    .error (.notFound (s!"Required binary '{binary}' was not found in any trusted directory. " ++
      "Searched: " ++ ", ".intercalate searched ++ ". " ++
      "TTP deliberately does not consult $PATH, because a caller-controlled PATH would let an attacker choose which program runs as root."))
  | directory :: rest => do
    let candidate := candidateIn directory binary
    let searched := searched ++ [text candidate]
    if !(← isFile fs strict candidate) || !access fs executable candidate then search binary searched rest
    else if !isSafelyOwned fs candidate then
      .error (.unsafeBinary (s!"{text candidate} is executable but not owned exclusively by root, so a non-root user could replace it " ++
        "before TTP runs it with full privileges. Refusing to execute it."))
    else .ok candidate

/-- `resolve`, with the path by its parts. -/
def resolve (binary : String) : Except Refusal (List String) :=
  if binary = "" ∨ '/' ∈ binary.toList then .error
    (.valueError s!"resolve() takes a bare binary name, not {repr binary}")
  else search fs strict executable binary [] trustedDirs

/-! ### Trust -/

/-- Root's, and neither the group nor others can write it. -/
def Safe (inode : Inode) : Prop := inode.uid = 0 ∧ inode.mode.testBit 4 = false ∧ inode.mode.testBit 1 = false

/-- What there is at the place is safe. -/
def SafeAt (place : List String) : Prop := ∃ inode, fs.node place = .ok inode ∧ Safe inode

/-- The file that a path comes out at is safe, and so is every directory of a link on the way and that of the file. -/
def Trusted (path : List String) : Prop :=
  ∃ found, fs.stat path = .ok found ∧ Safe found.inode ∧ ∀ directory ∈ found.holders, SafeAt fs directory

/-- An executable regular file. -/
def Runnable (path : List String) : Prop := isFile fs strict path = .ok true ∧ access fs executable path = true

/-- Something else, or nothing. -/
def NotRunnable (path : List String) : Prop :=
  isFile fs strict path = .ok false ∨ isFile fs strict path = .ok true ∧ access fs executable path = false

/-- The directory is the first of these that has an executable regular file of this name. -/
def First (directories : List (List String)) (binary : String) (directory : List String) : Prop :=
  ∃ before after, directories = before ++ directory :: after ∧
    (∀ earlier ∈ before, NotRunnable fs strict executable (candidateIn earlier binary)) ∧
    Runnable fs strict executable (candidateIn directory binary)

/-- A name that is no path. -/
def Bare (binary : String) : Prop := binary ≠ "" ∧ '/' ∉ binary.toList

/-- What a search for trusted programs does: it only finds such, and the first program of the name decides. -/
structure Resolves (binary : String) : Prop where
  trusted : ∀ path, resolve fs strict executable repr binary = .ok path → Trusted fs path
  decides : ∀ directory, Bare binary → First fs strict executable trustedDirs binary directory →
    (Trusted fs (candidateIn directory binary) →
      resolve fs strict executable repr binary = .ok (candidateIn directory binary)) ∧
      (¬Trusted fs (candidateIn directory binary) → ∃ message,
        resolve fs strict executable repr binary = .error (.unsafeBinary message))

/-- Where the first program of the name passes the test of ownership, every other directory that the way to it depends
    on than the one that the test looks at is safe too. -/
def Sheltered (binary : String) : Prop :=
  ∀ directory, Bare binary → First fs strict executable trustedDirs binary directory →
    isSafelyOwned fs (candidateIn directory binary) = true →
    ∀ found parent, fs.stat (candidateIn directory binary) = .ok found →
    fs.stat (candidateIn directory binary).dropLast = .ok parent →
      ∀ holder ∈ found.holders, holder ≠ parent.place → SafeAt fs holder

end

section
variable {fs : FileSystem} {strict : Bool} {executable : List String → Bool} {repr : String → String}
  {binary : String} {directory path : List String}

theorem and_writable (mode : ℕ) : mode &&& (S_IWGRP ||| S_IWOTH) = 0 ↔ mode.testBit 4 = false ∧
    mode.testBit 1 = false := by
  have bits (i : ℕ) : (S_IWGRP ||| S_IWOTH).testBit i = (decide (i = 4) || decide (i = 1)) := by
    have group : S_IWGRP = 2 ^ 4 := rfl
    have others : S_IWOTH = 2 ^ 1 := rfl
    rw [Nat.testBit_or, group, others, Nat.testBit_two_pow, Nat.testBit_two_pow]
    simp only [eq_comm]
  constructor
  · intro none
    have clear (i : ℕ) : (mode.testBit i && (decide (i = 4) || decide (i = 1))) = false := by
      rw [← bits, ← Nat.testBit_and, none, Nat.zero_testBit]
    exact ⟨by simpa using clear 4, by simpa using clear 1⟩
  · rintro ⟨group, others⟩
    apply Nat.eq_of_testBit_eq
    intro i
    rw [Nat.testBit_and, bits, Nat.zero_testBit]
    by_cases isGroup : i = 4
    · simp [isGroup, group]
    · by_cases isOthers : i = 1
      · simp [isOthers, others]
      · simp [isGroup, isOthers]

/-- What the test of ownership looks at. -/
theorem isSafelyOwned_iff : isSafelyOwned fs path = true ↔
    (∃ found, fs.stat path = .ok found ∧ Safe found.inode) ∧ ∃ parent, fs.stat path.dropLast = .ok parent ∧
      Safe parent.inode := by
  have one (target : List String) : (match fs.stat target with
      | .error _ => false
      | .ok found => decide (found.inode.uid = 0) && decide (found.inode.mode &&& (S_IWGRP ||| S_IWOTH) = 0)) = true ↔
        ∃ found, fs.stat target = .ok found ∧ Safe found.inode := by
    cases there : fs.stat target with
    | error failure => simp
    | ok found => simp [Safe, and_writable]
  simp only [isSafelyOwned, List.all_cons, List.all_nil, Bool.and_true, Bool.and_eq_true]
  exact and_congr (one path) (one path.dropLast)

theorem First.later {directories : List (List String)} {earlier : List String}
    (first : First fs strict executable directories binary directory)
    (none : NotRunnable fs strict executable (candidateIn earlier binary)) :
    First fs strict executable (earlier :: directories) binary directory := by
  obtain ⟨before, after, rfl, others, runnable⟩ := first
  refine ⟨earlier :: before, after, rfl, ?_, runnable⟩
  intro other member
  rcases List.mem_cons.mp member with rfl | old
  · exact none
  · exact others other old

/-- The first program of the name is returned or refused. -/
theorem search_first {directories : List (List String)} (searched : List String)
    (first : First fs strict executable directories binary directory) :
    (isSafelyOwned fs (candidateIn directory binary) = true →
      search fs strict executable binary searched directories = .ok (candidateIn directory binary)) ∧
    (isSafelyOwned fs (candidateIn directory binary) = false →
      ∃ message, search fs strict executable binary searched directories = .error (.unsafeBinary message)) := by
  obtain ⟨before, after, rfl, others, file, allowed⟩ := first
  induction before generalizing searched with
  | nil =>
    constructor
    · intro owned
      simp [search, file, allowed, owned, bind, Except.bind]
    · intro owned
      simp [search, file, allowed, owned, bind, Except.bind]
  | cons earlier before ih =>
    have step : search fs strict executable binary searched (earlier :: before ++ directory :: after) =
        search fs strict executable binary (searched ++ [text (candidateIn earlier binary)])
        (before ++ directory :: after) := by
      rcases others earlier (by simp) with none | ⟨file, refused⟩
      · simp [search, none, bind, Except.bind]
      · simp [search, file, refused, bind, Except.bind]
    rw [step]
    exact ih _ fun other member => others other (by simp [member])

/-- What the search returns is the first program of the name, and has passed the test. -/
theorem search_ok {directories : List (List String)} {searched : List String}
    (found : search fs strict executable binary searched directories = .ok path) :
    ∃ directory, First fs strict executable directories binary directory ∧ isSafelyOwned fs path = true ∧
      path = candidateIn directory binary := by
  induction directories generalizing searched with
  | nil => cases found
  | cons earlier rest ih =>
    have skipped (none : NotRunnable fs strict executable (candidateIn earlier binary))
        (found : search fs strict executable binary (searched ++ [text (candidateIn earlier binary)]) rest = .ok path) :
        ∃ directory, First fs strict executable (earlier :: rest) binary directory ∧ isSafelyOwned fs path = true ∧
          path = candidateIn directory binary := by
      obtain ⟨directory, first, others⟩ := ih found
      exact ⟨directory, first.later none, others⟩
    cases file : isFile fs strict (candidateIn earlier binary) with
    | error e => simp [search, file, bind, Except.bind] at found
    | ok regular =>
      cases regular with
      | false =>
        simp only [search, file, bind, Except.bind, Bool.not_false, Bool.true_or, if_true] at found
        exact skipped (.inl file) found
      | true =>
        cases allowed : access fs executable (candidateIn earlier binary) with
        | false =>
          simp only [search, file, allowed, bind, Except.bind, Bool.not_false, Bool.or_true, if_true] at found
          exact skipped (.inr ⟨file, allowed⟩) found
        | true =>
          cases owned : isSafelyOwned fs (candidateIn earlier binary) with
          | false => simp [search, file, allowed, owned, bind, Except.bind] at found
          | true =>
            simp only [search, file, allowed, owned, bind, Except.bind, Bool.not_true, Bool.or_self,
              Bool.false_eq_true, if_false, Except.ok.injEq] at found
            subst found
            exact ⟨earlier, ⟨[], rest, rfl, nofun, file, allowed⟩, owned, rfl⟩

theorem First.named (first : First fs strict executable trustedDirs binary directory) :
    ∃ front name, candidateIn directory binary = front ++ [name] := by
  obtain ⟨before, after, split, _⟩ := first
  have member : directory ∈ trustedDirs := by simp [split]
  have nonempty : candidateIn directory binary ≠ [] := by
    rw [candidateIn]
    split
    · rintro rfl
      exact absurd member (by decide)
    · simp
  exact ⟨_, _, (List.dropLast_concat_getLast nonempty).symm⟩

theorem First.regular {directories : List (List String)}
    (first : First fs strict executable directories binary directory) {found : Found}
    (there : fs.stat (candidateIn directory binary) = .ok found) : found.inode.kind = .regular := by
  obtain ⟨_, _, _, _, file, _⟩ := first
  rw [isFile, there] at file
  split at file
  · cases file
  · simpa using file

/-- A program that is to be trusted passes the test. -/
theorem trusted_owned (first : First fs strict executable trustedDirs binary directory)
    (trusted : Trusted fs (candidateIn directory binary)) :
    isSafelyOwned fs (candidateIn directory binary) = true := by
  obtain ⟨found, there, safe, holders⟩ := trusted
  have regular := first.regular there
  obtain ⟨front, name, path⟩ := first.named
  rw [path] at there ⊢
  obtain ⟨parent, above, member⟩ := FileSystem.walk_last fs.root there (by simp [regular])
  obtain ⟨inode, here, owned⟩ := holders _ member
  rw [FileSystem.walk_found fs.root above] at here
  refine isSafelyOwned_iff.mpr ⟨⟨found, there, safe⟩, parent, ?_, Except.ok.inj here ▸ owned⟩
  rw [List.dropLast_concat]
  exact above

/-- A program that passes the test is to be trusted where what the test leaves out is safe. -/
theorem owned_trusted (owned : isSafelyOwned fs path = true)
    (others : ∀ found parent, fs.stat path = .ok found → fs.stat path.dropLast = .ok parent →
      ∀ holder ∈ found.holders, holder ≠ parent.place → SafeAt fs holder) : Trusted fs path := by
  obtain ⟨⟨found, there, safe⟩, parent, above, parentSafe⟩ := isSafelyOwned_iff.mp owned
  refine ⟨found, there, safe, fun holder member => ?_⟩
  by_cases here : holder = parent.place
  · exact ⟨parent.inode, here ▸ FileSystem.walk_found fs.root above, parentSafe⟩
  · exact others found parent there above holder member here

/-- Exactly where nothing but the directory that it tests can be unsafe does `resolve` find only trusted programs. -/
theorem resolves_iff (fs : FileSystem) (strict : Bool) (executable : List String → Bool) (repr : String → String)
    (binary : String) :
    Resolves fs strict executable repr binary ↔ Sheltered fs strict executable binary := by
  have searches (bare : Bare binary) :
      resolve fs strict executable repr binary = search fs strict executable binary [] trustedDirs := by
    rw [resolve, if_neg (not_or.mpr bare)]
  constructor
  · intro resolves directory bare first owned found parent there _ holder member _
    have returned := (search_first [] first).1 owned
    obtain ⟨other, again, _, holders⟩ := resolves.trusted _ ((searches bare).trans returned)
    obtain rfl := Except.ok.inj (there.symm.trans again)
    exact holders holder member
  · intro sheltered
    refine ⟨fun path returned => ?_, fun directory bare first => ⟨fun trusted => ?_, fun untrusted => ?_⟩⟩
    · by_cases bare : Bare binary
      · rw [searches bare] at returned
        obtain ⟨directory, first, owned, rfl⟩ := search_ok returned
        exact owned_trusted owned (sheltered directory bare first owned)
      · rw [resolve, if_pos (not_not.mp fun spared => bare (not_or.mp spared))] at returned
        cases returned
    · rw [searches bare]
      exact (search_first [] first).1 (trusted_owned first trusted)
    · rw [searches bare]
      refine (search_first [] first).2 (Bool.eq_false_iff.mpr fun owned => ?_)
      exact untrusted (owned_trusted owned (sheltered directory bare first owned))

/-- It is so where the first program of the name is reached through no link. -/
theorem unlinked_sheltered (unlinked : ∀ directory found, First fs strict executable trustedDirs binary directory →
    fs.stat (candidateIn directory binary) = .ok found → found.trail = []) : Sheltered fs strict executable binary := by
  intro directory _ first _ found parent there above holder member other
  have regular := first.regular there
  have single : found.holders = [found.place.dropLast] := by
    rw [Found.holders, unlinked directory found first there, List.nil_append]
  obtain ⟨front, name, path⟩ := first.named
  rw [path] at there above
  obtain ⟨parent', above', member'⟩ := FileSystem.walk_last fs.root there (by simp [regular])
  rw [List.dropLast_concat] at above
  obtain rfl := Except.ok.inj (above.symm.trans above')
  rw [single, List.mem_singleton] at member member'
  exact absurd (member.trans member'.symm) other

end

def directoryOf (uid : ℕ) : Inode := ⟨.directory, uid, 0o755⟩

/-- A program that is linked to from a trusted directory, in a directory of another user. -/
def vendored : FileSystem :=
  .ofTable
    [([], directoryOf 0), (["usr"], directoryOf 0), (["usr", "sbin"], directoryOf 0),
      (["usr", "sbin", "nft"], ⟨.link true ["opt", "vendor", "nft"], 0, 0o777⟩),
      (["opt"], directoryOf 0), (["opt", "vendor"], directoryOf 1000), (["opt", "vendor", "nft"], ⟨.regular, 0, 0o755⟩)]
    (by decide) (by decide)

/-- The owner of the directory can replace the program that is returned. -/
theorem resolve_replaceable : resolve vendored true (fun _ => true) id "nft" = .ok ["usr", "sbin", "nft"] ∧
    vendored.stat ["usr", "sbin", "nft"] = .ok ⟨["opt", "vendor", "nft"], ⟨.regular, 0, 0o755⟩, [["usr", "sbin"]]⟩ ∧
    ¬SafeAt vendored ["opt", "vendor"] ∧ ¬Resolves vendored true (fun _ => true) id "nft" := by
  have returned : resolve vendored true (fun _ => true) id "nft" = .ok ["usr", "sbin", "nft"] := by decide
  have found : vendored.stat ["usr", "sbin", "nft"] = .ok
    ⟨["opt", "vendor", "nft"], ⟨.regular, 0, 0o755⟩, [["usr", "sbin"]]⟩ := by decide
  have writable : ¬SafeAt vendored ["opt", "vendor"] := by
    rintro ⟨inode, there, safe, _⟩
    cases there
    cases safe
  refine ⟨returned, found, writable, fun resolves => ?_⟩
  obtain ⟨other, again, _, holders⟩ := resolves.trusted _ returned
  obtain rfl := Except.ok.inj (found.symm.trans again)
  exact writable (holders _ (by decide))

end Ttp.TrustedPaths
