import Mathlib.Data.List.Induction

/-!
File systems with symbolic links: how the kernel goes along a path, from directory to
directory and through links, and the directories on the way that decide where it comes out.
-/
namespace Ttp.Symlinks

inductive Kind where
  | regular
  | directory
  /-- A symbolic link, by whether its target starts at the root and by the names of its target. -/
  | link (absolute : Bool) (target : List String)
  /-- A device, a pipe or a socket. -/
  | other
deriving DecidableEq

structure Inode where
  kind : Kind
  uid : ℕ
  mode : ℕ
deriving DecidableEq

inductive Failure where
  | noEntry
  | notDirectory
  | loop
  /-- Any other, by the class of the error. -/
  | other (kind : String)
deriving DecidableEq

/-- What there is at each place: the names from the root to it, through no link. -/
structure FileSystem where
  node : List String → Except Failure Inode
  root : ∃ inode, node [] = .ok inode ∧ inode.kind = .directory
  parents : ∀ place name inode, node (place ++ [name]) = .ok inode → ∃ parent, node place = .ok parent ∧
    parent.kind = .directory

/-- Where a path comes out. -/
structure Found where
  place : List String
  inode : Inode
  /-- The directories of the links that it went through. -/
  trail : List (List String)
deriving DecidableEq

namespace Found

/-- What a path comes out at that went through other links before. -/
def behind (trail : List (List String)) (found : Found) : Found := { found with trail := trail ++ found.trail }

/-- The directories that hold the links and what is found at their end. -/
def holders (found : Found) : List (List String) := found.trail ++ [found.place.dropLast]

@[simp]
theorem behind_place (trail : List (List String)) (found : Found) : (found.behind trail).place = found.place := rfl

@[simp]
theorem behind_inode (trail : List (List String)) (found : Found) : (found.behind trail).inode = found.inode := rfl

@[simp]
theorem behind_nil (found : Found) : found.behind [] = found := rfl

@[simp]
theorem behind_behind (first second : List (List String)) (found : Found) :
    (found.behind second).behind first = found.behind (first ++ second) := by
  simp [behind]

@[simp]
theorem behind_holders (trail : List (List String)) (found : Found) :
    (found.behind trail).holders = trail ++ found.holders := by
  simp [behind, holders]

end Found

namespace FileSystem

variable (fs : FileSystem)

/-- The names from a directory on; `follow` goes on where a link leads. -/
def descend (follow : List String → List String → Except Failure Found) :
    List String → List String → Except Failure Found
  | place, [] => (fs.node place).map fun inode => ⟨place, inode, []⟩
  | place, name :: rest =>
    if name = "" ∨ name = "." then descend follow place rest
    else if name = ".." then descend follow place.dropLast rest
    else
      match fs.node (place ++ [name]) with
      | .error failure => .error failure
      | .ok inode =>
        match inode.kind with
        | .link absolute target => (follow (if absolute then [] else place) (target ++ rest)).map (Found.behind [place])
        | .directory => descend follow (place ++ [name]) rest
        | _ => if rest = [] then .ok ⟨place ++ [name], inode, []⟩ else .error .notDirectory

/-- The names from a directory on, through so many links at most. -/
def walk : ℕ → List String → List String → Except Failure Found
  | 0 => fs.descend fun _ _ => .error .loop
  | links + 1 => fs.descend (walk links)

/-- `MAXSYMLINKS`. -/
def maxLinks : ℕ := 40

/-- `stat` of an absolute path. -/
def stat (names : List String) : Except Failure Found := fs.walk maxLinks [] names

def IsDirectory (place : List String) : Prop := ∃ inode, fs.node place = .ok inode ∧ inode.kind = .directory

/-! ### One name -/

section
variable {fs : FileSystem} {place rest : List String} {name : String} {inode : Inode}

theorem isDirectory_dropLast (directory : fs.IsDirectory place) : fs.IsDirectory place.dropLast := by
  induction place using List.reverseRecOn with
  | nil => exact directory
  | append_singleton front name =>
    obtain ⟨inode, there, _⟩ := directory
    rw [List.dropLast_concat]
    exact fs.parents front name inode there

theorem isDirectory_start (absolute : Bool) (directory : fs.IsDirectory place) :
    fs.IsDirectory (if absolute then [] else place) := by
  split
  · exact fs.root
  · exact directory

theorem walk_nil (n : ℕ) (there : fs.node place = .ok inode) : fs.walk n place [] = .ok ⟨place, inode, []⟩ := by
  cases n <;> simp [walk, descend, there, Except.map]

theorem walk_skip (n : ℕ) (skipped : name = "" ∨ name = ".") :
    fs.walk n place (name :: rest) = fs.walk n place rest := by
  cases n <;> rw [walk, descend, if_pos skipped]

theorem walk_up (n : ℕ) : fs.walk n place (".." :: rest) = fs.walk n place.dropLast rest := by
  cases n <;> simp [walk, descend]

/-- A name that is looked up. -/
def Ordinary (name : String) : Prop := name ≠ "" ∧ name ≠ "." ∧ name ≠ ".."

theorem walk_error (n : ℕ) {failure : Failure} (ordinary : Ordinary name)
    (missing : fs.node (place ++ [name]) = .error failure) :
    fs.walk n place (name :: rest) = .error failure := by
  obtain ⟨nonempty, notDot, notUp⟩ := ordinary
  cases n <;> simp [walk, descend, nonempty, notDot, notUp, missing]

theorem walk_directory (n : ℕ) (ordinary : Ordinary name) (there : fs.node (place ++ [name]) = .ok inode)
    (directory : inode.kind = .directory) :
    fs.walk n place (name :: rest) = fs.walk n (place ++ [name]) rest := by
  obtain ⟨nonempty, notDot, notUp⟩ := ordinary
  cases n <;> simp [walk, descend, nonempty, notDot, notUp, there, directory]

theorem walk_loop {absolute : Bool} {target : List String} (ordinary : Ordinary name)
    (there : fs.node (place ++ [name]) = .ok inode)
    (link : inode.kind = .link absolute target) : fs.walk 0 place (name :: rest) = .error .loop := by
  obtain ⟨nonempty, notDot, notUp⟩ := ordinary
  simp [walk, descend, nonempty, notDot, notUp, there, link, Except.map]

theorem walk_link (n : ℕ) {absolute : Bool} {target : List String} (ordinary : Ordinary name)
    (there : fs.node (place ++ [name]) = .ok inode)
    (link : inode.kind = .link absolute target) :
    fs.walk (n + 1) place (name :: rest) =
      (fs.walk n (if absolute then [] else place) (target ++ rest)).map (Found.behind [place]) := by
  obtain ⟨nonempty, notDot, notUp⟩ := ordinary
  simp [walk, descend, nonempty, notDot, notUp, there, link]

/-- What is neither a directory nor a link. -/
def Kind.IsLeaf (kind : Kind) : Prop := kind = .regular ∨ kind = .other

theorem Kind.IsLeaf.not_directory {kind : Kind} (leaf : Kind.IsLeaf kind) : kind ≠ .directory := by
  rcases leaf with rfl | rfl <;> simp

theorem walk_leaf (n : ℕ) (ordinary : Ordinary name) (there : fs.node (place ++ [name]) = .ok inode)
    (leaf : Kind.IsLeaf inode.kind) :
    fs.walk n place (name :: rest) = if rest = [] then .ok ⟨place ++ [name], inode, []⟩ else .error .notDirectory := by
  obtain ⟨nonempty, notDot, notUp⟩ := ordinary
  rcases leaf with leaf | leaf <;> cases n <;> simp [walk, descend, nonempty, notDot, notUp, there, leaf]

/-- What a name from a directory on can be. -/
theorem name_cases (fs : FileSystem) (place : List String) (name : String) :
    (name = "" ∨ name = ".") ∨ name = ".." ∨ Ordinary name ∧
      ((∃ failure, fs.node (place ++ [name]) = .error failure) ∨ ∃ inode, fs.node (place ++ [name]) = .ok inode ∧
        (inode.kind = .directory ∨ (∃ absolute target, inode.kind = .link absolute target) ∨
          Kind.IsLeaf inode.kind)) := by
  by_cases skipped : name = "" ∨ name = "."
  · exact .inl skipped
  · by_cases up : name = ".."
    · exact .inr (.inl up)
    · rw [not_or] at skipped
      refine .inr (.inr ⟨⟨skipped.1, skipped.2, up⟩, ?_⟩)
      cases there : fs.node (place ++ [name]) with
      | error failure => exact .inl ⟨failure, rfl⟩
      | ok inode =>
        refine .inr ⟨inode, rfl, ?_⟩
        cases kind : inode.kind with
        | regular => exact .inr (.inr (.inl rfl))
        | directory => exact .inl rfl
        | link absolute target => exact .inr (.inl ⟨absolute, target, rfl⟩)
        | other => exact .inr (.inr (.inr rfl))

/-- Along a path: what holds at its end, and of each path for the one that is left after its first name, holds of
    all. -/
theorem walk_induction {motive : ∀ (_ : ℕ) (place : List String) (_ : List String), fs.IsDirectory place → Prop}
    (nil : ∀ (n : ℕ) {place : List String} {inode : Inode} (there : fs.node place = .ok inode)
      (directory : inode.kind = .directory),
      motive n place [] ⟨inode, there, directory⟩)
    (skip : ∀ (n : ℕ) {place rest : List String} {name : String} {directory : fs.IsDirectory place},
      name = "" ∨ name = "." →
      motive n place rest directory → motive n place (name :: rest) directory)
    (up : ∀ (n : ℕ) {place rest : List String} {directory : fs.IsDirectory place},
      motive n place.dropLast rest (isDirectory_dropLast directory) → motive n place (".." :: rest) directory)
    (missing : ∀ (n : ℕ) {place rest : List String} {name : String} {failure : Failure}
      {directory : fs.IsDirectory place}, Ordinary name →
      fs.node (place ++ [name]) = .error failure → motive n place (name :: rest) directory)
    (into : ∀ (n : ℕ) {place rest : List String} {name : String} {inode : Inode} {directory : fs.IsDirectory place}
      (_ : Ordinary name)
      (there : fs.node (place ++ [name]) = .ok inode) (kind : inode.kind = .directory),
      motive n (place ++ [name]) rest ⟨inode, there, kind⟩ → motive n place (name :: rest) directory)
    (loop : ∀ {place rest : List String} {name : String} {inode : Inode} {absolute : Bool} {target : List String}
      {directory : fs.IsDirectory place}, Ordinary name → fs.node (place ++ [name]) = .ok inode →
      inode.kind = .link absolute target →
      motive 0 place (name :: rest) directory)
    (link : ∀ (n : ℕ) {place rest : List String} {name : String} {inode : Inode} {absolute : Bool}
      {target : List String}
      {directory : fs.IsDirectory place}, Ordinary name → fs.node (place ++ [name]) = .ok inode →
      inode.kind = .link absolute target →
      motive n (if absolute then [] else place) (target ++ rest) (isDirectory_start absolute directory) →
      motive (n + 1) place (name :: rest) directory)
    (leaf : ∀ (n : ℕ) {place rest : List String} {name : String} {inode : Inode} {directory : fs.IsDirectory place},
      Ordinary name →
      fs.node (place ++ [name]) = .ok inode → Kind.IsLeaf inode.kind → motive n place (name :: rest) directory)
    (n : ℕ) (place names : List String) (directory : fs.IsDirectory place) : motive n place names directory := by
  have along (n : ℕ) (links : ∀ {place rest : List String} {name : String} {inode : Inode} {absolute : Bool}
    {target : List String}
      {directory : fs.IsDirectory place}, Ordinary name → fs.node (place ++ [name]) = .ok inode →
      inode.kind = .link absolute target →
      motive n place (name :: rest) directory) (names place : List String) (directory : fs.IsDirectory place) :
      motive n place names directory := by
    induction names generalizing place with
    | nil =>
      obtain ⟨inode, there, kind⟩ := directory
      exact nil n there kind
    | cons name rest ih =>
      rcases name_cases fs place name
        with skipped | rfl | ⟨ordinary, ⟨_, absent⟩ | ⟨_, there, kind | ⟨_, _, kind⟩ | kind⟩⟩
      · exact skip n skipped (ih place directory)
      · exact up n (ih _ _)
      · exact missing n ordinary absent
      · exact into n ordinary there kind (ih _ _)
      · exact links ordinary there kind
      · exact leaf n ordinary there kind
  induction n generalizing place names with
  | zero => exact along 0 loop names place directory
  | succ n ih =>
    exact along (n + 1) (fun ordinary there kind => link n ordinary there kind (ih _ _ _)) names place directory

/-! ### A path in two parts -/

/-- Goes on from where the first part of a path came out, with the links that are left. -/
def onward (fs : FileSystem) (n : ℕ) (back : List String) (found : Found) : Except Failure Found :=
  if found.inode.kind = .directory then (fs.walk (n - found.trail.length) found.place back).map
    (Found.behind found.trail)
  else .error .notDirectory

theorem onward_behind (n : ℕ) (place back : List String) (found : Found) :
    onward fs (n + 1) back (found.behind [place]) = (onward fs n back found).map (Found.behind [place]) := by
  have fewer : n + 1 - (found.behind [place]).trail.length = n - found.trail.length := by
    simp [Found.behind]
  rw [onward, onward, fewer]
  by_cases directory : found.inode.kind = .directory
  · rw [if_pos directory, if_pos (show (found.behind [place]).inode.kind = .directory from directory)]
    cases last : fs.walk (n - found.trail.length) found.place back with
    | error failure => simp [last, Except.map]
    | ok found' => simp [last, Except.map, Found.behind]
  · rw [if_neg directory, if_neg (show ¬(found.behind [place]).inode.kind = .directory from directory)]
    rfl

/-- A path leads where its second part leads from the end of the first. -/
theorem walk_append (n : ℕ) {front back : List String} (directory : fs.IsDirectory place) (more : back ≠ []) :
    fs.walk n place (front ++ back) = (fs.walk n place front).bind (onward fs n back) := by
  induction n, place, front, directory using walk_induction with
  | nil n there directory =>
    rw [walk_nil n there, List.nil_append]
    show _ = onward fs n back ⟨_, _, []⟩
    rw [onward, if_pos directory]
    cases last : fs.walk n _ back <;> simp [Except.map]
  | skip n skipped ih => rwa [List.cons_append, walk_skip n skipped, walk_skip n skipped]
  | up n ih => rwa [List.cons_append, walk_up, walk_up]
  | missing n ordinary missing =>
    rw [List.cons_append, walk_error n ordinary missing, walk_error n ordinary missing]
    rfl
  | into n ordinary there directory ih =>
    rwa [List.cons_append, walk_directory n ordinary there directory, walk_directory n ordinary there directory]
  | loop ordinary there link =>
    rw [List.cons_append, walk_loop ordinary there link, walk_loop ordinary there link]
    rfl
  | link n ordinary there link ih =>
    rw [List.cons_append, walk_link n ordinary there link, walk_link n ordinary there link, ← List.append_assoc, ih]
    cases first : fs.walk n _ _ with
    | error failure => rfl
    | ok found => exact (onward_behind n _ back found).symm
  | leaf n ordinary there leaf =>
    rw [List.cons_append, walk_leaf n ordinary there leaf, walk_leaf n ordinary there leaf, if_neg (by simp [more])]
    split
    · show _ = onward fs n back ⟨_, _, []⟩
      rw [onward, if_neg leaf.not_directory]
    · rfl

/-- What a path comes out at is what there is at its place. -/
theorem walk_found {n : ℕ} {names : List String} {found : Found} (directory : fs.IsDirectory place)
    (ran : fs.walk n place names = .ok found) :
    fs.node found.place = .ok found.inode := by
  induction n, place, names, directory using walk_induction generalizing found with
  | nil n there directory =>
    rw [walk_nil n there] at ran
    cases ran
    exact there
  | skip n skipped ih =>
    rw [walk_skip n skipped] at ran
    exact ih ran
  | up n ih =>
    rw [walk_up] at ran
    exact ih ran
  | missing n ordinary missing =>
    rw [walk_error n ordinary missing] at ran
    cases ran
  | into n ordinary there directory ih =>
    rw [walk_directory n ordinary there directory] at ran
    exact ih ran
  | loop ordinary there link =>
    rw [walk_loop ordinary there link] at ran
    cases ran
  | link n ordinary there link ih =>
    rw [walk_link n ordinary there link] at ran
    cases rest : fs.walk n _ _ with
    | error failure =>
      rw [rest] at ran
      cases ran
    | ok last =>
      rw [rest] at ran
      cases ran
      have there := ih rest
      exact there
  | leaf n ordinary there leaf =>
    rw [walk_leaf n ordinary there leaf] at ran
    split at ran
    · cases ran
      exact there
    · cases ran

/-! ### The last name -/

/-- What is found under a name that is no directory was reached through the directory that the name was looked up in. -/
theorem walk_name {n : ℕ} {name : String} {found : Found} (directory : fs.IsDirectory place)
    (ran : fs.walk n place [name] = .ok found)
    (closed : found.inode.kind ≠ .directory) : place ∈ found.holders := by
  have open_ {place : List String} (directory : fs.IsDirectory place)
      (ran : fs.walk n place [] = .ok found) : False := by
    obtain ⟨inode, there, kind⟩ := directory
    rw [walk_nil n there] at ran
    cases ran
    exact closed kind
  rcases name_cases fs place name
    with skipped | rfl | ⟨ordinary, ⟨_, missing⟩ | ⟨inode, there, kind | ⟨_, _, kind⟩ | kind⟩⟩
  · rw [walk_skip n skipped] at ran
    exact (open_ directory ran).elim
  · rw [walk_up] at ran
    exact (open_ (isDirectory_dropLast directory) ran).elim
  · rw [walk_error n ordinary missing] at ran
    cases ran
  · rw [walk_directory n ordinary there kind] at ran
    exact (open_ ⟨inode, there, kind⟩ ran).elim
  · cases n with
    | zero =>
      rw [walk_loop ordinary there kind] at ran
      cases ran
    | succ n =>
      rw [walk_link n ordinary there kind] at ran
      cases last : fs.walk n _ _ with
      | error failure =>
        rw [last] at ran
        cases ran
      | ok last =>
        rw [last] at ran
        cases ran
        simp
  · rw [walk_leaf n ordinary there kind, if_pos rfl] at ran
    cases ran
    simp [Found.holders]

/-- The directory that a path without its last name leads to holds what the whole path leads through. -/
theorem walk_last {n : ℕ} {front : List String} {name : String} {found : Found} (directory : fs.IsDirectory place)
    (ran : fs.walk n place (front ++ [name]) = .ok found) (closed : found.inode.kind ≠ .directory) :
    ∃ parent, fs.walk n place front = .ok parent ∧ parent.place ∈ found.holders := by
  rw [walk_append n directory (by simp)] at ran
  cases first : fs.walk n place front with
  | error failure =>
    rw [first] at ran
    cases ran
  | ok parent =>
    rw [first] at ran
    change onward fs n [name] parent = .ok found at ran
    rw [onward] at ran
    split at ran
    case isFalse => cases ran
    case isTrue kind =>
      have opened : fs.IsDirectory parent.place := ⟨parent.inode, walk_found directory first, kind⟩
      cases last : fs.walk (n - parent.trail.length) parent.place [name] with
      | error failure =>
        rw [last] at ran
        cases ran
      | ok last' =>
        rw [last] at ran
        cases ran
        refine ⟨parent, rfl, ?_⟩
        rw [Found.behind_holders, List.mem_append]
        exact .inr (walk_name opened last closed)

end

/-! ### File systems by a table -/

def entry (table : List (List String × Inode)) (place : List String) : Except Failure Inode :=
  match table.lookup place with
  | some inode => .ok inode
  | none => .error .noEntry

/-- What lists a place is a directory of the table. -/
def listed (table : List (List String × Inode)) (place : List String) : Bool :=
  match table.lookup place with
  | some inode => inode.kind = .directory
  | none => false

theorem listed_directory {table : List (List String × Inode)} {place : List String}
    (listed : listed table place = true) :
    ∃ inode, entry table place = .ok inode ∧ inode.kind = .directory := by
  rw [FileSystem.listed] at listed
  rw [entry]
  cases there : table.lookup place with
  | none => simp [there] at listed
  | some inode => exact ⟨inode, rfl, by simpa [there] using listed⟩

/-- The file system with what a table has. -/
def ofTable (table : List (List String × Inode)) (rooted : listed table [] = true)
    (closed : ∀ item ∈ table, item.1 ≠ [] → listed table item.1.dropLast = true) : FileSystem where
  node := entry table
  root := listed_directory rooted
  parents place name inode there := by
    have member : (place ++ [name], inode) ∈ table := by
      rw [entry] at there
      cases found : table.lookup (place ++ [name]) with
      | none => simp [found] at there
      | some other =>
        simp only [found, Except.ok.injEq] at there
        obtain ⟨front, rest, rfl, _⟩ := List.lookup_eq_some_iff.mp found
        simp [there]
    have above := closed _ member (by simp)
    rw [List.dropLast_concat] at above
    exact listed_directory above

end FileSystem

end Ttp.Symlinks
