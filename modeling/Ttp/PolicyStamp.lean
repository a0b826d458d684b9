import Ttp.Text

/-!
The policy part of `ttp/selinux.py`: the revision that is loaded in the kernel,
and the stamp that records it, changed by separate steps that may each fail. A
build is the source of the policy that it ships; a revision is the version that
such a source declares.
-/
namespace Ttp.PolicyStamp
open Ttp.Text

/-! ### The shipped revision -/

/-- What follows a word that the text begins with. -/
def after (word text : List Char) : Option (List Char) :=
  if word.isPrefixOf text then some (text.drop word.length) else none

/-- What follows the spaces that the text begins with, of which there is one at least. -/
def afterSpaces : List Char → Option (List Char)
  | [] => none
  | c :: rest => if isSpace c then some (rest.dropWhile isSpace) else none

/-- `[0-9.]`. -/
def versionChar (c : Char) : Bool := ('0' ≤ c && c ≤ '9') || c == '.'

/-- `\s*module\s+ttp_tor_policy\s+([0-9.]+)\s*;`, at the beginning of a text. -/
def declaration (text : List Char) : Option (List Char) := do
  let rest ← after "module".toList (text.dropWhile isSpace)
  let rest ← afterSpaces rest
  let rest ← after "ttp_tor_policy".toList rest
  let rest ← afterSpaces rest
  let version := rest.takeWhile versionChar
  if version.isEmpty then none
  else if ((rest.dropWhile versionChar).dropWhile isSpace).head? = some ';' then some version
  else none

/-- `_MODULE_DECLARATION.search`: the first line at which a declaration begins. -/
def search (lineStart : Bool) : List Char → Option (List Char)
  | [] => none
  | c :: rest =>
    match if lineStart then declaration (c :: rest) else none with
    | some version => some version
    | none => search (c == '\n') rest

/-- A build: the text of its `.te`, if it has one. -/
structure Build where
  source : Option (List Char)

/-- `_policy_source`, by whether the file can be read. -/
def policySource (b : Build) (readable : Bool) : Option (List Char) := if readable then b.source else none

/-- `shipped_policy_version`. -/
def shippedPolicyVersion (source : Option (List Char)) : Option (List Char) := search true (source.getD [])

abbrev Revision := Option (List Char)

/-- The revision that the build ships. -/
def Build.revision (b : Build) : Revision := shippedPolicyVersion b.source

/-! ### The host -/

structure Host where
  /-- The revision of the module in the kernel, if there is one. -/
  loaded : Option Revision
  /-- `selinux-policy-version`. -/
  stamp : Option (List Char)

/-- The version that the content of a stamp stands for. -/
def namedBy (stamp : Option (List Char)) : Option (List Char) :=
  match stamp with
  | none => none
  | some content => if (strip content).isEmpty then none else some (strip content)

/-- `recorded_policy_version`, by whether the file can be read. -/
def recordedPolicyVersion (readable : Bool) (h : Host) : Option (List Char) :=
  if readable then namedBy h.stamp else none

/-- What becomes of a file that is written: an error leaves it alone, or with the first characters of the text. -/
inductive Written where
  | whole
  | untouched
  | cut (n : Nat)

/-- `record_policy_version`. -/
def recordPolicyVersion (version : List Char) (written : Written) (stamp : Option (List Char)) : Option (List Char) :=
  match written with
  | .whole => some (version ++ ['\n'])
  | .untouched => stamp
  | .cut n => some ((version ++ ['\n']).take n)

/-- How a step turns out that changes something: it can fail with its work undone or done. -/
inductive Turn where
  | works
  | fails
  | late
  deriving DecidableEq

/-- `forget_policy_version`. -/
def forgetPolicyVersion (unlink : Turn) (stamp : Option (List Char)) : Option (List Char) :=
  if unlink = .fails then stamp else none

/-- What works of the reads of `is_policy_module_current`. -/
structure Look where
  listing : Bool
  source : Bool
  stamp : Bool

/-- `is_selinux_module_installed`. -/
def isSelinuxModuleInstalled (listing : Bool) (h : Host) : Bool := listing && h.loaded.isSome

/-- `is_policy_module_current`. -/
def isPolicyModuleCurrent (b : Build) (look : Look) (h : Host) : Bool :=
  if isSelinuxModuleInstalled look.listing h then
    match shippedPolicyVersion (policySource b look.source) with
    | none => false
    | some shipped => recordedPolicyVersion look.stamp h == some shipped
  else false

/-- How the steps of `setup_selinux_if_needed` turn out. -/
structure Setup where
  fedora : Bool
  enforcing : Bool
  look : Look
  tools : Bool
  checkmodule : Bool
  package : Bool
  install : Turn
  source : Bool
  write : Written

/-- `setup_selinux_if_needed`. -/
def setupSelinuxIfNeeded (b : Build) (o : Setup) (h : Host) : Host :=
  if !(o.fedora && o.enforcing) then h
  else if isPolicyModuleCurrent b o.look h then h
  else if !b.source.isSome then h
  else if !(o.tools && o.checkmodule && o.package) then h
  else match o.install with
    | .fails => h
    | .late => { h with loaded := some b.revision }
    | .works =>
      match shippedPolicyVersion (policySource b o.source) with
      | some version => ⟨some b.revision, recordPolicyVersion version o.write h.stamp⟩
      | none => { h with loaded := some b.revision }

/-- How the steps of `remove_selinux_module` turn out. -/
structure Removal where
  semodule : Bool
  listing : Bool
  remove : Turn
  unlink : Turn

/-- `remove_selinux_module`. -/
def removeSelinuxModule (o : Removal) (h : Host) : Host :=
  if !o.semodule then h
  else if !isSelinuxModuleInstalled o.listing h then h
  else match o.remove with
    | .fails => h
    | .late => { h with loaded := none }
    | .works => ⟨none, forgetPolicyVersion o.unlink h.stamp⟩

inductive Call where
  | setup (b : Build) (o : Setup)
  | remove (o : Removal)

def Call.run : Call → Host → Host
  | .setup b o, h => setupSelinuxIfNeeded b o h
  | .remove o, h => removeSelinuxModule o h

def runs (h : Host) (calls : List Call) : Host := calls.foldl (fun h c => c.run h) h

/-! ### The condition -/

/-- The setup gets the policy of its build into the kernel. -/
def Setup.installs (b : Build) (o : Setup) (h : Host) : Bool :=
  o.fedora && o.enforcing && !isPolicyModuleCurrent b o.look h && b.source.isSome &&
    (o.tools && o.checkmodule && o.package) &&
    o.install != .fails

/-- The file that a setup leaves: a stamp that it wrote or began to write, or the old one. -/
def Setup.leaves (b : Build) (o : Setup) (stamp : Option (List Char)) : Option (List Char) :=
  match o.install, shippedPolicyVersion (policySource b o.source) with
  | .works, some version => recordPolicyVersion version o.write stamp
  | _, _ => stamp

/-- The setup comes to write its stamp, and writes all of it. -/
def Setup.Writes (b : Build) (o : Setup) : Prop :=
  o.install = .works ∧ (∃ version, shippedPolicyVersion (policySource b o.source) = some version) ∧ o.write = .whole

/-- A setup that installs its policy writes its stamp, or leaves one that names nothing else. -/
def Call.Stamped (h : Host) : Call → Prop
  | .setup b o => o.installs b h = true → o.Writes b ∨ ∀ version, namedBy (o.leaves b h.stamp) = some version →
      b.revision = some version
  | .remove _ => True

def Stamped : Host → List Call → Prop
  | _, [] => True
  | h, c :: rest => c.Stamped h ∧ Stamped (c.run h) rest

/-- Only the build whose policy is loaded finds its policy current. -/
def Faithful (h : Host) : Prop := ∀ b look, isPolicyModuleCurrent b look h = true → h.loaded = some b.revision

/-! ### Versions -/

section
variable {text version : List Char} {b : Build}

theorem declaration_version (declared : declaration text = some version) :
    version ≠ [] ∧ ∀ c ∈ version, versionChar c = true := by
  unfold declaration at declared
  obtain ⟨_, _, declared⟩ := Option.bind_eq_some_iff.mp declared
  obtain ⟨_, _, declared⟩ := Option.bind_eq_some_iff.mp declared
  obtain ⟨_, _, declared⟩ := Option.bind_eq_some_iff.mp declared
  obtain ⟨rest, _, declared⟩ := Option.bind_eq_some_iff.mp declared
  simp only at declared
  split_ifs at declared with empty ends
  obtain rfl := Option.some.inj declared
  refine ⟨by simpa using empty, fun c member => ?_⟩
  exact List.mem_takeWhile_imp member

theorem search_version {lineStart : Bool} (found : search lineStart text = some version) :
    version ≠ [] ∧ ∀ c ∈ version, versionChar c = true := by
  induction text generalizing lineStart with
  | nil => simp [search] at found
  | cons c rest ih =>
    rw [search] at found
    split at found
    case h_1 declared =>
      obtain rfl := Option.some.inj found
      cases lineStart with
      | true => exact declaration_version declared
      | false => cases declared
    case h_2 => exact ih found

theorem versionChar_solid {c : Char} (digit : versionChar c = true) : isSpace c = false := by
  have range : c = '.' ∨ 48 ≤ c.toNat ∧ c.toNat ≤ 57 := by
    simp only [versionChar, Bool.or_eq_true, Bool.and_eq_true, decide_eq_true_eq, beq_iff_eq] at digit
    rcases digit with ⟨low, high⟩ | dot
    · exact Or.inr ⟨low, high⟩
    · exact Or.inl dot
  rcases range with rfl | ⟨low, high⟩
  · decide
  · simp only [isSpace, decide_eq_false_iff_not, List.mem_cons, List.not_mem_nil, or_false]
    omega

theorem strip_solid (solid : ∀ c ∈ text, isSpace c = false) : strip text = text := by
  have front : text.dropWhile isSpace = text := by
    cases text with
    | nil => rfl
    | cons c rest => simp [solid c (by simp)]
  rw [strip, front]
  exact List.rdropWhile_eq_self_iff.mpr fun more => by simp [solid _ (List.getLast_mem more)]

theorem strip_newline (solid : ∀ c ∈ text, isSpace c = false) : strip (text ++ ['\n']) = text := by
  cases text with
  | nil => rfl
  | cons c rest =>
    have front : (c :: rest ++ ['\n']).dropWhile isSpace = c :: rest ++ ['\n'] := by simp [solid c (by simp)]
    rw [strip, front, List.rdropWhile_concat_pos _ _ _ (by decide)]
    exact List.rdropWhile_eq_self_iff.mpr fun more => by simp [solid _ (List.getLast_mem more)]

/-- The beginning of a stamp names the beginning of its version. -/
theorem strip_take (solid : ∀ c ∈ text, isSpace c = false) (n : Nat) :
    ∃ m, strip ((text ++ ['\n']).take n) = text.take m := by
  by_cases short : n ≤ text.length
  · refine ⟨n, ?_⟩
    rw [List.take_append_of_le_length short]
    exact strip_solid fun c member => solid c (List.mem_of_mem_take member)
  · refine ⟨text.length, ?_⟩
    rw [List.take_of_length_le (by simp; omega), List.take_length]
    exact strip_newline solid

/-- A source that declares the version. -/
def declaring (version : List Char) : List Char := "module ttp_tor_policy ".toList ++ (version ++ [';'])

theorem declaring_revision (more : version ≠ []) (digits : ∀ c ∈ version, versionChar c = true) :
    Build.revision ⟨some (declaring version)⟩ = some version := by
  have read : (version ++ [';']).takeWhile versionChar = version := by
    rw [List.takeWhile_append_of_pos digits]
    simp [versionChar]
  have rest : (version ++ [';']).dropWhile versionChar = [';'] := by
    rw [List.dropWhile_append_of_pos digits]
    simp [versionChar]
  have unspaced : (version ++ [';']).dropWhile isSpace = version ++ [';'] := by
    cases version with
    | nil => exact absurd rfl more
    | cons c tail => simp [versionChar_solid (digits c (by simp))]
  have declared : declaration (declaring version) = some version := by
    have first : after "module".toList ((declaring version).dropWhile isSpace) =
      some (" ttp_tor_policy ".toList ++ (version ++ [';'])) := rfl
    have second : afterSpaces (" ttp_tor_policy ".toList ++ (version ++ [';'])) =
      some ("ttp_tor_policy ".toList ++ (version ++ [';'])) := rfl
    have third : after "ttp_tor_policy".toList ("ttp_tor_policy ".toList ++ (version ++ [';'])) =
      some (' ' :: (version ++ [';'])) := rfl
    have fourth : afterSpaces (' ' :: (version ++ [';'])) = some (version ++ [';']) := by
      rw [afterSpaces, if_pos (by decide), unspaced]
    simp only [declaration, first, second, third, fourth, Option.bind_eq_bind, Option.bind_some, read, rest]
    simp [more, isSpace]
  have begins : declaring version = 'm' :: ("odule ttp_tor_policy ".toList ++ (version ++ [';'])) := rfl
  rw [Build.revision, shippedPolicyVersion, Option.getD_some, begins, search, ← begins, if_pos rfl, declared]

end

/-! ### One call -/

section
variable {h : Host} {b : Build} {o : Setup} {c : Call}

theorem setup_installs : setupSelinuxIfNeeded b o h =
    if o.installs b h then ⟨some b.revision, o.leaves b h.stamp⟩ else h := by
  unfold setupSelinuxIfNeeded Setup.installs Setup.leaves
  cases (o.fedora && o.enforcing)
  · simp
  cases isPolicyModuleCurrent b o.look h
  swap
  · simp
  cases b.source.isSome
  · simp
  cases (o.tools && o.checkmodule && o.package)
  · simp
  cases o.install
  · cases shippedPolicyVersion (policySource b o.source) <;> simp
  · simp
  · simp

/-- The stamp names nothing but versions. -/
def Legible (h : Host) : Prop := ∀ version, namedBy h.stamp = some version → version ≠ [] ∧ ∀ c ∈ version,
    versionChar c = true

/-- The stamp does not name another revision than the one that is loaded. -/
def Named (h : Host) : Prop := ∀ revision, h.loaded = some revision → ∀ version, namedBy h.stamp = some version →
    revision = some version

theorem namedBy_some {stamp : Option (List Char)} {version : List Char} :
    namedBy stamp = some version ↔ ∃ content, stamp = some content ∧ strip content = version ∧ version ≠ [] := by
  cases stamp with
  | none => simp [namedBy]
  | some content =>
    by_cases blank : strip content = []
    · simp only [namedBy, blank, List.isEmpty_nil, if_true, reduceCtorEq, Option.some.injEq, exists_eq_left',
        false_iff, not_and, not_not]
      exact Eq.symm
    · simp only [namedBy, List.isEmpty_iff, blank, if_false, Option.some.injEq, exists_eq_left']
      exact ⟨fun same => ⟨same, same ▸ blank⟩, And.left⟩

theorem current_iff {look : Look} : isPolicyModuleCurrent b look h = true ↔
    look.listing = true ∧ h.loaded.isSome = true ∧ look.source = true ∧ look.stamp = true ∧
      ∃ version, b.revision = some version ∧ namedBy h.stamp = some version := by
  have unreadable : shippedPolicyVersion none = none := rfl
  obtain ⟨listing, source, stamp⟩ := look
  unfold isPolicyModuleCurrent isSelinuxModuleInstalled recordedPolicyVersion policySource Build.revision
  cases listing with
  | false => simp
  | true =>
  cases h.loaded with
  | none => simp
  | some revision =>
  cases source with
  | false => simp [unreadable]
  | true =>
  cases stamp <;> cases shipped : shippedPolicyVersion b.source <;> simp [shipped]

/-- A faithful host is one whose stamp names no other revision than the loaded one. -/
theorem faithful_named (legible : Legible h) : Faithful h ↔ Named h := by
  constructor
  · intro faithful revision loaded version named
    obtain ⟨more, digits⟩ := legible version named
    have shipped := declaring_revision more digits
    have current : isPolicyModuleCurrent ⟨some (declaring version)⟩ ⟨true, true, true⟩ h = true :=
      current_iff.mpr ⟨rfl, by simp [loaded], rfl, rfl, version, shipped, named⟩
    have same := (loaded.symm.trans (faithful _ _ current)).trans (congrArg some shipped)
    exact Option.some.inj same
  · intro named b look current
    obtain ⟨_, present, _, _, version, shipped, stamped⟩ := current_iff.mp current
    obtain ⟨revision, loaded⟩ := Option.isSome_iff_exists.mp present
    rw [loaded, named revision loaded version stamped, shipped]

/-- What a setup leaves is the old stamp or the beginning of its own. -/
theorem leaves_legible (legible : Legible h) {loaded : Option Revision} : Legible ⟨loaded, o.leaves b h.stamp⟩ := by
  intro version named
  simp only [Setup.leaves] at named
  split at named
  case h_2 => exact legible version named
  case h_1 _ _ shipped _ declared =>
    obtain ⟨_, digits⟩ := search_version declared
    have solid (c : Char) (member : c ∈ shipped) : isSpace c = false := versionChar_solid (digits c member)
    obtain ⟨content, written, stripped, more⟩ := namedBy_some.mp named
    refine ⟨more, fun c member => ?_⟩
    cases how : o.write with
    | whole =>
      obtain rfl := Option.some.inj (written.symm.trans (by rw [how, recordPolicyVersion]))
      rw [strip_newline solid] at stripped
      exact digits c (stripped ▸ member)
    | untouched =>
      have kept : namedBy h.stamp = some version := by simpa [how, recordPolicyVersion] using named
      exact (legible version kept).2 c member
    | cut n =>
      obtain rfl := Option.some.inj (written.symm.trans (by rw [how, recordPolicyVersion]))
      obtain ⟨m, taken⟩ := strip_take solid n
      exact digits c (List.mem_of_mem_take (taken.symm.trans stripped ▸ member))

theorem run_legible (legible : Legible h) : Legible (c.run h) := by
  cases c with
  | setup b o =>
    rw [Call.run, setup_installs]
    split_ifs
    · exact leaves_legible legible
    · exact legible
  | remove o =>
    simp only [Call.run, removeSelinuxModule]
    split_ifs
    · exact legible
    · exact legible
    · cases o.remove
      · cases o.unlink
        · exact fun _ none => by simp [forgetPolicyVersion, namedBy] at none
        · exact legible
        · exact fun _ none => by simp [forgetPolicyVersion, namedBy] at none
      · exact legible
      · exact legible

/-- A call keeps the stamp to the loaded revision exactly where it meets the condition. -/
theorem run_named (named : Named h) : Named (c.run h) ↔ c.Stamped h := by
  cases c with
  | setup b o =>
    rw [Call.run, setup_installs]
    by_cases installs : o.installs b h = true
    · rw [if_pos installs]
      constructor
      · exact fun kept _ => Or.inr (kept b.revision rfl)
      · intro stamped revision loaded version leaves
        obtain rfl := Option.some.inj loaded
        rcases stamped installs with ⟨works, ⟨shipped, declared⟩, whole⟩ | other
        · -- the whole stamp was written
          obtain ⟨_, digits⟩ := search_version declared
          have written : o.leaves b h.stamp = some (shipped ++ ['\n']) := by
            simp [Setup.leaves, works, declared, whole, recordPolicyVersion]
          obtain ⟨content, held, stripped, _⟩ := namedBy_some.mp leaves
          obtain rfl := Option.some.inj (written.symm.trans held)
          rw [strip_newline fun c member => versionChar_solid (digits c member)] at stripped
          unfold policySource at declared
          split_ifs at declared
          · exact declared.trans (congrArg some stripped)
          · cases declared
        · exact other version leaves
    · rw [if_neg installs]
      exact ⟨fun _ here => absurd here installs, fun _ => named⟩
  | remove o =>
    refine ⟨fun _ => trivial, fun _ => ?_⟩
    simp only [Call.run, removeSelinuxModule]
    split_ifs
    · exact named
    · exact named
    · cases o.remove
      · exact fun _ loaded => by cases loaded
      · exact named
      · exact fun _ loaded => by cases loaded

end

/-! ### Every run -/

theorem faithful_throughout (h : Host) (calls : List Call) (legible : Legible h) (named : Named h) :
    (∀ earlier later, calls = earlier ++ later → Faithful (runs h earlier)) ↔ Stamped h calls := by
  induction calls generalizing h with
  | nil =>
    refine ⟨fun _ => trivial, fun _ earlier later split => ?_⟩
    obtain ⟨rfl, rfl⟩ := List.append_eq_nil_iff.mp split.symm
    exact (faithful_named legible).mpr named
  | cons c rest ih =>
    have legible' : Legible (c.run h) := run_legible legible
    constructor
    · intro faithful
      have first : Named (c.run h) := (faithful_named legible').mp (faithful [c] rest rfl)
      refine ⟨(run_named named).mp first, (ih (c.run h) legible' first).mp fun earlier later split => ?_⟩
      exact faithful (c :: earlier) later (by rw [split, List.cons_append])
    · rintro ⟨here, there⟩ earlier later split
      have first : Named (c.run h) := (run_named named).mpr here
      cases earlier with
      | nil => exact (faithful_named legible).mpr named
      | cons c' earlier =>
        obtain ⟨rfl, tail⟩ := List.cons.inj (split.trans (List.cons_append ..))
        exact (ih (c.run h) legible' first).mpr there earlier later tail

/-- From a host without a stamp, whatever is loaded: after each call of a run only the build whose policy is loaded
    finds its policy current, exactly where every setup of the run that installs its policy writes its stamp or leaves
    one that names nothing else. -/
theorem stamp_faithful (loaded : Option Revision) (calls : List Call) :
    (∀ earlier later, calls = earlier ++ later → Faithful (runs ⟨loaded, none⟩ earlier)) ↔
      Stamped ⟨loaded, none⟩ calls :=
  faithful_throughout ⟨loaded, none⟩ calls (fun _ named => by simp [namedBy] at named) fun _ _ _ named => by
    simp [namedBy] at named

/-- A setup with the outcome of the last step. -/
def smooth (write : Written) : Setup := ⟨true, true, ⟨true, true, true⟩, true, true, true, .works, true, write⟩

def release (version : String) : Build := ⟨some (declaring version.toList)⟩

/-- An upgrade whose stamp cannot be written, and a downgrade: the older build finds the newer policy current. -/
theorem downgrade_unfaithful : ¬ ∀ (loaded : Option Revision) (calls : List Call),
    Faithful (runs ⟨loaded, none⟩ calls) := by
  intro faithful
  have loads := faithful none [.setup (release "1.2") (smooth .whole), .setup (release "1.3") (smooth .untouched)]
    (release "1.2")
    ⟨true, true, true⟩ (by decide)
  exact absurd loads (by decide)

end Ttp.PolicyStamp
