import Mathlib.Data.List.Nodup
import Ttp.Text

/-!
INI texts: sections of options, one a line. An option is parted from its value by
the first `=` or `:`, lines with more indentation go on with the value, `#` and
`;` start a comment line. No section and no option of a section is there twice,
the section `DEFAULT` apart, whose headers add up. A line that is none of this
makes the text invalid, after the lines that follow were read.
-/
namespace Ttp.Ini
open Ttp.Text

/-- The lines of a text, each without its newline. -/
def lines (text : List Char) : List (List Char) :=
  let all := text.splitOnP (· == '\n')
  if all.getLast? = some [] then all.dropLast else all

def isComment (line : List Char) : Bool :=
  match strip line with
  | '#' :: _ => true
  | ';' :: _ => true
  | _ => false

def indentation (line : List Char) : Nat := (line.takeWhile isSpace).length

/-- The name between `[` and the last `]`. -/
def header? : List Char → Option String
  | '[' :: rest =>
    let name := ((rest.reverse.dropWhile (· != ']')).drop 1).reverse
    if name = [] then none else some (String.ofList name)
  | _ => none

def isDelimiter (c : Char) : Bool := c == '=' || c == ':'

/-- The option of a line, and the start of its value. -/
def option? (line : List Char) : Option (String × List Char) :=
  if line.any isDelimiter then
    some (String.ofList ((line.takeWhile (!isDelimiter ·)).rdropWhile isSpace),
      strip ((line.dropWhile (!isDelimiter ·)).drop 1))
  else none

structure Entry where
  group : String
  option : String
  /-- The lines of the value, the last first. -/
  lines : List (List Char)

/-- What was read so far. -/
structure Reader where
  /-- The sections, `DEFAULT` apart. -/
  groups : List String := []
  /-- The last first. -/
  entries : List Entry := []
  current : Option String := none
  /-- The last entry can go on. -/
  continues : Bool := false
  indent : Nat := 0
  /-- There was a line that is none of this. -/
  garbled : Bool := false

inductive Error where
  | missingHeader
  | duplicateSection (group : String)
  | duplicateOption (group option : String)
  | garbled
  deriving DecidableEq, Repr

def Reader.goOn (r : Reader) (line : List Char) : Reader :=
  match r.entries with
  | [] => r
  | entry :: rest => { r with entries := { entry with lines := line :: entry.lines } :: rest }

def Reader.has (r : Reader) (group option : String) : Bool :=
  r.entries.any fun entry => entry.group == group && entry.option == option

/-- A line that is no comment, not empty and no continuation. -/
def Reader.start (r : Reader) (line : List Char) : Except Error Reader :=
  match header? line with
  | some group =>
    if group ∈ r.groups then .error (.duplicateSection group)
    else
      .ok { r with
        current := some group
        continues := false
        groups := if group = "DEFAULT" then r.groups else r.groups ++ [group] }
  | none =>
    match r.current with
    | none => .error .missingHeader
    | some group =>
      match option? line with
      | none => .ok { r with garbled := true }
      | some (option, value) =>
        if r.has group option then .error (.duplicateOption group option)
        else
          .ok { r with
            entries := ⟨group, option, [value]⟩ :: r.entries
            continues := option != ""
            garbled := r.garbled || option == "" }

def Reader.read (r : Reader) (line : List Char) : Except Error Reader :=
  if isComment line then .ok r
  else if strip line = [] then .ok (if r.continues then r.goOn [] else r)
  else if r.continues ∧ r.indent < indentation line then .ok (r.goOn (strip line))
  else Reader.start { r with indent := indentation line } (strip line)

/-- The value of an option: its lines, joined. -/
def Entry.value (entry : Entry) : String :=
  String.ofList ((List.intercalate ['\n'] entry.lines.reverse).rdropWhile isSpace)

structure Document where
  groups : List String
  /-- The options with their sections and values. -/
  options : List (String × String × String)

def Reader.document (r : Reader) : Document where
  groups := r.groups
  options := (r.entries.map fun entry => (entry.group, entry.option, entry.value)).reverse

/-- What the text says. -/
def read (text : List Char) : Except Error Document := do
  let r ← (lines text).foldlM Reader.read {}
  if r.garbled then .error .garbled else .ok r.document

/-- The options of a section, with their values. -/
def Document.items (doc : Document) (group : String) : List (String × String) :=
  (doc.options.filter fun option => option.1 == group).map (·.2)

/-- The value that the text sets an option to. -/
def Document.value? (doc : Document) (group option : String) : Option String :=
  ((doc.items group).find? (·.1 == option)).map (·.2)

/-! ### Nothing is there twice -/

def Entry.name (entry : Entry) : String × String := (entry.group, entry.option)

/-- A section that a reader knows. -/
def Reader.knows (r : Reader) (group : String) : Prop := group ∈ r.groups ∨ group = "DEFAULT"

/-- The sections and the options are there once, the options in sections that are known. -/
structure Reader.Strict (r : Reader) : Prop where
  groups : r.groups.Nodup
  options : (r.entries.map Entry.name).Nodup
  known : ∀ entry ∈ r.entries, r.knows entry.group
  current : ∀ group ∈ r.current, r.knows group

section
variable {r r' : Reader} {line : List Char}

theorem strict_goOn (strict : r.Strict) : (r.goOn line).Strict := by
  cases entries : r.entries with
  | nil => rwa [Reader.goOn, entries]
  | cons entry rest =>
    rw [Reader.goOn, entries]
    exact
      { groups := strict.groups
        options := by simpa [entries, Entry.name] using strict.options
        known := by simpa [entries, Reader.knows] using strict.known
        current := strict.current }

theorem has_name {group option : String} : r.has group option = true ↔ (group, option) ∈ r.entries.map Entry.name := by
  simp [Reader.has, Entry.name]

theorem strict_start (strict : r.Strict) (started : r.start line = .ok r') : r'.Strict := by
  unfold Reader.start at started
  split at started
  case h_1 group header =>
    split_ifs at started with twice inherited
    all_goals obtain rfl := Except.ok.inj started
    · exact { strict with current := fun g here => Or.inr (by rw [← Option.some.inj here, inherited]) }
    · have more {g : String} (known : r.knows g) : g ∈ r.groups ++ [group] ∨ g = "DEFAULT" := by
        rcases known with member | same
        · exact Or.inl (List.mem_append_left _ member)
        · exact Or.inr same
      exact
        { groups := List.nodup_append.mpr ⟨strict.groups, by simp, by rintro a member b last rfl; exact twice (List.mem_singleton.mp last ▸ member)⟩
          options := strict.options
          known := fun entry member => more (strict.known entry member)
          current := fun g here => Or.inl (by simp [Option.some.inj here]) }
  case h_2 =>
    split at started
    · cases started
    case h_2 group current =>
      split at started
      · obtain rfl := Except.ok.inj started
        exact { strict with }
      case h_2 option value stated =>
        split_ifs at started with twice
        obtain rfl := Except.ok.inj started
        exact
          { groups := strict.groups
            options := List.nodup_cons.mpr ⟨fun member => twice (has_name.mpr member), strict.options⟩
            known := List.forall_mem_cons.mpr ⟨strict.current group current, strict.known⟩
            current := strict.current }

theorem strict_read (strict : r.Strict) (done : r.read line = .ok r') : r'.Strict := by
  unfold Reader.read at done
  split_ifs at done
  · obtain rfl := Except.ok.inj done
    exact strict
  · obtain rfl := Except.ok.inj done
    exact strict_goOn strict
  · obtain rfl := Except.ok.inj done
    exact strict
  · obtain rfl := Except.ok.inj done
    exact strict_goOn strict
  · have indented : Reader.Strict { r with indent := indentation line } := { strict with }
    exact strict_start indented done

theorem strict_lines {all : List (List Char)} (strict : r.Strict) (done : all.foldlM Reader.read r = .ok r') :
    r'.Strict := by
  induction all generalizing r with
  | nil =>
    obtain rfl := Except.ok.inj done
    exact strict
  | cons line rest ih =>
    rw [List.foldlM_cons] at done
    cases next : r.read line with
    | error e => simp [next, bind, Except.bind] at done
    | ok r₁ => exact ih (strict_read strict next) (by simpa [next, bind, Except.bind] using done)

end

/-- A document in which no section and no option is there twice. -/
structure Document.Strict (doc : Document) : Prop where
  groups : doc.groups.Nodup
  options : (doc.options.map fun option => (option.1, option.2.1)).Nodup
  known : ∀ option ∈ doc.options, option.1 ∈ doc.groups ∨ option.1 = "DEFAULT"

/-- What a text says, it says once. -/
theorem read_strict {text : List Char} {doc : Document} (said : read text = .ok doc) : doc.Strict := by
  unfold read at said
  cases outcome : (lines text).foldlM Reader.read {} with
  | error e => simp [outcome, bind, Except.bind] at said
  | ok r =>
    simp only [outcome, bind, Except.bind] at said
    split_ifs at said
    obtain rfl := Except.ok.inj said
    have start : Reader.Strict {} := ⟨List.nodup_nil, List.nodup_nil, by simp, by simp⟩
    have strict := strict_lines start outcome
    exact
      { groups := strict.groups
        options := by
          rw [Reader.document, List.map_reverse, List.map_map]
          exact (List.reverse_perm _).nodup_iff.mpr strict.options
        known := by
          intro option member
          simp only [Reader.document, List.mem_reverse, List.mem_map] at member
          obtain ⟨entry, inside, rfl⟩ := member
          exact strict.known entry inside }

section
variable {doc : Document} {group option value : String}

theorem items_nodup (strict : doc.Strict) (group : String) : ((doc.items group).map (·.1)).Nodup := by
  have inside : ∀ option ∈ doc.options.filter fun option => option.1 == group, option.1 = group :=
    fun option member => by
    simpa using (List.mem_filter.mp member).2
  have names : ((doc.options.filter fun option => option.1 == group).map fun option => (option.1, option.2.1)).Nodup :=
    strict.options.sublist (List.filter_sublist.map _)
  rw [Document.items, List.map_map]
  rw [List.map_congr_left (g := fun option => (group, option.2.1)) fun option member => by rw [inside option member]]
    at names
  exact List.Nodup.of_map (fun option => (group, option)) (by simpa [Function.comp_def] using names)

theorem find_pair {items : List (String × String)} (once : (items.map (·.1)).Nodup) :
    (items.find? (·.1 == option)).map (·.2) = some value ↔ (option, value) ∈ items := by
  induction items with
  | nil => simp
  | cons item rest ih =>
    obtain ⟨name, text⟩ := item
    rw [List.map_cons, List.nodup_cons] at once
    by_cases here : name = option
    · subst here
      have gone : (name, value) ∉ rest := fun member => once.1 (List.mem_map.mpr ⟨_, member, rfl⟩)
      simp [gone, eq_comm]
    · rw [List.find?_cons_of_neg (by simpa using here), ih once.2]
      simp [Ne.symm here]

theorem value_some (strict : doc.Strict) : doc.value? group option = some value ↔ (option, value) ∈ doc.items group :=
  find_pair (items_nodup strict group)

theorem value_known (strict : doc.Strict) (set : doc.value? group option = some value) :
    group ∈ doc.groups ∨ group = "DEFAULT" := by
  obtain ⟨⟨g, o, v⟩, member, _⟩ := List.mem_map.mp ((value_some strict).mp set)
  obtain ⟨inside, same⟩ := List.mem_filter.mp member
  rw [beq_iff_eq] at same
  exact same ▸ strict.known _ inside

end

end Ttp.Ini
