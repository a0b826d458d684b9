import Mathlib.Data.List.Basic

/-!
How systemd reads the command line of a unit file: words that white space separates,
parts of them in quotes, with escapes as in C; then `%%` stands for a percent sign in every
word and `$$` for a dollar sign in every argument. A word in double quotes in which these
four characters are escaped is read as the word it was (`arguments_spelled`).
-/
namespace Ttp.CommandLine

/-- What the reader leaves open: escapes of more than one letter, by their letter and the text after
    it (what they stand for, and how much of that text they take), a word in which there is a
    specifier other than `%%`, and the words that stand for an argument with a variable. -/
structure Rules where
  escape : Char → List Char → Option (List Char × ℕ)
  specifiers : List Char → Option (List Char)
  substitute : List Char → List (List Char)

def isGap (c : Char) : Bool := c ∈ [' ', '\t', '\n', '\r']

def isQuote (c : Char) : Bool := c == '"' || c == '\x27'

/-- The escapes of one letter. -/
def letterEscape : Char → Option Char
  | 'a' => some '\x07'
  | 'b' => some '\x08'
  | 'f' => some '\x0c'
  | 'n' => some '\n'
  | 'r' => some '\r'
  | 't' => some '\t'
  | 'v' => some '\x0b'
  | 's' => some ' '
  | '\\' => some '\\'
  | '"' => some '"'
  | '\x27' => some '\x27'
  | _ => none

/-- Where in a command line the reader is: between words, in a word, or in quotes. -/
inductive Place where
  | between
  | word
  | quoted (mark : Char)

def Place.inside : Place → Place
  | .between => .word
  | place => place

/-- The words of the rest of a command line, after a part of a word. -/
def read (rules : Rules) (place : Place) (word : List Char) : List Char → Option (List (List Char))
  | [] =>
    match place with
    | .between => some []
    | .word => some [word]
    | .quoted _ => none
  | '\\' :: [] => none
  | '\\' :: letter :: rest =>
    match letterEscape letter with
    | some c => read rules place.inside (word ++ [c]) rest
    | none =>
      match rules.escape letter rest with
      | some (text, taken) => read rules place.inside (word ++ text) (rest.drop taken)
      | none => none
  | c :: rest =>
    match place with
    | .between =>
      if isGap c then read rules .between [] rest
      -- a semicolon as a word of its own begins another command
      else if c == ';' && rest.head?.all isGap then none
      else if isQuote c then read rules (.quoted c) [] rest
      else read rules .word [c] rest
    | .word =>
      if isGap c then (read rules .between [] rest).map (word :: ·)
      else if isQuote c then read rules (.quoted c) word rest
      else read rules .word (word ++ [c]) rest
    | .quoted mark =>
      if c == mark then read rules .word word rest
      else read rules (.quoted mark) (word ++ [c]) rest
termination_by text => text.length
decreasing_by all_goals simp only [List.length_cons, List.length_drop]; omega

/-- The text with one character for each two; `none` where a single one stands. -/
def halve (mark : Char) : List Char → Option (List Char)
  | [] => some []
  | [c] => if c = mark then none else some [c]
  | c :: d :: rest =>
    if c = mark then (if d = mark then (halve mark rest).map (mark :: ·) else none)
    else (halve mark (d :: rest)).map (c :: ·)

def specified (rules : Rules) (word : List Char) : Option (List Char) := (halve '%' word).or (rules.specifiers word)

def substituted (rules : Rules) (word : List Char) : List (List Char) :=
  match halve '$' word with
  | some text => [text]
  | none => rules.substitute word

/-- The words of a command line, with their specifiers. -/
def words (rules : Rules) (text : List Char) : Option (List (List Char)) :=
  (read rules .between [] text).bind (·.mapM (specified rules))

/-- The arguments of a text, all of them with their variables. -/
def arguments (rules : Rules) (text : List Char) : Option (List (List Char)) :=
  (words rules text).map (·.flatMap (substituted rules))

/-- A program and its arguments. In the name of the program a dollar sign stands for itself. -/
def command (rules : Rules) (text : List Char) : Option (List Char × List (List Char)) :=
  match words rules text with
  | some (program :: args) => some (program, args.flatMap (substituted rules))
  | _ => none

/-! ### Words in double quotes -/

/-- How a character is written in double quotes. -/
def spellChar (c : Char) : List Char :=
  if c = '\\' ∨ c = '"' then ['\\', c] else if c = '%' ∨ c = '$' then [c, c] else [c]

def spell (word : List Char) : List Char := '"' :: (word.flatMap spellChar ++ ['"'])

def double (mark : Char) (text : List Char) : List Char := text.flatMap fun c => if c = mark then [c, c] else [c]

theorem halve_cons {mark c : Char} (other : c ≠ mark) (rest : List Char) :
    halve mark (c :: rest) = (halve mark rest).map (c :: ·) := by
  cases rest with
  | nil => simp [halve, other]
  | cons d rest => simp [halve, other]

theorem halve_double (mark : Char) (text : List Char) : halve mark (double mark text) = some text := by
  induction text with
  | nil => rfl
  | cons c text ih =>
    have step : double mark (c :: text) = (if c = mark then [c, c] else [c]) ++ double mark text := by simp [double]
    by_cases same : c = mark
    · rw [step, if_pos same, List.cons_append, List.cons_append, List.nil_append, halve, if_pos same,
        if_pos same, ih, same]
      rfl
    · rw [step, if_neg same, List.cons_append, List.nil_append, halve_cons same, ih]
      rfl

theorem double_length (mark : Char) (text : List Char) : (double mark text).length = text.length + text.count mark := by
  induction text with
  | nil => rfl
  | cons c text ih =>
    have step : double mark (c :: text) = (if c = mark then [c, c] else [c]) ++ double mark text := by simp [double]
    by_cases same : c = mark
    · rw [step, if_pos same, List.length_append, ih, same, List.count_cons_self]
      simp only [List.length_cons, List.length_nil]
      omega
    · rw [step, if_neg same, List.length_append, ih, List.count_cons_of_ne same]
      simp only [List.length_cons, List.length_nil]
      omega

theorem double_eq_self {mark : Char} {text : List Char} : double mark text = text ↔ mark ∉ text := by
  constructor
  · intro same member
    have length := double_length mark text
    have some' : 0 < text.count mark := List.count_pos_iff.mpr member
    rw [same] at length
    omega
  · intro none
    have each : ∀ c ∈ text, (if c = mark then [c, c] else [c]) = [c] := fun c member =>
      if_neg fun same : c = mark => none (same ▸ member)
    rw [double, List.flatMap_congr each]
    simp

theorem read_quoted (rules : Rules) (word : List Char) {c : Char} (plain : c ≠ '\\') (rest : List Char) :
    read rules (.quoted '"') word (c :: rest) =
      if c = '"' then read rules .word word rest else read rules (.quoted '"') (word ++ [c]) rest := by
  rw [read]
  · simp
  · exact fun backslash => absurd backslash plain
  · exact fun _ _ backslash => absurd backslash plain

/-- What the reader makes of a character in double quotes. -/
theorem read_char (rules : Rules) (word : List Char) (c : Char) (rest : List Char) :
    read rules (.quoted '"') word (spellChar c ++ rest) =
      read rules (.quoted '"') (word ++ if c = '%' ∨ c = '$' then [c, c] else [c]) rest := by
  by_cases escaped : c = '\\' ∨ c = '"'
  · have itself : letterEscape c = some c := by
      rcases escaped with rfl | rfl
      · rfl
      · rfl
    have unpaired : ¬ (c = '%' ∨ c = '$') := by
      rcases escaped with rfl | rfl
      · decide
      · decide
    rw [spellChar, if_pos escaped, if_neg unpaired, List.cons_append, List.cons_append, List.nil_append, read, itself]
    rfl
  · have plain : c ≠ '\\' ∧ c ≠ '"' := not_or.mp escaped
    have one (word rest : List Char) : read rules (.quoted '"') word (c :: rest) = read rules (.quoted '"')
        (word ++ [c]) rest := by
      rw [read_quoted rules word plain.1, if_neg plain.2]
    rw [spellChar, if_neg escaped]
    by_cases paired : c = '%' ∨ c = '$'
    · simp only [if_pos paired, List.cons_append, List.nil_append, one, List.append_assoc]
    · simp only [if_neg paired, List.cons_append, List.nil_append, one]

theorem read_chars (rules : Rules) (text word rest : List Char) :
    read rules (.quoted '"') word (text.flatMap spellChar ++ rest) =
      read rules (.quoted '"') (word ++ double '%' (double '$' text)) rest := by
  induction text generalizing word with
  | nil => simp [double]
  | cons c text ih =>
    have step : double '%' (double '$' (c :: text)) =
        (if c = '%' ∨ c = '$' then [c, c] else [c]) ++ double '%' (double '$' text) := by
      by_cases percent : c = '%'
      · simp [double, percent]
      · by_cases dollar : c = '$'
        · simp [double, dollar]
        · simp [double, percent, dollar]
    rw [List.flatMap_cons, List.append_assoc, read_char, ih, step, List.append_assoc]

theorem read_spelled (rules : Rules) (text rest : List Char) :
    read rules .between [] (spell text ++ rest) = read rules .word (double '%' (double '$' text)) rest := by
  have opened (rest : List Char) : read rules .between [] ('"' :: rest) = read rules (.quoted '"') [] rest := by
    rw [read]
    · simp [isGap, isQuote]
    · simp
    · simp
  have closed (word rest : List Char) : read rules (.quoted '"') word ('"' :: rest) = read rules .word word rest := by
    rw [read_quoted rules word (by decide), if_pos rfl]
  rw [spell, List.cons_append, opened, List.append_assoc, read_chars, List.singleton_append, closed, List.nil_append]

/-- A line of spelled words, one space between two, has these words. -/
theorem read_line (rules : Rules) (args : List (List Char)) :
    read rules .between [] (List.intercalate [' '] (args.map spell)) =
      some (args.map fun arg => double '%' (double '$' arg)) := by
  induction args with
  | nil => simp [List.intercalate, read]
  | cons arg args ih =>
    cases args with
    | nil =>
      have alone := read_spelled rules arg []
      rw [List.append_nil] at alone
      simp [List.intercalate, alone, read]
    | cons next args =>
      have gap (word rest : List Char) : read rules .word word (' ' :: rest) = (read rules .between [] rest).map
          (word :: ·) := by
        rw [read]
        · simp [isGap]
        · simp
        · simp
      rw [List.map_cons, List.map_cons, List.intercalate_cons_cons, List.append_assoc, read_spelled,
        List.singleton_append, gap]
      rw [List.map_cons] at ih
      rw [ih]
      rfl

theorem words_spelled (rules : Rules) (args : List (List Char)) :
    words rules (List.intercalate [' '] (args.map spell)) = some (args.map (double '$')) := by
  rw [words, read_line, Option.bind_some]
  induction args with
  | nil => rfl
  | cons arg args ih =>
    rw [List.map_cons, List.mapM_cons, ih, specified, halve_double]
    rfl

theorem substituted_doubled (rules : Rules) (args : List (List Char)) :
    (args.map (double '$')).flatMap (substituted rules) = args := by
  induction args with
  | nil => rfl
  | cons arg args ih => rw [List.map_cons, List.flatMap_cons, ih, substituted, halve_double, List.singleton_append]

/-- Spelled arguments are read back as they were. -/
theorem arguments_spelled (rules : Rules) (args : List (List Char)) :
    arguments rules (List.intercalate [' '] (args.map spell)) = some args := by
  rw [arguments, words_spelled, Option.map_some, substituted_doubled]

/-- So is a command, but for the dollar signs in the name of the program. -/
theorem command_spelled (rules : Rules) (program : List Char) (args : List (List Char)) :
    command rules (List.intercalate [' '] ((program :: args).map spell)) = some (double '$' program, args) := by
  rw [command, words_spelled, List.map_cons]
  simp only [substituted_doubled]

end Ttp.CommandLine
