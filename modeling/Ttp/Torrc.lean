import Mathlib.Data.List.Basic
import Ttp.Text

/-!
Tor's configuration file: an option a line, its name and the words of its value. A
backslash at the end of a line carries the value on to the next one, `#` starts a
comment, and a comment in a value that was carried on ends its own line only.
-/
namespace Ttp.Torrc
open Ttp.Text

structure Directive where
  name : List Char
  value : List Char
  deriving DecidableEq, Repr

def Directive.words (d : Directive) : List (List Char) := split d.value

def isBlank (c : Char) : Bool := c ∈ [' ', '\t', '\r', '\x0b', '\x0c']

/-- The option of a text: what stands before the first blank is its name. -/
def directive (text : List Char) : Directive :=
  let text := text.dropWhile isBlank
  ⟨text.takeWhile (!isBlank ·), text.dropWhile (!isBlank ·)⟩

def commented (line : List Char) : Bool := line.contains '#'

/-- The line goes on on the next one. -/
def carries (line : List Char) : Bool := !commented line && line.getLast? == some '\\'

/-- The line without its comment, or without the backslash that carries it on. -/
def body (line : List Char) : List Char := if carries line then line.dropLast else line.takeWhile (· != '#')

/-- The options of the lines, after an option that the lines before have begun. -/
def directives : Option Directive → List (List Char) → List Directive
  | none, [] => []
  | some d, [] => [d]
  | none, line :: rest =>
    if carries line then directives (some (directive (body line))) rest
    else if (body line).all isBlank then directives none rest
    else directive (body line) :: directives none rest
  | some d, line :: rest =>
    if carries line || commented line then directives (some { d with value := d.value ++ body line }) rest
    else { d with value := d.value ++ body line } :: directives none rest

def options (text : List Char) : List Directive := directives none (text.splitOn '\n')

/-- The file of some lines. -/
def written (lines : List (List Char)) : List Char := List.intercalate ['\n'] lines ++ ['\n']

/-! ### Lines -/

theorem written_cons (first : List Char) (rest : List (List Char)) :
    written (first :: rest) = List.intercalate ['\n'] (first :: rest ++ [[]]) := by
  induction rest generalizing first with
  | nil => simp [written, List.intercalate]
  | cons second rest ih =>
    have longer := ih second
    rw [written] at longer
    rw [written, List.intercalate_cons_cons, List.append_assoc, longer]
    simp only [List.cons_append, List.intercalate_cons_cons, List.append_assoc]

/-- A file is read line by line. -/
theorem options_written {lines : List (List Char)} (single : ∀ line ∈ lines, '\n' ∉ line) :
    options (written lines) = directives none (lines ++ [[]]) := by
  cases lines with
  | nil => rfl
  | cons first rest =>
    have single' : ∀ line ∈ first :: rest ++ [[]], '\n' ∉ line := by
      intro line member
      obtain member | member := List.mem_append.mp member
      · exact single line member
      · simp [List.mem_singleton.mp member]
    rw [options, written_cons, List.splitOn_intercalate '\n' single' (by simp)]

theorem directives_append {front : List (List Char)} (ends : ∀ line ∈ front, carries line = false)
    (rest : List (List Char)) :
    directives none (front ++ rest) = directives none front ++ directives none rest := by
  induction front with
  | nil => simp [directives]
  | cons line front ih =>
    have here : carries line = false := ends line (by simp)
    have later := ih fun other member => ends other (by simp [member])
    rw [List.cons_append, directives, directives, here]
    by_cases blank : (body line).all isBlank = true
    · simp [blank, later]
    · simp [blank, later]

theorem directives_end (carried : Option Directive) (lines : List (List Char)) :
    directives carried (lines ++ [[]]) = directives carried lines := by
  fun_induction directives carried lines with
  | case1 => rfl
  | case2 d => simp [directives, carries, commented, body]
  | case3 line rest on ih => rw [List.cons_append, directives, if_pos on, ih]
  | case4 line rest ends blank ih => rw [List.cons_append, directives, if_neg ends, if_pos blank, ih]
  | case5 line rest ends named ih => rw [List.cons_append, directives, if_neg ends, if_neg named, ih]
  | case6 d line rest on ih => rw [List.cons_append, directives, if_pos on, ih]
  | case7 d line rest ends ih => rw [List.cons_append, directives, if_neg ends, ih]

theorem directive_option {name rest : List Char} (solid : ∀ c ∈ name, isBlank c = false) (more : name ≠ []) :
    directive (name ++ ' ' :: rest) = ⟨name, ' ' :: rest⟩ := by
  have unblanked : (name ++ ' ' :: rest).dropWhile isBlank = name ++ ' ' :: rest := by
    obtain ⟨c, name, rfl⟩ := List.exists_cons_of_ne_nil more
    rw [List.cons_append, List.dropWhile_cons_of_neg (by simp [solid c (by simp)])]
  have solid' : ∀ c ∈ name, (!isBlank c) = true := fun c member => by simp [solid c member]
  rw [directive, unblanked]
  rw [List.takeWhile_append_of_pos solid', List.dropWhile_append_of_pos solid', List.takeWhile_cons_of_neg (by decide),
    List.dropWhile_cons_of_neg (by decide), List.append_nil]

/-- A line of its own, with a name and the rest. -/
theorem directives_option {name rest : List Char} (solid : ∀ c ∈ name, isBlank c = false) (more : name ≠ [])
    (clean : '#' ∉ name ++ ' ' :: rest) (ends : carries (name ++ ' ' :: rest) = false) (lines : List (List Char)) :
    directives none ((name ++ ' ' :: rest) :: lines) = ⟨name, ' ' :: rest⟩ :: directives none lines := by
  have whole : body (name ++ ' ' :: rest) = name ++ ' ' :: rest := by
    rw [body, ends, if_neg Bool.false_ne_true, List.takeWhile_eq_self_iff]
    intro c member
    simpa using fun same : c = '#' => clean (same ▸ member)
  have named : ¬(name ++ ' ' :: rest).all isBlank = true := by
    obtain ⟨c, name, rfl⟩ := List.exists_cons_of_ne_nil more
    simp [solid c (by simp)]
  rw [directives, whole, ends, if_neg Bool.false_ne_true, if_neg named, directive_option solid more]

/-- Where all lines start the same option, there is no other. -/
theorem directives_named {name : List Char} {lines : List (List Char)}
    (begins : ∀ line ∈ lines, (directive (body line)).name = name)
    {carried : Option Directive} (named : ∀ d ∈ carried, d.name = name) :
    ∀ d ∈ directives carried lines, d.name = name := by
  fun_induction directives carried lines with
  | case1 => simp
  | case2 d => simpa using named
  | case3 line rest on ih =>
    exact ih (fun other member => begins other (by simp [member])) (by simpa using begins line (by simp))
  | case4 line rest ends blank ih => exact ih (fun other member => begins other (by simp [member])) (by simp)
  | case5 line rest ends more ih =>
    intro d member
    obtain rfl | member := List.mem_cons.mp member
    · exact begins line (by simp)
    · exact ih (fun other member => begins other (by simp [member])) (by simp) d member
  | case6 d line rest on ih => exact ih (fun other member => begins other (by simp [member])) (by simpa using named)
  | case7 d line rest ends ih =>
    intro d' member
    obtain rfl | member := List.mem_cons.mp member
    · exact named d rfl
    · exact ih (fun other member => begins other (by simp [member])) (by simp) d' member

/-- The words of a text have all of it that is no space. -/
theorem split_flatten (text : List Char) : (split text).flatten = text.filter (!isSpace ·) := by
  have goesOn (word text : List Char) : (splitFrom word text).flatten = word ++ text.filter (!isSpace ·) := by
    fun_induction splitFrom word text with
    | case1 => simp
    | case2 word more => simp
    | case3 c rest space ih => simp [space, ih]
    | case4 word c rest space more ih => simp [space, ih]
    | case5 word c rest solid ih => simp [solid, ih]
  exact goesOn [] text

/-! ### What a reading loses -/

theorem body_uncommented (line : List Char) : '#' ∉ body line := by
  unfold body
  split_ifs with on
  · intro member
    have plain : '#' ∉ line := by
      simp only [carries, commented, Bool.and_eq_true, Bool.not_eq_true', List.contains_eq_mem,
        decide_eq_false_iff_not] at on
      exact on.1
    exact plain (List.dropLast_subset _ member)
  · intro member
    simpa using List.mem_takeWhile_imp member

theorem value_subset (text : List Char) : ∀ c ∈ (directive text).value, c ∈ text := fun _ member =>
  List.dropWhile_subset _ (List.dropWhile_subset _ member)

/-- No value has anything of a comment. -/
theorem directives_uncommented (lines : List (List Char)) {carried : Option Directive}
    (clean : ∀ d ∈ carried, '#' ∉ d.value) :
    ∀ d ∈ directives carried lines, '#' ∉ d.value := by
  have starts (line : List Char) : '#' ∉ (directive (body line)).value :=
    fun member => body_uncommented line (value_subset _ _ member)
  have goesOn {d : Directive} (line : List Char) (clean : '#' ∉ d.value) : '#' ∉ d.value ++ body line := by
    rw [List.mem_append, not_or]
    exact ⟨clean, body_uncommented line⟩
  fun_induction directives carried lines with
  | case1 => simp
  | case2 d => simpa using clean
  | case3 line rest on ih => exact ih (by simpa using starts line)
  | case4 line rest ends blank ih => exact ih (by simp)
  | case5 line rest ends named ih =>
    intro d member
    obtain rfl | member := List.mem_cons.mp member
    · exact starts line
    · exact ih (by simp) d member
  | case6 d line rest on ih => exact ih (by simpa using goesOn line (clean d rfl))
  | case7 d line rest ends ih =>
    intro d' member
    obtain rfl | member := List.mem_cons.mp member
    · exact goesOn line (clean d rfl)
    · exact ih (by simp) d' member

def Directive.text (d : Directive) : List Char := d.name ++ d.value

theorem directive_backslashes (text : List Char) : (directive text).text.count '\\' ≤ text.count '\\' := by
  rw [Directive.text, directive, List.takeWhile_append_dropWhile]
  exact (List.dropWhile_sublist _).count_le _

theorem body_backslashes (line : List Char) :
    (body line).count '\\' + (if carries line then 1 else 0) ≤ line.count '\\' := by
  unfold body
  split_ifs with on
  · have last : line.getLast? = some '\\' := by
      simp only [carries, Bool.and_eq_true, beq_iff_eq] at on
      exact on.2
    obtain ⟨front, rfl⟩ := List.getLast?_eq_some_iff.mp last
    simp
  · exact (List.takeWhile_sublist _).count_le _

/-- A reading loses each backslash that carries a line on. -/
theorem directives_backslashes (carried : Option Directive) (lines : List (List Char)) :
    ((directives carried lines).flatMap Directive.text).count '\\' + lines.countP carries
      ≤ (carried.toList.flatMap Directive.text).count '\\' + lines.flatten.count '\\' := by
  have goesOn (d : Directive) (line : List Char) :
      ({ d with value := d.value ++ body line } : Directive).text.count '\\' = d.text.count '\\' +
        (body line).count '\\' := by
    simp only [Directive.text, List.count_append]
    omega
  fun_induction directives carried lines with
  | case1 => simp
  | case2 d => simp
  | case3 line rest on ih =>
    have starts := directive_backslashes (body line)
    have fewer := body_backslashes line
    simp only [List.countP_cons, Option.toList_some, Option.toList_none, List.flatMap_cons, List.flatMap_nil,
      List.flatten_cons, List.count_append, List.count_nil] at ih ⊢
    omega
  | case4 line rest ends blank ih =>
    simp only [List.countP_cons_of_neg ends, List.flatten_cons, List.count_append] at ih ⊢
    omega
  | case5 line rest ends named ih =>
    have starts := directive_backslashes (body line)
    have fewer := body_backslashes line
    simp only [List.countP_cons_of_neg ends, List.flatMap_cons, List.flatten_cons, List.count_append] at ih ⊢
    omega
  | case6 d line rest on ih =>
    have fewer := body_backslashes line
    simp only [List.countP_cons, Option.toList_some, List.flatMap_cons, List.flatMap_nil, List.flatten_cons,
      List.count_append, List.count_nil, goesOn] at ih ⊢
    omega
  | case7 d line rest ends ih =>
    have fewer := body_backslashes line
    simp only [List.countP_cons, Option.toList_some, Option.toList_none, List.flatMap_cons, List.flatMap_nil,
      List.flatten_cons, List.count_append, List.count_nil, goesOn] at ih ⊢
    omega

end Ttp.Torrc
