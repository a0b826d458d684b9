import Mathlib.Data.List.DropRight

/-!
The methods of Python's `str` that take a text apart, over lists of characters.
-/
namespace Ttp.Text

/-- `str.isspace`, for one character. -/
def isSpace (c : Char) : Bool :=
  c.toNat ∈ [9, 10, 11, 12, 13, 28, 29, 30, 31, 32, 133, 160, 5760, 8192, 8193, 8194, 8195, 8196, 8197, 8198,
    8199, 8200, 8201, 8202, 8232, 8233, 8239, 8287, 12288]

/-- The characters that end a line of `str.splitlines`. -/
def isBreak (c : Char) : Bool := c.toNat ∈ [10, 11, 12, 13, 28, 29, 30, 133, 8232, 8233]

/-- `str.splitlines`. -/
def splitLines : List Char → List (List Char)
  | [] => []
  | '\r' :: '\n' :: rest => [] :: splitLines rest
  | c :: rest =>
    if isBreak c then [] :: splitLines rest
    else match splitLines rest with
      | [] => [[c]]
      | line :: lines => (c :: line) :: lines

/-- The words of a text, after `word` was read. -/
def splitFrom (word : List Char) : List Char → List (List Char)
  | [] => if word = [] then [] else [word]
  | c :: rest =>
    if isSpace c then (if word = [] then splitFrom [] rest else word :: splitFrom [] rest)
    else splitFrom (word ++ [c]) rest

/-- `str.split()`. -/
def split (text : List Char) : List (List Char) := splitFrom [] text

/-- `str.strip()`. -/
def strip (text : List Char) : List Char := (text.dropWhile isSpace).rdropWhile isSpace

/-- `part in text`. -/
def contains (text part : List Char) : Bool := text.tails.any part.isPrefixOf

/-! ### Lines -/

theorem isSpace_of_isBreak {c : Char} (ends : isBreak c = true) : isSpace c = true := by
  simp only [isBreak, isSpace, List.mem_cons, List.not_mem_nil, or_false, decide_eq_true_eq] at ends ⊢
  omega

/-- The first line of a text that is not empty. -/
theorem splitLines_first {text : List Char} (more : text ≠ []) :
    ∃ lines, splitLines text = text.takeWhile (fun c => !isBreak c) :: lines := by
  fun_induction splitLines text with
  | case1 => exact absurd rfl more
  | case2 rest ih => exact ⟨splitLines rest, by simp [isBreak]⟩
  | case3 c rest _ ends ih => exact ⟨splitLines rest, by simp [ends]⟩
  | case4 c rest _ inside last ih =>
    have none : rest = [] := by
      by_contra more
      obtain ⟨lines, first⟩ := ih more
      simp [first] at last
    exact ⟨[], by simp [none, inside]⟩
  | case5 c rest _ inside line lines found ih =>
    have more : rest ≠ [] := by
      rintro rfl
      simp [splitLines] at found
    obtain ⟨others, first⟩ := ih more
    obtain ⟨rfl, rfl⟩ := List.cons.inj (found.symm.trans first)
    exact ⟨lines, by simp [inside]⟩

/-- A newline ends a line, whatever is before it. -/
theorem splitLines_newline (before text : List Char) :
    ∃ line lines, splitLines (before ++ '\n' :: text) = line :: lines ++ splitLines text := by
  have longer (c : Char) (rest : List Char) (other : ∀ rest', c = '\r' → rest = '\n' :: rest' → False)
      (ih : ∃ line lines, splitLines (rest ++ '\n' :: text) = line :: lines ++ splitLines text) :
      ∃ line lines, splitLines (c :: rest ++ '\n' :: text) = line :: lines ++ splitLines text := by
    by_cases pair : c = '\r' ∧ rest = []
    · obtain ⟨rfl, rfl⟩ := pair
      exact ⟨[], [], by simp [splitLines]⟩
    obtain ⟨line, lines, found⟩ := ih
    have other' : ∀ rest', c = '\r' → rest ++ '\n' :: text = '\n' :: rest' → False := by
      intro rest' carriage same
      cases rest with
      | nil => exact pair ⟨carriage, rfl⟩
      | cons d rest => exact other rest carriage (by rw [(List.cons.inj same).1])
    rw [List.cons_append, splitLines.eq_3 c _ other', found]
    by_cases ends : isBreak c = true
    · exact ⟨[], line :: lines, by simp [ends]⟩
    · exact ⟨c :: line, lines, by simp [ends]⟩
  fun_induction splitLines before with
  | case1 =>
    refine ⟨[], [], ?_⟩
    rw [List.nil_append, splitLines.eq_def]
    simp [isBreak]
  | case2 rest ih =>
    obtain ⟨line, lines, found⟩ := ih
    exact ⟨[], line :: lines, by simp [splitLines, found]⟩
  | case3 c rest other ends ih => exact longer c rest other ih
  | case4 c rest other inside last ih => exact longer c rest other ih
  | case5 c rest other inside line lines found ih => exact longer c rest other ih

/-! ### Words -/

variable {word text : List Char}

theorem splitFrom_append (solid : ∀ c ∈ text, isSpace c = false) (word rest : List Char) :
    splitFrom word (text ++ rest) = splitFrom (word ++ text) rest := by
  induction text generalizing word with
  | nil => simp
  | cons c text ih =>
    have here : isSpace c = false := solid c (by simp)
    rw [List.cons_append, splitFrom, if_neg (by simp [here]), ih (fun d member => solid d (by simp [member]))]
    simp

theorem splitFrom_spaces (spaces : ∀ c ∈ text, isSpace c = true) (rest : List Char) :
    splitFrom [] (text ++ rest) = splitFrom [] rest := by
  induction text with
  | nil => rfl
  | cons c text ih =>
    have here : isSpace c = true := spaces c (by simp)
    rw [List.cons_append, splitFrom, if_pos here, if_pos rfl, ih fun d member => spaces d (by simp [member])]

/-- A text that is empty or starts with a space. -/
def Parted (text : List Char) : Prop := ∀ c ∈ text.head?, isSpace c = true

theorem splitFrom_parted (more : word ≠ []) (parted : Parted text) :
    splitFrom word text = word :: splitFrom [] text := by
  cases text with
  | nil => simp [splitFrom, more]
  | cons c text =>
    have space : isSpace c = true := parted c (by simp)
    rw [splitFrom, if_pos space, if_neg more, splitFrom, if_pos space, if_pos rfl]

/-- What is stripped from the end of a text comes after its last solid character. -/
theorem rdropWhile_parted (front : List Char) {last : Char} (solid : isSpace last = false) (parted : Parted text) :
    ∃ rest, Parted rest ∧ (front ++ last :: text).rdropWhile isSpace = front ++ last :: rest := by
  induction text using List.reverseRecOn with
  | nil => exact ⟨[], parted, List.rdropWhile_concat_neg _ _ _ (by simp [solid])⟩
  | append_singleton text c ih =>
    rw [← List.cons_append, ← List.append_assoc]
    by_cases space : isSpace c = true
    · have parted' : Parted text := by
        cases text with
        | nil => exact fun _ none => by simp at none
        | cons d text => exact fun e first => parted e (by simpa using first)
      rw [List.rdropWhile_concat_pos _ _ _ space]
      exact ih parted'
    · rw [List.rdropWhile_concat_neg _ _ _ space]
      exact ⟨text ++ [c], parted, by simp⟩

/-- The first two words of a line that starts with the first. -/
theorem split_strip {key gap word rest : List Char} (named : key ≠ []) (solidKey : ∀ c ∈ key, isSpace c = false)
    (gapped : gap ≠ []) (spaces : ∀ c ∈ gap, isSpace c = true) (more : word ≠ [])
    (solidWord : ∀ c ∈ word, isSpace c = false)
    (parted : Parted rest) :
    key <+: strip (key ++ gap ++ word ++ rest) ∧ ∃ others,
      split (strip (key ++ gap ++ word ++ rest)) = key :: word :: others := by
  have front : (key ++ gap ++ word ++ rest).dropWhile isSpace = key ++ gap ++ word ++ rest := by
    cases key with
    | nil => exact absurd rfl named
    | cons c key => simp [solidKey c (by simp)]
  have back : ∃ rest', Parted rest' ∧ strip (key ++ gap ++ word ++ rest) = key ++ gap ++ word ++ rest' := by
    obtain ⟨begins, last, rfl⟩ := (List.eq_nil_or_concat word).resolve_left more
    obtain ⟨rest', parted', stripped⟩ := rdropWhile_parted (key ++ gap ++ begins) (solidWord last (by simp)) parted
    exact ⟨rest', parted', by rw [strip, front]; simpa using stripped⟩
  obtain ⟨rest', parted', stripped⟩ := back
  refine ⟨⟨gap ++ word ++ rest', by rw [stripped]; simp only [List.append_assoc]⟩, splitFrom [] rest', ?_⟩
  have gapParted : Parted (gap ++ word ++ rest') := by
    cases gap with
    | nil => exact absurd rfl gapped
    | cons c gap => exact fun d first => by simpa [← show c = d by simpa using first] using spaces c (by simp)
  calc split (strip (key ++ gap ++ word ++ rest))
      = splitFrom [] (key ++ (gap ++ word ++ rest')) := by rw [split, stripped]; simp
    _ = key :: splitFrom [] (gap ++ word ++ rest') := by
      rw [splitFrom_append solidKey, List.nil_append, splitFrom_parted named gapParted]
    _ = key :: splitFrom [] (word ++ rest') := by rw [List.append_assoc, splitFrom_spaces spaces]
    _ = key :: word :: splitFrom [] rest' := by
      rw [splitFrom_append solidWord, List.nil_append, splitFrom_parted more parted']

end Ttp.Text
