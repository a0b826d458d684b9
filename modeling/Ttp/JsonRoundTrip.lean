import Mathlib.Data.List.Chain
import Ttp.JsonText

/-!
A text that was written reads back as the value, or fails at the depth limit
of the decoder; and all of its characters are ASCII.
-/
namespace Ttp.JsonText
open Ttp.Python

/-! ### Strings -/

section
variable {c : Char} {rest : List Char} {n : ℕ}

/-- A result with more code units in front. -/
def prepend (ns : List ℕ) (x : Except Fault (List ℕ × List Char)) : Except Fault (List ℕ × List Char) :=
  x.map fun found => (ns ++ found.1, found.2)

theorem prepend_prepend (ns ms : List ℕ) (x : Except Fault (List ℕ × List Char)) :
    prepend ns (prepend ms x) = prepend (ns ++ ms) x := by
  cases x <;> simp [prepend, Except.map]

theorem hexValue_digit : ∀ d < 16, hexValue d.digitChar = some d := by decide

theorem readUnit_spelled (small : n < 0x10000) :
    readUnit (hexDigit (n / 4096)) (hexDigit (n / 256)) (hexDigit (n / 16)) (hexDigit n) = some n := by
  have digit (m : ℕ) : hexValue (hexDigit m) = some (m % 16) := hexValue_digit _ (Nat.mod_lt _ (by decide))
  simp only [readUnit, digit, Option.bind_eq_bind, Option.bind_some, Option.some.injEq]
  omega

theorem units_unit (small : n < 0x10000) : units (spellUnit n ++ rest) = prepend [n] (units rest) := by
  show units ('\\' :: 'u' :: _ :: _ :: _ :: _ :: rest) = _
  simp only [units, readUnit_spelled small]
  cases units rest <;> rfl

theorem letterOf_some {letter : Char} (escapes : letterOf c = some letter) :
    letter ≠ 'u' ∧ charOf letter = some c ∧ c.toNat < 0x80 := by
  unfold letterOf at escapes
  split_ifs at escapes
  all_goals
    obtain rfl := Option.some.inj escapes
    subst c
    exact ⟨by decide, rfl, by decide⟩

theorem units_letter {letter : Char} (escapes : letterOf c = some letter) :
    units ('\\' :: letter :: rest) = prepend [c.toNat] (units rest) := by
  obtain ⟨other, known, _⟩ := letterOf_some escapes
  rw [units.eq_3 _ _ fun _ _ _ _ _ same => absurd same other, known]
  cases units rest <;> rfl

theorem units_plain (unescaped : letterOf c = none) (printable : ' ' ≤ c) :
    units (c :: rest) = prepend [c.toNat] (units rest) := by
  have quote : c ≠ '"' := by
    rintro rfl
    simp [letterOf] at unescaped
  have backslash : c ≠ '\\' := by
    rintro rfl
    simp [letterOf] at unescaped
  have high : ¬ c.toNat < 0x20 := Nat.not_lt.mpr printable
  rw [units.eq_4 _ _ quote (fun _ _ _ _ _ same => absurd same backslash) fun _ _ same => absurd same backslash,
    if_neg (not_or.mpr ⟨backslash, high⟩)]
  cases units rest <;> rfl

theorem toNat_lt (c : Char) : c.toNat < 0xD800 ∨ 0xDFFF < c.toNat ∧ c.toNat < 0x110000 := c.valid

theorem unitsOf_small (c : Char) : ∀ n ∈ unitsOf c, n < 0x10000 := by
  have valid := toNat_lt c
  unfold unitsOf
  split
  · simpa
  · simp only [List.mem_cons, List.not_mem_nil, or_false, forall_eq_or_imp, forall_eq]
    omega

theorem units_units {ns : List ℕ} (small : ∀ n ∈ ns, n < 0x10000) :
    units (ns.flatMap spellUnit ++ rest) = prepend ns (units rest) := by
  induction ns with
  | nil =>
    show units rest = prepend [] (units rest)
    cases found : units rest <;> simp [prepend, Except.map]
  | cons n ns ih =>
    rw [List.flatMap_cons, List.append_assoc, units_unit (small n (by simp)),
      ih fun m member => small m (by simp [member]),
      prepend_prepend]
    rfl

theorem units_char (c : Char) : units (spellChar c ++ rest) = prepend (unitsOf c) (units rest) := by
  unfold spellChar
  split
  case h_1 letter escapes =>
    have small : c.toNat < 0x10000 := by
      have ascii := (letterOf_some escapes).2.2
      omega
    rw [unitsOf, if_pos small]
    exact units_letter escapes
  case h_2 unescaped =>
    split
    case isTrue printable =>
      have small : c.toNat < 0x10000 := by
        have ascii : c.toNat ≤ 0x7E := printable.2
        omega
      rw [unitsOf, if_pos small]
      exact units_plain unescaped printable.1
    case isFalse => exact units_units (unitsOf_small c)

theorem units_text (s : List Char) : units (s.flatMap spellChar ++ '"' :: rest) = .ok (s.flatMap unitsOf, rest) := by
  induction s with
  | nil => rfl
  | cons c s ih => rw [List.flatMap_cons, List.append_assoc, units_char, ih]; rfl

/-- The units of a character are the character again. -/
theorem join_unitsOf (c : Char) (ns : List ℕ) : join (unitsOf c ++ ns) = c.toNat :: join ns := by
  have valid := toNat_lt c
  unfold unitsOf
  split
  case isTrue small =>
    cases ns with
    | nil => rfl
    | cons m ns =>
      show join (c.toNat :: m :: ns) = _
      rw [join, if_neg (by omega)]
  case isFalse large =>
    have put : 0x10000 + (0xD800 + (c.toNat - 0x10000) / 0x400 - 0xD800) * 0x400 +
      (0xDC00 + (c.toNat - 0x10000) % 0x400 - 0xDC00) =
        c.toNat := by omega
    simp only [List.cons_append, List.nil_append]
    rw [join, if_pos (by omega), put]

theorem join_text (s : List Char) : join (s.flatMap unitsOf) = s.map Char.toNat := by
  induction s with
  | nil => rfl
  | cons c s ih => rw [List.flatMap_cons, join_unitsOf, List.map_cons, ih]

theorem character_toNat (c : Char) : character c.toNat = some c := by
  have valid : c.toNat.isValidChar := c.valid
  rw [character, if_pos valid, Char.ofNat_toNat]

/-- A string reads back. -/
theorem text_spelled (s : String) (rest : List Char) :
    text (s.toList.flatMap spellChar ++ '"' :: rest) = .ok (s, rest) := by
  have read : (s.toList.map Char.toNat).mapM character = some s.toList := by
    induction s.toList with
    | nil => rfl
    | cons c cs ih => simp [List.mapM_cons, character_toNat, ih]
  simp only [text, units_text, join_text, read, String.ofList_toList]

/-- The UTF-16 code units of a code point. -/
def unitsOfPoint (c : Fin 0x110000) : List ℕ := if isSurrogate c then [c.val] else unitsOf (Char.ofNat c.val)

theorem units_points (s : PyText) :
    units (s.flatMap spellPoint ++ '"' :: rest) = .ok (s.flatMap unitsOfPoint, rest) := by
  induction s with
  | nil => rfl
  | cons c s ih =>
    have point : units (spellPoint c ++ (s.flatMap spellPoint ++ '"' :: rest)) =
        prepend (unitsOfPoint c) (units (s.flatMap spellPoint ++ '"' :: rest)) := by
      unfold spellPoint unitsOfPoint
      split_ifs with surrogate
      · refine units_unit ?_
        simp only [isSurrogate, Bool.and_eq_true, decide_eq_true_eq] at surrogate
        omega
      · exact units_char _
    rw [List.flatMap_cons, List.append_assoc, point, ih]
    rfl

/-- No string begins with a low surrogate but one whose first code point is one. -/
theorem unitsOfPoint_head (c : Fin 0x110000) :
    ∃ n more, unitsOfPoint c = n :: more ∧ (0xDC00 ≤ n → n < 0xE000 → isLow c = true) := by
  unfold unitsOfPoint
  split_ifs with surrogate
  · exact ⟨c.val, [], rfl, fun low high => by simp [isLow, low, high]⟩
  · have valid := toNat_lt (Char.ofNat c.val)
    unfold unitsOf
    split_ifs
    · exact ⟨_, [], rfl, fun low high => by omega⟩
    · exact ⟨_, _, rfl, fun low high => by omega⟩

/-- The units of a string are its code points again, where no pair of them is that of one code point. -/
theorem join_points {s : PyText} (whole : s.Whole) : join (s.flatMap unitsOfPoint) = s.map Fin.val := by
  induction s with
  | nil => rfl
  | cons c s ih =>
    have others := ih (List.IsChain.tail whole)
    rw [List.flatMap_cons, List.map_cons, ← others]
    by_cases surrogate : isSurrogate c = true
    case neg =>
      rw [unitsOfPoint, if_neg surrogate, join_unitsOf, toNat_char (by simpa using surrogate)]
    rw [unitsOfPoint, if_pos surrogate]
    cases s with
    | nil => rfl
    | cons d s =>
      obtain ⟨n, more, same, low⟩ := unitsOfPoint_head d
      have apart := (List.isChain_cons_cons.mp whole).1
      rw [List.flatMap_cons, same]
      show join (c.val :: n :: (more ++ s.flatMap unitsOfPoint)) = _
      rw [join, if_neg]
      · rfl
      · rintro ⟨lowest, highest, first, last⟩
        exact apart ⟨by simp [isHigh, lowest, highest], low first last⟩

/-- A string of code points reads back. -/
theorem points_spelled {s : PyText} (whole : s.Whole) (rest : List Char) :
    points (s.flatMap spellPoint ++ '"' :: rest) = .ok (s, rest) := by
  have same : (s.map Fin.val).map (fun n => (⟨n % 0x110000, Nat.mod_lt n (by decide)⟩ : Fin 0x110000)) = s := by
    rw [List.map_map]
    refine (List.map_congr_left fun c _ => ?_).trans (List.map_id s)
    exact Fin.ext (Nat.mod_eq_of_lt c.isLt)
  simp only [points, units_points, join_points whole, same]

end

/-! ### The characters of a string -/

def Ascii (chars : List Char) : Prop := ∀ c ∈ chars, c.toNat < 0x80

theorem ascii_append {a b : List Char} : Ascii (a ++ b) ↔ Ascii a ∧ Ascii b := List.forall_mem_append

theorem ascii_cons {c : Char} {chars : List Char} : Ascii (c :: chars) ↔ c.toNat < 0x80 ∧ Ascii chars :=
  List.forall_mem_cons

theorem ascii_nil : Ascii [] := List.forall_mem_nil _

theorem ascii_flatMap {α : Type} {spell : α → List Char} (each : ∀ a, Ascii (spell a)) (items : List α) :
    Ascii (items.flatMap spell) := by
  intro c member
  obtain ⟨a, _, inside⟩ := List.mem_flatMap.mp member
  exact each a c inside

theorem ascii_spellUnit (n : ℕ) : Ascii (spellUnit n) := by
  have digit : ∀ d < 16, (Nat.digitChar d).toNat < 0x80 := by decide
  have hex (n : ℕ) : (hexDigit n).toNat < 0x80 := digit _ (Nat.mod_lt _ (by decide))
  simp only [spellUnit, ascii_cons, hex, ascii_nil, and_true]
  decide

theorem ascii_spellChar (c : Char) : Ascii (spellChar c) := by
  unfold spellChar
  split
  case h_1 letter escapes =>
    have plain : letter.toNat < 0x80 := by
      unfold letterOf at escapes
      split_ifs at escapes
      all_goals
        obtain rfl := Option.some.inj escapes
        decide
    exact ascii_cons.mpr ⟨by decide, ascii_cons.mpr ⟨plain, ascii_nil⟩⟩
  case h_2 =>
    split
    case isTrue printable =>
      have most : c.toNat ≤ 0x7E := printable.2
      exact ascii_cons.mpr ⟨by omega, ascii_nil⟩
    case isFalse => exact ascii_flatMap ascii_spellUnit _

theorem ascii_spellPoint (c : Fin 0x110000) : Ascii (spellPoint c) := by
  unfold spellPoint
  split
  · exact ascii_spellUnit _
  · exact ascii_spellChar _

/-- Strings that are written in ASCII, and read back where they are exact. -/
class LawfulStrings (S : Type) [Strings S] : Prop where
  back (s : S) (rest : List Char) : Strings.exact s → Strings.scan (Strings.spell s ++ rest) = .ok (s, rest)
  ascii (s : S) : Ascii (Strings.spell s)

instance : LawfulStrings String where
  back s rest _ := by
    show text ((s.toList.flatMap spellChar ++ ['"']) ++ rest) = _
    rw [List.append_assoc, List.singleton_append, text_spelled]
  ascii s := ascii_append.mpr ⟨ascii_flatMap ascii_spellChar _, ascii_cons.mpr ⟨by decide, ascii_nil⟩⟩

instance : LawfulStrings PyText where
  back s rest whole := by
    show points ((s.flatMap spellPoint ++ ['"']) ++ rest) = _
    rw [List.append_assoc, List.singleton_append, points_spelled whole]
  ascii s := ascii_append.mpr ⟨ascii_flatMap ascii_spellPoint _, ascii_cons.mpr ⟨by decide, ascii_nil⟩⟩

@[simp] theorem exact_string (s : String) : Strings.exact s := trivial

/-! ### Numbers -/

section
variable {rest : List Char}

/-- What may follow a value: not a character that a number goes on with. -/
def Follow (rest : List Char) : Prop := ∀ c, rest.head? = some c → c.isDigit = false ∧ c ≠ '.' ∧ c ≠ 'e' ∧ c ≠ 'E'

theorem takeWhile_digits {ds : List Char} (digits : ∀ c ∈ ds, c.isDigit = true)
    (stops : ∀ c, rest.head? = some c → c.isDigit = false) :
    (ds ++ rest).takeWhile Char.isDigit = ds ∧ (ds ++ rest).dropWhile Char.isDigit = rest := by
  rw [List.takeWhile_append_of_pos digits, List.dropWhile_append_of_pos digits]
  cases rest with
  | nil => simp
  | cons c rest => simp [stops c rfl]

theorem scanSign_sign {sign : List Char} (signed : sign = [] ∨ sign = ['-']) (stops : rest.head? ≠ some '-') :
    scanSign (sign ++ rest) = (sign, rest) := by
  rcases signed with rfl | rfl
  · cases rest with
    | nil => rfl
    | cons c rest =>
      rw [List.nil_append, scanSign]
      intro _ same
      simp_all
  · rfl

theorem scanWhole_whole {ds : List Char} (digits : Digits ds) (unpadded : ds.head? = some '0' → ds = ['0'])
    (stops : ∀ c, rest.head? = some c → c.isDigit = false) : scanWhole (ds ++ rest) = some (ds, rest) := by
  obtain ⟨nonempty, digits⟩ := digits
  cases ds with
  | nil => exact absurd rfl nonempty
  | cons d ds =>
    by_cases zero : d = '0'
    · subst zero
      obtain rfl : ds = [] := by simpa using unpadded rfl
      rfl
    · have taken := takeWhile_digits (fun c member => digits c (List.mem_cons_of_mem _ member)) stops
      rw [List.cons_append, scanWhole, if_pos (digits d (by simp)), taken.1, taken.2]
      exact zero

theorem scanFraction_none (stops : rest.head? ≠ some '.') : scanFraction rest = ([], rest) := by
  unfold scanFraction
  split
  · exact absurd rfl stops
  · rfl

theorem scanFraction_digits {ds : List Char} (digits : Digits ds)
    (stops : ∀ c, rest.head? = some c → c.isDigit = false) :
    scanFraction ('.' :: (ds ++ rest)) = ('.' :: ds, rest) := by
  obtain ⟨nonempty, digits⟩ := digits
  cases ds with
  | nil => exact absurd rfl nonempty
  | cons d ds =>
    have taken := takeWhile_digits (fun c member => digits c (List.mem_cons_of_mem _ member)) stops
    rw [List.cons_append, scanFraction, if_pos (digits d (by simp)), taken.1, taken.2]

theorem scanExponent_none (stops : rest.head? ≠ some 'e' ∧ rest.head? ≠ some 'E') : scanExponent rest = ([], rest) := by
  cases rest with
  | nil => rfl
  | cons c rest =>
    have other : ¬ (c = 'e' ∨ c = 'E') := by
      rintro (rfl | rfl)
      · exact stops.1 rfl
      · exact stops.2 rfl
    rw [scanExponent, if_neg other]

theorem scanExponent_digits {mark ds : List Char} (marked : mark = [] ∨ mark = ['+'] ∨ mark = ['-'])
    (digits : Digits ds)
    (stops : ∀ c, rest.head? = some c → c.isDigit = false) :
    scanExponent ('e' :: (mark ++ ds ++ rest)) = ('e' :: (mark ++ ds), rest) := by
  obtain ⟨nonempty, digits⟩ := digits
  have taken := takeWhile_digits digits stops
  cases ds with
  | nil => exact absurd rfl nonempty
  | cons d ds =>
    have digit := digits d (by simp)
    have scanned : scanMark (mark ++ (d :: ds ++ rest)) = (mark, d :: ds ++ rest) := by
      rcases marked with rfl | rfl | rfl
      · rw [List.nil_append, List.cons_append, scanMark]
        · rintro _ same
          obtain ⟨rfl, -⟩ := List.cons.inj same
          exact absurd digit (by decide)
        · rintro _ same
          obtain ⟨rfl, -⟩ := List.cons.inj same
          exact absurd digit (by decide)
      · rfl
      · rfl
    rw [scanExponent, if_pos (Or.inl rfl), List.append_assoc, scanned]
    simp only [taken.1, taken.2]
    rw [if_pos (by simpa using digit)]
    rfl

variable {S : Type} (floats : Floats) (limit : ℕ)

/-- A number is read up to what follows it. -/
theorem number_parts (p : Parts) (follow : Follow rest) :
    (number floats limit (p.chars ++ rest) : Except Fault (Json S × List Char)) =
    if p.fraction = [] ∧ p.exponent = [] then
      if limit < p.whole.length then .error .tooManyDigits else .ok (.int (readInt p.sign p.whole), rest)
    else .ok (.float (floats.read p.chars), rest) := by
  obtain ⟨sign, whole, fraction, exponent, signed, digits, unpadded, pointed, marked⟩ := p
  -- what comes after each part cannot belong to it
  have ends (c : Char) (first : rest.head? = some c) : c.isDigit = false := (follow c first).1
  have afterFraction (c : Char) (first : (exponent ++ rest).head? = some c) : c.isDigit = false := by
    rcases marked with rfl | ⟨mark, ds, rfl, _⟩
    · exact ends c first
    · obtain rfl : 'e' = c := by simpa using first
      rfl
  have afterWhole (c : Char) (first : (fraction ++ (exponent ++ rest)).head? = some c) : c.isDigit = false := by
    rcases pointed with rfl | ⟨ds, rfl, _⟩
    · exact afterFraction c first
    · obtain rfl : '.' = c := by simpa using first
      rfl
  have unsigned : (whole ++ (fraction ++ (exponent ++ rest))).head? ≠ some '-' := by
    obtain ⟨nonempty, all⟩ := digits
    cases whole with
    | nil => exact absurd rfl nonempty
    | cons d ds =>
      intro same
      obtain rfl : d = '-' := by simpa using same
      exact absurd (all '-' (by simp)) (by decide)
  have fractions : scanFraction (fraction ++ (exponent ++ rest)) = (fraction, exponent ++ rest) := by
    rcases pointed with rfl | ⟨ds, rfl, some⟩
    · refine scanFraction_none fun same => ?_
      rcases marked with rfl | ⟨mark, ds, rfl, _⟩
      · exact (follow '.' same).2.1 rfl
      · simp at same
    · exact scanFraction_digits some afterFraction
  have exponents : scanExponent (exponent ++ rest) = (exponent, rest) := by
    rcases marked with rfl | ⟨mark, ds, rfl, marked, some⟩
    · exact scanExponent_none ⟨fun same => (follow 'e' same).2.2.1 rfl, fun same => (follow 'E' same).2.2.2 rfl⟩
    · exact scanExponent_digits marked some ends
  rw [number, Parts.chars]
  simp only [List.append_assoc, scanSign_sign signed unsigned, scanWhole_whole digits unpadded afterWhole,
    fractions, exponents]

theorem digits_toDigits (n : ℕ) : Digits (Nat.toDigits 10 n) :=
  ⟨Nat.toDigits_ne_nil, fun _ member => Nat.isDigit_of_mem_toDigits (by decide) (by decide) member⟩

theorem head_toDigits {n : ℕ} (first : (Nat.toDigits 10 n).head? = some '0') : Nat.toDigits 10 n = ['0'] := by
  induction n using Nat.strongRecOn with
  | ind n ih =>
    rw [Nat.toDigits_eq_if (by decide)] at first ⊢
    split_ifs at first ⊢ with small
    · have only : ∀ m < 10, m.digitChar = '0' → m = 0 := by decide
      obtain rfl := only n small (by simpa using first)
      rfl
    · obtain ⟨d, ds, same⟩ := List.exists_cons_of_ne_nil (Nat.toDigits_ne_nil (b := 10) (n := n / 10))
      have zero := ih (n / 10) (by omega) (by simpa [same] using first)
      have value := congrArg (fun ds => Nat.ofDigitChars 10 ds 0) zero
      simp only [Nat.ofDigitChars_ten_toDigits] at value
      have none : Nat.ofDigitChars 10 ['0'] 0 = 0 := rfl
      omega

/-- The parts of an integer. -/
def intParts (n : ℤ) : Parts where
  sign := if n < 0 then ['-'] else []
  whole := Nat.toDigits 10 n.natAbs
  fraction := []
  exponent := []
  signed := by
    split
    · exact .inr rfl
    · exact .inl rfl
  digits := digits_toDigits _
  unpadded := head_toDigits
  pointed := .inl rfl
  marked := .inl rfl

theorem chars_intParts (n : ℤ) : (intParts n).chars = spellInt n := by simp [Parts.chars, intParts, spellInt]

theorem readInt_spelled (n : ℤ) : readInt (intParts n).sign (intParts n).whole = n := by
  simp only [readInt, intParts, Nat.ofDigitChars_ten_toDigits]
  split_ifs with negative plain plain
  · simp at plain
  · omega
  · omega
  · simp at plain

/-- A value begins with the sign or a digit of its number. -/
theorem value_parts [DecidableEq S] [Strings S] (depth : ℕ) (p : Parts) :
    (value floats limit depth (p.chars ++ rest) : Except Fault (Json S × List Char)) = number floats limit
      (p.chars ++ rest) := by
  have starts : ∃ c more, p.chars ++ rest = c :: more ∧
      (c.isDigit = true ∨ c = '-' ∧ ∃ d more', more = d :: more' ∧ d.isDigit = true) := by
    obtain ⟨nonempty, digits⟩ := p.digits
    obtain ⟨d, ds, whole⟩ := List.exists_cons_of_ne_nil nonempty
    have digit : d.isDigit = true := digits d (by simp [whole])
    rcases p.signed with plain | minus
    · exact ⟨d, _, by simp [Parts.chars, plain, whole]; rfl, .inl digit⟩
    · exact ⟨'-', _, by simp [Parts.chars, minus, whole]; rfl, .inr ⟨rfl, d, _, rfl, digit⟩⟩
  obtain ⟨c, more, same, first⟩ := starts
  rw [same]
  rcases first with digit | ⟨rfl, d, more, rfl, digit⟩
  · unfold value
    split <;> first | rfl | (exfalso; simp_all)
  · unfold value
    split <;> first | rfl | (exfalso; simp_all)

end

/-! ### Containers -/

section
variable {S : Type} [Strings S] {floats : Floats} {limit : ℕ} {lay : Layout} {rest : List Char}

theorem skip_blanks {blanks : List Char} (blank : ∀ c ∈ blanks, isBlank c = true) (rest : List Char) :
    skip (blanks ++ rest) = skip rest := by
  rw [skip, skip, List.dropWhile_append_of_pos blank]

theorem skip_cons {c : Char} (visible : isBlank c = false) : skip (c :: rest) = c :: rest := by simp [skip, visible]

/-- How a value begins. -/
theorem encode_head (k : ℕ) (v : Json S) (fine : ∀ q, v = .float (.finite q) → floats.exact q) :
    ∃ c more, encode floats lay k v = c :: more ∧ isBlank c = false ∧ c ≠ ']' := by
  have number (p : Parts) : ∃ c more, p.chars = c :: more ∧ isBlank c = false ∧ c ≠ ']' := by
    obtain ⟨nonempty, digits⟩ := p.digits
    obtain ⟨d, ds, whole⟩ := List.exists_cons_of_ne_nil nonempty
    have digit : d.isDigit = true := digits d (by simp [whole])
    rcases p.signed with plain | minus
    · refine ⟨d, _, by simp [Parts.chars, plain, whole]; rfl, ?_, ?_⟩
      · by_contra blank
        rw [Bool.not_eq_false] at blank
        simp only [isBlank, Bool.or_eq_true, beq_iff_eq] at blank
        rcases blank with ((rfl | rfl) | rfl) | rfl <;> exact absurd digit (by decide)
      · rintro rfl
        exact absurd digit (by decide)
    · exact ⟨'-', _, by simp [Parts.chars, minus]; rfl, rfl, by decide⟩
  cases v with
  | null => exact ⟨'n', _, by rw [encode], rfl, by decide⟩
  | bool b =>
    cases b with
    | true => exact ⟨'t', _, by rw [encode], rfl, by decide⟩
    | false => exact ⟨'f', _, by rw [encode], rfl, by decide⟩
  | int n =>
    rw [encode, ← chars_intParts]
    exact number _
  | float x =>
    cases x with
    | finite q =>
      obtain ⟨p, same, _⟩ := floats.spelled q (fine q rfl)
      rw [encode, spellFloat, same]
      exact number p
    | posInf => exact ⟨'I', _, by rw [encode, spellFloat], rfl, by decide⟩
    | negInf => exact ⟨'-', _, by rw [encode, spellFloat], rfl, by decide⟩
    | nan => exact ⟨'N', _, by rw [encode, spellFloat], rfl, by decide⟩
  | str s => exact ⟨'"', _, by rw [encode], rfl, by decide⟩
  | arr items =>
    cases items with
    | nil => exact ⟨'[', _, by rw [encode], rfl, by decide⟩
    | cons item more => exact ⟨'[', _, by rw [encode], rfl, by decide⟩
  | obj found =>
    cases found with
    | nil => exact ⟨'{', _, by rw [encode], rfl, by decide⟩
    | cons field more => exact ⟨'{', _, by rw [encode], rfl, by decide⟩

end

section
variable {S : Type} [Strings S] (floats : Floats) (limit : ℕ)

mutual
/-- What a text holds and gives back: floats that there are, integers of few digits, strings that read as they were
    written and every key of a dictionary once. -/
def Fine : Json S → Prop
  | .float (.finite q) => floats.exact q
  | .int n => (Nat.toDigits 10 n.natAbs).length ≤ limit
  | .str s => Strings.exact s
  | .arr found => FineItems found
  | .obj found => (Obj.keys found).Nodup ∧ FineFields found
  | _ => True
def FineItems : List (Json S) → Prop
  | [] => True
  | item :: rest => Fine item ∧ FineItems rest
def FineFields : List (S × Json S) → Prop
  | [] => True
  | (key, value) :: rest => Strings.exact key ∧ Fine value ∧ FineFields rest
end

end

section
variable {S : Type} [Strings S] {floats : Floats} {limit : ℕ} {lay : Layout} {rest : List Char}

theorem fineItems_iff {found : List (Json S)} :
    FineItems floats limit found ↔ ∀ item ∈ found, Fine floats limit item := by
  induction found with
  | nil => simp [FineItems]
  | cons item found ih => simp [FineItems, ih]

theorem fineFields_iff {found : Obj S} :
    FineFields floats limit found ↔ ∀ field ∈ found, Strings.exact field.1 ∧ Fine floats limit field.2 := by
  induction found with
  | nil => simp [FineFields]
  | cons field found ih => simp [FineFields, ih, and_assoc]

theorem value_head (lay : Layout) (k : ℕ) {v : Json S} (fine : Fine floats limit v) :
    ∃ c more, encode floats lay k v = c :: more ∧ isBlank c = false ∧ c ≠ ']' := by
  refine encode_head k v ?_
  rintro q rfl
  simpa [Fine] using fine

theorem items_head (lay : Layout) (k : ℕ) {item : Json S} {found : List (Json S)}
    (fine : FineItems floats limit (item :: found)) :
    ∃ c more, encodeItems floats lay k (item :: found) = c :: more ∧ isBlank c = false ∧ c ≠ ']' := by
  obtain ⟨c, more, same, visible, other⟩ := value_head lay k fine.1
  cases found with
  | nil => exact ⟨c, more, by rw [encodeItems, same], visible, other⟩
  | cons next found => exact ⟨c, _, by rw [encodeItems, same]; rfl, visible, other⟩

theorem fields_head (floats : Floats) (lay : Layout) (k : ℕ) (field : S × Json S) (found : Obj S) :
    ∃ more, encodeFields floats lay k (field :: found) = '"' :: more := by
  cases found <;> exact ⟨_, by rw [encodeFields]; rfl⟩

theorem Follow.nil : Follow [] := by simp [Follow]

theorem follow_cons {c : Char} (ends : c.isDigit = false ∧ c ≠ '.' ∧ c ≠ 'e' ∧ c ≠ 'E') : Follow (c :: rest) := by
  intro d same
  obtain rfl : c = d := by simpa using same
  exact ends

theorem follow_blanks {blanks : List Char} (blank : ∀ c ∈ blanks, isBlank c = true) (follow : Follow rest) :
    Follow (blanks ++ rest) := by
  cases blanks with
  | nil => exact follow
  | cons c blanks =>
    have space := blank c (by simp)
    simp only [isBlank, Bool.or_eq_true, beq_iff_eq] at space
    rcases space with ((rfl | rfl) | rfl) | rfl
    all_goals exact follow_cons (by decide)

/-- A reader takes a value from the front of what was written, or ends because it is nested more deeply than it goes. -/
def Takes {S : Type} (element : List Char → Except Fault (Json S × List Char)) (depth : ℕ) (written : List Char)
    (v : Json S) : Prop :=
  ∀ rest, Follow rest → element (written ++ rest) = if depth < v.depth then .error .tooDeep else .ok (v, rest)

variable {element : List Char → Except Fault (Json S × List Char)} {depth : ℕ}

theorem items_taken (k : ℕ) (found : List (Json S)) :
    ∀ (n : ℕ) (before : List (Json S)), found ≠ [] → found.length ≤ n →
    FineItems floats limit found → (∀ v ∈ found, Takes element depth (encode floats lay k v) v) → ∀ rest,
    items element n before (encodeItems floats lay k found ++ (lay.closes k ++ ']' :: rest)) =
      if depth < Json.depthItems found then .error .tooDeep else .ok (.arr (before ++ found), rest) := by
  induction found with
  | nil => exact fun _ _ nonempty => absurd rfl nonempty
  | cons item found ih =>
    intro n before _ enough fine takes rest
    obtain ⟨n, rfl⟩ : ∃ m, n = m + 1 := ⟨n - 1, by simp at enough; omega⟩
    cases found with
    | nil =>
      have first := takes item (by simp) (lay.closes k ++ ']' :: rest)
        (follow_blanks (lay.blank k).2.2.2 (follow_cons (by decide)))
      rw [encodeItems, items, first]
      simp only [Json.depthItems, Nat.max_zero]
      split_ifs
      · rfl
      · simp only [skip_blanks (lay.blank k).2.2.2, skip_cons (show isBlank ']' = false from rfl)]
    | cons next found =>
      have first := takes item (by simp)
        (',' :: (lay.comma k ++ (encodeItems floats lay k (next :: found) ++ (lay.closes k ++ ']' :: rest))))
        (follow_cons (by decide))
      have skipped : skip (lay.comma k ++ (encodeItems floats lay k (next :: found) ++ (lay.closes k ++ ']' :: rest))) =
          encodeItems floats lay k (next :: found) ++ (lay.closes k ++ ']' :: rest) := by
        obtain ⟨c, more, same, visible, _⟩ := items_head lay k fine.2
        rw [skip_blanks (lay.blank k).2.1, same, List.cons_append, skip_cons visible]
      have others := ih n (before ++ [item]) (by simp) (by simpa using enough) fine.2
        (fun v member => takes v (by simp [member])) rest
      rw [encodeItems, List.append_assoc, List.append_assoc, List.cons_append, items, first]
      rw [Json.depthItems]
      split_ifs with deep deeper deeper
      · rfl
      · omega
      · simp only [skip_cons (show isBlank ',' = false from rfl), skipped, others]
        rw [if_pos (by omega)]
      · simp only [skip_cons (show isBlank ',' = false from rfl), skipped, others]
        rw [if_neg (by omega), List.append_assoc]
        rfl

theorem length_items (lay : Layout) (k : ℕ) {found : List (Json S)} (fine : FineItems floats limit found) :
    found.length ≤ (encodeItems floats lay k found).length := by
  induction found with
  | nil => simp
  | cons item found ih =>
    obtain ⟨c, more, same, _⟩ := value_head lay k fine.1
    have others := ih fine.2
    cases found with
    | nil => simp [encodeItems, same]
    | cons next found =>
      simp only [encodeItems, same, List.length_append, List.length_cons] at others ⊢
      omega

theorem length_fields (floats : Floats) (lay : Layout) (k : ℕ) (found : Obj S) :
    found.length ≤ (encodeFields floats lay k found).length := by
  induction found with
  | nil => simp
  | cons field found ih =>
    obtain ⟨key, v⟩ := field
    cases found with
    | nil => simp [encodeFields]
    | cons next found =>
      simp only [encodeFields, List.length_append, List.length_cons] at ih ⊢
      omega

variable [DecidableEq S]

theorem fields_taken [LawfulStrings S] (k : ℕ) (found : Obj S) :
    ∀ (n : ℕ) (before : Obj S), found ≠ [] → found.length ≤ n →
    (Obj.keys (before ++ found)).Nodup → FineFields floats limit found →
    (∀ field ∈ found, Takes element depth (encode floats lay k field.2) field.2) → ∀ rest,
    fields element n before (encodeFields floats lay k found ++ (lay.closes k ++ '}' :: rest)) =
      if depth < Json.depthFields found then .error .tooDeep else .ok (.obj (before ++ found), rest) := by
  induction found with
  | nil => exact fun _ _ nonempty => absurd rfl nonempty
  | cons field found ih =>
    obtain ⟨key, v⟩ := field
    intro n before _ enough distinct fine takes rest
    obtain ⟨n, rfl⟩ : ∃ m, n = m + 1 := ⟨n - 1, by simp at enough; omega⟩
    have fresh : key ∉ Obj.keys before := by
      intro earlier
      rw [Obj.keys, List.map_append, List.nodup_append] at distinct
      exact distinct.2.2 key earlier key (by simp) rfl
    have named (tail : List Char) := LawfulStrings.back key tail fine.1
    obtain ⟨c, more, same, visible, _⟩ := value_head lay k fine.2.1
    have toValue (tail : List Char) : skip (lay.colon ++ (encode floats lay k v ++ tail)) =
        encode floats lay k v ++ tail := by
      rw [skip_blanks (lay.blank k).2.2.1, same, List.cons_append, skip_cons visible]
    have colon (tail : List Char) : skip (':' :: tail) = ':' :: tail := skip_cons rfl
    cases found with
    | nil =>
      have first := takes (key, v) (by simp) (lay.closes k ++ '}' :: rest)
        (follow_blanks (lay.blank k).2.2.2 (follow_cons (by decide)))
      rw [encodeFields]
      simp only [List.append_assoc, List.cons_append, fields, named, colon, toValue, first,
        Json.depthFields, Nat.max_zero]
      split_ifs
      · rfl
      · simp only [skip_blanks (lay.blank k).2.2.2, skip_cons (show isBlank '}' = false from rfl), set_new fresh]
    | cons next found =>
      have first := takes (key, v) (by simp)
        (',' :: (lay.comma k ++ (encodeFields floats lay k (next :: found) ++ (lay.closes k ++ '}' :: rest))))
        (follow_cons (by decide))
      have skipped : skip (lay.comma k ++
        (encodeFields floats lay k (next :: found) ++ (lay.closes k ++ '}' :: rest))) =
          encodeFields floats lay k (next :: found) ++ (lay.closes k ++ '}' :: rest) := by
        obtain ⟨more, same⟩ := fields_head floats lay k next found
        rw [skip_blanks (lay.blank k).2.1, same, List.cons_append, skip_cons rfl]
      have others := ih n (before ++ [(key, v)]) (by simp) (by simpa using enough) (by simpa using distinct) fine.2.2
        (fun field member => takes field (by simp [member])) rest
      rw [encodeFields]
      simp only [List.append_assoc, List.cons_append, fields, named, colon, toValue, first]
      rw [Json.depthFields]
      split_ifs with deep deeper deeper
      · rfl
      · omega
      · simp only [skip_cons (show isBlank ',' = false from rfl), skipped, set_new fresh, others]
        rw [if_pos (by omega)]
      · simp only [skip_cons (show isBlank ',' = false from rfl), skipped, set_new fresh, others]
        rw [if_neg (by omega), List.append_assoc]
        rfl

/-- A number is taken by its parts. -/
theorem parts_taken (p : Parts) (follow : Follow rest) (depth : ℕ) :
    (value floats limit depth (p.chars ++ rest) : Except Fault (Json S × List Char)) =
    if p.fraction = [] ∧ p.exponent = [] then
      if limit < p.whole.length then .error .tooManyDigits else .ok (.int (readInt p.sign p.whole), rest)
    else .ok (.float (floats.read p.chars), rest) := by
  rw [value_parts, number_parts _ _ _ follow]

theorem int_taken (depth k : ℕ) {n : ℤ} (few : (Nat.toDigits 10 n.natAbs).length ≤ limit) :
    Takes (value floats limit depth) depth (encode floats lay k (.int n : Json S)) (.int n : Json S) := by
  intro rest follow
  have fits : ¬ limit < (intParts n).whole.length := not_lt.mpr few
  rw [encode, ← chars_intParts, parts_taken _ follow, if_pos ⟨rfl, rfl⟩, if_neg fits, readInt_spelled,
    if_neg (by simp [Json.depth])]

theorem float_taken (depth k : ℕ) {q : ℚ} (exact : floats.exact q) :
    Takes (value floats limit depth) depth (encode floats lay k (.float (.finite q) : Json S))
      (.float (.finite q) : Json S) := by
  intro rest follow
  obtain ⟨p, same, shape⟩ := floats.spelled q exact
  rw [encode, spellFloat, same, parts_taken p follow, if_neg shape, ← same, floats.back q exact,
    if_neg (by simp [Json.depth])]

theorem str_taken [LawfulStrings S] (depth k : ℕ) {s : S} (exact : Strings.exact s) :
    Takes (value floats limit depth) depth (encode floats lay k (.str s)) (.str s) := by
  intro rest follow
  rw [encode, List.cons_append, value, LawfulStrings.back s rest exact, if_neg (by simp [Json.depth])]

theorem arr_taken {depth k : ℕ} {item : Json S} {found : List (Json S)} (fine : FineItems floats limit (item :: found))
    (takes : ∀ v ∈ item :: found, Takes (value floats limit depth) depth (encode floats lay (k + 1) v) v) :
    Takes (value floats limit (depth + 1)) (depth + 1) (encode floats lay k (.arr (item :: found)))
      (.arr (item :: found)) := by
  intro rest follow
  obtain ⟨c, more, same, visible, other⟩ := items_head lay (k + 1) fine
  have enough := length_items lay (k + 1) fine
  have taken := items_taken (k + 1) (item :: found)
    (encodeItems floats lay (k + 1) (item :: found) ++ (lay.closes (k + 1) ++ ']' :: rest)).length [] (by simp)
    (by rw [List.length_append]; omega) fine takes rest
  have skipped : skip (lay.opens (k + 1) ++
    (encodeItems floats lay (k + 1) (item :: found) ++ (lay.closes (k + 1) ++ ']' :: rest))) =
      encodeItems floats lay (k + 1) (item :: found) ++ (lay.closes (k + 1) ++ ']' :: rest) := by
    rw [skip_blanks (lay.blank (k + 1)).1, same, List.cons_append, skip_cons visible]
  rw [encode]
  simp only [List.append_assoc, List.cons_append, List.nil_append, value, skipped]
  rw [same, List.cons_append] at taken ⊢
  split
  case h_1 closed =>
    obtain ⟨rfl, _⟩ := List.cons.inj closed
    exact absurd rfl other
  case h_2 => rw [taken, Json.depth, List.nil_append]; simp only [Nat.add_lt_add_iff_right]

theorem obj_taken [LawfulStrings S] {depth k : ℕ} {field : S × Json S} {found : Obj S}
    (distinct : (Obj.keys (field :: found)).Nodup)
    (fine : FineFields floats limit (field :: found))
    (takes : ∀ entry ∈ field :: found, Takes (value floats limit depth) depth
      (encode floats lay (k + 1) entry.2) entry.2) :
    Takes (value floats limit (depth + 1)) (depth + 1) (encode floats lay k (.obj (field :: found)))
      (.obj (field :: found)) := by
  intro rest follow
  obtain ⟨more, same⟩ := fields_head floats lay (k + 1) field found
  have enough := length_fields floats lay (k + 1) (field :: found)
  have taken := fields_taken (k + 1) (field :: found)
    (encodeFields floats lay (k + 1) (field :: found) ++ (lay.closes (k + 1) ++ '}' :: rest)).length [] (by simp)
    (by rw [List.length_append]; omega) distinct fine takes rest
  have skipped : skip (lay.opens (k + 1) ++
    (encodeFields floats lay (k + 1) (field :: found) ++ (lay.closes (k + 1) ++ '}' :: rest))) =
      encodeFields floats lay (k + 1) (field :: found) ++ (lay.closes (k + 1) ++ '}' :: rest) := by
    rw [skip_blanks (lay.blank (k + 1)).1, same, List.cons_append, skip_cons rfl]
  rw [encode]
  simp only [List.append_assoc, List.cons_append, List.nil_append, value, skipped]
  rw [same, List.cons_append] at taken ⊢
  split
  case h_1 closed => exact absurd (List.cons.inj closed).1 (by decide)
  case h_2 => rw [taken, Json.depth, List.nil_append]; simp only [Nat.add_lt_add_iff_right]

theorem scalar_taken [LawfulStrings S] (depth k : ℕ) {v : Json S} (flat : v.depth = 0) (fine : Fine floats limit v) :
    Takes (value floats limit depth) depth (encode floats lay k v) v := by
  cases v with
  | null => cases depth <;> exact fun rest _ => rfl
  | bool b => cases b <;> cases depth <;> exact fun rest _ => rfl
  | int n => exact int_taken depth k (by simpa [Fine] using fine)
  | float x =>
    cases x with
    | finite q => exact float_taken depth k (by simpa [Fine] using fine)
    | posInf => cases depth <;> exact fun rest _ => rfl
    | negInf => cases depth <;> exact fun rest _ => rfl
    | nan => cases depth <;> exact fun rest _ => rfl
  | str s => exact str_taken depth k (by simpa [Fine] using fine)
  | arr found => simp [Json.depth] at flat
  | obj found => simp [Json.depth] at flat

/-- A value that was written is read, up to what follows it. -/
theorem value_taken [LawfulStrings S] (lay : Layout) (depth k : ℕ) (v : Json S) (fine : Fine floats limit v) :
    Takes (value floats limit depth) depth (encode floats lay k v) v := by
  induction depth generalizing k v with
  | zero =>
    cases v with
    | arr found => cases found <;> exact fun rest _ => by simp [encode, value, Json.depth]
    | obj found => cases found <;> exact fun rest _ => by simp [encode, value, Json.depth]
    | _ => exact scalar_taken 0 k rfl fine
  | succ depth ih =>
    cases v with
    | arr found =>
      rw [Fine] at fine
      cases found with
      | nil => exact fun rest _ => by simp [encode, value, Json.depth, Json.depthItems, skip, isBlank]
      | cons item found => exact arr_taken fine fun v member => ih (k + 1) v (fineItems_iff.mp fine v member)
    | obj found =>
      rw [Fine] at fine
      cases found with
      | nil => exact fun rest _ => by simp [encode, value, Json.depth, Json.depthFields, skip, isBlank]
      | cons field found =>
        exact obj_taken fine.1 fine.2 fun entry member => ih (k + 1) entry.2 (fineFields_iff.mp fine.2 entry member).2
    | _ => exact scalar_taken _ k rfl fine

end

/-! ### The characters of a text -/

theorem ascii_blanks {blanks : List Char} (blank : ∀ c ∈ blanks, isBlank c = true) : Ascii blanks := by
  intro c member
  have space := blank c member
  simp only [isBlank, Bool.or_eq_true, beq_iff_eq] at space
  rcases space with ((rfl | rfl) | rfl) | rfl <;> decide

theorem ascii_digits {ds : List Char} (digits : ∀ c ∈ ds, c.isDigit = true) : Ascii ds := by
  intro c member
  have digit := digits c member
  simp only [Char.isDigit, Bool.and_eq_true, decide_eq_true_eq] at digit
  have most : c.toNat ≤ 57 := digit.2
  omega

theorem ascii_parts (p : Parts) : Ascii p.chars := by
  have word {chars : List Char} (each : chars.all (·.toNat < 0x80) = true) : Ascii chars := by simpa [Ascii] using each
  have sign : Ascii p.sign := by
    rcases p.signed with same | same <;> rw [same] <;> exact word rfl
  have fraction : Ascii p.fraction := by
    rcases p.pointed with same | ⟨ds, same, digits⟩ <;> rw [same]
    · exact ascii_nil
    · exact ascii_cons.mpr ⟨by decide, ascii_digits digits.2⟩
  have exponent : Ascii p.exponent := by
    rcases p.marked with same | ⟨mark, ds, same, mark, digits⟩ <;> rw [same]
    · exact ascii_nil
    · refine ascii_cons.mpr ⟨by decide, ascii_append.mpr ⟨?_, ascii_digits digits.2⟩⟩
      rcases mark with rfl | rfl | rfl <;> exact word rfl
  exact ascii_append.mpr ⟨ascii_append.mpr ⟨ascii_append.mpr ⟨sign, ascii_digits p.digits.2⟩, fraction⟩, exponent⟩

section
variable {S : Type} [Strings S] {floats : Floats} {limit : ℕ}

mutual
/-- `ensure_ascii`. -/
theorem ascii_encode [LawfulStrings S] (lay : Layout) (k : ℕ) : ∀ v :
    Json S, Fine floats limit v → Ascii (encode floats lay k v)
  | .null, _ => by simp [encode, Ascii]
  | .bool true, _ => by simp [encode, Ascii]
  | .bool false, _ => by simp [encode, Ascii]
  | .int n, _ => by
    rw [encode, ← chars_intParts]
    exact ascii_parts _
  | .float (.finite q), fine => by
    obtain ⟨p, same, _⟩ := floats.spelled q (by simpa [Fine] using fine)
    rw [encode, spellFloat, same]
    exact ascii_parts p
  | .float .posInf, _ => by simp [encode, spellFloat, Ascii]
  | .float .negInf, _ => by simp [encode, spellFloat, Ascii]
  | .float .nan, _ => by simp [encode, spellFloat, Ascii]
  | .str s, _ => by
    rw [encode]
    exact ascii_cons.mpr ⟨by decide, LawfulStrings.ascii s⟩
  | .arr [], _ => by simp [encode, Ascii]
  | .arr (item :: found), fine => by
    have inner := ascii_encodeItems lay (k + 1) (item :: found) (by simpa [Fine] using fine)
    simp only [encode, ascii_cons, ascii_append, inner, ascii_blanks (lay.blank (k + 1)).1,
      ascii_blanks (lay.blank (k + 1)).2.2.2,
      ascii_nil, and_true]
    decide
  | .obj [], _ => by simp [encode, Ascii]
  | .obj (field :: found), fine => by
    rw [Fine] at fine
    have inner := ascii_encodeFields lay (k + 1) (field :: found) fine.2
    simp only [encode, ascii_cons, ascii_append, inner, ascii_blanks (lay.blank (k + 1)).1,
      ascii_blanks (lay.blank (k + 1)).2.2.2,
      ascii_nil, and_true]
    decide
theorem ascii_encodeItems [LawfulStrings S] (lay : Layout) (k : ℕ) : ∀ found :
    List (Json S), FineItems floats limit found → Ascii (encodeItems floats lay k found)
  | [], _ => ascii_nil
  | [item], fine => by
    rw [encodeItems]
    exact ascii_encode lay k item fine.1
  | item :: next :: found, fine => by
    have first := ascii_encode lay k item fine.1
    have others := ascii_encodeItems lay k (next :: found) fine.2
    simp only [encodeItems, ascii_cons, ascii_append, first, others, ascii_blanks (lay.blank k).2.1, and_true, true_and]
    decide
theorem ascii_encodeFields [LawfulStrings S] (lay : Layout) (k : ℕ) : ∀ found :
    List (S × Json S), FineFields floats limit found →
    Ascii (encodeFields floats lay k found)
  | [], _ => ascii_nil
  | [(key, v)], fine => by
    have only := ascii_encode lay k v fine.2.1
    simp only [encodeFields, ascii_cons, ascii_append, only, LawfulStrings.ascii key,
      ascii_blanks (lay.blank k).2.2.1, and_true]
    decide
  | (key, v) :: next :: found, fine => by
    have first := ascii_encode lay k v fine.2.1
    have others := ascii_encodeFields lay k (next :: found) fine.2.2
    simp only [encodeFields, ascii_cons, ascii_append, first, others, LawfulStrings.ascii key,
      ascii_blanks (lay.blank k).2.1, ascii_blanks (lay.blank k).2.2.1, and_true]
    decide
end

/-- A text with a value and blanks after it reads as the value, or fails at the depth limit. -/
theorem loads_encode [DecidableEq S] [LawfulStrings S] (lay : Layout) {v : Json S} (fine : Fine floats limit v)
    {blanks : List Char}
    (blank : ∀ c ∈ blanks, isBlank c = true) (depth k : ℕ) :
    loads floats limit depth (encode floats lay k v ++ blanks) = if depth < v.depth then .error .tooDeep
      else .ok v := by
  obtain ⟨c, more, same, visible, _⟩ := value_head lay k fine
  have ascii : c.toNat < 0x80 := ascii_encode lay k v fine c (by simp [same])
  have noMark : (encode floats lay k v ++ blanks).head? ≠ some '\uFEFF' := by
    rw [same]
    intro mark
    obtain rfl : c = '\uFEFF' := by simpa using mark
    exact absurd ascii (by decide)
  have taken := value_taken lay depth k v fine blanks (by simpa using follow_blanks blank Follow.nil)
  have skipped : skip (encode floats lay k v ++ blanks) = encode floats lay k v ++ blanks := by
    rw [same, List.cons_append, skip_cons visible]
  have nothing : skip blanks = [] := by simpa [skip] using skip_blanks blank []
  rw [loads, if_neg noMark, skipped, taken]
  split_ifs
  · rfl
  · simp only [nothing, if_true]
end

end Ttp.JsonText
