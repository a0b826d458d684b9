import Ttp.Python

/-!
The text of a JSON value, as Python's `json` module writes it and reads it:
escapes, numbers, containers in any layout of blanks, and the limits of the
decoder. The strings of a value are either texts without surrogates or lists of
code points.
-/
namespace Ttp.JsonText
open Ttp.Python

/-- Why a text has no value. -/
inductive Fault where
  | malformed
  | tooDeep
  | tooManyDigits
  /-- A string with half of a surrogate pair, which Python reads on. -/
  | unpaired
deriving DecidableEq

/-- What stands for the strings: what is written of one after its opening quote, what is read there, and which ones
    read as they were written. -/
class Strings (S : Type) where
  spell : S → List Char
  scan : List Char → Except Fault (S × List Char)
  exact : S → Prop

/-! ### Writing -/

def Digits (ds : List Char) : Prop := ds ≠ [] ∧ ∀ c ∈ ds, c.isDigit = true

/-- The parts of a number in a text. -/
structure Parts where
  sign : List Char
  whole : List Char
  fraction : List Char
  exponent : List Char
  signed : sign = [] ∨ sign = ['-']
  digits : Digits whole
  unpadded : whole.head? = some '0' → whole = ['0']
  pointed : fraction = [] ∨ ∃ ds, fraction = '.' :: ds ∧ Digits ds
  marked : exponent = [] ∨ ∃ mark ds, exponent = 'e' :: (mark ++ ds) ∧
    (mark = [] ∨ mark = ['+'] ∨ mark = ['-']) ∧ Digits ds

def Parts.chars (p : Parts) : List Char := p.sign ++ p.whole ++ p.fraction ++ p.exponent

/-- The numbers that are floats, with `float.__repr__` of them and `float` of the text of a number. -/
structure Floats where
  exact : ℚ → Prop
  spell : ℚ → List Char
  read : List Char → Flt
  spelled : ∀ q, exact q → ∃ p : Parts, spell q = p.chars ∧ ¬ (p.fraction = [] ∧ p.exponent = [])
  short : ∀ q, exact q → (spell q).length ≤ 24
  back : ∀ q, exact q → read (spell q) = .finite q

def hexDigit (n : ℕ) : Char := (n % 16).digitChar

/-- `\uXXXX`. -/
def spellUnit (n : ℕ) : List Char := ['\\', 'u', hexDigit (n / 4096), hexDigit (n / 256), hexDigit (n / 16), hexDigit n]

/-- The UTF-16 code units of a character. -/
def unitsOf (c : Char) : List ℕ :=
  if c.toNat < 0x10000 then [c.toNat] else [0xD800 + (c.toNat - 0x10000) / 0x400, 0xDC00 + (c.toNat - 0x10000) % 0x400]

/-- The letter that a character is escaped with, if it has one. -/
def letterOf (c : Char) : Option Char :=
  if c = '"' then some '"' else if c = '\\' then some '\\' else if c = '\n' then some 'n' else if c = '\r' then some 'r'
  else if c = '\t' then some 't' else if c = '\x08' then some 'b' else if c = '\x0c' then some 'f' else none

/-- A character of a string, with `ensure_ascii`. -/
def spellChar (c : Char) : List Char :=
  match letterOf c with
  | some letter => ['\\', letter]
  | none => if ' ' ≤ c ∧ c ≤ '~' then [c] else (unitsOf c).flatMap spellUnit

/-- A code point of a string. -/
def spellPoint (c : Fin 0x110000) : List Char := if isSurrogate c then spellUnit c.val else spellChar (Char.ofNat c.val)

/-- `int.__repr__`. -/
def spellInt (n : ℤ) : List Char := (if n < 0 then ['-'] else []) ++ Nat.toDigits 10 n.natAbs

/-- The words with `allow_nan`. -/
def spellFloat (floats : Floats) : Flt → List Char
  | .finite q => floats.spell q
  | .posInf => ['I', 'n', 'f', 'i', 'n', 'i', 't', 'y']
  | .negInf => ['-', 'I', 'n', 'f', 'i', 'n', 'i', 't', 'y']
  | .nan => ['N', 'a', 'N']

/-- `WHITESPACE`. -/
def isBlank (c : Char) : Bool := c == ' ' || c == '\t' || c == '\n' || c == '\r'

/-- The blanks between the tokens of a container that is the `k`th one from outside. -/
structure Layout where
  opens : ℕ → List Char
  comma : ℕ → List Char
  colon : List Char
  closes : ℕ → List Char
  blank : ∀ k, (∀ c ∈ opens k, isBlank c = true) ∧ (∀ c ∈ comma k, isBlank c = true) ∧ (∀ c ∈ colon, isBlank c = true) ∧
    ∀ c ∈ closes k, isBlank c = true

/-- `json.dumps(value)`. -/
def Layout.compact : Layout where
  opens _ := []
  comma _ := [' ']
  colon := [' ']
  closes _ := []
  blank _ := by simp [isBlank]

/-- `json.dumps(value, indent=width)`. -/
def Layout.indented (width : ℕ) : Layout where
  opens k := '\n' :: List.replicate (width * k) ' '
  comma k := '\n' :: List.replicate (width * k) ' '
  colon := [' ']
  closes k := '\n' :: List.replicate (width * (k - 1)) ' '
  blank k := by
    have line (n : ℕ) : ∀ c ∈ '\n' :: List.replicate n ' ', isBlank c = true := by
      intro c member
      rcases List.mem_cons.mp member with rfl | space
      · rfl
      · rw [List.eq_of_mem_replicate space]
        rfl
    exact ⟨line _, line _, by simp [isBlank], line _⟩

section
variable {S : Type} [Strings S] (floats : Floats) (lay : Layout)

mutual
/-- The text of a value inside `k` containers. -/
def encode (k : ℕ) : Json S → List Char
  | .null => ['n', 'u', 'l', 'l']
  | .bool true => ['t', 'r', 'u', 'e']
  | .bool false => ['f', 'a', 'l', 's', 'e']
  | .int n => spellInt n
  | .float x => spellFloat floats x
  | .str s => '"' :: Strings.spell s
  | .arr [] => ['[', ']']
  | .arr (item :: rest) => '[' ::
      (lay.opens (k + 1) ++ encodeItems (k + 1) (item :: rest) ++ lay.closes (k + 1) ++ [']'])
  | .obj [] => ['{', '}']
  | .obj (field :: rest) =>
    '{' :: (lay.opens (k + 1) ++ encodeFields (k + 1) (field :: rest) ++ lay.closes (k + 1) ++ ['}'])
def encodeItems (k : ℕ) : List (Json S) → List Char
  | [] => []
  | [item] => encode k item
  | item :: next :: rest => encode k item ++ ',' :: lay.comma k ++ encodeItems k (next :: rest)
def encodeFields (k : ℕ) : List (S × Json S) → List Char
  | [] => []
  | [(key, value)] => '"' :: Strings.spell key ++ ':' :: lay.colon ++ encode k value
  | (key, value) :: next :: rest =>
    '"' :: Strings.spell key ++ ':' :: lay.colon ++ encode k value ++ ',' :: lay.comma k ++
      encodeFields k (next :: rest)
end

end

/-! ### Reading -/

/-- The four hexadecimal digits of `\uXXXX`. -/
def hexValue (c : Char) : Option ℕ :=
  if '0' ≤ c ∧ c ≤ '9' then some (c.toNat - '0'.toNat)
  else if 'a' ≤ c ∧ c ≤ 'f' then some (c.toNat - 'a'.toNat + 10)
  else if 'A' ≤ c ∧ c ≤ 'F' then some (c.toNat - 'A'.toNat + 10)
  else none

def readUnit (a b c d : Char) : Option ℕ := do
  let a ← hexValue a
  let b ← hexValue b
  let c ← hexValue c
  let d ← hexValue d
  some (((a * 16 + b) * 16 + c) * 16 + d)

/-- The character that is escaped with a letter. -/
def charOf : Char → Option Char
  | '"' => some '"'
  | '\\' => some '\\'
  | '/' => some '/'
  | 'b' => some '\x08'
  | 'f' => some '\x0c'
  | 'n' => some '\n'
  | 'r' => some '\r'
  | 't' => some '\t'
  | _ => none

/-- The code points and escaped code units up to the closing quote, and what follows it. -/
def units : List Char → Except Fault (List ℕ × List Char)
  | '"' :: rest => .ok ([], rest)
  | '\\' :: 'u' :: a :: b :: c :: d :: rest =>
    match readUnit a b c d, units rest with
    | some n, .ok (ns, rest) => .ok (n :: ns, rest)
    | some _, .error e => .error e
    | none, _ => .error .malformed
  | '\\' :: letter :: rest =>
    match charOf letter, units rest with
    | some c, .ok (ns, rest) => .ok (c.toNat :: ns, rest)
    | some _, .error e => .error e
    | none, _ => .error .malformed
  | c :: rest =>
    if c = '\\' ∨ c.toNat < 0x20 then .error .malformed
    else
      match units rest with
      | .ok (ns, rest) => .ok (c.toNat :: ns, rest)
      | .error e => .error e
  | [] => .error .malformed

/-- Surrogate pairs put together. -/
def join : List ℕ → List ℕ
  | high :: low :: rest =>
    if 0xD800 ≤ high ∧ high < 0xDC00 ∧ 0xDC00 ≤ low ∧ low < 0xE000 then
      (0x10000 + (high - 0xD800) * 0x400 + (low - 0xDC00)) :: join rest
    else high :: join (low :: rest)
  | short => short

def character (n : ℕ) : Option Char := if n.isValidChar then some (Char.ofNat n) else none

/-- `scanstring`, after the opening quote. -/
def text (chars : List Char) : Except Fault (String × List Char) :=
  match units chars with
  | .error e => .error e
  | .ok (ns, rest) =>
    match (join ns).mapM character with
    | some cs => .ok (String.ofList cs, rest)
    | none => .error .unpaired

instance : Strings String where
  spell s := s.toList.flatMap spellChar ++ ['"']
  scan := text
  exact _ := True

/-- The same by code points, of which none is beyond the last one. -/
def points (chars : List Char) : Except Fault (PyText × List Char) :=
  match units chars with
  | .error e => .error e
  | .ok (ns, rest) => .ok ((join ns).map fun n => ⟨n % 0x110000, Nat.mod_lt n (by decide)⟩, rest)

instance : Strings PyText where
  spell s := s.flatMap spellPoint ++ ['"']
  scan := points
  exact := PyText.Whole

def scanSign : List Char → List Char × List Char
  | '-' :: rest => (['-'], rest)
  | rest => ([], rest)

def scanWhole : List Char → Option (List Char × List Char)
  | '0' :: rest => some (['0'], rest)
  | c :: rest => if c.isDigit then some (c :: rest.takeWhile Char.isDigit, rest.dropWhile Char.isDigit) else none
  | [] => none

def scanFraction : List Char → List Char × List Char
  | '.' :: c :: rest =>
    if c.isDigit then ('.' :: c :: rest.takeWhile Char.isDigit, rest.dropWhile Char.isDigit) else ([], '.' :: c :: rest)
  | rest => ([], rest)

def scanMark : List Char → List Char × List Char
  | '+' :: rest => (['+'], rest)
  | '-' :: rest => (['-'], rest)
  | rest => ([], rest)

def scanExponent : List Char → List Char × List Char
  | c :: rest =>
    if c = 'e' ∨ c = 'E' then
      let (mark, digits) := scanMark rest
      if digits.head?.any Char.isDigit then (c :: mark ++ digits.takeWhile Char.isDigit, digits.dropWhile Char.isDigit)
      else ([], c :: rest)
    else ([], c :: rest)
  | [] => ([], [])

/-- `int(text)`, for the sign and the digits. -/
def readInt (sign digits : List Char) : ℤ :=
  if sign = [] then Nat.ofDigitChars 10 digits 0 else -Nat.ofDigitChars 10 digits 0

section
variable {S : Type} (floats : Floats) (limit : ℕ)

/-- `_match_number`, with at most `limit` digits in an integer. -/
def number (chars : List Char) : Except Fault (Json S × List Char) :=
  let (sign, unsigned) := scanSign chars
  match scanWhole unsigned with
  | none => .error .malformed
  | some (whole, rest) =>
    let (fraction, rest) := scanFraction rest
    let (exponent, rest) := scanExponent rest
    if fraction = [] ∧ exponent = [] then
      if limit < whole.length then .error .tooManyDigits else .ok (.int (readInt sign whole), rest)
    else .ok (.float (floats.read (sign ++ whole ++ fraction ++ exponent)), rest)

def skip (chars : List Char) : List Char := chars.dropWhile isBlank

/-- The rest of an array after its bracket and the items in `before`; every item takes a character of the `n` at
    least. -/
def items (element : List Char → Except Fault (Json S × List Char)) :
    ℕ → List (Json S) → List Char → Except Fault (Json S × List Char)
  | 0, _, _ => .error .malformed
  | n + 1, before, chars =>
    match element chars with
    | .error e => .error e
    | .ok (item, rest) =>
      match skip rest with
      | ']' :: rest => .ok (.arr (before ++ [item]), rest)
      | ',' :: rest => items element n (before ++ [item]) (skip rest)
      | _ => .error .malformed

variable [Strings S] [DecidableEq S]

/-- The rest of an object after its brace and the fields in `before`. -/
def fields (element : List Char → Except Fault (Json S × List Char)) :
    ℕ → Obj S → List Char → Except Fault (Json S × List Char)
  | n + 1, before, '"' :: chars =>
    match Strings.scan chars with
    | .error e => .error e
    | .ok (key, rest) =>
      match skip rest with
      | ':' :: rest =>
        match element (skip rest) with
        | .error e => .error e
        | .ok (value, rest) =>
          match skip rest with
          | '}' :: rest => .ok (.obj (before.set key value), rest)
          | ',' :: rest => fields element n (before.set key value) (skip rest)
          | _ => .error .malformed
      | _ => .error .malformed
  | _, _, _ => .error .malformed

/-- The value at the beginning of a text, and what follows it; containers may be nested `depth` times. -/
def value : ℕ → List Char → Except Fault (Json S × List Char)
  | _, '"' :: rest =>
    match Strings.scan rest with
    | .ok (s, rest) => .ok (.str s, rest)
    | .error e => .error e
  | 0, '{' :: _ => .error .tooDeep
  | 0, '[' :: _ => .error .tooDeep
  | depth + 1, '{' :: rest =>
    match skip rest with
    | '}' :: rest => .ok (.obj [], rest)
    | first => fields (value depth) first.length [] first
  | depth + 1, '[' :: rest =>
    match skip rest with
    | ']' :: rest => .ok (.arr [], rest)
    | first => items (value depth) first.length [] first
  | _, 'n' :: 'u' :: 'l' :: 'l' :: rest => .ok (.null, rest)
  | _, 't' :: 'r' :: 'u' :: 'e' :: rest => .ok (.bool true, rest)
  | _, 'f' :: 'a' :: 'l' :: 's' :: 'e' :: rest => .ok (.bool false, rest)
  | _, 'N' :: 'a' :: 'N' :: rest => .ok (.float .nan, rest)
  | _, 'I' :: 'n' :: 'f' :: 'i' :: 'n' :: 'i' :: 't' :: 'y' :: rest => .ok (.float .posInf, rest)
  | _, '-' :: 'I' :: 'n' :: 'f' :: 'i' :: 'n' :: 'i' :: 't' :: 'y' :: rest => .ok (.float .negInf, rest)
  | _, chars => number floats limit chars

/-- `json.loads(text)`. -/
def loads (depth : ℕ) (chars : List Char) : Except Fault (Json S) :=
  if chars.head? = some '\uFEFF' then .error .malformed
  else
    match value floats limit depth (skip chars) with
    | .error e => .error e
    | .ok (found, rest) => if skip rest = [] then .ok found else .error .malformed

end

end Ttp.JsonText
