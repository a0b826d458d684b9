import Mathlib.Data.Rat.Defs
import Mathlib.Algebra.Order.Ring.Rat

/-!
The Python values and exceptions that the session code handles: JSON values and
dictionaries, what decoding a file gives, and the classes the `except` clauses
name. Floats are the rationals they denote, with the three that denote none.
-/
namespace Ttp.Python

/-! ### Values -/

inductive Flt where
  | finite (q : ℚ)
  | posInf
  | negInf
  | nan
  deriving DecidableEq, Repr

/-- A JSON value, by what stands for the strings in it. -/
inductive Json (S : Type := String) where
  | null
  | bool (b : Bool)
  | int (n : Int)
  | float (x : Flt)
  | str (s : S)
  | arr (items : List (Json S))
  | obj (fields : List (S × Json S))

/-- A dictionary in insertion order, each key once. -/
abbrev Obj (S : Type := String) := List (S × Json S)

section
variable {S : Type} [DecidableEq S]

def Obj.find? (data : Obj S) (key : S) : Option (Json S) := (List.find? (·.1 == key) data).map (·.2)

/-- `data.get(key)`: a missing key reads as null. -/
def Obj.get (data : Obj S) (key : S) : Json S := (data.find? key).getD .null

/-- `data[key] = value`: in place, or at the end for a new key. -/
def Obj.set : Obj S → S → Json S → Obj S
  | [], key, value => [(key, value)]
  | (k, v) :: rest, key, value => if k == key then (k, value) :: rest else (k, v) :: Obj.set rest key value

/-- `data.update(changes)`. -/
def Obj.update (data changes : Obj S) : Obj S := changes.foldl (fun d kv => Obj.set d kv.1 kv.2) data

end

def Obj.keys {S : Type} (data : Obj S) : List S := data.map (·.1)

/-- The truth value of an object in a Python condition. -/
def Json.truthy : Json → Bool
  | .null => false
  | .bool b => b
  | .int n => n != 0
  | .float x => x != .finite 0
  | .str s => s != ""
  | .arr items => !items.isEmpty
  | .obj fields => !fields.isEmpty

/-- `value == text` for a string `text`. -/
def Json.isStr (value : Json) (text : String) : Bool :=
  match value with
  | .str s => s == text
  | _ => false

/-- `isinstance(value, str)`, with the string. -/
def Json.str? : Json → Option String
  | .str s => some s
  | _ => none

/-- The number that a value equals in a comparison: bool counts as 0 or 1. -/
def Json.numeric : Json → Option Flt
  | .bool b => some (.finite (if b then 1 else 0))
  | .int n => some (.finite n)
  | .float .nan => none
  | .float x => some x
  | _ => none

mutual
/-- `a == b`. -/
def Json.eq : Json → Json → Bool
  | .null, .null => true
  | .str a, .str b => a == b
  | .arr a, .arr b => eqItems a b
  | .obj a, .obj b => a.length == b.length && eqFields a b
  | a, b =>
    match a.numeric, b.numeric with
    | some x, some y => x == y
    | _, _ => false
def Json.eqItems : List Json → List Json → Bool
  | [], [] => true
  | a :: restA, b :: restB => a.eq b && eqItems restA restB
  | _, _ => false
def Json.eqFields : List (String × Json) → List (String × Json) → Bool
  | [], _ => true
  | (key, a) :: rest, other =>
    (match Obj.find? other key with
      | some b => a.eq b
      | none => false) && eqFields rest other
end

mutual
/-- The same value, field by field. -/
def Json.same : Json → Json → Bool
  | .null, .null => true
  | .bool a, .bool b => a == b
  | .int a, .int b => a == b
  | .float a, .float b => a == b
  | .str a, .str b => a == b
  | .arr a, .arr b => sameItems a b
  | .obj a, .obj b => sameFields a b
  | _, _ => false
def Json.sameItems : List Json → List Json → Bool
  | [], [] => true
  | a :: restA, b :: restB => a.same b && sameItems restA restB
  | _, _ => false
def Json.sameFields : List (String × Json) → List (String × Json) → Bool
  | [], [] => true
  | (k, a) :: restA, (l, b) :: restB => k == l && (a.same b && sameFields restA restB)
  | _, _ => false
end

mutual
theorem same_eq : ∀ {a b : Json}, a.same b = true ↔ a = b
  | .null, b => by cases b <;> simp [Json.same]
  | .bool _, b => by cases b <;> simp [Json.same]
  | .int _, b => by cases b <;> simp [Json.same]
  | .float _, b => by cases b <;> simp [Json.same]
  | .str _, b => by cases b <;> simp [Json.same]
  | .arr items, b => by cases b <;> simp [Json.same, @sameItems_eq items]
  | .obj fields, b => by cases b <;> simp [Json.same, @sameFields_eq fields]
theorem sameItems_eq : ∀ {a b : List Json}, Json.sameItems a b = true ↔ a = b
  | [], b => by cases b <;> simp [Json.sameItems]
  | item :: rest, b => by cases b <;> simp [Json.sameItems, @same_eq item, @sameItems_eq rest]
theorem sameFields_eq : ∀ {a b : List (String × Json)}, Json.sameFields a b = true ↔ a = b
  | [], b => by cases b <;> simp [Json.sameFields]
  | (key, value) :: rest, b => by
    cases b <;> simp [Json.sameFields, @same_eq value, @sameFields_eq rest, Prod.ext_iff, and_assoc]
end

instance : DecidableEq Json := fun _ _ => decidable_of_iff _ same_eq

mutual
/-- How many containers are nested in each other. -/
def Json.depth {S : Type} : Json S → Nat
  | .arr items => depthItems items + 1
  | .obj fields => depthFields fields + 1
  | _ => 0
def Json.depthItems {S : Type} : List (Json S) → Nat
  | [] => 0
  | item :: rest => max item.depth (depthItems rest)
def Json.depthFields {S : Type} : List (S × Json S) → Nat
  | [] => 0
  | (_, value) :: rest => max value.depth (depthFields rest)
end

/-- A Python int converts to a float unless it rounds beyond the largest one. -/
def floatOverflow (n : Int) : Bool := n.natAbs ≥ 2 ^ 1024 - 2 ^ 970

section
variable {S : Type} [DecidableEq S] {data : Obj S} {key other : S} {value : Json S}

@[simp] theorem find?_nil : Obj.find? [] key = none := rfl

theorem find?_cons (k : S) (v : Json S) (rest : Obj S) :
    Obj.find? ((k, v) :: rest) key = if k = key then some v else Obj.find? rest key := by
  by_cases same : k = key <;> simp [Obj.find?, same]

@[simp] theorem find?_set : (data.set key value).find? other = if key = other then some value
    else data.find? other := by
  induction data with
  | nil => simp [Obj.set, find?_cons]
  | cons kv rest ih =>
    obtain ⟨k, v⟩ := kv
    by_cases here : k = key
    · subst here
      simp only [Obj.set, beq_self_eq_true, if_true, find?_cons]
      split <;> rfl
    · simp only [Obj.set, beq_iff_eq, here, if_false, find?_cons, ih]
      by_cases same : k = other
      · subst same
        simp [Ne.symm here]
      · simp [same]

@[simp] theorem get_set : (data.set key value).get other = if key = other then value else data.get other := by
  simp only [Obj.get, find?_set]
  split <;> rfl

/-- Keys that the changes do not name keep their values. -/
theorem find?_update (changes : Obj S) (untouched : other ∉ changes.keys) :
    (data.update changes).find? other = data.find? other := by
  induction changes generalizing data with
  | nil => rfl
  | cons kv rest ih =>
    simp only [Obj.keys, List.map_cons, List.mem_cons, not_or] at untouched
    have step : (data.update (kv :: rest)) = (data.set kv.1 kv.2).update rest := rfl
    rw [step, ih untouched.2, find?_set, if_neg (Ne.symm untouched.1)]

theorem get_update (changes : Obj S) (untouched : other ∉ changes.keys) :
    (data.update changes).get other = data.get other := by
  rw [Obj.get, find?_update changes untouched, Obj.get]

theorem set_new (fresh : key ∉ data.keys) (value : Json S) : data.set key value = data ++ [(key, value)] := by
  induction data with
  | nil => rfl
  | cons kv rest ih =>
    obtain ⟨k, v⟩ := kv
    simp only [Obj.keys, List.map_cons, List.mem_cons, not_or] at fresh
    have apart : (k == key) = false := beq_eq_false_iff_ne.mpr (Ne.symm fresh.1)
    rw [Obj.set, apart, if_neg Bool.false_ne_true, ih fresh.2]
    rfl

/-- Changes to new keys come after the others. -/
theorem update_new (changes : Obj S) (distinct : (data ++ changes).keys.Nodup) :
    data.update changes = data ++ changes := by
  induction changes generalizing data with
  | nil => simp [Obj.update]
  | cons kv rest ih =>
    obtain ⟨k, v⟩ := kv
    have moved : (data ++ [(k, v)]) ++ rest = data ++ (k, v) :: rest := by simp
    have fresh : k ∉ data.keys := by
      intro member
      simp only [Obj.keys, List.map_append, List.map_cons] at distinct member
      exact (List.nodup_append.mp distinct).2.2 k member k List.mem_cons_self rfl
    have step : data.update ((k, v) :: rest) = (data.set k v).update rest := rfl
    rw [step, set_new fresh v, ih (by rwa [moved]), moved]

end

/-! ### Equality -/

theorem isStr_eq {value : Json} {text : String} (same : value.isStr text = true) : value = .str text := by
  cases value <;> simp [Json.isStr] at same
  rw [same]

@[simp] theorem eq_null {b : Json} : Json.null.eq b = true ↔ b = .null := by
  cases b <;> simp [Json.eq, Json.numeric]

@[simp] theorem eq_str {s : String} {b : Json} : (Json.str s).eq b = true ↔ b = .str s := by
  cases b with
  | str t =>
    simp only [Json.eq, beq_iff_eq, Json.str.injEq]
    exact eq_comm
  | _ => simp [Json.eq, Json.numeric]

theorem eq_arr {items : List Json} {b : Json} :
    (Json.arr items).eq b = true ↔ ∃ others, b = .arr others ∧ Json.eqItems items others = true := by
  cases b <;> simp [Json.eq, Json.numeric]

theorem eq_obj {fields : Obj} {b : Json} : (Json.obj fields).eq b = true ↔
    ∃ others, b = .obj others ∧ fields.length = others.length ∧ Json.eqFields fields others = true := by
  cases b <;> simp [Json.eq, Json.numeric]

@[simp] theorem eqItems_nil {others : List Json} : Json.eqItems [] others = true ↔ others = [] := by
  cases others <;> simp [Json.eqItems]

theorem eqItems_cons {a : Json} {rest others : List Json} : Json.eqItems (a :: rest) others = true ↔
    ∃ b tail, others = b :: tail ∧ a.eq b = true ∧ Json.eqItems rest tail = true := by
  cases others <;> simp [Json.eqItems]

@[simp] theorem eqFields_nil {others : Obj} : Json.eqFields [] others = true := by simp [Json.eqFields]

theorem eqFields_cons {key : String} {a : Json} {rest others : Obj} :
    Json.eqFields ((key, a) :: rest) others = true ↔
      (∃ b, others.find? key = some b ∧ a.eq b = true) ∧ Json.eqFields rest others = true := by
  cases found : others.find? key <;> simp [Json.eqFields, found]

theorem eq_single {key : String} {a b : Json} :
    (Json.obj [(key, a)]).eq b = true ↔ ∃ v, b = .obj [(key, v)] ∧ a.eq v = true := by
  rw [eq_obj]
  constructor
  · rintro ⟨others, rfl, length, fields⟩
    obtain ⟨⟨k, v⟩, rfl⟩ := List.length_eq_one_iff.mp length.symm
    obtain ⟨⟨found, stated, same⟩, _⟩ := eqFields_cons.mp fields
    by_cases here : k = key
    · rw [find?_cons, if_pos here, Option.some.injEq] at stated
      exact ⟨v, by rw [here], stated ▸ same⟩
    · rw [find?_cons, if_neg here, find?_nil] at stated
      cases stated
  · rintro ⟨v, rfl, same⟩
    exact ⟨_, rfl, rfl, eqFields_cons.mpr ⟨⟨v, by simp [find?_cons], same⟩, eqFields_nil⟩⟩
/-! ### Exceptions -/

inductive Exc where
  /-- `OSError`, by the name of its class. -/
  | osError (kind : String)
  | valueError (message : String)
  | jsonDecodeError
  | unicodeDecodeError
  | unicodeEncodeError
  | recursionError
  | overflowError
  | keyError
  | typeError
  | attributeError
  | calledProcessError
  | timeoutExpired
  | unsafeBinaryError (message : String)
  | stateError (message : String)
  | settingsError (message : String)
  | firewallError (message : String)
  | dnsError (message : String)
  | torError (message : String)
  /-- What the console raises for a text that is no markup. -/
  | markupError
  /-- `typer.Exit`. -/
  | exit (code : Nat)
  /-- `CheckDeadline` and `SystemExit`, which `except Exception` does not catch. -/
  | checkDeadline
  | systemExit (code : Nat)
  deriving DecidableEq, Repr

namespace Exc

def isOSError : Exc → Bool
  | .osError _ => true
  | _ => false

/-- `ValueError` and its subclasses. -/
def isValueError : Exc → Bool
  | .valueError _ | .jsonDecodeError | .unicodeDecodeError | .unicodeEncodeError => true
  | _ => false

def isStateError : Exc → Bool
  | .stateError _ => true
  | _ => false

def isSettingsError : Exc → Bool
  | .settingsError _ => true
  | _ => false

def isFirewallError : Exc → Bool
  | .firewallError _ => true
  | _ => false

def isUnsafeBinaryError : Exc → Bool
  | .unsafeBinaryError _ => true
  | _ => false

/-- `except Exception`. -/
def isException : Exc → Bool
  | .checkDeadline | .systemExit _ => false
  | _ => true

/-- `type(exc).__name__`. -/
def typeName : Exc → String
  | .osError kind => kind
  | .valueError _ => "ValueError"
  | .jsonDecodeError => "JSONDecodeError"
  | .unicodeDecodeError => "UnicodeDecodeError"
  | .unicodeEncodeError => "UnicodeEncodeError"
  | .recursionError => "RecursionError"
  | .overflowError => "OverflowError"
  | .keyError => "KeyError"
  | .typeError => "TypeError"
  | .attributeError => "AttributeError"
  | .calledProcessError => "CalledProcessError"
  | .timeoutExpired => "TimeoutExpired"
  | .unsafeBinaryError _ => "UnsafeBinaryError"
  | .stateError _ => "StateError"
  | .settingsError _ => "SettingsError"
  | .firewallError _ => "FirewallError"
  | .dnsError _ => "DNSError"
  | .torError _ => "TorError"
  | .markupError => "MarkupError"
  | .exit _ => "Exit"
  | .checkDeadline => "CheckDeadline"
  | .systemExit _ => "SystemExit"

/-- `str(exc)`, empty where the interpreter words it. -/
def text : Exc → String
  | .valueError message | .unsafeBinaryError message | .stateError message | .settingsError message
  | .firewallError message | .dnsError message | .torError message => message
  | _ => ""

end Exc

/-! ### Strings -/

/-- A Python string, by its code points; a JSON text can hold single surrogates. -/
abbrev PyText : Type := List (Fin 0x110000)

def isSurrogate (c : Fin 0x110000) : Bool := 0xD800 ≤ c.val && c.val ≤ 0xDFFF

def isHigh (c : Fin 0x110000) : Bool := 0xD800 ≤ c.val && c.val < 0xDC00

def isLow (c : Fin 0x110000) : Bool := 0xDC00 ≤ c.val && c.val < 0xE000

theorem char_lt (c : Char) : c.toNat < 0x110000 := by
  rcases c.valid with low | high
  · exact Nat.lt_trans low (by decide)
  · exact high.2

namespace PyText

/-- A string without surrogates. -/
def of (s : String) : PyText := s.toList.map fun c => ⟨c.toNat, char_lt c⟩

/-- `text.encode()`, by the characters that it encodes. -/
def encode (text : PyText) : Except Exc String :=
  if text.any isSurrogate then .error .unicodeEncodeError else .ok (String.ofList (text.map fun c => Char.ofNat c.val))

/-- No high surrogate stands before a low one, which JSON would write as it writes the code point of the pair. -/
def Whole (text : PyText) : Prop := text.IsChain fun high low => ¬ (isHigh high = true ∧ isLow low = true)

/-- The code point of a pair. -/
def pair (high low : Fin 0x110000) : Fin 0x110000 := ⟨0x10000 + high.val % 0x400 * 0x400 + low.val % 0x400, by omega⟩

/-- The surrogate pairs put together. -/
def joined : PyText → PyText
  | high :: low :: rest => if isHigh high && isLow low then pair high low :: joined rest
      else high :: joined (low :: rest)
  | short => short

end PyText

theorem toNat_char {c : Fin 0x110000} (plain : isSurrogate c = false) : (Char.ofNat c.val).toNat = c.val := by
  have valid : c.val.isValidChar := by
    simp only [isSurrogate, Bool.and_eq_false_iff, decide_eq_false_iff_not, Nat.not_le] at plain
    unfold Nat.isValidChar
    have := c.isLt
    omega
  rw [Char.ofNat, dif_pos valid]
  rfl

theorem char_plain (c : Char) : isSurrogate ⟨c.toNat, char_lt c⟩ = false := by
  have valid := c.valid
  simp only [isSurrogate, Bool.and_eq_false_iff, decide_eq_false_iff_not, Nat.not_le]
  show c.toNat < 0xD800 ∨ 0xDFFF < c.toNat
  rcases valid with low | high
  · exact .inl low
  · exact .inr high.1

theorem encode_of (s : String) : (PyText.of s).encode = .ok s := by
  have plain : (PyText.of s).any isSurrogate = false := by simp [PyText.of, char_plain]
  rw [PyText.encode, if_neg (by simp [plain]), PyText.of, List.map_map]
  have same : (fun c : Fin 0x110000 => Char.ofNat c.val) ∘ (fun c : Char => ⟨c.toNat, char_lt c⟩) = id := by
    funext c
    exact Char.ofNat_toNat c
  rw [same, List.map_id, String.ofList_toList]

@[simp] theorem of_inj {a b : String} : PyText.of a = PyText.of b ↔ a = b := by
  constructor
  · intro same
    have encoded := congrArg PyText.encode same
    rw [encode_of, encode_of] at encoded
    exact Except.ok.inj encoded
  · rintro rfl
    rfl

theorem plain_whole {text : PyText} (plain : ∀ c ∈ text, isSurrogate c = false) : text.Whole := by
  have single {high : Fin 0x110000} (apart : isSurrogate high = false) : isHigh high = false := by
    simp only [isSurrogate, isHigh, Bool.and_eq_false_iff, decide_eq_false_iff_not] at apart ⊢
    omega
  induction text with
  | nil => exact .nil
  | cons high rest ih =>
    have whole := ih fun c member => plain c (List.mem_cons_of_mem high member)
    cases rest with
    | nil => exact .singleton high
    | cons low rest => exact .cons_cons (by simp [single (plain high List.mem_cons_self)]) whole

/-- What can be encoded is whole. -/
theorem encode_whole {text : PyText} {s : String} (encoded : text.encode = .ok s) : text.Whole := by
  unfold PyText.encode at encoded
  split_ifs at encoded with surrogates
  exact plain_whole fun c member => by simpa using (List.any_eq_false.mp (Bool.not_eq_true _ ▸ surrogates)) c member

theorem of_whole (s : String) : (PyText.of s).Whole := encode_whole (encode_of s)

theorem joined_whole {text : PyText} (whole : text.Whole) : text.joined = text := by
  induction text with
  | nil => rfl
  | cons high rest ih =>
    cases rest with
    | nil => rfl
    | cons low rest =>
      obtain ⟨apart, whole⟩ := List.isChain_cons_cons.mp whole
      have single : (isHigh high && isLow low) = false := by simpa using apart
      rw [PyText.joined, single, if_neg Bool.false_ne_true, ih whole]

/-! ### Reading and writing JSON -/

theorem bind_ok {α β : Type} {x : Except Exc α} {f : α → Except Exc β} {b : β} (bound : x >>= f = .ok b) :
    ∃ a, x = .ok a ∧ f a = .ok b := by
  cases x with
  | ok a => exact ⟨a, rfl, bound⟩
  | error e => simp [bind, Except.bind] at bound

/-- A file by what opening it and decoding it as JSON gives. -/
inductive Loaded where
  | missing
  /-- The file or its directory cannot be opened or read, by the class of the error. -/
  | ioError (kind : String)
  /-- The bytes are not UTF-8. -/
  | notUtf8
  /-- Not JSON. -/
  | malformed
  /-- Nested more deeply than the decoder goes. -/
  | tooDeep
  /-- An integer of more digits than `int` converts. -/
  | tooManyDigits
  | json (value : Json)

/-- `json.loads(path.read_text())`. -/
def Loaded.loads : Loaded → Except Exc Json
  | .missing => .error (.osError "FileNotFoundError")
  | .ioError kind => .error (.osError kind)
  | .notUtf8 => .error .unicodeDecodeError
  | .malformed => .error .jsonDecodeError
  | .tooDeep => .error .recursionError
  | .tooManyDigits => .error (.valueError "Exceeds the limit for integer string conversion")
  | .json value => .ok value

/-- What the bytes of a text decode to as JSON. -/
inductive Content (S : Type := String) where
  | notUtf8
  | malformed
  /-- Nested more deeply than the decoder goes. -/
  | tooDeep
  /-- An integer of more digits than `int` converts. -/
  | tooManyDigits
  | json (value : Json S)

/-- `json.loads(content)`. -/
def Content.loads {S : Type} : Content S → Except Exc (Json S)
  | .notUtf8 => .error .unicodeDecodeError
  | .malformed => .error .jsonDecodeError
  | .tooDeep => .error .recursionError
  | .tooManyDigits => .error (.valueError "Exceeds the limit for integer string conversion")
  | .json value => .ok value

/-- The limits and library predicates of the interpreter the code runs on. -/
structure Interpreter where
  /-- How deep a value `dataclasses.asdict` copies. -/
  copyDepth : Nat
  /-- How deep a value `json.dumps` encodes. -/
  encodeDepth : Nat
  /-- `str(value)` of a number or a container. -/
  worded : Json → String
  /-- The strings that `uuid.UUID` accepts. -/
  isUuid : String → Bool
  /-- The strings that `str.encode` takes, those without a surrogate; which ones have one is left open, as no
      `String` has one itself. -/
  encodes : String → Bool := fun _ => true
  /-- The decimal digit that a character is in some script. -/
  decimal : Char → Option Nat := fun c => if c.isDigit then some (c.toNat - '0'.toNat) else none
  /-- The float that a sum is rounded to. -/
  round : ℚ → ℚ
  /-- What is ASCII has no surrogate. -/
  ascii : ∀ s : String, (∀ c ∈ s.toList, c.toNat < 128) → encodes s = true
  /-- The records that the code itself builds can be encoded. -/
  shallow : 8 ≤ encodeDepth

/-- `str(value)`. -/
def Json.text (py : Interpreter) : Json → String
  | .null => "None"
  | .bool true => "True"
  | .bool false => "False"
  | .str s => s
  | value => py.worded value

/-- `2 ** n`. -/
def powerOfTwo : Int → ℚ
  | .ofNat n => 2 ^ n
  | .negSucc n => 1 / 2 ^ (n + 1)

/-- The integer nearest to a number: halves go to the even one. -/
def halfEven (q : ℚ) : Int :=
  let rest := q - q.floor
  if rest < 1 / 2 ∨ (rest = 1 / 2 ∧ q.floor % 2 = 0) then q.floor else q.floor + 1

/-- The float nearest to a number, 53 bits of it. -/
def nearestFloat (q : ℚ) : ℚ :=
  let guess : Int := q.num.natAbs.log2 - q.den.log2
  let exponent := if (q.num.natAbs : ℚ) < powerOfTwo guess * q.den then guess - 1 else guess
  let unit := powerOfTwo (max (exponent - 52) (-1074))
  halfEven (q / unit) * unit

/-- Limits as CPython has them; a UUID is 32 hexadecimal digits, hyphens aside. -/
def Interpreter.cpython : Interpreter where
  copyDepth := 400
  encodeDepth := 900
  worded := fun _ => ""
  isUuid := fun s =>
    let digits := s.toList.filter (· != '-')
    digits.length == 32 && digits.all fun c => c.isDigit || ('a' ≤ c && c ≤ 'f') || ('A' ≤ c && c ≤ 'F')
  round := nearestFloat
  ascii := fun _ _ => rfl
  shallow := by decide

mutual
/-- `json.dumps(value, allow_nan=False)` at `fuel` levels below the encoder's limit: whether it
    raises, and what comes first. -/
def Json.dumps {S : Type} (fuel : Nat) : Json S → Except Exc Unit
  | .float (.finite _) => .ok ()
  | .float _ => .error (.valueError "Out of range float values are not JSON compliant")
  | .arr items =>
    match fuel with
    | 0 => .error .recursionError
    | fuel + 1 => dumpsItems fuel items
  | .obj fields =>
    match fuel with
    | 0 => .error .recursionError
    | fuel + 1 => dumpsFields fuel fields
  | _ => .ok ()
def Json.dumpsItems {S : Type} (fuel : Nat) : List (Json S) → Except Exc Unit
  | [] => .ok ()
  | item :: rest =>
    match item.dumps fuel with
    | .ok _ => dumpsItems fuel rest
    | .error e => .error e
def Json.dumpsFields {S : Type} (fuel : Nat) : List (S × Json S) → Except Exc Unit
  | [] => .ok ()
  | (_, value) :: rest =>
    match value.dumps fuel with
    | .ok _ => dumpsFields fuel rest
    | .error e => .error e
end

mutual
/-- Encoding fails on a float that JSON has no word for or at the depth limit, and not otherwise. -/
theorem dumps_error {S : Type} (fuel : Nat) (e : Exc) : ∀ value : Json S, value.dumps fuel = .error e →
    e.isValueError = true ∨ e = .recursionError
  | .float (.finite _), failed => by simp [Json.dumps] at failed
  | .float .posInf, failed => by
    simp only [Json.dumps, Except.error.injEq] at failed
    exact Or.inl (failed ▸ rfl)
  | .float .negInf, failed => by
    simp only [Json.dumps, Except.error.injEq] at failed
    exact Or.inl (failed ▸ rfl)
  | .float .nan, failed => by
    simp only [Json.dumps, Except.error.injEq] at failed
    exact Or.inl (failed ▸ rfl)
  | .arr items, failed => by
    cases fuel with
    | zero =>
      simp only [Json.dumps, Except.error.injEq] at failed
      exact Or.inr failed.symm
    | succ fuel => exact dumpsItems_error fuel e items (by simpa only [Json.dumps] using failed)
  | .obj fields, failed => by
    cases fuel with
    | zero =>
      simp only [Json.dumps, Except.error.injEq] at failed
      exact Or.inr failed.symm
    | succ fuel => exact dumpsFields_error fuel e fields (by simpa only [Json.dumps] using failed)
  | .null, failed => by simp [Json.dumps] at failed
  | .bool _, failed => by simp [Json.dumps] at failed
  | .int _, failed => by simp [Json.dumps] at failed
  | .str _, failed => by simp [Json.dumps] at failed
theorem dumpsItems_error {S : Type} (fuel : Nat) (e : Exc) : ∀ items :
    List (Json S), Json.dumpsItems fuel items = .error e →
    e.isValueError = true ∨ e = .recursionError
  | [], failed => by simp [Json.dumpsItems] at failed
  | item :: rest, failed => by
    simp only [Json.dumpsItems] at failed
    split at failed
    · exact dumpsItems_error fuel e rest failed
    case h_2 first => exact dumps_error fuel e item (failed ▸ first)
theorem dumpsFields_error {S : Type} (fuel : Nat) (e : Exc) : ∀ fields :
    List (S × Json S), Json.dumpsFields fuel fields = .error e →
    e.isValueError = true ∨ e = .recursionError
  | [], failed => by simp [Json.dumpsFields] at failed
  | (_, value) :: rest, failed => by
    simp only [Json.dumpsFields] at failed
    split at failed
    · exact dumpsFields_error fuel e rest failed
    case h_2 first => exact dumps_error fuel e value (failed ▸ first)
end

end Ttp.Python
