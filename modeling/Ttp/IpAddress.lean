import Mathlib.Algebra.Order.Ring.Nat
import Mathlib.Data.List.Basic

/-!
Python's `ipaddress`: the texts that `ip_address` accepts, and the text that
`str` gives for an address. An IPv4 address is four octets, an IPv6 address
eight groups of 16 bits and a scope.
-/
namespace Ttp.IpAddress

/-- What stands after the `%` of an address. -/
structure Scope where
  text : List Char
  named : text ≠ []
  plain : '%' ∉ text ∧ '/' ∉ text

inductive Address where
  | v4 (octets : List (Fin 256)) (four : octets.length = 4)
  | v6 (groups : List (Fin 65536)) (eight : groups.length = 8) (scope : Option Scope)

def Address.version : Address → Nat
  | .v4 .. => 4
  | .v6 .. => 6

/-! ### Reading -/

/-- The number that digits stand for. -/
def ofDigits (base : Nat) (value : Char → Nat) (digits : List Char) : Nat :=
  digits.foldl (fun n c => n * base + value c) 0

def hexValue (c : Char) : Nat :=
  if c.isDigit then c.toNat - 48 else if 'a' ≤ c ∧ c ≤ 'f' then c.toNat - 87 else c.toNat - 55

def isHexDigit (c : Char) : Bool := c.isDigit || ('a' ≤ c && c ≤ 'f') || ('A' ≤ c && c ≤ 'F')

theorem ofDigits_lt {base : Nat} {value : Char → Nat} {digits : List Char} (small : ∀ c ∈ digits, value c < base) :
    ofDigits base value digits < base ^ digits.length := by
  have folded (n : Nat) : digits.foldl (fun n c => n * base + value c) n < (n + 1) * base ^ digits.length := by
    induction digits generalizing n with
    | nil => simp
    | cons c rest ih =>
      have digit : value c < base := small c List.mem_cons_self
      have next : (n * base + value c + 1) * base ^ rest.length ≤ (n + 1) * base * base ^ rest.length := by
        refine Nat.mul_le_mul_right _ ?_
        rw [Nat.add_mul]
        omega
      calc (c :: rest).foldl (fun n c => n * base + value c) n
        _ < (n * base + value c + 1) * base ^ rest.length :=
          ih (fun d member => small d (List.mem_cons_of_mem c member)) _
        _ ≤ (n + 1) * base * base ^ rest.length := next
        _ = (n + 1) * base ^ (c :: rest).length := by rw [List.length_cons, Nat.pow_succ', Nat.mul_assoc]
  simpa [ofDigits] using folded 0

theorem hexValue_lt {c : Char} (digit : isHexDigit c = true) : hexValue c < 16 := by
  have bounds : ('0'.toNat = 48 ∧ '9'.toNat = 57) ∧ ('a'.toNat = 97 ∧ 'f'.toNat = 102) ∧ 'A'.toNat = 65 ∧
      'F'.toNat = 70 := by
    decide
  simp only [isHexDigit, Char.isDigit, Bool.or_eq_true, Bool.and_eq_true, decide_eq_true_eq, Char.le_def,
    UInt32.le_iff_toNat_le, Char.reduceVal, UInt32.reduceToNat] at digit
  unfold hexValue
  simp only [Char.isDigit, Bool.and_eq_true, decide_eq_true_eq, Char.le_def, UInt32.le_iff_toNat_le, Char.reduceVal,
    UInt32.reduceToNat, Char.toNat]
  split_ifs <;> omega

/-- `_parse_octet`: at most three digits, without a leading zero. -/
def parseOctet (text : List Char) : Option (Fin 256) :=
  if text.isEmpty || !text.all Char.isDigit || 3 < text.length || (text.head? == some '0' && text != ['0']) then none
  else
    let octet := ofDigits 10 (fun c => c.toNat - 48) text
    if fits : octet ≤ 255 then some ⟨octet, by omega⟩ else none

/-- `IPv4Address._ip_int_from_string`. -/
def parseIPv4 (text : List Char) : Option (List (Fin 256)) :=
  ((text.splitOn '.').mapM parseOctet).filter (·.length == 4)

theorem hextet_lt {text : List Char} (accepted : ¬ (text.isEmpty || !text.all isHexDigit || 4 < text.length) = true) :
    ofDigits 16 hexValue text < 65536 := by
  simp only [Bool.or_eq_true, decide_eq_true_eq, not_or, Bool.not_eq_true', Bool.not_eq_false, Nat.not_lt] at accepted
  obtain ⟨⟨_, digits⟩, short⟩ := accepted
  have bounded := ofDigits_lt fun c member => hexValue_lt (List.all_eq_true.mp digits c member)
  calc ofDigits 16 hexValue text
    _ < 16 ^ text.length := bounded
    _ ≤ 16 ^ 4 := Nat.pow_le_pow_right (by decide) short

/-- `_parse_hextet`. -/
def parseHextet (text : List Char) : Option (Fin 65536) :=
  if refused : text.isEmpty || !text.all isHexDigit || 4 < text.length then none
  else some ⟨ofDigits 16 hexValue text, hextet_lt refused⟩

/-- The parts between the colons, with an IPv4 suffix as two groups. -/
def partsOf (text : List Char) : Option (List (List Char)) :=
  let parts := text.splitOn ':'
  if parts.length < 3 then none
  else
    let last := parts.getLast?.getD []
    if last.contains '.' then
      match parseIPv4 last with
      | some [a, b, c, d] => some (parts.dropLast ++
          [Nat.toDigits 16 (a.val * 256 + b.val), Nat.toDigits 16 (c.val * 256 + d.val)])
      | _ => none
    else some parts

/-- The parts before the `::`, of which the first may be empty only if it is the only one. -/
def leading (parts : List (List Char)) : Option (List (List Char)) :=
  if parts.head? = some [] then (if parts.length = 1 then some [] else none) else some parts

/-- The parts after the `::`. -/
def trailing (parts : List (List Char)) : Option (List (List Char)) :=
  if parts.getLast? = some [] then (if parts.length = 1 then some [] else none) else some parts

/-- `IPv6Address._ip_int_from_string`: the groups, of which one `::` leaves out at least one. -/
def parseIPv6 (text : List Char) : Option (List (Fin 65536)) := do
  let parts ← partsOf text
  if 9 < parts.length then none
  else
    let inner := (parts.drop 1).dropLast
    match inner.findIdx? (·.isEmpty) with
    | some i =>
      if 1 < inner.countP (·.isEmpty) then none
      else
        let high ← leading (parts.take (i + 1))
        let low ← trailing (parts.drop (i + 2))
        if 8 ≤ high.length + low.length then none
        else
          let above ← high.mapM parseHextet
          let below ← low.mapM parseHextet
          some (above ++ List.replicate (8 - (high.length + low.length)) 0 ++ below)
    | none => if parts.length = 8 then parts.mapM parseHextet else none

/-- `_split_scope_id`, of a text without a slash. -/
def splitScopeId (text : List Char) (whole : '/' ∉ text) : Option (List Char × Option Scope) :=
  match split : text.dropWhile (· != '%') with
  | [] => some (text, none)
  | c :: scope =>
    have inside : '/' ∉ scope := fun member =>
      whole ((List.dropWhile_suffix _).subset (split ▸ List.mem_cons_of_mem c member))
    if empty : scope = [] then none
    else if again : '%' ∈ scope then none
    else some (text.takeWhile (· != '%'), some ⟨scope, empty, again, inside⟩)

/-- `ip_address`: none for a `ValueError`. -/
def ipAddress (text : List Char) : Option Address :=
  if slash : '/' ∈ text then none
  else
    match parseIPv4 text with
    | some octets => if four : octets.length = 4 then some (.v4 octets four) else none
    | none => do
      let (text, scope) ← splitScopeId text slash
      let groups ← parseIPv6 text
      if eight : groups.length = 8 then some (.v6 groups eight scope) else none

/-! ### Writing -/

/-- A run of zero groups: where it starts and how long it is. -/
structure Run where
  start : Nat
  length : Nat

/-- The longest run of zeros, the first of several; `current` ends before the groups, the first of which is at
    `index`. -/
def longestRun (index : Nat) (current best : Run) : List (Fin 65536) → Run
  | [] => best
  | group :: rest =>
    if group = 0 then
      let current : Run := ⟨if current.length = 0 then index else current.start, current.length + 1⟩
      longestRun (index + 1) current (if best.length < current.length then current else best) rest
    else longestRun (index + 1) ⟨index, 0⟩ best rest

/-- `_compress_hextets`. -/
def compressHextets (groups : List (Fin 65536)) : List (List Char) :=
  let hextets := groups.map fun group => Nat.toDigits 16 group
  let run := longestRun 0 ⟨0, 0⟩ ⟨0, 0⟩ groups
  if 1 < run.length then
    let above := if run.start = 0 then [[]] else hextets.take run.start
    let below := if run.start + run.length = hextets.length then [[]] else hextets.drop (run.start + run.length)
    above ++ [] :: below
  else hextets

/-- `str(address)`. -/
def Address.text : Address → List Char
  | .v4 octets _ => List.intercalate ['.'] (octets.map fun octet => Nat.toDigits 10 octet)
  | .v6 groups _ scope =>
    List.intercalate [':'] (compressHextets groups) ++
      match scope with
      | some scope => '%' :: scope.text
      | none => []

example : (ipAddress "2001:db8:0:0:1:0:0:1".toList).map Address.text = some "2001:db8::1:0:0:1".toList := by decide

/-! ### What a text of an address looks like -/

theorem mem_intercalate {separator : Char} {first second : List Char} {rest : List (List Char)} :
    separator ∈ List.intercalate [separator] (first :: second :: rest) := by
  simp [List.intercalate, List.intersperse]

theorem two_of_length {α : Type} {items : List α} (several : 2 ≤ items.length) :
    ∃ first second rest, items = first :: second :: rest := by
  match items, several with
  | first :: second :: rest, _ => exact ⟨first, second, rest, rfl⟩

theorem compressHextets_several {groups : List (Fin 65536)} (eight : groups.length = 8) :
    ∃ first second rest, compressHextets groups = first :: second :: rest := by
  refine two_of_length ?_
  unfold compressHextets
  dsimp only
  split_ifs with long begins
  · simp
  · simp
  · simp
  · simp
    omega
  · simp
    omega

/-- A text of an address has a dot or a colon. -/
theorem text_separated (a : Address) : '.' ∈ a.text ∨ ':' ∈ a.text := by
  cases a with
  | v4 octets four =>
    have several : 2 ≤ octets.length := by omega
    obtain ⟨first, second, rest, same⟩ := two_of_length several
    refine Or.inl ?_
    simp only [Address.text, same]
    exact mem_intercalate
  | v6 groups eight scope =>
    obtain ⟨first, second, rest, same⟩ := compressHextets_several eight
    refine Or.inr ?_
    simp only [Address.text, same]
    exact List.mem_append_left _ mem_intercalate

end Ttp.IpAddress
