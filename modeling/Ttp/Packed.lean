import Mathlib.Algebra.Order.Group.Nat
import Mathlib.Tactic.Ring
import Mathlib.Data.List.TakeDrop

/-!
Packed binary data: numbers as words of a fixed number of bytes in either byte order
(`number_word`), and sequences of records of which each is a header of a fixed size, which
says how many bytes of body follow it. What a reader that goes from header to header meets
in the first bytes of such a sequence are the records whose header is complete there
(`visited_take`).
-/
namespace Ttp.Packed

/-! ### Words -/

inductive ByteOrder where
  | little
  | big
deriving DecidableEq, Repr

/-- The lowest bytes of a number, the least significant first. -/
def lowBytes : ℕ → ℕ → List UInt8
  | 0, _ => []
  | width + 1, n => UInt8.ofNat n :: lowBytes width (n / 256)

/-- The number with these bytes, the least significant first. -/
def ofLowBytes : List UInt8 → ℕ
  | [] => 0
  | byte :: bytes => byte.toNat + 256 * ofLowBytes bytes

def ByteOrder.arrange : ByteOrder → List UInt8 → List UInt8
  | .little, bytes => bytes
  | .big, bytes => bytes.reverse

/-- A number as a word of so many bytes. -/
def word (order : ByteOrder) (width n : ℕ) : List UInt8 := order.arrange (lowBytes width n)

/-- The number that a word spells. -/
def number (order : ByteOrder) (bytes : List UInt8) : ℕ := ofLowBytes (order.arrange bytes)

theorem lowBytes_length (width n : ℕ) : (lowBytes width n).length = width := by
  induction width generalizing n with
  | zero => rfl
  | succ width ih => simp [lowBytes, ih]

theorem arrange_length (order : ByteOrder) (bytes : List UInt8) : (order.arrange bytes).length = bytes.length := by
  cases order <;> simp [ByteOrder.arrange]

theorem arrange_arrange (order : ByteOrder) (bytes : List UInt8) : order.arrange (order.arrange bytes) = bytes := by
  cases order <;> simp [ByteOrder.arrange]

@[simp]
theorem word_length (order : ByteOrder) (width n : ℕ) : (word order width n).length = width := by
  rw [word, arrange_length, lowBytes_length]

theorem ofLowBytes_lowBytes (width n : ℕ) : ofLowBytes (lowBytes width n) = n % 256 ^ width := by
  induction width generalizing n with
  | zero => simp [lowBytes, ofLowBytes, Nat.mod_one]
  | succ width ih =>
    have lowest : (UInt8.ofNat n).toNat = n % 256 := UInt8.toNat_ofNat'
    rw [lowBytes, ofLowBytes, ih, lowest, pow_succ', Nat.mod_mul]

/-- A word spells the number it was made of, when the number fits in it. -/
theorem number_word {width n : ℕ} (order : ByteOrder) (fits : n < 256 ^ width) :
    number order (word order width n) = n := by
  rw [number, word, arrange_arrange, ofLowBytes_lowBytes, Nat.mod_eq_of_lt fits]

/-! ### Records -/

section Records

variable {ρ β γ : Type}

/-- How records are laid out: each has a header of `size` items and a body, and from a header one
    reads something about its record and the length of the body. -/
structure Layout (ρ β γ : Type) where
  size : ℕ
  pos : 0 < size
  header : ρ → List β
  body : ρ → List β
  view : ρ → γ
  read : List β → γ × ℕ
  sized : ∀ record, (header record).length = size
  reads : ∀ record, read (header record) = (view record, (body record).length)

variable (layout : Layout ρ β γ)

/-- Records one after the other. -/
def Layout.encode (records : List ρ) : List β :=
  records.flatMap fun record => layout.header record ++ layout.body record

/-- What a reader meets that goes from header to header, for as long as a whole header is left. -/
def Layout.visited (items : List β) : List γ :=
  if layout.size ≤ items.length then
    (layout.read (items.take layout.size)).1 ::
      visited (items.drop (layout.size + (layout.read (items.take layout.size)).2))
  else []
termination_by items.length
decreasing_by
  have := layout.pos
  simp only [List.length_drop]
  omega

/-- How many records of a sequence have their header within the first `n` items of it. -/
def Layout.started (n : ℕ) : List ρ → ℕ
  | [] => 0
  | record :: records =>
    if layout.size ≤ n then started (n - (layout.size + (layout.body record).length)) records + 1 else 0

theorem Layout.visited_short {items : List β} (short : items.length < layout.size) : layout.visited items = [] := by
  rw [visited, if_neg (Nat.not_le.mpr short)]

theorem Layout.visited_whole {items : List β} (whole : layout.size ≤ items.length) :
    layout.visited items = (layout.read (items.take layout.size)).1 ::
      layout.visited (items.drop (layout.size + (layout.read (items.take layout.size)).2)) := by
  rw [visited, if_pos whole]

theorem Layout.encode_cons (record : ρ) (records : List ρ) :
    layout.encode (record :: records) = layout.header record ++ (layout.body record ++ layout.encode records) := by
  simp [encode]

theorem Layout.started_le (n : ℕ) (records : List ρ) : layout.started n records ≤ records.length := by
  induction records generalizing n with
  | nil => exact le_rfl
  | cons record records ih =>
    rw [started]
    split
    · exact Nat.succ_le_succ (ih _)
    · exact Nat.zero_le _

/-- The record at a place is one of those that have started in the first `n` items exactly when the
    records before it and its own header fit in them. -/
theorem Layout.lt_started {n i : ℕ} {records : List ρ} (inside : i < records.length) :
    i < layout.started n records ↔ (layout.encode (records.take i)).length + layout.size ≤ n := by
  have pos := layout.pos
  induction records generalizing n i with
  | nil => simp at inside
  | cons record records ih =>
    rw [started]
    cases i with
    | zero =>
      by_cases whole : layout.size ≤ n
      · simp [whole, encode]
      · simp [whole, encode]
    | succ i =>
      have rest := ih (n := n - (layout.size + (layout.body record).length)) (Nat.lt_of_succ_lt_succ inside)
      rw [List.take_succ_cons, encode_cons, List.length_append, List.length_append, layout.sized]
      by_cases whole : layout.size ≤ n
      · rw [if_pos whole, Nat.succ_lt_succ_iff]
        apply Iff.trans rest
        omega
      · rw [if_neg whole]
        omega

/-- A reader of the first `n` items meets exactly the records that have started there. -/
theorem Layout.visited_take (n : ℕ) (records : List ρ) :
    layout.visited ((layout.encode records).take n) = (records.take (layout.started n records)).map layout.view := by
  have pos := layout.pos
  induction records generalizing n with
  | nil =>
    have none : ([] : List β).length < layout.size := pos
    rw [encode, List.flatMap_nil, List.take_nil, layout.visited_short none]
    rfl
  | cons record records ih =>
    rw [started]
    by_cases whole : layout.size ≤ n
    · have front : ((layout.encode (record :: records)).take n).take layout.size = layout.header record := by
        rw [List.take_take, min_eq_left whole, encode_cons, List.take_left' (layout.sized record)]
      have after : (layout.encode (record :: records)).drop
          (layout.size + (layout.body record).length) = layout.encode records := by
        rw [encode_cons, ← List.drop_drop, List.drop_left' (layout.sized record), List.drop_left]
      have long : layout.size ≤ ((layout.encode (record :: records)).take n).length := by
        rw [encode_cons, List.length_take, List.length_append, layout.sized]
        omega
      rw [layout.visited_whole long, if_pos whole, front, layout.reads, List.drop_take, after, ih]
      simp
    · have short : ((layout.encode (record :: records)).take n).length < layout.size := by
        rw [List.length_take]
        omega
      rw [layout.visited_short short, if_neg whole]
      simp

theorem Layout.started_all (records : List ρ) :
    layout.started (layout.encode records).length records = records.length := by
  have pos := layout.pos
  induction records with
  | nil => rfl
  | cons record records ih =>
    have length : (layout.encode (record :: records)).length - (layout.size + (layout.body record).length) =
        (layout.encode records).length := by
      rw [encode_cons, List.length_append, List.length_append, layout.sized]
      omega
    rw [started, length, ih, if_pos]
    · simp
    · rw [encode_cons, List.length_append, layout.sized]
      omega

end Records

end Ttp.Packed
