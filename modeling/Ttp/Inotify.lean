import Mathlib.Algebra.Order.Group.Nat
import Ttp.Packed

/-!
How the watchdog reads what the kernel says about the files it watches
(`watchdog/inotify.py`): whether one of the events of a buffer means that the watched file
is gone.
-/
namespace Ttp.Inotify
open Ttp.Packed

def IN_DELETE_SELF : UInt32 := 0x00000400
def IN_MOVE_SELF : UInt32 := 0x00000800

/-- `_INOTIFY_HEADER_SIZE`. -/
def headerSize : ℕ := 16

/-- What `struct.unpack_from("iIII", ..)` returns. -/
structure Header where
  wd : ℤ
  mask : UInt32
  cookie : UInt32
  nameLen : UInt32
deriving DecidableEq, Repr

/-- `struct.error`: fewer bytes are left at the offset than the format needs. -/
structure StructError where
  offset : ℕ
  size : ℕ
deriving DecidableEq, Repr

/-- The field of a header that begins at an offset: four bytes in the byte order of the machine. -/
def field (order : ByteOrder) (bytes : List UInt8) (offset : ℕ) : UInt32 :=
  UInt32.ofNat (number order ((bytes.drop offset).take 4))

def unpack (order : ByteOrder) (bytes : List UInt8) : Header where
  wd := (field order bytes 0).toInt32.toInt
  mask := field order bytes 4
  cookie := field order bytes 8
  nameLen := field order bytes 12

/-- `struct.unpack_from(_INOTIFY_HEADER, data, offset)`. -/
def unpackFrom (order : ByteOrder) (data : List UInt8) (offset : ℕ) : Except StructError Header :=
  if data.length - offset < headerSize then .error ⟨offset, data.length⟩
  else .ok (unpack order ((data.drop offset).take headerSize))

/-- The loop of `inotify_watch_lost`. -/
def walk (order : ByteOrder) (data : List UInt8) (offset : ℕ) (lost : Bool) : Except StructError Bool :=
  if offset < data.length then
    -- a record that is cut off at the end: what was decoded before it still counts
    if data.length - offset < headerSize then .ok lost
    else do
      let header ← unpackFrom order data offset
      walk order data (offset + (headerSize + header.nameLen.toNat))
        (lost || header.mask &&& (IN_DELETE_SELF ||| IN_MOVE_SELF) ≠ 0)
  else .ok lost
termination_by data.length - offset
decreasing_by
  unfold headerSize
  omega

/-- The argument of `inotify_watch_lost`. -/
inductive Data where
  | bytes (content : List UInt8)
  | bytearray (content : List UInt8)
  | other
deriving DecidableEq, Repr

def readBuffer (order : ByteOrder) (data : List UInt8) : Except StructError Bool :=
  if data.length < headerSize then .ok false else walk order data 0 false

def inotifyWatchLost (order : ByteOrder) : Data → Except StructError Bool
  | .bytes content => readBuffer order content
  | .bytearray content => readBuffer order content
  | .other => .ok false

/-! ### What the kernel writes -/

/-- `struct inotify_event`: the name is padded by the kernel, and what it is padded to is its length. -/
structure Event where
  wd : Int32
  mask : UInt32
  cookie : UInt32
  name : List UInt8
  fits : name.length < 2 ^ 32

def Event.header (order : ByteOrder) (event : Event) : List UInt8 :=
  word order 4 event.wd.toUInt32.toNat ++ word order 4 event.mask.toNat ++ word order 4 event.cookie.toNat ++
    word order 4 event.name.length

def encode (order : ByteOrder) (events : List Event) : List UInt8 :=
  events.flatMap fun event => event.header order ++ event.name

/-- The watched file was deleted or moved away. -/
def Event.lost (event : Event) : Prop := event.mask &&& IN_DELETE_SELF ≠ 0 ∨ event.mask &&& IN_MOVE_SELF ≠ 0

instance (event : Event) : Decidable event.lost := inferInstanceAs (Decidable (_ ∨ _))

def Event.view (event : Event) : Header where
  wd := event.wd.toInt
  mask := event.mask
  cookie := event.cookie
  nameLen := UInt32.ofNat event.name.length

theorem field_word (order : ByteOrder) (front rest : List UInt8) {n : ℕ} (fits : n < 2 ^ 32) :
    field order (front ++ (word order 4 n ++ rest)) front.length = UInt32.ofNat n := by
  rw [field, List.drop_left' rfl, List.take_left' (word_length _ _ _), number_word]
  exact fits

theorem header_length (order : ByteOrder) (event : Event) : (event.header order).length = headerSize := by
  simp [Event.header, headerSize]

theorem unpack_header (order : ByteOrder) (event : Event) : unpack order (event.header order) = event.view := by
  have wd : field order (event.header order) 0 = event.wd.toUInt32 := by
    have read := field_word order []
      (word order 4 event.mask.toNat ++ (word order 4 event.cookie.toNat ++ word order 4 event.name.length))
      event.wd.toUInt32.toNat_lt
    simpa [Event.header] using read
  have mask : field order (event.header order) 4 = event.mask := by
    have read := field_word order (word order 4 event.wd.toUInt32.toNat)
      (word order 4 event.cookie.toNat ++ word order 4 event.name.length)
      event.mask.toNat_lt
    simpa [Event.header] using read
  have cookie : field order (event.header order) 8 = event.cookie := by
    have read := field_word order (word order 4 event.wd.toUInt32.toNat ++ word order 4 event.mask.toNat)
      (word order 4 event.name.length)
      event.cookie.toNat_lt
    simpa [Event.header] using read
  have nameLen : field order (event.header order) 12 = UInt32.ofNat event.name.length := by
    have read := field_word order
      (word order 4 event.wd.toUInt32.toNat ++ word order 4 event.mask.toNat ++ word order 4 event.cookie.toNat) []
      event.fits
    simpa [Event.header] using read
  simp [unpack, Event.view, wd, mask, cookie, nameLen]

/-- The events of a buffer as packed records. -/
def layout (order : ByteOrder) : Layout Event UInt8 Header where
  size := headerSize
  pos := by decide
  header := Event.header order
  body := Event.name
  view := Event.view
  read bytes := (unpack order bytes, (unpack order bytes).nameLen.toNat)
  sized := header_length order
  reads event := by
    have length : (UInt32.ofNat event.name.length).toNat = event.name.length := UInt32.toNat_ofNat_of_lt' event.fits
    rw [unpack_header]
    simp [Event.view, length]

/-! ### The walk -/

def Header.lost (header : Header) : Bool := header.mask &&& (IN_DELETE_SELF ||| IN_MOVE_SELF) ≠ 0

theorem lost_iff (event : Event) : event.view.lost = true ↔ event.lost := by
  have either : event.mask &&& (IN_DELETE_SELF ||| IN_MOVE_SELF) = (event.mask &&& IN_DELETE_SELF) |||
      (event.mask &&& IN_MOVE_SELF) := by
    apply UInt32.toNat_inj.mp
    simp only [UInt32.toNat_and, UInt32.toNat_or, Nat.and_or_distrib_left]
  rw [Header.lost, Event.view, Event.lost, either, decide_eq_true_eq, ne_eq, UInt32.or_eq_zero_iff]
  exact not_and_or

/-- What the loop returns: whether a lost watch was met before, or is met from the offset on. -/
theorem walk_visited (order : ByteOrder) (data : List UInt8) (offset : ℕ) (lost : Bool) :
    walk order data offset lost = .ok (lost || ((layout order).visited (data.drop offset)).any Header.lost) := by
  have left : (data.drop offset).length = data.length - offset := List.length_drop
  rw [walk]
  by_cases inside : offset < data.length
  · rw [if_pos inside]
    by_cases short : data.length - offset < headerSize
    · have none : (data.drop offset).length < (layout order).size := left ▸ short
      rw [if_pos short, (layout order).visited_short none]
      simp
    · have whole : (layout order).size ≤ (data.drop offset).length := left ▸ Nat.not_lt.mp short
      rw [if_neg short, (layout order).visited_whole whole, unpackFrom, if_neg short]
      have ih := walk_visited order data
        (offset + (headerSize + (unpack order ((data.drop offset).take headerSize)).nameLen.toNat))
        (lost || (unpack order ((data.drop offset).take headerSize)).lost)
      rw [← List.drop_drop] at ih
      rw [List.any_cons, ← Bool.or_assoc]
      exact ih
  · have none : (data.drop offset).length < (layout order).size := by
      have := (layout order).pos
      omega
    rw [if_neg inside, (layout order).visited_short none]
    simp
termination_by data.length - offset
decreasing_by
  unfold headerSize
  omega

/-- A buffer of any bytes is read to its end, and the answer is about the headers met on the way. -/
theorem readBuffer_visited (order : ByteOrder) (data : List UInt8) :
    readBuffer order data = .ok (((layout order).visited data).any Header.lost) := by
  rw [readBuffer]
  by_cases short : data.length < headerSize
  · rw [if_pos short, (layout order).visited_short short]
    rfl
  · rw [if_neg short, walk_visited]
    simp

/-- Of the first bytes of a buffer the events count whose header is complete there. -/
theorem readBuffer_take (order : ByteOrder) (events : List Event) (n : ℕ) :
    readBuffer order ((encode order events).take n) =
      .ok ((events.take ((layout order).started n events)).any fun event => decide event.lost) := by
  have view : ∀ event : Event, event.view.lost = decide event.lost :=
    fun event => by rw [Bool.eq_iff_iff, lost_iff]; simp
  rw [readBuffer_visited]
  have met := (layout order).visited_take n events
  rw [show (layout order).encode events = encode order events from rfl] at met
  rw [met, List.any_map]
  congr 2
  funext event
  exact view event

theorem readBuffer_encode (order : ByteOrder) (events : List Event) :
    readBuffer order (encode order events) = .ok (events.any fun event => decide event.lost) := by
  have all := readBuffer_take order events (encode order events).length
  rwa [List.take_length, show (layout order).started (encode order events).length events = events.length from
    (layout order).started_all events, List.take_length] at all

/-- What the watchdog is told about a buffer of events is whether one of them says that the watched
    file is gone; no buffer whatsoever makes it fail; and of a buffer that is cut off anywhere
    exactly the events count whose header is complete. -/
theorem watch_lost_decodes (order : ByteOrder) :
    (∀ events, ∃ lost, inotifyWatchLost order (.bytes (encode order events)) = .ok lost ∧
        (lost = true ↔ ∃ event ∈ events, event.lost)) ∧
      (∀ data, ∃ lost, inotifyWatchLost order data = .ok lost) ∧
      ∀ events n, ∃ count ≤ events.length,
        (∀ i < events.length, i < count ↔ (encode order (events.take i)).length + 16 ≤ n) ∧
          inotifyWatchLost order (.bytes ((encode order events).take n)) =
            inotifyWatchLost order (.bytes (encode order (events.take count))) := by
  refine ⟨fun events => ?_, fun data => ?_, fun events n => ?_⟩
  · rw [inotifyWatchLost, readBuffer_encode]
    exact ⟨_, rfl, by simp⟩
  · cases data with
    | bytes content => exact ⟨_, readBuffer_visited order content⟩
    | bytearray content => exact ⟨_, readBuffer_visited order content⟩
    | other => exact ⟨false, rfl⟩
  · refine ⟨(layout order).started n events, (layout order).started_le n events, fun i inside => ?_, ?_⟩
    · exact (layout order).lt_started inside
    · rw [inotifyWatchLost, inotifyWatchLost, readBuffer_take, readBuffer_encode]

end Ttp.Inotify
