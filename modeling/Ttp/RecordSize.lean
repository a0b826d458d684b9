import Mathlib.Algebra.Order.BigOperators.Group.List
import Ttp.SessionSafety

/-!
How many bytes `json.dumps` makes of a value with its default separators and
`ensure_ascii`, and that an emergency record with a few dozen short diagnostics
stays below `MAX_RECORD_BYTES`.
-/
namespace Ttp.RecordSize
open Ttp.Python Ttp.Evidence Ttp.Records Ttp.SessionSafety

/-! ### Encoded sizes -/

/-- The characters that a character of a string is escaped as. -/
def charSize (c : Char) : Nat :=
  if c = '"' ∨ c = '\\' ∨ c = '\n' ∨ c = '\r' ∨ c = '\t' ∨ c = '\x08' ∨ c = '\x0c' then 2
  else if ' ' ≤ c ∧ c ≤ '~' then 1
  else if c.toNat < 0x10000 then 6
  else 12

/-- A string between its quotes. -/
def textSize (s : String) : Nat := 2 + (s.toList.map charSize).sum

/-- What stands for strings, by how long they are between their quotes. -/
class Sized (S : Type) where
  size : S → Nat

instance : Sized String := ⟨textSize⟩

@[simp] theorem sized_string (s : String) : Sized.size s = textSize s := rfl

/-- How long `float.__repr__` is, never above 24 characters. -/
structure FloatText where
  size : Flt → Nat
  bounded : ∀ x, size x ≤ 24

/-- As if every float were `0.0`. -/
def zeros : FloatText := ⟨fun _ => 3, fun _ => by decide⟩

mutual
/-- `len(json.dumps(value))`. -/
def size {S : Type} [Sized S] (floats : FloatText) : Json S → Nat
  | .null => 4
  | .bool b => if b then 4 else 5
  | .int n => (toString n).length
  | .float x => floats.size x
  | .str s => Sized.size s
  | .arr items => 2 + sizeItems floats items
  | .obj fields => 2 + sizeFields floats fields
def sizeItems {S : Type} [Sized S] (floats : FloatText) : List (Json S) → Nat
  | [] => 0
  | [item] => size floats item
  | item :: rest => size floats item + 2 + sizeItems floats rest
def sizeFields {S : Type} [Sized S] (floats : FloatText) : List (S × Json S) → Nat
  | [] => 0
  | [(key, value)] => Sized.size key + 2 + size floats value
  | (key, value) :: rest => Sized.size key + 2 + size floats value + 2 + sizeFields floats rest
end

/-- `MAX_RECORD_BYTES`. -/
def maxRecordBytes : Nat := 65536

/-- The bytes of a record file: the payload and a line end. -/
def recordBytes {S : Type} [Sized S] (floats : FloatText) (payload : Json S) : Nat := size floats payload + 1

/-! ### Bounds -/

section
variable {floats : FloatText}

theorem charSize_le (c : Char) : charSize c ≤ 12 := by
  unfold charSize
  split_ifs <;> omega

theorem textSize_le (s : String) : textSize s ≤ 2 + 12 * s.length := by
  have each : ∀ n ∈ s.toList.map charSize, n ≤ 12 := by
    intro n member
    obtain ⟨c, _, rfl⟩ := List.mem_map.mp member
    exact charSize_le c
  have sums := List.sum_le_card_nsmul _ _ each
  rw [List.length_map, String.length_toList, Nat.nsmul_eq_mul] at sums
  unfold textSize
  omega

/-- For a literal, by evaluation. -/
theorem short {chars : List Char} {n : Nat} (fits : 2 + (chars.map charSize).sum ≤ n) :
    textSize (String.ofList chars) ≤ n := by
  rwa [textSize, String.toList_ofList]

theorem sizeItems_le {items : List Json} {n : Nat} (each : ∀ item ∈ items, size floats item ≤ n) :
    sizeItems floats items ≤ items.length * (n + 2) := by
  induction items with
  | nil => simp [sizeItems]
  | cons item rest ih =>
    have first := each item (by simp)
    have others := ih fun item member => each item (by simp [member])
    cases rest with
    | nil => simpa [sizeItems] using Nat.le_add_right_of_le first
    | cons next more =>
      simp only [sizeItems, List.length_cons] at others ⊢
      rw [Nat.succ_mul]
      omega

theorem sizeFields_le {fields : List (String × Json)} {n : Nat}
    (each : ∀ field ∈ fields, textSize field.1 + size floats field.2 ≤ n) :
    sizeFields floats fields ≤ fields.length * (n + 4) := by
  induction fields with
  | nil => simp [sizeFields]
  | cons field rest ih =>
    obtain ⟨key, value⟩ := field
    have first : textSize key + size floats value ≤ n := each (key, value) (by simp)
    have others := ih fun field member => each field (by simp [member])
    cases rest with
    | nil =>
      simp only [sizeFields, List.length_singleton, sized_string]
      omega
    | cons next more =>
      simp only [sizeFields, List.length_cons, sized_string] at others ⊢
      rw [Nat.succ_mul]
      omega

/-- A diagnostic with texts of a line each. -/
structure Short (d : Diagnostic) : Prop where
  reason : textSize d.reason ≤ 64
  component : textSize d.component ≤ 32
  operation : textSize d.operation ≤ 32
  message : textSize d.message ≤ 600

theorem code_size (code : ExitCode) : (toString (code.value : Int)).length ≤ 1 := by
  cases code <;> decide

theorem phase_size (operation : String) : textSize (phaseOf operation) ≤ 13 := by
  unfold phaseOf
  split_ifs
  · exact short (by decide)
  · exact short (by decide)
  · exact short (by decide)
  · exact short (by decide)

theorem size_diagnostic {d : Diagnostic} (small : Short d) : size floats (.obj d.asDict) ≤ 850 := by
  obtain ⟨reason, component, operation, message⟩ := small
  have code := code_size d.code
  have phase := phase_size d.operation
  have active : (if d.active then 4 else 5) ≤ 5 := by split <;> omega
  have keys : textSize "code" ≤ 6 ∧ textSize "reason" ≤ 8 ∧ textSize "component" ≤ 11 ∧ textSize "operation" ≤ 11 ∧
      textSize "message" ≤ 9 ∧ textSize "active" ≤ 8 ∧ textSize "phase" ≤ 7 :=
    ⟨short (by decide), short (by decide), short (by decide), short (by decide), short (by decide), short (by decide),
      short (by decide)⟩
  simp only [Diagnostic.asDict, size, sizeFields, sized_string]
  omega

theorem sizeItems_diagnostics {ds : List Diagnostic} (small : ∀ d ∈ ds, Short d) :
    sizeItems floats (ds.map fun d => .obj d.asDict) ≤ ds.length * 852 := by
  have each : ∀ item ∈ ds.map fun d => Json.obj d.asDict, size floats item ≤ 850 := by
    intro item member
    obtain ⟨d, inside, rfl⟩ := List.mem_map.mp member
    exact size_diagnostic (small d inside)
  simpa using sizeItems_le each

theorem size_result {r : Result} (small : ∀ d ∈ r.diagnostics, Short d) :
    size floats (.obj r.asDict) ≤ 50 + r.diagnostics.length * 852 := by
  have code := code_size r.exitCode
  have diagnostics := @sizeItems_diagnostics floats _ small
  have keys : textSize "exit_code" ≤ 11 ∧ textSize "diagnostics" ≤ 13 := ⟨short (by decide), short (by decide)⟩
  simp only [Result.asDict, size, sizeFields, sized_string]
  omega

/-- An `applied` flag as the code writes it: null where there was no previous record. -/
def flag : Json → Bool
  | .null => true
  | .bool _ => true
  | _ => false

theorem size_flag {applied : Json} (plain : flag applied = true) : size floats applied ≤ 5 := by
  cases applied <;> simp only [flag, Bool.false_eq_true, size] at plain ⊢
  · omega
  · split <;> omega

/-- The data of a record with at most thirty causes and forty diagnostics. -/
theorem size_data {applied : Json} {verified : Bool} {causes : List Diagnostic} {result : Option Result}
    (plain : flag applied = true) (few : causes.length ≤ 30) (small : ∀ d ∈ causes, Short d)
    (fewer : ∀ r, result = some r → r.diagnostics.length ≤ 40 ∧ ∀ d ∈ r.diagnostics, Short d) :
    size floats (.obj (emergencyData applied verified (causes.map fun d => .obj d.asDict) result)) ≤ 60000 := by
  have first := @size_flag floats _ plain
  have second := @size_flag floats (.bool verified) rfl
  have listed := @sizeItems_diagnostics floats _ small
  have keys : textSize "requested" ≤ 11 ∧ textSize "applied" ≤ 9 ∧ textSize "verified" ≤ 10 ∧ textSize "causes" ≤ 8 ∧
      textSize "result" ≤ 8 := ⟨short (by decide), short (by decide), short (by decide), short (by decide),
        short (by decide)⟩
  cases result with
  | none =>
    simp only [emergencyData, size, sizeFields, sized_string, Option.map_none, Option.toList_none, List.append_nil,
      if_true] at second ⊢
    omega
  | some r =>
    obtain ⟨count, each⟩ := fewer r rfl
    have stated : size floats (.obj r.asDict) ≤ 34130 := by
      have := @size_result floats _ each
      omega
    simp only [emergencyData, size, sizeFields, sized_string, Option.map_some, Option.toList_some, List.cons_append,
      List.nil_append, if_true] at second stated ⊢
    omega

/-- An emergency record with so many causes and diagnostics fits. -/
theorem record_fits {session boot : String} {now : ℚ} {applied : Json} {verified : Bool} {causes : List Diagnostic}
    {result : Option Result}
    (sessionSize : session.length ≤ 36) (bootSize : boot.length ≤ 36) (plain : flag applied = true)
    (few : causes.length ≤ 30) (small : ∀ d ∈ causes, Short d)
    (fewer : ∀ r, result = some r → r.diagnostics.length ≤ 40 ∧ ∀ d ∈ r.diagnostics, Short d) :
    recordBytes floats (envelope session boot now
      (emergencyData applied verified (causes.map fun d => .obj d.asDict) result)) ≤ maxRecordBytes := by
  have data := @size_data floats _ verified _ _ plain few small fewer
  generalize emergencyData applied verified (causes.map fun d => .obj d.asDict) result = record at data ⊢
  have texts := Nat.add_le_add (textSize_le session) (textSize_le boot)
  have stamp := floats.bounded (.finite now)
  have keys : textSize "schema" ≤ 8 ∧ textSize "session_id" ≤ 12 ∧ textSize "boot_id" ≤ 9 ∧ textSize "written_at" ≤ 12 ∧
      textSize "data" ≤ 6 := ⟨short (by decide), short (by decide), short (by decide), short (by decide),
        short (by decide)⟩
  have schema : (toString (1 : Int)).length ≤ 1 := by decide
  simp only [recordBytes, maxRecordBytes, envelope, size, sizeFields, sized_string] at data ⊢
  omega

end

end Ttp.RecordSize
