import Ttp.JsonRoundTrip
import Ttp.RecordRuns

/-!
The characters of the record files. What a write publishes is a text of the
size that was checked, and read again it is the record that was written.
-/
namespace Ttp.RecordText
open Ttp.Python Ttp.Program Ttp.JsonText Ttp.RecordSize Ttp.RecordFiles Ttp.RecordRuns
open Ttp.Machine (RecordName)

/-! ### Sizes -/

/-- The lengths of the floats. -/
def sizes (floats : Floats) : FloatText := ⟨fun x => min (spellFloat floats x).length 24, fun _ => Nat.min_le_right _ _⟩

section
variable {floats : Floats} {limit : ℕ}

theorem length_spellChar (c : Char) : (spellChar c).length = charSize c := by
  unfold spellChar charSize letterOf unitsOf
  split_ifs <;> simp_all [spellUnit]

theorem length_spellPoint (c : Fin 0x110000) : (spellPoint c).length = pointSize c := by
  unfold spellPoint pointSize
  split_ifs
  · rfl
  · exact length_spellChar _

/-- Strings that are written in as many characters as their size says. -/
class Measured (S : Type) [Strings S] [Sized S] : Prop where
  length (s : S) : (Strings.spell s).length + 1 = Sized.size s

instance : Measured String where
  length s := by
    show (s.toList.flatMap spellChar ++ ['"']).length + 1 = 2 + (s.toList.map charSize).sum
    rw [List.length_append, List.length_flatMap,
      List.map_congr_left fun c _ => length_spellChar c, List.length_singleton]
    omega

instance : Measured PyText where
  length s := by
    show (s.flatMap spellPoint ++ ['"']).length + 1 = 2 + (s.map pointSize).sum
    rw [List.length_append, List.length_flatMap,
      List.map_congr_left fun c _ => length_spellPoint c, List.length_singleton]
    omega

theorem length_spellInt (n : ℤ) : (spellInt n).length = (toString n).length := by
  rw [Int.toString_eq_repr]
  cases n with
  | ofNat n =>
    have plain : ¬ (Int.ofNat n) < 0 := by simp
    rw [spellInt, if_neg plain]
    simp [Int.repr, Nat.repr_eq_ofList_toDigits]
  | negSucc n =>
    have negative : Int.negSucc n < 0 := Int.negSucc_lt_zero n
    rw [spellInt, if_pos negative]
    simp [Int.repr, Nat.repr_eq_ofList_toDigits, Int.natAbs, String.length_append, (show "-".length = 1 from rfl)]
    omega

theorem sizes_spelled {S : Type} [Strings S] {x : Flt} (fine : Fine floats limit (.float x : Json S)) :
    (sizes floats).size x = (spellFloat floats x).length := by
  refine Nat.min_eq_left ?_
  cases x with
  | finite q => exact floats.short q (by simpa [Fine] using fine)
  | posInf => exact (by decide : 8 ≤ 24)
  | negInf => exact (by decide : 9 ≤ 24)
  | nan => exact (by decide : 3 ≤ 24)

theorem compact_opens (k : ℕ) : Layout.compact.opens k = [] := rfl

theorem compact_comma (k : ℕ) : Layout.compact.comma k = [' '] := rfl

theorem compact_colon : Layout.compact.colon = [' '] := rfl

theorem compact_closes (k : ℕ) : Layout.compact.closes k = [] := rfl

variable {S : Type} [Strings S] [Sized S]

mutual
/-- A text is as long as `size` says. -/
theorem length_encode [Measured S] (k : ℕ) : ∀ v : Json S, Fine floats limit v →
    (encode floats .compact k v).length = size (sizes floats) v
  | .null, _ => by simp [encode, size]
  | .bool true, _ => by simp [encode, size]
  | .bool false, _ => by simp [encode, size]
  | .int n, _ => by rw [encode, size, length_spellInt]
  | .float x, fine => by rw [encode, size, sizes_spelled fine]
  | .str s, _ => by rw [encode, size, List.length_cons, Measured.length]
  | .arr [], _ => by simp [encode, size, sizeItems]
  | .arr (item :: found), fine => by
    have inner := length_encodeItems (k + 1) (item :: found) (by simpa [Fine] using fine)
    simp only [encode, compact_opens, compact_closes, List.nil_append, List.append_nil, List.length_cons,
      List.length_append, List.length_nil]
    rw [inner, size]
    omega
  | .obj [], _ => by simp [encode, size, sizeFields]
  | .obj (field :: found), fine => by
    rw [Fine] at fine
    have inner := length_encodeFields (k + 1) (field :: found) fine.2
    simp only [encode, compact_opens, compact_closes, List.nil_append, List.append_nil, List.length_cons,
      List.length_append, List.length_nil]
    rw [inner, size]
    omega
theorem length_encodeItems [Measured S] (k : ℕ) : ∀ found : List (Json S), FineItems floats limit found →
    (encodeItems floats .compact k found).length = sizeItems (sizes floats) found
  | [], _ => by simp [encodeItems, sizeItems]
  | [item], fine => by rw [encodeItems, sizeItems, length_encode k item fine.1]
  | item :: next :: found, fine => by
    have first := length_encode k item fine.1
    have others := length_encodeItems k (next :: found) fine.2
    simp only [encodeItems, sizeItems, List.length_append, List.length_cons, first, others, compact_comma,
      List.length_nil]
theorem length_encodeFields [Measured S] (k : ℕ) : ∀ found : List (S × Json S), FineFields floats limit found →
    (encodeFields floats .compact k found).length = sizeFields (sizes floats) found
  | [], _ => by simp [encodeFields, sizeFields]
  | [(key, v)], fine => by
    have only := length_encode k v fine.2.1
    simp only [encodeFields, sizeFields, List.length_append, List.length_cons, only, ← Measured.length, compact_colon,
      List.length_nil]
  | (key, v) :: next :: found, fine => by
    have first := length_encode k v fine.2.1
    have others := length_encodeFields k (next :: found) fine.2.2
    simp only [encodeFields, sizeFields, List.length_append, List.length_cons, first, others,
      ← Measured.length, compact_comma, compact_colon, List.length_nil]
end

end

/-! ### What a text decodes to -/

section
variable {S : Type} [Strings S]

/-- A value that Python has: its floats are floats, its strings read as they were written and its dictionaries hold
    each key once. -/
def Held (floats : Floats) (v : Json S) : Prop := Fine floats (digits v) v

variable [DecidableEq S]

/-- `json.loads(text)`, unless the strings cannot have half of a surrogate pair and one has. -/
def contentOf (limits : Limits) (floats : Floats) (text : List Char) : Option (Content S) :=
  match loads floats limits.digits limits.depth text with
  | .ok v => some (.json v)
  | .error .malformed => some .malformed
  | .error .tooDeep => some .tooDeep
  | .error .tooManyDigits => some .tooManyDigits
  | .error .unpaired => none

end

/-- The bytes of a record. -/
def recordText (floats : Floats) (payload : Json PyText) : List Char := encode floats .compact 0 payload ++ ['\n']

/-- The part of `read` with the open file, for a text of ASCII characters. -/
def readText (py : Interpreter) (limits : Limits) (floats : Floats) (session : PyText) (boot : String)
    (text : List Char) :
    Option (Except Exc (Option Payload)) :=
  let content := text.take (maxRecordBytes + 1)
  if maxRecordBytes < content.length then some (.error (.stateError "Observation record exceeds its size limit"))
  else (contentOf limits floats content).map fun found => examine py session boot ⟨content.length, found⟩

section
variable {py : Interpreter} {limits : Limits} {floats : Floats}

variable {S : Type}

theorem digits_int (n : ℤ) : digits (.int n : Json S) = (Nat.toDigits 10 n.natAbs).length := by
  rw [digits, Nat.toString_eq_repr, Nat.repr_eq_ofList_toDigits, String.length_ofList]

variable [Strings S]

mutual
theorem fine_digits {a b : ℕ} : ∀ v : Json S, Fine floats a v → digits v ≤ b → Fine floats b v
  | .null, _, _ => by simp [Fine]
  | .bool _, _, _ => by simp [Fine]
  | .int n, _, few => by simpa only [Fine, ← digits_int (S := S)] using few
  | .float (.finite q), fine, _ => by simpa [Fine] using fine
  | .float .posInf, _, _ => by simp [Fine]
  | .float .negInf, _, _ => by simp [Fine]
  | .float .nan, _, _ => by simp [Fine]
  | .str _, fine, _ => by simpa [Fine] using fine
  | .arr found, fine, few => by
    rw [Fine] at fine ⊢
    exact fineItems_digits found fine (by simpa [digits] using few)
  | .obj found, fine, few => by
    rw [Fine] at fine ⊢
    exact ⟨fine.1, fineFields_digits found fine.2 (by simpa [digits] using few)⟩
theorem fineItems_digits {a b : ℕ} : ∀ found :
    List (Json S), FineItems floats a found → digitsItems found ≤ b → FineItems floats b found
  | [], _, _ => trivial
  | item :: rest, fine, few => by
    simp only [digitsItems] at few
    exact ⟨fine_digits item fine.1 (by omega), fineItems_digits rest fine.2 (by omega)⟩
theorem fineFields_digits {a b : ℕ} : ∀ found : List (S × Json S), FineFields floats a found → digitsFields found ≤ b →
    FineFields floats b found
  | [], _, _ => trivial
  | (_, v) :: rest, fine, few => by
    simp only [digitsFields] at few
    exact ⟨fine.1, fine_digits v fine.2.1 (by omega), fineFields_digits rest fine.2.2 (by omega)⟩
end

theorem held_fine {n : ℕ} {v : Json S} (fine : Fine floats n v) : Held floats v := fine_digits v fine le_rfl

/-- What a text with a value and blanks after it decodes to. -/
theorem contentOf_fine [DecidableEq S] [LawfulStrings S] (lay : Layout) {v : Json S}
    (fine : Fine floats limits.digits v) {blanks : List Char}
    (blank : ∀ c ∈ blanks, isBlank c = true) :
    contentOf limits floats (encode floats lay 0 v ++ blanks) =
      some (if limits.depth < v.depth then .tooDeep else .json v) := by
  rw [contentOf, loads_encode lay fine blank]
  split_ifs
  · rfl
  · rfl

theorem blank_newline : ∀ c ∈ ['\n'], isBlank c = true := by simp [isBlank]

mutual
/-- Strings that read as they were written have no surrogate pair in two code points. -/
theorem fine_whole {n : ℕ} : ∀ v : Json PyText, Fine floats n v → Whole v
  | .null, _ => by simp [Whole]
  | .bool _, _ => by simp [Whole]
  | .int _, _ => by simp [Whole]
  | .float _, _ => by simp [Whole]
  | .str _, fine => by rw [Fine] at fine; rw [Whole]; exact fine
  | .arr found, fine => by
    rw [Fine] at fine
    rw [Whole]
    exact fineItems_whole found fine
  | .obj found, fine => by
    rw [Fine] at fine
    rw [Whole]
    exact ⟨fine.1, fineFields_whole found fine.2⟩
theorem fineItems_whole {n : ℕ} : ∀ found : List (Json PyText), FineItems floats n found → WholeItems found
  | [], _ => trivial
  | item :: rest, fine => ⟨fine_whole item fine.1, fineItems_whole rest fine.2⟩
theorem fineFields_whole {n : ℕ} : ∀ found : List (PyText × Json PyText), FineFields floats n found → WholeFields found
  | [], _ => trivial
  | (_, v) :: rest, fine => ⟨fine.1, fine_whole v fine.2.1, fineFields_whole rest fine.2.2⟩
end

theorem contentOf_encode (lay : Layout) {v : Json PyText} (held : Held floats v) (few : digits v ≤ limits.digits)
    {blanks : List Char}
    (blank : ∀ c ∈ blanks, isBlank c = true) :
    contentOf limits floats (encode floats lay 0 v ++ blanks) = some (decoded limits v) := by
  rw [contentOf_fine lay (fine_digits v held few) blank, decoded, if_neg (not_lt.mpr few : ¬ limits.digits < digits v),
    whole_joined v (fine_whole v held)]

/-- The file of a record stands for its text. -/
theorem serialize_text {payload : Json PyText} {file : File} (held : Held floats payload)
    (accepted : serialize py limits (sizes floats) payload = .ok file) :
    Ascii (recordText floats payload) ∧ (recordText floats payload).length = file.bytes ∧
      contentOf limits floats (recordText floats payload) = some file.content := by
  obtain ⟨_, few, fits, content⟩ := serialize_ok accepted
  have bytes : file.bytes = recordBytes (sizes floats) payload := by
    unfold serialize at accepted
    obtain ⟨_, _, accepted⟩ := bind_ok accepted
    split_ifs at accepted
    rw [← Except.ok.inj accepted]
  refine ⟨ascii_append.mpr ⟨ascii_encode _ 0 payload held, ascii_cons.mpr ⟨by decide, ascii_nil⟩⟩, ?_, ?_⟩
  · rw [recordText, List.length_append, length_encode 0 payload held, bytes, recordBytes, List.length_singleton]
  · rw [content]
    exact contentOf_encode .compact held few blank_newline

/-- Reading the text is reading the file. -/
theorem readText_examine {session : PyText} {boot : String} {text : List Char} {file : File}
    (length : text.length = file.bytes)
    (fits : file.bytes ≤ maxRecordBytes) (content : contentOf limits floats text = some file.content) :
    readText py limits floats session boot text = some (examine py session boot file) := by
  have whole : text.take (maxRecordBytes + 1) = text := List.take_of_length_le (by omega)
  rw [readText, whole]
  simp only [content, length, if_neg (not_lt.mpr fits), Option.map_some]

theorem held_envelope {session : PyText} {boot : String} {now : ℚ} {data : Obj PyText} (whole : session.Whole)
    (held : Held floats (.obj data)) (exact : floats.exact now) : Held floats (envelope session boot now data) := by
  have few : digits (.obj data) ≤ digits (envelope session boot now data) := by
    simp only [envelope, digits, digitsFields]
    omega
  have one : (Nat.toDigits 10 (1 : ℤ).natAbs).length ≤ digits (envelope session boot now data) := by
    rw [← digits_int (S := PyText)]
    simp only [envelope, digits, digitsFields]
    omega
  have inner := fine_digits (.obj data) held few
  unfold Held
  generalize digits (envelope session boot now data) = n at one inner
  simp only [envelope, Fine, FineFields] at inner ⊢
  exact ⟨by simp [Obj.keys], of_whole _, one, of_whole _, whole, of_whole _, of_whole _, of_whole _, exact,
    of_whole _, inner, trivial⟩

end

/-! ### Any number of writes -/

/-- The data is a dictionary of Python, and the clock gives floats. -/
structure Genuine (floats : Floats) (a : Attempt) : Prop where
  held : Held floats (.obj a.data)
  clock : ∀ q, ⟨.clock, .time q⟩ ∈ a.log → floats.exact q

/-- `Ended`, with the clock that the record is stamped by. -/
def Dated (py : Interpreter) (limits : Limits) (floats : FloatText) (s : Store) (name : RecordName) (session : PyText)
    (text : String) (data : Obj PyText) (x : Except Exc Unit) (w : Run) : Prop :=
  (∃ e, x = .error e) ∧ Unrenamed s w ∨ ∃ now file, ⟨.clock, .time now⟩ ∈ w.log ∧ 0 ≤ now ∧ py.isUuid s.boot = true ∧
    serialize py limits floats (envelope session s.boot now data) = .ok file ∧ Written s name text file x w

section
variable {py : Interpreter} {limits : Limits} {floats : FloatText} {s : Store} {w : Run} {name : RecordName}
  {session : PyText}
  {text : String} {data : Obj PyText}

theorem does_clock_time {s' : Store} {fate : Fate} {now : ℚ} (done : s.does py .clock fate = some (.ok now, s')) :
    fate = .time now := by
  cases fate with
  | time q =>
    simp only [Store.does] at done
    split_ifs at done
    rw [Except.ok.inj (Prod.mk.inj (Option.some.inj done)).1]
  | ok => simp [Store.does] at done
  | fails e => simp [Store.does] at done

theorem log_kept {α : Type} (p : Py α) (event : Event) (earlier : event ∈ w.log) :
    p.Ensures (perform py) w fun _ w' => event ∈ w'.log := by
  have kept : p.Preserves (perform py) fun w => event ∈ w.log := by
    refine preserves_of_uses (uses_any p) fun w o fate r w' _ performed earlier => ?_
    obtain ⟨done, _, same⟩ := Option.map_eq_some_iff.mp performed
    rw [← (Prod.mk.inj same).2]
    exact List.mem_append_left _ earlier
  exact kept w earlier

theorem dated_then {o : Op} {f : o.Value → Py Unit} (apart : other o) (still : Unrenamed s w)
    (rest : ∀ fate a s', w.store.does py o fate = some (.ok a, s') → Unrenamed s ⟨s', w.log ++ [⟨o, fate⟩]⟩ →
      (f a).Ensures (perform py) ⟨s', w.log ++ [⟨o, fate⟩]⟩ (Dated py limits floats s name session text data)) :
    (act o >>= f).Ensures (perform py) w (Dated py limits floats s name session text data) := by
  rw [ensures_bind, ensures_act]
  intro fate r s' done
  obtain ⟨boot, files⟩ := does_other apart done
  have after : Unrenamed s ⟨s', w.log ++ [⟨o, fate⟩]⟩ := ⟨boot.trans still.boot, files.trans still.files⟩
  cases r with
  | error e => exact Or.inl ⟨⟨e, rfl⟩, after⟩
  | ok a => exact rest fate a s' done after

theorem dated_raise {e e' : Exc} (told : Dated py limits floats s name session text data (.error e) w) :
    Dated py limits floats s name session text data (.error e') w := by
  rcases told with ⟨_, still⟩ | ⟨now, file, stamped, started, uuid, accepted, ⟨_, still⟩ | ⟨replaced, failed⟩⟩
  · exact Or.inl ⟨⟨e', rfl⟩, still⟩
  · exact Or.inl ⟨⟨e', rfl⟩, still⟩
  · exact Or.inr ⟨now, file, stamped, started, uuid, accepted, Or.inr ⟨replaced, fun _ => failed ⟨e, rfl⟩⟩⟩

theorem write_dated (named : filename session = .ok text) :
    (write py limits floats name session data).Ensures (perform py) ⟨s, []⟩
      (Dated py limits floats s name session text data) := by
  have start : Unrenamed s ⟨s, []⟩ := ⟨rfl, rfl⟩
  rw [write, named, ensures_bind, ensures_ofExcept, afterwards, ensures_handle]
  refine ensures_mono (Q := Dated py limits floats s name session text data) ?_ fun x w told => ?_
  · refine dated_then trivial start fun fate boot s' done still => ?_
    obtain ⟨rfl, uuid⟩ := does_bootId done
    refine dated_then trivial still fun fate now s' done still => ?_
    have started := does_clock done
    obtain rfl := does_clock_time done
    rw [ensures_bind, ensures_ofExcept]
    cases accepted : serialize py limits floats (envelope session s.boot now data) with
    | error e => exact Or.inl ⟨⟨e, rfl⟩, still⟩
    | ok file =>
      refine ensures_mono (ensures_both (written_directory still) (log_kept _ ⟨.clock, .time now⟩ ?_))
        fun x w both => ?_
      · exact List.mem_append_right _ (List.mem_singleton_self _)
      · exact Or.inr ⟨now, file, both.2, started, uuid, accepted, both.1⟩
  · cases x with
    | ok => exact told
    | error e =>
      by_cases here : (e.isOSError || e.isValueError || decide (e = .typeError)) = true
      · rw [caught, if_pos here]
        exact dated_raise told
      · rw [caught, if_neg here]
        exact told

end

/-- A record file that stands for the text of the data. -/
structure Spelled (py : Interpreter) (limits : Limits) (floats : Floats) (t : Store) (name : RecordName)
    (session : PyText) (text : String)
    (now : ℚ) (data : Obj PyText) : Prop where
  exact : floats.exact now
  started : 0 ≤ now
  uuid : py.isUuid t.boot = true
  held : Held floats (.obj data)
  stored : ∃ file, serialize py limits (sizes floats) (envelope session t.boot now data) = .ok file ∧
    t.files name text = some file

/-- What was last written of each record is in its file. -/
def Published (py : Interpreter) (limits : Limits) (floats : Floats) (past : List Attempt) (t : Store) : Prop :=
  ∀ name session data, lastWritten past name session = some data →
    ∃ text now, filename session = .ok text ∧ (Json.obj data).depth < limits.depth ∧
    Spelled py limits floats t name session text now data

section
variable {py : Interpreter} {limits : Limits} {floats : Floats} {s t : Store} {a : Attempt} {w : Run}
  {past : List Attempt}

/-- A write raises and leaves the records alone, or replaces its own. -/
theorem write_spelled (ended : (write py limits (sizes floats) a.name a.session a.data).Ends (perform py)
    ⟨t, []⟩ a.outcome w)
    (log : w.log = a.log) (meets : Meets py limits a) (genuine : Genuine floats a) :
    (∃ e, a.outcome = .error e) ∧ Unrenamed t w ∨ (∃ u, a.outcome = .ok u) ∧ ∃ text now file,
      filename a.session = .ok text ∧
      Replaced t a.name text file w ∧ (Json.obj a.data).depth < limits.depth ∧
        Spelled py limits floats w.store a.name a.session text now a.data := by
  cases named : filename a.session with
  | error e =>
    have refused : (write py limits (sizes floats) a.name a.session a.data).Ensures (perform py) ⟨t, []⟩ fun x w' =>
        (∃ e, x = .error e) ∧ Unrenamed t w' := by
      rw [write, named, ensures_bind, ensures_ofExcept]
      exact ⟨⟨e, rfl⟩, rfl, rfl⟩
    exact Or.inl (ends_ensured ended refused)
  | ok text =>
    rcases ends_ensured ended (write_dated named)
      with raised | ⟨now, file, stamped, started, uuid, accepted, raised | ⟨replaced, failed⟩⟩
    · exact Or.inl raised
    · exact Or.inl raised
    · refine Or.inr ⟨?_, text, now, file, rfl, replaced, ?_, ?_⟩
      · cases outcome : a.outcome with
        | ok u => exact ⟨u, rfl⟩
        | error e => exact absurd meets.smooth (log ▸ failed ⟨e, outcome⟩)
      · have encoded := (serialize_ok accepted).1
        rw [depth_envelope] at encoded
        exact meets.decodes (by omega)
      · refine ⟨genuine.clock now (log ▸ stamped), started, replaced.boot ▸ uuid, genuine.held, file,
          replaced.boot ▸ accepted, ?_⟩
        rw [replaced.files]
        simp [put]

theorem Spelled.kept {u : Store} {name : RecordName} {session : PyText} {text : String} {now : ℚ} {data : Obj PyText}
    (spelled : Spelled py limits floats t name session text now data) (boot : u.boot = t.boot)
    (files : u.files name text = t.files name text) : Spelled py limits floats u name session text now data := by
  obtain ⟨exact, started, uuid, held, file, accepted, stored⟩ := spelled
  exact ⟨exact, started, boot ▸ uuid, held, file, boot ▸ accepted, files.trans stored⟩

theorem published_next (published : Published py limits floats past t)
    (ended : (write py limits (sizes floats) a.name a.session a.data).Ends (perform py) ⟨t, []⟩ a.outcome w)
    (log : w.log = a.log)
    (meets : Meets py limits a) (genuine : Genuine floats a) : Published py limits floats (past ++ [a]) w.store := by
  intro name session data last
  rw [lastWritten_append] at last
  rcases write_spelled ended log meets genuine
    with ⟨⟨e, outcome⟩, still⟩ | ⟨⟨u, outcome⟩, own, now, file, named, replaced, decodes, spelled⟩
  · rw [outcome] at last
    obtain ⟨text, now, named, decodes, spelled⟩ := published name session data last
    exact ⟨text, now, named, decodes, spelled.kept still.boot (by rw [still.files])⟩
  · simp only [outcome] at last
    by_cases here : a.name = name ∧ a.session = session
    · rw [if_pos here] at last
      obtain ⟨rfl, rfl⟩ := here
      obtain rfl := Option.some.inj last
      exact ⟨own, now, named, decodes, spelled⟩
    · rw [if_neg here] at last
      obtain ⟨text, now, named', decodes, spelled⟩ := published name session data last
      refine ⟨text, now, named', decodes, spelled.kept replaced.boot ?_⟩
      rw [replaced.files, put, if_neg]
      rintro ⟨rfl, rfl⟩
      exact here ⟨rfl, (filename_injective named' named).symm⟩

theorem runs_published (runs : Runs py limits (sizes floats) s past t) (met : ∀ a ∈ past, Meets py limits a)
    (genuine : ∀ a ∈ past, Genuine floats a) : Published py limits floats past t := by
  induction runs with
  | start => exact fun _ _ _ last => by simp [lastWritten] at last
  | @wrote past t a w runs ended log ih =>
    have before := ih (fun a member => met a (List.mem_append_left _ member)) fun a member =>
      genuine a (List.mem_append_left _ member)
    have own := List.mem_append_right past (List.mem_singleton_self a)
    exact published_next before ended log (met a own) (genuine a own)

end

/-- After any writes that meet the condition, the file of a record that was written is an ASCII text of at most
    `MAX_RECORD_BYTES` characters, which reads as the data that was last written. -/
theorem records_spelled (py : Interpreter) (limits : Limits) (floats : Floats) (s t : Store) (past : List Attempt)
    (runs : Runs py limits (sizes floats) s past t) (met : ∀ a ∈ past, Meets py limits a)
    (genuine : ∀ a ∈ past, Genuine floats a)
    (name : RecordName) (session : PyText) (data : Obj PyText) (last : lastWritten past name session = some data) :
    ∃ text now file, filename session = .ok text ∧ t.files name text = some file ∧
      Ascii (recordText floats (envelope session t.boot now data)) ∧
      (recordText floats (envelope session t.boot now data)).length = file.bytes ∧ file.bytes ≤ maxRecordBytes ∧
      contentOf limits floats (recordText floats (envelope session t.boot now data)) = some file.content ∧
      readText py limits floats session t.boot (recordText floats (envelope session t.boot now data)) =
        some (.ok (some ⟨session, PyText.of t.boot, now, data⟩)) := by
  obtain ⟨text, now, named, decodes, spelled⟩ := runs_published runs met genuine name session data last
  obtain ⟨file, accepted, stored⟩ := spelled.stored
  have fits := (serialize_ok accepted).2.2.1
  obtain ⟨ascii, length, content⟩ :=
    serialize_text (held_envelope (filename_named named).2 spelled.held spelled.exact) accepted
  refine ⟨text, now, file, named, stored, ascii, length, fits, content, ?_⟩
  rw [readText_examine length fits content, examine, if_neg (not_lt.mpr fits),
    serialize_loads accepted decodes named (fine_whole _ spelled.held)]
  simp [payloadOf_envelope py data (filename_named named).1 spelled.uuid spelled.started, bind, Except.bind]

theorem digits_zero : Digits ['0'] := ⟨by simp, by simp⟩

/-- As if zero were the only float. -/
def nought : Floats where
  exact q := q = 0
  spell _ := ['0', '.', '0']
  read _ := .finite 0
  spelled _ _ := ⟨{
    sign := []
    whole := ['0']
    fraction := ['.', '0']
    exponent := []
    signed := .inl rfl
    digits := digits_zero
    unpadded := fun _ => rfl
    pointed := .inr ⟨['0'], rfl, digits_zero⟩
    marked := .inl rfl }, rfl, by decide⟩
  short _ _ := by decide
  back q zero := by rw [zero]

theorem latch_held : Held nought (.obj latch) := by
  simp only [Held, latch, Fine, FineFields]
  exact ⟨by simp [Obj.keys], of_whole _, trivial, of_whole _, .cons_cons (by decide) (.singleton _), trivial⟩

theorem nought_accepts :
    ∃ file, serialize .cpython ⟨900, 4300⟩ (sizes nought) (envelope [115] bare.boot 0 latch) = .ok file := by
  have encoded : (envelope [115] bare.boot 0 latch).dumps Interpreter.cpython.encodeDepth = .ok () := rfl
  have few : ¬ 4300 < digits (envelope [115] bare.boot 0 latch) := by decide +kernel
  have fits : ¬ maxRecordBytes < recordBytes (sizes nought) (envelope [115] bare.boot 0 latch) := by decide +kernel
  simp only [serialize, encoded, bind, Except.bind, if_neg few, if_neg fits]
  exact ⟨_, rfl⟩

/-- The text of a latch. -/
theorem records_spelled_latch : ∃ (t : Store) (file : File) (now : ℚ), t.files .emergency "s" = some file ∧
    readText .cpython ⟨900, 4300⟩ nought [115] t.boot (recordText nought (envelope [115] t.boot now latch)) =
      some (.ok (some ⟨[115], PyText.of t.boot, now, latch⟩)) := by
  obtain ⟨file, accepted⟩ := nought_accepts
  have named : filename [115] = .ok "s" := rfl
  have uuid : Interpreter.cpython.isUuid bare.boot = true := by decide
  have ran : (write .cpython ⟨900, 4300⟩ (sizes nought) .emergency [115] latch).run (perform .cpython) ⟨bare, []⟩
      ((unhindered file).map Event.fate) =
      some (.ok (), ⟨⟨bare.boot, put bare.files .emergency "s" file, none⟩, unhindered file⟩) := by
    simp only [write, named, unhindered, List.map_cons, Prog.ofExcept, act, bind, Prog.bind, Prog.op,
      Prog.run, Prog.handle, perform, Store.does, uuid, if_true, Option.map, le_refl, accepted]
    rfl
  have meets : ∀ a ∈ [Attempt.mk .emergency [115] latch (.ok ()) (unhindered file)], Meets .cpython ⟨900, 4300⟩ a := by
    intro a member
    obtain rfl := List.mem_singleton.mp member
    exact ⟨smooth_calm (by simp [unhindered, Event.Calm]), fun _ => show 1 < 900 by decide, latch_whole⟩
  have genuine : ∀ a ∈ [Attempt.mk .emergency [115] latch (.ok ()) (unhindered file)], Genuine nought a := by
    intro a member
    obtain rfl := List.mem_singleton.mp member
    refine ⟨latch_held, fun q stamp => ?_⟩
    show q = 0
    simpa [unhindered] using stamp
  have runs := Runs.wrote (a := ⟨.emergency, [115], latch, .ok (), unhindered file⟩) .start (run_ends ran) rfl
  obtain ⟨text, now, file, named', stored, _, _, _, _, reads⟩ :=
    records_spelled .cpython ⟨900, 4300⟩ nought bare _ _ runs meets genuine .emergency [115] latch
      (by simp [lastWritten])
  obtain rfl : "s" = text := Except.ok.inj (named.symm.trans named')
  exact ⟨_, file, now, stored, reads⟩

end Ttp.RecordText
