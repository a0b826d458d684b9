import Ttp.RecordReads

/-!
Any sequence of writes to the directory of the watchdog, each of which may fail
at any of its steps. A record reads as it was last written, or as it was at the
beginning, as long as no step fails after the renaming, nothing is written that
is nested more deeply than the decoder goes, and no string has a surrogate pair
in two code points.
-/
namespace Ttp.RecordRuns
open Ttp.Python Ttp.Program Ttp.RecordSize Ttp.RecordFiles Ttp.RecordReads
open Ttp.Machine (RecordName)

variable {py : Interpreter} {limits : Limits} {floats : FloatText}

/-! ### One write -/

/-- The temporary file became a record. -/
def Renames (event : Event) : Prop := (∃ name session, event.op = .rename name session) ∧ event.fate = .ok

/-- A step that fails, but for the temporary file being gone already. -/
def Breaks (event : Event) : Prop :=
  ∃ e, event.fate = .fails e ∧ ¬ (event.op = .unlinkTemporary ∧ e = .osError "FileNotFoundError")

/-- No step fails after the renaming: the closing of the file, the removal of the temporary one, the closing of the
    directory. -/
def Smooth (log : List Event) : Prop := log.Pairwise fun earlier later => Renames earlier → ¬ Breaks later

/-- The records with another file for one of them. -/
def put (files : RecordName → String → Option File) (name : RecordName) (session : String) (file : File) :
    RecordName → String → Option File :=
  fun n t => if n = name ∧ t = session then some file else files n t

theorem not_smooth_append {log more : List Event} (broken : ¬ Smooth log) : ¬ Smooth (log ++ more) :=
  fun smooth => broken (List.pairwise_append.mp smooth).1

theorem not_smooth_breaks {log : List Event} {event earlier : Event} (member : earlier ∈ log)
    (renamed : Renames earlier)
    (breaks : Breaks event) : ¬ Smooth (log ++ [event]) :=
  fun smooth => (List.pairwise_append.mp smooth).2.2 earlier member event (List.mem_singleton_self _) renamed breaks

theorem smooth_calm {log : List Event} (calm : ∀ event ∈ log, event.Calm) : Smooth log :=
  List.pairwise_of_forall_mem_list fun _ _ later member _ ⟨e, fate, _⟩ => calm later member e fate

section
variable {α β : Type} {s : Store} {name : RecordName} {text : String} {file : File} {w : Run}

/-- The records are as they were. -/
structure Unrenamed (s : Store) (w : Run) : Prop where
  boot : w.store.boot = s.boot
  files : w.store.files = s.files

/-- The record was replaced. -/
structure Replaced (s : Store) (name : RecordName) (text : String) (file : File) (w : Run) : Prop where
  boot : w.store.boot = s.boot
  files : w.store.files = put s.files name text file
  log : ∃ event ∈ w.log, Renames event

/-- How a write of `file` goes on: it raised before it replaced the record, or it replaced it, and raised after that
    only for a step that failed. -/
def Written (s : Store) (name : RecordName) (text : String) (file : File) (x : Except Exc α) (w : Run) : Prop :=
  (∃ e, x = .error e) ∧ Unrenamed s w ∨ Replaced s name text file w ∧ ((∃ e, x = .error e) → ¬ Smooth w.log)

/-- The steps other than the renaming. -/
def other : Op → Prop
  | .rename .. => False
  | _ => True

theorem does_other {o : Op} {fate : Fate} {r : o.Res} {s' : Store} (apart : other o)
    (done : s.does py o fate = some (r, s')) :
    s'.boot = s.boot ∧ s'.files = s.files := by
  cases fate with
  | fails e =>
    obtain ⟨rfl, rfl⟩ : Except.error e = r ∧ s = s' := by simpa [Store.does] using done
    exact ⟨rfl, rfl⟩
  | time q =>
    cases o with
    | clock =>
      simp only [Store.does] at done
      split_ifs at done
      obtain ⟨rfl, rfl⟩ := Prod.mk.inj (Option.some.inj done)
      exact ⟨rfl, rfl⟩
    | _ => simp [Store.does] at done
  | ok =>
    cases o with
    | rename => exact apart.elim
    | clock => simp [Store.does] at done
    | openRecord name session =>
      simp only [Store.does] at done
      split at done
      all_goals
        obtain ⟨rfl, rfl⟩ := Prod.mk.inj (Option.some.inj done)
        exact ⟨rfl, rfl⟩
    | unlinkTemporary =>
      simp only [Store.does] at done
      split at done
      all_goals
        obtain ⟨rfl, rfl⟩ := Prod.mk.inj (Option.some.inj done)
        exact ⟨rfl, rfl⟩
    | _ =>
      obtain ⟨rfl, rfl⟩ := Prod.mk.inj (Option.some.inj done)
      exact ⟨rfl, rfl⟩

theorem act_other {o : Op} (apart : other o) : (act o).Uses other := uses_bind ⟨apart, fun _ => trivial⟩ uses_ofExcept

theorem Replaced.next {o : Op} {fate : Fate} {r : o.Res} {s' : Store} (replaced : Replaced s name text file w)
    (apart : other o)
    (done : w.store.does py o fate = some (r, s')) : Replaced s name text file ⟨s', w.log ++ [⟨o, fate⟩]⟩ := by
  obtain ⟨boot, files⟩ := does_other apart done
  obtain ⟨event, member, renames⟩ := replaced.log
  exact ⟨boot.trans replaced.boot, files.trans replaced.files, event, List.mem_append_left _ member, renames⟩

/-- Other steps leave the records as they are. -/
theorem unrenamed_uses {p : Py α} (used : p.Uses other) : p.Preserves (perform py) (Unrenamed s) := by
  refine preserves_of_uses used fun w o fate r w' apart performed still => ?_
  obtain ⟨⟨r', s'⟩, done, same⟩ := Option.map_eq_some_iff.mp performed
  obtain ⟨rfl, rfl⟩ := Prod.mk.inj same
  obtain ⟨boot, files⟩ := does_other apart done
  exact ⟨boot.trans still.boot, files.trans still.files⟩

theorem replaced_uses {p : Py α} (used : p.Uses other) : p.Preserves (perform py) (Replaced s name text file) := by
  refine preserves_of_uses used fun w o fate r w' apart performed replaced => ?_
  obtain ⟨⟨r', s'⟩, done, same⟩ := Option.map_eq_some_iff.mp performed
  obtain ⟨rfl, rfl⟩ := Prod.mk.inj same
  exact replaced.next apart done

/-- A step before the renaming, and what comes after it. -/
theorem written_then {p : Py α} {f : α → Py β} (used : p.Uses other) (still : Unrenamed s w)
    (rest : ∀ a w', Unrenamed s w' → (f a).Ensures (perform py) w' (Written s name text file)) :
    (p >>= f).Ensures (perform py) w (Written s name text file) :=
  preserves_then (unrenamed_uses used) still rest fun e _ still => Or.inl ⟨⟨e, rfl⟩, still⟩

/-! ### The cleanup -/

/-- What a cleanup raises once a record was replaced is a step that failed. -/
def Tidy (py : Interpreter) (c : Py α) : Prop :=
  ∀ w : Run, (∃ event ∈ w.log, Renames event) → c.Ensures (perform py) w fun y w' =>
    (∃ more, w'.log = w.log ++ more) ∧ ((∃ e, y = .error e) → ¬ Smooth w'.log)

theorem tidy_bind {c : Py α} {f : α → Py β} (first : Tidy py c) (rest : ∀ a, Tidy py (f a)) : Tidy py (c >>= f) := by
  intro w renamed
  rw [ensures_bind]
  refine ensures_mono (first w renamed) fun x w' ended => ?_
  obtain ⟨⟨more, grown⟩, failed⟩ := ended
  cases x with
  | error e => exact ⟨⟨more, grown⟩, fun _ => failed ⟨e, rfl⟩⟩
  | ok a =>
    obtain ⟨event, member, renames⟩ := renamed
    refine ensures_mono (rest a w' ⟨event, grown ▸ List.mem_append_left _ member, renames⟩) fun y w'' ended => ?_
    obtain ⟨⟨more', grown'⟩, failed'⟩ := ended
    exact ⟨⟨more ++ more', by rw [grown', grown, List.append_assoc]⟩, failed'⟩

/-- A closing raises only where it fails. -/
theorem tidy_closing {o : Op} (closing : o = .close ∨ o = .closeDirectory) : Tidy py (act o) := by
  intro w renamed
  rw [ensures_act]
  intro fate r s' done
  refine ⟨⟨_, rfl⟩, ?_⟩
  rintro ⟨e, rfl⟩
  obtain ⟨earlier, member, renames⟩ := renamed
  cases fate with
  | fails e' =>
    exact not_smooth_breaks member renames ⟨_, rfl, fun unlinks => by rcases closing with rfl | rfl <;> cases unlinks.1⟩
  | ok => rcases closing with rfl | rfl <;> simp [Store.does] at done
  | time q => rcases closing with rfl | rfl <;> simp [Store.does] at done

/-- The removal of the temporary file, which may be gone. -/
theorem tidy_unlink : Tidy py
    ((act .unlinkTemporary).handle fun e => if e = .osError "FileNotFoundError" then some (pure ()) else none) := by
  intro w renamed
  rw [ensures_handle, ensures_act]
  intro fate r s' done
  obtain ⟨earlier, member, renames⟩ := renamed
  cases r with
  | ok => exact ⟨⟨_, rfl⟩, by simp⟩
  | error e =>
    by_cases missing : e = .osError "FileNotFoundError"
    · rw [caught, if_pos missing]
      exact ⟨⟨_, rfl⟩, by simp⟩
    · rw [caught, if_neg missing]
      refine ⟨⟨_, rfl⟩, fun _ => ?_⟩
      cases fate with
      | fails e' =>
        obtain rfl := Except.error.inj (Prod.mk.inj (Option.some.inj done)).1
        exact not_smooth_breaks member renames ⟨_, rfl, fun unlinks => missing unlinks.2⟩
      | time q => simp [Store.does] at done
      | ok =>
        simp only [Store.does] at done
        split at done
        · simp at done
        · obtain ⟨raised, _⟩ := Prod.mk.inj (Option.some.inj done)
          exact absurd (Except.error.inj raised).symm missing

/-- A cleanup after the renaming or a failure before it. -/
theorem written_always {p : Py α} {c : Py Unit} (body : p.Ensures (perform py) w (Written s name text file))
    (used : c.Uses other)
    (tidy : Tidy py c) : (p.always c).Ensures (perform py) w (Written s name text file) := by
  rw [ensures_always]
  refine ensures_mono body fun x w' written => ?_
  rcases written with ⟨⟨e, rfl⟩, still⟩ | ⟨replaced, failed⟩
  · refine ensures_mono (unrenamed_uses used w' still) fun y w'' still => ?_
    cases y with
    | ok => exact Or.inl ⟨⟨e, rfl⟩, still⟩
    | error e' => exact Or.inl ⟨⟨e', rfl⟩, still⟩
  · refine ensures_mono (ensures_both (replaced_uses used w' replaced) (tidy w' replaced.log)) fun y w'' ended => ?_
    obtain ⟨replaced, ⟨more, grown⟩, untidy⟩ := ended
    cases y with
    | ok =>
      refine Or.inr ⟨replaced, fun raised => ?_⟩
      rw [grown]
      exact not_smooth_append (failed raised)
    | error e' => exact Or.inr ⟨replaced, fun _ => untidy ⟨e', rfl⟩⟩

/-! ### The renaming -/

theorem written_rename (still : Unrenamed s w) (filled : w.store.temporary = some file) :
    (act (.rename name text)).Ensures (perform py) w (Written s name text file) := by
  rw [ensures_act]
  intro fate r s' done
  cases fate with
  | fails e =>
    obtain ⟨rfl, rfl⟩ : Except.error e = r ∧ w.store = s' := by simpa [Store.does] using done
    exact Or.inl ⟨⟨e, rfl⟩, still.boot, still.files⟩
  | time q => simp [Store.does] at done
  | ok =>
    obtain ⟨rfl, rfl⟩ := Prod.mk.inj (Option.some.inj done)
    refine Or.inr ⟨⟨still.boot, ?_, _, List.mem_append_right _ (List.mem_singleton_self _), ⟨_, _, rfl⟩, rfl⟩, by simp⟩
    funext n t
    simp only [Store.renamed, put, filled, still.files]

theorem written_publish (still : Unrenamed s w) :
    (publish name text file).Ensures (perform py) w (Written s name text file) := by
  refine written_then (act_other trivial) still fun _ w' still => ?_
  refine written_always ?_ ?_ (tidy_bind (tidy_closing (Or.inl rfl)) fun _ => tidy_unlink)
  · refine written_then (act_other trivial) still fun _ w' still => ?_
    rw [ensures_bind, ensures_act]
    intro fate r s' done
    cases fate with
    | fails e =>
      obtain ⟨rfl, rfl⟩ : Except.error e = r ∧ w'.store = s' := by simpa [Store.does] using done
      exact Or.inl ⟨⟨e, rfl⟩, still.boot, still.files⟩
    | time q => simp [Store.does] at done
    | ok =>
      obtain ⟨rfl, rfl⟩ := Prod.mk.inj (Option.some.inj done)
      exact written_rename ⟨still.boot, still.files⟩ rfl
  · exact uses_bind (act_other trivial) fun _ => uses_catch (act_other trivial) fun _ => uses_pure ()

theorem written_directory (still : Unrenamed s w) :
    (directory (publish name text file)).Ensures (perform py) w (Written s name text file) := by
  refine written_then (act_other trivial) still fun _ w' still => ?_
  refine written_always ?_ (act_other trivial) (tidy_closing (Or.inr rfl))
  exact written_then (act_other trivial) still fun _ w' still => written_publish still

/-! ### The whole write -/

/-- How a write ends: it raised and changed nothing, or it had a file of the data to publish. -/
def Ended (py : Interpreter) (limits : Limits) (floats : FloatText) (s : Store) (name : RecordName) (session : PyText)
    (text : String)
    (data : Obj PyText) (x : Except Exc Unit) (w : Run) : Prop :=
  (∃ e, x = .error e) ∧ Unrenamed s w ∨ ∃ now file, 0 ≤ now ∧ py.isUuid s.boot = true ∧
    serialize py limits floats (envelope session s.boot now data) = .ok file ∧ Written s name text file x w

theorem does_bootId {s s' : Store} {fate : Fate} {boot : String} (done : s.does py .bootId fate = some (.ok boot, s')) :
    boot = s.boot ∧ py.isUuid s.boot = true := by
  cases fate with
  | ok =>
    obtain ⟨same, _⟩ := Prod.mk.inj (Option.some.inj done)
    by_cases uuid : py.isUuid s.boot = true
    · rw [if_pos uuid] at same
      exact ⟨(Except.ok.inj same).symm, uuid⟩
    · rw [if_neg uuid] at same
      cases same
  | fails e => simp [Store.does] at done
  | time q => simp [Store.does] at done

theorem does_clock {s s' : Store} {fate : Fate} {now : ℚ} (done : s.does py .clock fate = some (.ok now, s')) :
    0 ≤ now := by
  cases fate with
  | time q =>
    simp only [Store.does] at done
    split_ifs at done with started
    obtain rfl := Except.ok.inj (Prod.mk.inj (Option.some.inj done)).1
    exact started
  | ok => simp [Store.does] at done
  | fails e => simp [Store.does] at done

/-- A step before there is a file, and what comes after it. -/
theorem ended_then {o : Op} {f : o.Value → Py Unit} {session : PyText} {data : Obj PyText} (apart : other o)
    (still : Unrenamed s w)
    (rest : ∀ fate a s', w.store.does py o fate = some (.ok a, s') → Unrenamed s ⟨s', w.log ++ [⟨o, fate⟩]⟩ →
      (f a).Ensures (perform py) ⟨s', w.log ++ [⟨o, fate⟩]⟩ (Ended py limits floats s name session text data)) :
    (act o >>= f).Ensures (perform py) w (Ended py limits floats s name session text data) := by
  rw [ensures_bind, ensures_act]
  intro fate r s' done
  obtain ⟨boot, files⟩ := does_other apart done
  have after : Unrenamed s ⟨s', w.log ++ [⟨o, fate⟩]⟩ := ⟨boot.trans still.boot, files.trans still.files⟩
  cases r with
  | error e => exact Or.inl ⟨⟨e, rfl⟩, after⟩
  | ok a => exact rest fate a s' done after

theorem ended_raise {session : PyText} {data : Obj PyText} {e e' : Exc}
    (told : Ended py limits floats s name session text data (.error e) w) :
    Ended py limits floats s name session text data (.error e') w := by
  rcases told with ⟨_, still⟩ | ⟨now, file, started, uuid, accepted, ⟨_, still⟩ | ⟨replaced, failed⟩⟩
  · exact Or.inl ⟨⟨e', rfl⟩, still⟩
  · exact Or.inl ⟨⟨e', rfl⟩, still⟩
  · exact Or.inr ⟨now, file, started, uuid, accepted, Or.inr ⟨replaced, fun _ => failed ⟨e, rfl⟩⟩⟩

theorem write_ended {session : PyText} {data : Obj PyText} (named : filename session = .ok text) :
    (write py limits floats name session data).Ensures (perform py) ⟨s, []⟩
      (Ended py limits floats s name session text data) := by
  have start : Unrenamed s ⟨s, []⟩ := ⟨rfl, rfl⟩
  rw [write, named, ensures_bind, ensures_ofExcept, afterwards, ensures_handle]
  refine ensures_mono (Q := Ended py limits floats s name session text data) ?_ fun x w told => ?_
  · refine ended_then trivial start fun fate boot s' done still => ?_
    obtain ⟨rfl, uuid⟩ := does_bootId done
    refine ended_then trivial still fun fate now s' done still => ?_
    have started := does_clock done
    rw [ensures_bind, ensures_ofExcept]
    cases accepted : serialize py limits floats (envelope session s.boot now data) with
    | error e => exact Or.inl ⟨⟨e, rfl⟩, still⟩
    | ok file =>
      exact ensures_mono (written_directory still) fun x w written =>
        Or.inr ⟨now, file, started, uuid, accepted, written⟩
  · cases x with
    | ok => exact told
    | error e =>
      by_cases here : (e.isOSError || e.isValueError || decide (e = .typeError)) = true
      · rw [caught, if_pos here]
        exact ended_raise told
      · rw [caught, if_neg here]
        exact told

end

/-! ### What reads come back with -/

/-- The name of a record holds the code points of the session. -/
theorem filename_chars {session : PyText} {text : String} (named : filename session = .ok text) :
    session ≠ [] ∧ session.map Fin.val = text.toList.map Char.toNat := by
  unfold filename PyText.encode at named
  split_ifs at named with empty surrogates
  refine ⟨empty, ?_⟩
  rw [← Except.ok.inj named, String.toList_ofList, List.map_map]
  refine List.map_congr_left fun c member => ?_
  have plain : isSurrogate c = false := by
    rw [Bool.not_eq_true, List.any_eq_false] at surrogates
    simpa using surrogates c member
  exact (toNat_char plain).symm

/-- Two sessions never share the names of their records. -/
theorem filename_injective {a b : PyText} {text : String} (first : filename a = .ok text)
    (second : filename b = .ok text) : a = b :=
  List.map_injective_iff.mpr (fun _ _ => Fin.eq_of_val_eq)
    ((filename_chars first).2.trans (filename_chars second).2.symm)

/-- A session that names records is not empty, and has no surrogates. -/
theorem filename_named {session : PyText} {text : String} (named : filename session = .ok text) :
    session ≠ [] ∧ session.Whole := by
  have nonempty := (filename_chars named).1
  rw [filename, if_neg nonempty] at named
  exact ⟨nonempty, encode_whole named⟩

mutual
/-- What can be encoded is not nested more deeply than the encoder goes. -/
theorem dumps_depth {S : Type} (fuel : Nat) : ∀ value : Json S, value.dumps fuel = .ok () → value.depth ≤ fuel
  | .arr items, encoded => by
    cases fuel with
    | zero => simp [Json.dumps] at encoded
    | succ fuel =>
      have inside := dumpsItems_depth fuel items (by simpa only [Json.dumps] using encoded)
      simp only [Json.depth]
      omega
  | .obj fields, encoded => by
    cases fuel with
    | zero => simp [Json.dumps] at encoded
    | succ fuel =>
      have inside := dumpsFields_depth fuel fields (by simpa only [Json.dumps] using encoded)
      simp only [Json.depth]
      omega
  | .null, _ => Nat.zero_le fuel
  | .bool _, _ => Nat.zero_le fuel
  | .int _, _ => Nat.zero_le fuel
  | .float _, _ => Nat.zero_le fuel
  | .str _, _ => Nat.zero_le fuel
theorem dumpsItems_depth {S : Type} (fuel : Nat) : ∀ items :
    List (Json S), Json.dumpsItems fuel items = .ok () → Json.depthItems items ≤ fuel
  | [], _ => Nat.zero_le fuel
  | item :: rest, encoded => by
    simp only [Json.dumpsItems] at encoded
    split at encoded
    case h_1 first =>
      have item' := dumps_depth fuel item first
      have others := dumpsItems_depth fuel rest encoded
      simp only [Json.depthItems]
      omega
    case h_2 => cases encoded
theorem dumpsFields_depth {S : Type} (fuel : Nat) : ∀ fields :
    List (S × Json S), Json.dumpsFields fuel fields = .ok () → Json.depthFields fields ≤ fuel
  | [], _ => Nat.zero_le fuel
  | (_, value) :: rest, encoded => by
    simp only [Json.dumpsFields] at encoded
    split at encoded
    case h_1 first =>
      have value' := dumps_depth fuel value first
      have others := dumpsFields_depth fuel rest encoded
      simp only [Json.depthFields]
      omega
    case h_2 => cases encoded
end

section
variable {s t : Store} {name : RecordName} {session : PyText} {text boot : String} {now : ℚ}
  {data : Obj PyText} {file : File}

theorem depth_envelope : (envelope session boot now data).depth = (Json.obj data).depth + 1 := by
  simp [envelope, Json.depth, Json.depthFields]

theorem whole_envelope (named : filename session = .ok text) (whole : Whole (.obj data)) :
    Whole (envelope session boot now data) := by
  simp only [envelope, Whole, WholeFields] at whole ⊢
  exact ⟨by simp [Obj.keys], of_whole _, trivial, of_whole _, (filename_named named).2, of_whole _, of_whole _,
    of_whole _, trivial, of_whole _, whole, trivial⟩

/-- What `write` accepts. -/
theorem serialize_ok {payload : Json PyText} (accepted : serialize py limits floats payload = .ok file) :
    payload.depth ≤ py.encodeDepth ∧ digits payload ≤ limits.digits ∧ file.bytes ≤ maxRecordBytes ∧
      file.content = decoded limits payload := by
  unfold serialize at accepted
  obtain ⟨_, encoded, accepted⟩ := bind_ok accepted
  split_ifs at accepted with long large
  obtain rfl := Except.ok.inj accepted
  exact ⟨dumps_depth _ _ encoded, Nat.not_lt.mp long, Nat.not_lt.mp large, rfl⟩

theorem readNow_congr (boot : t.boot = s.boot)
    (files : ∀ text, filename session = .ok text → t.files name text = s.files name text) :
    readNow py t name session = readNow py s name session := by
  unfold readNow
  cases named : filename session with
  | error e => rfl
  | ok text => simp only [boot, opened, files text named]

theorem serialize_loads (accepted : serialize py limits floats (envelope session boot now data) = .ok file)
    (decodes : (Json.obj data).depth < limits.depth) (named : filename session = .ok text) (whole : Whole (.obj data)) :
    file.content.loads = .ok (envelope session boot now data) := by
  obtain ⟨_, short, _, content⟩ := serialize_ok accepted
  rw [content, decoded, depth_envelope, if_neg (by omega), if_neg (by omega),
    whole_joined _ (whole_envelope named whole)]
  rfl

/-- A record reads as it was written. -/
theorem readNow_written (named : filename session = .ok text) (uuid : py.isUuid t.boot = true) (started : 0 ≤ now)
    (accepted : serialize py limits floats (envelope session t.boot now data) = .ok file)
    (stored : t.files name text = some file)
    (decodes : (Json.obj data).depth < limits.depth) (whole : Whole (.obj data)) :
    readNow py t name session = .ok (some ⟨session, PyText.of t.boot, now, data⟩) := by
  have fits := (serialize_ok accepted).2.2.1
  have examined : examine py session t.boot file = .ok (some ⟨session, PyText.of t.boot, now, data⟩) := by
    rw [examine, if_neg (by omega), serialize_loads accepted decodes named whole]
    simp [payloadOf_envelope py data (filename_named named).1 uuid started, bind, Except.bind]
  simp [readNow, named, uuid, opened, stored, examined, settled, bind, Except.bind]

end

/-! ### Any number of writes -/

/-- A write, as it ended. -/
structure Attempt where
  name : RecordName
  session : PyText
  data : Obj PyText
  outcome : Except Exc Unit
  log : List Event

/-- The writes of one boot, one after the other, each with the directory as the one before left it. -/
inductive Runs (py : Interpreter) (limits : Limits) (floats : FloatText) (s : Store) : List Attempt → Store → Prop where
  | start : Runs py limits floats s [] s
  | wrote {past : List Attempt} {t : Store} {a : Attempt} {w : Run} : Runs py limits floats s past t →
      (write py limits floats a.name a.session a.data).Ends (perform py) ⟨t, []⟩ a.outcome w → w.log = a.log →
        Runs py limits floats s (past ++ [a]) w.store

/-- No step fails after the renaming, the decoder goes as deep as the data that the encoder accepts, and the data is a
    dictionary in which no string has a surrogate pair in two code points. -/
structure Meets (py : Interpreter) (limits : Limits) (a : Attempt) : Prop where
  smooth : Smooth a.log
  decodes : (Json.obj a.data).depth < py.encodeDepth → (Json.obj a.data).depth < limits.depth
  whole : Whole (.obj a.data)

/-- The data of the last write of a record that worked. -/
def lastWritten (past : List Attempt) (name : RecordName) (session : PyText) : Option (Obj PyText) :=
  past.foldl (fun found a =>
    match a.outcome with
    | .ok _ => if a.name = name ∧ a.session = session then some a.data else found
    | .error _ => found) none

/-- A file that passes the checks of `read`: of its size, and of the schema and the timestamp of what it decodes to. -/
def Passes (py : Interpreter) (file : File) : Prop :=
  file.bytes ≤ maxRecordBytes ∧ ∃ value payload, file.content.loads = .ok value ∧ payloadOf py value = .ok payload

/-- A record reads as the data. -/
def Holds (py : Interpreter) (s : Store) (name : RecordName) (session : PyText) (data : Obj PyText) : Prop :=
  ∃ payload, readNow py s name session = .ok (some payload) ∧ payload.data = data

/-- Each record reads as it was last written, or as it did at the beginning. -/
def Standing (py : Interpreter) (s : Store) (past : List Attempt) (t : Store) : Prop :=
  ∀ name session,
    match lastWritten past name session with
    | some data => Holds py t name session data
    | none => readNow py t name session = readNow py s name session

/-- What one write does to the reads: one that raises changes none, one that works changes its own. -/
def Isolated (py : Interpreter) (s : Store) (a : Attempt) (t : Store) : Prop :=
  match a.outcome with
  | .error _ => ∀ name session, readNow py t name session = readNow py s name session
  | .ok _ => Holds py t a.name a.session a.data ∧ (∃ file, Stored t a.name a.session file ∧ Passes py file) ∧
      ∀ name session, ¬ (name = a.name ∧ session = a.session) → readNow py t name session = readNow py s name session

section
variable {s t : Store} {a : Attempt} {w : Run} {past : List Attempt}

theorem isolated_unrenamed (still : Unrenamed t w) (raised : ∃ e, a.outcome = .error e) : Isolated py t a w.store := by
  obtain ⟨e, outcome⟩ := raised
  rw [Isolated, outcome]
  exact fun name session => readNow_congr still.boot fun text _ => by rw [still.files]

/-- An accepted content passes the checks of `read`. -/
theorem serialize_passes {session : PyText} {text boot : String} {now : ℚ} {data : Obj PyText} {file : File}
    (named : filename session = .ok text) (uuid : py.isUuid boot = true) (whole : Whole (.obj data))
    (started : 0 ≤ now) (accepted : serialize py limits floats (envelope session boot now data) = .ok file)
    (decodes : (Json.obj data).depth < limits.depth) : Passes py file :=
  ⟨(serialize_ok accepted).2.2.1, _, _, serialize_loads accepted decodes named whole,
    payloadOf_envelope py data (filename_named named).1 uuid started⟩

theorem isolated_replaced {text : String} {now : ℚ} {file : File} (named : filename a.session = .ok text)
    (started : 0 ≤ now)
    (uuid : py.isUuid t.boot = true) (accepted :
      serialize py limits floats (envelope a.session t.boot now a.data) = .ok file)
    (replaced : Replaced t a.name text file w) (worked : ∃ u, a.outcome = .ok u) (meets : Meets py limits a) :
    Isolated py t a w.store := by
  obtain ⟨_, outcome⟩ := worked
  have encoded := (serialize_ok accepted).1
  rw [depth_envelope] at encoded
  have decodes := meets.decodes (by omega)
  have stored : w.store.files a.name text = some file := by
    rw [replaced.files]
    simp [put]
  rw [Isolated, outcome]
  refine ⟨⟨⟨a.session, PyText.of w.store.boot, now, a.data⟩, ?_, rfl⟩,
    ⟨file, ⟨text, named, stored⟩, serialize_passes named uuid meets.whole started accepted decodes⟩, ?_⟩
  · exact readNow_written named (replaced.boot ▸ uuid) started (replaced.boot ▸ accepted) stored decodes meets.whole
  · intro name session apart
    refine readNow_congr replaced.boot fun text' named' => ?_
    rw [replaced.files, put, if_neg]
    rintro ⟨rfl, rfl⟩
    exact apart ⟨rfl, filename_injective named' named⟩

theorem write_isolated (ended : (write py limits floats a.name a.session a.data).Ends (perform py) ⟨t, []⟩ a.outcome w)
    (log : w.log = a.log) (meets : Meets py limits a) : Isolated py t a w.store ∧ w.store.boot = t.boot := by
  cases named : filename a.session with
  | error e =>
    have refused : (write py limits floats a.name a.session a.data).Ensures (perform py) ⟨t, []⟩ fun x w' =>
        (∃ e, x = .error e) ∧ Unrenamed t w' := by
      rw [write, named, ensures_bind, ensures_ofExcept]
      exact ⟨⟨e, rfl⟩, rfl, rfl⟩
    obtain ⟨raised, still⟩ := ends_ensured ended refused
    exact ⟨isolated_unrenamed still raised, still.boot⟩
  | ok text =>
    rcases ends_ensured ended (write_ended named) with ⟨raised, still⟩ | ⟨now, file, started, uuid, accepted, written⟩
    · exact ⟨isolated_unrenamed still raised, still.boot⟩
    · rcases written with ⟨raised, still⟩ | ⟨replaced, failed⟩
      · exact ⟨isolated_unrenamed still raised, still.boot⟩
      · refine ⟨isolated_replaced named started uuid accepted replaced ?_ meets, replaced.boot⟩
        cases outcome : a.outcome with
        | ok u => exact ⟨u, rfl⟩
        | error e => exact absurd meets.smooth (log ▸ failed ⟨e, outcome⟩)

theorem lastWritten_append (name : RecordName) (session : PyText) : lastWritten (past ++ [a]) name session =
    match a.outcome with
    | .ok _ => if a.name = name ∧ a.session = session then some a.data else lastWritten past name session
    | .error _ => lastWritten past name session := by
  simp only [lastWritten, List.foldl_append, List.foldl_cons, List.foldl_nil]

theorem standing_next {u : Store} (standing : Standing py s past t) (isolated : Isolated py t a u) :
    Standing py s (past ++ [a]) u := by
  have kept {name : RecordName} {session : PyText} (same : readNow py u name session = readNow py t name session) :
      match lastWritten past name session with
      | some data => Holds py u name session data
      | none => readNow py u name session = readNow py s name session := by
    have before := standing name session
    cases last : lastWritten past name session with
    | some data =>
      simp only [last] at before
      obtain ⟨payload, reads, holds⟩ := before
      exact ⟨payload, same.trans reads, holds⟩
    | none =>
      simp only [last] at before
      exact same.trans before
  intro name session
  rw [lastWritten_append]
  unfold Isolated at isolated
  cases outcome : a.outcome with
  | error e =>
    simp only [outcome] at isolated
    exact kept (isolated name session)
  | ok =>
    simp only [outcome] at isolated
    obtain ⟨holds, _, others⟩ := isolated
    by_cases here : a.name = name ∧ a.session = session
    · simp only [if_pos here]
      exact here.1 ▸ here.2 ▸ holds
    · simp only [if_neg here]
      exact kept (others name session fun same => here ⟨same.1.symm, same.2.symm⟩)

theorem runs_standing (runs : Runs py limits floats s past t) (met : ∀ a ∈ past, Meets py limits a) :
    Standing py s past t := by
  induction runs with
  | start => exact fun name session => rfl
  | @wrote past t a w runs ended log ih =>
    have before := ih fun a member => met a (List.mem_append_left _ member)
    exact standing_next before
      (write_isolated ended log (met a (List.mem_append_right _ (List.mem_singleton_self _)))).1

end

/-- No record, in the boot of a fresh host. -/
def bare : Store := ⟨Machine.Host.fresh.bootId, fun _ _ => none, none⟩

/-- The data of a latch, with a code point beyond 16 bits and a single surrogate in its reason. -/
def latch : Obj PyText :=
  [(PyText.of "requested", .bool true), (PyText.of "reason", .str [⟨0x1F600, by decide⟩, ⟨0xD800, by decide⟩])]

theorem latch_whole : Whole (.obj latch) := by
  refine ⟨by simp [latch, Obj.keys], of_whole _, trivial, of_whole _, ?_, trivial⟩
  exact .cons_cons (by decide) (.singleton _)

theorem bare_accepts : ∃ file, serialize .cpython ⟨900, 4300⟩ zeros (envelope [115] bare.boot 0 latch) = .ok file := by
  have encoded : (envelope [115] bare.boot 0 latch).dumps Interpreter.cpython.encodeDepth = .ok () := rfl
  have short : ¬ 4300 < digits (envelope [115] bare.boot 0 latch) := by decide +kernel
  have fits : ¬ maxRecordBytes < recordBytes zeros (envelope [115] bare.boot 0 latch) := by decide +kernel
  simp only [serialize, encoded, bind, Except.bind, if_neg short, if_neg fits]
  exact ⟨_, rfl⟩

/-- In every run of writes that meet the condition, each record reads as it was last written, or as it did at the
    beginning; and the next write, if it meets the condition, changes no read but its own, which it changes only if it
    works. -/
theorem records_kept (py : Interpreter) (limits : Limits) (floats : FloatText) (s t : Store) (past : List Attempt)
    (runs : Runs py limits floats s past t) (met : ∀ a ∈ past, Meets py limits a) :
    Standing py s past t ∧
      ∀ a w, (write py limits floats a.name a.session a.data).Ends (perform py) ⟨t, []⟩ a.outcome w → w.log = a.log →
        Meets py limits a → Isolated py t a w.store :=
  ⟨runs_standing runs met, fun _ _ ended log meets => (write_isolated ended log meets).1⟩

/-- The steps of a write that works. -/
def unhindered (file : File) : List Event :=
  [⟨.bootId, .ok⟩, ⟨.clock, .time 0⟩, ⟨.openDirectory, .ok⟩, ⟨.inspectDirectory, .ok⟩, ⟨.openTemporary, .ok⟩,
    ⟨.restrict, .ok⟩,
    ⟨.fill file, .ok⟩, ⟨.rename .emergency "s", .ok⟩, ⟨.close, .ok⟩, ⟨.unlinkTemporary, .ok⟩, ⟨.closeDirectory, .ok⟩]

/-- A latch that was published reads back. -/
theorem records_kept_published : ∃ t log,
    Runs .cpython ⟨900, 4300⟩ zeros bare [⟨.emergency, [115], latch, .ok (), log⟩] t ∧
    Holds .cpython t .emergency [115] latch := by
  obtain ⟨file, accepted⟩ := bare_accepts
  have named : filename [115] = .ok "s" := rfl
  have uuid : Interpreter.cpython.isUuid bare.boot = true := by decide
  have ran : (write .cpython ⟨900, 4300⟩ zeros .emergency [115] latch).run (perform .cpython) ⟨bare, []⟩
    ((unhindered file).map Event.fate) =
      some (.ok (), ⟨⟨bare.boot, put bare.files .emergency "s" file, none⟩, unhindered file⟩) := by
    simp only [write, named, unhindered, List.map_cons, Prog.ofExcept, act, bind, Prog.bind, Prog.op, Prog.run,
      Prog.handle, perform, Store.does, uuid,
      if_true, Option.map, le_refl, accepted]
    rfl
  have meets : ∀ a ∈ [Attempt.mk .emergency [115] latch (.ok ()) (unhindered file)], Meets .cpython ⟨900, 4300⟩ a := by
    intro a member
    obtain rfl := List.mem_singleton.mp member
    exact ⟨smooth_calm (by simp [unhindered, Event.Calm]), fun _ => show 1 < 900 by decide, latch_whole⟩
  have runs := Runs.wrote (a := ⟨.emergency, [115], latch, .ok (), unhindered file⟩) .start (run_ends ran) rfl
  exact ⟨_, _, runs, (records_kept .cpython ⟨900, 4300⟩ zeros bare _ _ runs meets).1 .emergency [115]⟩

/-- A latch that is published while its file cannot be closed. -/
def unclosed : List Fate := [.ok, .time 0, .ok, .ok, .ok, .ok, .ok, .ok, .fails (.osError "OSError"), .ok]

/-- A write that raises although its record was replaced. -/
theorem raised_write_reads : ∃ w, (write .cpython ⟨900, 4300⟩ zeros .emergency [115] latch).Ends
    (perform .cpython) ⟨bare, []⟩
      (.error (.stateError "Cannot publish emergency observation: ")) w ∧
    readNow .cpython bare .emergency [115] = .ok none ∧ Holds .cpython w.store .emergency [115] latch := by
  obtain ⟨file, accepted⟩ := bare_accepts
  have named : filename [115] = .ok "s" := rfl
  have uuid : Interpreter.cpython.isUuid bare.boot = true := by decide
  have ran : ∃ log, (write .cpython ⟨900, 4300⟩ zeros .emergency [115] latch).run (perform .cpython)
    ⟨bare, []⟩ unclosed =
      some (.error (.stateError "Cannot publish emergency observation: "),
        ⟨⟨bare.boot, put bare.files .emergency "s" file, none⟩, log⟩) := by
    simp only [write, named, unclosed, Prog.ofExcept, act, bind, Prog.bind, Prog.op, Prog.run, Prog.handle, perform,
      Store.does, uuid, if_true, Option.map, le_refl, accepted]
    exact ⟨_, rfl⟩
  obtain ⟨log, ran⟩ := ran
  have stored : put bare.files .emergency "s" file .emergency "s" = some file := by simp [put]
  refine ⟨_, run_ends ran, ?_, _, readNow_written named uuid le_rfl accepted stored ?_ latch_whole, rfl⟩
  · simp only [readNow, named, if_pos uuid]
    rfl
  · decide

end Ttp.RecordRuns
