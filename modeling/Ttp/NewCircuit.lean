import Ttp.IpAddress
import Ttp.Python
import Ttp.Text

/-!
`get_exit_ip` and `request_new_circuit` of `ttp/tor_control.py`: the exit address
by what the endpoints reply, and the polling for another one after `NEWNYM`. An
address and the two words for its absence are strings of one type.
-/
namespace Ttp.NewCircuit
open Ttp.Python Ttp.IpAddress

/-! ### The exit address -/

/-- `_canonical_ip`. -/
def canonicalIp : Json → Option String
  | .str value =>
    let value := Text.strip value.toList
    if value.isEmpty || 45 < value.length then none else (ipAddress value).map fun a => String.ofList a.text
  | _ => none

def noAnswer : String := "unknown"

def malformedAnswer : String := "malformed"

def verifyEndpoints : List String :=
  ["https://check.torproject.org/api/ip", "https://api.ipify.org?format=json", "https://ifconfig.me/all.json"]

/-- What the endpoints reply in one round: an object, or nothing. -/
abbrev Replies := String → Option Obj

/-- `a or b`. -/
def orElse (a b : Json) : Json := if a.truthy then a else b

/-- `data.get("IP") or data.get("ip") or data.get("ip_addr")`. -/
def ipField (data : Obj) : Json := orElse (orElse (data.get "IP") (data.get "ip")) (data.get "ip_addr")

/-- The loop of `get_exit_ip`. -/
def tryEndpoints (replies : Replies) (sawReply : Bool) : List String → String
  | [] => if sawReply then malformedAnswer else noAnswer
  | endpoint :: rest =>
    match replies endpoint with
    | none => tryEndpoints replies sawReply rest
    | some data =>
      match canonicalIp (ipField data) with
      | some ip => ip
      | none => tryEndpoints replies true rest

/-- `get_exit_ip`. -/
def getExitIp (replies : Replies) : String := tryEndpoints replies false verifyEndpoints

/-! ### The new circuit -/

/-- What becomes of the `NEWNYM` signal. -/
inductive Signal where
  /-- There is no controller. -/
  | unreachable
  /-- An `OSError` or a `stem.ControllerError`. -/
  | refused (message : String)
  | sent

/-- The polling, with the address of the last round. -/
def poll (oldIp : String) : List Replies → String → Bool × String
  | [], newIp => (false, newIp)
  | replies :: rest, _ =>
    let newIp := getExitIp replies
    if newIp ≠ oldIp ∧ newIp ≠ "unknown" then (true, newIp) else poll oldIp rest newIp

/-- `request_new_circuit`, by the replies before the signal and in the rounds after it. -/
def requestNewCircuit (before : Replies) (signal : Signal) (rounds : Nat → Replies) : Except Exc (Bool × String) :=
  let oldIp := getExitIp before
  match signal with
  | .unreachable => .error (.torError "Cannot connect to Tor control interface. Check that Tor is running.")
  | .refused message => .error (.torError s!"Failed to request new circuit from Tor controller: {message}")
  | .sent => .ok (poll oldIp ((List.range 12).map rounds) oldIp)

/-! ### What a round answers -/

/-- A canonical address: the text of one. -/
def Canonical (ip : String) : Prop := ∃ a : Address, ip = String.ofList a.text

/-- An endpoint replies with the address. -/
def Observed (replies : Replies) (ip : String) : Prop :=
  ∃ endpoint ∈ verifyEndpoints, ∃ data, replies endpoint = some data ∧ canonicalIp (ipField data) = some ip

inductive Answer where
  | address (ip : String)
  /-- There are replies, and none with an address. -/
  | malformed
  | missing
  deriving DecidableEq

/-- The address that an endpoint replies with. -/
def addressFrom (replies : Replies) (endpoint : String) : Option String :=
  (replies endpoint).bind fun data => canonicalIp (ipField data)

/-- What the endpoints answer: the first address, if there is one. -/
def answerOf (replies : Replies) : Answer :=
  match verifyEndpoints.findSome? (addressFrom replies) with
  | some ip => .address ip
  | none => if verifyEndpoints.any fun endpoint => (replies endpoint).isSome then .malformed else .missing

def Answer.word : Answer → String
  | .address ip => ip
  | .malformed => malformedAnswer
  | .missing => noAnswer

/-- Another answer than no reply and than the one before the signal. -/
def news (before answer : Answer) : Bool := answer != .missing && answer != before

/-- The first round with news, if there is one, answers with an address, and so did the endpoints before. -/
def Genuine (before : Answer) (answers : List Answer) : Prop :=
  ∀ answer, answers.find? (news before) = some answer → (∃ ip, answer = .address ip) ∧ ∃ ip, before = .address ip

section
variable {replies before : Replies} {ip : String}

theorem canonicalIp_canonical {value : Json} (found : canonicalIp value = some ip) : Canonical ip := by
  cases value with
  | str s =>
    simp only [canonicalIp] at found
    split_ifs at found
    obtain ⟨a, _, rfl⟩ := Option.map_eq_some_iff.mp found
    exact ⟨a, rfl⟩
  | _ => simp [canonicalIp] at found

theorem canonical_word (canonical : Canonical ip) : ip ≠ noAnswer ∧ ip ≠ malformedAnswer := by
  obtain ⟨a, rfl⟩ := canonical
  have separated (word : String) (solid : '.' ∉ word.toList ∧ ':' ∉ word.toList) : String.ofList a.text ≠ word := by
    intro same
    have text : a.text = word.toList := by rw [← same, String.toList_ofList]
    rcases text_separated a with dot | colon
    · exact solid.1 (text ▸ dot)
    · exact solid.2 (text ▸ colon)
  exact ⟨separated noAnswer (by decide), separated malformedAnswer (by decide)⟩

theorem tryEndpoints_word (sawReply : Bool) (endpoints : List String) : tryEndpoints replies sawReply endpoints =
    match endpoints.findSome? (addressFrom replies) with
    | some ip => ip
    | none => if sawReply || endpoints.any fun endpoint =>
      (replies endpoint).isSome then malformedAnswer else noAnswer := by
  induction endpoints generalizing sawReply with
  | nil => cases sawReply <;> rfl
  | cons endpoint rest ih =>
    rw [tryEndpoints, List.findSome?_cons]
    cases reply : replies endpoint with
    | none => simp [addressFrom, reply, ih]
    | some data =>
      cases found : canonicalIp (ipField data) with
      | some ip => simp [addressFrom, reply, found]
      | none => simp [addressFrom, reply, found, ih]

theorem getExitIp_word : getExitIp replies = (answerOf replies).word := by
  rw [getExitIp, tryEndpoints_word, answerOf]
  cases verifyEndpoints.findSome? (addressFrom replies) with
  | some ip => rfl
  | none => cases verifyEndpoints.any fun endpoint => (replies endpoint).isSome <;> rfl

theorem answerOf_address (answered : answerOf replies = .address ip) : Observed replies ip := by
  unfold answerOf at answered
  cases found : verifyEndpoints.findSome? (addressFrom replies) with
  | none =>
    simp only [found] at answered
    split_ifs at answered
  | some ip' =>
    rw [found] at answered
    obtain rfl := Answer.address.inj answered
    obtain ⟨endpoint, member, here⟩ := List.exists_of_findSome?_eq_some found
    obtain ⟨data, reply, canonical⟩ := Option.bind_eq_some_iff.mp here
    exact ⟨endpoint, member, data, reply, canonical⟩

theorem observed_answerOf (observed : Observed replies ip) : ∃ ip', answerOf replies = .address ip' := by
  obtain ⟨endpoint, member, data, reply, canonical⟩ := observed
  unfold answerOf
  cases found : verifyEndpoints.findSome? (addressFrom replies) with
  | some ip' => exact ⟨ip', rfl⟩
  | none =>
    have unseen := List.findSome?_eq_none_iff.mp found endpoint member
    simp [addressFrom, reply, canonical] at unseen

theorem observed_canonical (observed : Observed replies ip) : Canonical ip := by
  obtain ⟨_, _, _, _, canonical⟩ := observed
  exact canonicalIp_canonical canonical

/-- Two answers are the same where the words for them are. -/
theorem word_injective {other : Replies} :
    (answerOf replies).word = (answerOf other).word ↔ answerOf replies = answerOf other := by
  have apart (r : Replies) {ip : String} (address : answerOf r = .address ip) : ip ≠ noAnswer ∧ ip ≠ malformedAnswer :=
    canonical_word (observed_canonical (answerOf_address address))
  refine ⟨fun same => ?_, fun same => by rw [same]⟩
  cases first : answerOf replies with
  | address ip =>
    have solid := apart replies first
    cases second : answerOf other with
    | address ip' => simpa [Answer.word, first, second] using same
    | malformed => exact absurd (by simpa [Answer.word, first, second] using same) solid.2
    | missing => exact absurd (by simpa [Answer.word, first, second] using same) solid.1
  | malformed =>
    cases second : answerOf other with
    | address ip' => exact absurd (by simpa [Answer.word, first, second] using same.symm) (apart other second).2
    | malformed => rfl
    | missing => exact absurd (by simpa [Answer.word, first, second] using same) (by decide)
  | missing =>
    cases second : answerOf other with
    | address ip' => exact absurd (by simpa [Answer.word, first, second] using same.symm) (apart other second).1
    | malformed => exact absurd (by simpa [Answer.word, first, second] using same) (by decide)
    | missing => rfl

theorem word_unknown : (answerOf replies).word = "unknown" ↔ answerOf replies = .missing := by
  have same : (answerOf replies).word = (answerOf fun _ => none).word ↔ answerOf replies = answerOf fun _ => none :=
    word_injective
  exact same

/-- The polling ends with the first round that has news. -/
theorem poll_news (rounds : List Replies) (last : String) : poll (getExitIp before) rounds last = (true, ip) ↔
    ∃ answer, (rounds.map answerOf).find? (news (answerOf before)) = some answer ∧ ip = answer.word := by
  induction rounds generalizing last with
  | nil => simp [poll]
  | cons replies rest ih =>
    rw [poll, List.map_cons, List.find?_cons]
    have told : (getExitIp replies ≠ getExitIp before ∧ getExitIp replies ≠ "unknown") ↔
        news (answerOf before) (answerOf replies) = true := by
      rw [getExitIp_word, getExitIp_word, Ne, Ne, word_injective, word_unknown]
      simp [news, and_comm]
    by_cases heard : news (answerOf before) (answerOf replies) = true
    · rw [if_pos (told.mpr heard), heard]
      simp [getExitIp_word, eq_comm]
    · rw [if_neg (fun both => heard (told.mp both)), ih]
      simp [heard]

end

/-- A changed address that is reported is canonical and differs from one observed before the signal, exactly where the
    signal is not sent or the first round with news answers with an address, as the endpoints did before. -/
theorem circuit_changed (before : Replies) (signal : Signal) (rounds : Nat → Replies) :
    (∀ ip, requestNewCircuit before signal rounds = .ok (true, ip) → Canonical ip ∧ ∃ old,
      Observed before old ∧ ip ≠ old) ↔
      (signal = .sent → Genuine (answerOf before) ((List.range 12).map fun i => answerOf (rounds i))) := by
  cases signal with
  | unreachable => simp [requestNewCircuit]
  | refused message => simp [requestNewCircuit]
  | sent =>
    have ends (ip : String) : requestNewCircuit before .sent rounds = .ok (true, ip) ↔
        ∃ answer, ((List.range 12).map fun i => answerOf (rounds i)).find? (news (answerOf before)) = some answer ∧
          ip = answer.word := by
      rw [requestNewCircuit, Except.ok.injEq, poll_news, List.map_map]
      rfl
    simp only [ends, forall_true_left]
    constructor
    · intro real answer first
      obtain ⟨canonical, old, observed, _⟩ := real answer.word ⟨answer, first, rfl⟩
      refine ⟨?_, observed_answerOf observed⟩
      have solid := canonical_word canonical
      cases answer with
      | address ip => exact ⟨ip, rfl⟩
      | malformed => exact absurd rfl solid.2
      | missing => exact absurd rfl solid.1
    · rintro genuine ip ⟨answer, first, rfl⟩
      obtain ⟨⟨ip, rfl⟩, old, asked⟩ := genuine answer first
      obtain ⟨i, _, answered⟩ := List.mem_map.mp (List.mem_of_find?_eq_some first)
      refine ⟨observed_canonical (answerOf_address answered), old, answerOf_address asked, ?_⟩
      have heard := List.find?_some first
      simp only [news, Bool.and_eq_true, bne_iff_ne] at heard
      intro same
      exact heard.2 (by rw [asked, ← same, Answer.word])

/-- One endpoint replies with the text as its address, the others do not reply. -/
def saying (text : String) : Replies := fun endpoint =>
  if endpoint = "https://api.ipify.org?format=json" then some [("ip", .str text)] else none

/-- A garbled reply passes for a new address, and an address for a change where none was known before. -/
theorem circuit_unchanged :
    (∃ rounds, requestNewCircuit (saying "192.0.2.1") .sent rounds = .ok (true, "malformed")) ∧
      ∃ rounds, requestNewCircuit (fun _ => none) .sent rounds = .ok (true, "192.0.2.1") ∧ ∀ old,
      ¬ Observed (fun _ => none) old := by
  refine ⟨⟨fun _ => saying "moved", by decide⟩, fun _ => saying "192.0.2.1", by decide, ?_⟩
  rintro old ⟨_, _, _, none, _⟩
  cases none

end Ttp.NewCircuit
