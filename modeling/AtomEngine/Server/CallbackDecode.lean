/-
**What `handleJobsResponse` makes of a job callback: two decodings and one call.**

`Core.handleJobsResponse` reads a job callback twice with `json.Unmarshal`.  The first decoding
goes into `jobResp`, a struct of six strings used for a log line; only when it succeeds does the
second one fill `fullCallback`, whose fields and `variables` map become the arguments of the
process component's `HandleJobCallback`, and its error is ignored.  This module models how
`encoding/json` fills a struct from an object, member by member: a member goes to the field whose
JSON name equals its key up to `foldName`, a string field takes a string and keeps its value for
`null`, a map field takes the members of an object and is reset by `null`, a value of another type
is an `UnmarshalTypeError` that leaves the field as it was, and a member that names no field is
skipped.  The result is the decoder that `AtomEngine.handleJobsResponse` and the routing of
`AtomEngine.JobsChannel` take as a parameter.

Main definitions:

* `AtomEngine.keyMatches` — a key names a field;
* `AtomEngine.FullCallback.ofJson` — the second decoding;
* `AtomEngine.decodeJobCallback` — the `HandleJobCallback` call `Core.handleJobsResponse` makes;
* `AtomEngine.JobsChannel.CallbacksOnly` — the account of a channel that carries only callbacks.

Main results:

* `AtomEngine.decodeJobCallback_toJson` — **a callback as the jobs component writes it reaches
  `HandleJobCallback` with its own fields and variables**, whatever strings it carries, whenever
  its variables read back from JSON as they are;
* `AtomEngine.route_of_deliverable` — so the background loop hands every such callback that is
  marked `job_completed` or `job_failed` and does not contain `_response` to the process
  component with its own fields;
* `AtomEngine.JobsChannel.callbacks_handled_in_order` — **no callback is lost or handled twice**
  along any run in which only the background loop receives: the calls made so far carry the
  fields of the first callbacks sent, in order, and the others are still on the channel.
-/

import AtomEngine.Server.JobsChannel
import AtomEngine.Server.JsonDecode

set_option autoImplicit false

namespace AtomEngine

/-- `foldName` on one character, as far as it decides a match with a field name made of ASCII
characters: a lower-case ASCII letter becomes upper-case, and `ſ` and the Kelvin sign, which
`unicode.SimpleFold` puts with `s` and `k`, become `S` and `K`.  Every other character folds to
itself or to another character that is not ASCII. -/
def foldChar (c : Char) : Char :=
  if 'a' ≤ c ∧ c ≤ 'z' then Char.ofNat (c.toNat - 32)
  else if c = 'ſ' then 'S'
  else if c.toNat = 0x212A then 'K'
  else c

/-- Whether a member's key names the field with JSON name `name`: `fields.byExactName`, then
`fields.byFoldedName`. -/
def keyMatches (key name : String) : Bool := key.data.map foldChar == name.data.map foldChar

/-- What `json.Unmarshal` stores in a `string` field that holds `cur`: a string replaces it, and
`null` or a value of another type (an `UnmarshalTypeError`) leaves it. -/
def storeString (cur : String) : Json → String
  | .str s => s
  | _ => cur

/-- Whether storing a value in a `string` field is an `UnmarshalTypeError`. -/
def stringTypeError : Json → Bool
  | .str _ => false
  | .null => false
  | _ => true

/-- What `json.Unmarshal` stores in a `map[string]interface{}` field that holds `cur`: the
members of an object are written into the map, `null` sets it to `nil`, and a value of another
type (an `UnmarshalTypeError`) leaves it. -/
def storeMap (cur : GoMap) : Json → Option GoMap
  | .obj ms => Json.membersToValue cur ms
  | .null => some []
  | _ => some cur

/-- The JSON names of the fields of `jobResp`, all strings. -/
def jobRespFields : List String :=
  ["job_id", "element_id", "token_id", "process_instance_id", "status", "completed_at"]

/-- Whether `json.Unmarshal` of a text into a struct of string fields with the JSON names
`fields` returns an error: the text is neither an object nor `null`, or a member for one of the
fields holds neither a string nor `null`. -/
def stringStructError (fields : List String) : Json → Bool
  | .obj ms => ms.any fun (k, x) => fields.any (keyMatches k) && stringTypeError x
  | .null => false
  | _ => true

/-- `fullCallback` in `Core.handleJobsResponse`, with its zero values; a `nil` map is the empty
map. -/
structure FullCallback where
  jobID : String := ""
  elementID : String := ""
  tokenID : String := ""
  processInstanceID : String := ""
  status : String := ""
  vars : GoMap := []
  errorMessage : String := ""

namespace FullCallback

/-- `json.Unmarshal` of one member into `fullCallback`; `none` when the member is a variables
object holding a number that no `Value` holds. -/
def member (cb : FullCallback) (key : String) (x : Json) : Option FullCallback :=
  if keyMatches key "job_id" then some { cb with jobID := storeString cb.jobID x }
  else if keyMatches key "element_id" then some { cb with elementID := storeString cb.elementID x }
  else if keyMatches key "token_id" then some { cb with tokenID := storeString cb.tokenID x }
  else if keyMatches key "process_instance_id" then
    some { cb with processInstanceID := storeString cb.processInstanceID x }
  else if keyMatches key "status" then some { cb with status := storeString cb.status x }
  else if keyMatches key "variables" then (storeMap cb.vars x).map fun m => { cb with vars := m }
  else if keyMatches key "error_message" then
    some { cb with errorMessage := storeString cb.errorMessage x }
  else some cb

/-- The second decoding: the members of an object in the order of the text, from the zero
struct.  Any other text leaves the zero struct. -/
def ofJson : Json → Option FullCallback
  | .obj ms => ms.foldlM (fun cb (k, x) => cb.member k x) {}
  | _ => some {}

/-- The arguments `HandleJobCallback` is called with. -/
def call (cb : FullCallback) : JobCallbackCall :=
  ⟨cb.jobID, cb.elementID, cb.tokenID, cb.status, cb.errorMessage, cb.vars⟩

end FullCallback

/-- `Core.handleJobsResponse` as the process component sees it: a text the first decoding
rejects is only logged; otherwise `HandleJobCallback` is called with the fields of the second
decoding.  Where `variables` holds a `float64` that no `Value` holds (a fraction, `-0`, a magnitude
above `2^53`), Go makes the call and the model answers `none`: what is said of it speaks of the
texts whose numbers in `variables` have a reading. -/
def decodeJobCallback (response : String) : Option JobCallbackCall :=
  match Json.parse response with
  | none => none
  | some j =>
    if stringStructError jobRespFields j then none else (FullCallback.ofJson j).map FullCallback.call

namespace JobCallbackMessage

/-- The members of a callback's JSON object, in the order the jobs component writes them. -/
def members (cb : JobCallbackMessage) : GoMap :=
  [("type", .str cb.type), ("job_id", .str cb.jobID), ("element_id", .str cb.elementID),
    ("token_id", .str cb.tokenID), ("process_instance_id", .str cb.processInstanceID),
    ("status", .str cb.status), ("variables", .map cb.vars),
    ("error_message", .str cb.errorMessage)]

/-- A callback's text is the JSON text of the map of its members. -/
theorem toJson_eq_members (cb : JobCallbackMessage) :
    cb.toJson = (Value.map cb.members).toJson := by
  apply String.ext
  simp only [toJson, pieces, members, Value.toJson, Value.fieldsToJson, String.join,
    List.foldl_cons, List.foldl_nil, String.data_append, List.append_assoc]
  rfl

theorem members_decodable {cb : JobCallbackMessage}
    (hv : (Value.map cb.vars).Decodable (Json.maxNestingDepth - 1)) :
    (Value.map cb.members).Decodable Json.maxNestingDepth := by
  have hk : cb.members.map Prod.fst = ["type", "job_id", "element_id", "token_id",
      "process_instance_id", "status", "variables", "error_message"] := rfl
  refine Value.Decodable.map (d := Json.maxNestingDepth - 1) (by rw [hk]; decide) ?_
  simp only [members, List.mem_cons, List.mem_singleton, List.not_mem_nil, or_false]
  rintro kv (rfl | rfl | rfl | rfl | rfl | rfl | rfl | rfl)
  all_goals first | exact hv | exact .str _

end JobCallbackMessage

/-- **A callback as the jobs component writes it reaches `HandleJobCallback` with its own fields
and variables**, whatever strings it carries, whenever its variables read back from JSON as they
are: whole numbers of magnitude at most `2^53`, distinct keys in every map, and the nesting the
scanner allows inside the callback's object. -/
theorem decodeJobCallback_toJson (cb : JobCallbackMessage)
    (hv : (Value.map cb.vars).Decodable (Json.maxNestingDepth - 1)) :
    decodeJobCallback cb.toJson =
      some ⟨cb.jobID, cb.elementID, cb.tokenID, cb.status, cb.errorMessage, cb.vars⟩ := by
  have hvars : Json.membersToValue [] (Value.fieldsAsJson cb.vars) = some cb.vars := by
    cases hv with
    | map hk h => exact Json.membersToValue_fieldsAsJson cb.vars [] (by simpa using hk) h
  rw [decodeJobCallback, JobCallbackMessage.toJson_eq_members,
    Json.parse_toJson (JobCallbackMessage.members_decodable hv)]
  simp +decide only [JobCallbackMessage.members, Value.asJson, Value.fieldsAsJson,
    stringStructError, jobRespFields, stringTypeError, FullCallback.ofJson, List.any_cons,
    List.any_nil, Bool.and_false, Bool.or_false, Bool.false_or, Bool.and_true, List.foldlM_cons,
    List.foldlM_nil, FullCallback.member, storeString, storeMap, hvars, Option.bind_eq_bind,
    Option.some_bind, pure, Option.pure_def, Option.map_some', FullCallback.call, if_true,
    if_false]

namespace JobCallbackMessage

/-- A callback the background loop can take and decode back: marked `job_completed` or
`job_failed`, without `_response` in its text, and with variables that read back from JSON as
they are. -/
structure Deliverable (cb : JobCallbackMessage) : Prop where
  marked : cb.type = "job_completed" ∨ cb.type = "job_failed"
  noResponse : contains (goBytes cb.toJson) (goBytes "_response") = false
  decodable : (Value.map cb.vars).Decodable (Json.maxNestingDepth - 1)

/-- The `HandleJobCallback` call that carries a callback's own fields. -/
def call (cb : JobCallbackMessage) : JobCallbackCall :=
  ⟨cb.jobID, cb.elementID, cb.tokenID, cb.status, cb.errorMessage, cb.vars⟩

end JobCallbackMessage

/-- The background loop takes a deliverable callback for a callback and hands it to the process
component with its own fields. -/
theorem route_of_deliverable {cb : JobCallbackMessage} (h : cb.Deliverable) :
    processJobsResponses.route decodeJobCallback cb.toJson = .handled cb.toJson (some cb.call) := by
  have hcb : isJobCallback cb.toJson = true := by
    rw [JobCallbackMessage.isJobCallback_toJson cb h.marked, h.noResponse, Bool.not_false]
  rw [processJobsResponses.route, if_pos hcb, handleJobsResponse,
    decodeJobCallback_toJson cb h.decodable, JobCallbackMessage.call]

namespace JobsChannel

/-- The events of a run in which the jobs component sends only deliverable callbacks and only the
background loop receives. -/
def FromCallbacks : ChannelEvent → Prop
  | .send m => ∃ cb : JobCallbackMessage, cb.Deliverable ∧ m = cb.toJson
  | .background => True
  | .wait _ => False

/-- The channel after such a run: the callbacks `handled` have been received and handed to
`HandleJobCallback` with their own fields, in the order they were sent, and the callbacks
`pending` are still on the channel. -/
structure CallbacksOnly (σ : JobsChannel) (handled pending : List JobCallbackMessage) : Prop where
  deliverable : ∀ cb ∈ handled ++ pending, cb.Deliverable
  sent : σ.sent = (handled ++ pending).map JobCallbackMessage.toJson
  queue : σ.queue = pending.map JobCallbackMessage.toJson
  received : σ.received = handled.map fun cb => .background (.handled cb.toJson (some cb.call))

theorem callbacksOnly_init : CallbacksOnly init [] [] :=
  ⟨fun _ h => absurd h (List.not_mem_nil _), rfl, rfl, rfl⟩

theorem callbacksOnly_send {σ : JobsChannel} {handled pending : List JobCallbackMessage}
    (hσ : CallbacksOnly σ handled pending) {cb : JobCallbackMessage} (hcb : cb.Deliverable) :
    CallbacksOnly (step decodeJobCallback σ (.send cb.toJson)) handled (pending ++ [cb]) where
  deliverable x hx := by
    rw [← List.append_assoc, List.mem_append, List.mem_singleton] at hx
    rcases hx with hx | rfl
    · exact hσ.deliverable x hx
    · exact hcb
  sent := by simp [step, hσ.sent]
  queue := by simp [step, hσ.queue]
  received := hσ.received

theorem callbacksOnly_background {σ : JobsChannel} {handled : List JobCallbackMessage}
    {cb : JobCallbackMessage} {pending : List JobCallbackMessage}
    (hσ : CallbacksOnly σ handled (cb :: pending)) :
    CallbacksOnly (step decodeJobCallback σ .background) (handled ++ [cb]) pending where
  deliverable x hx := hσ.deliverable x (by simpa using hx)
  sent := by simp [step, receive, hσ.sent, hσ.queue]
  queue := by simp [step, receive, hσ.queue]
  received := by
    simp [step, receive, hσ.queue, hσ.received,
      route_of_deliverable (hσ.deliverable cb (by simp))]

/-- Every event of such a run keeps the account, with the oldest pending callback handed over
when the background loop receives. -/
theorem callbacksOnly_step {σ : JobsChannel} {handled pending : List JobCallbackMessage}
    (hσ : CallbacksOnly σ handled pending) {ev : ChannelEvent} (hev : FromCallbacks ev) :
    ∃ handled' pending', CallbacksOnly (step decodeJobCallback σ ev) handled' pending' := by
  cases ev with
  | send m =>
      obtain ⟨cb, hcb, rfl⟩ := hev
      exact ⟨_, _, callbacksOnly_send hσ hcb⟩
  | background =>
      cases pending with
      | nil =>
          have hq : σ.queue = [] := hσ.queue
          exact ⟨handled, [], by simpa [step, receive, hq] using hσ⟩
      | cons cb pending => exact ⟨_, _, callbacksOnly_background hσ⟩
  | wait caller => exact hev.elim

/-- **No callback is lost or handled twice while only the background loop receives.**  Along
every run in which the jobs component sends only deliverable callbacks and no handler waits on
the channel, the calls to `HandleJobCallback` so far carry the fields of the first callbacks sent,
one call each and in the order sent, and the others are still on the channel. -/
theorem callbacks_handled_in_order (events : List ChannelEvent)
    (hev : ∀ ev ∈ events, FromCallbacks ev) :
    ∃ handled pending, CallbacksOnly (run decodeJobCallback init events) handled pending := by
  suffices ∀ σ handled pending, CallbacksOnly σ handled pending →
      ∃ handled' pending', CallbacksOnly (run decodeJobCallback σ events) handled' pending' from
    this init [] [] callbacksOnly_init
  induction events with
  | nil => exact fun σ handled pending hσ => ⟨handled, pending, hσ⟩
  | cons ev events ih =>
      intro σ handled pending hσ
      obtain ⟨handled', pending', hσ'⟩ := callbacksOnly_step hσ (hev ev (.head _))
      exact ih (fun ev' h => hev ev' (.tail _ h)) _ handled' pending' hσ'

/-- A callback of the failed job `j2`, with an error and no variables. -/
def failedCallback : JobCallbackMessage where
  type := "job_failed"
  jobID := "j2"
  elementID := "Task"
  tokenID := "t2"
  processInstanceID := "p1"
  status := "FAILED"
  vars := []
  errorMessage := "boom"

/-- The callbacks of the completed job `j1` and of the failed job `j2`, then two receives of the
background loop. -/
def twoCallbacks : List ChannelEvent :=
  [.send JobCallbackMessage.completedCallback.toJson, .send failedCallback.toJson, .background,
    .background]

set_option maxRecDepth 4000 in
theorem callbacks_handled_in_order_at_two_callbacks :
    (∀ ev ∈ twoCallbacks, FromCallbacks ev) ∧
      (∃ handled pending, CallbacksOnly (run decodeJobCallback init twoCallbacks) handled pending) ∧
      CallbacksOnly (run decodeJobCallback init twoCallbacks)
        [JobCallbackMessage.completedCallback, failedCallback] [] :=
  have hcb : JobCallbackMessage.completedCallback.Deliverable :=
    ⟨.inl rfl, by decide,
      .map (d := Json.maxNestingDepth - 2) (by decide) (fun kv h => absurd h (List.not_mem_nil kv))⟩
  have hfb : failedCallback.Deliverable :=
    ⟨.inr rfl, by decide,
      .map (d := Json.maxNestingDepth - 2) (by decide) (fun kv h => absurd h (List.not_mem_nil kv))⟩
  have hev : ∀ ev ∈ twoCallbacks, FromCallbacks ev := by
    simp only [twoCallbacks, List.mem_cons, List.mem_singleton, List.not_mem_nil, or_false]
    rintro ev (rfl | rfl | rfl | rfl)
    exacts [⟨_, hcb, rfl⟩, ⟨_, hfb, rfl⟩, trivial, trivial]
  ⟨hev, callbacks_handled_in_order _ hev,
    callbacksOnly_background (callbacksOnly_background
      (callbacksOnly_send (callbacksOnly_send callbacksOnly_init hcb) hfb))⟩

end JobsChannel

end AtomEngine
