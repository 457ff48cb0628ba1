/-
**Routing the jobs channel: the `_response` heuristic.**

The jobs component sends two kinds of message on one channel: callbacks for finished jobs and
responses to API requests.  `isJobCallback` tells them apart by substrings of the whole message:
a callback must mention `job_completed` or `job_failed` and must not contain `_response`
anywhere.  The component that writes the callbacks is not among the sources; a callback is
modelled as `encoding/json` writes a struct with the `type` mark `isJobCallback` looks for and the
fields `handleJobsResponse` decodes (`job_id`, `element_id`, `token_id`, `process_instance_id`,
`status`, `variables`, `error_message`).  Every text the callback carries is written into the
message, so the verdict reads the payload as well as the mark.

Main definitions:

* `AtomEngine.isJobCallback` — `Core.isJobCallback`;
* `AtomEngine.escapeChar`, `AtomEngine.jsonString`, `AtomEngine.Value.toJson` — the JSON text
  `encoding/json` writes for a string and for an `interface{}` value;
* `AtomEngine.JobCallbackMessage.toJson` — a job callback as it reaches the channel.

Main results:

* `AtomEngine.JobCallbackMessage.isJobCallback_toJson` — on a marked callback the verdict is
  exactly "the message does not contain `_response`";
* `AtomEngine.JobCallbackMessage.isJobCallback_rejects_response_in_payload` — so an error message,
  a variable name or a string variable containing `_response` turns the verdict false;
* `AtomEngine.JobCallbackMessage.payload_changes_callback_verdict` — two callbacks that differ
  only in their variables get different verdicts.
-/

import Mathlib.Data.String.Basic
import AtomEngine.Models.Value
import AtomEngine.Server.Substring

set_option autoImplicit false

namespace AtomEngine

/-- `Core.isJobCallback`: non-empty, without `_response`, and mentioning `job_completed` or
`job_failed`. -/
def isJobCallback (response : String) : Bool :=
  decide ((goBytes response).length > 0) && !contains (goBytes response) (goBytes "_response") &&
    (contains (goBytes response) (goBytes "job_completed") ||
      contains (goBytes response) (goBytes "job_failed"))

/-! ### JSON text -/

/-- How `encoding/json` writes a character inside a string, with the HTML escaping
`json.Marshal` applies: quote and backslash are escaped, newline, carriage return and tab get
their short escapes, the other control characters, `<`, `>`, `&`, U+2028 and U+2029 become
`\u` escapes, and every other character stands for itself. -/
def escapeChar (c : Char) : List Char :=
  if c = '"' then ['\\', '"']
  else if c = '\\' then ['\\', '\\']
  else if c = '\n' then ['\\', 'n']
  else if c = '\r' then ['\\', 'r']
  else if c = '\t' then ['\\', 't']
  else if c.toNat < 0x20 ∨ c = '<' ∨ c = '>' ∨ c = '&' ∨ c.toNat = 0x2028 ∨ c.toNat = 0x2029 then
    ['\\', 'u', hexDigit (c.toNat / 4096 % 16), hexDigit (c.toNat / 256 % 16),
      hexDigit (c.toNat / 16 % 16), hexDigit (c.toNat % 16)]
  else [c]

/-- A JSON string literal holding `s`. -/
def jsonString (s : String) : String := "\"" ++ String.mk (s.data.flatMap escapeChar) ++ "\""

mutual

/-- The JSON text `encoding/json` writes for an `interface{}` value.  A map's entries are written
in the order of the list, where `json.Marshal` sorts a map's keys: this is `json.Marshal`'s text
for a map whose entries are sorted by key, and for any other map it differs in the order of the
members only. -/
def Value.toJson : Value → String
  | .null => "null"
  | .bool b => if b then "true" else "false"
  | .num n => toString n
  | .str s => jsonString s
  | .list xs => "[" ++ Value.listToJson xs ++ "]"
  | .map m => "\x7b" ++ Value.fieldsToJson m ++ "\x7d"

/-- The elements of a JSON array, separated by commas. -/
def Value.listToJson : List Value → String
  | [] => ""
  | [x] => x.toJson
  | x :: xs => x.toJson ++ "," ++ Value.listToJson xs

/-- The members of a JSON object, separated by commas. -/
def Value.fieldsToJson : List (String × Value) → String
  | [] => ""
  | [(k, v)] => jsonString k ++ ":" ++ v.toJson
  | (k, v) :: kvs => jsonString k ++ ":" ++ v.toJson ++ "," ++ Value.fieldsToJson kvs

end

/-- A text whose characters all stand for themselves in JSON occurs in a JSON string literal
whenever it occurs in the string. -/
theorem isInfix_jsonString {p s : String} (hp : p.data.flatMap escapeChar = p.data)
    (h : p.data <:+: s.data) : p.data <:+: (jsonString s).data := by
  have := isInfix_flatMap escapeChar h
  rw [hp] at this
  exact this.trans (List.infix_append _ _ _)

/-- Each member of a map occurs in the map's JSON text. -/
theorem isInfix_fieldsToJson {k : String} {v : Value} :
    ∀ {m : GoMap}, (k, v) ∈ m →
      (jsonString k ++ ":" ++ v.toJson).data <:+: (Value.fieldsToJson m).data
  | [], h => nomatch h
  | [_], h => by
      obtain rfl := List.mem_singleton.1 h
      exact List.infix_refl _
  | (k', v') :: e :: m, h => by
      simp only [Value.fieldsToJson, String.data_append]
      rcases List.mem_cons.1 h with h | h
      · cases h
        exact (List.infix_append [] _ _).trans (List.infix_append [] _ _)
      · exact (isInfix_fieldsToJson h).trans (List.suffix_append _ _).isInfix

/-! ### Job callbacks on the channel -/

/-- A job callback as the jobs component writes it on its response channel.  That component is
not among the sources: the `type` field carries the mark `isJobCallback` looks for
(`job_completed` or `job_failed`), and the other fields are those `handleJobsResponse` decodes
into `fullCallback`, in the order written here (the field `vars` holds `variables`, a word taken
by a command). -/
structure JobCallbackMessage where
  type : String
  jobID : String
  elementID : String
  tokenID : String
  processInstanceID : String
  status : String
  vars : GoMap
  errorMessage : String

namespace JobCallbackMessage

/-- The pieces of a callback's JSON text: its fields in order, as `encoding/json` writes a
struct. -/
def pieces (cb : JobCallbackMessage) : List String :=
  ["\x7b\"type\":", jsonString cb.type, ",\"job_id\":", jsonString cb.jobID,
    ",\"element_id\":", jsonString cb.elementID, ",\"token_id\":", jsonString cb.tokenID,
    ",\"process_instance_id\":", jsonString cb.processInstanceID, ",\"status\":",
    jsonString cb.status, ",\"variables\":", (Value.map cb.vars).toJson,
    ",\"error_message\":", jsonString cb.errorMessage, "\x7d"]

/-- The callback's JSON text. -/
def toJson (cb : JobCallbackMessage) : String := String.join cb.pieces

/-- Every piece occurs in the callback's text. -/
theorem isInfix_toJson {cb : JobCallbackMessage} {x : String} (h : x ∈ cb.pieces) :
    x.data <:+: cb.toJson.data := by
  rw [toJson, String.data_join]
  exact List.infix_of_mem_flatten (List.mem_map_of_mem _ h)

/-- Every text a member of the variables carries occurs in the callback's text. -/
theorem isInfix_toJson_of_variable {cb : JobCallbackMessage} {k : String} {v : Value}
    (h : (k, v) ∈ cb.vars) : (jsonString k ++ ":" ++ v.toJson).data <:+: cb.toJson.data := by
  refine (isInfix_fieldsToJson h).trans (.trans ?_ (isInfix_toJson
    (x := (Value.map cb.vars).toJson) (by simp [pieces])))
  rw [Value.toJson, String.data_append, String.data_append]
  exact List.infix_append _ _ _

/-- **On a marked callback the verdict is the absence of `_response`**: `isJobCallback` accepts
a callback marked `job_completed` or `job_failed` exactly when its text does not contain
`_response`. -/
theorem isJobCallback_toJson (cb : JobCallbackMessage)
    (hmark : cb.type = "job_completed" ∨ cb.type = "job_failed") :
    isJobCallback cb.toJson = !contains (goBytes cb.toJson) (goBytes "_response") := by
  have htype : (jsonString cb.type).data <:+: cb.toJson.data := isInfix_toJson (by simp [pieces])
  have hmarked : goBytes "job_completed" <:+: goBytes cb.toJson ∨
      goBytes "job_failed" <:+: goBytes cb.toJson := by
    rcases hmark with h | h
    · exact .inl (goBytes_isInfix ((isInfix_jsonString (by decide) (h ▸ List.infix_refl _)).trans
        htype))
    · exact .inr (goBytes_isInfix ((isInfix_jsonString (by decide) (h ▸ List.infix_refl _)).trans
        htype))
  have hlen : (goBytes cb.toJson).length > 0 := by
    rcases hmarked with h | h <;> exact lt_of_lt_of_le (by decide) h.length_le
  rcases hmarked with h | h <;> simp [isJobCallback, hlen, contains_of_isInfix h]

/-- A marked callback whose text contains `_response` is not taken for a callback. -/
theorem isJobCallback_toJson_eq_false {cb : JobCallbackMessage}
    (hmark : cb.type = "job_completed" ∨ cb.type = "job_failed")
    (h : "_response".data <:+: cb.toJson.data) : isJobCallback cb.toJson = false := by
  rw [isJobCallback_toJson cb hmark, contains_of_isInfix (goBytes_isInfix h), Bool.not_true]

/-- The characters of `_response` stand for themselves in JSON. -/
theorem flatMap_escapeChar_response : "_response".data.flatMap escapeChar = "_response".data := by
  decide

section

variable {cb : JobCallbackMessage} {p : String} (hp : p.data.flatMap escapeChar = p.data)
include hp

/-- A text that occurs in the error message occurs in the callback's text. -/
theorem isInfix_toJson_of_errorMessage (h : p.data <:+: cb.errorMessage.data) :
    p.data <:+: cb.toJson.data :=
  (isInfix_jsonString hp h).trans (isInfix_toJson (by simp [pieces]))

/-- A text that occurs in the name of a variable occurs in the callback's text. -/
theorem isInfix_toJson_of_name {k : String} {v : Value} (hkv : (k, v) ∈ cb.vars)
    (h : p.data <:+: k.data) : p.data <:+: cb.toJson.data := by
  refine .trans ?_ (isInfix_toJson_of_variable hkv)
  rw [String.data_append, String.data_append]
  exact (isInfix_jsonString hp h).trans
    ((List.prefix_append _ _).trans (List.prefix_append _ _)).isInfix

/-- A text that occurs in a string variable occurs in the callback's text. -/
theorem isInfix_toJson_of_value {k x : String} (hkx : (k, Value.str x) ∈ cb.vars)
    (h : p.data <:+: x.data) : p.data <:+: cb.toJson.data := by
  refine .trans ?_ (isInfix_toJson_of_variable hkx)
  rw [String.data_append, Value.toJson]
  exact (isInfix_jsonString hp h).trans (List.suffix_append _ _).isInfix

end

/-- **The payload decides the routing.**  For a callback marked `job_completed` or `job_failed`,
`isJobCallback` returns true exactly when its text does not contain `_response`; so it returns
false, and `processJobsResponses` drops the callback, whenever the error message, the name of a
variable or the text of a string variable contains `_response`. -/
theorem isJobCallback_rejects_response_in_payload (cb : JobCallbackMessage)
    (hmark : cb.type = "job_completed" ∨ cb.type = "job_failed") :
    isJobCallback cb.toJson = !contains (goBytes cb.toJson) (goBytes "_response") ∧
      ("_response".data <:+: cb.errorMessage.data → isJobCallback cb.toJson = false) ∧
      (∀ k v, (k, v) ∈ cb.vars → "_response".data <:+: k.data →
        isJobCallback cb.toJson = false) ∧
      (∀ k x, (k, Value.str x) ∈ cb.vars → "_response".data <:+: x.data →
        isJobCallback cb.toJson = false) :=
  ⟨isJobCallback_toJson cb hmark,
    fun h => isJobCallback_toJson_eq_false hmark
      (isInfix_toJson_of_errorMessage flatMap_escapeChar_response h),
    fun _ _ hkv h => isJobCallback_toJson_eq_false hmark
      (isInfix_toJson_of_name flatMap_escapeChar_response hkv h),
    fun _ _ hkx h => isJobCallback_toJson_eq_false hmark
      (isInfix_toJson_of_value flatMap_escapeChar_response hkx h)⟩

/-- A callback of a completed job with no variables and no error. -/
def completedCallback : JobCallbackMessage where
  type := "job_completed"
  jobID := "j1"
  elementID := "Task"
  tokenID := "t1"
  processInstanceID := "p1"
  status := "COMPLETED"
  vars := []
  errorMessage := ""

set_option maxRecDepth 4000 in
/-- The callback without variables is taken for a callback. -/
theorem isJobCallback_completedCallback : isJobCallback completedCallback.toJson = true := by
  decide

/-- **A callback whose variables name `http_response` is taken for an API response**: the
callback of the completed job `j1` without variables is routed to `handleJobsResponse`, and the
same callback with the variable `http_response` is not, so `processJobsResponses` drops it,
against `isJobCallback`'s own description (a job callback, not an API response) and the loop's
"Route message by type". -/
theorem payload_changes_callback_verdict :
    isJobCallback completedCallback.toJson = true ∧
      isJobCallback { completedCallback with
        vars := [("http_response", .str "ok")] }.toJson = false :=
  ⟨isJobCallback_completedCallback,
    (isJobCallback_rejects_response_in_payload _ (.inl rfl)).2.2.1 "http_response" _
      (List.mem_singleton_self _) ⟨"http".data, [], rfl⟩⟩

end JobCallbackMessage

end AtomEngine
