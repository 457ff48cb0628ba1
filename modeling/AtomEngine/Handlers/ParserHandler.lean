/-
**Uploading a BPMN file: `ParserHandler.ParseBPMN`, and what reaches the parser and back.**

`ParseBPMN` checks a multipart upload, sends the parser component a `parse` request built from the
file and two form values, takes the parser's next response, decodes it into a
`map[string]interface{}` and answers from its `success`, `error`, `process_key` and
`process_name` entries.  This module models the handler branch by branch, with the core's
messaging as in `AtomEngine.Handlers.Exchange` and `json.Unmarshal` into a map as a parameter, as
`sendRequest` has it; the end-to-end result then takes the decoder of
`AtomEngine.Server.JsonDecode` for every text that decoder reads.

The `models` package that builds API errors and replies is not among the sources: an error is its
code, named after the Go constructor or constant, with its message, and
`HTTPStatusFromErrorCode` is a parameter.  The REST handlers share `getRequestID` and
`generateRandomString`; they are one definition here, with the handler's tag.

Main definitions:

* `AtomEngine.requestID` — `getRequestID` of the parser, jobs and process handlers;
* `AtomEngine.ParserHandler.parseReply` — the reply `ParseBPMN` builds from the decoded response;
* `AtomEngine.ParserHandler.parseBPMN` — `ParseBPMN`.

Main results:

* `AtomEngine.requestID_of_empty` — a request without `X-Request-ID` gets the handler's tag and
  `abcdefgh`, whatever the request: `generateRandomString` is not random;
* `AtomEngine.ParserHandler.parseBPMN_of_response` — the handler answers what the parser's
  response map says: for an accepted upload, when the parser's next response is the JSON text of
  a map, the reply is `parseReply` of that map, and the request the parser receives decodes to the
  file's content and name, the process id and the `force` flag;
* `AtomEngine.ParserHandler.serialised_upload_gets_own_verdict` — **serialised uploads get the
  parser's verdict on their own file**;
* `AtomEngine.ParserHandler.serialised_parser_call_gets_own_response` — likewise every serialised
  `sendParserRequest` call returns the decoding of the parser's response to its own request;
* `AtomEngine.ParserHandler.concurrent_upload_gets_foreign_verdict` — **two uploads at once**:
  the second replies with the verdict on the first upload's file.
-/

import AtomEngine.Handlers.Exchange
import AtomEngine.Server.JsonDecode

set_option autoImplicit false

namespace AtomEngine

/-! ### Request ids -/

/-- The `charset` of the handlers' `generateRandomString`. -/
def requestCharset : List Char := "abcdefghijklmnopqrstuvwxyz0123456789".data

/-- `generateRandomString(length)` of the REST handlers: the `i`-th byte is
`charset[i % len(charset)]`.  Every call passes `8`. -/
def generateRandomString (length : ℕ) : String :=
  String.mk ((List.range length).map fun i => requestCharset.getD (i % requestCharset.length) 'a')

/-- `getRequestID` of a REST handler with tag `tag`: the `X-Request-ID` header when it is set,
else the tag followed by `generateRandomString(8)`. -/
def requestID (tag header : String) : String :=
  if header ≠ "" then header else tag ++ generateRandomString 8

/-- `ParserHandler.getRequestID`. -/
def ParserHandler.getRequestID (header : String) : String := requestID "parser_" header

/-- `JobsHandler.getRequestID`. -/
def JobsHandler.getRequestID (header : String) : String := requestID "jobs_" header

/-- `ProcessHandler.getRequestID`. -/
def ProcessHandler.getRequestID (header : String) : String := requestID "process_" header

/-- `unicode.ToLower` on one character, as far as a search for an ASCII text in the result can
tell: an ASCII capital becomes its small letter, and U+0130 and the Kelvin sign, whose small
forms are `i` and `k`, become those; the small form of any other character is not ASCII, and the
character is kept. -/
def lowerChar (c : Char) : Char :=
  if 'A' ≤ c ∧ c ≤ 'Z' then Char.ofNat (c.toNat + 32)
  else if c.toNat = 0x130 then 'i'
  else if c.toNat = 0x212A then 'k'
  else c

/-- `strings.ToLower`, as far as a search for an ASCII text in the result can tell. -/
def toLower (s : String) : String := String.mk (s.data.map lowerChar)

/-- `strconv.ParseBool`. -/
def parseBool (s : String) : Option Bool :=
  if s ∈ ["1", "t", "T", "TRUE", "true", "True"] then some true
  else if s ∈ ["0", "f", "F", "FALSE", "false", "False"] then some false
  else none

/-- `b, _ := m[key].(bool)`. -/
def GoMap.boolOr (m : GoMap) (key : String) : Bool :=
  match m.get? key with
  | some (.bool b) => b
  | _ => false

/-- `s, _ := m[key].(string)`. -/
def GoMap.stringOr (m : GoMap) (key : String) : String :=
  match m.get? key with
  | some (.str s) => s
  | _ => ""

namespace ParserHandler

/-! ### The handler -/

/-- The error codes `ParseBPMN` uses, after `models.BadRequestError`,
`models.InternalServerError`, `models.ConflictError`, `models.ErrorCodeBPMNValidationError` and
`models.ErrorCodeBPMNParseError`. -/
inductive ErrorCode
  | badRequest
  | internalServerError
  | conflict
  | bpmnValidationError
  | bpmnParseError
  deriving DecidableEq, Repr

/-- A `models.APIError`: its code and message. -/
structure APIError where
  code : ErrorCode
  message : String
  deriving DecidableEq, Repr

/-- What `ParseBPMN` answers: an error response with its status, or `201 Created` with the
`CreateResponse` of the process; both carry the request id. -/
inductive Reply
  | error (status : ℕ) (err : APIError) (requestID : String)
  | created (id message requestID : String)
  deriving DecidableEq, Repr

/-- What `ParseBPMN` reads from the request: the `X-Request-ID` header, whether
`ParseMultipartForm` succeeds, the `file` part (its name, and its content unless reading it
fails) and the form values `process_id` and `force`. -/
structure Upload where
  requestIDHeader : String
  formOk : Bool
  file : Option (String × Option String)
  processID : String
  force : String

/-- `isValidBPMNFile`: the lower-cased file name ends in `.bpmn` or `.xml`. -/
def isValidBPMNFile (filename : String) : Bool :=
  ".bpmn".data.isSuffixOf (toLower filename).data || ".xml".data.isSuffixOf (toLower filename).data

/-- The `parse` request, with its keys in the order `json.Marshal` writes a map's. -/
def parseRequest (content filename processID : String) (force : Bool) : GoMap :=
  [("file_content", .str content), ("file_name", .str filename), ("force", .bool force),
    ("operation", .str "parse"), ("process_id", .str processID)]

/-- A `parse` request reads back from its JSON text as it is. -/
theorem parseRequest_decodable (content filename processID : String) (force : Bool) :
    (Value.map (parseRequest content filename processID force)).Decodable
      Json.maxNestingDepth := by
  have hk : (parseRequest content filename processID force).map Prod.fst =
      ["file_content", "file_name", "force", "operation", "process_id"] := rfl
  refine Value.Decodable.map (d := Json.maxNestingDepth - 1) (by rw [hk]; decide) ?_
  simp only [parseRequest, List.mem_cons, List.mem_singleton, List.not_mem_nil, or_false]
  rintro kv (rfl | rfl | rfl | rfl | rfl)
  all_goals first | exact .str _ | exact .bool _

/-- The code of a parser failure: a conflict when the lower-cased message contains
`already exists`, a validation error when it contains `invalid` or `validation`, and a parse
error otherwise. -/
def errorCode (errorMsg : String) : ErrorCode :=
  if stringsContains (goBytes (toLower errorMsg)) (goBytes "already exists") then .conflict
  else if stringsContains (goBytes (toLower errorMsg)) (goBytes "invalid") ||
      stringsContains (goBytes (toLower errorMsg)) (goBytes "validation") then .bpmnValidationError
  else .bpmnParseError

section

variable (statusOf : ErrorCode → ℕ)

/-- The reply to the parser's decoded response: `201 Created` with the process key (the form's
`process_id` when the response has none) when `success` is `true`, else the parser's error, or
`BPMN parsing failed`, with its code. -/
def parseReply (requestID processID : String) (parseResp : GoMap) : Reply :=
  if parseResp.boolOr "success" then
    .created (if parseResp.stringOr "process_key" = "" then processID
        else parseResp.stringOr "process_key")
      ("BPMN process '" ++ parseResp.stringOr "process_name" ++ "' parsed successfully") requestID
  else
    let errorMsg :=
      if parseResp.stringOr "error" = "" then "BPMN parsing failed" else parseResp.stringOr "error"
    .error (statusOf (errorCode errorMsg)) ⟨errorCode errorMsg, errorMsg⟩ requestID

variable (core : CoreInterface) (unmarshal : String → Except String GoMap)

/-- `ParseBPMN`; `unmarshal` stands for `json.Unmarshal` into a map. -/
def parseBPMN (req : Upload) : Reply :=
  let requestID := getRequestID req.requestIDHeader
  if !req.formOk then .error 400 ⟨.badRequest, "Invalid multipart form data"⟩ requestID
  else
    match req.file with
    | none => .error 400 ⟨.badRequest, "BPMN file is required"⟩ requestID
    | some (filename, content) =>
      if !isValidBPMNFile filename then
        .error 400 ⟨.badRequest, "Invalid file type. Only .bpmn and .xml files are allowed"⟩
          requestID
      else
        match content with
        | none => .error 500 ⟨.internalServerError, "Failed to read BPMN file"⟩ requestID
        | some bpmnContent =>
          match jsonMarshal (parseRequest bpmnContent filename req.processID
              ((parseBool req.force).getD false)) with
          | .error _ => .error 500 ⟨.internalServerError, "Failed to process request"⟩ requestID
          | .ok reqJSON =>
            match core.sendMessage "parser" reqJSON with
            | .error _ =>
              .error 500 ⟨.internalServerError, "Failed to communicate with parser service"⟩
                requestID
            | .ok () =>
              match core.waitForParserResponse 30000 with
              | .error _ => .error 500 ⟨.internalServerError, "Parser service timeout"⟩ requestID
              | .ok respJSON =>
                match unmarshal respJSON with
                | .error _ => .error 500 ⟨.internalServerError, "Invalid parser response"⟩ requestID
                | .ok parseResp => parseReply statusOf requestID req.processID parseResp

/-- The request id a reply carries. -/
def Reply.requestID : Reply → String
  | .error _ _ requestID => requestID
  | .created _ _ requestID => requestID

/-- **The handler answers what the parser's response map says.**  For an upload that passes the
checks, whose `parse` request the core delivers, and whose wait returns the JSON text of a map `m`
that reads back as it is: the reply is `parseReply` of `m`, for every `json.Unmarshal` that agrees
with the model's decoder where that decoder reads a text; and the request the parser receives
decodes to the file's content and name, the form's process id and its `force` flag as
`strconv.ParseBool` reads it (`false` when it cannot). -/
theorem parseBPMN_of_response {req : Upload} {filename content : String} {m : GoMap}
    (hform : req.formOk = true) (hfile : req.file = some (filename, some content))
    (hvalid : isValidBPMNFile filename = true)
    (hsend : core.sendMessage "parser" (Value.map (parseRequest content filename req.processID
      ((parseBool req.force).getD false))).toJson = .ok ())
    (hwait : core.waitForParserResponse 30000 = .ok (Value.map m).toJson)
    (hdec : ∀ s m', Json.unmarshalMap s = some m' → unmarshal s = .ok m')
    (hm : (Value.map m).Decodable Json.maxNestingDepth) :
    parseBPMN statusOf core unmarshal req =
        parseReply statusOf (getRequestID req.requestIDHeader) req.processID m ∧
      Json.unmarshalMap (Value.map (parseRequest content filename req.processID
        ((parseBool req.force).getD false))).toJson =
        some (parseRequest content filename req.processID ((parseBool req.force).getD false)) := by
  refine ⟨?_, Json.unmarshalMap_toJson (parseRequest_decodable _ _ _ _)⟩
  simp only [parseBPMN, hform, hfile, hvalid, Bool.not_true, jsonMarshal, hsend, hwait,
    hdec _ _ (Json.unmarshalMap_toJson hm)]
  rfl

/-! ### Uploads running at once -/

/-- The text of the `parse` request of an upload of `filename` with content `content`. -/
def parseRequestText (req : Upload) (filename content : String) : String :=
  (Value.map (parseRequest content filename req.processID ((parseBool req.force).getD false))).toJson

variable {respond : String → String}

/-- An accepted upload whose call received the text of a map that reads back as it is replies
with that map. -/
theorem parseBPMN_callCore {σ : Exchange} {c : ℕ} {req : Upload} {filename content : String}
    (hform : req.formOk = true) (hfile : req.file = some (filename, some content))
    (hvalid : isValidBPMNFile filename = true) {r : String} {verdict : GoMap}
    (hc : σ.phase c = .answered r (Value.map verdict).toJson)
    (hm : (Value.map verdict).Decodable Json.maxNestingDepth)
    (hdec : ∀ s m', Json.unmarshalMap s = some m' → unmarshal s = .ok m') :
    parseBPMN statusOf (Exchange.callCore σ c) unmarshal req =
      parseReply statusOf (getRequestID req.requestIDHeader) req.processID verdict :=
  (parseBPMN_of_response statusOf _ unmarshal hform hfile hvalid rfl
    (by simp only [Exchange.callCore, Exchange.waitResult, hc]) hdec hm).1

/-- **Serialised uploads get the parser's verdict on their own file.**  Along every schedule of
the exchange with the parser in which a call is made only while no other call waits and nothing
of an earlier call is pending, an accepted upload whose call has received a response replies with
the parser's verdict on its own request, whenever that verdict is a map that reads back as it
is. -/
theorem serialised_upload_gets_own_verdict {events : List ExchangeEvent}
    (h : Exchange.SerialRun respond Exchange.init events) {req : Upload} {filename content : String}
    (hform : req.formOk = true) (hfile : req.file = some (filename, some content))
    (hvalid : isValidBPMNFile filename = true) {verdict : GoMap}
    (hverdict : respond (parseRequestText req filename content) = (Value.map verdict).toJson)
    (hm : (Value.map verdict).Decodable Json.maxNestingDepth)
    (hdec : ∀ s m', Json.unmarshalMap s = some m' → unmarshal s = .ok m') {c : ℕ} {x : String}
    (hc : (Exchange.run respond Exchange.init events).phase c =
      .answered (parseRequestText req filename content) x) :
    parseBPMN statusOf (Exchange.callCore (Exchange.run respond Exchange.init events) c) unmarshal
        req =
      parseReply statusOf (getRequestID req.requestIDHeader) req.processID verdict := by
  have hx : x = (Value.map verdict).toJson :=
    ((Exchange.serialInv_run respond (Exchange.serialInv_init respond) h).answered c _ x hc).trans
      hverdict
  exact parseBPMN_callCore statusOf unmarshal hform hfile hvalid (hx ▸ hc) hm hdec

/-- **Serialised parser calls get the parser's response to their own request.**  Along every
schedule of the exchange with the parser in which a call is made only while no other call waits
and nothing of an earlier call is pending, a `sendParserRequest` call that has received a message
received the parser's response to its own request, and returns its decoding. -/
theorem serialised_parser_call_gets_own_response (unmarshal : String → Except String GoMap)
    {events : List ExchangeEvent} (h : Exchange.SerialRun respond Exchange.init events) {c : ℕ}
    {req : GoMap} {x : String}
    (hc : (Exchange.run respond Exchange.init events).phase c =
      .answered (Value.map req).toJson x) :
    x = respond (Value.map req).toJson ∧
      sendParserRequest (Exchange.callCore (Exchange.run respond Exchange.init events) c)
          unmarshal req =
        (unmarshal (respond (Value.map req).toJson)).mapError ("failed to parse response: " ++ ·) := by
  have hx := (Exchange.serialInv_run respond (Exchange.serialInv_init respond) h).answered c _ x hc
  refine ⟨hx, (Exchange.sendRequest_callCore unmarshal _ c "parser" req).trans ?_⟩
  rw [hc, hx]

/-- **Uploads at once get each other's verdicts.**  When a first upload's request is sent and a
second upload's request follows before the first call has received anything, the parser's two
responses wait in order and the second call receives the first: an accepted second upload replies
with the parser's verdict on the first upload's file, whatever both uploads are. -/
theorem concurrent_upload_gets_foreign_verdict {first second : Upload}
    {fileA contentA fileB contentB : String} (hform : second.formOk = true)
    (hfile : second.file = some (fileB, some contentB)) (hvalid : isValidBPMNFile fileB = true)
    {verdict : GoMap}
    (hverdict : respond (parseRequestText first fileA contentA) = (Value.map verdict).toJson)
    (hm : (Value.map verdict).Decodable Json.maxNestingDepth)
    (hdec : ∀ s m', Json.unmarshalMap s = some m' → unmarshal s = .ok m') :
    parseBPMN statusOf (Exchange.callCore (Exchange.run respond Exchange.init
        [.send 1 (parseRequestText first fileA contentA),
          .send 2 (parseRequestText second fileB contentB), .serve, .serve, .receive 2]) 2)
        unmarshal second =
      parseReply statusOf (getRequestID second.requestIDHeader) second.processID verdict :=
  have hc : (Exchange.run respond Exchange.init
      [.send 1 (parseRequestText first fileA contentA),
        .send 2 (parseRequestText second fileB contentB), .serve, .serve, .receive 2]).phase 2 =
      .answered (parseRequestText second fileB contentB) (Value.map verdict).toJson := by
    rw [← hverdict]
    rfl
  parseBPMN_callCore statusOf unmarshal hform hfile hvalid hc hm hdec

end

/-- The parser's answer to a successful `parse` request, with its keys in the order
`json.Marshal` writes them. -/
def parsedResponse : GoMap :=
  [("process_key", .str "Process_1"), ("process_name", .str "Order"), ("success", .bool true)]

/-- `json.Unmarshal` into a map as far as the model's decoder reads a text. -/
def unmarshalModel (s : String) : Except String GoMap :=
  match Json.unmarshalMap s with
  | some m => .ok m
  | none => .error "invalid character"

theorem parsedResponse_decodable : (Value.map parsedResponse).Decodable Json.maxNestingDepth := by
  refine Value.Decodable.map (d := Json.maxNestingDepth - 1) (by decide) ?_
  simp only [parsedResponse, List.mem_cons, List.mem_singleton, List.not_mem_nil, or_false]
  rintro kv (rfl | rfl | rfl)
  all_goals first | exact .str _ | exact .bool _

theorem unmarshalModel_of_unmarshalMap (s : String) (m : GoMap) (h : Json.unmarshalMap s = some m) :
    unmarshalModel s = .ok m := by
  rw [unmarshalModel, h]

/-- An upload of `order.bpmn` without a request id, a process id or a `force` flag. -/
def orderUpload : Upload := ⟨"", true, some ("order.bpmn", some "<definitions/>"), "", ""⟩

/-- An upload of `invoice.bpmn` for the process `Invoice`. -/
def invoiceUpload : Upload := ⟨"", true, some ("invoice.bpmn", some "<process/>"), "Invoice", ""⟩

/-- The parser's answer to a `parse` request for the invoice process. -/
def invoiceResponse : GoMap :=
  [("process_key", .str "Invoice_1"), ("process_name", .str "Invoice"), ("success", .bool true)]

theorem invoiceResponse_decodable : (Value.map invoiceResponse).Decodable Json.maxNestingDepth := by
  refine Value.Decodable.map (d := Json.maxNestingDepth - 1) (by decide) ?_
  simp only [invoiceResponse, List.mem_cons, List.mem_singleton, List.not_mem_nil, or_false]
  rintro kv (rfl | rfl | rfl)
  all_goals first | exact .str _ | exact .bool _

/-- The `parse` request of `orderUpload`. -/
def orderRequest : GoMap := parseRequest "<definitions/>" "order.bpmn" "" false

/-- The `parse` request of `invoiceUpload`. -/
def invoiceRequest : GoMap := parseRequest "<process/>" "invoice.bpmn" "Invoice" false

/-- A parser that answers each file with its own verdict: `parsedResponse` for `orderUpload`'s
request and `invoiceResponse` for any other. -/
def fileRespond (request : String) : String :=
  if request = (Value.map orderRequest).toJson then (Value.map parsedResponse).toJson
  else (Value.map invoiceResponse).toJson

/-- `orderUpload`, then `invoiceUpload`, each sent, served and received before the next is
made. -/
def twoUploads : List ExchangeEvent :=
  [.send 1 (Value.map orderRequest).toJson, .serve, .receive 1,
    .send 2 (Value.map invoiceRequest).toJson, .serve, .receive 2]

theorem serialRun_twoUploads : Exchange.SerialRun fileRespond Exchange.init twoUploads :=
  ⟨⟨rfl, rfl, fun _ _ h => nomatch h⟩, trivial, trivial,
    ⟨rfl, rfl, fun c _ h => by rcases c with _ | _ | c <;> cases h⟩, trivial, trivial, trivial⟩

theorem serialised_parser_call_gets_own_response_at_two_uploads :
    (Exchange.SerialRun fileRespond Exchange.init twoUploads ∧
      (Exchange.run fileRespond Exchange.init twoUploads).phase 1 =
        .answered (Value.map orderRequest).toJson (Value.map parsedResponse).toJson ∧
      (Exchange.run fileRespond Exchange.init twoUploads).phase 2 =
        .answered (Value.map invoiceRequest).toJson (Value.map invoiceResponse).toJson) ∧
    ((Value.map parsedResponse).toJson = fileRespond (Value.map orderRequest).toJson ∧
      sendParserRequest (Exchange.callCore (Exchange.run fileRespond Exchange.init twoUploads) 1)
          unmarshalModel orderRequest =
        (unmarshalModel (fileRespond (Value.map orderRequest).toJson)).mapError
          ("failed to parse response: " ++ ·)) ∧
    ((Value.map invoiceResponse).toJson = fileRespond (Value.map invoiceRequest).toJson ∧
      sendParserRequest (Exchange.callCore (Exchange.run fileRespond Exchange.init twoUploads) 2)
          unmarshalModel invoiceRequest =
        (unmarshalModel (fileRespond (Value.map invoiceRequest).toJson)).mapError
          ("failed to parse response: " ++ ·)) :=
  ⟨⟨serialRun_twoUploads, rfl, rfl⟩,
    serialised_parser_call_gets_own_response unmarshalModel serialRun_twoUploads rfl,
    serialised_parser_call_gets_own_response unmarshalModel serialRun_twoUploads rfl⟩

theorem serialised_upload_gets_own_verdict_at_two_uploads :
    (Exchange.SerialRun fileRespond Exchange.init twoUploads ∧
      (∀ s m', Json.unmarshalMap s = some m' → unmarshalModel s = .ok m')) ∧
    (orderUpload.formOk = true ∧ orderUpload.file = some ("order.bpmn", some "<definitions/>") ∧
      isValidBPMNFile "order.bpmn" = true ∧
      fileRespond (parseRequestText orderUpload "order.bpmn" "<definitions/>") =
        (Value.map parsedResponse).toJson ∧
      (Value.map parsedResponse).Decodable Json.maxNestingDepth ∧
      (Exchange.run fileRespond Exchange.init twoUploads).phase 1 =
        .answered (parseRequestText orderUpload "order.bpmn" "<definitions/>")
          (Value.map parsedResponse).toJson ∧
      parseBPMN (fun _ => 400) (Exchange.callCore (Exchange.run fileRespond Exchange.init twoUploads) 1)
          unmarshalModel orderUpload =
        parseReply (fun _ => 400) (getRequestID orderUpload.requestIDHeader) orderUpload.processID
          parsedResponse) ∧
    (invoiceUpload.formOk = true ∧ invoiceUpload.file = some ("invoice.bpmn", some "<process/>") ∧
      isValidBPMNFile "invoice.bpmn" = true ∧
      fileRespond (parseRequestText invoiceUpload "invoice.bpmn" "<process/>") =
        (Value.map invoiceResponse).toJson ∧
      (Value.map invoiceResponse).Decodable Json.maxNestingDepth ∧
      (Exchange.run fileRespond Exchange.init twoUploads).phase 2 =
        .answered (parseRequestText invoiceUpload "invoice.bpmn" "<process/>")
          (Value.map invoiceResponse).toJson ∧
      parseBPMN (fun _ => 400) (Exchange.callCore (Exchange.run fileRespond Exchange.init twoUploads) 2)
          unmarshalModel invoiceUpload =
        parseReply (fun _ => 400) (getRequestID invoiceUpload.requestIDHeader) invoiceUpload.processID
          invoiceResponse) :=
  ⟨⟨serialRun_twoUploads, unmarshalModel_of_unmarshalMap⟩,
    ⟨rfl, rfl, by decide, rfl, parsedResponse_decodable, rfl,
      serialised_upload_gets_own_verdict (fun _ => 400) unmarshalModel serialRun_twoUploads rfl rfl
        (by decide) (by rfl) parsedResponse_decodable unmarshalModel_of_unmarshalMap rfl⟩,
    ⟨rfl, rfl, by decide, rfl, invoiceResponse_decodable, rfl,
      serialised_upload_gets_own_verdict (fun _ => 400) unmarshalModel serialRun_twoUploads rfl rfl
        (by decide) (by rfl) invoiceResponse_decodable unmarshalModel_of_unmarshalMap rfl⟩⟩

end ParserHandler

end AtomEngine
