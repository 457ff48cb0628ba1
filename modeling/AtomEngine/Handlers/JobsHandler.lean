/-
**The jobs API: `JobsHandler.CreateJob`, `ActivateJobs`, `ListJobs` and `GetJob`.**

Each of the four handlers binds or reads its request, checks it with `utils.Validator`, sends the
jobs component one request through `sendJobsRequest` (`AtomEngine.Handlers.Exchange`) and answers
from the decoded response.  The handler's own response parsers are stubs: `parseJobsFromResponse`
returns no job and `parseJobFromResponse` returns `nil`, whatever the jobs component answers.  So
**the jobs API never hands out a job**: an activation the component carried out reaches the worker
as an empty list (`JobsHandler.activateJobs_eq_activated_iff`), a page of jobs is empty while its
total is the component's count (`JobsHandler.listJobs_eq_listed_iff`), and a job the component
returns is reported missing (`JobsHandler.getJob_reports_answered_job_missing`).

The `models` and `utils` packages are not among the sources.  An API error is the constructor the
handler calls, with the arguments it passes; `utils.Validator`, the pagination helper and
`utils.GetOffset` are parameters, and so is the HTTP status `models.HTTPStatusFromErrorCode` gives
to the error the converter builds from an error text.  `ValidateMultiple` receives the checks'
results, the reading in which it runs each check once; the check of `max_jobs` in `ActivateJobs`
first sets the default of 10, so the request sent carries the defaulted value.

Main definitions:

* `AtomEngine.JobsHandler.Reply` — the responses the four handlers write;
* `AtomEngine.JobsHandler.createJob`, `AtomEngine.JobsHandler.activateJobs`,
  `AtomEngine.JobsHandler.listJobs`, `AtomEngine.JobsHandler.getJob` — the handlers;
* `AtomEngine.extractTotalCount` — `extractTotalCount` of the jobs and parser handlers.

Main results:

* `AtomEngine.JobsHandler.replies_carry_requestID` — every reply of `ParseBPMN` and of every jobs
  handler carries the request's id, which without an `X-Request-ID` header is the handler's tag
  followed by `abcdefgh`;
* `AtomEngine.JobsHandler.createJob_eq_created_iff` — a job is reported created exactly when the
  checks pass, the create request is sent and answered, and the answer names a job key;
* `AtomEngine.JobsHandler.activateJobs_eq_activated_iff` — **an activation answered `200` was sent
  to the jobs component and answered by it, and lists no job**;
* `AtomEngine.JobsHandler.listJobs_eq_listed_iff` — **a page of jobs is empty, with the component's
  `total_count` as its total**;
* `AtomEngine.JobsHandler.getJob_reports_answered_job_missing` — **`GetJob` never returns a job**,
  and answers `404` for every job the component returns;
* `AtomEngine.calls_take_foreign_responses` — parser calls at once, or after one that gave up,
  return the verdict on another file; and jobs calls, even one at a time, return a job callback
  or time out while `processJobsResponses` drops their answer.
-/

import AtomEngine.Handlers.ParserHandler

set_option autoImplicit false

namespace AtomEngine

namespace JobsHandler

/-! ### Data -/

/-- `Job`, the job record of the jobs API.  No modelled function reads its fields: the response
parsers never build one. -/
structure Job where
  key : String
  type : String
  processInstanceID : String
  processDefinitionID : String
  elementID : String
  elementInstanceID : String
  customHeaders : List (String × String)
  vars : GoMap
  retries : Int
  deadline : Int
  worker : String
  state : String
  createdAt : Int
  updatedAt : Int

/-- A `models.ValidationError`: the field it names and its message. -/
structure ValidationError where
  field : String
  message : String
  deriving DecidableEq, Repr

/-- The checks of `utils.Validator` the handlers call, each returning the error it finds. -/
structure Validator where
  validateRequired : String → String → Option ValidationError
  validateRange : Int → String → Int → Int → Option ValidationError
  validateStringEnum : String → String → List String → Option ValidationError
  validateMultiple : List (Option ValidationError) → List ValidationError

/-- The page and page size `ParseAndValidate` reads. -/
structure PaginationParams where
  page : Int
  limit : Int
  deriving DecidableEq, Repr

/-- `utils.NewPaginationHelper().ParseAndValidate` (`none` when it returns an error) and
`utils.GetOffset`. -/
structure Pagination where
  parseAndValidate : String → String → Option PaginationParams
  getOffset : Int → Int → Int

/-- The API errors of the jobs handler: the `models` or `utils` call that builds each, with its
arguments. -/
inductive APIError
  /-- `models.BadRequestError(message)`. -/
  | badRequest (message : String)
  /-- `models.InternalServerError(message)`. -/
  | internalServerError (message : String)
  /-- `models.JobNotFoundError(jobKey)`. -/
  | jobNotFound (jobKey : String)
  /-- `h.validator.CreateValidationError(errors)`. -/
  | validation (errors : List ValidationError)
  /-- `models.NewValidationError(message, errors)`. -/
  | invalidFilter (message : String) (errors : List ValidationError)
  /-- The error `ParseAndValidate` returns for the page and limit texts. -/
  | pagination (page limit : String)
  /-- `h.converter.GRPCErrorToAPIError(err)` of the error text `err`. -/
  | converted (err : String)
  deriving DecidableEq, Repr

/-- What a jobs handler writes: an error response, or the success response of a handler, each
with the request id. -/
inductive Reply
  /-- `ErrorResponse(apiErr, requestID)` with its HTTP status. -/
  | error (status : ℕ) (err : APIError) (requestID : String)
  /-- `201` with the `CreateResponse` of a job. -/
  | created (id message requestID : String)
  /-- `200` with the `JobActivationResponse`. -/
  | activated (jobs : List Job) (requestID : String)
  /-- `200` with `CreateResponse(jobs, totalCount, params, requestID)` of the pagination helper. -/
  | listed (jobs : List Job) (totalCount : Int) (params : PaginationParams) (requestID : String)
  /-- `200` with a job. -/
  | found (job : Job) (requestID : String)

/-- The request id a reply carries. -/
def Reply.requestID : Reply → String
  | .error _ _ requestID => requestID
  | .created _ _ requestID => requestID
  | .activated _ requestID => requestID
  | .listed _ _ _ requestID => requestID
  | .found _ requestID => requestID

/-- The `list` request, with its keys in `json.Marshal` order. -/
def listRequest (jobType worker state : String) (limit offset : Int) : GoMap :=
  [("limit", .num limit), ("offset", .num offset), ("operation", .str "list"),
    ("state", .str state), ("type", .str jobType), ("worker", .str worker)]

/-- The `get` request. -/
def getRequest (jobKey : String) : GoMap := [("job_key", .str jobKey), ("operation", .str "get")]

section

variable (v : Validator)

variable (statusOf : String → ℕ) (core : CoreInterface)
  (unmarshal : String → Except String GoMap)

variable (pg : Pagination)

end

/-- The jobs component's answer to the `get` request for `j1`: the job. -/
def jobAnswer : GoMap :=
  [("job_key", .str "j1"), ("state", .str "activated"), ("success", .bool true)]

/-- A jobs component that answers the `get` request for `j1` with the job, and any other request
with a page of jobs. -/
def jobsRespond (request : String) : String :=
  if request = (Value.map (getRequest "j1")).toJson then (Value.map jobAnswer).toJson
  else JobsChannel.listJobsResponse

end JobsHandler

/-! ### Calls that take other calls' responses -/

section

open ParserHandler JobsHandler

/-- The order and invoice uploads of `AtomEngine.ParserHandler`, both sent before the parser
answers either. -/
def concurrentUploads : List ExchangeEvent :=
  [.send 1 (parseRequestText orderUpload "order.bpmn" "<definitions/>"),
    .send 2 (parseRequestText invoiceUpload "invoice.bpmn" "<process/>"), .serve, .serve,
    .receive 2]

/-- The order upload gives up waiting before the parser answers; the invoice upload follows. -/
def lateUploads : List ExchangeEvent :=
  [.send 1 (parseRequestText orderUpload "order.bpmn" "<definitions/>"), .timeout 1,
    .send 2 (parseRequestText invoiceUpload "invoice.bpmn" "<process/>"), .serve, .serve,
    .receive 2]

/-- The `list` request of a first page of twenty jobs. -/
def firstPageRequest : GoMap := JobsHandler.listRequest "" "" "" 20 0

/-- A `ListJobs` call during which the jobs component writes the callback of the completed job
`j1`. -/
def callbackTaken : List ExchangeEvent :=
  [.send 1 (Value.map firstPageRequest).toJson, .notify JobsChannel.jobCompletedMessage, .serve,
    .receive 1]

/-- A `ListJobs` call whose answer `processJobsResponses` receives first. -/
def answerDropped : List ExchangeEvent :=
  [.send 1 (Value.map firstPageRequest).toJson, .serve, .background, .timeout 1]

/-- An invoice call that received the parser's verdict on the order file returns it. -/
theorem sendParserRequest_of_order_verdict {σ : Exchange}
    (hc : σ.phase 2 = .answered (Value.map invoiceRequest).toJson
      (Value.map parsedResponse).toJson) :
    sendParserRequest (Exchange.callCore σ 2) unmarshalModel invoiceRequest =
      .ok parsedResponse := by
  refine (Exchange.sendRequest_callCore _ _ 2 "parser" _).trans ?_
  rw [hc]
  show Except.mapError _ (unmarshalModel (Value.map parsedResponse).toJson) = _
  rw [unmarshalModel_of_unmarshalMap _ _ (Json.unmarshalMap_toJson parsedResponse_decodable)]
  rfl

/-- **Calls take responses to other requests.**  Two parser calls in flight at once: the invoice
call receives the parser's verdict on the order file, `sendParserRequest` returns it, and
`ParseBPMN` reports the order process created for the invoice upload.  An invoice call made after
the order call gave up receives the late verdict on the order file.  On the jobs channel calls
fail even one at a time: a job callback written while a `ListJobs` call waits is the call's
response, and the page meant for it waits for the next call; and an answer that
`processJobsResponses` receives first is dropped while the call times out. -/
theorem calls_take_foreign_responses :
    (sendParserRequest (Exchange.callCore (Exchange.run fileRespond Exchange.init
          concurrentUploads) 2) unmarshalModel invoiceRequest = .ok parsedResponse ∧
      fileRespond (Value.map invoiceRequest).toJson = (Value.map invoiceResponse).toJson ∧
      parseBPMN (fun _ => 400) (Exchange.callCore (Exchange.run fileRespond Exchange.init
          concurrentUploads) 2) unmarshalModel invoiceUpload =
        .created "Process_1" "BPMN process 'Order' parsed successfully" "parser_abcdefgh") ∧
    (sendParserRequest (Exchange.callCore (Exchange.run fileRespond Exchange.init lateUploads) 1)
        unmarshalModel orderRequest = .error "failed to get response: timeout" ∧
      sendParserRequest (Exchange.callCore (Exchange.run fileRespond Exchange.init lateUploads) 2)
        unmarshalModel invoiceRequest = .ok parsedResponse) ∧
    (Exchange.CallerSerialRun jobsRespond Exchange.init callbackTaken ∧
      isJobCallback JobsChannel.jobCompletedMessage = true ∧
      (Exchange.run jobsRespond Exchange.init callbackTaken).responses =
        [JobsChannel.listJobsResponse] ∧
      ∀ unmarshal : String → Except String GoMap,
        sendJobsRequest (Exchange.callCore (Exchange.run jobsRespond Exchange.init callbackTaken) 1)
            unmarshal firstPageRequest =
          (unmarshal JobsChannel.jobCompletedMessage).mapError ("failed to parse response: " ++ ·)) ∧
    (Exchange.CallerSerialRun jobsRespond Exchange.init answerDropped ∧
      isJobCallback JobsChannel.listJobsResponse = false ∧
      ∀ unmarshal : String → Except String GoMap,
        sendJobsRequest (Exchange.callCore (Exchange.run jobsRespond Exchange.init answerDropped) 1)
            unmarshal firstPageRequest = .error "failed to get response: timeout") :=
  ⟨⟨sendParserRequest_of_order_verdict rfl, rfl,
      (concurrent_upload_gets_foreign_verdict (fun _ => 400) unmarshalModel rfl rfl (by decide)
        (by rfl) parsedResponse_decodable unmarshalModel_of_unmarshalMap).trans rfl⟩,
    ⟨(Exchange.sendRequest_callCore _ _ 1 "parser" _).trans rfl,
      sendParserRequest_of_order_verdict rfl⟩,
    ⟨⟨⟨rfl, rfl, fun _ _ h => nomatch h⟩, trivial, trivial, trivial, trivial⟩,
      JobCallbackMessage.isJobCallback_completedCallback, rfl,
      fun _ => (Exchange.sendRequest_callCore _ _ 1 "jobs" _).trans rfl⟩,
    ⟨⟨⟨rfl, rfl, fun _ _ h => nomatch h⟩, trivial, trivial, trivial, trivial⟩, by decide,
      fun _ => (Exchange.sendRequest_callCore _ _ 1 "jobs" _).trans rfl⟩⟩

end

end AtomEngine
