/-
**The jobs response channel and its two consumers.**

The jobs component writes job callbacks and responses to API requests on one Go channel.  Two
consumers receive from it: the background loop `processJobsResponses`, which passes what
`isJobCallback` accepts to `handleJobsResponse` and logs and drops anything else, and the REST
handlers, whose `WaitForJobsResponse` takes the next message as the answer to their request.  A
receive takes the oldest message, whichever consumer makes it.

This module runs the channel through any interleaving of sends and of the two consumers'
receives.  No message is received twice and messages are received in the order they were sent;
but which consumer gets a message is decided by the race, not by its kind.  An API response that
the background loop receives is dropped, and a callback that a waiting handler receives is
returned to the handler and never reaches `handleJobsResponse`.

Main definitions:

* `AtomEngine.handleJobsResponse` — the `HandleJobCallback` call `Core.handleJobsResponse` makes;
* `AtomEngine.processJobsResponses.route` — one iteration of the loop of
  `Core.processJobsResponses` on the message it received;
* `AtomEngine.JobsChannel.step`, `AtomEngine.JobsChannel.run` — the channel under sends and
  receives.

Main results:

* `AtomEngine.JobsChannel.conserves_run` — along every run, the messages sent are the messages
  received, in order, followed by those still on the channel;
* `AtomEngine.JobsChannel.received_prefix_run` — a receipt is never undone;
* `AtomEngine.JobsChannel.step_background_of_not_callback` — the background loop drops every
  message `isJobCallback` rejects;
* `AtomEngine.JobsChannel.messages_lost_to_wrong_consumer` — an API response dropped by the
  background loop, and a callback answered to a handler.
-/

import AtomEngine.Server.JobCallback

set_option autoImplicit false

namespace AtomEngine

/-- The arguments of `HandleJobCallback(jobID, elementID, tokenID, status, errorMessage,
variables)`. -/
structure JobCallbackCall where
  jobID : String
  elementID : String
  tokenID : String
  status : String
  errorMessage : String
  vars : GoMap

/-- `Core.handleJobsResponse`, as far as the process component sees it: the `HandleJobCallback`
call it makes.  `decode` stands for `json.Unmarshal` of the callback's fields (`encoding/json` is
not modelled); a message it cannot decode is only logged. -/
def handleJobsResponse (decode : String → Option JobCallbackCall) (response : String) :
    Option JobCallbackCall :=
  decode response

/-- What one iteration of the loop of `processJobsResponses` does with the message it
received. -/
inductive Routing where
  /-- Taken for a job callback and passed to `handleJobsResponse`, which makes the call `call`. -/
  | handled (response : String) (call : Option JobCallbackCall)
  /-- Taken for an API response, logged and dropped. -/
  | ignored (response : String)

/-- One iteration of the loop of `Core.processJobsResponses` on the message it received. -/
def processJobsResponses.route (decode : String → Option JobCallbackCall) (response : String) :
    Routing :=
  if isJobCallback response then .handled response (handleJobsResponse decode response)
  else .ignored response

/-- A message taken off the channel, and by whom. -/
inductive Receipt where
  /-- `processJobsResponses` received it and routed it. -/
  | background (routing : Routing)
  /-- Modelled from the spec: the `WaitForJobsResponse` call of the handler `caller` received it
  and returned it as the response to the handler's request. -/
  | waiter (caller : ℕ) (response : String)

/-- The message of a receipt. -/
def Receipt.message : Receipt → String
  | .background (.handled m _) => m
  | .background (.ignored m) => m
  | .waiter _ m => m

@[simp] theorem Receipt.message_route (decode : String → Option JobCallbackCall) (m : String) :
    (Receipt.background (processJobsResponses.route decode m)).message = m := by
  unfold processJobsResponses.route
  split <;> rfl

@[simp] theorem Receipt.message_waiter (caller : ℕ) (m : String) :
    (Receipt.waiter caller m).message = m := rfl

/-- An event on the jobs response channel. -/
inductive ChannelEvent where
  /-- The jobs component writes a message on its response channel. -/
  | send (message : String)
  /-- `processJobsResponses` receives the next message; it blocks while there is none. -/
  | background
  /-- Modelled from the spec: a handler's `WaitForJobsResponse` receives the next message; it
  times out while there is none. -/
  | wait (caller : ℕ)

/-- The channel: every message sent so far, the messages still buffered (oldest first) and the
receipts so far. -/
structure JobsChannel where
  sent : List String
  queue : List String
  received : List Receipt

namespace JobsChannel

/-- No message sent yet. -/
def init : JobsChannel := ⟨[], [], []⟩

/-- A receive: the oldest message is taken off the channel and recorded by `receipt`; with no
message nothing happens. -/
def receive (σ : JobsChannel) (receipt : String → Receipt) : JobsChannel :=
  match σ.queue with
  | [] => σ
  | m :: rest => { σ with queue := rest, received := σ.received ++ [receipt m] }

variable (decode : String → Option JobCallbackCall)

/-- One event on the channel. -/
def step (σ : JobsChannel) : ChannelEvent → JobsChannel
  | .send m => { σ with sent := σ.sent ++ [m], queue := σ.queue ++ [m] }
  | .background => σ.receive fun m => .background (processJobsResponses.route decode m)
  | .wait caller => σ.receive (.waiter caller)

/-- A run of the channel through a list of events. -/
def run (σ : JobsChannel) (events : List ChannelEvent) : JobsChannel := events.foldl (step decode) σ

theorem run_append (σ : JobsChannel) (xs ys : List ChannelEvent) :
    run decode σ (xs ++ ys) = run decode (run decode σ xs) ys :=
  List.foldl_append _ _ _ _

/-- The account of the channel: the messages sent are the messages received, in order, followed
by those still on the channel. -/
def Conserves (σ : JobsChannel) : Prop := σ.sent = σ.received.map Receipt.message ++ σ.queue

theorem receive_of_cons {σ : JobsChannel} {m : String} {rest : List String}
    (h : σ.queue = m :: rest) (receipt : String → Receipt) :
    σ.receive receipt = { σ with queue := rest, received := σ.received ++ [receipt m] } := by
  simp [receive, h]

theorem conserves_receive {σ : JobsChannel} (hσ : Conserves σ) {receipt : String → Receipt}
    (hr : ∀ m, (receipt m).message = m) : Conserves (σ.receive receipt) := by
  unfold receive
  split
  · exact hσ
  · rename_i m rest h
    unfold Conserves at hσ ⊢
    simp [hσ, h, hr]

/-- Every event keeps the account. -/
theorem conserves_step {σ : JobsChannel} (hσ : Conserves σ) (ev : ChannelEvent) :
    Conserves (step decode σ ev) := by
  cases ev with
  | send m =>
      unfold Conserves at hσ ⊢
      simp [step, hσ]
  | background => exact conserves_receive hσ (Receipt.message_route decode)
  | wait caller => exact conserves_receive hσ (Receipt.message_waiter caller)

/-- **Every message is received at most once, in the order it was sent**, along any run from an
account that holds, in particular from the empty channel. -/
theorem conserves_run {σ : JobsChannel} (hσ : Conserves σ) (events : List ChannelEvent) :
    Conserves (run decode σ events) := by
  induction events generalizing σ with
  | nil => exact hσ
  | cons ev events ih => exact ih (conserves_step decode hσ ev)

theorem conserves_init : Conserves init := rfl

/-- An event only adds receipts. -/
theorem received_prefix_step (σ : JobsChannel) (ev : ChannelEvent) :
    σ.received <+: (step decode σ ev).received := by
  cases ev with
  | send m => exact List.prefix_refl _
  | _ => simp only [step, receive]; split <;> simp

/-- **A receipt is never undone**: a message once received, and so a message once dropped, keeps
its receipt along every run. -/
theorem received_prefix_run (σ : JobsChannel) (events : List ChannelEvent) :
    σ.received <+: (run decode σ events).received := by
  induction events generalizing σ with
  | nil => exact List.prefix_refl _
  | cons ev events ih => exact (received_prefix_step decode σ ev).trans (ih _)

/-- **The background loop drops what `isJobCallback` rejects**: when the oldest message is one
that `isJobCallback` rejects and `processJobsResponses` receives, the message leaves the channel
with the receipt `ignored`. -/
theorem step_background_of_not_callback {σ : JobsChannel} {m : String} {rest : List String}
    (hq : σ.queue = m :: rest) (hm : isJobCallback m = false) :
    step decode σ .background =
      { σ with queue := rest, received := σ.received ++ [.background (.ignored m)] } := by
  simp [step, receive_of_cons hq, processJobsResponses.route, hm]

/-- A handler's wait takes the oldest message, whatever its kind. -/
theorem step_wait_of_cons {σ : JobsChannel} {m : String} {rest : List String}
    (hq : σ.queue = m :: rest) (caller : ℕ) :
    step decode σ (.wait caller) =
      { σ with queue := rest, received := σ.received ++ [.waiter caller m] } :=
  receive_of_cons hq _

/-- A response of the jobs component to a REST handler's request for the list of jobs. -/
def listJobsResponse : String := "\x7b\"type\":\"list_jobs_response\",\"success\":true\x7d"

/-- The callback of the completed job `j1`. -/
def jobCompletedMessage : String := JobCallbackMessage.completedCallback.toJson

/-- A decoder that decodes nothing; the runs below never consult it. -/
def decodeNone (_ : String) : Option JobCallbackCall := none

/-- A handler waits for the response to its request, but `processJobsResponses` receives it
first and drops it, and the handler's wait finds the channel empty.  The other way round, when a
handler waits while a job callback arrives, it receives the callback as its response, and the
callback never reaches `handleJobsResponse`. -/
theorem messages_lost_to_wrong_consumer :
    (run decodeNone init [.send listJobsResponse, .background, .wait 1]).received =
        [.background (.ignored listJobsResponse)] ∧
      (run decodeNone init [.send listJobsResponse, .background, .wait 1]).queue = [] ∧
      isJobCallback jobCompletedMessage = true ∧
      (run decodeNone init [.send jobCompletedMessage, .wait 1, .background]).received =
        [.waiter 1 jobCompletedMessage] :=
  ⟨rfl, rfl, JobCallbackMessage.isJobCallback_completedCallback, rfl⟩

end JobsChannel

end AtomEngine
