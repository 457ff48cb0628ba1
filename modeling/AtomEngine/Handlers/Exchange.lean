/-
**Requests to the jobs and parser components, and which response each call gets.**

The REST handlers talk to the jobs and parser components through the core: a call marshals its
request, sends it with `SendMessage` and takes the next message of the component's response
channel with `WaitForJobsResponse` or `WaitForParserResponse` (`ParseBPMN` does the same two
steps inline).  Neither the request nor the wait carries a correlation id, and the call accepts
whatever message comes next.  The implementations of the two waits are not among the sources: a
wait takes the next message of the channel, or times out.

This module models one call as the sources write it, then any number of calls running at once
against a component that answers its requests in the order it receives them, where a call may
also give up waiting.  The jobs component's channel carries more: the job callbacks the component
writes unasked, which `processJobsResponses` receives from the same channel
(`AtomEngine.Server.JobsChannel`).  The exchange has both, and its response channel is that jobs
channel.  The parser's channel has neither.

Main definitions:

* `AtomEngine.sendRequest` — the body shared by `JobsHandler.sendJobsRequest` and
  `ParserHandler.sendParserRequest`;
* `AtomEngine.Exchange.step`, `AtomEngine.Exchange.run` — calls, the component, its unsolicited
  messages and the background loop, interleaved;
* `AtomEngine.Exchange.callCore` — the core as one call of an exchange sees it;
* `AtomEngine.Exchange.CallerSerialRun` — the schedules in which a call is made only while no
  other call is in flight and nothing of an earlier call is pending;
* `AtomEngine.Exchange.SerialRun` — those schedules on a channel that only the calls read and
  only answers reach, as the parser's.

Main results:

* `AtomEngine.sendRequest_eq_ok_iff` — a call succeeds exactly when its message is sent and the
  next response decodes, whatever request that response answers;
* `AtomEngine.Exchange.sendRequest_callCore` — a call of an exchange returns the decoding of the
  message it received, and `failed to get response` when it received none;
* `AtomEngine.Exchange.responses_run` — along every run, the exchange's response channel holds
  what the jobs channel holds after the sends and receives the run makes on it;
* `AtomEngine.Exchange.serialInv_run` — along a serialised run, the pending request and response
  belong to the one call in flight.
-/

import AtomEngine.Server.JobsChannel

set_option autoImplicit false

namespace AtomEngine

/-- The core's message routing as the REST handlers use it (`CoreInterface`): `SendMessage` to a
component, and the waits for the next response of the parser and of the jobs component, each
with a timeout in milliseconds. -/
structure CoreInterface where
  sendMessage : String → String → Except String Unit
  waitForParserResponse : ℕ → Except String String
  waitForJobsResponse : ℕ → Except String String

/-- `json.Marshal` of a `map[string]interface{}` of JSON values, which does not fail. -/
def jsonMarshal (m : GoMap) : Except String String := .ok (Value.map m).toJson

section

variable (core : CoreInterface) (unmarshal : String → Except String GoMap)

/-- The body of `sendJobsRequest` and `sendParserRequest`: marshal the request, send it to
`component`, take the next response with `waitForResponse` (30 s) and unmarshal it.
`unmarshal` stands for `json.Unmarshal` into a map. -/
def sendRequest (component : String) (waitForResponse : ℕ → Except String String) (req : GoMap) :
    Except String GoMap :=
  match jsonMarshal req with
  | .error e => .error ("failed to marshal request: " ++ e)
  | .ok reqJSON =>
    match core.sendMessage component reqJSON with
    | .error e => .error ("failed to send message: " ++ e)
    | .ok () =>
      match waitForResponse 30000 with
      | .error e => .error ("failed to get response: " ++ e)
      | .ok respJSON =>
        match unmarshal respJSON with
        | .error e => .error ("failed to parse response: " ++ e)
        | .ok response => .ok response

/-- `JobsHandler.sendJobsRequest`. -/
def JobsHandler.sendJobsRequest (req : GoMap) : Except String GoMap :=
  sendRequest core unmarshal "jobs" core.waitForJobsResponse req

/-- `ParserHandler.sendParserRequest`. -/
def ParserHandler.sendParserRequest (req : GoMap) : Except String GoMap :=
  sendRequest core unmarshal "parser" core.waitForParserResponse req

/-- **A call succeeds exactly when its message is sent and the next response decodes**: the
result is the decoding of whatever response the wait returns, with nothing that ties it to the
request. -/
theorem sendRequest_eq_ok_iff {component : String} {waitForResponse : ℕ → Except String String}
    {req response : GoMap} :
    sendRequest core unmarshal component waitForResponse req = .ok response ↔
      core.sendMessage component (Value.map req).toJson = .ok () ∧
        ∃ respJSON, waitForResponse 30000 = .ok respJSON ∧ unmarshal respJSON = .ok response := by
  simp only [sendRequest, jsonMarshal]
  split
  · simp_all
  · split
    · simp_all
    · split <;> simp_all

end

/-! ### Calls running at once -/

/-- Where a call stands: not started, waiting for the response to its request, answered with
a response, or given up after its timeout. -/
inductive CallPhase where
  | idle
  | waiting (request : String)
  | answered (request response : String)
  | timedOut (request : String)
  deriving DecidableEq

/-- Calls to one component: the requests the component has not answered yet, the responses on
its response channel (both oldest first) and where each call stands. -/
structure Exchange where
  inbox : List String
  responses : List String
  phase : ℕ → CallPhase

/-- An event of the exchange. -/
inductive ExchangeEvent where
  /-- A call marshals its request and `SendMessage` delivers it to the component. -/
  | send (caller : ℕ) (request : String)
  /-- The component answers its oldest request on its response channel. -/
  | serve
  /-- The component writes a message on its response channel unasked, as the jobs component
  writes a job callback. -/
  | notify (message : String)
  /-- A call's `WaitFor…Response` takes the next message of the response channel. -/
  | receive (caller : ℕ)
  /-- `processJobsResponses` takes the next message of the response channel. -/
  | background
  /-- A call's wait times out and the call returns `failed to get response`. -/
  | timeout (caller : ℕ)

namespace Exchange

/-- No call made yet. -/
def init : Exchange := ⟨[], [], fun _ => .idle⟩

variable (respond : String → String)

/-- One event; `respond` is the component's response to a request. -/
def step (σ : Exchange) : ExchangeEvent → Exchange
  | .send c request =>
      match σ.phase c with
      | .idle => { σ with inbox := σ.inbox ++ [request],
                          phase := Function.update σ.phase c (.waiting request) }
      | _ => σ
  | .serve =>
      match σ.inbox with
      | [] => σ
      | request :: rest => { σ with inbox := rest, responses := σ.responses ++ [respond request] }
  | .notify message => { σ with responses := σ.responses ++ [message] }
  | .receive c =>
      match σ.phase c, σ.responses with
      | .waiting request, response :: rest =>
          { σ with responses := rest, phase := Function.update σ.phase c (.answered request response) }
      | _, _ => σ
  | .background => { σ with responses := σ.responses.tail }
  | .timeout c =>
      match σ.phase c with
      | .waiting request => { σ with phase := Function.update σ.phase c (.timedOut request) }
      | _ => σ

/-- A run of the exchange through a list of events. -/
def run (σ : Exchange) (events : List ExchangeEvent) : Exchange := events.foldl (step respond) σ

/-- What the core answers the call `c` in the state `σ`: the message it received, or a
timeout. -/
def waitResult (σ : Exchange) (c : ℕ) : Except String String :=
  match σ.phase c with
  | .answered _ response => .ok response
  | _ => .error "timeout"

/-- The core as the call `c` of an exchange sees it: `SendMessage` delivers, and the wait returns
the message the call received, or times out. -/
def callCore (σ : Exchange) (c : ℕ) : CoreInterface where
  sendMessage _ _ := .ok ()
  waitForParserResponse _ := waitResult σ c
  waitForJobsResponse _ := waitResult σ c

/-- **A call returns the decoding of the message it received**, whatever request that message
answers, and `failed to get response` when it received none. -/
theorem sendRequest_callCore (unmarshal : String → Except String GoMap) (σ : Exchange) (c : ℕ)
    (component : String) (req : GoMap) :
    sendRequest (callCore σ c) unmarshal component (fun _ => waitResult σ c) req =
      match σ.phase c with
      | .answered _ x => (unmarshal x).mapError ("failed to parse response: " ++ ·)
      | _ => .error "failed to get response: timeout" := by
  rcases hc : σ.phase c with _ | r | ⟨r, x⟩ | r <;>
    simp only [sendRequest, jsonMarshal, callCore, waitResult, hc]
  case answered => cases unmarshal x <;> rfl
  all_goals rfl

/-- A call is made only while no other call waits and no request or response of an earlier call
is pending. -/
def CallsAllowed (σ : Exchange) : ExchangeEvent → Prop
  | .send _ _ => σ.inbox = [] ∧ σ.responses = [] ∧ ∀ c r, σ.phase c ≠ .waiting r
  | _ => True

/-- A schedule in which the calls are serialised: every event is one `CallsAllowed` allows. -/
def CallerSerialRun : Exchange → List ExchangeEvent → Prop
  | _, [] => True
  | σ, ev :: events => CallsAllowed σ ev ∧ CallerSerialRun (step respond σ ev) events

/-- A serialised call on a channel that only the calls read and only answers reach: no
unsolicited message and no background receive. -/
def Allowed (σ : Exchange) : ExchangeEvent → Prop
  | .notify _ => False
  | .background => False
  | ev => CallsAllowed σ ev

/-- A schedule every event of which is allowed. -/
def SerialRun : Exchange → List ExchangeEvent → Prop
  | _, [] => True
  | σ, ev :: events => Allowed σ ev ∧ SerialRun (step respond σ ev) events

/-- What a serialised exchange keeps: at most one call waits, what is pending is its request and
the response to it, and every answered call holds the response to its own request. -/
structure SerialInv (σ : Exchange) : Prop where
  single : ∀ c c' r r', σ.phase c = .waiting r → σ.phase c' = .waiting r' → c = c'
  pending : ∀ c r, σ.phase c = .waiting r →
    (∀ x ∈ σ.inbox, x = r) ∧ ∀ x ∈ σ.responses, x = respond r
  answered : ∀ c r x, σ.phase c = .answered r x → x = respond r

theorem serialInv_init : SerialInv respond init :=
  ⟨fun _ _ _ _ h => (nomatch h), fun _ _ h => (nomatch h), fun _ _ _ h => (nomatch h)⟩

theorem serialInv_send {σ : Exchange} (hi : SerialInv respond σ) {c : ℕ} {request : String}
    (ha : Allowed σ (.send c request)) : SerialInv respond (step respond σ (.send c request)) := by
  obtain ⟨hin, hres, hnw⟩ := ha
  simp only [step]
  split
  · have hwait : ∀ c₁ r₁, Function.update σ.phase c (.waiting request) c₁ = .waiting r₁ →
        c₁ = c ∧ r₁ = request := by
      intro c₁ r₁ h
      by_cases e : c₁ = c
      · subst e
        exact ⟨rfl, (CallPhase.waiting.inj (by simpa using h)).symm⟩
      · rw [Function.update_noteq e] at h
        exact absurd h (hnw c₁ r₁)
    refine ⟨fun c₁ c₂ r₁ r₂ h₁ h₂ => (hwait c₁ r₁ h₁).1.trans (hwait c₂ r₂ h₂).1.symm,
      fun c₁ r h => ?_, fun c₁ r x h => ?_⟩
    · obtain ⟨-, rfl⟩ := hwait c₁ r h
      simp [hin, hres]
    · dsimp only at h
      by_cases e : c₁ = c
      · subst e
        simp at h
      · rw [Function.update_noteq e] at h
        exact hi.answered c₁ r x h
  · exact hi

theorem serialInv_serve {σ : Exchange} (hi : SerialInv respond σ) :
    SerialInv respond (step respond σ .serve) := by
  simp only [step]
  split
  · exact hi
  · rename_i request rest h
    refine ⟨hi.single, fun c r hc => ?_, hi.answered⟩
    have hp := hi.pending c r hc
    rw [h] at hp
    refine ⟨fun x hx => hp.1 x (.tail _ hx), fun x hx => ?_⟩
    rcases List.mem_append.1 hx with hx | hx
    · exact hp.2 x hx
    · rw [List.mem_singleton.1 hx, hp.1 request (.head _)]

/-- Settling the one waiting call, with a phase that is not waiting and answers it with the
response to its request if any, leaves no call waiting: the invariant then holds whatever is
pending. -/
theorem SerialInv.settle {σ : Exchange} (hi : SerialInv respond σ) {c : ℕ} {r : String}
    (hc : σ.phase c = .waiting r) {p : CallPhase} (hp : ∀ r', p ≠ .waiting r')
    (hans : ∀ r' x, p = .answered r' x → x = respond r') (inbox responses : List String) :
    SerialInv respond ⟨inbox, responses, Function.update σ.phase c p⟩ := by
  have hnone : ∀ c₁ r₁, Function.update σ.phase c p c₁ ≠ .waiting r₁ := by
    intro c₁ r₁ h
    by_cases e : c₁ = c
    · subst e
      exact hp r₁ (by simpa using h)
    · rw [Function.update_noteq e] at h
      exact e (hi.single _ _ _ _ h hc)
  refine ⟨fun c₁ _ r₁ _ h₁ _ => absurd h₁ (hnone c₁ r₁), fun c₁ r₁ h => absurd h (hnone c₁ r₁),
    fun c₁ r' x h => ?_⟩
  dsimp only at h
  by_cases e : c₁ = c
  · subst e
    exact hans r' x (by simpa using h)
  · rw [Function.update_noteq e] at h
    exact hi.answered c₁ r' x h

theorem serialInv_receive {σ : Exchange} (hi : SerialInv respond σ) (c : ℕ) :
    SerialInv respond (step respond σ (.receive c)) := by
  simp only [step]
  split
  · rename_i request response rest hc hr
    refine hi.settle respond hc (p := .answered request response) (fun _ h => nomatch h)
      (fun r' x h => ?_) σ.inbox rest
    obtain ⟨rfl, rfl⟩ := CallPhase.answered.inj h
    exact (hi.pending c request hc).2 _ (hr ▸ .head _)
  · exact hi

theorem serialInv_timeout {σ : Exchange} (hi : SerialInv respond σ) (c : ℕ) :
    SerialInv respond (step respond σ (.timeout c)) := by
  simp only [step]
  split
  · rename_i request hc
    exact hi.settle respond hc (p := .timedOut request) (fun _ h => nomatch h)
      (fun _ _ h => nomatch h) σ.inbox σ.responses
  · exact hi

/-- Every allowed event keeps the invariant. -/
theorem serialInv_step {σ : Exchange} (hi : SerialInv respond σ) {ev : ExchangeEvent}
    (ha : Allowed σ ev) : SerialInv respond (step respond σ ev) := by
  cases ev with
  | send c request => exact serialInv_send respond hi ha
  | serve => exact serialInv_serve respond hi
  | notify m => exact ha.elim
  | receive c => exact serialInv_receive respond hi c
  | background => exact ha.elim
  | timeout c => exact serialInv_timeout respond hi c

/-- The invariant holds along every serialised run. -/
theorem serialInv_run {σ : Exchange} (hi : SerialInv respond σ) {events : List ExchangeEvent}
    (h : SerialRun respond σ events) : SerialInv respond (run respond σ events) := by
  induction events generalizing σ with
  | nil => exact hi
  | cons ev events ih => exact ih (serialInv_step respond hi h.1) h.2

/-! ### The exchange's response channel is the jobs channel -/

/-- The events of the jobs channel (`AtomEngine.JobsChannel`) that an event of the exchange
makes: an answer or an unsolicited message is a send, the background loop's receive is the
channel's, and a call's receive is a wait when the call is waiting. -/
def channelEvents (σ : Exchange) : ExchangeEvent → List ChannelEvent
  | .send _ _ => []
  | .serve => σ.inbox.head?.toList.map fun request => .send (respond request)
  | .notify message => [.send message]
  | .receive c =>
      match σ.phase c with
      | .waiting _ => [.wait c]
      | _ => []
  | .background => [.background]
  | .timeout _ => []

/-- The events of the jobs channel that a run of the exchange makes. -/
def channelTrace : Exchange → List ExchangeEvent → List ChannelEvent
  | _, [] => []
  | σ, ev :: events => channelEvents respond σ ev ++ channelTrace (step respond σ ev) events

variable (decode : String → Option JobCallbackCall)

/-- One event of the exchange changes its response channel as its channel events change the jobs
channel. -/
theorem responses_step {σ : Exchange} {τ : JobsChannel} (h : σ.responses = τ.queue)
    (ev : ExchangeEvent) :
    (step respond σ ev).responses = (JobsChannel.run decode τ (channelEvents respond σ ev)).queue := by
  obtain ⟨sent, queue, received⟩ := τ
  dsimp only at h
  subst h
  cases ev with
  | send c request => simp only [step]; split <;> rfl
  | serve =>
    simp only [step, channelEvents]
    split <;> rename_i hin <;> simp [hin, JobsChannel.run, JobsChannel.step]
  | notify message => simp [step, channelEvents, JobsChannel.run, JobsChannel.step]
  | receive c =>
    simp only [step, channelEvents]
    rcases hc : σ.phase c <;> rcases hr : σ.responses <;>
      simp [JobsChannel.run, JobsChannel.step, JobsChannel.receive, hr]
  | background =>
    rcases hr : σ.responses <;>
      simp [step, channelEvents, JobsChannel.run, JobsChannel.step, JobsChannel.receive, hr]
  | timeout c => simp only [step]; split <;> rfl

/-- **The exchange's response channel is the jobs channel.**  Along every run, the messages
waiting on the exchange's response channel are those the jobs channel of
`AtomEngine.Server.JobsChannel` holds after the sends, background receives and waits the run makes
on it: the answers and callbacks the component writes, the receives of `processJobsResponses` and
those of the waiting calls. -/
theorem responses_run {σ : Exchange} {τ : JobsChannel} (h : σ.responses = τ.queue)
    (events : List ExchangeEvent) :
    (run respond σ events).responses =
      (JobsChannel.run decode τ (channelTrace respond σ events)).queue := by
  induction events generalizing σ τ with
  | nil => exact h
  | cons ev events ih =>
    rw [channelTrace, JobsChannel.run_append]
    exact ih (responses_step respond decode h ev)

/-- A call answered while the component also writes a callback, which the background loop then
receives. -/
def callWithCallback : List ExchangeEvent :=
  [.send 1 "list", .notify "callback", .serve, .receive 1, .background]

theorem responses_run_at_callWithCallback :
    init.responses = JobsChannel.init.queue ∧
      (run (fun _ => "page") init callWithCallback).responses =
        (JobsChannel.run JobsChannel.decodeNone JobsChannel.init
          (channelTrace (fun _ => "page") init callWithCallback)).queue :=
  ⟨rfl, responses_run (fun _ => "page") JobsChannel.decodeNone rfl callWithCallback⟩

end Exchange

end AtomEngine
