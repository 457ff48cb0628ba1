/-
**The call-activity executor and the visits of a token to a call activity.**

A call activity starts a child instance of another process and waits for it.  The executor is
re-entrant: the scheduler runs it when the token arrives and again when the child's completion
resumes the token, and the executor tells the two apart by a flag in the token's execution
context, `call_activity_executed:<elementID>`, which it sets once the child is started.  When the
flag is set it advances along the element's outgoing flows instead of starting a child.

Nothing clears the flag: neither the executor, nor a resume, nor a move (§4.2 moves only change
the current element).  This module runs a token through any sequence of executions, suspensions,
resumptions and moves, and shows that the flag turns every later visit to the same element into a
resume.

Main definitions:

* `AtomEngine.extractCalledProcessID` — the called process id, looked up in the element's
  `extension_elements`;
* `AtomEngine.CallActivityExecutor.execute` — `CallActivityExecutor.Execute`, with the token after
  the call and the child it started;
* `AtomEngine.TokenEvent`, `AtomEngine.TokenRun.run` — what happens to a token, and a run of it.

Main results:

* `AtomEngine.CallActivityExecutor.execute_of_executed` — once the flag is set, `Execute` starts
  no child and leaves the token alone;
* `AtomEngine.CallActivityExecutor.execute_child` — a child is started only when the flag was not
  set, and then the flag is set; a failed extraction or start leaves the token unchanged;
* `AtomEngine.TokenRun.childrenAt_run_le_one` — **over any run, at most one child is ever started
  at an element, however often the token comes back to it**;
* `AtomEngine.TokenRun.call_activity_revisit_starts_no_child` — a loop back to a call activity
  advances past it without a child.
-/

import AtomEngine.Models.Token

set_option autoImplicit false

namespace AtomEngine

/-- `ExecutionResult`, with the fields the call-activity executor fills in. -/
structure ExecutionResult where
  success : Bool
  tokenUpdated : Bool := false
  nextElements : List String := []
  waitingFor : String := ""
  completed : Bool := false
  error : String := ""
  deriving Repr

/-! ### The called process -/

/-- The inner loop of `extractCalledProcessID` on one extension: a `calledElement` whose
`called_element.process_id` is a string. -/
def calledProcessIDOfExtension : Value → Option String
  | .map extMap =>
      if GoMap.eqString extMap "type" "calledElement" then
        match GoMap.get? extMap "called_element" with
        | some (.map calledElementMap) =>
            match GoMap.get? calledElementMap "process_id" with
            | some (.str processIDStr) => some processIDStr
            | _ => none
        | _ => none
      else none
  | _ => none

/-- The outer loop of `extractCalledProcessID` on one entry of `extension_elements`: an
`extensionElements` entry whose `extensions` list holds a called process id. -/
def calledProcessIDOfExtensionElement : Value → Option String
  | .map extElemMap =>
      if GoMap.eqString extElemMap "type" "extensionElements" then
        match GoMap.get? extElemMap "extensions" with
        | some (.list extensionsList) => extensionsList.findSome? calledProcessIDOfExtension
        | _ => none
      else none
  | _ => none

/-- `CallActivityExecutor.extractCalledProcessID`. -/
def extractCalledProcessID (element : GoMap) : Except String String :=
  match element.get? "extension_elements" with
  | none => .error "no extension_elements found"
  | some (.list extensionElementsList) =>
      match extensionElementsList.findSome? calledProcessIDOfExtensionElement with
      | some processIDStr => .ok processIDStr
      | none => .error "called process ID not found in extension elements"
  | some _ => .error "extension_elements is not a list"

/-! ### The executor -/

/-- `CallActivityExecutor`: its `component`, of which `Execute` calls `StartProcessInstance`
(the id of the child instance started, or the error). -/
structure CallActivityExecutor where
  startProcessInstance : String → GoMap → Except String String

/-- What one `Execute` call leaves: the token (its execution context may have been set), the
result, and the child instance it started, if any. -/
structure CallActivityOutcome where
  token : Token
  result : ExecutionResult
  child : Option String

/-- The execution-context key of the flag for the element `elementID`. -/
def callActivityKey (elementID : String) : String := "call_activity_executed:" ++ elementID

/-- Whether the token carries the flag of the element `elementID` (`exists && executed == true`). -/
def executedAt (token : Token) (elementID : String) : Bool :=
  (token.getExecutionContext (callActivityKey elementID)).any Value.isTrue

/-- The element's `outgoing` flows as `Execute` collects them: the string items of a list, or a
single string. -/
def outgoingFlows : Value → List String
  | .list outgoingList => outgoingList.filterMap Value.asString?
  | .str outgoingStr => [outgoingStr]
  | _ => []

/-- `CallActivityExecutor.Execute`. -/
def CallActivityExecutor.execute (cae : CallActivityExecutor) (token : Token) (element : GoMap) :
    CallActivityOutcome :=
  if executedAt token token.currentElementID then
    match element.get? "outgoing" with
    | none => ⟨token, { success := true, tokenUpdated := true, completed := true }, none⟩
    | some outgoing => ⟨token, { success := true, nextElements := outgoingFlows outgoing }, none⟩
  else
    match extractCalledProcessID element with
    | .error err =>
        ⟨token, { success := false, error := "failed to extract called process ID: " ++ err }, none⟩
    | .ok calledProcessID =>
        match cae.startProcessInstance calledProcessID token.vars with
        | .error err =>
            ⟨token, { success := false, error := "failed to start child process: " ++ err }, none⟩
        | .ok childInstanceID =>
            ⟨token.setExecutionContext (callActivityKey token.currentElementID) (.bool true),
              { success := true, tokenUpdated := true,
                waitingFor := "call_activity:" ++ childInstanceID },
              some childInstanceID⟩

theorem callActivityKey_injective {a b : String} (h : callActivityKey a = callActivityKey b) :
    a = b := by
  have := congrArg String.data h
  simp only [callActivityKey, String.data_append, List.append_cancel_left_eq] at this
  exact String.ext this

/-- Setting the flag of one element leaves the flags of the others alone. -/
theorem executedAt_set_of_ne (token : Token) {e e' : String} (v : Value) (h : e' ≠ e) :
    executedAt (token.setExecutionContext (callActivityKey e) v) e' = executedAt token e' := by
  simp only [executedAt, Token.getExecutionContext, Token.setExecutionContext_executionContext]
  rw [GoMap.get?_set_of_ne _ _ (fun hk => h (callActivityKey_injective hk))]

@[simp] theorem executedAt_set_self (token : Token) (e : String) :
    executedAt (token.setExecutionContext (callActivityKey e) (.bool true)) e = true := by
  simp [executedAt, Token.getExecutionContext]

section

variable (cae : CallActivityExecutor) (token : Token) (element : GoMap)

/-- **Once the flag of the current element is set, `Execute` starts no child** and leaves the
token as it is. -/
theorem CallActivityExecutor.execute_of_executed (h : executedAt token token.currentElementID) :
    (cae.execute token element).child = none ∧ (cae.execute token element).token = token := by
  unfold CallActivityExecutor.execute
  rw [if_pos h]
  split <;> exact ⟨rfl, rfl⟩

/-- `Execute` either starts no child and leaves the token alone, or finds the flag unset, starts
a child and sets the flag. -/
theorem CallActivityExecutor.execute_child :
    ((cae.execute token element).child = none ∧ (cae.execute token element).token = token) ∨
      (executedAt token token.currentElementID = false ∧ ∃ c,
        (cae.execute token element).child = some c ∧
        (cae.execute token element).token =
          token.setExecutionContext (callActivityKey token.currentElementID) (.bool true)) := by
  by_cases h : executedAt token token.currentElementID
  · exact .inl (cae.execute_of_executed token element h)
  · unfold CallActivityExecutor.execute
    rw [if_neg h]
    split
    · exact .inl ⟨rfl, rfl⟩
    · split
      · exact .inl ⟨rfl, rfl⟩
      · exact .inr ⟨by simpa using h, _, rfl, rfl⟩

end

/-! ### The visits of a token -/

/-- What happens to a token, as far as the call activity sees it. -/
inductive TokenEvent where
  /-- The scheduler runs `Execute` on the token at its element, whose map is `element`. -/
  | execute (element : GoMap)
  /-- Modelled from the spec: the scheduler suspends the token on `waitingFor` (§4.1). -/
  | suspend (waitingFor : String)
  /-- A callback resumes the token (`ClearWaitingFor`). -/
  | resume
  /-- Modelled from the spec: the token moves to another element (§4.2). -/
  | moveTo (elementID : String)

/-- A token and the child instances started for it so far, with the element each was started at. -/
structure TokenRun where
  token : Token
  children : List (String × String)

namespace TokenRun

variable (cae : CallActivityExecutor)

/-- One event of a token's run. -/
def step (ρ : TokenRun) : TokenEvent → TokenRun
  | .execute element =>
      let o := cae.execute ρ.token element
      { token := o.token
        children := ρ.children ++ (o.child.map (ρ.token.currentElementID, ·)).toList }
  | .suspend waitingFor => { ρ with token := { ρ.token with state := .waiting, waitingFor } }
  | .resume => { ρ with token := ρ.token.clearWaitingFor }
  | .moveTo elementID => { ρ with token := ρ.token.moveTo elementID }

/-- A run of the token through a list of events. -/
def run (ρ : TokenRun) (events : List TokenEvent) : TokenRun := events.foldl (step cae) ρ

/-- How many children were started at the element `e`. -/
def childrenAt (e : String) (ρ : TokenRun) : ℕ := (ρ.children.filter (·.1 == e)).length

/-- The flags account for the children: at most one child at an element, and only if its flag is
set. -/
def FlagsAccount (ρ : TokenRun) : Prop :=
  ∀ e, childrenAt e ρ ≤ if executedAt ρ.token e then 1 else 0

/-- The flags account for the children after every event. -/
theorem flagsAccount_step {ρ : TokenRun} (h : FlagsAccount ρ) (ev : TokenEvent) :
    FlagsAccount (step cae ρ ev) := by
  intro e
  cases ev with
  | execute element =>
      rcases cae.execute_child ρ.token element with ⟨hc, ht⟩ | ⟨hf, c, hc, ht⟩
      · simpa [step, childrenAt, hc, ht] using h e
      · have he := h e
        by_cases hce : ρ.token.currentElementID = e
        · subst hce
          simp only [hf, childrenAt] at he
          simp [step, childrenAt, hc, ht]
          simpa using he
        · simp only [step, childrenAt, hc, ht, executedAt_set_of_ne _ _ (Ne.symm hce)] at he ⊢
          simpa [hce] using he
  | _ => simpa [step, childrenAt, executedAt, Token.getExecutionContext] using h e

/-- The flags account for the children along every run. -/
theorem flagsAccount_run {ρ : TokenRun} (h : FlagsAccount ρ) (events : List TokenEvent) :
    FlagsAccount (run cae ρ events) := by
  induction events generalizing ρ with
  | nil => exact h
  | cons ev events ih => exact ih (flagsAccount_step cae h ev)

/-- **At most one child per element over a whole run.**  From a token that carries no flag and
has no child yet, whatever the executions, suspensions, resumptions and moves, at most one child
instance is ever started at each element, however often the token arrives there. -/
theorem childrenAt_run_le_one (token : Token) (h : ∀ e, executedAt token e = false)
    (events : List TokenEvent) (e : String) : childrenAt e (run cae ⟨token, []⟩ events) ≤ 1 := by
  have := @flagsAccount_run cae ⟨token, []⟩ (fun e => by simp [childrenAt, h e]) events e
  split at this <;> omega

/-- A call activity that calls the process `Child` and leaves along `f_out`. -/
def callActivityElement : GoMap :=
  [("outgoing", .list [.str "f_out"]),
   ("extension_elements", .list [.map [("type", .str "extensionElements"),
     ("extensions", .list [.map [("type", .str "calledElement"),
       ("called_element", .map [("process_id", .str "Child")])]])]])]

/-- A component whose `StartProcessInstance` starts the instance `c1`. -/
def childStarter : CallActivityExecutor := ⟨fun _ _ => .ok "c1"⟩

/-- A token arriving at the call activity `Call` for the first time. -/
def callToken : Token where
  tokenID := "t1"
  processKey := "Parent"
  currentElementID := "Call"
  state := .active
  waitingFor := ""
  vars := []
  executionContext := []

/-- A first visit to `Call` and a loop back to it: the child is started and the token suspended,
the child's completion resumes it, it advances, goes round the loop and arrives at `Call` again. -/
def loopBackToCall : List TokenEvent :=
  [.execute callActivityElement, .suspend "call_activity:c1", .resume,
    .execute callActivityElement, .moveTo "Loop", .moveTo "Call"]

/-- Back at `Call` after the loop, with one child started on the first visit, `Execute` starts no
child and advances along `f_out`. -/
theorem call_activity_revisit_starts_no_child :
    (run childStarter ⟨callToken, []⟩ loopBackToCall).token.currentElementID = "Call" ∧
      (run childStarter ⟨callToken, []⟩ loopBackToCall).children = [("Call", "c1")] ∧
      (childStarter.execute (run childStarter ⟨callToken, []⟩ loopBackToCall).token
        callActivityElement).child = none ∧
      (childStarter.execute (run childStarter ⟨callToken, []⟩ loopBackToCall).token
        callActivityElement).result.nextElements = ["f_out"] :=
  ⟨rfl, rfl, rfl, rfl⟩

end TokenRun

end AtomEngine
