/-
**The callback helper: validating a callback and resuming its token.**

Every collaborator of the scheduler (the timing wheel, the job dispatcher, the message
correlator, a completed child instance) ends a token's wait through `CallbackHelper`.  A callback
first goes through `LoadAndValidateToken`, which reads the token and refuses it unless it is
`WAITING` for exactly the callback's key; it is then resumed by `ProcessCallbackAndContinue`
(move along the element's outgoing flows) or `ProcessCallbackAndContinueWithFlows` (move along
flows the callback names).  Both clear the wait, merge the callback's variables and write the
token to the storage *before* the calls that can still fail.

The helper's collaborators (`storage.UpdateToken`, `tokenMovement.MoveTokenToNextElements`,
`bpmnHelper.LoadBPMNProcess`, `component.ExecuteToken`) are not among the sources.  They enter as
the fields of `AtomEngine.Env`, functions of the store, so a statement over every `Env` covers
every way they can answer, failures included.

Main definitions:

* `AtomEngine.findTargetElementByFlowID` — the element whose `incoming` lists a flow;
* `AtomEngine.loadAndValidateToken` — the load-and-check every callback starts with;
* `AtomEngine.processCallbackAndContinue`, `AtomEngine.processCallbackAndContinueWithFlows` —
  the two resume paths, returning the store after the call and the call's error, each written as
  the steps the code takes: `AtomEngine.writeResumed` (the first write), then
  `AtomEngine.moveToNextElements`, or `AtomEngine.moveToFirstTarget` and `ExecuteToken`.

Main results:

* `AtomEngine.findTargetElementByFlowID_cases` — the lookup returns the id of a listing element, or
  `""` when none lists the flow;
* `AtomEngine.findTargetElementByFlowID_finds_listing_element` — **with exactly one listing
  element, the lookup finds it in every iteration order**;
* `AtomEngine.loadAndValidateToken_eq_ok` — what a successful validation means;
* `AtomEngine.writeResumed_of_none`, `AtomEngine.writeResumed_of_some`,
  `AtomEngine.moveToNextElements_error`,
  `AtomEngine.moveToFirstTarget_error`, `AtomEngine.moveToFirstTarget_ok` — what each step leaves
  in the store;
* `AtomEngine.failed_callback_persists_resumed_token` — **a failed callback leaves the token
  untouched exactly when its first write failed, and otherwise persisted as resumed and no longer
  waiting, whatever fails after that write**;
* `AtomEngine.moveAlongFlows_moves_only_first_target` — **the second path places the token at the
  first resolved target and touches no other record**.
-/

import AtomEngine.Models.Token

set_option autoImplicit false

namespace AtomEngine

/-! ### Process definitions and flow targets -/

/-- A process definition as `bpmnHelper.LoadBPMNProcess` returns it: its `Elements` map, as the
list of `(elementID, element)` entries in the order a `range` over the map visits them. -/
structure BPMNProcess where
  elements : List (String × Value)

/-- Whether an element's `incoming` value names `flowID`: a list names it when one of its string
items is `flowID`, a string when it is `flowID`. -/
def incomingHas (flowID : String) : Value → Bool
  | .list incomingList => incomingList.any fun item => item.isString flowID
  | .str incomingStr => incomingStr == flowID
  | _ => false

/-- The test the loop of `findTargetElementByFlowID` makes on one element: it is a map whose
`incoming` entry names `flowID`. -/
def listsIncoming (flowID : String) : Value → Bool
  | .map elementMap =>
      match GoMap.get? elementMap "incoming" with
      | some incoming => incomingHas flowID incoming
      | none => false
  | _ => false

/-- `CallbackHelper.findTargetElementByFlowID`: the first element, in iteration order, whose
`incoming` names `flowID`, or `""` when there is none. -/
def findTargetElementByFlowID (flowID : String) (bpmnProcess : BPMNProcess) : String :=
  match bpmnProcess.elements.find? (fun e => listsIncoming flowID e.2) with
  | some (elementID, _) => elementID
  | none => ""

/-- A list with exactly one entry that satisfies `p` finds that entry. -/
theorem find?_eq_some_of_filter_eq_singleton {α : Type} {p : α → Bool} {a : α} :
    ∀ {l : List α}, l.filter p = [a] → l.find? p = some a
  | [], h => nomatch h
  | x :: t, h => by
      by_cases hx : p x
      · rw [List.filter_cons_of_pos hx] at h
        rw [List.find?_cons_of_pos _ hx, (List.cons.inj h).1]
      · rw [List.filter_cons_of_neg hx] at h
        rw [List.find?_cons_of_neg _ hx, find?_eq_some_of_filter_eq_singleton h]

/-- The lookup returns the id of an element that lists the flow, or `""` when no element does. -/
theorem findTargetElementByFlowID_cases (flowID : String) (bpmnProcess : BPMNProcess) :
    (∃ element, (findTargetElementByFlowID flowID bpmnProcess, element) ∈ bpmnProcess.elements ∧
        listsIncoming flowID element = true) ∨
      (findTargetElementByFlowID flowID bpmnProcess = "" ∧
        ∀ e ∈ bpmnProcess.elements, listsIncoming flowID e.2 = false) := by
  unfold findTargetElementByFlowID
  rcases found : bpmnProcess.elements.find? (fun e => listsIncoming flowID e.2) with
    _ | ⟨elementID, element⟩ <;> rw [found]
  · exact .inr ⟨rfl, by simpa using List.find?_eq_none.1 found⟩
  · exact .inl ⟨element, List.mem_of_find?_eq_some found, by simpa using List.find?_some found⟩

/-- The loop of `ProcessCallbackAndContinueWithFlows` that builds `targetElements`: the target of
each flow, in order, skipping the flows no element lists. -/
def targetElements (bpmnProcess : BPMNProcess) (flowIDs : List String) : List String :=
  (flowIDs.map fun flowID => findTargetElementByFlowID flowID bpmnProcess).filter (· != "")

/-- Go's `%v` of a `[]string`. -/
def formatStrings (xs : List String) : String := "[" ++ " ".intercalate xs ++ "]"

/-! ### The collaborators -/

/-- The collaborators `CallbackHelper` calls on the callback paths, as functions of the store. -/
structure Env where
  /-- The store error `storage.UpdateToken` meets when it writes this token, if any. -/
  updateError : Store → Token → Option String
  /-- `tokenMovement.MoveTokenToNextElements`: the store after the move, or an error, after
  which the store is as it was (a failed step is not applied, §7). -/
  moveTokenToNextElements : Store → Token → String → Except String Store
  /-- `tokenMovement.bpmnHelper.LoadBPMNProcess`. -/
  loadBPMNProcess : String → Except String BPMNProcess
  /-- `component.ExecuteToken`: runs the token on from its element; its writes stand even when
  it ends in an error. -/
  executeToken : Store → Token → Store × Except String Unit

/-- `storage.UpdateToken`: the write, or the store error it meets. -/
def Env.updateToken (env : Env) (s : Store) (t : Token) : Except String Store :=
  match env.updateError s t with
  | some e => .error e
  | none => .ok (s.put t)

theorem Env.updateToken_of_none {env : Env} {s : Store} {t : Token}
    (h : env.updateError s t = none) : env.updateToken s t = .ok (s.put t) := by
  simp [Env.updateToken, h]

theorem Env.updateToken_of_some {env : Env} {s : Store} {t : Token} {e : String}
    (h : env.updateError s t = some e) : env.updateToken s t = .error e := by
  simp [Env.updateToken, h]

/-! ### Validation -/

/-- `CallbackHelper.LoadAndValidateToken`. -/
def loadAndValidateToken (s : Store) (tokenID expectedWaitingFor : String) :
    Except String Token :=
  match s.loadToken tokenID with
  | .error err => .error ("failed to load token " ++ tokenID ++ ": " ++ err)
  | .ok token =>
      if !token.isWaiting || token.waitingFor != expectedWaitingFor then
        .error ("token " ++ tokenID ++ " is not waiting for " ++ expectedWaitingFor)
      else .ok token

/-- A callback passes validation exactly when the stored token is `WAITING` for its key. -/
theorem loadAndValidateToken_eq_ok {s : Store} {tokenID k : String} {t : Token} :
    loadAndValidateToken s tokenID k = .ok t ↔
      s.tokens tokenID = some t ∧ t.state = .waiting ∧ t.waitingFor = k := by
  unfold loadAndValidateToken Store.loadToken
  cases h : s.tokens tokenID with
  | none => simp
  | some u =>
      simp only [Option.some.injEq]
      split
      · next hc =>
          simp only [Token.isWaiting, Bool.or_eq_true, Bool.not_eq_true', beq_eq_false_iff_ne,
            bne_iff_ne, ne_eq] at hc
          simp only [reduceCtorEq, false_iff]
          rintro ⟨rfl, hw, hk⟩
          rcases hc with hc | hc <;> simp_all
      · next hc =>
          simp only [Token.isWaiting, Bool.or_eq_true, Bool.not_eq_true', beq_eq_false_iff_ne,
            bne_iff_ne, ne_eq, not_or, not_not] at hc
          simp only [Except.ok.injEq]
          constructor
          · rintro rfl; exact ⟨rfl, hc⟩
          · rintro ⟨rfl, -⟩; rfl

/-- A token that is not `WAITING` for the key is refused, with the error the code writes. -/
theorem loadAndValidateToken_of_not_waiting {s : Store} {tokenID k : String} {t : Token}
    (hs : s.tokens tokenID = some t) (h : ¬ (t.state = .waiting ∧ t.waitingFor = k)) :
    loadAndValidateToken s tokenID k =
      .error ("token " ++ tokenID ++ " is not waiting for " ++ k) := by
  have hc : (!t.isWaiting || t.waitingFor != k) = true := by
    by_cases hw : t.state = .waiting <;> simp_all [Token.isWaiting]
  simp [loadAndValidateToken, Store.loadToken, hs, hc]

/-! ### The two resume paths -/

/-- The token both paths write first: its wait cleared and, when the callback carries variables,
those merged in. -/
def resumeToken (token : Token) (vars : Option GoMap) : Token :=
  match vars with
  | some vars => token.clearWaitingFor.mergeVariables vars
  | none => token.clearWaitingFor

@[simp] theorem resumeToken_state (token : Token) (vars : Option GoMap) :
    (resumeToken token vars).state = .active := by
  cases vars <;> rfl

@[simp] theorem resumeToken_tokenID (token : Token) (vars : Option GoMap) :
    (resumeToken token vars).tokenID = token.tokenID := by
  cases vars <;> rfl

@[simp] theorem resumeToken_processKey (token : Token) (vars : Option GoMap) :
    (resumeToken token vars).processKey = token.processKey := by
  cases vars <;> rfl

/-- The first statements of both resume paths: clear the wait, merge the callback's variables and
write the token.  The written token, or the error of the write. -/
def writeResumed (env : Env) (s : Store) (token : Token) (vars : Option GoMap) :
    Store × Except String Token :=
  let token := resumeToken token vars
  match env.updateToken s token with
  | .error e => (s, .error ("failed to update token: " ++ e))
  | .ok s => (s, .ok token)

/-- What `ProcessCallbackAndContinue` does after its first write: move the token on from its
current element, or from `elementID` when it has none. -/
def moveToNextElements (env : Env) (s : Store) (token : Token) (elementID : String) :
    Store × Except String Unit :=
  let currentElementID :=
    if token.currentElementID = "" then elementID else token.currentElementID
  match env.moveTokenToNextElements s token currentElementID with
  | .error e => (s, .error ("failed to move token to next elements: " ++ e))
  | .ok s => (s, .ok ())

/-- `CallbackHelper.ProcessCallbackAndContinue`: the store after the call and its error. -/
def processCallbackAndContinue (env : Env) (s : Store) (token : Token) (elementID : String)
    (vars : Option GoMap) : Store × Except String Unit :=
  match writeResumed env s token vars with
  | (s, .error e) => (s, .error e)
  | (s, .ok token) => moveToNextElements env s token elementID

/-- What `ProcessCallbackAndContinueWithFlows` does after its first write and before its last
statement: load the process, resolve the flows, move the token to the first target and write it
again.  The moved token, or the error returned. -/
def moveToFirstTarget (env : Env) (s : Store) (token : Token) (flowIDs : List String) :
    Store × Except String Token :=
  match env.loadBPMNProcess token.processKey with
  | .error e => (s, .error ("failed to load BPMN process: " ++ e))
  | .ok bpmnProcess =>
      match targetElements bpmnProcess flowIDs with
      | [] => (s, .error ("no target elements found for flows: " ++ formatStrings flowIDs))
      | target :: _ =>
          let token := token.moveTo target
          match env.updateToken s token with
          | .error e => (s, .error ("failed to update token: " ++ e))
          | .ok s => (s, .ok token)

/-- `ProcessCallbackAndContinueWithFlows` up to its last statement: the store and the moved token
it hands to `component.ExecuteToken`, or the error it returns before that. -/
def moveAlongFlows (env : Env) (s : Store) (token : Token) (flowIDs : List String)
    (vars : Option GoMap) : Store × Except String Token :=
  match writeResumed env s token vars with
  | (s, .error e) => (s, .error e)
  | (s, .ok token) => moveToFirstTarget env s token flowIDs

/-- `CallbackHelper.ProcessCallbackAndContinueWithFlows`: the store after the call and its
error. -/
def processCallbackAndContinueWithFlows (env : Env) (s : Store) (token : Token)
    (flowIDs : List String) (vars : Option GoMap) : Store × Except String Unit :=
  match moveAlongFlows env s token flowIDs vars with
  | (s, .error e) => (s, .error e)
  | (s, .ok token) => env.executeToken s token

/-- The first write either persists the resumed token or fails and changes nothing. -/
theorem writeResumed_cases (env : Env) (s : Store) (token : Token) (vars : Option GoMap) :
    writeResumed env s token vars = (s.put (resumeToken token vars), .ok (resumeToken token vars)) ∨
      ∃ e, writeResumed env s token vars = (s, .error e) := by
  unfold writeResumed Env.updateToken
  cases h : env.updateError s (resumeToken token vars) with
  | some e => exact .inr ⟨"failed to update token: " ++ e, by simp only [h]⟩
  | none => exact .inl (by simp only [h])

/-- A failed move leaves the store as it was. -/
theorem moveToNextElements_error {env : Env} {s s' : Store} {token : Token} {elementID e : String}
    (h : moveToNextElements env s token elementID = (s', .error e)) : s' = s := by
  simp only [moveToNextElements] at h
  split at h
  · cases h; rfl
  · cases h

/-- A failure after the first write of the flows path leaves the store as it was. -/
theorem moveToFirstTarget_error {env : Env} {s s' : Store} {token : Token}
    {flowIDs : List String} {e : String}
    (h : moveToFirstTarget env s token flowIDs = (s', .error e)) : s' = s := by
  unfold moveToFirstTarget at h
  cases hp : env.loadBPMNProcess token.processKey with
  | error e' => simp only [hp, Prod.mk.injEq] at h; exact h.1.symm
  | ok p =>
      cases ht : targetElements p flowIDs with
      | nil => simp only [hp, ht, Prod.mk.injEq] at h; exact h.1.symm
      | cons target rest =>
          cases hu : env.updateError s (token.moveTo target) with
          | some e' => simp only [hp, ht, hu, Env.updateToken, Prod.mk.injEq] at h; exact h.1.symm
          | none => simp [hp, ht, hu, Env.updateToken] at h

/-- When the flows path gets through, the token stands at the first resolved target and that is
the one write. -/
theorem moveToFirstTarget_ok {env : Env} {s s' : Store} {token token' : Token}
    {flowIDs : List String} (h : moveToFirstTarget env s token flowIDs = (s', .ok token')) :
    ∃ p target rest, env.loadBPMNProcess token.processKey = .ok p ∧
      targetElements p flowIDs = target :: rest ∧ token' = token.moveTo target ∧
      s' = s.put token' := by
  unfold moveToFirstTarget at h
  cases hp : env.loadBPMNProcess token.processKey with
  | error e' => simp [hp] at h
  | ok p =>
      cases ht : targetElements p flowIDs with
      | nil => simp [hp, ht] at h
      | cons target rest =>
          cases hu : env.updateError s (token.moveTo target) with
          | some e' => simp [hp, ht, hu, Env.updateToken] at h
          | none =>
              simp only [hp, ht, hu, Env.updateToken, Prod.mk.injEq, Except.ok.injEq] at h
              obtain ⟨rfl, rfl⟩ := h
              exact ⟨p, target, rest, rfl, ht, rfl, rfl⟩

/-! ### A failed callback -/

/-- The first write when `UpdateToken` succeeds: the resumed token is persisted. -/
theorem writeResumed_of_none {env : Env} {s : Store} {token : Token} {vars : Option GoMap}
    (h : env.updateError s (resumeToken token vars) = none) :
    writeResumed env s token vars =
      (s.put (resumeToken token vars), .ok (resumeToken token vars)) := by
  simp only [writeResumed, Env.updateToken, h]

/-- The first write when `UpdateToken` fails: the store is as it was. -/
theorem writeResumed_of_some {env : Env} {s : Store} {token : Token} {vars : Option GoMap}
    {e : String} (h : env.updateError s (resumeToken token vars) = some e) :
    writeResumed env s token vars = (s, .error ("failed to update token: " ++ e)) := by
  simp only [writeResumed, Env.updateToken, h]

/-- What a failed callback leaves behind for the token `tokenID`, resumed as `r`.  When its first
`UpdateToken` fails, the store as it was.  When that write succeeds, the store with `r` written
over the token's record and every other record as it was, which no callback passes validation
for any more: the later failure does not undo the write. -/
def FailureOutcome (env : Env) (s s' : Store) (tokenID : String) (r : Token) : Prop :=
  (∃ e, env.updateError s r = some e ∧ s' = s) ∨
    (env.updateError s r = none ∧ s' = s.put r ∧ s'.tokens tokenID = some r ∧
      ∀ k, ∃ e, loadAndValidateToken s' tokenID k = .error e)

/-- After a successful first write, the store a failed path leaves is of the second kind. -/
theorem failureOutcome_put {env : Env} {s : Store} {tokenID : String} {t : Token}
    {vars : Option GoMap} (hu : env.updateError s (resumeToken t vars) = none)
    (ht : t.tokenID = tokenID) :
    FailureOutcome env s (s.put (resumeToken t vars)) tokenID (resumeToken t vars) := by
  have hs : (s.put (resumeToken t vars)).tokens tokenID = some (resumeToken t vars) := by
    rw [← ht, ← resumeToken_tokenID t vars, Store.put_tokens_self]
  refine .inr ⟨hu, rfl, hs, fun k => ⟨_, loadAndValidateToken_of_not_waiting hs ?_⟩⟩
  simp

/-- **A failed callback leaves its token untouched exactly when its first write failed, and
persisted as resumed otherwise.**  Take a callback that `LoadAndValidateToken` accepts.  If either
resume path returns an error before it hands the token to `ExecuteToken`, then the store is as it
was when the first `UpdateToken` failed; when that write succeeded, the store holds the resumed
token (`ACTIVE`, its wait cleared, the variables merged) over the token's record, which no later
callback passes validation for, whatever failed after it. -/
theorem failed_callback_persists_resumed_token (env : Env) {s : Store} {tokenID k : String}
    {t : Token} (vars : Option GoMap) (hv : loadAndValidateToken s tokenID k = .ok t) :
    (∀ elementID s' e, processCallbackAndContinue env s t elementID vars = (s', .error e) →
      FailureOutcome env s s' tokenID (resumeToken t vars)) ∧
    (∀ flowIDs s' e, moveAlongFlows env s t flowIDs vars = (s', .error e) →
      FailureOutcome env s s' tokenID (resumeToken t vars)) := by
  have ht : t.tokenID = tokenID := s.keyed _ _ (loadAndValidateToken_eq_ok.1 hv).1
  constructor
  · intro elementID s' e h
    cases hu : env.updateError s (resumeToken t vars) with
    | some e' =>
        simp only [processCallbackAndContinue, writeResumed_of_some hu, Prod.mk.injEq] at h
        exact .inl ⟨e', hu, h.1.symm⟩
    | none =>
        simp only [processCallbackAndContinue, writeResumed_of_none hu] at h
        rw [moveToNextElements_error h]
        exact failureOutcome_put hu ht
  · intro flowIDs s' e h
    cases hu : env.updateError s (resumeToken t vars) with
    | some e' =>
        simp only [moveAlongFlows, writeResumed_of_some hu, Prod.mk.injEq] at h
        exact .inl ⟨e', hu, h.1.symm⟩
    | none =>
        simp only [moveAlongFlows, writeResumed_of_none hu] at h
        rw [moveToFirstTarget_error h]
        exact failureOutcome_put hu ht

/-- A token of process `P` waiting at `Task` for the job `job:1`. -/
def waitingJobToken : Token where
  tokenID := "t1"
  processKey := "P"
  currentElementID := "Task"
  state := .waiting
  waitingFor := "job:1"
  vars := []
  executionContext := []

/-- Collaborators whose writes succeed and whose token movement fails. -/
def failingMoveEnv : Env where
  updateError _ _ := none
  moveTokenToNextElements _ _ _ := .error "no outgoing flows"
  loadBPMNProcess _ := .error "process not found"
  executeToken s _ := (s, .ok ())

/-- The job callback for `waitingJobToken` is accepted, its move fails, and the token is left
persisted as `ACTIVE`, no longer waiting for `job:1`. -/
theorem failed_callback_clears_wait :
    loadAndValidateToken (Store.empty.put waitingJobToken) "t1" "job:1" = .ok waitingJobToken ∧
      (processCallbackAndContinue failingMoveEnv (Store.empty.put waitingJobToken) waitingJobToken
        "Task" none).2 = .error "failed to move token to next elements: no outgoing flows" ∧
      ((processCallbackAndContinue failingMoveEnv (Store.empty.put waitingJobToken) waitingJobToken
        "Task" none).1.tokens "t1").map Token.state = some .active :=
  ⟨rfl, rfl, rfl⟩

/-- The statement of `failed_callback_persists_resumed_token` at the job callback for
`waitingJobToken` with the collaborators `failingMoveEnv`. -/
theorem failed_callback_persists_resumed_token_at_job :
    loadAndValidateToken (Store.empty.put waitingJobToken) "t1" "job:1" = .ok waitingJobToken ∧
      ((∀ elementID s' e, processCallbackAndContinue failingMoveEnv
          (Store.empty.put waitingJobToken) waitingJobToken elementID none = (s', .error e) →
        FailureOutcome failingMoveEnv (Store.empty.put waitingJobToken) s' "t1"
          (resumeToken waitingJobToken none)) ∧
      (∀ flowIDs s' e, moveAlongFlows failingMoveEnv (Store.empty.put waitingJobToken)
          waitingJobToken flowIDs none = (s', .error e) →
        FailureOutcome failingMoveEnv (Store.empty.put waitingJobToken) s' "t1"
          (resumeToken waitingJobToken none))) :=
  ⟨rfl, @failed_callback_persists_resumed_token failingMoveEnv _ "t1" "job:1" _ none rfl⟩

/-! ### Resuming along several flows -/

/-- **The flows path moves the token to the first resolved target only.**  When
`ProcessCallbackAndContinueWithFlows` gets as far as `ExecuteToken`, the token it hands over
stands at the first target the flows resolve to, that token is what the store holds for it, and
every other record of the store is as it was: no token is created for the other targets. -/
theorem moveAlongFlows_moves_only_first_target {env : Env} {s s' : Store} {t tok : Token}
    {flowIDs : List String} {vars : Option GoMap} {p : BPMNProcess}
    (hp : env.loadBPMNProcess t.processKey = .ok p)
    (h : moveAlongFlows env s t flowIDs vars = (s', .ok tok)) :
    (∃ rest, targetElements p flowIDs = tok.currentElementID :: rest) ∧
      s'.tokens t.tokenID = some tok ∧ ∀ id, id ≠ t.tokenID → s'.tokens id = s.tokens id := by
  obtain hw | ⟨e', hw⟩ := writeResumed_cases env s t vars
  · simp only [moveAlongFlows, hw] at h
    obtain ⟨p', target, rest, hp', ht, rfl, rfl⟩ := moveToFirstTarget_ok h
    obtain rfl : p' = p := by simpa [hp] using hp'.symm
    refine ⟨⟨rest, ht⟩, by simpa using Store.put_tokens_self _ ((resumeToken t vars).moveTo target),
      fun id hid => ?_⟩
    rw [Store.put_tokens_of_ne _ _ (by simpa using hid), Store.put_tokens_of_ne _ _ (by simpa using hid)]
  · simp [moveAlongFlows, hw] at h

/-- A process whose element `E1` takes the flow `f1` (as a string) and `E2` the flow `f2` (as a
list). -/
def twoTargetProcess : BPMNProcess where
  elements := [("E1", .map [("incoming", .str "f1")]), ("E2", .map [("incoming", .list [.str "f2"])])]

/-- Collaborators whose writes succeed, which load `twoTargetProcess`, and whose `ExecuteToken`
leaves the token where it is (its element waits for work). -/
def twoTargetEnv : Env where
  updateError _ _ := none
  moveTokenToNextElements s _ _ := .ok s
  loadBPMNProcess _ := .ok twoTargetProcess
  executeToken s _ := (s, .ok ())

/-- Resuming `waitingJobToken` along `f1` and `f2` succeeds with the token at `E1` and no token
at `E2`, the target of `f2`. -/
theorem withFlows_leaves_second_target_empty :
    targetElements twoTargetProcess ["f1", "f2"] = ["E1", "E2"] ∧
      (processCallbackAndContinueWithFlows twoTargetEnv (Store.empty.put waitingJobToken)
        waitingJobToken ["f1", "f2"] none).2 = .ok () ∧
      ((processCallbackAndContinueWithFlows twoTargetEnv (Store.empty.put waitingJobToken)
        waitingJobToken ["f1", "f2"] none).1.tokens "t1").map Token.currentElementID = some "E1" ∧
      ∀ id tk, (processCallbackAndContinueWithFlows twoTargetEnv (Store.empty.put waitingJobToken)
        waitingJobToken ["f1", "f2"] none).1.tokens id = some tk → tk.currentElementID ≠ "E2" := by
  obtain ⟨s', tok, hm⟩ : ∃ s' tok, moveAlongFlows twoTargetEnv (Store.empty.put waitingJobToken)
      waitingJobToken ["f1", "f2"] none = (s', .ok tok) := ⟨_, _, rfl⟩
  have hr : processCallbackAndContinueWithFlows twoTargetEnv (Store.empty.put waitingJobToken)
      waitingJobToken ["f1", "f2"] none = (s', .ok ()) := by
    simp only [processCallbackAndContinueWithFlows, hm]; rfl
  obtain ⟨⟨rest, ht⟩, hself, hother⟩ := moveAlongFlows_moves_only_first_target rfl hm
  have htid : waitingJobToken.tokenID = "t1" := rfl
  have hE1 : tok.currentElementID = "E1" := by
    rw [show targetElements twoTargetProcess ["f1", "f2"] = ["E1", "E2"] from rfl] at ht
    exact (List.cons.inj ht).1.symm
  rw [htid] at hself hother
  refine ⟨rfl, by rw [hr], by rw [hr]; simp [hself, hE1], fun id tk h => ?_⟩
  rw [hr] at h
  by_cases hid : id = "t1"
  · subst hid; cases hself.symm.trans h; simp [hE1]
  · rw [hother id hid] at h
    simp [Store.put, Store.empty, htid, Function.update_noteq hid] at h

/-! ### The flow-target lookup in any iteration order -/

/-- **The lookup finds an element that lists the flow, whatever the iteration order when only
one does.**  When an element lists the flow, the lookup returns the id of one that does; provided
no listing element has the empty id, it returns `""` exactly when none does; and when exactly one
element lists the flow, it returns that element's id in every order a `range` over the map can
visit the elements. -/
theorem findTargetElementByFlowID_finds_listing_element (flowID : String)
    (bpmnProcess : BPMNProcess) :
    ((∃ e ∈ bpmnProcess.elements, listsIncoming flowID e.2 = true) →
      ∃ element, (findTargetElementByFlowID flowID bpmnProcess, element) ∈ bpmnProcess.elements ∧
        listsIncoming flowID element = true) ∧
    ((∀ e ∈ bpmnProcess.elements, listsIncoming flowID e.2 = true → e.1 ≠ "") →
      (findTargetElementByFlowID flowID bpmnProcess = "" ↔
        ∀ e ∈ bpmnProcess.elements, listsIncoming flowID e.2 = false)) ∧
    (∀ elementID element,
      bpmnProcess.elements.filter (fun e => listsIncoming flowID e.2) = [(elementID, element)] →
      ∀ order, order.Perm bpmnProcess.elements →
        findTargetElementByFlowID flowID ⟨order⟩ = elementID) := by
  refine ⟨fun ⟨e, he, hl⟩ => ?_, fun hid => ?_, fun elementID element hone order horder => ?_⟩
  · rcases findTargetElementByFlowID_cases flowID bpmnProcess with h | ⟨-, hnone⟩
    · exact h
    · exact absurd ((hnone e he).symm.trans hl) Bool.false_ne_true
  · rcases findTargetElementByFlowID_cases flowID bpmnProcess with ⟨element, hmem, hl⟩ | ⟨hr, hnone⟩
    · exact ⟨fun h => absurd h (hid _ hmem hl),
        fun hnone => absurd ((hnone _ hmem).symm.trans hl) Bool.false_ne_true⟩
    · exact ⟨fun _ => hnone, fun _ => hr⟩
  · have hfilter : order.filter (fun e => listsIncoming flowID e.2) = [(elementID, element)] :=
      List.perm_singleton.1 (hone ▸ horder.filter _)
    simp only [findTargetElementByFlowID, find?_eq_some_of_filter_eq_singleton hfilter]

/-- The flow `f2` is listed by `E2` alone, and the lookup finds `E2` also when the map is visited
in the reverse order. -/
theorem findTargetElementByFlowID_finds_listing_element_at_reversed :
    twoTargetProcess.elements.filter (fun e => listsIncoming "f2" e.2) =
        [("E2", .map [("incoming", .list [.str "f2"])])] ∧
      findTargetElementByFlowID "f2" ⟨twoTargetProcess.elements.reverse⟩ = "E2" :=
  ⟨rfl, (findTargetElementByFlowID_finds_listing_element "f2" twoTargetProcess).2.2 _ _ rfl _
    (List.reverse_perm _)⟩

/-- A process whose only element has the empty id and takes the flow `f1`. -/
def emptyIDProcess : BPMNProcess where
  elements := [("", .map [("incoming", .str "f1")])]

/-- An element with the empty id lists `f1`, but the lookup's answer is the `""` that also means
"no element", so `ProcessCallbackAndContinueWithFlows` finds no target for `f1`. -/
theorem empty_id_target_reads_as_missing :
    ("", Value.map [("incoming", .str "f1")]) ∈ emptyIDProcess.elements ∧
      listsIncoming "f1" (.map [("incoming", .str "f1")]) = true ∧
      findTargetElementByFlowID "f1" emptyIDProcess = "" ∧
      targetElements emptyIDProcess ["f1"] = [] :=
  ⟨List.mem_singleton_self _, rfl, rfl, rfl⟩

end AtomEngine
