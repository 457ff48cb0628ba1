/-
**Tokens and the token store.**

A token is the engine's execution marker: it sits on one element of a process instance and is
`ACTIVE`, `WAITING` for a keyed event, `COMPLETED` or `CANCELLED`.  The callback paths read a
token from the storage, check that it waits for the expected key, clear the wait, merge the
callback's variables, move it and write it back; the call-activity executor keeps a scratchpad
flag in its execution context.  The `models` package that defines the record and its methods is
not among the sources, so the methods below follow the specification: a token waits exactly when
its state is `WAITING` (invariant I1), clearing the wait makes it `ACTIVE` again, and a move only
changes the current element (§4.2).

Main definitions:

* `AtomEngine.Token` — the fields of `models.Token` that the modelled code reads or writes;
* `AtomEngine.Token.clearWaitingFor`, `AtomEngine.Token.mergeVariables`,
  `AtomEngine.Token.moveTo`, `AtomEngine.Token.setExecutionContext` — its mutators;
* `AtomEngine.Store` — the storage's token records, keyed by token id, with the key invariant
  carried as a field;
* `AtomEngine.Store.loadToken`, `AtomEngine.Store.put` — `storage.LoadToken` and a successful
  `storage.UpdateToken`.
-/

import AtomEngine.Models.Value

set_option autoImplicit false

namespace AtomEngine

/-- `models.TokenState`. -/
inductive TokenState where
  | active
  | waiting
  | completed
  | cancelled
  deriving DecidableEq, Repr, Inhabited

/-- The fields of `models.Token` that the callback paths and the call-activity executor use. -/
structure Token where
  tokenID : String
  processKey : String
  currentElementID : String
  state : TokenState
  waitingFor : String
  vars : GoMap
  executionContext : GoMap
  deriving Repr, Inhabited

namespace Token

/-- Modelled from the spec: `Token.IsWaiting` (the `models` package is not among the sources);
a token waits exactly when its state is `WAITING`. -/
def isWaiting (t : Token) : Bool := t.state == .waiting

/-- Modelled from the spec: `Token.ClearWaitingFor`; by invariant I1 (`WAITING` iff
`waitingFor ≠ ∅`) clearing the key makes the token `ACTIVE` again. -/
def clearWaitingFor (t : Token) : Token := { t with state := .active, waitingFor := "" }

/-- Modelled from the spec: `Token.MergeVariables`, which writes every entry of `vars` into the
token's variables (the field `vars`: the word `variables` is taken by a command). -/
def mergeVariables (t : Token) (vars : GoMap) : Token :=
  { t with vars := vars.foldl (fun m kv => m.set kv.1 kv.2) t.vars }

/-- Modelled from the spec: `Token.MoveTo` (§4.2 token movement sets `currentElementId`). -/
def moveTo (t : Token) (elementID : String) : Token := { t with currentElementID := elementID }

/-- Modelled from the spec: `Token.GetExecutionContext`. -/
def getExecutionContext (t : Token) (key : String) : Option Value := t.executionContext.get? key

/-- Modelled from the spec: `Token.SetExecutionContext`. -/
def setExecutionContext (t : Token) (key : String) (v : Value) : Token :=
  { t with executionContext := t.executionContext.set key v }

@[simp] theorem isWaiting_iff (t : Token) : t.isWaiting = true ↔ t.state = .waiting := by
  simp [isWaiting]

@[simp] theorem clearWaitingFor_state (t : Token) : t.clearWaitingFor.state = .active := rfl
@[simp] theorem clearWaitingFor_waitingFor (t : Token) : t.clearWaitingFor.waitingFor = "" := rfl
@[simp] theorem clearWaitingFor_tokenID (t : Token) : t.clearWaitingFor.tokenID = t.tokenID := rfl
@[simp] theorem clearWaitingFor_processKey (t : Token) :
    t.clearWaitingFor.processKey = t.processKey := rfl
@[simp] theorem clearWaitingFor_currentElementID (t : Token) :
    t.clearWaitingFor.currentElementID = t.currentElementID := rfl
@[simp] theorem clearWaitingFor_executionContext (t : Token) :
    t.clearWaitingFor.executionContext = t.executionContext := rfl

@[simp] theorem mergeVariables_state (t : Token) (vars : GoMap) :
    (t.mergeVariables vars).state = t.state := rfl
@[simp] theorem mergeVariables_waitingFor (t : Token) (vars : GoMap) :
    (t.mergeVariables vars).waitingFor = t.waitingFor := rfl
@[simp] theorem mergeVariables_tokenID (t : Token) (vars : GoMap) :
    (t.mergeVariables vars).tokenID = t.tokenID := rfl
@[simp] theorem mergeVariables_processKey (t : Token) (vars : GoMap) :
    (t.mergeVariables vars).processKey = t.processKey := rfl
@[simp] theorem mergeVariables_currentElementID (t : Token) (vars : GoMap) :
    (t.mergeVariables vars).currentElementID = t.currentElementID := rfl
@[simp] theorem mergeVariables_executionContext (t : Token) (vars : GoMap) :
    (t.mergeVariables vars).executionContext = t.executionContext := rfl

@[simp] theorem moveTo_state (t : Token) (e : String) : (t.moveTo e).state = t.state := rfl
@[simp] theorem moveTo_tokenID (t : Token) (e : String) : (t.moveTo e).tokenID = t.tokenID := rfl
@[simp] theorem moveTo_currentElementID (t : Token) (e : String) :
    (t.moveTo e).currentElementID = e := rfl
@[simp] theorem moveTo_executionContext (t : Token) (e : String) :
    (t.moveTo e).executionContext = t.executionContext := rfl

@[simp] theorem setExecutionContext_currentElementID (t : Token) (key : String) (v : Value) :
    (t.setExecutionContext key v).currentElementID = t.currentElementID := rfl
@[simp] theorem setExecutionContext_executionContext (t : Token) (key : String) (v : Value) :
    (t.setExecutionContext key v).executionContext = t.executionContext.set key v := rfl

end Token

/-- The storage's token records.  A record is stored under its own token id, which is what
`storage.UpdateToken` does; the field `keyed` keeps every store built from writes honest. -/
structure Store where
  tokens : String → Option Token
  keyed : ∀ id t, tokens id = some t → t.tokenID = id

namespace Store

/-- The empty store. -/
def empty : Store := ⟨fun _ => none, fun _ _ h => nomatch h⟩

/-- A successful `storage.UpdateToken t`: the record of `t.tokenID` becomes `t`. -/
def put (s : Store) (t : Token) : Store where
  tokens := Function.update s.tokens t.tokenID (some t)
  keyed id u h := by
    by_cases hid : id = t.tokenID
    · subst hid
      simp only [Function.update_same, Option.some.injEq] at h
      exact h ▸ rfl
    · rw [Function.update_noteq hid] at h
      exact s.keyed id u h

/-- Modelled from the spec: `storage.LoadToken` returns the stored record or a store error. -/
def loadToken (s : Store) (tokenID : String) : Except String Token :=
  match s.tokens tokenID with
  | some t => .ok t
  | none => .error ("token not found: " ++ tokenID)

@[simp] theorem put_tokens_self (s : Store) (t : Token) : (s.put t).tokens t.tokenID = some t := by
  simp [put]

theorem put_tokens_of_ne (s : Store) (t : Token) {id : String} (h : id ≠ t.tokenID) :
    (s.put t).tokens id = s.tokens id := by
  simp [put, Function.update_noteq h]

theorem loadToken_eq_ok {s : Store} {tokenID : String} {t : Token} :
    s.loadToken tokenID = .ok t ↔ s.tokens tokenID = some t := by
  unfold loadToken
  split <;> simp_all

end Store

end AtomEngine
