/-
**Callback deliveries racing for one token.**

Collaborators deliver callbacks at least once, and a token can be the target of several at a
time: a redelivered job completion, a boundary timer, a message.  Each delivery runs
`LoadAndValidateToken` and then one of the resume paths of `AtomEngine.processCallbackAndContinue`
and `AtomEngine.processCallbackAndContinueWithFlows` on its own goroutine, and `CallbackHelper`
takes no lock between the check and the write.  This module runs any number of deliveries for
one token as an interleaving of their steps, a step being the statements between two accesses to
the shared store.

Two ghost counters record what at-least-once delivery puts at stake: `resumes`, the deliveries
whose first write persisted the resumed token, and `suspensions`, the times the token was stored
as waiting (once at the start if it waits, and again each time a step makes a non-waiting token
wait).

Main definitions:

* `AtomEngine.Delivery`, `AtomEngine.Phase` — a delivery and how far it has got;
* `AtomEngine.deliveryStep` — one step of one delivery, built from the steps of the two resume
  paths;
* `AtomEngine.Deliveries.step`, `AtomEngine.Deliveries.run` — one scheduled step of the system,
  and a whole schedule;
* `AtomEngine.Deliveries.LockedRun` — the schedules the specification's per-instance lock allows:
  a delivery starts only while no other is between its validation and its end.

Main results:

* `AtomEngine.Deliveries.run_alone_continue`, `AtomEngine.Deliveries.run_alone_withFlows` — a
  delivery that runs without interruption does what `LoadAndValidateToken` followed by the resume
  path does;
* `AtomEngine.Deliveries.step_store_of_not_inFlight` — in every interleaving, a delivery that has
  not passed validation, or has finished, does not touch the store;
* `AtomEngine.Deliveries.lockInv_run` — the invariant of a locked run: at most one delivery in
  flight, and the resumes plus one for a waiting token never above the suspensions;
* `AtomEngine.Deliveries.callback_resumes_once_per_suspension_under_lock` — **under the lock,
  every resume consumes a distinct suspension**, and a refused delivery ends without a write;
* `AtomEngine.Deliveries.duplicate_callbacks_resume_twice` — **without it, a duplicated callback
  resumes the token twice for one suspension**.
-/

import AtomEngine.Process.Callback

set_option autoImplicit false

namespace AtomEngine

/-- The resume path a delivery takes once validated. -/
inductive CallbackPath where
  /-- `ProcessCallbackAndContinue(token, elementID, vars)`. -/
  | continue (elementID : String)
  /-- `ProcessCallbackAndContinueWithFlows(token, flowIDs, vars)`. -/
  | withFlows (flowIDs : List String)

/-- A callback delivery for the token: the key it was sent for, its variables, its path. -/
structure Delivery where
  expected : String
  vars : Option GoMap
  path : CallbackPath

/-- How far a delivery has got. -/
inductive Phase where
  | pending
  /-- `LoadAndValidateToken` returned this copy of the token. -/
  | validated (token : Token)
  /-- The first write persisted this resumed token. -/
  | resumed (token : Token)
  /-- The flows path persisted the token moved to its first target; `ExecuteToken` is next. -/
  | moved (token : Token)
  | finished (result : Except String Unit)

namespace Phase

/-- Between validation and the end: what a lock around a callback would have to cover. -/
def inFlight : Phase → Bool
  | validated _ | resumed _ | moved _ => true
  | _ => false

/-- Not started. -/
def isPending : Phase → Bool
  | pending => true
  | _ => false

/-- Just past the first write. -/
def isResumed : Phase → Bool
  | resumed _ => true
  | _ => false

end Phase

/-- Whether the store holds the token `tokenID` as `WAITING`. -/
def waitingIn (s : Store) (tokenID : String) : Bool :=
  match s.tokens tokenID with
  | some t => t.isWaiting
  | none => false

/-- One step of a delivery for the token `tokenID`: the statements of `CallbackHelper` from one
access to the store to the next. -/
def deliveryStep (env : Env) (tokenID : String) (d : Delivery) (s : Store) : Phase → Store × Phase
  | .pending =>
      match loadAndValidateToken s tokenID d.expected with
      | .ok token => (s, .validated token)
      | .error e => (s, .finished (.error e))
  | .validated token =>
      match writeResumed env s token d.vars with
      | (s, .ok token) => (s, .resumed token)
      | (s, .error e) => (s, .finished (.error e))
  | .resumed token =>
      match d.path with
      | .continue elementID =>
          match moveToNextElements env s token elementID with
          | (s, r) => (s, .finished r)
      | .withFlows flowIDs =>
          match moveToFirstTarget env s token flowIDs with
          | (s, .ok token) => (s, .moved token)
          | (s, .error e) => (s, .finished (.error e))
  | .moved token =>
      match env.executeToken s token with
      | (s, r) => (s, .finished r)
  | .finished r => (s, .finished r)

/-! ### What one step of a delivery can do -/

section

variable {env : Env} {tokenID : String} {d : Delivery} {s : Store} {ph : Phase}

/-- A delivery that has not passed validation, or has finished, does not write. -/
theorem deliveryStep_store_of_not_inFlight (h : ph.inFlight = false) :
    (deliveryStep env tokenID d s ph).1 = s := by
  cases ph with
  | pending => simp only [deliveryStep]; split <;> rfl
  | finished r => rfl
  | _ => simp [Phase.inFlight] at h

/-- A delivery is validated only by its first step, when the token waits for its key. -/
theorem deliveryStep_eq_validated {token : Token}
    (h : (deliveryStep env tokenID d s ph).2 = .validated token) :
    ph = .pending ∧ loadAndValidateToken s tokenID d.expected = .ok token := by
  cases ph with
  | pending =>
      simp only [deliveryStep] at h
      split at h
      · next hv => cases h; exact ⟨rfl, hv⟩
      · cases h
  | validated t => simp only [deliveryStep] at h; split at h <;> cases h
  | resumed t =>
      simp only [deliveryStep] at h
      split at h
      · cases h
      · split at h <;> cases h
  | moved t => cases h
  | finished r => cases h

/-- A delivery resumes the token only from a validated copy, by the first write. -/
theorem deliveryStep_eq_resumed {r : Token}
    (h : (deliveryStep env tokenID d s ph).2 = .resumed r) :
    ∃ token, ph = .validated token ∧ r = resumeToken token d.vars ∧
      (deliveryStep env tokenID d s ph).1 = s.put r := by
  cases ph with
  | pending => simp only [deliveryStep] at h; split at h <;> cases h
  | validated t =>
      obtain hw | ⟨e, hw⟩ := writeResumed_cases env s t d.vars
      · simp only [deliveryStep, hw, Phase.resumed.injEq] at h ⊢
        exact ⟨t, rfl, h.symm, by rw [h]⟩
      · simp [deliveryStep, hw] at h
  | resumed t =>
      simp only [deliveryStep] at h
      split at h
      · cases h
      · split at h <;> cases h
  | moved t => cases h
  | finished r => cases h

/-- A delivery is in flight after a step only if it was before or has just started. -/
theorem deliveryStep_inFlight (h : (deliveryStep env tokenID d s ph).2.inFlight = true) :
    ph.inFlight = true ∨ ph.isPending = true := by
  cases ph with
  | finished r => simp [deliveryStep, Phase.inFlight] at h
  | _ => simp [Phase.inFlight, Phase.isPending]

end

/-- The shared store, the phase of each delivery (by its index), and the two ghost counters. -/
structure Deliveries where
  store : Store
  phase : ℕ → Phase
  resumes : ℕ
  suspensions : ℕ

namespace Deliveries

section

variable (env : Env) (tokenID : String) (ds : List Delivery)

/-- No delivery started yet; the token counts as suspended once if it waits. -/
def init (s : Store) : Deliveries where
  store := s
  phase _ := .pending
  resumes := 0
  suspensions := if waitingIn s tokenID then 1 else 0

/-- The scheduler runs one step of delivery `i` (an index past the deliveries does nothing). -/
def step (σ : Deliveries) (i : ℕ) : Deliveries :=
  match ds[i]? with
  | none => σ
  | some d =>
      match deliveryStep env tokenID d σ.store (σ.phase i) with
      | (s, ph) =>
          { store := s
            phase := Function.update σ.phase i ph
            resumes := σ.resumes + if ph.isResumed then 1 else 0
            suspensions := σ.suspensions +
              if !waitingIn σ.store tokenID && waitingIn s tokenID then 1 else 0 }

/-- A schedule: the indices of the deliveries in the order their steps run. -/
def run (σ : Deliveries) (sched : List ℕ) : Deliveries := sched.foldl (step env tokenID ds) σ

@[simp] theorem run_nil (σ : Deliveries) : run env tokenID ds σ [] = σ := rfl

@[simp] theorem run_cons (σ : Deliveries) (i : ℕ) (sched : List ℕ) :
    run env tokenID ds σ (i :: sched) = run env tokenID ds (step env tokenID ds σ i) sched := rfl

theorem step_of_none (σ : Deliveries) {i : ℕ} (hd : ds[i]? = none) :
    step env tokenID ds σ i = σ := by
  simp [step, hd]

theorem step_of_some (σ : Deliveries) {i : ℕ} {d : Delivery} (hd : ds[i]? = some d) :
    step env tokenID ds σ i =
      { store := (deliveryStep env tokenID d σ.store (σ.phase i)).1
        phase := Function.update σ.phase i (deliveryStep env tokenID d σ.store (σ.phase i)).2
        resumes := σ.resumes + if (deliveryStep env tokenID d σ.store (σ.phase i)).2.isResumed
          then 1 else 0
        suspensions := σ.suspensions + if !waitingIn σ.store tokenID &&
          waitingIn (deliveryStep env tokenID d σ.store (σ.phase i)).1 tokenID then 1 else 0 } := by
  simp [step, hd]

/-- A step of one delivery leaves the others' phases alone. -/
theorem step_phase_of_ne (σ : Deliveries) {i j : ℕ} (h : j ≠ i) :
    (step env tokenID ds σ i).phase j = σ.phase j := by
  cases hd : ds[i]? with
  | none => rw [step_of_none env tokenID ds σ hd]
  | some d => simp [step_of_some env tokenID ds σ hd, Function.update_noteq h]

/-- **A delivery that has not passed validation, or has finished, does not touch the store**, in
every interleaving. -/
theorem step_store_of_not_inFlight (σ : Deliveries) {i : ℕ} (h : (σ.phase i).inFlight = false) :
    (step env tokenID ds σ i).store = σ.store := by
  cases hd : ds[i]? with
  | none => rw [step_of_none env tokenID ds σ hd]
  | some d => simp [step_of_some env tokenID ds σ hd, deliveryStep_store_of_not_inFlight h]

/-- A step the per-instance lock allows: a delivery starts only while none is in flight. -/
def Allowed (σ : Deliveries) (i : ℕ) : Prop :=
  (σ.phase i).isPending = true → ∀ j, (σ.phase j).inFlight = false

/-- A schedule every step of which the lock allows. -/
def LockedRun : Deliveries → List ℕ → Prop
  | _, [] => True
  | σ, i :: sched => Allowed σ i ∧ LockedRun (step env tokenID ds σ i) sched

/-! ### A delivery on its own runs the code of `CallbackHelper` -/

/-- **A delivery that runs without interruption along `ProcessCallbackAndContinue`** ends as the
validation followed by that function does. -/
theorem run_alone_continue (σ : Deliveries) {i : ℕ} {d : Delivery} {elementID : String}
    (hd : ds[i]? = some d) (hpath : d.path = .continue elementID) (hp : σ.phase i = .pending) :
    match loadAndValidateToken σ.store tokenID d.expected with
    | .error e => (run env tokenID ds σ [i, i, i]).store = σ.store ∧
        (run env tokenID ds σ [i, i, i]).phase i = .finished (.error e)
    | .ok token =>
        (run env tokenID ds σ [i, i, i]).store =
          (processCallbackAndContinue env σ.store token elementID d.vars).1 ∧
        (run env tokenID ds σ [i, i, i]).phase i =
          .finished (processCallbackAndContinue env σ.store token elementID d.vars).2 := by
  cases hv : loadAndValidateToken σ.store tokenID d.expected with
  | error e => simp [step_of_some env tokenID ds _ hd, hp, deliveryStep, hv]
  | ok token =>
      obtain hw | ⟨e, hw⟩ := writeResumed_cases env σ.store token d.vars <;>
        simp [step_of_some env tokenID ds _ hd, hp, deliveryStep, hv, hw, hpath,
          processCallbackAndContinue]

/-- **A delivery that runs without interruption along `ProcessCallbackAndContinueWithFlows`** ends
as the validation followed by that function does. -/
theorem run_alone_withFlows (σ : Deliveries) {i : ℕ} {d : Delivery} {flowIDs : List String}
    (hd : ds[i]? = some d) (hpath : d.path = .withFlows flowIDs) (hp : σ.phase i = .pending) :
    match loadAndValidateToken σ.store tokenID d.expected with
    | .error e => (run env tokenID ds σ [i, i, i, i]).store = σ.store ∧
        (run env tokenID ds σ [i, i, i, i]).phase i = .finished (.error e)
    | .ok token =>
        (run env tokenID ds σ [i, i, i, i]).store =
          (processCallbackAndContinueWithFlows env σ.store token flowIDs d.vars).1 ∧
        (run env tokenID ds σ [i, i, i, i]).phase i =
          .finished (processCallbackAndContinueWithFlows env σ.store token flowIDs d.vars).2 := by
  cases hv : loadAndValidateToken σ.store tokenID d.expected with
  | error e => simp [step_of_some env tokenID ds _ hd, hp, deliveryStep, hv]
  | ok token =>
      obtain hw | ⟨e, hw⟩ := writeResumed_cases env σ.store token d.vars
      · cases hm : moveToFirstTarget env (σ.store.put (resumeToken token d.vars))
            (resumeToken token d.vars) flowIDs with
        | mk s' r =>
            cases r <;> simp [step_of_some env tokenID ds _ hd, hp, deliveryStep, hv, hw, hpath,
              hm, processCallbackAndContinueWithFlows, moveAlongFlows]
      · simp [step_of_some env tokenID ds _ hd, hp, deliveryStep, hv, hw,
          processCallbackAndContinueWithFlows, moveAlongFlows]

/-! ### Under the lock, one resume per suspension -/

/-- What a locked run keeps true. -/
structure LockInv (σ : Deliveries) : Prop where
  /-- At most one delivery is in flight. -/
  single : ∀ i j, (σ.phase i).inFlight = true → (σ.phase j).inFlight = true → i = j
  /-- A validated delivery holds the token, and the store still has it waiting. -/
  validated_waiting : ∀ i token, σ.phase i = .validated token →
    token.tokenID = tokenID ∧ waitingIn σ.store tokenID = true
  /-- Every resume consumed a suspension, and a token still waiting holds one more. -/
  count : σ.resumes + (if waitingIn σ.store tokenID then 1 else 0) ≤ σ.suspensions

end

/-- The counters across a step that resumes nothing. -/
theorem count_of_not_resume {r su : ℕ} {w w' : Bool} (h : r + (if w then 1 else 0) ≤ su) :
    r + (if w' then 1 else 0) ≤ su + if !w && w' then 1 else 0 := by
  cases w <;> cases w' <;> simp at h ⊢ <;> omega

/-- The resumed token is stored as not waiting. -/
theorem waitingIn_put_resumeToken {s : Store} {token : Token} {tokenID : String}
    (vars : Option GoMap) (h : token.tokenID = tokenID) :
    waitingIn (s.put (resumeToken token vars)) tokenID = false := by
  subst h
  rw [waitingIn, ← resumeToken_tokenID token vars, Store.put_tokens_self]
  simp [Token.isWaiting]

section

variable {env : Env} {tokenID : String} {ds : List Delivery}

theorem lockInv_init (s : Store) : LockInv tokenID (init tokenID s) where
  single _ _ h := by simp [init, Phase.inFlight] at h
  validated_waiting _ _ h := by simp [init] at h
  count := by simp [init]

/-- A delivery is in flight after a step only if it was before, or it is the one that has just
started. -/
theorem inFlight_step (σ : Deliveries) {i j : ℕ}
    (h : ((step env tokenID ds σ i).phase j).inFlight = true) :
    (σ.phase j).inFlight = true ∨ (j = i ∧ (σ.phase i).isPending = true) := by
  by_cases hji : j = i
  · subst hji
    cases hd : ds[j]? with
    | none => rw [step_of_none env tokenID ds σ hd] at h; exact .inl h
    | some d =>
        simp only [step_of_some env tokenID ds σ hd, Function.update_same] at h
        exact (deliveryStep_inFlight h).imp_right (⟨rfl, ·⟩)
  · rw [step_phase_of_ne env tokenID ds σ hji] at h
    exact .inl h

/-- Under the lock at most one delivery stays in flight: a delivery starts only while none is. -/
theorem LockInv.single_step {σ : Deliveries} {i : ℕ} (hi : LockInv tokenID σ) (ha : Allowed σ i)
    (j k : ℕ) (hj : ((step env tokenID ds σ i).phase j).inFlight = true)
    (hk : ((step env tokenID ds σ i).phase k).inFlight = true) : j = k := by
  rcases inFlight_step σ hj with hj' | ⟨rfl, hp⟩ <;>
    rcases inFlight_step σ hk with hk' | ⟨rfl, hp'⟩
  · exact hi.single j k hj' hk'
  · exact absurd (ha hp' j) (by simp [hj'])
  · exact absurd (ha hp k) (by simp [hk'])
  · rfl

/-- A copy validated by the step is of the token, which the store has waiting; a copy validated
before stays so, since no other delivery was in flight to write. -/
theorem LockInv.validated_waiting_step {σ : Deliveries} {i : ℕ} (hi : LockInv tokenID σ)
    (j : ℕ) (token : Token) (hj : (step env tokenID ds σ i).phase j = .validated token) :
    token.tokenID = tokenID ∧ waitingIn (step env tokenID ds σ i).store tokenID = true := by
  by_cases hji : j = i
  · subst hji
    cases hd : ds[j]? with
    | none => rw [step_of_none env tokenID ds σ hd] at hj ⊢; exact hi.validated_waiting j token hj
    | some d =>
        simp only [step_of_some env tokenID ds σ hd, Function.update_same] at hj
        obtain ⟨hp, hv⟩ := deliveryStep_eq_validated hj
        obtain ⟨hs, hw, -⟩ := loadAndValidateToken_eq_ok.1 hv
        rw [step_store_of_not_inFlight env tokenID ds σ (by simp [hp, Phase.inFlight])]
        exact ⟨σ.store.keyed _ _ hs, by simp [waitingIn, hs, Token.isWaiting, hw]⟩
  · rw [step_phase_of_ne env tokenID ds σ hji] at hj
    cases hfi : (σ.phase i).inFlight
    · rw [step_store_of_not_inFlight env tokenID ds σ hfi]
      exact hi.validated_waiting j token hj
    · exact absurd (hi.single j i (by simp [hj, Phase.inFlight]) hfi) hji

/-- A resume consumes the suspension of the waiting token it resumed; any other step raises the
suspensions whenever the token comes to wait again. -/
theorem LockInv.count_step {σ : Deliveries} {i : ℕ} (hi : LockInv tokenID σ) :
    (step env tokenID ds σ i).resumes +
        (if waitingIn (step env tokenID ds σ i).store tokenID then 1 else 0) ≤
      (step env tokenID ds σ i).suspensions := by
  cases hd : ds[i]? with
  | none => rw [step_of_none env tokenID ds σ hd]; exact hi.count
  | some d =>
      rw [step_of_some env tokenID ds σ hd]
      generalize hout : deliveryStep env tokenID d σ.store (σ.phase i) = out
      obtain ⟨s', ph⟩ := out
      dsimp only
      cases hr : ph.isResumed
      · simpa using count_of_not_resume hi.count
      · obtain ⟨r, rfl⟩ : ∃ r, ph = .resumed r := by
          cases ph <;> simp [Phase.isResumed] at hr
          exact ⟨_, rfl⟩
        obtain ⟨token, hp, rfl, hs⟩ := deliveryStep_eq_resumed (by rw [hout])
        obtain ⟨htid, hw⟩ := hi.validated_waiting i token hp
        have hs' : s' = σ.store.put (resumeToken token d.vars) := by simpa [hout] using hs
        have hc := hi.count
        simp [hs', waitingIn_put_resumeToken d.vars htid, hw] at hc ⊢
        omega

/-- The lock invariant survives every step the lock allows. -/
theorem lockInv_step {σ : Deliveries} {i : ℕ} (hi : LockInv tokenID σ) (ha : Allowed σ i) :
    LockInv tokenID (step env tokenID ds σ i) :=
  ⟨hi.single_step ha, hi.validated_waiting_step, hi.count_step⟩

/-- The lock invariant holds along every locked run. -/
theorem lockInv_run {σ : Deliveries} {sched : List ℕ} (hi : LockInv tokenID σ)
    (h : LockedRun env tokenID ds σ sched) : LockInv tokenID (run env tokenID ds σ sched) := by
  induction sched generalizing σ with
  | nil => exact hi
  | cons i sched ih => exact ih (lockInv_step hi h.1) h.2

end

/-- **Callbacks resume a token at most once per suspension when the lock serialises them.**
Under the per-instance lock every resume consumes a suspension of its own: the resumes, plus one
if the token still waits, never exceed the suspensions.  In every interleaving, locked or not, a
delivery the token refuses ends there, and a delivery that has not passed validation, or has
finished, does not touch the store. -/
theorem callback_resumes_once_per_suspension_under_lock (env : Env) (tokenID : String)
    (ds : List Delivery) :
    (∀ s sched, LockedRun env tokenID ds (init tokenID s) sched →
      (run env tokenID ds (init tokenID s) sched).resumes +
          (if waitingIn (run env tokenID ds (init tokenID s) sched).store tokenID then 1 else 0) ≤
        (run env tokenID ds (init tokenID s) sched).suspensions) ∧
    (∀ σ i d e, ds[i]? = some d → σ.phase i = .pending →
      loadAndValidateToken σ.store tokenID d.expected = .error e →
        (step env tokenID ds σ i).phase i = .finished (.error e)) ∧
    (∀ σ i, (σ.phase i).inFlight = false → (step env tokenID ds σ i).store = σ.store) :=
  ⟨fun s _ h => (lockInv_run (lockInv_init s) h).count,
   fun σ i d e hd hp hv => by simp [step_of_some env tokenID ds σ hd, hp, deliveryStep, hv],
   fun σ _ h => step_store_of_not_inFlight env tokenID ds σ h⟩

/-- A job callback for `waitingJobToken`, resuming along the element's outgoing flows. -/
def jobCallback : Delivery where
  expected := "job:1"
  vars := none
  path := .continue "Task"

/-- A timer callback for the same token, whose key it is not waiting for. -/
def timerCallback : Delivery where
  expected := "timer:9"
  vars := none
  path := .continue "Task"

/-- Collaborators whose writes and moves succeed; a move puts the token on `Next`. -/
def movingEnv : Env where
  updateError _ _ := none
  moveTokenToNextElements s t _ := .ok (s.put (t.moveTo "Next"))
  loadBPMNProcess _ := .error "process not found"
  executeToken s _ := (s, .ok ())

/-- A job callback, its duplicate and a competing timer callback for `waitingJobToken`. -/
def jobDeliveries : List Delivery := [jobCallback, jobCallback, timerCallback]

/-- The statement of `callback_resumes_once_per_suspension_under_lock` at the locked schedule
that runs the job callback to its end, then its duplicate and the timer callback: one resume for
the one suspension, and the duplicate refused once the token no longer waits. -/
theorem callback_resumes_once_per_suspension_under_lock_at_job :
    LockedRun movingEnv "t1" jobDeliveries (init "t1" (Store.empty.put waitingJobToken))
        [0, 0, 0, 1, 2] ∧
      (run movingEnv "t1" jobDeliveries (init "t1" (Store.empty.put waitingJobToken))
          [0, 0, 0, 1, 2]).resumes +
        (if waitingIn (run movingEnv "t1" jobDeliveries
          (init "t1" (Store.empty.put waitingJobToken)) [0, 0, 0, 1, 2]).store "t1" then 1 else 0) ≤
      (run movingEnv "t1" jobDeliveries (init "t1" (Store.empty.put waitingJobToken))
          [0, 0, 0, 1, 2]).suspensions ∧
      (run movingEnv "t1" jobDeliveries (init "t1" (Store.empty.put waitingJobToken))
          [0, 0, 0, 1, 2]).resumes = 1 ∧
      (step movingEnv "t1" jobDeliveries (run movingEnv "t1" jobDeliveries
          (init "t1" (Store.empty.put waitingJobToken)) [0, 0, 0]) 1).phase 1 =
        .finished (.error "token t1 is not waiting for job:1") := by
  have h := callback_resumes_once_per_suspension_under_lock movingEnv "t1" jobDeliveries
  have hL : LockedRun movingEnv "t1" jobDeliveries (init "t1" (Store.empty.put waitingJobToken))
      [0, 0, 0, 1, 2] :=
    ⟨fun _ _ => rfl, fun h => absurd h (by decide), fun h => absurd h (by decide),
      fun _ j => by rcases j with _ | j <;> rfl,
      fun _ j => by rcases j with _ | _ | j <;> rfl, trivial⟩
  exact ⟨hL, h.1 _ _ hL, rfl, h.2.1 _ 1 jobCallback _ rfl rfl rfl⟩

/-- **Two deliveries of the same job callback, interleaved, both resume the token**: both load it
while it waits, both write it resumed and both move it on, for a single suspension. -/
theorem duplicate_callbacks_resume_twice :
    (run movingEnv "t1" [jobCallback, jobCallback]
        (init "t1" (Store.empty.put waitingJobToken)) [0, 1, 0, 1, 0, 1]).resumes = 2 ∧
      (run movingEnv "t1" [jobCallback, jobCallback]
        (init "t1" (Store.empty.put waitingJobToken)) [0, 1, 0, 1, 0, 1]).suspensions = 1 ∧
      (run movingEnv "t1" [jobCallback, jobCallback]
        (init "t1" (Store.empty.put waitingJobToken)) [0, 1, 0, 1, 0, 1]).phase 0 =
          .finished (.ok ()) ∧
      (run movingEnv "t1" [jobCallback, jobCallback]
        (init "t1" (Store.empty.put waitingJobToken)) [0, 1, 0, 1, 0, 1]).phase 1 =
          .finished (.ok ()) :=
  ⟨rfl, rfl, rfl, rfl⟩

end Deliveries

end AtomEngine
