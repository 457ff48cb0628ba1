/-
**The timers in the process view of the REST API.**

`GetProcessInfoForREST` answers with the instance's status and an `external_services` map that
`buildExternalServicesForREST` fills.  Only its `timers` entry is filled: the function asks the
timewheel for at most 1000 timers of any status with `GetTimersList("", 1000)` and keeps those
of the instance.  The timewheel client is not among the sources and is a parameter here.  The
timers of the instance are therefore exactly those among the first 1000 the timewheel lists;
once the timewheel knows more than 1000 timers, an instance's later timers are left out.

Main definitions:

* `AtomEngine.TimerInfo` — the fields of a timewheel timer that the view copies;
* `AtomEngine.buildExternalServicesForREST` — `Core.buildExternalServicesForREST`;
* `AtomEngine.listedTimers` — the timers a client reads off the `timers` entry.

Main results:

* `AtomEngine.listedTimers_build` — the listed timers are the instance's timers among those
  `GetTimersList("", 1000)` returned, in order, and none when it failed;
* `AtomEngine.listed_timers_are_instance_timers_among_first` — with a timewheel that lists its
  first 1000 timers, the instance's timers among those, and all of them while there are at most
  1000;
* `AtomEngine.thousand_timers_hide_instance_timer` — a timer after the first 1000 is left out.
-/

import AtomEngine.Models.Value

set_option autoImplicit false

namespace AtomEngine

/-- The fields of a timewheel timer (`timewheelpb.TimerInfo`) that the process view copies. -/
structure TimerInfo where
  timerId : String
  elementId : String
  processInstanceId : String
  timerType : String
  status : String
  scheduledAt : Int
  remainingSeconds : Int
  timeDuration : String
  timeCycle : String

/-- The map the view writes for a timer. -/
def TimerInfo.toMap (timer : TimerInfo) : Value :=
  .map [("timer_id", .str timer.timerId), ("element_id", .str timer.elementId),
    ("timer_type", .str timer.timerType), ("status", .str timer.status),
    ("scheduled_at", .num timer.scheduledAt), ("remaining_seconds", .num timer.remainingSeconds),
    ("time_duration", .str timer.timeDuration), ("time_cycle", .str timer.timeCycle)]

/-- One iteration of the loop over the timers: a timer of the instance is appended. -/
def appendInstanceTimer (instanceID : String) (timers : List Value) (timer : TimerInfo) :
    List Value :=
  if timer.processInstanceId = instanceID then timers ++ [timer.toMap] else timers

/-- A `[]map[string]interface{}` stored in an `interface{}`: `var timers` starts as a nil slice,
which `encoding/json` writes as `null`. -/
def sliceValue : List Value → Value
  | [] => .null
  | maps => .list maps

/-- `Core.buildExternalServicesForREST(instanceID, processKey)`.  `getTimersList` is the
timewheel client's `GetTimersList(statusFilter, limit)`. -/
def buildExternalServicesForREST (getTimersList : String → ℕ → Except String (List TimerInfo))
    (instanceID _processKey : String) : GoMap :=
  let externalServices : GoMap :=
    [("timers", .list []), ("jobs", .list []), ("message_subscriptions", .list []),
      ("buffered_messages", .list []), ("incidents", .list [])]
  match getTimersList "" 1000 with
  | .ok timers =>
      externalServices.set "timers" (sliceValue (timers.foldl (appendInstanceTimer instanceID) []))
  | .error _ => externalServices

/-- The timers a client reads off the `timers` entry; `null` and `[]` list none. -/
def listedTimers (externalServices : GoMap) : List Value :=
  match externalServices.get? "timers" with
  | some (.list maps) => maps
  | _ => []

/-- The loop appends the maps of the instance's timers, in order. -/
theorem foldl_appendInstanceTimer (instanceID : String) (timers : List TimerInfo) :
    ∀ acc : List Value, timers.foldl (appendInstanceTimer instanceID) acc =
      acc ++ (timers.filter (·.processInstanceId = instanceID)).map TimerInfo.toMap := by
  induction timers with
  | nil => simp
  | cons timer timers ih =>
      intro acc
      by_cases h : timer.processInstanceId = instanceID <;>
        simp [appendInstanceTimer, h, ih, List.filter_cons]

@[simp] theorem listedTimers_set_sliceValue (m : GoMap) (maps : List Value) :
    listedTimers (m.set "timers" (sliceValue maps)) = maps := by
  cases maps <;> simp [listedTimers, sliceValue]

/-- **The listed timers are the instance's timers among those the timewheel returned**, in its
order; when `GetTimersList` fails, none. -/
theorem listedTimers_build (getTimersList : String → ℕ → Except String (List TimerInfo))
    (instanceID processKey : String) :
    listedTimers (buildExternalServicesForREST getTimersList instanceID processKey) =
      match getTimersList "" 1000 with
      | .ok timers => (timers.filter (·.processInstanceId = instanceID)).map TimerInfo.toMap
      | .error _ => [] := by
  unfold buildExternalServicesForREST
  split
  · simp [foldl_appendInstanceTimer]
  · rfl

/-- **The view lists the instance's timers among the first 1000.**  When the timewheel answers
`GetTimersList("", 1000)` with the first 1000 of the timers it knows, in its order, the view lists
exactly the instance's timers among those; so it lists all the instance's timers when the
timewheel knows at most 1000. -/
theorem listed_timers_are_instance_timers_among_first
    (getTimersList : String → ℕ → Except String (List TimerInfo)) (known : List TimerInfo)
    (instanceID processKey : String) (h : getTimersList "" 1000 = .ok (known.take 1000)) :
    listedTimers (buildExternalServicesForREST getTimersList instanceID processKey) =
        ((known.take 1000).filter (·.processInstanceId = instanceID)).map TimerInfo.toMap ∧
      (known.length ≤ 1000 →
        listedTimers (buildExternalServicesForREST getTimersList instanceID processKey) =
          (known.filter (·.processInstanceId = instanceID)).map TimerInfo.toMap) := by
  rw [listedTimers_build, h]
  exact ⟨rfl, fun hk => by rw [List.take_of_length_le hk]⟩

/-- A timer of the instance `I`. -/
def instanceTimer : TimerInfo := ⟨"t-I", "Wait", "I", "duration", "SCHEDULED", 0, 60, "PT1M", ""⟩

/-- A timer of another instance. -/
def otherTimer : TimerInfo := ⟨"t-J", "Wait", "J", "duration", "SCHEDULED", 0, 60, "PT1M", ""⟩

/-- A timewheel that lists 1000 timers of another instance before the one timer of `I`. -/
def busyTimewheel (_statusFilter : String) (limit : ℕ) : Except String (List TimerInfo) :=
  .ok ((List.replicate 1000 otherTimer ++ [instanceTimer]).take limit)

theorem listed_timers_are_instance_timers_among_first_at_busy :
    busyTimewheel "" 1000 = .ok ((List.replicate 1000 otherTimer ++ [instanceTimer]).take 1000) ∧
      (listedTimers (buildExternalServicesForREST busyTimewheel "I" "P") =
          (((List.replicate 1000 otherTimer ++ [instanceTimer]).take 1000).filter
            (·.processInstanceId = "I")).map TimerInfo.toMap ∧
        ((List.replicate 1000 otherTimer ++ [instanceTimer]).length ≤ 1000 →
          listedTimers (buildExternalServicesForREST busyTimewheel "I" "P") =
            ((List.replicate 1000 otherTimer ++ [instanceTimer]).filter
              (·.processInstanceId = "I")).map TimerInfo.toMap)) :=
  ⟨rfl, listed_timers_are_instance_timers_among_first busyTimewheel _ "I" "P" rfl⟩

/-- **A timer after the first 1000 is left out**: the instance `I` has a timer, but the view of
`I` lists none. -/
theorem thousand_timers_hide_instance_timer :
    (List.replicate 1000 otherTimer ++ [instanceTimer]).filter (·.processInstanceId = "I") =
        [instanceTimer] ∧
      listedTimers (buildExternalServicesForREST busyTimewheel "I" "P") = [] := by
  have hother : otherTimer.processInstanceId ≠ "I" := by decide
  have htake : (List.replicate 1000 otherTimer ++ [instanceTimer]).take 1000 =
      List.replicate 1000 otherTimer := by
    rw [List.take_append_of_le_length (Nat.le_of_eq (List.length_replicate _ _).symm),
      List.take_of_length_le (Nat.le_of_eq (List.length_replicate _ _))]
  refine ⟨by simp only [List.filter_append, List.filter_replicate, hother, decide_False]; rfl, ?_⟩
  rw [listedTimers_build]
  simp only [busyTimewheel, htake, List.filter_replicate, hother, decide_False]
  rfl

end AtomEngine
