/-
**Process statistics.**

`ProcessHandler.GetProcessStats` lists every process instance and counts them in one loop: a
`switch` on the instance's state raises one of the three counters `ActiveInstances`,
`CompletedInstances` and `CancelledInstances` (a state outside these three raises none), and two
`map[string]int64` counters, by state and by process, each go up by one.  `TotalInstances` is set
to the length of the list before the loop.

The counters are natural numbers here: each is raised at most once per instance, and a Go slice has
fewer than `2^63` elements, so no `int64` counter wraps.  A map of counters is the list of its
entries with at most one entry per key, in the order a `range` over the map visits them.

Main definitions:

* `AtomEngine.CountMap` — a `map[string]int64` of counters, with `get` (`m[key]`, `0` when
  absent), `incr` (`m[key]++`) and `sum`;
* `AtomEngine.getProcessStats.step` — one iteration of the loop;
* `AtomEngine.getProcessStats` — `ProcessHandler.GetProcessStats`.

Main results:

* `AtomEngine.CountMap.get_foldl_incr`, `AtomEngine.CountMap.sum_foldl_incr` — raising the
  counters of a list of keys counts each key, and adds the list's length to the sum;
* `AtomEngine.countersAgree_foldl_step` — along the loop the three counters read the map by state;
* `AtomEngine.getProcessStats_of_ok` — what the handler returns for a listing;
* `AtomEngine.getProcessStats_histogram` — the two maps count the instances of each state and of
  each process;
* `AtomEngine.getProcessStats_consistent` — the totals agree, and the three counters are the map's
  entries for their states.
-/

import Mathlib.Data.List.Basic

set_option autoImplicit false

namespace AtomEngine

/-! ### Maps of counters -/

/-- `m[key]++` on the entries of a map of counters: the entry of `key` goes up by one, and a key
without an entry gets the entry `1`. -/
def incrEntries : List (String × ℕ) → String → List (String × ℕ)
  | [], key => [(key, 1)]
  | (k, n) :: m, key => if k = key then (k, n + 1) :: m else (k, n) :: incrEntries m key

theorem mem_keys_incrEntries (m : List (String × ℕ)) (key x : String) :
    x ∈ (incrEntries m key).map Prod.fst ↔ x ∈ m.map Prod.fst ∨ x = key := by
  induction m with
  | nil => simp [incrEntries]
  | cons e m ih =>
      obtain ⟨k, n⟩ := e
      by_cases hk : k = key
      · subst hk; simp [incrEntries, or_comm]
      · simp [incrEntries, hk, ih, or_assoc]

/-- Raising a counter keeps one entry per key. -/
theorem nodup_incrEntries {m : List (String × ℕ)} (h : (m.map Prod.fst).Nodup) (key : String) :
    ((incrEntries m key).map Prod.fst).Nodup := by
  induction m with
  | nil => simp [incrEntries]
  | cons e m ih =>
      obtain ⟨k, n⟩ := e
      rw [List.map_cons, List.nodup_cons] at h
      by_cases hk : k = key
      · simpa [incrEntries, hk] using h
      · simp only [incrEntries, if_neg hk, List.map_cons, List.nodup_cons, mem_keys_incrEntries,
          not_or]
        exact ⟨⟨h.1, hk⟩, ih h.2⟩

/-- A Go `map[string]int64` of counters: its entries, at most one per key. -/
structure CountMap where
  entries : List (String × ℕ)
  nodup : (entries.map Prod.fst).Nodup

namespace CountMap

/-- `make(map[string]int64)`. -/
def empty : CountMap := ⟨[], List.nodup_nil⟩

/-- `m[key]`: the counter of `key`, the zero value `0` when it has no entry. -/
def get (m : CountMap) (key : String) : ℕ := (m.entries.lookup key).getD 0

/-- `m[key]++`. -/
def incr (m : CountMap) (key : String) : CountMap :=
  ⟨incrEntries m.entries key, nodup_incrEntries m.nodup key⟩

/-- The sum of the counters, over every entry of the map. -/
def sum (m : CountMap) : ℕ := m.entries.foldr (fun e total => e.2 + total) 0

@[simp] theorem get_empty (key : String) : empty.get key = 0 := rfl

@[simp] theorem sum_empty : empty.sum = 0 := rfl

/-- Reading an entry list: the first entry of the key, or `0`. -/
theorem lookup_cons_getD (k key' : String) (n : ℕ) (m : List (String × ℕ)) :
    (((k, n) :: m).lookup key').getD 0 = if k = key' then n else (m.lookup key').getD 0 := by
  by_cases h : k = key'
  · subst h; simp [List.lookup_cons]
  · simp [List.lookup_cons, beq_false_of_ne (Ne.symm h), h]

theorem lookup_incrEntries (m : List (String × ℕ)) (key key' : String) :
    ((incrEntries m key).lookup key').getD 0 =
      (m.lookup key').getD 0 + if key = key' then 1 else 0 := by
  induction m with
  | nil => simp [incrEntries, lookup_cons_getD]
  | cons e m ih =>
      obtain ⟨k, n⟩ := e
      by_cases hk : k = key <;> by_cases h : k = key' <;>
        simp_all [incrEntries, lookup_cons_getD, eq_comm (a := key)]

/-- `m[key]++` raises the counter of `key` by one and no other. -/
theorem get_incr (m : CountMap) (key key' : String) :
    (m.incr key).get key' = m.get key' + if key = key' then 1 else 0 :=
  lookup_incrEntries m.entries key key'

theorem sum_incrEntries (m : List (String × ℕ)) (key : String) :
    (incrEntries m key).foldr (fun e total => e.2 + total) 0 =
      m.foldr (fun e total => e.2 + total) 0 + 1 := by
  induction m with
  | nil => rfl
  | cons e m ih =>
      obtain ⟨k, n⟩ := e
      by_cases hk : k = key <;> simp [incrEntries, hk, ih] <;> omega

/-- `m[key]++` adds one to the sum of the counters. -/
theorem sum_incr (m : CountMap) (key : String) : (m.incr key).sum = m.sum + 1 :=
  sum_incrEntries m.entries key

/-- Raising the counters of a list of keys counts each key. -/
theorem get_foldl_incr (keys : List String) (key' : String) :
    ∀ m : CountMap, (keys.foldl incr m).get key' = m.get key' + keys.count key' := by
  induction keys with
  | nil => simp
  | cons key keys ih =>
      intro m
      rw [List.foldl_cons, ih, get_incr, List.count_cons]
      by_cases h : key = key'
      · simp only [h, if_true, beq_self_eq_true]; omega
      · simp only [h, if_false, beq_false_of_ne h]; rfl

/-- Raising the counters of a list of keys adds its length to the sum. -/
theorem sum_foldl_incr (keys : List String) :
    ∀ m : CountMap, (keys.foldl incr m).sum = m.sum + keys.length := by
  induction keys with
  | nil => simp
  | cons key keys ih =>
      intro m
      rw [List.foldl_cons, ih, sum_incr, List.length_cons]
      omega

end CountMap

/-! ### `GetProcessStats` -/

/-- A `ProcessInstanceResult`, as far as `GetProcessStats` reads it. -/
structure ProcessInstanceResult where
  processID : String
  state : String

/-- The process component, as far as `GetProcessStats` calls it:
`ListProcessInstances(statusFilter, processKeyFilter, limit)`, which may fail. -/
structure ProcessComponent where
  listProcessInstances : String → String → Int → Except String (List ProcessInstanceResult)

/-- The handler's `coreInterface`: `GetProcessComponent()` returns a component or `nil`. -/
structure ProcessCoreInterface where
  getProcessComponent : Option ProcessComponent

/-- `ProcessStats`; `AverageExecutionTime` is never written by `GetProcessStats` and keeps its zero
value. -/
structure ProcessStats where
  totalInstances : ℕ
  activeInstances : ℕ := 0
  completedInstances : ℕ := 0
  cancelledInstances : ℕ := 0
  instancesByStatus : CountMap
  instancesByProcess : CountMap
  averageExecutionTime : Float := 0

/-- The `switch instance.State` of the loop of `GetProcessStats`. -/
def getProcessStats.countState (stats : ProcessStats) : String → ProcessStats
  | "ACTIVE" => { stats with activeInstances := stats.activeInstances + 1 }
  | "COMPLETED" => { stats with completedInstances := stats.completedInstances + 1 }
  | "CANCELLED" => { stats with cancelledInstances := stats.cancelledInstances + 1 }
  | _ => stats

/-- One iteration of the loop of `GetProcessStats`: the `switch`, then
`stats.InstancesByStatus[instance.State]++` and `stats.InstancesByProcess[instance.ProcessID]++`. -/
def getProcessStats.step (stats : ProcessStats) (inst : ProcessInstanceResult) : ProcessStats :=
  let stats := getProcessStats.countState stats inst.state
  { stats with
    instancesByStatus := stats.instancesByStatus.incr inst.state
    instancesByProcess := stats.instancesByProcess.incr inst.processID }

/-- `ProcessHandler.GetProcessStats`. -/
def getProcessStats (coreInterface : ProcessCoreInterface) : Except String ProcessStats := do
  let some processComp := coreInterface.getProcessComponent
    | throw "process component not available"
  let allInstances ← processComp.listProcessInstances "" "" 0
  let stats : ProcessStats :=
    { totalInstances := allInstances.length, instancesByStatus := CountMap.empty,
      instancesByProcess := CountMap.empty }
  return allInstances.foldl getProcessStats.step stats

namespace getProcessStats

/-- The `switch` touches the three counters only. -/
@[simp] theorem countState_frame (stats : ProcessStats) (state : String) :
    (countState stats state).totalInstances = stats.totalInstances ∧
      (countState stats state).instancesByStatus = stats.instancesByStatus ∧
      (countState stats state).instancesByProcess = stats.instancesByProcess := by
  unfold countState
  split <;> exact ⟨rfl, rfl, rfl⟩

/-- An iteration raises each map's counter of the instance and keeps the total. -/
@[simp] theorem step_frame (stats : ProcessStats) (inst : ProcessInstanceResult) :
    (step stats inst).totalInstances = stats.totalInstances ∧
      (step stats inst).instancesByStatus = stats.instancesByStatus.incr inst.state ∧
      (step stats inst).instancesByProcess = stats.instancesByProcess.incr inst.processID := by
  simp [step]

/-- **The loop raises the maps' counters of every instance and keeps the total.** -/
theorem foldl_step_frame (insts : List ProcessInstanceResult) :
    ∀ stats : ProcessStats, (insts.foldl step stats).totalInstances = stats.totalInstances ∧
      (insts.foldl step stats).instancesByStatus =
        (insts.map (·.state)).foldl CountMap.incr stats.instancesByStatus ∧
      (insts.foldl step stats).instancesByProcess =
        (insts.map (·.processID)).foldl CountMap.incr stats.instancesByProcess := by
  induction insts with
  | nil => simp
  | cons inst insts ih =>
      intro stats
      simpa using ih (step stats inst)

end getProcessStats

/-- The three counters read the map by state, `0` for a state without an entry. -/
def CountersAgree (stats : ProcessStats) : Prop :=
  stats.activeInstances = stats.instancesByStatus.get "ACTIVE" ∧
    stats.completedInstances = stats.instancesByStatus.get "COMPLETED" ∧
    stats.cancelledInstances = stats.instancesByStatus.get "CANCELLED"

/-- An iteration raises a named state's counter together with its entry in the map. -/
theorem countersAgree_step {stats : ProcessStats} (h : CountersAgree stats)
    (inst : ProcessInstanceResult) : CountersAgree (getProcessStats.step stats inst) := by
  obtain ⟨ha, hc, hx⟩ := h
  simp only [CountersAgree, getProcessStats.step_frame, CountMap.get_incr]
  simp only [getProcessStats.step, getProcessStats.countState]
  split <;> simp_all

/-- **Along the loop the three counters read the map by state.** -/
theorem countersAgree_foldl_step (insts : List ProcessInstanceResult) :
    ∀ stats : ProcessStats, CountersAgree stats →
      CountersAgree (insts.foldl getProcessStats.step stats) := by
  induction insts with
  | nil => exact fun _ h => h
  | cons inst insts ih => exact fun stats h => ih _ (countersAgree_step h inst)

/-- `GetProcessStats` fails exactly when the component is `nil`, with its own message, or when the
listing fails, with the listing's error; otherwise it returns the loop over the instances. -/
theorem getProcessStats_eq (coreInterface : ProcessCoreInterface) :
    getProcessStats coreInterface =
      match coreInterface.getProcessComponent with
      | none => .error "process component not available"
      | some processComp =>
          (processComp.listProcessInstances "" "" 0).map fun allInstances =>
            allInstances.foldl getProcessStats.step
              { totalInstances := allInstances.length, instancesByStatus := CountMap.empty,
                instancesByProcess := CountMap.empty } := by
  unfold getProcessStats
  rcases coreInterface.getProcessComponent with _ | processComp
  · rfl
  · cases processComp.listProcessInstances "" "" 0 <;> rfl

/-- **What `GetProcessStats` returns for a listing**: the total is the number of instances, each
map has raised the counter of every instance's state (of its process), and the three counters
read the map by state. -/
theorem getProcessStats_of_ok {coreInterface : ProcessCoreInterface}
    {processComp : ProcessComponent} {allInstances : List ProcessInstanceResult}
    (hc : coreInterface.getProcessComponent = some processComp)
    (hl : processComp.listProcessInstances "" "" 0 = .ok allInstances) :
    ∃ stats, getProcessStats coreInterface = .ok stats ∧
      stats.totalInstances = allInstances.length ∧
      stats.instancesByStatus = (allInstances.map (·.state)).foldl CountMap.incr CountMap.empty ∧
      stats.instancesByProcess =
        (allInstances.map (·.processID)).foldl CountMap.incr CountMap.empty ∧
      CountersAgree stats := by
  have hframe := getProcessStats.foldl_step_frame allInstances
  refine ⟨_, by simp only [getProcessStats_eq, hc, hl]; rfl, ?_⟩
  exact ⟨(hframe _).1, (hframe _).2.1, (hframe _).2.2,
    countersAgree_foldl_step allInstances _ ⟨rfl, rfl, rfl⟩⟩

/-- **The two maps count the instances of each state and of each process.** -/
theorem getProcessStats_histogram {coreInterface : ProcessCoreInterface}
    {processComp : ProcessComponent} {allInstances : List ProcessInstanceResult}
    (hc : coreInterface.getProcessComponent = some processComp)
    (hl : processComp.listProcessInstances "" "" 0 = .ok allInstances) :
    ∃ stats, getProcessStats coreInterface = .ok stats ∧
      (∀ state, stats.instancesByStatus.get state = (allInstances.map (·.state)).count state) ∧
      ∀ processID,
        stats.instancesByProcess.get processID = (allInstances.map (·.processID)).count processID := by
  obtain ⟨stats, hok, -, hstatus, hprocess, -⟩ := getProcessStats_of_ok hc hl
  refine ⟨stats, hok, fun state => ?_, fun processID => ?_⟩
  · rw [hstatus, CountMap.get_foldl_incr, CountMap.get_empty, Nat.zero_add]
  · rw [hprocess, CountMap.get_foldl_incr, CountMap.get_empty, Nat.zero_add]

/-- **Process statistics are consistent.**  For every list of instances the component returns,
`GetProcessStats` returns statistics whose total is the sum of the counters by state and the sum
of the counters by process, and whose three state counters are the map's entries for `ACTIVE`,
`COMPLETED` and `CANCELLED` (`0` without an entry). -/
theorem getProcessStats_consistent (coreInterface : ProcessCoreInterface)
    (processComp : ProcessComponent) (allInstances : List ProcessInstanceResult)
    (hc : coreInterface.getProcessComponent = some processComp)
    (hl : processComp.listProcessInstances "" "" 0 = .ok allInstances) :
    ∃ stats, getProcessStats coreInterface = .ok stats ∧
      stats.totalInstances = allInstances.length ∧
      stats.totalInstances = stats.instancesByStatus.sum ∧
      stats.totalInstances = stats.instancesByProcess.sum ∧
      stats.activeInstances = stats.instancesByStatus.get "ACTIVE" ∧
      stats.completedInstances = stats.instancesByStatus.get "COMPLETED" ∧
      stats.cancelledInstances = stats.instancesByStatus.get "CANCELLED" := by
  obtain ⟨stats, hok, htotal, hstatus, hprocess, hagree⟩ := getProcessStats_of_ok hc hl
  have hsum (keys : List String) : (keys.foldl CountMap.incr CountMap.empty).sum = keys.length := by
    rw [CountMap.sum_foldl_incr, CountMap.sum_empty, Nat.zero_add]
  refine ⟨stats, hok, htotal, ?_, ?_, hagree⟩
  · rw [htotal, hstatus, hsum, List.length_map]
  · rw [htotal, hprocess, hsum, List.length_map]

/-- A component that lists an active, a failed and a completed instance. -/
def sampleCore : ProcessCoreInterface :=
  ⟨some ⟨fun _ _ _ => .ok [⟨"p1", "ACTIVE"⟩, ⟨"p1", "FAILED"⟩, ⟨"p2", "COMPLETED"⟩]⟩⟩

theorem getProcessStats_consistent_at_sample :
    ∃ stats, getProcessStats sampleCore = .ok stats ∧
      stats.totalInstances = 3 ∧
      stats.totalInstances = stats.instancesByStatus.sum ∧
      stats.totalInstances = stats.instancesByProcess.sum ∧
      stats.activeInstances = stats.instancesByStatus.get "ACTIVE" ∧
      stats.completedInstances = stats.instancesByStatus.get "COMPLETED" ∧
      stats.cancelledInstances = stats.instancesByStatus.get "CANCELLED" :=
  getProcessStats_consistent sampleCore _ [⟨"p1", "ACTIVE"⟩, ⟨"p1", "FAILED"⟩, ⟨"p2", "COMPLETED"⟩]
    rfl rfl

end AtomEngine
