/-
**Testing an expression against sample data.**

The expression service's `TestExpression` evaluates one expression under the context of each
test case and compares the JSON of the value with the expected text.  Each case ends in one of
four ways: its context is not valid JSON, the evaluation fails, the value cannot be marshalled,
or the comparison decides.  The loop appends one result per case, and the summary counts the
passed cases through `len(TestCases) - len(results) + countPassedTests(results)`, which is the
number of passed results exactly because of that.  Before the loop the service looks the
expression component up; when that fails it answers with no results at all.

Main definitions:

* `AtomEngine.getExpressionComponent` — the component lookup, with its two errors;
* `AtomEngine.testCaseStep` — one iteration of the loop of `TestExpression`;
* `AtomEngine.testExpression` — `expressionServiceServer.TestExpression`.

Main results:

* `AtomEngine.testCases_foldl_testCaseStep` — the loop appends one result per case, named after
  it, and clears `allPassed` exactly when a result has not passed;
* `AtomEngine.testExpression_consistent_when_component_available` — with the component there,
  one result per case in order, `AllPassed` iff all passed, and a summary of `n` cases, `p`
  passed and `n - p` failed; without it, no results, `AllPassed` false and the lookup's error as
  summary;
* `AtomEngine.unavailable_component_reports_no_results` — one test case and no result.
-/

import Mathlib.Data.List.Basic
import AtomEngine.Models.Value

set_option autoImplicit false

namespace AtomEngine

/-- What `core.GetExpressionComponent()` holds: nothing, a component of another type, or an
expression component. -/
inductive ComponentSlot (C : Type) where
  | none
  | other
  | component (c : C)

/-- `getExpressionComponent(core)`. -/
def getExpressionComponent {C : Type} : ComponentSlot C → Except String C
  | .none => .error "expression component not available"
  | .other => .error "expression component type assertion failed"
  | .component c => .ok c

/-- The expression component, as far as `TestExpression` uses it. -/
structure ExpressionComponent where
  evaluateExpression : String → GoMap → Except String Value

/-- A test case of a `TestExpressionRequest`. -/
structure TestCase where
  name : String
  context : String
  expectedResult : String

/-- `expressionpb.TestExpressionRequest`. -/
structure TestExpressionRequest where
  expression : String
  testCases : List TestCase

/-- `expressionpb.TestResult`. -/
structure TestResult where
  testName : String
  passed : Bool
  actualResult : String := ""
  expectedResult : String := ""
  errorMessage : String := ""

/-- `expressionpb.TestExpressionResponse`. -/
structure TestExpressionResponse where
  results : List TestResult
  allPassed : Bool
  summary : String

/-- The service's environment: the core's component slot, and `json.Unmarshal` of a context
into a map and `json.Marshal` of a value (`encoding/json` is not modelled; both may fail). -/
structure ExpressionEnv where
  slot : ComponentSlot ExpressionComponent
  parseContext : String → Except String GoMap
  marshal : Value → Except String String

section

variable (env : ExpressionEnv) (comp : ExpressionComponent) (expression : String)

/-- The result of a test case: an empty context is the empty map, and each of the four ways a
case ends gives one result. -/
def testCaseResult (testCase : TestCase) : TestResult :=
  match (if testCase.context = "" then .ok [] else env.parseContext testCase.context) with
  | .error e =>
      { testName := testCase.name, passed := false, errorMessage := "invalid context JSON: " ++ e }
  | .ok vars =>
    match comp.evaluateExpression expression vars with
    | .error e => { testName := testCase.name, passed := false, errorMessage := e }
    | .ok result =>
      match env.marshal result with
      | .error _ =>
          { testName := testCase.name, passed := false, errorMessage := "failed to marshal result" }
      | .ok actualResult =>
          { testName := testCase.name, passed := actualResult == testCase.expectedResult,
            actualResult, expectedResult := testCase.expectedResult }

/-- One iteration of the loop of `TestExpression`: the case's result is appended, and a result
that has not passed clears `allPassed`. -/
def testCaseStep (acc : List TestResult × Bool) (testCase : TestCase) : List TestResult × Bool :=
  (acc.1 ++ [testCaseResult env comp expression testCase],
    acc.2 && (testCaseResult env comp expression testCase).passed)

@[simp] theorem testCaseResult_testName (testCase : TestCase) :
    (testCaseResult env comp expression testCase).testName = testCase.name := by
  unfold testCaseResult
  split
  · rfl
  · split
    · rfl
    · split <;> rfl

/-- **The loop appends one result per case**, in order and named after it, and ends with
`allPassed` set exactly when it started set and every appended result passed. -/
theorem testCases_foldl_testCaseStep (testCases : List TestCase) :
    ∀ (results : List TestResult) (allPassed : Bool),
      testCases.foldl (testCaseStep env comp expression) (results, allPassed) =
        (results ++ testCases.map (testCaseResult env comp expression),
          allPassed && (testCases.map (testCaseResult env comp expression)).all (·.passed)) := by
  induction testCases with
  | nil => simp
  | cons testCase testCases ih =>
      intro results allPassed
      simp [testCaseStep, ih, Bool.and_assoc]

end

/-- `countPassedTests(results)`. -/
def countPassedTests (results : List TestResult) : ℕ :=
  results.foldl (fun count result => if result.passed then count + 1 else count) 0

/-- `countFailedTests(results)`. -/
def countFailedTests (results : List TestResult) : ℕ :=
  results.foldl (fun count result => if !result.passed then count + 1 else count) 0

theorem foldl_count_eq (p : TestResult → Bool) (results : List TestResult) :
    ∀ n, results.foldl (fun count result => if p result then count + 1 else count) n =
      n + (results.filter p).length := by
  induction results with
  | nil => simp
  | cons result results ih =>
      intro n
      by_cases h : p result <;> simp [h, ih, List.filter_cons]; omega

theorem countPassedTests_eq (results : List TestResult) :
    countPassedTests results = (results.filter (·.passed)).length := by
  simpa using foldl_count_eq (·.passed) results 0

/-- The failed and the passed results make up all results. -/
theorem countFailedTests_add_countPassedTests (results : List TestResult) :
    countFailedTests results + countPassedTests results = results.length := by
  rw [countPassedTests_eq, countFailedTests, foldl_count_eq, Nat.zero_add, Nat.add_comm]
  exact (List.length_eq_length_filter_add (l := results) (·.passed)).symm

/-- `fmt.Sprintf("Executed %d test cases, %d passed, %d failed", ...)`. -/
def summaryText (cases passed failed : Int) : String :=
  "Executed " ++ toString cases ++ " test cases, " ++ toString passed ++ " passed, " ++
    toString failed ++ " failed"

/-- `expressionServiceServer.TestExpression`; it never returns a Go error. -/
def testExpression (env : ExpressionEnv) (req : TestExpressionRequest) : TestExpressionResponse :=
  match getExpressionComponent env.slot with
  | .error e => { results := [], allPassed := false, summary := e }
  | .ok comp =>
    let acc := req.testCases.foldl (testCaseStep env comp req.expression) ([], true)
    { results := acc.1, allPassed := acc.2,
      summary := summaryText req.testCases.length
        (req.testCases.length - acc.1.length + countPassedTests acc.1) (countFailedTests acc.1) }

/-- **`TestExpression` reports one consistent result per case when the component is there.**
With the expression component available, whatever the evaluator, the context parser and the
marshaller do, the response has one result per case, in order and named after it; `AllPassed`
holds iff every result passed; and the summary counts the `n` cases, the `p` passed results and
`n - p` failed ones.  Without the component the response has no results, `AllPassed` false and
the lookup's error as its summary. -/
theorem testExpression_consistent_when_component_available (env : ExpressionEnv)
    (req : TestExpressionRequest) :
    (∀ comp, getExpressionComponent env.slot = .ok comp →
      (testExpression env req).results.length = req.testCases.length ∧
      (testExpression env req).results.map (·.testName) = req.testCases.map (·.name) ∧
      ((testExpression env req).allPassed = true ↔
        ∀ r ∈ (testExpression env req).results, r.passed = true) ∧
      (testExpression env req).summary = summaryText req.testCases.length
        ((testExpression env req).results.filter (·.passed)).length
        (req.testCases.length - ((testExpression env req).results.filter (·.passed)).length)) ∧
    (∀ e, getExpressionComponent env.slot = .error e →
      testExpression env req = { results := [], allPassed := false, summary := e }) := by
  refine ⟨fun comp hc => ?_, fun e he => by simp [testExpression, he]⟩
  have hloop := testCases_foldl_testCaseStep env comp req.expression req.testCases [] true
  have hcount := countFailedTests_add_countPassedTests
    (req.testCases.map (testCaseResult env comp req.expression))
  simp only [testExpression, hc, hloop, List.nil_append, Bool.true_and]
  rw [List.length_map, countPassedTests_eq] at hcount ⊢
  refine ⟨rfl, by simp [List.map_map, Function.comp_def], List.all_eq_true, ?_⟩
  congr 1 <;> omega

/-- An engine whose core has no expression component. -/
def unavailableEnv : ExpressionEnv := ⟨.none, fun _ => .ok [], fun _ => .ok "true"⟩

/-- An engine whose evaluator returns `true` for every expression. -/
def trueEnv : ExpressionEnv :=
  ⟨.component ⟨fun _ _ => .ok (.bool true)⟩, fun _ => .ok [], fun _ => .ok "true"⟩

/-- A request with one test case. -/
def oneCaseRequest : TestExpressionRequest := ⟨"x > 1", [⟨"big", "", "true"⟩]⟩

theorem testExpression_consistent_when_component_available_at_true :
    getExpressionComponent trueEnv.slot = .ok ⟨fun _ _ => .ok (.bool true)⟩ ∧
      ((testExpression trueEnv oneCaseRequest).results.length = oneCaseRequest.testCases.length ∧
      (testExpression trueEnv oneCaseRequest).results.map (·.testName) =
        oneCaseRequest.testCases.map (·.name) ∧
      ((testExpression trueEnv oneCaseRequest).allPassed = true ↔
        ∀ r ∈ (testExpression trueEnv oneCaseRequest).results, r.passed = true) ∧
      (testExpression trueEnv oneCaseRequest).summary =
        summaryText oneCaseRequest.testCases.length
          ((testExpression trueEnv oneCaseRequest).results.filter (·.passed)).length
          (oneCaseRequest.testCases.length -
            ((testExpression trueEnv oneCaseRequest).results.filter (·.passed)).length)) :=
  ⟨rfl, (testExpression_consistent_when_component_available trueEnv oneCaseRequest).1 _ rfl⟩

/-- **Without the component a test case gets no result**: one case, no result, `AllPassed`
false; and with no case at all `AllPassed` is still false. -/
theorem unavailable_component_reports_no_results :
    oneCaseRequest.testCases.length = 1 ∧
      (testExpression unavailableEnv oneCaseRequest).results.length = 0 ∧
      (testExpression unavailableEnv oneCaseRequest).summary =
        "expression component not available" ∧
      (testExpression unavailableEnv ⟨"x > 1", []⟩).allPassed = false :=
  ⟨rfl, rfl, rfl, rfl⟩

end AtomEngine
