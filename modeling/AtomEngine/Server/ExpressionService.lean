/-
**The other calls of the expression service, and how they agree.**

Besides `TestExpression` the service answers five calls from the same component.
`EvaluateExpression` reads a context as `TestExpression` reads a test case's, evaluates, and
marshals the value; `ValidateExpression` and `ParseExpression` evaluate under the empty map and
keep only whether that failed, `ParseExpression` then marshalling a fixed description of the
expression; `EvaluateCondition` asks the component's condition evaluator.  None of them returns
a Go error: every failure is a field of the response.

The component's `EvaluateCondition` is not among the sources and enters as a parameter, as its
`EvaluateExpression` does through `AtomEngine.ExpressionComponent`.

Main definitions:

* `AtomEngine.ExpressionServiceServer.evaluateExpression`, `validateExpression`,
  `parseExpression`, `evaluateCondition` — the calls of `expressionServiceServer`.

Main results:

* `AtomEngine.ExpressionServiceServer.testCaseResult_agrees_with_evaluateExpression` — **a test
  case passes exactly when `EvaluateExpression` on its context answers the expected JSON**, and
  the two report the same failures, but for the text of a marshalling failure;
* `AtomEngine.ExpressionServiceServer.parseExpression_iff_validateExpression` —
  **`ParseExpression` succeeds exactly when `ValidateExpression` finds the expression valid and
  the description marshals**, with the validation's error otherwise.
-/

import AtomEngine.Server.ExpressionTest

set_option autoImplicit false

namespace AtomEngine

/-- `expressionpb.EvaluateExpressionResponse`. -/
structure EvaluateExpressionResponse where
  result : String := ""
  success : Bool
  errorMessage : String := ""
  resultType : String := ""

/-- `expressionpb.ValidateExpressionResponse`. -/
structure ValidateExpressionResponse where
  valid : Bool
  errorMessage : String := ""

/-- `expressionpb.ParseExpressionResponse`. -/
structure ParseExpressionResponse where
  ast : String := ""
  success : Bool
  errorMessage : String := ""

/-- `expressionpb.EvaluateConditionResponse`. -/
structure EvaluateConditionResponse where
  result : Bool := false
  success : Bool
  errorMessage : String := ""

/-- The `ResultType` of a value: the switch on its dynamic type. -/
def resultType : Value → String
  | .bool _ => "boolean"
  | .num _ => "number"
  | .map _ => "object"
  | .list _ => "array"
  | .null => "null"
  | .str _ => "string"

/-- The description `ParseExpression` marshals in place of a syntax tree. -/
def astDescription (expression : String) : Value :=
  .map [("type", .str "expression"), ("expression", .str expression), ("valid", .bool true)]

namespace ExpressionServiceServer

variable (env : ExpressionEnv)

/-- `EvaluateExpression(req)`: the component, the context (empty for an empty text), the
evaluation, and the JSON of the value with its type. -/
def evaluateExpression (expression context : String) : EvaluateExpressionResponse :=
  match getExpressionComponent env.slot with
  | .error e => { success := false, errorMessage := e }
  | .ok comp =>
    match (if context = "" then .ok [] else env.parseContext context) with
    | .error e => { success := false, errorMessage := "invalid context JSON: " ++ e }
    | .ok vars =>
      match comp.evaluateExpression expression vars with
      | .error e => { success := false, errorMessage := e }
      | .ok result =>
        match env.marshal result with
        | .error e => { success := false, errorMessage := "failed to marshal result: " ++ e }
        | .ok resultJSON =>
            { result := resultJSON, success := true, resultType := resultType result }

/-- `ValidateExpression(req)`: the evaluation under the empty map decides. -/
def validateExpression (expression : String) : ValidateExpressionResponse :=
  match getExpressionComponent env.slot with
  | .error e => { valid := false, errorMessage := e }
  | .ok comp =>
    match comp.evaluateExpression expression [] with
    | .error e => { valid := false, errorMessage := e }
    | .ok _ => { valid := true }

/-- `ParseExpression(req)`: the same evaluation, then the JSON of `astDescription`. -/
def parseExpression (expression : String) : ParseExpressionResponse :=
  match getExpressionComponent env.slot with
  | .error e => { success := false, errorMessage := e }
  | .ok comp =>
    match comp.evaluateExpression expression [] with
    | .error e => { success := false, errorMessage := e }
    | .ok _ =>
      match env.marshal (astDescription expression) with
      | .error _ => { success := false, errorMessage := "failed to create AST" }
      | .ok astJSON => { ast := astJSON, success := true }

/-- `EvaluateCondition(req)`, with the component's `EvaluateCondition(variables, condition)`. -/
def evaluateCondition
    (conditionOf : ExpressionComponent → GoMap → String → Except String Bool)
    (condition context : String) : EvaluateConditionResponse :=
  match getExpressionComponent env.slot with
  | .error e => { success := false, errorMessage := e }
  | .ok comp =>
    match (if context = "" then .ok [] else env.parseContext context) with
    | .error e => { success := false, errorMessage := "invalid context JSON: " ++ e }
    | .ok vars =>
      match conditionOf comp vars condition with
      | .error e => { success := false, errorMessage := e }
      | .ok result => { result, success := true }

/-- **A test case passes exactly when `EvaluateExpression` on its context answers the expected
JSON.**  With the component available: the case passes iff the call succeeds with the expected
text; after a success the case's actual result is the call's result; after a failure both report
the same message, except that a marshalling failure reads `failed to marshal result` in the test
and `failed to marshal result: ` followed by the error in the call. -/
theorem testCaseResult_agrees_with_evaluateExpression {comp : ExpressionComponent}
    (hcomp : getExpressionComponent env.slot = .ok comp) (expression : String)
    (testCase : TestCase) :
    ((testCaseResult env comp expression testCase).passed = true ↔
      (evaluateExpression env expression testCase.context).success = true ∧
        (evaluateExpression env expression testCase.context).result = testCase.expectedResult) ∧
    ((evaluateExpression env expression testCase.context).success = true →
      (testCaseResult env comp expression testCase).actualResult =
        (evaluateExpression env expression testCase.context).result) ∧
    ((evaluateExpression env expression testCase.context).success = false →
      (testCaseResult env comp expression testCase).errorMessage =
          (evaluateExpression env expression testCase.context).errorMessage ∨
        ∃ e, (evaluateExpression env expression testCase.context).errorMessage =
            "failed to marshal result: " ++ e ∧
          (testCaseResult env comp expression testCase).errorMessage =
            "failed to marshal result") := by
  unfold evaluateExpression testCaseResult
  rw [hcomp]
  rcases hctx : (if testCase.context = "" then (.ok [] : Except String GoMap)
    else env.parseContext testCase.context) with e | vars
  · simp [hctx]
  rcases hev : comp.evaluateExpression expression vars with e | result
  · simp [hctx, hev]
  rcases hm : env.marshal result with e | json <;> simp [hctx, hev, hm]

/-- A component that evaluates every expression to `true`. -/
def alwaysTrue : ExpressionComponent := ⟨fun _ _ => .ok (.bool true)⟩

/-- The component that evaluates to `true`, behind a marshaller that writes `true`. -/
def alwaysTrueEnv : ExpressionEnv :=
  ⟨.component alwaysTrue, fun _ => .ok [], fun _ => .ok "true"⟩

/-- A test case with an empty context that expects `true`. -/
def expectsTrue : TestCase := ⟨"big", "", "true"⟩

theorem testCaseResult_agrees_with_evaluateExpression_at_true :
    getExpressionComponent alwaysTrueEnv.slot = .ok alwaysTrue ∧
    ((testCaseResult alwaysTrueEnv alwaysTrue "x > 1" expectsTrue).passed =
        true ↔
      (evaluateExpression alwaysTrueEnv "x > 1" expectsTrue.context).success = true ∧
        (evaluateExpression alwaysTrueEnv "x > 1" expectsTrue.context).result =
          expectsTrue.expectedResult) ∧
    ((evaluateExpression alwaysTrueEnv "x > 1" expectsTrue.context).success = true →
      (testCaseResult alwaysTrueEnv alwaysTrue "x > 1" expectsTrue).actualResult =
        (evaluateExpression alwaysTrueEnv "x > 1" expectsTrue.context).result) ∧
    ((evaluateExpression alwaysTrueEnv "x > 1" expectsTrue.context).success = false →
      (testCaseResult alwaysTrueEnv alwaysTrue "x > 1" expectsTrue).errorMessage =
          (evaluateExpression alwaysTrueEnv "x > 1" expectsTrue.context).errorMessage ∨
        ∃ e, (evaluateExpression alwaysTrueEnv "x > 1" expectsTrue.context).errorMessage =
            "failed to marshal result: " ++ e ∧
          (testCaseResult alwaysTrueEnv alwaysTrue "x > 1"
            expectsTrue).errorMessage = "failed to marshal result") :=
  ⟨rfl, testCaseResult_agrees_with_evaluateExpression alwaysTrueEnv rfl "x > 1" expectsTrue⟩

/-- **`ParseExpression` succeeds exactly when `ValidateExpression` finds the expression valid and
its description marshals.**  When the validation fails, `ParseExpression` and
`EvaluateExpression` under an empty context fail with the validation's message; when
`EvaluateExpression` under an empty context succeeds, the expression is valid. -/
theorem parseExpression_iff_validateExpression (expression : String) :
    ((parseExpression env expression).success = true ↔
      (validateExpression env expression).valid = true ∧
        ∃ json, env.marshal (astDescription expression) = .ok json) ∧
    ((validateExpression env expression).valid = false →
      (parseExpression env expression).errorMessage =
          (validateExpression env expression).errorMessage ∧
        (evaluateExpression env expression "").success = false ∧
        (evaluateExpression env expression "").errorMessage =
          (validateExpression env expression).errorMessage) ∧
    ((evaluateExpression env expression "").success = true →
      (validateExpression env expression).valid = true) := by
  unfold parseExpression validateExpression evaluateExpression
  rcases hcomp : getExpressionComponent env.slot with e | comp
  · simp
  rcases hev : comp.evaluateExpression expression [] with e | result
  · simp [hev]
  rcases hast : env.marshal (astDescription expression) with e | json <;>
    rcases hm : env.marshal result with e' | json' <;> simp [hev, hast, hm]

end ExpressionServiceServer

end AtomEngine
