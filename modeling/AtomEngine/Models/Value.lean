/-
**Untyped values: the maps the engine reads process definitions and variables from.**

The BPMN parser hands the engine each process element as a `map[string]interface{}`, and token
variables, execution contexts and callback payloads are maps of the same kind.  The executors
read them with Go's two idioms, `v, exists := m[key]` and the type assertion
`x, ok := v.([]interface{})`.  This module fixes a value type for `interface{}`, the map type
with Go's read and write, and the type assertions as partial projections.

Main definitions:

* `AtomEngine.Value` — a Go `interface{}` as the parser and `encoding/json` build it;
* `AtomEngine.GoMap`, `AtomEngine.GoMap.get?`, `AtomEngine.GoMap.set` — `map[string]interface{}`
  with `m[key]` and `m[key] = v`;
* `AtomEngine.Value.isTrue` — the comparison `v == true` of an `interface{}` with `true`;
* `AtomEngine.Value.isString`, `AtomEngine.GoMap.eqString` — the comparison `v == "..."` with a
  string constant;
* `AtomEngine.hexDigit` — a digit of the hexadecimal encodings.

Main results:

* `AtomEngine.GoMap.get?_set_self`, `AtomEngine.GoMap.get?_set_of_ne` — a write is read back
  under its key and leaves the other keys alone.
-/

import Mathlib.Logic.Function.Basic

set_option autoImplicit false

namespace AtomEngine

/-- A Go `interface{}` value as the BPMN parser and `encoding/json` produce it: `nil`, a
boolean, a number, a string, a list (`[]interface{}`) or a map (`map[string]interface{}`).
Numbers are integral: the engine never reads a fractional one. -/
inductive Value where
  | null
  | bool (b : Bool)
  | num (n : Int)
  | str (s : String)
  | list (xs : List Value)
  | map (m : List (String × Value))
  deriving Repr, Inhabited

/-- A `map[string]interface{}`, as its list of entries.  Reading goes to the first entry of a
key and writing replaces it, so the keys of a map built by `GoMap.set` stay distinct. -/
abbrev GoMap := List (String × Value)

namespace GoMap

/-- `v, exists := m[key]`. -/
def get? (m : GoMap) (key : String) : Option Value := m.lookup key

/-- `m[key] = v`. -/
def set : GoMap → String → Value → GoMap
  | [], key, v => [(key, v)]
  | (k, w) :: m, key, v => if k = key then (key, v) :: m else (k, w) :: set m key v

@[simp] theorem get?_nil (key : String) : get? [] key = none := rfl

theorem get?_cons (k key : String) (v : Value) (m : GoMap) :
    get? ((k, v) :: m) key = if key = k then some v else get? m key := by
  simp only [get?, List.lookup_cons]
  split <;> simp_all

@[simp] theorem get?_set_self (m : GoMap) (key : String) (v : Value) :
    (m.set key v).get? key = some v := by
  induction m with
  | nil => simp [set, get?_cons]
  | cons e m ih =>
      obtain ⟨k, w⟩ := e
      by_cases h : k = key
      · simp [set, h, get?_cons]
      · simp [set, h, get?_cons, ih, Ne.symm h]

theorem get?_set_of_ne (m : GoMap) {key key' : String} (v : Value) (h : key' ≠ key) :
    (m.set key v).get? key' = m.get? key' := by
  induction m with
  | nil => simp [set, get?_cons, h]
  | cons e m ih =>
      obtain ⟨k, w⟩ := e
      by_cases hk : k = key
      · subst hk; simp [set, get?_cons, h]
      · simp [set, hk, get?_cons, ih]

end GoMap

namespace Value

/-- `v == true` for an `interface{}` `v`: true exactly for the boolean `true`. -/
def isTrue : Value → Bool
  | bool b => b
  | _ => false

/-- `v == s` for an `interface{}` `v` and a string constant `s`. -/
def isString (s : String) : Value → Bool
  | str t => t == s
  | _ => false

/-- The assertion `v.(string)`. -/
def asString? : Value → Option String
  | str s => some s
  | _ => none

@[simp] theorem isTrue_bool (b : Bool) : (bool b).isTrue = b := rfl

@[simp] theorem asString?_str (s : String) : (str s).asString? = some s := rfl

end Value

/-- The lower-case hexadecimal digit of `d < 16`, as `encoding/hex` and `encoding/json` write
it. -/
def hexDigit (d : ℕ) : Char := if d < 10 then Char.ofNat (48 + d) else Char.ofNat (87 + d)

/-- `m[key] == s` for a string constant `s`; an absent key reads as `nil`, which is not `s`. -/
def GoMap.eqString (m : GoMap) (key s : String) : Bool :=
  match m.get? key with
  | some v => v.isString s
  | none => false

end AtomEngine
