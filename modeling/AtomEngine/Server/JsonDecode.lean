/-
**Reading JSON back: `json.Unmarshal` into `interface{}`, and its round trip with `json.Marshal`.**

The core reads what the other components send with `json.Unmarshal`: `handleJobsResponse`
decodes a job callback's fields and its `variables` map, and the REST handlers decode the
responses of the jobs and parser components into a `map[string]interface{}`.  This module models
what `encoding/json` accepts and what it stores.  The scanner's grammar is followed state by
state (whitespace, the literals, numbers with fraction and exponent, strings with every escape
and surrogate pairs, arrays, objects, and the nesting limit `maxNestingDepth`), and the text is
read into `AtomEngine.Json`, where a number keeps the exact value of its literal.  Storing that
into an `interface{}` gives a `Value`.  A number is a `float64` there; `Value` holds the whole
ones of magnitude at most `2^53`, which `strconv.ParseFloat` reads exactly, and any other number
has no reading in the model.

Main definitions:

* `AtomEngine.Json.parse` — `checkValid` and the decoding of `json.Unmarshal`: one value, and
  nothing after it but whitespace;
* `AtomEngine.Json.toValue` — `valueInterface`: the `interface{}` stored for a JSON value;
* `AtomEngine.Json.unmarshalValue`, `AtomEngine.Json.unmarshalMap` — `json.Unmarshal` into an
  `interface{}` and into a `map[string]interface{}`.

Main results:

* `AtomEngine.Json.stringBody_escaped` — a string literal as `json.Marshal` escapes it decodes to
  the string;
* `AtomEngine.Json.parseValue_toJson` — the text `Value.toJson` writes parses back to the value,
  whatever may follow it;
* `AtomEngine.Json.unmarshalValue_toJson` — **`json.Unmarshal` reads back what `json.Marshal`
  writes**, for every value with whole numbers of magnitude at most `2^53`, maps with distinct
  keys and no deeper nesting than the scanner allows.
-/

import AtomEngine.Server.JobCallback
import AtomEngine.Utils.RandomString
import Mathlib.Tactic.IntervalCases

set_option autoImplicit false

namespace AtomEngine

/-- A JSON text as `encoding/json` reads it, before it is stored in a Go value: a number is kept
as the exact value `(-1)^neg · mantissa · 10^exponent` of its literal, and an object as its
members in the order of the text, repeated keys included. -/
inductive Json where
  | null
  | bool (b : Bool)
  | num (neg : Bool) (mantissa : ℕ) (exponent : ℤ)
  | str (s : String)
  | arr (xs : List Json)
  | obj (members : List (String × Json))
  deriving Repr, Inhabited

namespace Json

/-! ### Strings -/

/-- JSON whitespace. -/
def isSpace (c : Char) : Bool := c = ' ' || c = '\t' || c = '\n' || c = '\r'

/-- The text after the whitespace at its start. -/
def skipSpace (cs : List Char) : List Char := cs.dropWhile isSpace

/-- The value of a hexadecimal digit. -/
def hexValue (c : Char) : Option ℕ :=
  if '0' ≤ c ∧ c ≤ '9' then some (c.toNat - 48)
  else if 'a' ≤ c ∧ c ≤ 'f' then some (c.toNat - 87)
  else if 'A' ≤ c ∧ c ≤ 'F' then some (c.toNat - 55)
  else none

/-- `getu4`: the code unit of the four hexadecimal digits of a `\u` escape. -/
def hex4 (a b c d : Char) : Option ℕ := do
  let a ← hexValue a
  let b ← hexValue b
  let c ← hexValue c
  let d ← hexValue d
  pure (((a * 16 + b) * 16 + c) * 16 + d)

/-- `utf16.IsSurrogate`. -/
def isSurrogate (r : ℕ) : Bool := 0xD800 ≤ r && r < 0xE000

/-- U+FFFD, which stands for a surrogate that is not part of a pair. -/
def replacementChar : Char := '�'

/-- The character a two-character escape stands for. -/
def shortEscape (e : Char) : Option Char :=
  if e = '"' then some '"'
  else if e = '\\' then some '\\'
  else if e = '/' then some '/'
  else if e = 'b' then some '\x08'
  else if e = 'f' then some '\x0c'
  else if e = 'n' then some '\n'
  else if e = 'r' then some '\r'
  else if e = 't' then some '\t'
  else none

/-- The character a `\u` escape that is not part of a surrogate pair stands for. -/
def unitChar (r : ℕ) : Char := if isSurrogate r then replacementChar else Char.ofNat r

/-- `unquote`: the characters of a string literal after its opening quote, decoded, and what
follows the closing quote.  A control character, an unknown escape or a bad `\u` escape makes
the text invalid; a high surrogate escape followed by a low surrogate escape is one character
(`utf16.DecodeRune`), and any other surrogate escape is U+FFFD. -/
def stringBody : List Char → Option (List Char × List Char)
  | [] => none
  | '\\' :: 'u' :: a :: b :: c :: d :: rest =>
      match hex4 a b c d with
      | none => none
      | some r =>
        match rest with
        | '\\' :: 'u' :: e :: f :: g :: h :: rest' =>
          match hex4 e f g h with
          | some r2 =>
            if isSurrogate r ∧ r < 0xDC00 ∧ 0xDC00 ≤ r2 ∧ r2 < 0xE000 then
              (stringBody rest').map fun (s, t) =>
                (Char.ofNat (0x10000 + (r - 0xD800) * 0x400 + (r2 - 0xDC00)) :: s, t)
            else
              (stringBody ('\\' :: 'u' :: e :: f :: g :: h :: rest')).map fun (s, t) =>
                (unitChar r :: s, t)
          | none =>
            (stringBody ('\\' :: 'u' :: e :: f :: g :: h :: rest')).map fun (s, t) =>
              (unitChar r :: s, t)
        | rest => (stringBody rest).map fun (s, t) => (unitChar r :: s, t)
  | '\\' :: e :: rest =>
      match shortEscape e with
      | none => none
      | some c => (stringBody rest).map fun (s, t) => (c :: s, t)
  | c :: rest =>
      if c = '"' then some ([], rest)
      else if c.toNat < 0x20 ∨ c = '\\' then none
      else (stringBody rest).map fun (s, t) => (c :: s, t)

/-! ### Numbers -/

/-- The value of a run of decimal digits after the value `acc` of the digits before it. -/
def digitsValue (acc : ℕ) (ds : List Char) : ℕ := ds.foldl (fun n d => 10 * n + (d.toNat - 48)) acc

/-- A run of at least one decimal digit, and what follows it. -/
def digitRun (cs : List Char) : Option (List Char × List Char) :=
  match cs.span Char.isDigit with
  | ([], _) => none
  | r => some r

/-- The minus sign of a number. -/
def sign : List Char → Bool × List Char
  | '-' :: cs => (true, cs)
  | cs => (false, cs)

/-- The integer part of a number: `0`, or a run of digits that does not start with `0`. -/
def integerPart : List Char → Option (List Char × List Char)
  | '0' :: cs => some (['0'], cs)
  | cs => digitRun cs

/-- The digits of an optional fraction. -/
def fraction : List Char → Option (List Char × List Char)
  | '.' :: cs => digitRun cs
  | cs => some ([], cs)

/-- The sign of an exponent. -/
def exponentSign : List Char → Bool × List Char
  | '+' :: cs => (false, cs)
  | '-' :: cs => (true, cs)
  | cs => (false, cs)

/-- The value of an optional exponent: `e` or `E`, an optional sign and a run of digits. -/
def exponentPart : List Char → Option (ℤ × List Char)
  | c :: cs =>
    if c = 'e' ∨ c = 'E' then
      (digitRun (exponentSign cs).2).map fun (ds, t) =>
        (if (exponentSign cs).1 then -(digitsValue 0 ds : ℤ) else digitsValue 0 ds, t)
    else some (0, c :: cs)
  | [] => some (0, [])

/-- A number literal, as the scanner's states `stateNeg` to `stateE0` read it, and what follows
it. -/
def numberLiteral (cs : List Char) : Option (Json × List Char) := do
  let (ds, afterInt) ← integerPart (sign cs).2
  let (fs, afterFrac) ← fraction afterInt
  let (e, rest) ← exponentPart afterFrac
  pure (.num (sign cs).1 (digitsValue 0 (ds ++ fs)) (e - fs.length), rest)

/-- A literal that is no string, array or object: `null`, `true`, `false` or a number. -/
def scalar (cs : List Char) : Option (Json × List Char) :=
  if "null".data.isPrefixOf cs then some (.null, cs.drop 4)
  else if "true".data.isPrefixOf cs then some (.bool true, cs.drop 4)
  else if "false".data.isPrefixOf cs then some (.bool false, cs.drop 5)
  else numberLiteral cs

/-! ### Values -/

/-- `maxNestingDepth`: the scanner rejects a text with more arrays and objects open at once. -/
def maxNestingDepth : ℕ := 10000

mutual

/-- A JSON value after optional whitespace, with `depth` arrays and objects open around it, and
what follows it.  Every call spends one unit of `fuel`; the length of the text plus one is
enough. -/
def parseValue : ℕ → ℕ → List Char → Option (Json × List Char)
  | 0, _, _ => none
  | fuel + 1, depth, cs =>
    match skipSpace cs with
    | [] => none
    | c :: rest =>
      if c = '"' then (stringBody rest).map fun (s, t) => (.str (String.mk s), t)
      else if c = '[' then
        if depth < maxNestingDepth then
          match skipSpace rest with
          | ']' :: t => some (.arr [], t)
          | _ => (parseElements fuel (depth + 1) rest).map fun (xs, t) => (.arr xs, t)
        else none
      else if c = '\x7b' then
        if depth < maxNestingDepth then
          match skipSpace rest with
          | '\x7d' :: t => some (.obj [], t)
          | _ => (parseMembers fuel (depth + 1) rest).map fun (ms, t) => (.obj ms, t)
        else none
      else scalar (c :: rest)

/-- The elements of a non-empty array after its `[`, up to and including its `]`. -/
def parseElements : ℕ → ℕ → List Char → Option (List Json × List Char)
  | 0, _, _ => none
  | fuel + 1, depth, cs =>
    match parseValue fuel depth cs with
    | none => none
    | some (x, rest) =>
      match skipSpace rest with
      | ',' :: t => (parseElements fuel depth t).map fun (xs, t) => (x :: xs, t)
      | ']' :: t => some ([x], t)
      | _ => none

/-- The members of a non-empty object after its opening brace, up to and including its closing
brace. -/
def parseMembers : ℕ → ℕ → List Char → Option (List (String × Json) × List Char)
  | 0, _, _ => none
  | fuel + 1, depth, cs =>
    match skipSpace cs with
    | '"' :: rest =>
      match stringBody rest with
      | none => none
      | some (key, rest) =>
        match skipSpace rest with
        | ':' :: rest =>
          match parseValue fuel depth rest with
          | none => none
          | some (x, rest) =>
            match skipSpace rest with
            | ',' :: t => (parseMembers fuel depth t).map fun (ms, t) => ((String.mk key, x) :: ms, t)
            | '\x7d' :: t => some ([(String.mk key, x)], t)
            | _ => none
        | _ => none
    | _ => none

end

/-- `checkValid` and the decoding of `json.Unmarshal`: one value, then only whitespace. -/
def parse (s : String) : Option Json :=
  match parseValue (s.length + 1) 0 s.data with
  | some (j, rest) => if skipSpace rest = [] then some j else none
  | none => none

/-! ### Storing into `interface{}` -/

/-- The largest magnitude up to which every integer is a `float64`. -/
def maxExactInt : ℕ := 9007199254740992

/-- The magnitude `mantissa · 10^exponent` when it is a whole number. -/
def wholeValue (mantissa : ℕ) (exponent : ℤ) : Option ℕ :=
  if 0 ≤ exponent then some (mantissa * Nat.pow 10 exponent.toNat)
  else if mantissa % Nat.pow 10 exponent.natAbs = 0 then some (mantissa / Nat.pow 10 exponent.natAbs)
  else none

/-- The `float64` that `strconv.ParseFloat` makes of a literal, as a number of the model: a
whole value of magnitude at most `2^53` is the `float64` itself.  Any other literal (a fraction,
a larger magnitude, `-0`) is a `float64` that no `Value` holds, and has no reading here. -/
def numberValue (neg : Bool) (mantissa : ℕ) (exponent : ℤ) : Option ℤ :=
  match wholeValue mantissa exponent with
  | some a => if a ≤ maxExactInt ∧ ¬(neg = true ∧ a = 0) then some (if neg then -a else a) else none
  | none => none

mutual

/-- `valueInterface`: the `interface{}` the decoder stores for a JSON value.  An array becomes a
`[]interface{}` and an object a `map[string]interface{}` written member by member, so that a
repeated key keeps its last value. -/
def toValue : Json → Option Value
  | .null => some .null
  | .bool b => some (.bool b)
  | .num neg m e => (numberValue neg m e).map .num
  | .str s => some (.str s)
  | .arr xs => (listToValue xs).map .list
  | .obj ms => (membersToValue [] ms).map .map

/-- `arrayInterface`: the elements in order. -/
def listToValue : List Json → Option (List Value)
  | [] => some []
  | x :: xs =>
    match toValue x, listToValue xs with
    | some v, some vs => some (v :: vs)
    | _, _ => none

/-- `objectInterface`: the members written into the map `m` in order. -/
def membersToValue (m : GoMap) : List (String × Json) → Option GoMap
  | [] => some m
  | (k, x) :: ms =>
    match toValue x with
    | some v => membersToValue (m.set k v) ms
    | none => none

end

/-- `json.Unmarshal` of a text into an `interface{}`. -/
def unmarshalValue (s : String) : Option Value := (parse s).bind toValue

/-- `json.Unmarshal` into a `map[string]interface{}` that starts `nil`: an object's members,
written in order, or `nil` for `null`.  `none` when `json.Unmarshal` returns an error (any other
value is an `UnmarshalTypeError`); `none` also where `json.Unmarshal` succeeds with a `float64`
that no `Value` holds (a fraction, `-0`, a magnitude above `2^53`), so what is said of it speaks
of the texts whose numbers all have a reading. -/
def unmarshalMap (s : String) : Option GoMap :=
  match parse s with
  | some (.obj ms) => membersToValue [] ms
  | some .null => some []
  | _ => none

end Json

mutual

/-- The JSON value whose text is `v.toJson`. -/
def Value.asJson : Value → Json
  | .null => .null
  | .bool b => .bool b
  | .num n => .num (decide (n < 0)) n.natAbs 0
  | .str s => .str s
  | .list xs => .arr (Value.listAsJson xs)
  | .map m => .obj (Value.fieldsAsJson m)

/-- The JSON values of the elements of a list. -/
def Value.listAsJson : List Value → List Json
  | [] => []
  | x :: xs => x.asJson :: Value.listAsJson xs

/-- The JSON members of a map. -/
def Value.fieldsAsJson : List (String × Value) → List (String × Json)
  | [] => []
  | (k, v) :: m => (k, v.asJson) :: Value.fieldsAsJson m

end

/-- The values whose JSON text `encoding/json` reads back as they are, with at most `d` arrays
and maps nested in one another: numbers of magnitude at most `2^53`, which a `float64` holds
exactly, and maps whose keys are distinct. -/
inductive Value.Decodable : ℕ → Value → Prop
  | null {d : ℕ} : Value.Decodable d .null
  | bool {d : ℕ} (b : Bool) : Value.Decodable d (.bool b)
  | num {d : ℕ} {n : ℤ} (h : n.natAbs ≤ Json.maxExactInt) : Value.Decodable d (.num n)
  | str {d : ℕ} (s : String) : Value.Decodable d (.str s)
  | list {d : ℕ} {xs : List Value} (h : ∀ x ∈ xs, Value.Decodable d x) :
      Value.Decodable (d + 1) (.list xs)
  | map {d : ℕ} {m : GoMap} (hk : (m.map Prod.fst).Nodup) (h : ∀ kv ∈ m, Value.Decodable d kv.2) :
      Value.Decodable (d + 1) (.map m)

/-- Writing a key a map does not have appends it. -/
theorem GoMap.set_eq_append {m : GoMap} {k : String} (v : Value) (h : k ∉ m.map Prod.fst) :
    m.set k v = m ++ [(k, v)] := by
  induction m with
  | nil => rfl
  | cons e m ih =>
    obtain ⟨k', w⟩ := e
    simp only [List.map_cons, List.mem_cons, not_or] at h
    simp [GoMap.set, Ne.symm h.1, ih h.2]

namespace Json

/-! ### Reading back what `encoding/json` writes: strings -/

theorem hexValue_hexDigit {d : ℕ} (h : d < 16) : hexValue (hexDigit d) = some d := by
  interval_cases d <;> decide

theorem hex4_hexDigits {n : ℕ} (h : n < 0x10000) :
    hex4 (hexDigit (n / 4096 % 16)) (hexDigit (n / 256 % 16)) (hexDigit (n / 16 % 16))
      (hexDigit (n % 16)) = some n := by
  simp only [hex4, hexValue_hexDigit (Nat.mod_lt _ (by norm_num : 16 > 0)), Option.pure_def,
    Option.bind_eq_bind, Option.some_bind]
  congr 1
  omega

/-- A `\u` escape of a character that is no surrogate decodes to it, whatever follows. -/
theorem stringBody_unit {a b c d : Char} {r : ℕ} (hr : hex4 a b c d = some r)
    (hs : isSurrogate r = false) (rest : List Char) :
    stringBody ('\\' :: 'u' :: a :: b :: c :: d :: rest) =
      (stringBody rest).map fun (s, t) => (unitChar r :: s, t) := by
  rw [stringBody, hr]
  dsimp only
  split
  · split <;> simp [hs]
  · rfl

theorem stringBody_short {e c : Char} (he : shortEscape e = some c) (hu : e ≠ 'u')
    (rest : List Char) :
    stringBody ('\\' :: e :: rest) = (stringBody rest).map fun (s, t) => (c :: s, t) := by
  rw [stringBody.eq_def]
  split
  · simp at *
  · next heq => exact absurd (List.cons.inj (List.cons.inj heq).2).1 hu
  · next heq =>
    obtain ⟨rfl, rfl⟩ := heq
    rw [he]
  · next hne heq =>
    obtain ⟨rfl, rfl⟩ := heq
    exact absurd rfl (hne e _ rfl)

theorem stringBody_plain {c : Char} (hq : c ≠ '"') (hb : c ≠ '\\') (hc : 0x20 ≤ c.toNat)
    (rest : List Char) :
    stringBody (c :: rest) = (stringBody rest).map fun (s, t) => (c :: s, t) := by
  rw [stringBody.eq_def]
  split
  · simp at *
  · next heq => exact absurd (List.cons.inj heq).1 hb
  · next heq => exact absurd (List.cons.inj heq).1 hb
  · next heq =>
    obtain ⟨rfl, rfl⟩ := heq
    simp [hq, hb, Nat.not_lt.mpr hc]

theorem stringBody_quote (rest : List Char) : stringBody ('"' :: rest) = some ([], rest) := rfl

/-- Every character decodes from what `escapeChar` writes for it, whatever follows. -/
theorem stringBody_escapeChar (c : Char) (rest : List Char) :
    stringBody (escapeChar c ++ rest) = (stringBody rest).map fun (s, t) => (c :: s, t) := by
  unfold escapeChar
  split_ifs with h1 h2 h3 h4 h5 h6
  · subst h1; exact stringBody_short (by decide) (by decide) rest
  · subst h2; exact stringBody_short (by decide) (by decide) rest
  · subst h3; exact stringBody_short (by decide) (by decide) rest
  · subst h4; exact stringBody_short (by decide) (by decide) rest
  · subst h5; exact stringBody_short (by decide) (by decide) rest
  · have hlow : c.toNat < 0xD800 := by
      rcases h6 with h | rfl | rfl | rfl | h | h <;> first | omega | decide
    have hlt : c.toNat < 0x10000 := by omega
    have hsur : isSurrogate c.toNat = false := by simp [isSurrogate, hlow]
    rw [List.cons_append, List.cons_append, List.cons_append, List.cons_append, List.cons_append,
      List.cons_append, List.nil_append, stringBody_unit (hex4_hexDigits hlt) hsur]
    simp [unitChar, hsur]
  · have hc : 0x20 ≤ c.toNat := by omega
    exact stringBody_plain h1 h2 hc rest

/-- The decoded characters of `s`'s escaped form, closed by a quote. -/
theorem stringBody_escaped (s rest : List Char) :
    stringBody (s.flatMap escapeChar ++ '"' :: rest) = some (s, rest) := by
  induction s with
  | nil => exact stringBody_quote rest
  | cons c s ih => rw [List.flatMap_cons, List.append_assoc, stringBody_escapeChar, ih]; rfl

/-! ### Numbers -/

/-- What may follow a value in the text `encoding/json` writes: the end, a comma or a closing
bracket. -/
def IsEnd : List Char → Prop
  | [] => True
  | c :: _ => c = ',' ∨ c = ']' ∨ c = '\x7d'

theorem digitChar_spec {k : ℕ} (h : k < 10) :
    (Nat.digitChar k).isDigit = true ∧ (Nat.digitChar k).toNat - 48 = k := by
  interval_cases k <;> decide

theorem digitsValue_cons (acc : ℕ) (d : Char) (ds : List Char) :
    digitsValue acc (d :: ds) = digitsValue (10 * acc + (d.toNat - 48)) ds := rfl

theorem isDigit_of_mem_toDigitsCore :
    ∀ (fuel n : ℕ) (ds : List Char), (∀ c ∈ ds, c.isDigit) →
      ∀ c ∈ Nat.toDigitsCore 10 fuel n ds, c.isDigit
  | 0, _, _, h => h
  | fuel + 1, n, ds, h => by
    have hd : ∀ c ∈ Nat.digitChar (n % 10) :: ds, c.isDigit := by
      simp only [List.mem_cons, forall_eq_or_imp]
      exact ⟨(digitChar_spec (Nat.mod_lt n (by norm_num))).1, h⟩
    simp only [Nat.toDigitsCore]
    split
    · exact hd
    · exact isDigit_of_mem_toDigitsCore fuel _ _ hd

theorem digitsValue_toDigitsCore :
    ∀ (fuel n : ℕ) (ds : List Char), n < fuel →
      digitsValue 0 (Nat.toDigitsCore 10 fuel n ds) = digitsValue n ds
  | 0, _, _, h => absurd h (Nat.not_lt_zero _)
  | fuel + 1, n, ds, h => by
    have hd := (digitChar_spec (Nat.mod_lt n (by norm_num : 10 > 0))).2
    simp only [Nat.toDigitsCore]
    split
    · next h0 => rw [digitsValue_cons, hd]; congr 1; omega
    · next h0 =>
      rw [digitsValue_toDigitsCore fuel _ _ (by omega), digitsValue_cons, hd, Nat.div_add_mod]

theorem toDigitsCore_head :
    ∀ (fuel n : ℕ) (ds : List Char), n ≠ 0 → n < fuel →
      ∃ c t, Nat.toDigitsCore 10 fuel n ds = c :: t ∧ c ≠ '0'
  | 0, _, _, _, h => absurd h (Nat.not_lt_zero _)
  | fuel + 1, n, ds, hn, h => by
    simp only [Nat.toDigitsCore]
    split
    · next h0 =>
      refine ⟨_, ds, rfl, fun hc => hn ?_⟩
      have := (digitChar_spec (Nat.mod_lt n (by norm_num : 10 > 0))).2
      rw [hc, show '0'.toNat = 48 from rfl] at this
      omega
    · next h0 => exact toDigitsCore_head fuel _ _ h0 (by omega)

/-- The text of an integer: a minus sign when it is negative, then the decimal digits of its
magnitude. -/
theorem toString_data (n : ℤ) :
    (toString n).data = (if n < 0 then ['-'] else []) ++ Nat.toDigits 10 n.natAbs := by
  rcases n with m | m
  · simp only [Int.ofNat_eq_coe, Int.natAbs_ofNat]
    rw [if_neg (by omega)]
    rfl
  · rw [if_pos (Int.negSucc_lt_zero m)]
    rfl

theorem digitRun_append {ds rest : List Char} (hne : ds ≠ []) (hd : ∀ c ∈ ds, c.isDigit)
    (hr : IsEnd rest) : digitRun (ds ++ rest) = some (ds, rest) := by
  have hrest : rest.takeWhile Char.isDigit = [] ∧ rest.dropWhile Char.isDigit = rest := by
    rcases rest with _ | ⟨c, rest⟩
    · exact ⟨rfl, rfl⟩
    · rcases hr with rfl | rfl | rfl <;> exact ⟨rfl, rfl⟩
  obtain ⟨c, t, rfl⟩ := List.exists_cons_of_ne_nil hne
  rw [digitRun, List.span_eq_take_drop, List.takeWhile_append_of_pos hd,
    List.dropWhile_append_of_pos hd, hrest.1, hrest.2, List.append_nil]

theorem fraction_of_isEnd {rest : List Char} (hr : IsEnd rest) : fraction rest = some ([], rest) := by
  rcases rest with _ | ⟨c, rest⟩
  · rfl
  · rcases hr with rfl | rfl | rfl <;> rfl

theorem exponentPart_of_isEnd {rest : List Char} (hr : IsEnd rest) :
    exponentPart rest = some (0, rest) := by
  rcases rest with _ | ⟨c, rest⟩
  · rfl
  · rcases hr with rfl | rfl | rfl <;> rfl

/-- An integer's text reads back as its sign and magnitude, whatever may follow a value. -/
theorem numberLiteral_toString (n : ℤ) {rest : List Char} (hr : IsEnd rest) :
    numberLiteral ((toString n).data ++ rest) = some (.num (decide (n < 0)) n.natAbs 0, rest) := by
  have hdig : ∀ c ∈ Nat.toDigits 10 n.natAbs, c.isDigit :=
    isDigit_of_mem_toDigitsCore _ _ [] (fun _ h => nomatch h)
  have hval : digitsValue 0 (Nat.toDigits 10 n.natAbs) = n.natAbs :=
    (digitsValue_toDigitsCore _ _ _ (Nat.lt_succ_self _)).trans rfl
  have hint : integerPart (Nat.toDigits 10 n.natAbs ++ rest) =
      some (Nat.toDigits 10 n.natAbs, rest) := by
    by_cases h0 : n.natAbs = 0
    · rw [h0]; rfl
    obtain ⟨c, t, hct, hc⟩ := toDigitsCore_head _ _ [] h0 (Nat.lt_succ_self _)
    rw [Nat.toDigits, hct, List.cons_append, integerPart.eq_def]
    split
    · next heq => exact absurd (List.cons.inj heq).1 hc
    · rw [← List.cons_append, ← hct]
      exact digitRun_append (toDigitsCore_ne_nil 10 _ _ _) hdig hr
  have hsign : sign (Nat.toDigits 10 n.natAbs ++ rest) = (false, Nat.toDigits 10 n.natAbs ++ rest) := by
    obtain ⟨c, t, hct⟩ := List.exists_cons_of_ne_nil (toDigitsCore_ne_nil 10 n.natAbs n.natAbs [])
    have hc : c.isDigit := hdig c (by rw [Nat.toDigits, hct]; exact List.mem_cons_self _ _)
    rw [Nat.toDigits, hct, List.cons_append, sign.eq_def]
    split
    · next heq => rw [(List.cons.inj heq).1] at hc; exact absurd hc (by decide)
    · rfl
  rw [toString_data]
  by_cases hn : n < 0
  · simp [numberLiteral, sign, hint, fraction_of_isEnd hr, exponentPart_of_isEnd hr, hval, hn]
  · simp [numberLiteral, hsign, hint, fraction_of_isEnd hr, exponentPart_of_isEnd hr, hval, hn]

/-! ### One step of the parser -/

theorem skipSpace_cons {c : Char} (h : isSpace c = false) (cs : List Char) :
    skipSpace (c :: cs) = c :: cs :=
  List.dropWhile_cons_of_neg (by simp [h])

theorem parseValue_quote (fuel depth : ℕ) (cs : List Char) :
    parseValue (fuel + 1) depth ('"' :: cs) =
      (stringBody cs).map fun (s, t) => (.str (String.mk s), t) := by
  rw [parseValue, skipSpace_cons (by decide)]
  rfl

theorem parseValue_emptyArray {depth : ℕ} (h : depth < maxNestingDepth) (fuel : ℕ)
    (cs : List Char) : parseValue (fuel + 1) depth ('[' :: ']' :: cs) = some (.arr [], cs) := by
  rw [parseValue, skipSpace_cons (by decide)]
  simp [h, skipSpace_cons (by decide : isSpace ']' = false)]

theorem parseValue_array {depth : ℕ} (h : depth < maxNestingDepth) (fuel : ℕ) {c : Char}
    (hc : isSpace c = false) (hb : c ≠ ']') (cs : List Char) :
    parseValue (fuel + 1) depth ('[' :: c :: cs) =
      (parseElements fuel (depth + 1) (c :: cs)).map fun (xs, t) => (.arr xs, t) := by
  rw [parseValue, skipSpace_cons (by decide)]
  simp only [if_neg (by decide : ('[' : Char) ≠ '"'), if_pos, h, skipSpace_cons hc]
  split
  · next heq => exact absurd (List.cons.inj heq).1 hb
  · rfl

theorem parseValue_emptyObject {depth : ℕ} (h : depth < maxNestingDepth) (fuel : ℕ)
    (cs : List Char) :
    parseValue (fuel + 1) depth ('\x7b' :: '\x7d' :: cs) = some (.obj [], cs) := by
  rw [parseValue, skipSpace_cons (by decide)]
  simp [h, skipSpace_cons (by decide : isSpace '\x7d' = false)]

theorem parseValue_object {depth : ℕ} (h : depth < maxNestingDepth) (fuel : ℕ) (cs : List Char) :
    parseValue (fuel + 1) depth ('\x7b' :: '"' :: cs) =
      (parseMembers fuel (depth + 1) ('"' :: cs)).map fun (ms, t) => (.obj ms, t) := by
  rw [parseValue, skipSpace_cons (by decide)]
  simp [h, skipSpace_cons (by decide : isSpace '"' = false)]

theorem parseValue_scalar {c : Char} (hc : isSpace c = false) (hq : c ≠ '"') (hb : c ≠ '[')
    (ho : c ≠ '\x7b') (fuel depth : ℕ) (cs : List Char) :
    parseValue (fuel + 1) depth (c :: cs) = scalar (c :: cs) := by
  rw [parseValue, skipSpace_cons hc]
  simp [hq, hb, ho]

theorem parseElements_comma {fuel depth : ℕ} {cs t : List Char} {x : Json}
    (hx : parseValue fuel depth cs = some (x, ',' :: t)) :
    parseElements (fuel + 1) depth cs =
      (parseElements fuel depth t).map fun (xs, t) => (x :: xs, t) := by
  rw [parseElements, hx]
  simp [skipSpace_cons (by decide : isSpace ',' = false)]

theorem parseElements_close {fuel depth : ℕ} {cs t : List Char} {x : Json}
    (hx : parseValue fuel depth cs = some (x, ']' :: t)) :
    parseElements (fuel + 1) depth cs = some ([x], t) := by
  rw [parseElements, hx]
  simp [skipSpace_cons (by decide : isSpace ']' = false)]

theorem parseMembers_comma {fuel depth : ℕ} {cs r t : List Char} {key : List Char} {x : Json}
    (hk : stringBody cs = some (key, ':' :: r)) (hx : parseValue fuel depth r = some (x, ',' :: t)) :
    parseMembers (fuel + 1) depth ('"' :: cs) =
      (parseMembers fuel depth t).map fun (ms, t) => ((String.mk key, x) :: ms, t) := by
  rw [parseMembers, skipSpace_cons (by decide)]
  simp [hk, hx, skipSpace_cons (by decide : isSpace ':' = false),
    skipSpace_cons (by decide : isSpace ',' = false)]

theorem parseMembers_close {fuel depth : ℕ} {cs r t : List Char} {key : List Char} {x : Json}
    (hk : stringBody cs = some (key, ':' :: r))
    (hx : parseValue fuel depth r = some (x, '\x7d' :: t)) :
    parseMembers (fuel + 1) depth ('"' :: cs) = some ([(String.mk key, x)], t) := by
  rw [parseMembers, skipSpace_cons (by decide)]
  simp [hk, hx, skipSpace_cons (by decide : isSpace ':' = false),
    skipSpace_cons (by decide : isSpace '\x7d' = false)]

/-! ### Reading back what `encoding/json` writes: values -/

theorem toString_head (n : ℤ) : ∃ c t, (toString n).data = c :: t ∧ (c = '-' ∨ c.isDigit) := by
  rw [toString_data]
  split_ifs
  · exact ⟨'-', _, rfl, Or.inl rfl⟩
  · obtain ⟨c, t, hct⟩ := List.exists_cons_of_ne_nil (toDigitsCore_ne_nil 10 n.natAbs n.natAbs [])
    refine ⟨c, t, by rw [List.nil_append, Nat.toDigits, hct], Or.inr ?_⟩
    exact isDigit_of_mem_toDigitsCore _ _ [] (fun _ h => nomatch h) c (by
      rw [hct]; exact List.mem_cons_self _ _)

theorem ne_of_isDigit {c d : Char} (hc : c.isDigit) (hd : d.isDigit = false) : c ≠ d := by
  rintro rfl
  rw [hc] at hd
  exact Bool.noConfusion hd

/-- The first character of a number is no whitespace and opens nothing else. -/
theorem numberStart {c : Char} (h : c = '-' ∨ c.isDigit) :
    isSpace c = false ∧ c ≠ '"' ∧ c ≠ '[' ∧ c ≠ '\x7b' ∧ c ≠ ']' ∧ c ≠ 'n' ∧ c ≠ 't' ∧
      c ≠ 'f' := by
  rcases h with rfl | h
  · decide
  · have hne : ∀ d : Char, d.isDigit = false → c ≠ d := fun _ => ne_of_isDigit h
    refine ⟨?_, hne _ (by decide), hne _ (by decide), hne _ (by decide), hne _ (by decide),
      hne _ (by decide), hne _ (by decide), hne _ (by decide)⟩
    simp only [isSpace, Bool.or_eq_false_iff, decide_eq_false_iff_not]
    exact ⟨⟨⟨hne _ (by decide), hne _ (by decide)⟩, hne _ (by decide)⟩, hne _ (by decide)⟩

theorem scalar_of_ne {c : Char} (hn : c ≠ 'n') (ht : c ≠ 't') (hf : c ≠ 'f') (cs : List Char) :
    scalar (c :: cs) = numberLiteral (c :: cs) := by
  simp [scalar, List.isPrefixOf, Ne.symm hn, Ne.symm ht, Ne.symm hf]

theorem parseValue_toString (n : ℤ) {fuel depth : ℕ} {rest : List Char} (hr : IsEnd rest) :
    parseValue (fuel + 1) depth ((toString n).data ++ rest) =
      some (.num (decide (n < 0)) n.natAbs 0, rest) := by
  obtain ⟨c, t, hct, hc⟩ := toString_head n
  obtain ⟨hs, hq, hb, ho, -, hn, ht, hf⟩ := numberStart hc
  rw [hct, List.cons_append, parseValue_scalar hs hq hb ho, scalar_of_ne hn ht hf,
    ← List.cons_append, ← hct, numberLiteral_toString n hr]

/-- The first character of a value's text is no whitespace and does not close an array. -/
theorem toJson_head (v : Value) :
    ∃ c t, v.toJson.data = c :: t ∧ isSpace c = false ∧ c ≠ ']' := by
  rcases v with _ | b | n | s | xs | m
  · exact ⟨'n', _, rfl, by decide, by decide⟩
  · cases b
    · exact ⟨'f', _, rfl, by decide, by decide⟩
    · exact ⟨'t', _, rfl, by decide, by decide⟩
  · obtain ⟨c, t, hct, hc⟩ := toString_head n
    exact ⟨c, t, hct, (numberStart hc).1, (numberStart hc).2.2.2.2.1⟩
  · exact ⟨'"', _, rfl, by decide, by decide⟩
  · exact ⟨'[', _, rfl, by decide, by decide⟩
  · exact ⟨'\x7b', _, rfl, by decide, by decide⟩

theorem listToJson_head (x : Value) (xs : List Value) :
    ∃ c t, (Value.listToJson (x :: xs)).data = c :: t ∧ isSpace c = false ∧ c ≠ ']' := by
  obtain ⟨c, t, hct, h⟩ := toJson_head x
  cases xs with
  | nil => exact ⟨c, t, by simp [Value.listToJson, hct], h⟩
  | cons y ys =>
    exact ⟨c, t ++ ',' :: (Value.listToJson (y :: ys)).data,
      by simp [Value.listToJson, String.data_append, hct], h⟩

theorem fieldsToJson_head (kv : String × Value) (m : GoMap) :
    ∃ t, (Value.fieldsToJson (kv :: m)).data = '"' :: t := by
  rcases m with _ | ⟨kv2, m⟩ <;> exact ⟨_, rfl⟩

theorem length_list_toJson (xs : List Value) :
    (Value.list xs).toJson.length = (Value.listToJson xs).length + 2 := by
  simp only [Value.toJson, String.length_append, show "[".length = 1 from rfl,
    show "]".length = 1 from rfl]
  omega

theorem length_map_toJson (m : GoMap) :
    (Value.map m).toJson.length = (Value.fieldsToJson m).length + 2 := by
  simp only [Value.toJson, String.length_append, show "\x7b".length = 1 from rfl,
    show "\x7d".length = 1 from rfl]
  omega

mutual

/-- **A value's JSON text parses back to the value**, whatever may follow a value, given one
unit of fuel per character and no more nesting than the scanner allows. -/
theorem parseValue_toJson : ∀ (v : Value) {fuel depth d : ℕ} {rest : List Char},
    v.Decodable d → depth + d ≤ maxNestingDepth → v.toJson.length < fuel → IsEnd rest →
    parseValue fuel depth (v.toJson.data ++ rest) = some (v.asJson, rest)
  | _, 0, _, _, _, _, _, hf, _ => absurd hf (Nat.not_lt_zero _)
  | .null, fuel + 1, _, _, _, _, _, _, _ => by
    rw [show Value.null.toJson.data = ['n', 'u', 'l', 'l'] from rfl, List.cons_append,
      parseValue_scalar (by decide) (by decide) (by decide) (by decide)]
    simp [scalar, List.isPrefixOf, Value.asJson]
  | .bool true, fuel + 1, _, _, _, _, _, _, _ => by
    rw [show (Value.bool true).toJson.data = ['t', 'r', 'u', 'e'] from rfl, List.cons_append,
      parseValue_scalar (by decide) (by decide) (by decide) (by decide)]
    simp [scalar, List.isPrefixOf, Value.asJson]
  | .bool false, fuel + 1, _, _, _, _, _, _, _ => by
    rw [show (Value.bool false).toJson.data = ['f', 'a', 'l', 's', 'e'] from rfl,
      List.cons_append, parseValue_scalar (by decide) (by decide) (by decide) (by decide)]
    simp [scalar, List.isPrefixOf, Value.asJson]
  | .num n, fuel + 1, _, _, _, _, _, _, hr => parseValue_toString n hr
  | .str s, fuel + 1, _, _, rest, _, _, _, _ => by
    rw [show (Value.str s).toJson.data ++ rest = '"' :: (s.data.flatMap escapeChar ++ '"' :: rest)
      by simp [Value.toJson, jsonString], parseValue_quote, stringBody_escaped]
    rfl
  | .list [], fuel + 1, _, _, rest, .list _, hd, _, _ => by
    rw [show (Value.list []).toJson.data ++ rest = '[' :: ']' :: rest from rfl,
      parseValue_emptyArray (by unfold maxNestingDepth at *; omega)]
    rfl
  | .list (x :: xs), fuel + 1, _, _, rest, .list hxs, hd, hf, _ => by
    obtain ⟨c, t, hct, hs, hb⟩ := listToJson_head x xs
    rw [length_list_toJson] at hf
    rw [show (Value.list (x :: xs)).toJson.data ++ rest =
        '[' :: ((Value.listToJson (x :: xs)).data ++ ']' :: rest) by simp [Value.toJson],
      hct, List.cons_append, parseValue_array (by unfold maxNestingDepth at *; omega) fuel hs hb,
      ← List.cons_append, ← hct,
      parseElements_listToJson (x :: xs) (List.cons_ne_nil _ _) hxs (by omega) (by omega)]
    rfl
  | .map [], fuel + 1, _, _, rest, .map _ _, hd, _, _ => by
    rw [show (Value.map []).toJson.data ++ rest = '\x7b' :: '\x7d' :: rest from rfl,
      parseValue_emptyObject (by unfold maxNestingDepth at *; omega)]
    rfl
  | .map (kv :: m), fuel + 1, _, _, rest, .map _ hm, hd, hf, _ => by
    obtain ⟨t, ht⟩ := fieldsToJson_head kv m
    rw [length_map_toJson] at hf
    rw [show (Value.map (kv :: m)).toJson.data ++ rest =
        '\x7b' :: ((Value.fieldsToJson (kv :: m)).data ++ '\x7d' :: rest) by simp [Value.toJson],
      ht, List.cons_append, parseValue_object (by unfold maxNestingDepth at *; omega),
      ← List.cons_append, ← ht,
      parseMembers_fieldsToJson (kv :: m) (List.cons_ne_nil _ _) hm (by omega) (by omega)]
    rfl

/-- The elements of a non-empty list, then the closing bracket, parse back to the list. -/
theorem parseElements_listToJson : ∀ (xs : List Value) {fuel depth d : ℕ} {rest : List Char},
    xs ≠ [] → (∀ x ∈ xs, x.Decodable d) → depth + d ≤ maxNestingDepth →
    (Value.listToJson xs).length + 1 < fuel →
    parseElements fuel depth ((Value.listToJson xs).data ++ ']' :: rest) =
      some (Value.listAsJson xs, rest)
  | [], _, _, _, _, hne, _, _, _ => absurd rfl hne
  | _ :: _, 0, _, _, _, _, _, _, hf => absurd hf (Nat.not_lt_zero _)
  | [x], fuel + 1, _, _, _, _, hxs, hd, hf => by
    rw [show Value.listToJson [x] = x.toJson by simp [Value.listToJson]] at hf ⊢
    rw [parseElements_close (parseValue_toJson x (hxs x (List.mem_singleton_self x)) hd
      (by omega) (Or.inr (Or.inl rfl)))]
    rfl
  | x :: y :: ys, fuel + 1, _, _, rest, _, hxs, hd, hf => by
    have hlen : (Value.listToJson (x :: y :: ys)).length =
        x.toJson.length + 1 + (Value.listToJson (y :: ys)).length := by
      simp only [Value.listToJson, String.length_append, show ",".length = 1 from rfl]
    rw [show (Value.listToJson (x :: y :: ys)).data ++ ']' :: rest =
        x.toJson.data ++ ',' :: ((Value.listToJson (y :: ys)).data ++ ']' :: rest)
        by simp [Value.listToJson],
      parseElements_comma (parseValue_toJson x (hxs x (List.mem_cons_self _ _)) hd (by omega)
        (Or.inl rfl)),
      parseElements_listToJson (y :: ys) (List.cons_ne_nil _ _)
        (fun z hz => hxs z (List.mem_cons_of_mem _ hz)) hd (by omega)]
    rfl

/-- The members of a non-empty map, then the closing brace, parse back to the map's members. -/
theorem parseMembers_fieldsToJson : ∀ (m : GoMap) {fuel depth d : ℕ} {rest : List Char},
    m ≠ [] → (∀ kv ∈ m, kv.2.Decodable d) → depth + d ≤ maxNestingDepth →
    (Value.fieldsToJson m).length + 1 < fuel →
    parseMembers fuel depth ((Value.fieldsToJson m).data ++ '\x7d' :: rest) =
      some (Value.fieldsAsJson m, rest)
  | [], _, _, _, _, hne, _, _, _ => absurd rfl hne
  | _ :: _, 0, _, _, _, _, _, _, hf => absurd hf (Nat.not_lt_zero _)
  | [(k, v)], fuel + 1, _, _, rest, _, hm, hd, hf => by
    have hlen : (Value.fieldsToJson [(k, v)]).length = (jsonString k).length + 1 + v.toJson.length := by
      simp only [Value.fieldsToJson, String.length_append, show ":".length = 1 from rfl]
    rw [show (Value.fieldsToJson [(k, v)]).data ++ '\x7d' :: rest =
        '"' :: (k.data.flatMap escapeChar ++ '"' :: ':' :: (v.toJson.data ++ '\x7d' :: rest))
        by simp [Value.fieldsToJson, jsonString],
      parseMembers_close (stringBody_escaped _ _) (parseValue_toJson v (hm _ (List.mem_singleton_self _))
        hd (by omega) (Or.inr (Or.inr rfl)))]
    rfl
  | (k, v) :: kv2 :: m, fuel + 1, _, _, rest, _, hm, hd, hf => by
    have hlen : (Value.fieldsToJson ((k, v) :: kv2 :: m)).length =
        (jsonString k).length + 1 + v.toJson.length + 1 + (Value.fieldsToJson (kv2 :: m)).length := by
      simp only [Value.fieldsToJson, String.length_append, show ":".length = 1 from rfl,
        show ",".length = 1 from rfl]
    rw [show (Value.fieldsToJson ((k, v) :: kv2 :: m)).data ++ '\x7d' :: rest =
        '"' :: (k.data.flatMap escapeChar ++ '"' :: ':' :: (v.toJson.data ++ ',' ::
          ((Value.fieldsToJson (kv2 :: m)).data ++ '\x7d' :: rest)))
        by simp [Value.fieldsToJson, jsonString],
      parseMembers_comma (stringBody_escaped _ _) (parseValue_toJson v (hm _ (List.mem_cons_self _ _))
        hd (by omega) (Or.inl rfl)),
      parseMembers_fieldsToJson (kv2 :: m) (List.cons_ne_nil _ _)
        (fun z hz => hm z (List.mem_cons_of_mem _ hz)) hd (by omega)]
    rfl

end

/-- A value's JSON text is accepted and parses to the value. -/
theorem parse_toJson {v : Value} (hv : v.Decodable maxNestingDepth) :
    parse v.toJson = some v.asJson := by
  rw [parse, ← List.append_nil v.toJson.data,
    parseValue_toJson v hv (Nat.zero_add _).le (Nat.lt_succ_self _) (show IsEnd [] from trivial)]
  rfl

/-! ### Storing back into `interface{}` -/

theorem numberValue_of_natAbs_le {n : ℤ} (h : n.natAbs ≤ maxExactInt) :
    numberValue (decide (n < 0)) n.natAbs 0 = some n := by
  have hw : wholeValue n.natAbs 0 = some n.natAbs := by
    rw [wholeValue, if_pos le_rfl, show Nat.pow 10 (0 : ℤ).toNat = 1 from rfl, Nat.mul_one]
  rw [numberValue, hw]
  dsimp only
  by_cases hn : n < 0
  · rw [if_pos ⟨h, fun h0 => by omega⟩, decide_eq_true hn, if_pos rfl,
      Int.ofNat_natAbs_of_nonpos hn.le, neg_neg]
  · rw [if_pos ⟨h, fun h0 => absurd (of_decide_eq_true h0.1) hn⟩, decide_eq_false hn,
      if_neg Bool.false_ne_true, Int.natAbs_of_nonneg (Int.not_lt.1 hn)]

mutual

/-- A decodable value's JSON stores back into the value. -/
theorem toValue_asJson : ∀ (v : Value) {d : ℕ}, v.Decodable d → v.asJson.toValue = some v
  | .null, _, _ => rfl
  | .bool _, _, _ => rfl
  | .num n, _, .num h => by
    rw [Value.asJson, toValue, numberValue_of_natAbs_le h]
    rfl
  | .str _, _, _ => rfl
  | .list xs, _, .list h => by
    rw [Value.asJson, toValue, listToValue_listAsJson xs h]
    rfl
  | .map m, _, .map hk h => by
    rw [Value.asJson, toValue, membersToValue_fieldsAsJson m [] (by simpa using hk) h]
    rfl

theorem listToValue_listAsJson : ∀ (xs : List Value) {d : ℕ}, (∀ x ∈ xs, x.Decodable d) →
    listToValue (Value.listAsJson xs) = some xs
  | [], _, _ => rfl
  | x :: xs, _, h => by
    rw [Value.listAsJson, listToValue, toValue_asJson x (h x (List.mem_cons_self _ _)),
      listToValue_listAsJson xs (fun y hy => h y (List.mem_cons_of_mem _ hy))]

/-- Writing the members of a map with distinct keys into a map without them appends them. -/
theorem membersToValue_fieldsAsJson : ∀ (m acc : GoMap) {d : ℕ},
    ((acc ++ m).map Prod.fst).Nodup → (∀ kv ∈ m, kv.2.Decodable d) →
    membersToValue acc (Value.fieldsAsJson m) = some (acc ++ m)
  | [], acc, _, _, _ => by rw [List.append_nil]; rfl
  | (k, v) :: m, acc, _, hk, h => by
    have hnot : k ∉ acc.map Prod.fst := by
      intro hmem
      simp only [List.map_append, List.map_cons] at hk
      exact (List.nodup_append.1 hk).2.2 hmem (List.mem_cons_self _ _)
    rw [Value.fieldsAsJson, membersToValue, toValue_asJson v (h _ (List.mem_cons_self _ _))]
    dsimp only
    rw [GoMap.set_eq_append v hnot,
      membersToValue_fieldsAsJson m (acc ++ [(k, v)]) (by simpa using hk)
        (fun kv hkv => h kv (List.mem_cons_of_mem _ hkv)), List.append_assoc]
    rfl

end

/-- **`json.Unmarshal` into an `interface{}` reads back what `json.Marshal` writes** for every
value with integral numbers of magnitude at most `2^53`, maps with distinct keys and at most
`maxNestingDepth` arrays and maps nested in one another. -/
theorem unmarshalValue_toJson {v : Value} (hv : v.Decodable maxNestingDepth) :
    unmarshalValue v.toJson = some v := by
  rw [unmarshalValue, parse_toJson hv, Option.some_bind, toValue_asJson v hv]

/-- A map's JSON text decodes into a `map[string]interface{}` holding the map. -/
theorem unmarshalMap_toJson {m : GoMap} (hm : (Value.map m).Decodable maxNestingDepth) :
    unmarshalMap (Value.map m).toJson = some m := by
  rw [unmarshalMap, parse_toJson hm]
  cases hm with
  | map hk h => exact membersToValue_fieldsAsJson m [] (by simpa using hk) h

/-- Variables with a negative number, a string that needs escapes and a nested list. -/
def sampleVariables : Value :=
  .map [("count", .num (-42)), ("note", .str "a\"<b>\n"), ("tags", .list [.bool true, .null])]

theorem sampleVariables_decodable : sampleVariables.Decodable maxNestingDepth := by
  refine Value.Decodable.map (d := 9999) (by decide) ?_
  simp only [List.mem_cons, List.mem_singleton, List.not_mem_nil, or_false]
  rintro kv (rfl | rfl | rfl)
  · exact .num (by decide)
  · exact .str _
  · refine Value.Decodable.list (d := 9998) ?_
    simp only [List.mem_cons, List.mem_singleton, List.not_mem_nil, or_false]
    rintro x (rfl | rfl)
    · exact .bool true
    · exact .null

theorem unmarshalValue_toJson_at_sample :
    sampleVariables.Decodable maxNestingDepth ∧
      unmarshalValue sampleVariables.toJson = some sampleVariables :=
  ⟨sampleVariables_decodable, unmarshalValue_toJson sampleVariables_decodable⟩

end Json

end AtomEngine
