/-
**Substring search on byte strings.**

`isJobCallback` routes the messages of the jobs response channel by looking for fixed substrings,
with a hand-written search `findInString` and the test `contains` built on it.  Go strings are byte
strings: `len`, indexing and slicing count bytes.  This module models a Go string as the list of
its bytes, the two functions on lists of any type with decidable equality, and shows that
`findInString` returns the least index of an occurrence, or `-1` when there is none, so that it
agrees with Go's `strings.Index`, and `contains` with `strings.Contains`.

Main definitions:

* `AtomEngine.goBytes` — the bytes of a Go string holding a text: its UTF-8 encoding;
* `AtomEngine.findInString`, `AtomEngine.contains` — the search and the test;
* `AtomEngine.occursAt` — `substr` occurs in `s` at an index;
* `AtomEngine.SearchResult` — the answer of a search: the least index of an occurrence, or `-1`;
* `AtomEngine.stringsIndex`, `AtomEngine.stringsContains` — `strings.Index` and `strings.Contains`
  as the Go documentation states them.

Main results:

* `AtomEngine.findInString_loop_nonneg` — the loop returns an index as soon as one of the slices
  it compares is the pattern;
* `AtomEngine.contains_of_isInfix` — `contains s substr` holds whenever `substr` occurs in `s`;
* `AtomEngine.goBytes_isInfix` — an occurrence in a text is an occurrence in its bytes;
* `AtomEngine.searchResult_findInString` — `findInString` returns the least index of an occurrence,
  or `-1` when there is none;
* `AtomEngine.findInString_returns_least_index` — `findInString` returns the least occurrence, and
  the two functions agree with the standard library's.
-/

import Mathlib.Data.List.Infix
import Mathlib.Data.Nat.Find

set_option autoImplicit false

namespace AtomEngine

/-- The bytes of a Go string holding the text `s`: its UTF-8 encoding, as `[]byte(s)` gives. -/
def goBytes (s : String) : List UInt8 := s.data.flatMap String.utf8EncodeChar

@[simp] theorem goBytes_append (s t : String) : goBytes (s ++ t) = goBytes s ++ goBytes t := by
  simp [goBytes]

/-- Mapping every element to a list keeps an occurrence an occurrence. -/
theorem isInfix_flatMap {α β : Type} (f : α → List β) {l s : List α} (h : l <:+: s) :
    l.flatMap f <:+: s.flatMap f := by
  obtain ⟨l₁, l₂, rfl⟩ := h
  exact ⟨l₁.flatMap f, l₂.flatMap f, by simp only [List.flatMap_append]⟩

/-- An occurrence of a text in another is an occurrence of its bytes in the other's bytes. -/
theorem goBytes_isInfix {p s : String} (h : p.data <:+: s.data) : goBytes p <:+: goBytes s :=
  isInfix_flatMap _ h

/-! ### Occurrences -/

section

variable {α : Type}

/-- `substr` occurs in `s` at `i`: the slice `s[i:i+len(substr)]` lies inside `s` and equals
`substr`. -/
def occursAt (s substr : List α) (i : ℕ) : Prop :=
  i + substr.length ≤ s.length ∧ (s.drop i).take substr.length = substr

/-- `r` answers a search for `substr` in `s`: it is the least index at which `substr` occurs, or
`-1` when it occurs nowhere. -/
def SearchResult (s substr : List α) (r : Int) : Prop :=
  (∀ i : ℕ, r = i ↔ occursAt s substr i ∧ ∀ j < i, ¬occursAt s substr j) ∧
    (r = -1 ↔ ∀ i, ¬occursAt s substr i)

/-- For a non-empty pattern the bound is implied: a slice equal to `substr` lies inside `s`. -/
theorem occursAt_iff_take {s substr : List α} (hn : substr ≠ []) {i : ℕ} :
    occursAt s substr i ↔ (s.drop i).take substr.length = substr := by
  refine ⟨And.right, fun h => ⟨?_, h⟩⟩
  have hlen := congrArg List.length h
  have hpos : 0 < substr.length := List.length_pos.2 hn
  simp only [List.length_take, List.length_drop] at hlen
  omega

theorem occursAt_zero_iff {s substr : List α} : occursAt s substr 0 ↔ substr <+: s :=
  ⟨fun ⟨_, h⟩ => List.prefix_iff_eq_take.2 (by simpa using h.symm),
    fun h => ⟨by simpa using h.length_le, by simpa using (List.prefix_iff_eq_take.1 h).symm⟩⟩

@[simp] theorem occursAt_cons_succ {c : α} {t substr : List α} {j : ℕ} :
    occursAt (c :: t) substr (j + 1) ↔ occursAt t substr j := by
  simp only [occursAt, List.length_cons, List.drop_succ_cons, Nat.add_right_comm j 1,
    Nat.add_le_add_iff_right]

/-- `substr` occurs in `s` exactly when it occurs at some index. -/
theorem isInfix_iff_exists_occursAt {s substr : List α} :
    substr <:+: s ↔ ∃ i, occursAt s substr i := by
  constructor
  · rintro ⟨l₁, l₂, rfl⟩
    exact ⟨l₁.length, by simp [Nat.add_assoc], by simp [List.append_assoc, List.drop_left]⟩
  · rintro ⟨i, -, h⟩
    refine ⟨s.take i, (s.drop i).drop substr.length, ?_⟩
    conv_rhs => rw [← List.take_append_drop i s, ← List.take_append_drop substr.length (s.drop i)]
    rw [h, List.append_assoc]

end

section

variable {α : Type} [DecidableEq α]

/-- The loop `for i := 0; i <= len(s)-len(substr); i++` of `findInString`, at index `i`, with
`rest = s[i:]` and `k` iterations to go: the first `i` with `s[i:i+len(substr)] == substr`, or
`-1`. -/
def findInString.loop (substr : List α) : ℕ → List α → ℕ → Int
  | _, _, 0 => -1
  | i, rest, k + 1 =>
      if rest.take substr.length = substr then i else findInString.loop substr (i + 1) rest.tail k

/-- `findInString(s, substr)`: the index of the first occurrence of `substr` in `s`, or `-1`. -/
def findInString (s substr : List α) : Int :=
  if substr.length = 0 then 0
  else if s.length < substr.length then -1
  else findInString.loop substr 0 s (s.length - substr.length + 1)

/-- `contains(s, substr)`. -/
def contains (s substr : List α) : Bool :=
  decide (s.length ≥ substr.length) && findInString s substr != -1

/-- The loop returns an index, not `-1`, if the slice at one of the positions it visits is
`substr`. -/
theorem findInString_loop_nonneg (substr : List α) {j k : ℕ} (hj : j < k) :
    ∀ (i : ℕ) (rest : List α), (rest.drop j).take substr.length = substr →
      0 ≤ findInString.loop substr i rest k := by
  induction k generalizing j with
  | zero => omega
  | succ k ih =>
      intro i rest h
      simp only [findInString.loop]
      split
      · omega
      · cases j with
        | zero => simp_all
        | succ j => exact @ih j (by omega) _ _ (by rwa [List.drop_tail])

/-- **Every occurrence is found**: `contains s substr` holds whenever `substr` occurs in `s`. -/
theorem contains_of_isInfix {s substr : List α} (h : substr <:+: s) : contains s substr = true := by
  have hlen := h.length_le
  obtain ⟨l₁, l₂, rfl⟩ := h
  have hslice : ((l₁ ++ substr ++ l₂).drop l₁.length).take substr.length = substr := by
    simp [List.append_assoc, List.drop_left]
  have hfound : findInString (l₁ ++ substr ++ l₂) substr ≠ -1 := by
    unfold findInString
    split
    · omega
    · rw [if_neg (by omega)]
      have := findInString_loop_nonneg substr
        (show l₁.length < (l₁ ++ substr ++ l₂).length - substr.length + 1 by simp; omega) 0 _ hslice
      omega
  simp only [contains, Bool.and_eq_true, decide_eq_true_eq, bne_iff_ne]
  exact ⟨hlen, hfound⟩

instance (s substr : List α) : DecidablePred (occursAt s substr) :=
  fun _ => inferInstanceAs (Decidable (_ ∧ _))

/-- The loop returns the first index it visits whose slice is `substr`. -/
theorem findInString_loop_eq_of (substr : List α) :
    ∀ (k i : ℕ) (rest : List α) (j : ℕ), j < k → (rest.drop j).take substr.length = substr →
      (∀ j' < j, (rest.drop j').take substr.length ≠ substr) →
        findInString.loop substr i rest k = i + j
  | 0, _, _, _, hj, _, _ => absurd hj (Nat.not_lt_zero _)
  | k + 1, i, rest, j, hj, h, hmin => by
      simp only [findInString.loop]
      cases j with
      | zero => simp_all
      | succ j =>
          rw [if_neg (by simpa using hmin 0 (by omega)),
            findInString_loop_eq_of substr k (i + 1) rest.tail j (by omega)
              (by rwa [List.drop_tail]) fun j' hj' => by
                rw [List.drop_tail]; exact hmin (j' + 1) (by omega)]
          push_cast
          omega

/-- The loop returns `-1` when no slice it visits is `substr`. -/
theorem findInString_loop_eq_neg_one (substr : List α) :
    ∀ (k i : ℕ) (rest : List α), (∀ j < k, (rest.drop j).take substr.length ≠ substr) →
      findInString.loop substr i rest k = -1
  | 0, _, _, _ => rfl
  | k + 1, i, rest, h => by
      simp only [findInString.loop]
      rw [if_neg (by simpa using h 0 (by omega))]
      exact findInString_loop_eq_neg_one substr k (i + 1) rest.tail fun j hj => by
        rw [List.drop_tail]; exact h (j + 1) (by omega)

/-- `findInString` returns the least index at which `substr` occurs. -/
theorem findInString_eq_of_occursAt {s substr : List α} {i : ℕ} (h : occursAt s substr i)
    (hmin : ∀ j < i, ¬occursAt s substr j) : findInString s substr = i := by
  unfold findInString
  split
  · rename_i hn
    have h0 : occursAt s substr 0 := ⟨by omega, by simp [List.length_eq_zero.1 hn]⟩
    have : i = 0 := by by_contra hi; exact hmin 0 (by omega) h0
    simp [this]
  · rename_i hn
    have hne : substr ≠ [] := fun h' => hn (by simp [h'])
    have hle := h.1
    rw [if_neg (by omega)]
    simpa using findInString_loop_eq_of substr _ 0 s i (by omega) h.2
      fun j hj hocc => hmin j hj ((occursAt_iff_take hne).2 hocc)

/-- `findInString` returns `-1` when `substr` occurs nowhere in `s`. -/
theorem findInString_eq_neg_one {s substr : List α} (h : ∀ i, ¬occursAt s substr i) :
    findInString s substr = -1 := by
  unfold findInString
  split
  · rename_i hn
    exact absurd ⟨by omega, by simp [List.length_eq_zero.1 hn]⟩ (h 0)
  · rename_i hn
    have hne : substr ≠ [] := fun h' => hn (by simp [h'])
    split
    · rfl
    · exact findInString_loop_eq_neg_one substr _ 0 s fun j _ hocc =>
        h j ((occursAt_iff_take hne).2 hocc)

/-- A value that is the least occurrence when there is one, and `-1` when there is none, answers
the search. -/
theorem searchResult_of_least {s substr : List α} {r : Int}
    (h₁ : ∀ i, occursAt s substr i → (∀ j < i, ¬occursAt s substr j) → r = i)
    (h₂ : (∀ i, ¬occursAt s substr i) → r = -1) : SearchResult s substr r := by
  by_cases hex : ∃ i, occursAt s substr i
  · have hr : r = Nat.find hex := h₁ _ (Nat.find_spec hex) fun j hj => Nat.find_min hex hj
    refine ⟨fun i => hr ▸ Int.ofNat_inj.trans (Nat.find_eq_iff hex), ?_⟩
    rw [hr]
    exact ⟨fun h => absurd h (by omega), fun h => absurd hex (by simpa using h)⟩
  · simp only [not_exists] at hex
    have hr := h₂ hex
    exact ⟨fun i => ⟨fun h => by omega, fun h => absurd h.1 (hex i)⟩, ⟨fun _ => hex, fun _ => hr⟩⟩

/-- Two answers of one search agree. -/
theorem SearchResult.unique {s substr : List α} {r r' : Int} (hr : SearchResult s substr r)
    (hr' : SearchResult s substr r') : r = r' := by
  by_cases hex : ∃ i, occursAt s substr i
  · have hleast := (Nat.find_eq_iff hex).1 rfl
    rw [(hr.1 _).2 hleast, (hr'.1 _).2 hleast]
  · simp only [not_exists] at hex
    rw [hr.2.2 hex, hr'.2.2 hex]

/-- The answer of a search is non-negative exactly when there is an occurrence. -/
theorem SearchResult.nonneg_iff {s substr : List α} {r : Int} (hr : SearchResult s substr r) :
    0 ≤ r ↔ ∃ i, occursAt s substr i := by
  by_cases hex : ∃ i, occursAt s substr i
  · rw [(hr.1 _).2 ((Nat.find_eq_iff hex).1 rfl)]
    exact ⟨fun _ => hex, fun _ => by omega⟩
  · simp only [not_exists] at hex
    rw [hr.2.2 hex]
    exact ⟨fun h => absurd h (by decide), fun ⟨i, hi⟩ => absurd hi (hex i)⟩

/-- `findInString` answers the search. -/
theorem searchResult_findInString (s substr : List α) :
    SearchResult s substr (findInString s substr) :=
  searchResult_of_least (fun _ h hmin => findInString_eq_of_occursAt h hmin) findInString_eq_neg_one

/-- **`contains` tests exactly for an occurrence.** -/
theorem contains_iff_isInfix {s substr : List α} : contains s substr = true ↔ substr <:+: s := by
  refine ⟨fun h => ?_, contains_of_isInfix⟩
  simp only [contains, Bool.and_eq_true, decide_eq_true_eq, bne_iff_ne] at h
  rw [isInfix_iff_exists_occursAt]
  by_contra hno
  simp only [not_exists] at hno
  exact h.2 (findInString_eq_neg_one hno)

/-! ### Go's `strings.Index` and `strings.Contains` -/

/-- Go's `strings.Index` as its documentation states it, walking over the suffixes of `s` from
index `i`: the index of the first suffix that starts with `substr`, or `-1`. -/
def stringsIndex.walk (substr : List α) (i : ℕ) : List α → Int
  | [] => if substr <+: [] then i else -1
  | c :: t => if substr <+: c :: t then i else stringsIndex.walk substr (i + 1) t

/-- `strings.Index(s, substr)`: the index of the first instance of `substr` in `s`, or `-1` if
`substr` is not present in `s`. -/
def stringsIndex (s substr : List α) : Int := stringsIndex.walk substr 0 s

/-- `strings.Contains(s, substr)`, which Go computes as `Index(s, substr) >= 0`. -/
def stringsContains (s substr : List α) : Bool := decide (0 ≤ stringsIndex s substr)

theorem stringsIndex_walk_eq_of (substr : List α) :
    ∀ (rest : List α) (i j : ℕ), occursAt rest substr j →
      (∀ j' < j, ¬occursAt rest substr j') → stringsIndex.walk substr i rest = i + j
  | [], i, j, h, _ => by
      have hj : j = 0 := by have := h.1; simp only [List.length_nil] at this; omega
      subst hj
      simp [stringsIndex.walk, occursAt_zero_iff.1 h]
  | c :: t, i, j, h, hmin => by
      cases j with
      | zero => simp [stringsIndex.walk, occursAt_zero_iff.1 h]
      | succ j =>
          rw [stringsIndex.walk, if_neg fun hp => hmin 0 (by omega) (occursAt_zero_iff.2 hp),
            stringsIndex_walk_eq_of substr t (i + 1) j (occursAt_cons_succ.1 h)
              fun j' hj' hocc => hmin (j' + 1) (by omega) (occursAt_cons_succ.2 hocc)]
          push_cast
          omega

theorem stringsIndex_walk_eq_neg_one (substr : List α) :
    ∀ (rest : List α) (i : ℕ), (∀ j, ¬occursAt rest substr j) →
      stringsIndex.walk substr i rest = -1
  | [], _, h => by rw [stringsIndex.walk, if_neg fun hp => h 0 (occursAt_zero_iff.2 hp)]
  | c :: t, i, h => by
      rw [stringsIndex.walk, if_neg fun hp => h 0 (occursAt_zero_iff.2 hp),
        stringsIndex_walk_eq_neg_one substr t (i + 1) fun j hocc => h (j + 1) (occursAt_cons_succ.2 hocc)]

/-- `strings.Index` answers the search. -/
theorem searchResult_stringsIndex (s substr : List α) :
    SearchResult s substr (stringsIndex s substr) :=
  searchResult_of_least (fun i h hmin => by simpa using stringsIndex_walk_eq_of substr s 0 i h hmin)
    (stringsIndex_walk_eq_neg_one substr s 0)

/-- **`findInString` returns the least index of an occurrence, and agrees with the standard
library.**  For all strings `s` and `substr`, `findInString(s, substr)` is the least `i` with
`s[i:i+len(substr)] == substr`, or `-1` when there is none (the empty pattern, a pattern longer
than `s` and a match that ends at the end of `s` included); `contains(s, substr)` holds exactly
when `substr` occurs in `s`; so the two agree with `strings.Index` and `strings.Contains`. -/
theorem findInString_returns_least_index (s substr : List α) :
    (∀ i : ℕ, findInString s substr = i ↔ occursAt s substr i ∧ ∀ j < i, ¬occursAt s substr j) ∧
      (findInString s substr = -1 ↔ ∀ i, ¬occursAt s substr i) ∧
      (contains s substr = true ↔ substr <:+: s) ∧
      findInString s substr = stringsIndex s substr ∧
      contains s substr = stringsContains s substr := by
  have hfind := searchResult_findInString s substr
  have hindex := searchResult_stringsIndex s substr
  refine ⟨hfind.1, hfind.2, contains_iff_isInfix, hfind.unique hindex, Bool.eq_iff_iff.2 ?_⟩
  rw [contains_iff_isInfix, isInfix_iff_exists_occursAt, stringsContains, decide_eq_true_iff,
    hindex.nonneg_iff]

/-- A match that ends at the end of `s`, and a pattern longer than `s`. -/
example : findInString [1, 2, 3] [2, 3] = 1 ∧ findInString [1, 2] [1, 2, 3] = -1 := by decide

end

end AtomEngine
