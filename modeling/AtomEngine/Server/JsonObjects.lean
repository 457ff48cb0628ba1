/-
**What `json.Unmarshal` makes of an object's members, for every text.**

`AtomEngine.Server.JsonDecode` reads back the texts `json.Marshal` writes.  A text from elsewhere
may repeat a key, or spell a struct field's name in another case; this module says what the
decoder does with the members of any object.  Into a map, the members are written in order, so a
repeated key keeps the value of its last member and no map the decoder makes holds a key twice, at
any depth.  Into the callback struct of `Core.handleJobsResponse`, each field is decided by the
members whose key folds to the field's JSON name, in order, and by no other member: the
member-by-member decoding of the code refines a field-by-field one.  A number other than a whole
one of magnitude at most `2^53` has no reading in the model (`AtomEngine.Server.JsonDecode`), so
these results speak of the texts whose numbers have one.

* `AtomEngine.Value.Keyed` — every map inside a value has distinct keys;
* `AtomEngine.Json.toValue_keyed` — every value the decoder makes is keyed;
* `AtomEngine.Json.get?_membersToValue` — a decoded map holds, for each key, the value of the last
  member with that key;
* `AtomEngine.Json.unmarshalMap_last_member_wins` — **`json.Unmarshal` of any text into a map
  gives a keyed map whose entry for each key is the last member's**, for the texts whose numbers
  have a reading;
* `AtomEngine.FullCallback.fieldwise` — the callback struct decoded one field at a time;
* `AtomEngine.FullCallback.foldlM_member` — the member-by-member decoding is the field-by-field
  one, because a key names at most one field;
* `AtomEngine.decodeJobCallback_eq_some_iff` — **`HandleJobCallback` is called exactly for the
  objects, and `null`, in which no member naming a field of `jobResp` holds a value other than a
  string or `null`, and its arguments are the fields decoded one at a time**.
-/

import AtomEngine.Server.CallbackDecode

set_option autoImplicit false

namespace AtomEngine

/-- Every map inside the value, at any depth, has distinct keys. -/
inductive Value.Keyed : Value → Prop
  | null : Value.Keyed .null
  | bool (b : Bool) : Value.Keyed (.bool b)
  | num (n : ℤ) : Value.Keyed (.num n)
  | str (s : String) : Value.Keyed (.str s)
  | list {xs : List Value} (h : ∀ x ∈ xs, Value.Keyed x) : Value.Keyed (.list xs)
  | map {m : GoMap} (hk : (m.map Prod.fst).Nodup) (h : ∀ kv ∈ m, Value.Keyed kv.2) :
      Value.Keyed (.map m)

namespace GoMap

/-- Writing a key keeps the keys a map has, and adds the key at the end when it is new. -/
theorem keys_set (m : GoMap) (key : String) (v : Value) :
    (m.set key v).map Prod.fst =
      if key ∈ m.map Prod.fst then m.map Prod.fst else m.map Prod.fst ++ [key] := by
  induction m with
  | nil => rfl
  | cons e m ih =>
      obtain ⟨k, w⟩ := e
      by_cases h : k = key
      · subst h; simp [set]
      · simp only [set, if_neg h, List.map_cons, ih, List.mem_cons, Ne.symm h, false_or]
        split <;> rfl

theorem nodup_keys_set {m : GoMap} (h : (m.map Prod.fst).Nodup) (key : String) (v : Value) :
    ((m.set key v).map Prod.fst).Nodup := by
  rw [keys_set]
  split
  · exact h
  · rename_i hk
    exact h.append (List.nodup_singleton key) (List.disjoint_singleton.2 hk)

theorem mem_set {m : GoMap} {key : String} {v : Value} {kv : String × Value}
    (h : kv ∈ m.set key v) : kv ∈ m ∨ kv = (key, v) := by
  induction m with
  | nil => exact .inr (List.mem_singleton.1 h)
  | cons e m ih =>
      obtain ⟨k, w⟩ := e
      by_cases hk : k = key
      · rw [set, if_pos hk, List.mem_cons] at h
        rcases h with rfl | h
        · exact .inr rfl
        · exact .inl (.tail _ h)
      · rw [set, if_neg hk, List.mem_cons] at h
        rcases h with rfl | h
        · exact .inl (.head _)
        · exact (ih h).imp_left (.tail _)

end GoMap

namespace Json

/-! ### Into a map -/

mutual

/-- **Every value the decoder makes is keyed.** -/
theorem toValue_keyed : ∀ {j : Json} {v : Value}, toValue j = some v → v.Keyed
  | .null, _, h => by cases h; exact .null
  | .bool _, _, h => by cases h; exact .bool _
  | .num _ _ _, _, h => by
      obtain ⟨n, -, rfl⟩ := Option.map_eq_some'.1 h
      exact .num n
  | .str _, _, h => by cases h; exact .str _
  | .arr _, _, h => by
      obtain ⟨vs, hvs, rfl⟩ := Option.map_eq_some'.1 h
      exact .list (listToValue_keyed hvs)
  | .obj _, _, h => by
      obtain ⟨m, hm, rfl⟩ := Option.map_eq_some'.1 h
      obtain ⟨hk, hv⟩ := membersToValue_keyed (m := []) List.nodup_nil
        (fun _ h => absurd h (List.not_mem_nil _)) hm
      exact .map hk hv

theorem listToValue_keyed :
    ∀ {xs : List Json} {vs : List Value}, listToValue xs = some vs → ∀ v ∈ vs, v.Keyed
  | [], _, h => by cases h; exact fun _ h => absurd h (List.not_mem_nil _)
  | x :: xs, vs, h => by
      rw [listToValue] at h
      split at h
      · rename_i v vs' hx hxs
        cases h
        intro w hw
        rcases List.mem_cons.1 hw with rfl | hw
        · exact toValue_keyed hx
        · exact listToValue_keyed hxs w hw
      · cases h

/-- Writing decoded members into a keyed map keeps it keyed. -/
theorem membersToValue_keyed :
    ∀ {m : GoMap} {ms : List (String × Json)} {m' : GoMap}, (m.map Prod.fst).Nodup →
      (∀ kv ∈ m, kv.2.Keyed) → membersToValue m ms = some m' →
      (m'.map Prod.fst).Nodup ∧ ∀ kv ∈ m', kv.2.Keyed
  | _, [], _, hk, hv, h => by cases h; exact ⟨hk, hv⟩
  | m, (k, x) :: ms, m', hk, hv, h => by
      rw [membersToValue] at h
      split at h
      · rename_i v hx
        refine membersToValue_keyed (GoMap.nodup_keys_set hk k v) (fun kv hkv => ?_) h
        rcases GoMap.mem_set hkv with hkv | rfl
        · exact hv kv hkv
        · exact toValue_keyed hx
      · cases h

end

/-- The member of an object with key `key` that a map decoding keeps: the last one. -/
def lastMember (j : Json) (key : String) : Option Json :=
  match j with
  | .obj ms => ms.reverse.lookup key
  | _ => none

/-- A decoded map holds, for each key, the value of the last member with that key, and the entry
of the map it started from when no member has the key. -/
theorem get?_membersToValue :
    ∀ {m : GoMap} {ms : List (String × Json)} {m' : GoMap}, membersToValue m ms = some m' →
      ∀ key, m'.get? key = (ms.reverse.lookup key).elim (m.get? key) toValue
  | _, [], _, h, _ => by cases h; rfl
  | m, (k, x) :: ms, m', h, key => by
      rw [membersToValue] at h
      split at h
      · rename_i v hx
        rw [get?_membersToValue h key, List.reverse_cons, List.lookup_append]
        cases ms.reverse.lookup key with
        | some y => rfl
        | none =>
            by_cases hkey : key = k
            · subst hkey
              simp [hx]
            · rw [List.lookup_cons, beq_false_of_ne hkey, GoMap.get?_set_of_ne _ _ hkey]
              rfl
      · cases h

/-- **`json.Unmarshal` of any text into a map keeps the last member of each key.**  Whatever the
text, as far as its numbers have a reading, a map that `json.Unmarshal` returns holds no key
twice, at any depth, and its entry for each key is the decoded value of the last member of the
text's object with that key. -/
theorem unmarshalMap_last_member_wins {s : String} {m : GoMap} (h : unmarshalMap s = some m) :
    (Value.map m).Keyed ∧
      ∀ key, m.get? key = ((parse s).bind fun j => lastMember j key).bind toValue := by
  unfold unmarshalMap at h
  split at h
  · rename_i ms hs
    obtain ⟨hk, hv⟩ := membersToValue_keyed (m := []) List.nodup_nil
      (fun _ h => absurd h (List.not_mem_nil _)) h
    refine ⟨.map hk hv, fun key => ?_⟩
    rw [get?_membersToValue h key, hs, Option.some_bind, lastMember]
    cases ms.reverse.lookup key <;> rfl
  · rename_i hs
    cases h
    exact ⟨.map List.nodup_nil (fun _ h => absurd h (List.not_mem_nil _)), fun key => by
      rw [hs]; rfl⟩
  · cases h

/-- An object that gives the key `a` twice. -/
def repeatedKey : String := "\x7b\"a\":1,\"b\":true,\"a\":2\x7d"

theorem unmarshalMap_last_member_wins_at_repeatedKey :
    unmarshalMap repeatedKey = some [("a", .num 2), ("b", .bool true)] ∧
      (Value.map [("a", .num 2), ("b", .bool true)]).Keyed ∧
      ∀ key, GoMap.get? [("a", .num 2), ("b", .bool true)] key =
        ((parse repeatedKey).bind fun j => lastMember j key).bind toValue :=
  have h : unmarshalMap repeatedKey = some [("a", .num 2), ("b", .bool true)] := rfl
  ⟨h, unmarshalMap_last_member_wins h⟩

end Json

/-! ### Into the callback struct -/

/-- A key that names one field names another exactly when the two names fold alike. -/
theorem keyMatches_of_keyMatches {key name : String} (h : keyMatches key name = true)
    (name' : String) : keyMatches key name' = keyMatches name name' := by
  unfold keyMatches at h ⊢
  rw [beq_iff_eq.1 h]

/-- The first decoding fails on an object exactly when a member naming one of the fields holds a
value that is neither a string nor `null`. -/
theorem stringStructError_obj_eq_false (fields : List String) (ms : List (String × Json)) :
    stringStructError fields (.obj ms) = false ↔
      ∀ kx ∈ ms, fields.any (keyMatches kx.1) = true → stringTypeError kx.2 = false := by
  simp only [stringStructError, List.any_eq_false, Bool.and_eq_true, not_and, Bool.not_eq_true]

namespace FullCallback

/-- A string field decoded on its own, from `cur`: the members whose key names it, in order. -/
def fieldString (name cur : String) (ms : List (String × Json)) : String :=
  ms.foldl (fun cur (k, x) => if keyMatches k name then storeString cur x else cur) cur

/-- The `variables` field decoded on its own, from `cur`. -/
def fieldMap (cur : GoMap) (ms : List (String × Json)) : Option GoMap :=
  ms.foldlM (fun cur (k, x) => if keyMatches k "variables" then storeMap cur x else some cur) cur

/-- The callback struct decoded one field at a time, from `cb`. -/
def fieldwise (cb : FullCallback) (ms : List (String × Json)) : Option FullCallback :=
  (fieldMap cb.vars ms).map fun vars =>
    { jobID := fieldString "job_id" cb.jobID ms
      elementID := fieldString "element_id" cb.elementID ms
      tokenID := fieldString "token_id" cb.tokenID ms
      processInstanceID := fieldString "process_instance_id" cb.processInstanceID ms
      status := fieldString "status" cb.status ms
      vars
      errorMessage := fieldString "error_message" cb.errorMessage ms }

@[simp] theorem fieldString_nil (name cur : String) : fieldString name cur [] = cur := rfl

@[simp] theorem fieldMap_nil (cur : GoMap) : fieldMap cur [] = some cur := rfl

theorem fieldString_cons (name cur k : String) (x : Json) (ms : List (String × Json)) :
    fieldString name cur ((k, x) :: ms) =
      fieldString name (if keyMatches k name then storeString cur x else cur) ms := rfl

theorem fieldMap_cons (cur : GoMap) (k : String) (x : Json) (ms : List (String × Json)) :
    fieldMap cur ((k, x) :: ms) =
      (if keyMatches k "variables" then storeMap cur x else some cur).bind (fieldMap · ms) := rfl

/-- One member changes only the field its key names: a key names at most one field, since no
two of the field names fold alike. -/
theorem member_eq (cb : FullCallback) (k : String) (x : Json) :
    cb.member k x =
      (if keyMatches k "variables" then storeMap cb.vars x else some cb.vars).map fun vars =>
        { jobID := if keyMatches k "job_id" then storeString cb.jobID x else cb.jobID
          elementID := if keyMatches k "element_id" then storeString cb.elementID x else cb.elementID
          tokenID := if keyMatches k "token_id" then storeString cb.tokenID x else cb.tokenID
          processInstanceID := if keyMatches k "process_instance_id" then
            storeString cb.processInstanceID x else cb.processInstanceID
          status := if keyMatches k "status" then storeString cb.status x else cb.status
          vars
          errorMessage := if keyMatches k "error_message" then storeString cb.errorMessage x
            else cb.errorMessage } := by
  unfold member
  by_cases h1 : keyMatches k "job_id" = true
  · simp +decide only [keyMatches_of_keyMatches h1, if_true, if_false, Option.map_some']
  by_cases h2 : keyMatches k "element_id" = true
  · simp +decide only [keyMatches_of_keyMatches h2, if_true, if_false, Option.map_some']
  by_cases h3 : keyMatches k "token_id" = true
  · simp +decide only [keyMatches_of_keyMatches h3, if_true, if_false, Option.map_some']
  by_cases h4 : keyMatches k "process_instance_id" = true
  · simp +decide only [keyMatches_of_keyMatches h4, if_true, if_false, Option.map_some']
  by_cases h5 : keyMatches k "status" = true
  · simp +decide only [keyMatches_of_keyMatches h5, if_true, if_false, Option.map_some']
  by_cases h6 : keyMatches k "variables" = true
  · simp +decide only [keyMatches_of_keyMatches h6, if_true, if_false]
  by_cases h7 : keyMatches k "error_message" = true
  · simp +decide only [keyMatches_of_keyMatches h7, if_true, if_false, Option.map_some']
  · simp only [h1, h2, h3, h4, h5, h6, h7, if_false, Option.map_some', Bool.false_eq_true]

/-- **The member-by-member decoding is the field-by-field one.** -/
theorem foldlM_member (cb : FullCallback) (ms : List (String × Json)) :
    ms.foldlM (fun cb (k, x) => cb.member k x) cb = fieldwise cb ms := by
  induction ms generalizing cb with
  | nil => rfl
  | cons kx ms ih =>
      obtain ⟨k, x⟩ := kx
      rw [List.foldlM_cons]
      dsimp only
      rw [member_eq]
      simp only [fieldwise, fieldString_cons, fieldMap_cons]
      cases (if keyMatches k "variables" then storeMap cb.vars x else some cb.vars) with
      | none => rfl
      | some vars => exact ih _

end FullCallback

/-- **`HandleJobCallback` is called exactly for the texts whose first decoding succeeds, with the
fields decoded one at a time.**  For every text, `Core.handleJobsResponse` calls
`HandleJobCallback` with `call` exactly when the text is an object, or `null` (no members), in
which no member naming a field of `jobResp` holds anything but a string or `null`, and `call`
carries the fields decoded one at a time from those members: each string field is the last string
among the members whose key folds to its JSON name (`JOB_ID` names `job_id`), and `variables`
gathers the members of the objects given for it, a `null` resetting it.  This speaks of the texts
whose numbers in `variables` have a reading (`AtomEngine.decodeJobCallback`). -/
theorem decodeJobCallback_eq_some_iff (response : String) (call : JobCallbackCall) :
    decodeJobCallback response = some call ↔
      ∃ ms, (Json.parse response = some (.obj ms) ∨ Json.parse response = some .null ∧ ms = []) ∧
        (∀ kx ∈ ms, jobRespFields.any (keyMatches kx.1) = true → stringTypeError kx.2 = false) ∧
        (FullCallback.fieldwise {} ms).map FullCallback.call = some call := by
  unfold decodeJobCallback
  split
  · rename_i hs
    simp only [hs, reduceCtorEq, false_and, or_self, false_iff, not_exists, forall_const,
      not_false_eq_true, implies_true]
  · rename_i j hs
    rw [hs]
    cases j with
    | obj ms =>
        rw [FullCallback.ofJson, FullCallback.foldlM_member]
        constructor
        · intro h
          split at h
          · cases h
          · rename_i herr
            exact ⟨ms, .inl rfl, (stringStructError_obj_eq_false _ _).1 (by simpa using herr), h⟩
        · rintro ⟨ms', hms | ⟨hnull, -⟩, hok, hcall⟩
          · cases hms
            rw [(stringStructError_obj_eq_false _ _).2 hok]
            exact hcall
          · cases hnull
    | null =>
        simp only [stringStructError, FullCallback.ofJson, FullCallback.fieldwise, if_false,
          Option.some.injEq, reduceCtorEq, false_or, true_and, exists_eq_left,
          FullCallback.fieldMap_nil, FullCallback.fieldString_nil, List.not_mem_nil,
          false_implies, implies_true, Option.map_some']
    | _ =>
        simp only [stringStructError, if_true, Option.some.injEq, reduceCtorEq, false_and,
          or_self, false_iff, not_exists, forall_const, not_false_eq_true, implies_true]

/-- A key in capitals names the field, and a later `null` leaves the string it gave. -/
example : decodeJobCallback "\x7b\"JOB_ID\":\"j1\",\"Status\":\"FAILED\",\"job_id\":null\x7d" =
    some ⟨"j1", "", "", "FAILED", "", []⟩ := rfl

end AtomEngine
