import CatalistOracle.Impl.ValidatorState

/-!
# Stuck and exited counts

What `get_catalist_newly_stuck_validators` and `get_catalist_newly_exited_validators` compute, loop
by loop:

* `foldlM_sumStuckValidators`: the reduction of `sum_stuck_validators` over an operator's
  validators counts those `isNewlyStuck`, the condition of §4.3, once `ejected_index[g]` is read;
* `get?_getExitedCatalistValidators`: the exited count of each operator;
* `findOnlyUpdatedStates_spec`: the closing loop deletes exactly the operators whose count equals
  the recorded one; whatever it keeps differs from every recorded count for its key
  (`findOnlyUpdatedStates_survivor`), operators repeated or not;
* `stuck_add_exited_le_length`: no validator is counted both stuck and exited;
* `newly_stuck_and_exited_spec`: both reports, exactly, for operators with distinct global indexes
  that are the keys of the validators' dict.
-/

namespace CatalistOracle

/-- The stuck condition of §4.3, for a validator of an operator whose last requested index is
`ejected`: requested, no exit scheduled, its key not recently requested, and
`(activation_epoch + SHARD_COMMITTEE_PERIOD) * slots_per_epoch + delinquent_timeout < ref_slot`. -/
def isNewlyStuck (ejected : Int) (recentPubkeys : List HexStr) (delinquentTimeoutInSlots : Nat)
    (blockstamp : ReferenceBlockStamp) (chainConfig : ChainConfig) (v : LidoValidator) : Bool :=
  (v.index : Int) ≤ ejected ∧ v.validator.exitEpoch = FAR_FUTURE_EPOCH ∧
    v.lidoId.key ∉ recentPubkeys ∧
    (v.validator.activationEpoch + SHARD_COMMITTEE_PERIOD) * chainConfig.slotsPerEpoch +
      delinquentTimeoutInSlots < blockstamp.refSlot

section Stuck

variable {X : Dict NodeOperatorGlobalIndex Int} {K : List HexStr} {T : Nat}
  {bs : ReferenceBlockStamp} {cc : ChainConfig} {g : NodeOperatorGlobalIndex}

theorem sumStuckValidators_of_get? {x : Int} (hx : X.get? g = some x) (total : Nat)
    (v : LidoValidator) :
    sumStuckValidators X K T bs cc g total v = some (total + (isNewlyStuck x K T bs cc v).toNat) := by
  simp only [sumStuckValidators, hx, isNewlyStuck, Option.bind_eq_bind, Option.some_bind]
  split_ifs <;> simp_all [not_lt, not_le]

/-- The reduction counts the validators `isNewlyStuck`. -/
theorem foldlM_sumStuckValidators {x : Int} (hx : X.get? g = some x) (vs : List LidoValidator)
    (total : Nat) :
    vs.foldlM (sumStuckValidators X K T bs cc g) total =
      some (total + vs.countP (isNewlyStuck x K T bs cc)) := by
  induction vs generalizing total with
  | nil => rfl
  | cons v vs ih =>
    rw [List.foldlM_cons, sumStuckValidators_of_get? hx, Option.bind_eq_bind, Option.some_bind, ih,
      List.countP_cons]
    cases isNewlyStuck x K T bs cc v <;> simp [Nat.add_assoc, Nat.add_comm 1]

/-- Without `ejected_index[g]`, the reduction raises on the first validator. -/
theorem foldlM_sumStuckValidators_of_get?_eq_none (hx : X.get? g = none) {v : LidoValidator}
    {vs : List LidoValidator} (total : Nat) :
    (v :: vs).foldlM (sumStuckValidators X K T bs cc g) total = none := by
  simp [sumStuckValidators, hx]

/-- The stuck count of an operator of the validators' dict, once the first loop has returned: the
reduction over its validators. -/
theorem get?_stuckValidatorsByNodeOperator {V : Dict NodeOperatorGlobalIndex (List LidoValidator)}
    {r : Dict NodeOperatorGlobalIndex Nat} (h : stuckValidatorsByNodeOperator V X K T bs cc = some r)
    {vs : List LidoValidator} (hv : V.get? g = some vs) :
    ∃ s, vs.foldlM (sumStuckValidators X K T bs cc g) 0 = some s ∧ r.get? g = some s :=
  (Dict.foldlM_setEach_spec h V.nodup).1 (g, vs) (Dict.mem_items.2 hv)

theorem mem_keys_stuckValidatorsByNodeOperator
    {V : Dict NodeOperatorGlobalIndex (List LidoValidator)} {r : Dict NodeOperatorGlobalIndex Nat}
    (h : stuckValidatorsByNodeOperator V X K T bs cc = some r) (k : NodeOperatorGlobalIndex) :
    k ∈ r.keys ↔ k ∈ V.keys := by
  have ⟨h₁, h₂⟩ := Dict.foldlM_setEach_spec h V.nodup
  by_cases hk : k ∈ V.keys
  · obtain ⟨vs, hv⟩ := Dict.mem_keys.1 hk
    obtain ⟨s, -, hs⟩ := h₁ (k, vs) (Dict.mem_items.2 hv)
    exact ⟨fun _ => hk, fun _ => Dict.mem_keys.2 ⟨s, hs⟩⟩
  · rw [← Dict.get?_eq_none.not_left, h₂ k hk]; simp [hk]

/-- The first loop returns exactly when every operator with validators has a last requested
index. -/
theorem stuckValidatorsByNodeOperator_isSome {V : Dict NodeOperatorGlobalIndex (List LidoValidator)} :
    (stuckValidatorsByNodeOperator V X K T bs cc).isSome ↔ ∀ p ∈ V.items, p.2 = [] ∨ p.1 ∈ X.keys := by
  rw [stuckValidatorsByNodeOperator, Dict.foldlM_setEach_isSome]
  refine forall₂_congr fun p _ => ?_
  cases hx : X.get? p.1 with
  | none =>
    cases p.2 <;> simp [foldlM_sumStuckValidators_of_get?_eq_none hx, Dict.get?_eq_none.1 hx]
  | some x => simp [foldlM_sumStuckValidators hx, Dict.mem_keys.2 ⟨x, hx⟩]

end Stuck

/-! ## Exited validators -/

theorem foldl_add_toNat {α : Type} (p : α → Bool) (vs : List α) (n : Nat) :
    vs.foldl (fun total v => total + (p v).toNat) n = n + vs.countP p := by
  induction vs generalizing n with
  | nil => rfl
  | cons v vs ih => rw [List.foldl_cons, ih, List.countP_cons]; cases p v <;> simp; omega

/-- The exited count of each operator: its validators `is_exited_validator` at the reference
epoch. -/
theorem get?_getExitedCatalistValidators (V : Dict NodeOperatorGlobalIndex (List LidoValidator))
    (bs : ReferenceBlockStamp) (g : NodeOperatorGlobalIndex) :
    (getExitedCatalistValidators V bs).get? g =
      (V.get? g).map fun vs => vs.countP (isExitedValidator ·.toValidator bs.refEpoch) := by
  have e : getExitedCatalistValidators V bs = Dict.ofList (V.items.map fun p =>
      (p.1, p.2.countP (isExitedValidator ·.toValidator bs.refEpoch))) := by
    simp only [getExitedCatalistValidators, Dict.ofList, List.foldl_map, foldl_add_toNat,
      Nat.zero_add]
  ext n
  rw [e, Option.mem_def, ← Dict.mem_items, Dict.items_ofList (by simpa using V.nodup)]
  simp only [List.mem_map, Prod.mk.injEq, Option.mem_def, Option.map_eq_some', ← Dict.mem_items]
  constructor
  · rintro ⟨⟨k, vs⟩, hp, rfl, rfl⟩; exact ⟨vs, hp, rfl⟩
  · rintro ⟨vs, hp, rfl⟩; exact ⟨(g, vs), hp, rfl, rfl⟩

/-! ## Deleting the unchanged counts -/

section Delete

variable {recorded : NodeOperator → Nat} {op : NodeOperator} {ops : List NodeOperator}
  {result r : Dict NodeOperatorGlobalIndex Nat}

/-- One pass of the closing loop reads the operator's count, then deletes it when it equals the
recorded one. -/
theorem findOnlyUpdatedStates_cons_eq_some :
    findOnlyUpdatedStates recorded (op :: ops) result = some r ↔
      ∃ n, result.get? op.globalIndex = some n ∧ ∃ result₁,
        (if n = recorded op then result.erase? op.globalIndex else some result) = some result₁ ∧
          findOnlyUpdatedStates recorded ops result₁ = some r := by
  simp only [findOnlyUpdatedStates, List.foldlM_cons, Option.bind_eq_bind, Option.bind_eq_some]
  constructor
  · rintro ⟨r₁, ⟨n, hn, h₁⟩, h⟩; exact ⟨n, hn, r₁, h₁, h⟩
  · rintro ⟨n, hn, r₁, h₁, h⟩; exact ⟨r₁, ⟨n, hn, h₁⟩, h⟩

theorem get?_of_deleteUnchanged {n : Nat} {result₁ : Dict NodeOperatorGlobalIndex Nat}
    (h : (if n = recorded op then result.erase? op.globalIndex else some result) = some result₁)
    (k : NodeOperatorGlobalIndex) :
    result₁.get? k = if k = op.globalIndex ∧ n = recorded op then none else result.get? k := by
  split at h
  · rw [Dict.get?_erase? h]; simp [*]
  · cases h; simp [*]

/-- A count that survives the closing loop is the count it was given, and differs from what is
recorded for every operator of its global index. -/
theorem findOnlyUpdatedStates_survivor (h : findOnlyUpdatedStates recorded ops result = some r)
    {g : NodeOperatorGlobalIndex} {n : Nat} (hr : r.get? g = some n) :
    result.get? g = some n ∧ ∀ op ∈ ops, op.globalIndex = g → n ≠ recorded op := by
  induction ops generalizing result with
  | nil => cases h; exact ⟨hr, by simp⟩
  | cons op ops ih =>
    obtain ⟨c, hc, result₁, h₁, h⟩ := findOnlyUpdatedStates_cons_eq_some.1 h
    obtain ⟨hg, hne⟩ := ih h
    rw [get?_of_deleteUnchanged h₁] at hg
    split at hg
    · cases hg
    · rename_i hdel
      refine ⟨hg, List.forall_mem_cons.2 ⟨fun e hn => hdel ⟨e.symm, ?_⟩, hne⟩⟩
      rw [← e, hc, Option.some.injEq] at hg
      rw [hg, hn]

end Delete

/-- Over operators with distinct global indexes, all keys of `result`, the closing loop returns,
deletes each operator's count that equals `recorded` of it, and keeps every other entry. -/
theorem findOnlyUpdatedStates_spec {recorded : NodeOperator → Nat} {ops : List NodeOperator}
    {result : Dict NodeOperatorGlobalIndex Nat} (hn : (ops.map NodeOperator.globalIndex).Nodup)
    (hk : ∀ op ∈ ops, op.globalIndex ∈ result.keys) :
    ∃ r, findOnlyUpdatedStates recorded ops result = some r ∧
      (∀ op ∈ ops, r.get? op.globalIndex =
        if result.get? op.globalIndex = some (recorded op) then none else result.get? op.globalIndex) ∧
      ∀ g ∉ ops.map NodeOperator.globalIndex, r.get? g = result.get? g := by
  induction ops generalizing result with
  | nil => exact ⟨result, rfl, by simp, fun _ _ => rfl⟩
  | cons op ops ih =>
    have ⟨hop, hops⟩ := List.nodup_cons.1 hn
    have hne : ∀ op' ∈ ops, op'.globalIndex ≠ op.globalIndex := fun op' h' e =>
      hop (e ▸ List.mem_map_of_mem _ h')
    obtain ⟨n, hn'⟩ := Dict.mem_keys.1 (hk op (List.mem_cons_self _ _))
    -- `result` after this operator's pass: its count deleted when unchanged
    obtain ⟨result₁, h₁⟩ : ∃ result₁, (if n = recorded op then result.erase? op.globalIndex
        else some result) = some result₁ := by
      split
      · exact Option.ne_none_iff_exists'.1
          (Dict.erase?_eq_none.not.2 (not_not.2 (Dict.mem_keys.2 ⟨n, hn'⟩)))
      · exact ⟨result, rfl⟩
    have e₁ := get?_of_deleteUnchanged h₁
    have hk₁ : ∀ op' ∈ ops, op'.globalIndex ∈ result₁.keys := fun op' h' => by
      rw [Dict.mem_keys, e₁, if_neg (by simp [hne op' h']), ← Dict.mem_keys]
      exact hk op' (List.mem_cons_of_mem _ h')
    obtain ⟨r, hr, hr₁, hr₂⟩ := ih hops hk₁
    refine ⟨r, findOnlyUpdatedStates_cons_eq_some.2 ⟨n, hn', result₁, h₁, hr⟩, ?_, ?_⟩
    · intro op' h'
      rcases List.mem_cons.1 h' with rfl | h'
      · rw [hr₂ _ hop, e₁, hn']; by_cases e : n = recorded op' <;> simp [e]
      · rw [hr₁ _ h', e₁]; simp [hne op' h']
    · intro k hk'
      simp only [List.map_cons, List.mem_cons, not_or] at hk'
      rw [hr₂ _ hk'.2, e₁]; simp [hk'.1]

/-- The closing loop over operators with distinct global indexes that are exactly the keys of
`result`: it reports each operator's count that differs from the recorded one, and nothing else. -/
theorem findOnlyUpdatedStates_of_keys {recorded : NodeOperator → Nat} {ops : List NodeOperator}
    {result : Dict NodeOperatorGlobalIndex Nat} (hn : (ops.map NodeOperator.globalIndex).Nodup)
    (hk : ∀ g, g ∈ result.keys ↔ g ∈ ops.map NodeOperator.globalIndex) :
    ∃ r, findOnlyUpdatedStates recorded ops result = some r ∧
      (∀ op ∈ ops, ∀ s, result.get? op.globalIndex = some s →
        r.get? op.globalIndex = if s = recorded op then none else some s) ∧
      ∀ g ∉ ops.map NodeOperator.globalIndex, r.get? g = none := by
  obtain ⟨r, hr, h₁, h₂⟩ := @findOnlyUpdatedStates_spec recorded _ _ hn fun op h =>
    (hk _).2 (List.mem_map_of_mem _ h)
  refine ⟨r, hr, fun op h s hs => ?_, fun g hg => ?_⟩
  · rw [h₁ op h, hs]; simp
  · rw [h₂ g hg, Dict.get?_eq_none, hk]; exact hg

/-! ## The two reports -/

theorem not_isNewlyStuck_and_isExitedValidator {x : Int} {K : List HexStr} {T : Nat}
    {bs : ReferenceBlockStamp} {cc : ChainConfig} (e : EpochNumber) (v : LidoValidator) :
    ¬(isNewlyStuck x K T bs cc v ∧ isExitedValidator v.toValidator e) := by
  simp only [isNewlyStuck, isExitedValidator, decide_eq_true_eq]
  exact fun ⟨⟨_, h, _⟩, _, h'⟩ => h' h

/-- No validator is counted both stuck and exited: for each operator of the validators' dict, its
stuck count in the first loop of `get_catalist_newly_stuck_validators`, before the deletions, and
its exited count in `get_exited_catalist_validators` add up to at most its number of validators. -/
theorem stuck_add_exited_le_length {V : Dict NodeOperatorGlobalIndex (List LidoValidator)}
    {X : Dict NodeOperatorGlobalIndex Int} {K : List HexStr} {T : Nat} {bs : ReferenceBlockStamp}
    {cc : ChainConfig} {r : Dict NodeOperatorGlobalIndex Nat}
    (h : stuckValidatorsByNodeOperator V X K T bs cc = some r) {g : NodeOperatorGlobalIndex}
    {vs : List LidoValidator} (hv : V.get? g = some vs) :
    ∃ s e, r.get? g = some s ∧ (getExitedCatalistValidators V bs).get? g = some e ∧
      s + e ≤ vs.length := by
  obtain ⟨s, hs, hr⟩ := get?_stuckValidatorsByNodeOperator h hv
  refine ⟨s, _, hr, by rw [get?_getExitedCatalistValidators, hv]; rfl, ?_⟩
  cases hx : X.get? g with
  | none =>
    cases vs with
    | nil => cases hs; simp
    | cons v vs => rw [foldlM_sumStuckValidators_of_get?_eq_none hx] at hs; cases hs
  | some x =>
    rw [foldlM_sumStuckValidators hx, Option.some.injEq, Nat.zero_add] at hs
    rw [← hs, countP_add_countP_of_disjoint _ fun v _ =>
      not_isNewlyStuck_and_isExitedValidator bs.refEpoch v]
    exact List.countP_le_length _

/-- 32 slots per epoch. -/
def slotsPerEpoch32 : ChainConfig := ⟨32, by decide⟩

/-- Operator 0 of module 1 (at `0x0a`). -/
def oneOperator : NodeOperator := ⟨0, 0, 0, ⟨1, "0x0a"⟩⟩

/-- Operator 0 of module 1 with one validator, index 0, activated at epoch 0, no exit scheduled. -/
def oneActiveValidator : Dict NodeOperatorGlobalIndex (List LidoValidator) :=
  Dict.ofList [((1, 0), [⟨⟨0, ⟨"0x01", 0, FAR_FUTURE_EPOCH⟩⟩, ⟨"0x01", "0x0a", 0⟩⟩])]

/-- Operator 0 of module 1 was last asked to exit validator 0. -/
def lastRequestedZero : Dict NodeOperatorGlobalIndex Int := Dict.ofList [((1, 0), 0)]

theorem stuck_add_exited_le_length_example :
    ∃ r, stuckValidatorsByNodeOperator oneActiveValidator lastRequestedZero [] 0 ⟨10000, 312⟩
      slotsPerEpoch32 = some r ∧ ∃ vs, oneActiveValidator.get? (1, 0) = some vs ∧
      ∃ s e, r.get? (1, 0) = some s ∧
        (getExitedCatalistValidators oneActiveValidator ⟨10000, 312⟩).get? (1, 0) = some e ∧
        s + e ≤ vs.length := by
  obtain ⟨r, hr⟩ : ∃ r, stuckValidatorsByNodeOperator oneActiveValidator lastRequestedZero [] 0
      ⟨10000, 312⟩ slotsPerEpoch32 = some r := ⟨_, rfl⟩
  exact ⟨r, hr, _, rfl, stuck_add_exited_le_length hr rfl⟩

/-- The two reports of the extra data, for operators with distinct global indexes that are
exactly the keys of the validators' dict, each with a last requested index: both return, and
hold exactly the operators whose fresh count (stuck: `isNewlyStuck`; exited: `is_exited_validator`
at the reference epoch) differs from the count the router records, with that count. -/
theorem newly_stuck_and_exited_spec {V : Dict NodeOperatorGlobalIndex (List LidoValidator)}
    {X : Dict NodeOperatorGlobalIndex Int} {ops : List NodeOperator}
    (hn : (ops.map NodeOperator.globalIndex).Nodup)
    (hV : ∀ g, g ∈ V.keys ↔ g ∈ ops.map NodeOperator.globalIndex)
    (hX : ∀ g ∈ ops.map NodeOperator.globalIndex, g ∈ X.keys)
    (K : List HexStr) (T : Nat) (bs : ReferenceBlockStamp) (cc : ChainConfig) :
    (∃ r, getCatalistNewlyStuckValidators V X K ops T bs cc = some r ∧
      (∀ op ∈ ops, ∀ vs x, V.get? op.globalIndex = some vs → X.get? op.globalIndex = some x →
        r.get? op.globalIndex =
          if vs.countP (isNewlyStuck x K T bs cc) = op.stuckValidatorsCount then none
          else some (vs.countP (isNewlyStuck x K T bs cc))) ∧
      ∀ g ∉ ops.map NodeOperator.globalIndex, r.get? g = none) ∧
    (∃ r, getCatalistNewlyExitedValidators V ops bs = some r ∧
      (∀ op ∈ ops, ∀ vs, V.get? op.globalIndex = some vs →
        r.get? op.globalIndex =
          if vs.countP (isExitedValidator ·.toValidator bs.refEpoch) = op.totalExitedValidators then none
          else some (vs.countP (isExitedValidator ·.toValidator bs.refEpoch))) ∧
      ∀ g ∉ ops.map NodeOperator.globalIndex, r.get? g = none) := by
  constructor
  · obtain ⟨result, hres⟩ := Option.isSome_iff_exists.1
      ((stuckValidatorsByNodeOperator_isSome : (stuckValidatorsByNodeOperator V X K T bs cc).isSome ↔ _).2
        fun p hp => .inr (hX _ ((hV _).1 (List.mem_map_of_mem _ hp))))
    obtain ⟨r, hr, h₁, h₂⟩ := @findOnlyUpdatedStates_of_keys (·.stuckValidatorsCount) _ _ hn
      fun g => (mem_keys_stuckValidatorsByNodeOperator hres g).trans (hV g)
    refine ⟨r, by simp [getCatalistNewlyStuckValidators, hres, hr], fun op h vs x hv hx => ?_, h₂⟩
    obtain ⟨s, hs, hr'⟩ := get?_stuckValidatorsByNodeOperator hres hv
    rw [foldlM_sumStuckValidators hx, Nat.zero_add, Option.some.injEq] at hs
    exact hs ▸ h₁ op h s hr'
  · obtain ⟨r, hr, h₁, h₂⟩ := @findOnlyUpdatedStates_of_keys (·.totalExitedValidators) _
      (getExitedCatalistValidators V bs) hn fun g => by
        rw [Dict.mem_keys, get?_getExitedCatalistValidators, ← hV, Dict.mem_keys]
        cases V.get? g <;> simp
    exact ⟨r, hr, fun op h vs hv => h₁ op h _ (by rw [get?_getExitedCatalistValidators, hv]; rfl), h₂⟩

theorem newly_stuck_and_exited_spec_example :
    ([oneOperator].map NodeOperator.globalIndex).Nodup ∧
    (∀ g, g ∈ oneActiveValidator.keys ↔ g ∈ [oneOperator].map NodeOperator.globalIndex) ∧
    (∀ g ∈ [oneOperator].map NodeOperator.globalIndex, g ∈ lastRequestedZero.keys) ∧
    (∃ r, getCatalistNewlyStuckValidators oneActiveValidator lastRequestedZero [] [oneOperator] 0
        ⟨10000, 312⟩ slotsPerEpoch32 = some r ∧
      (∀ op ∈ [oneOperator], ∀ vs x, oneActiveValidator.get? op.globalIndex = some vs →
        lastRequestedZero.get? op.globalIndex = some x →
        r.get? op.globalIndex =
          if vs.countP (isNewlyStuck x [] 0 ⟨10000, 312⟩ slotsPerEpoch32) = op.stuckValidatorsCount
          then none else some (vs.countP (isNewlyStuck x [] 0 ⟨10000, 312⟩ slotsPerEpoch32))) ∧
      ∀ g ∉ [oneOperator].map NodeOperator.globalIndex, r.get? g = none) ∧
    (∃ r, getCatalistNewlyExitedValidators oneActiveValidator [oneOperator] ⟨10000, 312⟩ = some r ∧
      (∀ op ∈ [oneOperator], ∀ vs, oneActiveValidator.get? op.globalIndex = some vs →
        r.get? op.globalIndex =
          if vs.countP (isExitedValidator ·.toValidator (312 : Nat)) = op.totalExitedValidators
          then none else some (vs.countP (isExitedValidator ·.toValidator (312 : Nat)))) ∧
      ∀ g ∉ [oneOperator].map NodeOperator.globalIndex, r.get? g = none) :=
  have hn : ([oneOperator].map NodeOperator.globalIndex).Nodup := by decide
  have hV : ∀ g, g ∈ oneActiveValidator.keys ↔ g ∈ [oneOperator].map NodeOperator.globalIndex :=
    fun _ => Iff.rfl
  have hX : ∀ g ∈ [oneOperator].map NodeOperator.globalIndex, g ∈ lastRequestedZero.keys :=
    fun _ h => h
  ⟨hn, hV, hX, newly_stuck_and_exited_spec hn hV hX [] 0 ⟨10000, 312⟩ slotsPerEpoch32⟩

end CatalistOracle
