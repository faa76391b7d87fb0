import CatalistOracle.Proof.KeySets

/-!
# Stuck validators are delayed

`get_catalist_newly_stuck_validators` and `get_recently_requested_but_not_exited_validators`
classify the same requested validators from two windows of `ValidatorExitRequest` events. The
stuck count skips a validator whose pubkey was requested in the last
`VALIDATOR_DELINQUENT_TIMEOUT_IN_SLOTS` slots, and counts it once `(activation_epoch + SHARD_COMMITTEE_PERIOD) * slots_per_epoch +
delinquent_timeout < ref_slot`. The other keeps a validator in its grace period while its index was
requested in the last `VALIDATOR_DELAYED_TIMEOUT_IN_SLOTS` slots or it is not yet eligible to exit,
and counts it delayed once it is neither. The first asks for pubkeys, the second for validator
indexes.

With a delayed timeout no longer than the delinquent one, every event of the delayed window among
those of the delinquent window, and each event carrying the pubkey of the validator whose index it
names, the two agree: a validator counted stuck is past its grace period and delayed
(`delayed_of_isNewlyStuck`).

* `stuck_validators_are_delayed`: no validator that `sum_stuck_validators` counts is returned as
  recently requested, and each operator's stuck count, as set on its gauge before the deletions, is
  at most its delayed gauge.
-/

namespace CatalistOracle

/-! ## One validator -/

section Validator

variable {x : Int} {K : List HexStr} {D T : Nat} {bs : ReferenceBlockStamp} {cc : ChainConfig}
  {rs : List Nat} {v : LidoValidator}

/-- A validator stuck for a delinquent timeout `D` is delayed for a delayed timeout `T ≤ D`, and not
in its grace period, once an index in its recent indexes means its key was recently requested. -/
theorem delayed_of_isNewlyStuck (hT : T ≤ D)
    (hepoch : bs.refEpoch = bs.refSlot / cc.slotsPerEpoch) (hfar : bs.refEpoch < FAR_FUTURE_EPOCH)
    (hrs : v.index ∈ rs → v.lidoId.key ∈ K) (h : isNewlyStuck x K D bs cc v) :
    delayed x rs v ∧ recentlyRequestedButNotExited x rs T bs cc v = false := by
  simp only [isNewlyStuck, decide_eq_true_eq] at h
  obtain ⟨hx, he, hk, hslot⟩ := h
  have hr : v.index ∉ rs := fun hi => hk (hrs hi)
  refine ⟨by simp [delayed, isOnExit, hx, he, hr], Bool.eq_false_iff.2 fun hrec => ?_⟩
  -- the stuck deadline, in epochs
  have hq : v.validator.activationEpoch + SHARD_COMMITTEE_PERIOD + D / cc.slotsPerEpoch ≤
      bs.refSlot / cc.slotsPerEpoch := by
    rw [Nat.le_div_iff_mul_le cc.slotsPerEpoch_pos, Nat.add_mul]
    exact (Nat.add_le_add_left (Nat.div_mul_le_self D _) _).trans hslot.le
  have hTD : T / cc.slotsPerEpoch ≤ D / cc.slotsPerEpoch := Nat.div_le_div_right hT
  have hgrace := (recentlyRequestedButNotExited_iff_epoch hx he hr).1 hrec
  rw [hepoch] at hgrace hfar
  generalize bs.refSlot / cc.slotsPerEpoch = q at hgrace hfar hq
  generalize T / cc.slotsPerEpoch = k at hgrace hTD
  generalize D / cc.slotsPerEpoch = k' at hq hTD
  omega

end Validator

/-! ## One snapshot -/

/-- An index in an operator's recent indexes was requested by an event of the delayed window; with
that window inside the delinquent one, and the event carrying the key of the validator of that
index, the key is among the pubkeys the stuck count skips. -/
theorem key_mem_of_mem_recent {s : Snapshot} {gs : List NodeOperatorGlobalIndex}
    {g : NodeOperatorGlobalIndex} {v : LidoValidator}
    (hwin : ∀ e ∈ s.delayedWindowEvents, e ∈ s.delinquentWindowEvents)
    (hev : ∀ e ∈ s.delayedWindowEvents, (e.stakingModuleId, e.nodeOperatorId) = g →
      e.validatorIndex = v.index → e.validatorPubkey = v.lidoId.key)
    {R : Dict NodeOperatorGlobalIndex (List Nat)}
    (hR : getRecentlyRequestsToExitIndexesByOperators s.delayedWindowEvents gs = some R)
    {rs : List Nat} (hr : R.get? g = some rs) (hi : v.index ∈ rs) :
    v.lidoId.key ∈ getLastRequestedToExitPubkeys s.delinquentWindowEvents := by
  obtain ⟨e, he, hg, hidx⟩ :=
    ((getRecentlyRequestsToExitIndexesByOperators_of_eq_some hR).2 g rs hr v.index).1 hi
  exact List.mem_map.2 ⟨e, hwin e he, hev e he hg hidx⟩

/-- For a snapshot whose delayed timeout is no longer than its delinquent timeout, whose delayed
window's events are among the delinquent window's, whose reference epoch is its reference slot's
and before `FAR_FUTURE_EPOCH`, and whose delayed window's events name each validator of the
validators' dict by that validator's key: no validator counted by `sum_stuck_validators` is
returned by `get_recently_requested_but_not_exited_validators`, and every operator's stuck count,
before the deletions, is at most its delayed-validators gauge. -/
theorem stuck_validators_are_delayed {s : Snapshot}
    (hT : s.delayedTimeoutInSlots ≤ s.delinquentTimeoutInSlots)
    (hwin : ∀ e ∈ s.delayedWindowEvents, e ∈ s.delinquentWindowEvents)
    (hepoch : s.blockstamp.refEpoch = s.blockstamp.refSlot / s.chainConfig.slotsPerEpoch)
    (hfar : s.blockstamp.refEpoch < FAR_FUTURE_EPOCH)
    {V : Dict NodeOperatorGlobalIndex (List LidoValidator)}
    (hV : s.validatorsByNodeOperators = some V)
    (hev : ∀ g vs, V.get? g = some vs → ∀ v ∈ vs, ∀ e ∈ s.delayedWindowEvents,
      (e.stakingModuleId, e.nodeOperatorId) = g → e.validatorIndex = v.index →
        e.validatorPubkey = v.lidoId.key)
    {L : List LidoValidator} {gauges : List (NodeOperatorGlobalIndex × Nat)}
    (hL : s.recentlyRequestedButNotExitedValidators = some (L, gauges))
    {r : Dict NodeOperatorGlobalIndex Nat}
    (hr : stuckValidatorsByNodeOperator V s.lastExitedValidatorIndexes
      (getLastRequestedToExitPubkeys s.delinquentWindowEvents) s.delinquentTimeoutInSlots
      s.blockstamp s.chainConfig = some r)
    {g : NodeOperatorGlobalIndex} {vs : List LidoValidator} (hg : V.get? g = some vs) :
    (∀ v ∈ vs, sumStuckValidators s.lastExitedValidatorIndexes
        (getLastRequestedToExitPubkeys s.delinquentWindowEvents) s.delinquentTimeoutInSlots
        s.blockstamp s.chainConfig g 0 v = some 1 → v ∉ L) ∧
      ∃ c n, r.get? g = some c ∧ (g, n) ∈ gauges ∧ c ≤ n := by
  simp only [Snapshot.recentlyRequestedButNotExitedValidators, hV, Option.bind_eq_bind,
    Option.some_bind, Option.bind_eq_some] at hL
  obtain ⟨R, hR, hL⟩ := hL
  -- every validator of `g` counted stuck is delayed and out of its grace period
  have hstuck : ∀ x rs, s.lastExitedValidatorIndexes.get? g = some x → R.get? g = some rs →
      ∀ v ∈ vs, isNewlyStuck x (getLastRequestedToExitPubkeys s.delinquentWindowEvents)
        s.delinquentTimeoutInSlots s.blockstamp s.chainConfig v →
      delayed x rs v ∧ recentlyRequestedButNotExited x rs s.delayedTimeoutInSlots s.blockstamp
        s.chainConfig v = false := fun x rs _ hrs v hv =>
    delayed_of_isNewlyStuck hT hepoch hfar
      (key_mem_of_mem_recent hwin (fun e he => hev g vs hg v hv e he) hR hrs)
  -- the recent indexes have a set for every operator of the validators' dict
  obtain ⟨rs, hrs⟩ := Dict.mem_keys.1
    (((getRecentlyRequestsToExitIndexesByOperators_of_eq_some hR).1 g).2 (Dict.mem_keys.2 ⟨vs, hg⟩))
  obtain ⟨c, hc, hrc⟩ := get?_stuckValidatorsByNodeOperator hr hg
  obtain ⟨n, hn, hnd⟩ := mem_gauges_getRecentlyRequestedButNotExitedValidators hL hg
  constructor
  · intro v hv hone hvL
    cases hx : s.lastExitedValidatorIndexes.get? g with
    | none => simp [sumStuckValidators, hx] at hone
    | some x =>
      rw [sumStuckValidators_of_get? hx] at hone
      have hns : isNewlyStuck x (getLastRequestedToExitPubkeys s.delinquentWindowEvents)
          s.delinquentTimeoutInSlots s.blockstamp s.chainConfig v := by simpa using hone
      obtain ⟨g', vs', x', rs', hg', hv', hx', hrs', hrec⟩ :=
        mem_getRecentlyRequestedButNotExitedValidators hL hvL
      obtain rfl := eq_of_mem_getLidoValidatorsByNodeOperators hV hg hg' hv hv'
      obtain rfl := Option.some.inj (hx.symm.trans hx')
      obtain rfl := Option.some.inj (hrs.symm.trans hrs')
      simp [(hstuck x rs hx hrs v hv hns).2] at hrec
  · refine ⟨c, n, hrc, hn, ?_⟩
    cases hx : s.lastExitedValidatorIndexes.get? g with
    | none =>
      cases vs with
      | nil => cases hc; exact Nat.zero_le _
      | cons v vs => rw [foldlM_sumStuckValidators_of_get?_eq_none hx] at hc; cases hc
    | some x =>
      rw [foldlM_sumStuckValidators hx, Option.some.injEq, Nat.zero_add] at hc
      rw [← hc, hnd x rs hx hrs]
      exact List.countP_mono_left fun v hv h => (hstuck x rs hx hrs v hv h).1

/-- `oneModuleSnapshot` with two keys and their validators, indexes 0 and 1, activated at epoch 0,
both requested (the exit bus answers index 1), and validator 0 requested again in both windows by an
event carrying its key: validator 0 is recently requested and not stuck, validator 1 stuck and
delayed. -/
def requestedPairSnapshot : Snapshot :=
  { oneModuleSnapshot with
    keys := [⟨"0x01", "0x0a", 0⟩, ⟨"0x02", "0x0a", 0⟩]
    validators := [⟨0, ⟨"0x01", 0, FAR_FUTURE_EPOCH⟩⟩, ⟨1, ⟨"0x02", 0, FAR_FUTURE_EPOCH⟩⟩]
    getLastRequestedValidatorIndices := fun _ ids => ids.map fun _ => 1
    delinquentWindowEvents := [⟨1, 0, 0, "0x01"⟩] }

/-- The validators' dict of `requestedPairSnapshot`. -/
def requestedPair : Dict NodeOperatorGlobalIndex (List LidoValidator) :=
  Dict.ofList [((1, 0), [⟨⟨0, ⟨"0x01", 0, FAR_FUTURE_EPOCH⟩⟩, ⟨"0x01", "0x0a", 0⟩⟩,
    ⟨⟨1, ⟨"0x02", 0, FAR_FUTURE_EPOCH⟩⟩, ⟨"0x02", "0x0a", 0⟩⟩])]

theorem stuck_validators_are_delayed_example :
    (∀ v ∈ [(⟨⟨0, ⟨"0x01", 0, FAR_FUTURE_EPOCH⟩⟩, ⟨"0x01", "0x0a", 0⟩⟩ : LidoValidator),
        ⟨⟨1, ⟨"0x02", 0, FAR_FUTURE_EPOCH⟩⟩, ⟨"0x02", "0x0a", 0⟩⟩],
      sumStuckValidators requestedPairSnapshot.lastExitedValidatorIndexes
        (getLastRequestedToExitPubkeys requestedPairSnapshot.delinquentWindowEvents)
        requestedPairSnapshot.delinquentTimeoutInSlots requestedPairSnapshot.blockstamp
        requestedPairSnapshot.chainConfig (1, 0) 0 v = some 1 →
      v ∉ [(⟨⟨0, ⟨"0x01", 0, FAR_FUTURE_EPOCH⟩⟩, ⟨"0x01", "0x0a", 0⟩⟩ : LidoValidator)]) ∧
    ∃ c n, (Dict.ofList [((1, 0), 1)] : Dict NodeOperatorGlobalIndex Nat).get? (1, 0) = some c ∧
      ((1, 0), n) ∈ [(((1, 0) : NodeOperatorGlobalIndex), 1)] ∧ c ≤ n :=
  stuck_validators_are_delayed (s := requestedPairSnapshot) (V := requestedPair) (by decide)
    (by decide) (by decide) (by decide) rfl
    ((Dict.forall_mem_items (d := requestedPair) (P := fun g (vs : List LidoValidator) =>
      ∀ v ∈ vs, ∀ e ∈ requestedPairSnapshot.delayedWindowEvents,
        (e.stakingModuleId, e.nodeOperatorId) = g → e.validatorIndex = v.index →
          e.validatorPubkey = v.lidoId.key)).1 (by decide)) rfl rfl rfl

end CatalistOracle
