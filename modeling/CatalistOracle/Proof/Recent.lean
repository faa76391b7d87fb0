import CatalistOracle.Proof.StuckExited

/-!
# Recently requested and delayed validators

`get_recently_requested_but_not_exited_validators` classifies the validators of each operator with
two predicates that read `ejected_indexes[g]` and `recent_indexes[g]`. Once both are read, they are
`recentlyRequestedButNotExited` and `delayed` (`isValidatorRecentlyRequestedButNotExited_of_get?`,
`isValidatorDelayed_of_get?`), and one operator's pass returns the filter of the first and the count
of the second (`recentlyRequestedButNotExitedOf_of_get?`); the whole loop concatenates those
(`getRecentlyRequestedButNotExitedValidators_eq_some`).

* `recently_requested_and_delayed_of_eq_some`: whenever the loop returns, each operator's block of
  validators and its delayed gauge are its two classes, which cover its requested validators with
  no exit scheduled but overlap on those neither recently requested nor yet eligible, since
  `is_validator_delayed` does not ask for eligibility: a validator can be returned as within grace
  and counted delayed at once, before the docstring's deadline
  (`recently_requested_and_delayed_not_disjoint`);
* `recentlyRequestedButNotExited_iff_epoch`, `refSlot_lt_of_recentlyRequestedButNotExited`: the
  grace period is measured in epochs after flooring the delayed timeout; it ends no later than the
  slot deadline of the docstring, and can end an epoch early (`recently_requested_epoch_floor`).
-/

namespace CatalistOracle

/-- `is_validator_recently_requested_but_not_exited` once `ejected_indexes[g]` is `ejected` and
`recent_indexes[g]` is `recent`. -/
def recentlyRequestedButNotExited (ejected : Int) (recent : List Nat) (delayedTimeoutInSlots : Nat)
    (blockstamp : ReferenceBlockStamp) (chainConfig : ChainConfig) (v : LidoValidator) : Bool :=
  (v.index : Int) ≤ ejected && !isOnExit v.toValidator &&
    (v.index ∈ recent || !validatorEligibleToExit delayedTimeoutInSlots blockstamp chainConfig v)

/-- `is_validator_delayed` once `ejected_indexes[g]` is `ejected` and `recent_indexes[g]` is
`recent`. -/
def delayed (ejected : Int) (recent : List Nat) (v : LidoValidator) : Bool :=
  (v.index : Int) ≤ ejected && !isOnExit v.toValidator && v.index ∉ recent

section Operator

variable {X : Dict NodeOperatorGlobalIndex Int} {R : Dict NodeOperatorGlobalIndex (List Nat)}
  {T : Nat} {bs : ReferenceBlockStamp} {cc : ChainConfig} {g : NodeOperatorGlobalIndex}
  {x : Int} {rs : List Nat}

theorem isValidatorRecentlyRequestedButNotExited_of_get? (hx : X.get? g = some x)
    (hr : R.get? g = some rs) (v : LidoValidator) :
    isValidatorRecentlyRequestedButNotExited X R T bs cc g v =
      some (recentlyRequestedButNotExited x rs T bs cc v) := by
  simp only [isValidatorRecentlyRequestedButNotExited, validatorRequestedToExit,
    validatorRecentlyRequestedToExit, recentlyRequestedButNotExited, hx, hr]
  by_cases h₁ : (v.index : Int) ≤ x <;> by_cases h₂ : isOnExit v.toValidator <;>
    by_cases h₃ : v.index ∈ rs <;> simp [h₁, h₂, h₃]

theorem isValidatorDelayed_of_get? (hx : X.get? g = some x) (hr : R.get? g = some rs)
    (v : LidoValidator) : isValidatorDelayed X R g v = some (delayed x rs v) := by
  simp only [isValidatorDelayed, validatorRequestedToExit, validatorRecentlyRequestedToExit,
    delayed, hx, hr]
  by_cases h₁ : (v.index : Int) ≤ x <;> by_cases h₂ : isOnExit v.toValidator <;> simp [h₁, h₂]

/-- One operator's pass, once its last requested index and recent indexes are read: the validators
`recentlyRequestedButNotExited`, and the number `delayed`. -/
theorem recentlyRequestedButNotExitedOf_of_get? (hx : X.get? g = some x) (hr : R.get? g = some rs)
    (vs : List LidoValidator) :
    recentlyRequestedButNotExitedOf X R T bs cc g vs =
      some (vs.filter (recentlyRequestedButNotExited x rs T bs cc), vs.countP (delayed x rs)) := by
  simp [recentlyRequestedButNotExitedOf,
    pyFilter_eq_some fun v _ => isValidatorRecentlyRequestedButNotExited_of_get? hx hr v,
    pyFilter_eq_some fun v _ => isValidatorDelayed_of_get? hx hr v, List.countP_eq_length_filter]

/-- One operator's pass, once its recent indexes are there, raises exactly when it has a validator
and no last requested index: each predicate reads `ejected_indexes[global_index]` first. -/
theorem recentlyRequestedButNotExitedOf_isSome (hr : R.get? g = some rs) (vs : List LidoValidator) :
    (recentlyRequestedButNotExitedOf X R T bs cc g vs).isSome ↔ vs = [] ∨ g ∈ X.keys := by
  cases hx : X.get? g with
  | none =>
    cases vs <;> simp [recentlyRequestedButNotExitedOf, pyFilter,
      isValidatorRecentlyRequestedButNotExited, validatorRequestedToExit, hx, Dict.get?_eq_none.1 hx]
  | some x => simp [recentlyRequestedButNotExitedOf_of_get? hx hr, Dict.mem_keys.2 ⟨x, hx⟩]

/-- A validator is classified recently requested only after both of its operator's dicts were
read, its last requested index and then its recent indexes. -/
theorem isValidatorRecentlyRequestedButNotExited_eq_some_true {v : LidoValidator}
    (h : isValidatorRecentlyRequestedButNotExited X R T bs cc g v = some true) :
    ∃ ejected recent, X.get? g = some ejected ∧ R.get? g = some recent ∧
      recentlyRequestedButNotExited ejected recent T bs cc v := by
  cases hx : X.get? g with
  | none => simp [isValidatorRecentlyRequestedButNotExited, validatorRequestedToExit, hx] at h
  | some x =>
    cases hr : R.get? g with
    | none =>
      simp [isValidatorRecentlyRequestedButNotExited, validatorRequestedToExit,
        validatorRecentlyRequestedToExit, hx, hr] at h
      split_ifs at h <;> cases h
    | some rs =>
      rw [isValidatorRecentlyRequestedButNotExited_of_get? hx hr, Option.some.injEq] at h
      exact ⟨x, rs, rfl, rfl, h⟩

end Operator

/-- The loop returns each operator's validators in turn, and one gauge write per operator. -/
theorem getRecentlyRequestedButNotExitedValidators_eq_some
    {V : Dict NodeOperatorGlobalIndex (List LidoValidator)} {X : Dict NodeOperatorGlobalIndex Int}
    {R : Dict NodeOperatorGlobalIndex (List Nat)} {T : Nat} {bs : ReferenceBlockStamp}
    {cc : ChainConfig} {F : NodeOperatorGlobalIndex × List LidoValidator → List LidoValidator × Nat}
    (hF : ∀ p ∈ V.items, recentlyRequestedButNotExitedOf X R T bs cc p.1 p.2 = some (F p)) :
    getRecentlyRequestedButNotExitedValidators V X R T bs cc =
      some (V.items.flatMap fun p => (F p).1, V.items.map fun p => (p.1, (F p).2)) := by
  suffices ∀ (items : List _) acc, (∀ p ∈ items, recentlyRequestedButNotExitedOf X R T bs cc p.1 p.2 =
      some (F p)) → items.foldlM (fun acc p => do
        let r ← recentlyRequestedButNotExitedOf X R T bs cc p.1 p.2
        pure (acc.1 ++ r.1, acc.2 ++ [(p.1, r.2)])) acc =
      some (acc.1 ++ items.flatMap fun p => (F p).1, acc.2 ++ items.map fun p => (p.1, (F p).2)) from
    this V.items ([], []) hF
  intro items
  induction items with
  | nil => simp
  | cons p items ih =>
    intro acc h
    rw [List.foldlM_cons, h p (List.mem_cons_self _ _)]
    exact (ih _ fun q hq => h q (List.mem_cons_of_mem _ hq)).trans (by simp)

section Loop

variable {V : Dict NodeOperatorGlobalIndex (List LidoValidator)}
  {X : Dict NodeOperatorGlobalIndex Int} {R : Dict NodeOperatorGlobalIndex (List Nat)} {T : Nat}
  {bs : ReferenceBlockStamp} {cc : ChainConfig}

/-- The loop raises exactly when some operator's pass does. -/
theorem getRecentlyRequestedButNotExitedValidators_isSome_iff :
    (getRecentlyRequestedButNotExitedValidators V X R T bs cc).isSome ↔
      ∀ p ∈ V.items, (recentlyRequestedButNotExitedOf X R T bs cc p.1 p.2).isSome := by
  rw [getRecentlyRequestedButNotExitedValidators]
  generalize (([], []) : List LidoValidator × List (NodeOperatorGlobalIndex × Nat)) = acc
  generalize V.items = items
  induction items generalizing acc with
  | nil => simp
  | cons p items ih =>
    rw [List.foldlM_cons, List.forall_mem_cons]
    cases hp : recentlyRequestedButNotExitedOf X R T bs cc p.1 p.2 with
    | none => simp [hp]
    | some r => exact (ih (acc.1 ++ r.1, acc.2 ++ [(p.1, r.2)])).trans (and_iff_right rfl).symm

/-- When the loop returns, it returned every operator's pass, in turn. -/
theorem getRecentlyRequestedButNotExitedValidators_passes
    {out : List LidoValidator × List (NodeOperatorGlobalIndex × Nat)}
    (h : getRecentlyRequestedButNotExitedValidators V X R T bs cc = some out) :
    ∃ F : NodeOperatorGlobalIndex × List LidoValidator → List LidoValidator × Nat,
      (∀ p ∈ V.items, recentlyRequestedButNotExitedOf X R T bs cc p.1 p.2 = some (F p)) ∧
      out = (V.items.flatMap fun p => (F p).1, V.items.map fun p => (p.1, (F p).2)) := by
  have hall := getRecentlyRequestedButNotExitedValidators_isSome_iff.1 (by rw [h]; rfl)
  have hF : ∀ p ∈ V.items, recentlyRequestedButNotExitedOf X R T bs cc p.1 p.2 =
      some ((recentlyRequestedButNotExitedOf X R T bs cc p.1 p.2).getD ([], 0)) := fun p hp => by
    obtain ⟨r, hr⟩ := Option.isSome_iff_exists.1 (hall p hp)
    rw [hr]; rfl
  exact ⟨_, hF,
    Option.some.inj (h.symm.trans (getRecentlyRequestedButNotExitedValidators_eq_some hF))⟩

/-- A validator returned is one of an operator's validators, recently requested by that operator's
last requested index and recent indexes. -/
theorem mem_getRecentlyRequestedButNotExitedValidators {L : List LidoValidator}
    {gauges : List (NodeOperatorGlobalIndex × Nat)}
    (h : getRecentlyRequestedButNotExitedValidators V X R T bs cc = some (L, gauges))
    {v : LidoValidator} (hv : v ∈ L) :
    ∃ g vs x rs, V.get? g = some vs ∧ v ∈ vs ∧ X.get? g = some x ∧ R.get? g = some rs ∧
      recentlyRequestedButNotExited x rs T bs cc v := by
  obtain ⟨F, hF, hout⟩ := getRecentlyRequestedButNotExitedValidators_passes h
  obtain ⟨p, hp, hvp⟩ := List.mem_flatMap.1 ((Prod.mk.inj hout).1 ▸ hv)
  have hpass := hF p hp
  simp only [recentlyRequestedButNotExitedOf, Option.bind_eq_bind, Option.bind_eq_some,
    Option.pure_def, Option.some.injEq] at hpass
  obtain ⟨l, hl, d, -, hFp⟩ := hpass
  obtain ⟨hvs, hrr⟩ := mem_of_mem_pyFilter hl (hFp ▸ hvp)
  obtain ⟨x, rs, hx, hr, hrec⟩ := isValidatorRecentlyRequestedButNotExited_eq_some_true hrr
  exact ⟨p.1, p.2, x, rs, Dict.mem_items.1 hp, hvs, hx, hr, hrec⟩

/-- Every operator has its delayed gauge; once its two dicts are read, the gauge counts its
validators `delayed`. -/
theorem mem_gauges_getRecentlyRequestedButNotExitedValidators {L : List LidoValidator}
    {gauges : List (NodeOperatorGlobalIndex × Nat)}
    (h : getRecentlyRequestedButNotExitedValidators V X R T bs cc = some (L, gauges))
    {g : NodeOperatorGlobalIndex} {vs : List LidoValidator} (hg : V.get? g = some vs) :
    ∃ n, (g, n) ∈ gauges ∧ ∀ x rs, X.get? g = some x → R.get? g = some rs →
      n = vs.countP (delayed x rs) := by
  obtain ⟨F, hF, hout⟩ := getRecentlyRequestedButNotExitedValidators_passes h
  have hp : (g, vs) ∈ V.items := Dict.mem_items.2 hg
  refine ⟨(F (g, vs)).2, (Prod.mk.inj hout).2 ▸ List.mem_map_of_mem _ hp, fun x rs hx hr => ?_⟩
  have := (hF _ hp).symm.trans (recentlyRequestedButNotExitedOf_of_get? hx hr vs)
  rw [Option.some.inj this]

end Loop

/-! ## The two classes -/

section Classes

variable {x : Int} {rs : List Nat} {T : Nat} {bs : ReferenceBlockStamp} {cc : ChainConfig}

/-- Between them `is_validator_recently_requested_but_not_exited` and `is_validator_delayed` take
every requested validator with no exit scheduled. -/
theorem recentlyRequestedButNotExited_or_delayed_iff (v : LidoValidator) :
    (recentlyRequestedButNotExited x rs T bs cc v ∨ delayed x rs v) ↔
      (v.index : Int) ≤ x ∧ v.validator.exitEpoch = FAR_FUTURE_EPOCH := by
  simp only [recentlyRequestedButNotExited, delayed, isOnExit]
  cases validatorEligibleToExit T bs cc v <;> simp +contextual [← and_or_left, em]

/-- They share the requested validators with no exit scheduled that are neither recently requested
nor eligible to exit at `ref_epoch - delayed_timeout // slots_per_epoch`: `is_validator_delayed`
does not ask for eligibility. -/
theorem recentlyRequestedButNotExited_and_delayed_iff (v : LidoValidator) :
    (recentlyRequestedButNotExited x rs T bs cc v ∧ delayed x rs v) ↔
      (v.index : Int) ≤ x ∧ v.validator.exitEpoch = FAR_FUTURE_EPOCH ∧ v.index ∉ rs ∧
        validatorEligibleToExit T bs cc v = false := by
  simp only [recentlyRequestedButNotExited, delayed, isOnExit]
  cases validatorEligibleToExit T bs cc v <;> simp +contextual [and_assoc]

/-- So the validators returned and the delayed count add up to the requested validators with no
exit scheduled plus that overlap. -/
theorem length_filter_add_countP_delayed (vs : List LidoValidator) :
    (vs.filter (recentlyRequestedButNotExited x rs T bs cc)).length + vs.countP (delayed x rs) =
      vs.countP (fun v => (v.index : Int) ≤ x ∧ v.validator.exitEpoch = FAR_FUTURE_EPOCH) +
      vs.countP (fun v => (v.index : Int) ≤ x ∧ v.validator.exitEpoch = FAR_FUTURE_EPOCH ∧
        v.index ∉ rs ∧ validatorEligibleToExit T bs cc v = false) := by
  rw [← List.countP_eq_length_filter, countP_add_countP]
  congr 1 <;> refine List.countP_congr fun v _ => ?_
  · simpa using recentlyRequestedButNotExited_or_delayed_iff v
  · simpa using recentlyRequestedButNotExited_and_delayed_iff v

end Classes

/-- Whenever `get_recently_requested_but_not_exited_validators` returns, it returned each operator's
block of validators in turn, and one delayed gauge per operator. For an operator whose last
requested index and recent indexes are there, its block is its validators
`recentlyRequestedButNotExited` and its gauge the number `delayed`; the two classes cover its
requested validators with no exit scheduled, overlap on those neither recently requested nor
eligible to exit, and so the block's length and the gauge add up to the first number plus the
second. -/
theorem recently_requested_and_delayed_of_eq_some
    {V : Dict NodeOperatorGlobalIndex (List LidoValidator)} {X : Dict NodeOperatorGlobalIndex Int}
    {R : Dict NodeOperatorGlobalIndex (List Nat)} {T : Nat} {bs : ReferenceBlockStamp}
    {cc : ChainConfig} {L : List LidoValidator} {gauges : List (NodeOperatorGlobalIndex × Nat)}
    (h : getRecentlyRequestedButNotExitedValidators V X R T bs cc = some (L, gauges)) :
    ∃ F : NodeOperatorGlobalIndex × List LidoValidator → List LidoValidator × Nat,
      L = V.items.flatMap (fun p => (F p).1) ∧ gauges = V.items.map (fun p => (p.1, (F p).2)) ∧
      ∀ g vs x rs, V.get? g = some vs → X.get? g = some x → R.get? g = some rs →
        F (g, vs) =
          (vs.filter (recentlyRequestedButNotExited x rs T bs cc), vs.countP (delayed x rs)) ∧
        (∀ v, (recentlyRequestedButNotExited x rs T bs cc v ∨ delayed x rs v) ↔
          (v.index : Int) ≤ x ∧ v.validator.exitEpoch = FAR_FUTURE_EPOCH) ∧
        (∀ v, (recentlyRequestedButNotExited x rs T bs cc v ∧ delayed x rs v) ↔
          (v.index : Int) ≤ x ∧ v.validator.exitEpoch = FAR_FUTURE_EPOCH ∧ v.index ∉ rs ∧
            validatorEligibleToExit T bs cc v = false) ∧
        (F (g, vs)).1.length + (F (g, vs)).2 =
          vs.countP (fun v => (v.index : Int) ≤ x ∧ v.validator.exitEpoch = FAR_FUTURE_EPOCH) +
          vs.countP (fun v => (v.index : Int) ≤ x ∧ v.validator.exitEpoch = FAR_FUTURE_EPOCH ∧
            v.index ∉ rs ∧ validatorEligibleToExit T bs cc v = false) := by
  obtain ⟨F, hF, hout⟩ := getRecentlyRequestedButNotExitedValidators_passes h
  obtain ⟨hL, hgauges⟩ := Prod.mk.inj hout
  refine ⟨F, hL, hgauges, fun g vs x rs hg hx hr => ?_⟩
  have hFg : F (g, vs) =
      (vs.filter (recentlyRequestedButNotExited x rs T bs cc), vs.countP (delayed x rs)) :=
    Option.some.inj ((hF _ (Dict.mem_items.2 hg)).symm.trans
      (recentlyRequestedButNotExitedOf_of_get? hx hr vs))
  exact ⟨hFg, recentlyRequestedButNotExited_or_delayed_iff,
    recentlyRequestedButNotExited_and_delayed_iff, hFg ▸ length_filter_add_countP_delayed vs⟩

/-- No recent exit requests for operator 0 of module 1. -/
def noRecentIndexes : Dict NodeOperatorGlobalIndex (List Nat) := Dict.ofList [((1, 0), [])]

theorem recently_requested_and_delayed_of_eq_some_example :
    ∃ F : NodeOperatorGlobalIndex × List LidoValidator → List LidoValidator × Nat,
      [⟨⟨0, ⟨"0x01", 0, FAR_FUTURE_EPOCH⟩⟩, ⟨"0x01", "0x0a", 0⟩⟩] =
        oneActiveValidator.items.flatMap (fun p => (F p).1) ∧
      [(((1, 0) : NodeOperatorGlobalIndex), 1)] =
        oneActiveValidator.items.map (fun p => (p.1, (F p).2)) ∧
      ∀ g vs x rs, oneActiveValidator.get? g = some vs → lastRequestedZero.get? g = some x →
          noRecentIndexes.get? g = some rs →
        F (g, vs) = (vs.filter (recentlyRequestedButNotExited x rs 0 ⟨0, 0⟩ slotsPerEpoch32),
          vs.countP (delayed x rs)) ∧
        (∀ v, (recentlyRequestedButNotExited x rs 0 ⟨0, 0⟩ slotsPerEpoch32 v ∨
            delayed x rs v) ↔
          (v.index : Int) ≤ x ∧ v.validator.exitEpoch = FAR_FUTURE_EPOCH) ∧
        (∀ v, (recentlyRequestedButNotExited x rs 0 ⟨0, 0⟩ slotsPerEpoch32 v ∧
            delayed x rs v) ↔
          (v.index : Int) ≤ x ∧ v.validator.exitEpoch = FAR_FUTURE_EPOCH ∧ v.index ∉ rs ∧
            validatorEligibleToExit 0 ⟨0, 0⟩ slotsPerEpoch32 v = false) ∧
        (F (g, vs)).1.length + (F (g, vs)).2 =
          vs.countP (fun v => (v.index : Int) ≤ x ∧ v.validator.exitEpoch = FAR_FUTURE_EPOCH) +
          vs.countP (fun v => (v.index : Int) ≤ x ∧ v.validator.exitEpoch = FAR_FUTURE_EPOCH ∧
            v.index ∉ rs ∧ validatorEligibleToExit 0 ⟨0, 0⟩ slotsPerEpoch32 v = false) :=
  recently_requested_and_delayed_of_eq_some (by decide)

/-- At slot 0 of epoch 0, with a delayed timeout of 0, the validator of `oneActiveValidator`,
requested and not recently, is not yet eligible to exit: the loop returns it as within grace, and
sets its operator's delayed gauge to 1, while the docstring's deadline
`(0 + SHARD_COMMITTEE_PERIOD) * 32 + 0` is still ahead. -/
theorem recently_requested_and_delayed_not_disjoint :
    getRecentlyRequestedButNotExitedValidators oneActiveValidator lastRequestedZero noRecentIndexes
        0 ⟨0, 0⟩ slotsPerEpoch32 =
      some ([⟨⟨0, ⟨"0x01", 0, FAR_FUTURE_EPOCH⟩⟩, ⟨"0x01", "0x0a", 0⟩⟩],
        [((1, 0), 1)]) ∧
      0 < (0 + SHARD_COMMITTEE_PERIOD) * 32 + 0 := by
  decide

/-! ## The grace period -/

section Grace

variable {x : Int} {rs : List Nat} {T : Nat} {bs : ReferenceBlockStamp} {cc : ChainConfig}
  {v : LidoValidator}

/-- A requested validator with no exit scheduled and no recent request stays in grace exactly
while `ref_epoch - delayed_timeout // slots_per_epoch` is before its activation epoch plus
`SHARD_COMMITTEE_PERIOD`, or not below `FAR_FUTURE_EPOCH`. -/
theorem recentlyRequestedButNotExited_iff_epoch (hx : (v.index : Int) ≤ x)
    (he : v.validator.exitEpoch = FAR_FUTURE_EPOCH) (hr : v.index ∉ rs) :
    recentlyRequestedButNotExited x rs T bs cc v ↔
      (bs.refEpoch : Int) - (T / cc.slotsPerEpoch : Nat) <
          v.validator.activationEpoch + SHARD_COMMITTEE_PERIOD ∨
        (FAR_FUTURE_EPOCH : Int) ≤ (bs.refEpoch : Int) - (T / cc.slotsPerEpoch : Nat) := by
  simp only [recentlyRequestedButNotExited, validatorEligibleToExit, isValidatorEligibleToExit,
    isActiveValidator, isOnExit, he, hx, hr, decide_False, Bool.and_eq_true, decide_eq_true_eq,
    true_and, Bool.false_or, Bool.not_eq_eq_eq_not, Bool.not_true, decide_eq_false_iff_not]
  dsimp only [EpochNumber]
  omega

/-- In grace by that epoch rule, at a reference slot of the reference epoch, a validator is before
the slot deadline of the docstring, `(activation_epoch + SHARD_COMMITTEE_PERIOD) * slots_per_epoch +
delayed_timeout`. -/
theorem refSlot_lt_of_recentlyRequestedButNotExited (hx : (v.index : Int) ≤ x)
    (he : v.validator.exitEpoch = FAR_FUTURE_EPOCH) (hr : v.index ∉ rs)
    (hepoch : bs.refEpoch = bs.refSlot / cc.slotsPerEpoch) (hfar : bs.refEpoch < FAR_FUTURE_EPOCH)
    (h : recentlyRequestedButNotExited x rs T bs cc v) :
    bs.refSlot < (v.validator.activationEpoch + SHARD_COMMITTEE_PERIOD) * cc.slotsPerEpoch + T := by
  have hlt : bs.refSlot / cc.slotsPerEpoch <
      v.validator.activationEpoch + SHARD_COMMITTEE_PERIOD + T / cc.slotsPerEpoch := by
    have := (recentlyRequestedButNotExited_iff_epoch hx he hr).1 h
    rw [hepoch] at this hfar
    generalize bs.refSlot / cc.slotsPerEpoch = q at this hfar ⊢
    generalize T / cc.slotsPerEpoch = k at this ⊢
    omega
  calc bs.refSlot
      < (v.validator.activationEpoch + SHARD_COMMITTEE_PERIOD + T / cc.slotsPerEpoch) *
          cc.slotsPerEpoch := (Nat.div_lt_iff_lt_mul cc.slotsPerEpoch_pos).1 hlt
    _ ≤ (v.validator.activationEpoch + SHARD_COMMITTEE_PERIOD) * cc.slotsPerEpoch + T := by
      rw [Nat.add_mul]; exact Nat.add_le_add_left (Nat.div_mul_le_self T _) _

end Grace

theorem refSlot_lt_of_recentlyRequestedButNotExited_example :
    (0 : Nat) < (0 + SHARD_COMMITTEE_PERIOD) * 32 + 0 :=
  @refSlot_lt_of_recentlyRequestedButNotExited 0 [] 0 ⟨0, 0⟩ slotsPerEpoch32
    ⟨⟨0, ⟨"0x01", 0, FAR_FUTURE_EPOCH⟩⟩, ⟨"0x01", "0x0a", 0⟩⟩ (by decide) rfl (by decide) rfl
    (by decide) (by decide)

/-- A delayed timeout of one slot, at slot 8192 of epoch 256: the validator of `oneActiveValidator`
is before its slot deadline `(0 + SHARD_COMMITTEE_PERIOD) * 32 + 1`, but the timeout floors to no
epoch, the validator is eligible at epoch 256, and it is not returned. -/
theorem recently_requested_epoch_floor :
    getRecentlyRequestedButNotExitedValidators oneActiveValidator lastRequestedZero noRecentIndexes 1
        ⟨8192, 256⟩ slotsPerEpoch32 = some ([], [((1, 0), 1)]) ∧
      8192 ≤ (0 + SHARD_COMMITTEE_PERIOD) * 32 + 1 := by
  decide

end CatalistOracle
