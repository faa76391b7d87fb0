import CatalistOracle.Impl.Snapshot
import CatalistOracle.Proof.KeySets

/-!
# Exited counts never decrease

`get_exited_catalist_validators` counts, for an operator, the keys that name it and whose validator
in the registry has exited (`get?_getExitedCatalistValidators_of_grouping`). From one report to the
next the keys only grow, a validator's scheduled exit does not move once it is set, module addresses
keep their module ids, and the reference epoch does not go back; then every key counted in the
first snapshot is counted in the second (`exitedKey_mono`), and at least as many times
(`countP_le_countP_of_count_le`).

* `exitedValidators_mono`: the exited count of every operator of the first snapshot is at most its
  exited count in the second;
* `newlyExitedValidators_increase`: when the router has recorded the first report's exited counts,
  the second report carries an operator of the first only with a larger count.
-/

namespace CatalistOracle

/-! ## Counting exited keys -/

/-- Whether `key` names operator `g`, and the validator `validators_keys_dict` reads at its pubkey
has exited at `epoch`. -/
def exitedKey (noOperators : List NodeOperator) (validators : List Validator) (epoch : EpochNumber)
    (g : NodeOperatorGlobalIndex) (key : LidoKey) : Bool :=
  globalNoId (stakingModuleAddress noOperators) key = some g &&
    ((Dict.ofList (validators.map fun v => (v.validator.pubkey, v))).get? key.key).any
      (isExitedValidator · epoch)

/-- After the grouping, an operator's exited count is the number of keys `exitedKey` holds of. -/
theorem get?_getExitedCatalistValidators_of_grouping {keys : List LidoKey}
    {validators : List Validator} {ops : List NodeOperator}
    {R : Dict NodeOperatorGlobalIndex (List LidoValidator)}
    (h : getLidoValidatorsByNodeOperators keys validators ops = some R) (bs : ReferenceBlockStamp)
    {g : NodeOperatorGlobalIndex} (hg : g ∈ ops.map NodeOperator.globalIndex) :
    (getExitedCatalistValidators R bs).get? g =
      some (keys.countP (exitedKey ops validators bs.refEpoch g)) := by
  rw [get?_getExitedCatalistValidators, get?_getLidoValidatorsByNodeOperators h, if_pos hg,
    Option.map_some', List.countP_filter, mergeValidatorsWithKeys, List.countP_filterMap]
  congr 2
  funext key
  cases hd : (Dict.ofList (validators.map fun v => (v.validator.pubkey, v))).get? key.key <;>
    simp [exitedKey, hd, Bool.and_comm]

/-- A count over a list is at most a count over a list holding each of its items as often, of a
predicate that holds wherever the first does. -/
theorem countP_le_countP_of_count_le {α : Type} [DecidableEq α] {p q : α → Bool}
    {l₁ l₂ : List α} (hc : ∀ x ∈ l₁, l₁.count x ≤ l₂.count x) (hpq : ∀ x ∈ l₁, p x → q x) :
    l₁.countP p ≤ l₂.countP q :=
  (List.countP_mono_left hpq).trans ((List.subperm_ext_iff.2 hc).countP_le q)

/-! ## One key in two snapshots -/

section Key

variable {ops₁ ops₂ : List NodeOperator} {key : LidoKey} {g : NodeOperatorGlobalIndex}

/-- A validator exited at `e₁` in the first registry is read at its pubkey, exited at `e₂ ≥ e₁`, in
a second registry with distinct pubkeys that keeps its exit epoch once set. -/
theorem any_isExitedValidator_mono {vs₁ vs₂ : List Validator} {e₁ e₂ : EpochNumber}
    {pubkey : HexStr} (hreg : (vs₂.map (·.validator.pubkey)).Nodup) (he : e₁ ≤ e₂)
    (hvals : ∀ v ∈ vs₁, ∃ v' ∈ vs₂, v'.validator.pubkey = v.validator.pubkey ∧
      (v'.validator.exitEpoch = v.validator.exitEpoch ∨ v.validator.exitEpoch = FAR_FUTURE_EPOCH))
    (h : ((Dict.ofList (vs₁.map fun v => (v.validator.pubkey, v))).get? pubkey).any
      (isExitedValidator · e₁)) :
    ((Dict.ofList (vs₂.map fun v => (v.validator.pubkey, v))).get? pubkey).any
      (isExitedValidator · e₂) := by
  cases hv : (Dict.ofList (vs₁.map fun v => (v.validator.pubkey, v))).get? pubkey with
  | none => simp [hv] at h
  | some v =>
    rw [hv, Option.any_some] at h
    obtain ⟨w, hw, e⟩ := List.mem_map.1 (Dict.mem_of_get?_ofList hv)
    simp only [Prod.mk.injEq] at e
    obtain ⟨rfl, rfl⟩ := e
    obtain ⟨v', hv', hpk, hex⟩ := hvals w hw
    have hsame : v'.validator.exitEpoch = w.validator.exitEpoch :=
      hex.resolve_right (by simpa [isOnExit] using isOnExit_of_isExitedValidator h)
    rw [(get?_validatorsKeysDict hreg).2 ⟨hv', hpk⟩, Option.any_some]
    exact isExitedValidator_mono he (by simpa only [isExitedValidator, hsame] using h)

/-- A key counted for `g` in the first snapshot is counted for `g` in the second, when `g`'s
module has operators in the second and module addresses and ids correspond one to one across
both. -/
theorem exitedKey_mono {vs₁ vs₂ : List Validator} {e₁ e₂ : EpochNumber}
    (hmod : ∀ op ∈ ops₁ ++ ops₂, ∀ op' ∈ ops₁ ++ ops₂, op.stakingModule.id = op'.stakingModule.id ↔
      op.stakingModule.stakingModuleAddress = op'.stakingModule.stakingModuleAddress)
    (hg : ∃ op ∈ ops₂, op.stakingModule.id = g.1)
    (hreg : (vs₂.map (·.validator.pubkey)).Nodup) (he : e₁ ≤ e₂)
    (hvals : ∀ v ∈ vs₁, ∃ v' ∈ vs₂, v'.validator.pubkey = v.validator.pubkey ∧
      (v'.validator.exitEpoch = v.validator.exitEpoch ∨ v.validator.exitEpoch = FAR_FUTURE_EPOCH))
    (h : exitedKey ops₁ vs₁ e₁ g key) : exitedKey ops₂ vs₂ e₂ g key := by
  simp only [exitedKey, Bool.and_eq_true, decide_eq_true_eq] at h ⊢
  obtain ⟨hk, hx⟩ := h
  obtain ⟨⟨op, hop, ha, hid⟩, hi⟩ := (globalNoId_eq_some_iff fun o ho o' ho' =>
    (hmod o (List.mem_append_left _ ho) o' (List.mem_append_left _ ho')).2).1 hk
  obtain ⟨op₂, hop₂, hid₂⟩ := hg
  -- `g`'s module in the second snapshot has the key's address
  have ha₂ : op₂.stakingModule.stakingModuleAddress = key.moduleAddress :=
    ((hmod op₂ (List.mem_append_right _ hop₂) op (List.mem_append_left _ hop)).1
      (hid₂.trans hid.symm)).trans ha
  exact ⟨(globalNoId_eq_some_iff fun o ho o' ho' =>
    (hmod o (List.mem_append_right _ ho) o' (List.mem_append_right _ ho')).2).2
      ⟨⟨op₂, hop₂, ha₂, hid₂⟩, hi⟩, any_isExitedValidator_mono hreg he hvals hx⟩

end Key

/-! ## Two snapshots -/

section Snapshots

variable {s₁ s₂ : Snapshot}

/-- An operator of both snapshots: its exited count in the first is at most that in the second. -/
theorem exitedCount_le (hepoch : s₁.blockstamp.refEpoch ≤ s₂.blockstamp.refEpoch)
    (hreg : (s₂.validators.map (·.validator.pubkey)).Nodup)
    (hmod : ∀ op ∈ s₁.nodeOperators ++ s₂.nodeOperators,
      ∀ op' ∈ s₁.nodeOperators ++ s₂.nodeOperators, op.stakingModule.id = op'.stakingModule.id ↔
        op.stakingModule.stakingModuleAddress = op'.stakingModule.stakingModuleAddress)
    (hkeys : ∀ k ∈ s₁.keys, s₁.keys.count k ≤ s₂.keys.count k)
    (hvals : ∀ v ∈ s₁.validators, ∃ v' ∈ s₂.validators, v'.validator.pubkey = v.validator.pubkey ∧
      (v'.validator.exitEpoch = v.validator.exitEpoch ∨ v.validator.exitEpoch = FAR_FUTURE_EPOCH))
    {R₁ R₂ : Dict NodeOperatorGlobalIndex (List LidoValidator)}
    (hR₁ : s₁.validatorsByNodeOperators = some R₁) (hR₂ : s₂.validatorsByNodeOperators = some R₂)
    {g : NodeOperatorGlobalIndex} (hg₁ : g ∈ s₁.nodeOperators.map NodeOperator.globalIndex)
    (hg₂ : g ∈ s₂.nodeOperators.map NodeOperator.globalIndex) :
    ∃ n₁ n₂, (getExitedCatalistValidators R₁ s₁.blockstamp).get? g = some n₁ ∧
      (getExitedCatalistValidators R₂ s₂.blockstamp).get? g = some n₂ ∧ n₁ ≤ n₂ := by
  obtain ⟨op₂, hop₂, rfl⟩ := List.mem_map.1 hg₂
  exact ⟨_, _, get?_getExitedCatalistValidators_of_grouping hR₁ _ hg₁,
    get?_getExitedCatalistValidators_of_grouping hR₂ _ hg₂,
    countP_le_countP_of_count_le hkeys fun _ _ => exitedKey_mono hmod ⟨op₂, hop₂, rfl⟩ hreg
      (Int.ofNat_le.2 hepoch) hvals⟩

/-- From a snapshot to a later one whose registry has distinct pubkeys, whose module addresses and
module ids correspond one to one with the first's, which has every operator of the first and every
key at least as often, and which has every validator of the first under its pubkey, with the same
exit epoch once one is set: no operator's exited count decreases. -/
theorem exitedValidators_mono {m₁ m₂ : Dict NodeOperatorGlobalIndex Nat}
    (hepoch : s₁.blockstamp.refEpoch ≤ s₂.blockstamp.refEpoch)
    (hreg : (s₂.validators.map (·.validator.pubkey)).Nodup)
    (hmod : ∀ op ∈ s₁.nodeOperators ++ s₂.nodeOperators,
      ∀ op' ∈ s₁.nodeOperators ++ s₂.nodeOperators, op.stakingModule.id = op'.stakingModule.id ↔
        op.stakingModule.stakingModuleAddress = op'.stakingModule.stakingModuleAddress)
    (hops : ∀ op ∈ s₁.nodeOperators,
      op.globalIndex ∈ s₂.nodeOperators.map NodeOperator.globalIndex)
    (hkeys : ∀ k ∈ s₁.keys, s₁.keys.count k ≤ s₂.keys.count k)
    (hvals : ∀ v ∈ s₁.validators, ∃ v' ∈ s₂.validators, v'.validator.pubkey = v.validator.pubkey ∧
      (v'.validator.exitEpoch = v.validator.exitEpoch ∨ v.validator.exitEpoch = FAR_FUTURE_EPOCH))
    (h₁ : s₁.exitedValidators = some m₁) (h₂ : s₂.exitedValidators = some m₂) :
    ∀ g ∈ s₁.nodeOperators.map NodeOperator.globalIndex, ∃ n₁ n₂,
      m₁.get? g = some n₁ ∧ m₂.get? g = some n₂ ∧ n₁ ≤ n₂ := by
  intro g hg
  obtain ⟨R₁, hR₁, rfl⟩ := Option.map_eq_some'.1 h₁
  obtain ⟨R₂, hR₂, rfl⟩ := Option.map_eq_some'.1 h₂
  obtain ⟨op, hop, rfl⟩ := List.mem_map.1 hg
  exact exitedCount_le hepoch hreg hmod hkeys hvals hR₁ hR₂ hg (hops op hop)

/-- Two successive reports, the router having recorded the exited counts of the first: the second's
`get_catalist_newly_exited_validators` reports an operator of the first only with a count above the
recorded one, never a decrease. -/
theorem newlyExitedValidators_increase {m₁ r₂ : Dict NodeOperatorGlobalIndex Nat}
    (hepoch : s₁.blockstamp.refEpoch ≤ s₂.blockstamp.refEpoch)
    (hreg : (s₂.validators.map (·.validator.pubkey)).Nodup)
    (hmod : ∀ op ∈ s₁.nodeOperators ++ s₂.nodeOperators,
      ∀ op' ∈ s₁.nodeOperators ++ s₂.nodeOperators, op.stakingModule.id = op'.stakingModule.id ↔
        op.stakingModule.stakingModuleAddress = op'.stakingModule.stakingModuleAddress)
    (hkeys : ∀ k ∈ s₁.keys, s₁.keys.count k ≤ s₂.keys.count k)
    (hvals : ∀ v ∈ s₁.validators, ∃ v' ∈ s₂.validators, v'.validator.pubkey = v.validator.pubkey ∧
      (v'.validator.exitEpoch = v.validator.exitEpoch ∨ v.validator.exitEpoch = FAR_FUTURE_EPOCH))
    (h₁ : s₁.exitedValidators = some m₁) (h₂ : s₂.newlyExitedValidators = some r₂)
    (hrec : ∀ op ∈ s₂.nodeOperators, op.globalIndex ∈ s₁.nodeOperators.map NodeOperator.globalIndex →
      m₁.get? op.globalIndex = some op.totalExitedValidators) :
    ∀ op ∈ s₂.nodeOperators, op.globalIndex ∈ s₁.nodeOperators.map NodeOperator.globalIndex →
      ∀ n, r₂.get? op.globalIndex = some n → op.totalExitedValidators < n := by
  intro op hop hg n hn
  obtain ⟨R₁, hR₁, rfl⟩ := Option.map_eq_some'.1 h₁
  obtain ⟨R₂, hR₂, hr₂⟩ := Option.bind_eq_some.1 h₂
  obtain ⟨hcount, hne⟩ := findOnlyUpdatedStates_survivor hr₂ hn
  obtain ⟨n₁, n₂, e₁, e₂, hle⟩ :=
    exitedCount_le hepoch hreg hmod hkeys hvals hR₁ hR₂ hg (List.mem_map_of_mem _ hop)
  have hrec₁ : n₁ = op.totalExitedValidators := Option.some.inj (e₁.symm.trans (hrec op hop hg))
  have hn₂ : n₂ = n := Option.some.inj (e₂.symm.trans hcount)
  have := hne op hop rfl
  omega

end Snapshots

/-- `oneModuleSnapshot` 88 epochs later, its validator exited at epoch 300. -/
def exitedLaterSnapshot : Snapshot :=
  { oneModuleSnapshot with
    blockstamp := ⟨12800, 400⟩
    validators := [⟨0, ⟨"0x01", 0, 300⟩⟩] }

theorem exitedValidators_mono_example :
    ∃ m₁ m₂, oneModuleSnapshot.exitedValidators = some m₁ ∧
      exitedLaterSnapshot.exitedValidators = some m₂ ∧
      ∀ g ∈ oneModuleSnapshot.nodeOperators.map NodeOperator.globalIndex, ∃ n₁ n₂,
        m₁.get? g = some n₁ ∧ m₂.get? g = some n₂ ∧ n₁ ≤ n₂ := by
  obtain ⟨m₁, h₁⟩ : ∃ m, oneModuleSnapshot.exitedValidators = some m := ⟨_, rfl⟩
  obtain ⟨m₂, h₂⟩ : ∃ m, exitedLaterSnapshot.exitedValidators = some m := ⟨_, rfl⟩
  exact ⟨m₁, m₂, h₁, h₂, exitedValidators_mono (by decide) (by decide) (by decide) (by decide)
    (by decide) (by decide) h₁ h₂⟩

theorem newlyExitedValidators_increase_example :
    ∃ m₁ r₂, oneModuleSnapshot.exitedValidators = some m₁ ∧
      exitedLaterSnapshot.newlyExitedValidators = some r₂ ∧
      ∀ op ∈ exitedLaterSnapshot.nodeOperators,
        op.globalIndex ∈ oneModuleSnapshot.nodeOperators.map NodeOperator.globalIndex →
        ∀ n, r₂.get? op.globalIndex = some n → op.totalExitedValidators < n := by
  obtain ⟨m₁, h₁⟩ : ∃ m, oneModuleSnapshot.exitedValidators = some m := ⟨_, rfl⟩
  obtain ⟨r₂, h₂⟩ : ∃ r, exitedLaterSnapshot.newlyExitedValidators = some r := ⟨_, rfl⟩
  refine ⟨m₁, r₂, h₁, h₂, newlyExitedValidators_increase (by decide) (by decide) (by decide)
    (by decide) (by decide) h₁ h₂ ?_⟩
  cases h₁
  decide

end CatalistOracle
