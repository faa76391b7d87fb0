import CatalistOracle.Impl.LidoValidators

/-!
# Grouping the merged validators by operator

`get_lido_validators_by_node_operators` starts from an empty list for every operator and appends
each merged validator to the list of the operator its key names. The loop, one step at a time
(`get?_groupValidator`) and over a whole list (`get?_foldlM_groupValidator`), gives:

* `getLidoValidatorsByNodeOperators_isSome_iff`: it returns exactly when every merged validator's
  key has the module address of some operator's module; otherwise the `KeyError` of
  `staking_module_address[...]` escapes (`getLidoValidatorsByNodeOperators_unknown_module_raises`);
* `get?_getLidoValidatorsByNodeOperators`: when it returns, each operator's list is the merged
  validators whose key names it, in order, and there is no other key;
* `getLidoValidatorsByNodeOperators_counts_keys`: a registry validator is in the lists once per key
  with its pubkey that names an operator, so two such keys put it in two lists
  (`getLidoValidatorsByNodeOperators_repeated_key`).
-/

namespace CatalistOracle

variable {sma : Dict HexAddress StakingModuleId} {d d' : Dict NodeOperatorGlobalIndex (List LidoValidator)}

theorem get?_groupValidator {v : LidoValidator} (h : groupValidator sma d v = some d')
    (g : NodeOperatorGlobalIndex) :
    d'.get? g = (d.get? g).map fun l => if globalNoId sma v.lidoId = some g then l ++ [v] else l := by
  simp only [groupValidator, Option.bind_eq_bind, Option.bind_eq_some] at h
  obtain ⟨g', hg', h⟩ := h
  rw [hg']
  cases hl : d.get? g' <;> simp only [hl] at h <;> cases h <;> rcases eq_or_ne g' g with rfl | e <;> simp [*, Ne.symm]

theorem groupValidator_isSome {v : LidoValidator} :
    (groupValidator sma d v).isSome ↔ (globalNoId sma v.lidoId).isSome := by
  unfold groupValidator
  cases globalNoId sma v.lidoId with
  | none => rfl
  | some g => dsimp only [Option.bind_eq_bind, Option.bind]; split <;> rfl

/-- The loop, run over `vs` from `d`: each list grows by the validators whose key names its
operator, in order. -/
theorem get?_foldlM_groupValidator {vs : List LidoValidator}
    (h : vs.foldlM (groupValidator sma) d = some d') (g : NodeOperatorGlobalIndex) :
    d'.get? g = (d.get? g).map (· ++ vs.filter (globalNoId sma ·.lidoId = some g)) := by
  induction vs generalizing d with
  | nil => cases h; simp
  | cons v vs ih =>
    simp only [List.foldlM_cons, Option.bind_eq_bind, Option.bind_eq_some] at h
    obtain ⟨d₁, h₁, h⟩ := h
    rw [ih h, get?_groupValidator h₁, Option.map_map]
    congr 1; ext l; by_cases e : globalNoId sma v.lidoId = some g <;> simp [e]

theorem foldlM_groupValidator_isSome {vs : List LidoValidator} :
    (vs.foldlM (groupValidator sma) d).isSome ↔ ∀ v ∈ vs, (globalNoId sma v.lidoId).isSome := by
  induction vs generalizing d with
  | nil => simp
  | cons v vs ih =>
    rw [List.foldlM_cons, List.forall_mem_cons, ← groupValidator_isSome]
    cases groupValidator sma d v <;> simp [ih]

theorem get?_ofList_globalIndex (ops : List NodeOperator) (g : NodeOperatorGlobalIndex) :
    (Dict.ofList (ops.map fun op => (op.globalIndex, ([] : List LidoValidator)))).get? g =
      if g ∈ ops.map NodeOperator.globalIndex then some [] else none := by
  split <;> rename_i hg
  · exact Dict.get?_ofList_of_forall (by simpa using hg) (by simp)
  · exact Dict.get?_eq_none.2 (by simpa [Dict.mem_keys_ofList] using hg)

/-- The list of each operator: the merged validators whose key names it, in the order of the keys;
no other key. -/
theorem get?_getLidoValidatorsByNodeOperators {keys : List LidoKey} {validators : List Validator}
    {ops : List NodeOperator} {R : Dict NodeOperatorGlobalIndex (List LidoValidator)}
    (h : getLidoValidatorsByNodeOperators keys validators ops = some R) (g : NodeOperatorGlobalIndex) :
    R.get? g = if g ∈ ops.map NodeOperator.globalIndex then
      some ((mergeValidatorsWithKeys keys validators).filter
        (globalNoId (stakingModuleAddress ops) ·.lidoId = some g)) else none := by
  rw [get?_foldlM_groupValidator h, get?_ofList_globalIndex]
  split <;> simp

theorem mem_keys_getLidoValidatorsByNodeOperators {keys : List LidoKey}
    {validators : List Validator} {ops : List NodeOperator}
    {R : Dict NodeOperatorGlobalIndex (List LidoValidator)}
    (h : getLidoValidatorsByNodeOperators keys validators ops = some R) (g : NodeOperatorGlobalIndex) :
    g ∈ R.keys ↔ g ∈ ops.map NodeOperator.globalIndex := by
  rw [Dict.mem_keys, get?_getLidoValidatorsByNodeOperators h]
  split <;> simp [*]

/-- A merged validator is listed under one operator at most: the one its key names. -/
theorem eq_of_mem_getLidoValidatorsByNodeOperators {keys : List LidoKey}
    {validators : List Validator} {ops : List NodeOperator}
    {R : Dict NodeOperatorGlobalIndex (List LidoValidator)}
    (h : getLidoValidatorsByNodeOperators keys validators ops = some R)
    {g g' : NodeOperatorGlobalIndex} {vs vs' : List LidoValidator} (hg : R.get? g = some vs)
    (hg' : R.get? g' = some vs') {v : LidoValidator} (hv : v ∈ vs) (hv' : v ∈ vs') : g = g' := by
  rw [get?_getLidoValidatorsByNodeOperators h] at hg hg'
  split at hg <;> split at hg' <;> cases hg <;> cases hg'
  simp only [List.mem_filter, decide_eq_true_eq] at hv hv'
  exact Option.some.inj (hv.2.symm.trans hv'.2)

/-- The grouping returns exactly when the module address of every merged validator's key is the
address of some operator's module. -/
theorem getLidoValidatorsByNodeOperators_isSome_iff {keys : List LidoKey}
    {validators : List Validator} {ops : List NodeOperator} :
    (getLidoValidatorsByNodeOperators keys validators ops).isSome ↔
      ∀ v ∈ mergeValidatorsWithKeys keys validators,
        v.lidoId.moduleAddress ∈ ops.map (·.stakingModule.stakingModuleAddress) := by
  rw [getLidoValidatorsByNodeOperators, foldlM_groupValidator_isSome]
  refine forall₂_congr fun v _ => ?_
  rw [globalNoId, Option.isSome_map', ← Option.ne_none_iff_isSome, Ne, Dict.get?_eq_none,
    not_not, stakingModuleAddress, Dict.mem_keys_ofList, List.map_map]
  rfl

/-- A key of a module no operator belongs to: the grouping raises `KeyError` instead of logging
and skipping it. -/
theorem getLidoValidatorsByNodeOperators_unknown_module_raises :
    getLidoValidatorsByNodeOperators [⟨"0x01", "0x0b", 0⟩] [⟨7, ⟨"0x01", 0, FAR_FUTURE_EPOCH⟩⟩]
      [⟨0, 0, 0, ⟨1, "0x0a"⟩⟩] = none := by
  decide

/-! ## The operator a key names -/

/-- When the operators of one address are of one module, a key names `g` exactly when an operator
of `g`'s module has the key's address and the key's operator index is `g`'s. -/
theorem globalNoId_eq_some_iff {ops : List NodeOperator} {key : LidoKey}
    {g : NodeOperatorGlobalIndex}
    (hfun : ∀ op ∈ ops, ∀ op' ∈ ops, op.stakingModule.stakingModuleAddress =
      op'.stakingModule.stakingModuleAddress → op.stakingModule.id = op'.stakingModule.id) :
    globalNoId (stakingModuleAddress ops) key = some g ↔
      (∃ op ∈ ops, op.stakingModule.stakingModuleAddress = key.moduleAddress ∧
        op.stakingModule.id = g.1) ∧ key.operatorIndex = g.2 := by
  simp only [globalNoId, Option.map_eq_some']
  constructor
  · rintro ⟨id, hid, rfl⟩
    obtain ⟨op, hop, e⟩ := List.mem_map.1 (Dict.mem_of_get?_ofList hid)
    simp only [Prod.mk.injEq] at e
    exact ⟨⟨op, hop, e.1, e.2⟩, rfl⟩
  · rintro ⟨⟨op, hop, ha, hid⟩, hi⟩
    refine ⟨g.1, Dict.get?_ofList_of_forall ?_ ?_, by rw [hi]⟩
    · simpa [List.map_map] using ⟨op, hop, ha⟩
    · simp only [List.mem_map]
      rintro _ ⟨op', hop', rfl⟩ e
      exact (hfun op' hop' op hop (e.trans ha.symm)).trans hid

/-! ## Counting the grouped validators -/

/-- Whether a key names an operator the router has: its module address is some operator's
module's, and the pair it names is some operator's global index. -/
def namesNodeOperator (noOperators : List NodeOperator) (key : LidoKey) : Bool :=
  (globalNoId (stakingModuleAddress noOperators) key).any (· ∈ noOperators.map NodeOperator.globalIndex)

variable {keys : List LidoKey} {validators : List Validator} {ops : List NodeOperator}
  {R : Dict NodeOperatorGlobalIndex (List LidoValidator)}

theorem mem_items_getLidoValidatorsByNodeOperators
    (h : getLidoValidatorsByNodeOperators keys validators ops = some R)
    {p : NodeOperatorGlobalIndex × List LidoValidator} (hp : p ∈ R.items) :
    p.2 = (mergeValidatorsWithKeys keys validators).filter
      (globalNoId (stakingModuleAddress ops) ·.lidoId = some p.1) := by
  have := Dict.mem_items.1 hp
  rw [get?_getLidoValidatorsByNodeOperators h] at this
  split at this <;> simp_all

/-- Counted over all the lists together, the entries `q` holds of are the merged validators `q`
holds of whose key names an operator the router has. -/
theorem countP_flatMap_getLidoValidatorsByNodeOperators
    (h : getLidoValidatorsByNodeOperators keys validators ops = some R) (q : LidoValidator → Bool) :
    (R.items.flatMap (·.2)).countP q =
      (mergeValidatorsWithKeys keys validators).countP fun lv => q lv && namesNodeOperator ops lv.lidoId := by
  rw [List.flatMap, List.countP_flatten, List.map_map, List.map_congr_left fun p hp => by
    rw [Function.comp_apply, mem_items_getLidoValidatorsByNodeOperators h hp, List.countP_filter],
    sum_countP_eq_countP_any _ _ _ R.nodup]
  refine List.countP_congr fun lv _ => ?_
  simp only [namesNodeOperator, Bool.and_eq_true]
  cases globalNoId (stakingModuleAddress ops) lv.lidoId <;>
    simp [Dict.map_fst_items, mem_keys_getLidoValidatorsByNodeOperators h]

/-- With pairwise-distinct pubkeys, `validators_keys_dict` reads each validator at its pubkey. -/
theorem get?_validatorsKeysDict (hreg : (validators.map (·.validator.pubkey)).Nodup)
    {pubkey : HexStr} {v : Validator} :
    (Dict.ofList (validators.map fun v => (v.validator.pubkey, v))).get? pubkey = some v ↔
      v ∈ validators ∧ v.validator.pubkey = pubkey := by
  rw [← Dict.mem_items, Dict.items_ofList (by simpa using hreg)]
  simp only [List.mem_map, Prod.mk.injEq]
  constructor
  · rintro ⟨w, hw, e, rfl⟩; exact ⟨hw, e⟩
  · rintro ⟨hv, e⟩; exact ⟨v, hv, e, rfl⟩

/-- Every entry of an operator's list is a registry validator with the pubkey of its own key, and
that key is one of `keys` and names the operator. -/
theorem mem_getLidoValidatorsByNodeOperators
    (h : getLidoValidatorsByNodeOperators keys validators ops = some R)
    {p : NodeOperatorGlobalIndex × List LidoValidator} (hp : p ∈ R.items) {lv : LidoValidator}
    (hlv : lv ∈ p.2) :
    lv.lidoId ∈ keys ∧ lv.toValidator ∈ validators ∧ lv.validator.pubkey = lv.lidoId.key ∧
      globalNoId (stakingModuleAddress ops) lv.lidoId = some p.1 := by
  rw [mem_items_getLidoValidatorsByNodeOperators h hp, List.mem_filter,
    mem_mergeValidatorsWithKeys] at hlv
  obtain ⟨⟨hk, hd⟩, hg⟩ := hlv
  obtain ⟨w, hw, e⟩ := List.mem_map.1 (Dict.mem_of_get?_ofList hd)
  simp only [Prod.mk.injEq] at e
  exact ⟨hk, e.2 ▸ hw, e.2 ▸ e.1, by simpa using hg⟩

/-- What the grouping does with repeated keys: with pairwise-distinct pubkeys in the registry, the
lists of `get_lido_validators_by_node_operators` hold each registry validator once for every key
with its pubkey that names an operator the router has, each time in the list of that key's
operator, and nothing else. -/
theorem getLidoValidatorsByNodeOperators_counts_keys
    (hreg : (validators.map (·.validator.pubkey)).Nodup)
    (h : getLidoValidatorsByNodeOperators keys validators ops = some R) :
    (∀ v ∈ validators, (R.items.flatMap (·.2)).countP (·.toValidator = v) =
      keys.countP fun k => k.key = v.validator.pubkey && namesNodeOperator ops k) ∧
    ∀ p ∈ R.items, ∀ lv ∈ p.2, lv.lidoId ∈ keys ∧ lv.toValidator ∈ validators ∧
      lv.validator.pubkey = lv.lidoId.key ∧ globalNoId (stakingModuleAddress ops) lv.lidoId = some p.1 := by
  refine ⟨fun v hv => ?_, fun p hp lv hlv => mem_getLidoValidatorsByNodeOperators h hp hlv⟩
  rw [countP_flatMap_getLidoValidatorsByNodeOperators h, mergeValidatorsWithKeys,
    List.countP_filterMap]
  refine List.countP_congr fun k _ => ?_
  cases hd : (Dict.ofList (validators.map fun v => (v.validator.pubkey, v))).get? k.key with
  | none =>
    have : k.key ≠ v.validator.pubkey := fun e => by
      simp [(get?_validatorsKeysDict hreg).2 ⟨hv, e.symm⟩] at hd
    simp [this]
  | some w =>
    obtain ⟨hw, e⟩ := (get?_validatorsKeysDict hreg).1 hd
    have : w = v ↔ k.key = v.validator.pubkey :=
      ⟨fun h => h ▸ e.symm, fun h => Option.some.inj (hd.symm.trans
        ((get?_validatorsKeysDict hreg).2 ⟨hv, h.symm⟩))⟩
    simp [this]

/-- Two keys with the pubkey `0x01`, of operators 0 and 1 of module 1 at `0x0a`. -/
def repeatedKeys : List LidoKey := [⟨"0x01", "0x0a", 0⟩, ⟨"0x01", "0x0a", 1⟩]

/-- One registry validator, with pubkey `0x01`. -/
def oneValidator : List Validator := [⟨7, ⟨"0x01", 0, FAR_FUTURE_EPOCH⟩⟩]

/-- Operators 0 and 1 of module 1 at `0x0a`. -/
def twoOperators : List NodeOperator := [⟨0, 0, 0, ⟨1, "0x0a"⟩⟩, ⟨1, 0, 0, ⟨1, "0x0a"⟩⟩]

theorem getLidoValidatorsByNodeOperators_counts_keys_example :
    (oneValidator.map (·.validator.pubkey)).Nodup ∧
    ∃ R, getLidoValidatorsByNodeOperators repeatedKeys oneValidator twoOperators = some R ∧
      (∀ v ∈ oneValidator, (R.items.flatMap (·.2)).countP (·.toValidator = v) =
        repeatedKeys.countP fun k => k.key = v.validator.pubkey && namesNodeOperator twoOperators k) ∧
      ∀ p ∈ R.items, ∀ lv ∈ p.2, lv.lidoId ∈ repeatedKeys ∧ lv.toValidator ∈ oneValidator ∧
        lv.validator.pubkey = lv.lidoId.key ∧
        globalNoId (stakingModuleAddress twoOperators) lv.lidoId = some p.1 :=
  have hreg : (oneValidator.map (·.validator.pubkey)).Nodup := by decide
  ⟨hreg, _, rfl, getLidoValidatorsByNodeOperators_counts_keys hreg rfl⟩

/-- The registry validator of `oneValidator` is in the lists of both `twoOperators`, one for each of
`repeatedKeys`. -/
theorem getLidoValidatorsByNodeOperators_repeated_key :
    ¬∀ (keys : List LidoKey) (validators : List Validator) (ops : List NodeOperator) R,
      getLidoValidatorsByNodeOperators keys validators ops = some R →
      ∀ v ∈ validators, (∃ k ∈ keys, k.key = v.validator.pubkey ∧ namesNodeOperator ops k) →
        (R.items.flatMap (·.2)).countP (·.toValidator = v) = 1 := by
  intro h
  have := h repeatedKeys oneValidator twoOperators _ rfl _ (List.mem_singleton_self _)
    ⟨_, List.mem_cons_self _ _, rfl, by decide⟩
  exact absurd this (by decide)

end CatalistOracle
