import CatalistOracle.Impl.LegacyValidators
import CatalistOracle.Proof.Grouping

/-!
# The current provider refines the earlier one

The earlier `get_lido_validators_by_node_operators` appends each merged validator to the list of
its key's pair, one step at a time (`get?_appendValidator`) and over the whole list
(`get?_foldlM_appendValidator`): it returns exactly when every merged validator's pair is an
operator's (`Legacy.getLidoValidatorsByNodeOperators_isSome_iff`), and then each operator's list
is the merged validators of its pair (`Legacy.get?_getLidoValidatorsByNodeOperators`).

* `getLidoValidatorsByNodeOperators_refines_legacy`: when the keys API lists the router's
  operators, and module addresses and module ids correspond one to one, wherever the earlier
  provider returns the current one returns too, with the same list for every operator, keyed by
  `(module id, operator id)` in place of `(module address, operator index)`. The converse fails:
  the current provider skips a key of an operator the router does not have, where the earlier one
  raises.
-/

namespace CatalistOracle

namespace Legacy

/-! ## The earlier loop -/

section Loop

variable {d d' : Dict NodeOperatorIndex (List LidoValidator)}

/-- The pair of module address and operator index a merged validator's key names. -/
def keyIndex (v : LidoValidator) : NodeOperatorIndex :=
  (v.lidoId.moduleAddress, v.lidoId.operatorIndex)

theorem appendValidator_eq_some_iff {v : LidoValidator} :
    appendValidator d v = some d' ↔
      ∃ l, d.get? (keyIndex v) = some l ∧ d' = d.set (keyIndex v) (l ++ [v]) := by
  simp only [appendValidator, keyIndex, Option.bind_eq_bind]
  cases d.get? (v.lidoId.moduleAddress, v.lidoId.operatorIndex) <;> simp [eq_comm]

theorem get?_appendValidator {v : LidoValidator} (h : appendValidator d v = some d')
    (k : NodeOperatorIndex) :
    d'.get? k = (d.get? k).map fun l => if keyIndex v = k then l ++ [v] else l := by
  obtain ⟨l, hl, rfl⟩ := appendValidator_eq_some_iff.1 h
  rw [Dict.get?_set]
  by_cases e : keyIndex v = k
  · subst e; simp [hl]
  · simp [e, Ne.symm e]

/-- The loop, run over `vs` from `d`: each list grows by the validators of its pair, in order. -/
theorem get?_foldlM_appendValidator {vs : List LidoValidator}
    (h : vs.foldlM appendValidator d = some d') (k : NodeOperatorIndex) :
    d'.get? k = (d.get? k).map (· ++ vs.filter (keyIndex · = k)) := by
  induction vs generalizing d with
  | nil => cases h; simp
  | cons v vs ih =>
    simp only [List.foldlM_cons, Option.bind_eq_bind, Option.bind_eq_some] at h
    obtain ⟨d₁, h₁, h⟩ := h
    rw [ih h, get?_appendValidator h₁, Option.map_map]
    congr 1; ext l; by_cases e : keyIndex v = k <;> simp [e]

/-- The loop returns exactly when every validator's pair has a list. -/
theorem foldlM_appendValidator_isSome {vs : List LidoValidator} :
    (vs.foldlM appendValidator d).isSome ↔ ∀ v ∈ vs, keyIndex v ∈ d.keys := by
  induction vs generalizing d with
  | nil => simp
  | cons v vs ih =>
    rw [List.foldlM_cons, List.forall_mem_cons]
    cases h : appendValidator d v with
    | none =>
      have : keyIndex v ∉ d.keys := fun hk => by
        obtain ⟨l, hl⟩ := Dict.mem_keys.1 hk
        simp [appendValidator_eq_some_iff.2 ⟨l, hl, rfl⟩] at h
      simp [this]
    | some d₁ =>
      obtain ⟨l, hl, rfl⟩ := appendValidator_eq_some_iff.1 h
      have hk : keyIndex v ∈ d.keys := Dict.mem_keys.2 ⟨l, hl⟩
      simp [ih, Dict.mem_keys_set_of_mem hk, hk]

end Loop

/-- The pairs of the earlier provider's operators. -/
def operatorIndexes (noOperators : List OperatorExpanded) : List NodeOperatorIndex :=
  noOperators.map fun operator => (operator.stakingModuleAddress, operator.index)

theorem mem_keys_ofList_operatorIndexes (noOperators : List OperatorExpanded)
    (k : NodeOperatorIndex) :
    k ∈ (Dict.ofList (noOperators.map fun operator =>
      ((operator.stakingModuleAddress, operator.index), ([] : List LidoValidator)))).keys ↔
      k ∈ operatorIndexes noOperators := by
  simp [Dict.mem_keys_ofList, operatorIndexes]

/-- The earlier grouping returns exactly when every merged validator's pair is an operator's. -/
theorem getLidoValidatorsByNodeOperators_isSome_iff {keys : List LidoKey}
    {validators : List Validator} {noOperators : List OperatorExpanded} :
    (getLidoValidatorsByNodeOperators keys validators noOperators).isSome ↔
      ∀ v ∈ mergeValidatorsWithKeys keys validators, keyIndex v ∈ operatorIndexes noOperators := by
  rw [getLidoValidatorsByNodeOperators, foldlM_appendValidator_isSome]
  exact forall₂_congr fun v _ => mem_keys_ofList_operatorIndexes noOperators _

/-- When the earlier grouping returns, each operator's list is the merged validators of its pair,
in the order of the keys, and there is no other pair. -/
theorem get?_getLidoValidatorsByNodeOperators {keys : List LidoKey} {validators : List Validator}
    {noOperators : List OperatorExpanded} {L : Dict NodeOperatorIndex (List LidoValidator)}
    (h : getLidoValidatorsByNodeOperators keys validators noOperators = some L)
    (k : NodeOperatorIndex) :
    L.get? k = if k ∈ operatorIndexes noOperators then
      some ((mergeValidatorsWithKeys keys validators).filter (keyIndex · = k)) else none := by
  rw [get?_foldlM_appendValidator h]
  split <;> rename_i hk
  · rw [Dict.get?_ofList_of_forall (w := []) (by simpa [operatorIndexes] using hk) (by simp)]
    simp [mergeValidators]
  · rw [Dict.get?_eq_none.2 (by rwa [mem_keys_ofList_operatorIndexes])]; rfl

end Legacy

/-! ## Refinement -/

/-- When the keys API lists the pairs of the router's operators, and within those operators module
ids and module addresses determine each other: wherever the earlier grouping returns, the current
one returns, and every operator's list is the same in both. -/
theorem getLidoValidatorsByNodeOperators_refines_legacy {keys : List LidoKey}
    {validators : List Validator} {ops : List NodeOperator}
    {noOperators : List Legacy.OperatorExpanded}
    (hops : ∀ k, k ∈ Legacy.operatorIndexes noOperators ↔
      k ∈ ops.map fun op => (op.stakingModule.stakingModuleAddress, op.id))
    (hmod : ∀ op ∈ ops, ∀ op' ∈ ops, op.stakingModule.id = op'.stakingModule.id ↔
      op.stakingModule.stakingModuleAddress = op'.stakingModule.stakingModuleAddress)
    {L : Dict Legacy.NodeOperatorIndex (List LidoValidator)}
    (hL : Legacy.getLidoValidatorsByNodeOperators keys validators noOperators = some L) :
    ∃ R, getLidoValidatorsByNodeOperators keys validators ops = some R ∧
      ∀ op ∈ ops, R.get? op.globalIndex = L.get? (op.stakingModule.stakingModuleAddress, op.id) := by
  have hpairs := Legacy.getLidoValidatorsByNodeOperators_isSome_iff.1 (by rw [hL]; rfl)
  obtain ⟨R, hR⟩ := Option.isSome_iff_exists.1 (getLidoValidatorsByNodeOperators_isSome_iff.2
    fun v hv => by
      obtain ⟨op, hop, e⟩ := List.mem_map.1 ((hops _).1 (hpairs v hv))
      exact List.mem_map.2 ⟨op, hop, (Prod.ext_iff.1 e).1⟩)
  refine ⟨R, hR, fun op hop => ?_⟩
  rw [get?_getLidoValidatorsByNodeOperators hR, if_pos (List.mem_map_of_mem _ hop),
    Legacy.get?_getLidoValidatorsByNodeOperators hL,
    if_pos ((hops _).2 (List.mem_map_of_mem _ hop))]
  refine congrArg some (List.filter_congr fun v _ => ?_)
  rw [decide_eq_decide, globalNoId_eq_some_iff fun o ho o' ho' => (hmod o ho o' ho').2]
  simp only [Legacy.keyIndex, NodeOperator.globalIndex, Prod.mk.injEq]
  constructor
  · rintro ⟨⟨op', hop', ha, hid⟩, hi⟩
    exact ⟨ha.symm.trans ((hmod op' hop' op hop).1 hid), hi⟩
  · rintro ⟨ha, hi⟩
    exact ⟨⟨op, hop, ha.symm, rfl⟩, hi⟩

/-- A key of operator 1 of module `0x0a`, where the router has only operator 0: the earlier
provider raises, the current one returns. -/
example :
    Legacy.getLidoValidatorsByNodeOperators [⟨"0x01", "0x0a", 1⟩] [⟨7, ⟨"0x01", 0, 0⟩⟩]
        [⟨"0x0a", 0⟩] = none ∧
      (getLidoValidatorsByNodeOperators [⟨"0x01", "0x0a", 1⟩] [⟨7, ⟨"0x01", 0, 0⟩⟩]
        [⟨0, 0, 0, ⟨1, "0x0a"⟩⟩]).isSome := by
  decide

/-- The keys API's pair for operator 0 of module 1 at `0x0a`. -/
def oneOperatorIndex : List Legacy.OperatorExpanded := [⟨"0x0a", 0⟩]

theorem getLidoValidatorsByNodeOperators_refines_legacy_example :
    ∃ L, Legacy.getLidoValidatorsByNodeOperators [⟨"0x01", "0x0a", 0⟩] oneValidator
        oneOperatorIndex = some L ∧
      ∃ R, getLidoValidatorsByNodeOperators [⟨"0x01", "0x0a", 0⟩] oneValidator
          [⟨0, 0, 0, ⟨1, "0x0a"⟩⟩] = some R ∧
        ∀ op ∈ [(⟨0, 0, 0, ⟨1, "0x0a"⟩⟩ : NodeOperator)],
          R.get? op.globalIndex = L.get? (op.stakingModule.stakingModuleAddress, op.id) := by
  obtain ⟨L, hL⟩ : ∃ L, Legacy.getLidoValidatorsByNodeOperators [⟨"0x01", "0x0a", 0⟩] oneValidator
      oneOperatorIndex = some L := ⟨_, rfl⟩
  refine ⟨L, hL, getLidoValidatorsByNodeOperators_refines_legacy ?_ (by decide) hL⟩
  exact fun _ => Iff.rfl

end CatalistOracle
