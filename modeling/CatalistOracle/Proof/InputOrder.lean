import CatalistOracle.Proof.KeySets

/-!
# The reports do not depend on the order of their inputs

`get_events_in_past` returns a window's `ValidatorExitRequest` events in the order the chain emitted
them, and nothing the service reports depends on that order. `get_last_requested_to_exit_pubkeys`
keeps a set of pubkeys, of which `sum_stuck_validators` only asks membership
(`getCatalistNewlyStuckValidators_congr`). `get_recently_requests_to_exit_indexes_by_operators`
adds each event's validator index to its operator's set and raises on an event whose operator has
none; either way the outcome is fixed by which events there are
(`map_recentMembership_getRecentlyRequestsToExitIndexesByOperators`), and the classification of
`get_recently_requested_but_not_exited_validators` only asks membership of those sets
(`getRecentlyRequestedButNotExitedValidators_congr`).

`merge_validators_with_keys` reads the consensus layer's registry through `validators_keys_dict`,
keyed by pubkey, where a later entry with a pubkey replaces an earlier one; with pairwise-distinct
pubkeys that dict answers the same whatever the registry's order (`mergeValidatorsWithKeys_perm`).
The keys API's keys are merged in their own order, so reordering them reorders each operator's list
(`getLidoValidatorsByNodeOperators_perm`); the stuck and exited counts do not depend on that order
(`map_get?_stuckValidatorsByNodeOperator_congr`, `get?_getExitedCatalistValidators_congr`), and the
closing loop reads and deletes by key (`map_get?_findOnlyUpdatedStates_congr`).

* `reports_read_exit_events_as_sets`: replacing either window's events by any list of the same
  events, reordered or repeated, leaves the stuck report and the recently requested validators with
  their delayed gauges unchanged, a raised `KeyError` included;
* `reports_independent_of_registry_order`: with pairwise-distinct pubkeys, reordering the registry
  leaves the stuck, exited and newly exited counts and the recently requested validators unchanged;
* `reports_independent_of_key_order`: reordering the keys leaves the stuck, exited and newly exited
  counts unchanged as Python compares dicts, key by key.
-/
namespace CatalistOracle

/-! ## The recently requested pubkeys -/

/-- The stuck report reads the recently requested pubkeys only through membership. -/
theorem getCatalistNewlyStuckValidators_congr {K K' : List HexStr} (hK : ∀ k, k ∈ K ↔ k ∈ K')
    (V : Dict NodeOperatorGlobalIndex (List LidoValidator)) (X : Dict NodeOperatorGlobalIndex Int)
    (ops : List NodeOperator) (T : Nat) (bs : ReferenceBlockStamp) (cc : ChainConfig) :
    getCatalistNewlyStuckValidators V X K ops T bs cc =
      getCatalistNewlyStuckValidators V X K' ops T bs cc := by
  have e : sumStuckValidators X K T bs cc = sumStuckValidators X K' T bs cc := by
    funext g total v; simp only [sumStuckValidators, hK]
  simp only [getCatalistNewlyStuckValidators, stuckValidatorsByNodeOperator, e]

/-! ## The recent indexes -/

/-- What the classification reads of the recent indexes: for an operator and a validator index,
`index in recent_indexes[global_index]`, or the `KeyError`. -/
def recentMembership (R : Dict NodeOperatorGlobalIndex (List Nat)) (g : NodeOperatorGlobalIndex)
    (i : Nat) : Option Bool :=
  (R.get? g).map (i ∈ ·)

theorem getRecentlyRequestedButNotExitedValidators_congr
    {R R' : Dict NodeOperatorGlobalIndex (List Nat)} (h : recentMembership R = recentMembership R')
    (V : Dict NodeOperatorGlobalIndex (List LidoValidator)) (X : Dict NodeOperatorGlobalIndex Int)
    (T : Nat) (bs : ReferenceBlockStamp) (cc : ChainConfig) :
    getRecentlyRequestedButNotExitedValidators V X R T bs cc =
      getRecentlyRequestedButNotExitedValidators V X R' T bs cc := by
  have e : validatorRecentlyRequestedToExit R = validatorRecentlyRequestedToExit R' :=
    funext₂ fun g v => congrFun₂ h g v.index
  have e₁ : isValidatorRecentlyRequestedButNotExited X R T bs cc =
      isValidatorRecentlyRequestedButNotExited X R' T bs cc := by
    funext g v; simp only [isValidatorRecentlyRequestedButNotExited, e]
  have e₂ : isValidatorDelayed X R = isValidatorDelayed X R' := by
    funext g v; simp only [isValidatorDelayed, e]
  simp only [getRecentlyRequestedButNotExitedValidators, recentlyRequestedButNotExitedOf, e₁, e₂]

/-- Two lists of the same events give the same recent indexes, as sets, or both raise. -/
theorem map_recentMembership_getRecentlyRequestsToExitIndexesByOperators
    {events events' : List ValidatorExitRequest} (h : ∀ e, e ∈ events ↔ e ∈ events')
    (gs : List NodeOperatorGlobalIndex) :
    (getRecentlyRequestsToExitIndexesByOperators events gs).map recentMembership =
      (getRecentlyRequestsToExitIndexesByOperators events' gs).map recentMembership := by
  by_cases he : ∀ e ∈ events, (e.stakingModuleId, e.nodeOperatorId) ∈ gs
  · obtain ⟨R, hR, hk, hv⟩ := getRecentlyRequestsToExitIndexesByOperators_spec he
    obtain ⟨R', hR', hk', hv'⟩ := getRecentlyRequestsToExitIndexesByOperators_spec
      fun e he' => he e ((h e).2 he')
    rw [hR, hR', Option.map_some', Option.map_some']
    congr 1
    funext g i
    simp only [recentMembership]
    cases hg : R.get? g with
    | none => rw [Dict.get?_eq_none.2 (by rw [hk', ← hk]; exact Dict.get?_eq_none.1 hg)]
    | some rs =>
      obtain ⟨rs', hg'⟩ := Dict.mem_keys.1 ((hk' g).2 ((hk g).1 (Dict.mem_keys.2 ⟨rs, hg⟩)))
      simp only [hg', Option.map_some', Option.some.injEq, decide_eq_decide, hv g rs hg,
        hv' g rs' hg', h]
  · have he' : ¬∀ e ∈ events', (e.stakingModuleId, e.nodeOperatorId) ∈ gs :=
      fun h' => he fun e he'' => h' e ((h e).1 he'')
    rw [Option.not_isSome_iff_eq_none.1
        (mt getRecentlyRequestsToExitIndexesByOperators_isSome.1 he),
      Option.not_isSome_iff_eq_none.1
        (mt getRecentlyRequestsToExitIndexesByOperators_isSome.1 he')]

/-- A continuation that reads its value only through `m` gives the same result on two options
with the same image under `m`. -/
theorem bind_eq_bind_of_map_eq {α β γ : Type} {o o' : Option α} {m : α → β} {F : α → Option γ}
    (hF : ∀ a a', m a = m a' → F a = F a') (h : o.map m = o'.map m) : o.bind F = o'.bind F := by
  cases o <;> cases o'
  · rfl
  · cases h
  · cases h
  · exact hF _ _ (Option.some.inj h)

/-! ## One snapshot -/

/-- Replacing the events of the delinquent window and of the delayed window by any lists of the
same events, in any order and with any repetition, changes neither
`get_catalist_newly_stuck_validators` nor `get_recently_requested_but_not_exited_validators` with
its delayed gauges: each returns the same value, or raises as before. -/
theorem reports_read_exit_events_as_sets (s : Snapshot)
    {delinquent delayed : List ValidatorExitRequest}
    (h₁ : ∀ e, e ∈ delinquent ↔ e ∈ s.delinquentWindowEvents)
    (h₂ : ∀ e, e ∈ delayed ↔ e ∈ s.delayedWindowEvents) :
    { s with
        delinquentWindowEvents := delinquent
        delayedWindowEvents := delayed }.newlyStuckValidators = s.newlyStuckValidators ∧
      { s with
          delinquentWindowEvents := delinquent
          delayedWindowEvents := delayed }.recentlyRequestedButNotExitedValidators =
        s.recentlyRequestedButNotExitedValidators := by
  have hK : ∀ k, k ∈ getLastRequestedToExitPubkeys delinquent ↔
      k ∈ getLastRequestedToExitPubkeys s.delinquentWindowEvents := fun k => by
    simp only [getLastRequestedToExitPubkeys, List.mem_map, h₁]
  constructor
  · simp only [Snapshot.newlyStuckValidators, getCatalistNewlyStuckValidators_congr hK]
    rfl
  · simp only [Snapshot.recentlyRequestedButNotExitedValidators, Option.bind_eq_bind]
    congr 1
    funext V
    exact bind_eq_bind_of_map_eq
      (fun R R' e => getRecentlyRequestedButNotExitedValidators_congr e _ _ _ _ _)
      (map_recentMembership_getRecentlyRequestsToExitIndexesByOperators h₂ V.keys)

theorem reports_read_exit_events_as_sets_example :
    { oneModuleSnapshot with
        delinquentWindowEvents := []
        delayedWindowEvents := [⟨1, 0, 0, "0x01"⟩, ⟨1, 0, 0, "0x01"⟩] }.newlyStuckValidators =
      oneModuleSnapshot.newlyStuckValidators ∧
    { oneModuleSnapshot with
        delinquentWindowEvents := []
        delayedWindowEvents := [⟨1, 0, 0, "0x01"⟩, ⟨1, 0, 0, "0x01"⟩]
      }.recentlyRequestedButNotExitedValidators =
      oneModuleSnapshot.recentlyRequestedButNotExitedValidators :=
  reports_read_exit_events_as_sets oneModuleSnapshot (fun _ => Iff.rfl) fun _ => by
    simp [oneModuleSnapshot]

/-! ## The registry -/

/-- With pairwise-distinct pubkeys, `validators_keys_dict` answers the same whatever the registry's
order, and so does the merge. -/
theorem mergeValidatorsWithKeys_perm {keys : List LidoKey} {validators validators' : List Validator}
    (hreg : (validators.map (·.validator.pubkey)).Nodup) (hp : validators'.Perm validators) :
    mergeValidatorsWithKeys keys validators' = mergeValidatorsWithKeys keys validators := by
  have hreg' : (validators'.map (·.validator.pubkey)).Nodup := (hp.map _).nodup_iff.2 hreg
  have e : ∀ k, (Dict.ofList (validators'.map fun v => (v.validator.pubkey, v))).get? k =
      (Dict.ofList (validators.map fun v => (v.validator.pubkey, v))).get? k := fun k =>
    Option.ext fun v => by
      simp only [Option.mem_def, get?_validatorsKeysDict hreg', get?_validatorsKeysDict hreg,
        hp.mem_iff]
  simp only [mergeValidatorsWithKeys, e]

/-- Two registry entries with one pubkey: the later one is merged, so their order matters. -/
example :
    mergeValidatorsWithKeys [⟨"0x01", "0x0a", 0⟩]
        [⟨0, ⟨"0x01", 0, FAR_FUTURE_EPOCH⟩⟩, ⟨5, ⟨"0x01", 0, FAR_FUTURE_EPOCH⟩⟩] ≠
      mergeValidatorsWithKeys [⟨"0x01", "0x0a", 0⟩]
        [⟨5, ⟨"0x01", 0, FAR_FUTURE_EPOCH⟩⟩, ⟨0, ⟨"0x01", 0, FAR_FUTURE_EPOCH⟩⟩] := by
  decide

/-- With pairwise-distinct pubkeys in the registry, reordering it changes none of the reports:
`get_catalist_newly_stuck_validators`, `get_exited_catalist_validators`,
`get_catalist_newly_exited_validators` and `get_recently_requested_but_not_exited_validators` with
its delayed gauges each return the same value, or raise as before. -/
theorem reports_independent_of_registry_order (s : Snapshot) {validators : List Validator}
    (hreg : (s.validators.map (·.validator.pubkey)).Nodup) (hp : validators.Perm s.validators) :
    { s with validators := validators }.newlyStuckValidators = s.newlyStuckValidators ∧
    { s with validators := validators }.exitedValidators = s.exitedValidators ∧
    { s with validators := validators }.newlyExitedValidators = s.newlyExitedValidators ∧
    { s with validators := validators }.recentlyRequestedButNotExitedValidators =
      s.recentlyRequestedButNotExitedValidators := by
  have hV : { s with validators := validators }.validatorsByNodeOperators =
      s.validatorsByNodeOperators := by
    simp only [Snapshot.validatorsByNodeOperators, getLidoValidatorsByNodeOperators,
      mergeValidatorsWithKeys_perm hreg hp]
    rfl
  refine ⟨?_, ?_, ?_, ?_⟩ <;> simp only [Snapshot.newlyStuckValidators, Snapshot.exitedValidators,
    Snapshot.newlyExitedValidators, Snapshot.recentlyRequestedButNotExitedValidators, hV] <;> rfl

/-- `oneModuleSnapshot` with a second registry validator, of another pubkey. -/
def twoValidatorSnapshot : Snapshot :=
  { oneModuleSnapshot with
    validators := [⟨0, ⟨"0x01", 0, FAR_FUTURE_EPOCH⟩⟩, ⟨1, ⟨"0x02", 0, FAR_FUTURE_EPOCH⟩⟩] }

theorem reports_independent_of_registry_order_example :
    { twoValidatorSnapshot with
        validators := [⟨1, ⟨"0x02", 0, FAR_FUTURE_EPOCH⟩⟩, ⟨0, ⟨"0x01", 0, FAR_FUTURE_EPOCH⟩⟩]
      }.newlyStuckValidators = twoValidatorSnapshot.newlyStuckValidators ∧
    { twoValidatorSnapshot with
        validators := [⟨1, ⟨"0x02", 0, FAR_FUTURE_EPOCH⟩⟩, ⟨0, ⟨"0x01", 0, FAR_FUTURE_EPOCH⟩⟩]
      }.exitedValidators = twoValidatorSnapshot.exitedValidators ∧
    { twoValidatorSnapshot with
        validators := [⟨1, ⟨"0x02", 0, FAR_FUTURE_EPOCH⟩⟩, ⟨0, ⟨"0x01", 0, FAR_FUTURE_EPOCH⟩⟩]
      }.newlyExitedValidators = twoValidatorSnapshot.newlyExitedValidators ∧
    { twoValidatorSnapshot with
        validators := [⟨1, ⟨"0x02", 0, FAR_FUTURE_EPOCH⟩⟩, ⟨0, ⟨"0x01", 0, FAR_FUTURE_EPOCH⟩⟩]
      }.recentlyRequestedButNotExitedValidators =
      twoValidatorSnapshot.recentlyRequestedButNotExitedValidators :=
  reports_independent_of_registry_order twoValidatorSnapshot (by decide) (List.Perm.swap _ _ _)

/-! ## The keys -/

/-- Two options related by `r` give the same result under continuations that agree on `r`-related
values. -/
theorem bind_eq_bind_of_rel {α β γ : Type} {r : α → β → Prop} {o : Option α} {o' : Option β}
    {f : α → Option γ} {f' : β → Option γ} (h : Option.Rel r o o') (hf : ∀ a b, r a b → f a = f' b) :
    o.bind f = o'.bind f' := by
  cases h with
  | none => rfl
  | some hab => exact hf _ _ hab

/-- Two options related by `r` satisfy two properties of their values alike, when the properties
agree on `r`-related values. -/
theorem forall_eq_some_congr_of_rel {α β : Type} {r : α → β → Prop} {o : Option α} {o' : Option β}
    {P : α → Prop} {Q : β → Prop} (h : Option.Rel r o o') (hPQ : ∀ a b, r a b → (P a ↔ Q b)) :
    (∀ a, o = some a → P a) ↔ ∀ b, o' = some b → Q b := by
  cases h with
  | none => simp
  | some hab => simpa using hPQ _ _ hab

section Keys

variable {X : Dict NodeOperatorGlobalIndex Int} {K : List HexStr} {T : Nat}
  {bs : ReferenceBlockStamp} {cc : ChainConfig}

/-- The closing loop reads and deletes by key, so two results that read the same give two reports
that read the same. -/
theorem map_get?_findOnlyUpdatedStates_congr {recorded : NodeOperator → Nat}
    {ops : List NodeOperator} {r r' : Dict NodeOperatorGlobalIndex Nat} (h : r.get? = r'.get?) :
    (findOnlyUpdatedStates recorded ops r).map Dict.get? =
      (findOnlyUpdatedStates recorded ops r').map Dict.get? := by
  induction ops generalizing r r' with
  | nil => exact congrArg some h
  | cons op ops ih =>
    simp only [findOnlyUpdatedStates, List.foldlM_cons, Option.bind_eq_bind, congrFun h op.globalIndex]
    cases hc : r'.get? op.globalIndex with
    | none => rfl
    | some n =>
      simp only [Option.some_bind]
      split
      · have hr : op.globalIndex ∈ r.keys := Dict.mem_keys.2 ⟨n, (congrFun h _).trans hc⟩
        have hr' : op.globalIndex ∈ r'.keys := Dict.mem_keys.2 ⟨n, hc⟩
        obtain ⟨d, hd⟩ := Option.ne_none_iff_exists'.1 (mt Dict.erase?_eq_none.1 (not_not.2 hr))
        obtain ⟨d', hd'⟩ := Option.ne_none_iff_exists'.1 (mt Dict.erase?_eq_none.1 (not_not.2 hr'))
        rw [hd, hd', Option.some_bind, Option.some_bind]
        exact ih (funext fun k => by rw [Dict.get?_erase? hd, Dict.get?_erase? hd', h])
      · exact ih h

/-- The reduction of `sum_stuck_validators` gives the same over an operator's validators in any
order. -/
theorem foldlM_sumStuckValidators_perm {g : NodeOperatorGlobalIndex} {vs vs' : List LidoValidator}
    (hp : vs.Perm vs') :
    vs.foldlM (sumStuckValidators X K T bs cc g) 0 = vs'.foldlM (sumStuckValidators X K T bs cc g) 0 := by
  cases hx : X.get? g with
  | none =>
    cases vs with
    | nil => rw [List.nil_perm.1 hp]
    | cons v vs =>
      obtain ⟨v', vs', rfl⟩ := List.exists_cons_of_length_eq_add_one hp.length_eq.symm
      rw [foldlM_sumStuckValidators_of_get?_eq_none hx, foldlM_sumStuckValidators_of_get?_eq_none hx]
  | some x => rw [foldlM_sumStuckValidators hx, foldlM_sumStuckValidators hx, hp.countP_eq]

/-- Each count of the first loop of `get_catalist_newly_stuck_validators` is the reduction over the
operator's validators, and there is no count for an operator without a list. -/
theorem get?_stuckValidatorsByNodeOperator_eq {V : Dict NodeOperatorGlobalIndex (List LidoValidator)}
    {r : Dict NodeOperatorGlobalIndex Nat} (h : stuckValidatorsByNodeOperator V X K T bs cc = some r)
    (g : NodeOperatorGlobalIndex) :
    r.get? g = (V.get? g).bind fun vs => vs.foldlM (sumStuckValidators X K T bs cc g) 0 := by
  cases hv : V.get? g with
  | none =>
    exact Dict.get?_eq_none.2 fun hg =>
      Dict.get?_eq_none.1 hv ((mem_keys_stuckValidatorsByNodeOperator h g).1 hg)
  | some vs =>
    obtain ⟨c, hc, hr⟩ := get?_stuckValidatorsByNodeOperator h hv
    rw [hr, Option.some_bind, hc]

/-- Two validators' dicts with the same operators and the same validators of each, up to order, give
the same stuck counts, or both raise. -/
theorem map_get?_stuckValidatorsByNodeOperator_congr
    {V V' : Dict NodeOperatorGlobalIndex (List LidoValidator)}
    (hV : ∀ g, Option.Rel List.Perm (V.get? g) (V'.get? g)) :
    (stuckValidatorsByNodeOperator V X K T bs cc).map Dict.get? =
      (stuckValidatorsByNodeOperator V' X K T bs cc).map Dict.get? := by
  -- the loop raises on an operator with validators and no last requested index, in both or neither
  have hsome : (stuckValidatorsByNodeOperator V X K T bs cc).isSome =
      (stuckValidatorsByNodeOperator V' X K T bs cc).isSome := by
    rw [Bool.eq_iff_iff, stuckValidatorsByNodeOperator_isSome, stuckValidatorsByNodeOperator_isSome,
      Dict.forall_mem_items (P := fun g vs => vs = [] ∨ g ∈ X.keys),
      Dict.forall_mem_items (P := fun g vs => vs = [] ∨ g ∈ X.keys)]
    exact forall_congr' fun g => forall_eq_some_congr_of_rel (hV g) fun _ _ hp =>
      or_congr_left ⟨fun e => List.nil_perm.1 (e ▸ hp), fun e => List.nil_perm.1 (e ▸ hp.symm)⟩
  cases h : stuckValidatorsByNodeOperator V X K T bs cc <;>
    cases h' : stuckValidatorsByNodeOperator V' X K T bs cc <;>
    simp only [h, h', Option.isSome_none, Option.isSome_some, Bool.false_eq_true,
      Bool.true_eq_false] at hsome
  · rfl
  · refine congrArg some (funext fun g => ?_)
    rw [get?_stuckValidatorsByNodeOperator_eq h, get?_stuckValidatorsByNodeOperator_eq h']
    exact bind_eq_bind_of_rel (hV g) fun _ _ hp => foldlM_sumStuckValidators_perm hp

/-- Two validators' dicts with the same operators and the same validators of each, up to order, give
the same exited counts. -/
theorem get?_getExitedCatalistValidators_congr
    {V V' : Dict NodeOperatorGlobalIndex (List LidoValidator)}
    (hV : ∀ g, Option.Rel List.Perm (V.get? g) (V'.get? g)) :
    (getExitedCatalistValidators V bs).get? = (getExitedCatalistValidators V' bs).get? := by
  funext g
  rw [get?_getExitedCatalistValidators, get?_getExitedCatalistValidators, Option.map_eq_bind,
    Option.map_eq_bind]
  exact bind_eq_bind_of_rel (hV g) fun _ _ hp => congrArg some (hp.countP_eq _)

end Keys

/-- Reordering the keys reorders the merged validators, and so each operator's list. -/
theorem getLidoValidatorsByNodeOperators_perm {keys keys' : List LidoKey} (hk : keys'.Perm keys)
    (validators : List Validator) (ops : List NodeOperator) :
    Option.Rel (fun V' V => ∀ g, Option.Rel List.Perm (V'.get? g) (V.get? g))
      (getLidoValidatorsByNodeOperators keys' validators ops)
      (getLidoValidatorsByNodeOperators keys validators ops) := by
  have hm : (mergeValidatorsWithKeys keys' validators).Perm (mergeValidatorsWithKeys keys validators) :=
    hk.filterMap _
  have hsome : (getLidoValidatorsByNodeOperators keys' validators ops).isSome =
      (getLidoValidatorsByNodeOperators keys validators ops).isSome := by
    rw [Bool.eq_iff_iff, getLidoValidatorsByNodeOperators_isSome_iff,
      getLidoValidatorsByNodeOperators_isSome_iff]
    exact forall_congr' fun v => imp_congr_left hm.mem_iff
  cases h' : getLidoValidatorsByNodeOperators keys' validators ops <;>
    cases h : getLidoValidatorsByNodeOperators keys validators ops <;>
    simp only [h, h', Option.isSome_none, Option.isSome_some, Bool.false_eq_true,
      Bool.true_eq_false] at hsome
  · exact .none
  · refine .some fun g => ?_
    rw [get?_getLidoValidatorsByNodeOperators h', get?_getLidoValidatorsByNodeOperators h]
    split
    · exact .some (hm.filter _)
    · exact .none

/-- Reordering the keys the keys API serves changes none of the counts reported: the stuck counts,
the exited counts and the newly exited counts are the same dicts, as Python compares them (key by
key), or raise as before. The recently requested validators come out in the keys' order. -/
theorem reports_independent_of_key_order (s : Snapshot) {keys : List LidoKey}
    (hk : keys.Perm s.keys) :
    { s with keys := keys }.newlyStuckValidators.map Dict.get? =
        s.newlyStuckValidators.map Dict.get? ∧
      { s with keys := keys }.exitedValidators.map Dict.get? = s.exitedValidators.map Dict.get? ∧
      { s with keys := keys }.newlyExitedValidators.map Dict.get? =
        s.newlyExitedValidators.map Dict.get? := by
  simp only [Snapshot.newlyStuckValidators, Snapshot.exitedValidators,
    Snapshot.newlyExitedValidators, Snapshot.validatorsByNodeOperators, Snapshot.nodeOperators,
    Snapshot.lastExitedValidatorIndexes, getCatalistNewlyStuckValidators,
    getCatalistNewlyExitedValidators, Option.bind_eq_bind]
  have hV := getLidoValidatorsByNodeOperators_perm hk s.validators
    (getLidoNodeOperators s.stakingModules s.getAllNodeOperatorReports)
  generalize getLidoValidatorsByNodeOperators keys s.validators
    (getLidoNodeOperators s.stakingModules s.getAllNodeOperatorReports) = A at hV ⊢
  generalize getLidoValidatorsByNodeOperators s.keys s.validators
    (getLidoNodeOperators s.stakingModules s.getAllNodeOperatorReports) = B at hV ⊢
  cases hV with
  | none => exact ⟨rfl, rfl, rfl⟩
  | some hrel =>
    simp only [Option.some_bind, Option.map_some', Option.map_bind]
    refine ⟨bind_eq_bind_of_map_eq (fun r r' e => map_get?_findOnlyUpdatedStates_congr e)
      (map_get?_stuckValidatorsByNodeOperator_congr hrel), congrArg some
        (get?_getExitedCatalistValidators_congr hrel),
      map_get?_findOnlyUpdatedStates_congr (get?_getExitedCatalistValidators_congr hrel)⟩

/-- `twoValidatorSnapshot` with a key for each of its validators, both naming operator 0. -/
def twoKeySnapshot : Snapshot :=
  { twoValidatorSnapshot with keys := [⟨"0x01", "0x0a", 0⟩, ⟨"0x02", "0x0a", 0⟩] }

theorem reports_independent_of_key_order_example :
    { twoKeySnapshot with keys := [⟨"0x02", "0x0a", 0⟩, ⟨"0x01", "0x0a", 0⟩]
      }.newlyStuckValidators.map Dict.get? = twoKeySnapshot.newlyStuckValidators.map Dict.get? ∧
    { twoKeySnapshot with keys := [⟨"0x02", "0x0a", 0⟩, ⟨"0x01", "0x0a", 0⟩]
      }.exitedValidators.map Dict.get? = twoKeySnapshot.exitedValidators.map Dict.get? ∧
    { twoKeySnapshot with keys := [⟨"0x02", "0x0a", 0⟩, ⟨"0x01", "0x0a", 0⟩]
      }.newlyExitedValidators.map Dict.get? = twoKeySnapshot.newlyExitedValidators.map Dict.get? :=
  reports_independent_of_key_order twoKeySnapshot (List.Perm.swap _ _ _)

end CatalistOracle
