import Mathlib.Algebra.Order.Ring.Nat
import Mathlib.Data.List.Nodup

/-!
# Python dictionaries and lists

The oracle keeps every per-operator result in a Python `dict`. `Dict K V` is one: its items in
insertion order, with no key twice (`Dict.nodup`), so that a value of the type is always a dict
Python could hold. A read `d[k]` that misses raises `KeyError`, here `none` (`Dict.get?`);
`d[k] = v` keeps the place of a key already there and appends a new one (`Dict.set`);
`del d[k]` raises on a missing key (`Dict.erase?`); a comprehension `{f(x): g(x) for x in xs}`
is one `set` per element, the last value of a key winning (`Dict.ofList`).

Everything later proofs need of a dict is stated here on `get?` and `keys`:

* `mem_items`: with no key twice, an item is a read that hits;
* `get?_set`, `mem_keys_set`, `get?_erase?`, `mem_keys_erase?`: one write;
* `mem_keys_ofList`, `get?_ofList_of_forall`, `mem_of_get?_ofList`, `items_ofList`: what a
  comprehension holds.

`pyFilter` is `list(filter(predicate, xs))` for a predicate that may raise; `pyFilter_eq_some`
reads it as `List.filter` once the predicate cannot raise. The counting lemmas at the end are what
the proofs use to count validators across several lists.
-/

namespace CatalistOracle

/-- A Python `dict`: its items in insertion order, each key once. -/
structure Dict (K V : Type) where
  items : List (K × V)
  nodup : (items.map Prod.fst).Nodup
deriving DecidableEq

namespace Dict

variable {K V : Type} [DecidableEq K]

/-- `{}`. -/
def empty : Dict K V := ⟨[], List.nodup_nil⟩

/-- `d.keys()`, in insertion order. -/
def keys (d : Dict K V) : List K := d.items.map Prod.fst

/-- `d[k]`; `none` is a raised `KeyError`. -/
def get? (d : Dict K V) (k : K) : Option V := (d.items.find? (·.1 = k)).map Prod.snd

/-- `d[k] = v`. -/
def set (d : Dict K V) (k : K) (v : V) : Dict K V :=
  if h : k ∈ d.keys then
    ⟨d.items.map fun p => if p.1 = k then (k, v) else p, by
      rw [List.map_map]; convert d.nodup using 2; ext p; by_cases hp : p.1 = k <;> simp [hp]⟩
  else ⟨d.items ++ [(k, v)], by
    rw [List.map_append]; exact d.nodup.append (List.nodup_singleton k) (List.disjoint_singleton.2 h)⟩

/-- `del d[k]`; `none` is a raised `KeyError`. -/
def erase? (d : Dict K V) (k : K) : Option (Dict K V) :=
  if k ∈ d.keys then
    some ⟨d.items.filter (·.1 ≠ k), d.nodup.sublist ((List.filter_sublist _).map _)⟩
  else none

/-- The comprehension `{p[0]: p[1] for p in xs}`. -/
def ofList (xs : List (K × V)) : Dict K V := xs.foldl (fun d p => d.set p.1 p.2) empty

/-! ## Reads -/

omit [DecidableEq K] in
theorem map_fst_items (d : Dict K V) : d.items.map Prod.fst = d.keys := rfl

@[simp] theorem get?_empty (k : K) : (empty : Dict K V).get? k = none := rfl

theorem get?_eq_none {d : Dict K V} {k : K} : d.get? k = none ↔ k ∉ d.keys := by
  simp only [get?, keys, Option.map_eq_none', List.find?_eq_none, decide_eq_true_eq, List.mem_map,
    not_exists, not_and]

theorem find?_fst {l : List (K × V)} {k : K} {p : K × V} (h : l.find? (·.1 = k) = some p) :
    p ∈ l ∧ p.1 = k :=
  ⟨List.mem_of_find?_eq_some h, by simpa using List.find?_some h⟩

theorem mem_items {d : Dict K V} {k : K} {v : V} : (k, v) ∈ d.items ↔ d.get? k = some v := by
  simp only [get?, Option.map_eq_some']
  constructor
  · intro h
    obtain ⟨p, hp⟩ := Option.isSome_iff_exists.1
      (List.find?_isSome (p := fun q : K × V => q.1 = k) |>.2 ⟨_, h, decide_eq_true rfl⟩)
    obtain ⟨hm, hk⟩ := find?_fst hp
    exact ⟨p, hp, by rw [List.inj_on_of_nodup_map d.nodup hm h hk]⟩
  · rintro ⟨p, hp, rfl⟩
    obtain ⟨hm, rfl⟩ := find?_fst hp
    exact hm

theorem mem_keys {d : Dict K V} {k : K} : k ∈ d.keys ↔ ∃ v, d.get? k = some v := by
  simp only [keys, List.mem_map, Prod.exists, exists_and_right, exists_eq_right, ← mem_items]

/-- A loop over `d.items()` visits exactly the pairs a read hits. -/
theorem forall_mem_items {d : Dict K V} {P : K → V → Prop} :
    (∀ p ∈ d.items, P p.1 p.2) ↔ ∀ k v, d.get? k = some v → P k v :=
  ⟨fun h k v hk => h (k, v) (mem_items.2 hk), fun h p hp => h p.1 p.2 (mem_items.1 hp)⟩

/-! ## Writes -/

theorem mem_items_set {d : Dict K V} {k k' : K} {v w : V} :
    (k', w) ∈ (d.set k v).items ↔ if k' = k then w = v else (k', w) ∈ d.items := by
  unfold set
  split
  · rename_i h
    simp only [List.mem_map]
    split
    · subst k'
      obtain ⟨u, hu⟩ := mem_keys.1 h
      constructor
      · rintro ⟨p, -, hp⟩; split at hp <;> simp_all
      · rintro rfl; exact ⟨(k, u), mem_items.2 hu, by simp⟩
    · constructor
      · rintro ⟨p, hp, e⟩; split at e <;> simp_all
      · intro hm; exact ⟨_, hm, by simp [*]⟩
  · rename_i h
    simp only [List.mem_append, List.mem_singleton, Prod.mk.injEq]
    split
    · subst k'; simp only [true_and, or_iff_right_iff_imp]
      intro hm; exact absurd (List.mem_map_of_mem Prod.fst hm) h
    · simp [*]

@[simp] theorem get?_set (d : Dict K V) (k k' : K) (v : V) :
    (d.set k v).get? k' = if k' = k then some v else d.get? k' := by
  ext w
  rw [Option.mem_def, ← mem_items, mem_items_set]
  split <;> simp [mem_items, eq_comm]

theorem mem_keys_set {d : Dict K V} {k k' : K} {v : V} :
    k' ∈ (d.set k v).keys ↔ k' = k ∨ k' ∈ d.keys := by
  by_cases h : k' = k <;> simp [mem_keys, h]

/-- Writing a key already there keeps the keys. -/
theorem mem_keys_set_of_mem {d : Dict K V} {k : K} (h : k ∈ d.keys) (v : V) (k' : K) :
    k' ∈ (d.set k v).keys ↔ k' ∈ d.keys := by
  rw [mem_keys_set]; exact or_iff_right_of_imp fun e => e ▸ h

theorem items_set_of_not_mem {d : Dict K V} {k : K} (h : k ∉ d.keys) (v : V) :
    (d.set k v).items = d.items ++ [(k, v)] := by
  simp [set, h]

theorem erase?_eq_none {d : Dict K V} {k : K} : d.erase? k = none ↔ k ∉ d.keys := by
  unfold erase?; split <;> simp [*]

theorem get?_erase? {d d' : Dict K V} {k : K} (h : d.erase? k = some d') (k' : K) :
    d'.get? k' = if k' = k then none else d.get? k' := by
  unfold erase? at h
  split at h <;> cases h
  ext w
  rw [Option.mem_def, ← mem_items]
  split <;> simp [*, mem_items]

theorem mem_keys_erase? {d d' : Dict K V} {k k' : K} (h : d.erase? k = some d') :
    k' ∈ d'.keys ↔ k' ≠ k ∧ k' ∈ d.keys := by
  by_cases e : k' = k <;> simp [mem_keys, get?_erase? h, e]

/-! ## Comprehensions -/

theorem mem_keys_foldl_set (xs : List (K × V)) (d : Dict K V) (k : K) :
    k ∈ (xs.foldl (fun d p => d.set p.1 p.2) d).keys ↔ k ∈ d.keys ∨ k ∈ xs.map Prod.fst := by
  induction xs generalizing d with
  | nil => simp
  | cons p xs ih =>
    rw [List.foldl_cons, ih, mem_keys_set, or_assoc, List.map_cons, List.mem_cons, or_left_comm]

theorem mem_keys_ofList (xs : List (K × V)) (k : K) :
    k ∈ (ofList xs).keys ↔ k ∈ xs.map Prod.fst := by
  rw [ofList, mem_keys_foldl_set]
  simp only [keys, empty, List.map_nil, List.not_mem_nil, false_or]

theorem get?_foldl_set_of_forall {xs : List (K × V)} {d : Dict K V} {k : K} {w : V}
    (hw : ∀ p ∈ xs, p.1 = k → p.2 = w) (hk : k ∈ xs.map Prod.fst ∨ d.get? k = some w) :
    (xs.foldl (fun d p => d.set p.1 p.2) d).get? k = some w := by
  induction xs generalizing d with
  | nil => simpa using hk
  | cons p xs ih =>
    refine ih (fun q hq => hw q (List.mem_cons_of_mem _ hq)) ?_
    by_cases e : k = p.1
    · exact .inr (by simp [e, hw p (List.mem_cons_self _ _) e.symm])
    · simpa only [get?_set, if_neg e, List.map_cons, List.mem_cons, e, false_or] using hk

/-- A comprehension in which every item of key `k` has value `w` reads `w` at `k`. -/
theorem get?_ofList_of_forall {xs : List (K × V)} {k : K} {w : V} (hk : k ∈ xs.map Prod.fst)
    (hw : ∀ p ∈ xs, p.1 = k → p.2 = w) : (ofList xs).get? k = some w :=
  get?_foldl_set_of_forall hw (.inl hk)

theorem mem_of_get?_foldl_set {xs : List (K × V)} {d : Dict K V} {k : K} {w : V}
    (h : (xs.foldl (fun d p => d.set p.1 p.2) d).get? k = some w) :
    d.get? k = some w ∨ (k, w) ∈ xs := by
  induction xs generalizing d with
  | nil => exact .inl h
  | cons p xs ih =>
    rcases ih h with h | h
    · rw [get?_set] at h
      split at h
      · cases h; subst k; exact .inr (List.mem_cons_self _ _)
      · exact .inl h
    · exact .inr (List.mem_cons_of_mem _ h)

/-- What a comprehension reads at `k` is the value of one of its items of key `k`. -/
theorem mem_of_get?_ofList {xs : List (K × V)} {k : K} {w : V} (h : (ofList xs).get? k = some w) :
    (k, w) ∈ xs :=
  (mem_of_get?_foldl_set h).resolve_left (by simp)

theorem items_foldl_set {xs : List (K × V)} {d : Dict K V}
    (h : (d.keys ++ xs.map Prod.fst).Nodup) :
    (xs.foldl (fun d p => d.set p.1 p.2) d).items = d.items ++ xs := by
  induction xs generalizing d with
  | nil => simp
  | cons p xs ih =>
    have hp : p.1 ∉ d.keys := fun hm => (List.nodup_append.1 h).2.2 hm (List.mem_cons_self _ _)
    rw [List.foldl_cons, ih, items_set_of_not_mem hp, List.append_assoc, List.singleton_append]
    simpa [keys, items_set_of_not_mem hp] using h

/-- A comprehension with no key twice holds its items in order. -/
theorem items_ofList {xs : List (K × V)} (h : (xs.map Prod.fst).Nodup) : (ofList xs).items = xs :=
  items_foldl_set (by simpa [empty, keys] using h)

/-! ## Loops writing one key per item -/

section Loop

variable {α : Type} {f : K × α → Option V}

/-- `for p in xs: r[p[0]] = f(p)`, for an `f` that may raise. -/
abbrev setEach (f : K × α → Option V) (r : Dict K V) (p : K × α) : Option (Dict K V) := do
  let b ← f p
  pure (r.set p.1 b)

theorem foldlM_setEach_isSome {xs : List (K × α)} {d : Dict K V} :
    (xs.foldlM (setEach f) d).isSome ↔ ∀ p ∈ xs, (f p).isSome := by
  induction xs generalizing d with
  | nil => simp
  | cons p xs ih =>
    cases hp : f p <;> simp only [List.foldlM_cons, setEach, hp, Option.bind_eq_bind, Option.none_bind,
      Option.pure_def, Option.some_bind, ih, List.forall_mem_cons, Option.isSome_none,
      Option.isSome_some, Bool.false_eq_true, false_and, true_and]

/-- Over items with distinct keys, the loop reads `f p` at the key of each item `p` and leaves
every other key as it was. -/
theorem foldlM_setEach_spec {xs : List (K × α)} {d r : Dict K V}
    (h : xs.foldlM (setEach f) d = some r) (hn : (xs.map Prod.fst).Nodup) :
    (∀ p ∈ xs, ∃ b, f p = some b ∧ r.get? p.1 = some b) ∧
      ∀ k ∉ xs.map Prod.fst, r.get? k = d.get? k := by
  induction xs generalizing d with
  | nil => cases h; simp
  | cons p xs ih =>
    simp only [List.foldlM_cons, Option.bind_eq_bind, Option.bind_eq_some, setEach, Option.pure_def,
      Option.some.injEq] at h
    obtain ⟨d₁, ⟨b, hb, rfl⟩, h⟩ := h
    have ⟨hp, hxs⟩ := List.nodup_cons.1 hn
    obtain ⟨ih₁, ih₂⟩ := ih h hxs
    refine ⟨fun q hq => ?_, fun k hk => ?_⟩
    · rcases List.mem_cons.1 hq with rfl | hq
      · exact ⟨b, hb, by rw [ih₂ _ hp]; simp⟩
      · exact ih₁ q hq
    · simp only [List.map_cons, List.mem_cons, not_or] at hk
      rw [ih₂ _ hk.2, get?_set, if_neg hk.1]

end Loop

end Dict

/-! ## Lists -/

/-- `list(filter(predicate, xs))`, for a predicate that may raise. -/
def pyFilter {α : Type} (p : α → Option Bool) : List α → Option (List α)
  | [] => some []
  | a :: as => do
    let b ← p a
    let r ← pyFilter p as
    pure (if b then a :: r else r)

theorem pyFilter_eq_some {α : Type} {p : α → Option Bool} {q : α → Bool} {xs : List α}
    (h : ∀ x ∈ xs, p x = some (q x)) : pyFilter p xs = some (xs.filter q) := by
  induction xs with
  | nil => rfl
  | cons x xs ih =>
    simp only [pyFilter, h x (List.mem_cons_self _ _), ih fun y hy => h y (List.mem_cons_of_mem _ hy),
      Option.bind_eq_bind, Option.bind_some, List.filter_cons]
    cases q x <;> rfl

/-- What `list(filter(predicate, xs))` returns is drawn from `xs`, each on a `True`. -/
theorem mem_of_mem_pyFilter {α : Type} {p : α → Option Bool} {xs ys : List α}
    (h : pyFilter p xs = some ys) {y : α} (hy : y ∈ ys) : y ∈ xs ∧ p y = some true := by
  induction xs generalizing ys with
  | nil => cases h; cases hy
  | cons x xs ih =>
    simp only [pyFilter, Option.bind_eq_bind, Option.bind_eq_some, Option.pure_def,
      Option.some.injEq] at h
    obtain ⟨b, hb, r, hr, rfl⟩ := h
    cases b
    · simp only [Bool.false_eq_true, if_false] at hy
      exact (ih hr hy).imp_left (List.mem_cons_of_mem _)
    · rcases List.mem_cons.1 (by simpa using hy) with rfl | hy
      · exact ⟨List.mem_cons_self _ _, hb⟩
      · exact (ih hr hy).imp_left (List.mem_cons_of_mem _)

/-- Counting with `p` and with `q`: the elements either holds of, and those both hold of. -/
theorem countP_add_countP {α : Type} (p q : α → Bool) (xs : List α) :
    xs.countP p + xs.countP q = xs.countP (fun x => p x || q x) + xs.countP fun x => p x && q x := by
  induction xs with
  | nil => rfl
  | cons x xs ih =>
    simp only [List.countP_cons]
    cases p x <;> cases q x <;> simp <;> omega

theorem countP_add_countP_of_disjoint {α : Type} {p q : α → Bool} (xs : List α)
    (h : ∀ x ∈ xs, ¬(p x ∧ q x)) : xs.countP p + xs.countP q = xs.countP fun x => p x || q x := by
  have : xs.countP (fun x => p x && q x) = 0 := List.countP_eq_zero.2 fun x hx => by simpa using h x hx
  rw [countP_add_countP, this, Nat.add_zero]

/-- Summed over items with distinct keys, the elements `f` sends to each item's key are those it
sends to some item's key. -/
theorem sum_countP_eq_countP_any {α K β : Type} [DecidableEq K] (xs : List α) (q : α → Bool)
    (f : α → Option K) {items : List (K × β)} (h : (items.map Prod.fst).Nodup) :
    (items.map fun p => xs.countP fun x => q x && f x = some p.1).sum =
      xs.countP fun x => q x && (f x).any (· ∈ items.map Prod.fst) := by
  induction items with
  | nil => exact (List.countP_eq_zero.2 fun x _ => by cases f x <;> simp).symm
  | cons p items ih =>
    rw [List.map_cons, List.sum_cons, ih (List.nodup_cons.1 h).2, countP_add_countP_of_disjoint]
    · refine List.countP_congr fun x _ => ?_
      cases f x <;> simp only [Option.some.injEq, Option.any_none, Option.any_some, Bool.and_false,
        Bool.or_self, Bool.or_eq_true, Bool.and_eq_true, decide_eq_true_eq, List.map_cons,
        List.mem_cons, List.decide_mem_cons, beq_iff_eq, reduceCtorEq, decide_False, and_or_left]
    · intro x _ ⟨h₁, h₂⟩
      simp only [Bool.and_eq_true, decide_eq_true_eq] at h₁ h₂
      rw [h₁.2] at h₂
      exact (List.nodup_cons.1 h).1 (by simpa only [Option.any_some, decide_eq_true_eq] using h₂.2)

end CatalistOracle
