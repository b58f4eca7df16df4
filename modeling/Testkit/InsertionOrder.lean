import Mathlib.Data.List.Nodup
import Mathlib.Data.List.Flatten

/-! # Sets and maps that remember the order of insertion

A set or a map that is filled value by value and read back in the order in which its
values, or its keys, first came.  Storing under a key that is there keeps the key's place.

`OrderedMap.get_push` and `get_groupBy` are the rules for the usual loop that collects the
items of a list under their keys.
-/
namespace InsertionOrder
variable {K V A : Type*} [DecidableEq K]

/-! ## Sets -/

/-- A set in order of insertion. -/
structure OrderedSet (K : Type*) where
  values : List K
  nodup : values.Nodup

namespace OrderedSet

/-- The set of no values. -/
def empty : OrderedSet K := ⟨[], List.nodup_nil⟩

instance : Membership K (OrderedSet K) := ⟨fun s x => x ∈ s.values⟩

instance (x : K) (s : OrderedSet K) : Decidable (x ∈ s) :=
  inferInstanceAs (Decidable (x ∈ s.values))

/-- A new value goes to the end. -/
def add (s : OrderedSet K) (x : K) : OrderedSet K where
  values := if x ∈ s.values then s.values else s.values ++ [x]
  nodup := by
    split
    · exact s.nodup
    · rename_i hnew
      exact s.nodup.append (List.nodup_singleton x)
        (List.disjoint_singleton.mpr hnew)

/-- The values of a list, one after another. -/
def ofList (xs : List K) : OrderedSet K := xs.foldl add empty

omit [DecidableEq K] in
@[simp] theorem not_mem_empty (x : K) : x ∉ (empty : OrderedSet K) := List.not_mem_nil

@[simp] theorem mem_add {s : OrderedSet K} {x y : K} : y ∈ s.add x ↔ y ∈ s ∨ y = x := by
  show y ∈ (if x ∈ s.values then s.values else s.values ++ [x]) ↔ y ∈ s.values ∨ y = x
  split
  · rename_i hx
    exact ⟨Or.inl, fun h => h.elim id fun hy => hy ▸ hx⟩
  · rw [List.mem_append, List.mem_singleton]

theorem mem_foldl_add (xs : List K) (s : OrderedSet K) (y : K) :
    y ∈ xs.foldl add s ↔ y ∈ s ∨ y ∈ xs := by
  induction xs generalizing s with
  | nil => simp
  | cons x xs ih =>
    rw [List.foldl_cons, ih, mem_add, List.mem_cons, or_assoc]

@[simp] theorem mem_ofList {xs : List K} {y : K} : y ∈ ofList xs ↔ y ∈ xs := by
  rw [ofList, mem_foldl_add]
  simp

/-- A value is taken out. -/
def delete (s : OrderedSet K) (x : K) : OrderedSet K where
  values := s.values.erase x
  nodup := s.nodup.erase x

theorem mem_delete {s : OrderedSet K} {x y : K} : y ∈ s.delete x ↔ y ≠ x ∧ y ∈ s :=
  s.nodup.mem_erase_iff

end OrderedSet

/-! ## Maps -/

/-- A map in order of insertion: its keys are distinct. -/
structure OrderedMap (K V : Type*) where
  entries : List (K × V)
  distinct : (entries.map Prod.fst).Nodup

namespace OrderedMap

/-- The map of no keys. -/
def empty : OrderedMap K V := ⟨[], List.nodup_nil⟩

/-- What is stored under a key. -/
def get (m : OrderedMap K V) (k : K) : Option V :=
  (m.entries.find? fun e => decide (e.1 = k)).map Prod.snd

/-- The entries once `v` is stored under `k`. -/
def stored (entries : List (K × V)) (k : K) (v : V) : List (K × V) :=
  if k ∈ entries.map Prod.fst then entries.map fun e => if e.1 = k then (k, v) else e
  else entries ++ [(k, v)]

theorem keys_stored (entries : List (K × V)) (k : K) (v : V) :
    (stored entries k v).map Prod.fst =
      if k ∈ entries.map Prod.fst then entries.map Prod.fst else entries.map Prod.fst ++ [k] := by
  unfold stored
  split
  · rw [List.map_map]
    refine List.map_congr_left ?_
    intro e _
    by_cases he : e.1 = k <;> simp [he]
  · rw [List.map_append]
    rfl

/-- A key that is there keeps its place; a new one goes to the end. -/
def set (m : OrderedMap K V) (k : K) (v : V) : OrderedMap K V where
  entries := stored m.entries k v
  distinct := by
    rw [keys_stored]
    split
    · exact m.distinct
    · rename_i hnew
      exact m.distinct.append (List.nodup_singleton k) (List.disjoint_singleton.mpr hnew)

/-- The entries of a list, one after another. -/
def ofList (entries : List (K × V)) : OrderedMap K V :=
  entries.foldl (fun m e => m.set e.1 e.2) empty

@[simp] theorem get_empty (k : K) : (empty : OrderedMap K V).get k = none := rfl

theorem find?_key_eq_none_iff {entries : List (K × V)} {k : K} :
    (entries.find? fun e => decide (e.1 = k)) = none ↔ k ∉ entries.map Prod.fst := by
  simp only [List.find?_eq_none, decide_eq_true_eq, List.mem_map, not_exists, not_and]

theorem get_set_self (m : OrderedMap K V) (k : K) (v : V) : (m.set k v).get k = some v := by
  show ((stored m.entries k v).find? _).map Prod.snd = some v
  unfold stored
  split
  · rename_i hold
    obtain ⟨e, he, rfl⟩ := List.mem_map.mp hold
    have hpred : (fun x : K × V => decide (x.1 = e.1)) ∘
        (fun x : K × V => if x.1 = e.1 then (e.1, v) else x) =
          fun x : K × V => decide (x.1 = e.1) := by
      funext x
      by_cases hx : x.1 = e.1 <;> simp [hx]
    have hsome : (m.entries.find? fun x => decide (x.1 = e.1)).isSome :=
      List.find?_isSome.mpr ⟨e, he, by simp⟩
    obtain ⟨found, hfound⟩ := Option.isSome_iff_exists.mp hsome
    have hkey : found.1 = e.1 := by simpa using List.find?_some hfound
    rw [List.find?_map, hpred, hfound]
    simp [hkey]
  · rename_i hnew
    rw [List.find?_append, find?_key_eq_none_iff.mpr hnew]
    simp

theorem get_set_of_ne (m : OrderedMap K V) {k k' : K} (v : V) (hne : k' ≠ k) :
    (m.set k v).get k' = m.get k' := by
  show ((stored m.entries k v).find? _).map Prod.snd = (m.entries.find? _).map Prod.snd
  unfold stored
  split
  · have hpred : (fun x : K × V => decide (x.1 = k')) ∘
        (fun x : K × V => if x.1 = k then (k, v) else x) =
          fun x : K × V => decide (x.1 = k') := by
      funext x
      by_cases hx : x.1 = k
      · simp [hx, hne.symm]
      · simp [hx]
    rw [List.find?_map, hpred]
    cases hfound : m.entries.find? (fun x => decide (x.1 = k')) with
    | none => rfl
    | some found =>
      have hkey : found.1 = k' := by simpa using List.find?_some hfound
      simp [hkey, hne]
  · rw [List.find?_append]
    cases m.entries.find? (fun x => decide (x.1 = k')) with
    | none => simp [hne.symm]
    | some found => rfl

/-- What is read after a store. -/
theorem get_set (m : OrderedMap K V) (k k' : K) (v : V) :
    (m.set k v).get k' = if k' = k then some v else m.get k' := by
  split
  · rename_i heq
    rw [heq, get_set_self]
  · rename_i hne
    exact get_set_of_ne m v hne

/-- A list of entries overrides what was there, the last entry of a key its others. -/
theorem get_foldl_set (entries : List (K × V)) (m : OrderedMap K V) (k : K) :
    (entries.foldl (fun m e => m.set e.1 e.2) m).get k =
      ((entries.reverse.find? fun e => decide (e.1 = k)).map Prod.snd).or (m.get k) := by
  induction entries generalizing m with
  | nil => simp
  | cons e entries ih =>
    rw [List.foldl_cons, ih, List.reverse_cons, List.find?_append, get_set]
    by_cases he : e.1 = k
    · simp [he]
    · simp [he, Ne.symm he]

theorem get_ofList (entries : List (K × V)) (k : K) :
    (ofList entries).get k =
      (entries.reverse.find? fun e => decide (e.1 = k)).map Prod.snd := by
  rw [ofList, get_foldl_set, get_empty, Option.or_none]

/-- Where keys are distinct it does not matter from which end a key is looked up. -/
theorem find?_key_reverse {entries : List (K × V)} (h : (entries.map Prod.fst).Nodup) (k : K) :
    (entries.reverse.find? fun e => decide (e.1 = k)) =
      entries.find? fun e => decide (e.1 = k) := by
  by_cases hk : k ∈ entries.map Prod.fst
  · obtain ⟨e, he, rfl⟩ := List.mem_map.mp hk
    have hfound : ∀ l : List (K × V), (∀ x ∈ l, x ∈ entries) → e ∈ l →
        (l.find? fun x => decide (x.1 = e.1)) = some e := by
      intro l hl hel
      have hsome : (l.find? fun x => decide (x.1 = e.1)).isSome :=
        List.find?_isSome.mpr ⟨e, hel, by simp⟩
      obtain ⟨found, hfound⟩ := Option.isSome_iff_exists.mp hsome
      have hkey : found.1 = e.1 := by simpa using List.find?_some hfound
      have hmem := hl found (List.mem_of_find?_eq_some hfound)
      rw [hfound, List.inj_on_of_nodup_map h hmem he hkey]
    rw [hfound entries (fun _ hx => hx) he,
      hfound entries.reverse (fun _ hx => List.mem_reverse.mp hx) (List.mem_reverse.mpr he)]
  · rw [find?_key_eq_none_iff.mpr hk, find?_key_eq_none_iff.mpr]
    simpa using hk

/-- A map rebuilt entry by entry with its values changed. -/
theorem get_ofList_map {W : Type*} (m : OrderedMap K V) (f : V → W) (k : K) :
    (ofList (m.entries.map fun e => (e.1, f e.2))).get k = (m.get k).map f := by
  have hkeys : ((m.entries.map fun e => (e.1, f e.2)).map Prod.fst).Nodup := by
    rw [List.map_map]
    exact m.distinct
  have hpred : (fun e : K × W => decide (e.1 = k)) ∘ (fun e : K × V => (e.1, f e.2)) =
      fun e : K × V => decide (e.1 = k) := rfl
  rw [get_ofList, find?_key_reverse hkeys, List.find?_map, hpred, get]
  cases m.entries.find? fun e => decide (e.1 = k) <;> rfl

/-! ## Collecting under keys -/

/-- An item goes to the end of the list under a key. -/
def push (m : OrderedMap K (List A)) (k : K) (x : A) : OrderedMap K (List A) :=
  m.set k ((m.get k).getD [] ++ [x])

/-- The list under a key, empty where there is none. -/
theorem getD_push (m : OrderedMap K (List A)) (k k' : K) (x : A) :
    ((m.push k x).get k').getD [] = (m.get k').getD [] ++ if k' = k then [x] else [] := by
  rw [push, get_set]
  by_cases h : k' = k <;> simp [h]

/-- Every item goes under each of its keys. -/
def groupBy (keys : A → List K) (items : List A) : OrderedMap K (List A) :=
  items.foldl (fun m x => (keys x).foldl (fun m k => m.push k x) m) empty

/-- No list of a collection is empty. -/
def Filled (m : OrderedMap K (List A)) : Prop := ∀ k xs, m.get k = some xs → xs ≠ []

theorem filled_push {m : OrderedMap K (List A)} (h : Filled m) (k : K) (x : A) :
    Filled (m.push k x) := by
  intro k' xs hget
  rw [push, get_set] at hget
  split at hget
  · obtain rfl := Option.some.inj hget
    simp
  · exact h k' xs hget

theorem foldl_push (x : A) (ks : List K) (m : OrderedMap K (List A)) (k : K) :
    ((ks.foldl (fun m k => m.push k x) m).get k).getD [] =
        (m.get k).getD [] ++ List.replicate (ks.count k) x ∧
      (Filled m → Filled (ks.foldl (fun m k => m.push k x) m)) := by
  induction ks generalizing m with
  | nil => simp
  | cons head ks ih =>
    obtain ⟨hget, hfilled⟩ := ih (m.push head x)
    refine ⟨?_, fun h => hfilled (filled_push h head x)⟩
    rw [List.foldl_cons, hget, getD_push, List.append_assoc, List.count_cons]
    by_cases hk : k = head
    · simp [hk, List.replicate_succ]
    · simp [hk, Ne.symm hk]

theorem foldl_groupBy (keys : A → List K) (items : List A) (m : OrderedMap K (List A)) (k : K) :
    ((items.foldl (fun m x => (keys x).foldl (fun m k => m.push k x) m) m).get k).getD [] =
        (m.get k).getD [] ++ items.flatMap (fun x => List.replicate ((keys x).count k) x) ∧
      (Filled m →
        Filled (items.foldl (fun m x => (keys x).foldl (fun m k => m.push k x) m) m)) := by
  induction items generalizing m with
  | nil => simp
  | cons x items ih =>
    obtain ⟨hget, hfilled⟩ := ih ((keys x).foldl (fun m k => m.push k x) m)
    obtain ⟨hpush, hpushed⟩ := foldl_push x (keys x) m k
    refine ⟨?_, fun h => hfilled (hpushed h)⟩
    rw [List.foldl_cons, hget, hpush, List.flatMap_cons, List.append_assoc]

/-- **Collecting**: a key's list holds the items that name it, in their order and as often
as they name it; a key that no item names has no list. -/
theorem get_groupBy (keys : A → List K) (items : List A) (k : K) :
    (groupBy keys items).get k =
      if ∃ x ∈ items, k ∈ keys x then
        some (items.flatMap fun x => List.replicate ((keys x).count k) x)
      else none := by
  obtain ⟨hget, hfilled⟩ := foldl_groupBy keys items empty k
  have hempty : Filled (empty : OrderedMap K (List A)) := by
    intro k xs h
    cases h
  have hnil : (items.flatMap fun x => List.replicate ((keys x).count k) x) = [] ↔
      ¬ ∃ x ∈ items, k ∈ keys x := by
    simp [List.flatMap_eq_nil_iff, List.count_eq_zero]
  rw [get_empty, Option.getD_none, List.nil_append] at hget
  rw [groupBy]
  split
  · rename_i hnamed
    cases hsome : (items.foldl (fun m x => (keys x).foldl (fun m k => m.push k x) m)
        (empty : OrderedMap K (List A))).get k with
    | none =>
      rw [hsome] at hget
      exact absurd hnamed (hnil.mp hget.symm)
    | some xs =>
      rw [hsome] at hget
      exact congrArg some hget
  · rename_i hnamed
    cases hsome : (items.foldl (fun m x => (keys x).foldl (fun m k => m.push k x) m)
        (empty : OrderedMap K (List A))).get k with
    | none => rfl
    | some xs =>
      rw [hsome] at hget
      exact absurd (hget.trans (hnil.mpr hnamed)) (hfilled hempty k xs hsome)

end OrderedMap
end InsertionOrder
