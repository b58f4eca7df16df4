import Mathlib.Data.List.Forall2

/-! # Documents with members in order

A JSON document over any keys and numbers, as a program holds it that has parsed it: an object
is the list of its members in their order.  The operations are those of such a program: a
member read, written and deleted, every value of a container replaced, one member's value
replaced.

A property of all the objects in a document is `Everywhere`; what a rewriting keeps is said by
`OnValues` and `OnMember`, which hold of two documents that are alike but for the values, or
but for the values of one member.
-/
namespace JsonTree
variable {K N : Type}

/-- A document. -/
inductive Json (K N : Type) where
  | null
  | bool (b : Bool)
  | num (n : N)
  | str (s : K)
  | arr (elements : List (Json K N))
  | obj (members : List (K × Json K N))

namespace Json

/-- Neither an array nor an object. -/
def isLeaf : Json K N → Bool
  | arr _ => false
  | obj _ => false
  | _ => true

/-- **The induction over a document**: from the elements of an array, and the values of an
object's members, to it. -/
@[elab_as_elim]
theorem induct {P : Json K N → Prop} (leaf : ∀ d : Json K N, d.isLeaf → P d)
    (arr : ∀ es : List (Json K N), (∀ e ∈ es, P e) → P (arr es))
    (obj : ∀ ms : List (K × Json K N), (∀ m ∈ ms, P m.2) → P (obj ms)) (d : Json K N) : P d := by
  refine @Json.rec K N P (fun es => ∀ e ∈ es, P e) (fun ms => ∀ m ∈ ms, P m.2) (fun m => P m.2)
    (leaf null rfl) (fun b => leaf (bool b) rfl) (fun n => leaf (num n) rfl)
    (fun s => leaf (str s) rfl) arr obj ?_ ?_ ?_ ?_ ?_ d
  · simp
  · intro e es he hes
    exact List.forall_mem_cons.mpr ⟨he, hes⟩
  · simp
  · intro m ms hm hms
    exact List.forall_mem_cons.mpr ⟨hm, hms⟩
  · intro k v hv
    exact hv

/-! ## Everywhere in a document -/

mutual
/-- The documents in a document, it first. -/
def nodes : Json K N → List (Json K N)
  | arr es => arr es :: nodesElements es
  | obj ms => obj ms :: nodesMembers ms
  | d => [d]

def nodesElements : List (Json K N) → List (Json K N)
  | [] => []
  | e :: es => e.nodes ++ nodesElements es

def nodesMembers : List (K × Json K N) → List (Json K N)
  | [] => []
  | (_, v) :: ms => v.nodes ++ nodesMembers ms
end

theorem mem_nodesElements {d : Json K N} {es : List (Json K N)} :
    d ∈ nodesElements es ↔ ∃ e ∈ es, d ∈ e.nodes := by
  induction es with
  | nil => simp [nodesElements]
  | cons e es ih => simp [nodesElements, ih]

theorem mem_nodesMembers {d : Json K N} {ms : List (K × Json K N)} :
    d ∈ nodesMembers ms ↔ ∃ m ∈ ms, d ∈ m.2.nodes := by
  induction ms with
  | nil => simp [nodesMembers]
  | cons m ms ih => simp [nodesMembers, ih]

/-- A property of the document and of all the documents in it. -/
def Everywhere (P : Json K N → Prop) (d : Json K N) : Prop := ∀ n ∈ d.nodes, P n

section Everywhere
variable {P : Json K N → Prop}

theorem everywhere_leaf {d : Json K N} (hd : d.isLeaf) : Everywhere P d ↔ P d := by
  cases d <;> simp [isLeaf] at hd <;> simp [Everywhere, nodes]

theorem everywhere_arr {es : List (Json K N)} :
    Everywhere P (arr es) ↔ P (arr es) ∧ ∀ e ∈ es, Everywhere P e := by
  simp only [Everywhere, nodes, List.forall_mem_cons, mem_nodesElements]
  constructor
  · rintro ⟨harr, hall⟩
    exact ⟨harr, fun e he n hn => hall n ⟨e, he, hn⟩⟩
  · rintro ⟨harr, hall⟩
    exact ⟨harr, fun n ⟨e, he, hn⟩ => hall e he n hn⟩

theorem everywhere_obj {ms : List (K × Json K N)} :
    Everywhere P (obj ms) ↔ P (obj ms) ∧ ∀ m ∈ ms, Everywhere P m.2 := by
  simp only [Everywhere, nodes, List.forall_mem_cons, mem_nodesMembers]
  constructor
  · rintro ⟨hobj, hall⟩
    exact ⟨hobj, fun m hm n hn => hall n ⟨m, hm, hn⟩⟩
  · rintro ⟨hobj, hall⟩
    exact ⟨hobj, fun n ⟨m, hm, hn⟩ => hall m hm n hn⟩

end Everywhere

/-! ## Members -/

section Members
variable [DecidableEq K] {key k : K} {v : Json K N} {ms : List (K × Json K N)}

/-- The keys, in their order. -/
def keys (ms : List (K × Json K N)) : List K := ms.map Prod.fst

/-- The values, in the order of their keys. -/
def values (ms : List (K × Json K N)) : List (Json K N) := ms.map Prod.snd

/-- The member of a key. -/
def find (key : K) : List (K × Json K N) → Option (Json K N)
  | [] => none
  | (k, v) :: ms => if k = key then some v else find key ms

/-- The members with one written: in its place, or else as the last one. -/
def put (key : K) (v : Json K N) : List (K × Json K N) → List (K × Json K N)
  | [] => [(key, v)]
  | (k, w) :: ms => if k = key then (k, v) :: ms else (k, w) :: put key v ms

/-- The members but those of a key. -/
def delete (key : K) (ms : List (K × Json K N)) : List (K × Json K N) :=
  ms.filter fun m => decide (m.1 ≠ key)

theorem find_put_self : find key (put key v ms) = some v := by
  induction ms with
  | nil => simp [put, find]
  | cons m ms ih =>
    by_cases h : m.1 = key
    · simp [put, find, h]
    · simp [put, find, h, ih]

/-- Of the members that are left by a test of the keys. -/
theorem find_filter {p : K → Bool} (h : p key) :
    find key (ms.filter fun m => p m.1) = find key ms := by
  induction ms with
  | nil => rfl
  | cons m ms ih =>
    by_cases hm : m.1 = key
    · simp [find, hm, h]
    · by_cases hp : p m.1
      · simpa [find, hm, hp] using ih
      · simpa [find, hm, hp] using ih

theorem find_delete_self : find key (delete key ms) = none := by
  induction ms with
  | nil => rfl
  | cons m ms ih =>
    by_cases h : m.1 = key
    · simpa [delete, h] using ih
    · simpa [delete, find, h] using ih

theorem find_delete_of_ne (h : k ≠ key) : find k (delete key ms) = find k ms :=
  find_filter (p := fun k => decide (k ≠ key)) (decide_eq_true h)

theorem find_map {f : Json K N → Json K N} :
    find key (ms.map fun m => (m.1, f m.2)) = (find key ms).map f := by
  induction ms with
  | nil => rfl
  | cons m ms ih =>
    by_cases h : m.1 = key
    · simp [find, h]
    · simpa [find, h] using ih

theorem delete_map {f : Json K N → Json K N} :
    delete key (ms.map fun m => (m.1, f m.2)) = (delete key ms).map fun m => (m.1, f m.2) := by
  rw [delete, List.filter_map]
  rfl

theorem mem_of_mem_delete {m : K × Json K N} (h : m ∈ delete key ms) : m ∈ ms :=
  (List.mem_filter.mp h).1

/-- Deleting one member and then another, in either order. -/
theorem delete_comm : delete key (delete k ms) = delete k (delete key ms) := by
  simp only [delete, List.filter_filter]
  refine List.filter_congr fun m _ => ?_
  rw [Bool.and_comm]

theorem delete_delete : delete key (delete key ms) = delete key ms := by
  simp [delete, List.filter_filter]

/-- A member found by its key is a string where it was one, if the values are rewritten so. -/
theorem find_map_str {g : K × Json K N → K × Json K N} (hkey : ∀ m, (g m).1 = m.1)
    (hstr : ∀ m s, (g m).2 = str s ↔ m.2 = str s) {s : K} :
    find key (ms.map g) = some (str s) ↔ find key ms = some (str s) := by
  induction ms with
  | nil => rfl
  | cons m ms ih =>
    by_cases h : m.1 = key
    · simpa [find, h, hkey] using hstr m s
    · simpa [find, h, hkey] using ih

theorem mem_put {m : K × Json K N} (h : m ∈ put key v ms) : m ∈ ms ∨ m.2 = v := by
  induction ms with
  | nil =>
    rw [put, List.mem_singleton] at h
    exact .inr (congrArg Prod.snd h)
  | cons n ms ih =>
    by_cases hn : n.1 = key
    · rw [put, if_pos hn] at h
      rcases List.mem_cons.mp h with rfl | h
      · exact .inr rfl
      · exact .inl (List.mem_cons_of_mem n h)
    · rw [put, if_neg hn] at h
      rcases List.mem_cons.mp h with rfl | h
      · exact .inl List.mem_cons_self
      · exact (ih h).imp_left (List.mem_cons_of_mem n)

/-- Writing one member leaves the others. -/
theorem delete_put : delete key (put key v ms) = delete key ms := by
  induction ms with
  | nil => simp [put, delete]
  | cons m ms ih =>
    by_cases h : m.1 = key
    · simp [put, delete, h]
    · simpa [put, delete, h] using ih

/-- A member that is there is written in its place … -/
theorem keys_put (h : key ∈ keys ms) : keys (put key v ms) = keys ms := by
  induction ms with
  | nil => cases h
  | cons m ms ih =>
    by_cases hm : m.1 = key
    · simp [put, keys, hm]
    · have hin : key ∈ keys ms := by
        rcases List.mem_cons.mp h with heq | hin
        · exact absurd heq.symm hm
        · exact hin
      simpa [put, keys, hm] using ih hin

/-- … and one that is not behind the others. -/
theorem put_of_not_mem (h : key ∉ keys ms) : put key v ms = ms ++ [(key, v)] := by
  induction ms with
  | nil => rfl
  | cons m ms ih =>
    rw [keys, List.map_cons, List.mem_cons, not_or] at h
    rw [put, if_neg (Ne.symm h.1), ih h.2, List.cons_append]

omit [DecidableEq K] in
theorem keys_map {f : Json K N → Json K N} : keys (ms.map fun m => (m.1, f m.2)) = keys ms := by
  rw [keys, List.map_map]
  rfl

omit [DecidableEq K] in
theorem values_map {f : Json K N → Json K N} :
    values (ms.map fun m => (m.1, f m.2)) = (values ms).map f := by
  rw [values, List.map_map, values, List.map_map]
  rfl

end Members

/-! ## Rewriting values -/

/-- Every value of an array or an object rewritten. -/
def mapValues (f : Json K N → Json K N) : Json K N → Json K N
  | arr es => arr (es.map f)
  | obj ms => obj (ms.map fun m => (m.1, f m.2))
  | d => d

/-- The value of one member rewritten. -/
def mapMember [DecidableEq K] (key : K) (f : Json K N → Json K N) : Json K N → Json K N
  | obj ms => obj (ms.map fun m => if m.1 = key then (m.1, f m.2) else m)
  | d => d

/-- The documents are alike but for the values they contain, which are related in their
order. -/
inductive OnValues (R : Json K N → Json K N → Prop) : Json K N → Json K N → Prop
  | leaf {d : Json K N} : d.isLeaf → OnValues R d d
  | arr {es es' : List (Json K N)} : List.Forall₂ R es es' → OnValues R (arr es) (arr es')
  | obj {ms ms' : List (K × Json K N)} :
      List.Forall₂ (fun m m' => m.1 = m'.1 ∧ R m.2 m'.2) ms ms' → OnValues R (obj ms) (obj ms')

/-- The documents are alike but for the value of one member, if they are objects. -/
inductive OnMember (key : K) (R : Json K N → Json K N → Prop) : Json K N → Json K N → Prop
  | other {d : Json K N} : (∀ ms, d ≠ obj ms) → OnMember key R d d
  | obj {ms ms' : List (K × Json K N)} :
      List.Forall₂ (fun m m' => m.1 = m'.1 ∧ (m.1 = key → R m.2 m'.2) ∧
        (m.1 ≠ key → m.2 = m'.2)) ms ms' → OnMember key R (obj ms) (obj ms')

section Rewriting
variable {f : Json K N → Json K N} {R : Json K N → Json K N → Prop}

theorem forall₂_map {α β : Type} {R : α → β → Prop} {f : α → β} {l : List α}
    (h : ∀ a ∈ l, R a (f a)) : List.Forall₂ R l (l.map f) :=
  List.forall₂_map_right_iff.mpr (List.forall₂_same.mpr h)

theorem onValues_mapValues (h : ∀ d, R d (f d)) (d : Json K N) : OnValues R d (mapValues f d) := by
  cases d with
  | arr es => exact .arr (forall₂_map fun e _ => h e)
  | obj ms => exact .obj (forall₂_map fun m _ => ⟨rfl, h m.2⟩)
  | _ => exact .leaf rfl

theorem onMember_mapMember [DecidableEq K] (h : ∀ d, R d (f d)) (key : K) (d : Json K N) :
    OnMember key R d (mapMember key f d) := by
  cases d with
  | obj ms =>
    refine .obj (forall₂_map fun m _ => ?_)
    by_cases hm : m.1 = key
    · rw [if_pos hm]
      exact ⟨rfl, fun _ => h m.2, fun hne => absurd hm hne⟩
    · rw [if_neg hm]
      exact ⟨rfl, fun heq => absurd heq hm, fun _ => rfl⟩
  | _ => exact .other (by simp)

theorem mapValues_idempotent (h : ∀ d, f (f d) = f d) (d : Json K N) :
    mapValues f (mapValues f d) = mapValues f d := by
  cases d <;> simp [mapValues, Function.comp_def, h]

theorem mapMember_idempotent [DecidableEq K] (h : ∀ d, f (f d) = f d) (key : K) (d : Json K N) :
    mapMember key f (mapMember key f d) = mapMember key f d := by
  cases d with
  | obj ms =>
    rw [mapMember, mapMember, List.map_map]
    congr 1
    refine List.map_congr_left fun m _ => ?_
    by_cases hm : m.1 = key <;> simp [hm, h]
  | _ => rfl

/-- A rewriting that keeps the strings. -/
def KeepsStrings (f : Json K N → Json K N) : Prop := ∀ d s, f d = str s ↔ d = str s

theorem keepsStrings_mapValues : KeepsStrings (mapValues f) := by
  intro d s
  cases d <;> simp [mapValues]

theorem keepsStrings_mapMember [DecidableEq K] (key : K) : KeepsStrings (mapMember key f) := by
  intro d s
  cases d <;> simp [mapMember]

end Rewriting
end Json
end JsonTree
