import Mathlib.Data.List.Basic

/-! # Pairs of converters between mirrored messages

Two message types that mirror each other come with a converter in either direction,
between pointers that may be nil.  The pair is `Lossless` when each converter undoes the
other and neither makes a message out of nil.  Losslessness is built from the inside
out: of records, of lists of messages, and of maps that are copied entry by entry.
-/
namespace MirroredMessages
open Function
variable {α β V : Type}

/-- Converting and converting back is the identity, on either side, and nil is nil. -/
structure Lossless (f : Option α → Option β) (g : Option β → Option α) : Prop where
  left : LeftInverse g f
  right : LeftInverse f g
  left_nil : f none = none
  right_nil : g none = none

/-- Converters that copy the record under the pointer. -/
theorem Lossless.option {f : α → β} {g : β → α} (left : LeftInverse g f)
    (right : LeftInverse f g) : Lossless (Option.map f) (Option.map g) where
  left := by
    intro m
    rw [Option.map_map, left.comp_eq_id, Option.map_id_apply]
  right := by
    intro m
    rw [Option.map_map, right.comp_eq_id, Option.map_id_apply]
  left_nil := rfl
  right_nil := rfl

section Items
variable {f : Option α → Option β} {g : Option β → Option α}

/-- Item by item, nil or not: length and order are kept. -/
theorem Lossless.listLeft (h : Lossless f g) (items : List (Option α)) :
    (items.map f).map g = items :=
  h.left.list_map items

theorem Lossless.listRight (h : Lossless f g) (items : List (Option β)) :
    (items.map g).map f = items :=
  h.right.list_map items

end Items

/-! ## Maps -/

/-- A map with string keys; a nil map is an empty one. -/
abbrev EntryMap (V : Type) : Type := Std.ExtTreeMap String V

/-- The loop `for k, v := range src { out[k] = v }`, entry by entry. -/
def insertAll (entries : List (String × V)) (out : EntryMap V) : EntryMap V :=
  entries.foldl (fun out entry => out.insert entry.1 entry.2) out

theorem insertAll_cons (entry : String × V) (rest : List (String × V)) (out : EntryMap V) :
    insertAll (entry :: rest) out = insertAll rest (out.insert entry.1 entry.2) := rfl

/-- What the loop leaves under a key: the entry it visited, or what was there. -/
theorem getElem?_insertAll (entries : List (String × V)) (out : EntryMap V) (k : String)
    (hdistinct : (entries.map Prod.fst).Nodup) :
    (∀ v, (k, v) ∈ entries → (insertAll entries out)[k]? = some v) ∧
    (k ∉ entries.map Prod.fst → (insertAll entries out)[k]? = out[k]?) := by
  induction entries generalizing out with
  | nil => exact ⟨fun v hv => absurd hv (by simp), fun _ => rfl⟩
  | cons entry rest ih =>
    obtain ⟨hhead, hrest⟩ := List.nodup_cons.mp hdistinct
    have ih := ih (out.insert entry.1 entry.2) hrest
    rw [insertAll_cons]
    constructor
    · intro v hv
      rcases List.mem_cons.mp hv with rfl | hv
      · -- no later entry has this key
        rw [ih.2 hhead, Std.ExtTreeMap.getElem?_insert_self]
      · exact ih.1 v hv
    · intro hk
      simp only [List.map_cons, List.mem_cons, not_or] at hk
      rw [ih.2 hk.2, Std.ExtTreeMap.getElem?_insert, if_neg]
      intro hcmp
      exact hk.1 (Std.LawfulEqCmp.eq_of_compare hcmp).symm

/-- **Copying a map copies it**, in whatever order the loop visits the entries. -/
theorem insertAll_perm {entries : List (String × V)} {m : EntryMap V}
    (hperm : entries.Perm m.toList) : insertAll entries ∅ = m := by
  have hdistinct : (entries.map Prod.fst).Nodup := by
    rw [(hperm.map Prod.fst).nodup_iff, Std.ExtTreeMap.map_fst_toList_eq_keys]
    exact Std.ExtTreeMap.nodup_keys
  apply Std.ExtTreeMap.ext_getElem?
  intro k
  obtain ⟨hvisited, hother⟩ := getElem?_insertAll entries ∅ k hdistinct
  cases hk : m[k]? with
  | some v =>
    exact hvisited v (hperm.mem_iff.mpr (Std.ExtTreeMap.mem_toList_iff_getElem?_eq_some.mpr hk))
  | none =>
    rw [hother, Std.ExtTreeMap.getElem?_empty]
    intro hmem
    obtain ⟨⟨k', v⟩, hentry, rfl⟩ := List.mem_map.mp hmem
    rw [Std.ExtTreeMap.mem_toList_iff_getElem?_eq_some.mp (hperm.mem_iff.mp hentry)] at hk
    cases hk

/-- The copy of a map. -/
def copyMap (src : EntryMap V) : EntryMap V := insertAll src.toList ∅

@[simp] theorem copyMap_eq (src : EntryMap V) : copyMap src = src :=
  insertAll_perm (List.Perm.refl _)

end MirroredMessages
