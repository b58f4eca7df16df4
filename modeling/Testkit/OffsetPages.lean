import Mathlib.Algebra.Order.Floor.Div

/-! # Offset pagination

A list cut into pages of `size` rows, counted from 1: what a numbered pager shows.
An empty list has one page, without rows.
-/
namespace OffsetPages
variable {T : Type*} (rows : List T) (size : Nat)

/-- The rows of page `p`. -/
def page (p : Nat) : List T := (rows.drop ((p - 1) * size)).take size

/-- The number of pages. -/
def count : Nat := max 1 (rows.length ⌈/⌉ size)

variable {rows size} {p : Nat}

/-- A page other than the first exists when rows are left for it. -/
theorem le_count_iff (hsize : 0 < size) :
    p ≤ count rows size ↔ p ≤ 1 ∨ (p - 1) * size < rows.length := by
  have hceil : p ≤ rows.length ⌈/⌉ size ↔ p = 0 ∨ (p - 1) * size < rows.length := by
    rw [← not_iff_not, not_le, not_or, not_lt]
    cases p with
    | zero => simp
    | succ n =>
      rw [Nat.lt_succ_iff, ceilDiv_le_iff_le_mul hsize, Nat.mul_comm size n]
      simp
  rw [count, le_max_iff, hceil]
  constructor
  · rintro (h | rfl | h)
    · exact Or.inl h
    · exact Or.inl (Nat.zero_le 1)
    · exact Or.inr h
  · rintro (h | h)
    · exact Or.inl h
    · exact Or.inr (Or.inr h)

/-- A page starts where the one before it ends. -/
theorem offset_add_size (hp : 1 ≤ p) (size : Nat) : (p - 1) * size + size = p * size := by
  rw [← Nat.succ_mul, Nat.succ_eq_add_one, Nat.sub_add_cancel hp]

/-- **The rows up to and including page `p`** number `p * size`, or all there are. -/
theorem offset_add_length (hp : 1 ≤ p) (hle : (p - 1) * size ≤ rows.length) :
    (p - 1) * size + (page rows size p).length = min (p * size) rows.length := by
  rw [page, List.length_take, List.length_drop, ← offset_add_size hp]
  omega

theorem mem_of_mem_page {x : T} (hx : x ∈ page rows size p) : x ∈ rows :=
  List.mem_of_mem_drop (List.mem_of_mem_take hx)

/-- A page holds at most `size` rows. -/
theorem length_page_le (rows : List T) (size p : Nat) : (page rows size p).length ≤ size :=
  List.length_take_le _ _

/-- **Every row is on a page.** -/
theorem exists_mem_page (hsize : 0 < size) {x : T} (hx : x ∈ rows) :
    ∃ p, 1 ≤ p ∧ p ≤ count rows size ∧ x ∈ page rows size p := by
  obtain ⟨i, hi, rfl⟩ := List.mem_iff_getElem.mp hx
  have hdiv : i / size * size ≤ i := Nat.div_mul_le_self i size
  have hmod : i % size + i / size * size = i := by
    rw [Nat.mul_comm]
    exact Nat.mod_add_div i size
  refine ⟨i / size + 1, Nat.le_add_left 1 _, (le_count_iff hsize).mpr (Or.inr ?_), ?_⟩
  · rw [Nat.add_sub_cancel]
    exact Nat.lt_of_le_of_lt hdiv hi
  · rw [page, Nat.add_sub_cancel]
    refine List.mem_take_iff_getElem.mpr ⟨i % size, ?_, ?_⟩
    · rw [List.length_drop]
      have := Nat.mod_lt i hsize
      omega
    · rw [List.getElem_drop]
      congr 1
      omega

/-- More rows have no fewer pages. -/
theorem count_le_count {rows' : List T} (hsize : 0 < size) (hle : rows.length ≤ rows'.length) :
    count rows size ≤ count rows' size :=
  (le_count_iff hsize).mpr
    (((le_count_iff hsize).mp (Nat.le_refl _)).imp_right fun h => Nat.lt_of_lt_of_le h hle)

end OffsetPages
