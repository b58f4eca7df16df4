import Testkit.ConsoleStorage
import Testkit.InsertionOrder
import Testkit.Utf16

/-! # The rows of a management page

The list RPCs answer with the rows of every tenant, and the pages narrow them: in a tenant
view with `filterTenantRows`, in the cross view with the operator's choice among the
options of `tenantFilterOptions`.
-/
namespace Testkit
open InsertionOrder

/-- `TENANT_FILTER_ALL`. -/
def tenantFilterAll : String := "__all__"

/-- `TENANT_FILTER_POOL`. -/
def tenantFilterPool : String := "__platform_pool__"

/-- An option of the filter. -/
structure FilterOption where
  value : String
  label : String
  deriving DecidableEq, Repr

section Rows
variable {R : Type} (rows : List R) (getKey : R → Option String)

/-- The tenant key of a row; the empty string is none. -/
def rowKey (r : R) : Option String := (getKey r).filter (· ≠ "")

/-- The tenant keys of the rows, each once and sorted. -/
def rowKeys : List String :=
  (OrderedSet.ofList ((rows.map getKey).filterMap fun k => k.filter (· ≠ ""))).values.mergeSort
    Utf16.unitsLe

/-- `tenantFilterOptions`. -/
def tenantFilterOptions : List FilterOption :=
  ⟨tenantFilterAll, "全部租户"⟩ :: ⟨tenantFilterPool, "平台池"⟩ ::
    (rowKeys rows getKey).map fun k => ⟨k, k⟩

/-- `applyTenantFilter`. -/
def applyTenantFilter (filter : String) : List R :=
  if filter = tenantFilterAll then rows
  else if filter = tenantFilterPool then rows.filter fun r => (rowKey getKey r).isNone
  else rows.filter fun r => getKey r = some filter

/-- The values the operator can choose besides all rows. -/
def narrowing : List String := tenantFilterPool :: rowKeys rows getKey

/-- **The guarantee**: the options besides the first one split the rows. -/
structure Partition : Prop where
  values : (tenantFilterOptions rows getKey).map FilterOption.value =
    tenantFilterAll :: narrowing rows getKey
  distinct : ((tenantFilterOptions rows getKey).map FilterOption.value).Nodup
  all : applyTenantFilter rows getKey tenantFilterAll = rows
  once : ∀ r ∈ rows, ∃! v, v ∈ narrowing rows getKey ∧ r ∈ applyTenantFilter rows getKey v
  /-- A key's option keeps the rows of the key, in their order, and there are some. -/
  own : ∀ v ∈ narrowing rows getKey, v ≠ tenantFilterPool →
    applyTenantFilter rows getKey v ≠ [] ∧
      applyTenantFilter rows getKey v = rows.filter fun r => getKey r = some v

variable {rows getKey}

theorem rowKey_eq_some {r : R} {k : String} :
    rowKey getKey r = some k ↔ getKey r = some k ∧ k ≠ "" := by
  simp [rowKey, Option.filter_eq_some_iff]

/-- A key of the list is the key of a row. -/
theorem mem_rowKeys {k : String} :
    k ∈ rowKeys rows getKey ↔ k ≠ "" ∧ ∃ r ∈ rows, getKey r = some k := by
  have hset : k ∈ (OrderedSet.ofList ((rows.map getKey).filterMap _)).values ↔
      k ∈ (rows.map getKey).filterMap fun k => k.filter (· ≠ "") := OrderedSet.mem_ofList
  rw [rowKeys, List.mem_mergeSort, hset, List.filterMap_map, List.mem_filterMap]
  constructor
  · rintro ⟨r, hr, hkey⟩
    obtain ⟨hget, hne⟩ := rowKey_eq_some.mp hkey
    exact ⟨hne, r, hr, hget⟩
  · rintro ⟨hne, r, hr, hget⟩
    exact ⟨r, hr, rowKey_eq_some.mpr ⟨hget, hne⟩⟩

theorem nodup_rowKeys : (rowKeys rows getKey).Nodup :=
  (List.mergeSort_perm _ _).nodup_iff.mpr (OrderedSet.nodup _)

theorem values_tenantFilterOptions :
    (tenantFilterOptions rows getKey).map FilterOption.value =
      tenantFilterAll :: narrowing rows getKey := by
  simp [tenantFilterOptions, narrowing, Function.comp_def]

theorem mem_applyTenantFilter_pool {r : R} :
    r ∈ applyTenantFilter rows getKey tenantFilterPool ↔ r ∈ rows ∧ rowKey getKey r = none := by
  rw [applyTenantFilter, if_neg (by decide), if_pos rfl, List.mem_filter, Option.isNone_iff_eq_none]

theorem applyTenantFilter_key {v : String} (hall : v ≠ tenantFilterAll)
    (hpool : v ≠ tenantFilterPool) :
    applyTenantFilter rows getKey v = rows.filter fun r => getKey r = some v := by
  rw [applyTenantFilter, if_neg hall, if_neg hpool]

/-- **The filter options partition the rows**, as long as no tenant is called like one of
the two special values. -/
theorem tenantFilterOptions_partition
    (hsentinel : ∀ r ∈ rows, getKey r ≠ some tenantFilterAll ∧ getKey r ≠ some tenantFilterPool) :
    Partition rows getKey := by
  have hfree : ∀ k ∈ rowKeys rows getKey, k ≠ tenantFilterAll ∧ k ≠ tenantFilterPool := by
    intro k hk
    obtain ⟨-, r, hr, hget⟩ := mem_rowKeys.mp hk
    constructor
    · rintro rfl
      exact (hsentinel r hr).1 hget
    · rintro rfl
      exact (hsentinel r hr).2 hget
  have hkey : ∀ v ∈ rowKeys rows getKey,
      applyTenantFilter rows getKey v = rows.filter fun r => getKey r = some v :=
    fun v hv => applyTenantFilter_key (hfree v hv).1 (hfree v hv).2
  refine ⟨values_tenantFilterOptions, ?_, if_pos rfl, ?_, ?_⟩
  · rw [values_tenantFilterOptions, narrowing, List.nodup_cons, List.nodup_cons, List.mem_cons]
    refine ⟨?_, fun h => (hfree _ h).2 rfl, nodup_rowKeys⟩
    rintro (h | h)
    · exact absurd h (by decide)
    · exact (hfree _ h).1 rfl
  · intro r hr
    cases hrow : rowKey getKey r with
    | none =>
      refine ⟨tenantFilterPool, ⟨List.mem_cons_self, ?_⟩, ?_⟩
      · exact mem_applyTenantFilter_pool.mpr ⟨hr, hrow⟩
      · rintro v ⟨hv, hmem⟩
        rcases List.mem_cons.mp hv with rfl | hv
        · rfl
        · rw [hkey v hv, List.mem_filter, decide_eq_true_iff] at hmem
          have hsome := rowKey_eq_some.mpr ⟨hmem.2, (mem_rowKeys.mp hv).1⟩
          rw [hrow] at hsome
          cases hsome
    | some k =>
      obtain ⟨hget, hne⟩ := rowKey_eq_some.mp hrow
      have hk : k ∈ rowKeys rows getKey := mem_rowKeys.mpr ⟨hne, r, hr, hget⟩
      refine ⟨k, ⟨List.mem_cons_of_mem _ hk, ?_⟩, ?_⟩
      · rw [hkey k hk, List.mem_filter, decide_eq_true_iff]
        exact ⟨hr, hget⟩
      · rintro v ⟨hv, hmem⟩
        rcases List.mem_cons.mp hv with rfl | hv
        · rw [mem_applyTenantFilter_pool, hrow] at hmem
          cases hmem.2
        · rw [hkey v hv, List.mem_filter, decide_eq_true_iff, hget] at hmem
          exact (Option.some.inj hmem.2).symm
  · intro v hv hpool
    have hv : v ∈ rowKeys rows getKey := (List.mem_cons.mp hv).resolve_left hpool
    obtain ⟨-, r, hr, hget⟩ := mem_rowKeys.mp hv
    rw [hkey v hv]
    refine ⟨List.ne_nil_of_mem (a := r) ?_, rfl⟩
    rw [List.mem_filter, decide_eq_true_iff]
    exact ⟨hr, hget⟩

end Rows

/-- **A tenant view** is the rows of the pool and of its own tenant, in their order, and
the cross view all rows. -/
theorem filterTenantRows_eq {R : Type} (view : TenantView) (rows : List R)
    (getKey : R → Option String) :
    filterTenantRows view rows getKey =
      if view.crossView then rows
      else rows.filter fun r => rowKey getKey r = none ∨ rowKey getKey r = some view.tenantKey := by
  unfold filterTenantRows
  split
  · rfl
  · rename_i hview
    refine List.filter_congr ?_
    intro r _
    have hscope : view.scopeOf (getKey r) ≠ .other ↔
        rowKey getKey r = none ∨ rowKey getKey r = some view.tenantKey := by
      unfold TenantView.scopeOf rowKey
      cases (getKey r).filter (· ≠ "") with
      | none => simp
      | some key => simp [hview]
    exact decide_eq_decide.mpr hscope

/-- **The rows of a management page**: the filter of the cross view splits the rows, and
that of a tenant view keeps no other tenant's. -/
theorem tenant_rows :
    (∀ (R : Type) (rows : List R) (getKey : R → Option String),
      (∀ r ∈ rows, getKey r ≠ some tenantFilterAll ∧ getKey r ≠ some tenantFilterPool) →
        Partition rows getKey) ∧
    ∀ (R : Type) (view : TenantView) (rows : List R) (getKey : R → Option String),
      filterTenantRows view rows getKey =
        if view.crossView then rows
        else rows.filter fun r =>
          rowKey getKey r = none ∨ rowKey getKey r = some view.tenantKey :=
  ⟨fun _ _ _ => tenantFilterOptions_partition, fun _ => filterTenantRows_eq⟩

/-- A row of the pool and two of one tenant. -/
theorem tenant_rows_mixed :
    Partition [none, some "ten_alpha", some "", some "ten_alpha"] id :=
  tenant_rows.1 _ _ _ (by decide)

end Testkit
