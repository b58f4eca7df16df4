import Mathlib.Data.List.Nodup
import Mathlib.Logic.Relation

/-! # Region groups

The reference service lists its region groups as rows that name their parent by code; the
console walks the hierarchy itself.  A row's fields may be absent, and nothing in a row
keeps its parent from being itself.  `Forest` says that the rows are the hierarchy the
service means them to be.
-/
namespace Testkit

/-- `API.v1RegionGroup`. -/
structure RegionGroup where
  groupCode : Option String
  parentCode : Option String
  regionCodes : Option (List String)
  name : Option String
  deriving DecidableEq, Repr

/-- A text that counts as true: present and not empty. -/
def truthy (s : Option String) : Option String := s.filter (· ≠ "")

namespace RegionGroup

/-- The countries that are direct members. -/
def countries (g : RegionGroup) : List String := g.regionCodes.getD []

/-- The code of the parent, if there is one. -/
def parent (g : RegionGroup) : Option String := truthy g.parentCode

end RegionGroup

theorem truthy_eq_some {s : Option String} {c : String} :
    truthy s = some c ↔ s = some c ∧ c ≠ "" := by
  simp [truthy, Option.filter_eq_some_iff]

theorem truthy_eq_none {s : Option String} : truthy s = none ↔ s.getD "" = "" := by
  cases s <;> simp [truthy]

/-- The group of code `c` has the parent code `p`. -/
def ParentCode (groups : List RegionGroup) (c p : String) : Prop :=
  ∃ g ∈ groups, g.groupCode = some c ∧ g.parent = some p

/-- Distinct codes that are not empty, and no group above itself. -/
structure Forest (groups : List RegionGroup) : Prop where
  distinct : (groups.map RegionGroup.groupCode).Nodup
  coded : ∀ g ∈ groups, ∃ c, g.groupCode = some c ∧ c ≠ ""
  acyclic : ∀ c, ¬ Relation.TransGen (ParentCode groups) c c

section Forest
variable {groups : List RegionGroup}

/-- A code is the code of one group. -/
theorem Forest.eq_of_code (h : Forest groups) {g g' : RegionGroup} (hg : g ∈ groups)
    (hg' : g' ∈ groups) (hcode : g.groupCode = g'.groupCode) : g = g' :=
  List.inj_on_of_nodup_map h.distinct hg hg' hcode

theorem Forest.nodup (h : Forest groups) : groups.Nodup := List.Nodup.of_map _ h.distinct

end Forest

/-- Two groups, one above the other. -/
def asia : List RegionGroup :=
  [{ groupCode := some "142", parentCode := none, regionCodes := none, name := some "Asia" },
    { groupCode := some "030", parentCode := some "142", regionCodes := some ["CN", "JP"],
      name := some "Eastern Asia" }]

theorem asia_parentCode {c p : String} (h : ParentCode asia c p) : c = "030" ∧ p = "142" := by
  obtain ⟨g, hg, hc, hp⟩ := h
  simp only [asia, List.mem_cons, List.not_mem_nil, or_false] at hg
  rcases hg with rfl | rfl
  · cases hp
  · have hparent := (truthy_eq_some.mp hp).1
    exact ⟨(Option.some.inj hc).symm, (Option.some.inj hparent).symm⟩

theorem asia_forest : Forest asia where
  distinct := by decide
  coded := by simp [asia]
  acyclic := by
    intro c hcycle
    obtain ⟨_, hfirst, _⟩ := Relation.TransGen.head'_iff.mp hcycle
    obtain ⟨_, _, hlast⟩ := Relation.TransGen.tail'_iff.mp hcycle
    have hsame := (asia_parentCode hfirst).1.symm.trans (asia_parentCode hlast).2
    exact absurd hsame (by decide)
end Testkit
