import Mathlib.Data.List.Basic
import Testkit.RegExp
import Testkit.Utf16

/-! # The repair of custom verbs

The generator of the console's services writes the custom verb of a URL, `:confirm`, as an
interpolation of its template literal, `${confirm}`.  `fix-services.js` goes through the
template literals of the generated file and turns each interpolation of a word back, unless
the word is `param` and digits.

A `Template` is the inside of a literal as the text between its interpolations; every text
without backticks is one (`exists_template`), and a `Source` is a file with such literals.
`repair_source` says what the two nested replacements make of it.
-/
namespace Testkit.CustomVerbs
open RegExp Utf16

/-! ## The script's functions -/

def dollar : UInt16 := 0x24
def colon : UInt16 := 0x3A
def backtick : UInt16 := 0x60
def openBrace : UInt16 := 0x7B
def closeBrace : UInt16 := 0x7D

/-- `[a-zA-Z_]` -/
def isLetter (u : UInt16) : Bool :=
  (0x41 ≤ u && u ≤ 0x5A) || (0x61 ≤ u && u ≤ 0x7A) || u == 0x5F

/-- `\d` -/
def isDigit (u : UInt16) : Bool := 0x30 ≤ u && u ≤ 0x39

/-- `\w` -/
def isWordUnit (u : UInt16) : Bool := isLetter u || isDigit u

/-- A literal between two backticks, none inside. -/
def literalRe : Regex UInt16 :=
  .seq (.one (· == backtick)) (.seq (.many (· != backtick)) (.one (· == backtick)))

/-- `[a-zA-Z_]\w*` -/
def nameRe : Regex UInt16 := .seq (.one isLetter) (.many isWordUnit)

/-- `/\$\{([a-zA-Z_]\w*)\}/g` -/
def interpolationRe : Regex UInt16 :=
  .seq (.one (· == dollar)) (.seq (.one (· == openBrace))
    (.seq (.group 1 nameRe) (.one (· == closeBrace))))

/-- `param` -/
def paramWord : Text := ofString "param"

/-- `/^param\d+$/` -/
def paramRe : Regex UInt16 :=
  .seq .start (.seq (.word (paramWord.map fun c u => u == c)) (.seq (.some isDigit) .stop))

/-- The inner replacement's function. -/
def repairVerb (m : Match UInt16) : Text :=
  let name := (m.capture 1).getD []
  if test paramRe name then m.taken else colon :: name

/-- The inner replacement. -/
def repairTemplate (tmpl : Text) : Text := replaceAllBy interpolationRe repairVerb tmpl

/-- `out`: the outer replacement. -/
def repair (src : Text) : Text := replaceAllBy literalRe (fun m => repairTemplate m.taken) src

/-! ## Interpolations -/

/-- The interpolation of a name. -/
def interpolation (name : Text) : Text := dollar :: openBrace :: (name ++ [closeBrace])

/-- A word: a letter or an underscore, and then letters, underscores and digits. -/
def isName : Text → Bool
  | [] => false
  | u :: name => isLetter u && name.all isWordUnit

/-- The word is `param` and digits. -/
def IsParam (name : Text) : Prop :=
  ∃ digits : Text, digits ≠ [] ∧ digits.all isDigit ∧ name = paramWord ++ digits

theorem isWordUnit_of_isName {name : Text} (h : isName name) {u : UInt16} (hu : u ∈ name) :
    isWordUnit u := by
  cases name with
  | nil => cases hu
  | cons v name =>
    obtain ⟨hv, hname⟩ := Bool.and_eq_true_iff.mp h
    rcases List.mem_cons.mp hu with rfl | hu
    · simp [isWordUnit, hv]
    · exact List.all_eq_true.mp hname u hu

/-- A character outside words does not stand in a name. -/
theorem not_mem_of_isName {name : Text} (h : isName name) {c : UInt16}
    (hc : isWordUnit c = false) : c ∉ name := by
  intro hin
  rw [isWordUnit_of_isName h hin] at hc
  cases hc

/-- What the pattern of a name matches. -/
theorem mem_runs_nameRe {atStart : Bool} {t : Text} {m : Match UInt16} :
    m ∈ runs nameRe atStart t ↔
      isName m.taken ∧ t = m.taken ++ m.rest ∧ m.groups = [] := by
  rw [nameRe, mem_runs_seq]
  constructor
  · rintro ⟨m₁, h₁, m₂, h₂, rfl⟩
    obtain ⟨u, hu, htext, htaken, hgroups⟩ := mem_runs_one.mp h₁
    obtain ⟨hrest, hall, hgroups₂⟩ := mem_runs_many.mp h₂
    refine ⟨?_, ?_, ?_⟩
    · simpa [Match.append, htaken, isName] using ⟨hu, hall⟩
    · simp [Match.append, htext, htaken, hrest]
    · simp [Match.append, hgroups, hgroups₂]
  · obtain ⟨taken, rest, groups⟩ := m
    rintro ⟨hname, htext, hgroups⟩
    cases taken with
    | nil => cases hname
    | cons u name =>
      obtain ⟨hu, hall⟩ := Bool.and_eq_true_iff.mp hname
      obtain rfl : groups = [] := hgroups
      exact ⟨⟨[u], name ++ rest, []⟩, mem_runs_one.mpr ⟨u, hu, htext, rfl, rfl⟩,
        ⟨name, rest, []⟩, mem_runs_many.mpr ⟨rfl, List.all_eq_true.mp hall, rfl⟩, rfl⟩

/-- **The pattern matches the interpolations of names**, and captures the name. -/
theorem mem_runs_interpolationRe {atStart : Bool} {t : Text} {m : Match UInt16} :
    m ∈ runs interpolationRe atStart t ↔ ∃ name, isName name ∧
      t = interpolation name ++ m.rest ∧ m.taken = interpolation name ∧
      m.groups = [(1, name)] := by
  constructor
  · intro h
    obtain ⟨m₁, h₁, m₂, h₂, rfl⟩ := mem_runs_seq.mp h
    obtain ⟨m₃, h₃, m₄, h₄, rfl⟩ := mem_runs_seq.mp h₂
    obtain ⟨m₅, h₅, m₆, h₆, rfl⟩ := mem_runs_seq.mp h₄
    obtain ⟨u, hu, ht, htaken₁, hg₁⟩ := mem_runs_one.mp h₁
    obtain ⟨v, hv, hrest₁, htaken₃, hg₃⟩ := mem_runs_one.mp h₃
    obtain ⟨m₅', h₅', rfl⟩ := mem_runs_group.mp h₅
    obtain ⟨hname, hrest₃, hg₅⟩ := mem_runs_nameRe.mp h₅'
    obtain ⟨w, hw, hrest₅, htaken₆, hg₆⟩ := mem_runs_one.mp h₆
    obtain rfl : u = dollar := by simpa using hu
    obtain rfl : v = openBrace := by simpa using hv
    obtain rfl : w = closeBrace := by simpa using hw
    refine ⟨m₅'.taken, hname, ?_, ?_, ?_⟩
    · rw [ht, hrest₁, hrest₃, hrest₅]
      simp [interpolation, Match.append]
    · simp [interpolation, Match.append, htaken₁, htaken₃, htaken₆]
    · simp [Match.append, hg₁, hg₃, hg₅, hg₆]
  · obtain ⟨taken, rest, groups⟩ := m
    rintro ⟨name, hname, rfl, htaken, hgroups⟩
    obtain rfl : taken = interpolation name := htaken
    obtain rfl : groups = [(1, name)] := hgroups
    refine mem_runs_seq.mpr ⟨⟨[dollar], openBrace :: (name ++ closeBrace :: rest), []⟩,
      mem_runs_one.mpr ⟨dollar, by decide, by simp [interpolation], rfl, rfl⟩, _,
      mem_runs_seq.mpr ⟨⟨[openBrace], name ++ closeBrace :: rest, []⟩,
        mem_runs_one.mpr ⟨openBrace, by decide, rfl, rfl, rfl⟩, _,
      mem_runs_seq.mpr ⟨⟨name, closeBrace :: rest, [(1, name)]⟩,
        mem_runs_group.mpr ⟨⟨name, closeBrace :: rest, []⟩,
          mem_runs_nameRe.mpr ⟨hname, rfl, rfl⟩, rfl⟩, ⟨[closeBrace], rest, []⟩,
        mem_runs_one.mpr ⟨closeBrace, by decide, rfl, rfl, rfl⟩, rfl⟩, rfl⟩, ?_⟩
    simp [Match.append, interpolation]

/-- An interpolation at the head of a text is determined by the text. -/
theorem interpolation_inj {name name' rest rest' : Text} (hname : isName name)
    (hname' : isName name')
    (h : interpolation name ++ rest = interpolation name' ++ rest') :
    name = name' ∧ rest = rest' := by
  have heq : name ++ closeBrace :: rest = name' ++ closeBrace :: rest' := by
    simpa [interpolation] using h
  have hclose : isWordUnit closeBrace = false := by decide
  exact split_first (not_mem_of_isName hname hclose) (not_mem_of_isName hname' hclose) heq

theorem first_interpolationRe {name : Text} (hname : isName name) (rest : Text) :
    first interpolationRe true (interpolation name ++ rest) =
      some ⟨interpolation name, rest, [(1, name)]⟩ := by
  refine first_eq_some (mem_runs_interpolationRe.mpr ⟨name, hname, rfl, rfl, rfl⟩) ?_
  rintro ⟨taken, rest', groups⟩ hm
  obtain ⟨name', hname', htext, htaken, hgroups⟩ := mem_runs_interpolationRe.mp hm
  obtain ⟨rfl, rfl⟩ := interpolation_inj hname hname' htext
  obtain rfl : taken = interpolation name := htaken
  obtain rfl : groups = [(1, name)] := hgroups
  rfl

theorem first_interpolationRe_eq_none {t : Text} : first interpolationRe true t = none ↔
    ∀ name rest, isName name → t ≠ interpolation name ++ rest := by
  constructor
  · intro h name rest hname ht
    rw [ht, first_interpolationRe hname rest] at h
    cases h
  · intro h
    rw [first_eq_none_iff]
    intro m hm
    obtain ⟨name, hname, htext, -, -⟩ := mem_runs_interpolationRe.mp hm
    exact h name m.rest hname htext

theorem opens_interpolationRe : Opens interpolationRe (· == dollar) := opens_one.seq

theorem floating_interpolationRe : Floating interpolationRe := floating_of_floats rfl

/-- The test of the inner replacement. -/
theorem test_paramRe {name : Text} : test paramRe name ↔ IsParam name := by
  rw [paramRe, test_start]
  constructor
  · rintro ⟨m, hm⟩
    obtain ⟨m₁, h₁, m₂, h₂, rfl⟩ := mem_runs_seq.mp hm
    obtain ⟨m₃, h₃, m₄, h₄, rfl⟩ := mem_runs_seq.mp h₂
    obtain ⟨hword, htext, -⟩ := mem_runs_word.mp h₁
    obtain ⟨hne, hrest, hall, -⟩ := mem_runs_some.mp h₃
    obtain ⟨hend, -⟩ := mem_runs_stop.mp h₄
    refine ⟨m₃.taken, hne, List.all_eq_true.mpr hall, ?_⟩
    rw [htext, hrest, hend, fits_map_beq.mp hword, List.append_nil]
  · rintro ⟨digits, hne, hall, rfl⟩
    refine ⟨_, mem_runs_seq.mpr ⟨⟨paramWord, digits, []⟩,
      mem_runs_word.mpr ⟨fits_map_beq.mpr rfl, rfl, rfl⟩, _,
      mem_runs_seq.mpr ⟨⟨digits, [], []⟩, mem_runs_some.mpr ⟨hne, ?_, ?_, rfl⟩, _,
        mem_runs_stop.mpr ⟨rfl, rfl⟩, rfl⟩, rfl⟩⟩
    · exact (List.append_nil digits).symm
    · exact List.all_eq_true.mp hall

/-! ## The inner replacement -/

@[simp] theorem repairTemplate_nil : repairTemplate [] = [] :=
  replaceAllBy_nil opens_interpolationRe.consumes

/-- **An interpolation** at the head of a text. -/
theorem repairTemplate_interpolation {name : Text} (hname : isName name) (rest : Text) :
    repairTemplate (interpolation name ++ rest) =
      (if test paramRe name then interpolation name else colon :: name) ++
        repairTemplate rest :=
  replaceAllBy_match opens_interpolationRe.consumes floating_interpolationRe
    (first_interpolationRe hname rest)

/-- A character where no interpolation starts. -/
theorem repairTemplate_cons {u : UInt16} {t : Text}
    (h : ∀ name rest, isName name → u :: t ≠ interpolation name ++ rest) :
    repairTemplate (u :: t) = u :: repairTemplate t :=
  replaceAllBy_miss floating_interpolationRe (first_interpolationRe_eq_none.mpr h)

/-- Characters other than `$` at the head of a text. -/
theorem repairTemplate_append {kept : Text} (h : dollar ∉ kept) (t : Text) :
    repairTemplate (kept ++ t) = kept ++ repairTemplate t := by
  refine replaceAllBy_append opens_interpolationRe floating_interpolationRe ?_ t
  intro u hu
  have hne : u ≠ dollar := fun heq => h (heq ▸ hu)
  simpa using hne

/-- **The induction on a template**: from one interpolation, or one character where none
starts, to the next. -/
theorem template_induction {P : Text → Prop} (nil : P [])
    (interp : ∀ name rest, isName name → P rest → P (interpolation name ++ rest))
    (char : ∀ u t, (∀ name rest, isName name → u :: t ≠ interpolation name ++ rest) → P t →
      P (u :: t)) (t : Text) : P t := by
  refine replaceAll_induction opens_interpolationRe.consumes nil ?_ ?_ t
  · intro t m hfirst hrest
    obtain ⟨name, hname, rfl, -, -⟩ := mem_runs_interpolationRe.mp (mem_runs_of_first hfirst)
    exact interp name m.rest hname hrest
  · intro u t hfirst ht
    exact char u t (first_interpolationRe_eq_none.mp hfirst) ht

/-- A character that can only be the first one of an interpolation. -/
def Outside (c : UInt16) : Prop := c ≠ openBrace ∧ c ≠ closeBrace ∧ isWordUnit c = false

/-- What follows a `$` in an interpolation. -/
theorem not_mem_tail {c : UInt16} (hc : Outside c) {name : Text} (hname : isName name) :
    c ∉ openBrace :: (name ++ [closeBrace]) := by
  obtain ⟨hopen, hclose, hword⟩ := hc
  have hnot := not_mem_of_isName hname hword
  simp [hopen, hclose, hnot]

/-- An interpolation does not reach over a character that it cannot contain. -/
theorem interpolation_append {c : UInt16} (hc : Outside c) {name t t' rest : Text} {u : UInt16}
    (hname : isName name) (h : u :: t ++ c :: t' = interpolation name ++ rest) :
    ∃ rest', u :: t = interpolation name ++ rest' ∧ rest = rest' ++ c :: t' := by
  have htail : t ++ c :: t' = (openBrace :: (name ++ [closeBrace])) ++ rest := (List.cons.inj h).2
  have hu : u = dollar := (List.cons.inj h).1
  rcases List.append_eq_append_iff.mp htail with ⟨between, hb, hr⟩ | ⟨between, rfl, hr⟩
  · cases between with
    | nil =>
      refine ⟨[], ?_, hr.symm⟩
      rw [List.append_nil] at hb ⊢
      rw [hu, ← hb]
      rfl
    | cons d between =>
      obtain ⟨rfl, -⟩ := List.cons.inj hr
      have hin : c ∈ openBrace :: (name ++ [closeBrace]) := by
        rw [hb]
        simp
      exact absurd hin (not_mem_tail hc hname)
  · refine ⟨between, ?_, hr⟩
    rw [hu]
    rfl

/-- **The replacement stops at a character** that stands in no interpolation but at its
head. -/
theorem repairTemplate_split {c : UInt16} (hc : Outside c) (t t' : Text) :
    repairTemplate (t ++ c :: t') = repairTemplate t ++ repairTemplate (c :: t') := by
  induction t using template_induction with
  | nil => rw [repairTemplate_nil, List.nil_append, List.nil_append]
  | interp name rest hname ih =>
    rw [List.append_assoc, repairTemplate_interpolation hname, ih,
      repairTemplate_interpolation hname, List.append_assoc]
  | char u t hnone ih =>
    have hnone' : ∀ name rest, isName name → u :: (t ++ c :: t') ≠ interpolation name ++ rest := by
      intro name rest hname h
      obtain ⟨rest', heq, -⟩ := interpolation_append hc hname h
      exact hnone name rest' hname heq
    rw [List.cons_append, repairTemplate_cons hnone', ih, repairTemplate_cons hnone,
      List.cons_append]

theorem outside_dollar : Outside dollar := ⟨by decide, by decide, by decide⟩

theorem outside_backtick : Outside backtick := ⟨by decide, by decide, by decide⟩

theorem outside_colon : Outside colon := ⟨by decide, by decide, by decide⟩

/-- The replacement adds no character but the colon. -/
theorem mem_repairTemplate {t : Text} {u : UInt16} (h : u ∈ repairTemplate t) :
    u = colon ∨ u ∈ t := by
  induction t using template_induction with
  | nil => exact .inr h
  | interp name rest hname ih =>
    rw [repairTemplate_interpolation hname] at h
    rcases List.mem_append.mp h with h | h
    · by_cases hparam : test paramRe name
      · rw [if_pos hparam] at h
        exact .inr (List.mem_append_left _ h)
      · rw [if_neg hparam] at h
        refine (List.mem_cons.mp h).imp_right fun hin => ?_
        simp [interpolation, hin]
    · exact (ih h).imp_right (List.mem_append_right _)
  | char v t hnone ih =>
    rw [repairTemplate_cons hnone] at h
    rcases List.mem_cons.mp h with rfl | h
    · exact .inr List.mem_cons_self
    · exact (ih h).imp_right (List.mem_cons_of_mem v)

/-- What the repaired text starts with without `$` and `:` the text starts with. -/
theorem starts_repairTemplate {t w rest : Text} (hdollar : dollar ∉ w) (hcolon : colon ∉ w)
    (h : repairTemplate t = w ++ rest) : ∃ rest', t = w ++ rest' := by
  induction w generalizing t rest with
  | nil => exact ⟨t, rfl⟩
  | cons v w ih =>
    rw [List.mem_cons, not_or] at hdollar hcolon
    obtain ⟨hv, hw⟩ := hdollar
    obtain ⟨hv', hw'⟩ := hcolon
    cases t with
    | nil =>
      rw [repairTemplate_nil] at h
      cases h
    | cons u t =>
      by_cases hnone : ∀ name rest, isName name → u :: t ≠ interpolation name ++ rest
      · rw [repairTemplate_cons hnone] at h
        obtain ⟨rfl, htail⟩ := List.cons.inj h
        obtain ⟨rest', rfl⟩ := ih hw hw' htail
        exact ⟨rest', rfl⟩
      · -- an interpolation leaves a `$` or a `:` at the head
        push Not at hnone
        obtain ⟨name, rest', hname, htext⟩ := hnone
        rw [htext, repairTemplate_interpolation hname] at h
        by_cases hparam : test paramRe name
        · rw [if_pos hparam] at h
          exact absurd (List.cons.inj h).1 hv
        · rw [if_neg hparam] at h
          exact absurd (List.cons.inj h).1 hv'

/-- **Repaired once, a template is repaired.** -/
theorem repairTemplate_idempotent (t : Text) :
    repairTemplate (repairTemplate t) = repairTemplate t := by
  induction t using template_induction with
  | nil => rfl
  | interp name rest hname ih =>
    rw [repairTemplate_interpolation hname]
    by_cases hparam : test paramRe name
    · rw [if_pos hparam, repairTemplate_interpolation hname, if_pos hparam, ih]
    · have hkept : dollar ∉ colon :: name := by
        rw [List.mem_cons, not_or]
        exact ⟨by decide, not_mem_of_isName hname outside_dollar.2.2⟩
      rw [if_neg hparam, repairTemplate_append hkept, ih]
  | char u t hnone ih =>
    have hnone' : ∀ name rest, isName name →
        u :: repairTemplate t ≠ interpolation name ++ rest := by
      intro name rest hname h
      obtain ⟨hu, htail⟩ := List.cons.inj h
      obtain ⟨rest', hrest'⟩ := starts_repairTemplate (not_mem_tail outside_dollar hname)
        (not_mem_tail outside_colon hname) htail
      refine hnone name rest' hname ?_
      rw [hu, hrest']
      rfl
    rw [repairTemplate_cons hnone, repairTemplate_cons hnone', ih]

/-! ## Templates -/

/-- No interpolation of a word stands in the text. -/
def Plain (t : Text) : Prop :=
  ∀ before name after, isName name → t ≠ before ++ (interpolation name ++ after)

/-- An interpolation of a word. -/
inductive Interpolation
  /-- `${param0}` and its like. -/
  | param (digits : Text)
  | verb (name : Text)
  deriving DecidableEq, Repr

namespace Interpolation

def WellFormed : Interpolation → Prop
  | param digits => digits ≠ [] ∧ digits.all isDigit
  | verb name => isName name ∧ ¬ IsParam name

/-- As the generator writes it. -/
def text : Interpolation → Text
  | param digits => interpolation (paramWord ++ digits)
  | verb name => interpolation name

/-- As the backend expects it. -/
def repaired : Interpolation → Text
  | param digits => interpolation (paramWord ++ digits)
  | verb name => colon :: name

theorem isName_param {digits : Text} (h : digits.all isDigit) :
    isName (paramWord ++ digits) := by
  have hparam : ∀ t : Text, isName (paramWord ++ t) = t.all isWordUnit := fun _ => rfl
  rw [hparam]
  refine List.all_eq_true.mpr fun u hu => ?_
  simp [isWordUnit, List.all_eq_true.mp h u hu]

/-- What the replacement makes of an interpolation. -/
theorem repairTemplate_text {i : Interpolation} (h : i.WellFormed) (rest : Text) :
    repairTemplate (i.text ++ rest) = i.repaired ++ repairTemplate rest := by
  cases i with
  | param digits =>
    have hparam : test paramRe (paramWord ++ digits) :=
      test_paramRe.mpr ⟨digits, h.1, h.2, rfl⟩
    rw [text, repairTemplate_interpolation (isName_param h.2), if_pos hparam]
    rfl
  | verb name =>
    have hverb : ¬ test paramRe name := fun hparam => h.2 (test_paramRe.mp hparam)
    rw [text, repairTemplate_interpolation h.1, if_neg hverb]
    rfl

theorem text_eq_cons (i : Interpolation) : ∃ t, i.text = dollar :: t := by
  cases i <;> exact ⟨_, rfl⟩

/-- Every word's interpolation is one of the two. -/
theorem exists_text {name : Text} (h : isName name) :
    ∃ i : Interpolation, i.WellFormed ∧ i.text = interpolation name := by
  by_cases hparam : IsParam name
  · obtain ⟨digits, hne, hall, rfl⟩ := hparam
    exact ⟨param digits, ⟨hne, hall⟩, rfl⟩
  · exact ⟨verb name, ⟨h, hparam⟩, rfl⟩

end Interpolation

/-- **The inside of a template literal**: interpolations of words, and the text before,
between and behind them. -/
structure Template where
  head : Text
  tail : List (Interpolation × Text)
  head_plain : Plain head
  tail_plain : ∀ x ∈ tail, x.1.WellFormed ∧ Plain x.2

namespace Template

def text (tpl : Template) : Text := tpl.head ++ tpl.tail.flatMap fun x => x.1.text ++ x.2

def repaired (tpl : Template) : Text :=
  tpl.head ++ tpl.tail.flatMap fun x => x.1.repaired ++ x.2

end Template

theorem repairTemplate_plain {t : Text} (h : Plain t) : repairTemplate t = t := by
  induction t using template_induction with
  | nil => rfl
  | interp name rest hname ih => exact absurd rfl (h [] name rest hname)
  | char u t hnone ih =>
    rw [repairTemplate_cons hnone, ih]
    intro before name after hname ht
    exact h (u :: before) name after hname (by rw [ht, List.cons_append])

/-- The text up to the next interpolation. -/
theorem repairTemplate_plain_append {t rest : Text} (h : Plain t)
    (hrest : rest = [] ∨ ∃ rest', rest = dollar :: rest') :
    repairTemplate (t ++ rest) = t ++ repairTemplate rest := by
  rcases hrest with rfl | ⟨rest', rfl⟩
  · rw [List.append_nil, repairTemplate_plain h, repairTemplate_nil, List.append_nil]
  · rw [repairTemplate_split outside_dollar, repairTemplate_plain h]

/-- **The inner replacement** repairs the interpolations and keeps the text between them. -/
theorem repairTemplate_template (tpl : Template) : repairTemplate tpl.text = tpl.repaired := by
  obtain ⟨head, tail, hhead, htail⟩ := tpl
  have hnext : ∀ tail : List (Interpolation × Text),
      (tail.flatMap fun x => x.1.text ++ x.2) = [] ∨
        ∃ rest', (tail.flatMap fun x => x.1.text ++ x.2) = dollar :: rest' := by
    intro tail
    cases tail with
    | nil => exact .inl rfl
    | cons x tail =>
      obtain ⟨t, ht⟩ := x.1.text_eq_cons
      rw [List.flatMap_cons, ht]
      exact .inr ⟨_, rfl⟩
  show repairTemplate (head ++ tail.flatMap fun x => x.1.text ++ x.2) =
    head ++ tail.flatMap fun x => x.1.repaired ++ x.2
  rw [repairTemplate_plain_append hhead (hnext tail)]
  congr 1
  induction tail with
  | nil => rfl
  | cons x tail ih =>
    obtain ⟨⟨hx, hplain⟩, htail⟩ := List.forall_mem_cons.mp htail
    rw [List.flatMap_cons, List.append_assoc, x.1.repairTemplate_text hx,
      repairTemplate_plain_append hplain (hnext tail), ih htail, List.flatMap_cons,
      List.append_assoc]

/-- **Every text is the inside of a literal.** -/
theorem exists_template (t : Text) : ∃ tpl : Template, tpl.text = t := by
  induction t using template_induction with
  | nil =>
    refine ⟨⟨[], [], ?_, by simp⟩, rfl⟩
    intro before name after _ h
    cases before <;> cases h
  | interp name rest hname ih =>
    obtain ⟨⟨head, tail, hhead, htail⟩, rfl⟩ := ih
    obtain ⟨i, hi, htext⟩ := Interpolation.exists_text hname
    refine ⟨⟨[], (i, head) :: tail, ?_, List.forall_mem_cons.mpr ⟨⟨hi, hhead⟩, htail⟩⟩, ?_⟩
    · intro before name after _ h
      cases before <;> cases h
    · simp [Template.text, htext]
  | char u t hnone ih =>
    obtain ⟨⟨head, tail, hhead, htail⟩, rfl⟩ := ih
    refine ⟨⟨u :: head, tail, ?_, htail⟩, rfl⟩
    intro before name after hname h
    cases before with
    | nil =>
      refine hnone name (after ++ tail.flatMap fun x => x.1.text ++ x.2) hname ?_
      rw [Template.text, ← List.cons_append, h, List.nil_append, List.append_assoc]
    | cons v before => exact hhead before name after hname (List.cons.inj h).2

/-! ## The outer replacement -/

/-- What the pattern of a literal matches. -/
theorem mem_runs_literalRe {atStart : Bool} {t : Text} {m : Match UInt16} :
    m ∈ runs literalRe atStart t ↔ ∃ body, backtick ∉ body ∧
      t = backtick :: (body ++ backtick :: m.rest) ∧
      m.taken = backtick :: (body ++ [backtick]) ∧ m.groups = [] := by
  constructor
  · intro h
    obtain ⟨m₁, h₁, m₂, h₂, rfl⟩ := mem_runs_seq.mp h
    obtain ⟨m₃, h₃, m₄, h₄, rfl⟩ := mem_runs_seq.mp h₂
    obtain ⟨u, hu, ht, htaken₁, hg₁⟩ := mem_runs_one.mp h₁
    obtain ⟨hrest₁, hbody, hg₃⟩ := mem_runs_many.mp h₃
    obtain ⟨v, hv, hrest₃, htaken₄, hg₄⟩ := mem_runs_one.mp h₄
    obtain rfl : u = backtick := by simpa using hu
    obtain rfl : v = backtick := by simpa using hv
    refine ⟨m₃.taken, fun hin => ?_, ?_, ?_, ?_⟩
    · simpa using hbody backtick hin
    · rw [ht, hrest₁, hrest₃]
      rfl
    · simp [Match.append, htaken₁, htaken₄]
    · simp [Match.append, hg₁, hg₃, hg₄]
  · obtain ⟨taken, rest, groups⟩ := m
    rintro ⟨body, hbody, rfl, htaken, hgroups⟩
    obtain rfl : taken = backtick :: (body ++ [backtick]) := htaken
    obtain rfl : groups = [] := hgroups
    have hall : ∀ u ∈ body, (u != backtick) = true := by
      intro u hu
      have hne : u ≠ backtick := fun heq => hbody (heq ▸ hu)
      simpa using hne
    exact mem_runs_seq.mpr ⟨⟨[backtick], body ++ backtick :: rest, []⟩,
      mem_runs_one.mpr ⟨backtick, by decide, rfl, rfl, rfl⟩, ⟨body ++ [backtick], rest, []⟩,
      mem_runs_seq.mpr ⟨⟨body, backtick :: rest, []⟩, mem_runs_many.mpr ⟨rfl, hall, rfl⟩,
        ⟨[backtick], rest, []⟩, mem_runs_one.mpr ⟨backtick, by decide, rfl, rfl, rfl⟩, rfl⟩, rfl⟩

theorem first_literalRe {body : Text} (hbody : backtick ∉ body) (rest : Text) :
    first literalRe true (backtick :: (body ++ backtick :: rest)) =
      some ⟨backtick :: (body ++ [backtick]), rest, []⟩ := by
  refine first_eq_some (mem_runs_literalRe.mpr ⟨body, hbody, rfl, rfl, rfl⟩) ?_
  rintro ⟨taken, rest', groups⟩ hm
  obtain ⟨body', hbody', htext, htaken, hgroups⟩ := mem_runs_literalRe.mp hm
  obtain ⟨rfl, rfl⟩ := split_first hbody hbody' (List.cons.inj htext).2
  obtain rfl : taken = backtick :: (body ++ [backtick]) := htaken
  obtain rfl : groups = [] := hgroups
  rfl

theorem opens_literalRe : Opens literalRe (· == backtick) := opens_one.seq

theorem floating_literalRe : Floating literalRe := floating_of_floats rfl

/-- The inner replacement leaves the backticks of a literal alone. -/
theorem repairTemplate_literal (body : Text) :
    repairTemplate (backtick :: (body ++ [backtick])) =
      backtick :: (repairTemplate body ++ [backtick]) := by
  have hkept : dollar ∉ [backtick] := by
    rw [List.mem_singleton]
    decide
  have hopen : repairTemplate ([backtick] ++ (body ++ [backtick])) =
      [backtick] ++ repairTemplate (body ++ [backtick]) := repairTemplate_append hkept _
  have hclose : repairTemplate ([backtick] ++ []) = [backtick] ++ repairTemplate [] :=
    repairTemplate_append hkept []
  rw [repairTemplate_nil, List.append_nil] at hclose
  rw [List.singleton_append, repairTemplate_split outside_backtick, hclose] at hopen
  exact hopen

/-- A file: the insides of its literals, each with the text behind it. -/
def render (head : Text) (literals : List (Text × Text)) : Text :=
  head ++ literals.flatMap fun x => backtick :: (x.1 ++ backtick :: x.2)

/-- No backtick but those of the literals. -/
def Paired (head : Text) (literals : List (Text × Text)) : Prop :=
  backtick ∉ head ∧ ∀ x ∈ literals, backtick ∉ x.1 ∧ backtick ∉ x.2

/-- The text up to the next literal is kept. -/
theorem repair_append {kept : Text} (h : backtick ∉ kept) (t : Text) :
    repair (kept ++ t) = kept ++ repair t := by
  refine replaceAllBy_append opens_literalRe floating_literalRe ?_ t
  intro u hu
  have hne : u ≠ backtick := fun heq => h (heq ▸ hu)
  simpa using hne

/-- **The outer replacement** repairs the insides of the literals. -/
theorem repair_render {head : Text} {literals : List (Text × Text)} (h : Paired head literals) :
    repair (render head literals) =
      render head (literals.map fun x => (repairTemplate x.1, x.2)) := by
  obtain ⟨hhead, hliterals⟩ := h
  rw [render, repair_append hhead, render]
  congr 1
  induction literals with
  | nil => exact replaceAllBy_nil opens_literalRe.consumes
  | cons x literals ih =>
    obtain ⟨⟨hbody, hafter⟩, hliterals⟩ := List.forall_mem_cons.mp hliterals
    have hmatch : repair (backtick :: (x.1 ++ backtick ::
        (x.2 ++ literals.flatMap fun x => backtick :: (x.1 ++ backtick :: x.2)))) =
        repairTemplate (backtick :: (x.1 ++ [backtick])) ++
          repair (x.2 ++ literals.flatMap fun x => backtick :: (x.1 ++ backtick :: x.2)) :=
      replaceAllBy_match opens_literalRe.consumes floating_literalRe (first_literalRe hbody _)
    rw [repairTemplate_literal, repair_append hafter, ih hliterals] at hmatch
    simpa using hmatch

theorem paired_repair {head : Text} {literals : List (Text × Text)} (h : Paired head literals) :
    Paired head (literals.map fun x => (repairTemplate x.1, x.2)) := by
  refine ⟨h.1, List.forall_mem_map.mpr fun x hx => ⟨fun hin => ?_, (h.2 x hx).2⟩⟩
  rcases mem_repairTemplate hin with heq | hin
  · exact absurd heq (by decide)
  · exact (h.2 x hx).1 hin

/-- Every text with an even number of backticks is such a file. -/
theorem exists_render {n : Nat} {t : Text} (h : t.count backtick = 2 * n) :
    ∃ head literals, Paired head literals ∧ render head literals = t := by
  induction n generalizing t with
  | zero =>
    refine ⟨t, [], ⟨List.count_eq_zero.mp h, by simp⟩, ?_⟩
    simp [render]
  | succ n ih =>
    have hopen : backtick ∈ t := List.count_pos_iff.mp (by omega)
    obtain ⟨head, behind, rfl, hhead⟩ := List.eq_append_cons_of_mem hopen
    rw [List.count_append, List.count_eq_zero.mpr hhead, List.count_cons_self] at h
    have hclose : backtick ∈ behind := List.count_pos_iff.mp (by omega)
    obtain ⟨body, after, rfl, hbody⟩ := List.eq_append_cons_of_mem hclose
    rw [List.count_append, List.count_eq_zero.mpr hbody, List.count_cons_self] at h
    obtain ⟨head', literals, ⟨hhead', hliterals⟩, rfl⟩ := ih (t := after) (by omega)
    refine ⟨head, (body, head') :: literals,
      ⟨hhead, List.forall_mem_cons.mpr ⟨⟨hbody, hhead'⟩, hliterals⟩⟩, ?_⟩
    simp [render]

/-! ## Source files -/

/-- **A source file** whose backticks delimit template literals, none inside another. -/
structure Source where
  head : Text
  literals : List (Template × Text)
  paired : Paired head (literals.map fun x => (x.1.text, x.2))

namespace Source

def text (src : Source) : Text := render src.head (src.literals.map fun x => (x.1.text, x.2))

/-- The file with its verbs restored. -/
def repaired (src : Source) : Text :=
  render src.head (src.literals.map fun x => (x.1.repaired, x.2))

end Source

/-- **The repair of a file.** -/
theorem repair_source (src : Source) : repair src.text = src.repaired := by
  rw [Source.text, repair_render src.paired, Source.repaired, List.map_map]
  simp only [Function.comp_def, repairTemplate_template]

theorem repair_source_idempotent (src : Source) : repair src.repaired = src.repaired := by
  rw [← repair_source, Source.text, repair_render src.paired,
    repair_render (paired_repair src.paired), List.map_map]
  simp only [Function.comp_def, repairTemplate_idempotent]

theorem exists_source {t : Text} (h : t.count backtick % 2 = 0) :
    ∃ src : Source, src.text = t := by
  have hcount : t.count backtick = 2 * (t.count backtick / 2) := by omega
  obtain ⟨head, literals, hpaired, rfl⟩ := exists_render hcount
  choose template htemplate using exists_template
  have hmap : (literals.map fun x => (template x.1, x.2)).map (fun x => (x.1.text, x.2)) =
      literals := by
    simp [List.map_map, Function.comp_def, htemplate]
  refine ⟨⟨head, literals.map fun x => (template x.1, x.2), ?_⟩, ?_⟩
  · rw [hmap]
    exact hpaired
  · exact congrArg (render head) hmap

/-- A path whose interpolations are all parameters. -/
def Template.IsPath (tpl : Template) : Prop :=
  ∀ x ∈ tpl.tail, ∃ digits, x.1 = .param digits

theorem Template.IsPath.repaired {tpl : Template} (h : tpl.IsPath) : tpl.repaired = tpl.text := by
  rw [Template.repaired, Template.text]
  congr 1
  refine List.flatMap_congr fun x hx => ?_
  obtain ⟨digits, hdigits⟩ := h x hx
  rw [hdigits]
  rfl

/-- **A verb at the end of a path** is restored. -/
theorem repairTemplate_verb {path : Template} (hpath : path.IsPath) {verb : Text}
    (hverb : isName verb) (hparam : ¬ IsParam verb) :
    repairTemplate (path.text ++ interpolation verb) = path.text ++ colon :: verb := by
  have htest : ¬ test paramRe verb := fun h => hparam (test_paramRe.mp h)
  have hend : repairTemplate (interpolation verb ++ []) = colon :: verb ++ repairTemplate [] := by
    rw [repairTemplate_interpolation hverb, if_neg htest]
  rw [repairTemplate_nil, List.append_nil, List.append_nil] at hend
  rw [interpolation, repairTemplate_split outside_dollar, ← interpolation, hend,
    repairTemplate_template, hpath.repaired]

/-- **The repair is exact and idempotent** on every text whose backticks pair up: outside the
literals nothing changes, inside exactly the interpolations of words other than `param` and
digits, and a path with its verb is as the backend expects it. -/
theorem repair_exact {t : Text} (h : t.count backtick % 2 = 0) :
    (∃ src : Source, src.text = t) ∧ repair (repair t) = repair t ∧
    ∀ src : Source, src.text = t → repair t = src.repaired ∧
      ∀ x ∈ src.literals, ∀ (path : Template) (verb : Text), path.IsPath → isName verb →
        ¬ IsParam verb → x.1.text = path.text ++ interpolation verb →
        x.1.repaired = path.text ++ colon :: verb := by
  obtain ⟨src, rfl⟩ := exists_source h
  refine ⟨⟨src, rfl⟩, ?_, ?_⟩
  · rw [repair_source, repair_source_idempotent]
  · intro src' htext
    refine ⟨by rw [← htext, repair_source], ?_⟩
    intro x _ path verb hpath hverb hparam hx
    rw [← repairTemplate_template, hx, repairTemplate_verb hpath hverb hparam]

/-- On the URL of a download. -/
theorem repair_exact_download :
    repair (repair (ofString "request(`/api/v1/files/$\x7bparam0\x7d$\x7bdownloadUrl\x7d`)")) =
      repair (ofString "request(`/api/v1/files/$\x7bparam0\x7d$\x7bdownloadUrl\x7d`)") ∧
    repair (ofString "request(`/api/v1/files/$\x7bparam0\x7d$\x7bdownloadUrl\x7d`)") =
      ofString "request(`/api/v1/files/$\x7bparam0\x7d:downloadUrl`)" :=
  ⟨(repair_exact (by decide)).2.1, by decide +kernel⟩

/-- What the two patterns do not see: an identifier with a `$` in it, the literal inside an
interpolation, and that the `$` is escaped; nor do they tell keywords from identifiers. -/
theorem repair_inexact :
    repair (ofString "`/v1/files$\x7b$page\x7d`") ≠ ofString "`/v1/files:$page`" ∧
    repair (ofString "`a$\x7bx\x7d$\x7b`b$\x7by\x7d`\x7d`") ≠
      ofString "`a:x$\x7b`b:y`\x7d`" ∧
    repair (ofString "`a\\$\x7bx\x7d`") ≠ ofString "`a\\$\x7bx\x7d`" ∧
    repair (ofString "`a$\x7bthis\x7d`") ≠ ofString "`a$\x7bthis\x7d`" := by
  decide +kernel

end Testkit.CustomVerbs
