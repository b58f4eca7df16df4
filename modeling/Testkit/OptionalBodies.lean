import Mathlib.Data.List.Basic
import Testkit.CustomVerbs
import Testkit.RegExp
import Testkit.Utf16

/-! # The repair of bodies

The generator of the console's services types the body of an RPC without fields as `true`,
and asks for it.  After the custom verbs `fix-services.js` collects the names of these types
from `typings.d.ts` and goes through the services once for each: the first parameter it finds
of the type becomes optional.

A pattern of the second repair has a comma at each end, so a text is read here as the parts
between its commas (`Parted`): a pass replaces the first part of its name
(`replaceOnce_parted`), and `Turned` says what the passes together make of the parts.
-/
namespace Testkit.OptionalBodies
open CustomVerbs RegExp Utf16

/-! ## The script's functions -/

def comma : UInt16 := 0x2C
def semicolon : UInt16 := 0x3B

/-- A text of a pattern. -/
def literally (t : Text) : List (UInt16 → Bool) := t.map fun c u => u == c

/-- `/type (\w+Body) = true;/g` -/
def trueBodyRe : Regex UInt16 :=
  .seq (.word (literally (ofString "type ")))
    (.seq (.group 1 (.seq (.some isWordUnit) (.word (literally (ofString "Body")))))
      (.word (literally (ofString " = true;"))))

/-- `trueBodies` -/
def trueBodies (typings : Text) : List Text :=
  (matchAll trueBodyRe typings).map fun m => (m.capture 1).getD []

/-- What the generator writes for the body of a type. -/
def required (name : Text) : Text := ofString "body: API." ++ name

/-- What a call without a body needs. -/
def optional (name : Text) : Text := ofString "body?: API." ++ name

/-- `pattern`, for a name of word characters. -/
def pattern (name : Text) : Regex UInt16 :=
  .word (literally (comma :: (required name ++ [comma])))

/-- A step of the `reduce`. -/
def optionalizeBody (acc name : Text) : Text :=
  replaceOnce (pattern name) (comma :: (optional name ++ [comma])) acc

/-- `finalOut`, of the file with its custom verbs repaired. -/
def optionalize (typings out : Text) : Text := (trueBodies typings).foldl optionalizeBody out

/-- What the script writes. -/
def fixServices (typings src : Text) : Text := optionalize typings (repair src)

/-! ## The types without fields -/

/-- A word that ends in `Body`. -/
def IsBody (name : Text) : Prop :=
  ∃ w : Text, w ≠ [] ∧ w.all isWordUnit ∧ name = w ++ ofString "Body"

/-- The declaration of a type without fields, up to its semicolon. -/
def declaration (name : Text) : Text := ofString "type " ++ (name ++ ofString " = true")

theorem IsBody.isWordUnit {name : Text} (h : IsBody name) {u : UInt16} (hu : u ∈ name) :
    isWordUnit u := by
  obtain ⟨w, -, hw, rfl⟩ := h
  rcases List.mem_append.mp hu with hu | hu
  · exact List.all_eq_true.mp hw u hu
  · have hbody : (ofString "Body").all CustomVerbs.isWordUnit := by decide
    exact List.all_eq_true.mp hbody u hu

theorem IsBody.not_mem {name : Text} (h : IsBody name) {c : UInt16}
    (hc : CustomVerbs.isWordUnit c = false) : c ∉ name := by
  intro hin
  rw [h.isWordUnit hin] at hc
  cases hc

theorem not_mem_declaration {name : Text} (h : IsBody name) : semicolon ∉ declaration name := by
  have hname : semicolon ∉ name := h.not_mem (by decide)
  have htype : semicolon ∉ ofString "type " := by decide
  have htrue : semicolon ∉ ofString " = true" := by decide
  simp [declaration, hname, htype, htrue]

/-- The name of a declaration stands between its blanks. -/
theorem declaration_inj {name name' before : Text} (h : IsBody name) (h' : IsBody name')
    (heq : before ++ declaration name = declaration name') : before = [] ∧ name = name' := by
  have hspace : isWordUnit space = false := by decide
  have htype : ofString "type " = ofString "type" ++ [space] := by decide
  have hnames : (before ++ ofString "type") ++ space :: name =
      ofString "type" ++ space :: name' := by
    refine (List.append_left_inj (ofString " = true")).mp ?_
    simpa [declaration, htype] using heq
  obtain ⟨hbefore, hname⟩ := split_last (h.not_mem hspace) (h'.not_mem hspace) hnames
  exact ⟨by simpa using hbefore, hname⟩

/-- **The pattern matches the declarations**, and captures the name. -/
theorem mem_runs_trueBodyRe {atStart : Bool} {t : Text} {m : Match UInt16} :
    m ∈ runs trueBodyRe atStart t ↔ ∃ name, IsBody name ∧
      t = declaration name ++ semicolon :: m.rest ∧
      m.taken = declaration name ++ [semicolon] ∧ m.groups = [(1, name)] := by
  have htrue : ofString " = true;" = ofString " = true" ++ [semicolon] := by decide
  constructor
  · intro h
    obtain ⟨m₁, h₁, m₂, h₂, rfl⟩ := mem_runs_seq.mp h
    obtain ⟨m₃, h₃, m₄, h₄, rfl⟩ := mem_runs_seq.mp h₂
    obtain ⟨m₃', h₃', rfl⟩ := mem_runs_group.mp h₃
    obtain ⟨m₅, h₅, m₆, h₆, rfl⟩ := mem_runs_seq.mp h₃'
    obtain ⟨htype, ht, hg₁⟩ := mem_runs_word.mp h₁
    obtain ⟨hne, hrest₁, hw, hg₅⟩ := mem_runs_some.mp h₅
    obtain ⟨hbody, hrest₅, hg₆⟩ := mem_runs_word.mp h₆
    obtain ⟨hend, hrest₆, hg₄⟩ := mem_runs_word.mp h₄
    rw [literally, fits_map_beq] at htype hbody hend
    refine ⟨m₅.taken ++ m₆.taken, ⟨m₅.taken, hne, List.all_eq_true.mpr hw, by rw [hbody]⟩,
      ?_, ?_, ?_⟩
    · rw [ht, hrest₁, hrest₅]
      simp only [Match.append] at hrest₆ ⊢
      rw [hrest₆, hend, htype, htrue]
      simp [declaration]
    · simp [Match.append, declaration, htype, hend, htrue]
    · simp [Match.append, hg₁, hg₄, hg₅, hg₆]
  · obtain ⟨taken, rest, groups⟩ := m
    rintro ⟨name, ⟨w, hne, hw, rfl⟩, rfl, htaken, hgroups⟩
    obtain rfl : taken = declaration (w ++ ofString "Body") ++ [semicolon] := htaken
    obtain rfl : groups = [(1, w ++ ofString "Body")] := hgroups
    have hrest : declaration (w ++ ofString "Body") ++ semicolon :: rest =
        ofString "type " ++ (w ++ (ofString "Body" ++ (ofString " = true;" ++ rest))) := by
      simp [declaration, htrue]
    refine mem_runs_seq.mpr ⟨⟨ofString "type ", _, []⟩,
      mem_runs_word.mpr ⟨fits_map_beq.mpr rfl, hrest, rfl⟩, _,
      mem_runs_seq.mpr ⟨⟨w ++ ofString "Body", ofString " = true;" ++ rest,
        [(1, w ++ ofString "Body")]⟩, mem_runs_group.mpr ⟨⟨w ++ ofString "Body", _, []⟩,
          mem_runs_seq.mpr ⟨⟨w, _, []⟩,
            mem_runs_some.mpr ⟨hne, rfl, List.all_eq_true.mp hw, rfl⟩,
            ⟨ofString "Body", _, []⟩,
            mem_runs_word.mpr ⟨fits_map_beq.mpr rfl, rfl, rfl⟩, rfl⟩, rfl⟩,
        ⟨ofString " = true;", rest, []⟩,
        mem_runs_word.mpr ⟨fits_map_beq.mpr rfl, rfl, rfl⟩, rfl⟩, ?_⟩
    simp [Match.append, declaration, htrue]

/-- A declaration at the head of a text is determined by the text. -/
theorem declared_inj {name name' rest rest' : Text} (h : IsBody name) (h' : IsBody name')
    (heq : declaration name ++ semicolon :: rest = declaration name' ++ semicolon :: rest') :
    name = name' ∧ rest = rest' := by
  obtain ⟨hdecl, hrest⟩ := split_first (not_mem_declaration h) (not_mem_declaration h') heq
  exact ⟨(@declaration_inj name name' [] h h' hdecl).2, hrest⟩

theorem first_trueBodyRe {name : Text} (h : IsBody name) (rest : Text) :
    first trueBodyRe true (declaration name ++ semicolon :: rest) =
      some ⟨declaration name ++ [semicolon], rest, [(1, name)]⟩ := by
  refine first_eq_some (mem_runs_trueBodyRe.mpr ⟨name, h, rfl, rfl, rfl⟩) ?_
  rintro ⟨taken, rest', groups⟩ hm
  obtain ⟨name', h', htext, htaken, hgroups⟩ := mem_runs_trueBodyRe.mp hm
  obtain ⟨rfl, rfl⟩ := declared_inj h h' htext
  obtain rfl : taken = declaration name ++ [semicolon] := htaken
  obtain rfl : groups = [(1, name)] := hgroups
  rfl

theorem opens_trueBodyRe : Opens trueBodyRe fun u => u == unit 't' := (opens_word _ _).seq

theorem floating_trueBodyRe : Floating trueBodyRe := floating_of_floats rfl

@[simp] theorem trueBodies_nil : trueBodies [] = [] := by
  rw [trueBodies, matchAll_nil opens_trueBodyRe.consumes, List.map_nil]

theorem trueBodies_declaration {name : Text} (h : IsBody name) (rest : Text) :
    trueBodies (declaration name ++ semicolon :: rest) = name :: trueBodies rest := by
  rw [trueBodies, matchAll_match opens_trueBodyRe.consumes floating_trueBodyRe
    (first_trueBodyRe h rest), List.map_cons]
  rfl

theorem trueBodies_cons {u : UInt16} {t : Text} (h : first trueBodyRe true (u :: t) = none) :
    trueBodies (u :: t) = trueBodies t := by
  rw [trueBodies, matchAll_miss floating_trueBodyRe h, trueBodies]

/-- The declaration of a type without fields stands in the text. -/
def Declared (typings name : Text) : Prop :=
  ∃ before after, typings = before ++ (declaration name ++ semicolon :: after)

/-- How often the declaration of a type stands in a text. -/
def declarations (name : Text) : Text → Nat
  | [] => 0
  | u :: t =>
    (if declaration name ++ [semicolon] <+: u :: t then 1 else 0) + declarations name t

/-- Declarations do not overlap. -/
theorem declared_behind {name name' before rest after : Text} (h : IsBody name)
    (h' : IsBody name') (hne : before ≠ [])
    (heq : declaration name' ++ semicolon :: rest =
      before ++ (declaration name ++ semicolon :: after)) :
    ∃ between, before = declaration name' ++ semicolon :: between ∧
      rest = between ++ (declaration name ++ semicolon :: after) := by
  rcases List.append_eq_append_iff.mp heq with ⟨between, rfl, hrest⟩ | ⟨between, hdecl, hafter⟩
  · cases between with
    | nil =>
      -- The second declaration would start with the semicolon of the first.
      have htype : ∃ t, declaration name ++ semicolon :: after = unit 't' :: t := ⟨_, rfl⟩
      obtain ⟨t, ht⟩ := htype
      rw [List.nil_append, ht] at hrest
      exact absurd (List.cons.inj hrest).1 (by decide)
    | cons u between =>
      obtain ⟨rfl, hbehind⟩ := List.cons.inj hrest
      exact ⟨between, rfl, hbehind⟩
  · have hbetween : semicolon ∉ between := by
      intro hin
      refine not_mem_declaration h' ?_
      rw [hdecl]
      exact List.mem_append_right _ hin
    obtain ⟨rfl, -⟩ := split_first (not_mem_declaration h) hbetween hafter
    exact absurd (declaration_inj h h' hdecl.symm).1 hne

/-- **The names collected** are those of the declarations. -/
theorem mem_trueBodies {typings name : Text} :
    name ∈ trueBodies typings ↔ IsBody name ∧ Declared typings name := by
  induction typings using replaceAll_induction opens_trueBodyRe.consumes with
  | nil =>
    rw [trueBodies_nil]
    refine iff_of_false List.not_mem_nil ?_
    rintro ⟨-, before, after, h⟩
    simp [declaration, ofString] at h
  | hit t m hfirst ih =>
    obtain ⟨name', h', rfl, -, -⟩ := mem_runs_trueBodyRe.mp (mem_runs_of_first hfirst)
    rw [trueBodies_declaration h', List.mem_cons, ih]
    constructor
    · rintro (rfl | ⟨hbody, before, after, hrest⟩)
      · exact ⟨h', [], m.rest, rfl⟩
      · refine ⟨hbody, declaration name' ++ semicolon :: before, after, ?_⟩
        rw [hrest, List.append_assoc, List.cons_append]
    · rintro ⟨hbody, before, after, heq⟩
      by_cases hne : before = []
      · subst hne
        exact .inl (declared_inj h' hbody heq).1.symm
      · obtain ⟨between, -, hrest⟩ := declared_behind hbody h' hne heq
        exact .inr ⟨hbody, between, after, hrest⟩
  | miss u t hfirst ih =>
    rw [trueBodies_cons hfirst, ih]
    refine and_congr_right fun hbody => ⟨?_, ?_⟩
    · rintro ⟨before, after, rfl⟩
      exact ⟨u :: before, after, rfl⟩
    · rintro ⟨before, after, heq⟩
      cases before with
      | nil =>
        rw [heq, List.nil_append, first_trueBodyRe hbody] at hfirst
        cases hfirst
      | cons v before => exact ⟨before, after, (List.cons.inj heq).2⟩

theorem isPrefix_declaration_iff {name t : Text} :
    declaration name ++ [semicolon] <+: t ↔ ∃ rest, declaration name ++ semicolon :: rest = t := by
  simp [List.IsPrefix]

/-- Where no declaration starts, none is counted. -/
theorem declarations_append {name rest : Text} (skipped : Text)
    (hskip : ∀ before u t, skipped = before ++ u :: t →
      ¬ declaration name ++ [semicolon] <+: u :: (t ++ rest)) :
    declarations name (skipped ++ rest) = declarations name rest := by
  induction skipped with
  | nil => rfl
  | cons u t ih =>
    rw [List.cons_append, declarations, if_neg (hskip [] u t rfl), Nat.zero_add]
    refine ih fun before v t' heq => hskip (u :: before) v t' ?_
    rw [heq, List.cons_append]

/-- A declaration counts once, and nothing else in it does. -/
theorem declarations_declaration {name name' : Text} (h : IsBody name) (h' : IsBody name')
    (rest : Text) : declarations name (declaration name' ++ semicolon :: rest) =
      (if name' = name then 1 else 0) + declarations name rest := by
  have htype : ∃ tail, declaration name' ++ [semicolon] = unit 't' :: tail := ⟨_, rfl⟩
  obtain ⟨tail, htail⟩ := htype
  have htext : declaration name' ++ semicolon :: rest = unit 't' :: (tail ++ rest) := by
    rw [← List.cons_append, ← htail, List.append_assoc, List.singleton_append]
  have hhead : declaration name ++ [semicolon] <+: unit 't' :: (tail ++ rest) ↔ name' = name := by
    rw [isPrefix_declaration_iff, ← htext]
    constructor
    · rintro ⟨after, heq⟩
      exact (declared_inj h h' heq).1.symm
    · rintro rfl
      exact ⟨rest, rfl⟩
  rw [htext, declarations, if_congr hhead rfl rfl]
  congr 1
  -- a declaration that starts inside would reach past the semicolon
  refine declarations_append tail fun before u t heq hprefix => ?_
  obtain ⟨after, hafter⟩ := isPrefix_declaration_iff.mp hprefix
  have hwhole : declaration name' ++ semicolon :: rest =
      (unit 't' :: before) ++ (declaration name ++ semicolon :: after) := by
    rw [htext, heq, hafter]
    simp
  obtain ⟨between, hbefore, -⟩ := declared_behind h h' (List.cons_ne_nil _ _) hwhole
  have hlength := congrArg List.length htail
  have hbeforeLength := congrArg List.length hbefore
  rw [heq] at hlength
  simp only [List.length_append, List.length_cons, List.length_nil] at hlength hbeforeLength
  omega

/-- **Each name is collected as often as it is declared.** -/
theorem count_trueBodies {typings name : Text} (h : IsBody name) :
    (trueBodies typings).count name = declarations name typings := by
  induction typings using replaceAll_induction opens_trueBodyRe.consumes with
  | nil => rw [trueBodies_nil, List.count_nil, declarations]
  | hit t m hfirst ih =>
    obtain ⟨name', h', rfl, -, -⟩ := mem_runs_trueBodyRe.mp (mem_runs_of_first hfirst)
    rw [trueBodies_declaration h', declarations_declaration h h', List.count_cons, ih,
      Nat.add_comm]
    simp only [beq_iff_eq]
  | miss u t hfirst ih =>
    have hnone : ¬ declaration name ++ [semicolon] <+: u :: t := by
      intro hprefix
      obtain ⟨rest, heq⟩ := isPrefix_declaration_iff.mp hprefix
      rw [← heq, first_trueBodyRe h] at hfirst
      cases hfirst
    rw [trueBodies_cons hfirst, declarations, if_neg hnone, Nat.zero_add, ih]

/-! ## The parts of a file -/

/-- A file with a comma: the parts between its commas. -/
structure Parted where
  head : Text
  inner : List Text
  last : Text
  head_plain : comma ∉ head
  inner_plain : ∀ part ∈ inner, comma ∉ part
  last_plain : comma ∉ last

/-- The parts behind the first comma, each behind its own. -/
def behind (inner : List Text) (last : Text) : Text :=
  (inner.flatMap fun part => comma :: part) ++ comma :: last

def Parted.text (p : Parted) : Text := p.head ++ behind p.inner p.last

@[simp] theorem behind_nil (last : Text) : behind [] last = comma :: last := rfl

@[simp] theorem behind_cons (part : Text) (inner : List Text) (last : Text) :
    behind (part :: inner) last = comma :: (part ++ behind inner last) := by
  simp [behind]

theorem behind_eq_cons (inner : List Text) (last : Text) :
    ∃ t, behind inner last = comma :: t := by
  cases inner with
  | nil => exact ⟨last, rfl⟩
  | cons part inner => exact ⟨_, behind_cons part inner last⟩

/-- Every text with a comma is such a file. -/
theorem exists_parted {t : Text} (h : comma ∈ t) : ∃ p : Parted, p.text = t := by
  generalize hlength : t.length = n
  induction n using Nat.strong_induction_on generalizing t with
  | h n ih =>
    obtain ⟨head, rest, rfl, hhead⟩ := List.eq_append_cons_of_mem h
    by_cases hrest : comma ∈ rest
    · have hlt : rest.length < n := by
        rw [← hlength, List.length_append, List.length_cons]
        omega
      obtain ⟨⟨part, inner, last, hpart, hinner, hlast⟩, rfl⟩ := ih _ hlt hrest rfl
      refine ⟨⟨head, part :: inner, last, hhead, List.forall_mem_cons.mpr ⟨hpart, hinner⟩,
        hlast⟩, ?_⟩
      simp [Parted.text]
    · exact ⟨⟨head, [], rest, hhead, by simp, hrest⟩, rfl⟩

/-! ## A pass -/

theorem required_inj {name name' : Text} : required name = required name' ↔ name = name' :=
  List.append_right_inj _

theorem optional_ne_required (name name' : Text) : optional name ≠ required name' := by
  intro h
  have htake := congrArg (List.take 5) h
  exact absurd htake (by simp [optional, required, ofString, encode, unit])

theorem not_mem_required {name : Text} (h : comma ∉ name) : comma ∉ required name := by
  have hbody : comma ∉ ofString "body: API." := by decide
  simp [required, hbody, h]

theorem not_mem_optional {name : Text} (h : comma ∉ name) : comma ∉ optional name := by
  have hbody : comma ∉ ofString "body?: API." := by decide
  simp [optional, hbody, h]

theorem opens_pattern (name : Text) : Opens (pattern name) fun u => u == comma := opens_word _ _

theorem floating_pattern (name : Text) : Floating (pattern name) := floating_word _

theorem first_pattern (name t : Text) :
    first (pattern name) true (comma :: (required name ++ comma :: t)) =
      some ⟨comma :: (required name ++ [comma]), t, []⟩ := by
  have hfits : Fits (literally (comma :: (required name ++ [comma])))
      (comma :: (required name ++ [comma])) := fits_map_beq.mpr rfl
  have hfirst : first (pattern name) true (comma :: (required name ++ [comma]) ++ t) = _ :=
    first_word hfits
  simpa using hfirst

/-- The pattern matches no other part. -/
theorem first_pattern_eq_none {name t : Text} (h : ∀ rest, t ≠ required name ++ comma :: rest) :
    first (pattern name) true (comma :: t) = none := by
  refine first_word_eq_none fun w rest hw heq => ?_
  rw [literally, fits_map_beq] at hw
  refine h rest ?_
  rw [hw] at heq
  simpa using heq

theorem beq_comma_eq_false {t : Text} (h : comma ∉ t) : ∀ u ∈ t, (u == comma) = false := by
  intro u hu
  have hne : u ≠ comma := fun heq => h (heq ▸ hu)
  simpa using hne

/-- A text without commas is kept. -/
theorem replaceOnce_plain (name new : Text) {t : Text} (h : comma ∉ t) :
    replaceOnce (pattern name) new t = t :=
  replaceOnce_eq_self (opens_pattern name) (floating_pattern name) (beq_comma_eq_false h)

theorem replaceOnce_plain_append (name new : Text) {kept : Text} (h : comma ∉ kept) (t : Text) :
    replaceOnce (pattern name) new (kept ++ t) = kept ++ replaceOnce (pattern name) new t :=
  replaceOnce_append (opens_pattern name) (floating_pattern name) (beq_comma_eq_false h) t

/-- A pass replaces the first part that asks for a body of the type. -/
theorem optionalizeBody_behind {name last : Text} {inner : List Text} (hname : comma ∉ name)
    (hinner : ∀ part ∈ inner, comma ∉ part) (hlast : comma ∉ last) :
    optionalizeBody (behind inner last) name =
      behind (inner.replace (required name) (optional name)) last := by
  rw [optionalizeBody]
  induction inner with
  | nil =>
    -- behind the last comma there is none to end a match
    have hnone : first (pattern name) true (comma :: last) = none := by
      refine first_pattern_eq_none fun rest heq => hlast ?_
      rw [heq]
      simp
    rw [behind_nil, List.replace_nil, behind_nil,
      replaceOnce_miss (floating_pattern name) hnone, replaceOnce_plain name _ hlast]
  | cons part inner ih =>
    obtain ⟨hpart, hinner⟩ := List.forall_mem_cons.mp hinner
    obtain ⟨t, ht⟩ := behind_eq_cons inner last
    by_cases heq : part = required name
    · subst heq
      rw [behind_cons, ht, replaceOnce_match (first_pattern name t), List.replace_cons_self,
        behind_cons, ht]
      simp
    · have hnone : first (pattern name) true (comma :: (part ++ behind inner last)) = none := by
        refine first_pattern_eq_none fun rest h => heq ?_
        rw [ht] at h
        exact (split_first hpart (not_mem_required hname) h).1
      have hkept : (part :: inner).replace (required name) (optional name) =
          part :: inner.replace (required name) (optional name) := by
        rw [List.replace_cons, beq_eq_false_iff_ne.mpr (Ne.symm heq)]
      rw [behind_cons, replaceOnce_miss (floating_pattern name) hnone,
        replaceOnce_plain_append name _ hpart, ih hinner, hkept, behind_cons]

theorem mem_of_mem_replace {parts : List Text} {a b part : Text} (h : part ∈ parts.replace a b) :
    part = b ∨ part ∈ parts := by
  obtain ⟨i, hi⟩ := List.mem_iff_getElem?.mp h
  rw [List.getElem?_replace] at hi
  split at hi
  · rename_i ha
    split at hi
    · cases hi
      exact .inr (List.mem_iff_getElem?.mpr ⟨i, by simpa using ha⟩)
    · exact .inl (Option.some.inj hi).symm
  · exact .inr (List.mem_iff_getElem?.mpr ⟨i, hi⟩)

/-- The passes on the parts. -/
def passes (bodies : List Text) (inner : List Text) : List Text :=
  bodies.foldl (fun parts name => parts.replace (required name) (optional name)) inner

theorem plain_passes {bodies inner : List Text} (hbodies : ∀ name ∈ bodies, comma ∉ name)
    (hinner : ∀ part ∈ inner, comma ∉ part) : ∀ part ∈ passes bodies inner, comma ∉ part := by
  induction bodies generalizing inner with
  | nil => exact hinner
  | cons name bodies ih =>
    obtain ⟨hname, hbodies⟩ := List.forall_mem_cons.mp hbodies
    refine ih hbodies fun part hpart => ?_
    rcases mem_of_mem_replace hpart with rfl | hpart
    · exact not_mem_optional hname
    · exact hinner part hpart

/-- **The passes work on the parts.** -/
theorem foldl_optionalizeBody {bodies inner : List Text} {head last : Text}
    (hbodies : ∀ name ∈ bodies, comma ∉ name) (hhead : comma ∉ head)
    (hinner : ∀ part ∈ inner, comma ∉ part) (hlast : comma ∉ last) :
    bodies.foldl optionalizeBody (head ++ behind inner last) =
      head ++ behind (passes bodies inner) last := by
  induction bodies generalizing inner with
  | nil => rfl
  | cons name bodies ih =>
    obtain ⟨hname, hbodies⟩ := List.forall_mem_cons.mp hbodies
    have hstep : optionalizeBody (head ++ behind inner last) name =
        head ++ behind (inner.replace (required name) (optional name)) last := by
      rw [optionalizeBody, replaceOnce_plain_append name _ hhead, ← optionalizeBody,
        optionalizeBody_behind hname hinner hlast]
    rw [List.foldl_cons, hstep, ih hbodies]
    · rfl
    · exact @plain_passes [name] inner (by simpa using hname) hinner

/-! ## What the passes make of the parts -/

/-- **The parts after the passes.**  A part that asks for a body becomes optional where fewer
such parts stand before it than the type has declarations; every other part is kept. -/
structure Turned (bodies inner turned : List Text) : Prop where
  length : turned.length = inner.length
  optional : ∀ i name, inner[i]? = some (required name) →
    (inner.take i).count (required name) < bodies.count name →
    turned[i]? = some (optional name)
  kept : ∀ i part, inner[i]? = some part →
    (∀ name, part = required name → bodies.count name ≤ (inner.take i).count part) →
    turned[i]? = some part

/-- One of the parts before a place is replaced, or none. -/
theorem count_take_replace {parts : List Text} {a b c : Text} (i : Nat) (hne : b ≠ c) :
    ((parts.replace a b).take i).count c =
      (parts.take i).count c - if a = c then 1 else 0 := by
  rw [← List.replace_take, List.count_replace]
  have hb : (b == c) = false := by simpa using hne
  rw [hb]
  by_cases ha : a = c
  · subst ha
    by_cases hin : a ∈ parts.take i
    · simp [hin]
    · simp [hin, List.count_eq_zero.mpr hin]
  · simp [ha]

theorem turned_passes (bodies inner : List Text) : Turned bodies inner (passes bodies inner) := by
  induction bodies generalizing inner with
  | nil =>
    refine ⟨rfl, ?_, fun i part hi _ => hi⟩
    intro i name _ hcount
    simp at hcount
  | cons body bodies ih =>
    obtain ⟨hlength, hoptional, hkept⟩ := ih (inner.replace (required body) (optional body))
    refine ⟨hlength.trans List.length_replace, ?_, ?_⟩
    · intro i name hi hcount
      by_cases hname : name = body
      · subst hname
        -- this pass turns the first of these parts, and the rest of the passes the others
        by_cases hin : required name ∈ inner.take i
        · have hstill : (inner.replace (required name) (optional name))[i]? =
              some (required name) := by
            rw [List.getElem?_replace, hi, if_pos (by simp), if_pos hin]
          refine hoptional i name hstill ?_
          have hpos := List.count_pos_iff.mpr hin
          rw [count_take_replace i (optional_ne_required name name), if_pos rfl]
          rw [List.count_cons_self] at hcount
          omega
        · have hturned : (inner.replace (required name) (optional name))[i]? =
              some (optional name) := by
            rw [List.getElem?_replace, hi, if_pos (by simp), if_neg hin]
          refine hkept i _ hturned ?_
          intro name' heq
          exact absurd heq (optional_ne_required name name')
      · have hother : required body ≠ required name := fun h => hname (required_inj.mp h).symm
        refine hoptional i name ?_ ?_
        · rw [List.getElem?_replace_of_ne (by rw [hi]; simpa using hother.symm), hi]
        · rw [count_take_replace i (optional_ne_required body name), if_neg hother]
          rw [List.count_cons_of_ne (Ne.symm hname)] at hcount
          exact hcount
    · intro i part hi hspent
      by_cases hpart : part = required body
      · subst hpart
        -- the declaration of this pass is spent on a part before it
        have hcount := hspent body rfl
        rw [List.count_cons_self] at hcount
        have hin : required body ∈ inner.take i := List.count_pos_iff.mp (by omega)
        have hstill : (inner.replace (required body) (optional body))[i]? =
            some (required body) := by
          rw [List.getElem?_replace, hi, if_pos (by simp), if_pos hin]
        refine hkept i _ hstill fun name heq => ?_
        obtain rfl := required_inj.mp heq
        rw [count_take_replace i (optional_ne_required body body), if_pos rfl]
        omega
      · refine hkept i part ?_ ?_
        · rw [List.getElem?_replace_of_ne (by rw [hi]; simpa using hpart), hi]
        · intro name heq
          have hcount := hspent name heq
          subst heq
          have hne : body ≠ name := fun h => hpart (by rw [h])
          rw [count_take_replace i (optional_ne_required body name), if_neg (Ne.symm hpart)]
          rw [List.count_cons_of_ne hne] at hcount
          exact hcount

/-- A type with as many declarations as parameters is no longer asked for. -/
theorem Turned.none_required {bodies inner turned : List Text} (h : Turned bodies inner turned)
    {name : Text} (hcount : inner.count (required name) ≤ bodies.count name) :
    required name ∉ turned := by
  intro hin
  obtain ⟨i, hi⟩ := List.mem_iff_getElem?.mp hin
  have hlt : i < inner.length := by
    rw [← h.length]
    exact (List.getElem?_eq_some_iff.mp hi).1
  by_cases hkept : ∀ name', inner[i] = required name' →
      bodies.count name' ≤ (inner.take i).count inner[i]
  · have hsame := h.kept i inner[i] (List.getElem?_eq_getElem hlt) hkept
    have hpart : inner[i] = required name := Option.some.inj (hsame.symm.trans hi)
    have hbefore := hkept name hpart
    rw [hpart] at hbefore
    have hsplit : inner.count (required name) =
        (inner.take i).count (required name) + (inner.drop i).count (required name) := by
      rw [← List.count_append, List.take_append_drop]
    have hhere : 0 < (inner.drop i).count (required name) := by
      rw [List.drop_eq_getElem_cons hlt, hpart, List.count_cons_self]
      omega
    omega
  · push Not at hkept
    obtain ⟨name', hpart, hfew⟩ := hkept
    rw [hpart] at hfew
    have hturned := h.optional i name' (by rw [List.getElem?_eq_getElem hlt, hpart]) hfew
    exact optional_ne_required name' name (Option.some.inj (hturned.symm.trans hi))

/-! ## The script -/

/-- A file without a comma asks for no body. -/
theorem optionalize_plain {out : Text} (typings : Text) (h : comma ∉ out) :
    optionalize typings out = out := by
  rw [optionalize]
  induction trueBodies typings with
  | nil => rfl
  | cons name bodies ih => rw [List.foldl_cons, optionalizeBody, replaceOnce_plain name _ h, ih]

/-- **The second repair is exact.**  It goes by the types that `typings.d.ts` declares as `true`,
and takes each as often as it is declared.  Between the commas of the file that the first repair
leaves, a part that asks for the body of such a type becomes optional where fewer such parts stand
before it than the type has declarations, and nothing else changes: no call asks any more for the
body of a type that one call has. -/
theorem bodies_optional (typings src : Text) :
    (∀ name, name ∈ trueBodies typings ↔ IsBody name ∧ Declared typings name) ∧
    (∀ name, IsBody name → (trueBodies typings).count name = declarations name typings) ∧
    (comma ∉ repair src → fixServices typings src = repair src) ∧
    (comma ∈ repair src → ∃ p : Parted, p.text = repair src) ∧
    ∀ p : Parted, p.text = repair src → ∃ q : Parted, q.text = fixServices typings src ∧
      q.head = p.head ∧ q.last = p.last ∧ Turned (trueBodies typings) p.inner q.inner ∧
      ∀ name ∈ trueBodies typings, p.inner.count (required name) ≤ 1 →
        required name ∉ q.inner := by
  refine ⟨fun name => mem_trueBodies, fun name => count_trueBodies, optionalize_plain typings,
    exists_parted, ?_⟩
  rintro ⟨head, inner, last, hhead, hinner, hlast⟩ htext
  have hbodies : ∀ name ∈ trueBodies typings, comma ∉ name := by
    intro name hname
    exact (mem_trueBodies.mp hname).1.not_mem (by decide)
  have hturned := turned_passes (trueBodies typings) inner
  refine ⟨⟨head, passes (trueBodies typings) inner, last, hhead, plain_passes hbodies hinner,
    hlast⟩, ?_, rfl, rfl, hturned, ?_⟩
  · rw [fixServices, optionalize, ← htext]
    exact (foldl_optionalizeBody hbodies hhead hinner hlast).symm
  · intro name hname hcount
    exact hturned.none_required (hcount.trans (List.count_pos_iff.mpr hname))

/-- On a call without fields and one with fields. -/
theorem bodies_optional_revoke :
    (ofString "RevokeBody" ∈ trueBodies (ofString "type RevokeBody = true;") ↔
      IsBody (ofString "RevokeBody") ∧
        Declared (ofString "type RevokeBody = true;") (ofString "RevokeBody")) ∧
    fixServices (ofString "type RevokeBody = true;")
        (ofString "f(p,body: API.RevokeBody,`/a$\x7brevoke\x7d`),g(p,body: API.PatchBody,q)") =
      ofString "f(p,body?: API.RevokeBody,`/a:revoke`),g(p,body: API.PatchBody,q)" :=
  ⟨(bodies_optional _ []).1 _, by decide +kernel⟩

end Testkit.OptionalBodies
