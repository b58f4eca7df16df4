import Testkit.InsertionOrder
import Testkit.LabelledRuns
import Testkit.Phone
import Testkit.RegionGroups

/-! # Dial codes, from the directory to the number

`ListRegionCodes` asks reference-service for its countries twice, in Chinese and in English,
and joins the two lists.  `useRegionOptions` makes the options of a picker of them, whose
values are the dial codes.  Four forms have the picker, each with an initial value, and send
what it holds beside the national number, of which the services make one with `ComposeE164`.

A number comes out wherever the initial value is a dial code, and where it is not, as soon as
the picker is used (`number_posted_iff`): the identity page starts with `CN`.  A picker that is
cleared, as those of `ProFormSelect` can be, gives none until it is used again.
-/
namespace Testkit.DialCodes
open InsertionOrder LabelledRuns

/-! ## The directory -/

/-- `referencev1.Country`, as far as the join reads it. -/
structure Country where
  regionCode : String
  dialCode : String
  name : String
  deriving DecidableEq, Repr

/-- `testkitv1.RegionCode`. -/
structure RegionCode where
  code : String
  dialCode : String
  nameZh : String
  nameEn : String
  deriving DecidableEq, Repr

/-- What `ListRegionCodes` fails with. -/
inductive ListError (D : Type)
  | notWired (text : String)
  | downstream (cause : D)
  deriving DecidableEq, Repr

/-- The rows made of the two answers. -/
def joined (zh en : List Country) : List RegionCode :=
  let enName := OrderedMap.ofList (en.map fun c => (c.regionCode, c.name))
  zh.map fun c => ⟨c.regionCode, c.dialCode, c.name, (enName.get c.regionCode).getD ""⟩

/-- `ListRegionCodes`; `reference` is `ListCountries` by locale, if it is wired. -/
def listRegionCodes {D : Type} (reference : Option (String → Except D (List Country))) :
    Except (ListError D) (List RegionCode) :=
  match reference with
  | none => .error (.notWired "message: reference-service not wired")
  | some listCountries =>
    match listCountries "zh-Hans" with
    | .error e => .error (.downstream e)
    | .ok zh =>
      match listCountries "en" with
      | .error e => .error (.downstream e)
      | .ok en => .ok (joined zh en)

/-- A directory that is listed is the two answers joined. -/
theorem listRegionCodes_eq_ok {D : Type} {reference : Option (String → Except D (List Country))}
    {rows : List RegionCode} : listRegionCodes reference = .ok rows ↔
      ∃ listCountries zh en, reference = some listCountries ∧
        listCountries "zh-Hans" = .ok zh ∧ listCountries "en" = .ok en ∧ rows = joined zh en := by
  constructor
  · intro h
    unfold listRegionCodes at h
    split at h
    · cases h
    · rename_i listCountries
      split at h
      · cases h
      · rename_i zh hzh
        split at h
        · cases h
        · rename_i en hen
          exact ⟨listCountries, zh, en, rfl, hzh, hen, (Except.ok.inj h).symm⟩
  · rintro ⟨listCountries, zh, en, rfl, hzh, hen, rfl⟩
    simp only [listRegionCodes, hzh, hen]

/-- **The join**: the countries of the Chinese list in their order, each with the English name
given last for its code. -/
structure Joined (zh en : List Country) (rows : List RegionCode) : Prop where
  chinese : rows.map (fun r => (⟨r.code, r.dialCode, r.nameZh⟩ : Country)) = zh
  english : ∀ r ∈ rows, r.nameEn =
    ((en.reverse.find? fun c => decide (c.regionCode = r.code)).map Country.name).getD ""

theorem joined_joined (zh en : List Country) : Joined zh en (joined zh en) where
  chinese := by
    rw [joined, List.map_map]
    exact List.map_id _
  english := by
    intro r hr
    obtain ⟨c, -, rfl⟩ := List.mem_map.mp hr
    have hpred : (fun e : String × String => decide (e.1 = c.regionCode)) ∘
        (fun c : Country => (c.regionCode, c.name)) =
          fun c' => decide (c'.regionCode = c.regionCode) := rfl
    simp only [OrderedMap.get_ofList, ← List.map_reverse, List.find?_map, hpred]
    cases en.reverse.find? fun c' => decide (c'.regionCode = c.regionCode) <;> rfl

/-! ## The picker -/

/-- An option of the picker. -/
structure RegionOption where
  value : String
  label : String
  deriving DecidableEq, Repr

/-- The options `useRegionOptions` makes of the rows. -/
def regionOptions (rows : List RegionCode) : List RegionOption :=
  rows.map fun r =>
    { value := r.dialCode
      label := r.dialCode ++ " " ++
        ((truthy (some r.nameZh)).or (truthy (some r.nameEn))).getD r.code }

/-- The forms with a picker. -/
inductive DialForm
  | register
  | identity
  | sendSMS
  | userList
  deriving DecidableEq, Repr

/-- The `initialValue` of the field. -/
def DialForm.fieldInitial : DialForm → String
  | .register | .identity => "CN"
  | .sendSMS | .userList => "+86"

/-- The value the form's own `initialValues` give the field. -/
def DialForm.formInitial : DialForm → Option String
  | .register => some "+86"
  | .identity | .sendSMS | .userList => none

/-- The value the field starts with: that of the form goes before its own. -/
def DialForm.initial (form : DialForm) : String := form.formInitial.getD form.fieldInitial

/-- Whether the picker is a `ProFormSelect`, which can be cleared, or a bare `Select`. -/
def DialForm.clearable : DialForm → Bool
  | .register | .identity | .userList => true
  | .sendSMS => false

/-- A form: the options its picker has and what the picker holds. -/
structure Form where
  options : List RegionOption
  dialCode : Option String
  deriving DecidableEq, Repr

/-- A form as it is opened. -/
def opened (form : DialForm) : Form := ⟨[], some form.initial⟩

/-- The dial code that goes out with a national number, as it arrives. -/
def Form.posted (p : Form) : String := p.dialCode.getD ""

/-- The answer to `useRegionOptions`; an error leaves the options. -/
def Form.listed {D : Type} (p : Form) : Except (ListError D) (List RegionCode) → Form
  | .ok rows => { p with options := regionOptions rows }
  | .error _ => p

/-- What happens to a form. -/
inductive Event (D : Type)
  /-- `listRegionCodes` is answered, over what reference-service gives by locale. -/
  | listed (reference : Option (String → Except D (List Country)))
  | pick (option : RegionOption)
  | clear

/-- A step of a form. -/
inductive Step {D : Type} (form : DialForm) : Form → Event D → Form → Prop
  | listed {p : Form} (reference : Option (String → Except D (List Country))) :
      Step form p (.listed reference) (p.listed (listRegionCodes reference))
  | pick {p : Form} {option : RegionOption} : option ∈ p.options →
      Step form p (.pick option) { p with dialCode := some option.value }
  | clear {p : Form} : form.clearable → Step form p .clear { p with dialCode := none }

/-- Whether the picker was used. -/
def Picked {D : Type} (h : List (Form × Event D)) : Prop := ∃ p option, (p, .pick option) ∈ h

/-- Whether the picker was cleared, and not used since. -/
def Cleared {D : Type} : List (Form × Event D) → Prop
  | [] => False
  | (_, .clear) :: _ => True
  | (_, .pick _) :: _ => False
  | (_, .listed _) :: h => Cleared h

/-- The countries whose dial codes were listed. -/
def Listed {D : Type} (h : List (Form × Event D)) (c : Country) : Prop :=
  ∃ p listCountries zh, (p, .listed (some listCountries)) ∈ h ∧
    listCountries "zh-Hans" = .ok zh ∧ c ∈ zh

/-! ## Every run -/

section Runs
variable {D : Type} {form : DialForm} {h : List (Form × Event D)} {p : Form}

/-- An option is a listed country's dial code. -/
theorem value_regionOptions {zh en : List Country} {option : RegionOption}
    (h : option ∈ regionOptions (joined zh en)) : ∃ c ∈ zh, option.value = c.dialCode := by
  obtain ⟨r, hr, rfl⟩ := List.mem_map.mp h
  have hmem : (⟨r.code, r.dialCode, r.nameZh⟩ : Country) ∈
      (joined zh en).map fun r => (⟨r.code, r.dialCode, r.nameZh⟩ : Country) :=
    List.mem_map_of_mem hr
  rw [(joined_joined zh en).chinese] at hmem
  exact ⟨_, hmem, rfl⟩

theorem Listed.cons {x : Form × Event D} {c : Country} (hc : Listed h c) : Listed (x :: h) c := by
  obtain ⟨v, listCountries, zh, hmem, hzh, hin⟩ := hc
  exact ⟨v, listCountries, zh, List.mem_cons_of_mem _ hmem, hzh, hin⟩

/-- What the picker holds and offers. -/
structure Held (form : DialForm) (h : List (Form × Event D)) (p : Form) : Prop where
  offered : ∀ option ∈ p.options, ∃ c, Listed h c ∧ option.value = c.dialCode
  cleared : Cleared h → p.dialCode = none
  initial : ¬ Cleared h → ¬ Picked h → p.dialCode = some form.initial
  picked : ¬ Cleared h → Picked h → ∃ c, Listed h c ∧ p.dialCode = some c.dialCode

theorem held_of_run (hr : Run (Step form) (opened form) h p) : Held form h p := by
  refine hr.always ⟨by simp [opened], False.elim, fun _ _ => rfl, ?_⟩ ?_
  · rintro - ⟨p, option, hmem⟩
    cases hmem
  rintro h p l q - hheld hs
  have hcons : ∀ {x : Form × Event D} {P : Country → Prop},
      (∃ c, Listed h c ∧ P c) → ∃ c, Listed (x :: h) c ∧ P c := by
    rintro x P ⟨c, hc, hP⟩
    exact ⟨c, hc.cons, hP⟩
  cases hs with
  | listed reference =>
    -- a listing changes the options and never what is held
    have hsame : Picked ((p, .listed reference) :: h) ↔ Picked h := by simp [Picked]
    have hcode : (p.listed (listRegionCodes reference)).dialCode = p.dialCode := by
      cases listRegionCodes reference <;> rfl
    refine ⟨fun option hoption => ?_, ?_, ?_, ?_⟩
    · cases hanswer : listRegionCodes reference with
      | error e =>
        rw [hanswer] at hoption
        exact hcons (hheld.offered option hoption)
      | ok rows =>
        rw [hanswer] at hoption
        obtain ⟨listCountries, zh, en, rfl, hzh, -, rfl⟩ := listRegionCodes_eq_ok.mp hanswer
        obtain ⟨c, hc, hvalue⟩ := value_regionOptions hoption
        exact ⟨c, ⟨p, listCountries, zh, List.mem_cons_self, hzh, hc⟩, hvalue⟩
    · rw [hcode]
      exact hheld.cleared
    · rw [hsame, hcode]
      exact hheld.initial
    · rw [hsame, hcode]
      exact fun hnot hp => hcons (hheld.picked hnot hp)
  | @pick option hoption =>
    have hused : Picked ((p, .pick option) :: h) := ⟨p, option, List.mem_cons_self⟩
    obtain ⟨c, hc, hvalue⟩ := hheld.offered option hoption
    exact ⟨fun option' hoption' => hcons (hheld.offered option' hoption'), False.elim,
      fun _ hnot => absurd hused hnot, fun _ _ => ⟨c, hc.cons, congrArg some hvalue⟩⟩
  | clear _ =>
    exact ⟨fun option hoption => hcons (hheld.offered option hoption), fun _ => rfl,
      fun hnot => absurd trivial hnot, fun hnot => absurd trivial hnot⟩

/-- Only the identity page starts with what is no dial code. -/
theorem dialled_initial (form : DialForm) : Phone.Dialled form.initial ↔ form ≠ .identity := by
  rw [Phone.dialled_iff]
  cases form <;> decide

/-- **Whether a form posts a number.**  In every run of a form over a directory of dial codes,
a national number with a digit in it is composed to a number iff the picker was not cleared last,
and the form is not the identity page's or the picker was used. -/
theorem number_posted_iff (hr : Run (Step form) (opened form) h p)
    (hdirectory : ∀ c, Listed h c → Phone.Dialled c.dialCode)
    {national : String} (hdigit : Phone.HasDigit national) :
    Phone.composeE164 p.posted national ≠ "" ↔
      ¬ Cleared h ∧ (form ≠ .identity ∨ Picked h) := by
  have hheld := held_of_run hr
  have hcomposed : Phone.composeE164 p.posted national ≠ "" ↔ Phone.Dialled p.posted := by
    constructor
    · intro hne
      by_contra hnot
      exact hne (Phone.composeE164_of_not_dialled hnot national)
    · intro hdial hempty
      obtain ⟨c, rest, hlist⟩ := hdial
      rw [Phone.composeE164_of_dialled ⟨c, rest, hlist⟩ hdigit] at hempty
      have htext := congrArg String.toList hempty
      rw [String.toList_append, hlist] at htext
      cases htext
  rw [hcomposed, Form.posted]
  by_cases hcleared : Cleared h
  · have hempty : ¬ Phone.Dialled "" := by
      rw [Phone.dialled_iff]
      decide
    rw [hheld.cleared hcleared]
    exact iff_of_false hempty fun hnot => hnot.1 hcleared
  rw [and_iff_right hcleared]
  by_cases hp : Picked h
  -- what is held is the code picked last, or the initial value
  · obtain ⟨c, hc, hcode⟩ := hheld.picked hcleared hp
    rw [hcode]
    exact iff_of_true (hdirectory c hc) (Or.inr hp)
  · rw [hheld.initial hcleared hp, Option.getD_some, dialled_initial, or_iff_left hp]

/-- On the identity page, the picker is cleared and then a listed country is picked. -/
theorem number_posted_iff_identity : ∃ (h : List (Form × Event Unit)) (p : Form),
    Run (Step .identity) (opened .identity) h p ∧ p.dialCode = some "+86" ∧
      (Phone.composeE164 p.posted "138" ≠ "" ↔
        ¬ Cleared h ∧ (DialForm.identity ≠ .identity ∨ Picked h)) := by
  let china : Country := ⟨"CN", "+86", "中国"⟩
  let reference : String → Except Unit (List Country) := fun _ => .ok [china]
  have hlisted : Run (Step .identity) (opened .identity) _ _ :=
    Run.start.next (.listed (some reference))
  have hpicked := (hlisted.next (.clear rfl)).next (l := .pick ⟨"+86", "+86 中国"⟩)
    (.pick (by decide))
  refine ⟨_, _, hpicked, rfl, number_posted_iff hpicked ?_ ⟨'1', by decide, by decide⟩⟩
  rintro c ⟨v, listCountries, zh, hmem, hzh, hc⟩
  obtain ⟨-, rfl⟩ : v = opened .identity ∧ listCountries = reference := by simpa using hmem
  obtain rfl : [china] = zh := Except.ok.inj hzh
  obtain rfl : c = china := List.mem_singleton.mp hc
  exact (dialled_initial .sendSMS).mpr (by decide)

end Runs

end Testkit.DialCodes
