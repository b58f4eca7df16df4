import Mathlib.Data.List.DropRight

/-! # Composing phone numbers

`internal/phone`: the console's form sends a dial code and a national number; the
backends require one E.164 string.
-/
namespace Testkit.Phone

/-- `unicode.IsSpace`, the white space `strings.TrimSpace` removes. -/
def isSpace (c : Char) : Bool :=
  ['\t', '\n', '\x0b', '\x0c', '\r', ' ', '\u0085', '\u00a0', '\u1680', '\u2028', '\u2029',
    '\u202f', '\u205f', '\u3000'].contains c || ('\u2000' ≤ c && c ≤ '\u200a')

/-- `strings.TrimSpace`. -/
def trimSpace (s : String) : String :=
  String.ofList ((s.toList.dropWhile isSpace).rdropWhile isSpace)

/-- The digits `ComposeE164` keeps of a national number. -/
def isDigit (c : Char) : Bool := '0' ≤ c && c ≤ '9'

/-- `ComposeE164`; lengths are in bytes. -/
def composeE164 (dialCode national : String) : String :=
  let dial := trimSpace dialCode
  if dial.toList.head? ≠ some '+' ∨ dial.utf8ByteSize < 2 then ""
  else
    let s := dial ++ String.ofList (national.toList.filter isDigit)
    if s.utf8ByteSize ≤ dial.utf8ByteSize then "" else s

/-! ## Which numbers are in E.164 shape -/

/-- A plus sign and digits. -/
def E164Shaped (s : String) : Prop :=
  ∃ digits, digits ≠ [] ∧ (∀ c ∈ digits, isDigit c) ∧ s.toList = '+' :: digits

/-- There is a digit in it. -/
def HasDigit (national : String) : Prop := ∃ c ∈ national.toList, isDigit c

/-- The plus sign and something more; what follows it is not looked at. -/
def Dialled (dialCode : String) : Prop := ∃ c rest, (trimSpace dialCode).toList = '+' :: c :: rest

theorem hasDigit_iff {national : String} :
    HasDigit national ↔ national.toList.filter isDigit ≠ [] := by
  simp [HasDigit, List.filter_eq_nil_iff]

/-- The byte length of a text that starts with a plus sign counts what follows it. -/
theorem byteSize_plus {s : String} {rest : List Char} (hs : s.toList = '+' :: rest) :
    s.utf8ByteSize < 2 ↔ rest = [] := by
  have hsplit : s = String.ofList ['+'] ++ String.ofList rest := by
    rw [← String.ofList_append, ← String.ofList_toList (s := s), hs]
    rfl
  have hplus : (String.ofList ['+']).utf8ByteSize = 1 := by decide
  have hzero : (String.ofList rest).utf8ByteSize = 0 ↔ rest = [] := by
    rw [String.utf8ByteSize_eq_zero_iff]
    constructor
    · intro h
      simpa using congrArg String.toList h
    · rintro rfl
      rfl
  rw [hsplit, String.utf8ByteSize_append, hplus, ← hzero]
  omega

/-- The checks on the dial code. -/
theorem dialled_iff {dialCode : String} :
    Dialled dialCode ↔ ¬ ((trimSpace dialCode).toList.head? ≠ some '+' ∨
      (trimSpace dialCode).utf8ByteSize < 2) := by
  rw [not_or, not_not]
  constructor
  · rintro ⟨c, rest, hdial⟩
    refine ⟨by rw [hdial]; rfl, ?_⟩
    rw [byteSize_plus hdial]
    exact List.cons_ne_nil _ _
  · rintro ⟨hhead, hsize⟩
    obtain ⟨rest, hdial⟩ := List.head?_eq_some_iff.mp hhead
    rw [byteSize_plus hdial] at hsize
    obtain ⟨c, cs, rfl⟩ := List.exists_cons_of_ne_nil hsize
    exact ⟨c, cs, hdial⟩

theorem composeE164_of_not_dialled {dialCode : String} (h : ¬ Dialled dialCode)
    (national : String) : composeE164 dialCode national = "" := by
  rw [dialled_iff, not_not] at h
  exact if_pos h

theorem composeE164_of_no_digit {national : String} (h : ¬ HasDigit national)
    (dialCode : String) : composeE164 dialCode national = "" := by
  rw [hasDigit_iff, not_not] at h
  unfold composeE164
  dsimp only
  split
  · rfl
  · simp [h]

/-- A dial code and a digit make a number. -/
theorem composeE164_of_dialled {dialCode national : String} (hdial : Dialled dialCode)
    (hdigit : HasDigit national) :
    composeE164 dialCode national =
      trimSpace dialCode ++ String.ofList (national.toList.filter isDigit) := by
  have hlong : (String.ofList (national.toList.filter isDigit)).utf8ByteSize ≠ 0 := by
    intro h
    rw [String.utf8ByteSize_eq_zero_iff] at h
    exact hasDigit_iff.mp hdigit (by simpa using congrArg String.toList h)
  unfold composeE164
  dsimp only
  rw [if_neg (dialled_iff.mp hdial), String.utf8ByteSize_append, if_neg (by omega)]

/-- What `ComposeE164` makes of its two parts. -/
structure Composed (dialCode national : String) : Prop where
  nonempty : composeE164 dialCode national ≠ "" ↔ Dialled dialCode ∧ HasDigit national
  text : composeE164 dialCode national ≠ "" → composeE164 dialCode national =
    trimSpace dialCode ++ String.ofList (national.toList.filter isDigit)
  /-- The dial code is kept as it is, so the shape of the number is that of the dial code. -/
  shape : E164Shaped (composeE164 dialCode national) ↔
    E164Shaped (trimSpace dialCode) ∧ HasDigit national

/-- A text in E.164 shape has a plus sign and something more. -/
theorem dialled_of_shaped {dialCode : String} (h : E164Shaped (trimSpace dialCode)) :
    Dialled dialCode := by
  obtain ⟨digits, hne, -, hdial⟩ := h
  obtain ⟨c, rest, rfl⟩ := List.exists_cons_of_ne_nil hne
  exact ⟨c, rest, hdial⟩

theorem not_shaped_empty : ¬ E164Shaped "" := by
  rintro ⟨digits, -, -, h⟩
  cases h

/-- Digits at the end make no difference to the shape. -/
theorem shaped_append_digits {dial digits : List Char} (hdial : ∃ c rest, dial = '+' :: c :: rest)
    (hdigits : ∀ c ∈ digits, isDigit c) :
    E164Shaped (String.ofList (dial ++ digits)) ↔ E164Shaped (String.ofList dial) := by
  obtain ⟨c, rest, rfl⟩ := hdial
  simp only [E164Shaped, String.toList_ofList, List.cons_append, List.cons.injEq, true_and]
  constructor
  · rintro ⟨all, -, hall, rfl⟩
    refine ⟨c :: rest, List.cons_ne_nil _ _, ?_, rfl⟩
    intro d hd
    exact hall d (by simpa using (List.mem_append_left digits hd))
  · rintro ⟨all, -, hall, rfl⟩
    refine ⟨c :: rest ++ digits, List.cons_ne_nil _ _, ?_, rfl⟩
    intro d hd
    rcases List.mem_append.mp hd with hd | hd
    · exact hall d hd
    · exact hdigits d hd

/-- **What is composed**, for any two texts. -/
theorem composeE164_composed (dialCode national : String) : Composed dialCode national := by
  by_cases hdial : Dialled dialCode
  · by_cases hdigit : HasDigit national
    · have heq := composeE164_of_dialled hdial hdigit
      refine ⟨⟨fun _ => ⟨hdial, hdigit⟩, fun _ => ?_⟩, fun _ => heq, ?_⟩
      · obtain ⟨c, rest, hlist⟩ := hdial
        intro hempty
        have htext := congrArg String.toList (heq.symm.trans hempty)
        rw [String.toList_append, hlist] at htext
        cases htext
      · rw [heq, ← String.ofList_toList (s := trimSpace dialCode), ← String.ofList_append,
          shaped_append_digits hdial fun c hc => (List.mem_filter.mp hc).2]
        simp only [hdigit, and_true]
    · have heq := composeE164_of_no_digit hdigit dialCode
      refine ⟨⟨fun h => absurd heq h, fun h => absurd h.2 hdigit⟩,
        fun h => absurd heq h, ?_⟩
      rw [heq]
      exact ⟨fun h => absurd h not_shaped_empty, fun h => absurd h.2 hdigit⟩
  · have heq := composeE164_of_not_dialled hdial national
    refine ⟨⟨fun h => absurd heq h, fun h => absurd h.1 hdial⟩, fun h => absurd heq h, ?_⟩
    rw [heq]
    exact ⟨fun h => absurd h not_shaped_empty, fun h => absurd (dialled_of_shaped h.1) hdial⟩

/-- What follows the plus sign need not be a digit. -/
theorem composeE164_letter :
    ¬ ∀ dialCode national : String,
      (composeE164 dialCode national ≠ "" ↔
        E164Shaped (trimSpace dialCode) ∧ HasDigit national) ∧
      (composeE164 dialCode national ≠ "" → E164Shaped (composeE164 dialCode national)) := by
  intro hall
  have hshape := (hall "+8x6" "138").2 (by decide)
  obtain ⟨digits, -, hdigits, htext⟩ := hshape
  have hlist : digits = ['8', 'x', '6', '1', '3', '8'] := (List.cons.inj htext).2.symm
  exact absurd (hdigits 'x' (by rw [hlist]; decide)) (by decide)

example : composeE164 " +86 " "138-0013 8000" = "+8613800138000" := by decide

end Testkit.Phone
