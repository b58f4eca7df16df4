import Mathlib.Algebra.Order.Floor.Div
import Testkit.RegExp
import Testkit.Utf16

/-! # Segments of a short message

The SMS page shows how many segments a text takes.  It counts the characters of the text,
each as one, and takes the limits of the 7-bit alphabet where `GSM_CHAR_RE` matches and
those of UCS-2 elsewhere.  The encodings count otherwise: in the 7-bit alphabet a character
of the extension table takes two septets, and UCS-2 counts code units.  `smsSegments_iff`
says for which texts the difference does not show.
-/
namespace Testkit.SendSms
open RegExp Utf16

/-! ## The page's count -/

/-- A digit or a letter. -/
def alphanumeric (u : UInt16) : Bool :=
  (0x30 ≤ u && u ≤ 0x39) || (0x41 ≤ u && u ≤ 0x5A) || (0x61 ≤ u && u ≤ 0x7A)

/-- The single characters of the class in `GSM_CHAR_RE`. -/
def gsmChars : Text :=
  ofString "\r\n@£$¥èéùìòÇØøÅåΔ_ΦΓΛΩΠΨΣΘΞÆæßÉ!\"#¤%&'()*+,./:;<=>?¡ÄÖÑÜ§¿äöñüà^\x7b\x7d[]~|€ -"

/-- The class in `GSM_CHAR_RE`. -/
def gsmChar (u : UInt16) : Bool := gsmChars.contains u || alphanumeric u

/-- `GSM_CHAR_RE` -/
def gsmCharRe : Regex UInt16 := .seq .start (.seq (.many gsmChar) .stop)

/-- `isGsmOnly` -/
def isGsmOnly (text : Text) : Bool := test gsmCharRe text

/-- What the page shows of a text. -/
structure Segments where
  count : Nat
  perSegment : Nat
  deriving DecidableEq, Repr

/-- One segment of `single` units, or several of `multi`. -/
def parts (single multi units : Nat) : Nat := if units ≤ single then 1 else units ⌈/⌉ multi

/-- `smsSegments` -/
def smsSegments (text : Text) : Segments :=
  let len := (spread text).length
  if len = 0 then { count := 0, perSegment := 0 }
  else
    let gsm := isGsmOnly text
    let single := if gsm then 160 else 70
    let multi := if gsm then 153 else 67
    { count := parts single multi len, perSegment := single }

/-! ## The encodings' count -/

/-- The default alphabet of GSM 03.38, without its escape to the extension table. -/
def defaultChars : Text :=
  ofString "@£$¥èéùìòÇ\nØø\rÅåΔ_ΦΓΛΩΠΨΣΘΞÆæßÉ !\"#¤%&'()*+,-./:;<=>?¡ÄÖÑÜ§¿äöñüà"

/-- The characters of the extension table. -/
def extensionChars : Text := ofString "^\x7b\x7d[]~|\\€"

/-- A unit that is a character of the alphabet or of its extension table. -/
def inAlphabet (u : UInt16) : Bool :=
  defaultChars.contains u || alphanumeric u || extensionChars.contains u

/-- A character of a text, one unit or two, that the alphabet or the table has. -/
def encodable (c : Text) : Bool :=
  match c with
  | [u] => inAlphabet u
  | _ => false

/-- The septets of a character. -/
def septetsOf (c : Text) : Nat :=
  match c with
  | [u] => if extensionChars.contains u then 2 else 1
  | _ => 1

/-- The septets of a text. -/
def septets (text : Text) : Nat := ((spread text).map septetsOf).sum

/-- **The specification**: the segments that the encodings need. -/
def segmentsNeeded (text : Text) : Nat :=
  if text = [] then 0
  else if (spread text).all encodable then parts 160 153 (septets text)
  else parts 70 67 text.length

/-! ## Counting parts -/

/-- A length after which one more unit takes one more segment. -/
def Boundary (single multi b : Nat) : Prop := b = single ∨ (single < b ∧ multi ∣ b)

/-- No such length from one length up to another. -/
def NoBoundary (single multi n m : Nat) : Prop := ∀ b, n ≤ b → b < m → ¬ Boundary single multi b

section Parts
variable {single multi n m : Nat}

theorem parts_of_le (h : n ≤ single) : parts single multi n = 1 := if_pos h

theorem parts_of_lt (h : single < n) : parts single multi n = n ⌈/⌉ multi :=
  if_neg (Nat.not_le.mpr h)

/-- Two lengths take as many parts if no boundary is between them. -/
theorem parts_eq_iff (hmulti : 0 < multi) (hle : multi ≤ single) (hnm : n ≤ m) :
    parts single multi n = parts single multi m ↔ NoBoundary single multi n m := by
  by_cases hm : m ≤ single
  · refine iff_of_true (by rw [parts_of_le hm, parts_of_le (hnm.trans hm)]) ?_
    rintro b - hbm (rfl | ⟨hb, -⟩) <;> omega
  have hm' : single < m := Nat.not_le.mp hm
  by_cases hn : n ≤ single
  · rw [parts_of_le hn, parts_of_lt hm']
    have hmany : ¬ m ⌈/⌉ multi ≤ 1 := by
      rw [ceilDiv_le_iff_le_mul hmulti]
      omega
    refine iff_of_false (by omega) fun hno => ?_
    exact hno single hn hm' (.inl rfl)
  · have hn' : single < n := Nat.not_le.mp hn
    rw [parts_of_lt hn', parts_of_lt hm']
    constructor
    · rintro heq b hnb hbm (rfl | ⟨-, j, rfl⟩)
      · omega
      · have hj : n ⌈/⌉ multi ≤ j := (ceilDiv_le_iff_le_mul hmulti).mpr hnb
        rw [heq, ceilDiv_le_iff_le_mul hmulti] at hj
        omega
    · intro hno
      refine le_antisymm ?_ ?_
      · rw [ceilDiv_le_iff_le_mul hmulti]
        exact hnm.trans ((ceilDiv_le_iff_le_mul hmulti).mp le_rfl)
      · have hroom : n ≤ multi * (n ⌈/⌉ multi) := (ceilDiv_le_iff_le_mul hmulti).mp le_rfl
        rw [ceilDiv_le_iff_le_mul hmulti]
        by_contra hover
        exact hno _ hroom (by omega) (.inr ⟨by omega, dvd_mul_right _ _⟩)

end Parts

/-! ## The alphabet -/

theorem gsmChar_iff (u : UInt16) : gsmChar u ↔ inAlphabet u ∧ u ≠ backslash := by
  have hclass : gsmChars.all fun u => inAlphabet u && u != backslash := by decide +kernel
  have hdefault : defaultChars.all gsmChar := by decide +kernel
  have hextension : extensionChars.all fun u => u == backslash || gsmChar u := by decide +kernel
  rw [List.all_eq_true] at hclass hdefault hextension
  constructor
  · intro h
    rcases Bool.or_eq_true_iff.mp h with h | h
    · have hu := hclass u (List.contains_iff_mem.mp h)
      exact ⟨(Bool.and_eq_true_iff.mp hu).1, bne_iff_ne.mp (Bool.and_eq_true_iff.mp hu).2⟩
    · refine ⟨by simp [inAlphabet, h], ?_⟩
      rintro rfl
      exact absurd h (by decide)
  · rintro ⟨h, hne⟩
    rcases Bool.or_eq_true_iff.mp h with h | h
    · rcases Bool.or_eq_true_iff.mp h with h | h
      · exact hdefault u (List.contains_iff_mem.mp h)
      · simp [gsmChar, h]
    · have hu := hextension u (List.contains_iff_mem.mp h)
      exact (Bool.or_eq_true_iff.mp hu).resolve_left fun heq => hne (beq_iff_eq.mp heq)

/-- No surrogate is in the alphabet. -/
theorem not_high_of_inAlphabet {u : UInt16} (h : inAlphabet u) : isHigh u = false := by
  have hlists : ∀ u ∈ defaultChars ++ extensionChars, isHigh u = false :=
    eq_false_of_any (by decide +kernel)
  have hsmall : ∀ u : UInt16, alphanumeric u → isHigh u = false := by
    intro u hu
    simp only [alphanumeric, Bool.or_eq_true, Bool.and_eq_true, decide_eq_true_eq,
      UInt16.le_iff_toNat_le] at hu
    simp only [isHigh, Bool.and_eq_false_iff, decide_eq_false_iff_not, UInt16.le_iff_toNat_le]
    simp at hu ⊢
    omega
  rcases Bool.or_eq_true_iff.mp h with h | h
  · rcases Bool.or_eq_true_iff.mp h with h | h
    · exact hlists u (List.mem_append_left _ (List.contains_iff_mem.mp h))
    · exact hsmall u h
  · exact hlists u (List.mem_append_right _ (List.contains_iff_mem.mp h))

theorem isGsmOnly_iff (text : Text) : isGsmOnly text ↔ ∀ u ∈ text, gsmChar u := by
  rw [isGsmOnly, gsmCharRe, test_start]
  constructor
  · rintro ⟨m, hm⟩
    obtain ⟨m₁, h₁, m₂, h₂, -⟩ := mem_runs_seq.mp hm
    obtain ⟨htext, hall, -⟩ := mem_runs_many.mp h₁
    rw [(mem_runs_stop.mp h₂).1, List.append_nil] at htext
    exact htext ▸ hall
  · intro hall
    refine ⟨_, mem_runs_seq.mpr ⟨⟨text, [], []⟩, mem_runs_many.mpr ⟨?_, hall, rfl⟩, _,
      mem_runs_stop.mpr ⟨rfl, rfl⟩, rfl⟩⟩
    exact (List.append_nil text).symm

section Alphabet
variable {text : Text}

/-- A text in the alphabet is spread unit by unit. -/
theorem spread_of_inAlphabet (h : ∀ u ∈ text, inAlphabet u) :
    spread text = text.map fun u => [u] :=
  spread_of_no_high fun u hu => not_high_of_inAlphabet (h u hu)

theorem all_encodable_iff : (spread text).all encodable ↔ ∀ u ∈ text, inAlphabet u := by
  rw [List.all_eq_true]
  constructor
  · intro h u hu
    rw [← flatten_spread text, List.mem_flatten] at hu
    obtain ⟨c, hc, hu⟩ := hu
    have hencodable := h c hc
    unfold encodable at hencodable
    split at hencodable
    · rwa [List.mem_singleton.mp hu]
    · cases hencodable
  · intro h c hc
    rw [spread_of_inAlphabet h] at hc
    obtain ⟨u, hu, rfl⟩ := List.mem_map.mp hc
    exact h u hu

/-- The characters of the extension table in a text. -/
def extensions (text : Text) : Nat := text.countP extensionChars.contains

theorem septets_eq (h : ∀ u ∈ text, inAlphabet u) :
    septets text = (spread text).length + extensions text := by
  rw [septets, spread_of_inAlphabet h, extensions, List.map_map, List.length_map]
  clear h
  induction text with
  | nil => rfl
  | cons u text ih =>
    rw [List.map_cons, List.sum_cons, ih, List.countP_cons, List.length_cons]
    by_cases hu : extensionChars.contains u
    · simp only [Function.comp_apply, septetsOf, hu, if_true]
      omega
    · simp only [Function.comp_apply, septetsOf, hu, Bool.false_eq_true, if_false]
      omega

end Alphabet

/-! ## Where the counts agree -/

/-- **The condition on the text.**  In the alphabet without a backslash the extension
characters, each counted once more, reach over no boundary; outside the alphabet the
surrogate pairs, each counted once more, reach over none.  A text in the alphabet with a
backslash is counted in characters of UCS-2 instead of septets: it has at most 70 of them,
or so many septets that they fill as many parts. -/
def Faithful (text : Text) : Prop :=
  let n := (spread text).length
  if text.all inAlphabet then
    if backslash ∈ text then
      n ≤ 70 ∨ (160 < n + extensions text ∧ ∀ j, 67 * j < n → 153 * j < n + extensions text)
    else NoBoundary 160 153 n (n + extensions text)
  else NoBoundary 70 67 n (n + pairs text)

/-- Characters of two bytes and septets, of which there are at most twice as many. -/
theorem parts_backslash_iff {n e : Nat} (he : e ≤ n) :
    parts 70 67 n = parts 160 153 (n + e) ↔
      n ≤ 70 ∨ (160 < n + e ∧ ∀ j, 67 * j < n → 153 * j < n + e) := by
  have hceil : ∀ k m j : Nat, 0 < k → (m ⌈/⌉ k ≤ j ↔ m ≤ k * j) :=
    fun _ _ _ hk => ceilDiv_le_iff_le_mul hk
  by_cases hn : n ≤ 70
  · refine iff_of_true ?_ (.inl hn)
    rw [parts_of_le hn, parts_of_le (by omega)]
  have hn' : 70 < n := Nat.not_le.mp hn
  have hmany : ¬ n ⌈/⌉ 67 ≤ 1 := by
    rw [hceil 67 n 1 (by decide)]
    omega
  by_cases hs : n + e ≤ 160
  · rw [parts_of_lt hn', parts_of_le hs]
    refine iff_of_false (by omega) ?_
    rintro (h | ⟨h, -⟩) <;> omega
  have hs' : 160 < n + e := Nat.not_le.mp hs
  rw [parts_of_lt hn', parts_of_lt hs']
  constructor
  · intro heq
    refine .inr ⟨hs', fun j hj => ?_⟩
    have hpart : ¬ n ⌈/⌉ 67 ≤ j := by
      rw [hceil 67 n j (by decide)]
      omega
    rw [heq, hceil 153 _ j (by decide)] at hpart
    omega
  · rintro (h | ⟨-, hfill⟩)
    · omega
    refine le_antisymm ?_ ?_
    · rw [hceil 67 n _ (by decide)]
      by_contra hover
      have hnext := hfill _ (by omega : 67 * ((n + e) ⌈/⌉ 153) < n)
      have hroom := (hceil 153 (n + e) _ (by decide)).mp le_rfl
      omega
    · have hroom := (hceil 67 n _ (by decide)).mp le_rfl
      rw [hceil 153 _ _ (by decide)]
      omega

/-- What the page shows of a text that is not empty. -/
theorem smsSegments_count {text : Text} (hne : text ≠ []) : (smsSegments text).count =
    if isGsmOnly text then parts 160 153 (spread text).length
    else parts 70 67 (spread text).length := by
  have hlength : (spread text).length ≠ 0 := by
    intro hzero
    have hflatten := flatten_spread text
    rw [List.eq_nil_of_length_eq_zero hzero] at hflatten
    exact hne hflatten.symm
  cases hgsm : isGsmOnly text <;> simp [smsSegments, hlength, hgsm]

/-- **The page's count** is the number of segments the encodings need exactly on the texts
of the condition. -/
theorem smsSegments_iff (text : Text) :
    (smsSegments text).count = segmentsNeeded text ↔ Faithful text := by
  by_cases hempty : text = []
  · subst hempty
    refine iff_of_true rfl ?_
    simp [Faithful, NoBoundary, spread, extensions, backslash]
  have hall : text.all inAlphabet ↔ ∀ u ∈ text, inAlphabet u := List.all_eq_true
  by_cases hin : ∀ u ∈ text, inAlphabet u
  · have hneeded : segmentsNeeded text =
        parts 160 153 ((spread text).length + extensions text) := by
      rw [segmentsNeeded, if_neg hempty, if_pos (all_encodable_iff.mpr hin), septets_eq hin]
    by_cases hbackslash : backslash ∈ text
    · have hgsm : isGsmOnly text = false := by
        rw [Bool.eq_false_iff, Ne, isGsmOnly_iff]
        intro hall
        exact ((gsmChar_iff backslash).mp (hall backslash hbackslash)).2 rfl
      have hcount : extensions text ≤ (spread text).length := by
        rw [spread_of_inAlphabet hin, List.length_map]
        exact List.countP_le_length
      rw [smsSegments_count hempty, hgsm, hneeded, Faithful, if_pos (hall.mpr hin),
        if_pos hbackslash]
      exact parts_backslash_iff hcount
    · have hgsm : isGsmOnly text = true := by
        rw [isGsmOnly_iff]
        intro u hu
        exact (gsmChar_iff u).mpr ⟨hin u hu, fun heq => hbackslash (heq ▸ hu)⟩
      rw [smsSegments_count hempty, hgsm, hneeded, Faithful, if_pos (hall.mpr hin),
        if_neg hbackslash]
      exact parts_eq_iff (by decide) (by decide) (Nat.le_add_right _ _)
  · have hgsm : isGsmOnly text = false := by
      rw [Bool.eq_false_iff, Ne, isGsmOnly_iff]
      intro hall
      exact hin fun u hu => ((gsmChar_iff u).mp (hall u hu)).1
    have hneeded : segmentsNeeded text = parts 70 67 ((spread text).length + pairs text) := by
      rw [segmentsNeeded, if_neg hempty, if_neg (mt all_encodable_iff.mp hin), length_spread]
    rw [smsSegments_count hempty, hgsm, hneeded, Faithful, if_neg (mt hall.mp hin)]
    exact parts_eq_iff (by decide) (by decide) (Nat.le_add_right _ _)

/-- Three texts the page counts wrongly: 160 euro signs, 71 letters with a backslash among
them, and 36 characters outside the basic plane. -/
theorem smsSegments_wrong :
    ((smsSegments (List.replicate 160 (unit '€'))).count = 1 ∧
      segmentsNeeded (List.replicate 160 (unit '€')) = 3) ∧
    ((smsSegments (backslash :: List.replicate 70 (unit 'a'))).count = 2 ∧
      segmentsNeeded (backslash :: List.replicate 70 (unit 'a')) = 1) ∧
    ((smsSegments ((List.replicate 36 [0xD83D, 0xDE00]).flatten)).count = 1 ∧
      segmentsNeeded ((List.replicate 36 [0xD83D, 0xDE00]).flatten) = 2) := by
  decide +kernel

end Testkit.SendSms
