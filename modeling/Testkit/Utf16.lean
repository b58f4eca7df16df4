import Mathlib.Data.List.DropRight

/-! # Text in UTF-16

A string as a sequence of 16-bit code units, any sequence: a surrogate may stand alone.
Here are the operations that look at single units (white space, trimming) and the one that
looks at pairs (`spread`, a string's iterator, which takes a high surrogate and the low one
that follows it together).
-/
namespace Utf16

/-- A string: its code units. -/
abbrev Text := List UInt16

/-- The code unit of a character of the basic plane. -/
def unit (c : Char) : UInt16 := UInt16.ofNat c.toNat

/-- The code units of a character. -/
def encode (c : Char) : Text :=
  if c.toNat < 0x10000 then [unit c]
  else
    let offset := c.toNat - 0x10000
    [UInt16.ofNat (0xD800 + offset / 0x400), UInt16.ofNat (0xDC00 + offset % 0x400)]

/-- The code units of a string without lone surrogates. -/
def ofString (s : String) : Text := s.toList.flatMap encode

/-- The order of code units, which strings are sorted by. -/
def unitsLe (a b : String) : Bool := decide (ofString a ≤ ofString b)

/-! ## Characters of patterns -/

def tab : UInt16 := 0x09
def newline : UInt16 := 0x0A
def carriageReturn : UInt16 := 0x0D
def space : UInt16 := 0x20
def quote : UInt16 := 0x22
def ampersand : UInt16 := 0x26
def dot : UInt16 := 0x2E
def slash : UInt16 := 0x2F
def less : UInt16 := 0x3C
def greater : UInt16 := 0x3E
def atSign : UInt16 := 0x40
def backslash : UInt16 := 0x5C

/-! ## White space -/

/-- A line terminator. -/
def isLineTerminator (u : UInt16) : Bool :=
  u == 0x0A || u == 0x0D || u == 0x2028 || u == 0x2029

/-- White space, line terminators among it. -/
def isSpace (u : UInt16) : Bool :=
  isLineTerminator u || u == 0x09 || u == 0x0B || u == 0x0C || u == 0x20 || u == 0xA0 ||
    u == 0x1680 || (0x2000 ≤ u && u ≤ 0x200A) || u == 0x202F || u == 0x205F || u == 0x3000 ||
    u == 0xFEFF

theorem isSpace_of_isLineTerminator {u : UInt16} (h : isLineTerminator u) : isSpace u := by
  simp [isSpace, h]

/-- A text without white space at its two ends. -/
def trim (t : Text) : Text := (t.dropWhile isSpace).rdropWhile isSpace

theorem trim_sublist (t : Text) : (trim t).Sublist t :=
  (List.rdropWhile_prefix isSpace _).sublist.trans (List.dropWhile_sublist isSpace)

theorem mem_of_mem_trim {t : Text} {u : UInt16} (h : u ∈ trim t) : u ∈ t :=
  (trim_sublist t).subset h

theorem length_trim_le (t : Text) : (trim t).length ≤ t.length := (trim_sublist t).length_le

theorem trim_eq_nil_iff {t : Text} : trim t = [] ↔ ∀ u ∈ t, isSpace u := by
  constructor
  · intro h
    have hdrop : ∀ u ∈ t.dropWhile isSpace, isSpace u := List.rdropWhile_eq_nil_iff.mp h
    refine List.dropWhile_eq_nil_iff.mp ?_
    by_contra hne
    have hhead := List.head_dropWhile_not isSpace hne
    rw [hdrop _ (List.head_mem hne)] at hhead
    cases hhead
  · intro h
    have hnil : t.dropWhile isSpace = [] := List.dropWhile_eq_nil_iff.mpr h
    rw [trim, hnil]
    rfl

theorem dropWhile_of_trim {t : Text} (h : trim t = t) : t.dropWhile isSpace = t := by
  have hsub : (trim t).length ≤ (t.dropWhile isSpace).length :=
    (List.rdropWhile_prefix isSpace _).length_le
  rw [h] at hsub
  exact (List.dropWhile_sublist isSpace).eq_of_length_le hsub

/-- A trimmed text does not start with white space … -/
theorem head_of_trim {u : UInt16} {t : Text} (h : trim (u :: t) = u :: t) :
    isSpace u = false := by
  have hdrop := dropWhile_of_trim h
  by_contra hspace
  rw [List.dropWhile_cons_of_pos (by simpa using hspace)] at hdrop
  have hlength := congrArg List.length hdrop
  have hle := (List.dropWhile_sublist isSpace (l := t)).length_le
  rw [List.length_cons] at hlength
  omega

/-- … nor end with it. -/
theorem last_of_trim {t : Text} {u : UInt16} (h : trim (t ++ [u]) = t ++ [u]) :
    isSpace u = false := by
  rw [trim, dropWhile_of_trim h] at h
  by_contra hspace
  rw [List.rdropWhile_concat_pos _ _ _ (by simpa using hspace)] at h
  have hlength := congrArg List.length h
  have hle := (List.rdropWhile_prefix isSpace t).length_le
  rw [List.length_append, List.length_singleton] at hlength
  omega

/-! ## Surrogates -/

/-- A high surrogate. -/
def isHigh (u : UInt16) : Bool := 0xD800 ≤ u && u ≤ 0xDBFF

/-- A low surrogate. -/
def isLow (u : UInt16) : Bool := 0xDC00 ≤ u && u ≤ 0xDFFF

/-- What the iterator of a string yields. -/
def spread : Text → List Text
  | [] => []
  | [u] => [[u]]
  | u :: v :: rest =>
    if isHigh u && isLow v then [u, v] :: spread rest else [u] :: spread (v :: rest)

/-- The number of surrogate pairs. -/
def pairs : Text → Nat
  | [] => 0
  | [_] => 0
  | u :: v :: rest => if isHigh u && isLow v then pairs rest + 1 else pairs (v :: rest)

/-- A pair is one item and two units. -/
theorem length_spread (t : Text) : (spread t).length + pairs t = t.length := by
  fun_induction spread t with
  | case1 => rfl
  | case2 u => rfl
  | case3 u v rest hpair ih =>
    simp only [pairs, hpair, List.length_cons]
    simp only [if_true]
    omega
  | case4 u v rest hpair ih =>
    simp only [pairs, hpair, List.length_cons] at ih ⊢
    simp only [Bool.false_eq_true, if_false]
    omega

/-- The items of a text are its units, in order. -/
theorem flatten_spread (t : Text) : (spread t).flatten = t := by
  fun_induction spread t with
  | case1 => rfl
  | case2 u => rfl
  | case3 u v rest hpair ih => simp [ih]
  | case4 u v rest hpair ih => simp [ih]

/-- A text without surrogates is spread unit by unit. -/
theorem spread_of_no_high {t : Text} (h : ∀ u ∈ t, isHigh u = false) :
    spread t = t.map fun u => [u] := by
  fun_induction spread t with
  | case1 => rfl
  | case2 u => rfl
  | case3 u v rest hpair ih => simp [h u List.mem_cons_self] at hpair
  | case4 u v rest hpair ih =>
    rw [ih fun w hw => h w (List.mem_cons_of_mem _ hw)]
    rfl

end Utf16
