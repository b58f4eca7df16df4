import Testkit.RegExp
import Testkit.Utf16

/-! # The plain text of a mail

The compose page writes the names and links of large attachments into the HTML body with
`escapeHtmlAttr`, and derives the text/plain body from the HTML with `htmlToPlainText`, a
chain of replacements.  The ampersand is put back before the other characters, so what an
escaped ampersand leaves behind is read as an entity once more: the chain undoes the
escaping of exactly the texts that mention none of the entities that come later
(`htmlToPlainText_escape_iff`).
-/
namespace Testkit.MailText
open RegExp Utf16

/-! ## Patterns -/

/-- A letter as the flag for ignoring case reads it: only the ASCII letters have another
case in an ASCII pattern. -/
def lower (u : UInt16) : UInt16 := if 0x41 ≤ u && u ≤ 0x5A then u + 0x20 else u

/-- A text of a pattern. -/
def exactly (s : String) : List (UInt16 → Bool) := (ofString s).map fun c u => u == c

/-- A text of a pattern, in any case. -/
def anyCase (s : String) : List (UInt16 → Bool) := (ofString s).map fun c u => lower u == c

/-- `/<br\s*\/?>/gi` -/
def brRe : Regex UInt16 :=
  .seq (.word (anyCase "<br")) (.seq (.many isSpace)
    (.seq (.option (.one (· == slash))) (.one (· == greater))))

/-- `/<\/(p|div|tr|h[1-6]|li)>/gi` -/
def closerRe : Regex UInt16 :=
  .seq (.word (exactly "</")) (.seq (.group 1
    (.alt (.word (anyCase "p")) (.alt (.word (anyCase "div")) (.alt (.word (anyCase "tr"))
      (.alt (.seq (.word (anyCase "h")) (.one fun u => 0x31 ≤ u && u ≤ 0x36))
        (.word (anyCase "li")))))))
    (.one (· == greater)))

/-- `/<[^>]+>/g` -/
def tagRe : Regex UInt16 :=
  .seq (.one (· == less)) (.seq (.some (· != greater)) (.one (· == greater)))

/-- `/[ \t]+/g` -/
def blanksRe : Regex UInt16 := .some fun u => u == space || u == tab

/-- `/\n{3,}/g` -/
def newlinesRe : Regex UInt16 :=
  .seq (.one (· == newline)) (.seq (.one (· == newline)) (.some (· == newline)))

/-! ## The functions -/

/-- An entity is replaced by its character. -/
def decode (entity : List (UInt16 → Bool)) (c : UInt16) (t : Text) : Text :=
  replaceAll (.word entity) [c] t

/-- The rewrites of the tags. -/
def stripTags (html : Text) : Text :=
  replaceAll tagRe [] (replaceAll closerRe [newline] (replaceAll brRe [newline] html))

/-- The rewrites of the entities. -/
def decodeEntities (t : Text) : Text :=
  decode (anyCase "&quot;") quote (decode (anyCase "&gt;") greater
    (decode (anyCase "&lt;") less (decode (anyCase "&amp;") ampersand
      (decode (anyCase "&nbsp;") space t))))

/-- The rewrites of the white space, each line trimmed between them. -/
def tidy (t : Text) : Text :=
  trim (replaceAll newlinesRe [newline, newline]
    ([newline].intercalate (((replaceAll blanksRe [space] t).splitOn newline).map trim)))

/-- `htmlToPlainText`. -/
def htmlToPlainText (html : Text) : Text :=
  if (trim html).isEmpty then [] else tidy (decodeEntities (stripTags html))

/-- `escapeHtmlAttr`. -/
def escapeHtmlAttr (text : Text) : Text :=
  replaceAll (.word (exactly "<")) (ofString "&lt;")
    (replaceAll (.word (exactly "\"")) (ofString "&quot;")
      (replaceAll (.word (exactly "&")) (ofString "&amp;") text))

/-! ## Escaping -/

/-- A character is written as an entity, the others as they are. -/
def escapeWith (v : UInt16) (e t : Text) : Text := t.flatMap fun u => if u = v then e else [u]

theorem escapeWith_cons (v : UInt16) (e : Text) (u : UInt16) (t : Text) :
    escapeWith v e (u :: t) = (if u = v then e else [u]) ++ escapeWith v e t :=
  List.flatMap_cons

theorem escapeWith_append (v : UInt16) (e s t : Text) :
    escapeWith v e (s ++ t) = escapeWith v e s ++ escapeWith v e t :=
  List.flatMap_append

theorem escapeWith_eq_self {v : UInt16} {e t : Text} (h : v ∉ t) : escapeWith v e t = t := by
  induction t with
  | nil => rfl
  | cons u t ih =>
    have hu : u ≠ v := fun heq => h (heq ▸ List.mem_cons_self)
    have ht : v ∉ t := fun hv => h (List.mem_cons_of_mem u hv)
    rw [escapeWith_cons, if_neg hu, ih ht]
    rfl

theorem mem_escapeWith {v : UInt16} {e t : Text} {u : UInt16} (h : u ∈ escapeWith v e t) :
    u ∈ e ∨ u ∈ t ∧ u ≠ v := by
  obtain ⟨x, hx, hu⟩ := List.mem_flatMap.mp h
  split at hu
  · exact .inl hu
  · rename_i hne
    obtain rfl := List.mem_singleton.mp hu
    exact .inr ⟨hx, hne⟩

/-- A pattern of one character. -/
theorem replaceAll_char (v : UInt16) (e t : Text) :
    replaceAll (.word [fun u => u == v]) e t = escapeWith v e t := by
  have hopens := opens_word (fun u => u == v) []
  have hfloat := floating_word [fun u : UInt16 => u == v]
  induction t with
  | nil => exact replaceAll_nil hopens.consumes
  | cons u t ih =>
    rw [escapeWith_cons]
    by_cases hu : u = v
    · have hfits : Fits [fun u => u == v] [u] := .cons (by simpa using hu) .nil
      have hfirst : first (.word [fun u => u == v]) true ([u] ++ t) = some ⟨[u], t, []⟩ :=
        first_word hfits
      rw [List.singleton_append] at hfirst
      rw [replaceAll_match hopens.consumes hfloat hfirst, ih, if_pos hu]
    · have hkept : ∀ x ∈ [u], (fun u => u == v) x = false := by simpa using hu
      have happend : replaceAll (.word [fun u => u == v]) e ([u] ++ t) =
          [u] ++ replaceAll (.word [fun u => u == v]) e t :=
        replaceAll_append hopens hfloat hkept t
      rw [List.singleton_append] at happend
      rw [happend, ih, if_neg hu]

theorem escapeHtmlAttr_eq (text : Text) : escapeHtmlAttr text =
    escapeWith less (ofString "&lt;") (escapeWith quote (ofString "&quot;")
      (escapeWith ampersand (ofString "&amp;") text)) := by
  rw [← replaceAll_char, ← replaceAll_char, ← replaceAll_char]
  rfl

/-! ## Decoding -/

/-- The pattern of an entity: only its first character is an ampersand. -/
structure Entity (ps : List (UInt16 → Bool)) : Prop where
  opens : ∃ p body, ps = p :: body ∧ (∀ u, p u = true ↔ u = ampersand) ∧
    ∀ q ∈ body, q ampersand = false

/-- The text of an entity, likewise. -/
def EntityText (e : Text) : Prop := ∃ e', e = ampersand :: e' ∧ ampersand ∉ e'

/-- A text differs from a pattern within their common length. -/
def clash : List (UInt16 → Bool) → Text → Bool
  | p :: ps, u :: w => !p u || clash ps w
  | _, _ => false

theorem clash_ne {ps : List (UInt16 → Bool)} {e w : Text} (h : clash ps e) (hw : Fits ps w)
    (s rest : Text) : e ++ s ≠ w ++ rest := by
  induction hw generalizing e with
  | nil => cases e <;> cases h
  | cons hu _ ih =>
    cases e with
    | nil => cases h
    | cons v e =>
      intro heq
      obtain ⟨rfl, htail⟩ := List.cons.inj heq
      rw [clash, hu] at h
      exact ih (by simpa using h) htail

section Decode
variable {ps : List (UInt16 → Bool)} {c v : UInt16} {e : Text}

theorem Entity.openRe (h : Entity ps) : Opens (.word ps) (· == ampersand) := by
  obtain ⟨p, body, rfl, hp, -⟩ := h.opens
  intro atStart t m hm
  obtain ⟨a, taken, htaken, ha⟩ := opens_word p body atStart t m hm
  exact ⟨a, taken, htaken, by simpa using (hp a).mp ha⟩

theorem decode_nil (h : Entity ps) : decode ps c [] = [] := replaceAll_nil h.openRe.consumes

theorem decode_hit (h : Entity ps) {w : Text} (hw : Fits ps w) (rest : Text) :
    decode ps c (w ++ rest) = c :: decode ps c rest :=
  replaceAll_match h.openRe.consumes (floating_word ps) (first_word hw)

theorem decode_miss {u : UInt16} {t : Text} (hmiss : ∀ w rest, Fits ps w → u :: t ≠ w ++ rest) :
    decode ps c (u :: t) = u :: decode ps c t :=
  replaceAll_miss (floating_word ps) (first_word_eq_none hmiss)

/-- Text without an ampersand is passed over. -/
theorem decode_append (h : Entity ps) {kept : Text} (hkept : ampersand ∉ kept) (t : Text) :
    decode ps c (kept ++ t) = kept ++ decode ps c t := by
  refine replaceAll_append h.openRe (floating_word ps) ?_ t
  intro a ha
  exact beq_false_of_ne fun heq => hkept (heq ▸ ha)

/-- So is another entity. -/
theorem decode_clash (h : Entity ps) (he : EntityText e) (hclash : clash ps e) (t : Text) :
    decode ps c (e ++ t) = e ++ decode ps c t := by
  obtain ⟨e', rfl, he'⟩ := he
  have hmiss : ∀ w rest, Fits ps w → ampersand :: (e' ++ t) ≠ w ++ rest :=
    fun w rest hw => clash_ne hclash hw t rest
  rw [List.cons_append, decode_miss hmiss, decode_append h he', List.cons_append]

/-- The induction on decoding. -/
theorem decode_induction {P : Text → Prop} (h : Entity ps) (nil : P [])
    (hit : ∀ w rest, Fits ps w → P rest → P (w ++ rest))
    (miss : ∀ u t, (∀ w rest, Fits ps w → u :: t ≠ w ++ rest) → P t → P (u :: t))
    (t : Text) : P t := by
  induction t using replaceAll_induction h.openRe.consumes with
  | nil => exact nil
  | hit t m hfirst ih =>
    obtain ⟨hfits, htext, -⟩ := mem_runs_word.mp (mem_runs_of_first hfirst)
    rw [htext]
    exact hit m.taken m.rest hfits ih
  | miss u t hfirst ih =>
    refine miss u t (fun w rest hw htext => ?_) ih
    rw [htext, first_word hw] at hfirst
    cases hfirst

/-- What the classes of a pattern without ampersands match in an escaped text stands in the
text itself. -/
theorem fits_escapeWith {body : List (UInt16 → Bool)} (hbody : ∀ q ∈ body, q ampersand = false)
    (he : EntityText e) {w rest t : Text} (hw : Fits body w)
    (htext : escapeWith v e t = w ++ rest) : ∃ rest', t = w ++ rest' := by
  obtain ⟨e', rfl, -⟩ := he
  induction hw generalizing t with
  | nil => exact ⟨t, rfl⟩
  | @cons q u body w hq _ ih =>
    obtain ⟨hq', hbody⟩ := List.forall_mem_cons.mp hbody
    cases t with
    | nil => cases htext
    | cons x t =>
      rw [escapeWith_cons] at htext
      split at htext
      · obtain ⟨rfl, -⟩ := List.cons.inj htext
        rw [hq'] at hq
        cases hq
      · obtain ⟨rfl, htail⟩ := List.cons.inj htext
        obtain ⟨rest', rfl⟩ := ih hbody htail
        exact ⟨rest', rfl⟩

/-- No entity begins at a character for its being followed by an escaped text. -/
theorem miss_escapeWith (h : Entity ps) (he : EntityText e) {u : UInt16} {t : Text}
    (hmiss : ∀ w rest, Fits ps w → u :: t ≠ w ++ rest) (w rest : Text)
    (hw : Fits ps w) : u :: escapeWith v e t ≠ w ++ rest := by
  obtain ⟨p, body, rfl, -, hbody⟩ := h.opens
  cases hw with
  | cons hp hw =>
    intro heq
    obtain ⟨rfl, htail⟩ := List.cons.inj heq
    obtain ⟨rest', rfl⟩ := fits_escapeWith hbody he hw htail
    exact hmiss _ rest' (.cons hp hw) rfl

/-- **Another entity** is decoded alike before and after an escaping. -/
theorem decode_escapeWith (h : Entity ps) (he : EntityText e) (hclash : clash ps e)
    (hv : ∀ q ∈ ps, q v = false) (hc : c ≠ v) (t : Text) :
    decode ps c (escapeWith v e t) = escapeWith v e (decode ps c t) := by
  induction t using decode_induction h with
  | nil =>
    rw [decode_nil h]
    exact decode_nil h
  | hit w rest hw ih =>
    rw [escapeWith_append, escapeWith_eq_self (hw.not_mem hv), decode_hit h hw, decode_hit h hw,
      escapeWith_cons, if_neg hc, ih]
    rfl
  | miss u t hmiss ih =>
    rw [decode_miss hmiss, escapeWith_cons, escapeWith_cons]
    by_cases hu : u = v
    · rw [if_pos hu, decode_clash h he hclash, ih]
    · rw [if_neg hu, List.singleton_append, decode_miss (miss_escapeWith h he hmiss), ih,
        List.singleton_append]

/-- **The entity of an escaping** is decoded as if nothing had been escaped. -/
theorem decode_own (h : Entity ps) (he : EntityText e) (hfits : Fits ps e)
    (hc : ∀ q ∈ ps, q c = false) (t : Text) : decode ps c (escapeWith c e t) = decode ps c t := by
  induction t using decode_induction h with
  | nil => rfl
  | hit w rest hw ih =>
    rw [escapeWith_append, escapeWith_eq_self (hw.not_mem hc), decode_hit h hw, decode_hit h hw, ih]
  | miss u t hmiss ih =>
    rw [decode_miss hmiss, escapeWith_cons]
    by_cases hu : u = c
    · rw [if_pos hu, decode_hit h hfits, ih, hu]
    · rw [if_neg hu, List.singleton_append, decode_miss (miss_escapeWith h he hmiss), ih]

/-- Every ampersand of a text that has been escaped last begins the ampersand's entity. -/
theorem decode_ampersand (h : Entity ps) (hfits : Fits ps e) (t : Text) :
    decode ps ampersand (escapeWith ampersand e t) = t := by
  induction t with
  | nil => exact decode_nil h
  | cons u t ih =>
    rw [escapeWith_cons]
    by_cases hu : u = ampersand
    · rw [if_pos hu, decode_hit h hfits, ih, hu]
    · have hkept : ampersand ∉ [u] := by simpa using Ne.symm hu
      rw [if_neg hu, decode_append h hkept, ih]
      rfl

theorem decode_not_ampersand (h : Entity ps) (he : EntityText e) (hclash : clash ps e)
    (t : Text) :
    decode ps c (escapeWith ampersand e t) = escapeWith ampersand e t := by
  induction t with
  | nil => exact decode_nil h
  | cons u t ih =>
    rw [escapeWith_cons]
    by_cases hu : u = ampersand
    · rw [if_pos hu, decode_clash h he hclash, ih]
    · have hkept : ampersand ∉ [u] := by simpa using Ne.symm hu
      rw [if_neg hu, decode_append h hkept, ih]

theorem not_mem_decode (h : Entity ps) {u : UInt16} {t : Text} (hu : u ≠ c) (ht : u ∉ t) :
    u ∉ decode ps c t := by
  intro hin
  rcases mem_replaceAll h.openRe.consumes (floating_word ps) hin with hnew | hold
  · exact hu (List.mem_singleton.mp hnew)
  · exact ht hold

/-! ## Entities in a text -/

/-- The text mentions the entity. -/
def Mentions (ps : List (UInt16 → Bool)) (t : Text) : Prop :=
  ∃ before w after, Fits ps w ∧ t = before ++ w ++ after

theorem decode_eq_self (h : Entity ps) {t : Text} (hnone : ¬ Mentions ps t) :
    decode ps c t = t := by
  induction t using decode_induction h with
  | nil => exact decode_nil h
  | hit w rest hw ih => exact absurd ⟨[], w, rest, hw, rfl⟩ hnone
  | miss u t hmiss ih =>
    rw [decode_miss hmiss, ih]
    rintro ⟨before, w, after, hw, rfl⟩
    exact hnone ⟨u :: before, w, after, hw, rfl⟩

/-- Decoding shortens a text … -/
theorem length_decode_le (h : Entity ps) (hlength : 2 ≤ ps.length) (t : Text) :
    (decode ps c t).length ≤ t.length := by
  refine length_replaceAll_le h.openRe.consumes (floating_word ps) (fun t m hm => ?_) t
  have hw := (mem_runs_word.mp hm).1.length_eq
  rw [List.length_singleton]
  omega

/-- … that mentions the entity. -/
theorem length_decode_lt (h : Entity ps) (hlength : 2 ≤ ps.length) {t : Text}
    (hmention : Mentions ps t) : (decode ps c t).length < t.length := by
  induction t using decode_induction h with
  | nil =>
    obtain ⟨before, w, after, hw, htext⟩ := hmention
    have hwlength := hw.length_eq
    have htlength := congrArg List.length htext
    simp only [List.length_nil, List.length_append] at htlength
    omega
  | hit w rest hw ih =>
    have hle := length_decode_le (c := c) h hlength rest
    have hwlength := hw.length_eq
    rw [decode_hit h hw, List.length_cons, List.length_append]
    omega
  | miss u t hmiss ih =>
    obtain ⟨before, w, after, hw, htext⟩ := hmention
    cases before with
    | nil => exact absurd htext (hmiss w after hw)
    | cons x before =>
      obtain ⟨rfl, rfl⟩ := List.cons.inj htext
      have hlt := ih ⟨before, w, after, hw, rfl⟩
      rw [decode_miss hmiss, List.length_cons, List.length_cons]
      omega

end Decode

/-! ## The chain on an escaped text -/

/-- Below the letters there is one case. -/
theorem lower_eq_iff {c : UInt16} (hc : c < 0x41) (u : UInt16) : lower u = c ↔ u = c := by
  unfold lower
  split
  · rename_i hletter
    obtain ⟨hlow, hhigh⟩ := Bool.and_eq_true_iff.mp hletter
    rw [decide_eq_true_iff, UInt16.le_iff_toNat_le] at hlow hhigh
    rw [UInt16.lt_iff_toNat_lt] at hc
    rw [← UInt16.toNat_inj, ← UInt16.toNat_inj, UInt16.toNat_add]
    simp at hlow hhigh hc ⊢
    omega
  · rfl

/-- The pattern of an entity in any case. -/
theorem entity_anyCase {s : String} {body : Text} (hs : ofString s = ampersand :: body)
    (hbody : ampersand ∉ body) : Entity (anyCase s) := by
  refine ⟨fun u => lower u == ampersand, body.map fun c u => lower u == c, ?_, ?_, ?_⟩
  · rw [anyCase, hs, List.map_cons]
  · intro u
    rw [beq_iff_eq, lower_eq_iff (by decide)]
  · intro q hq
    obtain ⟨c, hc, rfl⟩ := List.mem_map.mp hq
    have hlower : lower ampersand = ampersand := rfl
    exact beq_false_of_ne fun heq => hbody (hlower ▸ heq ▸ hc)

theorem entity_nbsp : Entity (anyCase "&nbsp;") := entity_anyCase rfl (by decide)
theorem entity_amp : Entity (anyCase "&amp;") := entity_anyCase rfl (by decide)
theorem entity_lt : Entity (anyCase "&lt;") := entity_anyCase rfl (by decide)
theorem entity_gt : Entity (anyCase "&gt;") := entity_anyCase rfl (by decide)
theorem entity_quot : Entity (anyCase "&quot;") := entity_anyCase rfl (by decide)

theorem text_amp : EntityText (ofString "&amp;") := ⟨_, rfl, by decide⟩
theorem text_lt : EntityText (ofString "&lt;") := ⟨_, rfl, by decide⟩
theorem text_quot : EntityText (ofString "&quot;") := ⟨_, rfl, by decide⟩

/-- The tags' rewrites leave a text without `<` as it is. -/
theorem stripTags_eq_self {t : Text} (h : less ∉ t) : stripTags t = t := by
  have hless : ∀ u ∈ t, (u == less) = false := fun u hu => beq_false_of_ne fun heq => h (heq ▸ hu)
  have hlower : ∀ u ∈ t, (lower u == less) = false := by
    intro u hu
    refine beq_false_of_ne fun heq => h ?_
    rwa [← (lower_eq_iff (by decide) u).mp heq]
  have hbr : replaceAll brRe [newline] t = t :=
    replaceAll_eq_self (opens_word (fun u => lower u == less) _).seq (floating_of_floats rfl) hlower
  have hcloser : replaceAll closerRe [newline] t = t :=
    replaceAll_eq_self (opens_word (fun u => u == less) _).seq (floating_of_floats rfl) hless
  have htag : replaceAll tagRe [] t = t :=
    replaceAll_eq_self opens_one.seq (floating_of_floats rfl) hless
  rw [stripTags, hbr, hcloser, htag]

/-- **The rewrites of the entities on an escaped text**: those before `&lt;` meet only what
the escaping has put there, the others read what stood in the text. -/
theorem decodeEntities_escapeHtmlAttr (t : Text) : decodeEntities (escapeHtmlAttr t) =
    decode (anyCase "&quot;") quote (decode (anyCase "&gt;") greater
      (decode (anyCase "&lt;") less t)) := by
  have hnbsp : decode (anyCase "&nbsp;") space (escapeHtmlAttr t) = escapeHtmlAttr t := by
    rw [escapeHtmlAttr_eq, decode_escapeWith entity_nbsp text_lt (by decide)
      (eq_false_of_any (by decide)) (by decide), decode_escapeWith entity_nbsp text_quot
      (by decide) (eq_false_of_any (by decide)) (by decide),
      decode_not_ampersand entity_nbsp text_amp (by decide)]
  have hamp : decode (anyCase "&amp;") ampersand (escapeHtmlAttr t) =
      escapeWith less (ofString "&lt;") (escapeWith quote (ofString "&quot;") t) := by
    rw [escapeHtmlAttr_eq, decode_escapeWith entity_amp text_lt (by decide)
      (eq_false_of_any (by decide)) (by decide), decode_escapeWith entity_amp text_quot
      (by decide) (eq_false_of_any (by decide)) (by decide),
      decode_ampersand entity_amp (by decide)]
  rw [decodeEntities, hnbsp, hamp, decode_own entity_lt text_lt (by decide)
      (eq_false_of_any (by decide)),
    decode_escapeWith entity_lt text_quot (by decide) (eq_false_of_any (by decide)) (by decide),
    decode_escapeWith entity_gt text_quot (by decide) (eq_false_of_any (by decide)) (by decide),
    decode_own entity_quot text_quot (by decide) (eq_false_of_any (by decide))]

/-! ## White space -/

/-- A single line without white space at its ends, without tabs and without two spaces in
a row. -/
structure Neat (t : Text) : Prop where
  trimmed : trim t = t
  singleLine : newline ∉ t
  noTab : tab ∉ t
  noRun : t.IsChain fun u v => ¬ (u = space ∧ v = space)

theorem opens_blanksRe : Opens blanksRe fun u => u == space || u == tab := opens_one.seq

theorem floating_blanksRe : Floating blanksRe := floating_of_floats rfl

/-- Single spaces are replaced by single spaces. -/
theorem blanks_eq_self {t : Text} (htab : tab ∉ t)
    (hrun : t.IsChain fun u v => ¬ (u = space ∧ v = space)) :
    replaceAll blanksRe [space] t = t := by
  induction t with
  | nil => exact replaceAll_nil opens_blanksRe.consumes
  | cons u t ih =>
    have hkept := ih (fun hin => htab (List.mem_cons_of_mem u hin)) hrun.of_cons
    by_cases hu : u = space
    · subst hu
      have hnext : t.takeWhile (fun u => u == space || u == tab) = [] ∧
          t.dropWhile (fun u => u == space || u == tab) = t := by
        cases t with
        | nil => exact ⟨rfl, rfl⟩
        | cons v t =>
          have hspace : v ≠ space := fun hv => (List.isChain_cons_cons.mp hrun).1 ⟨rfl, hv⟩
          have hv : v ≠ tab := fun hv => htab (hv ▸ by simp)
          simp [hspace, hv]
      have hfirst : first blanksRe true (space :: t) = some ⟨[space], t, []⟩ := by
        rw [blanksRe, first_some (by decide), hnext.1, hnext.2]
      rw [replaceAll_match opens_blanksRe.consumes floating_blanksRe hfirst, hkept]
      rfl
    · have htabu : u ≠ tab := fun hv => htab (hv ▸ List.mem_cons_self)
      have hblank : ∀ x ∈ [u], (x == space || x == tab) = false := by simp [hu, htabu]
      have happend : replaceAll blanksRe [space] ([u] ++ t) =
          [u] ++ replaceAll blanksRe [space] t :=
        replaceAll_append opens_blanksRe floating_blanksRe hblank t
      rw [hkept] at happend
      exact happend

theorem tidy_eq {t : Text} (hline : newline ∉ t) :
    tidy t = trim (trim (replaceAll blanksRe [space] t)) := by
  have hblanks : newline ∉ replaceAll blanksRe [space] t := by
    intro hin
    rcases mem_replaceAll opens_blanksRe.consumes floating_blanksRe hin with h | h
    · exact absurd h (by decide)
    · exact hline h
  have htrim : ∀ u ∈ trim (replaceAll blanksRe [space] t), (u == newline) = false :=
    fun u hu => beq_false_of_ne fun heq => hblanks (heq ▸ mem_of_mem_trim hu)
  have hnewlines : replaceAll newlinesRe [newline, newline]
      (trim (replaceAll blanksRe [space] t)) = trim (replaceAll blanksRe [space] t) :=
    replaceAll_eq_self opens_one.seq (floating_of_floats rfl) htrim
  rw [tidy, List.splitOn_eq_singleton hblanks, List.map_singleton, List.intercalate_singleton,
    hnewlines]

theorem Neat.tidy (h : Neat t) : tidy t = t := by
  rw [tidy_eq h.singleLine, blanks_eq_self h.noTab h.noRun, h.trimmed, h.trimmed]

theorem length_tidy_le {t : Text} (hline : newline ∉ t) : (tidy t).length ≤ t.length := by
  have hblanks : (replaceAll blanksRe [space] t).length ≤ t.length := by
    refine length_replaceAll_le opens_blanksRe.consumes floating_blanksRe (fun t m hm => ?_) t
    obtain ⟨a, taken, htaken, -⟩ := opens_blanksRe true t m hm
    rw [htaken]
    exact Nat.succ_le_succ (Nat.zero_le _)
  have hinner := length_trim_le (replaceAll blanksRe [space] t)
  have houter := length_trim_le (trim (replaceAll blanksRe [space] t))
  rw [tidy_eq hline]
  omega

/-! ## The round trip -/

/-- The text mentions an entity that is decoded after the ampersand's. -/
def MentionsLater (t : Text) : Prop :=
  Mentions (anyCase "&lt;") t ∨ Mentions (anyCase "&gt;") t ∨ Mentions (anyCase "&quot;") t

/-- An escaped text has no `<`, and it is blank when the text is. -/
theorem less_not_mem_escapeHtmlAttr (t : Text) : less ∉ escapeHtmlAttr t := by
  rw [escapeHtmlAttr_eq]
  intro hin
  rcases mem_escapeWith hin with h | ⟨-, h⟩
  · exact absurd h (by decide)
  · exact h rfl

theorem spaces_escapeWith {v : UInt16} {e t : Text} (he : ∃ x ∈ e, isSpace x = false)
    (h : ∀ u ∈ escapeWith v e t, isSpace u) (u : UInt16) (hu : u ∈ t) : isSpace u := by
  by_cases huv : u = v
  · obtain ⟨x, hx, hspace⟩ := he
    have hin := h x (List.mem_flatMap.mpr ⟨u, hu, by rwa [if_pos huv]⟩)
    rw [hspace] at hin
    cases hin
  · exact h u (List.mem_flatMap.mpr ⟨u, hu, by rw [if_neg huv]; exact List.mem_singleton.mpr rfl⟩)

theorem trim_escapeHtmlAttr {t : Text} (h : trim (escapeHtmlAttr t) = []) : trim t = [] := by
  have hspaces := trim_eq_nil_iff.mp h
  rw [escapeHtmlAttr_eq] at hspaces
  have hmark : ∀ e' : Text, ∃ x ∈ ampersand :: e', isSpace x = false :=
    fun e' => ⟨ampersand, List.mem_cons_self, by decide⟩
  exact trim_eq_nil_iff.mpr (spaces_escapeWith (hmark _) (spaces_escapeWith (hmark _)
    (spaces_escapeWith (hmark _) hspaces)))

/-- Decoding the three entities shortens a text that mentions one of them. -/
theorem decode_later (t : Text) :
    (¬ MentionsLater t → decode (anyCase "&quot;") quote (decode (anyCase "&gt;") greater
        (decode (anyCase "&lt;") less t)) = t) ∧
      (MentionsLater t → (decode (anyCase "&quot;") quote (decode (anyCase "&gt;") greater
        (decode (anyCase "&lt;") less t))).length < t.length) := by
  have hlt := length_decode_le (c := less) entity_lt (by decide) t
  have hgt := length_decode_le (c := greater) entity_gt (by decide) (decode (anyCase "&lt;") less t)
  have hquot := length_decode_le (c := quote) entity_quot (by decide)
    (decode (anyCase "&gt;") greater (decode (anyCase "&lt;") less t))
  constructor
  · intro hnone
    obtain ⟨hnolt, hnogt, hnoquot⟩ := by simpa only [MentionsLater, not_or] using hnone
    rw [decode_eq_self entity_lt hnolt, decode_eq_self entity_gt hnogt,
      decode_eq_self entity_quot hnoquot]
  · intro hsome
    by_cases hmlt : Mentions (anyCase "&lt;") t
    · have hless := length_decode_lt (c := less) entity_lt (by decide) hmlt
      omega
    rw [decode_eq_self entity_lt hmlt] at hgt hquot ⊢
    by_cases hmgt : Mentions (anyCase "&gt;") t
    · have hless := length_decode_lt (c := greater) entity_gt (by decide) hmgt
      omega
    rw [decode_eq_self entity_gt hmgt]
    rcases hsome with hm | hm | hm
    · exact absurd hm hmlt
    · exact absurd hm hmgt
    · exact length_decode_lt entity_quot (by decide) hm

/-- **The plain text of an escaped text** is the text itself exactly if the text mentions no
entity that is decoded after the ampersand's. -/
theorem htmlToPlainText_escape_iff {t : Text} (h : Neat t) :
    htmlToPlainText (escapeHtmlAttr t) = t ↔ ¬ MentionsLater t := by
  obtain ⟨hkept, hshorter⟩ := decode_later t
  by_cases hempty : trim (escapeHtmlAttr t) = []
  · obtain rfl : t = [] := h.trimmed.symm.trans (trim_escapeHtmlAttr hempty)
    have hnone : ¬ MentionsLater [] := fun hmention => Nat.not_lt_zero _ (hshorter hmention)
    rw [htmlToPlainText, hempty]
    exact iff_of_true rfl hnone
  have hnonempty : (trim (escapeHtmlAttr t)).isEmpty = false := by
    simpa using hempty
  rw [htmlToPlainText, hnonempty, stripTags_eq_self (less_not_mem_escapeHtmlAttr t),
    decodeEntities_escapeHtmlAttr]
  simp only [Bool.false_eq_true, if_false]
  constructor
  · intro heq hmention
    have hline : newline ∉ decode (anyCase "&quot;") quote (decode (anyCase "&gt;") greater
        (decode (anyCase "&lt;") less t)) :=
      not_mem_decode entity_quot (by decide) (not_mem_decode entity_gt (by decide)
        (not_mem_decode entity_lt (by decide) h.singleLine))
    have htidy := length_tidy_le hline
    have hlt := hshorter hmention
    rw [heq] at htidy
    omega
  · intro hnone
    rw [hkept hnone, h.tidy]

theorem htmlToPlainText_escape_iff_amp : Neat (ofString "R&D") ∧
    (htmlToPlainText (escapeHtmlAttr (ofString "R&D")) = ofString "R&D" ↔
      ¬ MentionsLater (ofString "R&D")) := by
  have hneat : Neat (ofString "R&D") := ⟨by decide, by decide, by decide, by decide⟩
  exact ⟨hneat, htmlToPlainText_escape_iff hneat⟩

/-- The text `&lt;` comes back as `<`. -/
theorem htmlToPlainText_escape_lt : Neat (ofString "&lt;") ∧
    htmlToPlainText (escapeHtmlAttr (ofString "&lt;")) = ofString "<" ∧
      ofString "<" ≠ ofString "&lt;" :=
  ⟨⟨by decide, by decide, by decide, by decide⟩, by decide, by decide⟩

end Testkit.MailText
