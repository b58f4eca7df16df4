import Mathlib.Algebra.GroupWithZero.Nat
import Testkit.LabelledRuns

/-! # The inline attachments of the composer

`handleFileChange` of the SendEmail page checks the picked files one after another and
awaits the reading of each that passes.  It checks against the list of the render its
closure belongs to, and adds to the list of the moment; in between other files of the same
pick, other picks and removals may have come.

The list the checks see and the list they guard are two lists: each attachment is small in
every run (`rows_small`), and their sum stays within the limit while the first is no
lighter than the second (`inline_limits`).
-/
namespace Testkit.SendEmail
open LabelledRuns

/-! ## The page -/

/-- `MAX_INLINE_BYTES`. -/
def maxInlineBytes : Nat := 2 * 1024 * 1024

/-- `MAX_TOTAL_INLINE_BYTES`. -/
def maxTotalInlineBytes : Nat := 5 * 1024 * 1024

/-- A picked file. -/
structure LocalFile where
  name : String
  mimeType : String
  size : Nat
  deriving DecidableEq, Repr

/-- `FileAttachment`. -/
structure FileAttachment where
  key : Nat
  filename : String
  mimeType : String
  sizeBytes : Nat
  /-- Base64. -/
  content : String
  deriving DecidableEq, Repr

/-- The sum of the sizes. -/
def inlineTotal (rows : List FileAttachment) : Nat := (rows.map FileAttachment.sizeBytes).sum

/-- A handler at its `await`: the list of its closure, the file that is read and the files
still to come. -/
structure Reading where
  captured : List FileAttachment
  file : LocalFile
  rest : List LocalFile
  deriving DecidableEq, Repr

/-- The loop of `handleFileChange` up to its next `await`. -/
def handleFileChange (captured : List FileAttachment) : List LocalFile → Option Reading
  | [] => none
  | file :: rest =>
    if file.size > maxInlineBytes then handleFileChange captured rest
    else if inlineTotal captured + file.size > maxTotalInlineBytes then
      handleFileChange captured rest
    else some ⟨captured, file, rest⟩

/-- The state of the page: the attachments, those of the last render, the handlers that are
reading, and the next key. -/
structure Composer where
  rows : List FileAttachment
  rendered : List FileAttachment
  readings : List Reading
  nextKey : Nat
  deriving DecidableEq, Repr

/-- The page when it opens. -/
def opened : Composer := ⟨[], [], [], 0⟩

/-- The attachment of a file that was read. -/
def attachment (c : Composer) (file : LocalFile) (content : String) : FileAttachment :=
  ⟨c.nextKey, file.name, file.mimeType, file.size, content⟩

/-- `setFileAttachments` with the attachment at the end. -/
def Composer.attach (c : Composer) (file : LocalFile) (content : String) : Composer :=
  { c with rows := c.rows ++ [attachment c file content], nextKey := c.nextKey + 1 }

/-- A handler runs on to its next `await`, if it has one. -/
def Composer.goOn (c : Composer) (captured : List FileAttachment) (files : List LocalFile) :
    Composer :=
  { c with readings := (handleFileChange captured files).toList ++ c.readings }

/-- What happens to the page. -/
inductive Event
  | render
  | pick (files : List LocalFile)
  /-- The file of a handler is read, or cannot be. -/
  | read (reading : Reading) (content : Option String)
  /-- The tag of an attachment is closed. -/
  | remove (key : Nat)
  /-- A large attachment takes a key. -/
  | upload
  deriving DecidableEq, Repr

/-- A step of the page. -/
inductive Step : Composer → Event → Composer → Prop
  | render {c : Composer} : Step c .render { c with rendered := c.rows }
  | pick {c : Composer} (files : List LocalFile) : Step c (.pick files) (c.goOn c.rendered files)
  | readOk {c : Composer} (before after : List Reading) {r : Reading} (content : String) :
      c.readings = before ++ r :: after →
      Step c (.read r (some content))
        (({ c with readings := before ++ after }.attach r.file content).goOn r.captured r.rest)
  | readFailed {c : Composer} {before after : List Reading} {r : Reading} :
      c.readings = before ++ r :: after →
      Step c (.read r none) ({ c with readings := before ++ after }.goOn r.captured r.rest)
  | remove {c : Composer} {att : FileAttachment} : att ∈ c.rendered →
      Step c (.remove att.key)
        { c with rows := c.rows.filter fun row => decide (row.key ≠ att.key) }
  | upload {c : Composer} : Step c .upload { c with nextKey := c.nextKey + 1 }

/-! ## What the checks are worth -/

theorem inlineTotal_append (rows : List FileAttachment) (row : FileAttachment) :
    inlineTotal (rows ++ [row]) = inlineTotal rows + row.sizeBytes := by
  simp [inlineTotal]

/-- Removals make the list lighter. -/
theorem inlineTotal_filter (rows : List FileAttachment) (p : FileAttachment → Bool) :
    inlineTotal (rows.filter p) ≤ inlineTotal rows := by
  induction rows with
  | nil => exact Nat.le_refl _
  | cons row rows ih =>
    by_cases hrow : p row
    · simp only [List.filter_cons_of_pos hrow, inlineTotal, List.map_cons, List.sum_cons] at ih ⊢
      omega
    · simp only [List.filter_cons_of_neg hrow, inlineTotal, List.map_cons, List.sum_cons] at ih ⊢
      omega

/-- What the loop found out about the file it reads. -/
def Reading.Checked (r : Reading) : Prop :=
  r.file.size ≤ maxInlineBytes ∧ inlineTotal r.captured + r.file.size ≤ maxTotalInlineBytes

/-- The loop reads only what it has checked, against the list it was given. -/
theorem handleFileChange_checked {captured : List FileAttachment} {files : List LocalFile}
    {r : Reading} (h : handleFileChange captured files = some r) : r.Checked := by
  induction files with
  | nil => cases h
  | cons file rest ih =>
    rw [handleFileChange] at h
    split at h
    · exact ih h
    · split at h
      · exact ih h
      · obtain rfl := Option.some.inj h
        constructor
        · show file.size ≤ maxInlineBytes
          omega
        · show inlineTotal captured + file.size ≤ maxTotalInlineBytes
          omega

/-! ## Every attachment is small -/

/-- What holds in every run. -/
structure Checked (c : Composer) : Prop where
  small : ∀ row ∈ c.rows, row.sizeBytes ≤ maxInlineBytes
  readings : ∀ r ∈ c.readings, r.Checked

theorem checked_goOn {c : Composer} (h : Checked c) (captured : List FileAttachment)
    (files : List LocalFile) : Checked (c.goOn captured files) where
  small := h.small
  readings := by
    intro r hr
    rcases List.mem_append.mp hr with hr | hr
    · exact handleFileChange_checked (Option.mem_toList.mp hr)
    · exact h.readings r hr

theorem checked_attach {c : Composer} (h : Checked c) {file : LocalFile}
    (hsize : file.size ≤ maxInlineBytes) (content : String) : Checked (c.attach file content) where
  small := by
    intro row hrow
    rcases List.mem_append.mp hrow with hrow | hrow
    · exact h.small row hrow
    · obtain rfl := List.mem_singleton.mp hrow
      exact hsize
  readings := h.readings

theorem checked_drop {c : Composer} (h : Checked c) {readings : List Reading}
    (hsub : ∀ r ∈ readings, r ∈ c.readings) : Checked { c with readings } :=
  ⟨h.small, fun r hr => h.readings r (hsub r hr)⟩

/-- The handler that goes on leaves the others waiting. -/
theorem mem_readings {c : Composer} {before after : List Reading} {r s : Reading}
    (hr : c.readings = before ++ r :: after) (hs : s ∈ before ++ after) : s ∈ c.readings := by
  rw [hr]
  exact ((List.sublist_cons_self r after).append_left before).subset hs

theorem checked_step {c c' : Composer} {l : Event} (h : Checked c) (hs : Step c l c') :
    Checked c' := by
  cases hs with
  | render => exact ⟨h.small, h.readings⟩
  | pick files => exact checked_goOn h _ _
  | @readOk before after r content hr =>
    have hfile : r.Checked := h.readings r (hr ▸ List.mem_append_right _ List.mem_cons_self)
    have hrest := checked_drop h fun s hs => mem_readings hr hs
    exact checked_goOn (checked_attach hrest hfile.1 content) _ _
  | readFailed hr => exact checked_goOn (checked_drop h fun s hs => mem_readings hr hs) _ _
  | remove hatt => exact ⟨fun row hrow => h.small row (List.mem_filter.mp hrow).1, h.readings⟩
  | upload => exact ⟨h.small, h.readings⟩

theorem checked_opened : Checked opened := ⟨by simp [opened], by simp [opened]⟩

/-- **Every inline attachment is small**, in every run. -/
theorem rows_small {h : List (Composer × Event)} {c : Composer} (hr : Run Step opened h c) :
    ∀ row ∈ c.rows, row.sizeBytes ≤ maxInlineBytes := by
  have hchecked : Checked c := hr.invariant checked_opened fun _ _ _ hc hs => checked_step hc hs
  exact hchecked.small

/-! ## The sum of the sizes -/

/-- **The guarantee**: each attachment within its limit, and all of them together. -/
structure WithinLimits (rows : List FileAttachment) : Prop where
  each : ∀ row ∈ rows, row.sizeBytes ≤ maxInlineBytes
  total : inlineTotal rows ≤ maxTotalInlineBytes

/-- **The condition on a step**: where a file is added, the list it was checked against is
no lighter than the list it is added to. -/
def Covered (c : Composer) : Event → Prop
  | .read r (some _) => inlineTotal c.rows ≤ inlineTotal r.captured
  | _ => True

/-- **The step lemma.** -/
theorem total_step {c c' : Composer} {l : Event} (h : Checked c)
    (htotal : inlineTotal c.rows ≤ maxTotalInlineBytes) (hs : Guarded Step Covered c l c') :
    inlineTotal c'.rows ≤ maxTotalInlineBytes := by
  obtain ⟨hcovered, hs⟩ := hs
  cases hs with
  | render => exact htotal
  | pick files => exact htotal
  | @readOk before after r content hr =>
    have hfile : r.Checked := h.readings r (hr ▸ List.mem_append_right _ List.mem_cons_self)
    have hlighter : inlineTotal c.rows ≤ inlineTotal r.captured := hcovered
    calc inlineTotal (c.rows ++ [attachment c r.file content])
        = inlineTotal c.rows + r.file.size := inlineTotal_append _ _
      _ ≤ inlineTotal r.captured + r.file.size := by omega
      _ ≤ maxTotalInlineBytes := hfile.2
  | readFailed hr => exact htotal
  | remove hatt => exact Nat.le_trans (inlineTotal_filter _ _) htotal
  | upload => exact htotal

/-- **The inline limits**, in every run in which no file is added to a list heavier than
the one it was checked against. -/
theorem inline_limits {h : List (Composer × Event)} {c : Composer}
    (hr : Run (Guarded Step Covered) opened h c) : WithinLimits c.rows := by
  have hsmall := rows_small hr.of_guarded
  have hboth : Checked c ∧ inlineTotal c.rows ≤ maxTotalInlineBytes :=
    hr.invariant (P := fun c => Checked c ∧ inlineTotal c.rows ≤ maxTotalInlineBytes)
      ⟨checked_opened, by decide⟩
      fun _ _ _ hc hs => ⟨checked_step hc.1 hs.2, total_step hc.1 hc.2 hs⟩
  exact ⟨hsmall, hboth.2⟩

/-- Two files are picked, of which one cannot be read.  Of the next three, in two picks that
overlap, none is checked against the others; the tag that is closed makes room for them. -/
theorem inline_limits_note : ∃ c : Composer,
    c.rows.map FileAttachment.filename = ["c", "d", "e"] ∧ WithinLimits c.rows := by
  let heavy : FileAttachment := ⟨0, "b", "", 2, "b64b"⟩
  refine ⟨_, ?rows, inline_limits (((((((((Run.start.next
    ⟨?ab, .pick [⟨"a", "", 1⟩, ⟨"b", "", 2⟩]⟩).next
    ⟨?a, @Step.readFailed _ [] [] _ rfl⟩).next
    ⟨?b, .readOk [] [] "b64b" rfl⟩).next
    ⟨?shown, .render⟩).next
    ⟨?cd, .pick [⟨"c", "", 1⟩, ⟨"d", "", 1⟩]⟩).next
    ⟨?e, .pick [⟨"e", "", 1⟩]⟩).next
    ⟨?c, .readOk [⟨[heavy], ⟨"e", "", 1⟩, []⟩] [] "b64c" rfl⟩).next
    ⟨?closed, @Step.remove _ heavy List.mem_cons_self⟩).next
    ⟨?d, .readOk [] [⟨[heavy], ⟨"e", "", 1⟩, []⟩] "b64d" rfl⟩ |>.next
    ⟨?last, .readOk [] [] "b64e" rfl⟩)⟩
  case rows => rfl
  case ab | a | shown | cd | e | closed => trivial
  case b => exact Nat.le_refl 0
  case c => exact Nat.le_refl 2
  case d => exact Nat.le_succ 1
  case last => exact Nat.le_refl 2

/-! ## The files of one pick -/

/-- A handler whose files all pass by themselves adds them all: the checks see none of the
files before them. -/
theorem goOn_adds_all {captured : List FileAttachment} {files : List LocalFile}
    (hfit : ∀ f ∈ files, f.size ≤ maxInlineBytes ∧
      inlineTotal captured + f.size ≤ maxTotalInlineBytes)
    {s c : Composer} {h : List (Composer × Event)} (hr : Run Step s h (c.goOn captured files)) :
    ∃ h' c', Run Step s h' c' ∧
      inlineTotal c'.rows = inlineTotal c.rows + (files.map LocalFile.size).sum := by
  induction files generalizing c h with
  | nil => exact ⟨h, _, hr, rfl⟩
  | cons file rest ih =>
    obtain ⟨hsize, htotal⟩ := hfit file List.mem_cons_self
    have hreads : handleFileChange captured (file :: rest) = some ⟨captured, file, rest⟩ := by
      rw [handleFileChange, if_neg (by omega), if_neg (by omega)]
    have hnext : Step (c.goOn captured (file :: rest)) (.read ⟨captured, file, rest⟩ (some ""))
        ((c.attach file "").goOn captured rest) := by
      refine .readOk [] c.readings "" ?_
      rw [Composer.goOn, hreads]
      rfl
    obtain ⟨h', c', hr', hsum⟩ := ih (fun f hf => hfit f (List.mem_cons_of_mem _ hf))
      (hr.next hnext)
    refine ⟨h', c', hr', ?_⟩
    have hadded : inlineTotal (c.attach file "").rows = inlineTotal c.rows + file.size :=
      inlineTotal_append _ _
    rw [hsum, hadded, List.map_cons, List.sum_cons]
    omega

/-- **The condition is not idle.**  One pick on the opened page can add any files, so long
as each is small. -/
theorem pick_adds_all {files : List LocalFile} (hsmall : ∀ f ∈ files, f.size ≤ maxInlineBytes) :
    ∃ h c, Run Step opened h c ∧ inlineTotal c.rows = (files.map LocalFile.size).sum := by
  have hfit : ∀ f ∈ files, f.size ≤ maxInlineBytes ∧
      inlineTotal opened.rendered + f.size ≤ maxTotalInlineBytes := by
    intro f hf
    have hf := hsmall f hf
    have hlimits : maxInlineBytes ≤ maxTotalInlineBytes := by decide
    have hempty : inlineTotal opened.rendered = 0 := rfl
    omega
  obtain ⟨h, c, hr, hsum⟩ := goOn_adds_all hfit (Run.start.next (.pick files))
  refine ⟨h, c, hr, ?_⟩
  rw [hsum]
  exact Nat.zero_add _

/-- Three files of two MiB each, in one pick. -/
theorem inline_limits_exceeded :
    ¬ ∀ (h : List (Composer × Event)) (c : Composer), Run Step opened h c →
      WithinLimits c.rows := by
  intro hall
  have hsmall : ∀ f ∈ List.replicate 3 (⟨"scan", "image/png", 2097152⟩ : LocalFile),
      f.size ≤ maxInlineBytes := by decide
  obtain ⟨h, c, hr, hsum⟩ := pick_adds_all hsmall
  have htotal := (hall h c hr).total
  rw [hsum] at htotal
  exact absurd htotal (by decide)

end Testkit.SendEmail
