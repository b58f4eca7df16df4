import Testkit.InsertionOrder
import Testkit.MailText
import Testkit.RegionGroups
import Testkit.RichEditor
import Testkit.SendEmail

/-! # The large attachments of the composer

`handleLargeFileChange` of the SendEmail page takes the picked files one after another: it
asks the storage for a place, puts the bytes there unless the storage has them already,
confirms, asks for a link, and only then adds the attachment and appends its download block
to the body.  A file that fails is reported and the next one is taken.

The page of this module is the whole composer: the inline attachments of `Testkit.SendEmail`,
which share the counter of the keys, the body editor of `Testkit.RichEditor`, and the
handlers of the large files, each of them at one of its awaits.
-/
namespace Testkit.SendEmail
open LabelledRuns Utf16 MailText InsertionOrder
open RichEditor (Browser Editor)

/-! ## The data -/

/-- `LargeAttachment`. -/
structure LargeAttachment where
  key : Nat
  filename : String
  url : String
  sizeBytes : Nat
  /-- Whole days until the link expires, if known. -/
  expiresDays : Option Int
  deriving DecidableEq, Repr

/-- What `generateUploadUrl` answers. -/
structure UploadUrl where
  fileId : Option String
  instant : Bool
  uploadUrl : Option String
  /-- Values of another type than a text are `none`. -/
  headers : List (String × Option String)
  uploadToken : Option String
  deriving DecidableEq, Repr

/-- What `createFileLink` answers. -/
structure FileLink where
  linkToken : Option String
  /-- The number the text stands for. -/
  retainUntil : Option Int
  deriving DecidableEq, Repr

/-- `(n / d).toFixed(1)`: the nearest tenth, the larger of two. -/
def toFixed1 (n d : Nat) : String :=
  let tenths := (2 * 10 * n + d) / (2 * d)
  toString (tenths / 10) ++ "." ++ toString (tenths % 10)

/-- `formatBytes`. -/
def formatBytes (size : Nat) : String :=
  if size < 1024 then toString size ++ " B"
  else if size < 1024 * 1024 then toFixed1 size 1024 ++ " KB"
  else toFixed1 size (1024 * 1024) ++ " MB"

example : formatBytes 1023 = "1023 B" ∧ formatBytes 1536 = "1.5 KB" := by decide

/-- `largeAttachmentBlockHtml`. -/
def largeAttachmentBlockHtml (att : LargeAttachment) : Text :=
  let validity :=
    match att.expiresDays with
    | none | some 0 => ""
    | some days => "，" ++ toString days ++ " 天内有效"
  ofString "<div style=\"margin-top:20px;padding-top:14px;border-top:1px dashed #d9d9d9;\">\n" ++
  ofString "  <p style=\"margin:0 0 10px;font-size:12px;color:#8c8c8c;\">超大附件（点击下载" ++
  ofString validity ++ ofString "）：</p>\n" ++
  ofString "  <p style=\"margin:0;\">\n" ++
  ofString "    <a href=\"" ++ escapeHtmlAttr (ofString att.url) ++
  ofString "\" target=\"_blank\" style=\"display:inline-block;padding:8px 16px;" ++
  ofString "border:1px solid #1677ff;border-radius:4px;color:#1677ff;font-size:14px;" ++
  ofString "text-decoration:none;\">\n" ++
  ofString "      " ++ escapeHtmlAttr (ofString att.filename) ++
  ofString "（" ++ ofString (formatBytes att.sizeBytes) ++ ofString "）\n" ++
  ofString "    </a>\n  </p>\n</div>"

/-! ## One file -/

/-- `file.type || "application/octet-stream"`. -/
def LocalFile.contentType (file : LocalFile) : String :=
  if file.mimeType = "" then "application/octet-stream" else file.mimeType

/-- `putHeaders`: the headers of the answer over the content type. -/
def putHeaders (file : LocalFile) (up : UploadUrl) : OrderedMap String String :=
  up.headers.foldl
    (fun headers kv =>
      match kv.2 with
      | some value => headers.set kv.1 value
      | none => headers)
    (OrderedMap.empty.set "Content-Type" file.contentType)

/-- What the handler awaits. -/
inductive Request
  | fileMd5 (file : LocalFile)
  | generateUploadUrl (filename size md5 contentType : String)
  | put (url : String) (headers : OrderedMap String String) (body : LocalFile)
  | confirmUpload (uploadToken : String)
  | createFileLink (fileId : String) (retentionTtlSeconds : Nat)

/-- How it is answered: with a value of its own kind, or by a rejection. -/
inductive Answer
  | md5 (digest : String)
  | uploadUrl (up : UploadUrl)
  | stored (ok : Bool) (status : Nat)
  | confirmed (fileId : Option String)
  | link (link : FileLink)
  | rejected (reason : String)
  deriving DecidableEq, Repr

/-- An await that was answered, and when. -/
structure Reply where
  request : Request
  answer : Answer
  now : Int

/-- The await a handler is at, with what it has learned so far. -/
inductive Stage
  | hashing
  | generating (md5 : String)
  | putting (up : UploadUrl) (url : String)
  | confirming (up : UploadUrl)
  | linking (fileId : String)
  deriving DecidableEq, Repr

/-- The call that is awaited. -/
def Stage.request (file : LocalFile) : Stage → Request
  | .hashing => .fileMd5 file
  | .generating md5 => .generateUploadUrl file.name (toString file.size) md5 file.contentType
  | .putting up url => .put url (putHeaders file up) file
  | .confirming up => .confirmUpload (up.uploadToken.getD "")
  | .linking fileId => .createFileLink fileId (30 * 24 * 3600)

/-- Where an answer takes the handler: to its next await, to a link, or to the `catch`. -/
inductive Outcome
  | await (stage : Stage)
  | linked (token : String) (retainUntil : Option Int)
  | failed (reason : String)
  deriving DecidableEq, Repr

/-- The code between two awaits; an answer of another kind does not come. -/
def Stage.onAnswer : Stage → Answer → Option Outcome
  | _, .rejected reason => some (.failed reason)
  | .hashing, .md5 digest => some (.await (.generating digest))
  | .generating _, .uploadUrl up =>
    if up.instant then some (.await (.linking (up.fileId.getD "")))
    else
      match truthy up.uploadUrl with
      | none => some (.failed "未获得上传链接")
      | some url => some (.await (.putting up url))
  | .putting up _, .stored ok status =>
    if ok then some (.await (.confirming up))
    else some (.failed ("对象存储上传失败（HTTP " ++ toString status ++ "）"))
  | .confirming up, .confirmed fileId =>
    some (.await (.linking ((fileId <|> up.fileId).getD "")))
  | .linking _, .link link =>
    match truthy link.linkToken with
    | none => some (.failed "未获得附件链接令牌")
    | some token => some (.linked token link.retainUntil)
  | _, _ => none

/-- `expiresDays`. -/
def expiresDays (retainUntil : Option Int) (now : Int) : Option Int :=
  (retainUntil.filter (0 < ·)).map fun t => max 1 ((t - now) / 86400000)

/-! ## The page -/

/-- A handler of a large pick: the file it is at, its await, and the files still to come. -/
structure Upload where
  file : LocalFile
  stage : Stage
  rest : List LocalFile
  deriving DecidableEq, Repr

variable {Dom : Type}

/-- The state of the page. -/
structure Page (Dom : Type) where
  inline : Composer
  largeAttachments : List LargeAttachment
  uploadingLarge : Bool
  uploads : List Upload
  editor : Editor Dom
  /-- What `message` has shown of the large files. -/
  messages : List String

/-- What happens to the page. -/
inductive PageEvent (Dom : Type)
  /-- The inline attachments, and the renders of the page. -/
  | inline (l : Event)
  /-- The body, except for the blocks of the attachments. -/
  | body (l : RichEditor.Event Dom)
  | pickLarge (files : List LocalFile)
  /-- A handler is answered, at a time. -/
  | answer (u : Upload) (a : Answer) (now : Int)
  /-- The tag of a large attachment is closed. -/
  | removeLarge (key : Nat)

section Handlers
variable (b : Browser Dom) (origin : String)

/-- The page when it opens. -/
def pageOpened : Page Dom := ⟨opened, [], false, [], RichEditor.mounted b, []⟩

/-- The head of the loop: the next file is taken, if there is one. -/
def takeNext : List LocalFile → List Upload
  | [] => []
  | file :: rest => [⟨file, .hashing, rest⟩]

/-- A new handler starts. -/
def Page.handleLargeFileChange (p : Page Dom) (files : List LocalFile) : Page Dom :=
  { p with
    uploadingLarge := p.uploadingLarge || !files.isEmpty
    uploads := takeNext files ++ p.uploads }

/-- The attachment of a file that has a link. -/
def largeAttachment (p : Page Dom) (file : LocalFile) (token : String)
    (retainUntil : Option Int) (now : Int) : LargeAttachment :=
  ⟨p.inline.nextKey, file.name, origin ++ "/link/" ++ token, file.size,
    expiresDays retainUntil now⟩

/-- What the handler does with a link: the row, the block and the message. -/
def Page.attachLarge (p : Page Dom) (att : LargeAttachment) : Page Dom :=
  { p with
    inline := { p.inline with nextKey := p.inline.nextKey + 1 }
    largeAttachments := p.largeAttachments ++ [att]
    editor := p.editor.appendHtml b (largeAttachmentBlockHtml att)
    messages := p.messages ++ ["「" ++ att.filename ++ "」上传成功，下载区块已插入正文"] }

/-- `catch`. -/
def Page.reportLarge (p : Page Dom) (file : LocalFile) (reason : String) : Page Dom :=
  { p with messages := p.messages ++ ["「" ++ file.name ++ "」超大附件上传失败：" ++ reason] }

/-- `finally`, and the head of the loop again. -/
def Page.goOnLarge (p : Page Dom) (before after : List Upload) (rest : List LocalFile) :
    Page Dom :=
  { p with
    uploadingLarge := !rest.isEmpty
    uploads := before ++ takeNext rest ++ after }

/-- A handler goes on with an outcome. -/
def Page.settle (p : Page Dom) (before after : List Upload) (u : Upload) (now : Int) :
    Outcome → Page Dom
  | .await stage => { p with uploads := before ++ ⟨u.file, stage, u.rest⟩ :: after }
  | .linked token retainUntil =>
    (p.attachLarge b (largeAttachment origin p u.file token retainUntil now)).goOnLarge
      before after u.rest
  | .failed reason => (p.reportLarge u.file reason).goOnLarge before after u.rest

/-- A step of the page. -/
inductive PageStep : Page Dom → PageEvent Dom → Page Dom → Prop
  | inline {p : Page Dom} {l : Event} {c : Composer} : l ≠ .upload → Step p.inline l c →
      PageStep p (.inline l) { p with inline := c }
  | body {p : Page Dom} {l : RichEditor.Event Dom} {e : Editor Dom} :
      (∀ html, l ≠ .appendHtml html) → RichEditor.Step b p.editor l e →
      PageStep p (.body l) { p with editor := e }
  | pickLarge {p : Page Dom} (files : List LocalFile) :
      PageStep p (.pickLarge files) (p.handleLargeFileChange files)
  | answer {p : Page Dom} (before after : List Upload) {u : Upload} {a : Answer} {o : Outcome}
      (now : Int) : p.uploads = before ++ u :: after → u.stage.onAnswer a = some o →
      PageStep p (.answer u a now) (p.settle b origin before after u now o)
  | removeLarge {p : Page Dom} {att : LargeAttachment} : att ∈ p.largeAttachments →
      PageStep p (.removeLarge att.key)
        { p with
          largeAttachments := p.largeAttachments.filter fun row => decide (row.key ≠ att.key)
          messages := p.messages ++ ["已移除附件记录，正文中的下载区块请手动删除"] }

end Handlers

variable {b : Browser Dom} {origin : String} {p p' : Page Dom} {l : PageEvent Dom}

/-- The button that opens the dialog takes no clicks while it shows `uploadingLarge`. -/
def PickedIdle (p : Page Dom) : PageEvent Dom → Prop
  | .pickLarge _ => p.uploadingLarge = false
  | _ => True

/-- The user leaves the body alone, and a block that is appended finds the text of the
moment. -/
def Undisturbed (p : Page Dom) : PageEvent Dom → Prop
  | .body .render => True
  | .body _ => False
  | .answer _ _ _ => p.editor.shownSource = p.editor.sourceValue
  | _ => True

/-! ## A run with attachments -/

/-- A browser whose elements are their texts. -/
def plain : Browser Text := ⟨id, id, (· ++ ·)⟩

/-- A file that goes inline. -/
def note : LocalFile := ⟨"note.txt", "text/plain", 1⟩

/-- Three large files. -/
def scan : LocalFile := ⟨"scan.pdf", "application/pdf", 1⟩
def torn : LocalFile := ⟨"torn.zip", "", 2⟩
def film : LocalFile := ⟨"film.mp4", "video/mp4", 3⟩

/-- The storage has the bytes of the first already, and waits for those of the third. -/
def known : UploadUrl := ⟨some "7", true, none, [], none⟩
def place : UploadUrl := ⟨none, false, some "https://store/put", [], some "up"⟩

/-- What the page shows of the two files that are linked. -/
def scanRow : LargeAttachment := ⟨1, "scan.pdf", "https://console/link/t0k", 1, none⟩
def filmRow : LargeAttachment := ⟨2, "film.mp4", "https://console/link/t1k", 3, some 2⟩

/-- One file goes inline.  Of three large ones the second cannot be read. -/
theorem scan_linked : ∃ h p, (p.inline.rows = [⟨0, "note.txt", "text/plain", 1, "Lg=="⟩] ∧
      p.largeAttachments = [scanRow, filmRow]) ∧
    Run (Guarded (PageStep plain "https://console") fun p l => PickedIdle p l ∧ Undisturbed p l)
      (pageOpened plain) h p := by
  refine ⟨_, _, ?rows, ((((((((((((Run.start.next
    ⟨?pickNote, .inline (by simp) (.pick [note])⟩).next
    ⟨?readNote, .inline (by simp) (.readOk [] [] "Lg==" rfl)⟩).next
    ⟨?pick, .pickLarge [scan, torn, film]⟩).next
    ⟨?hashScan, .answer [] [] (u := ⟨scan, .hashing, [torn, film]⟩) (a := .md5 "d41d8") 0
      rfl rfl⟩).next
    ⟨?known, .answer [] [] (u := ⟨scan, .generating "d41d8", [torn, film]⟩)
      (a := .uploadUrl known) 0 rfl rfl⟩).next
    ⟨?linkScan, .answer [] [] (u := ⟨scan, .linking "7", [torn, film]⟩)
      (a := .link ⟨some "t0k", none⟩) 0 rfl rfl⟩).next
    ⟨?torn, .answer [] [] (u := ⟨torn, .hashing, [film]⟩) (a := .rejected "未知错误") 0
      rfl rfl⟩).next
    ⟨?hashFilm, .answer [] [] (u := ⟨film, .hashing, []⟩) (a := .md5 "0cc17") 0 rfl rfl⟩).next
    ⟨?place, .answer [] [] (u := ⟨film, .generating "0cc17", []⟩) (a := .uploadUrl place) 0
      rfl rfl⟩).next
    ⟨?put, .answer [] [] (u := ⟨film, .putting place "https://store/put", []⟩)
      (a := .stored true 200) 0 rfl rfl⟩).next
    ⟨?confirm, .answer [] [] (u := ⟨film, .confirming place, []⟩) (a := .confirmed (some "8")) 0
      rfl rfl⟩).next
    ⟨?linkFilm, .answer [] [] (u := ⟨film, .linking "8", []⟩)
      (a := .link ⟨some "t1k", some 259200000⟩) 86400000 rfl rfl⟩)⟩
  case rows => exact ⟨rfl, by decide⟩
  case pickNote | readNote => exact ⟨trivial, trivial⟩
  case pick => exact ⟨rfl, trivial⟩
  all_goals exact ⟨trivial, rfl⟩

/-! ## The parts of the page -/

/-- The inline attachments of the page are the composer of `Testkit.SendEmail`. -/
theorem inline_step (hs : PageStep b origin p l p') :
    p'.inline = p.inline ∨ ∃ l', Step p.inline l' p'.inline := by
  cases hs with
  | inline _ hc => exact .inr ⟨_, hc⟩
  | body _ _ => exact .inl rfl
  | pickLarge files => exact .inl rfl
  | @answer before after u a o now _ _ =>
    cases o with
    | await stage => exact .inl rfl
    | linked token retainUntil => exact .inr ⟨.upload, .upload⟩
    | failed reason => exact .inl rfl
  | removeLarge _ => exact .inl rfl

/-- The body of the page is the editor of `Testkit.RichEditor`. -/
theorem body_step (hs : PageStep b origin p l p') :
    p'.editor = p.editor ∨ ∃ l', RichEditor.Step b p.editor l' p'.editor := by
  cases hs with
  | inline _ _ => exact .inl rfl
  | body _ he => exact .inr ⟨_, he⟩
  | pickLarge files => exact .inl rfl
  | @answer before after u a o now _ _ =>
    cases o with
    | await stage => exact .inl rfl
    | linked token retainUntil => exact .inr ⟨_, .appendHtml _⟩
    | failed reason => exact .inl rfl
  | removeLarge _ => exact .inl rfl

/-! ## The keys of the attachments -/

/-- The keys of all attachments. -/
def Page.keys (p : Page Dom) : List Nat :=
  p.inline.rows.map FileAttachment.key ++ p.largeAttachments.map LargeAttachment.key

/-- The keys are distinct, and the counter is past them. -/
structure Keyed (p : Page Dom) : Prop where
  distinct : p.keys.Nodup
  below : ∀ k ∈ p.keys, k < p.inline.nextKey

/-- Rows go. -/
theorem keyed_of_sublist (h : Keyed p) (hsub : p'.keys.Sublist p.keys)
    (hnext : p'.inline.nextKey = p.inline.nextKey) : Keyed p' where
  distinct := hsub.nodup h.distinct
  below k hk := hnext ▸ h.below k (hsub.subset hk)

/-- A row comes, with the key of the counter. -/
theorem keyed_of_perm (h : Keyed p) (hperm : p'.keys.Perm (p.inline.nextKey :: p.keys))
    (hnext : p'.inline.nextKey = p.inline.nextKey + 1) : Keyed p' where
  distinct := by
    -- the counter is past every key, so the row's own is new
    have hfresh : p.inline.nextKey ∉ p.keys := fun hk => Nat.lt_irrefl _ (h.below _ hk)
    exact hperm.nodup_iff.mpr (List.nodup_cons.mpr ⟨hfresh, h.distinct⟩)
  below := by
    intro k hk
    rw [hnext]
    rcases List.mem_cons.mp (hperm.subset hk) with rfl | hk
    · omega
    · have := h.below k hk
      omega

/-- The rows of the page with other inline attachments. -/
theorem keyed_inline {c : Composer} {e : Event} (h : Keyed p) (hne : e ≠ .upload)
    (hs : Step p.inline e c) : Keyed { p with inline := c } := by
  cases hs with
  | render => exact keyed_of_sublist h (List.Sublist.refl _) rfl
  | pick files => exact keyed_of_sublist h (List.Sublist.refl _) rfl
  | @readOk before after r content hr =>
    refine keyed_of_perm h ?_ rfl
    show ((p.inline.rows ++ [_]).map FileAttachment.key ++ _).Perm _
    rw [List.map_append, List.append_assoc]
    exact List.perm_middle
  | readFailed hr => exact keyed_of_sublist h (List.Sublist.refl _) rfl
  | remove hatt =>
    exact keyed_of_sublist h ((List.filter_sublist.map FileAttachment.key).append_right _) rfl
  | upload => exact absurd rfl hne

/-- A large attachment comes. -/
theorem keyed_attachLarge (h : Keyed p) {att : LargeAttachment}
    (hkey : att.key = p.inline.nextKey) : Keyed (p.attachLarge b att) := by
  refine keyed_of_perm h ?_ rfl
  show (_ ++ (p.largeAttachments ++ [att]).map LargeAttachment.key).Perm _
  rw [List.map_append, ← List.append_assoc, ← hkey]
  exact List.perm_append_singleton _ _

theorem keyed_step (h : Keyed p) (hs : PageStep b origin p l p') : Keyed p' := by
  cases hs with
  | inline hne hc => exact keyed_inline h hne hc
  | body _ _ => exact ⟨h.distinct, h.below⟩
  | pickLarge files => exact ⟨h.distinct, h.below⟩
  | @answer before after u a o now _ _ =>
    cases o with
    | await stage => exact ⟨h.distinct, h.below⟩
    | linked token retainUntil =>
      have hatt : Keyed (p.attachLarge b (largeAttachment origin p u.file token retainUntil now)) :=
        keyed_attachLarge h rfl
      exact ⟨hatt.distinct, hatt.below⟩
    | failed reason => exact ⟨h.distinct, h.below⟩
  | removeLarge _ =>
    exact keyed_of_sublist h ((List.filter_sublist.map LargeAttachment.key).append_left _) rfl

theorem keyed_opened : Keyed (pageOpened b) where
  distinct := List.nodup_nil
  below := by simp [pageOpened, opened, Page.keys]

/-- Of rows with distinct keys, a filter on a key takes one row. -/
theorem filter_key_eq_erase {Row : Type} [DecidableEq Row] (key : Row → Nat) {rows : List Row}
    (h : (rows.map key).Nodup) {att : Row} (hatt : att ∈ rows) :
    rows.filter (fun row => decide (key row ≠ key att)) = rows.erase att := by
  rw [h.of_map.erase_eq_filter]
  refine List.filter_congr fun row hrow => ?_
  by_cases heq : row = att
  · simp [heq]
  · have hne : key row ≠ key att := fun hkey => heq (List.inj_on_of_nodup_map h hrow hatt hkey)
    simp [heq, hne]

/-- **Closing a tag takes its row and no other.** -/
structure TagsClose (p : Page Dom) : Prop where
  distinct : p.keys.Nodup
  inline : ∀ att ∈ p.inline.rows,
    p.inline.rows.filter (fun row => decide (row.key ≠ att.key)) = p.inline.rows.erase att
  large : ∀ att ∈ p.largeAttachments,
    p.largeAttachments.filter (fun row => decide (row.key ≠ att.key)) = p.largeAttachments.erase att

/-- **The keys of all attachments are distinct**, inline and large, in every run of
overlapping picks, uploads and removals: a tag that is closed takes one row. -/
theorem tags_close {h : List (Page Dom × PageEvent Dom)}
    (hr : Run (PageStep b origin) (pageOpened b) h p) : TagsClose p := by
  have hkeyed : Keyed p := hr.invariant keyed_opened fun _ _ _ hp hs => keyed_step hp hs
  obtain ⟨hinline, hlarge, -⟩ := List.nodup_append.mp hkeyed.distinct
  exact ⟨hkeyed.distinct, fun att => filter_key_eq_erase _ hinline,
    fun att => filter_key_eq_erase _ hlarge⟩

theorem tags_close_scan : ∃ p : Page Text, p.keys = [0, 1, 2] ∧ TagsClose p := by
  obtain ⟨h, p, ⟨hinline, hlarge⟩, hr⟩ := scan_linked
  refine ⟨p, ?_, tags_close hr.of_guarded⟩
  rw [Page.keys, hinline, hlarge]
  rfl

/-! ## What was answered -/

/-- The awaits that were answered, the first first. -/
def answered : List (Page Dom × PageEvent Dom) → List Reply
  | [] => []
  | (_, .answer u a now) :: h => answered h ++ [⟨u.stage.request u.file, a, now⟩]
  | _ :: h => answered h

/-- What a handler has heard when it is at an await. -/
inductive Conversation (file : LocalFile) : Stage → List Reply → Prop
  | start : Conversation file .hashing []
  | next {stage stage' : Stage} {heard : List Reply} {a : Answer} (now : Int) :
      Conversation file stage heard → stage.onAnswer a = some (.await stage') →
      Conversation file stage' (heard ++ [⟨stage.request file, a, now⟩])

/-- **The storage has the file**, under an id: it had its bytes before, or they were put
where it said and confirmed. -/
inductive Uploaded (file : LocalFile) : String → List Reply → Prop
  | instant (md5 : String) (up : UploadUrl) (hashed told : Int) : up.instant = true →
      Uploaded file (up.fileId.getD "")
        [⟨.fileMd5 file, .md5 md5, hashed⟩,
          ⟨.generateUploadUrl file.name (toString file.size) md5 file.contentType, .uploadUrl up,
            told⟩]
  | confirmed (md5 : String) (up : UploadUrl) (url : String) (status : Nat)
      (fileId : Option String) (hashed told put confirmed : Int) : up.instant = false →
      truthy up.uploadUrl = some url → Uploaded file ((fileId <|> up.fileId).getD "")
        [⟨.fileMd5 file, .md5 md5, hashed⟩,
          ⟨.generateUploadUrl file.name (toString file.size) md5 file.contentType, .uploadUrl up,
            told⟩,
          ⟨.put url (putHeaders file up) file, .stored true status, put⟩,
          ⟨.confirmUpload (up.uploadToken.getD ""), .confirmed fileId, confirmed⟩]

/-- The answers that take a handler to its next await. -/
inductive Advances : Stage → Answer → Stage → Prop
  | hashed (md5 : String) : Advances .hashing (.md5 md5) (.generating md5)
  | instant (md5 : String) (up : UploadUrl) : up.instant = true →
      Advances (.generating md5) (.uploadUrl up) (.linking (up.fileId.getD ""))
  | place (md5 : String) (up : UploadUrl) (url : String) : up.instant = false →
      truthy up.uploadUrl = some url → Advances (.generating md5) (.uploadUrl up) (.putting up url)
  | stored (up : UploadUrl) (url : String) (status : Nat) :
      Advances (.putting up url) (.stored true status) (.confirming up)
  | confirmed (up : UploadUrl) (fileId : Option String) :
      Advances (.confirming up) (.confirmed fileId) (.linking ((fileId <|> up.fileId).getD ""))

/-- **What an answer can do**: the handler goes on only with what it asked for. -/
theorem onAnswer_await {stage stage' : Stage} {a : Answer}
    (h : stage.onAnswer a = some (.await stage')) : Advances stage a stage' := by
  -- a handler hears nothing but answers to the await it is at
  cases stage <;> cases a <;> simp only [Stage.onAnswer, Option.some.injEq, reduceCtorEq] at h
  case hashing.md5 digest =>
    obtain rfl := Outcome.await.inj h
    exact .hashed digest
  case generating.uploadUrl md5 up =>
    cases hinstant : up.instant with
    | true =>
      rw [hinstant, if_pos rfl] at h
      obtain rfl := Outcome.await.inj (Option.some.inj h)
      exact .instant md5 up hinstant
    | false =>
      rw [hinstant, if_neg Bool.false_ne_true] at h
      cases hurl : truthy up.uploadUrl with
      | none => simp only [hurl, Option.some.injEq, reduceCtorEq] at h
      | some url =>
        simp only [hurl, Option.some.injEq, Outcome.await.injEq] at h
        exact h ▸ .place md5 up url hinstant hurl
  case putting.stored up url ok status =>
    cases ok with
    | true =>
      obtain rfl := Outcome.await.inj (Option.some.inj h)
      exact .stored up url status
    | false => simp at h
  case confirming.confirmed up fileId =>
    obtain rfl := Outcome.await.inj h
    exact .confirmed up fileId
  case linking.link fileId link =>
    split at h <;> simp only [Option.some.injEq, reduceCtorEq] at h

/-- A handler comes to a link only by the answer to its request for one. -/
theorem onAnswer_linked {stage : Stage} {a : Answer} {token : String} {retainUntil : Option Int}
    (h : stage.onAnswer a = some (.linked token retainUntil)) :
    ∃ fileId link, stage = .linking fileId ∧ a = .link link ∧
      truthy link.linkToken = some token ∧ link.retainUntil = retainUntil := by
  cases stage <;> cases a <;> simp only [Stage.onAnswer, Option.some.injEq, reduceCtorEq] at h
  case generating.uploadUrl md5 up =>
    split at h
    · simp only [Option.some.injEq, reduceCtorEq] at h
    · split at h <;> simp only [Option.some.injEq, reduceCtorEq] at h
  case putting.stored up url ok status =>
    split at h <;> simp only [Option.some.injEq, reduceCtorEq] at h
  case linking.link fileId link =>
    cases htoken : truthy link.linkToken with
    | none => simp only [htoken, Option.some.injEq, reduceCtorEq] at h
    | some t =>
      simp only [htoken, Option.some.injEq, Outcome.linked.injEq] at h
      obtain ⟨rfl, rfl⟩ := h
      exact ⟨fileId, link, rfl, rfl, htoken, rfl⟩

section Conversations
variable {file : LocalFile} {heard : List Reply}

theorem conversation_generating {md5 : String} (h : Conversation file (.generating md5) heard) :
    ∃ hashed, heard = [⟨.fileMd5 file, .md5 md5, hashed⟩] := by
  obtain _ | ⟨hashed, hprev, hans⟩ := h
  cases onAnswer_await hans with
  | hashed =>
    cases hprev with
    | start => exact ⟨hashed, rfl⟩
    -- no await leads back to the digest
    | next _ _ hans => cases onAnswer_await hans

/-- Where the storage told the handler to put the bytes. -/
theorem conversation_putting {up : UploadUrl} {url : String}
    (h : Conversation file (.putting up url) heard) :
    ∃ md5 hashed told, up.instant = false ∧ truthy up.uploadUrl = some url ∧
      heard = [⟨.fileMd5 file, .md5 md5, hashed⟩,
        ⟨.generateUploadUrl file.name (toString file.size) md5 file.contentType,
          .uploadUrl up, told⟩] := by
  obtain _ | ⟨told, hprev, hans⟩ := h
  cases onAnswer_await hans with
  | place md5 _ _ hinstant hurl =>
    obtain ⟨hashed, rfl⟩ := conversation_generating hprev
    exact ⟨md5, hashed, told, hinstant, hurl, rfl⟩

theorem conversation_linking {fileId : String} (h : Conversation file (.linking fileId) heard) :
    Uploaded file fileId heard := by
  obtain _ | ⟨last, hprev, hans⟩ := h
  cases onAnswer_await hans with
  | instant md5 up hinstant =>
    obtain ⟨hashed, rfl⟩ := conversation_generating hprev
    exact .instant md5 up hashed last hinstant
  | confirmed up fileId =>
    obtain _ | ⟨put, hprev, hans⟩ := hprev
    cases onAnswer_await hans with
    | stored _ url status =>
      obtain ⟨md5, hashed, told, hinstant, hurl, rfl⟩ := conversation_putting hprev
      exact .confirmed md5 up url status fileId hashed told put last hinstant hurl

end Conversations

/-! ## Where the attachments come from -/

/-- How many days a link still lives: whole days, and one at least, where the service has
named a time; nothing where it has not. -/
inductive DaysLeft (now : Int) : Option Int → Option Int → Prop
  | unnamed : DaysLeft now none none
  | never {t : Int} : t ≤ 0 → DaysLeft now (some t) none
  | days {t days : Int} : 0 < t → 1 ≤ days → t < now + (days + 1) * 86400000 →
      (days = 1 ∨ now + days * 86400000 ≤ t) → DaysLeft now (some t) (some days)

theorem daysLeft (retainUntil : Option Int) (now : Int) :
    DaysLeft now retainUntil (expiresDays retainUntil now) := by
  cases retainUntil with
  | none => exact .unnamed
  | some t =>
    by_cases hnamed : 0 < t
    · have hdays : expiresDays (some t) now = some (max 1 ((t - now) / 86400000)) := by
        simp [expiresDays, Option.filter, hnamed]
      rw [hdays]
      refine .days hnamed ?_ ?_ ?_ <;> omega
    · have hnone : expiresDays (some t) now = none := by simp [expiresDays, Option.filter, hnamed]
      rw [hnone]
      exact .never (by omega)

/-- **The attachment is of a file the storage has**: a link was asked for after the upload,
to live for 30 days, and the row is made of the file and the link; its days are counted from
the moment the link came. -/
inductive Linked (origin : String) (log : List Reply) (row : LargeAttachment) : Prop
  | intro (file : LocalFile) (fileId : String) (heard : List Reply) (link : FileLink)
      (token : String) (now : Int) : Uploaded file fileId heard →
      (heard ++ [Reply.mk (.createFileLink fileId 2592000) (.link link) now]).Sublist log →
      truthy link.linkToken = some token → row.filename = file.name → row.sizeBytes = file.size →
      row.url = origin ++ "/link/" ++ token → DaysLeft now link.retainUntil row.expiresDays →
      Linked origin log row

theorem Linked.mono {log log' : List Reply} {row : LargeAttachment}
    (h : Linked origin log row) (hsub : log.Sublist log') : Linked origin log' row := by
  obtain ⟨file, fileId, heard, link, token, now, hup, hlog, htoken, hname, hsize, hurl, hdays⟩ := h
  exact ⟨file, fileId, heard, link, token, now, hup, hlog.trans hsub, htoken, hname, hsize, hurl,
    hdays⟩

/-- What was answered stays answered. -/
theorem answered_sublist (x : Page Dom × PageEvent Dom) (h : List (Page Dom × PageEvent Dom)) :
    (answered h).Sublist (answered (x :: h)) := by
  obtain ⟨p, l⟩ := x
  cases l with
  | answer u a now => exact List.sublist_append_left _ _
  | inline l => exact List.Sublist.refl _
  | body l => exact List.Sublist.refl _
  | pickLarge files => exact List.Sublist.refl _
  | removeLarge key => exact List.Sublist.refl _

/-- What the handlers and the rows of a page have behind them. -/
structure Heard (origin : String) (log : List Reply) (p : Page Dom) : Prop where
  uploads : ∀ u ∈ p.uploads, ∃ heard, Conversation u.file u.stage heard ∧ heard.Sublist log
  rows : ∀ row ∈ p.largeAttachments, Linked origin log row

theorem Heard.mono {log log' : List Reply} (h : Heard origin log p)
    (hsub : log.Sublist log') : Heard origin log' p where
  uploads u hu := by
    obtain ⟨heard, hconv, hlog⟩ := h.uploads u hu
    exact ⟨heard, hconv, hlog.trans hsub⟩
  rows row hrow := (h.rows row hrow).mono hsub

/-- A handler that takes the next file has heard nothing of it. -/
theorem heard_takeNext {u : Upload} {rest : List LocalFile} (hu : u ∈ takeNext rest)
    (log : List Reply) :
    ∃ heard, Conversation u.file u.stage heard ∧ heard.Sublist log := by
  cases rest with
  | nil => cases hu
  | cons file rest =>
    obtain rfl := List.mem_singleton.mp hu
    exact ⟨[], .start, List.nil_sublist _⟩

/-- The handlers once one of them goes on to the next file. -/
theorem heard_goOn {log : List Reply} {before after : List Upload} {u : Upload}
    {rest : List LocalFile} (hold : ∀ v ∈ before ++ u :: after,
      ∃ heard, Conversation v.file v.stage heard ∧ heard.Sublist log) :
    ∀ v ∈ before ++ takeNext rest ++ after,
      ∃ heard, Conversation v.file v.stage heard ∧ heard.Sublist log := by
  intro v hv
  rw [List.append_assoc] at hv
  rcases List.mem_append.mp hv with hv | hv
  · exact hold v (List.mem_append_left _ hv)
  · rcases List.mem_append.mp hv with hv | hv
    · exact heard_takeNext hv log
    · exact hold v (List.mem_append_right _ (List.mem_cons_of_mem _ hv))

theorem heard_settle {log : List Reply} {before after : List Upload} {u : Upload}
    {a : Answer} {o : Outcome} (h : Heard origin log p) (hu : p.uploads = before ++ u :: after)
    (ho : u.stage.onAnswer a = some o) (now : Int) :
    Heard origin (log ++ [⟨u.stage.request u.file, a, now⟩])
      (p.settle b origin before after u now o) := by
  have hsub : log.Sublist (log ++ [⟨u.stage.request u.file, a, now⟩]) :=
    List.sublist_append_left _ _
  have hlater := h.mono hsub
  have hold := hu ▸ hlater.uploads
  obtain ⟨heard, hconv, hlog⟩ := h.uploads u (hu ▸ List.mem_append_right _ List.mem_cons_self)
  have hheard := hlog.append_right [⟨u.stage.request u.file, a, now⟩]
  cases o with
  | await stage =>
    refine ⟨fun v hv => ?_, hlater.rows⟩
    rcases List.mem_append.mp hv with hv | hv
    · exact hold v (List.mem_append_left _ hv)
    · rcases List.mem_cons.mp hv with rfl | hv
      · exact ⟨_, hconv.next now ho, hheard⟩
      · exact hold v (List.mem_append_right _ (List.mem_cons_of_mem _ hv))
  | failed reason => exact ⟨heard_goOn hold, hlater.rows⟩
  | linked token retainUntil =>
    refine ⟨heard_goOn hold, fun row hrow => ?_⟩
    rcases List.mem_append.mp hrow with hrow | hrow
    · exact hlater.rows row hrow
    · obtain rfl := List.mem_singleton.mp hrow
      -- the new row: its link is the last answer of its conversation
      obtain ⟨fileId, link, hstage, rfl, htoken, rfl⟩ := onAnswer_linked ho
      rw [hstage] at hconv hheard ⊢
      exact ⟨u.file, fileId, heard, link, token, now, conversation_linking hconv, hheard, htoken,
        rfl, rfl, rfl, daysLeft _ _⟩

theorem heard_of_run {h : List (Page Dom × PageEvent Dom)}
    (hr : Run (PageStep b origin) (pageOpened b) h p) : Heard origin (answered h) p := by
  refine hr.always (P := fun h p => Heard origin (answered h) p) ⟨by simp [pageOpened], by
    simp [pageOpened]⟩ ?_
  intro h p l p' _ hp hs
  have hlater := hp.mono (answered_sublist (p, l) h)
  cases hs with
  | inline _ _ => exact ⟨hlater.uploads, hlater.rows⟩
  | body _ _ => exact ⟨hlater.uploads, hlater.rows⟩
  | pickLarge files =>
    refine ⟨fun u hu => ?_, hlater.rows⟩
    rcases List.mem_append.mp hu with hu | hu
    · exact heard_takeNext hu _
    · exact hlater.uploads u hu
  | answer before after now hu ho => exact heard_settle hp hu ho now
  | removeLarge _ =>
    exact ⟨hlater.uploads, fun row hrow => hlater.rows row (List.mem_filter.mp hrow).1⟩

/-- **Every large attachment is of a file the storage has**, in every run: its bytes were
there before, or they were put and confirmed, and then its link was made. -/
theorem large_linked {h : List (Page Dom × PageEvent Dom)}
    (hr : Run (PageStep b origin) (pageOpened b) h p) :
    ∀ row ∈ p.largeAttachments, Linked origin (answered h) row :=
  (heard_of_run hr).rows

theorem large_linked_scan : ∃ (h : List (Page Text × PageEvent Text)) (p : Page Text),
    p.largeAttachments = [scanRow, filmRow] ∧
      ∀ row ∈ p.largeAttachments, Linked "https://console" (answered h) row := by
  obtain ⟨h, p, ⟨-, hlarge⟩, hr⟩ := scan_linked
  exact ⟨h, p, hlarge, large_linked hr.of_guarded⟩

/-! ## The order of the files -/

/-- The files of the picks, in order. -/
def picked : List (Page Dom × PageEvent Dom) → List LocalFile
  | [] => []
  | (_, .pickLarge files) :: h => picked h ++ files
  | _ :: h => picked h

/-- The attachment an outcome adds. -/
def Outcome.attachment (origin : String) (p : Page Dom) (u : Upload) (now : Int) :
    Outcome → Option LargeAttachment
  | .await _ => none
  | .linked token retainUntil => some (largeAttachment origin p u.file token retainUntil now)
  | .failed _ => none

/-- The attachments that were added, in order. -/
def linked (origin : String) : List (Page Dom × PageEvent Dom) → List LargeAttachment
  | [] => []
  | (p, .answer u a now) :: h =>
    linked origin h ++ ((u.stage.onAnswer a).bind (Outcome.attachment origin p u now)).toList
  | _ :: h => linked origin h

/-- The file an outcome is the last of. -/
def Outcome.settles (u : Upload) : Outcome → Option LocalFile
  | .await _ => none
  | .linked _ _ => some u.file
  | .failed _ => some u.file

/-- The files that came to an end, in order. -/
def settled : List (Page Dom × PageEvent Dom) → List LocalFile
  | [] => []
  | (_, .answer u a _) :: h =>
    settled h ++ ((u.stage.onAnswer a).bind (Outcome.settles u)).toList
  | _ :: h => settled h

/-- The keys whose tags were closed. -/
def removed : List (Page Dom × PageEvent Dom) → List Nat
  | [] => []
  | (_, .removeLarge key) :: h => key :: removed h
  | _ :: h => removed h

/-- The files still to come to an end. -/
def Page.pending (p : Page Dom) : List LocalFile := p.uploads.flatMap fun u => u.file :: u.rest

/-- **The large files of a run are taken one at a time**, in the order of the picks. -/
structure InOrder (origin : String) (h : List (Page Dom × PageEvent Dom)) (p : Page Dom) :
    Prop where
  alone : p.uploads.length ≤ 1
  flag : p.uploadingLarge = true ↔ p.uploads ≠ []
  files : picked h = settled h ++ p.pending
  rows : p.largeAttachments =
    (linked origin h).filter fun row => decide (row.key ∉ removed h)

theorem takeNext_length (files : List LocalFile) : (takeNext files).length ≤ 1 := by
  cases files with
  | nil => exact Nat.zero_le _
  | cons file rest => exact Nat.le_refl _

theorem takeNext_eq_nil {files : List LocalFile} : takeNext files = [] ↔ files = [] := by
  cases files <;> simp [takeNext]

/-- The files a handler takes are those it was given. -/
theorem pending_takeNext (files : List LocalFile) :
    (takeNext files).flatMap (fun u => u.file :: u.rest) = files := by
  cases files with
  | nil => rfl
  | cons file rest => exact List.flatMap_singleton _ _

/-- The rows by what was added and closed, and the counter past what was closed. -/
structure RowsOf (origin : String) (h : List (Page Dom × PageEvent Dom)) (p : Page Dom) : Prop where
  rows : p.largeAttachments = (linked origin h).filter fun row => decide (row.key ∉ removed h)
  keyed : Keyed p
  closed : ∀ k ∈ removed h, k < p.inline.nextKey

theorem linked_answer (origin : String) (p : Page Dom) {u : Upload} {a : Answer} {o : Outcome}
    (now : Int) (h : List (Page Dom × PageEvent Dom)) (ho : u.stage.onAnswer a = some o) :
    linked origin ((p, .answer u a now) :: h) =
      linked origin h ++ (o.attachment origin p u now).toList := by
  rw [linked, ho, Option.bind_some]

theorem settled_answer (p : Page Dom) {u : Upload} {a : Answer} {o : Outcome} (now : Int)
    (h : List (Page Dom × PageEvent Dom)) (ho : u.stage.onAnswer a = some o) :
    settled ((p, .answer u a now) :: h) = settled h ++ (o.settles u).toList := by
  rw [settled, ho, Option.bind_some]

theorem nextKey_inline {c c' : Composer} {e : Event} (hs : Step c e c') :
    c.nextKey ≤ c'.nextKey := by
  cases hs with
  | render => exact Nat.le_refl _
  | pick files => exact Nat.le_refl _
  | readOk before after content hr => exact Nat.le_succ _
  | readFailed hr => exact Nat.le_refl _
  | remove hatt => exact Nat.le_refl _
  | upload => exact Nat.le_succ _

theorem rowsOf_step {h : List (Page Dom × PageEvent Dom)} (hp : RowsOf origin h p)
    (hs : PageStep b origin p l p') : RowsOf origin ((p, l) :: h) p' := by
  have hkeyed := keyed_step hp.keyed hs
  cases hs with
  | inline _ hc =>
    exact ⟨hp.rows, hkeyed, fun k hk => Nat.lt_of_lt_of_le (hp.closed k hk) (nextKey_inline hc)⟩
  | body _ _ => exact ⟨hp.rows, hkeyed, hp.closed⟩
  | pickLarge files => exact ⟨hp.rows, hkeyed, hp.closed⟩
  | @answer before after u a o now _ ho =>
    have hclosed : removed ((p, .answer u a now) :: h) = removed h := rfl
    have hlinked := linked_answer origin p now h ho
    cases o with
    | await stage =>
      refine ⟨?_, hkeyed, hp.closed⟩
      rw [hlinked, hclosed]
      exact hp.rows.trans (by rw [Outcome.attachment, Option.toList_none, List.append_nil])
    | failed reason =>
      refine ⟨?_, hkeyed, hp.closed⟩
      rw [hlinked, hclosed]
      exact hp.rows.trans (by rw [Outcome.attachment, Option.toList_none, List.append_nil])
    | linked token retainUntil =>
      -- no tag with the key of the new row was closed before it
      have hfresh : p.inline.nextKey ∉ removed h := fun hk => Nat.lt_irrefl _ (hp.closed _ hk)
      refine ⟨?_, hkeyed, fun k hk => Nat.lt_succ_of_lt (hp.closed k hk)⟩
      rw [hlinked, hclosed, List.filter_append, ← hp.rows]
      refine congrArg (p.largeAttachments ++ ·) (List.filter_eq_self.mpr ?_).symm
      intro row hrow
      obtain rfl := List.mem_singleton.mp hrow
      exact decide_eq_true hfresh
  | @removeLarge att hatt =>
    refine ⟨?_, hkeyed, fun k hk => ?_⟩
    · simp only [linked, removed]
      rw [hp.rows, List.filter_filter]
      refine List.filter_congr fun row _ => ?_
      simp [List.mem_cons, not_or]
    · rcases List.mem_cons.mp hk with rfl | hk
      · exact hp.keyed.below _ (List.mem_append_right _ (List.mem_map_of_mem hatt))
      · exact hp.closed k hk

theorem pending_single {u : Upload} (h : p.uploads = [u]) : p.pending = u.file :: u.rest := by
  rw [Page.pending, h, List.flatMap_singleton]

/-- A handler that is the only one. -/
theorem alone_goOn {before after : List Upload} {u : Upload}
    (halone : (before ++ u :: after).length ≤ 1) : before = [] ∧ after = [] := by
  simp only [List.length_append, List.length_cons] at halone
  exact ⟨List.eq_nil_of_length_eq_zero (by omega), List.eq_nil_of_length_eq_zero (by omega)⟩

/-- What the handlers of a page are doing, in order. -/
structure OneAtATime (h : List (Page Dom × PageEvent Dom)) (p : Page Dom) : Prop where
  alone : p.uploads.length ≤ 1
  flag : p.uploadingLarge = true ↔ p.uploads ≠ []
  files : picked h = settled h ++ p.pending

/-- The one handler takes the next file. -/
theorem oneAtATime_takeNext {h : List (Page Dom × PageEvent Dom)} (rest : List LocalFile)
    (huploads : p.uploads = takeNext rest) (hflag : p.uploadingLarge = !rest.isEmpty)
    (hfiles : picked h = settled h ++ rest) : OneAtATime h p where
  alone := huploads ▸ takeNext_length rest
  flag := by
    rw [hflag, huploads, Ne, takeNext_eq_nil]
    cases rest <;> simp
  files := by rw [Page.pending, huploads, pending_takeNext, hfiles]

theorem oneAtATime_step {h : List (Page Dom × PageEvent Dom)} (hp : OneAtATime h p)
    (hs : Guarded (PageStep b origin) PickedIdle p l p') : OneAtATime ((p, l) :: h) p' := by
  obtain ⟨hidle, hs⟩ := hs
  cases hs with
  | inline _ _ => exact ⟨hp.alone, hp.flag, hp.files⟩
  | body _ _ => exact ⟨hp.alone, hp.flag, hp.files⟩
  | removeLarge _ => exact ⟨hp.alone, hp.flag, hp.files⟩
  | pickLarge files =>
    -- the button is not busy, so no handler is left
    have hnone : p.uploads = [] := by
      by_contra hne
      exact Bool.false_ne_true (hidle.symm.trans (hp.flag.mpr hne))
    have hfiles := hp.files
    rw [Page.pending, hnone, List.flatMap_nil, List.append_nil] at hfiles
    refine oneAtATime_takeNext files ?_ ?_ ?_
    · show takeNext files ++ p.uploads = _
      rw [hnone, List.append_nil]
    · show (p.uploadingLarge || _) = _
      rw [show p.uploadingLarge = false from hidle, Bool.false_or]
    · show picked h ++ files = settled h ++ files
      rw [hfiles]
  | @answer before after u a o now hu ho =>
    -- the handler that is answered is the only one
    obtain ⟨rfl, rfl⟩ := alone_goOn (hu ▸ hp.alone)
    have hfiles := hp.files
    rw [pending_single hu] at hfiles
    cases o with
    | await stage =>
      refine ⟨Nat.le_refl 1, ⟨fun _ => List.cons_ne_nil _ _, fun _ => ?_⟩, ?_⟩
      · exact hp.flag.mpr (hu ▸ List.cons_ne_nil _ _)
      · rw [settled_answer p now h ho]
        show picked h = settled h ++ [] ++ _
        rw [List.append_nil, pending_single (u := ⟨u.file, stage, u.rest⟩) rfl]
        exact hfiles
    | linked token retainUntil =>
      refine oneAtATime_takeNext u.rest (List.append_nil _) rfl ?_
      rw [settled_answer p now h ho]
      exact hfiles.trans (List.append_cons _ _ _)
    | failed reason =>
      refine oneAtATime_takeNext u.rest (List.append_nil _) rfl ?_
      rw [settled_answer p now h ho]
      exact hfiles.trans (List.append_cons _ _ _)

/-- **The large files are taken one at a time**, in every run in which the dialog opens
only while the button is not busy: no file is lost, taken twice or overtaken, a failed one
holds up none of those behind it, and the rows are those that were linked, in that order,
less the closed ones. -/
theorem large_inOrder {h : List (Page Dom × PageEvent Dom)}
    (hr : Run (Guarded (PageStep b origin) PickedIdle) (pageOpened b) h p) :
    InOrder origin h p := by
  have hrows : RowsOf origin h p :=
    hr.of_guarded.always (P := fun h p => RowsOf origin h p)
      ⟨rfl, keyed_opened, by simp [removed]⟩ fun _ _ _ _ _ hp hs => rowsOf_step hp hs
  have hone : OneAtATime h p :=
    hr.always (P := fun h p => OneAtATime h p) ⟨Nat.zero_le _, by simp [pageOpened], rfl⟩
      fun _ _ _ _ _ hp hs => oneAtATime_step hp hs
  exact ⟨hone.alone, hone.flag, hone.files, hrows.rows⟩

theorem large_inOrder_scan : ∃ (h : List (Page Text × PageEvent Text)) (p : Page Text),
    p.largeAttachments = [scanRow, filmRow] ∧ InOrder "https://console" h p := by
  obtain ⟨h, p, ⟨-, hlarge⟩, hr⟩ := scan_linked
  exact ⟨h, p, hlarge, large_inOrder (hr.mono fun _ _ _ hs => ⟨hs.1.1, hs.2⟩)⟩

/-! ## The body -/

/-- The body is what the editor shows: the page's editor is an editor of its own. -/
theorem body_shows {h : List (Page Dom × PageEvent Dom)}
    (hr : Run (PageStep b origin) (pageOpened b) h p) : RichEditor.Shows b p.editor := by
  refine hr.invariant (P := fun p => RichEditor.Shows b p.editor) RichEditor.shows_mounted ?_
  intro p l p' hp hs
  rcases body_step hs with heq | ⟨l', he⟩
  · exact heq ▸ hp
  · exact RichEditor.shows_step hp he

/-- The blocks of the attachments that were added, in order. -/
def blocks (origin : String) (h : List (Page Dom × PageEvent Dom)) : List Text :=
  (linked origin h).map largeAttachmentBlockHtml

/-- **A download block**: the address of the file in a link, and its name and size in it. -/
def Block (att : LargeAttachment) (html : Text) : Prop :=
  ∃ before style after, html = before ++ ofString "<a href=\"" ++
    escapeHtmlAttr (ofString att.url) ++ ofString "\" target=\"_blank\" style=\"" ++ style ++
    ofString "\">\n" ++ ofString "      " ++ escapeHtmlAttr (ofString att.filename) ++
    ofString "（" ++ ofString (formatBytes att.sizeBytes) ++ ofString "）\n" ++
    ofString "    </a>" ++ after

theorem block_largeAttachment (att : LargeAttachment) :
    Block att (largeAttachmentBlockHtml att) := by
  obtain ⟨before, hbefore⟩ : ∃ before, largeAttachmentBlockHtml att =
      before ++ ofString "    <a href=\"" ++ escapeHtmlAttr (ofString att.url) ++
      ofString "\" target=\"_blank\" style=\"display:inline-block;padding:8px 16px;" ++
      ofString "border:1px solid #1677ff;border-radius:4px;color:#1677ff;font-size:14px;" ++
      ofString "text-decoration:none;\">\n" ++ ofString "      " ++
      escapeHtmlAttr (ofString att.filename) ++ ofString "（" ++
      ofString (formatBytes att.sizeBytes) ++ ofString "）\n" ++
      ofString "    </a>\n  </p>\n</div>" := ⟨_, rfl⟩
  -- the lines of the template, cut where the link begins and ends
  have hlink : ofString "    <a href=\"" = ofString "    " ++ ofString "<a href=\"" := by decide
  have hstyle : ofString "\" target=\"_blank\" style=\"display:inline-block;padding:8px 16px;" =
      ofString "\" target=\"_blank\" style=\"" ++
        ofString "display:inline-block;padding:8px 16px;" := by decide +kernel
  have hname : ofString "text-decoration:none;\">\n" =
      ofString "text-decoration:none;" ++ ofString "\">\n" := by decide +kernel
  have hend : ofString "    </a>\n  </p>\n</div>" =
      ofString "    </a>" ++ ofString "\n  </p>\n</div>" := by decide +kernel
  refine ⟨before ++ ofString "    ", ofString "display:inline-block;padding:8px 16px;" ++
    ofString "border:1px solid #1677ff;border-radius:4px;color:#1677ff;font-size:14px;" ++
    ofString "text-decoration:none;", ofString "\n  </p>\n</div>", ?_⟩
  rw [hbefore, hlink, hstyle, hname, hend]
  simp only [List.append_assoc]

theorem extends_step {p₀ : Page Dom} {h : List (Page Dom × PageEvent Dom)}
    (hext : RichEditor.Extends b p₀.editor (blocks origin h) p.editor)
    (hshows : RichEditor.Shows b p.editor) (hs : Guarded (PageStep b origin) Undisturbed p l p') :
    RichEditor.Extends b p₀.editor (blocks origin ((p, l) :: h)) p'.editor := by
  obtain ⟨hcalm, hs⟩ := hs
  cases hs with
  | inline _ _ => exact hext
  | pickLarge files => exact hext
  | removeLarge _ => exact hext
  | body _ he =>
    cases he with
    | render => exact ⟨hext.mode, hext.source, hext.rich⟩
    | input dom _ => exact hcalm.elim
    | edit text _ => exact hcalm.elim
    | toggleMode => exact hcalm.elim
    | setHtml html => exact hcalm.elim
    | appendHtml html => exact hcalm.elim
  | @answer before after u a o now _ ho =>
    rw [blocks, linked_answer origin p now h ho, List.map_append]
    cases o with
    | await stage => exact (List.append_nil (blocks origin h)).symm ▸ hext
    | failed reason => exact (List.append_nil (blocks origin h)).symm ▸ hext
    | linked token retainUntil => exact RichEditor.extends_append hext hshows hcalm _

/-- **The blocks stay in the body.**  From any state of any run, while the user leaves the
body alone and the page renders between two uploads, the body is the one there was with the
blocks of the new attachments at its end, one for each and in their order, each with the
address and the name of its file. -/
theorem blocks_stay {p₀ : Page Dom} {h₀ h : List (Page Dom × PageEvent Dom)}
    (h₀r : Run (PageStep b origin) (pageOpened b) h₀ p₀)
    (hr : Run (Guarded (PageStep b origin) Undisturbed) p₀ h p) :
    RichEditor.Extends b p₀.editor (blocks origin h) p.editor ∧
      List.Forall₂ Block (linked origin h) (blocks origin h) := by
  suffices hboth : RichEditor.Shows b p.editor ∧
      RichEditor.Extends b p₀.editor (blocks origin h) p.editor by
    refine ⟨hboth.2, ?_⟩
    rw [blocks, List.forall₂_map_right_iff, List.forall₂_same]
    exact fun att _ => block_largeAttachment att
  refine hr.always (P := fun h p => RichEditor.Shows b p.editor ∧
    RichEditor.Extends b p₀.editor (blocks origin h) p.editor) ⟨body_shows h₀r, ?_⟩ ?_
  · exact ⟨rfl, fun _ => (List.append_nil _).symm, fun _ => rfl⟩
  · rintro h p l p' - ⟨hshows, hext⟩ hs
    refine ⟨?_, extends_step hext hshows hs⟩
    rcases body_step hs.2 with heq | ⟨l', he⟩
    · exact heq ▸ hshows
    · exact RichEditor.shows_step hshows he

theorem blocks_stay_scan : ∃ (h : List (Page Text × PageEvent Text)) (p : Page Text),
    p.largeAttachments = [scanRow, filmRow] ∧
      RichEditor.Extends plain (pageOpened plain).editor (blocks "https://console" h) p.editor ∧
      List.Forall₂ Block (linked "https://console" h) (blocks "https://console" h) := by
  obtain ⟨h, p, ⟨-, hlarge⟩, hr⟩ := scan_linked
  exact ⟨h, p, hlarge, blocks_stay .start (hr.mono fun _ _ _ hs => ⟨hs.1.2, hs.2⟩)⟩

end Testkit.SendEmail
