import Testkit.LabelledRuns

/-! # The digest of a large attachment

`fileMd5` of the SendEmail page reads a file in chunks of 2 MiB.  Each `load` event appends
the chunk, moves the offset one chunk on, and reads again while the offset is inside the file;
an `error` event rejects the promise.  The first read is made whatever the size.

The offset is a multiple of the chunk, so what was appended is the start of the file up to it
(`Inv`), and the read that crosses the end is the last one (`fileMd5_hashes`).
-/
namespace Testkit.FileMd5
open LabelledRuns

/-- **An incremental hash**, with the digest it computes of a whole text. -/
structure Spark (H D : Type) where
  new : H
  append : H → List UInt8 → H
  finish : H → D
  md5 : List UInt8 → D
  incremental : ∀ chunks : List (List UInt8), finish (chunks.foldl append new) = md5 chunks.flatten

/-- The hash that keeps all bytes and digests them in the end. -/
def keeping {D : Type} (md5 : List UInt8 → D) : Spark (List UInt8) D where
  new := []
  append kept chunk := kept ++ chunk
  finish := md5
  md5 := md5
  incremental chunks := by rw [List.foldl_append_eq_append, List.nil_append, List.map_id']

/-- A promise. -/
inductive Promise (D E : Type)
  | pending
  | resolved (value : D)
  | rejected (reason : E)
  deriving DecidableEq, Repr

/-- The first settlement is the one that counts. -/
def Promise.settle {D E : Type} : Promise D E → Promise D E → Promise D E
  | .pending, outcome => outcome
  | settled, _ => settled

/-- `Blob.slice`, whose bounds are clamped to the size. -/
def slice (file : List UInt8) (start stop : Nat) : List UInt8 :=
  (file.drop start).take (stop - start)

/-- `chunkSize`. -/
def chunkSize : Nat := 2 * 1024 * 1024

/-- The closure of `fileMd5`: its hash and offset, the slice the reader is at, and the promise
it returned. -/
structure Hashing (H D E : Type) where
  spark : H
  offset : Nat
  reading : Option (List UInt8)
  promise : Promise D E
  deriving DecidableEq, Repr

variable {H D E : Type}

/-- `readNext`. -/
def Hashing.readNext (file : List UInt8) (s : Hashing H D E) : Hashing H D E :=
  { s with reading := some (slice file s.offset (s.offset + chunkSize)) }

section Loop
variable (sp : Spark H D) (file : List UInt8)

/-- `fileMd5`, up to its first event. -/
def fileMd5 : Hashing H D E :=
  Hashing.readNext file ⟨sp.new, 0, none, .pending⟩

/-- `reader.onload`. -/
def Hashing.onload (s : Hashing H D E) (chunk : List UInt8) : Hashing H D E :=
  let s' : Hashing H D E := ⟨sp.append s.spark chunk, s.offset + chunkSize, none, s.promise⟩
  if s'.offset < file.length then s'.readNext file
  else { s' with promise := s'.promise.settle (.resolved (sp.finish s'.spark)) }

/-- `reader.onerror`. -/
def Hashing.onerror (s : Hashing H D E) (e : E) : Hashing H D E :=
  { s with reading := none, promise := s.promise.settle (.rejected e) }

/-- How a read ends. -/
inductive ReadEvent (E : Type)
  | load (chunk : List UInt8)
  | error (e : E)

/-- A step of the loop: the reader's slice is loaded, or cannot be. -/
inductive Step : Hashing H D E → ReadEvent E → Hashing H D E → Prop
  | load {s : Hashing H D E} {chunk : List UInt8} : s.reading = some chunk →
      Step s (.load chunk) (s.onload sp file chunk)
  | error {s : Hashing H D E} {chunk : List UInt8} (e : E) : s.reading = some chunk →
      Step s (.error e) (s.onerror e)

end Loop

/-- The chunks that were appended, in order. -/
def appended : List (Hashing H D E × ReadEvent E) → List (List UInt8)
  | [] => []
  | (_, .load chunk) :: h => appended h ++ [chunk]
  | (_, .error _) :: h => appended h

/-- The errors of the reads that failed, the last first. -/
def failures : List (Hashing H D E × ReadEvent E) → List E
  | [] => []
  | (_, .load _) :: h => failures h
  | (_, .error e) :: h => e :: failures h

/-- The reads that a file of a size takes. -/
def reads (size : Nat) : Nat := max 1 ((size + chunkSize - 1) / chunkSize)

example : reads 0 = 1 ∧ reads chunkSize = 1 ∧ reads (chunkSize + 1) = 2 := by decide

/-! ## One step -/

/-- **The loop**, by what it has appended and what has failed. -/
inductive Inv (sp : Spark H D) (file : List UInt8) :
    List (List UInt8) → List E → Hashing H D E → Prop
  /-- It reads the chunk behind those it has appended. -/
  | reading (chunks : List (List UInt8)) :
      chunks.flatten = file.take (chunks.length * chunkSize) →
      chunks = [] ∨ chunks.length * chunkSize < file.length →
      Inv sp file chunks []
        (.readNext file ⟨chunks.foldl sp.append sp.new, chunks.length * chunkSize, none, .pending⟩)
  /-- It has appended the whole file. -/
  | resolved (chunks : List (List UInt8)) :
      chunks.flatten = file → chunks.length = reads file.length →
      Inv sp file chunks [] ⟨chunks.foldl sp.append sp.new, chunks.length * chunkSize, none,
        .resolved (sp.md5 file)⟩
  /-- A read has failed. -/
  | rejected (chunks : List (List UInt8)) (spark : H) (offset : Nat) (e : E) :
      chunks.length < reads file.length →
      Inv sp file chunks [e] ⟨spark, offset, none, .rejected e⟩

variable {sp : Spark H D} {file : List UInt8}

/-- The loop ends with the read that reaches the end. -/
theorem reads_eq {n : Nat} (hstart : n = 0 ∨ n * chunkSize < file.length)
    (hend : file.length ≤ (n + 1) * chunkSize) : n + 1 = reads file.length := by
  unfold reads
  unfold chunkSize at *
  omega

/-- A read before the end is not the last. -/
theorem lt_reads {n : Nat} (h : n = 0 ∨ n * chunkSize < file.length) : n < reads file.length := by
  unfold reads
  unfold chunkSize at *
  omega

theorem slice_chunk (start : Nat) :
    slice file start (start + chunkSize) = (file.drop start).take chunkSize := by
  rw [slice, Nat.add_sub_cancel_left]

theorem onload_more {s : Hashing H D E} {chunk : List UInt8}
    (h : s.offset + chunkSize < file.length) : s.onload sp file chunk =
      .readNext file ⟨sp.append s.spark chunk, s.offset + chunkSize, none, s.promise⟩ := if_pos h

theorem onload_last {s : Hashing H D E} {chunk : List UInt8}
    (h : ¬ s.offset + chunkSize < file.length) : s.onload sp file chunk =
      ⟨sp.append s.spark chunk, s.offset + chunkSize, none,
        s.promise.settle (.resolved (sp.finish (sp.append s.spark chunk)))⟩ := if_neg h

theorem Inv.start : Inv sp file [] [] (fileMd5 sp file : Hashing H D E) := by
  have h : Inv sp file [] ([] : List E) _ := .reading [] (by simp) (.inl rfl)
  simpa [fileMd5] using h

/-- **A chunk that is loaded** is the next one of the file; behind the last one the promise is
resolved with the file's digest. -/
theorem Inv.load {chunks : List (List UInt8)} {errors : List E} {s : Hashing H D E}
    {chunk : List UInt8} (h : Inv sp file chunks errors s) (hread : s.reading = some chunk) :
    Inv sp file (chunks ++ [chunk]) errors (s.onload sp file chunk) := by
  cases h with
  | reading hflat hstart =>
    have hchunk : slice file (chunks.length * chunkSize) (chunks.length * chunkSize + chunkSize) =
        chunk := Option.some.inj hread
    have hlen : (chunks ++ [chunk]).length * chunkSize =
        chunks.length * chunkSize + chunkSize := by
      rw [List.length_append, List.length_singleton, Nat.succ_mul]
    have htake : (chunks ++ [chunk]).flatten =
        file.take ((chunks ++ [chunk]).length * chunkSize) := by
      rw [hlen, List.take_add, List.flatten_append, hflat, ← hchunk, slice_chunk,
        List.flatten_singleton]
    have hspark : sp.append (chunks.foldl sp.append sp.new) chunk =
        (chunks ++ [chunk]).foldl sp.append sp.new := by
      rw [List.foldl_append]
      rfl
    by_cases hmore : chunks.length * chunkSize + chunkSize < file.length
    · rw [onload_more hmore]
      show Inv sp file _ [] (.readNext file ⟨sp.append (chunks.foldl sp.append sp.new) chunk,
        chunks.length * chunkSize + chunkSize, none, .pending⟩)
      rw [← hlen] at hmore
      rw [hspark, ← hlen]
      exact .reading _ htake (.inr hmore)
    · -- the offset is past the end: nothing of the file is left
      rw [onload_last hmore]
      show Inv sp file _ [] ⟨sp.append (chunks.foldl sp.append sp.new) chunk,
        chunks.length * chunkSize + chunkSize, none,
        .resolved (sp.finish (sp.append (chunks.foldl sp.append sp.new) chunk))⟩
      rw [← hlen] at hmore
      have hall : (chunks ++ [chunk]).flatten = file := by
        rw [htake, List.take_of_length_le (Nat.le_of_not_lt hmore)]
      have hn : (chunks ++ [chunk]).length = reads file.length := by
        rw [List.length_append, List.length_singleton] at hmore ⊢
        refine reads_eq (hstart.imp_left fun h => ?_) (Nat.le_of_not_lt hmore)
        rw [h, List.length_nil]
      rw [hspark, ← hlen, sp.incremental, hall]
      exact .resolved _ hall hn
  | resolved _ _ => cases hread
  | rejected _ _ _ _ => cases hread

/-- **A read that fails** rejects the promise with its error. -/
theorem Inv.error {chunks : List (List UInt8)} {errors : List E} {s : Hashing H D E}
    {chunk : List UInt8} (h : Inv sp file chunks errors s) (hread : s.reading = some chunk)
    (e : E) : Inv sp file chunks (e :: errors) (s.onerror e) := by
  cases h with
  | reading hflat hstart =>
    refine .rejected chunks _ _ e (lt_reads (hstart.imp_left fun h => ?_))
    rw [h, List.length_nil]
  | resolved _ _ => cases hread
  | rejected _ _ _ _ => cases hread

theorem Inv.run {h : List (Hashing H D E × ReadEvent E)} {s : Hashing H D E}
    (hr : Run (Step sp file) (fileMd5 sp file) h s) : Inv sp file (appended h) (failures h) s := by
  refine hr.always (P := fun h s => Inv sp file (appended h) (failures h) s) .start ?_
  intro h s l t _ hs hstep
  cases hstep with
  | load hread => exact hs.load hread
  | error e hread => exact hs.error hread e

/-! ## Whole runs -/

/-- **What a run of `fileMd5` has done**, that has appended these chunks and seen these
errors. -/
structure Hashes (sp : Spark H D) (file : List UInt8) (chunks : List (List UInt8))
    (errors : List E) (s : Hashing H D E) : Prop where
  /-- No read is one too many. -/
  bound : chunks.length ≤ reads file.length
  /-- Without a failure the loop reads on until it has made its reads. -/
  reading : errors = [] → chunks.length < reads file.length →
    s.promise = .pending ∧ ∃ chunk, s.reading = some chunk
  /-- With the last read it has appended exactly the file, and resolves with its digest. -/
  resolved : errors = [] → chunks.length = reads file.length →
    chunks.flatten = file ∧ s.promise = .resolved (sp.md5 file) ∧ s.reading = none
  /-- A failed read is the last one, and its error the outcome. -/
  rejected : ∀ e ∈ errors, s.promise = .rejected e ∧ s.reading = none

theorem Inv.hashes {chunks : List (List UInt8)} {errors : List E} {s : Hashing H D E}
    (h : Inv sp file chunks errors s) : Hashes sp file chunks errors s := by
  cases h with
  | reading hflat hstart =>
    have hlt : chunks.length < reads file.length := by
      refine lt_reads (hstart.imp_left fun h => ?_)
      rw [h, List.length_nil]
    exact {
      bound := Nat.le_of_lt hlt
      reading := fun _ _ => ⟨rfl, _, rfl⟩
      resolved := fun _ h => absurd h (Nat.ne_of_lt hlt)
      rejected := fun e he => by cases he }
  | resolved hall hn =>
    exact {
      bound := Nat.le_of_eq hn
      reading := fun _ h => absurd hn (Nat.ne_of_lt h)
      resolved := fun _ _ => ⟨hall, rfl, rfl⟩
      rejected := fun e he => by cases he }
  | rejected spark offset e hlt =>
    exact {
      bound := Nat.le_of_lt hlt
      reading := fun h _ => by cases h
      resolved := fun h _ => by cases h
      rejected := fun e' he => by
        cases List.mem_singleton.mp he
        exact ⟨rfl, rfl⟩ }

/-- The reads can all be made: some run without a failure has made any number of them. -/
theorem exists_run {n : Nat} (hn : n ≤ reads file.length) :
    ∃ h s, Run (Step sp file) (fileMd5 sp file : Hashing H D E) h s ∧ failures h = [] ∧
      (appended h).length = n := by
  induction n with
  | zero => exact ⟨[], _, .start, rfl, rfl⟩
  | succ n ih =>
    obtain ⟨h, s, hr, hfail, hlen⟩ := ih (Nat.le_of_succ_le hn)
    have hlt : (appended h).length < reads file.length := by omega
    obtain ⟨-, chunk, hread⟩ := (Inv.run hr).hashes.reading hfail hlt
    refine ⟨(s, .load chunk) :: h, _, hr.next (.load hread), hfail, ?_⟩
    rw [appended, List.length_append, List.length_singleton, hlen]

/-- **`fileMd5` reads every byte once and ends**: so does every run, and one without a failure
ends with the digest. -/
theorem fileMd5_hashes (sp : Spark H D) (file : List UInt8) :
    (∀ h (s : Hashing H D E), Run (Step sp file) (fileMd5 sp file) h s →
      Hashes sp file (appended h) (failures h) s) ∧
    ∃ h, ∃ s : Hashing H D E, Run (Step sp file) (fileMd5 sp file) h s ∧ failures h = [] ∧
      (appended h).length = reads file.length ∧ s.promise = .resolved (sp.md5 file) := by
  refine ⟨fun h s hr => (Inv.run hr).hashes, ?_⟩
  have hlast : ∃ h, ∃ s : Hashing H D E, Run (Step sp file) (fileMd5 sp file) h s ∧
      failures h = [] ∧ (appended h).length = reads file.length :=
    exists_run (Nat.le_refl _)
  obtain ⟨h, s, hr, hfail, hlen⟩ := hlast
  exact ⟨h, s, hr, hfail, hlen, ((Inv.run hr).hashes.resolved hfail hlen).2.1⟩

/-- A file of one byte more than a chunk is read twice, and the empty one once. -/
theorem fileMd5_hashes_chunks :
    (∃ h, ∃ s : Hashing (List UInt8) String String,
      Run (Step (keeping fun _ => "two") (List.replicate (chunkSize + 1) 0))
        (fileMd5 (keeping fun _ => "two") (List.replicate (chunkSize + 1) 0)) h s ∧
      failures h = [] ∧ (appended h).length = 2 ∧ s.promise = .resolved "two") ∧
    ∃ h, ∃ s : Hashing (List UInt8) String String,
      Run (Step (keeping fun _ => "d41d8cd98f00b204e9800998ecf8427e") [])
        (fileMd5 (keeping fun _ => "d41d8cd98f00b204e9800998ecf8427e") []) h s ∧
      failures h = [] ∧ (appended h).length = 1 ∧
      s.promise = .resolved "d41d8cd98f00b204e9800998ecf8427e" := by
  have htwo : reads (List.replicate (chunkSize + 1) (0 : UInt8)).length = 2 := by
    rw [List.length_replicate]
    rfl
  refine ⟨?_, (fileMd5_hashes (keeping fun _ => "d41d8cd98f00b204e9800998ecf8427e") []).2⟩
  rw [← htwo]
  exact (fileMd5_hashes (keeping fun _ => "two") _).2

/-! ## What is asked for with the digest -/

/-- A picked file. -/
structure LocalFile where
  name : String
  mimeType : String
  bytes : List UInt8

/-- The request of `generateUploadUrl`. -/
structure UploadUrlRequest (D : Type) where
  filename : String
  size : String
  md5 : D
  contentType : String
  deriving DecidableEq, Repr

/-- The first request of `handleLargeFileChange`, made once `fileMd5` is resolved; a rejection
goes to its `catch`. -/
def uploadRequest (file : LocalFile) (s : Hashing H D E) : Option (UploadUrlRequest D) :=
  match s.promise with
  | .resolved md5 => some ⟨file.name, toString file.bytes.length, md5,
      if file.mimeType = "" then "application/octet-stream" else file.mimeType⟩
  | _ => none

/-- **An upload is asked for under the file's own digest**, and only when every read
succeeded. -/
theorem uploadRequest_md5 {file : LocalFile} {h : List (Hashing H D E × ReadEvent E)}
    {s : Hashing H D E} (hr : Run (Step sp file.bytes) (fileMd5 sp file.bytes) h s)
    {req : UploadUrlRequest D} (hreq : uploadRequest file s = some req) :
    req.md5 = sp.md5 file.bytes ∧ failures h = [] := by
  have hinv : Inv sp file.bytes (appended h) (failures h) s := Inv.run hr
  generalize appended h = chunks at hinv
  generalize failures h = errors at hinv ⊢
  cases hinv with
  | reading _ _ => cases hreq
  | resolved _ _ =>
    cases hreq
    exact ⟨rfl, rfl⟩
  | rejected _ _ _ _ => cases hreq

end Testkit.FileMd5
