import Testkit.JsonTree
import Testkit.RegExp
import Testkit.Utf16

/-! # The post-processing of the OpenAPI document

`fix-int64.js` reads the document, visits every node of it and turns what has a 64-bit integer
format into a plain string, and then deletes the error responses of every operation under
`paths`, so that the generator of the console's services takes the type of the success.

`visit` is complete (`visit_complete`), and what it changes is told by `Int64Fixed`; the
deletion only reaches the `responses` of operations (`Stripped`).  A document that is `null`
makes the script throw, and its file stays as it is.
-/
namespace Testkit.OpenApiFix
open JsonTree JsonTree.Json RegExp Utf16

/-- A document as `JSON.parse` returns it, over any numbers. -/
abbrev Doc (N : Type) := Json Text N

variable {N : Type}

/-! ## The script -/

/-- `INT64_FORMATS` -/
def int64Formats : List Text :=
  ["int64", "uint64", "sint64", "fixed64", "sfixed64"].map ofString

def formatKey : Text := ofString "format"
def typeKey : Text := ofString "type"
def pathsKey : Text := ofString "paths"
def responsesKey : Text := ofString "responses"

/-- `INT64_FORMATS.has(node.format)` -/
def hasInt64Format (ms : List (Text × Doc N)) : Bool :=
  match find formatKey ms with
  | some (.str format) => int64Formats.contains format
  | _ => false

/-- `node.type = 'string'; delete node.format` -/
def markString (ms : List (Text × Doc N)) : List (Text × Doc N) :=
  delete formatKey (put typeKey (.str (ofString "string")) ms)

mutual
/-- `visit`.  The members are visited before the object is marked: the two that the marking
touches are strings to the visit either way (`visit_obj`). -/
def visit : Doc N → Doc N
  | .arr es => .arr (visitElements es)
  | .obj ms => .obj (if hasInt64Format ms then markString (visitMembers ms) else visitMembers ms)
  | d => d

def visitElements : List (Doc N) → List (Doc N)
  | [] => []
  | e :: es => visit e :: visitElements es

def visitMembers : List (Text × Doc N) → List (Text × Doc N)
  | [] => []
  | (k, v) :: ms => (k, visit v) :: visitMembers ms
end

/-- `\d` -/
def isDigit (u : UInt16) : Bool := 0x30 ≤ u && u ≤ 0x39

/-- `[345]` -/
def isErrorDigit (u : UInt16) : Bool := 0x33 ≤ u && u ≤ 0x35

/-- `ERROR_CODES`: `/^(default|[345]\d\d)$/` -/
def errorCodesRe : Regex UInt16 :=
  .seq .start (.seq (.group 1 (.alt (.word ((ofString "default").map fun c u => u == c))
    (.word [isErrorDigit, isDigit, isDigit]))) .stop)

/-- `ERROR_CODES.test(code)` -/
def isErrorCode (code : Text) : Bool := test errorCodesRe code

/-- The key of an array's element. -/
def indexKey (i : Nat) : Text := (Nat.toDigits 10 i).map unit

/-- The deletion of the error codes.  Of an array it leaves holes, which are written as `null`;
a string's characters cannot be deleted. -/
def stripResponses : Doc N → Doc N
  | .obj rs => .obj (rs.filter fun r => !isErrorCode r.1)
  | .arr es => .arr (es.mapIdx fun i e =>
      if isErrorCode (indexKey i) then .null else e)
  | d => d

/-- The loop over the operations of a path item. -/
def stripPathItem : Doc N → Doc N := mapValues (mapMember responsesKey stripResponses)

/-- The second half of the script; `none` is the `TypeError` of `spec.paths`. -/
def strip : Doc N → Option (Doc N)
  | .null => none
  | spec => some (mapMember pathsKey (mapValues stripPathItem) spec)

/-- What the file holds after a run of the script. -/
def fixInt64 (spec : Doc N) : Doc N := (strip (visit spec)).getD spec

/-! ## What the documents are to be -/

/-- The object has no 64-bit integer format. -/
def NoInt64 (d : Doc N) : Prop := ∀ ms, d = .obj ms → hasInt64Format ms = false

/-- The members but the type and the format. -/
def others (ms : List (Text × Doc N)) : List (Text × Doc N) := delete formatKey (delete typeKey ms)

/-- **Every object with a 64-bit format is a string without one now**, and nothing else has
changed. -/
inductive Int64Fixed : Doc N → Doc N → Prop
  | leaf {d : Doc N} : d.isLeaf → Int64Fixed d d
  | arr {es es' : List (Doc N)} : List.Forall₂ Int64Fixed es es' → Int64Fixed (.arr es) (.arr es')
  | kept {ms ms' : List (Text × Doc N)} : hasInt64Format ms = false → keys ms' = keys ms →
      List.Forall₂ Int64Fixed (values ms) (values ms') → Int64Fixed (.obj ms) (.obj ms')
  | typed {ms ms' : List (Text × Doc N)} : hasInt64Format ms →
      find typeKey ms' = some (.str (ofString "string")) → find formatKey ms' = none →
      (typeKey ∈ keys ms → keys ms' = (keys ms).filter fun k => decide (k ≠ formatKey)) →
      (typeKey ∉ keys ms → keys ms' =
        (keys ms).filter (fun k => decide (k ≠ formatKey)) ++ [typeKey]) →
      List.Forall₂ Int64Fixed (values (others ms)) (values (others ms')) →
      Int64Fixed (.obj ms) (.obj ms')

/-- The error codes: `default`, and three digits of which the first is 3, 4 or 5. -/
def IsErrorCode (code : Text) : Prop :=
  code = ofString "default" ∨
    ∃ a b c, code = [a, b, c] ∧ isErrorDigit a ∧ isDigit b ∧ isDigit c

/-- The responses of an operation without its error codes: of an object exactly the other
members are left, in their order; an array keeps its length. -/
inductive ResponsesStripped : Doc N → Doc N → Prop
  | leaf {d : Doc N} : d.isLeaf → ResponsesStripped d d
  | obj {rs rs' : List (Text × Doc N)} : rs'.Sublist rs →
      (∀ r, r ∈ rs' ↔ r ∈ rs ∧ ¬ IsErrorCode r.1) → ResponsesStripped (.obj rs) (.obj rs')
  | arr {es es' : List (Doc N)} : es'.length = es.length →
      (∀ i : Nat, ¬ IsErrorCode (indexKey i) → es'[i]? = es[i]?) →
      (∀ i : Nat, i < es.length → IsErrorCode (indexKey i) → es'[i]? = some .null) →
      ResponsesStripped (.arr es) (.arr es')

/-- **Only the responses of the operations under `paths` have changed**: an operation is a
value of a path item, and a path item a value of `paths`. -/
def Stripped : Doc N → Doc N → Prop :=
  OnMember pathsKey (OnValues (OnValues (OnMember responsesKey ResponsesStripped)))

/-! ## The visit -/

theorem visitElements_eq (es : List (Doc N)) : visitElements es = es.map visit := by
  induction es with
  | nil => rfl
  | cons e es ih => rw [visitElements, ih, List.map_cons]

theorem visitMembers_eq (ms : List (Text × Doc N)) :
    visitMembers ms = ms.map fun m => (m.1, visit m.2) := by
  induction ms with
  | nil => rfl
  | cons m ms ih => rw [visitMembers, ih, List.map_cons]

theorem visit_leaf {d : Doc N} (hd : d.isLeaf) : visit d = d := by
  cases d <;> first | rfl | cases hd

@[simp] theorem visit_arr (es : List (Doc N)) : visit (.arr es) = .arr (es.map visit) := by
  rw [visit, visitElements_eq]

/-- Marking and visiting the members, in either order. -/
theorem markString_map (ms : List (Text × Doc N)) :
    markString (ms.map fun m => (m.1, visit m.2)) =
      (markString ms).map fun m => (m.1, visit m.2) := by
  have hput : put typeKey (.str (ofString "string")) (ms.map fun m => (m.1, visit m.2)) =
      (put typeKey (.str (ofString "string")) ms).map fun m => (m.1, visit m.2) := by
    induction ms with
    | nil => rfl
    | cons m ms ih =>
      by_cases hm : m.1 = typeKey
      · simp [put, hm, visit]
      · simpa [put, hm] using ih
  rw [markString, hput, markString, delete, delete, List.filter_map]
  rfl

/-- **The visit of an object** marks it, and then visits its members. -/
theorem visit_obj (ms : List (Text × Doc N)) :
    visit (.obj ms) = .obj ((if hasInt64Format ms then markString ms else ms).map
      fun m => (m.1, visit m.2)) := by
  rw [visit, visitMembers_eq]
  by_cases h : hasInt64Format ms
  · rw [if_pos h, if_pos h, markString_map]
  · rw [if_neg h, if_neg h]

theorem keepsStrings_visit : KeepsStrings (visit (N := N)) := by
  intro d s
  cases d <;> simp [visit]

theorem format_ne_type : formatKey ≠ typeKey := by decide

/-- What the marking does to an object. -/
theorem find_markString (ms : List (Text × Doc N)) :
    find typeKey (markString ms) = some (.str (ofString "string")) ∧
      find formatKey (markString ms) = none := by
  rw [markString, find_delete_of_ne format_ne_type.symm]
  exact ⟨find_put_self, find_delete_self⟩

theorem others_markString (ms : List (Text × Doc N)) : others (markString ms) = others ms := by
  rw [others, markString, delete_comm, delete_delete, delete_comm, delete_put]
  rfl

theorem keys_markString {ms : List (Text × Doc N)} (h : typeKey ∈ keys ms) :
    keys (markString ms) = (keys ms).filter fun k => decide (k ≠ formatKey) := by
  rw [← keys_put (v := .str (ofString "string")) h, keys, markString, delete, keys,
    List.filter_map]
  rfl

theorem markString_of_not_mem {ms : List (Text × Doc N)} (h : typeKey ∉ keys ms) :
    markString ms = delete formatKey ms ++ [(typeKey, .str (ofString "string"))] := by
  have hlast : delete formatKey [(typeKey, (.str (ofString "string") : Doc N))] =
      [(typeKey, .str (ofString "string"))] := rfl
  rw [markString, put_of_not_mem h, delete, List.filter_append, ← delete, ← delete, hlast]

/-- **The visit is local.** -/
theorem visit_fixed (d : Doc N) : Int64Fixed d (visit d) := by
  induction d using Json.induct with
  | leaf d hd =>
    rw [visit_leaf hd]
    exact .leaf hd
  | arr es ih =>
    rw [visit_arr]
    exact .arr (forall₂_map ih)
  | obj ms ih =>
    rw [visit_obj]
    by_cases h : hasInt64Format ms
    · rw [if_pos h]
      refine .typed h ?_ ?_ ?_ ?_ ?_
      · rw [find_map, (find_markString ms).1]
        rfl
      · rw [find_map, (find_markString ms).2]
        rfl
      · intro hin
        rw [keys_map, keys_markString hin]
      · intro hin
        rw [keys_map, markString_of_not_mem hin, keys, delete, List.map_append, keys,
          List.filter_map]
        rfl
      · have hothers : others ((markString ms).map fun m => (m.1, visit m.2)) =
            (others ms).map fun m => (m.1, visit m.2) := by
          rw [others, delete_map, delete_map, ← others, others_markString]
        rw [hothers, values_map]
        refine forall₂_map fun v hv => ?_
        obtain ⟨m, hm, rfl⟩ := List.mem_map.mp hv
        exact ih m (mem_of_mem_delete (mem_of_mem_delete hm))
    · rw [if_neg h]
      refine .kept (Bool.eq_false_iff.mpr h) keys_map ?_
      rw [values_map]
      refine forall₂_map fun v hv => ?_
      obtain ⟨m, hm, rfl⟩ := List.mem_map.mp hv
      exact ih m hm

/-! ## Completeness -/

theorem hasInt64Format_iff {ms : List (Text × Doc N)} : hasInt64Format ms ↔
    ∃ format, find formatKey ms = some (.str format) ∧ int64Formats.contains format := by
  unfold hasInt64Format
  cases find formatKey ms with
  | none => simp
  | some v => cases v <;> simp

/-- A rewriting of the values that keeps the strings keeps the formats. -/
theorem hasInt64Format_map {g : Text × Doc N → Text × Doc N} (hkey : ∀ m, (g m).1 = m.1)
    (hstr : ∀ m s, (g m).2 = .str s ↔ m.2 = .str s) (ms : List (Text × Doc N)) :
    hasInt64Format (ms.map g) = hasInt64Format ms := by
  rw [Bool.eq_iff_iff, hasInt64Format_iff, hasInt64Format_iff]
  simp only [find_map_str hkey hstr]

theorem noInt64_of_isLeaf {d : Doc N} (hd : d.isLeaf) : NoInt64 d := by
  rintro ms rfl
  cases hd

theorem noInt64_arr (es : List (Doc N)) : NoInt64 (.arr es) := by
  intro ms h
  cases h

theorem noInt64_obj {ms : List (Text × Doc N)} :
    NoInt64 (.obj ms) ↔ hasInt64Format ms = false := by
  constructor
  · intro h
    exact h ms rfl
  · rintro h _ ⟨⟩
    exact h

/-- **The visit is complete**: it leaves no 64-bit format anywhere. -/
theorem visit_complete (d : Doc N) : Everywhere NoInt64 (visit d) := by
  induction d using Json.induct with
  | leaf d hd =>
    rw [visit_leaf hd, everywhere_leaf hd]
    exact noInt64_of_isLeaf hd
  | arr es ih =>
    rw [visit_arr, everywhere_arr]
    exact ⟨noInt64_arr _, List.forall_mem_map.mpr ih⟩
  | obj ms ih =>
    have hvisit : ∀ ms' : List (Text × Doc N), hasInt64Format
        (ms'.map fun m => (m.1, visit m.2)) = hasInt64Format ms' :=
      hasInt64Format_map (fun _ => rfl) fun m s => keepsStrings_visit m.2 s
    rw [visit_obj, everywhere_obj, noInt64_obj, hvisit]
    by_cases h : hasInt64Format ms
    · rw [if_pos h]
      refine ⟨?_, List.forall_mem_map.mpr fun m hm => ?_⟩
      · rw [hasInt64Format, (find_markString ms).2]
      · -- a member of the marked object is the new type, or one of before
        rcases mem_put (mem_of_mem_delete hm) with hin | hstr
        · exact ih m hin
        · rw [hstr]
          exact (everywhere_leaf rfl).mpr (noInt64_of_isLeaf rfl)
    · rw [if_neg h]
      exact ⟨Bool.eq_false_iff.mpr h, List.forall_mem_map.mpr ih⟩

/-- A document without 64-bit formats is left as it is. -/
theorem visit_eq_self {d : Doc N} (h : Everywhere NoInt64 d) : visit d = d := by
  induction d using Json.induct with
  | leaf d hd => exact visit_leaf hd
  | arr es ih =>
    rw [everywhere_arr] at h
    have hmap : es.map visit = es.map id := List.map_congr_left fun e he => ih e he (h.2 e he)
    rw [visit_arr, hmap, List.map_id]
  | obj ms ih =>
    rw [everywhere_obj, noInt64_obj] at h
    have hmap : ms.map (fun m => (m.1, visit m.2)) = ms.map id :=
      List.map_congr_left fun m hm => Prod.ext rfl (ih m hm (h.2 m hm))
    rw [visit_obj, if_neg (Bool.eq_false_iff.mp h.1), hmap, List.map_id]

/-! ## The responses -/

theorem fits_three {p q r : UInt16 → Bool} {code : Text} : Fits [p, q, r] code ↔
    ∃ a b c, code = [a, b, c] ∧ p a ∧ q b ∧ r c := by
  constructor
  · intro h
    cases h with
    | cons ha h =>
      cases h with
      | cons hb h =>
        cases h with
        | cons hc h =>
          cases h
          exact ⟨_, _, _, rfl, ha, hb, hc⟩
  · rintro ⟨a, b, c, rfl, ha, hb, hc⟩
    exact .cons ha (.cons hb (.cons hc .nil))

/-- `ERROR_CODES` matches the error codes. -/
theorem isErrorCode_iff {code : Text} : isErrorCode code ↔ IsErrorCode code := by
  have hcodes : IsErrorCode code ↔ Fits ((ofString "default").map fun c u => u == c) code ∨
      Fits [isErrorDigit, isDigit, isDigit] code := by
    rw [IsErrorCode, fits_map_beq, fits_three]
  rw [isErrorCode, errorCodesRe, test_start, hcodes]
  constructor
  · rintro ⟨m, hm⟩
    obtain ⟨m₁, h₁, m₂, h₂, rfl⟩ := mem_runs_seq.mp hm
    obtain ⟨m₁', h₁', rfl⟩ := mem_runs_group.mp h₁
    have hrest : m₁'.rest = [] := (mem_runs_stop.mp h₂).1
    have htaken : code = m₁'.taken := by
      rw [runs_append h₁', hrest, List.append_nil]
    rw [htaken]
    exact (mem_runs_alt.mp h₁').imp (fun h => (mem_runs_word.mp h).1)
      fun h => (mem_runs_word.mp h).1
  · intro h
    have halt : (⟨code, [], []⟩ : Match UInt16) ∈
        runs (.alt (.word ((ofString "default").map fun c u => u == c))
          (.word [isErrorDigit, isDigit, isDigit])) true code :=
      mem_runs_alt.mpr (h.imp
        (fun h => mem_runs_word.mpr ⟨h, (List.append_nil code).symm, rfl⟩)
        fun h => mem_runs_word.mpr ⟨h, (List.append_nil code).symm, rfl⟩)
    exact ⟨_, mem_runs_seq.mpr ⟨_, mem_runs_group.mpr ⟨_, halt, rfl⟩, ⟨[], [], []⟩,
      mem_runs_stop.mpr ⟨rfl, rfl⟩, rfl⟩⟩

/-- **The deletion** leaves exactly the responses of other codes. -/
theorem stripResponses_stripped (d : Doc N) : ResponsesStripped d (stripResponses d) := by
  cases d with
  | obj rs =>
    refine .obj List.filter_sublist fun r => ?_
    rw [List.mem_filter, ← isErrorCode_iff]
    simp
  | arr es =>
    refine .arr List.length_mapIdx ?_ ?_
    · intro i hi
      rw [← isErrorCode_iff] at hi
      rw [List.getElem?_mapIdx]
      cases es[i]? <;> simp [hi]
    · intro i hlt hi
      rw [← isErrorCode_iff] at hi
      rw [List.getElem?_mapIdx, List.getElem?_eq_getElem hlt]
      simp [hi]
  | _ => exact .leaf rfl

theorem stripResponses_idempotent (d : Doc N) :
    stripResponses (stripResponses d) = stripResponses d := by
  cases d with
  | obj rs => simp [stripResponses]
  | arr es =>
    rw [stripResponses, stripResponses, List.mapIdx_mapIdx]
    congr 2
    funext i e
    by_cases hi : isErrorCode (indexKey i) <;> simp [hi]
  | _ => rfl

theorem keepsStrings_stripResponses : KeepsStrings (stripResponses (N := N)) := by
  intro d s
  cases d <;> simp [stripResponses]

/-! ## The second half -/

/-- A rewriting of the members that keeps the strings brings no format back. -/
theorem everywhere_map {g : Text × Doc N → Text × Doc N} (hkey : ∀ m, (g m).1 = m.1)
    (hstr : ∀ m s, (g m).2 = .str s ↔ m.2 = .str s) {ms : List (Text × Doc N)}
    (h : Everywhere NoInt64 (.obj ms))
    (hg : ∀ m ∈ ms, Everywhere NoInt64 m.2 → Everywhere NoInt64 (g m).2) :
    Everywhere NoInt64 (.obj (ms.map g)) := by
  rw [everywhere_obj, noInt64_obj] at h ⊢
  rw [hasInt64Format_map hkey hstr]
  exact ⟨h.1, List.forall_mem_map.mpr fun m hm => hg m hm (h.2 m hm)⟩

theorem everywhere_mapValues {f : Doc N → Doc N} (hstr : KeepsStrings f)
    (hf : ∀ d, Everywhere NoInt64 d → Everywhere NoInt64 (f d)) {d : Doc N}
    (h : Everywhere NoInt64 d) : Everywhere NoInt64 (mapValues f d) := by
  cases d with
  | arr es =>
    rw [mapValues, everywhere_arr] at *
    exact ⟨noInt64_arr _, List.forall_mem_map.mpr fun e he => hf e (h.2 e he)⟩
  | obj ms =>
    exact everywhere_map (g := fun m => (m.1, f m.2)) (fun _ => rfl) (fun m s => hstr m.2 s) h
      fun m _ => hf m.2
  | _ => exact h

theorem everywhere_mapMember {f : Doc N → Doc N} (hstr : KeepsStrings f)
    (hf : ∀ d, Everywhere NoInt64 d → Everywhere NoInt64 (f d)) (key : Text) {d : Doc N}
    (h : Everywhere NoInt64 d) : Everywhere NoInt64 (mapMember key f d) := by
  cases d with
  | obj ms =>
    refine everywhere_map ?_ ?_ h ?_
    · intro m
      by_cases hm : m.1 = key <;> simp [hm]
    · intro m s
      by_cases hm : m.1 = key
      · simpa [hm] using hstr m.2 s
      · simp [hm]
    · intro m _ hall
      by_cases hm : m.1 = key
      · simpa [hm] using hf m.2 hall
      · simpa [hm] using hall
  | _ => exact h

theorem everywhere_stripResponses {d : Doc N} (h : Everywhere NoInt64 d) :
    Everywhere NoInt64 (stripResponses d) := by
  cases d with
  | obj rs =>
    have hformat : isErrorCode formatKey = false := by decide +kernel
    rw [stripResponses, everywhere_obj, noInt64_obj] at *
    rw [hasInt64Format, find_filter (p := fun k => !isErrorCode k) (by simp [hformat]),
      ← hasInt64Format]
    exact ⟨h.1, fun r hr => h.2 r (List.mem_filter.mp hr).1⟩
  | arr es =>
    rw [stripResponses, everywhere_arr] at *
    refine ⟨noInt64_arr _, fun e he => ?_⟩
    obtain ⟨i, hi, rfl⟩ := List.mem_mapIdx.mp he
    by_cases hcode : isErrorCode (indexKey i)
    · rw [if_pos hcode]
      exact (everywhere_leaf rfl).mpr (noInt64_of_isLeaf rfl)
    · rw [if_neg hcode]
      exact h.2 _ (List.getElem_mem hi)
  | _ => exact h

/-- The rewriting of `paths` in the second half. -/
theorem strip_of_ne_null {d : Doc N} (hd : d ≠ .null) :
    strip d = some (mapMember pathsKey (mapValues stripPathItem) d) := by
  cases d with
  | null => exact absurd rfl hd
  | _ => rfl

theorem stripped (d : Doc N) : Stripped d (mapMember pathsKey (mapValues stripPathItem) d) :=
  onMember_mapMember (onValues_mapValues (onValues_mapValues
    (onMember_mapMember stripResponses_stripped responsesKey))) pathsKey d

theorem strip_idempotent (d : Doc N) :
    mapMember pathsKey (mapValues stripPathItem)
        (mapMember pathsKey (mapValues stripPathItem) d) =
      mapMember pathsKey (mapValues stripPathItem) d :=
  mapMember_idempotent (mapValues_idempotent (mapValues_idempotent
    (mapMember_idempotent stripResponses_idempotent responsesKey))) pathsKey d

theorem everywhere_strip {d : Doc N} (h : Everywhere NoInt64 d) :
    Everywhere NoInt64 (mapMember pathsKey (mapValues stripPathItem) d) := by
  have hoperation : ∀ d : Doc N, Everywhere NoInt64 d →
      Everywhere NoInt64 (mapMember responsesKey stripResponses d) := fun d =>
    everywhere_mapMember keepsStrings_stripResponses (fun _ => everywhere_stripResponses) _
  have hpathItem : ∀ d : Doc N, Everywhere NoInt64 d → Everywhere NoInt64 (stripPathItem d) :=
    fun d => everywhere_mapValues (keepsStrings_mapMember responsesKey) hoperation
  exact everywhere_mapMember keepsStrings_mapValues
    (fun d => everywhere_mapValues keepsStrings_mapValues hpathItem) pathsKey h

/-- **What the file holds after a run.** -/
structure PostProcessed (d d' : Doc N) : Prop where
  /-- No object anywhere has a 64-bit integer format. -/
  complete : Everywhere NoInt64 d'
  /-- The formats and the responses of the operations, and nothing else, have changed. -/
  changes : ∃ visited, Int64Fixed d visited ∧ Stripped visited d'
  /-- A second run changes nothing. -/
  idempotent : fixInt64 d' = d'

theorem visit_eq_null {d : Doc N} : visit d = .null ↔ d = .null := by
  cases d <;> simp [visit]

theorem fixInt64_of_ne_null {d : Doc N} (hd : d ≠ .null) :
    fixInt64 d = mapMember pathsKey (mapValues stripPathItem) (visit d) := by
  rw [fixInt64, strip_of_ne_null (mt visit_eq_null.mp hd)]
  rfl

/-- **The post-processing is complete, local and idempotent**, on every document. -/
theorem fixInt64_postProcessed (d : Doc N) : PostProcessed d (fixInt64 d) := by
  by_cases hd : d = .null
  · -- the script throws, and the file stays
    subst hd
    exact ⟨(everywhere_leaf rfl).mpr (noInt64_of_isLeaf rfl),
      ⟨.null, .leaf rfl, .other (by simp)⟩, rfl⟩
  · have hclean : Everywhere NoInt64 (mapMember pathsKey (mapValues stripPathItem) (visit d)) :=
      everywhere_strip (visit_complete d)
    rw [fixInt64_of_ne_null hd]
    refine ⟨hclean, ⟨visit d, visit_fixed d, stripped (visit d)⟩, ?_⟩
    have hne : mapMember pathsKey (mapValues stripPathItem) (visit d) ≠ .null := by
      have hvisit : visit d ≠ .null := mt visit_eq_null.mp hd
      cases hv : visit d with
      | null => exact absurd hv hvisit
      | _ => simp [mapMember]
    rw [fixInt64_of_ne_null hne, visit_eq_self hclean, strip_idempotent]

/-- A document with one operation that has these responses. -/
def withResponses (responses : Doc N) : Doc N :=
  .obj [(pathsKey, .obj [(ofString "/ping", .obj [(ofString "get",
    .obj [(responsesKey, responses)])])])]

theorem fixInt64_withResponses (responses : Doc N) :
    fixInt64 (withResponses responses) = withResponses (stripResponses (visit responses)) := rfl

/-- Of responses in an array that end at the first error code, the last is not taken out. -/
theorem stripResponses_arr {es : List (Doc N)} {e : Doc N}
    (hbelow : ∀ i < es.length, isErrorCode (indexKey i) = false)
    (hcode : isErrorCode (indexKey es.length)) :
    stripResponses (.arr (es ++ [e])) = .arr (es ++ [.null]) := by
  have hkept : es.mapIdx (fun i e => if isErrorCode (indexKey i) then .null else e) = es := by
    refine List.ext_getElem List.length_mapIdx fun i _ hi => ?_
    rw [List.getElem_mapIdx, hbelow i hi, if_neg Bool.false_ne_true]
  rw [stripResponses, List.mapIdx_append, hkept, List.mapIdx_singleton, Nat.zero_add, if_pos hcode]

theorem fixInt64_replicate {n : Nat} (hbelow : ∀ i < n, isErrorCode (indexKey i) = false)
    (hcode : isErrorCode (indexKey n)) :
    fixInt64 (withResponses (.arr (List.replicate n (.bool true : Doc N) ++ [.bool true]))) =
      withResponses (.arr (List.replicate n (.bool true) ++ [.null])) := by
  have hlength : (List.replicate n (.bool true : Doc N)).length = n := List.length_replicate
  rw [fixInt64_withResponses, visit_arr, List.map_append, List.map_replicate, List.map_singleton,
    visit_leaf rfl, stripResponses_arr (by rwa [hlength]) (by rwa [hlength])]

theorem withResponses_arr_inj {es es' : List (Doc N)}
    (h : withResponses (.arr es) = withResponses (.arr es')) : es = es' := by
  simpa [withResponses] using h

theorem withResponses_append_ne {es : List (Doc N)} {e : Doc N} :
    withResponses (.arr (es ++ [e])) ≠ withResponses (.arr es) := by
  intro h
  have hlength := congrArg List.length (withResponses_arr_inj h)
  rw [List.length_append, List.length_singleton] at hlength
  omega

/-- Responses in an array: the one at an error code is not taken out, and not unchanged. -/
theorem fixInt64_array : IsErrorCode (indexKey 300) ∧
    fixInt64 (withResponses (.arr (List.replicate 300 (.bool true : Doc Nat) ++ [.bool true]))) =
      withResponses (.arr (List.replicate 300 (.bool true) ++ [.null])) ∧
    withResponses (.arr (List.replicate 300 (.bool true : Doc Nat) ++ [.null])) ≠
      withResponses (.arr (List.replicate 300 (.bool true))) := by
  have hcode : isErrorCode (indexKey 300) = true := by decide +kernel
  have hcodes : (List.range 300).all (fun i => !isErrorCode (indexKey i)) = true := by
    decide +kernel
  refine ⟨isErrorCode_iff.mp hcode, fixInt64_replicate ?_ hcode, withResponses_append_ne⟩
  intro i hi
  have hnot := List.all_eq_true.mp hcodes i (List.mem_range.mpr hi)
  rwa [Bool.not_eq_true'] at hnot

end Testkit.OpenApiFix
