import Testkit.RegExp
import Testkit.Utf16

/-! # Recipients of a mail

The compose page takes a recipient as one tag, `Display Name <a@b.c>` or `a@b.c`, checks the
tags of a field with `addressListValidator` and sends what `toAddressPayload` makes of them.
`recipients` says that a written tag is parsed back to its name and address, and that the
tags the check lets pass, exactly those whose addresses are well formed, give one address
each, without line breaks.
-/
namespace Testkit.MailAddresses
open RegExp Utf16

/-! ## The page's functions -/

/-- `[^<>]` -/
def inBrackets (u : UInt16) : Bool := u != less && u != greater

/-- `[^\s@]` -/
def inAddress (u : UInt16) : Bool := !isSpace u && u != atSign

/-- `\s*<([^<>]+)>\s*$` -/
def bracketRe : Regex UInt16 :=
  .seq (.many isSpace) (.seq (.one (· == less)) (.seq (.group 2 (.some inBrackets))
    (.seq (.one (· == greater)) (.seq (.many isSpace) .stop))))

/-- `/^\s*(.*?)\s*<([^<>]+)>\s*$/` -/
def addressTagRe : Regex UInt16 :=
  .seq .start (.seq (.many isSpace) (.seq (.group 1 (.least fun u => !isLineTerminator u))
    bracketRe))

/-- `EMAIL_RE`: `/^[^\s@]+@[^\s@]+\.[^\s@]+$/` -/
def emailRe : Regex UInt16 :=
  .seq .start (.seq (.some inAddress) (.seq (.one (· == atSign)) (.seq (.some inAddress)
    (.seq (.one (· == dot)) (.seq (.some inAddress) .stop)))))

/-- A recipient as it is sent. -/
structure Address where
  email : Text
  displayName : Option Text
  deriving DecidableEq, Repr

/-- `parseAddressTag` -/
def parseAddressTag (tag : Text) : Address :=
  match exec addressTagRe tag with
  | some m =>
    { displayName := (m.capture 1).filter (· ≠ [])
      email := (m.capture 2).getD [] }
  | none => { email := trim tag, displayName := none }

/-- The tags that are not blank. -/
def written (tags : Option (List Text)) : List Text :=
  (tags.getD []).filter fun tag => trim tag ≠ []

/-- `addressListValidator`: the rejection's text, or nothing. -/
def addressListValidator (isRequired : Bool) (value : Option (List Text)) : Except Text Unit :=
  let tags := written value
  if isRequired ∧ tags.length = 0 then .error (ofString "请至少填写一个收件人")
  else
    let invalid := (tags.map parseAddressTag).filter fun addr => !test emailRe addr.email
    if 0 < invalid.length then
      .error (ofString "邮箱格式不正确：" ++
        (ofString "、").intercalate (invalid.map Address.email))
    else .ok ()

/-- `toAddressPayload` -/
def toAddressPayload (tags : Option (List Text)) : List Address :=
  (written tags).map fun tag =>
    let addr := parseAddressTag tag
    { email := addr.email, displayName := addr.displayName }

/-! ## The address in brackets -/

/-- What the end of the pattern matches: spaces, the address in brackets, spaces. -/
theorem mem_runs_bracketRe {atStart : Bool} {t : Text} {m : Match UInt16}
    (h : m ∈ runs bracketRe atStart t) : ∃ before e after,
      t = before ++ less :: (e ++ greater :: after) ∧ (∀ u ∈ before, isSpace u) ∧
        (∀ u ∈ e, inBrackets u) ∧ (∀ u ∈ after, isSpace u) ∧ m.groups = [(2, e)] := by
  obtain ⟨m₁, h₁, m₂, h₂, rfl⟩ := mem_runs_seq.mp h
  obtain ⟨m₃, h₃, m₄, h₄, rfl⟩ := mem_runs_seq.mp h₂
  obtain ⟨m₅, h₅, m₆, h₆, rfl⟩ := mem_runs_seq.mp h₄
  obtain ⟨m₇, h₇, m₈, h₈, rfl⟩ := mem_runs_seq.mp h₆
  obtain ⟨m₉, h₉, m₁₀, h₁₀, rfl⟩ := mem_runs_seq.mp h₈
  obtain ⟨ht, hbefore, hg₁⟩ := mem_runs_many.mp h₁
  obtain ⟨u, hu, hrest₁, -, hg₃⟩ := mem_runs_one.mp h₃
  obtain ⟨m₅', h₅', rfl⟩ := mem_runs_group.mp h₅
  obtain ⟨-, hrest₃, he, hg₅⟩ := mem_runs_some.mp h₅'
  obtain ⟨v, hv, hrest₅, -, hg₇⟩ := mem_runs_one.mp h₇
  obtain ⟨hrest₇, hafter, hg₉⟩ := mem_runs_many.mp h₉
  obtain ⟨hrest₉, rfl⟩ := mem_runs_stop.mp h₁₀
  obtain rfl : u = less := by simpa using hu
  obtain rfl : v = greater := by simpa using hv
  refine ⟨m₁.taken, m₅'.taken, m₉.taken, ?_, hbefore, he, hafter, ?_⟩
  · rw [ht, hrest₁, hrest₃, hrest₅, hrest₇, hrest₉, List.append_nil]
  · simp [Match.append, hg₁, hg₃, hg₅, hg₇, hg₉]

/-- Such a text is matched. -/
theorem exists_runs_bracketRe {before e : Text} (hbefore : ∀ u ∈ before, isSpace u)
    (he : ∀ u ∈ e, inBrackets u) (hne : e ≠ []) :
    ∃ m, m ∈ runs bracketRe true (before ++ less :: (e ++ [greater])) := by
  refine ⟨_, mem_runs_seq.mpr ⟨⟨before, less :: (e ++ [greater]), []⟩,
    mem_runs_many.mpr ⟨rfl, hbefore, rfl⟩, _,
    mem_runs_seq.mpr ⟨⟨[less], e ++ [greater], []⟩,
      mem_runs_one.mpr ⟨less, by decide, rfl, rfl, rfl⟩, _,
    mem_runs_seq.mpr ⟨⟨e, [greater], [(2, e)]⟩,
      mem_runs_group.mpr ⟨⟨e, [greater], []⟩, mem_runs_some.mpr ⟨hne, rfl, he, rfl⟩, rfl⟩, _,
    mem_runs_seq.mpr ⟨⟨[greater], [], []⟩,
      mem_runs_one.mpr ⟨greater, by decide, rfl, rfl, rfl⟩, _,
    mem_runs_seq.mpr ⟨⟨[], [], []⟩, mem_runs_many.mpr ⟨rfl, by simp, rfl⟩, _,
      mem_runs_stop.mpr ⟨rfl, rfl⟩, rfl⟩, rfl⟩, rfl⟩, rfl⟩, rfl⟩⟩

theorem not_mem_of_inBrackets {e : Text} (he : ∀ u ∈ e, inBrackets u) :
    less ∉ e ∧ greater ∉ e := by
  constructor
  · intro hin
    exact absurd (he less hin) (by decide)
  · intro hin
    exact absurd (he greater hin) (by decide)

/-- The pattern's end in a text that ends with an address in brackets: only white space
stands before the bracket. -/
theorem runs_bracketRe_written {atStart : Bool} {x e : Text} {m : Match UInt16}
    (he : ∀ u ∈ e, inBrackets u)
    (h : m ∈ runs bracketRe atStart (x ++ less :: (e ++ [greater]))) :
    (∀ u ∈ x, isSpace u) ∧ m.groups = [(2, e)] := by
  obtain ⟨before, e', after, htext, hbefore, he', hafter, hgroups⟩ := mem_runs_bracketRe h
  have hend : after = [] := by
    rcases List.eq_nil_or_concat after with rfl | ⟨init, u, rfl⟩
    · rfl
    have hlast := congrArg List.getLast? htext
    have hu : u = greater := by
      simpa [List.getLast?_append, List.getLast?_cons, eq_comm] using hlast
    have hspace := hafter u (by simp)
    rw [hu] at hspace
    cases hspace
  subst hend
  have hinner : x ++ less :: e = before ++ less :: e' := by
    refine (List.append_left_inj [greater]).mp ?_
    simpa using htext
  obtain ⟨rfl, rfl⟩ :=
    split_last (not_mem_of_inBrackets he).1 (not_mem_of_inBrackets he').1 hinner
  exact ⟨hbefore, hgroups⟩

theorem floating_bracketRe : Floating bracketRe := floating_of_floats rfl

/-- The first match of the pattern's end. -/
theorem first_bracketRe {before e : Text} (hbefore : ∀ u ∈ before, isSpace u)
    (he : ∀ u ∈ e, inBrackets u) (hne : e ≠ []) :
    ∃ m, (∀ b, first bracketRe b (before ++ less :: (e ++ [greater])) = some m) ∧
      m.groups = [(2, e)] := by
  cases hfirst : first bracketRe true (before ++ less :: (e ++ [greater])) with
  | none =>
    obtain ⟨m, hm⟩ := exists_runs_bracketRe hbefore he hne
    exact absurd hm (first_eq_none_iff.mp hfirst m)
  | some m =>
    refine ⟨m, fun b => ?_, (runs_bracketRe_written he (mem_runs_of_first hfirst)).2⟩
    rw [floating_bracketRe.first, hfirst]

/-- A text that ends with a character that is no space does not end the pattern's name. -/
theorem first_bracketRe_none {b : Bool} {x e : Text} (hx : ∃ u ∈ x, isSpace u = false)
    (he : ∀ u ∈ e, inBrackets u) : first bracketRe b (x ++ less :: (e ++ [greater])) = none := by
  rw [first_eq_none_iff]
  intro m hm
  obtain ⟨u, hu, hspace⟩ := hx
  rw [(runs_bracketRe_written he hm).1 u hu] at hspace
  cases hspace

/-! ## A written tag -/

/-- The name and the space behind it, as the pattern takes them. -/
theorem first_name {n e : Text} {b : Bool} (hn : ∀ u ∈ n, isLineTerminator u = false)
    (htrim : trim n = n) {s : Text} (hs : ∀ u ∈ s, isSpace u)
    (he : ∀ u ∈ e, inBrackets u) (hne : e ≠ []) :
    ∃ m, first (.seq (.group 1 (.least fun u => !isLineTerminator u)) bracketRe) b
      (n ++ (s ++ less :: (e ++ [greater]))) = some m ∧ m.groups = [(1, n), (2, e)] := by
  obtain ⟨m, hm, hgroups⟩ := first_bracketRe hs he hne
  refine ⟨_, first_least_seq (fun u hu => ?_) ?_ hm, ?_⟩
  · rw [hn u hu]
    rfl
  · intro n₁ n₂ b hn₂ heq
    rw [← List.append_assoc]
    refine first_bracketRe_none ?_ he
    -- the name's last character is no space, and it is the last of every shorter rest
    obtain ⟨init, u, hlast⟩ := (List.eq_nil_or_concat' n₂).resolve_left hn₂
    refine ⟨u, by simp [hlast], last_of_trim (t := n₁ ++ init) ?_⟩
    rw [List.append_assoc, ← hlast, ← heq]
    exact htrim
  · rw [hgroups]

/-- **A written tag** is parsed back to its name and its address. -/
theorem parse_written {n e : Text} (hn : ∀ u ∈ n, isLineTerminator u = false)
    (htrim : trim n = n) (hne : e ≠ []) (he : ∀ u ∈ e, inBrackets u) :
    parseAddressTag (n ++ ofString " <" ++ e ++ ofString ">") =
      { email := e, displayName := if n = [] then none else some n } := by
  have htext : n ++ ofString " <" ++ e ++ ofString ">" =
      n ++ ([space] ++ less :: (e ++ [greater])) := by
    have hopen : ofString " <" = [space, less] := rfl
    have hclose : ofString ">" = [greater] := rfl
    rw [hopen, hclose]
    simp
  have hexec : ∃ m, exec addressTagRe (n ++ ofString " <" ++ e ++ ofString ">") = some m ∧
      m.groups = [(1, n), (2, e)] := by
    rw [htext, addressTagRe, exec_start]
    cases n with
    | nil =>
      -- the leading white space takes the space, and nothing is left for the name
      obtain ⟨m, hm, hgroups⟩ := first_name (n := []) (b := false) hn htrim
        (s := []) (by simp) he hne
      exact ⟨_, first_many_seq hm, hgroups⟩
    | cons u n =>
      have hspace := head_of_trim htrim
      obtain ⟨m, hm, hgroups⟩ := first_name (b := true) hn htrim (s := [space])
        (List.forall_mem_singleton.mpr rfl) he hne
      refine ⟨_, first_many_seq ?_, hgroups⟩
      rw [List.cons_append, List.takeWhile_cons_of_neg (by simp [hspace]),
        List.dropWhile_cons_of_neg (by simp [hspace])]
      exact hm
  obtain ⟨m, hm, hgroups⟩ := hexec
  rw [parseAddressTag, hm]
  simp only [Match.capture, hgroups]
  by_cases hnil : n = [] <;> simp [hnil]

/-! ## Accepted tags -/

/-- A part of an address: not empty, and without white space and at signs. -/
def AddressPart (t : Text) : Prop := t ≠ [] ∧ ∀ u ∈ t, isSpace u = false ∧ u ≠ atSign

theorem addressPart_of_inAddress {t : Text} (hne : t ≠ []) (h : ∀ u ∈ t, inAddress u) :
    AddressPart t := by
  refine ⟨hne, fun u hu => ?_⟩
  obtain ⟨hspace, hat⟩ := Bool.and_eq_true_iff.mp (h u hu)
  exact ⟨by simpa using hspace, bne_iff_ne.mp hat⟩

/-- A well-formed address in its parts. -/
theorem parts_of_emailRe {t : Text} (h : test emailRe t) : ∃ user domain top,
    t = user ++ atSign :: (domain ++ dot :: top) ∧ AddressPart user ∧ AddressPart domain ∧
      AddressPart top := by
  rw [emailRe, test_start] at h
  obtain ⟨m, hm⟩ := h
  obtain ⟨m₁, h₁, m₂, h₂, rfl⟩ := mem_runs_seq.mp hm
  obtain ⟨m₃, h₃, m₄, h₄, rfl⟩ := mem_runs_seq.mp h₂
  obtain ⟨m₅, h₅, m₆, h₆, rfl⟩ := mem_runs_seq.mp h₄
  obtain ⟨m₇, h₇, m₈, h₈, rfl⟩ := mem_runs_seq.mp h₆
  obtain ⟨m₉, h₉, m₁₀, h₁₀, rfl⟩ := mem_runs_seq.mp h₈
  obtain ⟨huser, ht, huser', -⟩ := mem_runs_some.mp h₁
  obtain ⟨a, ha, hrest₁, -, -⟩ := mem_runs_one.mp h₃
  obtain ⟨hdomain, hrest₃, hdomain', -⟩ := mem_runs_some.mp h₅
  obtain ⟨d, hd, hrest₅, -, -⟩ := mem_runs_one.mp h₇
  obtain ⟨htop, hrest₇, htop', -⟩ := mem_runs_some.mp h₉
  obtain rfl : a = atSign := by simpa using ha
  obtain rfl : d = dot := by simpa using hd
  refine ⟨m₁.taken, m₅.taken, m₉.taken, ?_, addressPart_of_inAddress huser huser',
    addressPart_of_inAddress hdomain hdomain', addressPart_of_inAddress htop htop'⟩
  rw [ht, hrest₁, hrest₃, hrest₅, hrest₇, (mem_runs_stop.mp h₁₀).1, List.append_nil]

/-- A well-formed address has no white space. -/
theorem no_space_of_emailRe {t : Text} (h : test emailRe t) (u : UInt16) (hu : u ∈ t) :
    isSpace u = false := by
  obtain ⟨user, domain, top, rfl, huser, hdomain, htop⟩ := parts_of_emailRe h
  simp only [List.mem_append, List.mem_cons] at hu
  rcases hu with hu | rfl | hu | rfl | hu
  · exact (huser.2 u hu).1
  · rfl
  · exact (hdomain.2 u hu).1
  · rfl
  · exact (htop.2 u hu).1

/-- A parsed name has no line terminator. -/
theorem no_break_of_displayName {tag d : Text} (h : (parseAddressTag tag).displayName = some d)
    (u : UInt16) (hu : u ∈ d) : isLineTerminator u = false := by
  rw [parseAddressTag] at h
  cases hexec : exec addressTagRe tag with
  | none =>
    rw [hexec] at h
    cases h
  | some m =>
    rw [hexec] at h
    rw [addressTagRe, exec_start] at hexec
    obtain ⟨m₁, h₁, m₂, h₂, rfl⟩ := mem_runs_seq.mp (mem_runs_of_first hexec)
    obtain ⟨m₃, h₃, m₄, h₄, rfl⟩ := mem_runs_seq.mp h₂
    obtain ⟨m₃', h₃', rfl⟩ := mem_runs_group.mp h₃
    obtain ⟨-, -, hg₁⟩ := mem_runs_many.mp h₁
    obtain ⟨-, hname, -⟩ := mem_runs_least.mp h₃'
    obtain ⟨hcapture, -⟩ := Option.filter_eq_some_iff.mp h
    have hd : m₃'.taken = d := by simpa [Match.capture, Match.append, hg₁] using hcapture
    simpa using hname u (hd ▸ hu)

/-- The tags the validator lets pass. -/
theorem accepted_iff {isRequired : Bool} {value : Option (List Text)} :
    addressListValidator isRequired value = .ok () ↔
      (isRequired → written value ≠ []) ∧
        ∀ tag ∈ written value, test emailRe (parseAddressTag tag).email := by
  have hinvalid : ((written value).map parseAddressTag).filter
      (fun addr => !test emailRe addr.email) = [] ↔
        ∀ tag ∈ written value, test emailRe (parseAddressTag tag).email := by
    simp [List.filter_eq_nil_iff]
  rw [← hinvalid, addressListValidator]
  by_cases hmissing : isRequired ∧ (written value).length = 0
  · refine iff_of_false (by simp [hmissing]) fun h => ?_
    exact h.1 hmissing.1 (List.eq_nil_of_length_eq_zero hmissing.2)
  · have hrequired : isRequired → written value ≠ [] :=
      fun h hnil => hmissing ⟨h, by rw [hnil, List.length_nil]⟩
    simp only [hmissing, if_false]
    rw [and_iff_right hrequired]
    split
    · rename_i hsome
      refine iff_of_false (by simp) fun hnil => ?_
      rw [hnil] at hsome
      exact Nat.lt_irrefl 0 hsome
    · rename_i hnone
      exact iff_of_true rfl (List.eq_nil_of_length_eq_zero (by omega))

/-- Something stands in the tag besides white space. -/
def hasText (tag : Text) : Bool := tag.any fun u => !isSpace u

theorem trim_ne_nil_iff {tag : Text} : trim tag ≠ [] ↔ hasText tag := by
  rw [Ne, trim_eq_nil_iff, hasText, List.any_eq_true]
  simp

/-- The tags that are kept are those with text in them. -/
theorem written_eq (tags : Option (List Text)) : written tags = (tags.getD []).filter hasText := by
  rw [written]
  refine List.filter_congr fun tag _ => ?_
  rw [Bool.eq_iff_iff, decide_eq_true_iff]
  exact trim_ne_nil_iff

/-- Neither a carriage return nor a line feed. -/
def NoBreak (t : Text) : Prop := carriageReturn ∉ t ∧ newline ∉ t

theorem noBreak_of_not_lineTerminator {t : Text} (h : ∀ u ∈ t, isLineTerminator u = false) :
    NoBreak t := by
  constructor
  · intro hin
    exact absurd (h _ hin) (by decide)
  · intro hin
    exact absurd (h _ hin) (by decide)

/-- What is sent for an accepted tag. -/
structure Safe (tag : Text) (addr : Address) : Prop where
  parsed : addr = parseAddressTag tag
  wellFormed : test emailRe addr.email
  /-- What the pattern asks for: `user@domain.top`. -/
  parts : ∃ user domain top, addr.email = user ++ atSign :: (domain ++ dot :: top) ∧
    AddressPart user ∧ AddressPart domain ∧ AddressPart top
  email : NoBreak addr.email
  displayName : ∀ d, addr.displayName = some d → NoBreak d

/-- The addresses of a list that passes. -/
theorem safe_payload {isRequired : Bool} {tags : Option (List Text)}
    (haccepted : addressListValidator isRequired tags = .ok ()) :
    List.Forall₂ Safe ((tags.getD []).filter hasText) (toAddressPayload tags) := by
  rw [← written_eq, toAddressPayload, List.forall₂_map_right_iff, List.forall₂_same]
  intro tag htag
  have hemail := (accepted_iff.mp haccepted).2 tag htag
  constructor
  case parsed => rfl
  case wellFormed => exact hemail
  case parts => exact parts_of_emailRe hemail
  case email =>
    refine noBreak_of_not_lineTerminator fun u hu => ?_
    have hspace := no_space_of_emailRe hemail u hu
    by_contra hline
    rw [isSpace_of_isLineTerminator (by simpa using hline)] at hspace
    cases hspace
  case displayName =>
    exact fun d hd => noBreak_of_not_lineTerminator (no_break_of_displayName hd)

/-- The tags of a list that passes. -/
theorem passes_iff {isRequired : Bool} {tags : Option (List Text)} :
    addressListValidator isRequired tags = .ok () ↔
      (isRequired → ∃ tag ∈ tags.getD [], ∃ u ∈ tag, isSpace u = false) ∧
        ∀ tag ∈ tags.getD [], (∃ u ∈ tag, isSpace u = false) →
          test emailRe (parseAddressTag tag).email := by
  have htext : ∀ tag, hasText tag = true ↔ ∃ u ∈ tag, isSpace u = false := by
    simp [hasText]
  rw [accepted_iff, written_eq]
  simp only [List.mem_filter, htext, and_imp, ne_eq, List.filter_eq_nil_iff, not_forall, not_not,
    exists_prop]

/-- **Recipients**: a written tag is parsed back; the check lets a list pass exactly if each
tag with text in it has a well-formed address, and one is there where one is asked for; and
these tags, in their order, are sent as one safe address each. -/
theorem recipients (isRequired : Bool) :
    (∀ n e : Text, (∀ u ∈ n, isLineTerminator u = false) → trim n = n → e ≠ [] →
      less ∉ e → greater ∉ e → parseAddressTag (n ++ ofString " <" ++ e ++ ofString ">") =
        { email := e, displayName := if n = [] then none else some n }) ∧
    (∀ tags, addressListValidator isRequired tags = .ok () ↔
      (isRequired → ∃ tag ∈ tags.getD [], ∃ u ∈ tag, isSpace u = false) ∧
        ∀ tag ∈ tags.getD [], (∃ u ∈ tag, isSpace u = false) →
          test emailRe (parseAddressTag tag).email) ∧
    ∀ tags, addressListValidator isRequired tags = .ok () →
      List.Forall₂ Safe ((tags.getD []).filter fun tag => tag.any fun u => !isSpace u)
        (toAddressPayload tags) := by
  refine ⟨?_, fun tags => passes_iff, fun tags haccepted => safe_payload haccepted⟩
  intro n e hn htrim hne hless hgreater
  refine parse_written hn htrim hne fun u hu => ?_
  refine Bool.and_eq_true_iff.mpr ⟨bne_iff_ne.mpr ?_, bne_iff_ne.mpr ?_⟩
  · exact fun heq => hless (heq ▸ hu)
  · exact fun heq => hgreater (heq ▸ hu)

/-- A list of a tag, a blank one and another tag. -/
def opsTags : Option (List Text) :=
  some [ofString "Ops <ops@example.com>", ofString " ", ofString "dev@example.com"]

theorem recipients_ops :
    parseAddressTag (ofString "Ops" ++ ofString " <" ++ ofString "ops@example.com" ++ ofString ">")
        = { email := ofString "ops@example.com", displayName := some (ofString "Ops") } ∧
      List.Forall₂ Safe ((opsTags.getD []).filter fun tag => tag.any fun u => !isSpace u)
        (toAddressPayload opsTags) ∧
      (toAddressPayload opsTags).map Address.email =
        [ofString "ops@example.com", ofString "dev@example.com"] := by
  refine ⟨?_, ?_, by decide +kernel⟩
  · exact (recipients true).1 (ofString "Ops") (ofString "ops@example.com")
      (eq_false_of_any (by decide)) (by decide) (by decide) (by decide) (by decide)
  · exact (recipients true).2.2 opsTags (by decide +kernel)

end Testkit.MailAddresses
