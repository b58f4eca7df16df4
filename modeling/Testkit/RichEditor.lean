import Testkit.LabelledRuns
import Testkit.Utf16

/-! # The body editor of the composer

`RichEmailEditor` shows a mail body either in a contentEditable area or as its source in a
textarea.  The area stays mounted in both modes.  The page holds the body a second time:
each change is reported to it through `onHtmlChange`.

The imperative handle and the mode button are closures over a render.  What an input event
sets is rendered before the next one comes, but an answer of the backend may append to the
body before an earlier append is rendered: the mode a closure has is the mode of the editor,
while the source text it has may be an older one.

So the page always holds what the editor shows (`editor_shows`), and appended fragments all
stay in it while each of them finds the text of the moment (`appends_stay`).
-/
namespace Testkit.RichEditor
open LabelledRuns Utf16

/-- **What the editor needs of a browser**: the `innerHTML` of an element, read and written,
and `insertAdjacentHTML("beforeend", …)`. -/
structure Browser (Dom : Type) where
  parse : Text → Dom
  innerHTML : Dom → Text
  insertEnd : Dom → Text → Dom

/-- What is on display. -/
inductive Mode
  | rich
  | source
  deriving DecidableEq, Repr

variable {Dom : Type}

/-- The state of the editor: the mode, the text of the textarea and the content of the
area; the mode and the text of the last render; and the body the page holds. -/
structure Editor (Dom : Type) where
  mode : Mode
  sourceValue : Text
  dom : Dom
  shownMode : Mode
  shownSource : Text
  htmlContent : Text

/-- An editor without a seed, on a page without a body. -/
def mounted (b : Browser Dom) : Editor Dom := ⟨.rich, [], b.parse [], .rich, [], []⟩

section Handle
variable (b : Browser Dom)

/-- `onHtmlChange`, which is `setHtmlContent` of the page. -/
def Editor.onHtmlChange (e : Editor Dom) (html : Text) : Editor Dom :=
  { e with htmlContent := html }

/-- `notify`. -/
def Editor.notify (e : Editor Dom) : Editor Dom := e.onHtmlChange (b.innerHTML e.dom)

/-- `setHtml` of the handle. -/
def Editor.setHtml (e : Editor Dom) (html : Text) : Editor Dom :=
  match e.shownMode with
  | .source => { e with sourceValue := html }.onHtmlChange html
  | .rich => { e with dom := b.parse html }.onHtmlChange html

/-- `appendHtml` of the handle. -/
def Editor.appendHtml (e : Editor Dom) (html : Text) : Editor Dom :=
  match e.shownMode with
  | .source =>
    let next := e.shownSource ++ html
    { e with sourceValue := next }.onHtmlChange next
  | .rich => { e with dom := b.insertEnd e.dom html }.notify b

/-- `toggleMode`. -/
def Editor.toggleMode (e : Editor Dom) : Editor Dom :=
  match e.shownMode with
  | .rich =>
    let html := b.innerHTML e.dom
    { e with sourceValue := html, mode := .source }.onHtmlChange html
  | .source => { e with dom := b.parse e.shownSource, mode := .rich }.onHtmlChange e.shownSource

end Handle

/-- React renders the editor. -/
def Editor.render (e : Editor Dom) : Editor Dom :=
  { e with shownMode := e.mode, shownSource := e.sourceValue }

/-- What happens to the editor. -/
inductive Event (Dom : Type)
  | render
  /-- The user types in the area, or a command of the toolbar changes it. -/
  | input (dom : Dom)
  /-- The user types in the textarea. -/
  | edit (text : Text)
  | toggleMode
  /-- `setHtml`, for a preset template. -/
  | setHtml (html : Text)
  /-- `appendHtml`, for the block of an attachment. -/
  | appendHtml (html : Text)

/-- A step of the editor.  All but `appendHtml` are input events, and rendered at once. -/
inductive Step (b : Browser Dom) : Editor Dom → Event Dom → Editor Dom → Prop
  | render {e : Editor Dom} : Step b e .render e.render
  | input {e : Editor Dom} (dom : Dom) : e.shownMode = .rich →
      Step b e (.input dom) (({ e with dom }.notify b).render)
  | edit {e : Editor Dom} (text : Text) : e.shownMode = .source →
      Step b e (.edit text) ({ e with sourceValue := text }.onHtmlChange text).render
  | toggleMode {e : Editor Dom} : Step b e .toggleMode (e.toggleMode b).render
  | setHtml {e : Editor Dom} (html : Text) : Step b e (.setHtml html) (e.setHtml b html).render
  | appendHtml {e : Editor Dom} (html : Text) :
      Step b e (.appendHtml html) (e.appendHtml b html)

variable {b : Browser Dom} {e e' : Editor Dom} {l : Event Dom}

/-! ## The closures by their mode -/

theorem setHtml_source (h : e.shownMode = .source) (html : Text) :
    e.setHtml b html = { e with sourceValue := html, htmlContent := html } := by
  simp only [Editor.setHtml, h, Editor.onHtmlChange]

theorem setHtml_rich (h : e.shownMode = .rich) (html : Text) :
    e.setHtml b html = { e with dom := b.parse html, htmlContent := html } := by
  simp only [Editor.setHtml, h, Editor.onHtmlChange]

theorem appendHtml_source (h : e.shownMode = .source) (html : Text) : e.appendHtml b html =
    { e with sourceValue := e.shownSource ++ html, htmlContent := e.shownSource ++ html } := by
  simp only [Editor.appendHtml, h, Editor.onHtmlChange]

theorem appendHtml_rich (h : e.shownMode = .rich) (html : Text) : e.appendHtml b html =
    { e with
      dom := b.insertEnd e.dom html, htmlContent := b.innerHTML (b.insertEnd e.dom html) } := by
  simp only [Editor.appendHtml, h, Editor.notify, Editor.onHtmlChange]

theorem toggleMode_source (h : e.shownMode = .source) : e.toggleMode b =
    { e with dom := b.parse e.shownSource, mode := .rich, htmlContent := e.shownSource } := by
  simp only [Editor.toggleMode, h, Editor.onHtmlChange]

theorem toggleMode_rich (h : e.shownMode = .rich) : e.toggleMode b =
    { e with
      sourceValue := b.innerHTML e.dom, mode := .source, htmlContent := b.innerHTML e.dom } := by
  simp only [Editor.toggleMode, h, Editor.onHtmlChange]

/-! ## The page holds what the editor shows -/

/-- **The body of the page is the one on display**: the text of the textarea; or what the
area was made from, or what is read off it. -/
structure Shows (b : Browser Dom) (e : Editor Dom) : Prop where
  mode : e.shownMode = e.mode
  source : e.mode = .source → e.htmlContent = e.sourceValue
  rich : e.mode = .rich → e.dom = b.parse e.htmlContent ∨ e.htmlContent = b.innerHTML e.dom

theorem shows_of_source (hshown : e.shownMode = .source) (hmode : e.mode = .source)
    (h : e.htmlContent = e.sourceValue) : Shows b e where
  mode := hshown.trans hmode.symm
  source _ := h
  rich hrich := absurd (hmode.symm.trans hrich) Mode.noConfusion

theorem shows_of_rich (hshown : e.shownMode = .rich) (hmode : e.mode = .rich)
    (h : e.dom = b.parse e.htmlContent ∨ e.htmlContent = b.innerHTML e.dom) : Shows b e where
  mode := hshown.trans hmode.symm
  source hsource := absurd (hmode.symm.trans hsource) Mode.noConfusion
  rich _ := h

theorem shows_mounted : Shows b (mounted b) := shows_of_rich rfl rfl (.inl rfl)

/-- A render keeps the body and catches up with the mode. -/
theorem shows_render (h : Shows b e) : Shows b e.render := ⟨rfl, h.source, h.rich⟩

theorem shows_setHtml (h : Shows b e) (html : Text) : Shows b (e.setHtml b html) := by
  cases hmode : e.shownMode with
  | source =>
    rw [setHtml_source hmode]
    exact shows_of_source hmode (h.mode.symm.trans hmode) rfl
  | rich =>
    rw [setHtml_rich hmode]
    exact shows_of_rich hmode (h.mode.symm.trans hmode) (.inl rfl)

/-- The text of the closure may be an older one: the page and the textarea get the same. -/
theorem shows_appendHtml (h : Shows b e) (html : Text) : Shows b (e.appendHtml b html) := by
  cases hmode : e.shownMode with
  | source =>
    rw [appendHtml_source hmode]
    exact shows_of_source hmode (h.mode.symm.trans hmode) rfl
  | rich =>
    rw [appendHtml_rich hmode]
    exact shows_of_rich hmode (h.mode.symm.trans hmode) (.inr rfl)

/-- The closures catch up with the new mode in the render that follows. -/
theorem shows_toggleMode (e : Editor Dom) : Shows b (e.toggleMode b).render := by
  cases hmode : e.shownMode with
  | source =>
    rw [toggleMode_source hmode]
    exact shows_of_rich rfl rfl (.inl rfl)
  | rich =>
    rw [toggleMode_rich hmode]
    exact shows_of_source rfl rfl rfl

theorem shows_step (h : Shows b e) (hs : Step b e l e') : Shows b e' := by
  cases hs with
  | render => exact shows_render h
  | input dom hrich =>
    have hmode : e.mode = .rich := h.mode.symm.trans hrich
    exact shows_of_rich hmode hmode (.inr rfl)
  | edit text hsource =>
    have hmode : e.mode = .source := h.mode.symm.trans hsource
    exact shows_of_source hmode hmode rfl
  | toggleMode => exact shows_toggleMode e
  | setHtml html => exact shows_render (shows_setHtml h html)
  | appendHtml html => exact shows_appendHtml h html

/-- **The page holds what the editor shows**, in every run. -/
theorem editor_shows {h : List (Editor Dom × Event Dom)} (hr : Run (Step b) (mounted b) h e) :
    Shows b e :=
  hr.invariant shows_mounted fun _ _ _ he hs => shows_step he hs

/-! ## What is appended stays -/

/-- The fragments that were appended, the first first. -/
def appended : List (Editor Dom × Event Dom) → List Text
  | [] => []
  | (_, .appendHtml html) :: h => appended h ++ [html]
  | _ :: h => appended h

/-- The step is none of the user's, and what is appended finds the text of the moment. -/
def Appending (e : Editor Dom) : Event Dom → Prop
  | .render => True
  | .appendHtml _ => e.shownSource = e.sourceValue
  | _ => False

/-- **The body `e'` is the body `e` with fragments at its end.** -/
structure Extends (b : Browser Dom) (e : Editor Dom) (fragments : List Text) (e' : Editor Dom) :
    Prop where
  mode : e'.mode = e.mode
  source : e.mode = .source → e'.sourceValue = e.sourceValue ++ fragments.flatten
  rich : e.mode = .rich → e'.dom = fragments.foldl b.insertEnd e.dom

theorem extends_append {f : Editor Dom} {fragments : List Text} (h : Extends b e fragments f)
    (hf : Shows b f) (hfresh : f.shownSource = f.sourceValue) (html : Text) :
    Extends b e (fragments ++ [html]) (f.appendHtml b html) := by
  cases hmode : f.shownMode with
  | source =>
    have hsource : e.mode = .source := (h.mode.symm.trans hf.mode.symm).trans hmode
    rw [appendHtml_source hmode]
    refine ⟨h.mode, fun _ => ?_, fun hrich => absurd (hsource.symm.trans hrich) Mode.noConfusion⟩
    -- a closure of an older render would write over what came since
    show f.shownSource ++ html = _
    rw [hfresh, h.source hsource, List.flatten_append, List.flatten_singleton, List.append_assoc]
  | rich =>
    have hrich : e.mode = .rich := (h.mode.symm.trans hf.mode.symm).trans hmode
    rw [appendHtml_rich hmode]
    refine ⟨h.mode, fun hsource => absurd (hrich.symm.trans hsource) Mode.noConfusion, fun _ => ?_⟩
    show b.insertEnd f.dom html = _
    rw [h.rich hrich, List.foldl_append, List.foldl_cons, List.foldl_nil]

/-- **What is appended stays**, in every run of appends that each find the text of the
moment: the fragments stand at the end of the body in their order, in either mode. -/
theorem appends_stay (h0 : Shows b e) {h : List (Editor Dom × Event Dom)}
    (hr : Run (Guarded (Step b) Appending) e h e') : Extends b e (appended h) e' := by
  suffices hboth : Shows b e' ∧ Extends b e (appended h) e' from hboth.2
  refine hr.always (P := fun h f => Shows b f ∧ Extends b e (appended h) f) ⟨h0, ?_⟩ ?_
  · exact ⟨rfl, fun _ => (List.append_nil _).symm, fun _ => rfl⟩
  · rintro h f l f' - ⟨hf, hext⟩ ⟨hcond, hs⟩
    refine ⟨shows_step hf hs, ?_⟩
    cases hs with
    | render => exact ⟨hext.mode, hext.source, hext.rich⟩
    | appendHtml html => exact extends_append hext hf hcond html
    -- the rest is the user's
    | input dom _ => exact hcond.elim
    | edit text _ => exact hcond.elim
    | toggleMode => exact hcond.elim
    | setHtml html => exact hcond.elim

end Testkit.RichEditor
