import Mathlib.Logic.Basic

/-! # Handlers that call backends

A request handler may refuse, may call backends, and answers.  What can be observed
of it is the calls it made, in order, and its answer.  `Handled` is that pair, as a
monad: a refusal or a failed call ends the handler, and nothing after it is called.

A property of the calls a handler makes is proved along the handler's text: `bind_ok`
and `bind_error` read one step of it, `check_ok` and `check_error` a check.
-/
namespace BackendCalls
variable {C E α β : Type}

/-- The calls a handler made, in order, and how it ended. -/
structure Handled (C E α : Type) where
  calls : List C
  answer : Except E α

instance : Monad (Handled C E) where
  pure a := ⟨[], .ok a⟩
  bind x f :=
    match x.answer with
    | .ok a => ⟨x.calls ++ (f a).calls, (f a).answer⟩
    | .error e => ⟨x.calls, .error e⟩

/-- A check that calls nothing; an error ends the handler. -/
def check (r : Except E α) : Handled C E α := ⟨[], r⟩

/-- One backend call and what it returned. -/
def call (c : C) (r : Except E α) : Handled C E α := ⟨[c], r⟩

/-- The same handler with its calls seen through `f`. -/
def Handled.observe {D : Type} (f : C → D) (x : Handled C E α) : Handled D E Unit :=
  ⟨x.calls.map f, x.answer.map fun _ => ()⟩

section Rules
variable {x : Handled C E α} {f : α → Handled C E β} {r : Except E α} {c : C} {e : E}

@[simp] theorem calls_check : (check r : Handled C E α).calls = [] := rfl

@[simp] theorem calls_call : (call c r).calls = [c] := rfl

@[simp] theorem calls_pure (a : α) : (pure a : Handled C E α).calls = [] := rfl

@[simp] theorem calls_observe {D : Type} (g : C → D) : (x.observe g).calls = x.calls.map g := rfl

theorem bind_ok {a : α} (h : x.answer = .ok a) :
    x >>= f = ⟨x.calls ++ (f a).calls, (f a).answer⟩ := by
  show (match x.answer with
    | .ok a => ⟨x.calls ++ (f a).calls, (f a).answer⟩
    | .error e => ⟨x.calls, .error e⟩ : Handled C E β) = _
  rw [h]

theorem bind_error (h : x.answer = .error e) : x >>= f = ⟨x.calls, .error e⟩ := by
  show (match x.answer with
    | .ok a => ⟨x.calls ++ (f a).calls, (f a).answer⟩
    | .error e => ⟨x.calls, .error e⟩ : Handled C E β) = _
  rw [h]

/-- **Behind a check** that fails nothing is called. -/
theorem check_error (h : r = .error e) : check r >>= f = ⟨[], .error e⟩ := bind_error h

theorem check_ok {a : α} (h : r = .ok a) : check r >>= f = f a := bind_ok h

theorem observe_check {D : Type} (g : C → D) :
    (check r >>= f).observe g = check r >>= fun a => (f a).observe g := by
  cases h : r with
  | ok a => rw [check_ok rfl, check_ok rfl]
  | error e =>
    rw [check_error rfl, check_error rfl]
    rfl

/-- What is done with a call's answer adds no call. -/
theorem calls_bind_pure (g : α → β) :
    (x >>= fun a => (pure (g a) : Handled C E β)).calls = x.calls := by
  cases h : x.answer with
  | ok a => simp [bind_ok h]
  | error e => simp [bind_error h]

end Rules
end BackendCalls
