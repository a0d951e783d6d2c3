import Mathlib.Tactic.Common

/-!
# Calls that fail — errors, panics, and state that survives an error

A read-only call ends in a value or in a `Fault`: an error its caller sees, or a panic that ends
the run. A call on mutable state is an `Exec`: it gives back its outcome *and* the state it leaves,
so whatever was written before an error stays written. The lemmas here take such calls apart one
statement at a time; nothing above unfolds the monads again.
-/

universe u v

/-- Why a call panics. -/
inductive Panic where
  /-- An index past the end of a list. -/
  | outOfBounds
  /-- A machine word that overflows. -/
  | overflow
  /-- A value that was expected and is not there. -/
  | expect
deriving DecidableEq, Repr

/-- How a call ends without a value. -/
inductive Fault (ε : Type u) where
  /-- An error returned to the caller. -/
  | err (e : ε)
  /-- A panic: the caller never gets control back. -/
  | panic (cause : Panic)
deriving DecidableEq, Repr

/-- The outcome of a read-only call. -/
abbrev Result (ε : Type u) (α : Type v) := Except (Fault ε) α

namespace Result

variable {ε ε' α β : Type}

/-- The outcome of a call that cannot panic, with its error wrapped by `f`. -/
def ofExcept (f : ε → ε') : Except ε α → Result ε' α
  | .ok a => .ok a
  | .error e => .error (.err (f e))

/-- Wraps the error of an outcome; a panic stays a panic. -/
def mapErr (f : ε → ε') : Result ε α → Result ε' α
  | .ok a => .ok a
  | .error (.err e) => .error (.err (f e))
  | .error (.panic c) => .error (.panic c)

/-- The value of an `Option`, or the error `e`. -/
def okOr (o : Option α) (e : ε) : Except ε α :=
  match o with
  | some a => .ok a
  | none => .error e

/-- Fails with `e` unless `c` holds. -/
def ensure (c : Prop) [Decidable c] (e : ε) : Except ε Unit :=
  if c then .ok () else .error e

/-- Fails with `e` unless `c` holds, in a call that may also panic. -/
def require (c : Prop) [Decidable c] (e : ε) : Result ε Unit := ofExcept (·) (ensure c e)

/-- The `i`-th element; indexing past the end panics. -/
def index : List α → ℕ → Result ε α
  | [], _ => .error (.panic .outOfBounds)
  | a :: _, 0 => .ok a
  | _ :: l, i + 1 => index l i

/-- The value of an `Option`; a missing one panics. -/
def expect : Option α → Result ε α
  | some a => .ok a
  | none => .error (.panic .expect)

/-- Unsigned 64-bit addition; an overflow panics. -/
def addU64 (a b : ℕ) : Result ε ℕ :=
  if a + b < UInt64.size then .ok (a + b) else .error (.panic .overflow)

@[simp] theorem ofExcept_eq_ok {f : ε → ε'} {x : Except ε α} {a : α} :
    ofExcept f x = .ok a ↔ x = .ok a := by
  cases x <;> simp [ofExcept]

@[simp] theorem mapErr_eq_ok {f : ε → ε'} {x : Result ε α} {a : α} :
    mapErr f x = .ok a ↔ x = .ok a := by
  rcases x with (_ | _) | _ <;> simp [mapErr]

@[simp] theorem okOr_some {a : α} {e : ε} : okOr (some a) e = .ok a := rfl

@[simp] theorem okOr_none {e : ε} : (okOr none e : Except ε α) = .error e := rfl

@[simp] theorem okOr_eq_ok {o : Option α} {e : ε} {a : α} : okOr o e = .ok a ↔ o = some a := by
  cases o <;> simp [okOr]

theorem okOr_eq_error {o : Option α} {e e' : ε} : okOr o e = .error e' ↔ o = none ∧ e = e' := by
  cases o <;> simp [okOr]

@[simp] theorem ensure_eq_ok {c : Prop} [Decidable c] {e : ε} {u : Unit} :
    ensure c e = .ok u ↔ c := by
  by_cases h : c <;> simp [ensure, h]

@[simp] theorem require_eq_ok {c : Prop} [Decidable c] {e : ε} {u : Unit} :
    require c e = .ok u ↔ c := ofExcept_eq_ok.trans ensure_eq_ok

theorem index_zero_eq_ok {l : List α} {a : α} :
    (index l 0 : Result ε α) = .ok a ↔ l.head? = some a := by
  cases l <;> simp [index]

@[simp] theorem addU64_eq_ok {a b c : ℕ} :
    (addU64 a b : Result ε ℕ) = .ok c ↔ c = a + b ∧ a + b < UInt64.size := by
  unfold addU64
  split_ifs with h
  · simp [h, eq_comm]
  · simp [h]

/-- A sequence of two calls succeeds exactly when both do. -/
theorem bind_eq_ok {x : Except ε α} {f : α → Except ε β} {b : β} :
    (x >>= f) = .ok b ↔ ∃ a, x = .ok a ∧ f a = .ok b := by
  cases x <;> simp [bind, Except.bind]

@[simp] theorem ok_bind {a : α} {f : α → Except ε β} : (Except.ok a >>= f) = f a := rfl

@[simp] theorem error_bind {e : ε} {f : α → Except ε β} :
    (Except.error e >>= f) = .error e := rfl

@[simp] theorem mapError_eq_ok {f : ε → ε'} {x : Except ε α} {a : α} :
    x.mapError f = .ok a ↔ x = .ok a := by
  cases x <;> simp [Except.mapError]

theorem toOption_eq_some {x : Except ε α} {a : α} : x.toOption = some a ↔ x = .ok a := by
  cases x <;> simp [Except.toOption]

@[simp] theorem pure_eq_ok {a b : α} : (pure a : Except ε α) = .ok b ↔ a = b := by
  simp [pure, Except.pure]

/-! ### Calls that do not panic -/

/-- The call does not end in the panic `c`. -/
def Avoids (c : Panic) (r : Result ε α) : Prop := r ≠ .error (.panic c)

/-- The call comes back, with a value or with an error. -/
def Returns (r : Result ε α) : Prop := ∀ c, Avoids c r

variable {c : Panic}

@[simp] theorem avoids_ok {a : α} : Avoids c (.ok a : Result ε α) := nofun

@[simp] theorem avoids_pure {a : α} : Avoids c (pure a : Result ε α) := nofun

@[simp] theorem avoids_err {e : ε} : Avoids c (.error (.err e) : Result ε α) := nofun

@[simp] theorem avoids_ofExcept {f : ε → ε'} {x : Except ε α} : Avoids c (ofExcept f x) := by
  cases x <;> simp [ofExcept]

@[simp] theorem avoids_mapErr {f : ε → ε'} {r : Result ε α} :
    Avoids c (mapErr f r) ↔ Avoids c r := by
  rcases r with (_ | _) | _ <;> simp [mapErr, Avoids]

/-- A sequence of two calls avoids a panic when the first does, and after a success the second. -/
theorem avoids_bind {x : Result ε α} {f : α → Result ε β} :
    Avoids c (x >>= f) ↔ Avoids c x ∧ ∀ a, x = .ok a → Avoids c (f a) := by
  rcases x with (_ | _) | _ <;> simp [Avoids]

theorem Avoids.bind {x : Result ε α} {f : α → Result ε β} (hx : Avoids c x)
    (hf : ∀ a, x = .ok a → Avoids c (f a)) : Avoids c (x >>= f) := avoids_bind.mpr ⟨hx, hf⟩

/-- Indexing a list that is not empty. -/
theorem avoids_index_zero {l : List α} (h : l ≠ []) : Avoids c (index l 0 : Result ε α) := by
  cases l with
  | nil => exact absurd rfl h
  | cons a l => exact avoids_ok

theorem avoids_addU64 {a b : ℕ} (h : c ≠ .overflow) : Avoids c (addU64 a b : Result ε ℕ) := by
  unfold addU64
  split_ifs
  · exact avoids_ok
  · rintro ⟨⟩
    exact h rfl

@[simp] theorem returns_ok {a : α} : Returns (.ok a : Result ε α) := fun _ => avoids_ok

@[simp] theorem returns_pure {a : α} : Returns (pure a : Result ε α) := fun _ => avoids_pure

@[simp] theorem returns_err {e : ε} : Returns (.error (.err e) : Result ε α) := fun _ => avoids_err

theorem not_returns_panic : ¬ Returns (.error (.panic c) : Result ε α) := fun h => h c rfl

@[simp] theorem returns_ofExcept {f : ε → ε'} {x : Except ε α} : Returns (ofExcept f x) :=
  fun _ => avoids_ofExcept

@[simp] theorem returns_require {c : Prop} [Decidable c] {e : ε} : Returns (require c e) :=
  returns_ofExcept

@[simp] theorem returns_mapErr {f : ε → ε'} {r : Result ε α} :
    Returns (mapErr f r) ↔ Returns r := forall_congr' fun _ => avoids_mapErr

/-- A sequence of two calls returns when the first does, and after a success the second. -/
theorem returns_bind {x : Result ε α} {f : α → Result ε β} :
    Returns (x >>= f) ↔ Returns x ∧ ∀ a, x = .ok a → Returns (f a) := by
  rcases x with (_ | _) | _ <;> simp [Returns, Avoids]

end Result

/-- A call on mutable state `σ`: its outcome and the state it leaves, also when it fails. -/
def Exec (σ ε α : Type) := σ → Result ε α × σ

namespace Exec

variable {σ ε ε' α β : Type} {s s' s'' : σ}

instance : Monad (Exec σ ε) where
  pure a := fun s => (.ok a, s)
  bind x f := fun s =>
    match x s with
    | (.ok a, s') => f a s'
    | (.error e, s') => (.error e, s')

/-- The current state. -/
def read : Exec σ ε σ := fun s => (.ok s, s)

/-- A write, which does not fail. -/
def write (g : σ → σ) : Exec σ ε Unit := fun s => (.ok (), g s)

/-- A read-only outcome inside a call on state. -/
def ofResult (r : Result ε α) : Exec σ ε α := fun s => (r, s)

/-- A read-only outcome without panic inside a call on state. -/
def ofExcept (x : Except ε α) : Exec σ ε α := ofResult (Result.ofExcept id x)

instance : MonadLift (Result ε) (Exec σ ε) := ⟨ofResult⟩

/-- A call on one part of the state: `get` reads the part, `set` puts it back. -/
def zoom {τ : Type} (get : σ → τ) (set : σ → τ → σ) (x : Exec τ ε α) : Exec σ ε α := fun s =>
  ((x (get s)).1, set s (x (get s)).2)

/-- Wraps the error of a call. -/
def mapErr (f : ε → ε') (x : Exec σ ε α) : Exec σ ε' α := fun s =>
  (Result.mapErr f (x s).1, (x s).2)

@[simp] theorem pure_apply (a : α) : (pure a : Exec σ ε α) s = (.ok a, s) := rfl

@[simp] theorem read_bind (f : σ → Exec σ ε β) : (read >>= f) s = f s s := rfl

@[simp] theorem write_apply (g : σ → σ) : (write g : Exec σ ε Unit) s = (.ok (), g s) := rfl

@[simp] theorem write_bind (g : σ → σ) (f : Unit → Exec σ ε β) :
    (write g >>= f) s = f () (g s) := rfl

@[simp] theorem ofResult_apply (r : Result ε α) : (ofResult r : Exec σ ε α) s = (r, s) := rfl

theorem ofResult_bind (r : Result ε α) (f : α → Exec σ ε β) :
    (ofResult r >>= f) s =
      match r with
      | .ok a => f a s
      | .error e => (.error e, s) := by
  cases r <;> rfl

@[simp] theorem ofResult_ok_bind (a : α) (f : α → Exec σ ε β) :
    (ofResult (.ok a) >>= f) s = f a s := rfl

@[simp] theorem ofResult_error_bind (e : Fault ε) (f : α → Exec σ ε β) :
    (ofResult (.error e) >>= f) s = (.error e, s) := rfl

theorem bind_assoc {γ : Type} (x : Exec σ ε α) (f : α → Exec σ ε β) (g : β → Exec σ ε γ) :
    (x >>= f) >>= g = x >>= fun a => f a >>= g := by
  funext s
  rcases hx : x s with ⟨_ | a, s'⟩ <;> simp only [Bind.bind, hx]

theorem bind_of_ok {x : Exec σ ε α} {f : α → Exec σ ε β} {a : α} (h : x s = (.ok a, s')) :
    (x >>= f) s = f a s' := by
  simp only [Bind.bind, h]

theorem bind_of_error {x : Exec σ ε α} {f : α → Exec σ ε β} {e : Fault ε}
    (h : x s = (.error e, s')) : (x >>= f) s = (.error e, s') := by
  simp only [Bind.bind, h]

/-- Two calls in sequence succeed exactly when both do. -/
theorem bind_eq_ok {x : Exec σ ε α} {f : α → Exec σ ε β} {b : β} :
    (x >>= f) s = (.ok b, s'') ↔ ∃ a s', x s = (.ok a, s') ∧ f a s' = (.ok b, s'') := by
  rcases hx : x s with ⟨_ | a, s'⟩ <;> simp [bind, hx]

theorem ofResult_eq_ok {r : Result ε α} {a : α} :
    (ofResult r : Exec σ ε α) s = (.ok a, s') ↔ r = .ok a ∧ s = s' := by
  rw [ofResult_apply, Prod.mk.injEq]

theorem ofExcept_eq_ok {x : Except ε α} {a : α} :
    (ofExcept x : Exec σ ε α) s = (.ok a, s') ↔ x = .ok a ∧ s = s' := by
  rw [ofExcept, ofResult_eq_ok, Result.ofExcept_eq_ok]

theorem mapErr_eq_ok {f : ε → ε'} {x : Exec σ ε α} {a : α} :
    mapErr f x s = (.ok a, s') ↔ x s = (.ok a, s') := by
  rcases hx : x s with ⟨(_ | _) | _, _⟩ <;> simp [mapErr, hx, Result.mapErr]

/-! ### Postconditions

`Ensures x s Q` says that the call `x` from `s` ends with an outcome and a state in `Q`. A proof of
it follows the call, one rule for each line. -/

section Ensures

/-- The call from `s` ends in `Q`, however it ends. -/
def Ensures (x : Exec σ ε α) (s : σ) (Q : Result ε α → σ → Prop) : Prop := Q (x s).1 (x s).2

variable {Q : Result ε β → σ → Prop}

theorem Ensures.mono {x : Exec σ ε β} {Q' : Result ε β → σ → Prop} (h : Ensures x s Q)
    (hQ : ∀ r s', Q r s' → Q' r s') : Ensures x s Q' := hQ _ _ h

theorem Ensures.bind {x : Exec σ ε α} {f : α → Exec σ ε β} {P : Result ε α → σ → Prop}
    (hx : Ensures x s P) (herr : ∀ e s', P (.error e) s' → Q (.error e) s')
    (hok : ∀ a s', P (.ok a) s' → Ensures (f a) s' Q) : Ensures (x >>= f) s Q := by
  unfold Ensures at hx ⊢
  rcases hr : x s with ⟨e | a, s'⟩ <;> simp only [hr] at hx
  · rw [bind_of_error hr]
    exact herr e s' hx
  · rw [bind_of_ok hr]
    exact hok a s' hx

theorem ensures_read_bind {f : σ → Exec σ ε β} (h : Ensures (f s) s Q) :
    Ensures (read >>= f) s Q := h

theorem ensures_write_bind {g : σ → σ} {f : Unit → Exec σ ε β} (h : Ensures (f ()) (g s) Q) :
    Ensures (write g >>= f) s Q := h

theorem Ensures.ofResult_bind {r : Result ε α} {f : α → Exec σ ε β}
    (herr : ∀ e, r = .error e → Q (.error e) s) (hok : ∀ a, r = .ok a → Ensures (f a) s Q) :
    Ensures (ofResult r >>= f) s Q := by
  cases r with
  | error e => exact herr e rfl
  | ok a => exact hok a rfl

theorem Ensures.ofExcept_bind {g : ε' → ε} {x : Except ε' α} {f : α → Exec σ ε β}
    (herr : ∀ e, x = .error e → Q (.error (.err (g e))) s)
    (hok : ∀ a, x = .ok a → Ensures (f a) s Q) :
    Ensures (ofResult (Result.ofExcept g x) >>= f) s Q := by
  cases x with
  | error e => exact herr e rfl
  | ok a => exact hok a rfl

/-- The rule for a line that is known to succeed. -/
theorem Ensures.ofExcept_ok_bind {g : ε' → ε} {x : Except ε' α} {f : α → Exec σ ε β} {a : α}
    (hx : x = .ok a) (h : Ensures (f a) s Q) :
    Ensures (ofResult (Result.ofExcept g x) >>= f) s Q := by
  rw [hx]
  exact h

theorem Ensures.addU64_cases {a b : ℕ} {f : ℕ → Exec σ ε β}
    (hp : ¬ a + b < UInt64.size → Q (.error (.panic .overflow)) s)
    (hok : a + b < UInt64.size → Ensures (f (a + b)) s Q) :
    Ensures (ofResult (Result.addU64 a b) >>= f) s Q := by
  unfold Result.addU64
  split_ifs with h
  · exact hok h
  · exact hp h

theorem Ensures.addU64_bind {a b : ℕ} {f : ℕ → Exec σ ε β}
    (hp : Q (.error (.panic .overflow)) s)
    (hok : a + b < UInt64.size → Ensures (f (a + b)) s Q) :
    Ensures (ofResult (Result.addU64 a b) >>= f) s Q := .addU64_cases (fun _ => hp) hok

theorem Ensures.index_zero_bind {l : List α} {f : α → Exec σ ε β}
    (hp : Q (.error (.panic .outOfBounds)) s)
    (hok : ∀ a, Ensures (f a) s Q) : Ensures (ofResult (Result.index l 0) >>= f) s Q := by
  cases l with
  | nil => exact hp
  | cons a _ => exact hok a

/-- The same, for a list that is not empty. -/
theorem Ensures.index_ne_nil_bind {l : List α} {f : α → Exec σ ε β} (hl : l ≠ [])
    (hok : ∀ a, Ensures (f a) s Q) : Ensures (ofResult (Result.index l 0) >>= f) s Q := by
  cases l with
  | nil => exact absurd rfl hl
  | cons a _ => exact hok a

theorem Ensures.ite {c : Prop} [Decidable c] {x y : Exec σ ε β} (hx : c → Ensures x s Q)
    (hy : ¬ c → Ensures y s Q) : Ensures (if c then x else y) s Q := by
  split_ifs with h
  · exact hx h
  · exact hy h

/-- An error leaves the state as the call found it. -/
def Atomic (x : Exec σ ε α) : Prop :=
  ∀ s, x.Ensures s fun r s' => ∀ e, r = .error (.err e) → s' = s

end Ensures

/-! ### Frames -/

section Preserves

variable {τ : Type} {f : σ → τ}

/-- The call leaves the part `f` of the state as it was, however it ends. -/
def Preserves (f : σ → τ) (x : Exec σ ε α) : Prop := ∀ s, f (x s).2 = f s

theorem preserves_pure (a : α) : Preserves f (pure a : Exec σ ε α) := fun _ => rfl

theorem preserves_read : Preserves f (read : Exec σ ε σ) := fun _ => rfl

theorem preserves_ofResult (r : Result ε α) : Preserves f (ofResult r : Exec σ ε α) := fun _ => rfl

theorem preserves_write {g : σ → σ} (h : ∀ s, f (g s) = f s) :
    Preserves f (write g : Exec σ ε Unit) := h

theorem Preserves.bind {x : Exec σ ε α} {g : α → Exec σ ε β} (hx : Preserves f x)
    (hg : ∀ a, Preserves f (g a)) : Preserves f (x >>= g) := by
  intro s
  rcases hr : x s with ⟨_ | a, s'⟩
  · have := hx s
    simpa [Bind.bind, hr] using this
  · have h₁ := hx s
    have h₂ := hg a s'
    rw [hr] at h₁
    simpa [Bind.bind, hr] using h₂.trans h₁

theorem Preserves.read_bind {g : σ → Exec σ ε β} (hg : ∀ s, Preserves f (g s)) :
    Preserves f (read >>= g) := preserves_read.bind hg

theorem Preserves.ofResult_bind {r : Result ε α} {g : α → Exec σ ε β}
    (hg : ∀ a, Preserves f (g a)) : Preserves f (ofResult r >>= g) := (preserves_ofResult r).bind hg

theorem Preserves.ofExcept_bind {h : ε' → ε} {x : Except ε' α} {g : α → Exec σ ε β}
    (hg : ∀ a, x = .ok a → Preserves f (g a)) :
    Preserves f (ofResult (Result.ofExcept h x) >>= g) := by
  cases x with
  | error e => exact fun _ => rfl
  | ok a => exact hg a rfl

theorem Preserves.write_bind {w : σ → σ} {g : Unit → Exec σ ε β} (h : ∀ s, f (w s) = f s)
    (hg : Preserves f (g ())) : Preserves f (write w >>= g) := (preserves_write h).bind fun _ => hg

theorem Preserves.ite {c : Prop} [Decidable c] {x y : Exec σ ε α} (hx : Preserves f x)
    (hy : Preserves f y) : Preserves f (if c then x else y) := by
  split_ifs
  · exact hx
  · exact hy

end Preserves

/-! ### What a call does not see -/

section Ignores

variable {erase : σ → σ}

/-- The call does not see what `erase` takes away: without it the outcome is the same, and so is
what is left of the state. -/
def Ignores (erase : σ → σ) (x : Exec σ ε α) : Prop :=
  ∀ s, (x s).1 = (x (erase s)).1 ∧ erase (x s).2 = erase (x (erase s)).2

/-- From two states that differ only in what is ignored. -/
theorem Ignores.congr {x : Exec σ ε α} (h : Ignores erase x) {s t : σ} (hst : erase s = erase t) :
    (x s).1 = (x t).1 ∧ erase (x s).2 = erase (x t).2 := by
  obtain ⟨hr, hs⟩ := h s
  obtain ⟨hr', ht⟩ := h t
  rw [hst] at hr hs
  exact ⟨hr.trans hr'.symm, hs.trans ht.symm⟩

theorem Ignores.bind {x : Exec σ ε α} {f : α → Exec σ ε β} (hx : Ignores erase x)
    (hf : ∀ a, Ignores erase (f a)) : Ignores erase (x >>= f) := by
  intro s
  obtain ⟨hr, hs⟩ := hx s
  rcases h : x s with ⟨e | a, s₁⟩
  all_goals
    rcases h' : x (erase s) with ⟨r, s₂⟩
    rw [h, h'] at hr hs
    subst hr
  · rw [bind_of_error h, bind_of_error h']
    exact ⟨rfl, hs⟩
  · rw [bind_of_ok h, bind_of_ok h']
    exact (hf a).congr hs

/-- A read of the state, by a call that does not look at what is ignored. -/
theorem Ignores.read_bind {f : σ → Exec σ ε β} (hread : ∀ s, f s = f (erase s))
    (hf : ∀ s, Ignores erase (f s)) : Ignores erase (read >>= f) := by
  intro s
  rw [Exec.read_bind, Exec.read_bind, ← hread s]
  exact hf s s

theorem Ignores.write_bind {g : σ → σ} {f : Unit → Exec σ ε β}
    (hg : ∀ s, erase (g s) = erase (g (erase s))) (hf : Ignores erase (f ())) :
    Ignores erase (write g >>= f) := Ignores.bind (fun s => ⟨rfl, hg s⟩) fun _ => hf

theorem Ignores.ite {c : Prop} [Decidable c] {x y : Exec σ ε α} (hx : Ignores erase x)
    (hy : Ignores erase y) : Ignores erase (if c then x else y) := by
  split_ifs
  · exact hx
  · exact hy

end Ignores

end Exec
