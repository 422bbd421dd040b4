import Mathlib.Logic.Basic

/-!
# Programs with exceptions

Programs that keep a state and may throw, where an exception leaves the state as it is where
it is thrown (`EStateM`). `Returns x s Q` says that the program `x` returns from the state
`s`, with a value and in a state that `Q` holds of. The rules say exactly when a program does,
by the statements it is made of.
-/

namespace Program

universe u

variable {ε σ α β : Type u} {s : σ}

/-- The program returns, and `Q` holds of what it returns and of the state it leaves. -/
def Returns (x : EStateM ε σ α) (s : σ) (Q : α → σ → Prop) : Prop :=
  ∃ a s', x s = .ok a s' ∧ Q a s'

variable {x : EStateM ε σ α} {f : α → EStateM ε σ β} {handler : ε → EStateM ε σ α}
  {Q : α → σ → Prop} {R : β → σ → Prop}

theorem returns_of_ok {a : α} {s' : σ} (h : x s = .ok a s') : Returns x s Q ↔ Q a s' := by
  constructor
  · rintro ⟨b, t, hb, hQ⟩
    obtain ⟨rfl, rfl⟩ := EStateM.Result.ok.inj (h.symm.trans hb)
    exact hQ
  · exact fun hQ => ⟨a, s', h, hQ⟩

theorem not_returns_of_error {e : ε} {s' : σ} (h : x s = .error e s') : ¬Returns x s Q := by
  rintro ⟨a, t, ha, -⟩
  cases h.symm.trans ha

@[simp] theorem returns_pure (a : α) : Returns (pure a : EStateM ε σ α) s Q ↔ Q a s :=
  returns_of_ok rfl

@[simp] theorem returns_get {Q : σ → σ → Prop} : Returns (get : EStateM ε σ σ) s Q ↔ Q s s :=
  returns_of_ok rfl

@[simp] theorem returns_modify {Q : PUnit → σ → Prop} (g : σ → σ) :
    Returns (modify g : EStateM ε σ PUnit) s Q ↔ Q ⟨⟩ (g s) := returns_of_ok rfl

@[simp] theorem returns_throw (e : ε) : Returns (throw e : EStateM ε σ α) s Q ↔ False :=
  iff_false_intro (not_returns_of_error rfl)

@[simp] theorem returns_ite {p : Prop} [Decidable p] {y : EStateM ε σ α} :
    Returns (if p then x else y) s Q ↔ if p then Returns x s Q else Returns y s Q := by
  split <;> rfl

/-- A program followed by another one returns if the first one does, and then the second one. -/
@[simp] theorem returns_bind :
    Returns (x >>= f) s R ↔ Returns x s fun a s' => Returns (f a) s' R := by
  cases hx : x s with
  | ok a s' =>
    have hbind : (x >>= f) s = f a s' := by
      change EStateM.bind x f s = f a s'
      rw [EStateM.bind, hx]
    rw [returns_of_ok hx, Returns, Returns, hbind]
  | error e s' =>
    have hbind : (x >>= f) s = .error e s' := by
      change EStateM.bind x f s = .error e s'
      rw [EStateM.bind, hx]
    exact iff_of_false (not_returns_of_error hbind) (not_returns_of_error hx)

/-- A program whose exceptions are handled returns if it does by itself, or its handler does
    from where it threw. -/
theorem returns_tryCatch : Returns (tryCatch x handler) s Q ↔
    Returns x s Q ∨ ∃ e s', x s = .error e s' ∧ Returns (handler e) s' Q := by
  cases hx : x s with
  | ok a s' =>
    have htry : tryCatch x handler s = .ok a s' := by
      change EStateM.tryCatch x handler s = .ok a s'
      delta EStateM.tryCatch
      simp only [hx]
    rw [returns_of_ok hx, returns_of_ok htry]
    refine (or_iff_left ?_).symm
    rintro ⟨e, t, he, -⟩
    cases he
  | error e s' =>
    have htry : tryCatch x handler s = handler e s' := by
      change EStateM.tryCatch x handler s = handler e s'
      delta EStateM.tryCatch
      simp only [hx]
      rfl
    rw [or_iff_right (not_returns_of_error hx)]
    constructor
    · rintro ⟨a, t, ha, hQ⟩
      exact ⟨e, s', rfl, a, t, htry ▸ ha, hQ⟩
    · rintro ⟨e', t', he, a, t, ha, hQ⟩
      obtain ⟨rfl, rfl⟩ := EStateM.Result.error.inj he
      exact ⟨a, t, htry ▸ ha, hQ⟩

theorem bind_of_ok {a : α} {s' : σ} (h : x s = .ok a s') : (x >>= f) s = f a s' := by
  change EStateM.bind x f s = f a s'
  rw [EStateM.bind, h]

/-! ## Ends -/

/-- The program returns and `Q` holds, or it throws and `E` holds, of the state where it does. -/
def Ends (x : EStateM ε σ α) (s : σ) (Q : α → σ → Prop) (E : ε → σ → Prop) : Prop :=
  match x s with
  | .ok a s' => Q a s'
  | .error e s' => E e s'

variable {E : ε → σ → Prop}

theorem ends_of_ok {a : α} {s' : σ} (h : x s = .ok a s') : Ends x s Q E ↔ Q a s' := by
  rw [Ends, h]

theorem ends_of_error {e : ε} {s' : σ} (h : x s = .error e s') : Ends x s Q E ↔ E e s' := by
  rw [Ends, h]

@[simp] theorem ends_pure (a : α) : Ends (pure a : EStateM ε σ α) s Q E ↔ Q a s := ends_of_ok rfl

@[simp] theorem ends_get {Q : σ → σ → Prop} : Ends (get : EStateM ε σ σ) s Q E ↔ Q s s :=
  ends_of_ok rfl

@[simp] theorem ends_modify {Q : PUnit → σ → Prop} (g : σ → σ) :
    Ends (modify g : EStateM ε σ PUnit) s Q E ↔ Q ⟨⟩ (g s) := ends_of_ok rfl

@[simp] theorem ends_throw (e : ε) : Ends (throw e : EStateM ε σ α) s Q E ↔ E e s :=
  ends_of_error rfl

@[simp] theorem ends_ite {p : Prop} [Decidable p] {y : EStateM ε σ α} :
    Ends (if p then x else y) s Q E ↔ if p then Ends x s Q E else Ends y s Q E := by
  split <;> rfl

/-- A program followed by another one ends as the first one does, if that throws, and as the
    second one does from where it returns. -/
@[simp] theorem ends_bind {E : ε → σ → Prop} :
    Ends (x >>= f) s R E ↔ Ends x s (fun a s' => Ends (f a) s' R E) E := by
  cases hx : x s with
  | ok a s' =>
    rw [ends_of_ok hx, Ends, Ends, bind_of_ok hx]
  | error e s' =>
    have hbind : (x >>= f) s = .error e s' := by
      change EStateM.bind x f s = .error e s'
      rw [EStateM.bind, hx]
    rw [ends_of_error hx, ends_of_error hbind]

theorem Ends.mono {Q' : α → σ → Prop} {E' : ε → σ → Prop} (h : Ends x s Q E)
    (hQ : ∀ a s', Q a s' → Q' a s') (hE : ∀ e s', E e s' → E' e s') : Ends x s Q' E' := by
  cases hx : x s with
  | ok a s' => exact (ends_of_ok hx).2 (hQ a s' ((ends_of_ok hx).1 h))
  | error e s' => exact (ends_of_error hx).2 (hE e s' ((ends_of_error hx).1 h))

/-- `P` holds of the state that the program leaves, whether it returns or throws. -/
def Leaves (x : EStateM ε σ α) (s : σ) (P : σ → Prop) : Prop :=
  Ends x s (fun _ => P) fun _ => P

theorem Leaves.mono {P P' : σ → Prop} (h : Leaves x s P) (himp : ∀ s', P s' → P' s') :
    Leaves x s P' :=
  Ends.mono h (fun _ => himp) fun _ => himp

end Program
