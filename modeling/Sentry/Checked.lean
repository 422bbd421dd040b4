import Mathlib.Data.List.Basic
import Mathlib.Algebra.Order.Group.Nat
import Sentry.Run

/-!
# Checked accesses

Sequences as a program sees them that reaches into them with indices and iterators of
its own making: an iterator outside of the sequence, or an element that is not there, is
a `Fault`. Within the bounds, every access is the operation on lists that it stands for.

A checked loop (`iterate`) may fail in its body, and it may run out of fuel. It refines a
plain loop whose body it agrees with on the states of an invariant: then it does not fail,
and any fuel above a measure that the body decreases is enough (`iterate_eq_exec`).
-/

namespace Checked

open Transition

/-- What a checked run may fail with. -/
inductive Fault
  /-- An access outside of a sequence. -/
  | outOfBounds
  /-- More iterations than there was fuel for. -/
  | outOfFuel
  deriving DecidableEq

universe u

variable {α β : Type u} {σ ε : Type*}

/-- What follows a run that has not failed. -/
@[simp] theorem ok_bind (a : α) (next : α → Except Fault β) :
    (Except.ok a >>= next) = next a := rfl

/-! ## Sequences -/

/-- The iterator at a position, from the first element to the end. -/
def iterator (xs : List α) (position : ℤ) : Except Fault ℕ :=
  if 0 ≤ position ∧ position ≤ xs.length then .ok position.toNat else .error .outOfBounds

/-- The element at an index. -/
def access (xs : List α) (i : ℕ) : Except Fault α :=
  match xs[i]? with
  | some x => .ok x
  | none => .error .outOfBounds

/-- The elements between two iterators. -/
def slice (xs : List α) (first last : ℕ) : Except Fault (List α) :=
  if first ≤ last ∧ last ≤ xs.length then .ok ((xs.drop first).take (last - first))
  else .error .outOfBounds

/-- What is left when the elements before an iterator are erased. -/
def eraseTo (xs : List α) (last : ℕ) : Except Fault (List α) :=
  if last ≤ xs.length then .ok (xs.drop last) else .error .outOfBounds

/-- A structure of some size laid over the start of a sequence. -/
def overlay (xs : List α) (size : ℕ) : Except Fault (List α) :=
  if size ≤ xs.length then .ok xs else .error .outOfBounds

variable {xs : List α}

theorem iterator_ok {position : ℤ} (h : 0 ≤ position) (h' : position ≤ xs.length) :
    iterator xs position = .ok position.toNat := if_pos ⟨h, h'⟩

theorem access_ok {i : ℕ} (h : i < xs.length) (x : α) : access xs i = .ok (xs.getD i x) := by
  rw [access, List.getD_eq_getElem?_getD, List.getElem?_eq_getElem h]
  rfl

theorem slice_ok {first last : ℕ} (h : first ≤ last) (h' : last ≤ xs.length) :
    slice xs first last = .ok ((xs.drop first).take (last - first)) := if_pos ⟨h, h'⟩

theorem eraseTo_ok {last : ℕ} (h : last ≤ xs.length) : eraseTo xs last = .ok (xs.drop last) :=
  if_pos h

theorem overlay_ok {size : ℕ} (h : size ≤ xs.length) : overlay xs size = .ok xs := if_pos h

/-- A loop over the indices below `n`, with an accumulator. -/
def foldTo (xs : List α) (op : β → α → β) (b : β) : ℕ → Except Fault β
  | 0 => .ok b
  | n + 1 => do
    let b ← foldTo xs op b n
    let x ← access xs n
    return op b x

/-- Within the bounds, a loop over the indices is a fold over the elements. -/
theorem foldTo_ok {op : β → α → β} {b : β} {n : ℕ} (h : n ≤ xs.length) :
    foldTo xs op b n = .ok ((xs.take n).foldl op b) := by
  induction n with
  | zero => rfl
  | succ n ih =>
    have hn : n < xs.length := h
    have haccess : access xs n = .ok xs[n] := by rw [access, List.getElem?_eq_getElem hn]
    rw [foldTo, ih hn.le, ok_bind, haccess, ok_bind, List.take_succ_eq_append_getElem hn,
      List.foldl_append]
    rfl

/-! ## Loops -/

/-- A loop with its condition and its body, which may leave the loop, for at most `fuel`
    iterations. -/
def iterate (condition : σ → Bool) (body : σ → Except Fault (Option (List ε × σ))) :
    ℕ → σ → Except Fault (List ε × σ)
  | fuel, s =>
    if condition s then
      match fuel with
      | 0 => .error .outOfFuel
      | fuel + 1 => do
        match ← body s with
        | none => return ([], s)
        | some (es, s') =>
          let rest ← iterate condition body fuel s'
          return (es ++ rest.1, rest.2)
    else .ok ([], s)

/-- A checked loop that agrees with a plain one on the states of an invariant, and whose
    body decreases a measure: with more fuel than the measure, it is the plain one. -/
theorem iterate_eq_exec {L : Loop σ ε} {condition : σ → Bool}
    {body : σ → Except Fault (Option (List ε × σ))} {I : σ → Prop} {μ : σ → ℕ}
    (hexit : ∀ s, I s → condition s = false → L.body s = none)
    (hbody : ∀ s, I s → condition s = true → body s = .ok (L.body s))
    (hnext : ∀ s es s', I s → L.body s = some (es, s') → I s' ∧ μ s' < μ s)
    {fuel : ℕ} {s : σ} (hs : I s) (hfuel : μ s < fuel) :
    iterate condition body fuel s = .ok (L.exec s) := by
  induction fuel generalizing s with
  | zero => exact absurd hfuel (Nat.not_lt_zero _)
  | succ fuel ih =>
    rw [iterate]
    cases hcond : condition s with
    | false =>
      rw [Loop.exec_of_exit (hexit s hs hcond)]
      rfl
    | true =>
      rw [hbody s hs hcond]
      cases hL : L.body s with
      | none =>
        rw [Loop.exec_of_exit hL]
        rfl
      | some next =>
        obtain ⟨hs', hlt⟩ := hnext s next.1 next.2 hs hL
        have hrest := ih hs' (by omega)
        rw [Loop.exec_of_body hL]
        simp only [if_true, ok_bind, hrest]
        rfl

end Checked
