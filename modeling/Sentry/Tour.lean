import Mathlib.Data.List.Basic

/-!
# Tours

A *tour* is a position on a list of stops, which carries the proof that it is one of
them; so the list has a stop. After the last stop, a tour goes on at the first one: `k`
stops further on, its position is that many modulo the number of stops
(`Tour.index_after`).
-/

/-- A position on a list of stops. -/
structure Tour (α : Type*) where
  stops : List α
  index : Fin stops.length

namespace Tour

variable {α : Type*} (t : Tour α) (k : ℕ)

/-- The tour at its first stop. -/
def start (stops : List α) (h : 0 < stops.length) : Tour α := ⟨stops, ⟨0, h⟩⟩

/-- The stop of a tour. -/
def current : α := t.stops.get t.index

/-- The tour at its next stop. -/
def next : Tour α where
  stops := t.stops
  index := ⟨(t.index + 1) % t.stops.length, Nat.mod_lt _ t.index.pos⟩

/-- The tour some stops further on. -/
def after : ℕ → Tour α
  | 0 => t
  | k + 1 => (after k).next

@[simp] theorem start_stops (stops : List α) (h : 0 < stops.length) :
    (start stops h).stops = stops := rfl

@[simp] theorem next_stops : t.next.stops = t.stops := rfl

@[simp] theorem next_index : (t.next.index : ℕ) = (t.index + 1) % t.stops.length := rfl

@[simp] theorem after_stops : (t.after k).stops = t.stops := by
  induction k with
  | zero => rfl
  | succ k ih => exact ih

theorem index_after : ((t.after k).index : ℕ) = (t.index + k) % t.stops.length := by
  induction k with
  | zero => exact (Nat.mod_eq_of_lt t.index.isLt).symm
  | succ k ih =>
    have hnext : ((t.after (k + 1)).index : ℕ) =
        ((t.after k).index + 1) % (t.after k).stops.length := rfl
    rw [hnext, ih, after_stops, Nat.mod_add_mod, Nat.add_assoc]

theorem getElem?_index : t.stops[(t.index : ℕ)]? = some t.current :=
  List.getElem?_eq_getElem t.index.isLt

/-- From the first stop, `k` stops further on. -/
theorem index_after_start {stops : List α} (h : 0 < stops.length) :
    (((start stops h).after k).index : ℕ) = k % stops.length := by
  rw [index_after]
  exact congrArg (· % stops.length) (Nat.zero_add k)

theorem current_after_start {stops : List α} (h : 0 < stops.length) :
    stops[k % stops.length]? = some ((start stops h).after k).current := by
  have hget := ((start stops h).after k).getElem?_index
  rwa [index_after_start, after_stops] at hget

end Tour
