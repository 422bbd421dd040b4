import Sentry.Framing
import Mathlib.Algebra.Order.Group.Nat
import Mathlib.Algebra.Order.Ring.Nat
import Mathlib.Tactic.Ring

/-!
# Streams of frames

A *stream* is the concatenation of the frames of the bodies `bs`, each of the
length of the format and making a valid frame (`Format.Sound`), with delimiters
allowed inside. What a receiver holds of it is always the part between two
positions: it lost what is before `p` and has not got what is after `e`.

A step of the receiver on such a part ends right after a delimiter of the stream,
and emits nothing, or one of the frames (`step_stream`): a window of the full
length without delimiters is aligned with the frames (`aligned`), hence valid, and
no shifted window is ever looked at. A scan thus emits the frames that lie between
`p` and `e` and contain no delimiter (`scan_stream`), and a receiver that also
loses data emits some of them, in order (`lossy_stream`).
-/

namespace Framing

open Transition

variable {α : Type*}

namespace Format

variable (F : Format α)

/-- The frames of the bodies `bs`, back to back. -/
def stream (bs : List (List α)) : List α := bs.flatMap F.frame

/-- Bodies that make valid frames. -/
def Sound (bs : List (List α)) : Prop :=
  ∀ w ∈ bs, w.length = F.body ∧ F.valid (F.frame w)

/-- The bodies whose frames lie between the positions `p` and `e` of the stream. -/
def between (bs : List (List α)) (p e : ℕ) : List (List α) :=
  (bs.take (e / (F.body + 1))).drop ((p + F.body) / (F.body + 1))

variable {F} {bs : List (List α)} {exact : Prop}

theorem Sound.tail {w : List α} (h : F.Sound (w :: bs)) : F.Sound bs :=
  fun v hv => h v (List.mem_cons_of_mem _ hv)

theorem size_pos : 0 < F.body + 1 := Nat.succ_pos _

theorem length_frame {w : List α} (h : w.length = F.body) :
    (F.frame w).length = F.body + 1 := by simp [frame, h]

@[simp] theorem stream_nil : F.stream [] = [] := rfl

@[simp] theorem stream_cons (w : List α) : F.stream (w :: bs) = F.frame w ++ F.stream bs := rfl

/-! ## Positions in a stream -/

theorem length_stream (h : F.Sound bs) : (F.stream bs).length = bs.length * (F.body + 1) := by
  induction bs with
  | nil => simp
  | cons w bs ih =>
    rw [stream_cons, List.length_append, length_frame (h w List.mem_cons_self).1, ih h.tail,
      List.length_cons]
    ring

/-- The symbols of the frame `k` of a stream. -/
theorem getElem?_stream (h : F.Sound bs) {k i : ℕ} {w : List α} (hk : bs[k]? = some w)
    (hi : i ≤ F.body) : (F.stream bs)[k * (F.body + 1) + i]? = (F.frame w)[i]? := by
  induction bs generalizing k with
  | nil => simp at hk
  | cons v bs ih =>
    have hv := length_frame (h v List.mem_cons_self).1
    rw [stream_cons]
    cases k with
    | zero =>
      obtain rfl : v = w := by simpa using hk
      rw [Nat.zero_mul, Nat.zero_add, List.getElem?_append_left (by omega)]
    | succ k =>
      have hsucc : (k + 1) * (F.body + 1) + i - (F.frame v).length = k * (F.body + 1) + i := by
        rw [hv, Nat.succ_mul]
        omega
      rw [List.getElem?_append_right (by rw [hv, Nat.succ_mul]; omega), hsucc]
      exact ih h.tail (by simpa using hk)

/-- The last symbol of a frame is the delimiter, and the others are its body. -/
theorem getElem?_frame {w : List α} (hw : w.length = F.body) {i : ℕ} (hi : i ≤ F.body) :
    (F.frame w)[i]? = if i = F.body then some F.delim else w[i]? := by
  split
  · next hi => simp [frame, hi, ← hw]
  · next hne => rw [frame, List.getElem?_append_left (by omega)]

/-- Every position of a stream is in one of its frames. -/
theorem exists_frame (h : F.Sound bs) {i : ℕ} (hi : i < (F.stream bs).length) :
    ∃ w, bs[i / (F.body + 1)]? = some w ∧ w.length = F.body ∧
      (F.stream bs)[i]? =
        if i % (F.body + 1) = F.body then some F.delim else w[i % (F.body + 1)]? := by
  rw [length_stream h] at hi
  have hk : i / (F.body + 1) < bs.length := Nat.div_lt_of_lt_mul (by rwa [Nat.mul_comm])
  have hle : i % (F.body + 1) ≤ F.body := Nat.le_of_lt_succ (Nat.mod_lt _ F.size_pos)
  have hw := (h _ (List.getElem_mem hk)).1
  have hget := getElem?_stream h (List.getElem?_eq_getElem hk) hle
  rw [Nat.div_add_mod', getElem?_frame hw hle] at hget
  exact ⟨_, List.getElem?_eq_getElem hk, hw, hget⟩

/-- Every frame of a stream ends with a delimiter. -/
theorem getElem?_stream_delim (h : F.Sound bs) {i : ℕ} (hi : i < (F.stream bs).length)
    (hmod : i % (F.body + 1) = F.body) : (F.stream bs)[i]? = some F.delim := by
  obtain ⟨_, -, -, hget⟩ := exists_frame h hi
  rw [hget, if_pos hmod]

/-- In a stream whose bodies hold no delimiter, there are no other ones. -/
theorem mod_of_getElem?_delim (h : F.Sound bs) (hclean : ∀ w ∈ bs, F.delim ∉ w) {i : ℕ}
    (hi : (F.stream bs)[i]? = some F.delim) : i % (F.body + 1) = F.body := by
  obtain ⟨w, hw, -, hget⟩ := exists_frame h (List.getElem?_eq_some_iff.1 hi).1
  by_contra hne
  rw [hget, if_neg hne] at hi
  exact hclean w (List.mem_of_getElem? hw) (List.mem_of_getElem? hi)

/-- The symbols of a part of a list, up to one of them. -/
theorem getElem?_part {l pre post : List α} {p e i : ℕ} {x : α}
    (h : (l.take e).drop p = pre ++ x :: post) (hi : i ≤ pre.length) :
    l[p + i]? = (pre ++ [x])[i]? ∧ p + i < e := by
  have hget : ((l.take e).drop p)[i]? = (pre ++ [x])[i]? := by
    rw [h, List.append_cons, List.getElem?_append_left (by simp; omega)]
  rw [List.getElem?_drop] at hget
  have hlt : p + i < e := by
    have hlen := congrArg List.length h
    simp only [List.length_drop, List.length_take, List.length_append, List.length_cons] at hlen
    omega
  rw [List.getElem?_take_of_lt hlt] at hget
  exact ⟨hget, hlt⟩

/-- Among any `body + 1` positions of a stream, one holds a delimiter ending a frame. -/
theorem exists_delim (h : F.Sound bs) {s : ℕ} (hs : s + F.body < (F.stream bs).length) :
    ∃ i ≤ F.body, (F.stream bs)[s + i]? = some F.delim ∧ (s % (F.body + 1) ≠ 0 → i < F.body) := by
  have hr : s % (F.body + 1) < F.body + 1 := Nat.mod_lt _ F.size_pos
  refine ⟨F.body - s % (F.body + 1), Nat.sub_le _ _, ?_, fun hne => by omega⟩
  refine getElem?_stream_delim h (by omega) ?_
  have hs' : s + (F.body - s % (F.body + 1)) =
      (F.body + 1) * (s / (F.body + 1)) + F.body := by
    have := Nat.div_add_mod s (F.body + 1)
    omega
  rw [hs', Nat.mul_add_mod, Nat.mod_eq_of_lt (Nat.lt_succ_self _)]

theorem first_mul (k : ℕ) : (k * (F.body + 1) + F.body) / (F.body + 1) = k := by
  rw [Nat.mul_comm, Nat.mul_add_div F.size_pos, Nat.div_eq_of_lt (Nat.lt_succ_self _),
    Nat.add_zero]

/-- A window of the full length without delimiters starts where a frame does, and
    nothing comes before it. -/
theorem dvd_of_window (h : F.Sound bs) {p e : ℕ} {junk w post : List α} (hj : F.delim ∉ junk)
    (hw : F.IsBody w)
    (hpart : ((F.stream bs).take e).drop p = junk ++ w ++ F.delim :: post) :
    junk = [] ∧ F.body + 1 ∣ p := by
  have hlen : (junk ++ w).length = junk.length + F.body := by rw [List.length_append, hw.length]
  -- No symbol of the part before its delimiter is one.
  have hno : ∀ i < junk.length + F.body, (F.stream bs)[p + i]? ≠ some F.delim := by
    intro i hi heq
    rw [(getElem?_part hpart (by omega)).1, List.getElem?_append_left (by omega)] at heq
    rcases List.mem_append.1 (List.mem_of_getElem? heq) with hm | hm
    · exact hj hm
    · exact hw.notMem hm
  have hlast := (getElem?_part hpart hlen.ge).1
  rw [← hlen, List.getElem?_concat_length, hlen] at hlast
  have hbound := (List.getElem?_eq_some_iff.1 hlast).1
  have hstart : (p + junk.length) % (F.body + 1) = 0 := by
    by_contra hne
    obtain ⟨i, -, hdelim, hi⟩ := exists_delim h (s := p + junk.length) (by omega)
    exact hno (junk.length + i) (by have := hi hne; omega) (by rwa [← Nat.add_assoc])
  -- Symbols before the window would include the end of the frame before it.
  obtain rfl : junk = [] := by
    by_contra hne
    have hpos := List.length_pos_iff.2 hne
    refine hno (junk.length - 1) (by omega) (getElem?_stream_delim h (by omega) ?_)
    have hsucc : (p + (junk.length - 1) + 1) % (F.body + 1) = 0 := by
      rwa [show p + (junk.length - 1) + 1 = p + junk.length by omega]
    exact Nat.succ_mod_succ_eq_zero_iff.1 hsucc
  exact ⟨rfl, Nat.dvd_of_mod_eq_zero hstart⟩

/-- A window of the full length without delimiters is aligned with the frames:
    it is one of the bodies. -/
theorem aligned (h : F.Sound bs) {p e : ℕ} {junk w post : List α} (hj : F.delim ∉ junk)
    (hw : F.IsBody w)
    (hpart : ((F.stream bs).take e).drop p = junk ++ (w ++ F.delim :: post)) :
    junk = [] ∧ ∃ k, p = k * (F.body + 1) ∧ bs[k]? = some w ∧ (k + 1) * (F.body + 1) ≤ e := by
  rw [← List.append_assoc] at hpart
  obtain ⟨rfl, k, rfl⟩ := dvd_of_window h hj hw hpart
  rw [List.nil_append, Nat.mul_comm] at hpart
  obtain ⟨hlast, hlt⟩ := getElem?_part hpart hw.length.ge
  rw [← hw.length, List.getElem?_concat_length, hw.length] at hlast
  obtain ⟨w', hw', hlen', -⟩ := exists_frame h (List.getElem?_eq_some_iff.1 hlast).1
  rw [first_mul] at hw'
  -- The window and the body are at the same place of the stream.
  obtain rfl : w = w' := by
    refine List.ext_getElem? fun i => ?_
    rcases Nat.lt_or_ge i F.body with hi | hi
    · have hwin := (getElem?_part hpart (i := i) (by rw [hw.length]; exact hi.le)).1
      rw [getElem?_stream h hw' hi.le, getElem?_frame hlen' hi.le, if_neg hi.ne,
        List.getElem?_append_left (by rw [hw.length]; exact hi)] at hwin
      exact hwin.symm
    · rw [List.getElem?_eq_none (by rw [hw.length]; exact hi),
        List.getElem?_eq_none (by rw [hlen']; exact hi)]
  exact ⟨rfl, k, Nat.mul_comm _ _, hw', by rw [Nat.succ_mul]; omega⟩

/-- What a step does on a part of a stream: it goes on right after a delimiter,
    having dropped less than a frame, or emitted the frame it was at. -/
theorem step_stream (h : F.Sound bs) {p e : ℕ} {es : List (List α)} {b : List α}
    (hstep : F.Step exact (((F.stream bs).take e).drop p) es b) :
    ∃ q, p < q ∧ q ≤ e ∧ b = ((F.stream bs).take e).drop q ∧
      (F.stream bs)[q - 1]? = some F.delim ∧
      ((es = [] ∧ q ≤ p + F.body) ∨
        ∃ k w, p = k * (F.body + 1) ∧ q = (k + 1) * (F.body + 1) ∧ bs[k]? = some w ∧
          F.delim ∉ w ∧ es = [F.frame w]) := by
  generalize hpart : ((F.stream bs).take e).drop p = part at hstep
  -- The position after the first delimiter of the part.
  have hnext : ∀ {pre post : List α}, part = pre ++ F.delim :: post →
      p + pre.length + 1 ≤ e ∧ post = ((F.stream bs).take e).drop (p + pre.length + 1) ∧
        (F.stream bs)[p + pre.length]? = some F.delim := fun {pre post} hp => by
    obtain ⟨hget, hlt⟩ := getElem?_part (hpart.trans hp) le_rfl
    rw [List.getElem?_concat_length] at hget
    refine ⟨hlt, ?_, hget⟩
    rw [Nat.add_assoc, ← List.drop_drop, hpart, hp, List.append_cons, List.drop_left' (by simp)]
  -- The window of a step that looks for a frame is one.
  have hwindow : ∀ {junk w post : List α}, F.delim ∉ junk → F.IsBody w →
      part = junk ++ (w ++ F.delim :: post) → F.valid (F.frame w) ∧
        ∃ q, p < q ∧ q ≤ e ∧ post = ((F.stream bs).take e).drop q ∧
          (F.stream bs)[q - 1]? = some F.delim ∧
          ∃ k, p = k * (F.body + 1) ∧ q = (k + 1) * (F.body + 1) ∧ bs[k]? = some w :=
      fun {junk w post} hj hw hp => by
    obtain ⟨rfl, k, hk, hget, -⟩ := aligned h hj hw (hpart.trans hp)
    obtain ⟨hle, hpost, hdelim⟩ := hnext hp
    rw [hw.length] at hle hpost hdelim
    exact ⟨(h w (List.mem_of_getElem? hget)).2, p + F.body + 1, by omega, hle, hpost, hdelim,
      k, hk, by rw [Nat.succ_mul]; omega, hget⟩
  cases hstep with
  | short _ hlen _ =>
    obtain ⟨hle, hpost, hdelim⟩ := hnext rfl
    exact ⟨_, by omega, hle, hpost, hdelim, .inl ⟨rfl, by omega⟩⟩
  | frame hj hw hv =>
    obtain ⟨-, q, hpq, hqe, hpost, hdelim, k, hk, hq, hget⟩ := hwindow hj hw rfl
    exact ⟨q, hpq, hqe, hpost, hdelim, .inr ⟨k, _, hk, hq, hget, hw.notMem, rfl⟩⟩
  | reject hj hw hv _ => exact absurd (hwindow hj hw rfl).1 hv
  | shifted hj hw hv _ => exact absurd (hwindow hj hw rfl).1 hv

/-! ## What a receiver makes of a stream -/

/-- The first whole frame at or after a position. -/
theorem first_le_iff {p k : ℕ} :
    (p + F.body) / (F.body + 1) ≤ k ↔ p ≤ k * (F.body + 1) := by
  rw [Nat.div_le_iff_le_mul F.size_pos]
  omega

/-- The frames from the position of one of them on. -/
theorem between_of_get {p e k : ℕ} {w : List α} (hp : (p + F.body) / (F.body + 1) = k)
    (hget : bs[k]? = some w) (he : (k + 1) * (F.body + 1) ≤ e) :
    F.between bs p e = w :: F.between bs ((k + 1) * (F.body + 1)) e := by
  rw [between, between, first_mul, hp]
  have hk : k < e / (F.body + 1) := (Nat.le_div_iff_mul_le F.size_pos).2 he
  obtain ⟨hlt, rfl⟩ := List.getElem?_eq_some_iff.1 hget
  rw [List.drop_eq_getElem_cons (by rw [List.length_take]; omega), List.getElem_take]

theorem between_congr {p q : ℕ} (e : ℕ)
    (h : (p + F.body) / (F.body + 1) = (q + F.body) / (F.body + 1)) :
    F.between bs p e = F.between bs q e := by rw [between, between, h]

theorem between_eq_nil {p e : ℕ} (h : e / (F.body + 1) ≤ (p + F.body) / (F.body + 1)) :
    F.between bs p e = [] :=
  List.drop_eq_nil_of_le ((List.length_take_le _ _).trans h)

/-- A part with nothing to work on holds no frame. -/
theorem between_of_stuck (h : F.Sound bs) {p e : ℕ}
    (hstuck : F.Stuck (((F.stream bs).take e).drop p)) : F.between bs p e = [] := by
  by_contra hne
  obtain ⟨k, hk⟩ : ∃ k, (p + F.body) / (F.body + 1) = k := ⟨_, rfl⟩
  have hlt : k < min (e / (F.body + 1)) bs.length := by
    by_contra hle
    exact hne (List.drop_eq_nil_of_le (by rw [List.length_take, hk]; omega))
  have hp : p ≤ k * (F.body + 1) := first_le_iff.1 hk.le
  have he : (k + 1) * (F.body + 1) ≤ e := (Nat.le_div_iff_mul_le F.size_pos).1 (by omega)
  have hlen : (k + 1) * (F.body + 1) ≤ (F.stream bs).length := by
    rw [length_stream h]
    exact Nat.mul_le_mul_right _ (by omega)
  rw [Nat.succ_mul] at he hlen
  rcases hstuck with hshort | hmem
  · rw [List.length_drop, List.length_take] at hshort
    omega
  · obtain ⟨w, hw⟩ : ∃ w, bs[k]? = some w := ⟨_, List.getElem?_eq_getElem (by omega)⟩
    have hdelim := getElem?_stream h hw le_rfl
    rw [getElem?_frame (h w (List.mem_of_getElem? hw)).1 le_rfl, if_pos rfl] at hdelim
    refine hmem (List.mem_of_getElem? (i := k * (F.body + 1) + F.body - p) ?_)
    rw [List.getElem?_drop, List.getElem?_take_of_lt (by omega), ← hdelim]
    congr 1
    omega

/-- A delimiter inside a frame shows in its body. -/
theorem delim_mem_of_getElem? (h : F.Sound bs) {k q : ℕ} {w : List α} (hk : bs[k]? = some w)
    (hq : k * (F.body + 1) < q) (hq' : q ≤ k * (F.body + 1) + F.body)
    (hdelim : (F.stream bs)[q - 1]? = some F.delim) : F.delim ∈ w := by
  obtain ⟨i, rfl⟩ := Nat.exists_eq_add_of_lt hq
  rw [Nat.add_sub_cancel, getElem?_stream h hk (by omega),
    getElem?_frame (h w (List.mem_of_getElem? hk)).1 (by omega), if_neg (by omega)] at hdelim
  exact List.mem_of_getElem? hdelim

/-- A run on a part of a stream stops where it started, or right after a delimiter. -/
theorem run_stream_delim (h : F.Sound bs) {p e : ℕ} {es : List (List α)} {fin : List α}
    (hpe : p ≤ e) (hrun : Run (F.Step exact) (((F.stream bs).take e).drop p) es fin) :
    ∃ q, p ≤ q ∧ q ≤ e ∧ fin = ((F.stream bs).take e).drop q ∧
      (q = p ∨ 0 < q ∧ (F.stream bs)[q - 1]? = some F.delim) := by
  generalize hpart : ((F.stream bs).take e).drop p = part at hrun
  induction hrun generalizing p with
  | nil => exact ⟨p, le_rfl, hpe, hpart.symm, .inl rfl⟩
  | cons hs _ ih =>
    rw [← hpart] at hs
    obtain ⟨q, hpq, hqe, rfl, hdelim, -⟩ := step_stream h hs
    obtain ⟨r, hqr, hre, hfin, hr⟩ := ih hqe rfl
    refine ⟨r, by omega, hre, hfin, .inr (hr.elim (fun hrq => ?_) id)⟩
    exact ⟨by omega, hrq ▸ hdelim⟩

/-- On a stream without delimiters inside, a run stops where it started, or where
    a frame starts. -/
theorem run_stream_pos (h : F.Sound bs) (hclean : ∀ w ∈ bs, F.delim ∉ w) {p e : ℕ}
    {es : List (List α)} {fin : List α} (hpe : p ≤ e)
    (hrun : Run (F.Step exact) (((F.stream bs).take e).drop p) es fin) :
    ∃ q, p ≤ q ∧ q ≤ e ∧ fin = ((F.stream bs).take e).drop q ∧ (q = p ∨ F.body + 1 ∣ q) := by
  obtain ⟨q, hpq, hqe, hfin, hq⟩ := run_stream_delim h hpe hrun
  refine ⟨q, hpq, hqe, hfin, hq.imp_right fun ⟨hpos, hdelim⟩ => ?_⟩
  have hmod := mod_of_getElem?_delim h hclean hdelim
  rw [← Nat.sub_add_cancel hpos]
  exact Nat.dvd_of_mod_eq_zero (Nat.succ_mod_succ_eq_zero_iff.2 hmod)

/-- A scan of a stream whose last frame holds no delimiter inside leaves nothing. -/
theorem scan_stream_nil (h : F.Sound bs) (hlast : ∀ w, bs.getLast? = some w → F.delim ∉ w)
    {es : List (List α)} {fin : List α} (hscan : F.Scan exact (F.stream bs) es fin) : fin = [] := by
  have hpart : ((F.stream bs).take (F.stream bs).length).drop 0 = F.stream bs := by simp
  have hlen := length_stream h
  obtain ⟨hrun, hstuck⟩ := hscan
  rw [← hpart] at hrun
  obtain ⟨q, -, hqe, rfl, hq⟩ := run_stream_delim h (Nat.zero_le _) hrun
  by_contra hne
  rw [List.drop_eq_nil_iff, List.take_length, Nat.not_le] at hne
  obtain ⟨n, hn⟩ := Nat.exists_eq_succ_of_ne_zero
    (fun h0 => by rw [hlen, h0] at hne; omega : bs.length ≠ 0)
  obtain ⟨w, hget⟩ : ∃ w, bs[n]? = some w := ⟨_, List.getElem?_eq_getElem (by omega)⟩
  rw [hn, Nat.succ_mul] at hlen
  -- The last frame is not in the part left, which starts inside it, after a delimiter.
  have hnil := between_of_stuck h hstuck
  have hnq : n * (F.body + 1) < q := by
    by_contra hle
    have hfirst : (q + F.body) / (F.body + 1) ≤ n := first_le_iff.2 (by omega)
    have hend : n + 1 ≤ (F.stream bs).length / (F.body + 1) :=
      (Nat.le_div_iff_mul_le F.size_pos).2 (by rw [Nat.succ_mul]; omega)
    have hlt := congrArg List.length hnil
    rw [between, List.length_drop, List.length_take, List.length_nil] at hlt
    omega
  obtain rfl | ⟨-, hdelim⟩ := hq
  · omega
  · have hmem := delim_mem_of_getElem? h hget hnq (by omega) hdelim
    refine hlast _ ?_ hmem
    rw [List.getLast?_eq_getElem?, hn]
    exact hget

section

variable [DecidableEq α]

variable (F) in
/-- The bodies that hold no delimiter. -/
def clean (bs : List (List α)) : List (List α) := bs.filter fun w => F.delim ∉ w

theorem clean_of_forall (hclean : ∀ w ∈ bs, F.delim ∉ w) : F.clean bs = bs :=
  List.filter_eq_self.2 fun w hw => decide_eq_true (hclean w hw)

/-- Dropping less than a frame up to a delimiter loses no frame without delimiters. -/
theorem clean_between_of_delim (h : F.Sound bs) {p q e : ℕ} (hpq : p < q) (hq : q ≤ p + F.body)
    (hdelim : (F.stream bs)[q - 1]? = some F.delim) :
    F.clean (F.between bs p e) = F.clean (F.between bs q e) := by
  obtain ⟨k, hk⟩ : ∃ k, (p + F.body) / (F.body + 1) = k := ⟨_, rfl⟩
  have hp : p ≤ k * (F.body + 1) := first_le_iff.1 hk.le
  rcases Nat.lt_or_ge (k * (F.body + 1)) q with hlt | hge
  · -- The delimiter is inside the frame `k`.
    have hq' : (q + F.body) / (F.body + 1) = k + 1 := by
      refine Nat.le_antisymm (first_le_iff.2 (by rw [Nat.succ_mul]; omega)) ?_
      by_contra hle
      exact absurd (first_le_iff.1 (Nat.lt_succ_iff.1 (Nat.not_le.1 hle))) (by omega)
    rcases Nat.lt_or_ge k (min (e / (F.body + 1)) bs.length) with hke | hke
    · have hget : bs[k]? = some bs[k] := List.getElem?_eq_getElem (by omega)
      have hmem := delim_mem_of_getElem? h hget hlt (by omega) hdelim
      rw [between_of_get hk hget ((Nat.le_div_iff_mul_le F.size_pos).1 (by omega)), clean,
        List.filter_cons_of_neg (by simpa using hmem), clean]
      rw [between_congr e (hq'.trans (first_mul (k + 1)).symm)]
    · have hnil : ∀ r, k ≤ (r + F.body) / (F.body + 1) → F.between bs r e = [] := fun r hr =>
        List.drop_eq_nil_of_le (by rw [List.length_take]; omega)
      rw [hnil p hk.ge, hnil q (by omega)]
  · -- No frame starts between the positions.
    have hq' : (q + F.body) / (F.body + 1) = k :=
      Nat.le_antisymm (first_le_iff.2 hge) (hk ▸ Nat.div_le_div_right (by omega))
    rw [between_congr e (hk.trans hq'.symm)]

/-- A scan of a part of a stream emits the frames of the part without delimiters inside. -/
theorem scan_stream (h : F.Sound bs) {p e : ℕ} {es : List (List α)} {fin : List α}
    (hscan : F.Scan exact (((F.stream bs).take e).drop p) es fin) :
    es = (F.clean (F.between bs p e)).map F.frame := by
  obtain ⟨hrun, hstuck⟩ := hscan
  generalize hpart : ((F.stream bs).take e).drop p = part at hrun
  induction hrun generalizing p with
  | nil =>
    rw [← hpart] at hstuck
    rw [between_of_stuck h hstuck]
    rfl
  | cons hs _ ih =>
    rw [← hpart] at hs
    obtain ⟨q, hpq, hqe, rfl, hdelim, ⟨rfl, hle⟩ | ⟨k, w, rfl, rfl, hk, hw, rfl⟩⟩ :=
      step_stream h hs
    · rw [List.nil_append, ih hstuck rfl, clean_between_of_delim h hpq hle hdelim]
    · rw [ih hstuck rfl, between_of_get (first_mul k) hk hqe, clean, clean,
        List.filter_cons_of_pos (by simpa using hw)]
      rfl

/-- A receiver that loses data emits some of the frames of the part without
    delimiters inside, in order. -/
theorem lossy_stream (h : F.Sound bs) {p e : ℕ} {es : List (List α)} {fin : List α}
    (hrun : Run F.Lossy (((F.stream bs).take e).drop p) es fin) :
    es.Sublist ((F.clean (F.between bs p e)).map F.frame) := by
  generalize hpart : ((F.stream bs).take e).drop p = part at hrun
  -- Going on from a later position keeps a sublist.
  have hlater : ∀ {p q : ℕ}, p ≤ q →
      (F.clean (F.between bs q e)).Sublist (F.clean (F.between bs p e)) := fun hpq => by
    refine List.Sublist.filter _ ?_
    rw [between, between, ← Nat.add_sub_of_le (Nat.div_le_div_right (Nat.add_le_add_right hpq _)),
      ← List.drop_drop]
    exact List.drop_sublist _ _
  induction hrun generalizing p with
  | nil => exact List.nil_sublist _
  | cons hs _ ih =>
    rw [← hpart] at hs
    rcases hs with hs | ⟨rfl, hsuffix⟩
    · obtain ⟨q, hpq, hqe, rfl, -, ⟨rfl, -⟩ | ⟨k, w, rfl, rfl, hk, hw, rfl⟩⟩ := step_stream h hs
      · exact (ih rfl).trans ((hlater hpq.le).map _)
      · rw [between_of_get (first_mul k) hk hqe, clean,
          List.filter_cons_of_pos (by simpa using hw)]
        exact (ih rfl).cons_cons _
    · rw [List.suffix_iff_eq_drop, List.drop_drop] at hsuffix
      exact (ih hsuffix.symm).trans ((hlater (Nat.le_add_right p _)).map _)

end

/-! ## Trimmed feeds -/

/-- The frames up to a position are those of the part of the stream up to it. -/
theorem between_min (h : F.Sound bs) (p e : ℕ) :
    F.between bs p (min e (F.stream bs).length) = F.between bs p e := by
  have hmin : min e (F.stream bs).length / (F.body + 1) = min (e / (F.body + 1)) bs.length := by
    rw [length_stream h]
    rcases Nat.le_total e (bs.length * (F.body + 1)) with hle | hle
    · rw [Nat.min_eq_left hle, Nat.min_eq_left]
      exact Nat.div_le_of_le_mul (by rwa [Nat.mul_comm])
    · rw [Nat.min_eq_right hle, Nat.mul_div_cancel _ F.size_pos, Nat.min_eq_right]
      exact (Nat.le_div_iff_mul_le F.size_pos).2 hle
  rw [between, between, hmin, List.take_eq_take_min (i := e / (F.body + 1))]

/-- The last of the frames between two positions is the last whole one. -/
theorem getLast?_between (h : F.Sound bs) {p e : ℕ} (he : e ≤ (F.stream bs).length)
    (hlt : (p + F.body) / (F.body + 1) < e / (F.body + 1)) :
    (F.between bs p e).getLast? = bs[e / (F.body + 1) - 1]? := by
  have hle : e / (F.body + 1) ≤ bs.length :=
    Nat.div_le_of_le_mul (by rw [Nat.mul_comm, ← length_stream h]; exact he)
  rw [between, List.getLast?_drop, if_neg (by rw [List.length_take]; omega),
    List.getLast?_eq_getElem?, List.length_take, Nat.min_eq_left hle,
    List.getElem?_take_of_lt (Nat.sub_lt (Nat.zero_lt_of_lt hlt) Nat.one_pos)]

/-- Consecutive parts of a list. -/
theorem part_append {l : List α} {p e e' : ℕ} (hpe : p ≤ e) (hee : e ≤ e') :
    (l.take e).drop p ++ (l.take e').drop e = (l.take e').drop p := by
  have htake : l.take e = (l.take e').take e := by rw [List.take_take, Nat.min_eq_left hee]
  rw [htake]
  generalize l.take e' = m
  rcases Nat.le_total e m.length with hle | hle
  · conv_rhs => rw [← List.take_append_drop e m]
    rw [List.drop_append_of_le_length (by rw [List.length_take]; omega)]
  · rw [List.drop_eq_nil_of_le hle, List.take_of_length_le hle, List.append_nil]

/-- Keeping a buffer, or its last symbols. -/
theorem suffix_of_trim {x y : List α} {keep : ℕ}
    (h : y = x ∨ keep ≤ x.length ∧ y = x.drop (x.length - keep)) : y <:+ x := by
  rcases h with rfl | ⟨-, rfl⟩
  · exact List.suffix_rfl
  · exact List.drop_suffix _ _

/-- The next chunk of a part of a list, and what is left after it. -/
theorem part_of_chunk {l c rest : List α} {e e' : ℕ} (hee : e ≤ e')
    (h : c ++ rest = (l.take e').drop e) :
    e + c.length ≤ e' ∧ c = (l.take (e + c.length)).drop e ∧
      rest = (l.take e').drop (e + c.length) := by
  have hle : e + c.length ≤ e' := by
    have hlen := congrArg List.length h
    rw [List.length_append, List.length_drop, List.length_take] at hlen
    omega
  refine ⟨hle, ?_, ?_⟩
  · have htake := congrArg (List.take c.length) h
    rw [List.take_left, List.drop_take, List.take_take, Nat.min_eq_left (by omega)] at htake
    rw [List.drop_take, Nat.add_sub_cancel_left]
    exact htake
  · rw [← List.drop_drop, ← h, List.drop_left]

section

variable {trim : List α → List α} {keep : ℕ}

/-- A part of a stream is trimmed to a part that still holds a whole frame, if it is
    trimmed at all. -/
theorem trim_part (hkeep : 2 * (F.body + 1) ≤ keep)
    (htrim : ∀ x, trim x = x ∨ keep ≤ x.length ∧ trim x = x.drop (x.length - keep))
    {p e : ℕ} (hpe : p ≤ e) (he : e ≤ (F.stream bs).length) :
    ∃ p', p ≤ p' ∧ p' ≤ e ∧
      trim (((F.stream bs).take e).drop p) = ((F.stream bs).take e).drop p' ∧
      (p' = p ∨ (p' + F.body) / (F.body + 1) < e / (F.body + 1)) := by
  rcases htrim (((F.stream bs).take e).drop p) with heq | ⟨hlen, heq⟩
  · exact ⟨p, le_rfl, hpe, heq, .inl rfl⟩
  · rw [List.length_drop, List.length_take, Nat.min_eq_left he] at hlen heq
    refine ⟨e - keep, by omega, by omega, ?_, .inr ?_⟩
    · rw [heq, List.drop_drop]
      congr 1
      omega
    · rw [Nat.lt_iff_add_one_le, ← Nat.add_div_right _ F.size_pos]
      exact Nat.div_le_div_right (by omega)

variable [DecidableEq α]

/-- A scan of a part of a stream without delimiters inside emits its frames, and stops
    where it started, or where a frame starts. -/
theorem scan_clean_part (h : F.Sound bs) (hclean : ∀ w ∈ bs, F.delim ∉ w) {p e : ℕ} (hpe : p ≤ e)
    {es : List (List α)} {fin : List α}
    (hscan : F.Scan exact (((F.stream bs).take e).drop p) es fin) :
    es = (F.between bs p e).map F.frame ∧
      ∃ q, p ≤ q ∧ q ≤ e ∧ fin = ((F.stream bs).take e).drop q ∧ (q = p ∨ F.body + 1 ∣ q) := by
  have hbetween : F.clean (F.between bs p e) = F.between bs p e :=
    clean_of_forall fun w hw => hclean w (List.mem_of_mem_take (List.mem_of_mem_drop hw))
  refine ⟨?_, run_stream_pos h hclean hpe hscan.run⟩
  rw [scan_stream h hscan, hbetween]

/-- If there is a frame between the start of the buffer and the end of the stream,
    the last one is the last window emitted. -/
theorem feed_stream_last (h : F.Sound bs) (hclean : ∀ w ∈ bs, F.delim ∉ w)
    (hkeep : 2 * (F.body + 1) ≤ keep)
    (htrim : ∀ x, trim x = x ∨ keep ≤ x.length ∧ trim x = x.drop (x.length - keep))
    {p e e' : ℕ} (hpe : p ≤ e) (hee : e ≤ e') (he' : e' ≤ (F.stream bs).length) {b fin : List α}
    {cs ws : List (List α)} (hb : b = ((F.stream bs).take e).drop p)
    (hcs : cs.flatten = ((F.stream bs).take e').drop e) (hstuck : cs = [] → F.Stuck b)
    (hfeed : F.Feed trim b cs ws fin) (hlt : (p + F.body) / (F.body + 1) < e' / (F.body + 1)) :
    ws.getLast? = bs[e' / (F.body + 1) - 1]?.map F.frame := by
  induction hfeed generalizing p e with
  | nil =>
    have hnil := congrArg List.length hcs
    rw [List.flatten_nil, List.length_nil, List.length_drop, List.length_take] at hnil
    obtain rfl : e = e' := by omega
    have hlast := getLast?_between h he' hlt
    rw [between_of_stuck h (hb ▸ hstuck rfl), List.getLast?_nil] at hlast
    rw [← hlast]
    rfl
  | @cons b c b' fin cs ws ws' hscan hrest ih =>
    rw [List.flatten_cons] at hcs
    obtain ⟨hle, hchunk, htail⟩ := part_of_chunk hee hcs
    have hge := Nat.le_add_right e c.length
    generalize e + c.length = e₁ at hle hchunk htail hge
    obtain ⟨p', hpp', hp'e, htrimmed, hp'⟩ :=
      trim_part hkeep htrim (hpe.trans hge) (hle.trans he')
    rw [hb, hchunk, part_append hpe hge, htrimmed] at hscan
    obtain ⟨rfl, q, hp'q, hqe, hb', hq⟩ := scan_clean_part h hclean hp'e hscan
    have hdiv : e₁ / (F.body + 1) ≤ e' / (F.body + 1) := Nat.div_le_div_right hle
    rw [List.getLast?_append]
    rcases Nat.lt_or_ge ((q + F.body) / (F.body + 1)) (e' / (F.body + 1)) with hlt' | hge'
    · -- There are frames to come: the last one is among them.
      have hbound : e' / (F.body + 1) ≤ bs.length :=
        Nat.div_le_of_le_mul (by rw [Nat.mul_comm, ← length_stream h]; exact he')
      have hpos := Nat.zero_lt_of_lt hlt
      rw [ih hqe hle hb' htail (fun _ => hscan.stuck) hlt', List.getElem?_eq_getElem (by omega)]
      rfl
    · -- Nothing more is emitted: the last one was in this part.
      have hlossy := hrest.lossy fun x => suffix_of_trim (htrim x)
      rw [hb', htail, part_append hqe hle] at hlossy
      have hnil := lossy_stream h hlossy
      rw [between_eq_nil hge'] at hnil
      obtain rfl : ws' = [] := List.sublist_nil.1 hnil
      have hlast : (p' + F.body) / (F.body + 1) < e₁ / (F.body + 1) ∧
          e₁ / (F.body + 1) = e' / (F.body + 1) := by
        rcases hq with rfl | ⟨k, rfl⟩
        · rcases hp' with rfl | hlt' <;> omega
        · rw [Nat.mul_comm, first_mul] at hge'
          have hk : k ≤ e₁ / (F.body + 1) :=
            (Nat.le_div_iff_mul_le F.size_pos).2 (by rwa [Nat.mul_comm])
          exact ⟨hp'.elim (fun hp => by rw [hp]; omega) id, by omega⟩
      rw [List.getLast?_map, getLast?_between h (hle.trans he') hlast.1, hlast.2]
      rfl

/-- A receiver that trims its buffer to no less than two frames has always emitted
    the last whole frame of a stream without delimiters inside. -/
theorem feed_last (h : F.Sound bs) (hclean : ∀ w ∈ bs, F.delim ∉ w)
    (hkeep : 2 * (F.body + 1) ≤ keep)
    (htrim : ∀ x, trim x = x ∨ keep ≤ x.length ∧ trim x = x.drop (x.length - keep))
    {j e : ℕ} {fin : List α} {cs ws : List (List α)}
    (hcs : cs.flatten = ((F.stream bs).take e).drop j) (hfeed : F.Feed trim [] cs ws fin) :
    ws.getLast? = (F.between bs j e).getLast?.map F.frame := by
  rw [← between_min h]
  rw [List.take_eq_take_min] at hcs
  have he : min e (F.stream bs).length ≤ (F.stream bs).length := Nat.min_le_right _ _
  generalize min e (F.stream bs).length = e' at hcs he
  rcases Nat.lt_or_ge ((j + F.body) / (F.body + 1)) (e' / (F.body + 1)) with hlt | hge
  · have hje : j ≤ e' := (first_le_iff.1 hlt.le).trans (Nat.div_mul_le_self _ _)
    have hnil : [] = ((F.stream bs).take j).drop j := by simp
    rw [feed_stream_last h hclean hkeep htrim le_rfl hje he hnil hcs
      (fun _ => .inl (Nat.zero_le _)) hfeed hlt, getLast?_between h he hlt]
  · have hlossy := hfeed.lossy fun x => suffix_of_trim (htrim x)
    rw [List.nil_append, hcs] at hlossy
    have hws := lossy_stream h hlossy
    rw [between_eq_nil hge] at hws ⊢
    rw [List.sublist_nil.1 hws]
    rfl

end

end Format

end Framing
