import Sentry.Run
import Mathlib.Data.List.Basic
import Mathlib.Data.List.Infix

/-!
# Framing by a delimiter

A receiver cuts windows of a fixed length out of an unbounded stream of symbols.
Nothing marks the start of a window; a *delimiter* marks its end, either as its
last symbol (a *frame*) or as its last symbol but one (a *shifted* window). The
receiver holds a buffer, a suffix of what it was sent, and works on the first
delimiter in it:

* the delimiter comes too early for a frame: everything up to it is dropped;
* the window it closes is `valid`: the window is emitted, and everything up to
  the delimiter is dropped;
* otherwise, the window shifted by one symbol is `validNext`: it is emitted, and
  the symbol after the delimiter is dropped too;
* otherwise, everything up to the delimiter is dropped.

`Format.Step` is that step. Its parameter `exact` says whether a window may be
rejected only if the shifted one is not valid: a receiver that has not got the
symbol after the delimiter yet rejects without looking (`Step False`). Such a
receiver does not depend on how the stream is cut into chunks: what it does on a
buffer it may do on any longer one (`Step.append`).

`Format.Scan` is a run of steps to a buffer with nothing left to work on, and
`Format.Feed` scans after every chunk of the stream, possibly trimming the buffer
first. `Feed.scan` forgets the chunks of a feed that trims nothing, `Feed.lossy`
those of any feed, whose windows appear in the stream in order, without overlap
(`Feed.inOrder`).
-/

namespace Framing

open Transition

variable {α : Type*}

/-- A format of windows of `body + 1` symbols. -/
structure Format (α : Type*) where
  /-- The delimiter. -/
  delim : α
  /-- The number of symbols before the delimiter that closes a frame. -/
  body : ℕ
  /-- The frames to accept, delimiter included. -/
  valid : List α → Prop
  /-- The shifted windows to accept, delimiter included. -/
  validNext : List α → Prop

namespace Format

variable (F : Format α)

/-- The frame of the symbols `w`. -/
def frame (w : List α) : List α := w ++ [F.delim]

/-- The window shifted by one symbol, `c`, from the frame of `w`. -/
def shifted (w : List α) (c : α) : List α := w.tail ++ [F.delim, c]

/-- The symbols before a delimiter, as many as a frame has, none of which is a
    delimiter. -/
structure IsBody (w : List α) : Prop where
  length : w.length = F.body
  notMem : F.delim ∉ w

/-- A step on the first delimiter of the buffer, with the windows it emits. -/
inductive Step (exact : Prop) : List α → List (List α) → List α → Prop
  | short {pre post : List α} : F.delim ∉ pre → pre.length < F.body →
      F.body ≤ pre.length + post.length → Step exact (pre ++ F.delim :: post) [] post
  | frame {junk w post : List α} : F.delim ∉ junk → F.IsBody w → F.valid (F.frame w) →
      Step exact (junk ++ (w ++ F.delim :: post)) [F.frame w] post
  | reject {junk w post : List α} : F.delim ∉ junk → F.IsBody w → ¬F.valid (F.frame w) →
      (exact → ∀ c rest, post = c :: rest → ¬F.validNext (F.shifted w c)) →
      Step exact (junk ++ (w ++ F.delim :: post)) [] post
  | shifted {junk w post : List α} {c : α} : F.delim ∉ junk → F.IsBody w →
      ¬F.valid (F.frame w) → F.validNext (F.shifted w c) →
      Step exact (junk ++ (w ++ F.delim :: c :: post)) [F.shifted w c] post

/-- A buffer with nothing to work on: too short, or without a delimiter. -/
def Stuck (b : List α) : Prop := b.length ≤ F.body ∨ F.delim ∉ b

/-- A run of steps up to a buffer with nothing to work on. -/
structure Scan (exact : Prop) (b : List α) (ws : List (List α)) (fin : List α) : Prop where
  run : Run (F.Step exact) b ws fin
  stuck : F.Stuck fin

/-- The buffer ends with a delimiter closing a window that is not valid, while
    the shifted window would be, once `c` has come. -/
def Awaits (b : List α) (c : α) : Prop :=
  ∃ junk w, b = junk ++ F.frame w ∧ F.delim ∉ junk ∧ F.IsBody w ∧ ¬F.valid (F.frame w) ∧
    F.validNext (F.shifted w c)

variable {F} {exact exact' : Prop} {b b' y pre post junk w : List α} {ws : List (List α)}

/-! ## What a step does -/

/-- The first delimiter splits a buffer in one way. -/
theorem split_unique {pre' post' : List α} (hpre : F.delim ∉ pre) (hpre' : F.delim ∉ pre')
    (h : pre ++ F.delim :: post = pre' ++ F.delim :: post') : pre = pre' ∧ post = post' := by
  induction pre generalizing pre' with
  | nil =>
    cases pre' with
    | nil => exact ⟨rfl, (List.cons.inj h).2⟩
    | cons x pre' =>
      obtain ⟨rfl, -⟩ := List.cons.inj h
      exact absurd List.mem_cons_self hpre'
  | cons x pre ih =>
    cases pre' with
    | nil =>
      obtain ⟨rfl, -⟩ := List.cons.inj h
      exact absurd List.mem_cons_self hpre
    | cons x' pre' =>
      obtain ⟨rfl, htail⟩ := List.cons.inj h
      obtain ⟨rfl, rfl⟩ := ih (fun hm => hpre (List.mem_cons_of_mem _ hm))
        (fun hm => hpre' (List.mem_cons_of_mem _ hm)) htail
      exact ⟨rfl, rfl⟩

/-- The window closed by the first delimiter splits a buffer in one way. -/
theorem window_unique {junk' w' post' : List α} (hj : F.delim ∉ junk) (hw : F.IsBody w)
    (hj' : F.delim ∉ junk') (hw' : F.IsBody w')
    (h : junk ++ (w ++ F.delim :: post) = junk' ++ (w' ++ F.delim :: post')) :
    junk = junk' ∧ w = w' ∧ post = post' := by
  rw [← List.append_assoc, ← List.append_assoc] at h
  obtain ⟨hp, hq⟩ := split_unique (by simp [hj, hw.notMem]) (by simp [hj', hw'.notMem]) h
  obtain ⟨hjj, hww⟩ := List.append_inj' hp (by rw [hw.length, hw'.length])
  exact ⟨hjj, hww, hq⟩

/-- A delimiter too early for a frame does not close one. -/
theorem not_short_of_window {pre' post' : List α} (hj : F.delim ∉ junk) (hw : F.IsBody w)
    (hpre : F.delim ∉ pre') (hlen : pre'.length < F.body)
    (h : pre' ++ F.delim :: post' = junk ++ (w ++ F.delim :: post)) : False := by
  rw [← List.append_assoc] at h
  obtain ⟨rfl, -⟩ := split_unique hpre (by simp [hj, hw.notMem]) h
  have := hw.length
  rw [List.length_append] at hlen
  omega

/-- The symbols before a delimiter that is not too early end with a body. -/
theorem exists_isBody (hpre : F.delim ∉ pre) (hlen : F.body ≤ pre.length) :
    ∃ junk w, pre = junk ++ w ∧ F.delim ∉ junk ∧ F.IsBody w := by
  refine ⟨pre.take (pre.length - F.body), pre.drop (pre.length - F.body),
    (List.take_append_drop _ _).symm, fun hmem => hpre (List.mem_of_mem_take hmem), ?_,
    fun hmem => hpre (List.mem_of_mem_drop hmem)⟩
  rw [List.length_drop]
  omega

/-- A step on a delimiter too early for a frame drops everything up to it. -/
theorem step_short (hpre : F.delim ∉ pre) (hlen : pre.length < F.body)
    (h : F.Step exact (pre ++ F.delim :: post) ws b') : ws = [] ∧ b' = post := by
  generalize hb : pre ++ F.delim :: post = b at h
  cases h with
  | short hpre' _ _ => exact ⟨rfl, (split_unique hpre hpre' hb).2.symm⟩
  | frame hj hw _ => exact (not_short_of_window hj hw hpre hlen hb).elim
  | reject hj hw _ _ => exact (not_short_of_window hj hw hpre hlen hb).elim
  | shifted hj hw _ _ => exact (not_short_of_window hj hw hpre hlen hb).elim

/-- A step on a delimiter closing the window of `w` emits the frame, rejects it,
    or emits the shifted window. -/
theorem step_window (hj : F.delim ∉ junk) (hw : F.IsBody w)
    (h : F.Step exact (junk ++ (w ++ F.delim :: post)) ws b') :
    (F.valid (F.frame w) ∧ ws = [F.frame w] ∧ b' = post) ∨
    (¬F.valid (F.frame w) ∧ ws = [] ∧ b' = post ∧
      (exact → ∀ c rest, post = c :: rest → ¬F.validNext (F.shifted w c))) ∨
    (¬F.valid (F.frame w) ∧ ∃ c, post = c :: b' ∧ F.validNext (F.shifted w c) ∧
      ws = [F.shifted w c]) := by
  generalize hb : junk ++ (w ++ F.delim :: post) = b at h
  cases h with
  | short hpre hlen _ => exact (not_short_of_window hj hw hpre hlen hb.symm).elim
  | frame hj' hw' hv =>
    obtain ⟨-, rfl, rfl⟩ := window_unique hj hw hj' hw' hb
    exact .inl ⟨hv, rfl, rfl⟩
  | reject hj' hw' hv hn =>
    obtain ⟨-, rfl, rfl⟩ := window_unique hj hw hj' hw' hb
    exact .inr (.inl ⟨hv, rfl, rfl, hn⟩)
  | shifted hj' hw' hv hn =>
    obtain ⟨-, rfl, rfl⟩ := window_unique hj hw hj' hw' hb
    exact .inr (.inr ⟨hv, _, rfl, hn, rfl⟩)

/-- A step leaves a suffix of the buffer. -/
theorem Step.suffix (h : F.Step exact b ws b') : b' <:+ b := by
  cases h with
  | @short pre _ _ _ _ => exact ⟨pre ++ [F.delim], by simp⟩
  | @frame junk w _ _ _ _ => exact ⟨junk ++ (w ++ [F.delim]), by simp⟩
  | @reject junk w _ _ _ _ _ => exact ⟨junk ++ (w ++ [F.delim]), by simp⟩
  | @shifted junk w _ c _ _ _ _ => exact ⟨junk ++ (w ++ [F.delim, c]), by simp⟩

/-- A step drops a delimiter. -/
theorem Step.count_lt [DecidableEq α] (h : F.Step exact b ws b') :
    b'.count F.delim < b.count F.delim := by
  cases h with
  | short _ _ _ =>
    rw [List.count_append, List.count_cons_self]
    omega
  | frame _ _ _ =>
    rw [List.count_append, List.count_append, List.count_cons_self]
    omega
  | reject _ _ _ _ =>
    rw [List.count_append, List.count_append, List.count_cons_self]
    omega
  | @shifted _ _ _ c _ _ _ _ =>
    have hpost : b'.count F.delim ≤ (c :: b').count F.delim := List.count_le_count_cons
    rw [List.count_append, List.count_append, List.count_cons_self]
    omega

/-- There is nothing to do on a stuck buffer. -/
theorem Stuck.no_step (hb : F.Stuck b) : ¬F.Step exact b ws b' := by
  have hwindow : ∀ {junk w post : List α}, F.IsBody w →
      ¬F.Stuck (junk ++ (w ++ F.delim :: post)) := fun hw hs => by
    have := hw.length
    rcases hs with hlen | hmem
    · simp only [List.length_append, List.length_cons] at hlen
      omega
    · simp at hmem
  intro h
  cases h with
  | short _ _ hlong =>
    rcases hb with hlen | hmem
    · simp only [List.length_append, List.length_cons] at hlen
      omega
    · simp at hmem
  | frame _ hw _ => exact hwindow hw hb
  | reject _ hw _ _ => exact hwindow hw hb
  | shifted _ hw _ _ => exact hwindow hw hb

/-- On a longer buffer, a step that did not look beyond the delimiter is still a
    step, and so is any step unless the shifted window turns out to be valid. -/
theorem Step.append (h : F.Step exact b ws b')
    (hy : exact' → exact ∧ ∀ c rest, y = c :: rest → ¬F.Awaits b c) :
    F.Step exact' (b ++ y) ws (b' ++ y) := by
  cases h with
  | short hpre hlen hlong =>
    simpa using Step.short hpre hlen (by rw [List.length_append]; omega)
  | frame hj hw hv => simpa using Step.frame hj hw hv
  | @reject junk w post hj hw hv hn =>
    have : F.Step exact' (junk ++ (w ++ F.delim :: (b' ++ y))) [] (b' ++ y) := by
      refine .reject hj hw hv fun he c rest hpost hnext => ?_
      obtain ⟨hex, hawait⟩ := hy he
      -- The symbol after the delimiter is in the buffer, or the first of `y`.
      cases b' with
      | nil => exact hawait c rest hpost ⟨junk, w, rfl, hj, hw, hv, hnext⟩
      | cons c' rest' =>
        obtain ⟨rfl, -⟩ := List.cons.inj hpost
        exact hn hex _ _ rfl hnext
    simpa using this
  | shifted hj hw hv hn => simpa using Step.shifted hj hw hv hn

/-- A receiver that looks beyond every delimiter has one step to take. -/
theorem step_deterministic {ws' : List (List α)} {b'' : List α} (h : F.Step True b ws b')
    (h' : F.Step True b ws' b'') : ws = ws' ∧ b' = b'' := by
  cases h with
  | short hpre hlen _ =>
    obtain ⟨rfl, rfl⟩ := step_short hpre hlen h'
    exact ⟨rfl, rfl⟩
  | frame hj hw hv =>
    obtain ⟨-, rfl, rfl⟩ | ⟨hv', -⟩ | ⟨hv', -⟩ := step_window hj hw h'
    · exact ⟨rfl, rfl⟩
    · exact absurd hv hv'
    · exact absurd hv hv'
  | reject hj hw hv hn =>
    obtain ⟨hv', -⟩ | ⟨-, rfl, rfl, -⟩ | ⟨-, c, hpost, hnext, -⟩ := step_window hj hw h'
    · exact absurd hv' hv
    · exact ⟨rfl, rfl⟩
    · exact absurd hnext (hn trivial c _ hpost)
  | shifted hj hw hv hnext =>
    obtain ⟨hv', -⟩ | ⟨-, -, -, hn⟩ | ⟨-, c, hpost, -, rfl⟩ := step_window hj hw h'
    · exact absurd hv' hv
    · exact absurd hnext (hn trivial _ _ rfl)
    · obtain ⟨rfl, rfl⟩ := List.cons.inj hpost
      exact ⟨rfl, rfl⟩

/-- The windows emitted: frames, or shifted windows of frames that are not valid. -/
inductive IsWindow (F : Format α) : List α → Prop
  | frame {w : List α} : F.IsBody w → F.valid (F.frame w) → IsWindow F (F.frame w)
  | shifted {w : List α} {c : α} : F.IsBody w → F.validNext (F.shifted w c) →
      IsWindow F (F.shifted w c)

theorem Step.isWindow (h : F.Step exact b ws b') : ∀ w ∈ ws, F.IsWindow w := by
  cases h with
  | short _ _ _ => simp
  | frame _ hw hv => simpa using .frame hw hv
  | reject _ _ _ _ => simp
  | shifted _ hw _ hn => simpa using .shifted hw hn

theorem IsWindow.length (h : F.IsWindow w) (hbody : 0 < F.body) : w.length = F.body + 1 := by
  cases h with
  | frame hw _ => simp [Format.frame, hw.length]
  | shifted hw _ =>
    simp only [Format.shifted, List.length_append, List.length_tail, hw.length, List.length_cons,
      List.length_nil]
    omega

/-! ## Runs -/

variable {fin : List α}

/-- A run leaves a suffix of the buffer. -/
theorem run_suffix (h : Run (F.Step exact) b ws fin) : fin <:+ b :=
  h.invariant (I := (· <:+ b)) (fun _ _ _ hs hstep => hstep.suffix.trans hs) List.suffix_rfl

theorem Stuck.run_eq (hb : F.Stuck b) (h : Run (F.Step exact) b ws fin) : ws = [] ∧ fin = b := by
  cases h with
  | nil => exact ⟨rfl, rfl⟩
  | cons hs _ => exact absurd hs hb.no_step

/-- A scan of a buffer that is not stuck starts with a step. -/
theorem Scan.step (h : F.Scan exact b ws fin) (hb : ¬F.Stuck b) :
    ∃ es es' b', F.Step exact b es b' ∧ F.Scan exact b' es' fin ∧ ws = es ++ es' := by
  obtain ⟨hrun, hstuck⟩ := h
  cases hrun with
  | nil => exact absurd hstuck hb
  | cons hs hr => exact ⟨_, _, _, hs, ⟨hr, hstuck⟩, rfl⟩

/-- What is done on a buffer may be done on a longer one. -/
theorem run_append (h : Run (F.Step exact) b ws fin)
    (hy : exact' → exact ∧ ∀ c rest, y = c :: rest → ∀ ws' s, Run (F.Step exact) b ws' s →
      ¬F.Awaits s c) :
    Run (F.Step exact') (b ++ y) ws (fin ++ y) := by
  induction h with
  | nil => exact .nil _
  | cons hs hr ih =>
    refine .cons (hs.append fun he => ?_) (ih fun he => ?_)
    · exact ⟨(hy he).1, fun c rest hc => (hy he).2 c rest hc _ _ (.nil _)⟩
    · exact ⟨(hy he).1, fun c rest hc ws' s hs' => (hy he).2 c rest hc _ _ (.cons hs hs')⟩

/-- Scans of one buffer that look beyond every delimiter are equal. -/
theorem Scan.unique {ws' : List (List α)} {fin' : List α} (h : F.Scan True b ws fin)
    (h' : F.Scan True b ws' fin') : ws = ws' ∧ fin = fin' := by
  have hdet : ∀ s es es' s' s'', F.Step True s es s' → F.Step True s es' s'' →
      es = es' ∧ s' = s'' := fun _ _ _ _ _ => step_deterministic
  exact Run.unique hdet h.run h'.run (fun _ _ => h.stuck.no_step) fun _ _ => h'.stuck.no_step

/-! ## Chunks -/

variable (F) in
/-- Feeding chunks of the stream to a buffer: after every chunk, the buffer is
    trimmed, then scanned. -/
inductive Feed (trim : List α → List α) :
    List α → List (List α) → List (List α) → List α → Prop
  | nil (b : List α) : Feed trim b [] [] b
  | cons {b c b' fin : List α} {cs ws ws' : List (List α)} : F.Scan True (trim (b ++ c)) ws b' →
      Feed trim b' cs ws' fin → Feed trim b (c :: cs) (ws ++ ws') fin

/-- A step, or the loss of the start of the buffer. -/
def Lossy (F : Format α) (b : List α) (ws : List (List α)) (b' : List α) : Prop :=
  F.Step False b ws b' ∨ (ws = [] ∧ b' <:+ b)

/-- The windows `ws` appear in `s` in order, without overlap. -/
def InOrder : List (List α) → List α → Prop
  | [], _ => True
  | w :: ws, s => ∃ pre post, s = pre ++ (w ++ post) ∧ InOrder ws post

variable {trim : List α → List α} {cs : List (List α)}

theorem InOrder.mono {s s' : List α} (h : InOrder ws s) (hs : s <:+ s') : InOrder ws s' := by
  cases ws with
  | nil => trivial
  | cons w ws =>
    obtain ⟨pre, post, rfl, hrest⟩ := h
    obtain ⟨pre', rfl⟩ := hs
    exact ⟨pre' ++ pre, post, by simp, hrest⟩

theorem InOrder.infix {s : List α} (h : InOrder ws s) : ∀ w ∈ ws, w <:+: s := by
  induction ws generalizing s with
  | nil => simp
  | cons w ws ih =>
    obtain ⟨pre, post, rfl, hrest⟩ := h
    intro w' hw'
    rcases List.mem_cons.1 hw' with rfl | hw'
    · exact ⟨pre, post, by simp⟩
    · have hpost : post <:+ pre ++ (w ++ post) := ⟨pre ++ w, by simp⟩
      exact (ih hrest w' hw').trans hpost.isInfix

/-- A step emits its window from what it drops. -/
theorem Step.inOrder {ws' : List (List α)} (h : F.Step exact b ws b') (h' : InOrder ws' b') :
    InOrder (ws ++ ws') b := by
  have hsuffix := h.suffix
  cases h with
  | short _ _ _ => exact h'.mono hsuffix
  | @frame junk w _ _ _ _ => exact ⟨junk, b', by simp [Format.frame], h'⟩
  | reject _ _ _ _ => exact h'.mono hsuffix
  | @shifted junk w _ c _ hw _ _ =>
    -- The window leaves out the first symbol of the body.
    refine ⟨junk ++ w.take 1, b', ?_, h'⟩
    rw [Format.shifted, List.append_assoc, ← List.drop_one]
    simp only [List.append_assoc, List.cons_append, List.nil_append]
    rw [← List.append_assoc (w.take 1), List.take_append_drop]

theorem Lossy.run_inOrder (h : Run F.Lossy b ws fin) : InOrder ws b := by
  induction h with
  | nil => trivial
  | cons hs _ ih =>
    rcases hs with hs | ⟨rfl, hsuffix⟩
    · exact hs.inOrder ih
    · exact ih.mono hsuffix

theorem Lossy.run_append (h : Run F.Lossy b ws fin) (y : List α) :
    Run F.Lossy (b ++ y) ws (fin ++ y) := by
  induction h with
  | nil => exact .nil _
  | cons hs _ ih =>
    refine .cons ?_ ih
    rcases hs with hs | ⟨rfl, pre, rfl⟩
    · exact .inl (hs.append fun he => he.elim)
    · exact .inr ⟨rfl, pre, by simp⟩

theorem Lossy.run_isWindow (h : Run F.Lossy b ws fin) : ∀ w ∈ ws, F.IsWindow w := by
  induction h with
  | nil => simp
  | cons hs _ ih =>
    intro w hw
    rcases List.mem_append.1 hw with hw | hw
    · rcases hs with hs | ⟨rfl, -⟩
      · exact hs.isWindow w hw
      · simp at hw
    · exact ih w hw

theorem Scan.lossy (h : F.Scan exact b ws fin) : Run F.Lossy b ws fin :=
  h.run.mono fun s es s' hs => by
    have hs' : F.Step False (s ++ []) es (s' ++ []) := hs.append False.elim
    exact .inl (by simpa using hs')

/-- A feed is a run on the whole stream, with losses. -/
theorem Feed.lossy (htrim : ∀ x, trim x <:+ x) (h : F.Feed trim b cs ws fin) :
    Run F.Lossy (b ++ cs.flatten) ws fin := by
  induction h with
  | nil => simpa using .nil _
  | @cons b c b' fin cs ws ws' hscan _ ih =>
    have hloss : F.Lossy (b ++ c) [] (trim (b ++ c)) := .inr ⟨rfl, htrim _⟩
    have hrun := Lossy.run_append (.cons hloss hscan.lossy) cs.flatten
    simpa using hrun.trans ih

/-- The windows emitted by a feed appear in the stream in order, without overlap. -/
theorem Feed.inOrder (htrim : ∀ x, trim x <:+ x) (h : F.Feed trim b cs ws fin) :
    InOrder ws (b ++ cs.flatten) := Lossy.run_inOrder (h.lossy htrim)

theorem Feed.isWindow (htrim : ∀ x, trim x <:+ x) (h : F.Feed trim b cs ws fin) :
    ∀ w ∈ ws, F.IsWindow w := Lossy.run_isWindow (h.lossy htrim)

/-- A feed that trims nothing is a scan of the whole stream by a receiver that
    may reject without looking. -/
theorem Feed.scan (hb : cs = [] → F.Stuck b) (h : F.Feed id b cs ws fin) :
    F.Scan False (b ++ cs.flatten) ws fin := by
  induction h with
  | nil => exact ⟨by simpa using .nil _, hb rfl⟩
  | @cons b c b' fin cs ws ws' hscan _ ih =>
    obtain ⟨hrun', hstuck'⟩ := ih fun _ => hscan.stuck
    have hrun : Run (F.Step False) (b ++ c ++ cs.flatten) ws (b' ++ cs.flatten) :=
      run_append hscan.run False.elim
    exact ⟨by simpa using hrun.trans hrun', hstuck'⟩

/-- The chunks of a feed never end at a delimiter whose window is rejected for
    want of the next symbol of the stream. -/
def NeverAwaits (F : Format α) (b : List α) : List (List α) → Prop
  | [] => True
  | c :: cs => (∀ y rest, cs.flatten = y :: rest → ∀ ws s, Run (F.Step True) (b ++ c) ws s →
      ¬F.Awaits s y) ∧ ∀ ws b', F.Scan True (b ++ c) ws b' → NeverAwaits F b' cs

/-- A feed that trims nothing and never awaits a symbol scans the whole stream
    as if it had come in one chunk. -/
theorem Feed.scan_exact (hb : cs = [] → F.Stuck b) (h : F.Feed id b cs ws fin)
    (hn : F.NeverAwaits b cs) : F.Scan True (b ++ cs.flatten) ws fin := by
  induction h with
  | nil => exact ⟨by simpa using .nil _, hb rfl⟩
  | @cons b c b' fin cs ws ws' hscan _ ih =>
    obtain ⟨hrun', hstuck'⟩ := ih (fun _ => hscan.stuck) (hn.2 _ _ hscan)
    have hrun : Run (F.Step True) (b ++ c ++ cs.flatten) ws (b' ++ cs.flatten) :=
      run_append hscan.run fun _ => ⟨trivial, hn.1⟩
    exact ⟨by simpa using hrun.trans hrun', hstuck'⟩

end Format

end Framing
