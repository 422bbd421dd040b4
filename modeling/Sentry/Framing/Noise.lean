import Sentry.Framing.Stream

/-!
# Streams with noise

What a receiver makes of clean frames, those with no delimiter inside, when there
is something else in the stream:

* symbols before the frames (`scan_noise`): all the frames are emitted, as the
  last windows, except that the first one is lost when its first symbol is taken
  for the end of a shifted window, whose delimiter then ends the noise;
* a damaged symbol in one of the frames (`scan_damaged`): all the other frames
  are emitted and nothing else, except that the damaged frame may be emitted as a
  shifted window, whose last symbol is the first one of the next frame, which is
  then lost.

Both follow the scan from one frame to the next: a clean frame is emitted whatever
comes right before it (`scan_frame`), and a fragment shorter than a frame is
dropped (`scan_fragment`).
-/

namespace Framing

open Transition

variable {α : Type*}

namespace Format

variable {F : Format α} {bs : List (List α)} {exact : Prop} {es : List (List α)}
  {fin junk y w : List α}

/-- A buffer is worked on when it has a delimiter and more than the body of a frame. -/
theorem not_stuck_of {b : List α} (hlen : F.body < b.length) (hmem : F.delim ∈ b) :
    ¬F.Stuck b := fun h => h.elim (fun h => by omega) fun h => h hmem

/-- A scan emits a clean frame, whatever symbols other than the delimiter come
    right before it. -/
theorem scan_frame (hj : F.delim ∉ junk) (hw : F.IsBody w) (hv : F.valid (F.frame w))
    (h : F.Scan exact (junk ++ (F.frame w ++ y)) es fin) :
    ∃ es', es = F.frame w :: es' ∧ F.Scan exact y es' fin := by
  have hb : junk ++ (F.frame w ++ y) = junk ++ (w ++ F.delim :: y) := by simp [frame]
  rw [hb] at h
  have hlen := hw.length
  obtain ⟨es₁, es₂, b', hs, hscan, rfl⟩ := h.step (not_stuck_of
    (by simp only [List.length_append, List.length_cons]; omega) (by simp))
  obtain ⟨-, rfl, rfl⟩ | ⟨hv', -⟩ | ⟨hv', -⟩ := step_window hj hw hs
  · exact ⟨es₂, rfl, hscan⟩
  · exact absurd hv hv'
  · exact absurd hv hv'

/-- A scan whose buffer is stuck emits nothing, now or from a part of it that is
    not longer than the body of a frame. -/
theorem Scan.of_stuck {b : List α} (h : F.Scan exact b es fin) (hb : F.Stuck b)
    (hmem : F.delim ∈ b) (hlen : y.length ≤ b.length) : F.Scan exact y es y := by
  obtain ⟨rfl, -⟩ := hb.run_eq h.run
  exact ⟨.nil y, .inl (hlen.trans (hb.resolve_right fun hb => hb hmem))⟩

/-- A scan drops a fragment shorter than a frame that ends with a delimiter. -/
theorem scan_fragment {frag : List α} (hlen : frag.length < F.body)
    (h : F.Scan exact (frag ++ F.delim :: y) es fin) : ∃ fin', F.Scan exact y es fin' := by
  induction hn : frag.length using Nat.strongRecOn generalizing frag es with
  | ind n ih =>
    by_cases hstuck : F.Stuck (frag ++ F.delim :: y)
    · exact ⟨y, h.of_stuck hstuck (by simp) (by simp; omega)⟩
    obtain ⟨es₁, es₂, b', hs, hscan, rfl⟩ := h.step hstuck
    by_cases hmem : F.delim ∈ frag
    · -- The first delimiter is inside the fragment: what follows it is shorter.
      obtain ⟨pre, post, rfl, hpre⟩ := List.eq_append_cons_of_mem hmem
      rw [List.length_append, List.length_cons] at hlen hn
      rw [List.append_assoc, List.cons_append] at hs
      obtain ⟨rfl, rfl⟩ := step_short hpre (by omega) hs
      exact ih post.length (by omega) (by omega) hscan rfl
    · obtain ⟨rfl, rfl⟩ := step_short hmem hlen hs
      exact ⟨fin, hscan⟩

/-- A scan drops a frame with a delimiter inside. -/
theorem scan_dirty (hw : w.length = F.body) (hmem : F.delim ∈ w)
    (h : F.Scan exact (F.frame w ++ y) es fin) : ∃ fin', F.Scan exact y es fin' := by
  obtain ⟨pre, post, rfl, hpre⟩ := List.eq_append_cons_of_mem hmem
  rw [List.length_append, List.length_cons] at hw
  have hb : F.frame (pre ++ F.delim :: post) ++ y =
      pre ++ F.delim :: (post ++ F.delim :: y) := by simp [frame]
  rw [hb] at h
  obtain ⟨es₁, es₂, b', hs, hscan, rfl⟩ := h.step (not_stuck_of
    (by simp only [List.length_append, List.length_cons]; omega) (by simp))
  obtain ⟨rfl, rfl⟩ := step_short hpre (by omega) hs
  exact scan_fragment (by omega) hscan

/-- A scan emits clean frames one after the other. -/
theorem scan_clean (h : F.Sound bs) (hclean : ∀ w ∈ bs, F.delim ∉ w)
    (hscan : F.Scan exact (F.stream bs ++ y) es fin) :
    ∃ es', es = bs.map F.frame ++ es' ∧ F.Scan exact y es' fin := by
  induction bs generalizing es with
  | nil => exact ⟨es, rfl, hscan⟩
  | cons w bs ih =>
    have hw : F.IsBody w := ⟨(h w List.mem_cons_self).1, hclean w List.mem_cons_self⟩
    rw [stream_cons, List.append_assoc] at hscan
    obtain ⟨es₁, rfl, hrest⟩ :=
      scan_frame List.not_mem_nil hw (h w List.mem_cons_self).2 hscan
    obtain ⟨es₂, rfl, hy⟩ := ih h.tail (fun v hv => hclean v (List.mem_cons_of_mem _ hv)) hrest
    exact ⟨es₂, by simp, hy⟩

/-- A scan of clean frames emits them and nothing else, and leaves nothing. -/
theorem scan_clean_eq (h : F.Sound bs) (hclean : ∀ w ∈ bs, F.delim ∉ w)
    (hscan : F.Scan exact (F.stream bs) es fin) : es = bs.map F.frame ∧ fin = [] := by
  rw [← List.append_nil (F.stream bs)] at hscan
  obtain ⟨es', rfl, hnil⟩ := scan_clean h hclean hscan
  have hstuck : F.Stuck [] := .inl (Nat.zero_le _)
  obtain ⟨rfl, rfl⟩ := hstuck.run_eq hnil.run
  exact ⟨List.append_nil _, rfl⟩

/-- Every window emitted takes at least the symbols of a frame. -/
theorem run_length_le {b : List α} (h : Run (F.Step exact) b es fin) :
    es.length * (F.body + 1) + fin.length ≤ b.length := by
  induction h with
  | nil => simp
  | cons hs _ ih =>
    rw [List.length_append, Nat.add_mul]
    cases hs with
    | short _ _ _ => simp; omega
    | frame _ hw _ => have := hw.length; simp; omega
    | reject _ _ _ _ => simp; omega
    | shifted _ hw _ _ => have := hw.length; simp; omega

/-! ## Symbols before the frames -/

/-- The windows `es` are some windows in the noise `g`, then all the frames of
    `bs`; or some windows in `g` and the first symbol of the frames, when `g` ends
    with a delimiter, then all the frames but the first. -/
def Recovers (F : Format α) (g : List α) (bs : List (List α)) (es : List (List α)) : Prop :=
  (∃ pre, es = pre ++ bs.map F.frame ∧ InOrder pre g) ∨
    ∃ pre c, es = pre ++ bs.tail.map F.frame ∧ InOrder pre (g ++ [c]) ∧
      g.getLast? = some F.delim ∧ (F.stream bs).head? = some c

/-- Dropping the start of the noise, with the windows in it. -/
theorem Recovers.step {g post : List α} {es' : List (List α)} (h : F.Recovers post bs es')
    (hsuffix : post <:+ g)
    (hin : ∀ pre s, InOrder pre (post ++ s) → InOrder (es ++ pre) (g ++ s)) :
    F.Recovers g bs (es ++ es') := by
  obtain ⟨pre, rfl, hpre⟩ | ⟨pre, c, rfl, hpre, hlast, hc⟩ := h
  · refine .inl ⟨es ++ pre, by simp, ?_⟩
    simpa using hin pre [] (by simpa using hpre)
  · obtain ⟨g', rfl⟩ := hsuffix
    exact .inr ⟨es ++ pre, c, by simp, hin pre [c] hpre, by simp [hlast], hc⟩

/-- A scan drops a clean frame whose first symbol was taken. -/
theorem scan_lost (hbody : 0 < F.body) (hw : F.IsBody w) {c : α} {b : List α}
    (hb : F.frame w ++ y = c :: b) (h : F.Scan exact b es fin) :
    ∃ fin', F.Scan exact y es fin' := by
  cases w with
  | nil => exact absurd hw.length hbody.ne
  | cons c' v =>
    have hlen := hw.length
    rw [List.length_cons] at hlen
    simp only [frame, List.cons_append, List.append_assoc, List.nil_append, List.cons.injEq] at hb
    rw [← hb.2] at h
    exact scan_fragment (by omega) h

/-- After any symbols, a scan emits all the clean frames, as its last windows,
    unless the first symbol of the first frame ends a shifted window whose
    delimiter ends the noise; then it emits all but the first. -/
theorem scan_noise (hbody : 0 < F.body) (h : F.Sound bs) (hclean : ∀ w ∈ bs, F.delim ∉ w)
    (hne : bs ≠ []) {g : List α} (hscan : F.Scan exact (g ++ F.stream bs) es fin) :
    F.Recovers g bs es := by
  obtain ⟨w₀, bs, rfl⟩ := List.exists_cons_of_ne_nil hne
  have hw₀ : F.IsBody w₀ := ⟨(h w₀ List.mem_cons_self).1, hclean w₀ List.mem_cons_self⟩
  have hrest : ∀ {es fin}, F.Scan exact (F.stream bs) es fin → es = bs.map F.frame :=
    fun hs => (scan_clean_eq h.tail (fun v hv => hclean v (List.mem_cons_of_mem _ hv)) hs).1
  induction hn : g.length using Nat.strongRecOn generalizing g es with
  | ind n ih =>
    by_cases hmem : F.delim ∈ g
    · obtain ⟨pre, post, rfl, hpre⟩ := List.eq_append_cons_of_mem hmem
      have hsuffix : post <:+ pre ++ F.delim :: post := ⟨pre ++ [F.delim], by simp⟩
      have hlen : post.length < n := by
        rw [← hn, List.length_append, List.length_cons]
        omega
      obtain ⟨es₁, es₂, b', hs, hscan', rfl⟩ := hscan.step (not_stuck_of
        (by simp [length_frame hw₀.length]; omega) (by simp))
      rw [List.append_assoc, List.cons_append] at hs
      rcases Nat.lt_or_ge pre.length F.body with hshort | hlong
      · obtain ⟨rfl, rfl⟩ := step_short hpre hshort hs
        exact (ih _ hlen hscan' rfl).step hsuffix fun ws s hws => hws.mono
          ⟨pre ++ [F.delim], by simp⟩
      -- The delimiter closes the window of the last symbols before it.
      obtain ⟨junk, w, rfl, hj, hw⟩ := exists_isBody hpre hlong
      rw [List.append_assoc] at hs
      obtain ⟨hv, rfl, rfl⟩ | ⟨-, rfl, rfl, -⟩ | ⟨hv, c, hc, hnext, rfl⟩ :=
        step_window hj hw hs
      · refine (ih _ hlen hscan' rfl).step hsuffix fun ws s hws => ?_
        have hstep : F.Step False (junk ++ (w ++ F.delim :: (post ++ s))) _ _ :=
          .frame hj hw hv
        simpa using hstep.inOrder hws
      · exact (ih _ hlen hscan' rfl).step hsuffix fun ws s hws => hws.mono
          ⟨junk ++ w ++ [F.delim], by simp⟩
      · cases post with
        | cons c' post =>
          obtain ⟨rfl, rfl⟩ := List.cons.inj hc
          refine (ih _ (by simp at hlen; omega) hscan' rfl).step
            ⟨junk ++ w ++ [F.delim, c'], by simp⟩ fun ws s hws => ?_
          have hstep : F.Step False (junk ++ (w ++ F.delim :: c' :: (post ++ s))) _ _ :=
            .shifted hj hw hv hnext
          simpa using hstep.inOrder hws
        | nil =>
          -- The shifted window ends with the first symbol of the first frame,
          -- of which a fragment is left.
          obtain ⟨_, hlost⟩ := scan_lost hbody hw₀ hc hscan'
          refine .inr ⟨[F.shifted w c], c, by rw [hrest hlost]; rfl, ?_, by simp, ?_⟩
          · have hstep : F.Step False (junk ++ (w ++ F.delim :: c :: [])) _ _ :=
              .shifted hj hw hv hnext
            have hin : InOrder ([F.shifted w c] ++ []) _ := hstep.inOrder trivial
            simpa using hin
          · rw [List.nil_append] at hc
            rw [hc]
            rfl
    · obtain ⟨es', rfl, hscan'⟩ := scan_frame hmem hw₀ (h w₀ List.mem_cons_self).2 hscan
      exact .inl ⟨[], by simp [hrest hscan'], trivial⟩

/-! ## A damaged symbol -/

/-- A window with one of its symbols other than the delimiter replaced is not valid. -/
def Detects (F : Format α) : Prop :=
  ∀ w i v, w.length = F.body → F.valid (F.frame w) → (hi : i < w.length) → w[i] ≠ v →
    ¬F.valid (F.frame (w.set i v))

/-- A scan of clean frames with one symbol of one of them replaced, frame `w` of
    `bs₁ ++ w :: bs₂`, emits all the other frames and nothing else; or, if the
    shifted window of the damaged frame and the first symbol of the next frame is
    valid, it may emit this window for the damaged frame and the next one. -/
theorem scan_damaged (hbody : 0 < F.body) (hdetects : F.Detects) {bs₁ bs₂ : List (List α)}
    (h : F.Sound (bs₁ ++ w :: bs₂)) (hclean : ∀ v ∈ bs₁ ++ w :: bs₂, F.delim ∉ v) {i : ℕ} {v : α}
    (hi : i < (F.frame w).length) (hne : (F.frame w)[i] ≠ v)
    (hscan : F.Scan exact (F.stream bs₁ ++ ((F.frame w).set i v ++ F.stream bs₂)) es fin) :
    es = bs₁.map F.frame ++ bs₂.map F.frame ∨
    ∃ c, i < F.body ∧ v ≠ F.delim ∧ (F.stream bs₂).head? = some c ∧
      F.validNext (F.shifted (w.set i v) c) ∧
      es = bs₁.map F.frame ++ F.shifted (w.set i v) c :: bs₂.tail.map F.frame := by
  have h₁ : F.Sound bs₁ := fun u hu => h u (List.mem_append_left _ hu)
  have h₂ : F.Sound bs₂ := fun u hu => h u (List.mem_append_right _ (List.mem_cons_of_mem _ hu))
  have hclean₂ : ∀ u ∈ bs₂, F.delim ∉ u := fun u hu =>
    hclean u (List.mem_append_right _ (List.mem_cons_of_mem _ hu))
  have hmem : w ∈ bs₁ ++ w :: bs₂ := List.mem_append_right _ List.mem_cons_self
  have hw : F.IsBody w := ⟨(h w hmem).1, hclean w hmem⟩
  obtain ⟨es, rfl, hdamaged⟩ :=
    scan_clean h₁ (fun u hu => hclean u (List.mem_append_left _ hu)) hscan
  rw [length_frame hw.length] at hi
  rcases Nat.lt_or_ge i F.body with hlt | hge
  · have hset : (F.frame w).set i v = F.frame (w.set i v) :=
      List.set_append_left _ _ (by rw [hw.length]; exact hlt)
    have hlen : (w.set i v).length = F.body := by rw [List.length_set, hw.length]
    rw [hset] at hdamaged
    by_cases hv : v = F.delim
    · have hdelim : F.delim ∈ w.set i v := hv ▸ List.mem_set (by rw [hw.length]; exact hlt) v
      obtain ⟨_, hrest⟩ := scan_dirty hlen hdelim hdamaged
      exact .inl (by rw [(scan_clean_eq h₂ hclean₂ hrest).1])
    have hw' : F.IsBody (w.set i v) := ⟨hlen, fun hd =>
      (List.mem_or_eq_of_mem_set hd).elim hw.notMem fun hd => hv hd.symm⟩
    have hinvalid : ¬F.valid (F.frame (w.set i v)) := by
      refine hdetects w i v hw.length (h w hmem).2 (by rw [hw.length]; exact hlt) ?_
      simpa [frame, List.getElem_append_left (hw.length ▸ hlt)] using hne
    have hb : F.frame (w.set i v) ++ F.stream bs₂ =
        [] ++ (w.set i v ++ F.delim :: F.stream bs₂) := by simp [frame]
    rw [hb] at hdamaged
    obtain ⟨es₁, es₂, b', hs, hrest, rfl⟩ := hdamaged.step (not_stuck_of
      (by simp only [List.nil_append, List.length_append, List.length_cons]; omega) (by simp))
    obtain ⟨hvalid, -⟩ | ⟨-, rfl, rfl, -⟩ | ⟨-, c, hc, hnext, rfl⟩ :=
      step_window List.not_mem_nil hw' hs
    · exact absurd hvalid hinvalid
    · exact .inl (by rw [(scan_clean_eq h₂ hclean₂ hrest).1]; rfl)
    · -- The next frame has lost its first symbol.
      cases bs₂ with
      | nil => simp at hc
      | cons w₂ bs₃ =>
        have hw₂ : F.IsBody w₂ := ⟨(h₂ w₂ List.mem_cons_self).1, hclean₂ w₂ List.mem_cons_self⟩
        obtain ⟨_, hlost⟩ := scan_lost hbody hw₂ hc hrest
        have hbs₃ := (scan_clean_eq h₂.tail
          (fun u hu => hclean₂ u (List.mem_cons_of_mem _ hu)) hlost).1
        exact .inr ⟨c, hlt, hv, by rw [hc]; rfl, hnext, by rw [hbs₃]; rfl⟩
  · -- The delimiter is damaged: the damaged frame is noise before the next one.
    obtain rfl : i = w.length := by have := hw.length; omega
    have hv : F.delim ≠ v := by simpa [frame] using hne
    have hset : (F.frame w).set w.length v = w ++ [v] := by simp [frame]
    have hnoise : F.delim ∉ w ++ [v] := by simp [hw.notMem, hv]
    rw [hset] at hdamaged
    left
    cases bs₂ with
    | nil =>
      rw [stream_nil, List.append_nil] at hdamaged
      have hstuck : F.Stuck (w ++ [v]) := .inr hnoise
      rw [(hstuck.run_eq hdamaged.run).1]
      rfl
    | cons w₂ bs₃ =>
      have hw₂ : F.IsBody w₂ := ⟨(h₂ w₂ List.mem_cons_self).1, hclean₂ w₂ List.mem_cons_self⟩
      obtain ⟨es', rfl, hrest⟩ := scan_frame hnoise hw₂ (h₂ w₂ List.mem_cons_self).2 hdamaged
      rw [(scan_clean_eq h₂.tail (fun u hu => hclean₂ u (List.mem_cons_of_mem _ hu)) hrest).1]
      rfl

end Format

end Framing
