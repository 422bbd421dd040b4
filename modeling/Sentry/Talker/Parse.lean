import Sentry.Framing.Stream
import Sentry.Talker.Downlink

/-!
# The frame loops

`parse_three` and `parse_seven` of the node `talker` run the same loop over
`buffer_`, for frames of different lengths and structures: one definition
(`FrameFormat.parse`), applied to the two formats.

The loop looks for the first `FRAME_TAIL` of the buffer and tries two layouts of a
frame around it: format A, where it is the last byte, after the checksum, and
format B, where it comes before the checksum. Its indices are `long`s computed
from unsigned sizes, which wrap around (`longSub`); on a trimmed buffer they are
the differences they are meant to be (`longSub_eq`).

`FrameFormat.framing` is what the loop does in the terms of `Framing`, and
`FrameFormat.parse_scan` says that it does it: a parse is a scan of the trimmed
buffer whose windows, decoded, are the published messages. A timer tick that reads
a chunk appends it to the buffer and parses (`receive`); a series of ticks is a
feed of the chunks (`receiveAll_feed`).
-/

namespace Sentry.Talker

open Transition Framing

/-! ## Formats -/

/-- What distinguishes `parse_three` and `parse_seven`: the structure laid over a
    packet, in which the checksum is the last byte but one. -/
structure FrameFormat where
  /-- The size of the structure: `LEN_THREE`, `LEN_SEVEN`. -/
  len : ℕ
  /-- The checksum in the structure: `data->checksum`. -/
  checksum : List Byte → Byte
  /-- The message built from the fields of the structure. -/
  toMsg : List Byte → SerialReceiveData
  checksum_eq : ∀ packet, checksum packet = packet.getD (len - 2) 0
  two_le_len : 2 ≤ len
  len_le : 2 * len ≤ 1024

/-- The format of `parse_three`. -/
def formatThree : FrameFormat where
  len := 24
  checksum packet := (DownlinkDataThree.ofPacket packet).checksum
  toMsg packet := (DownlinkDataThree.ofPacket packet).toMsg
  checksum_eq _ := rfl
  two_le_len := by decide
  len_le := by decide

/-- The format of `parse_seven`. -/
def formatSeven : FrameFormat where
  len := 16
  checksum packet := (DownlinkDataSeven.ofPacket packet).checksum
  toMsg packet := (DownlinkDataSeven.ofPacket packet).toMsg
  checksum_eq _ := rfl
  two_le_len := by decide
  len_le := by decide

/-! ## The loop -/

/-- A `long` index less an unsigned length, as a `long`: the difference wraps
    around as an unsigned number and is converted back. -/
def longSub (index length : ℕ) : ℤ := (BitVec.ofNat 64 index - BitVec.ofNat 64 length).toInt

namespace FrameFormat

variable (f : FrameFormat)

/-- `packet.assign`: the bytes of the buffer from the index `head`, as many as the
    structure has. -/
def assign (buffer : List Byte) (head : ℤ) : List Byte := (buffer.drop head.toNat).take f.len

/-- Format A, `[payload][checksum][tail]`, with the tail at `tailIdx`. -/
def checkA (buffer : List Byte) (tailIdx : ℕ) : Bool :=
  let packet := f.assign buffer (longSub tailIdx (f.len - 1))
  calcChecksum packet == f.checksum packet

/-- Format B, `[payload][tail][checksum]`, with the tail at `tailIdx`, once the byte
    after the tail has come. -/
def checkB (buffer : List Byte) (tailIdx : ℕ) : Bool :=
  let headIdxB := longSub tailIdx (f.len - 2)
  let packet := f.assign buffer headIdxB
  decide (0 ≤ headIdxB) && decide ((tailIdx : ℤ) + 1 < buffer.length) &&
    (packet.getD (f.len - 2) 0 == frameTail && calcChecksum packet == packet.getD (f.len - 1) 0)

/-- The body of the loop: one look at the first tail of the buffer. -/
def body (buffer : List Byte) : Option (List SerialReceiveData × List Byte) :=
  if buffer.length < f.len then none
  else
    match buffer.findIdx? (· == frameTail) with
    | none => none
    | some tailIdx =>
      if longSub tailIdx (f.len - 1) < 0 then some ([], buffer.drop (tailIdx + 1))
      else if f.checkA buffer tailIdx then
        some ([f.toMsg (f.assign buffer (longSub tailIdx (f.len - 1)))], buffer.drop (tailIdx + 1))
      else if f.checkB buffer tailIdx then
        -- The checksum after the tail is swallowed too.
        some ([f.toMsg (f.assign buffer (longSub tailIdx (f.len - 2)))], buffer.drop (tailIdx + 2))
      else some ([], buffer.drop (tailIdx + 1))

/-- Every iteration shortens the buffer. -/
theorem length_body_lt {buffer buffer' : List Byte} {msgs : List SerialReceiveData}
    (h : f.body buffer = some (msgs, buffer')) : buffer'.length < buffer.length := by
  rw [body] at h
  split at h
  · simp at h
  next hlen =>
    have hpos : 0 < buffer.length := by have := f.two_le_len; omega
    split at h
    · simp at h
    · split at h
      · obtain ⟨-, rfl⟩ := by simpa using h
        simp [hpos]
      · split at h
        · obtain ⟨-, rfl⟩ := by simpa using h
          simp [hpos]
        · split at h <;>
            (obtain ⟨-, rfl⟩ := by simpa using h
             simp [hpos])

/-- The loop, with the messages it publishes. -/
def loop : Loop (List Byte) SerialReceiveData where
  body := f.body
  variant := List.length
  decreases _ _ _ h := f.length_body_lt h

/-- A buffer over 1024 bytes keeps its last two frame lengths. -/
def trim (buffer : List Byte) : List Byte :=
  if 1024 < buffer.length then buffer.drop (buffer.length - f.len * 2) else buffer

/-- The messages published for a buffer, and what is left of it. -/
def parse (buffer : List Byte) : List SerialReceiveData × List Byte := f.loop.exec (f.trim buffer)

end FrameFormat

/-- `ReceiveNode::parse_three`. -/
def parseThree (buffer : List Byte) : List SerialReceiveData × List Byte :=
  formatThree.parse buffer

/-- `ReceiveNode::parse_seven`. -/
def parseSeven (buffer : List Byte) : List SerialReceiveData × List Byte :=
  formatSeven.parse buffer

/-- A timer tick that reads the bytes `chunk`: they are appended to the buffer, which is parsed. -/
def receive (parse : List Byte → List SerialReceiveData × List Byte) (buffer chunk : List Byte) :
    List SerialReceiveData × List Byte := parse (buffer ++ chunk)

/-- Timer ticks that read the chunks one after the other. -/
def receiveAll (parse : List Byte → List SerialReceiveData × List Byte) (buffer : List Byte) :
    List (List Byte) → List SerialReceiveData × List Byte
  | [] => ([], buffer)
  | chunk :: chunks =>
    let tick := receive parse buffer chunk
    let rest := receiveAll parse tick.2 chunks
    (tick.1 ++ rest.1, rest.2)

/-- No tick of the series has more than 1024 bytes to parse. -/
def Fits (parse : List Byte → List SerialReceiveData × List Byte) (buffer : List Byte) :
    List (List Byte) → Prop
  | [] => True
  | chunk :: chunks => (buffer ++ chunk).length ≤ 1024 ∧
      Fits parse (receive parse buffer chunk).2 chunks

instance decidableFits {parse : List Byte → List SerialReceiveData × List Byte} :
    (buffer : List Byte) → (chunks : List (List Byte)) → Decidable (Fits parse buffer chunks)
  | _, [] => isTrue trivial
  | buffer, chunk :: chunks =>
    have : Decidable (Fits parse (receive parse buffer chunk).2 chunks) := decidableFits _ chunks
    inferInstanceAs (Decidable ((buffer ++ chunk).length ≤ 1024 ∧ _))

/-! ## The loop as a scan -/

/-- On the indices of a buffer, the wrapped difference is the difference. -/
theorem longSub_eq {index length : ℕ} (hi : index < 2 ^ 62) (hl : length < 2 ^ 62) :
    longSub index length = (index : ℤ) - length := by
  rw [longSub, BitVec.toInt_sub, BitVec.toInt_ofNat', BitVec.toInt_ofNat', Int.bmod_sub_bmod,
    Int.sub_bmod_bmod]
  exact Int.bmod_eq_of_le_mul_two (by omega) (by omega)

namespace FrameFormat

variable (f : FrameFormat)

/-- What the loop looks for: frames with the checksum before the tail, and shifted
    windows with the checksum after it. -/
def framing : Format Byte where
  delim := frameTail
  body := f.len - 1
  valid packet := calcChecksum packet = packet.getD (f.len - 2) 0
  validNext packet := calcChecksum packet = packet.getD (f.len - 1) 0

variable {junk w post buffer : List Byte}

@[simp] theorem framing_delim : f.framing.delim = frameTail := rfl

@[simp] theorem framing_body : f.framing.body = f.len - 1 := rfl

theorem size_framing : f.framing.body + 1 = f.len := by
  have := f.two_le_len
  rw [framing_body]
  omega

theorem framing_body_pos : 0 < f.framing.body := by
  have := f.two_le_len
  rw [framing_body]
  omega

variable {f}

theorem assign_eq (buffer : List Byte) (head : ℕ) :
    f.assign buffer (head : ℤ) = (buffer.drop head).take f.len := rfl

/-- The head index of format A, where the tail closes the window of `w`. -/
theorem headIdx_eq (hw : w.length = f.framing.body)
    (hlong : (junk ++ (w ++ frameTail :: post)).length < 2 ^ 62) :
    longSub (junk ++ w).length (f.len - 1) = (junk.length : ℤ) := by
  have hsize := f.two_le_len
  rw [framing_body] at hw
  simp only [List.length_append, List.length_cons] at hlong ⊢
  rw [longSub_eq (by omega) (by omega)]
  omega

/-- The head index of format B. -/
theorem headIdxB_eq (hw : w.length = f.framing.body)
    (hlong : (junk ++ (w ++ frameTail :: post)).length < 2 ^ 62) :
    longSub (junk ++ w).length (f.len - 2) = ((junk.length + 1 : ℕ) : ℤ) := by
  have hsize := f.two_le_len
  rw [framing_body] at hw
  simp only [List.length_append, List.length_cons] at hlong ⊢
  rw [longSub_eq (by omega) (by omega)]
  omega

/-- Format A takes the frame closed by the tail. -/
theorem assign_frame (hw : w.length = f.framing.body) :
    f.assign (junk ++ (w ++ frameTail :: post)) (junk.length : ℤ) = f.framing.frame w := by
  have hlen : (f.framing.frame w).length = f.len := (Format.length_frame hw).trans f.size_framing
  rw [assign_eq, List.drop_left, List.append_cons, ← hlen]
  exact List.take_left

theorem length_shifted (hw : w.length = f.framing.body) (c : Byte) :
    (f.framing.shifted w c).length = f.len := by
  have hsize := f.two_le_len
  rw [framing_body] at hw
  simp only [Format.shifted, List.length_append, List.length_tail, List.length_cons,
    List.length_nil]
  omega

/-- Format B takes the shifted window, once the byte after the tail has come. -/
theorem assign_shifted (hw : w.length = f.framing.body) (c : Byte) :
    f.assign (junk ++ (w ++ frameTail :: c :: post)) ((junk.length + 1 : ℕ) : ℤ) =
      f.framing.shifted w c := by
  have hpos : 0 < w.length := by
    have := f.two_le_len
    rw [hw, framing_body]
    omega
  have hdrop : (junk ++ (w ++ frameTail :: c :: post)).drop (junk.length + 1) =
      f.framing.shifted w c ++ post := by
    rw [← List.drop_drop, List.drop_left, List.drop_append_of_le_length hpos, List.drop_one]
    simp [Format.shifted]
  rw [assign_eq, hdrop, ← length_shifted hw c]
  exact List.take_left

/-- Format A accepts the valid frames. -/
theorem checkA_iff (hw : w.length = f.framing.body)
    (hlong : (junk ++ (w ++ frameTail :: post)).length < 2 ^ 62) :
    f.checkA (junk ++ (w ++ frameTail :: post)) (junk ++ w).length = true ↔
      f.framing.valid (f.framing.frame w) := by
  rw [checkA, headIdx_eq hw hlong, assign_frame hw, beq_iff_eq, f.checksum_eq]
  rfl

/-- Format B accepts the valid shifted windows, once the byte after the tail has come. -/
theorem checkB_iff (hw : w.length = f.framing.body)
    (hlong : (junk ++ (w ++ frameTail :: post)).length < 2 ^ 62) :
    f.checkB (junk ++ (w ++ frameTail :: post)) (junk ++ w).length = true ↔
      ∃ c rest, post = c :: rest ∧ f.framing.validNext (f.framing.shifted w c) := by
  rw [checkB, headIdxB_eq hw hlong]
  cases post with
  | nil =>
    have hend : ¬((junk ++ w).length : ℤ) + 1 < (junk ++ (w ++ [frameTail])).length := by
      simp
      omega
    rw [decide_eq_false hend, Bool.and_false, Bool.false_and]
    simp
  | cons c rest =>
    have hsize := f.two_le_len
    -- The last byte but one of the packet is the tail.
    have htail : (f.framing.shifted w c).getD (f.len - 2) 0 = frameTail := by
      have hlen : w.tail.length = f.len - 2 := by
        rw [List.length_tail, hw, framing_body]
        omega
      rw [Format.shifted, ← hlen]
      simp
    rw [assign_shifted hw c]
    simp only [Bool.and_eq_true, decide_eq_true_eq, beq_iff_eq, htail, true_and, List.length_append,
      List.length_cons, List.cons.injEq]
    constructor
    · exact fun h => ⟨c, rest, ⟨rfl, rfl⟩, h.2⟩
    · rintro ⟨_, _, ⟨rfl, rfl⟩, h⟩
      exact ⟨⟨by omega, by push_cast; omega⟩, h⟩

/-- The first tail of a buffer, found by the loop. -/
theorem findIdx?_tail {pre : List Byte} (hpre : frameTail ∉ pre) :
    (pre ++ frameTail :: post).findIdx? (· == frameTail) = some pre.length := by
  have hnone : pre.findIdx? (· == frameTail) = none := List.findIdx?_eq_none_iff.2 fun b hb => by
    have hne : b ≠ frameTail := fun h => hpre (h ▸ hb)
    simpa using hne
  rw [List.findIdx?_append, hnone, List.findIdx?_cons]
  simp

/-- The loop exits on a buffer with nothing to work on. -/
theorem body_of_stuck (hb : f.framing.Stuck buffer) : f.body buffer = none := by
  rw [body]
  rcases hb with hlen | hmem
  · rw [if_pos (by have := f.size_framing; omega)]
  · rw [framing_delim] at hmem
    have hnone : buffer.findIdx? (· == frameTail) = none :=
      List.findIdx?_eq_none_iff.2 fun b hb => by
        have hne : b ≠ frameTail := fun h => hmem (h ▸ hb)
        simpa using hne
    rw [hnone, ite_self]

/-- The body of the loop on a tail too early for a frame. -/
theorem body_short {pre : List Byte} (hpre : frameTail ∉ pre) (hshort : pre.length < f.framing.body)
    (hlen : f.len ≤ (pre ++ frameTail :: post).length)
    (hlong : (pre ++ frameTail :: post).length < 2 ^ 62) :
    f.body (pre ++ frameTail :: post) = some ([], post) := by
  have hneg : longSub pre.length (f.len - 1) < 0 := by
    have := f.len_le
    rw [framing_body] at hshort
    rw [List.length_append, List.length_cons] at hlong
    rw [longSub_eq (by omega) (by omega)]
    omega
  rw [body, if_neg (by omega), findIdx?_tail hpre]
  simp only [if_pos hneg]
  rw [List.append_cons, List.drop_left' (by simp)]

/-- The body of the loop on a tail closing the window of `w`. -/
theorem body_window (hj : frameTail ∉ junk) (hw : f.framing.IsBody w)
    (hlong : (junk ++ (w ++ frameTail :: post)).length < 2 ^ 62) :
    ∃ ws buffer', f.body (junk ++ (w ++ frameTail :: post)) = some (ws.map f.toMsg, buffer') ∧
      f.framing.Step True (junk ++ (w ++ frameTail :: post)) ws buffer' := by
  have hfind : (junk ++ (w ++ frameTail :: post)).findIdx? (· == frameTail) =
      some (junk ++ w).length := by
    rw [← List.append_assoc]
    exact findIdx?_tail (by simpa using ⟨hj, hw.notMem⟩)
  have hsize : ¬(junk ++ (w ++ frameTail :: post)).length < f.len := by
    have := hw.length
    have := f.size_framing
    simp only [List.length_append, List.length_cons]
    omega
  have hhead := headIdx_eq (f := f) hw.length hlong
  have hdrop : (junk ++ (w ++ frameTail :: post)).drop ((junk ++ w).length + 1) = post := by
    rw [← List.append_assoc, List.append_cons, List.drop_left' (by simp; omega)]
  rw [body, if_neg hsize, hfind]
  simp only [hhead, assign_frame hw.length, hdrop, Int.not_ofNat_neg, if_false]
  by_cases hA : f.framing.valid (f.framing.frame w)
  · rw [if_pos ((checkA_iff hw.length hlong).2 hA)]
    exact ⟨[f.framing.frame w], post, rfl, .frame hj hw hA⟩
  rw [if_neg fun h => hA ((checkA_iff hw.length hlong).1 h)]
  by_cases hB : ∃ c rest, post = c :: rest ∧ f.framing.validNext (f.framing.shifted w c)
  · rw [if_pos ((checkB_iff hw.length hlong).2 hB)]
    obtain ⟨c, rest, rfl, hB⟩ := hB
    rw [headIdxB_eq hw.length hlong, assign_shifted hw.length c]
    have hdropB : (junk ++ (w ++ frameTail :: c :: rest)).drop ((junk ++ w).length + 2) = rest := by
      rw [← List.drop_drop (i := 1), hdrop]
      rfl
    rw [hdropB]
    exact ⟨[f.framing.shifted w c], rest, rfl, .shifted hj hw hA hB⟩
  · rw [if_neg fun h => hB ((checkB_iff hw.length hlong).1 h)]
    exact ⟨[], post, rfl, .reject hj hw hA fun _ c rest hpost hn => hB ⟨c, rest, hpost, hn⟩⟩

/-- The body of the loop is a step on the first tail of the buffer, if there is
    one and the buffer is long enough. -/
theorem body_step (hlong : buffer.length < 2 ^ 62) (hb : ¬f.framing.Stuck buffer) :
    ∃ ws buffer', f.body buffer = some (ws.map f.toMsg, buffer') ∧
      f.framing.Step True buffer ws buffer' := by
  rw [Format.Stuck, not_or, Nat.not_le, not_not] at hb
  obtain ⟨hlen, hmem⟩ := hb
  have hsize := f.size_framing
  obtain ⟨pre, post, rfl, hpre⟩ := List.eq_append_cons_of_mem hmem
  rcases Nat.lt_or_ge pre.length f.framing.body with hshort | hge
  · have hlen' := hlen
    rw [List.length_append, List.length_cons] at hlen'
    exact ⟨[], post, body_short hpre hshort (by rw [← hsize]; exact hlen) hlong,
      .short hpre hshort (by omega)⟩
  · -- The window is made of the last bytes before the tail.
    obtain ⟨junk, w, rfl, hj, hw⟩ := Format.exists_isBody hpre hge
    rw [List.append_assoc] at hlong ⊢
    exact body_window hj hw hlong

/-- Executing the loop is a scan of the buffer: the messages are those of the windows. -/
theorem exec_scan (hlong : buffer.length < 2 ^ 62) :
    ∃ ws, f.framing.Scan True buffer ws (f.loop.exec buffer).2 ∧
      (f.loop.exec buffer).1 = ws.map f.toMsg := by
  induction hn : buffer.length using Nat.strongRecOn generalizing buffer with
  | ind n ih =>
    by_cases hb : f.framing.Stuck buffer
    · have hbody : f.loop.body buffer = none := body_of_stuck hb
      rw [Loop.exec_of_exit hbody]
      exact ⟨[], ⟨.nil _, hb⟩, rfl⟩
    · obtain ⟨ws, buffer', hbody, hstep⟩ := body_step hlong hb
      have hlt := f.length_body_lt hbody
      obtain ⟨ws', hscan, hmsgs⟩ := ih buffer'.length (by omega) (by omega) rfl
      rw [Loop.exec_of_body (L := f.loop) hbody, hmsgs]
      exact ⟨ws ++ ws', ⟨.cons hstep hscan.run, hscan.stuck⟩, by simp⟩

/-- The buffer is kept, or its last two frame lengths are. -/
theorem trim_eq_or (buffer : List Byte) : f.trim buffer = buffer ∨
    f.len * 2 ≤ buffer.length ∧ f.trim buffer = buffer.drop (buffer.length - f.len * 2) := by
  have := f.len_le
  rw [trim]
  split
  · exact .inr ⟨by omega, rfl⟩
  · exact .inl rfl

theorem trim_suffix (buffer : List Byte) : f.trim buffer <:+ buffer :=
  Format.suffix_of_trim (trim_eq_or buffer)

theorem length_trim_le (buffer : List Byte) : (f.trim buffer).length ≤ 1024 := by
  have := f.len_le
  rw [trim]
  split
  · rw [List.length_drop]
    omega
  · omega

theorem trim_of_le (h : buffer.length ≤ 1024) : f.trim buffer = buffer := if_neg (by omega)

/-- A parse is a scan of the trimmed buffer. -/
theorem parse_scan (buffer : List Byte) :
    ∃ ws, f.framing.Scan True (f.trim buffer) ws (f.parse buffer).2 ∧
      (f.parse buffer).1 = ws.map f.toMsg :=
  exec_scan ((f.length_trim_le buffer).trans_lt (by decide))

/-- A series of ticks is a feed of the chunks. -/
theorem receiveAll_feed (buffer : List Byte) (chunks : List (List Byte)) :
    ∃ ws, f.framing.Feed f.trim buffer chunks ws (receiveAll f.parse buffer chunks).2 ∧
      (receiveAll f.parse buffer chunks).1 = ws.map f.toMsg := by
  induction chunks generalizing buffer with
  | nil => exact ⟨[], .nil _, rfl⟩
  | cons chunk chunks ih =>
    obtain ⟨ws, hscan, hmsgs⟩ := f.parse_scan (buffer ++ chunk)
    obtain ⟨ws', hfeed, hmsgs'⟩ := ih (f.parse (buffer ++ chunk)).2
    exact ⟨ws ++ ws', .cons hscan hfeed, by simp [receiveAll, receive, hmsgs, hmsgs']⟩

/-- A series of ticks that fit in the buffer is a feed that trims nothing. -/
theorem receiveAll_feed_of_fits {buffer : List Byte} {chunks : List (List Byte)}
    (h : Fits f.parse buffer chunks) :
    ∃ ws, f.framing.Feed id buffer chunks ws (receiveAll f.parse buffer chunks).2 ∧
      (receiveAll f.parse buffer chunks).1 = ws.map f.toMsg := by
  induction chunks generalizing buffer with
  | nil => exact ⟨[], .nil _, rfl⟩
  | cons chunk chunks ih =>
    obtain ⟨hle, hrest⟩ := h
    obtain ⟨ws, hscan, hmsgs⟩ := f.parse_scan (buffer ++ chunk)
    rw [trim_of_le hle] at hscan
    obtain ⟨ws', hfeed, hmsgs'⟩ := ih hrest
    exact ⟨ws ++ ws', .cons hscan hfeed, by rw [receiveAll, hmsgs', receive, hmsgs]; simp⟩

end FrameFormat

end Sentry.Talker
