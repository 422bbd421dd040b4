import Sentry.Checked
import Sentry.Talker.Parse

/-!
# The bounds of the frame loops

The frame loops once more, from the source with every iterator and every index checked
against its container, and with a bound on the iterations (`FrameFormat.parseChecked`).
They do what the unchecked loops do: nothing is accessed out of bounds, and one iteration
more than the tails in the trimmed buffer is enough (`FrameFormat.parseChecked_eq`).

After the trim, a buffer has at most 1024 bytes, so no `long` computed from a size wraps
around where it is used, whatever the buffer was before.
-/

namespace Sentry.Talker

open Transition Framing
open Checked (Fault)

/-! ## The loops, checked -/

/-- `calc_checksum`, with the length of the packet less two as an unsigned number. -/
def calcChecksumChecked (packet : List Byte) : Except Fault Byte :=
  Checked.foldTo packet (· ^^^ ·) 0 (BitVec.ofNat 64 packet.length - 2).toNat

namespace FrameFormat

variable (f : FrameFormat)

/-- `packet.assign`, from the index `head`. -/
def assignChecked (buffer : List Byte) (head : ℤ) : Except Fault (List Byte) := do
  let first ← Checked.iterator buffer head
  let last ← Checked.iterator buffer (first + f.len)
  Checked.slice buffer first last

/-- Format A: the packet, if its checksum is the one in the structure. -/
def formatA (buffer : List Byte) (tailIdx : ℕ) : Except Fault (Option (List Byte)) := do
  let packet ← f.assignChecked buffer (longSub tailIdx (f.len - 1))
  let data ← Checked.overlay packet f.len
  let sum ← calcChecksumChecked packet
  return if sum == f.checksum data then some packet else none

/-- Format B: the packet, if its last byte but one is a tail and its last one the checksum. -/
def formatB (buffer : List Byte) (tailIdx : ℕ) : Except Fault (Option (List Byte)) := do
  let headIdxB := longSub tailIdx (f.len - 2)
  if 0 ≤ headIdxB ∧ (tailIdx : ℤ) + 1 < buffer.length then
    let packet ← f.assignChecked buffer headIdxB
    let checksumB ← Checked.access packet (f.len - 1)
    let tail ← Checked.access packet (f.len - 2)
    let sum ← calcChecksumChecked packet
    return if tail == frameTail && sum == checksumB then some packet else none
  else return none

/-- The body of the loop, on a buffer that is long enough. -/
def bodyChecked (buffer : List Byte) :
    Except Fault (Option (List SerialReceiveData × List Byte)) := do
  match buffer.findIdx? (· == frameTail) with
  | none => return none
  | some tailIdx =>
    let eraseEnd ← Checked.iterator buffer (tailIdx + 1)
    if longSub tailIdx (f.len - 1) < 0 then
      let rest ← Checked.eraseTo buffer eraseEnd
      return some ([], rest)
    else
      match ← f.formatA buffer tailIdx with
      | some packet =>
        let rest ← Checked.eraseTo buffer eraseEnd
        return some ([f.toMsg packet], rest)
      | none =>
        match ← f.formatB buffer tailIdx with
        | some packet =>
          let eraseEnd ← Checked.iterator buffer (tailIdx + 2)
          let rest ← Checked.eraseTo buffer eraseEnd
          return some ([f.toMsg packet], rest)
        | none =>
          let rest ← Checked.eraseTo buffer eraseEnd
          return some ([], rest)

/-- The trim, with the iterator before the last two frame lengths. -/
def trimChecked (buffer : List Byte) : Except Fault (List Byte) := do
  if 1024 < buffer.length then
    let last ← Checked.iterator buffer (buffer.length - f.len * 2)
    Checked.eraseTo buffer last
  else return buffer

/-- The trim and the loop, for at most `fuel` iterations. -/
def parseChecked (fuel : ℕ) (buffer : List Byte) :
    Except Fault (List SerialReceiveData × List Byte) := do
  let trimmed ← f.trimChecked buffer
  Checked.iterate (fun b => decide (f.len ≤ b.length)) f.bodyChecked fuel trimmed

/-! ## Within the bounds -/

variable {f} {buffer packet : List Byte} {tailIdx : ℕ}

theorem calcChecksumChecked_eq (h : 2 ≤ packet.length) (hlong : packet.length < 2 ^ 62) :
    calcChecksumChecked packet = .ok (calcChecksum packet) := by
  have hsize : (BitVec.ofNat 64 packet.length - 2).toNat = packet.length - 2 := by
    rw [BitVec.toNat_sub, BitVec.toNat_ofNat]
    simp
    omega
  rw [calcChecksumChecked, hsize, Checked.foldTo_ok (by omega), calcChecksum, xorAll]

theorem length_assign {head : ℤ} (h : head.toNat + f.len ≤ buffer.length) :
    (f.assign buffer head).length = f.len := by
  rw [assign, List.length_take, List.length_drop]
  omega

theorem assignChecked_eq {head : ℤ} (h : 0 ≤ head) (hlast : head + f.len ≤ buffer.length) :
    f.assignChecked buffer head = .ok (f.assign buffer head) := by
  have hfirst : Checked.iterator buffer head = .ok head.toNat :=
    Checked.iterator_ok h (by omega)
  have hend : Checked.iterator buffer (head.toNat + f.len) = .ok (head.toNat + f.len) :=
    Checked.iterator_ok (by omega) (by omega)
  have hslice : Checked.slice buffer head.toNat (head.toNat + f.len) =
      .ok (f.assign buffer head) := by
    rw [Checked.slice_ok (by omega) (by omega), Nat.add_sub_cancel_left]
    rfl
  rw [assignChecked, hfirst, Checked.ok_bind, hend, Checked.ok_bind, hslice]

/-- The checksum of a packet as long as a frame. -/
theorem calcChecksumChecked_of_length (h : packet.length = f.len) :
    calcChecksumChecked packet = .ok (calcChecksum packet) := by
  have := f.two_le_len
  have := f.len_le
  exact calcChecksumChecked_eq (by omega) (by omega)

/-- Format A, on a tail that is not too early. -/
theorem formatA_eq (hlong : buffer.length < 2 ^ 62) (htail : tailIdx < buffer.length)
    (hhead : 0 ≤ longSub tailIdx (f.len - 1)) :
    f.formatA buffer tailIdx = .ok (if f.checkA buffer tailIdx then
      some (f.assign buffer (longSub tailIdx (f.len - 1))) else none) := by
  have := f.two_le_len
  have := f.len_le
  have hidx : longSub tailIdx (f.len - 1) = tailIdx - (f.len - 1 : ℕ) :=
    longSub_eq (by omega) (by omega)
  have hlen : (f.assign buffer (longSub tailIdx (f.len - 1))).length = f.len :=
    length_assign (by omega)
  rw [formatA, assignChecked_eq hhead (by omega), Checked.ok_bind, Checked.overlay_ok hlen.ge,
    Checked.ok_bind, calcChecksumChecked_of_length hlen]
  rfl

/-- Format B, on a tail that is not too early: the byte after the tail may be missing. -/
theorem formatB_eq (hlong : buffer.length < 2 ^ 62) (htail : tailIdx < buffer.length) :
    f.formatB buffer tailIdx = .ok (if f.checkB buffer tailIdx then
      some (f.assign buffer (longSub tailIdx (f.len - 2))) else none) := by
  have := f.two_le_len
  have := f.len_le
  have hidx : longSub tailIdx (f.len - 2) = tailIdx - (f.len - 2 : ℕ) :=
    longSub_eq (by omega) (by omega)
  rw [formatB, checkB]
  by_cases hnext : 0 ≤ longSub tailIdx (f.len - 2) ∧ (tailIdx : ℤ) + 1 < buffer.length
  · obtain ⟨hhead, hin⟩ := hnext
    have hlen : (f.assign buffer (longSub tailIdx (f.len - 2))).length = f.len :=
      length_assign (by omega)
    rw [if_pos ⟨hhead, hin⟩, assignChecked_eq hhead (by omega), Checked.ok_bind,
      Checked.access_ok (by omega) 0, Checked.ok_bind, Checked.access_ok (by omega) 0,
      Checked.ok_bind, calcChecksumChecked_of_length hlen, Checked.ok_bind, decide_eq_true hhead,
      decide_eq_true hin]
    rfl
  · rw [if_neg hnext, if_neg]
    · rfl
    · simp only [Bool.and_eq_true, decide_eq_true_eq]
      exact fun h => hnext h.1

/-- The body of the loop stays within the bounds. -/
theorem bodyChecked_eq (hlong : buffer.length < 2 ^ 62) (hlen : f.len ≤ buffer.length) :
    f.bodyChecked buffer = .ok (f.body buffer) := by
  rw [bodyChecked, body, if_neg (by omega)]
  cases hfind : buffer.findIdx? (· == frameTail) with
  | none => rfl
  | some tailIdx =>
    have htail : tailIdx < buffer.length := (List.findIdx?_eq_some_iff_getElem.1 hfind).1
    have hiter : Checked.iterator buffer (tailIdx + 1) = .ok (tailIdx + 1) :=
      Checked.iterator_ok (by omega) (by omega)
    have herase : Checked.eraseTo buffer (tailIdx + 1) = .ok (buffer.drop (tailIdx + 1)) :=
      Checked.eraseTo_ok (by omega)
    simp only [hiter, Checked.ok_bind]
    by_cases hearly : longSub tailIdx (f.len - 1) < 0
    · rw [if_pos hearly, if_pos hearly, herase]
      rfl
    rw [if_neg hearly, if_neg hearly, formatA_eq hlong htail (not_lt.1 hearly), Checked.ok_bind]
    by_cases hA : f.checkA buffer tailIdx = true
    · rw [if_pos hA, if_pos hA]
      simp only [herase, Checked.ok_bind]
      rfl
    rw [if_neg hA, if_neg hA]
    simp only [formatB_eq hlong htail, Checked.ok_bind]
    by_cases hB : f.checkB buffer tailIdx = true
    · -- the byte after the tail has come
      have hin : (tailIdx : ℤ) + 1 < buffer.length := by
        simp only [checkB, Bool.and_eq_true, decide_eq_true_eq] at hB
        exact hB.1.2
      have hiterB : Checked.iterator buffer (tailIdx + 2) = .ok (tailIdx + 2) :=
        Checked.iterator_ok (by omega) (by omega)
      have heraseB : Checked.eraseTo buffer (tailIdx + 2) = .ok (buffer.drop (tailIdx + 2)) :=
        Checked.eraseTo_ok (by omega)
      rw [if_pos hB, if_pos hB]
      simp only [hiterB, heraseB, Checked.ok_bind]
      rfl
    · rw [if_neg hB, if_neg hB]
      simp only [herase, Checked.ok_bind]
      rfl

variable (f) in
/-- The trim stays within the bounds. -/
theorem trimChecked_eq (buffer : List Byte) : f.trimChecked buffer = .ok (f.trim buffer) := by
  have := f.len_le
  rw [trimChecked, trim]
  split
  · have hiter : Checked.iterator buffer (buffer.length - f.len * 2) =
        .ok (buffer.length - f.len * 2) := by
      rw [Checked.iterator_ok (by omega) (by omega)]
      congr
      omega
    rw [hiter, Checked.ok_bind, Checked.eraseTo_ok (Nat.sub_le _ _)]
  · rfl

/-- Every iteration that goes on drops a tail. -/
theorem count_body_lt {msgs : List SerialReceiveData} {buffer' : List Byte}
    (hlong : buffer.length < 2 ^ 62) (h : f.body buffer = some (msgs, buffer')) :
    buffer'.count frameTail < buffer.count frameTail := by
  by_cases hb : f.framing.Stuck buffer
  · rw [body_of_stuck hb] at h
    exact absurd h (by simp)
  · obtain ⟨ws, rest, hbody, hstep⟩ := body_step hlong hb
    obtain ⟨-, rfl⟩ := Prod.mk.inj (Option.some.inj (hbody.symm.trans h))
    exact hstep.count_lt

/-- With more iterations than there are tails in the trimmed buffer, the checked loop does
    what the unchecked one does. -/
theorem parseChecked_eq {fuel : ℕ} (hfuel : (f.trim buffer).count frameTail < fuel) :
    f.parseChecked fuel buffer = .ok (f.parse buffer) := by
  have hlong : (f.trim buffer).length < 2 ^ 62 := (f.length_trim_le buffer).trans_lt (by decide)
  rw [parseChecked, trimChecked_eq, Checked.ok_bind]
  -- the buffer stays short, and every iteration takes a tail away
  refine Checked.iterate_eq_exec (L := f.loop) (I := fun b => b.length < 2 ^ 62)
    (μ := List.count frameTail) ?_ ?_ ?_ hlong hfuel
  · intro b _ hshort
    have hlen : ¬f.len ≤ b.length := of_decide_eq_false hshort
    exact if_pos (not_le.1 hlen)
  · intro b hb hlen
    exact bodyChecked_eq hb (of_decide_eq_true hlen)
  · intro b msgs b' hb hbody
    exact ⟨(f.length_body_lt hbody).trans hb, count_body_lt hb hbody⟩

/-! ## What is promised of the loops -/

/-- A parse of a buffer ends after one iteration more than there are tails in the trimmed
    buffer, with all its accesses within the bounds; it leaves a suffix of the buffer, at
    most 1024 bytes long, with nothing to work on. -/
structure Total (f : FrameFormat) (parse : List Byte → List SerialReceiveData × List Byte)
    (buffer : List Byte) : Prop where
  bounded : f.parseChecked ((f.trim buffer).count frameTail + 1) buffer = .ok (parse buffer)
  suffix : (parse buffer).2 <:+ buffer
  length_le : (parse buffer).2.length ≤ 1024
  stuck : (parse buffer).2.length < f.len ∨ frameTail ∉ (parse buffer).2

variable (f) in
theorem parse_total (buffer : List Byte) : f.Total f.parse buffer := by
  obtain ⟨ws, hscan, -⟩ := f.parse_scan buffer
  have hsuffix : (f.parse buffer).2 <:+ f.trim buffer := Format.run_suffix hscan.run
  refine ⟨parseChecked_eq (Nat.lt_succ_self _), hsuffix.trans (trim_suffix buffer),
    hsuffix.length_le.trans (f.length_trim_le buffer), hscan.stuck.imp (fun hlen => ?_) id⟩
  have := f.size_framing
  omega

end FrameFormat

/-- The frame loops, on every buffer. -/
theorem parse_seven_three_total (buffer : List Byte) :
    formatSeven.Total parseSeven buffer ∧ formatThree.Total parseThree buffer :=
  ⟨formatSeven.parse_total buffer, formatThree.parse_total buffer⟩

end Sentry.Talker
