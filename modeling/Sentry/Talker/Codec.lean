import Sentry.Talker.Parse
import Sentry.Framing.Noise

/-!
# Frames of records

What is on the other end of the line: a `Codec` is a format of the receiver with
the records of the sender, their payloads and the messages they mean. A record is
sent as a frame of format A, the payload followed by its checksum and the tail
(`Codec.frame`), or of format B, the payload followed by the tail and the checksum
(`Codec.frameB`).

In the terms of `Framing`, a window is a valid frame when the XOR of its bytes
before the tail is zero (`FrameFormat.valid_frame_iff`). So the frames of format A
are sound (`Codec.sound`), one damaged byte is always detected
(`FrameFormat.detects`), and any window accepted is the frame of a record, of
format A or B (`Codec.exists_record`).
-/

namespace Sentry.Talker

open Framing

/-! ## Valid windows -/

/-- The checksum of a packet leaves out its last two bytes. -/
theorem calcChecksum_append (p : List Byte) (a b : Byte) :
    calcChecksum (p ++ [a, b]) = xorAll p := by
  rw [calcChecksum, List.length_append, List.length_cons, List.length_singleton,
    Nat.add_sub_cancel]
  rw [List.take_left]

namespace FrameFormat

variable {f : FrameFormat} {p w : List Byte} {a b : Byte}

/-- The bytes before the tail end with a checksum. -/
theorem exists_payload_of_length (hw : w.length = f.framing.body) :
    ∃ p c, w = p ++ [c] ∧ p.length = f.len - 2 := by
  have hsize := f.two_le_len
  rw [framing_body] at hw
  have hne : w ≠ [] := List.ne_nil_of_length_pos (by omega)
  refine ⟨w.dropLast, w.getLast hne, (List.dropLast_append_getLast hne).symm, ?_⟩
  rw [List.length_dropLast]
  omega

/-- The frame of a payload and its checksum. -/
theorem frame_append (p : List Byte) (c : Byte) :
    f.framing.frame (p ++ [c]) = p ++ [c, frameTail] := by
  rw [Format.frame, List.append_assoc]
  rfl

theorem valid_append_iff (hp : p.length = f.len - 2) :
    f.framing.valid (p ++ [a, b]) ↔ xorAll p = a := by
  show calcChecksum _ = _ ↔ _
  rw [calcChecksum_append, ← hp]
  simp

theorem validNext_append_iff (hp : p.length = f.len - 2) :
    f.framing.validNext (p ++ [a, b]) ↔ xorAll p = b := by
  have hlen : f.len - 1 = p.length + 1 := by
    have := f.two_le_len
    omega
  show calcChecksum _ = _ ↔ _
  rw [calcChecksum_append, hlen]
  simp

/-- A frame is valid when the XOR of its bytes before the tail is zero. -/
theorem valid_frame_iff (hw : w.length = f.framing.body) :
    f.framing.valid (f.framing.frame w) ↔ xorAll w = 0 := by
  obtain ⟨p, c, rfl, hp⟩ := exists_payload_of_length hw
  rw [frame_append, valid_append_iff hp, xorAll_append]
  simp [BitVec.xor_eq_zero_iff]

/-- One damaged byte before the tail is always detected. -/
theorem detects (f : FrameFormat) : f.framing.Detects := by
  intro w i v hw hvalid hi hne hdamaged
  rw [valid_frame_iff hw] at hvalid
  rw [valid_frame_iff (by rw [List.length_set, hw]), ← hvalid] at hdamaged
  exact xorAll_set_ne hi hne hdamaged

end FrameFormat

/-! ## Codecs -/

/-- The records of a format, with their payloads and the messages they mean. -/
structure Codec (R : Type) where
  format : FrameFormat
  /-- The fields of a record, big-endian, in the order of the structure. -/
  payload : R → List Byte
  /-- The message with the fields of a record. -/
  msg : R → SerialReceiveData
  length_payload : ∀ r, (payload r).length = format.len - 2
  exists_payload : ∀ p : List Byte, p.length = format.len - 2 → ∃ r, payload r = p
  toMsg_payload : ∀ r rest, format.toMsg (payload r ++ rest) = msg r

/-- The 3v3 records. -/
def codecThree : Codec RecordThree where
  format := formatThree
  payload := RecordThree.payload
  msg := RecordThree.msg
  length_payload _ := rfl
  exists_payload := RecordThree.exists_payload
  toMsg_payload := RecordThree.toMsg_ofPacket

/-- The 7v7 records. -/
def codecSeven : Codec RecordSeven where
  format := formatSeven
  payload := RecordSeven.payload
  msg := RecordSeven.msg
  length_payload _ := rfl
  exists_payload := RecordSeven.exists_payload
  toMsg_payload := RecordSeven.toMsg_ofPacket

namespace Codec

variable {R : Type} (K : Codec R)

/-- The bytes of a frame before its tail: the payload and its checksum. -/
def body (r : R) : List Byte := K.payload r ++ [xorAll (K.payload r)]

/-- A frame of format A. -/
def frame (r : R) : List Byte := K.payload r ++ [xorAll (K.payload r), frameTail]

/-- A frame of format B. -/
def frameB (r : R) : List Byte := K.payload r ++ [frameTail, xorAll (K.payload r)]

/-- The frames of format A of some records, back to back. -/
def stream (rs : List R) : List Byte := rs.flatMap K.frame

/-- No byte of the payload or the checksum is a tail. -/
def Clean (r : R) : Prop := frameTail ∉ K.body r

instance : DecidablePred K.Clean := fun r => inferInstanceAs (Decidable (frameTail ∉ K.body r))

/-- The records whose frames lie between the offsets `j` and `e` of the stream. -/
def complete (rs : List R) (j e : ℕ) : List R :=
  (rs.take (e / K.format.len)).drop ((j + (K.format.len - 1)) / K.format.len)

variable {K}

theorem length_body (r : R) : (K.body r).length = K.format.framing.body := by
  have := K.format.two_le_len
  rw [body, List.length_append, K.length_payload, List.length_singleton,
    FrameFormat.framing_body]
  omega

/-- The frame of a record is the frame of its body. -/
theorem frame_eq (r : R) : K.format.framing.frame (K.body r) = K.frame r :=
  FrameFormat.frame_append _ _

theorem stream_eq (rs : List R) : K.stream rs = K.format.framing.stream (rs.map K.body) := by
  rw [stream, Format.stream, List.flatMap_map]
  exact List.flatMap_congr fun r _ => (frame_eq r).symm

/-- The frames of records are valid. -/
theorem sound (rs : List R) : K.format.framing.Sound (rs.map K.body) := by
  intro w hw
  obtain ⟨r, -, rfl⟩ := List.mem_map.1 hw
  refine ⟨length_body r, (FrameFormat.valid_frame_iff (length_body r)).2 ?_⟩
  simp [body]

theorem clean_map_body {rs : List R} (h : ∀ r ∈ rs, K.Clean r) :
    ∀ w ∈ rs.map K.body, K.format.framing.delim ∉ w := fun w hw => by
  obtain ⟨r, hr, rfl⟩ := List.mem_map.1 hw
  exact h r hr

/-- The message of the frame of a record is the message of the record. -/
theorem toMsg_frame (r : R) : K.format.toMsg (K.frame r) = K.msg r := K.toMsg_payload _ _

/-- The messages of frames of records. -/
theorem map_toMsg_frame (rs : List R) :
    ((rs.map K.body).map K.format.framing.frame).map K.format.toMsg = rs.map K.msg := by
  rw [List.map_map, List.map_map]
  exact List.map_congr_left fun r _ => by
    rw [Function.comp_apply, Function.comp_apply, frame_eq, toMsg_frame]

theorem between_map_body (rs : List R) (j e : ℕ) :
    K.format.framing.between (rs.map K.body) j e = (K.complete rs j e).map K.body := by
  rw [Format.between, K.format.size_framing, FrameFormat.framing_body, complete, List.map_drop,
    List.map_take]

/-- A window accepted is the frame of a record, of format A without a tail inside,
    or of format B without a tail in the payload. -/
theorem exists_record {w : List Byte} (h : K.format.framing.IsWindow w) :
    ∃ r, (w = K.frame r ∧ K.Clean r ∨ w = K.frameB r ∧ frameTail ∉ K.payload r) ∧
      K.format.toMsg w = K.msg r := by
  cases h with
  | frame hw hvalid =>
    obtain ⟨p, c, rfl, hp⟩ := FrameFormat.exists_payload_of_length hw.length
    obtain ⟨r, rfl⟩ := K.exists_payload p hp
    rw [FrameFormat.frame_append] at hvalid ⊢
    obtain rfl := (FrameFormat.valid_append_iff hp).1 hvalid
    exact ⟨r, .inl ⟨rfl, hw.notMem⟩, toMsg_frame r⟩
  | @shifted w c hw hvalid =>
    have hp : w.tail.length = K.format.len - 2 := by
      rw [List.length_tail, hw.length, FrameFormat.framing_body, Nat.sub_sub]
    obtain ⟨r, hr⟩ := K.exists_payload w.tail hp
    rw [Format.shifted, ← hr] at hvalid ⊢
    obtain rfl := (FrameFormat.validNext_append_iff (K.length_payload r)).1 hvalid
    exact ⟨r, .inr ⟨rfl, fun hmem => hw.notMem (List.mem_of_mem_tail (hr ▸ hmem))⟩,
      K.toMsg_payload _ _⟩

end Codec

end Sentry.Talker
