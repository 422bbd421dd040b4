import Mathlib.Data.BitVec
import Mathlib.Tactic.Ring

/-!
# Downlink data

The data the lower controller sends over the serial line: the packed structures
`DownlinkDataThree` and `DownlinkDataSeven` laid over the bytes of a packet, the
message `SerialReceiveData` published for them, and the checksum.

The fields are big-endian on the line and the host is little-endian, so a field of
the structure holds its value with the bytes swapped, until `ntohs` or `ntohl`
swaps them back. `RecordThree` and `RecordSeven` are what the sender means: the
values of the fields. A structure laid over the payload of a record gives the
message of the record (`RecordThree.toMsg_ofPacket`, `RecordSeven.toMsg_ofPacket`).
-/

namespace Sentry.Talker

/-- A byte of the serial line. -/
abbrev Byte := BitVec 8

/-- The last byte of a frame, `FRAME_TAIL`. -/
def frameTail : Byte := 0xDD

/-- `DATA_TYPE_SEVEN`. -/
def dataTypeSeven : String := "seven"

/-- `DATA_TYPE_THREE`. -/
def dataTypeThree : String := "three"

/-! ## Byte order -/

/-- The byte at an offset of a packed structure. -/
def load8 (packet : List Byte) (offset : ℕ) : Byte := packet.getD offset 0

/-- The 16-bit field at an offset of a packed structure, on a little-endian host. -/
def load16 (packet : List Byte) (offset : ℕ) : BitVec 16 :=
  load8 packet (offset + 1) ++ load8 packet offset

/-- The 32-bit field at an offset of a packed structure, on a little-endian host. -/
def load32 (packet : List Byte) (offset : ℕ) : BitVec 32 :=
  load16 packet (offset + 2) ++ load16 packet offset

/-- Network to host byte order, 16 bits. -/
def ntohs (v : BitVec 16) : BitVec 16 := v.extractLsb' 0 8 ++ v.extractLsb' 8 8

/-- Network to host byte order, 32 bits. -/
def ntohl (v : BitVec 32) : BitVec 32 :=
  ntohs (v.extractLsb' 0 16) ++ ntohs (v.extractLsb' 16 16)

/-- The bytes of a 16-bit value, most significant first. -/
def bytes16 (v : BitVec 16) : List Byte := [v.extractLsb' 8 8, v.extractLsb' 0 8]

/-- The bytes of a 32-bit value, most significant first. -/
def bytes32 (v : BitVec 32) : List Byte :=
  bytes16 (v.extractLsb' 16 16) ++ bytes16 (v.extractLsb' 0 16)

theorem ntohs_append (a b : Byte) : ntohs (b ++ a) = a ++ b := by
  ext i hi
  simp [ntohs]
  grind

theorem ntohl_append (a b : BitVec 16) : ntohl (b ++ a) = ntohs a ++ ntohs b := by
  have hlow : (b ++ a).extractLsb' 0 16 = a := by
    ext i hi
    simp
    grind
  have hhigh : (b ++ a).extractLsb' 16 16 = b := by
    ext i hi
    simp
    grind
  rw [ntohl, hlow, hhigh]

/-- A 16-bit value is read back from its bytes. -/
theorem ntohs_load16 {packet : List Byte} {offset : ℕ} {v : BitVec 16}
    (h : [load8 packet offset, load8 packet (offset + 1)] = bytes16 v) :
    ntohs (load16 packet offset) = v := by
  simp only [bytes16, List.cons.injEq, and_true] at h
  rw [load16, h.1, h.2, ntohs_append]
  ext i hi
  simp
  grind

/-- A 32-bit value is read back from its bytes. -/
theorem ntohl_load32 {packet : List Byte} {offset : ℕ} {v : BitVec 32}
    (h : [load8 packet offset, load8 packet (offset + 1), load8 packet (offset + 2),
      load8 packet (offset + 3)] = bytes32 v) :
    ntohl (load32 packet offset) = v := by
  simp only [bytes32, bytes16, List.cons_append, List.nil_append, List.cons.injEq, and_true] at h
  rw [load32, ntohl_append, ntohs_load16 (v := v.extractLsb' 16 16),
    ntohs_load16 (v := v.extractLsb' 0 16)]
  · ext i hi
    simp
    grind
  · simp [bytes16, h]
  · simp [bytes16, h]

theorem bytes16_append (a b : Byte) : bytes16 (a ++ b) = [a, b] := by
  have hhigh : (a ++ b).extractLsb' 8 8 = a := by
    ext i hi
    simp
    grind
  have hlow : (a ++ b).extractLsb' 0 8 = b := by
    ext i hi
    simp
    grind
  rw [bytes16, hhigh, hlow]

theorem bytes32_append (a b c d : Byte) : bytes32 ((a ++ b) ++ (c ++ d)) = [a, b, c, d] := by
  have hhigh : ((a ++ b) ++ (c ++ d)).extractLsb' 16 16 = a ++ b := by
    ext i hi
    simp
    grind
  have hlow : ((a ++ b) ++ (c ++ d)).extractLsb' 0 16 = c ++ d := by
    ext i hi
    simp
    grind
  rw [bytes32, hhigh, hlow, bytes16_append, bytes16_append]
  rfl

/-! ## Messages and structures -/

/-- The message `SerialReceiveData`: the fields a parser does not fill keep their
    defaults. -/
structure SerialReceiveData where
  sourceMode : String := ""
  matchTime : BitVec 32 := 0
  -- The fields of a 3v3 frame.
  scoreDiff : ℤ := 0
  ourHeroBlood : BitVec 16 := 0
  ourHeroLevel : Byte := 0
  ourInfantryBlood : BitVec 16 := 0
  ourInfantryLevel : Byte := 0
  ourSentryBlood : BitVec 16 := 0
  enemyHeroBlood : BitVec 16 := 0
  enemyHeroLevel : Byte := 0
  enemyInfantryBlood : BitVec 16 := 0
  enemyInfantryLevel : Byte := 0
  enemySentryBlood : BitVec 16 := 0
  -- The fields of a 7v7 frame.
  hp : BitVec 16 := 0
  enemyOutpostAlive : Bool := false
  ourOutpostAlive : Bool := false
  enemyBaseHp : BitVec 16 := 0
  ourBaseHp : BitVec 16 := 0
  sentryMode : Byte := 0
  sentryBuff : Bool := false
  deriving DecidableEq

/-- The packed structure of a 3v3 frame, 24 bytes. -/
structure DownlinkDataThree where
  matchTime : BitVec 32
  scoreDiff : BitVec 16
  ourHeroBlood : BitVec 16
  ourHeroLevel : Byte
  ourInfantryBlood : BitVec 16
  ourInfantryLevel : Byte
  ourSentryBlood : BitVec 16
  enemyHeroBlood : BitVec 16
  enemyHeroLevel : Byte
  enemyInfantryBlood : BitVec 16
  enemyInfantryLevel : Byte
  enemySentryBlood : BitVec 16
  checksum : Byte
  frameTail : Byte

/-- The packed structure of a 7v7 frame, 16 bytes. -/
structure DownlinkDataSeven where
  hp : BitVec 16
  enemyOutpostAlive : Byte
  ourOutpostAlive : Byte
  matchTime : BitVec 32
  enemyBaseHp : BitVec 16
  ourBaseHp : BitVec 16
  sentryMode : Byte
  sentryBuff : Byte
  checksum : Byte
  frameTail : Byte

/-- The structure of a 3v3 frame laid over the bytes of a packet. -/
def DownlinkDataThree.ofPacket (packet : List Byte) : DownlinkDataThree where
  matchTime := load32 packet 0
  scoreDiff := load16 packet 4
  ourHeroBlood := load16 packet 6
  ourHeroLevel := load8 packet 8
  ourInfantryBlood := load16 packet 9
  ourInfantryLevel := load8 packet 11
  ourSentryBlood := load16 packet 12
  enemyHeroBlood := load16 packet 14
  enemyHeroLevel := load8 packet 16
  enemyInfantryBlood := load16 packet 17
  enemyInfantryLevel := load8 packet 19
  enemySentryBlood := load16 packet 20
  checksum := load8 packet 22
  frameTail := load8 packet 23

/-- The structure of a 7v7 frame laid over the bytes of a packet. -/
def DownlinkDataSeven.ofPacket (packet : List Byte) : DownlinkDataSeven where
  hp := load16 packet 0
  enemyOutpostAlive := load8 packet 2
  ourOutpostAlive := load8 packet 3
  matchTime := load32 packet 4
  enemyBaseHp := load16 packet 8
  ourBaseHp := load16 packet 10
  sentryMode := load8 packet 12
  sentryBuff := load8 packet 13
  checksum := load8 packet 14
  frameTail := load8 packet 15

/-- The message `parse_three` publishes for an accepted packet. -/
def DownlinkDataThree.toMsg (data : DownlinkDataThree) : SerialReceiveData :=
  { sourceMode := dataTypeThree
    matchTime := ntohl data.matchTime
    scoreDiff := (ntohs data.scoreDiff).toInt
    ourHeroBlood := ntohs data.ourHeroBlood
    ourHeroLevel := data.ourHeroLevel
    ourInfantryBlood := ntohs data.ourInfantryBlood
    ourInfantryLevel := data.ourInfantryLevel
    ourSentryBlood := ntohs data.ourSentryBlood
    enemyHeroBlood := ntohs data.enemyHeroBlood
    enemyHeroLevel := data.enemyHeroLevel
    enemyInfantryBlood := ntohs data.enemyInfantryBlood
    enemyInfantryLevel := data.enemyInfantryLevel
    enemySentryBlood := ntohs data.enemySentryBlood }

/-- The message `parse_seven` publishes for an accepted packet. -/
def DownlinkDataSeven.toMsg (data : DownlinkDataSeven) : SerialReceiveData :=
  { sourceMode := dataTypeSeven
    matchTime := ntohl data.matchTime
    hp := ntohs data.hp
    enemyOutpostAlive := data.enemyOutpostAlive != 0
    ourOutpostAlive := data.ourOutpostAlive != 0
    enemyBaseHp := ntohs data.enemyBaseHp
    ourBaseHp := ntohs data.ourBaseHp
    sentryMode := data.sentryMode
    sentryBuff := data.sentryBuff != 0 }

/-! ## Records -/

/-- The values of the fields of a 3v3 frame. -/
structure RecordThree where
  matchTime : BitVec 32
  scoreDiff : BitVec 16
  ourHeroBlood : BitVec 16
  ourHeroLevel : Byte
  ourInfantryBlood : BitVec 16
  ourInfantryLevel : Byte
  ourSentryBlood : BitVec 16
  enemyHeroBlood : BitVec 16
  enemyHeroLevel : Byte
  enemyInfantryBlood : BitVec 16
  enemyInfantryLevel : Byte
  enemySentryBlood : BitVec 16

/-- The values of the fields of a 7v7 frame. -/
structure RecordSeven where
  hp : BitVec 16
  enemyOutpostAlive : Byte
  ourOutpostAlive : Byte
  matchTime : BitVec 32
  enemyBaseHp : BitVec 16
  ourBaseHp : BitVec 16
  sentryMode : Byte
  sentryBuff : Byte

/-- The payload of a 3v3 frame: the fields in the order of the structure. -/
def RecordThree.payload (r : RecordThree) : List Byte :=
  bytes32 r.matchTime ++ bytes16 r.scoreDiff ++ bytes16 r.ourHeroBlood ++ [r.ourHeroLevel] ++
    bytes16 r.ourInfantryBlood ++ [r.ourInfantryLevel] ++ bytes16 r.ourSentryBlood ++
    bytes16 r.enemyHeroBlood ++ [r.enemyHeroLevel] ++ bytes16 r.enemyInfantryBlood ++
    [r.enemyInfantryLevel] ++ bytes16 r.enemySentryBlood

/-- The payload of a 7v7 frame: the fields in the order of the structure. -/
def RecordSeven.payload (r : RecordSeven) : List Byte :=
  bytes16 r.hp ++ [r.enemyOutpostAlive, r.ourOutpostAlive] ++ bytes32 r.matchTime ++
    bytes16 r.enemyBaseHp ++ bytes16 r.ourBaseHp ++ [r.sentryMode, r.sentryBuff]

/-- The message of a 3v3 record: every field equal, the score signed. -/
def RecordThree.msg (r : RecordThree) : SerialReceiveData :=
  { sourceMode := dataTypeThree
    matchTime := r.matchTime
    scoreDiff := r.scoreDiff.toInt
    ourHeroBlood := r.ourHeroBlood
    ourHeroLevel := r.ourHeroLevel
    ourInfantryBlood := r.ourInfantryBlood
    ourInfantryLevel := r.ourInfantryLevel
    ourSentryBlood := r.ourSentryBlood
    enemyHeroBlood := r.enemyHeroBlood
    enemyHeroLevel := r.enemyHeroLevel
    enemyInfantryBlood := r.enemyInfantryBlood
    enemyInfantryLevel := r.enemyInfantryLevel
    enemySentryBlood := r.enemySentryBlood }

/-- The message of a 7v7 record: every field equal, the flags compared with zero. -/
def RecordSeven.msg (r : RecordSeven) : SerialReceiveData :=
  { sourceMode := dataTypeSeven
    matchTime := r.matchTime
    hp := r.hp
    enemyOutpostAlive := r.enemyOutpostAlive != 0
    ourOutpostAlive := r.ourOutpostAlive != 0
    enemyBaseHp := r.enemyBaseHp
    ourBaseHp := r.ourBaseHp
    sentryMode := r.sentryMode
    sentryBuff := r.sentryBuff != 0 }

/-- The structure laid over the payload of a 3v3 record gives its message. -/
theorem RecordThree.toMsg_ofPacket (r : RecordThree) (rest : List Byte) :
    (DownlinkDataThree.ofPacket (r.payload ++ rest)).toMsg = r.msg := by
  simp only [RecordThree.payload, bytes16, bytes32, List.cons_append, List.nil_append,
    DownlinkDataThree.toMsg, DownlinkDataThree.ofPacket, RecordThree.msg]
  rw [ntohl_load32 (v := r.matchTime) rfl, ntohs_load16 (v := r.scoreDiff) rfl,
    ntohs_load16 (v := r.ourHeroBlood) rfl, ntohs_load16 (v := r.ourInfantryBlood) rfl,
    ntohs_load16 (v := r.ourSentryBlood) rfl, ntohs_load16 (v := r.enemyHeroBlood) rfl,
    ntohs_load16 (v := r.enemyInfantryBlood) rfl, ntohs_load16 (v := r.enemySentryBlood) rfl]
  simp [load8]

/-- The structure laid over the payload of a 7v7 record gives its message. -/
theorem RecordSeven.toMsg_ofPacket (r : RecordSeven) (rest : List Byte) :
    (DownlinkDataSeven.ofPacket (r.payload ++ rest)).toMsg = r.msg := by
  simp only [RecordSeven.payload, bytes16, bytes32, List.cons_append, List.nil_append,
    DownlinkDataSeven.toMsg, DownlinkDataSeven.ofPacket, RecordSeven.msg]
  rw [ntohs_load16 (v := r.hp) rfl, ntohl_load32 (v := r.matchTime) rfl,
    ntohs_load16 (v := r.enemyBaseHp) rfl, ntohs_load16 (v := r.ourBaseHp) rfl]
  simp [load8]

/-- Any 22 bytes are the payload of a 3v3 record. -/
theorem RecordThree.exists_payload (p : List Byte) (hp : p.length = 22) :
    ∃ r : RecordThree, r.payload = p := by
  match p, hp with
  | [a₀, a₁, a₂, a₃, b₀, b₁, c₀, c₁, d, e₀, e₁, f, g₀, g₁, h₀, h₁, i, j₀, j₁, k, l₀, l₁], _ =>
    refine ⟨⟨(a₀ ++ a₁) ++ (a₂ ++ a₃), b₀ ++ b₁, c₀ ++ c₁, d, e₀ ++ e₁, f, g₀ ++ g₁, h₀ ++ h₁, i,
      j₀ ++ j₁, k, l₀ ++ l₁⟩, ?_⟩
    simp only [RecordThree.payload, bytes16_append, bytes32_append]
    rfl

/-- Any 14 bytes are the payload of a 7v7 record. -/
theorem RecordSeven.exists_payload (p : List Byte) (hp : p.length = 14) :
    ∃ r : RecordSeven, r.payload = p := by
  match p, hp with
  | [a₀, a₁, b, c, d₀, d₁, d₂, d₃, e₀, e₁, f₀, f₁, g, h], _ =>
    refine ⟨⟨a₀ ++ a₁, b, c, (d₀ ++ d₁) ++ (d₂ ++ d₃), e₀ ++ e₁, f₀ ++ f₁, g, h⟩, ?_⟩
    simp only [RecordSeven.payload, bytes16_append, bytes32_append]
    rfl

/-! ## Checksums -/

/-- The XOR of some bytes. -/
def xorAll (bytes : List Byte) : Byte := bytes.foldl (· ^^^ ·) 0

/-- `calc_checksum`: the XOR of all the bytes of a packet but the last two. -/
def calcChecksum (packet : List Byte) : Byte := xorAll (packet.take (packet.length - 2))

theorem foldl_xor (bytes : List Byte) (sum : Byte) :
    bytes.foldl (· ^^^ ·) sum = sum ^^^ xorAll bytes := by
  induction bytes generalizing sum with
  | nil => simp [xorAll]
  | cons b bytes ih =>
    rw [xorAll, List.foldl_cons, List.foldl_cons, ih, ih ((0 : Byte) ^^^ b), BitVec.xor_assoc]
    simp

@[simp] theorem xorAll_nil : xorAll [] = 0 := rfl

@[simp] theorem xorAll_cons (b : Byte) (bytes : List Byte) :
    xorAll (b :: bytes) = b ^^^ xorAll bytes := by
  rw [xorAll, List.foldl_cons, foldl_xor]
  simp

@[simp] theorem xorAll_append (bytes bytes' : List Byte) :
    xorAll (bytes ++ bytes') = xorAll bytes ^^^ xorAll bytes' := by
  induction bytes with
  | nil => simp
  | cons b bytes ih => rw [List.cons_append, xorAll_cons, ih, xorAll_cons, BitVec.xor_assoc]

/-- Replacing one byte by another changes the XOR. -/
theorem xorAll_set_ne {bytes : List Byte} {i : ℕ} (hi : i < bytes.length) {v : Byte}
    (hv : bytes[i] ≠ v) : xorAll (bytes.set i v) ≠ xorAll bytes := by
  induction bytes generalizing i with
  | nil => simp at hi
  | cons b bytes ih =>
    cases i with
    | zero => simpa using fun h => hv h.symm
    | succ i => simpa using ih (by simpa using hi) hv

end Sentry.Talker
