import DaraChat.Basic.Str
import Mathlib.Data.Nat.Notation
import Mathlib.Tactic.IntervalCases

set_option autoImplicit false

/-! # The binary state message (`ChatLibrary.cpp`, `FDaraRawChatMsg`)

A float is its 32-bit pattern, in the little-endian order of the server's machine. The reader
is the chain of `readFloat` and `readString` calls of the source, each of which takes the
current offset and returns the next one, or fails. The writer stops after the floats, so the
reader never finds the two strings (`not_roundTrips`).
-/

namespace DaraChat

/-- `struct FVector`. -/
structure FVector where
  x : UInt32
  y : UInt32
  z : UInt32
  deriving DecidableEq, Repr

/-- `struct FDaraRawChatMsg`. -/
structure FDaraRawChatMsg where
  location : FVector
  health : UInt32
  maxHealth : UInt32
  mana : UInt32
  maxMana : UInt32
  energy : UInt32
  maxEnergy : UInt32
  zone : Str
  charName : Str
  deriving DecidableEq, Repr

/-- The 32-bit word at `offset`. -/
def wordAt (data : List UInt8) (offset : Nat) : UInt32 :=
  let byte (i : Nat) : UInt32 := (data.getD (offset + i) 0).toUInt32
  byte 0 ||| byte 1 <<< 8 ||| byte 2 <<< 16 ||| byte 3 <<< 24

/-- `readFloat`. -/
def readFloat (data : List UInt8) (offset : Nat) : Option (UInt32 × Nat) :=
  if offset + 4 > data.length then none else some (wordAt data offset, offset + 4)

/-- `sizeof(wchar_t)` on Linux. -/
def sizeofWchar : Nat := 4

/-- `readString`: the length is checked as if it counted `wchar_t`s, then read as bytes. -/
def readString (data : List UInt8) (offset : Nat) : Option (Str × Nat) :=
  if offset + 4 > data.length then none
  else
    let strLen := wordAt data offset
    let offset := offset + 4
    -- a length with the sign bit set is negative
    if strLen ≥ 0x80000000 ∨ offset + strLen.toNat * sizeofWchar > data.length then none
    else
      some (((data.drop offset).take strLen.toNat).map fun b => Char.ofNat b.toNat,
        offset + strLen.toNat)

/-- `FDaraRawChatMsg::Deserialize`; `none` is `false`. -/
def FDaraRawChatMsg.deserialize (data : List UInt8) : Option FDaraRawChatMsg := do
  if data.length < 4 ∨ data.take 4 ≠ [0x44, 0x41, 0x52, 0x41] then none
  let (x, offset) ← readFloat data 4
  let (y, offset) ← readFloat data offset
  let (z, offset) ← readFloat data offset
  let (health, offset) ← readFloat data offset
  let (maxHealth, offset) ← readFloat data offset
  let (mana, offset) ← readFloat data offset
  let (maxMana, offset) ← readFloat data offset
  let (energy, offset) ← readFloat data offset
  let (maxEnergy, offset) ← readFloat data offset
  let (zone, offset) ← readString data offset
  let (charName, _) ← readString data offset
  return { location := ⟨x, y, z⟩, health := health, maxHealth := maxHealth, mana := mana,
           maxMana := maxMana, energy := energy, maxEnergy := maxEnergy, zone := zone,
           charName := charName }

/-- `writeFloat`. -/
def writeFloat (value : UInt32) : List UInt8 :=
  [value.toUInt8, (value >>> 8).toUInt8, (value >>> 16).toUInt8, (value >>> 24).toUInt8]

/-- The bytes of the nine floats, in the order of the message. -/
def FDaraRawChatMsg.floatBytes (msg : FDaraRawChatMsg) : List UInt8 :=
  writeFloat msg.location.x ++ (writeFloat msg.location.y ++ (writeFloat msg.location.z ++
    (writeFloat msg.health ++ (writeFloat msg.maxHealth ++ (writeFloat msg.mana ++
    (writeFloat msg.maxMana ++ (writeFloat msg.energy ++ writeFloat msg.maxEnergy)))))))

/-- `FDaraRawChatMsg::Serialize`. The two calls of `writeFString`, for `Zone` and `CharName`, are
commented out in the source, so nothing uses that function. -/
def FDaraRawChatMsg.serialize (msg : FDaraRawChatMsg) : List UInt8 :=
  [0x44, 0x41, 0x52, 0x41] ++ msg.floatBytes

/-- `f <= 0` of a single-precision float: false of every NaN. -/
def floatLeZero (f : UInt32) : Bool :=
  let magnitude := f &&& 0x7FFFFFFF
  magnitude ≤ 0x7F800000 && (magnitude == 0 || f ≥ 0x80000000)

/-! ## Reading what was written -/

/-- The low byte of a word. -/
theorem getLsbD_umod_256 (v : BitVec 32) (i : Nat) :
    (v % 256#32).getLsbD i = (decide (i < 8) && v.getLsbD i) := by
  rw [BitVec.getLsbD, BitVec.toNat_umod]
  exact Nat.testBit_mod_two_pow v.toNat 8 i

/-- A word is put together from its four bytes. -/
theorem word_of_bytes (v : BitVec 32) :
    v % 256#32 ||| (v >>> 8 % 256#32) <<< 8 ||| (v >>> 16 % 256#32) <<< 16
      ||| (v >>> 24 % 256#32) <<< 24 = v := by
  apply BitVec.eq_of_getLsbD_eq
  intro i hi
  simp only [BitVec.getLsbD_or, BitVec.getLsbD_shiftLeft, BitVec.getLsbD_ushiftRight,
    getLsbD_umod_256]
  interval_cases i <;> simp

theorem wordAt_writeFloat (value : UInt32) (pre post : List UInt8) :
    wordAt (pre ++ (writeFloat value ++ post)) pre.length = value := by
  have hbyte (i : Nat) : (pre ++ (writeFloat value ++ post)).getD (pre.length + i) 0
      = (writeFloat value ++ post).getD i 0 := by
    rw [List.getD_eq_getElem?_getD, List.getElem?_append_right (Nat.le_add_right _ _),
      Nat.add_sub_cancel_left, ← List.getD_eq_getElem?_getD]
  apply UInt32.toBitVec_inj.mp
  simp only [wordAt, hbyte]
  simpa [writeFloat] using word_of_bytes value.toBitVec

/-- A float is read back as it was written, and the reader stands right after it. -/
theorem readFloat_writeFloat {data pre post : List UInt8} {value : UInt32} {offset : Nat}
    (hdata : data = pre ++ (writeFloat value ++ post)) (hoffset : offset = pre.length) :
    readFloat data offset = some (value, offset + 4) := by
  subst hdata hoffset
  have hlen : ¬ pre.length + 4 > (pre ++ (writeFloat value ++ post)).length := by
    simp [writeFloat]
  rw [readFloat, if_neg hlen, wordAt_writeFloat]

theorem readString_of_short {data : List UInt8} {offset : Nat} (h : data.length < offset + 4) :
    readString data offset = none := by
  rw [readString, if_pos (by omega)]

namespace FDaraRawChatMsg

variable (msg : FDaraRawChatMsg)

/-- The writer's message: a header and nine words. -/
theorem length_serialize : msg.serialize.length = 40 := by
  simp [serialize, floatBytes, writeFloat]

/-- **The nine floats survive**: the reader has them when it comes to the strings, which it
looks for after the last byte the writer wrote. -/
theorem deserialize_serialize_append (rest : List UInt8) :
    deserialize (msg.serialize ++ rest) = do
      let (zone, offset) ← readString (msg.serialize ++ rest) 40
      let (charName, _) ← readString (msg.serialize ++ rest) offset
      return { msg with zone := zone, charName := charName } := by
  set data := msg.serialize ++ rest with hdata
  have hheader : ¬ (data.length < 4 ∨ data.take 4 ≠ [0x44, 0x41, 0x52, 0x41]) := by
    simp [hdata, serialize]
  -- every float stands after the bytes of the header and of the floats before it
  have hread {value : UInt32} {offset : Nat} (hoffset : offset ≤ data.length)
      (hbytes : data = data.take offset ++ (writeFloat value ++ data.drop (offset + 4))) :
      readFloat data offset = some (value, offset + 4) :=
    readFloat_writeFloat hbytes (List.length_take_of_le hoffset).symm
  have hlen : 40 ≤ data.length := by simp [hdata, length_serialize]
  have hx : readFloat data 4 = some (msg.location.x, 8) := hread (by omega) rfl
  have hy : readFloat data 8 = some (msg.location.y, 12) := hread (by omega) rfl
  have hz : readFloat data 12 = some (msg.location.z, 16) := hread (by omega) rfl
  have hhealth : readFloat data 16 = some (msg.health, 20) := hread (by omega) rfl
  have hmaxHealth : readFloat data 20 = some (msg.maxHealth, 24) := hread (by omega) rfl
  have hmana : readFloat data 24 = some (msg.mana, 28) := hread (by omega) rfl
  have hmaxMana : readFloat data 28 = some (msg.maxMana, 32) := hread (by omega) rfl
  have henergy : readFloat data 32 = some (msg.energy, 36) := hread (by omega) rfl
  have hmaxEnergy : readFloat data 36 = some (msg.maxEnergy, 40) := hread (by omega) rfl
  simp only [deserialize, if_neg hheader, hx, hy, hz, hhealth, hmaxHealth, hmana, hmaxMana, henergy,
    hmaxEnergy, Option.bind_eq_bind, Option.bind_some, Option.pure_def]

/-- What is accepted starts with the header. -/
theorem take_of_deserialize {data : List UInt8} (h : (deserialize data).isSome = true) :
    data.take 4 = [0x44, 0x41, 0x52, 0x41] := by
  by_contra hheader
  simp [deserialize, hheader] at h

/-! ## The round trip -/

/-- The bytes of a text in UTF-8. -/
def utf8 (text : String) : Str := text.toUTF8.data.toList.map fun byte => Char.ofNat byte.toNat

/-- What the writer takes: both strings are UTF-8, and their characters with the terminator are
counted by an `int32_t`. -/
structure Writable : Prop where
  zone : ∃ text : String, msg.zone = utf8 text ∧ text.length + 1 < 2 ^ 31
  charName : ∃ text : String, msg.charName = utf8 text ∧ text.length + 1 < 2 ^ 31

/-- What was written is accepted and read back as it was. -/
def RoundTrips : Prop := deserialize msg.serialize = some msg

/-- **No message is read back**: the reader rejects everything the writer writes, because it
requires the two strings. -/
theorem not_roundTrips : ¬ msg.RoundTrips := by
  have hshort : readString (msg.serialize ++ []) 40 = none :=
    readString_of_short (by simp [length_serialize])
  have hread := msg.deserialize_serialize_append []
  rw [hshort, List.append_nil] at hread
  intro hround
  rw [RoundTrips, hread] at hround
  cases hround

end FDaraRawChatMsg

/-- The state of a character in a zone. -/
def sampleRawMessage : FDaraRawChatMsg where
  location := ⟨0x3f800000, 0x40000000, 0x40400000⟩
  health := 0x42c80000
  maxHealth := 0x42c80000
  mana := 0x42480000
  maxMana := 0x42480000
  energy := 0x41200000
  maxEnergy := 0x41200000
  zone := "north".toList
  charName := "Trula".toList

/-- A message with two short names is one the writer takes, and it is not read back. -/
theorem sampleRawMessage_lost :
    sampleRawMessage.Writable ∧ ¬ sampleRawMessage.RoundTrips := by
  refine ⟨⟨⟨"north", by decide +kernel, by decide⟩, ⟨"Trula", by decide +kernel, by decide⟩⟩, ?_⟩
  unfold FDaraRawChatMsg.RoundTrips
  decide +kernel

end DaraChat
