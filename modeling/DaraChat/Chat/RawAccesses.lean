import DaraChat.Chat.RawMessage
import DaraChat.Lib.Reads

set_option autoImplicit false

/-! # The reads of the binary decoder

`FDaraRawChatMsg::Deserialize` once more, with every range of bytes it touches: the `memcmp` of the
header, the `memcpy` of each word and the bytes a string is assigned from. The check of a string
is on its length in `wchar_t`s and its copy in bytes, and `&data[offset]` is evaluated for an
empty string too; so the only element outside the input is the one after the last byte, for an
empty string that ends there (`readsWithin_iff`).
-/

namespace DaraChat

open Reads

variable (data : List UInt8)

/-- The header test. -/
def readHeaderLogged : Reader Unit :=
  if data.length < 4 then .fail
  else do
    let header ← Reader.read 0 4 (data.take 4)
    if header ≠ [0x44, 0x41, 0x52, 0x41] then .fail else pure ()

/-- `readFloat`. -/
def readFloatLogged (offset : Nat) : Reader (UInt32 × Nat) :=
  if offset + 4 > data.length then .fail
  else .read offset 4 (wordAt data offset, offset + 4)

/-- `readString`. -/
def readStringLogged (offset : Nat) : Reader (Str × Nat) :=
  if offset + 4 > data.length then .fail
  else do
    let strLen ← Reader.read offset 4 (wordAt data offset)
    let offset := offset + 4
    if strLen ≥ 0x80000000 ∨ offset + strLen.toNat * sizeofWchar > data.length then .fail
    else
      .read offset strLen.toNat
        (((data.drop offset).take strLen.toNat).map fun b => Char.ofNat b.toNat,
          offset + strLen.toNat)

namespace FDaraRawChatMsg

/-- `FDaraRawChatMsg::Deserialize` with what it reads. -/
def deserializeLogged : Reader FDaraRawChatMsg := do
  readHeaderLogged data
  let (x, offset) ← readFloatLogged data 4
  let (y, offset) ← readFloatLogged data offset
  let (z, offset) ← readFloatLogged data offset
  let (health, offset) ← readFloatLogged data offset
  let (maxHealth, offset) ← readFloatLogged data offset
  let (mana, offset) ← readFloatLogged data offset
  let (maxMana, offset) ← readFloatLogged data offset
  let (energy, offset) ← readFloatLogged data offset
  let (maxEnergy, offset) ← readFloatLogged data offset
  let (zone, offset) ← readStringLogged data offset
  let (charName, _) ← readStringLogged data offset
  return { location := ⟨x, y, z⟩, health := health, maxHealth := maxHealth, mana := mana,
           maxMana := maxMana, energy := energy, maxEnergy := maxEnergy, zone := zone,
           charName := charName }

end FDaraRawChatMsg

/-! ## The values -/

theorem value_readFloatLogged (offset : Nat) :
    (readFloatLogged data offset).value = readFloat data offset := by
  simp [readFloatLogged, readFloat]

theorem value_readStringLogged (offset : Nat) :
    (readStringLogged data offset).value = readString data offset := by
  simp [readStringLogged, readString]

theorem value_readHeaderLogged : (readHeaderLogged data).value =
    if data.length < 4 ∨ data.take 4 ≠ [0x44, 0x41, 0x52, 0x41] then none else some () := by
  rw [readHeaderLogged, Reader.value_ite]
  by_cases hshort : data.length < 4
  · rw [if_pos hshort, if_pos (.inl hshort), Reader.value_fail]
  · rw [if_neg hshort, Reader.value_bind, Reader.value_read, Option.bind_eq_bind, Option.bind_some,
      Reader.value_ite]
    simp only [hshort, false_or]
    rfl

/-- **The decoder that logs its reads decodes the same.** -/
theorem FDaraRawChatMsg.value_deserializeLogged :
    (deserializeLogged data).value = deserialize data := by
  unfold deserializeLogged deserialize
  rw [Reader.value_bind, value_readHeaderLogged]
  split
  · rfl
  · simp only [Reader.value_bind, value_readFloatLogged, value_readStringLogged, Reader.value_pure]
    rfl

/-! ## The ranges -/

theorem safe_readHeaderLogged : (readHeaderLogged data).Safe data.length := by
  unfold readHeaderLogged
  rw [Reader.safe_ite, Reader.safe_bind, Reader.safe_read]
  refine ⟨fun _ => Reader.safe_fail _, fun h => ⟨by omega, fun header _ => ?_⟩⟩
  rw [Reader.safe_ite]
  exact ⟨fun _ => Reader.safe_fail _, fun _ => Reader.safe_pure _ _⟩

/-- A float is read within the input. -/
theorem safe_readFloatLogged (offset : Nat) : (readFloatLogged data offset).Safe data.length := by
  unfold readFloatLogged
  rw [Reader.safe_ite, Reader.safe_read]
  exact ⟨fun _ => Reader.safe_fail _, fun h => by omega⟩

/-- A string is read within the input unless it is empty and nothing follows its length. -/
theorem safe_readStringLogged (offset : Nat) :
    (readStringLogged data offset).Safe data.length ↔
      ¬ (data.length = offset + 4 ∧ wordAt data offset = 0) := by
  have hzero : wordAt data offset = 0 ↔ (wordAt data offset).toNat = 0 := UInt32.toNat_inj.symm
  have hfits : ¬ wordAt data offset ≥ 0x80000000 ↔ (wordAt data offset).toNat < 2147483648 := by
    rw [ge_iff_le, UInt32.not_le, UInt32.lt_iff_toNat_lt]
    rfl
  unfold readStringLogged
  rw [Reader.safe_ite, Reader.safe_bind, hzero]
  simp only [Reader.safe_fail, Reader.safe_read, Reader.value_read, Option.some.injEq, forall_eq',
    implies_true, true_and]
  rw [Reader.safe_ite, Reader.safe_read, not_or, hfits, sizeofWchar]
  -- the bytes that are copied are fewer than the check allows for
  constructor
  · rintro h ⟨hlength, hempty⟩
    obtain ⟨-, -, hcopy⟩ := h (by omega)
    obtain ⟨hstart, -⟩ := hcopy ⟨by omega, by omega⟩
    omega
  · intro h hlength
    refine ⟨by omega, fun _ => Reader.safe_fail _, fun hcheck => ⟨?_, by omega⟩⟩
    by_contra hend
    exact h ⟨by omega, by omega⟩

/-- What a string that is read leaves of the input. -/
theorem readString_eq_some {offset : Nat} {s : Str} {next : Nat}
    (h : readString data offset = some (s, next)) :
    offset + 4 + 4 * (wordAt data offset).toNat ≤ data.length ∧
      next = offset + 4 + (wordAt data offset).toNat := by
  unfold readString at h
  dsimp only at h
  split at h
  · cases h
  · split at h
    · cases h
    · rename_i hcheck
      rw [not_or, sizeofWchar] at hcheck
      obtain ⟨-, rfl⟩ := Prod.mk.inj (Option.some.inj h)
      exact ⟨by omega, rfl⟩

/-- A string that takes `n` bytes is read when there is room for `n` `wchar_t`s. -/
theorem readString_of_fits {offset n : Nat} (hn : (wordAt data offset).toNat = n)
    (hsmall : n < 2147483648) (hfits : offset + 4 + 4 * n ≤ data.length) :
    ∃ s, readString data offset = some (s, offset + 4 + n) := by
  subst hn
  have hpos : ¬ wordAt data offset ≥ 0x80000000 := by
    rw [ge_iff_le, UInt32.not_le, UInt32.lt_iff_toNat_lt]
    exact hsmall
  unfold readString
  rw [if_neg (by omega)]
  dsimp only
  rw [if_neg (not_or.mpr ⟨hpos, by rw [sizeofWchar]; omega⟩)]
  exact ⟨_, rfl⟩

variable {data}

/-- The reader after a float. -/
theorem safe_readFloat_bind {α : Type} {f : UInt32 × Nat → Reader α} {offset : Nat} :
    (readFloatLogged data offset >>= f).Safe data.length ↔
      (offset + 4 ≤ data.length → (f (wordAt data offset, offset + 4)).Safe data.length) := by
  rw [Reader.safe_bind, value_readFloatLogged, readFloat]
  by_cases h : offset + 4 > data.length
  · rw [if_pos h]
    exact ⟨fun _ hle => absurd h (Nat.not_lt.mpr hle),
      fun _ => ⟨safe_readFloatLogged data offset, fun a ha => by cases ha⟩⟩
  · rw [if_neg h]
    constructor
    · exact fun hsafe _ => hsafe.2 _ rfl
    · intro hsafe
      refine ⟨safe_readFloatLogged data offset, fun a ha => ?_⟩
      obtain rfl := Option.some.inj ha
      exact hsafe (Nat.not_lt.mp h)

/-- The header is read when it is there. -/
theorem value_readHeaderLogged_iff :
    (readHeaderLogged data).value = some () ↔ data.take 4 = [0x44, 0x41, 0x52, 0x41] := by
  rw [value_readHeaderLogged]
  constructor
  · intro h
    split at h
    · cases h
    · rename_i hheader
      exact not_not.mp (not_or.mp hheader).2
  · intro h
    have hlength := congrArg List.length h
    rw [List.length_take] at hlength
    have hlong : ¬ data.length < 4 := by
      intro hshort
      rw [Nat.min_eq_right hshort.le] at hlength
      exact absurd hlength hshort.ne
    exact if_neg (not_or.mpr ⟨hlong, not_not.mpr h⟩)

namespace FDaraRawChatMsg

/-- The message ends with an empty string, and nothing follows its length: the zone, or the name
after a zone of at most one byte. -/
def EmptyStringAtEnd (data : List UInt8) : Prop :=
  data.take 4 = [0x44, 0x41, 0x52, 0x41] ∧
    (data.length = 44 ∧ wordAt data 40 = 0 ∨
      data.length = 48 ∧ wordAt data 40 = 0 ∧ wordAt data 44 = 0 ∨
      data.length = 49 ∧ wordAt data 40 = 1 ∧ wordAt data 45 = 0)

/-- What is read before the two strings lies in the input. -/
theorem safe_deserializeLogged :
    (deserializeLogged data).Safe data.length ↔
      (data.take 4 = [0x44, 0x41, 0x52, 0x41] → 40 ≤ data.length →
        (readStringLogged data 40).Safe data.length ∧
          ∀ zone next, readString data 40 = some (zone, next) →
            (readStringLogged data next).Safe data.length) := by
  unfold deserializeLogged
  rw [Reader.safe_bind]
  simp only [safe_readFloat_bind]
  simp only [Reader.safe_bind, value_readStringLogged, Reader.safe_pure, implies_true, and_true,
    Prod.forall, safe_readHeaderLogged, true_and]
  constructor
  · intro h hheader hlength
    exact h () (value_readHeaderLogged_iff.mpr hheader) (by omega) (by omega) (by omega) (by omega)
      (by omega) (by omega) (by omega) (by omega) hlength
  · intro h _ hheader _ _ _ _ _ _ _ _ hlength
    exact h (value_readHeaderLogged_iff.mp hheader) hlength

/-- **The decoder reads within its input unless the message ends with an empty string.** -/
theorem readsWithin_iff (data : List UInt8) :
    (∀ access ∈ (deserializeLogged data).accesses, access.Within data.length) ↔
      ¬ EmptyStringAtEnd data := by
  refine safe_deserializeLogged.trans ?_
  simp only [safe_readStringLogged]
  constructor
  · rintro h ⟨hheader, ⟨hlength, hzone⟩ | ⟨hlength, hzone, hname⟩ | ⟨hlength, hzone, hname⟩⟩
    · exact (h hheader (by omega)).1 ⟨hlength, hzone⟩
    · have hcount : (wordAt data 40).toNat = 0 := by rw [hzone]; rfl
      obtain ⟨zone, hread⟩ := readString_of_fits data hcount (by omega) (by omega)
      exact (h hheader (by omega)).2 _ _ hread ⟨hlength, hname⟩
    · -- the check wants four bytes for the one of the zone, and finds the length of the name
      have hcount : (wordAt data 40).toNat = 1 := by rw [hzone]; rfl
      obtain ⟨zone, hread⟩ := readString_of_fits data hcount (by omega) (by omega)
      exact (h hheader (by omega)).2 _ _ hread ⟨hlength, hname⟩
  · intro h hheader hlength
    refine ⟨fun hempty => h ⟨hheader, .inl hempty⟩, fun zone next hread hempty => h ⟨hheader, ?_⟩⟩
    obtain ⟨hfits, rfl⟩ := readString_eq_some data hread
    -- a zone of `n` bytes passes the check only if `4 * n` bytes follow it, and four do
    have hn : (wordAt data 40).toNat = 0 ∨ (wordAt data 40).toNat = 1 := by omega
    rcases hn with hn | hn
    · rw [hn] at hempty
      exact .inr (.inl ⟨hempty.1, UInt32.toNat_inj.mp hn, hempty.2⟩)
    · rw [hn] at hempty
      exact .inr (.inr ⟨hempty.1, UInt32.toNat_inj.mp hn, hempty.2⟩)

/-- A message that ends after an empty zone: byte 44 of 44 is read. -/
theorem not_readsWithin_emptyZone :
    ¬ ∀ access ∈ (deserializeLogged
        ([0x44, 0x41, 0x52, 0x41] ++ List.replicate 40 0)).accesses,
      access.Within ([0x44, 0x41, 0x52, 0x41] ++ List.replicate 40 0).length := by
  intro h
  have hread : Access.Within 44 ⟨44, 0⟩ := h ⟨44, 0⟩ (by decide +kernel)
  exact absurd hread.1 (by decide)

end FDaraRawChatMsg

end DaraChat
