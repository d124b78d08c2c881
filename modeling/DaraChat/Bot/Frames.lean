import DaraChat.Bot.BotWebsocket
import DaraChat.Lib.Framing
import Mathlib.Data.List.GetD

set_option autoImplicit false

/-! # WebSocket frames

The frames the transport is for: unfragmented text, binary, ping and pong frames, with their length
in any of the three forms that hold it, masked or not (`WSFrame`). The length that `handleOneWSMsg`
computes from a header makes them a framing of the stream (`wsFraming`), and the transport treats a
frame that is complete as one message (`handleOneWSMsg_encode`), one that is not as nothing yet
(`handleOneWSMsg_of_incomplete`).
-/

namespace DaraChat.Websocket

/-! ## Numbers and masks -/

/-- A number in `k` bytes, the highest first. -/
def toBigEndian : Nat → Nat → Bytes
  | 0, _ => []
  | k + 1, n => toBigEndian k (n / 256) ++ [UInt8.ofNat n]

@[simp] theorem length_toBigEndian (k n : Nat) : (toBigEndian k n).length = k := by
  induction k generalizing n with
  | zero => rfl
  | succ k ih => simp [toBigEndian, ih]

/-- What is written is read back, as far as the bytes go. -/
theorem bigEndian_toBigEndian (k n : Nat) : bigEndian (toBigEndian k n) = n % 256 ^ k := by
  induction k generalizing n with
  | zero => simp [toBigEndian, bigEndian, Nat.mod_one]
  | succ k ih =>
      have hbyte : (UInt8.ofNat n).toNat = n % 256 := UInt8.toNat_ofNat'
      rw [toBigEndian, bigEndian, List.foldl_append, ← bigEndian, ih]
      simp only [List.foldl_cons, List.foldl_nil, hbyte]
      rw [Nat.pow_succ, Nat.mul_comm (256 ^ k) 256, Nat.mod_mul]
      omega

@[simp] theorem length_maskWith (key payload : Bytes) :
    (maskWith key payload).length = payload.length := by
  simp [maskWith]

/-- Masking twice gives the payload back. -/
theorem maskWith_maskWith (key payload : Bytes) : maskWith key (maskWith key payload) = payload := by
  apply List.ext_getElem
  · simp
  · intro i h h'
    simp only [maskWith, List.getElem_mapIdx, UInt8.xor_assoc, UInt8.xor_self, UInt8.xor_zero]

/-! ## Slices -/

theorem slice_append_left {a : Bytes} (b : Bytes) {lo hi : Nat} (h : hi ≤ a.length) :
    slice (a ++ b) lo hi = slice a lo hi := by
  unfold slice
  by_cases hlo : lo ≤ a.length
  · rw [List.drop_append_of_le_length hlo, List.take_append_of_le_length]
    rw [List.length_drop]
    exact Nat.sub_le_sub_right h lo
  · rw [Nat.sub_eq_zero_of_le (by omega), List.take_zero, List.take_zero]

theorem slice_append_right {a b rest : Bytes} :
    slice (a ++ (b ++ rest)) a.length (a.length + b.length) = b := by
  simp [slice]

theorem writeAt_append {a b rest bytes : Bytes} (h : bytes.length = b.length) :
    writeAt (a ++ (b ++ rest)) a.length bytes = a ++ (bytes ++ rest) := by
  simp [writeAt, h, ← List.drop_drop]

/-! ## Frames -/

inductive FrameOpcode
  | text | binary | ping | pong
  deriving DecidableEq

def FrameOpcode.byte : FrameOpcode → UInt8
  | .text => opcodeText
  | .binary => opcodeBinary
  | .ping => opcodePing
  | .pong => opcodePong

/-- The three forms of a payload length. -/
inductive LengthForm
  | short | ext16 | ext64
  deriving DecidableEq

/-- The lengths below this one can be written in the form. -/
def LengthForm.limit : LengthForm → Nat
  | .short => 126
  | .ext16 => 2 ^ 16
  | .ext64 => 2 ^ 63

/-- The seven bits in the second byte. -/
def LengthForm.code : LengthForm → Nat → Nat
  | .short, n => n
  | .ext16, _ => 126
  | .ext64, _ => 127

/-- The bytes after it. -/
def LengthForm.extended : LengthForm → Nat → Bytes
  | .short, _ => []
  | .ext16, n => toBigEndian 2 n
  | .ext64, n => toBigEndian 8 n

structure MaskKey where
  b0 : UInt8
  b1 : UInt8
  b2 : UInt8
  b3 : UInt8
  deriving DecidableEq

def MaskKey.bytes (key : MaskKey) : Bytes := [key.b0, key.b1, key.b2, key.b3]

/-- An unfragmented data, ping or pong frame. -/
structure WSFrame where
  opcode : FrameOpcode
  form : LengthForm
  key : Option MaskKey
  payload : Bytes
  fits : payload.length < form.limit

namespace WSFrame

variable (f : WSFrame)

/-- The mask bit and the key. -/
def maskBit : Nat := if f.key.isSome then 128 else 0

def keyBytes : Bytes := (f.key.map MaskKey.bytes).getD []

def header : Bytes :=
  [128 ||| f.opcode.byte, UInt8.ofNat (f.maskBit + f.form.code f.payload.length)] ++
    f.form.extended f.payload.length ++ f.keyBytes

/-- The payload as it is sent. -/
def body : Bytes := if f.key.isSome then maskWith f.keyBytes f.payload else f.payload

def encode : Bytes := f.header ++ f.body

/-- What `onWSMsg` is to be given. -/
def message : UInt8 × Bytes := (f.opcode.byte, f.payload)

@[simp] theorem length_body : f.body.length = f.payload.length := by
  unfold body
  split
  · simp
  · rfl

theorem code_lt : f.form.code f.payload.length < 128 := by
  have hfits := f.fits
  cases hform : f.form with
  | short =>
      rw [hform] at hfits
      simp only [LengthForm.limit] at hfits
      simp only [LengthForm.code]
      omega
  | ext16 => exact Nat.lt_of_sub_eq_succ rfl
  | ext64 => exact Nat.lt_of_sub_eq_succ rfl

section Read

variable (rest : Bytes)

/-- The second byte of the header. -/
theorem toNat_second : ((f.header ++ rest).getD 1 0).toNat =
    f.maskBit + f.form.code f.payload.length := by
  have hcode := f.code_lt
  have hbit : f.maskBit ≤ 128 := by
    unfold maskBit
    split
    · exact Nat.le_refl _
    · exact Nat.zero_le _
  show (UInt8.ofNat _).toNat = _
  rw [UInt8.toNat_ofNat', Nat.mod_eq_of_lt (by omega)]

theorem opcodeOf_header : opcodeOf (f.header ++ rest) = f.opcode.byte := by
  show (128 ||| f.opcode.byte) &&& 15 = _
  cases f.opcode <;> decide

theorem finOf_header : finOf (f.header ++ rest) = true := by
  show decide (128 ≤ (128 ||| f.opcode.byte).toNat) = true
  cases f.opcode <;> decide

theorem maskOf_header : maskOf (f.header ++ rest) = f.key.isSome := by
  have hcode := f.code_lt
  rw [maskOf, toNat_second, maskBit]
  cases f.key with
  | none => simpa using hcode
  | some key => simp

theorem lengthField_header :
    lengthField (f.header ++ rest) = f.form.code f.payload.length := by
  have hcode := f.code_lt
  rw [lengthField, toNat_second, maskBit]
  split
  · omega
  · omega

theorem extendedOf_header :
    extendedOf (f.header ++ rest) = (f.form.extended f.payload.length).length := by
  have hfits := f.fits
  rw [extendedOf, lengthField_header]
  cases hform : f.form with
  | short =>
      rw [hform] at hfits
      simp only [LengthForm.limit] at hfits
      have hshort : f.payload.length ≠ 126 ∧ f.payload.length ≠ 127 := by omega
      simp [LengthForm.code, LengthForm.extended, hshort]
  | ext16 => simp [LengthForm.code, LengthForm.extended]
  | ext64 => simp [LengthForm.code, LengthForm.extended]

theorem headerOf_header : headerOf (f.header ++ rest) = f.header.length := by
  rw [headerOf, extendedOf_header, maskOf_header, header, keyBytes]
  cases f.key with
  | none =>
      simp only [List.length_append, List.length_cons, List.length_nil, Option.map_none,
        Option.getD_none, Option.isSome_none, Bool.false_eq_true, if_false]
  | some key =>
      simp only [List.length_append, List.length_cons, List.length_nil, Option.map_some,
        Option.getD_some, Option.isSome_some, if_true, MaskKey.bytes]

theorem payloadLength_header : payloadLength (f.header ++ rest) = f.payload.length := by
  have hfits := f.fits
  rw [payloadLength, lengthField_header]
  cases hform : f.form with
  | short =>
      rw [hform] at hfits
      simp only [LengthForm.limit] at hfits
      have hshort : f.payload.length ≠ 126 ∧ f.payload.length ≠ 127 := by omega
      simp [LengthForm.code, hshort]
  | ext16 =>
      rw [hform] at hfits
      have hslice : slice (f.header ++ rest) 2 4 = toBigEndian 2 f.payload.length := by
        simp [slice, header, hform, LengthForm.extended]
      have hsmall : f.payload.length < 256 ^ 2 := hfits
      simp only [LengthForm.code, if_true, hslice, bigEndian_toBigEndian, Nat.mod_eq_of_lt hsmall]
  | ext64 =>
      rw [hform] at hfits
      have hslice : slice (f.header ++ rest) 2 10 = toBigEndian 8 f.payload.length := by
        simp [slice, header, hform, LengthForm.extended]
      have hsmall : f.payload.length < 256 ^ 8 := hfits.trans (by decide)
      have hread : bigEndian (slice (f.header ++ rest) 2 10) % 2 ^ 63 = f.payload.length := by
        rw [hslice, bigEndian_toBigEndian, Nat.mod_eq_of_lt hsmall]
        exact Nat.mod_eq_of_lt hfits
      simpa [LengthForm.code] using hread

theorem maskKeyOf_header (h : f.key.isSome = true) : maskKeyOf (f.header ++ rest) = f.keyBytes := by
  rw [maskKeyOf, extendedOf_header, header, keyBytes]
  obtain ⟨key, hkey⟩ := Option.isSome_iff_exists.mp h
  rw [hkey]
  simp [slice, MaskKey.bytes, ← List.drop_drop]

end Read

theorem two_le_header : 2 ≤ f.header.length := by
  simp [header]

theorem encode_append (rest : Bytes) : f.encode ++ rest = f.header ++ (f.body ++ rest) :=
  List.append_assoc _ _ _

end WSFrame

/-! ## The framing -/

/-- The length of the first frame, once its header is there. -/
def frameLength (data : Bytes) : Option Nat :=
  if headerOf data ≤ data.length then some (headerOf data + payloadLength data) else none

theorem frameLength_eq_some {data : Bytes} {n : Nat} : frameLength data = some n ↔
    headerOf data ≤ data.length ∧ headerOf data + payloadLength data = n := by
  unfold frameLength
  split
  · simp [*]
  · simp [*]

theorem two_le_headerOf (data : Bytes) : 2 ≤ headerOf data := by
  unfold headerOf
  omega

section Append

variable {a : Bytes} (b : Bytes)

theorem lengthField_append (h : 2 ≤ a.length) : lengthField (a ++ b) = lengthField a := by
  rw [lengthField, List.getD_append _ _ _ _ (by omega), ← lengthField]

theorem extendedOf_append (h : 2 ≤ a.length) : extendedOf (a ++ b) = extendedOf a := by
  rw [extendedOf, lengthField_append b h, ← extendedOf]

theorem headerOf_append (h : 2 ≤ a.length) : headerOf (a ++ b) = headerOf a := by
  rw [headerOf, extendedOf_append b h, maskOf, List.getD_append _ _ _ _ (by omega), ← maskOf,
    ← headerOf]

theorem payloadLength_append (h : headerOf a ≤ a.length) :
    payloadLength (a ++ b) = payloadLength a := by
  have htwo : 2 ≤ a.length := (two_le_headerOf a).trans h
  have hextended : 2 + extendedOf a ≤ a.length := by
    unfold headerOf at h
    omega
  unfold extendedOf at hextended
  unfold payloadLength
  rw [lengthField_append b htwo]
  split
  · rename_i hcode
    rw [if_pos hcode] at hextended
    rw [slice_append_left b hextended]
  · rename_i hcode
    rw [if_neg hcode] at hextended
    split
    · rename_i hcode'
      rw [if_pos hcode'] at hextended
      rw [slice_append_left b hextended]
    · rfl

end Append

/-- The frames in the bytes that a bot receives. -/
def wsFraming : Framing UInt8 where
  need := frameLength
  need_append := by
    intro a n b h
    obtain ⟨hle, hlength⟩ := frameLength_eq_some.mp h
    have htwo : 2 ≤ a.length := (two_le_headerOf a).trans hle
    refine frameLength_eq_some.mpr ⟨?_, ?_⟩
    · rw [headerOf_append b htwo, List.length_append]
      exact hle.trans (Nat.le_add_right _ _)
    · rw [headerOf_append b htwo, payloadLength_append b hle, hlength]
  need_pos := by
    intro a n h
    obtain ⟨-, hlength⟩ := frameLength_eq_some.mp h
    have htwo := two_le_headerOf a
    omega

theorem split_nil : wsFraming.split [] = none := rfl

theorem WSFrame.isFrame_encode (f : WSFrame) : wsFraming.IsFrame f.encode := by
  refine frameLength_eq_some.mpr ⟨?_, ?_⟩
  · rw [encode, headerOf_header, List.length_append]
    exact Nat.le_add_right _ _
  · rw [encode, headerOf_header, payloadLength_header, List.length_append, length_body]

theorem isFrame_of_mem_map {frames : List WSFrame} :
    ∀ g ∈ frames.map WSFrame.encode, wsFraming.IsFrame g := by
  intro g hg
  obtain ⟨f, -, rfl⟩ := List.mem_map.mp hg
  exact f.isFrame_encode

/-- What has arrived of the bytes of some frames: the first of them, and the beginning of the
rest. -/
theorem arrived {todo : List WSFrame} {data future : Bytes}
    (h : data ++ future = (todo.map WSFrame.encode).flatten) :
    ∃ now later, todo = now ++ later ∧
      data = (now.map WSFrame.encode).flatten ++ (wsFraming.drain data).2 ∧
      (wsFraming.drain data).2 ++ future = (later.map WSFrame.encode).flatten := by
  obtain ⟨frames, hcut, hleft⟩ := Framing.drain_prefix isFrame_of_mem_map split_nil h
  obtain ⟨now, later, rfl, hnow, rfl⟩ := List.map_eq_append_iff.mp hcut
  have hframes := wsFraming.flatten_drain data
  rw [← hnow] at hframes
  exact ⟨now, later, rfl, hframes.symm, hleft⟩

/-! ## One frame in `handleOneWSMsg` -/

section Handle

variable (recvBufSize : Nat) (c : WSConnection)

/-- A complete frame is dispatched with its payload. -/
theorem handleOneWSMsg_encode (f : WSFrame) (rest : Bytes) :
    c.handleOneWSMsg recvBufSize (f.encode ++ rest) =
      (c.onWSMsg f.opcode.byte f.payload, f.header ++ (f.payload ++ rest), rest.length) := by
  have hlength : (f.header ++ (f.body ++ rest)).length =
      f.header.length + (f.payload.length + rest.length) := by simp
  have hpayload : (if maskOf (f.header ++ (f.body ++ rest)) then
      maskWith (maskKeyOf (f.header ++ (f.body ++ rest))) f.body else f.body) = f.payload := by
    rw [f.maskOf_header]
    split
    · rename_i hkey
      rw [f.maskKeyOf_header _ hkey, WSFrame.body, if_pos hkey, maskWith_maskWith]
    · rename_i hkey
      rw [WSFrame.body, if_neg hkey]
  have hbody : ((f.header ++ (f.body ++ rest)).drop f.header.length).take f.payload.length =
      f.body := by
    rw [List.drop_left, ← f.length_body, List.take_left]
  have hopcode : f.opcode.byte ≠ opcodeCont ∧ f.opcode.byte ≠ opcodeClose := by
    cases f.opcode <;> decide
  have htwo := f.two_le_header
  rw [f.encode_append, WSConnection.handleOneWSMsg]
  simp only [f.headerOf_header, f.payloadLength_header, f.opcodeOf_header, f.finOf_header, hlength,
    hbody, hpayload]
  rw [if_neg (by omega), if_neg (by omega), if_neg (by omega), if_pos ⟨hopcode.1, trivial⟩,
    if_neg hopcode.2, writeAt_append f.length_body.symm]
  have hleft : f.header.length + (f.payload.length + rest.length) - f.header.length -
      f.payload.length = rest.length := by omega
  rw [hleft]

/-- Of an incomplete frame that will fit the buffer nothing is touched. -/
theorem handleOneWSMsg_of_incomplete {data : Bytes} (hsplit : wsFraming.split data = none)
    (hfits : ∀ n, wsFraming.need data = some n → n ≤ recvBufSize) :
    c.handleOneWSMsg recvBufSize data = (c, data, data.length) := by
  unfold WSConnection.handleOneWSMsg
  simp only
  split
  · rfl
  · split
    · rfl
    · rename_i hheader
      have hneed : wsFraming.need data = some (headerOf data + payloadLength data) :=
        if_pos (Nat.le_of_not_lt hheader)
      have hle := hfits _ hneed
      have hmore : data.length < headerOf data + payloadLength data := by
        by_contra hcomplete
        unfold Framing.split at hsplit
        rw [hneed] at hsplit
        simp [Nat.le_of_not_lt hcomplete] at hsplit
      rw [if_pos (by omega), if_neg (by omega)]

end Handle

end DaraChat.Websocket
