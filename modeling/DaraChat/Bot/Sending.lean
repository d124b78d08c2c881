import DaraChat.Bot.Stream

set_option autoImplicit false

/-! # What a connection sends

`WSConnection::send` (`BotWebsocket.h`) writes one frame. A message can be sent in segments, with
`fin` at the last of them; control messages come between them. `assembly` says what a sequence of
calls means, messages that are whole. The bytes that the calls write are delivered as these messages
to the other end of the connection, if that end runs the code of the bot as well
(`sent_delivered_iff`).
-/

namespace DaraChat.Websocket

/-! ## The calls -/

/-- What `send` uses of a `WSConnection`: `send_fin`, and the bytes that `write` has been given. -/
structure Sending where
  sendFin : Bool := true
  written : Bytes := []

/-- The seven bits of the second byte, and `htobe16` or `htobe64` of a length that they do not
hold. -/
def lengthBytes (plLen : Nat) : UInt8 × Bytes :=
  if plLen < 126 then (UInt8.ofNat plLen, [])
  else if plLen < 65536 then (126, toBigEndian 2 plLen)
  else (127, toBigEndian 8 plLen)

/-- `h`, the header that `send` writes. The masking key is always 0. -/
def sendHeader (sendMask : Bool) (opcode : UInt8) (fin : Bool) (plLen : Nat) : Bytes :=
  [opcode &&& 15 ||| if fin then 128 else 0,
    (if sendMask then 128 else 0) ||| (lengthBytes plLen).1] ++ (lengthBytes plLen).2 ++
      if sendMask then [0, 0, 0, 0] else []

/-- `WSConnection::send`, with writes that succeed. -/
def Sending.send (sendMask : Bool) (s : Sending) (opcode : UInt8) (payload : Bytes)
    (fin : Bool) : Sending :=
  -- a control frame
  if opcode >>> 3 ≠ 0 then
    { s with written := s.written ++ sendHeader sendMask opcode true payload.length ++ payload }
  else
    let opcode := if s.sendFin then opcode else opcodeCont
    { sendFin := fin
      written := s.written ++ sendHeader sendMask opcode fin payload.length ++ payload }

/-- A call of `send` with an opcode for a message; `pl_len` is 32 bits wide. -/
structure SendCall where
  opcode : UInt8
  payload : Bytes
  fin : Bool
  opcode_lt : opcode.toNat < 16
  ne_cont : opcode ≠ opcodeCont
  ne_close : opcode ≠ opcodeClose
  length_lt : payload.length < 2 ^ 32

namespace SendCall

/-- Opcodes from 8 on are for control messages. -/
def isControl (call : SendCall) : Bool := 8 ≤ call.opcode.toNat

/-- The length of the frame. -/
def frameLength (sendMask : Bool) (call : SendCall) : Nat :=
  (sendHeader sendMask call.opcode call.fin call.payload.length).length + call.payload.length

end SendCall

/-- The calls of one connection. -/
def sender (sendMask : Bool) : Machine Sending SendCall :=
  ⟨{}, fun s call => s.send sendMask call.opcode call.payload call.fin⟩

/-! ## What the calls mean -/

/-- The message that is being sent in segments, and the messages that are complete. -/
structure Assembly where
  current : Option (UInt8 × Bytes) := none
  messages : List (UInt8 × Bytes) := []

namespace Assembly

/-- A control message is whole; so is a segment that is first and last. The opcode of a message is
that of its first segment. -/
def add (a : Assembly) (call : SendCall) : Assembly :=
  if call.isControl then { a with messages := a.messages ++ [(call.opcode, call.payload)] }
  else
    let opcode := (a.current.map Prod.fst).getD call.opcode
    let payload := (a.current.map Prod.snd).getD [] ++ call.payload
    if call.fin then { current := none, messages := a.messages ++ [(opcode, payload)] }
    else { a with current := some (opcode, payload) }

/-- What is collected of a message in segments fits the buffer for fragments. -/
def Collects (recvBufSize : Nat) (a : Assembly) (call : SendCall) : Prop :=
  call.isControl = false → (a.current = none ∧ call.fin = true) ∨
    ((a.current.map Prod.snd).getD [] ++ call.payload).length ≤ recvBufSize

instance (recvBufSize : Nat) (a : Assembly) (call : SendCall) :
    Decidable (Collects recvBufSize a call) :=
  inferInstanceAs (Decidable (call.isControl = false → (a.current = none ∧ call.fin = true) ∨
    ((a.current.map Prod.snd).getD [] ++ call.payload).length ≤ recvBufSize))

end Assembly

/-- The messages that some calls make up. -/
def assembly : Machine Assembly SendCall := ⟨{}, Assembly.add⟩

/-! ## The header that is written is a header that is read -/

/-- The length form that `send` chooses. -/
def lengthForm (plLen : Nat) : LengthForm :=
  if plLen < 126 then .short else if plLen < 65536 then .ext16 else .ext64

theorem lt_limit_lengthForm {plLen : Nat} (h : plLen < 2 ^ 32) :
    plLen < (lengthForm plLen).limit := by
  unfold lengthForm
  split
  · assumption
  · split
    · assumption
    · exact h.trans (by decide)

/-- The frame of a payload, with a first byte that is written over. -/
def plainFrame (sendMask : Bool) (payload : Bytes) (h : payload.length < 2 ^ 32) : WSFrame where
  opcode := .text
  form := lengthForm payload.length
  key := if sendMask then some ⟨0, 0, 0, 0⟩ else none
  payload := payload
  fits := lt_limit_lengthForm h

/-- The key 0 leaves a payload as it is. -/
theorem maskWith_zero (payload : Bytes) : maskWith [0, 0, 0, 0] payload = payload := by
  apply List.ext_getElem
  · simp
  · intro i h h'
    have hzero : ([0, 0, 0, 0] : Bytes).getD (i % 4) 0 = 0 := by
      have hlt : i % 4 < 4 := Nat.mod_lt i (by decide)
      match i % 4, hlt with
      | 0, _ => rfl
      | 1, _ => rfl
      | 2, _ => rfl
      | 3, _ => rfl
    simp only [maskWith, List.getElem_mapIdx, hzero, UInt8.xor_zero]

/-- The mask bit beside the seven bits of a length. -/
theorem maskBit_or (n : Nat) (h : n < 128) : 128 ||| UInt8.ofNat n = UInt8.ofNat (128 + n) := by
  have hall : ∀ n : Fin 128, 128 ||| UInt8.ofNat n = UInt8.ofNat (128 + n) := by decide
  exact hall ⟨n, h⟩

section Plain

variable {sendMask : Bool} {payload : Bytes} (h : payload.length < 2 ^ 32)

theorem body_plainFrame : (plainFrame sendMask payload h).body = payload := by
  cases sendMask with
  | true => exact maskWith_zero payload
  | false => rfl

theorem lengthBytes_eq : lengthBytes payload.length =
    (UInt8.ofNat ((lengthForm payload.length).code payload.length),
      (lengthForm payload.length).extended payload.length) := by
  unfold lengthBytes lengthForm
  split
  · rfl
  · split
    · rfl
    · rfl

/-- **What `send` writes** is the frame of the payload, but for its first byte. -/
theorem sendHeader_append (opcode : UInt8) (fin : Bool) :
    sendHeader sendMask opcode fin payload.length ++ payload =
      (opcode &&& 15 ||| if fin then 128 else 0) ::
        (plainFrame sendMask payload h).encode.tail := by
  have hcode := (plainFrame sendMask payload h).code_lt
  have hbody : (plainFrame sendMask payload h).body = payload := body_plainFrame h
  have hsecond : (if sendMask then 128 else 0) |||
      UInt8.ofNat ((lengthForm payload.length).code payload.length) =
        UInt8.ofNat ((plainFrame sendMask payload h).maskBit +
          (lengthForm payload.length).code payload.length) := by
    cases sendMask with
    | true => exact maskBit_or _ hcode
    | false =>
        show 0 ||| UInt8.ofNat _ = UInt8.ofNat (0 + _)
        rw [UInt8.zero_or, Nat.zero_add]
  have hkey : (plainFrame sendMask payload h).keyBytes =
      if sendMask then [0, 0, 0, 0] else [] := by
    cases sendMask with
    | true => rfl
    | false => rfl
  rw [sendHeader, lengthBytes_eq, hsecond, WSFrame.encode, hbody, WSFrame.header, hkey]
  rfl

end Plain

/-! ## A frame with another first byte -/

section FirstByte

variable (b b' : UInt8) (t : Bytes)

theorem headerOf_cons : headerOf (b :: t) = headerOf (b' :: t) := rfl

theorem payloadOf_cons : payloadOf (b :: t) = payloadOf (b' :: t) := by
  have htwo := two_le_headerOf (b :: t)
  obtain ⟨k, hk⟩ : ∃ k, headerOf (b :: t) = k + 2 := ⟨headerOf (b :: t) - 2, by omega⟩
  have hdrop : (b :: t).drop (headerOf (b :: t)) = (b' :: t).drop (headerOf (b' :: t)) := by
    rw [headerOf_cons b' b t, hk]
    rfl
  have hkey : maskKeyOf (b :: t) = maskKeyOf (b' :: t) := by
    have hext : 2 + extendedOf (b :: t) = extendedOf (b :: t) + 1 + 1 := by omega
    have hext' : 2 + extendedOf (b' :: t) = extendedOf (b :: t) + 1 + 1 := hext
    rw [maskKeyOf, maskKeyOf, slice, slice, hext, hext']
    rfl
  unfold payloadOf
  rw [hdrop, hkey]
  rfl

theorem isFrame_cons (h : wsFraming.IsFrame (b :: t)) : wsFraming.IsFrame (b' :: t) := h

end FirstByte

theorem payloadOf_encode (f : WSFrame) : payloadOf f.encode = f.payload := by
  have hbody : (f.encode.drop f.header.length).take f.payload.length = f.body := by
    rw [WSFrame.encode, List.drop_left, List.take_of_length_le (Nat.le_of_eq f.length_body)]
  unfold payloadOf
  rw [WSFrame.encode, f.headerOf_header, f.payloadLength_header, ← WSFrame.encode, hbody,
    WSFrame.encode, f.maskOf_header]
  split
  · rename_i hkey
    rw [f.maskKeyOf_header _ hkey, WSFrame.body, if_pos hkey, maskWith_maskWith]
  · rename_i hkey
    rw [WSFrame.body, if_neg hkey]

/-! ## One call -/

theorem opcodeOf_cons_or {opcode : UInt8} (h : opcode.toNat < 16) (fin : Bool) (t : Bytes) :
    opcodeOf ((opcode &&& 15 ||| if fin then 128 else 0) :: t) = opcode ∧
      finOf ((opcode &&& 15 ||| if fin then 128 else 0) :: t) = fin := by
  have hall : ∀ (n : Fin 16) (fin : Bool),
      ((UInt8.ofNat n &&& 15 ||| if fin then 128 else 0) &&& 15 = UInt8.ofNat n) ∧
        decide (128 ≤ (UInt8.ofNat n &&& 15 ||| if fin then 128 else 0).toNat) = fin := by decide
  have hopcode := hall ⟨opcode.toNat, h⟩ fin
  simp only [UInt8.ofNat_toNat] at hopcode
  exact hopcode

/-- The four bits of an opcode and the final bit are read as they were written, and so is the
payload. -/
theorem sent_isFrame (sendMask : Bool) {opcode : UInt8} {payload : Bytes}
    (hopcode : opcode.toNat < 16) (h : payload.length < 2 ^ 32) (fin : Bool) :
    wsFraming.IsFrame (sendHeader sendMask opcode fin payload.length ++ payload) ∧
      opcodeOf (sendHeader sendMask opcode fin payload.length ++ payload) = opcode ∧
      finOf (sendHeader sendMask opcode fin payload.length ++ payload) = fin ∧
      payloadOf (sendHeader sendMask opcode fin payload.length ++ payload) = payload := by
  obtain ⟨hop, hfin⟩ := opcodeOf_cons_or hopcode fin (plainFrame sendMask payload h).encode.tail
  -- the frame as it is encoded, with its own first byte
  have hcons : (plainFrame sendMask payload h).encode =
      (128 ||| opcodeText) :: (plainFrame sendMask payload h).encode.tail := rfl
  have hframe := (plainFrame sendMask payload h).isFrame_encode
  have hpayload := payloadOf_encode (plainFrame sendMask payload h)
  rw [hcons] at hframe hpayload
  rw [sendHeader_append h]
  exact ⟨isFrame_cons _ _ _ hframe, hop, hfin, (payloadOf_cons _ _ _).trans hpayload⟩

theorem shiftRight_eq_zero {opcode : UInt8} : opcode >>> 3 = 0 ↔ opcode.toNat < 8 := by
  have hshift : (opcode >>> 3).toNat = opcode.toNat / 8 := by
    rw [UInt8.toNat_shiftRight, Nat.shiftRight_eq_div_pow]
    rfl
  rw [← UInt8.toNat_inj, hshift]
  show opcode.toNat / 8 = 0 ↔ _
  omega

/-- The frame that a call writes, after calls that leave `send_fin` as it is. -/
def sentFrame (sendMask sendFin : Bool) (call : SendCall) : Bytes :=
  if call.isControl then
    sendHeader sendMask call.opcode true call.payload.length ++ call.payload
  else
    sendHeader sendMask (if sendFin then call.opcode else opcodeCont) call.fin
      call.payload.length ++ call.payload

theorem written_send (sendMask : Bool) (s : Sending) (call : SendCall) :
    s.send sendMask call.opcode call.payload call.fin =
      { sendFin := if call.isControl then s.sendFin else call.fin
        written := s.written ++ sentFrame sendMask s.sendFin call } := by
  unfold Sending.send sentFrame
  by_cases h : call.isControl = true
  · have hcontrol : call.opcode >>> 3 ≠ 0 := by
      rw [Ne, shiftRight_eq_zero]
      exact Nat.not_lt.mpr (of_decide_eq_true h)
    rw [if_pos hcontrol, if_pos h, if_pos h, List.append_assoc]
  · have hcontrol : ¬ call.opcode >>> 3 ≠ 0 := by
      rw [Ne, Classical.not_not, shiftRight_eq_zero]
      exact Nat.lt_of_not_le fun hle => h (decide_eq_true hle)
    rw [if_neg hcontrol, if_neg h, if_neg h]
    simp only [List.append_assoc]

theorem length_sentFrame (sendMask sendFin : Bool) (call : SendCall) :
    (sentFrame sendMask sendFin call).length = call.frameLength sendMask := by
  unfold sentFrame SendCall.frameLength
  split
  · rw [List.length_append]
    rfl
  · rw [List.length_append]
    rfl

theorem sentFrame_ne_close (sendMask sendFin : Bool) (call : SendCall) :
    wsFraming.IsFrame (sentFrame sendMask sendFin call) ∧
      opcodeOf (sentFrame sendMask sendFin call) ≠ opcodeClose := by
  unfold sentFrame
  split
  · obtain ⟨hframe, hop, -⟩ := sent_isFrame sendMask call.opcode_lt call.length_lt true
    refine ⟨hframe, ?_⟩
    rw [hop]
    exact call.ne_close
  · have hopcode : (if sendFin then call.opcode else opcodeCont).toNat < 16 := by
      split
      · exact call.opcode_lt
      · decide
    obtain ⟨hframe, hop, -⟩ := sent_isFrame sendMask hopcode call.length_lt call.fin
    refine ⟨hframe, ?_⟩
    rw [hop]
    split
    · exact call.ne_close
    · decide

/-! ## Both ends -/

section Receive

variable {recvBufSize : Nat} (c : WSConnection) (sendMask : Bool) {opcode : UInt8} {payload : Bytes}

theorem handleFrame_sent (hopcode : opcode.toNat < 16) (h : payload.length < 2 ^ 32) (fin : Bool) :
    c.handleFrame recvBufSize (sendHeader sendMask opcode fin payload.length ++ payload) =
      c.receive recvBufSize opcode fin payload := by
  obtain ⟨-, hop, hfin, hpayload⟩ := sent_isFrame sendMask hopcode h fin
  rw [WSConnection.handleFrame, hop, hfin, hpayload]

/-- A whole message is dispatched. -/
theorem receive_whole (hcont : opcode ≠ opcodeCont) (hclose : opcode ≠ opcodeClose) :
    c.receive recvBufSize opcode true payload = c.onWSMsg opcode payload := by
  have hwhole : opcode ≠ opcodeCont ∧ true = true := ⟨hcont, rfl⟩
  rw [WSConnection.receive, if_pos hwhole, if_neg hclose]

/-- A segment is collected. -/
theorem receive_segment {fin : Bool} (hsegment : opcode ≠ opcodeCont → fin = false)
    (hroom : c.frame.length + payload.length ≤ recvBufSize) :
    c.receive recvBufSize opcode fin payload =
      let recvOpcode := if opcode ≠ opcodeCont then opcode else c.recvOpcode
      let frame := c.frame ++ payload
      if fin then { (c.onWSMsg recvOpcode frame) with recvOpcode := recvOpcode, frame := [] }
      else { c with recvOpcode := recvOpcode, frame := frame } := by
  have hnotWhole : ¬ (opcode ≠ opcodeCont ∧ fin = true) := by
    rintro ⟨hcont, hfin⟩
    rw [hsegment hcont] at hfin
    cases hfin
  rw [WSConnection.receive, if_neg hnotWhole, WSConnection.onFragment, if_neg (Nat.not_lt.mpr hroom)]

end Receive

/-- The two ends and what the calls mean agree: `send_fin` is set when no message is being sent in
segments, and the segments so far are in the buffer for fragments. -/
structure Agrees (a : Assembly) (s : Sending) (c : WSConnection) : Prop where
  sendFin : s.sendFin = a.current.isNone
  frame : c.frame = (a.current.map Prod.snd).getD []
  recvOpcode : ∀ opcode ∈ a.current.map Prod.fst, c.recvOpcode = opcode
  dispatched : c.dispatched = a.messages
  connected : c.conn.connected = true

namespace Agrees

variable {recvBufSize : Nat} {a : Assembly} {s : Sending} {c : WSConnection}

/-- A control message is dispatched at once, also between segments. -/
theorem send_control (h : Agrees a s c) (sendMask : Bool) {call : SendCall}
    (hcontrol : call.isControl = true) :
    Agrees (a.add call) (s.send sendMask call.opcode call.payload call.fin)
      (c.handleFrame recvBufSize (sentFrame sendMask s.sendFin call)) := by
  rw [written_send, sentFrame, if_pos hcontrol, if_pos hcontrol,
    handleFrame_sent c sendMask call.opcode_lt call.length_lt,
    receive_whole c call.ne_cont call.ne_close, Assembly.add, if_pos hcontrol]
  refine ⟨h.sendFin, h.frame, h.recvOpcode, ?_, h.connected⟩
  rw [WSConnection.onWSMsg, h.dispatched]

/-- The first segment of a message has its opcode. -/
theorem send_first (h : Agrees a s c) (sendMask : Bool) {call : SendCall}
    (hcontrol : ¬ call.isControl = true) (hcurrent : a.current = none)
    (hroom : call.fin = false → call.payload.length ≤ recvBufSize) :
    Agrees (a.add call) (s.send sendMask call.opcode call.payload call.fin)
      (c.handleFrame recvBufSize (sentFrame sendMask s.sendFin call)) := by
  obtain ⟨hsendFin, hframe, -, hdispatched, hconnected⟩ := h
  rw [hcurrent] at hsendFin hframe
  have hfin : (none : Option (UInt8 × Bytes)).isNone = true := rfl
  rw [written_send, sentFrame, if_neg hcontrol, if_neg hcontrol, hsendFin, if_pos hfin,
    handleFrame_sent c sendMask call.opcode_lt call.length_lt, Assembly.add, if_neg hcontrol,
    hcurrent]
  cases hlast : call.fin with
  | true =>
      rw [receive_whole c call.ne_cont call.ne_close]
      refine ⟨rfl, hframe, fun _ hnone => (by cases hnone), ?_, hconnected⟩
      rw [WSConnection.onWSMsg, hdispatched]
      rfl
  | false =>
      have hlength : c.frame.length + call.payload.length ≤ recvBufSize := by
        rw [hframe]
        exact (Nat.zero_add _).trans_le (hroom hlast)
      rw [receive_segment c (fun _ => rfl) hlength]
      refine ⟨rfl, ?_, ?_, hdispatched, hconnected⟩
      · show c.frame ++ call.payload = _
        rw [hframe]
        rfl
      · intro opcode hopcode
        obtain rfl := Option.some.inj hopcode
        exact if_pos call.ne_cont

/-- The next segments have the opcode for continued messages. -/
theorem send_next (h : Agrees a s c) (sendMask : Bool) {call : SendCall}
    (hcontrol : ¬ call.isControl = true) {opcode : UInt8} {payload : Bytes}
    (hcurrent : a.current = some (opcode, payload))
    (hroom : payload.length + call.payload.length ≤ recvBufSize) :
    Agrees (a.add call) (s.send sendMask call.opcode call.payload call.fin)
      (c.handleFrame recvBufSize (sentFrame sendMask s.sendFin call)) := by
  obtain ⟨hsendFin, hframe, hrecvOpcode, hdispatched, hconnected⟩ := h
  rw [hcurrent] at hsendFin hframe hrecvOpcode
  have hrecv : c.recvOpcode = opcode := hrecvOpcode opcode rfl
  have hnoFin : ¬ (some (opcode, payload)).isNone = true := by simp
  have hlength : c.frame.length + call.payload.length ≤ recvBufSize := by
    rw [hframe]
    exact hroom
  rw [written_send, sentFrame, if_neg hcontrol, if_neg hcontrol, hsendFin, if_neg hnoFin,
    handleFrame_sent c sendMask (by decide) call.length_lt,
    receive_segment c (fun hne => absurd rfl hne) hlength, Assembly.add, if_neg hcontrol, hcurrent]
  cases hlast : call.fin with
  | true =>
      refine ⟨rfl, rfl, fun _ hnone => (by cases hnone), ?_, hconnected⟩
      show c.dispatched ++ [(c.recvOpcode, c.frame ++ call.payload)] = _
      rw [hdispatched, hrecv, hframe]
      rfl
  | false =>
      refine ⟨rfl, ?_, fun op hopcode => hrecv.trans (Option.some.inj hopcode), hdispatched,
        hconnected⟩
      show c.frame ++ call.payload = _
      rw [hframe]
      rfl

/-- **One call.** -/
theorem send (h : Agrees a s c) (sendMask : Bool) (call : SendCall)
    (hcollects : a.Collects recvBufSize call) :
    Agrees (a.add call) (s.send sendMask call.opcode call.payload call.fin)
      (c.handleFrame recvBufSize (sentFrame sendMask s.sendFin call)) := by
  by_cases hcontrol : call.isControl = true
  · exact h.send_control sendMask hcontrol
  · have hroom := hcollects (Bool.eq_false_of_not_eq_true hcontrol)
    cases hcurrent : a.current with
    | none =>
        refine h.send_first sendMask hcontrol hcurrent fun hsegment => ?_
        rcases hroom with ⟨-, hwhole⟩ | hfits
        · rw [hsegment] at hwhole
          cases hwhole
        · rw [hcurrent] at hfits
          exact hfits
    | some current =>
        obtain ⟨opcode, payload⟩ := current
        refine h.send_next sendMask hcontrol hcurrent ?_
        rcases hroom with ⟨hnone, -⟩ | hfits
        · rw [hcurrent] at hnone
          cases hnone
        · rw [hcurrent, List.length_append] at hfits
          exact hfits

end Agrees

/-! ## All calls -/

/-- **All calls.** They write one frame each, and the frames one after the other make of the other
end what the calls mean. -/
theorem Agrees.runFrom {recvBufSize : Nat} (sendMask : Bool) : ∀ (calls : List SendCall)
    {a : Assembly} {s : Sending} {c : WSConnection}, Agrees a s c →
    assembly.AlongFrom (Assembly.Collects recvBufSize) a calls →
    ∃ frames : List Bytes,
      ((sender sendMask).runFrom s calls).written = s.written ++ frames.flatten ∧
      (∀ f ∈ frames, wsFraming.IsFrame f ∧ opcodeOf f ≠ opcodeClose) ∧
      (∀ f ∈ frames, ∃ call ∈ calls, f.length = call.frameLength sendMask) ∧
      Agrees (assembly.runFrom a calls) ((sender sendMask).runFrom s calls)
        (c.handleFrames recvBufSize frames) := by
  intro calls
  induction calls with
  | nil =>
      intro a s c h _
      exact ⟨[], (List.append_nil _).symm, fun f hf => (by cases hf), fun f hf => (by cases hf), h⟩
  | cons call calls ih =>
      intro a s c h hcollects
      obtain ⟨frames, hwritten, hframes, hlength, hagrees⟩ :=
        ih (h.send sendMask call hcollects.1) hcollects.2
      refine ⟨sentFrame sendMask s.sendFin call :: frames, ?_, ?_, ?_, hagrees⟩
      · refine hwritten.trans ?_
        rw [written_send, List.flatten_cons, List.append_assoc]
      · intro f hf
        rcases List.mem_cons.mp hf with rfl | hf
        · exact sentFrame_ne_close sendMask s.sendFin call
        · exact hframes f hf
      · intro f hf
        rcases List.mem_cons.mp hf with rfl | hf
        · exact ⟨call, List.mem_cons_self, length_sentFrame sendMask s.sendFin call⟩
        · obtain ⟨call', hcall', hf⟩ := hlength f hf
          exact ⟨call', List.mem_cons_of_mem call hcall', hf⟩

/-- What the calls write is a stream of frames that can be handled one by one. -/
theorem sent_peaceful {recvBufSize : Nat} (sendMask : Bool) {calls : List SendCall}
    (hsize : ∀ call ∈ calls, call.frameLength sendMask ≤ recvBufSize)
    (hcollects : assembly.Along (Assembly.Collects recvBufSize) calls) :
    ∃ frames : List Bytes, ((sender sendMask).run calls).written = frames.flatten ∧
      Peaceful recvBufSize (opened recvBufSize) frames [] ∧
      Agrees (assembly.run calls) ((sender sendMask).run calls)
        ((opened recvBufSize).handleFrames recvBufSize frames) := by
  have hinit : Agrees assembly.init (sender sendMask).init (opened recvBufSize) :=
    ⟨rfl, rfl, fun _ hnone => (by cases hnone), rfl, rfl⟩
  obtain ⟨frames, hwritten, hframes, hlength, hagrees⟩ :=
    hinit.runFrom sendMask calls hcollects
  refine ⟨frames, hwritten, ⟨fun f hf => (hframes f hf).1, fun f hf => (hframes f hf).2, ?_,
    hagrees.connected, split_nil, fun n hn => (by cases hn)⟩, hagrees⟩
  intro f hf
  obtain ⟨call, hcall, hf⟩ := hlength f hf
  rw [hf]
  exact hsize call hcall

/-- A text message in two segments, with a heartbeat between them. -/
def segmented : List SendCall :=
  [⟨opcodeText, [120], false, by decide, by decide, by decide, by decide⟩,
    ⟨opcodePing, [], true, by decide, by decide, by decide, by decide⟩,
    ⟨opcodeText, [121], true, by decide, by decide, by decide, by decide⟩]

/-- They are cut within their headers. -/
def segmentedReads : List Bytes :=
  [[0x01, 0x81, 0, 0], [0, 0, 120, 0x89, 0x80, 0], [0, 0, 0, 0x80, 0x81, 0, 0, 0, 0, 121]]

end DaraChat.Websocket
