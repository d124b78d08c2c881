import DaraChat.Bot.Transport

set_option autoImplicit false

/-! # The stream, frame by frame

What a bot makes of any stream of bytes. The stream is a sequence of frames (`wsFraming`), whatever
is in it: fragments of messages, unknown opcodes, messages begun within messages. If the frames are
handled one after the other (`handleFrame`), with no regard to how they came, then reading the
stream in pieces comes to the same (`handled_iff`), as long as no read gets stuck in the buffer. The
frames are not close frames, and none of them closes the connection for its length: a closed
connection drops what it has not read, and how much that is depends on the pieces.
-/

namespace DaraChat.Websocket

/-- The payload of a frame, unmasked. -/
def payloadOf (f : Bytes) : Bytes :=
  if maskOf f then maskWith (maskKeyOf f) ((f.drop (headerOf f)).take (payloadLength f))
  else (f.drop (headerOf f)).take (payloadLength f)

section Append

variable {a : Bytes} (b : Bytes)

theorem opcodeOf_append (h : 1 ≤ a.length) : opcodeOf (a ++ b) = opcodeOf a := by
  rw [opcodeOf, List.getD_append _ _ _ _ (by omega), ← opcodeOf]

theorem finOf_append (h : 1 ≤ a.length) : finOf (a ++ b) = finOf a := by
  rw [finOf, List.getD_append _ _ _ _ (by omega), ← finOf]

theorem maskOf_append (h : 2 ≤ a.length) : maskOf (a ++ b) = maskOf a := by
  rw [maskOf, List.getD_append _ _ _ _ (by omega), ← maskOf]

theorem maskKeyOf_append (hmask : maskOf a = true) (h : headerOf a ≤ a.length) :
    maskKeyOf (a ++ b) = maskKeyOf a := by
  have htwo : 2 ≤ a.length := (two_le_headerOf a).trans h
  rw [headerOf, if_pos hmask] at h
  rw [maskKeyOf, extendedOf_append b htwo, slice_append_left b h, ← maskKeyOf]

end Append

/-- A frame is its header and its payload. -/
theorem length_of_isFrame {f : Bytes} (h : wsFraming.IsFrame f) :
    f.length = headerOf f + payloadLength f := (frameLength_eq_some.mp h).2.symm

/-- What is split off is a frame for itself. -/
theorem isFrame_of_split {a f rest : Bytes} (h : wsFraming.split a = some (f, rest)) :
    wsFraming.IsFrame f := by
  obtain ⟨hneed, rfl⟩ := Framing.split_eq_some.mp h
  obtain ⟨-, hlength⟩ := frameLength_eq_some.mp hneed
  have htwo := two_le_headerOf (f ++ rest)
  rw [headerOf_append rest (by omega)] at hlength
  rw [payloadLength_append rest (by omega)] at hlength
  exact frameLength_eq_some.mpr ⟨by omega, hlength⟩

theorem length_payloadOf {f : Bytes} (h : wsFraming.IsFrame f) :
    (payloadOf f).length = payloadLength f := by
  have hlength := length_of_isFrame h
  have htake : ((f.drop (headerOf f)).take (payloadLength f)).length = payloadLength f := by
    rw [List.length_take_of_le]
    rw [List.length_drop]
    omega
  unfold payloadOf
  split
  · rw [length_maskWith, htake]
  · exact htake

theorem writeAt_append_left {a bytes : Bytes} (b : Bytes) {pos : Nat}
    (h : pos + bytes.length ≤ a.length) : writeAt (a ++ b) pos bytes = writeAt a pos bytes ++ b := by
  rw [writeAt, writeAt, List.take_append_of_le_length (by omega),
    List.drop_append_of_le_length h, List.append_assoc _ _ b]

theorem length_writeAt {a bytes : Bytes} {pos : Nat} (h : pos + bytes.length ≤ a.length) :
    (writeAt a pos bytes).length = a.length := by
  rw [writeAt, List.length_append, List.length_append, List.length_take_of_le (by omega),
    List.length_drop]
  omega

/-- What the messages have made of a connection: all of it but the socket and its buffer. -/
structure Progress where
  frame : Bytes
  recvOpcode : UInt8
  closeReason : Nat × Bytes
  dispatched : List (UInt8 × Bytes)
  deriving DecidableEq

namespace WSConnection

def progress (c : WSConnection) : Progress := ⟨c.frame, c.recvOpcode, c.closeReason, c.dispatched⟩

/-- What `handleOneWSMsg` does with the payload of a complete frame. -/
def receive (recvBufSize : Nat) (c : WSConnection) (opcode : UInt8) (fin : Bool)
    (payload : Bytes) : WSConnection :=
  if opcode ≠ opcodeCont ∧ fin then
    if opcode = opcodeClose then c.onCloseFrame payload else c.onWSMsg opcode payload
  else c.onFragment recvBufSize opcode fin payload

/-- A frame that is there from its first byte to its last. -/
def handleFrame (recvBufSize : Nat) (c : WSConnection) (f : Bytes) : WSConnection :=
  c.receive recvBufSize (opcodeOf f) (finOf f) (payloadOf f)

/-- Frames one after the other. -/
def handleFrames (recvBufSize : Nat) (c : WSConnection) (frames : List Bytes) : WSConnection :=
  frames.foldl (handleFrame recvBufSize) c

section Frame

variable {recvBufSize : Nat} {c c' : WSConnection} {opcode : UInt8} {fin : Bool} {payload : Bytes}

/-- **One frame**, and whatever has come behind it. -/
theorem handleOneWSMsg_frame {f : Bytes} (h : wsFraming.IsFrame f) (rest : Bytes) :
    c.handleOneWSMsg recvBufSize (f ++ rest) =
      (c.handleFrame recvBufSize f, writeAt f (headerOf f) (payloadOf f) ++ rest, rest.length) := by
  have hlength := length_of_isFrame h
  have hpayload := length_payloadOf h
  have htwo := two_le_headerOf f
  have hheader : headerOf (f ++ rest) = headerOf f := headerOf_append rest (by omega)
  have hplLen : payloadLength (f ++ rest) = payloadLength f := payloadLength_append rest (by omega)
  have hopcode : opcodeOf (f ++ rest) = opcodeOf f := opcodeOf_append rest (by omega)
  have hfin : finOf (f ++ rest) = finOf f := finOf_append rest (by omega)
  have hbody : ((f ++ rest).drop (headerOf f)).take (payloadLength f) =
      (f.drop (headerOf f)).take (payloadLength f) := by
    rw [List.drop_append_of_le_length (by omega), List.take_append_of_le_length]
    rw [List.length_drop]
    omega
  have hunmasked : (if maskOf (f ++ rest) then
      maskWith (maskKeyOf (f ++ rest)) ((f.drop (headerOf f)).take (payloadLength f))
      else (f.drop (headerOf f)).take (payloadLength f)) = payloadOf f := by
    rw [maskOf_append rest (by omega), payloadOf]
    split
    · rename_i hmask
      rw [maskKeyOf_append rest hmask (by omega)]
    · rfl
  have hsize : (f ++ rest).length = headerOf f + (payloadLength f + rest.length) := by
    rw [List.length_append]
    omega
  have hleft : headerOf f + (payloadLength f + rest.length) - headerOf f - payloadLength f =
      rest.length := by omega
  rw [handleOneWSMsg]
  simp only [hheader, hplLen, hopcode, hfin, hbody, hunmasked, hsize, hleft]
  rw [if_neg (by omega), if_neg (by omega), if_neg (by omega),
    writeAt_append_left rest (by omega)]
  rfl

/-! ### What a frame does to the socket -/

theorem connected_close (statusCode : Nat) (reason : Bytes) :
    (c.close statusCode reason).conn.connected = false := by
  unfold close SocketTcpConnection.close
  cases hopen : c.conn.connected with
  | true => simp
  | false => simp [hopen]

theorem connected_onCloseFrame : (c.onCloseFrame payload).conn.connected = false := by
  unfold onCloseFrame
  split
  · exact connected_close _ _
  · exact connected_close _ _

/-- A frame closes the connection, or leaves the socket, the buffer and the reason as they are. -/
theorem conn_receive (h : (c.receive recvBufSize opcode fin payload).conn.connected = true) :
    (c.receive recvBufSize opcode fin payload).conn = c.conn ∧
      (c.receive recvBufSize opcode fin payload).closeReason = c.closeReason := by
  unfold receive at h ⊢
  split at h
  · split at h
    · rw [connected_onCloseFrame] at h
      cases h
    · rename_i hmsg hopcode
      rw [if_pos hmsg, if_neg hopcode]
      exact ⟨rfl, rfl⟩
  · rename_i hmsg
    rw [if_neg hmsg]
    unfold onFragment at h ⊢
    split at h
    · rw [connected_close] at h
      cases h
    · rename_i hroom
      rw [if_neg hroom]
      simp only
      split
      · exact ⟨rfl, rfl⟩
      · exact ⟨rfl, rfl⟩

theorem progress_close (h : c.progress = c'.progress) (statusCode : Nat) (reason : Bytes) :
    (c.close statusCode reason).progress = (c'.close statusCode reason).progress := by
  simp only [progress, close, Progress.mk.injEq] at h ⊢
  exact ⟨h.1, h.2.1, trivial, h.2.2.2⟩

/-- What a frame makes of the messages does not depend on the socket or the buffer. -/
theorem progress_receive (h : c.progress = c'.progress) :
    (c.receive recvBufSize opcode fin payload).progress =
      (c'.receive recvBufSize opcode fin payload).progress := by
  have hfields := h
  simp only [progress, Progress.mk.injEq] at hfields
  obtain ⟨hframe, hrecvOpcode, hcloseReason, hdispatched⟩ := hfields
  unfold receive
  split
  · split
    · unfold onCloseFrame
      split
      · exact progress_close h _ _
      · exact progress_close h _ _
    · simp only [progress, onWSMsg, hframe, hrecvOpcode, hcloseReason, hdispatched]
  · unfold onFragment
    rw [hframe]
    split
    · exact progress_close h _ _
    · simp only
      split
      · simp only [progress, onWSMsg, hrecvOpcode, hcloseReason, hdispatched]
      · simp only [progress, hrecvOpcode, hcloseReason, hdispatched]

/-- Neither does it depend on them whether it closes the connection. -/
theorem connected_receive (h : c.progress = c'.progress)
    (hconnected : c.conn.connected = c'.conn.connected) :
    (c.receive recvBufSize opcode fin payload).conn.connected =
      (c'.receive recvBufSize opcode fin payload).conn.connected := by
  simp only [progress, Progress.mk.injEq] at h
  obtain ⟨hframe, hrecvOpcode, hcloseReason, hdispatched⟩ := h
  unfold receive
  split
  · split
    · rw [connected_onCloseFrame, connected_onCloseFrame]
    · exact hconnected
  · unfold onFragment
    rw [hframe]
    split
    · rw [connected_close, connected_close]
    · simp only
      split
      · exact hconnected
      · exact hconnected

/-- Once closed, always closed. -/
theorem connected_of_receive (h : (c.receive recvBufSize opcode fin payload).conn.connected = true) :
    c.conn.connected = true := by
  rw [(conn_receive h).1] at h
  exact h

end Frame

section Frames

variable {recvBufSize : Nat} {c c' : WSConnection} {frames : List Bytes}

theorem handleFrames_append (now later : List Bytes) :
    c.handleFrames recvBufSize (now ++ later) =
      (c.handleFrames recvBufSize now).handleFrames recvBufSize later := List.foldl_append

theorem connected_of_handleFrames
    (h : (c.handleFrames recvBufSize frames).conn.connected = true) : c.conn.connected = true := by
  induction frames generalizing c with
  | nil => exact h
  | cons f frames ih => exact connected_of_receive (ih h)

theorem conn_handleFrames (h : (c.handleFrames recvBufSize frames).conn.connected = true) :
    (c.handleFrames recvBufSize frames).conn = c.conn := by
  induction frames generalizing c with
  | nil => rfl
  | cons f frames ih =>
      have hfirst := connected_of_handleFrames (c := c.handleFrame recvBufSize f) h
      exact (ih h).trans (conn_receive hfirst).1

/-- The reason for which a connection is closed is set when it is closed. -/
theorem closeReason_handleFrames
    (h : (c.handleFrames recvBufSize frames).conn.connected = true) :
    (c.handleFrames recvBufSize frames).closeReason = c.closeReason := by
  induction frames generalizing c with
  | nil => rfl
  | cons f frames ih =>
      have hfirst := connected_of_handleFrames (c := c.handleFrame recvBufSize f) h
      exact (ih h).trans (conn_receive hfirst).2

theorem progress_handleFrames (h : c.progress = c'.progress) :
    (c.handleFrames recvBufSize frames).progress =
      (c'.handleFrames recvBufSize frames).progress := by
  induction frames generalizing c c' with
  | nil => exact h
  | cons f frames ih => exact ih (progress_receive h)

theorem connected_handleFrames (h : c.progress = c'.progress)
    (hconnected : c.conn.connected = c'.conn.connected) :
    (c.handleFrames recvBufSize frames).conn.connected =
      (c'.handleFrames recvBufSize frames).conn.connected := by
  induction frames generalizing c c' with
  | nil => exact hconnected
  | cons f frames ih => exact ih (progress_receive h) (connected_receive h hconnected)

end Frames

/-! ## The loop -/

section Loop

variable (recvBufSize : Nat) (c : WSConnection)

/-- A complete frame that is not a close frame is one turn of the loop. -/
theorem handleWSMsgLoop_frame {f : Bytes} (h : wsFraming.IsFrame f)
    (hopcode : opcodeOf f ≠ opcodeClose) (rest : Bytes) (turns : Nat) :
    handleWSMsgLoop recvBufSize (turns + 1) c (f ++ rest) =
      let (c, data, left) :=
        handleWSMsgLoop recvBufSize turns (c.handleFrame recvBufSize f) rest
      (c, writeAt f (headerOf f) (payloadOf f) ++ data, left) := by
  have hlength := length_of_isFrame h
  have hpayload := length_payloadOf h
  have htwo := two_le_headerOf f
  have hwritten : (writeAt f (headerOf f) (payloadOf f)).length = f.length :=
    length_writeAt (by omega)
  have hsize : (f ++ rest).length = f.length + rest.length := List.length_append
  have hconsumed : (f ++ rest).length - rest.length =
      (writeAt f (headerOf f) (payloadOf f)).length := by omega
  have hopcode' : opcodeOf (f ++ rest) ≠ opcodeClose := by
    rw [opcodeOf_append rest (by omega)]
    exact hopcode
  rw [handleWSMsgLoop, if_neg (by omega), handleOneWSMsg_frame h]
  simp only [hconsumed, List.drop_left, List.take_left]
  rw [if_neg (by omega), if_neg hopcode']

/-- **The loop handles complete frames** and goes on with what is behind them. The bytes keep their
places. -/
theorem handleWSMsgLoop_flatten (frames : List Bytes)
    (hframes : ∀ f ∈ frames, wsFraming.IsFrame f ∧ opcodeOf f ≠ opcodeClose) (rest : Bytes)
    (turns : Nat) : ∀ c : WSConnection, ∃ data, data.length = frames.flatten.length ∧
      handleWSMsgLoop recvBufSize (frames.length + turns) c (frames.flatten ++ rest) =
        let (c, more, left) :=
          handleWSMsgLoop recvBufSize turns (c.handleFrames recvBufSize frames) rest
        (c, data ++ more, left) := by
  induction frames with
  | nil =>
      intro c
      refine ⟨[], rfl, ?_⟩
      rw [List.length_nil, Nat.zero_add]
      rfl
  | cons f frames ih =>
      intro c
      obtain ⟨hframe, hopcode⟩ := hframes f List.mem_cons_self
      have hlength := length_of_isFrame hframe
      have hpayload := length_payloadOf hframe
      have hturns : (f :: frames).length + turns = frames.length + turns + 1 := by
        rw [List.length_cons]
        omega
      obtain ⟨data, hdata, hloop⟩ :=
        ih (fun g hg => hframes g (List.mem_cons_of_mem f hg)) (c.handleFrame recvBufSize f)
      refine ⟨writeAt f (headerOf f) (payloadOf f) ++ data, ?_, ?_⟩
      · rw [List.flatten_cons, List.length_append, List.length_append, hdata,
          length_writeAt (by omega)]
      · rw [List.flatten_cons, List.append_assoc, hturns,
          handleWSMsgLoop_frame recvBufSize c hframe hopcode, hloop]
        simp only [List.append_assoc]
        rfl

/-- There are at least as many bytes as frames. -/
theorem length_le_flatten {frames : List Bytes} (hframes : ∀ f ∈ frames, wsFraming.IsFrame f) :
    frames.length ≤ frames.flatten.length := by
  induction frames with
  | nil => exact Nat.le_refl 0
  | cons f frames ih =>
      have hlength := length_of_isFrame (hframes f List.mem_cons_self)
      have htwo := two_le_headerOf f
      have hrest := ih fun g hg => hframes g (List.mem_cons_of_mem f hg)
      rw [List.length_cons, List.flatten_cons, List.length_append]
      omega

/-- The loop leaves the beginning of the next frame. -/
theorem handleWSMsg_handles (frames : List Bytes) {rest : Bytes}
    (hframes : ∀ f ∈ frames, wsFraming.IsFrame f ∧ opcodeOf f ≠ opcodeClose)
    (hsplit : wsFraming.split rest = none)
    (hfits : ∀ n, wsFraming.need rest = some n → n ≤ recvBufSize) :
    ∃ data, data.length = frames.flatten.length ∧
      c.handleWSMsg recvBufSize (frames.flatten ++ rest) =
        (c.handleFrames recvBufSize frames, data ++ rest, rest.length) := by
  have hturns := length_le_flatten fun f hf => (hframes f hf).1
  obtain ⟨turns, hsize⟩ : ∃ k, (frames.flatten ++ rest).length = frames.length + k := by
    rw [List.length_append]
    exact ⟨frames.flatten.length + rest.length - frames.length, by omega⟩
  obtain ⟨data, hdata, hloop⟩ := handleWSMsgLoop_flatten recvBufSize frames hframes rest turns c
  refine ⟨data, hdata, ?_⟩
  rw [handleWSMsg, hsize, hloop, handleWSMsgLoop_of_incomplete recvBufSize _ hsplit hfits]

/-- **A close frame is the last one**: what is behind it is dropped. -/
theorem handleWSMsg_closes (frames : List Bytes) {g : Bytes}
    (hframes : ∀ f ∈ frames, wsFraming.IsFrame f ∧ opcodeOf f ≠ opcodeClose)
    (hframe : wsFraming.IsFrame g) (hopcode : opcodeOf g = opcodeClose) (rest : Bytes) :
    ∃ data, c.handleWSMsg recvBufSize (frames.flatten ++ (g ++ rest)) =
      ((c.handleFrames recvBufSize frames).handleFrame recvBufSize g, data, 0) := by
  have hlength := length_of_isFrame hframe
  have htwo := two_le_headerOf g
  have hturns := length_le_flatten fun f hf => (hframes f hf).1
  obtain ⟨turns, hsize⟩ :
      ∃ k, (frames.flatten ++ (g ++ rest)).length = frames.length + (k + 1) := by
    rw [List.length_append, List.length_append]
    exact ⟨frames.flatten.length + (g.length + rest.length) - frames.length - 1, by omega⟩
  obtain ⟨data, -, hloop⟩ :=
    handleWSMsgLoop_flatten recvBufSize frames hframes (g ++ rest) (turns + 1) c
  have hopcode' : opcodeOf (g ++ rest) = opcodeClose := by
    rw [opcodeOf_append rest (by omega)]
    exact hopcode
  have hsize' : (g ++ rest).length = g.length + rest.length := List.length_append
  refine ⟨data ++ (writeAt g (headerOf g) (payloadOf g) ++ rest), ?_⟩
  rw [handleWSMsg, hsize, hloop, handleWSMsgLoop, if_neg (by omega), handleOneWSMsg_frame hframe]
  simp only
  rw [if_neg (by omega), if_pos hopcode']

end Loop

end WSConnection

/-! ## One read -/

section Read

variable {recvBufSize : Nat} {c c' : WSConnection} {rest chunk left : Bytes} {frames : List Bytes}

theorem Holds.congr (h : Holds recvBufSize c rest) (hconn : c'.conn = c.conn) :
    Holds recvBufSize c' rest := by
  unfold Holds
  rw [hconn]
  exact h

/-- The leftover is none of the messages' business. -/
theorem progress_keepLeftover {remaining : Nat}
    (h : c.keepLeftover recvBufSize remaining = some c') : c'.progress = c.progress := by
  unfold WSConnection.keepLeftover at h
  split at h
  · obtain rfl := Option.some.inj h
    rfl
  · simp only at h
    split at h
    · split at h
      · cases h
      · obtain rfl := Option.some.inj h
        rfl
    · split at h
      · obtain rfl := Option.some.inj h
        rfl
      · obtain rfl := Option.some.inj h
        rfl

/-- **One read** of a connection that the frames in it do not close. -/
theorem Holds.read_handles (h : Holds recvBufSize c rest)
    (hfits : c.conn.tail + chunk.length ≤ recvBufSize)
    (hstream : rest ++ chunk = frames.flatten ++ left)
    (hframes : ∀ f ∈ frames, wsFraming.IsFrame f ∧ opcodeOf f ≠ opcodeClose)
    (hopen : (c.handleFrames recvBufSize frames).conn.connected = true)
    (hsplit : wsFraming.split left = none)
    (hneed : ∀ n, wsFraming.need left = some n → n ≤ recvBufSize) :
    (Roomy recvBufSize (some c) chunk → ∃ c', c.read recvBufSize chunk = some c' ∧
      Holds recvBufSize c' left ∧
        c'.progress = (c.handleFrames recvBufSize frames).progress) ∧
    (¬ Roomy recvBufSize (some c) chunk → ∀ c', c.read recvBufSize chunk = some c' →
      c'.conn.connected = false ∧
        c'.progress = (c.handleFrames recvBufSize frames).progress) := by
  obtain ⟨data, hdata, hloop⟩ :=
    (c.store chunk).handleWSMsg_handles recvBufSize frames hframes hsplit hneed
  rw [← hstream] at hloop
  have hstored := h.store hfits
  have hprogress : ((c.store chunk).handleFrames recvBufSize frames).progress =
      (c.handleFrames recvBufSize frames).progress := WSConnection.progress_handleFrames rfl
  have hopen' : ((c.store chunk).handleFrames recvBufSize frames).conn.connected = true := by
    rw [← hopen]
    exact WSConnection.connected_handleFrames rfl rfl
  have hconn := WSConnection.conn_handleFrames hopen'
  have hholds : Holds recvBufSize
      (((c.store chunk).handleFrames recvBufSize frames).replace (data ++ left)) (data ++ left) := by
    refine (hstored.congr hconn).replace ?_
    rw [hstream, List.length_append, List.length_append, hdata]
  have hread : c.read recvBufSize chunk =
      (((c.store chunk).handleFrames recvBufSize frames).replace (data ++ left)).keepLeftover
        recvBufSize left.length := by
    rw [WSConnection.read_eq, hstored.pending_eq, hloop]
  have htail : (((c.store chunk).handleFrames recvBufSize frames).replace
      (data ++ left)).conn.tail = c.conn.tail + chunk.length := by
    show ((c.store chunk).handleFrames recvBufSize frames).conn.tail = _
    rw [hconn]
    rfl
  have hdrain : (wsFraming.drain (c.pending ++ chunk)).2 = left := by
    rw [h.pending_eq, hstream,
      Framing.drain_flatten_append (fun f hf => (hframes f hf).1) hsplit]
  constructor
  · intro hroom
    obtain ⟨c', hc', hholds', -⟩ := hholds.keepLeftover (by
      rw [htail, ← hdrain]
      exact hroom c rfl h.1)
    rw [← hread] at hc'
    refine ⟨c', hc', hholds', ?_⟩
    rw [hread] at hc'
    exact (progress_keepLeftover hc').trans hprogress
  · intro hstuck
    rw [hread]
    have hnot : ¬ (c.conn.tail + chunk.length = recvBufSize → 2 * left.length ≤ recvBufSize) := by
      intro hroom
      refine hstuck fun c'' hc'' _ hfull => ?_
      obtain rfl := Option.some.inj hc''
      rw [hdrain]
      exact hroom hfull
    obtain ⟨hfull, hleft⟩ := Classical.not_imp.mp hnot
    intro c' hc'
    exact ⟨hholds.keepLeftover_stuck (htail.trans hfull) (Nat.lt_of_not_le hleft) c' hc',
      (progress_keepLeftover hc').trans hprogress⟩

end Read

/-! ## All reads -/

/-- The connection is open, its buffer holds the beginning of a frame, and what it holds and the
bytes to come are some frames, and a part of one more that will never be complete. -/
def Expects (recvBufSize : Nat) (c : WSConnection) (todo : List Bytes) (last future : Bytes) : Prop :=
  ∃ rest, Holds recvBufSize c rest ∧ wsFraming.split rest = none ∧
    rest ++ future = todo.flatten ++ last

/-- The frames can be handled one by one: none is a close frame, each fits the buffer, and none
closes the connection. -/
structure Peaceful (recvBufSize : Nat) (c : WSConnection) (frames : List Bytes) (last : Bytes) :
    Prop where
  isFrame : ∀ f ∈ frames, wsFraming.IsFrame f
  ne_close : ∀ f ∈ frames, opcodeOf f ≠ opcodeClose
  length_le : ∀ f ∈ frames, f.length ≤ recvBufSize
  connected : (c.handleFrames recvBufSize frames).conn.connected = true
  split_last : wsFraming.split last = none
  need_last : ∀ n, wsFraming.need last = some n → n ≤ recvBufSize

section Run

variable {recvBufSize : Nat} {c c' : WSConnection} {now later : List Bytes} {last : Bytes}

theorem Peaceful.of_now (h : Peaceful recvBufSize c (now ++ later) last) :
    (∀ f ∈ now, wsFraming.IsFrame f ∧ opcodeOf f ≠ opcodeClose) ∧
      (c.handleFrames recvBufSize now).conn.connected = true := by
  refine ⟨fun f hf => ?_, ?_⟩
  · have hmem := List.mem_append_left later hf
    exact ⟨h.isFrame f hmem, h.ne_close f hmem⟩
  · have hconnected := h.connected
    rw [WSConnection.handleFrames_append] at hconnected
    exact WSConnection.connected_of_handleFrames hconnected

theorem Peaceful.of_later (h : Peaceful recvBufSize c (now ++ later) last)
    (hconnected : c'.conn.connected = true)
    (hprogress : c'.progress = (c.handleFrames recvBufSize now).progress) :
    Peaceful recvBufSize c' later last where
  isFrame := fun f hf => h.isFrame f (List.mem_append_right now hf)
  ne_close := fun f hf => h.ne_close f (List.mem_append_right now hf)
  length_le := fun f hf => h.length_le f (List.mem_append_right now hf)
  connected := by
    have hall := h.connected
    rw [WSConnection.handleFrames_append] at hall
    rw [← hall]
    exact WSConnection.connected_handleFrames hprogress (hconnected.trans h.of_now.2.symm)
  split_last := h.split_last
  need_last := h.need_last

/-- What has arrived of the stream: some of the frames and the beginning of the rest. -/
theorem arrived_frames {todo : List Bytes} {data future : Bytes}
    (hframes : ∀ f ∈ todo, wsFraming.IsFrame f) (hlast : wsFraming.split last = none)
    (h : data ++ future = todo.flatten ++ last) :
    ∃ now later, todo = now ++ later ∧ data = now.flatten ++ (wsFraming.drain data).2 ∧
      (wsFraming.drain data).2 ++ future = later.flatten ++ last := by
  obtain ⟨later, htodo, hleft⟩ := wsFraming.drain_arrived data future
  rw [h, Framing.drain_flatten_append hframes hlast] at htodo hleft
  exact ⟨_, later, htodo, (wsFraming.flatten_drain data).symm, hleft⟩

/-- A frame that has begun to arrive fits the buffer. -/
theorem need_le_of_frames {left future : Bytes}
    (hlater : ∀ f ∈ later, wsFraming.IsFrame f ∧ f.length ≤ recvBufSize)
    (hlast : ∀ n, wsFraming.need last = some n → n ≤ recvBufSize)
    (hleft : left ++ future = later.flatten ++ last) :
    ∀ n, wsFraming.need left = some n → n ≤ recvBufSize := by
  intro n hneed
  cases later with
  | nil =>
      have hwhole := wsFraming.need_append future hneed
      rw [hleft] at hwhole
      exact hlast n hwhole
  | cons f later =>
      obtain ⟨hframe, hlength⟩ := hlater f List.mem_cons_self
      rw [List.flatten_cons, List.append_assoc] at hleft
      rw [Framing.need_of_append_eq hneed hframe hleft]
      exact hlength

/-- The step: the frames that are complete now, and those that are expected later. -/
theorem Holds.read_expects {todo : List Bytes} {rest chunk future : Bytes}
    (hholds : Holds recvBufSize c rest) (hrest : rest ++ (chunk ++ future) = todo.flatten ++ last)
    (hpeaceful : Peaceful recvBufSize c todo last)
    (hfits : c.conn.tail + chunk.length ≤ recvBufSize) :
    ∃ now later, todo = now ++ later ∧
      (Roomy recvBufSize (some c) chunk → ∃ c', c.read recvBufSize chunk = some c' ∧
        Expects recvBufSize c' later last future ∧ Peaceful recvBufSize c' later last ∧
          c'.progress = (c.handleFrames recvBufSize now).progress) ∧
      (¬ Roomy recvBufSize (some c) chunk → ∀ c', c.read recvBufSize chunk = some c' →
        c'.conn.connected = false ∧ c'.closeReason = c.closeReason) := by
  rw [← List.append_assoc] at hrest
  obtain ⟨now, later, rfl, hnow, hlater⟩ :=
    arrived_frames hpeaceful.isFrame hpeaceful.split_last hrest
  have hsplit := wsFraming.split_drain (rest ++ chunk)
  obtain ⟨hframes, hopen⟩ := hpeaceful.of_now
  have hneed := need_le_of_frames (fun f hf => ⟨hpeaceful.isFrame f (List.mem_append_right now hf),
    hpeaceful.length_le f (List.mem_append_right now hf)⟩) hpeaceful.need_last hlater
  obtain ⟨hroomy, hstuck⟩ := hholds.read_handles hfits hnow hframes hopen hsplit hneed
  refine ⟨now, later, rfl, ?_, ?_⟩
  · intro hroom
    obtain ⟨c', hread, hholds', hprogress⟩ := hroomy hroom
    exact ⟨c', hread, ⟨_, hholds', hsplit, hlater⟩, hpeaceful.of_later hholds'.1 hprogress,
      hprogress⟩
  · intro hfull c' hread
    obtain ⟨hclosed, hprogress⟩ := hstuck hfull c' hread
    exact ⟨hclosed, (congrArg Progress.closeReason hprogress).trans
      (WSConnection.closeReason_handleFrames hopen)⟩

/-- With no byte to come, only the part that is never complete is left. -/
theorem Expects.nothing {todo : List Bytes} (h : Expects recvBufSize c todo last [])
    (hframes : ∀ f ∈ todo, wsFraming.IsFrame f) : todo = [] ∧ Holds recvBufSize c last := by
  obtain ⟨rest, hholds, hsplit, hrest⟩ := h
  rw [List.append_nil] at hrest
  cases todo with
  | nil =>
      rw [List.flatten_nil, List.nil_append] at hrest
      exact ⟨rfl, hrest ▸ hholds⟩
  | cons f todo =>
      rw [List.flatten_cons, List.append_assoc] at hrest
      rw [hrest, (hframes f List.mem_cons_self).split] at hsplit
      cases hsplit

/-- The run: the frames have been handled one by one if every read is roomy, and the connection is
closed without a reason from the other end if one is not. There may be complete frames in the buffer
if there is a read to come. -/
theorem Holds.runFrom : ∀ (reads : List Bytes) {c : WSConnection} {rest : Bytes}
    {todo : List Bytes}, Holds recvBufSize c rest →
    (reads = [] → wsFraming.split rest = none) →
    rest ++ reads.flatten = todo.flatten ++ last → Peaceful recvBufSize c todo last →
    (transport recvBufSize).AlongFrom (Fits recvBufSize) (some c) reads →
    ((transport recvBufSize).AlongFrom (Roomy recvBufSize) (some c) reads →
      ∃ c' ∈ (transport recvBufSize).runFrom (some c) reads, Holds recvBufSize c' last ∧
        c'.progress = (c.handleFrames recvBufSize todo).progress) ∧
    (¬ (transport recvBufSize).AlongFrom (Roomy recvBufSize) (some c) reads →
      ∀ c' ∈ (transport recvBufSize).runFrom (some c) reads,
        c'.conn.connected = false ∧ c'.closeReason = c.closeReason) := by
  intro reads
  induction reads with
  | nil =>
      intro c rest todo hholds hsplit hrest hpeaceful _
      have hexpects : Expects recvBufSize c todo last [] := ⟨rest, hholds, hsplit rfl, hrest⟩
      obtain ⟨rfl, hholds'⟩ := hexpects.nothing hpeaceful.isFrame
      exact ⟨fun _ => ⟨c, rfl, hholds', rfl⟩, fun hnot => absurd trivial hnot⟩
  | cons chunk reads ih =>
      intro c rest todo hholds _ hrest hpeaceful hfits
      have hstep : (transport recvBufSize).step (some c) chunk = c.read recvBufSize chunk :=
        step_of_connected hholds.1 chunk
      have hrun : (transport recvBufSize).runFrom (some c) (chunk :: reads) =
          (transport recvBufSize).runFrom (c.read recvBufSize chunk) reads := by
        rw [← hstep]
        rfl
      have halong : (transport recvBufSize).AlongFrom (Roomy recvBufSize) (some c)
          (chunk :: reads) ↔ Roomy recvBufSize (some c) chunk ∧
            (transport recvBufSize).AlongFrom (Roomy recvBufSize) (c.read recvBufSize chunk)
              reads := by
        rw [← hstep]
        exact Iff.rfl
      obtain ⟨now, later, rfl, hroomy, hstuck⟩ :=
        hholds.read_expects hrest hpeaceful (hfits.1 c rfl hholds.1).2
      rw [hrun, halong]
      by_cases h : Roomy recvBufSize (some c) chunk
      · obtain ⟨c', hread, ⟨rest', hholds', hsplit', hrest'⟩, hpeaceful', hprogress⟩ := hroomy h
        have hfits' := hfits.2
        rw [hstep, hread] at hfits'
        obtain ⟨hall, hnone⟩ := ih hholds' (fun _ => hsplit') hrest' hpeaceful' hfits'
        have hreason : c'.closeReason = c.closeReason :=
          (congrArg Progress.closeReason hprogress).trans
            (WSConnection.closeReason_handleFrames hpeaceful.of_now.2)
        rw [WSConnection.progress_handleFrames hprogress,
          ← WSConnection.handleFrames_append] at hall
        rw [hreason] at hnone
        rw [hread]
        exact ⟨fun hboth => hall hboth.2, fun hnot => hnone fun hlater => hnot ⟨h, hlater⟩⟩
      · -- once closed, the connection stays so, whatever is still to come
        have hclosed := hstuck h
        rw [runFrom_closed fun c' hc' => (hclosed c' hc').1]
        exact ⟨fun hboth => absurd hboth.1 h, fun _ => hclosed⟩

end Run

/-- A connection after the handshake. -/
def opened (recvBufSize : Nat) : WSConnection :=
  { conn := { recvbuf := List.replicate recvBufSize 0 } }

theorem holds_opened (recvBufSize : Nat) : Holds recvBufSize (opened recvBufSize) [] :=
  ⟨rfl, [], List.replicate recvBufSize 0, rfl, List.length_replicate, rfl, rfl⟩

/-- **Any stream, cut anyhow.** The bytes of the reads are frames and perhaps a part of one more. The
reads come to the frames handled one after the other, with that part left in the buffer, if and only
if no read fills the buffer to its end while more than half of it is the beginning of one frame. -/
theorem handled_iff (recvBufSize : Nat) (reads : List Bytes)
    (hfits : (transport recvBufSize).Along (Fits recvBufSize) reads)
    (hclose : ∀ f ∈ (wsFraming.drain reads.flatten).1, opcodeOf f ≠ opcodeClose)
    (hsize : ∀ f ∈ (wsFraming.drain reads.flatten).1, f.length ≤ recvBufSize)
    (hopen : ((opened recvBufSize).handleFrames recvBufSize
      (wsFraming.drain reads.flatten).1).conn.connected = true)
    (hlast : ∀ n, wsFraming.need (wsFraming.drain reads.flatten).2 = some n → n ≤ recvBufSize) :
    (∃ c ∈ (transport recvBufSize).run reads,
        Holds recvBufSize c (wsFraming.drain reads.flatten).2 ∧
        c.progress = ((opened recvBufSize).handleFrames recvBufSize
          (wsFraming.drain reads.flatten).1).progress) ↔
      (transport recvBufSize).Along (Roomy recvBufSize) reads := by
  have hstream : [] ++ reads.flatten = (wsFraming.drain reads.flatten).1.flatten ++
      (wsFraming.drain reads.flatten).2 := (wsFraming.flatten_drain reads.flatten).symm
  have hframe : ∀ f ∈ (wsFraming.drain reads.flatten).1, wsFraming.IsFrame f :=
    Framing.forall_mem_drain (fun _ _ _ => isFrame_of_split) reads.flatten
  obtain ⟨hall, hnone⟩ := (holds_opened recvBufSize).runFrom reads (fun _ => split_nil) hstream
    ⟨hframe, hclose, hsize, hopen, wsFraming.split_drain reads.flatten, hlast⟩ hfits
  constructor
  · rintro ⟨c, hc, hholds, -⟩
    by_contra hstuck
    obtain ⟨hclosed, -⟩ := hnone hstuck c hc
    rw [hholds.1] at hclosed
    cases hclosed
  · exact hall

/-- A fragmented text message with a heartbeat in it, cut within both. -/
def interruptedReads : List Bytes :=
  [[0x01, 0x01, 0x78, 0x89], [0x00, 0x80], [0x01, 0x79, 0x81]]

theorem handled_interrupted :
    (∃ c ∈ (transport 4096).run interruptedReads, Holds 4096 c [0x81] ∧
        c.progress = ⟨[], 1, (1006, []), [(9, []), (1, [0x78, 0x79])]⟩) ↔
      (transport 4096).Along (Roomy 4096) interruptedReads := by
  have hdrain : wsFraming.drain interruptedReads.flatten =
      ([[0x01, 0x01, 0x78], [0x89, 0x00], [0x80, 0x01, 0x79]], [0x81]) := by decide
  have hfits : (transport 4096).Along (Fits 4096) interruptedReads := by decide +kernel
  have hclose : ∀ f ∈ (wsFraming.drain interruptedReads.flatten).1, opcodeOf f ≠ opcodeClose := by
    rw [hdrain]
    decide
  have hsize : ∀ f ∈ (wsFraming.drain interruptedReads.flatten).1, f.length ≤ 4096 := by
    rw [hdrain]
    decide
  have hhandled : ((opened 4096).handleFrames 4096
      (wsFraming.drain interruptedReads.flatten).1).progress =
        ⟨[], 1, (1006, []), [(9, []), (1, [0x78, 0x79])]⟩ := by
    rw [hdrain]
    decide
  have hopen : ((opened 4096).handleFrames 4096
      (wsFraming.drain interruptedReads.flatten).1).conn.connected = true := by
    rw [hdrain]
    decide
  have hlast : ∀ n, wsFraming.need (wsFraming.drain interruptedReads.flatten).2 = some n →
      n ≤ 4096 := by
    rw [hdrain]
    intro n hn
    cases hn
  have hiff := handled_iff 4096 interruptedReads hfits hclose hsize hopen hlast
  rw [hhandled] at hiff
  rw [show (wsFraming.drain interruptedReads.flatten).2 = [0x81] from congrArg Prod.snd hdrain]
    at hiff
  exact hiff

end DaraChat.Websocket
