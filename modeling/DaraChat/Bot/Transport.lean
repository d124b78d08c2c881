import DaraChat.Bot.Frames

set_option autoImplicit false

/-! # Delivery of frames to the bot

The frames that a server sends reach `onWSMsg` one by one, in order and unmasked, however the bytes
are cut into reads, with one exception (`delivers_iff`): a read that fills the receive buffer to
its end while more than half of the buffer is the beginning of one frame. That frame would fit, but
its beginning starts in the first half, where `read` does not move it to the front, and there is no
space left behind it: the connection is closed with "recv buf full". For a buffer of an odd size
there is one more case, the beginning of the frame being moved onto itself.
-/

namespace DaraChat.Websocket

/-! ## The draining loop -/

namespace WSConnection

variable (recvBufSize : Nat) (c : WSConnection)

/-- The messages of several frames are handed to `onWSMsg`. -/
def dispatch (c : WSConnection) (messages : List (UInt8 × Bytes)) : WSConnection :=
  { c with dispatched := c.dispatched ++ messages }

/-- The loop stops at an incomplete frame. -/
theorem handleWSMsgLoop_of_incomplete {rest : Bytes} (hsplit : wsFraming.split rest = none)
    (hfits : ∀ n, wsFraming.need rest = some n → n ≤ recvBufSize) (turns : Nat) :
    handleWSMsgLoop recvBufSize turns c rest = (c, rest, rest.length) := by
  cases turns with
  | zero => rfl
  | succ turns =>
      rw [handleWSMsgLoop, handleOneWSMsg_of_incomplete recvBufSize c hsplit hfits]
      split
      · rename_i hlength
        rw [hlength]
      · exact if_pos rfl

/-- A complete frame is one turn of the loop. -/
theorem handleWSMsgLoop_encode (f : WSFrame) (rest : Bytes) (turns : Nat) :
    handleWSMsgLoop recvBufSize (turns + 1) c (f.encode ++ rest) =
      let (c, data, left) :=
        handleWSMsgLoop recvBufSize turns (c.onWSMsg f.opcode.byte f.payload) rest
      (c, f.header ++ f.payload ++ data, left) := by
  have hlength : (f.encode ++ rest).length = (f.header ++ f.payload).length + rest.length := by
    simp only [WSFrame.encode, List.length_append, WSFrame.length_body]
  have htwo := f.two_le_header
  have hpos : 0 < (f.header ++ f.payload).length := by
    rw [List.length_append]
    omega
  have hopcode : opcodeOf (f.encode ++ rest) ≠ opcodeClose := by
    rw [f.encode_append, f.opcodeOf_header]
    cases f.opcode <;> decide
  have hconsumed : (f.encode ++ rest).length - rest.length = (f.header ++ f.payload).length := by
    omega
  rw [handleWSMsgLoop, if_neg (by omega), handleOneWSMsg_encode]
  simp only [hconsumed, ← List.append_assoc, List.drop_left, List.take_left]
  rw [if_neg (by omega), if_neg hopcode]

/-- **The loop dispatches the complete frames** and leaves the beginning of the next one. The bytes
keep their places. -/
theorem handleWSMsgLoop_frames (frames : List WSFrame) {rest : Bytes}
    (hsplit : wsFraming.split rest = none)
    (hfits : ∀ n, wsFraming.need rest = some n → n ≤ recvBufSize) :
    ∀ (turns : Nat) (c : WSConnection),
      ((frames.map WSFrame.encode).flatten ++ rest).length ≤ turns →
      ∃ data, data.length = (frames.map WSFrame.encode).flatten.length ∧
        handleWSMsgLoop recvBufSize turns c ((frames.map WSFrame.encode).flatten ++ rest) =
          (c.dispatch (frames.map WSFrame.message), data ++ rest, rest.length) := by
  induction frames with
  | nil =>
      intro turns c _
      refine ⟨[], rfl, ?_⟩
      have hsame : c.dispatch [] = c := by
        cases c
        simp [dispatch]
      simp only [List.map_nil, List.flatten_nil, List.nil_append, hsame]
      exact handleWSMsgLoop_of_incomplete recvBufSize c hsplit hfits turns
  | cons f frames ih =>
      intro turns c hturns
      rw [List.map_cons, List.flatten_cons, List.append_assoc] at hturns ⊢
      have htwo := f.two_le_header
      have hencode : f.encode.length = f.header.length + f.payload.length := by
        simp [WSFrame.encode]
      rw [List.length_append] at hturns
      obtain ⟨turns, rfl⟩ : ∃ k, turns = k + 1 := ⟨turns - 1, by omega⟩
      obtain ⟨data, hlength, hloop⟩ := ih turns (c.onWSMsg f.opcode.byte f.payload) (by omega)
      refine ⟨f.header ++ f.payload ++ data, ?_, ?_⟩
      · rw [List.length_append, List.length_append, List.length_append, hlength, hencode]
      · rw [handleWSMsgLoop_encode, hloop]
        simp [dispatch, onWSMsg, WSFrame.message]

end WSConnection

/-! ## The receive buffer -/

/-- An open connection whose receive buffer holds `rest` from `head` to `tail`. -/
def Holds (recvBufSize : Nat) (c : WSConnection) (rest : Bytes) : Prop :=
  c.conn.connected = true ∧ ∃ before after,
    c.conn.recvbuf = before ++ (rest ++ after) ∧ c.conn.recvbuf.length = recvBufSize ∧
      c.conn.head = before.length ∧ c.conn.tail = before.length + rest.length

/-- The bytes that the handler has not consumed. -/
def WSConnection.pending (c : WSConnection) : Bytes := slice c.conn.recvbuf c.conn.head c.conn.tail

/-- What `read` stores behind the bytes that are there. -/
def WSConnection.store (c : WSConnection) (chunk : Bytes) : WSConnection :=
  { c with conn := { c.conn with
    recvbuf := writeAt c.conn.recvbuf c.conn.tail chunk
    tail := c.conn.tail + chunk.length } }

/-- What the handler leaves in their place. -/
def WSConnection.replace (c : WSConnection) (data : Bytes) : WSConnection :=
  { c with conn := { c.conn with recvbuf := writeAt c.conn.recvbuf c.conn.head data } }

theorem WSConnection.read_eq (recvBufSize : Nat) (c : WSConnection) (chunk : Bytes) :
    c.read recvBufSize chunk =
      let (c, data, remaining) := (c.store chunk).handleWSMsg recvBufSize (c.store chunk).pending
      (c.replace data).keepLeftover recvBufSize remaining := rfl

section Buffer

variable {recvBufSize : Nat} {c : WSConnection} {rest : Bytes}

theorem Holds.pending_eq (h : Holds recvBufSize c rest) : c.pending = rest := by
  obtain ⟨-, before, after, hbuf, -, hhead, htail⟩ := h
  rw [WSConnection.pending, hbuf, hhead, htail]
  exact slice_append_right

theorem Holds.length_le (h : Holds recvBufSize c rest) :
    c.conn.head + rest.length = c.conn.tail ∧ c.conn.tail ≤ recvBufSize := by
  obtain ⟨-, before, after, hbuf, hsize, hhead, htail⟩ := h
  have hlength := congrArg List.length hbuf
  rw [List.length_append, List.length_append] at hlength
  omega

theorem Holds.store (h : Holds recvBufSize c rest) {chunk : Bytes}
    (hfits : c.conn.tail + chunk.length ≤ recvBufSize) :
    Holds recvBufSize (c.store chunk) (rest ++ chunk) := by
  obtain ⟨hconnected, before, after, hbuf, hsize, hhead, htail⟩ := h
  have hlength := congrArg List.length hbuf
  rw [List.length_append, List.length_append] at hlength
  have hold : (after.take chunk.length).length = chunk.length :=
    List.length_take_of_le (by omega)
  have hwrite : writeAt c.conn.recvbuf c.conn.tail chunk =
      (before ++ rest) ++ (chunk ++ after.drop chunk.length) := by
    have hsplit : c.conn.recvbuf =
        (before ++ rest) ++ (after.take chunk.length ++ after.drop chunk.length) := by
      rw [hbuf, List.take_append_drop, List.append_assoc]
    rw [hsplit, htail, ← List.length_append]
    exact writeAt_append hold.symm
  refine ⟨hconnected, before, after.drop chunk.length, ?_, ?_, hhead, ?_⟩
  · simp only [WSConnection.store, hwrite, List.append_assoc]
  · simp only [WSConnection.store, hwrite, List.length_append, List.length_drop]
    omega
  · simp only [WSConnection.store, List.length_append]
    omega

theorem Holds.replace (h : Holds recvBufSize c rest) {data : Bytes}
    (hdata : data.length = rest.length) : Holds recvBufSize (c.replace data) data := by
  obtain ⟨hconnected, before, after, hbuf, hsize, hhead, htail⟩ := h
  have hlength := congrArg List.length hbuf
  rw [List.length_append, List.length_append] at hlength
  have hwrite : writeAt c.conn.recvbuf c.conn.head data = before ++ (data ++ after) := by
    rw [hbuf, hhead]
    exact writeAt_append hdata
  refine ⟨hconnected, before, after, hwrite, ?_, hhead, ?_⟩
  · simp only [WSConnection.replace, hwrite, List.length_append]
    omega
  · rw [hdata]
    exact htail

/-- The leftover stays in the buffer, unless it is stuck at the end of it. -/
theorem Holds.keepLeftover {data : Bytes} (h : Holds recvBufSize c (data ++ rest))
    (hroom : c.conn.tail = recvBufSize → 2 * rest.length ≤ recvBufSize) :
    ∃ c', c.keepLeftover recvBufSize rest.length = some c' ∧ Holds recvBufSize c' rest ∧
      c'.dispatched = c.dispatched := by
  obtain ⟨hconnected, before, after, hbuf, hsize, hhead, htail⟩ := h
  have hlength := congrArg List.length hbuf
  simp only [List.length_append] at hlength htail
  unfold WSConnection.keepLeftover
  split
  · rename_i hzero
    refine ⟨_, rfl, ⟨hconnected, [], c.conn.recvbuf, ?_, hsize, rfl, ?_⟩, rfl⟩
    · rw [List.eq_nil_of_length_eq_zero hzero]
      rfl
    · exact ((Nat.zero_add _).trans hzero).symm
  · have hstart : c.conn.tail - rest.length = (before ++ data).length := by
      rw [List.length_append]
      omega
    have hbuf' : c.conn.recvbuf = (before ++ data) ++ (rest ++ after) := by
      rw [hbuf, List.append_assoc, List.append_assoc]
    simp only [hstart]
    split
    · rename_i hhalf
      rw [List.length_append] at hhalf
      have hnoOverlap : ¬ (before ++ data).length < rest.length := by
        rw [List.length_append]
        omega
      have hmove : writeAt c.conn.recvbuf 0 rest = rest ++ c.conn.recvbuf.drop rest.length := by
        simp [writeAt]
      rw [if_neg hnoOverlap, hbuf', slice_append_right, ← hbuf', hmove]
      refine ⟨_, rfl, ⟨hconnected, [], c.conn.recvbuf.drop rest.length, rfl, ?_, rfl, ?_⟩, rfl⟩
      · simp only [List.length_append, List.length_drop]
        omega
      · exact (Nat.zero_add _).symm
    · rename_i hhalf
      rw [List.length_append] at hhalf
      rw [if_neg (by omega)]
      refine ⟨_, rfl, ⟨hconnected, before ++ data, after, hbuf', hsize, rfl, ?_⟩, rfl⟩
      simp only [List.length_append]
      omega

/-- A leftover of more than half of the buffer at the end of it is the end of the connection. -/
theorem Holds.keepLeftover_stuck {data : Bytes} (h : Holds recvBufSize c (data ++ rest))
    (hfull : c.conn.tail = recvBufSize) (hstuck : recvBufSize < 2 * rest.length) :
    ∀ c', c.keepLeftover recvBufSize rest.length = some c' → c'.conn.connected = false := by
  intro c' hkeep
  obtain ⟨hconnected, -⟩ := h
  unfold WSConnection.keepLeftover at hkeep
  rw [if_neg (by omega)] at hkeep
  simp only at hkeep
  split at hkeep
  · rw [if_pos (by omega)] at hkeep
    cases hkeep
  · obtain rfl := Option.some.inj hkeep
    simp [SocketTcpConnection.close, hconnected]

end Buffer

/-! ## One read -/

/-- The read is offered some space and gets no more than fits there. A closed connection reads
nothing. -/
def Fits (recvBufSize : Nat) (s : Option WSConnection) (chunk : Bytes) : Prop :=
  ∀ c ∈ s, c.conn.connected = true → 0 < chunk.length ∧ c.conn.tail + chunk.length ≤ recvBufSize

/-- The read does not fill the buffer to its end while more than half of the buffer is the beginning
of a frame that is not complete. -/
def Roomy (recvBufSize : Nat) (s : Option WSConnection) (chunk : Bytes) : Prop :=
  ∀ c ∈ s, c.conn.connected = true → c.conn.tail + chunk.length = recvBufSize →
    2 * (wsFraming.drain (c.pending ++ chunk)).2.length ≤ recvBufSize

instance (recvBufSize : Nat) (s : Option WSConnection) (chunk : Bytes) :
    Decidable (Fits recvBufSize s chunk) :=
  inferInstanceAs (Decidable (∀ c ∈ s, c.conn.connected = true →
    0 < chunk.length ∧ c.conn.tail + chunk.length ≤ recvBufSize))

instance (recvBufSize : Nat) (s : Option WSConnection) (chunk : Bytes) :
    Decidable (Roomy recvBufSize s chunk) :=
  inferInstanceAs (Decidable (∀ c ∈ s, c.conn.connected = true →
    c.conn.tail + chunk.length = recvBufSize →
      2 * (wsFraming.drain (c.pending ++ chunk)).2.length ≤ recvBufSize))

section Read

variable {recvBufSize : Nat} {c : WSConnection} {rest chunk left : Bytes} {frames : List WSFrame}

/-- The read up to the leftover: the frames that are complete now are dispatched, and in the buffer
the leftover comes after what they have become. -/
theorem Holds.read_eq (h : Holds recvBufSize c rest)
    (hfits : c.conn.tail + chunk.length ≤ recvBufSize)
    (hframes : rest ++ chunk = (frames.map WSFrame.encode).flatten ++ left)
    (hsplit : wsFraming.split left = none)
    (hneed : ∀ n, wsFraming.need left = some n → n ≤ recvBufSize) :
    ∃ c' data, c.read recvBufSize chunk = c'.keepLeftover recvBufSize left.length ∧
      Holds recvBufSize c' (data ++ left) ∧ c'.conn.tail = c.conn.tail + chunk.length ∧
      c'.dispatched = c.dispatched ++ frames.map WSFrame.message := by
  obtain ⟨data, hdata, hloop⟩ := WSConnection.handleWSMsgLoop_frames recvBufSize frames hsplit hneed
    (rest ++ chunk).length (c.store chunk) (by rw [hframes])
  rw [← hframes] at hloop
  have hstored := h.store hfits
  refine ⟨((c.store chunk).dispatch (frames.map WSFrame.message)).replace (data ++ left), data,
    ?_, ?_, rfl, rfl⟩
  · rw [WSConnection.read_eq, hstored.pending_eq, WSConnection.handleWSMsg, hloop]
  · have hdispatched : Holds recvBufSize ((c.store chunk).dispatch (frames.map WSFrame.message))
        (rest ++ chunk) := hstored
    refine hdispatched.replace ?_
    rw [hframes, List.length_append, List.length_append, hdata]

/-- **One read.** It dispatches the frames that are complete now and keeps the beginning of the next
one, if there is room for more of it. -/
theorem Holds.read (h : Holds recvBufSize c rest)
    (hfits : c.conn.tail + chunk.length ≤ recvBufSize)
    (hframes : rest ++ chunk = (frames.map WSFrame.encode).flatten ++ left)
    (hsplit : wsFraming.split left = none)
    (hneed : ∀ n, wsFraming.need left = some n → n ≤ recvBufSize) :
    (Roomy recvBufSize (some c) chunk → ∃ c', c.read recvBufSize chunk = some c' ∧
      Holds recvBufSize c' left ∧
        c'.dispatched = c.dispatched ++ frames.map WSFrame.message) ∧
    (¬ Roomy recvBufSize (some c) chunk →
      ∀ c', c.read recvBufSize chunk = some c' → c'.conn.connected = false) := by
  obtain ⟨c', data, hread, hholds, htail, hdispatched⟩ := h.read_eq hfits hframes hsplit hneed
  have hdrain : (wsFraming.drain (c.pending ++ chunk)).2 = left := by
    rw [h.pending_eq, hframes, Framing.drain_flatten_append isFrame_of_mem_map hsplit]
  have hroomy : Roomy recvBufSize (some c) chunk ↔
      (c'.conn.tail = recvBufSize → 2 * left.length ≤ recvBufSize) := by
    rw [htail, ← hdrain]
    constructor
    · exact fun hroom => hroom c rfl h.1
    · intro hroom c'' hc'' _
      obtain rfl := Option.some.inj hc''
      exact hroom
  rw [hread, hroomy, ← hdispatched]
  constructor
  · exact hholds.keepLeftover
  · intro hstuck
    obtain ⟨hfull, hleft⟩ := Classical.not_imp.mp hstuck
    exact hholds.keepLeftover_stuck hfull (Nat.lt_of_not_le hleft)

end Read

/-! ## All reads -/

/-- After the reads the connection is open, and exactly the frames have been dispatched, in their
order and unmasked. -/
def Delivers (recvBufSize : Nat) (frames : List WSFrame) (reads : List Bytes) : Prop :=
  ∃ c ∈ (transport recvBufSize).run reads, c.conn.connected = true ∧
    c.dispatched = frames.map WSFrame.message

instance (recvBufSize : Nat) (frames : List WSFrame) (reads : List Bytes) :
    Decidable (Delivers recvBufSize frames reads) :=
  inferInstanceAs (Decidable (∃ c ∈ (transport recvBufSize).run reads, c.conn.connected = true ∧
    c.dispatched = frames.map WSFrame.message))

section Run

variable {recvBufSize : Nat} {c : WSConnection}

theorem step_of_connected (h : c.conn.connected = true) (chunk : Bytes) :
    (transport recvBufSize).step (some c) chunk = c.read recvBufSize chunk := by
  show (if c.conn.connected = true then c.read recvBufSize chunk else some c) = _
  exact if_pos h

/-- Nothing happens to a connection that is closed. -/
theorem runFrom_closed {s : Option WSConnection} (h : ∀ c ∈ s, c.conn.connected = false)
    (reads : List Bytes) : (transport recvBufSize).runFrom s reads = s := by
  induction reads with
  | nil => rfl
  | cons chunk reads ih =>
      have hstep : (transport recvBufSize).step s chunk = s := by
        cases s with
        | none => rfl
        | some c =>
            have hclosed := h c rfl
            simp [transport, pollStep, hclosed]
      show (transport recvBufSize).runFrom ((transport recvBufSize).step s chunk) reads = s
      rw [hstep, ih]

/-- A frame that has begun to arrive fits the buffer. -/
theorem need_le {todo : List WSFrame} (hsize : ∀ f ∈ todo, f.encode.length ≤ recvBufSize)
    {left future : Bytes} (h : left ++ future = (todo.map WSFrame.encode).flatten) :
    ∀ n, wsFraming.need left = some n → n ≤ recvBufSize := by
  intro n hneed
  cases todo with
  | nil =>
      obtain ⟨rfl, -⟩ := List.append_eq_nil_iff.mp h
      cases hneed
  | cons f todo =>
      rw [Framing.need_of_append_eq hneed f.isFrame_encode h]
      exact hsize f List.mem_cons_self

/-- The connection is open, its buffer holds the beginning of a frame, and what it holds and the
bytes to come are the frames to be dispatched. -/
def Awaits (recvBufSize : Nat) (c : WSConnection) (todo : List WSFrame) (future : Bytes) : Prop :=
  ∃ rest, Holds recvBufSize c rest ∧ wsFraming.split rest = none ∧
    rest ++ future = (todo.map WSFrame.encode).flatten

theorem awaits_init {frames : List WSFrame} {future : Bytes}
    (h : future = (frames.map WSFrame.encode).flatten) :
    Awaits recvBufSize { conn := { recvbuf := List.replicate recvBufSize 0 } } frames future :=
  ⟨[], ⟨rfl, [], List.replicate recvBufSize 0, rfl, List.length_replicate, rfl, rfl⟩, split_nil, h⟩

theorem Awaits.connected {todo : List WSFrame} {future : Bytes}
    (h : Awaits recvBufSize c todo future) : c.conn.connected = true := by
  obtain ⟨rest, hholds, -⟩ := h
  exact hholds.1

/-- Nothing is left to be dispatched when no byte is to come. -/
theorem Awaits.eq_nil {todo : List WSFrame} (h : Awaits recvBufSize c todo []) : todo = [] := by
  obtain ⟨rest, -, hsplit, hrest⟩ := h
  cases todo with
  | nil => rfl
  | cons f todo =>
      rw [List.append_nil, List.map_cons, List.flatten_cons] at hrest
      rw [hrest, f.isFrame_encode.split] at hsplit
      cases hsplit

/-- The step: the frames that are complete now, and those that are awaited later. -/
theorem Awaits.read {todo : List WSFrame} {chunk future : Bytes}
    (h : Awaits recvBufSize c todo (chunk ++ future))
    (hsize : ∀ f ∈ todo, f.encode.length ≤ recvBufSize)
    (hfits : c.conn.tail + chunk.length ≤ recvBufSize) :
    ∃ now later, todo = now ++ later ∧
      (Roomy recvBufSize (some c) chunk → ∃ c', c.read recvBufSize chunk = some c' ∧
        Awaits recvBufSize c' later future ∧
          c'.dispatched = c.dispatched ++ now.map WSFrame.message) ∧
      (¬ Roomy recvBufSize (some c) chunk →
        ∀ c', c.read recvBufSize chunk = some c' → c'.conn.connected = false) := by
  obtain ⟨rest, hholds, -, hrest⟩ := h
  rw [← List.append_assoc] at hrest
  obtain ⟨now, later, rfl, hnow, hlater⟩ := arrived hrest
  have hsplit := wsFraming.split_drain (rest ++ chunk)
  -- the frame that has begun fits the buffer, so it is not refused for its length
  have hneed := need_le (fun f hf => hsize f (List.mem_append_right now hf)) hlater
  obtain ⟨hroomy, hstuck⟩ := hholds.read hfits hnow hsplit hneed
  refine ⟨now, later, rfl, ?_, hstuck⟩
  intro hroom
  obtain ⟨c', hread, hholds', hdispatched⟩ := hroomy hroom
  exact ⟨c', hread, ⟨_, hholds', hsplit, hlater⟩, hdispatched⟩

/-- Frames of which all but the last byte fits half of the buffer do not get stuck. -/
theorem Awaits.roomy {todo : List WSFrame} {chunk future : Bytes}
    (h : Awaits recvBufSize c todo (chunk ++ future))
    (hsmall : ∀ f ∈ todo, 2 * f.encode.length ≤ recvBufSize + 2) :
    Roomy recvBufSize (some c) chunk := by
  obtain ⟨rest, hholds, -, hrest⟩ := h
  rw [← List.append_assoc] at hrest
  obtain ⟨now, later, rfl, -, hlater⟩ := arrived hrest
  have hsplit := wsFraming.split_drain (rest ++ chunk)
  intro c' hc' _ _
  obtain rfl := Option.some.inj hc'
  rw [hholds.pending_eq]
  cases later with
  | nil =>
      obtain ⟨hnil, -⟩ := List.append_eq_nil_iff.mp hlater
      rw [hnil]
      exact Nat.zero_le _
  | cons f later =>
      -- what is left is not all of the frame
      have hlt := Framing.length_lt_of_append_eq hsplit f.isFrame_encode hlater
      have hle := hsmall f (List.mem_append_right now List.mem_cons_self)
      omega

/-- The run: what is awaited is dispatched if and only if every read is roomy. -/
theorem Awaits.runFrom_iff : ∀ (reads : List Bytes) {c : WSConnection} {todo : List WSFrame},
    Awaits recvBufSize c todo reads.flatten → (∀ f ∈ todo, f.encode.length ≤ recvBufSize) →
    (transport recvBufSize).AlongFrom (Fits recvBufSize) (some c) reads →
    ((∃ c' ∈ (transport recvBufSize).runFrom (some c) reads, c'.conn.connected = true ∧
        c'.dispatched = c.dispatched ++ todo.map WSFrame.message) ↔
      (transport recvBufSize).AlongFrom (Roomy recvBufSize) (some c) reads) := by
  intro reads
  induction reads with
  | nil =>
      intro c todo hawaits _ _
      obtain rfl := hawaits.eq_nil
      exact ⟨fun _ => trivial, fun _ => ⟨c, rfl, hawaits.connected, (List.append_nil _).symm⟩⟩
  | cons chunk reads ih =>
      intro c todo hawaits hsize hfits
      have hstep : (transport recvBufSize).step (some c) chunk = c.read recvBufSize chunk :=
        step_of_connected hawaits.connected chunk
      have hrun : (transport recvBufSize).runFrom (some c) (chunk :: reads) =
          (transport recvBufSize).runFrom (c.read recvBufSize chunk) reads := by
        rw [← hstep]
        rfl
      obtain ⟨now, later, rfl, hroomy, hstuck⟩ :=
        hawaits.read hsize (hfits.1 c rfl hawaits.connected).2
      rw [hrun]
      by_cases h : Roomy recvBufSize (some c) chunk
      · obtain ⟨c', hread, hawaits', hdispatched⟩ := hroomy h
        have hfits' := hfits.2
        rw [hstep, hread] at hfits'
        have hrest := ih hawaits' (fun f hf => hsize f (List.mem_append_right now hf)) hfits'
        rw [hdispatched, List.append_assoc, ← List.map_append] at hrest
        -- `AlongFrom` goes on from the state after the step
        rw [hread, hrest, ← hread, ← hstep]
        exact ⟨fun hlater => ⟨h, hlater⟩, fun hboth => hboth.2⟩
      · -- once closed, the connection stays so, whatever is still to come
        have hclosed := hstuck h
        rw [runFrom_closed hclosed]
        constructor
        · rintro ⟨c', hc', hopen, -⟩
          rw [hclosed c' hc'] at hopen
          cases hopen
        · exact fun hboth => absurd hboth.1 h

/-- The run of small frames. -/
theorem Awaits.along_roomy : ∀ (reads : List Bytes) {c : WSConnection} {todo : List WSFrame},
    Awaits recvBufSize c todo reads.flatten → (∀ f ∈ todo, f.encode.length ≤ recvBufSize) →
    (∀ f ∈ todo, 2 * f.encode.length ≤ recvBufSize + 2) →
    (transport recvBufSize).AlongFrom (Fits recvBufSize) (some c) reads →
    (transport recvBufSize).AlongFrom (Roomy recvBufSize) (some c) reads := by
  intro reads
  induction reads with
  | nil => exact fun _ _ _ _ => trivial
  | cons chunk reads ih =>
      intro c todo hawaits hsize hsmall hfits
      have hstep : (transport recvBufSize).step (some c) chunk = c.read recvBufSize chunk :=
        step_of_connected hawaits.connected chunk
      have hroom := hawaits.roomy hsmall
      obtain ⟨now, later, rfl, hroomy, -⟩ :=
        hawaits.read hsize (hfits.1 c rfl hawaits.connected).2
      obtain ⟨c', hread, hawaits', -⟩ := hroomy hroom
      refine ⟨hroom, ?_⟩
      have hfits' := hfits.2
      rw [hstep, hread] at hfits' ⊢
      exact ih hawaits' (fun f hf => hsize f (List.mem_append_right now hf))
        (fun f hf => hsmall f (List.mem_append_right now hf)) hfits'

end Run

/-- **Delivery.** For frames each of which fits the receive buffer, and reads that cut their bytes
anyhow, the frames are delivered if and only if no read fills the buffer to its end while more than
half of it is the beginning of one frame. -/
theorem delivers_iff (recvBufSize : Nat) (frames : List WSFrame) (reads : List Bytes)
    (hsize : ∀ f ∈ frames, f.encode.length ≤ recvBufSize)
    (hreads : reads.flatten = (frames.map WSFrame.encode).flatten)
    (hfits : (transport recvBufSize).Along (Fits recvBufSize) reads) :
    Delivers recvBufSize frames reads ↔
      (transport recvBufSize).Along (Roomy recvBufSize) reads := by
  exact (awaits_init hreads).runFrom_iff reads hsize hfits

/-- A text message and a heartbeat. -/
def coalesced : List WSFrame :=
  [⟨.text, .short, none, [120], by decide⟩, ⟨.ping, .short, none, [], by decide⟩]

/-- They come with the text cut in its header and the header of the heartbeat cut in two. -/
def coalescedReads : List Bytes := [[0x81], [1, 120, 0x89], [0]]

theorem delivers_coalesced :
    (∀ f ∈ coalesced, f.encode.length ≤ 4096) ∧
      coalescedReads.flatten = (coalesced.map WSFrame.encode).flatten ∧
      (transport 4096).Along (Fits 4096) coalescedReads ∧ Delivers 4096 coalesced coalescedReads :=
  have hsize : ∀ f ∈ coalesced, f.encode.length ≤ 4096 := by decide
  have hreads : coalescedReads.flatten = (coalesced.map WSFrame.encode).flatten := by decide
  have hfits : (transport 4096).Along (Fits 4096) coalescedReads := by decide +kernel
  have hroomy : (transport 4096).Along (Roomy 4096) coalescedReads := by decide +kernel
  ⟨hsize, hreads, hfits, (delivers_iff 4096 coalesced coalescedReads hsize hreads hfits).mpr hroomy⟩

/-- A heartbeat and a text message that is as long as the buffer. -/
def stuck : List WSFrame :=
  [⟨.ping, .short, none, [], by decide⟩,
    ⟨.text, .ext16, none, List.replicate 4092 120, by rw [List.length_replicate]; decide⟩]

/-- The first read fills the buffer, all but the last two bytes have come. -/
def stuckReads : List Bytes :=
  [(stuck.map WSFrame.encode).flatten.take 4096, (stuck.map WSFrame.encode).flatten.drop 4096]

theorem not_delivers_stuck :
    (∀ f ∈ stuck, f.encode.length ≤ 4096) ∧
      stuckReads.flatten = (stuck.map WSFrame.encode).flatten ∧
      (transport 4096).Along (Fits 4096) stuckReads ∧ ¬ Delivers 4096 stuck stuckReads := by
  have hreads : stuckReads.flatten = (stuck.map WSFrame.encode).flatten := by
    rw [stuckReads, List.flatten_cons, List.flatten_cons, List.flatten_nil, List.append_nil,
      List.take_append_drop]
  have hsize : ∀ f ∈ stuck, f.encode.length ≤ 4096 := by decide +kernel
  have hfits : (transport 4096).Along (Fits 4096) stuckReads := by decide +kernel
  have hstuck : ¬ Delivers 4096 stuck stuckReads := by decide +kernel
  exact ⟨hsize, hreads, hfits, hstuck⟩

/-- Frames of which all but the last byte fits half of the buffer are always delivered. -/
theorem delivers_of_small {recvBufSize : Nat} {frames : List WSFrame} {reads : List Bytes}
    (hsize : ∀ f ∈ frames, f.encode.length ≤ recvBufSize)
    (hsmall : ∀ f ∈ frames, 2 * f.encode.length ≤ recvBufSize + 2)
    (hreads : reads.flatten = (frames.map WSFrame.encode).flatten)
    (hfits : (transport recvBufSize).Along (Fits recvBufSize) reads) :
    Delivers recvBufSize frames reads := by
  have hawaits : Awaits recvBufSize _ frames reads.flatten := awaits_init hreads
  exact (hawaits.runFrom_iff reads hsize hfits).mpr (hawaits.along_roomy reads hsize hsmall hfits)

end DaraChat.Websocket
