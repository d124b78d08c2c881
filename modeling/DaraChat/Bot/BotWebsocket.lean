import DaraChat.Basic.Str
import DaraChat.Lib.Machine

set_option autoImplicit false

/-! # The transport of the bot (`BotWebsocket.h`)

What a bot's `WSClient` does with the bytes it reads: `read` appends them to the receive buffer and
hands what is there to `handleWSMsg`, which takes off complete frames, unmasks them in place and
dispatches them; then it keeps the leftover, moving it to the front of the buffer when it starts in
the second half. The connection is open and the handshake is over. `RecvBufSize` is a parameter,
`RecvSegment` is `false` as in the bot's client. What `SSL_read` returns is the event, its errors
and all writes are left out, and so is what the handler does with a message: a dispatched message
is logged.

`memcpy` on ranges that overlap is undefined, and so is everything after it (`none`).
-/

namespace DaraChat.Websocket

abbrev Bytes := List UInt8

def opcodeCont : UInt8 := 0
def opcodeText : UInt8 := 1
def opcodeBinary : UInt8 := 2
def opcodeClose : UInt8 := 8
def opcodePing : UInt8 := 9
def opcodePong : UInt8 := 10

/-! ## Bytes -/

/-- The bytes from `lo` up to `hi`. -/
def slice (buf : Bytes) (lo hi : Nat) : Bytes := (buf.drop lo).take (hi - lo)

/-- The buffer with `bytes` at `pos`. -/
def writeAt (buf : Bytes) (pos : Nat) (bytes : Bytes) : Bytes :=
  buf.take pos ++ bytes ++ buf.drop (pos + bytes.length)

/-- `be16toh` and `be64toh` of the bytes. -/
def bigEndian (bytes : Bytes) : Nat := bytes.foldl (fun n byte => n * 256 + byte.toNat) 0

/-- `data[i] ^= mask_key[i & 3]` for all of the payload. -/
def maskWith (key payload : Bytes) : Bytes :=
  payload.mapIdx fun i byte => byte ^^^ key.getD (i % 4) 0

/-! ## The parts of a header -/

section Header

variable (data : Bytes)

/-- `data[0] & 15`. -/
def opcodeOf : UInt8 := data.getD 0 0 &&& 15

/-- `data[0] >> 7`. -/
def finOf : Bool := 128 ≤ (data.getD 0 0).toNat

/-- `data[1] >> 7`. -/
def maskOf : Bool := 128 ≤ (data.getD 1 0).toNat

/-- `data[1] & 127`. -/
def lengthField : Nat := (data.getD 1 0).toNat % 128

/-- `extended`, the number of further length bytes. -/
def extendedOf : Nat :=
  if lengthField data = 126 then 2 else if lengthField data = 127 then 8 else 0

/-- `header`. -/
def headerOf : Nat := 2 + extendedOf data + if maskOf data then 4 else 0

/-- `pl_len`; of the eight-byte form the top bit is cleared. -/
def payloadLength : Nat :=
  if lengthField data = 126 then bigEndian (slice data 2 4)
  else if lengthField data = 127 then bigEndian (slice data 2 10) % 2 ^ 63
  else lengthField data

/-- `mask_key`. -/
def maskKeyOf : Bytes := slice data (2 + extendedOf data) (2 + extendedOf data + 4)

end Header

/-! ## The connection -/

/-- `SocketTcpConnection`; `connected` is `fd_ >= 0`. -/
structure SocketTcpConnection where
  connected : Bool := true
  lastError : Str := []
  head : Nat := 0
  tail : Nat := 0
  recvbuf : Bytes

/-- `SocketTcpConnection::close`. -/
def SocketTcpConnection.close (conn : SocketTcpConnection) (reason : Str) : SocketTcpConnection :=
  if conn.connected then { conn with connected := false, lastError := reason ++ " ".toList } else conn

/-- `WSConnection`: `frame` is the first `frame_size` bytes of the buffer for fragments. The
messages handed to `onWSMsg` are logged in `dispatched`. -/
structure WSConnection where
  conn : SocketTcpConnection
  frame : Bytes := []
  recvOpcode : UInt8 := 0
  closeReason : Nat × Bytes := (1006, [])
  dispatched : List (UInt8 × Bytes) := []

namespace WSConnection

/-- `WSConnection::close`; the reason is a C string of at most 125 bytes. -/
def close (c : WSConnection) (statusCode : Nat) (reason : Bytes) : WSConnection :=
  { c with
    closeReason := (statusCode, (reason.takeWhile (· != 0)).take 125)
    conn := c.conn.close "clean close".toList }

/-- `handler->onWSMsg`. -/
def onWSMsg (c : WSConnection) (opcode : UInt8) (payload : Bytes) : WSConnection :=
  { c with dispatched := c.dispatched ++ [(opcode, payload)] }

/-- A close frame: its status, or 1005 without one, and its reason. -/
def onCloseFrame (c : WSConnection) (payload : Bytes) : WSConnection :=
  if 2 ≤ payload.length then c.close (bigEndian (payload.take 2)) ((payload.drop 2).take 127)
  else c.close 1005 []

/-- A fragment of a message, with `RecvSegment` off. -/
def onFragment (recvBufSize : Nat) (c : WSConnection) (opcode : UInt8) (fin : Bool)
    (payload : Bytes) : WSConnection :=
  if c.frame.length + payload.length > recvBufSize then c.close 1009 []
  else
    let recvOpcode := if opcode ≠ opcodeCont then opcode else c.recvOpcode
    let frame := c.frame ++ payload
    if fin then { (c.onWSMsg recvOpcode frame) with recvOpcode := recvOpcode, frame := [] }
    else { c with recvOpcode := recvOpcode, frame := frame }

/-- `handleOneWSMsg`: the connection, the bytes with the frame unmasked in place, and the number of
bytes left. -/
def handleOneWSMsg (recvBufSize : Nat) (c : WSConnection) (data : Bytes) :
    WSConnection × Bytes × Nat :=
  let size := data.length
  if size < 2 then (c, data, size)
  else if size < headerOf data then (c, data, size)
  else
    let opcode := opcodeOf data
    let fin := finOf data
    let plLen := payloadLength data
    -- `data_end - data`
    let available := size - headerOf data
    if available < plLen then
      (if size + (plLen - available) > recvBufSize then c.close 1009 [] else c, data, size)
    else
      let payload := (data.drop (headerOf data)).take plLen
      let payload := if maskOf data then maskWith (maskKeyOf data) payload else payload
      let data := writeAt data (headerOf data) payload
      let c :=
        if opcode ≠ opcodeCont ∧ fin then
          if opcode = opcodeClose then c.onCloseFrame payload else c.onWSMsg opcode payload
        else c.onFragment recvBufSize opcode fin payload
      (c, data, available - plLen)

/-- The loop of `handleWSMsg`. A frame has two bytes at least, so there are fewer turns than
bytes. -/
def handleWSMsgLoop (recvBufSize : Nat) : Nat → WSConnection → Bytes → WSConnection × Bytes × Nat
  | 0, c, data => (c, data, data.length)
  | turns + 1, c, data =>
      if data.length = 0 then (c, data, 0)
      else
        let size := data.length
        let closing := opcodeOf data = opcodeClose
        let (c, data, remaining) := handleOneWSMsg recvBufSize c data
        -- incomplete frame
        if remaining = size then (c, data, size)
        else if closing then (c, data, 0)
        else
          let consumed := size - remaining
          let (c, rest, left) := handleWSMsgLoop recvBufSize turns c (data.drop consumed)
          (c, data.take consumed ++ rest, left)

/-- `handleWSMsg`. -/
def handleWSMsg (recvBufSize : Nat) (c : WSConnection) (data : Bytes) :
    WSConnection × Bytes × Nat :=
  handleWSMsgLoop recvBufSize data.length c data

/-- The part of `read` after the handler: the leftover stays, or moves to the front. -/
def keepLeftover (recvBufSize : Nat) (c : WSConnection) (remaining : Nat) : Option WSConnection :=
  let conn := c.conn
  if remaining = 0 then some { c with conn := { conn with head := 0, tail := 0 } }
  else
    let conn := { conn with head := conn.tail - remaining }
    if conn.head ≥ recvBufSize / 2 then
      -- `memcpy(recvbuf_, recvbuf_ + head_, remaining)`
      if conn.head < remaining then none
      else
        let recvbuf := writeAt conn.recvbuf 0 (slice conn.recvbuf conn.head (conn.head + remaining))
        some { c with conn := { conn with recvbuf := recvbuf, head := 0, tail := remaining } }
    else if conn.tail = recvBufSize then some { c with conn := conn.close "recv buf full".toList }
    else some { c with conn := conn }

/-- `SocketTcpConnection::read` when `SSL_read` returns `chunk`, with `handleWSMsg` as the
handler. -/
def read (recvBufSize : Nat) (c : WSConnection) (chunk : Bytes) : Option WSConnection :=
  let conn := c.conn
  let conn := { conn with
    recvbuf := writeAt conn.recvbuf conn.tail chunk
    tail := conn.tail + chunk.length }
  let (c, data, remaining) :=
    handleWSMsg recvBufSize { c with conn := conn } (slice conn.recvbuf conn.head conn.tail)
  let c := { c with conn := { c.conn with recvbuf := writeAt c.conn.recvbuf c.conn.head data } }
  c.keepLeftover recvBufSize remaining

end WSConnection

/-- The loop around `poll`: reads, as long as the connection is open. -/
def pollStep (recvBufSize : Nat) : Option WSConnection → Bytes → Option WSConnection
  | none, _ => none
  | some c, chunk => if c.conn.connected then c.read recvBufSize chunk else some c

/-- The transport, from the end of the handshake. -/
def transport (recvBufSize : Nat) : Machine (Option WSConnection) Bytes :=
  ⟨some { conn := { recvbuf := List.replicate recvBufSize 0 } }, pollStep recvBufSize⟩

end DaraChat.Websocket
