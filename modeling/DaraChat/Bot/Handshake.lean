import DaraChat.Bot.Stream
import Mathlib.Data.List.DropRight

set_option autoImplicit false

/-! # The handshake of the bot

`WSClient::wsConnect` (`BotWebsocket.h`) reads the answer to its HTTP request, line by line and from the
start again with every read, until the header is complete. The frames of the server may come right
behind it, in the same read. They are kept for the next read, and are handled there, so that how the
bytes are cut makes no difference but this one: what comes in the read that completes the answer
waits until there is another read (`client_delivers_iff`).

The request, the addresses and the two timeouts are left out. What stands before the buffer, which
is looked at when an answer begins with a line feed, is taken not to be a carriage return.
-/

namespace DaraChat.Websocket

/-- The bytes of a text of ASCII characters. -/
def ascii (text : String) : Bytes := text.toList.map fun c => UInt8.ofNat c.toNat

def carriageReturn : UInt8 := 13
def lineFeed : UInt8 := 10
def space : UInt8 := 32
def colon : UInt8 := 58

/-! ## One line -/

/-- The checks that the lines so far have passed. -/
structure Checks where
  statusCode : Bool := false
  upgrade : Bool := false
  connection : Bool := false
  accept : Bool := false
  deriving DecidableEq

/-- What a line of the answer leads to. -/
inductive LineResult
  | more (checks : Checks)
  | endOfHeaders
  | refused (detail : Str)
  | rejected
  deriving DecidableEq

/-- `'0' <= c && c <= '9'`. -/
def isDigit (byte : UInt8) : Bool := 48 ≤ byte.toNat && byte.toNat ≤ 57

/-- The first line, without its end: the version and the status. -/
def statusLine (checks : Checks) (line : Bytes) : LineResult :=
  if (ascii "HTTP/").isPrefixOf line then
    match line.dropWhile (· != space) with
    | [] => .rejected
    | rest =>
        let statusCode := rest.dropWhile (· == space)
        if (ascii "101 ").isPrefixOf statusCode then .more { checks with statusCode := true }
        else if 3 ≤ statusCode.length ∧ (statusCode.take 3).all isDigit then
          .refused ("WebSocket handshake rejected: HTTP ".toList ++
            (statusCode.take 3).map (fun byte => Char.ofNat byte.toNat) ++
            (" (expected 101). Check endpoint path, reverse proxy and server logs.").toList)
        else .rejected
  else .rejected

/-- A header, without the end of its line. -/
def headerLine (checks : Checks) (line : Bytes) : LineResult :=
  let trimmed := line.rdropWhile (· == space)
  if trimmed = [] then
    if checks.upgrade ∧ checks.connection ∧ checks.accept then .endOfHeaders else .rejected
  else
    match line.dropWhile (· != colon) with
    | [] => .rejected
    | _ :: afterColon =>
        let key := line.takeWhile (· != colon)
        let val := afterColon.dropWhile (· == space)
        -- the value without the spaces at the end of the line
        let value := val.rdropWhile (· == space)
        if key = ascii "Upgrade" then
          if (ascii "websocket").isPrefixOf val then .more { checks with upgrade := true }
          else .rejected
        else if key = ascii "Connection" then
          if (ascii "Upgrade").isPrefixOf val then .more { checks with connection := true }
          else .more checks
        else if key = ascii "Sec-WebSocket-Accept" then
          if value = ascii "s3pPLMBiTxaQ9kYGzzhZRbK+xOo=" then .more { checks with accept := true }
          else .rejected
        else .more checks

/-- A line, with what stands before its line feed. -/
def handshakeLine (checks : Checks) (line : Bytes) : LineResult :=
  if line.getLast? = some carriageReturn then
    if checks.statusCode then headerLine checks line.dropLast
    else statusLine checks line.dropLast
  else .rejected

/-! ## The answer -/

/-- The first line feed ends a line. -/
def lineOf (data : Bytes) : Option (Bytes × Bytes) :=
  match data.dropWhile (· != lineFeed) with
  | [] => none
  | _ :: rest => some (data.takeWhile (· != lineFeed), rest)

inductive HandshakeResult
  | wait
  | opened (rest : Bytes)
  | refused (detail : Str)
  | rejected
  deriving DecidableEq

/-- The loop over the lines. A line has one byte at least. -/
def handshakeLoop : Nat → Checks → Bytes → HandshakeResult
  | 0, _, _ => .wait
  | turns + 1, checks, data =>
      match lineOf data with
      | none => .wait
      | some (line, rest) =>
          match handshakeLine checks line with
          | .more checks => handshakeLoop turns checks rest
          | .endOfHeaders => .opened rest
          | .refused detail => .refused detail
          | .rejected => .rejected

/-- The handler that `wsConnect` gives to `read`. -/
def handshake (data : Bytes) : HandshakeResult := handshakeLoop (data.length + 1) {} data

/-! ## The client -/

/-- `WSClient`: the connection, and `open`. -/
structure WSClient where
  ws : WSConnection
  isOpen : Bool := false

/-- `SocketTcpConnection::read` with that handler. -/
def WSClient.connectRead (recvBufSize : Nat) (s : WSClient) (chunk : Bytes) : Option WSClient :=
  let c := s.ws.store chunk
  match handshake c.pending with
  | .wait => (c.keepLeftover recvBufSize c.pending.length).map fun c => { s with ws := c }
  | .opened rest =>
      (c.keepLeftover recvBufSize rest.length).map fun c => { ws := c, isOpen := true }
  | .refused detail =>
      ({ c with conn := c.conn.close detail }.keepLeftover recvBufSize 0).map fun c =>
        { s with ws := c }
  | .rejected =>
      let reason := "WebSocket handshake rejected: expected HTTP 101 Switching Protocols with " ++
        "valid Upgrade headers; check endpoint path, proxy configuration and server logs"
      ({ c with conn := c.conn.close reason.toList }.keepLeftover recvBufSize
        c.pending.length).map fun c => { s with ws := c }

/-- The reads of `wsConnect` until `open` is set, and those of `poll` from then on. -/
def clientStep (recvBufSize : Nat) : Option WSClient → Bytes → Option WSClient
  | none, _ => none
  | some s, chunk =>
      if s.ws.conn.connected then
        if s.isOpen then (s.ws.read recvBufSize chunk).map fun c => { s with ws := c }
        else s.connectRead recvBufSize chunk
      else some s

/-- The client, from its request on. -/
def client (recvBufSize : Nat) : Machine (Option WSClient) Bytes :=
  ⟨some { ws := opened recvBufSize }, clientStep recvBufSize⟩

/-! ## The answer in pieces -/

theorem lineOf_append {a line rest : Bytes} (h : lineOf a = some (line, rest)) (b : Bytes) :
    lineOf (a ++ b) = some (line, rest ++ b) := by
  have hsplit := List.takeWhile_append_dropWhile (p := (· != lineFeed)) (l := a)
  unfold lineOf at h ⊢
  cases hdrop : a.dropWhile (· != lineFeed) with
  | nil =>
      rw [hdrop] at h
      cases h
  | cons feed after =>
      rw [hdrop] at h hsplit
      obtain ⟨rfl, rfl⟩ := Prod.mk.inj (Option.some.inj h)
      have hfeed : (feed != lineFeed) = false := by
        have hhead := List.head?_dropWhile_not (· != lineFeed) a
        rw [hdrop] at hhead
        simpa using hhead
      have hall : ∀ byte ∈ a.takeWhile (· != lineFeed), (byte != lineFeed) = true :=
        fun byte hbyte => List.mem_takeWhile_imp (p := (· != lineFeed)) hbyte
      have happend : a ++ b = a.takeWhile (· != lineFeed) ++ feed :: (after ++ b) := by
        rw [← List.cons_append, ← List.append_assoc, hsplit]
      rw [happend, List.dropWhile_append_of_pos hall, List.takeWhile_append_of_pos hall,
        List.dropWhile_cons_of_neg (by simp [hfeed]), List.takeWhile_cons_of_neg (by simp [hfeed]),
        List.append_nil]

theorem length_rest_lt {a line rest : Bytes} (h : lineOf a = some (line, rest)) :
    rest.length < a.length := by
  have hle := (List.dropWhile_suffix (l := a) (· != lineFeed)).length_le
  unfold lineOf at h
  split at h
  · cases h
  · rename_i feed after hdrop
    obtain ⟨-, rfl⟩ := Prod.mk.inj (Option.some.inj h)
    rw [hdrop, List.length_cons] at hle
    omega

/-- Turns for every byte are enough. -/
theorem handshakeLoop_congr {turns turns' : Nat} {checks : Checks} {data : Bytes}
    (h : data.length < turns) (h' : data.length < turns') :
    handshakeLoop turns checks data = handshakeLoop turns' checks data := by
  induction turns generalizing turns' checks data with
  | zero => cases h
  | succ turns ih =>
      obtain ⟨turns', rfl⟩ : ∃ k, turns' = k + 1 := ⟨turns' - 1, by omega⟩
      cases hline : lineOf data with
      | none => simp only [handshakeLoop, hline]
      | some found =>
          obtain ⟨line, rest⟩ := found
          have hlt := length_rest_lt hline
          simp only [handshakeLoop, hline]
          split
          · exact ih (by omega) (by omega)
          · rfl
          · rfl
          · rfl

/-- More turns do not change a result. -/
theorem handshakeLoop_mono {turns turns' : Nat} {checks : Checks} {data rest : Bytes}
    (h : handshakeLoop turns checks data = .opened rest) (hle : turns ≤ turns') :
    handshakeLoop turns' checks data = .opened rest := by
  induction turns generalizing turns' checks data with
  | zero => cases h
  | succ turns ih =>
      obtain ⟨turns', rfl⟩ : ∃ k, turns' = k + 1 := ⟨turns' - 1, by omega⟩
      unfold handshakeLoop at h ⊢
      split at h
      · cases h
      · split at h
        · exact ih h (by omega)
        · exact h
        · cases h
        · cases h

theorem handshakeLoop_append {turns : Nat} {checks : Checks} {a rest : Bytes}
    (h : handshakeLoop turns checks a = .opened rest) (b : Bytes) :
    handshakeLoop turns checks (a ++ b) = .opened (rest ++ b) := by
  induction turns generalizing checks a with
  | zero => cases h
  | succ turns ih =>
      cases hline : lineOf a with
      | none =>
          simp only [handshakeLoop, hline] at h
          cases h
      | some found =>
          obtain ⟨line, after⟩ := found
          simp only [handshakeLoop, hline] at h
          simp only [handshakeLoop, lineOf_append hline b]
          split at h
          · exact ih h
          · rw [HandshakeResult.opened.inj h]
          · cases h
          · cases h

/-- As long as a part of the answer is missing there is no result. -/
theorem handshakeLoop_wait {turns : Nat} {checks : Checks} {a b rest : Bytes}
    (h : handshakeLoop turns checks (a ++ b) = .opened rest) (hlength : rest.length < b.length) :
    handshakeLoop turns checks a = .wait := by
  induction turns generalizing checks a with
  | zero => rfl
  | succ turns ih =>
      cases hline : lineOf a with
      | none => simp only [handshakeLoop, hline]
      | some found =>
          obtain ⟨line, after⟩ := found
          simp only [handshakeLoop, lineOf_append hline b] at h
          simp only [handshakeLoop, hline]
          split at h
          · exact ih h
          · rw [← HandshakeResult.opened.inj h, List.length_append] at hlength
            omega
          · cases h
          · cases h

section Answer

variable {response : Bytes} (h : handshake response = .opened [])

include h

/-- What comes behind the answer is not looked at. -/
theorem handshake_append (rest : Bytes) : handshake (response ++ rest) = .opened rest := by
  have happend := handshakeLoop_append h rest
  rw [List.nil_append] at happend
  exact handshakeLoop_mono happend (by rw [List.length_append]; omega)

/-- A part of the answer is waited with. -/
theorem handshake_of_prefix {a b : Bytes} (hresponse : a ++ b = response)
    (hlength : a.length < response.length) : handshake a = .wait := by
  subst hresponse
  rw [List.length_append] at hlength
  have hwait := handshakeLoop_wait h (by rw [List.length_nil]; omega)
  rw [handshake, ← hwait]
  exact handshakeLoop_congr (by omega) (by rw [List.length_append]; omega)

end Answer

/-! ## The reads of a client -/

/-- The read is offered some space and gets no more than fits there. -/
def ClientFits (recvBufSize : Nat) (s : Option WSClient) (chunk : Bytes) : Prop :=
  Fits recvBufSize (s.map WSClient.ws) chunk

/-- What a read leaves in the buffer: the beginning of a frame, or what has come behind the answer,
or all of an answer that is not complete. -/
def WSClient.leftover (s : WSClient) (chunk : Bytes) : Bytes :=
  if s.isOpen then (wsFraming.drain (s.ws.pending ++ chunk)).2
  else
    match handshake (s.ws.pending ++ chunk) with
    | .opened rest => rest
    | _ => s.ws.pending ++ chunk

/-- The read does not fill the buffer to its end while more than half of it is left over. -/
def ClientRoomy (recvBufSize : Nat) (s : Option WSClient) (chunk : Bytes) : Prop :=
  ∀ client ∈ s, client.ws.conn.connected = true →
    client.ws.conn.tail + chunk.length = recvBufSize →
      2 * (client.leftover chunk).length ≤ recvBufSize

instance (recvBufSize : Nat) (s : Option WSClient) (chunk : Bytes) :
    Decidable (ClientFits recvBufSize s chunk) :=
  inferInstanceAs (Decidable (Fits recvBufSize (s.map WSClient.ws) chunk))

instance (recvBufSize : Nat) (s : Option WSClient) (chunk : Bytes) :
    Decidable (ClientRoomy recvBufSize s chunk) :=
  inferInstanceAs (Decidable (∀ client ∈ s, client.ws.conn.connected = true →
    client.ws.conn.tail + chunk.length = recvBufSize →
      2 * (client.leftover chunk).length ≤ recvBufSize))

section Open

variable {recvBufSize : Nat}

/-- A connection that is open is read as in `poll`. -/
def polled (c : WSConnection) : WSClient := { ws := c, isOpen := true }

theorem clientStep_polled (s : Option WSConnection) (chunk : Bytes) :
    (client recvBufSize).step (s.map polled) chunk =
      ((transport recvBufSize).step s chunk).map polled := by
  cases s with
  | none => rfl
  | some c =>
      show (if c.conn.connected then _ else _) = Option.map polled (if c.conn.connected then _ else _)
      split
      · rfl
      · rfl

theorem runFrom_polled (reads : List Bytes) (s : Option WSConnection) :
    (client recvBufSize).runFrom (s.map polled) reads =
      ((transport recvBufSize).runFrom s reads).map polled := by
  induction reads generalizing s with
  | nil => rfl
  | cons chunk reads ih =>
      show (client recvBufSize).runFrom ((client recvBufSize).step (s.map polled) chunk) reads = _
      rw [clientStep_polled, ih]
      rfl

/-- What is asked of the reads is then what is asked of the reads of the transport. -/
theorem alongFrom_polled {C : Option WSClient → Bytes → Prop}
    {D : Option WSConnection → Bytes → Prop}
    (hiff : ∀ (s : Option WSConnection) (chunk : Bytes), C (s.map polled) chunk ↔ D s chunk)
    (reads : List Bytes) (s : Option WSConnection) :
    (client recvBufSize).AlongFrom C (s.map polled) reads ↔
      (transport recvBufSize).AlongFrom D s reads := by
  induction reads generalizing s with
  | nil => exact Iff.rfl
  | cons chunk reads ih =>
      show C (s.map polled) chunk ∧
        (client recvBufSize).AlongFrom C ((client recvBufSize).step (s.map polled) chunk) reads ↔ _
      rw [clientStep_polled, hiff, ih]
      exact Iff.rfl

theorem clientFits_polled (s : Option WSConnection) (chunk : Bytes) :
    ClientFits recvBufSize (s.map polled) chunk ↔ Fits recvBufSize s chunk := by
  cases s with
  | none => exact Iff.rfl
  | some c => exact Iff.rfl

theorem clientRoomy_polled (s : Option WSConnection) (chunk : Bytes) :
    ClientRoomy recvBufSize (s.map polled) chunk ↔ Roomy recvBufSize s chunk := by
  cases s with
  | none => exact ⟨fun _ c hc => (by cases hc), fun _ c hc => (by cases hc)⟩
  | some c =>
      constructor
      · intro h c' hc'
        obtain rfl := Option.some.inj hc'
        exact h (polled c) rfl
      · intro h client hclient
        obtain rfl := Option.some.inj hclient
        exact h c rfl

/-- Nothing happens to a client whose connection is closed. -/
theorem runFrom_closed_client {s : Option WSClient}
    (h : ∀ client ∈ s, client.ws.conn.connected = false) (reads : List Bytes) :
    (client recvBufSize).runFrom s reads = s := by
  induction reads with
  | nil => rfl
  | cons chunk reads ih =>
      have hstep : (client recvBufSize).step s chunk = s := by
        cases s with
        | none => rfl
        | some client =>
            have hclosed := h client rfl
            show (if client.ws.conn.connected then _ else _) = _
            rw [hclosed]
            rfl
      show (client recvBufSize).runFrom ((client recvBufSize).step s chunk) reads = s
      rw [hstep, ih]

end Open

/-! ## The read that completes the answer -/

section Connect

variable {recvBufSize : Nat} {c : WSConnection} {rest chunk kept : Bytes}

/-- What `read` leaves after the handshake has looked at the bytes, which stay as they are. -/
theorem Holds.connect (h : Holds recvBufSize c rest)
    (hfits : c.conn.tail + chunk.length ≤ recvBufSize) {before : Bytes}
    (hkept : rest ++ chunk = before ++ kept) :
    ((c.conn.tail + chunk.length = recvBufSize → 2 * kept.length ≤ recvBufSize) →
      ∃ c', (c.store chunk).keepLeftover recvBufSize kept.length = some c' ∧
        Holds recvBufSize c' kept ∧ c'.progress = c.progress) ∧
    (¬ (c.conn.tail + chunk.length = recvBufSize → 2 * kept.length ≤ recvBufSize) →
      ∀ c', (c.store chunk).keepLeftover recvBufSize kept.length = some c' →
        c'.conn.connected = false) := by
  have hstored := h.store hfits
  rw [hkept] at hstored
  constructor
  · intro hroom
    obtain ⟨c', hc', hholds, -⟩ := hstored.keepLeftover hroom
    have hprogress : c'.progress = (c.store chunk).progress := progress_keepLeftover hc'
    exact ⟨c', hc', hholds, hprogress⟩
  · intro hfull
    obtain ⟨hfull, hlong⟩ := Classical.not_imp.mp hfull
    exact hstored.keepLeftover_stuck hfull (Nat.lt_of_not_le hlong)

/-- A client that has not got all of the answer. -/
def connecting (c : WSConnection) : WSClient := { ws := c }

theorem step_connecting (h : c.conn.connected = true) (chunk : Bytes) :
    (client recvBufSize).step (some (connecting c)) chunk =
      (connecting c).connectRead recvBufSize chunk := by
  show (if c.conn.connected = true then _ else _) = _
  rw [if_pos h]
  rfl

theorem pending_store (h : Holds recvBufSize c rest)
    (hfits : c.conn.tail + chunk.length ≤ recvBufSize) :
    (c.store chunk).pending = rest ++ chunk := (h.store hfits).pending_eq

/-- A part of the answer is read. -/
theorem connectRead_wait (h : Holds recvBufSize c rest)
    (hfits : c.conn.tail + chunk.length ≤ recvBufSize) (hwait : handshake (rest ++ chunk) = .wait) :
    (connecting c).connectRead recvBufSize chunk =
      ((c.store chunk).keepLeftover recvBufSize (rest ++ chunk).length).map connecting := by
  have hpending : ((connecting c).ws.store chunk).pending = rest ++ chunk := pending_store h hfits
  unfold WSClient.connectRead
  simp only [hpending, hwait]
  rfl

/-- The rest of the answer is read. -/
theorem connectRead_opened (h : Holds recvBufSize c rest)
    (hfits : c.conn.tail + chunk.length ≤ recvBufSize)
    (hopened : handshake (rest ++ chunk) = .opened kept) :
    (connecting c).connectRead recvBufSize chunk =
      ((c.store chunk).keepLeftover recvBufSize kept.length).map polled := by
  have hpending : ((connecting c).ws.store chunk).pending = rest ++ chunk := pending_store h hfits
  unfold WSClient.connectRead
  simp only [hpending, hopened]
  rfl

theorem leftover_connecting (h : Holds recvBufSize c rest) (chunk : Bytes) :
    (connecting c).leftover chunk =
      match handshake (rest ++ chunk) with
      | .opened rest => rest
      | _ => rest ++ chunk := by
  show (match handshake (c.pending ++ chunk) with | .opened rest => rest | _ => c.pending ++ chunk) = _
  rw [h.pending_eq]

theorem clientRoomy_connecting (h : c.conn.connected = true) :
    ClientRoomy recvBufSize (some (connecting c)) chunk ↔
      (c.conn.tail + chunk.length = recvBufSize →
        2 * ((connecting c).leftover chunk).length ≤ recvBufSize) := by
  constructor
  · exact fun hroomy => hroomy _ rfl h
  · intro hroom client hclient _
    obtain rfl := Option.some.inj hclient
    exact hroom

end Connect

/-! ## All reads -/

/-- What the reads come to: the frames, handled one after the other, or kept if there was no read
after the one that completed the answer. -/
def Received (recvBufSize : Nat) (waiting : Bool) (frames : List Bytes) (last : Bytes)
    (s : WSClient) : Prop :=
  s.isOpen = true ∧
    if waiting then Holds recvBufSize s.ws (frames.flatten ++ last) ∧
      s.ws.progress = (opened recvBufSize).progress
    else Holds recvBufSize s.ws last ∧
      s.ws.progress = ((opened recvBufSize).handleFrames recvBufSize frames).progress

section Run

variable {recvBufSize : Nat} {response last : Bytes} {frames : List Bytes}

/-- The reads after the answer is complete, with `kept` in the buffer. -/
theorem Holds.runFrom_polled {c : WSConnection} {kept : Bytes} (h : Holds recvBufSize c kept)
    (hprogress : c.progress = (opened recvBufSize).progress)
    (hpeaceful : Peaceful recvBufSize (opened recvBufSize) frames last) (reads : List Bytes)
    (hreads : kept ++ reads.flatten = frames.flatten ++ last)
    (hfits : (client recvBufSize).AlongFrom (ClientFits recvBufSize) (some (polled c)) reads) :
    ((client recvBufSize).AlongFrom (ClientRoomy recvBufSize) (some (polled c)) reads →
      ∃ s ∈ (client recvBufSize).runFrom (some (polled c)) reads,
        Received recvBufSize reads.isEmpty frames last s) ∧
    (¬ (client recvBufSize).AlongFrom (ClientRoomy recvBufSize) (some (polled c)) reads →
      ∀ s ∈ (client recvBufSize).runFrom (some (polled c)) reads, s.ws.conn.connected = false) := by
  cases reads with
  | nil =>
      refine ⟨fun _ => ⟨polled c, rfl, rfl, ?_⟩, fun hnot => absurd trivial hnot⟩
      rw [List.flatten_nil, List.append_nil] at hreads
      exact ⟨hreads ▸ h, hprogress⟩
  | cons chunk reads =>
      have hpolled : some (polled c) = (some c).map polled := rfl
      have hconnected : (opened recvBufSize).conn.connected = c.conn.connected := h.1.symm
      have hpeaceful' : Peaceful recvBufSize c frames last :=
        { hpeaceful with
          connected := by
            rw [WSConnection.connected_handleFrames hprogress hconnected.symm]
            exact hpeaceful.connected }
      rw [hpolled, alongFrom_polled clientFits_polled] at hfits
      rw [hpolled, alongFrom_polled clientRoomy_polled, DaraChat.Websocket.runFrom_polled]
      obtain ⟨hall, hnone⟩ :=
        h.runFrom (chunk :: reads) (fun hnil => (by cases hnil)) hreads hpeaceful' hfits
      constructor
      · intro hroomy
        obtain ⟨c', hc', hholds, hprogress'⟩ := hall hroomy
        refine ⟨polled c', ?_, rfl, hholds, ?_⟩
        · rw [Option.mem_def] at hc' ⊢
          rw [hc']
          rfl
        · exact hprogress'.trans (WSConnection.progress_handleFrames hprogress)
      · intro hstuck s hs
        obtain ⟨c', hc', rfl⟩ := Option.map_eq_some_iff.mp hs
        exact (hnone hstuck c' hc').1

/-- The run from a part of the answer. -/
theorem Holds.runFrom_connecting (hresponse : handshake response = .opened [])
    (hpeaceful : Peaceful recvBufSize (opened recvBufSize) frames last) :
    ∀ (reads : List Bytes) {c : WSConnection} {rest : Bytes}, Holds recvBufSize c rest →
    c.progress = (opened recvBufSize).progress → rest.length < response.length →
    rest ++ reads.flatten = response ++ (frames.flatten ++ last) →
    (client recvBufSize).AlongFrom (ClientFits recvBufSize) (some (connecting c)) reads →
    ((client recvBufSize).AlongFrom (ClientRoomy recvBufSize) (some (connecting c)) reads →
      ∃ s ∈ (client recvBufSize).runFrom (some (connecting c)) reads,
        Received recvBufSize
          (decide ((rest ++ reads.dropLast.flatten).length < response.length)) frames last s) ∧
    (¬ (client recvBufSize).AlongFrom (ClientRoomy recvBufSize) (some (connecting c)) reads →
      ∀ s ∈ (client recvBufSize).runFrom (some (connecting c)) reads,
        s.ws.conn.connected = false) := by
  intro reads
  induction reads with
  | nil =>
      intro c rest _ _ hshort hreads _
      have hlength := congrArg List.length hreads
      simp only [List.flatten_nil, List.append_nil, List.length_append] at hlength
      omega
  | cons chunk reads ih =>
      intro c rest hholds hprogress hshort hreads hfits
      have hstep : (client recvBufSize).step (some (connecting c)) chunk =
          (connecting c).connectRead recvBufSize chunk := step_connecting hholds.1 chunk
      have hchunk := (hfits.1 c rfl hholds.1).2
      have hrun : (client recvBufSize).runFrom (some (connecting c)) (chunk :: reads) =
          (client recvBufSize).runFrom ((connecting c).connectRead recvBufSize chunk) reads := by
        rw [← hstep]
        rfl
      have halong : (client recvBufSize).AlongFrom (ClientRoomy recvBufSize)
          (some (connecting c)) (chunk :: reads) ↔
            ClientRoomy recvBufSize (some (connecting c)) chunk ∧
            (client recvBufSize).AlongFrom (ClientRoomy recvBufSize)
              ((connecting c).connectRead recvBufSize chunk) reads := by
        rw [← hstep]
        exact Iff.rfl
      have hfits' := hfits.2
      rw [hstep] at hfits'
      rw [hrun, halong, clientRoomy_connecting hholds.1, leftover_connecting hholds]
      rw [List.flatten_cons, ← List.append_assoc] at hreads
      by_cases hmore : (rest ++ chunk).length < response.length
      · -- still a part of the answer
        obtain ⟨missing, hmissing⟩ : rest ++ chunk <+: response :=
          List.prefix_of_prefix_length_le (hreads ▸ List.prefix_append _ _)
            (List.prefix_append response _) (Nat.le_of_lt hmore)
        have hwait := handshake_of_prefix hresponse hmissing hmore
        obtain ⟨hroomy, hstuck⟩ := hholds.connect hchunk
          (List.nil_append (rest ++ chunk)).symm
        rw [connectRead_wait hholds hchunk hwait] at hfits' ⊢
        rw [hwait]
        simp only
        have hnonempty : reads ≠ [] := by
          rintro rfl
          have hlength := congrArg List.length hreads
          simp only [List.flatten_nil, List.append_nil, List.length_append] at hlength hmore
          omega
        rw [List.dropLast_cons_of_ne_nil hnonempty, List.flatten_cons, ← List.append_assoc]
        by_cases h : c.conn.tail + chunk.length = recvBufSize →
            2 * (rest ++ chunk).length ≤ recvBufSize
        · obtain ⟨c', hc', hholds', hprogress'⟩ := hroomy h
          rw [hc'] at hfits' ⊢
          obtain ⟨hall, hnone⟩ := ih hholds' (hprogress'.trans hprogress) hmore hreads hfits'
          exact ⟨fun hboth => hall hboth.2, fun hnot => hnone fun hlater => hnot ⟨h, hlater⟩⟩
        · have hclosed : ∀ s ∈ ((c.store chunk).keepLeftover recvBufSize
              (rest ++ chunk).length).map connecting, s.ws.conn.connected = false := by
            intro s hs
            obtain ⟨c', hc', rfl⟩ := Option.map_eq_some_iff.mp hs
            exact hstuck h c' hc'
          rw [runFrom_closed_client hclosed]
          exact ⟨fun hboth => absurd hboth.1 h, fun _ => hclosed⟩
      · -- the answer is complete, and perhaps more has come
        obtain ⟨kept, hkept⟩ : response <+: rest ++ chunk :=
          List.prefix_of_prefix_length_le (List.prefix_append response _)
            (hreads ▸ List.prefix_append _ _) (Nat.le_of_not_lt hmore)
        have hopened : handshake (rest ++ chunk) = .opened kept := by
          rw [← hkept]
          exact handshake_append hresponse kept
        have hrest : kept ++ reads.flatten = frames.flatten ++ last := by
          rw [← hkept, List.append_assoc] at hreads
          exact List.append_cancel_left hreads
        obtain ⟨hroomy, hstuck⟩ := hholds.connect hchunk hkept.symm
        rw [connectRead_opened hholds hchunk hopened] at hfits' ⊢
        rw [hopened]
        simp only
        have hwaiting : decide ((rest ++ (chunk :: reads).dropLast.flatten).length <
            response.length) = reads.isEmpty := by
          cases reads with
          | nil =>
              simp only [List.dropLast_singleton, List.flatten_nil, List.append_nil,
                List.isEmpty_nil]
              exact decide_eq_true hshort
          | cons next reads =>
              rw [List.dropLast_cons_of_ne_nil (List.cons_ne_nil next reads), List.flatten_cons,
                ← List.append_assoc, List.length_append]
              exact decide_eq_false (by omega)
        rw [hwaiting]
        by_cases h : c.conn.tail + chunk.length = recvBufSize → 2 * kept.length ≤ recvBufSize
        · obtain ⟨c', hc', hholds', hprogress'⟩ := hroomy h
          rw [hc'] at hfits' ⊢
          obtain ⟨hall, hnone⟩ := hholds'.runFrom_polled (hprogress'.trans hprogress) hpeaceful
            reads hrest hfits'
          exact ⟨fun hboth => hall hboth.2, fun hnot => hnone fun hlater => hnot ⟨h, hlater⟩⟩
        · have hclosed : ∀ s ∈ ((c.store chunk).keepLeftover recvBufSize kept.length).map polled,
              s.ws.conn.connected = false := by
            intro s hs
            obtain ⟨c', hc', rfl⟩ := Option.map_eq_some_iff.mp hs
            exact hstuck h c' hc'
          rw [runFrom_closed_client hclosed]
          exact ⟨fun hboth => absurd hboth.1 h, fun _ => hclosed⟩

end Run

/-- An answer has at least one byte. -/
theorem length_pos_of_handshake {response : Bytes} (h : handshake response = .opened []) :
    0 < response.length := by
  cases response with
  | nil => cases h
  | cons byte response => exact Nat.zero_lt_succ _

/-- **The bytes of a server, from its answer on.** The answer is one that completes the handshake; the
frames behind it can be handled one by one. However all this is cut into reads, the client is open
and has handled the frames one after the other, if and only if no read fills the buffer to its end
while more than half of it is left over. If the read that completes the answer is the last one, the
frames that came with it are in the buffer, and none has been handled. -/
theorem client_delivers_iff (recvBufSize : Nat) (response : Bytes) (frames : List Bytes)
    (last : Bytes) (reads : List Bytes) (hresponse : handshake response = .opened [])
    (hpeaceful : Peaceful recvBufSize (opened recvBufSize) frames last)
    (hreads : reads.flatten = response ++ (frames.flatten ++ last))
    (hfits : (client recvBufSize).Along (ClientFits recvBufSize) reads) :
    (∃ s ∈ (client recvBufSize).run reads, Received recvBufSize
        (decide (reads.dropLast.flatten.length < response.length)) frames last s) ↔
      (client recvBufSize).Along (ClientRoomy recvBufSize) reads := by
  obtain ⟨hall, hnone⟩ := (holds_opened recvBufSize).runFrom_connecting hresponse hpeaceful reads
    rfl (length_pos_of_handshake hresponse) hreads hfits
  constructor
  · rintro ⟨s, hs, -, hreceived⟩
    by_contra hstuck
    have hclosed := hnone hstuck s hs
    split at hreceived
    · rw [hreceived.1.1] at hclosed
      cases hclosed
    · rw [hreceived.1.1] at hclosed
      cases hclosed
  · exact hall

/-- An answer that completes the handshake. -/
def switching : Bytes :=
  ascii ("HTTP/1.1 101 Switching Protocols\r\nUpgrade: websocket\r\nConnection: Upgrade\r\n" ++
    "Sec-WebSocket-Accept: s3pPLMBiTxaQ9kYGzzhZRbK+xOo=\r\n\r\n")

/-- A heartbeat comes with the end of the answer, and the first half of a message; then the rest. -/
def switchingReads : List Bytes :=
  [switching.take 40, switching.drop 40 ++ [0x89, 0, 0x81, 1], [120]]

theorem client_delivers_switching :
    ∃ s ∈ (client 4096).run switchingReads,
      s.isOpen = true ∧ s.ws.dispatched = [(9, []), (1, [120])] := by
  have hresponse : handshake switching = .opened [] := by decide +kernel
  have hframes : ∀ f ∈ ([[0x89, 0], [0x81, 1, 120]] : List Bytes),
      wsFraming.need f = some f.length := by decide
  have hpeaceful : Peaceful 4096 (opened 4096) [[0x89, 0], [0x81, 1, 120]] [] :=
    ⟨hframes, by decide, by decide, by decide, rfl, fun n hn => (by cases hn)⟩
  have hreads : switchingReads.flatten =
      switching ++ (([[0x89, 0], [0x81, 1, 120]] : List Bytes).flatten ++ []) := by decide +kernel
  have hfits : (client 4096).Along (ClientFits 4096) switchingReads := by decide +kernel
  have hroomy : (client 4096).Along (ClientRoomy 4096) switchingReads := by decide +kernel
  have hlater : decide (switchingReads.dropLast.flatten.length < switching.length) = false := by
    decide +kernel
  have hdelivers := (client_delivers_iff 4096 switching [[0x89, 0], [0x81, 1, 120]] []
    switchingReads hresponse hpeaceful hreads hfits).mpr hroomy
  rw [hlater] at hdelivers
  obtain ⟨s, hs, hopen, hreceived⟩ := hdelivers
  exact ⟨s, hs, hopen, congrArg Progress.dispatched hreceived.2⟩

end DaraChat.Websocket
