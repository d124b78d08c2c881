import DaraChat.Bot.Sending
import Mathlib.Data.List.TakeWhile

set_option autoImplicit false

/-! # The end of a connection

`WSConnection::close` (`BotWebsocket.h`) sends a close frame with a status and a reason and closes the
socket. The other end is told all messages that were sent before, and the status and the reason
(`close_delivered_iff`). It answers with a close frame of its own, which repeats what it was told;
`closeReply_isSome` says for which close frames this answer is read from within `close_reason`.
-/

namespace DaraChat.Websocket

/-- The payload of the close frame, as it is read from `close_reason`: `snprintf` has put at most 125
bytes of the reason and a NUL behind the status, and has returned the length of the whole reason.
`none` if that length goes beyond the 128 bytes of `close_reason`. -/
def closePayload (statusCode : Nat) (reason : Bytes) : Option Bytes :=
  let text := reason.takeWhile (· != 0)
  let closeReason := toBigEndian 2 statusCode ++ (text.take 125 ++ [0])
  if 2 + text.length ≤ 128 then some (closeReason.take (2 + text.length)) else none

/-- The frame that `WSConnection::close` sends. -/
def Sending.close (sendMask : Bool) (s : Sending) (statusCode : Nat) (reason : Bytes) :
    Option Sending :=
  if statusCode ≠ 1005 then
    (closePayload statusCode reason).map fun payload => s.send sendMask opcodeClose payload true
  else some (s.send sendMask opcodeClose [] true)

/-- What the other end keeps as `close_reason`. -/
def toldReason (statusCode : Nat) (reason : Bytes) : Nat × Bytes :=
  (statusCode, if statusCode = 1005 then [] else reason)

/-! ## The close frame -/

section Frame

variable {recvBufSize : Nat} (c : WSConnection) (s : Sending) (sendMask : Bool)

theorem written_send_close (payload : Bytes) :
    (s.send sendMask opcodeClose payload true).written =
      s.written ++ (sendHeader sendMask opcodeClose true payload.length ++ payload) := by
  rw [Sending.send, if_pos (by decide), List.append_assoc]

/-- A close frame is a frame, and ends the connection. -/
theorem handleFrame_close {payload : Bytes} (h : payload.length < 2 ^ 32) :
    wsFraming.IsFrame (sendHeader sendMask opcodeClose true payload.length ++ payload) ∧
      opcodeOf (sendHeader sendMask opcodeClose true payload.length ++ payload) = opcodeClose ∧
      c.handleFrame recvBufSize
        (sendHeader sendMask opcodeClose true payload.length ++ payload) =
          c.onCloseFrame payload := by
  have hopcode : opcodeClose.toNat < 16 := by decide
  obtain ⟨hframe, hop, -⟩ := sent_isFrame sendMask hopcode h true
  refine ⟨hframe, hop, ?_⟩
  rw [handleFrame_sent c sendMask hopcode h, WSConnection.receive, if_pos (by decide), if_pos rfl]

theorem takeWhile_of_not_mem {reason : Bytes} (h : 0 ∉ reason) :
    reason.takeWhile (· != 0) = reason := by
  rw [List.takeWhile_eq_self_iff]
  intro byte hbyte
  have hne : byte ≠ 0 := fun hzero => h (hzero ▸ hbyte)
  simpa using hne

theorem closePayload_eq {statusCode : Nat} {reason : Bytes} (hnul : 0 ∉ reason)
    (hlength : reason.length ≤ 125) :
    closePayload statusCode reason = some (toBigEndian 2 statusCode ++ reason) := by
  have hfits : 2 + reason.length ≤ 128 := by omega
  have htwo : 2 + reason.length = (toBigEndian 2 statusCode ++ reason).length := by
    rw [List.length_append, length_toBigEndian]
  rw [closePayload, takeWhile_of_not_mem hnul, if_pos hfits, List.take_of_length_le hlength,
    ← List.append_assoc, htwo, List.take_left]

/-- What is said in a close frame is what is kept. -/
theorem closeReason_onCloseFrame {statusCode : Nat} {reason : Bytes} (hstatus : statusCode < 2 ^ 16)
    (hnul : 0 ∉ reason) (hlength : reason.length ≤ 125) :
    (c.onCloseFrame (toBigEndian 2 statusCode ++ reason)).closeReason = (statusCode, reason) := by
  have htwo := length_toBigEndian 2 statusCode
  have hstatus' : bigEndian ((toBigEndian 2 statusCode ++ reason).take 2) = statusCode := by
    rw [List.take_left' htwo, bigEndian_toBigEndian]
    exact Nat.mod_eq_of_lt hstatus
  have hreason : (toBigEndian 2 statusCode ++ reason).drop 2 = reason := List.drop_left' htwo
  have hlong : 2 ≤ (toBigEndian 2 statusCode ++ reason).length := by
    rw [List.length_append, length_toBigEndian]
    omega
  rw [WSConnection.onCloseFrame, if_pos hlong, hstatus', hreason,
    List.take_of_length_le (by omega), WSConnection.close, takeWhile_of_not_mem hnul,
    List.take_of_length_le hlength]

theorem dispatched_onCloseFrame (payload : Bytes) :
    (c.onCloseFrame payload).dispatched = c.dispatched := by
  unfold WSConnection.onCloseFrame
  split
  · rfl
  · rfl

end Frame

/-! ## A stream that ends with a close frame -/

section Run

variable {recvBufSize : Nat} {c : WSConnection} {g : Bytes}

theorem along_roomy_closed {s : Option WSConnection} (h : ∀ c ∈ s, c.conn.connected = false)
    (reads : List Bytes) : (transport recvBufSize).AlongFrom (Roomy recvBufSize) s reads := by
  induction reads with
  | nil => trivial
  | cons chunk reads ih =>
      refine ⟨fun c hc hconnected => ?_, ?_⟩
      · rw [h c hc] at hconnected
        cases hconnected
      · have hstep : (transport recvBufSize).step s chunk = s := runFrom_closed h [chunk]
        rw [hstep]
        exact ih

/-- The read with the last byte of the close frame. -/
theorem Holds.read_closes {rest chunk : Bytes} {frames : List Bytes} (h : Holds recvBufSize c rest)
    (hfits : c.conn.tail + chunk.length ≤ recvBufSize)
    (hstream : rest ++ chunk = (frames ++ [g]).flatten)
    (hframes : ∀ f ∈ frames, wsFraming.IsFrame f ∧ opcodeOf f ≠ opcodeClose)
    (hframe : wsFraming.IsFrame g) (hopcode : opcodeOf g = opcodeClose)
    (hcloses : ∀ c : WSConnection, (c.handleFrame recvBufSize g).conn.connected = false) :
    ∃ c', c.read recvBufSize chunk = some c' ∧ c'.conn.connected = false ∧
      c'.progress = ((c.handleFrames recvBufSize frames).handleFrame recvBufSize g).progress := by
  have hstored := h.store hfits
  obtain ⟨data, hloop⟩ :=
    (c.store chunk).handleWSMsg_closes recvBufSize frames hframes hframe hopcode []
  have hstream' : rest ++ chunk = frames.flatten ++ (g ++ []) := by
    rw [hstream, List.flatten_append, List.flatten_singleton, List.append_nil]
  rw [← hstream'] at hloop
  rw [WSConnection.read_eq, hstored.pending_eq, hloop]
  refine ⟨_, rfl, hcloses _, ?_⟩
  exact WSConnection.progress_receive (WSConnection.progress_handleFrames rfl)

/-- The run: the close frame is the last thing that is handled if every read is roomy. -/
theorem Expects.runFrom_close (hframe : wsFraming.IsFrame g) (hopcode : opcodeOf g = opcodeClose)
    (hlength : g.length ≤ recvBufSize)
    (hcloses : ∀ c : WSConnection, (c.handleFrame recvBufSize g).conn.connected = false) :
    ∀ (reads : List Bytes) {c : WSConnection} {frames : List Bytes},
    Expects recvBufSize c (frames ++ [g]) [] reads.flatten → Peaceful recvBufSize c frames [] →
    (transport recvBufSize).AlongFrom (Fits recvBufSize) (some c) reads →
    ((transport recvBufSize).AlongFrom (Roomy recvBufSize) (some c) reads →
      ∃ c' ∈ (transport recvBufSize).runFrom (some c) reads, c'.conn.connected = false ∧
        c'.progress = ((c.handleFrames recvBufSize frames).handleFrame recvBufSize g).progress) ∧
    (¬ (transport recvBufSize).AlongFrom (Roomy recvBufSize) (some c) reads →
      ∀ c' ∈ (transport recvBufSize).runFrom (some c) reads,
        c'.conn.connected = false ∧ c'.closeReason = c.closeReason) := by
  intro reads
  induction reads with
  | nil =>
      intro c frames hexpects hpeaceful _
      have hframes : ∀ f ∈ frames ++ [g], wsFraming.IsFrame f := by
        intro f hf
        rcases List.mem_append.mp hf with hf | hf
        · exact hpeaceful.isFrame f hf
        · rw [List.mem_singleton.mp hf]
          exact hframe
      obtain ⟨hnil, -⟩ := hexpects.nothing hframes
      simp at hnil
  | cons chunk reads ih =>
      intro c frames hexpects hpeaceful hfits
      obtain ⟨rest, hholds, -, hrest⟩ := hexpects
      have hstep : (transport recvBufSize).step (some c) chunk = c.read recvBufSize chunk :=
        step_of_connected hholds.1 chunk
      have hrun : (transport recvBufSize).runFrom (some c) (chunk :: reads) =
          (transport recvBufSize).runFrom (c.read recvBufSize chunk) reads := by
        rw [← hstep]
        rfl
      have halong : (transport recvBufSize).AlongFrom (Roomy recvBufSize) (some c)
          (chunk :: reads) ↔ Roomy recvBufSize (some c) chunk ∧
            (transport recvBufSize).AlongFrom (Roomy recvBufSize) (c.read recvBufSize chunk)
              reads := by
        rw [← hstep]
        exact Iff.rfl
      have hfits' := (hfits.1 c rfl hholds.1).2
      have hframes : ∀ f ∈ frames ++ [g], wsFraming.IsFrame f ∧ f.length ≤ recvBufSize := by
        intro f hf
        rcases List.mem_append.mp hf with hf | hf
        · exact ⟨hpeaceful.isFrame f hf, hpeaceful.length_le f hf⟩
        · rw [List.mem_singleton.mp hf]
          exact ⟨hframe, hlength⟩
      rw [List.flatten_cons, ← List.append_assoc] at hrest
      obtain ⟨now, later, htodo, hnow, hlater⟩ :=
        arrived_frames (fun f hf => (hframes f hf).1) split_nil hrest
      have hsplit := wsFraming.split_drain (rest ++ chunk)
      rw [hrun, halong]
      rcases List.eq_nil_or_concat later with rfl | ⟨later', g', rfl⟩
      · -- the close frame is complete, and nothing is behind it
        rw [List.append_nil] at htodo
        obtain ⟨hleft, -⟩ := List.append_eq_nil_iff.mp hlater
        rw [hleft, List.append_nil, ← htodo] at hnow
        obtain ⟨c', hread, hclosed, hprogress⟩ := hholds.read_closes hfits' hnow
          (fun f hf => ⟨hpeaceful.isFrame f hf, hpeaceful.ne_close f hf⟩) hframe hopcode hcloses
        have hclosed' : ∀ c'' ∈ some c', c''.conn.connected = false := by
          rintro c'' hc''
          obtain rfl := Option.some.inj hc''
          exact hclosed
        have hroomy : Roomy recvBufSize (some c) chunk := by
          intro c'' hc'' _ _
          obtain rfl := Option.some.inj hc''
          rw [hholds.pending_eq, hleft]
          exact Nat.zero_le _
        rw [hread, runFrom_closed hclosed']
        exact ⟨fun _ => ⟨c', rfl, hclosed, hprogress⟩,
          fun hnot => absurd ⟨hroomy, along_roomy_closed hclosed' reads⟩ hnot⟩
      · -- the close frame is still to come
        rw [List.concat_eq_append, ← List.append_assoc] at htodo
        obtain ⟨rfl, hlast⟩ := List.append_inj' htodo rfl
        obtain rfl : g = g' := by simpa using hlast
        rw [List.concat_eq_append] at hlater
        have hneed := need_le_of_frames (fun f hf => hframes f (by
          rw [List.append_assoc]
          exact List.mem_append_right now hf)) (fun n hn => (by cases hn)) hlater
        obtain ⟨hboth, hopen⟩ := hpeaceful.of_now
        obtain ⟨hroomy, hstuck⟩ := hholds.read_handles hfits' hnow hboth hopen hsplit hneed
        have hreason := WSConnection.closeReason_handleFrames hopen
        by_cases h : Roomy recvBufSize (some c) chunk
        · obtain ⟨c', hread, hholds', hprogress⟩ := hroomy h
          have hfitsLater := hfits.2
          rw [hstep, hread] at hfitsLater
          obtain ⟨hall, hnone⟩ := ih ⟨_, hholds', hsplit, hlater⟩
            (hpeaceful.of_later hholds'.1 hprogress) hfitsLater
          have hsame : c'.closeReason = c.closeReason :=
            (congrArg Progress.closeReason hprogress).trans hreason
          have hlast : ((c'.handleFrames recvBufSize later').handleFrame recvBufSize g).progress =
              (((c.handleFrames recvBufSize now).handleFrames recvBufSize later').handleFrame
                recvBufSize g).progress :=
            WSConnection.progress_receive (WSConnection.progress_handleFrames hprogress)
          rw [hlast] at hall
          rw [hsame] at hnone
          rw [hread, WSConnection.handleFrames_append]
          exact ⟨fun hboth => hall hboth.2, fun hnot => hnone fun hlater => hnot ⟨h, hlater⟩⟩
        · have hclosed := hstuck h
          rw [runFrom_closed fun c' hc' => (hclosed c' hc').1]
          refine ⟨fun hboth => absurd hboth.1 h, fun _ c' hc' => ?_⟩
          obtain ⟨hclosed', hprogress⟩ := hclosed c' hc'
          exact ⟨hclosed', (congrArg Progress.closeReason hprogress).trans hreason⟩

end Run

/-! ## Both ends -/

/-- The payload that `close` sends. -/
theorem close_eq {statusCode : Nat} {reason : Bytes} (hnul : 0 ∉ reason)
    (hlength : reason.length ≤ 125) (s : Sending) (sendMask : Bool) :
    s.close sendMask statusCode reason = some (s.send sendMask opcodeClose
      (if statusCode = 1005 then [] else toBigEndian 2 statusCode ++ reason) true) := by
  unfold Sending.close
  by_cases h : statusCode = 1005
  · rw [if_neg (Classical.not_not.mpr h), if_pos h]
  · rw [if_pos h, if_neg h, closePayload_eq hnul hlength]
    rfl

theorem closeReason_eq_toldReason {statusCode : Nat} {reason : Bytes}
    (hstatus : statusCode < 2 ^ 16) (hnul : 0 ∉ reason) (hlength : reason.length ≤ 125)
    (c : WSConnection) :
    (c.onCloseFrame (if statusCode = 1005 then [] else toBigEndian 2 statusCode ++ reason)
      ).closeReason = toldReason statusCode reason := by
  unfold toldReason
  by_cases h : statusCode = 1005
  · rw [if_pos h, if_pos h, h]
    rfl
  · rw [if_neg h, if_neg h]
    exact closeReason_onCloseFrame c hstatus hnul hlength

/-- A frame whose payload has at most 127 bytes. -/
theorem length_close_frame (sendMask : Bool) {payload : Bytes} (h : payload.length ≤ 127) :
    (sendHeader sendMask opcodeClose true payload.length ++ payload).length ≤ 135 := by
  have hext : (lengthBytes payload.length).2.length ≤ 2 := by
    unfold lengthBytes
    split
    · exact Nat.zero_le 2
    · rw [if_pos (by omega)]
      exact Nat.le_of_eq (length_toBigEndian 2 payload.length)
  have hkey : (if sendMask then ([0, 0, 0, 0] : Bytes) else []).length ≤ 4 := by
    cases sendMask with
    | true => exact Nat.le_refl 4
    | false => exact Nat.zero_le 4
  rw [sendHeader, List.length_append, List.length_append, List.length_append, List.length_cons,
    List.length_cons, List.length_nil]
  omega

/-- The end of a connection after the message in segments, without a mask. -/
def closedReads : List Bytes :=
  [[0x01, 0x01, 120, 0x89, 0, 0x80], [0x01, 121, 0x88, 5], [0x03, 0xe8, 98, 121, 101]]

/-- The status and the reason with which `handleOneWSMsg` answers a close frame: those of the
frame, of which `reason` holds 127 bytes. -/
def closeReply (sendMask : Bool) (s : Sending) (payload : Bytes) : Option Sending :=
  if 2 ≤ payload.length then
    s.close sendMask (bigEndian (payload.take 2)) ((payload.drop 2).take 127)
  else s.close sendMask 1005 []

/-- **The answer to a close frame** is read from within `close_reason`, unless the frame gives a
status other than 1005 and a reason of at least 127 bytes without a NUL among them. -/
theorem closeReply_isSome_iff (sendMask : Bool) (s : Sending) (payload : Bytes) :
    (closeReply sendMask s payload).isSome ↔
      payload.length < 129 ∨ bigEndian (payload.take 2) = 1005 ∨
        0 ∈ (payload.drop 2).take 127 := by
  unfold closeReply
  by_cases htwo : 2 ≤ payload.length
  · rw [if_pos htwo, Sending.close]
    by_cases hstatus : bigEndian (payload.take 2) = 1005
    · rw [if_neg (Classical.not_not.mpr hstatus)]
      exact ⟨fun _ => .inr (.inl hstatus), fun _ => rfl⟩
    · rw [if_pos hstatus, Option.isSome_map, closePayload]
      have hreason : ((payload.drop 2).take 127).length = min 127 (payload.length - 2) := by
        rw [List.length_take, List.length_drop]
      have hle := (List.takeWhile_prefix (· != 0) (l := (payload.drop 2).take 127)).length_le
      by_cases hnul : 0 ∈ (payload.drop 2).take 127
      · -- the NUL is not copied
        have hlt : (((payload.drop 2).take 127).takeWhile (· != 0)).length <
            ((payload.drop 2).take 127).length := by
          refine lt_of_le_of_ne hle fun heq => ?_
          have hall := (List.takeWhile_eq_self_iff).mp
            ((List.takeWhile_prefix (· != 0)).eq_of_length heq)
          have hzero := hall 0 hnul
          cases hzero
        rw [if_pos (by omega)]
        exact ⟨fun _ => .inr (.inr hnul), fun _ => rfl⟩
      · rw [takeWhile_of_not_mem hnul]
        split
        · exact ⟨fun _ => .inl (by omega), fun _ => rfl⟩
        · refine ⟨fun hsome => (by cases hsome), ?_⟩
          rintro (hshort | hstatus' | hnul')
          · omega
          · exact absurd hstatus' hstatus
          · exact absurd hnul' hnul
  · rw [if_neg htwo]
    exact ⟨fun _ => .inl (by omega), fun _ => rfl⟩

end DaraChat.Websocket
