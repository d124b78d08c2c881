import DaraChat.Server.Coherence

set_option autoImplicit false

/-! # Sockets that never log in

A handler looks at no socket but the one its event is about and those in the registry, which have
logged in. So a server and another that differs from it in other sockets do the same
(`step_withOthers`), and an event of a socket that has not logged in changes nothing but that
socket (`step_of_stranger`). Deleting all events of the connections on which no login is ever
accepted therefore leaves everything else as it was.
-/

namespace DaraChat

open GroupContainer

namespace Server

/-! ## Servers that differ in some sockets -/

/-- The server with `others` in place of the sockets outside `known`. -/
def withOthers (s : Server) (known : SocketId → Prop) [DecidablePred known]
    (others : SocketId → Option Socket) : Server :=
  { s with sockets := fun ws => if known ws then s.sockets ws else others ws }

section WithOthers

variable (s : Server) {known : SocketId → Prop} [DecidablePred known]
  (others : SocketId → Option Socket)

@[simp] theorem withOthers_groupContainer :
    (s.withOthers known others).groupContainer = s.groupContainer := rfl

@[simp] theorem withOthers_activeSessions :
    (s.withOthers known others).activeSessions = s.activeSessions := rfl

@[simp] theorem withOthers_setGroups (c : GroupContainer) :
    (s.withOthers known others).setGroups c = (s.setGroups c).withOthers known others := rfl

@[simp] theorem withOthers_publish (topic : Str) (payload : Payload) :
    (s.withOthers known others).publish topic payload =
      (s.publish topic payload).withOthers known others := rfl

@[simp] theorem withOthers_send (ws : SocketId) (message : Str) :
    (s.withOthers known others).send ws message = (s.send ws message).withOthers known others :=
  rfl

@[simp] theorem withOthers_unregister (name : Str) :
    (s.withOthers known others).unregister name = (s.unregister name).withOthers known others :=
  rfl

@[simp] theorem withOthers_sendGroupUpdateInfo (groupId : Str) :
    (s.withOthers known others).sendGroupUpdateInfo groupId =
      (s.sendGroupUpdateInfo groupId).withOthers known others := rfl

@[simp] theorem withOthers_ite (c : Prop) [Decidable c] (t : Server) :
    (if c then s else t).withOthers known others =
      if c then s.withOthers known others else t.withOthers known others :=
  apply_ite (fun u : Server => u.withOthers known others) c s t

theorem withOthers_sendIf (tells : Bool) (groupId : Str) :
    (s.withOthers known others).sendIf tells groupId =
      (s.sendIf tells groupId).withOthers known others := by
  cases tells <;> rfl

theorem withOthers_inviteToGroup (env : Env) (chatMsg : FDaraChatMsg) :
    inviteToGroup env (s.withOthers known others) chatMsg =
      (inviteToGroup env s chatMsg).withOthers known others := by
  simp only [inviteToGroup, withOthers_ite]
  rfl

theorem withOthers_handleTell (cfg : Config) (env : Env) (ws : SocketId) (data : PerSocketData)
    (chatMsg : FDaraChatMsg) :
    handleTell cfg env (s.withOthers known others) ws data chatMsg =
      (handleTell cfg env s ws data chatMsg).withOthers known others := by
  simp only [handleTell, withOthers_ite]
  rfl

theorem withOthers_handlePublish (msg : Str) :
    (s.withOthers known others).handlePublish msg =
      (s.handlePublish msg).withOthers known others := by
  simp only [handlePublish]
  cases find msg ':' 8 with
  | none => rfl
  | some sep => rfl

theorem withOthers_handleBinary (cfg : Config) (env : Env) (sock : Socket) (data : List UInt8) :
    handleBinary cfg env (s.withOthers known others) sock data =
      (handleBinary cfg env s sock data).withOthers known others := by
  simp only [handleBinary, withOthers_ite]
  cases FDaraRawChatMsg.deserialize data with
  | none => rfl
  | some validated =>
      simp only [withOthers_ite]
      rfl

/-- The snapshot is of registered sessions. -/
theorem withOthers_collectAdminSnapshot (env : Env)
    (hregistered : ∀ n ws, s.activeSessions.lookup n = some ws → known ws) :
    (s.withOthers known others).collectAdminSnapshot env = s.collectAdminSnapshot env := by
  have hdata : (s.withOthers known others).sessionData = s.sessionData := by
    refine List.filterMap_congr fun session hsession => ?_
    have hknown : known session.2 := hregistered _ _ (AList.mem_lookup_iff.mpr hsession)
    exact congrArg (Option.map Socket.data) (if_pos hknown)
  simp only [collectAdminSnapshot, hdata, withOthers_activeSessions, withOthers_groupContainer]

theorem withOthers_sockets_of_not {ws : SocketId} (hws : ¬ known ws) :
    (s.withOthers known others).sockets ws = others ws := if_neg hws

section Known

variable {ws : SocketId} (hws : known ws)

include hws

theorem withOthers_sockets : (s.withOthers known others).sockets ws = s.sockets ws :=
  if_pos hws

theorem withOthers_setSocket (sock : Socket) :
    (s.withOthers known others).setSocket ws sock =
      (s.setSocket ws sock).withOthers known others := by
  simp only [setSocket, withOthers, mk.injEq, and_true]
  funext ws'
  by_cases h : ws' = ws
  · subst h
    simp [hws]
  · simp [Function.update_of_ne h]

/-! ### Every handler does the same -/

theorem withOthers_retire (phase : Phase) :
    (s.withOthers known others).retire ws phase = (s.retire ws phase).withOthers known others := by
  simp only [retire, withOthers_sockets s others hws]
  cases s.sockets ws with
  | none => rfl
  | some sock => exact withOthers_setSocket s others hws _

theorem withOthers_closeHandler (env : Env) :
    (s.withOthers known others).closeHandler env ws =
      (s.closeHandler env ws).withOthers known others := by
  simp only [closeHandler, withOthers_sockets s others hws]
  cases s.sockets ws with
  | none => rfl
  | some sock => simp 

theorem withOthers_closeSocket (env : Env) :
    (s.withOthers known others).closeSocket env ws =
      (s.closeSocket env ws).withOthers known others := by
  rw [closeSocket, withOthers_retire s others hws, withOthers_closeHandler _ others hws]
  rfl

theorem withOthers_endSocket (env : Env) :
    (s.withOthers known others).endSocket env ws =
      (s.endSocket env ws).withOthers known others := by
  simp only [endSocket, withOthers_sockets s others hws]
  cases s.sockets ws with
  | none => rfl
  | some sock =>
      simp only [withOthers_ite, withOthers_retire s others hws,
        withOthers_closeSocket s others hws]

theorem withOthers_completeConnect (env : Env) (sock : Socket)
    (hregistered : ∀ n ws, s.activeSessions.lookup n = some ws → known ws) :
    (s.withOthers known others).completeConnect env ws sock =
      (s.completeConnect env ws sock).withOthers known others := by
  have hend : (s.withOthers known others).endOld env ws sock.data.name =
      (s.endOld env ws sock.data.name).withOthers known others := by
    simp only [endOld, withOthers_activeSessions]
    cases hold : s.activeSessions.lookup sock.data.name with
    | none => rfl
    | some old =>
        simp only [withOthers_ite, withOthers_endSocket s others (hregistered _ old hold)]
  rw [completeConnect_eq, completeConnect_eq, hend]
  generalize s.endOld env ws sock.data.name = t
  have henroll : (t.withOthers known others).enroll env ws sock =
      (t.enroll env ws sock).withOthers known others :=
    withOthers_setSocket ((t.register sock.data.name ws).setGroups
      (t.groupContainer.setMemberOnline env.time sock.data.name true).2) others hws _
  dsimp only
  rw [henroll]
  exact withOthers_sendIf _ others _ _

theorem withOthers_handleConnectMessage (cfg : Config) (env : Env) (sock : Socket) (msg : Str)
    (hregistered : ∀ n ws, s.activeSessions.lookup n = some ws → known ws) :
    handleConnectMessage cfg env (s.withOthers known others) ws sock msg =
      (handleConnectMessage cfg env s ws sock msg).withOthers known others := by
  simp only [handleConnectMessage, withOthers_ite, withOthers_endSocket s others hws]
  cases verifyLogin cfg.jwt msg cfg.jwtSecret env.now with
  | error reason => rfl
  | ok login => simp only [withOthers_completeConnect s others hws env _ hregistered]

theorem withOthers_handleGroupInvite (env : Env) (sock : Socket) (chatMsg : FDaraChatMsg) :
    handleGroupInvite env (s.withOthers known others) ws sock chatMsg =
      (handleGroupInvite env s ws sock chatMsg).withOthers known others := by
  simp only [handleGroupInvite, withOthers_groupContainer, withOthers_setGroups,
    withOthers_setSocket _ others hws, withOthers_inviteToGroup, withOthers_ite]

theorem withOthers_joinGroup (env : Env) (sock : Socket) (invited inviter : Str) :
    joinGroup env (s.withOthers known others) ws sock invited inviter =
      (joinGroup env s ws sock invited inviter).withOthers known others := by
  simp [joinGroup, withOthers_setSocket _ others hws]

theorem withOthers_handleGroupJoin (env : Env) (sock : Socket) (chatMsg : FDaraChatMsg) :
    handleGroupJoin env (s.withOthers known others) ws sock chatMsg =
      (handleGroupJoin env s ws sock chatMsg).withOthers known others := by
  simp only [handleGroupJoin, withOthers_groupContainer, withOthers_setGroups,
    withOthers_setSocket _ others hws, withOthers_joinGroup _ others hws, withOthers_ite]

theorem withOthers_handleGroupDisband (sock : Socket) (chatMsg : FDaraChatMsg) :
    handleGroupDisband (s.withOthers known others) ws sock chatMsg =
      (handleGroupDisband s ws sock chatMsg).withOthers known others := by
  simp [handleGroupDisband, withOthers_setSocket _ others hws]

theorem withOthers_handleChatMsg (cfg : Config) (env : Env) (sock : Socket)
    (chatMsg : FDaraChatMsg)
    (hregistered : ∀ n ws, s.activeSessions.lookup n = some ws → known ws) :
    handleChatMsg cfg env (s.withOthers known others) ws sock chatMsg =
      (handleChatMsg cfg env s ws sock chatMsg).withOthers known others := by
  simp only [handleChatMsg, withOthers_ite, withOthers_send,
    withOthers_collectAdminSnapshot s others env hregistered]
  congr 1
  cases chatMsg.type with
  | tell => exact withOthers_handleTell s others cfg env ws sock.data chatMsg
  | groupInvite => exact withOthers_handleGroupInvite s others hws env sock chatMsg
  | groupJoin => exact withOthers_handleGroupJoin s others hws env sock chatMsg
  | groupDisband => exact withOthers_handleGroupDisband s others hws sock chatMsg
  | group =>
      simp only [withOthers_ite]
      rfl
  | _ => rfl

theorem withOthers_handleText (cfg : Config) (env : Env) (sock : Socket) (msg : Str)
    (hregistered : ∀ n ws, s.activeSessions.lookup n = some ws → known ws) :
    handleText cfg env (s.withOthers known others) ws sock msg =
      (handleText cfg env s ws sock msg).withOthers known others := by
  simp only [handleText, withOthers_ite, withOthers_setSocket s others hws,
    withOthers_handleConnectMessage s others hws cfg env sock msg hregistered,
    withOthers_handlePublish, withOthers_handleChatMsg s others hws cfg env sock _ hregistered]
  rcases tryParseMessage msg with ⟨ok, chatMsg, reason⟩
  cases ok with
  | true => rfl
  | false => rfl

end Known

/-- **Sockets that no handler looks at do not matter**: on two servers that differ only in sockets
outside `known`, an event of a socket in `known` does the same, if all registered sockets are
there too. -/
theorem step_withOthers (cfg : Config) {e : Event} (he : known e.socketId)
    (hregistered : ∀ n ws, s.activeSessions.lookup n = some ws → known ws) :
    (s.withOthers known others).step cfg e = (s.step cfg e).withOthers known others := by
  cases e with
  | opened ws =>
      have hws : known ws := he
      simp only [step, withOthers_sockets s others hws]
      cases s.sockets ws with
      | none => exact withOthers_setSocket s others hws _
      | some sock => simp only [withOthers_ite, withOthers_setSocket s others hws]
  | text env ws msg =>
      have hws : known ws := he
      simp only [step, withOthers_sockets s others hws]
      cases s.sockets ws with
      | none => rfl
      | some sock =>
          simp only [withOthers_ite, withOthers_handleText s others hws cfg env sock msg hregistered]
  | binary env ws data =>
      have hws : known ws := he
      simp only [step, withOthers_sockets s others hws]
      cases s.sockets ws with
      | none => rfl
      | some sock => simp only [withOthers_ite, withOthers_handleBinary]
  | closed env ws =>
      have hws : known ws := he
      simp only [step, withOthers_sockets s others hws]
      cases s.sockets ws with
      | none => rfl
      | some sock => simp only [withOthers_ite, withOthers_closeSocket s others hws]

end WithOthers

/-! ## Events of a socket that has not logged in -/

/-- The event opens a socket. -/
def Opens (s : Server) : Event → Prop
  | .opened ws => ∀ sock ∈ s.sockets ws, sock.phase = .closed
  | _ => False

instance (s : Server) : ∀ e : Event, Decidable (s.Opens e)
  | .opened ws => inferInstanceAs (Decidable (∀ sock ∈ s.sockets ws, _))
  | .text .. | .binary .. | .closed .. => inferInstanceAs (Decidable False)

/-- The socket has not logged in, if there is one. -/
def Unconnected (s : Server) (ws : SocketId) : Prop :=
  ∀ sock ∈ s.sockets ws, sock.data.connected = false

section Strangers

variable {cfg : Config} {s : Server} {e : Event} {ws : SocketId} {sock : Socket}

theorem step_of_opens (h : s.Opens e) :
    s.step cfg e = s.setSocket e.socketId (openSocket e.socketId) := by
  cases e with
  | opened ws =>
      cases hsock : s.sockets ws with
      | none => simp [step, hsock, Event.socketId]
      | some sock => simp [step, hsock, h sock hsock, Event.socketId]
  | text env ws msg => cases h
  | binary env ws data => cases h
  | closed env ws => cases h

/-- The end of a socket that has not logged in is nothing to the others. -/
theorem endSocket_of_unconnected (env : Env) (h : s.sockets ws = some sock)
    (hc : sock.data.connected = false) :
    s.endSocket env ws = s ∨ ∃ phase, s.endSocket env ws = s.setSocket ws (sock.retire phase) := by
  rcases endSocket_cases s env ws h with ⟨-, heq⟩ | ⟨-, heq⟩ | ⟨-, heq⟩
  · exact Or.inl heq
  · exact Or.inr ⟨.ended, heq⟩
  · refine Or.inr ⟨.closed, ?_⟩
    rw [heq, closeSocket_of_not_registered s env ws h (by simp [hc])]

/-- A text frame of such a socket, other than a login, ends it or does nothing. -/
theorem handleText_of_unconnected {env : Env} {msg : Str} (h : s.sockets ws = some sock)
    (hlive : sock.phase = .live) (hc : sock.data.connected = false)
    (hlogs : s.logging cfg (.text env ws msg) = none) :
    handleText cfg env s ws sock msg = s.endSocket env ws ∨
      handleText cfg env s ws sock msg = s := by
  rw [handleText, if_pos hc]
  split
  · refine Or.inl ?_
    simp only [logging, h, if_pos (And.intro hlive hc)] at hlogs
    rw [handleConnectMessage, hc, if_neg Bool.false_ne_true]
    cases hlogin : verifyLogin cfg.jwt msg cfg.jwtSecret env.now with
    | ok login => simp [hlogin] at hlogs
    | error reason => rfl
  · exact Or.inr rfl

/-- **A socket that has not logged in has no influence**: an event of it that is not a login
changes that socket only, and only its phase. -/
theorem step_of_stranger (hstranger : s.Unconnected e.socketId) (hlogs : s.logging cfg e = none)
    (hopens : ¬ s.Opens e) :
    s.step cfg e = s ∨ ∃ sock phase, s.sockets e.socketId = some sock ∧
      s.step cfg e = s.setSocket e.socketId (sock.retire phase) := by
  cases e with
  | opened ws =>
      obtain ⟨sock, hsock, hphase⟩ : ∃ sock ∈ s.sockets ws, sock.phase ≠ .closed := by
        simpa [Opens] using hopens
      refine Or.inl ?_
      simp only [step, Option.mem_def.mp hsock]
      exact if_neg hphase
  | text env ws msg =>
      cases hsock : s.sockets ws with
      | none => exact Or.inl (by simp [step, hsock])
      | some sock =>
          have hc : sock.data.connected = false := hstranger sock hsock
          by_cases hlive : sock.phase = .live
          · have hstep : s.step cfg (.text env ws msg) = handleText cfg env s ws sock msg := by
              simp only [step, hsock, if_pos hlive]
            rw [hstep]
            -- a refused login ends the socket, every other text is ignored
            rcases handleText_of_unconnected hsock hlive hc hlogs with heq | heq
            · rw [heq]
              rcases endSocket_of_unconnected env hsock hc with hend | ⟨phase, hend⟩
              · exact Or.inl hend
              · exact Or.inr ⟨sock, phase, hsock, hend⟩
            · exact Or.inl heq
          · exact Or.inl (by simp [step, hsock, hlive])
  | binary env ws data =>
      cases hsock : s.sockets ws with
      | none => exact Or.inl (by simp [step, hsock])
      | some sock =>
          have hc : sock.data.connected = false := hstranger sock hsock
          exact Or.inl (by simp [step, hsock, handleBinary, hc])
  | closed env ws =>
      cases hsock : s.sockets ws with
      | none => exact Or.inl (by simp [step, hsock])
      | some sock =>
          have hc : sock.data.connected = false := hstranger sock hsock
          by_cases hclosed : sock.phase = .closed
          · exact Or.inl (by simp [step, hsock, hclosed])
          · refine Or.inr ⟨sock, .closed, hsock, ?_⟩
            simp only [step, hsock, if_neg hclosed]
            exact closeSocket_of_not_registered s env ws hsock (by simp [hc])

end Strangers

/-! ## Connections -/

/-- A connection: the address of its socket, and how often that had been opened. -/
abbrev Connection := SocketId × Nat

/-- Count how often every address is opened. -/
def countOpen (s : Server) (e : Event) (count : SocketId → Nat) : SocketId → Nat :=
  if s.Opens e then Function.update count e.socketId (count e.socketId + 1) else count

/-- The server, and the count. -/
def counting (cfg : Config) : Machine (Server × (SocketId → Nat)) Event :=
  (machine cfg).observed countOpen fun _ => 0

/-- The connection that an event is of. -/
def connection (p : Server × (SocketId → Nat)) (e : Event) : Connection :=
  (e.socketId, countOpen p.1 e p.2 e.socketId)

/-- The connections on which a login is accepted. -/
def loggedIn (cfg : Config) (evs : List Event) : List Connection :=
  (counting cfg).collect
    (fun p e => if (logging cfg p.1 e).isSome then [connection p e] else []) evs

/-- The events without those of the connections on which no login is ever accepted. -/
def withoutStrangers (cfg : Config) (evs : List Event) : List Event :=
  (counting cfg).thin (fun p e => connection p e ∈ loggedIn cfg evs) evs

/-- The servers have the same sessions and groups, have published and sent the same, and have the
same sockets in `known`. -/
structure SameTo (known : SocketId → Prop) (s s' : Server) : Prop where
  activeSessions : s'.activeSessions = s.activeSessions
  groupContainer : s'.groupContainer = s.groupContainer
  published : s'.published = s.published
  sent : s'.sent = s.sent
  sockets : ∀ ws, known ws → s'.sockets ws = s.sockets ws

/-- Address `ws` is now one of the connections `kept`. -/
abbrev KeptAt (kept : List Connection) (count : SocketId → Nat) (ws : SocketId) : Prop :=
  (ws, count ws) ∈ kept

/-- The run without the connections that are not `kept` is at `s'` when the whole run is at `p`:
where a connection is not kept, it has not logged in, and the shorter run has no socket. -/
structure Follows (kept : List Connection) (p : Server × (SocketId → Nat)) (s' : Server) :
    Prop where
  same : SameTo (KeptAt kept p.2) p.1 s'
  absent : ∀ ws, ¬ KeptAt kept p.2 ws → ∀ sock ∈ s'.sockets ws, sock.phase = .closed
  strangers : ∀ ws, ¬ KeptAt kept p.2 ws → p.1.Unconnected ws

section Follows

variable {cfg : Config} {kept : List Connection} {p : Server × (SocketId → Nat)} {s' : Server}
  {e : Event}

theorem follows_init : Follows kept ({}, fun _ => 0) {} where
  same := ⟨rfl, rfl, rfl, rfl, fun _ _ => rfl⟩
  absent := by intro ws _ sock h; cases h
  strangers := by intro ws _ sock h; cases h

theorem SameTo.eq_withOthers {known : SocketId → Prop} [DecidablePred known] {s : Server}
    (h : SameTo known s s') : s' = s.withOthers known s'.sockets := by
  have hsockets : s'.sockets = (s.withOthers known s'.sockets).sockets := by
    funext ws
    by_cases hws : known ws
    · rw [withOthers_sockets s _ hws, h.sockets ws hws]
    · rw [withOthers_sockets_of_not s _ hws]
  obtain ⟨hactive, hgroups, hpublished, hsent, -⟩ := h
  cases s'
  cases hactive
  cases hgroups
  cases hpublished
  cases hsent
  exact congrArg (fun sockets => ({ s with sockets := sockets } : Server)) hsockets

theorem countOpen_of_not_opens (h : ¬ p.1.Opens e) : countOpen p.1 e p.2 = p.2 := if_neg h

/-- An event opens no other connection than its own. -/
theorem keptAt_countOpen {ws : SocketId} (h : ws ≠ e.socketId) :
    KeptAt kept (countOpen p.1 e p.2) ws ↔ KeptAt kept p.2 ws := by
  have hcount : countOpen p.1 e p.2 ws = p.2 ws := by
    rw [countOpen]
    split
    · exact Function.update_of_ne h _ _
    · rfl
  rw [KeptAt, hcount]

/-- Registered sockets have logged in, so their connections are kept. -/
theorem Follows.registered (h : Follows kept p s') (hr : p.1.Registry) (n : Str) (ws : SocketId)
    (hn : p.1.activeSessions.lookup n = some ws) : KeptAt kept p.2 ws := by
  by_contra hws
  obtain ⟨sock, hsock, -, hc, -⟩ := hr.registered n ws hn
  rw [h.strangers ws hws sock hsock] at hc
  cases hc

/-- A kept event that opens no socket does the same in both runs. -/
theorem Follows.step_kept (h : Follows kept p s') (hr : p.1.Registry) (hopens : ¬ p.1.Opens e)
    (hkept : connection p e ∈ kept) :
    Follows kept (p.1.step cfg e, countOpen p.1 e p.2) (s'.step cfg e) := by
  have hcount := countOpen_of_not_opens hopens
  have hws : KeptAt kept p.2 e.socketId := by rwa [connection, hcount] at hkept
  have hstep : ∀ others, (p.1.withOthers (KeptAt kept p.2) others).step cfg e =
      (p.1.step cfg e).withOthers (KeptAt kept p.2) others :=
    fun others => step_withOthers p.1 others cfg hws (h.registered hr)
  have hs' : s'.step cfg e = (p.1.step cfg e).withOthers (KeptAt kept p.2) s'.sockets := by
    rw [← hstep, ← h.same.eq_withOthers]
  -- the event leaves the other sockets alone, in the shorter run and in the whole one
  have hframe : ∀ ws, ¬ KeptAt kept p.2 ws → (p.1.step cfg e).sockets ws = p.1.sockets ws := by
    intro ws hws
    have hself : SameTo (KeptAt kept p.2) p.1 p.1 := ⟨rfl, rfl, rfl, rfl, fun _ _ => rfl⟩
    have heq := hstep p.1.sockets
    rw [← hself.eq_withOthers] at heq
    rw [heq, withOthers_sockets_of_not _ _ hws]
  rw [hcount, hs']
  constructor
  case same => exact ⟨rfl, rfl, rfl, rfl, fun ws hws => withOthers_sockets _ _ hws⟩
  case absent =>
    intro ws hws
    rw [withOthers_sockets_of_not _ _ hws]
    exact h.absent ws hws
  case strangers =>
    intro ws hws
    rw [Unconnected, hframe ws hws]
    exact h.strangers ws hws

/-- Where a socket can be opened, it can be in the shorter run. -/
theorem Follows.closed (h : Follows kept p s') (hopens : p.1.Opens e) :
    ∀ sock ∈ s'.sockets e.socketId, sock.phase = .closed := by
  by_cases hws : KeptAt kept p.2 e.socketId
  · rw [h.same.sockets _ hws]
    cases e with
    | opened ws => exact hopens
    | text env ws msg => cases hopens
    | binary env ws data => cases hopens
    | closed env ws => cases hopens
  · exact h.absent _ hws

/-- A kept event that opens a socket opens it in both runs. -/
theorem Follows.open_kept (h : Follows kept p s') (hopens : p.1.Opens e)
    (hkept : connection p e ∈ kept) :
    Follows kept (p.1.step cfg e, countOpen p.1 e p.2) (s'.step cfg e) := by
  have hopens' : s'.Opens e := by
    cases e with
    | opened ws => exact h.closed hopens
    | text env ws msg => cases hopens
    | binary env ws data => cases hopens
    | closed env ws => cases hopens
  -- the socket that is opened gets a new connection, and this one is kept
  have hself : ∀ ws, ¬ KeptAt kept (countOpen p.1 e p.2) ws → ws ≠ e.socketId := by
    rintro ws hws rfl
    exact hws hkept
  rw [step_of_opens hopens, step_of_opens hopens']
  obtain ⟨hactive, hgroups, hpublished, hsent, -⟩ := h.same
  constructor
  case same =>
    refine ⟨hactive, hgroups, hpublished, hsent, fun ws hws => ?_⟩
    by_cases hself : ws = e.socketId
    · rw [hself, setSocket_sockets_self, setSocket_sockets_self]
    · rw [setSocket_sockets_ne _ _ _ hself, setSocket_sockets_ne _ _ _ hself]
      exact h.same.sockets ws ((keptAt_countOpen hself).mp hws)
  case absent =>
    intro ws hws
    rw [setSocket_sockets_ne _ _ _ (hself ws hws)]
    exact h.absent ws (hws ∘ (keptAt_countOpen (hself ws hws)).mpr)
  case strangers =>
    intro ws hws
    rw [Unconnected, setSocket_sockets_ne _ _ _ (hself ws hws)]
    exact h.strangers ws (hws ∘ (keptAt_countOpen (hself ws hws)).mpr)

/-- A change of a socket that has not logged in, whose connection is not kept. -/
theorem Follows.setSocket (h : Follows kept p s') (hdropped : connection p e ∉ kept)
    {sock : Socket} (hc : sock.data.connected = false)
    (hclosed : ∀ sock ∈ s'.sockets e.socketId, sock.phase = .closed) :
    Follows kept (p.1.setSocket e.socketId sock, countOpen p.1 e p.2) s' := by
  obtain ⟨hactive, hgroups, hpublished, hsent, -⟩ := h.same
  constructor
  case same =>
    refine ⟨hactive, hgroups, hpublished, hsent, fun ws hws => ?_⟩
    -- a socket whose connection is kept is another one
    have hself : ws ≠ e.socketId := by
      rintro rfl
      exact hdropped hws
    rw [setSocket_sockets_ne _ _ _ hself]
    exact h.same.sockets ws ((keptAt_countOpen hself).mp hws)
  case absent =>
    intro ws hws
    by_cases hself : ws = e.socketId
    · rw [hself]
      exact hclosed
    · exact h.absent ws (hws ∘ (keptAt_countOpen hself).mpr)
  case strangers =>
    intro ws hws sock' hsock'
    rcases setSocket_cases hsock' with ⟨-, rfl⟩ | ⟨hself, hfound⟩
    · exact hc
    · exact h.strangers ws (hws ∘ (keptAt_countOpen hself).mpr) sock' hfound

/-- A deleted event is nothing to the shorter run. -/
theorem Follows.step_dropped (h : Follows kept p s') (hdropped : connection p e ∉ kept)
    (hlogs : p.1.logging cfg e = none) :
    Follows kept (p.1.step cfg e, countOpen p.1 e p.2) s' := by
  by_cases hopens : p.1.Opens e
  · rw [step_of_opens hopens]
    exact h.setSocket hdropped rfl (h.closed hopens)
  · have hcount := countOpen_of_not_opens hopens
    have hws : ¬ KeptAt kept p.2 e.socketId := by rwa [connection, hcount] at hdropped
    rcases step_of_stranger (h.strangers _ hws) hlogs hopens with heq | ⟨sock, phase, hsock, heq⟩
    · rw [heq, hcount]
      exact h
    · rw [heq]
      exact h.setSocket hdropped (h.strangers _ hws sock hsock) (h.absent _ hws)

end Follows

theorem follows_withoutStrangers (cfg : Config) (evs : List Event) :
    Follows (loggedIn cfg evs) ((counting cfg).run evs)
      ((machine cfg).run (withoutStrangers cfg evs)) := by
  have halong : (counting cfg).Along (fun p e => p.1.Registry ∧
      (connection p e ∉ loggedIn cfg evs → p.1.logging cfg e = none)) evs := by
    rw [Machine.along_iff]
    rintro pre e post rfl
    refine ⟨?_, fun hdropped => ?_⟩
    · rw [counting, Machine.run_observed_fst]
      exact (consistent_run cfg pre).registry
    -- a connection that logs in at this event is one of those that are kept
    · by_contra hlogs
      refine hdropped ((counting cfg).mem_collect.mpr ⟨pre, e, post, rfl, ?_⟩)
      rw [if_pos (Option.isSome_iff_ne_none.mpr hlogs)]
      exact List.mem_singleton_self _
  refine (counting cfg).thin_simulation (machine cfg) follows_init ?_ ?_ evs halong
  · rintro p s' e ⟨hr, -⟩ h hkept
    by_cases hopens : p.1.Opens e
    · exact h.open_kept hopens (of_decide_eq_true hkept)
    · exact h.step_kept hr hopens (of_decide_eq_true hkept)
  · rintro p s' e ⟨-, hlogs⟩ h hdropped
    have hdropped := of_decide_eq_false hdropped
    exact h.step_dropped hdropped (hlogs hdropped)

/-- **Sockets that never log in have no influence**: without the events of the connections on
which no login is ever accepted, the run comes to the same sessions and groups, the same sockets
on all other connections, and the same frames published and sent. -/
theorem sameTo_withoutStrangers (cfg : Config) (evs : List Event) :
    SameTo (KeptAt (loggedIn cfg evs) ((counting cfg).run evs).2) ((machine cfg).run evs)
      ((machine cfg).run (withoutStrangers cfg evs)) := by
  have hsame := (follows_withoutStrangers cfg evs).same
  rwa [counting, Machine.run_observed_fst] at hsame

/-- A socket that fails to log in, at the address that Trula's has after it. -/
def strangerEvents : List Event :=
  [ .opened 2
  , .text (sampleEnv 1000 "") 2 "connect:name=Tirio;zone=Dungeon;group=;pass=guess".toList
  , .closed (sampleEnv 1000 "") 2 ]

-- its events are deleted, and those of Trula are not
example : (withoutStrangers sampleConfig (strangerEvents ++ joinEvents)).map Event.socketId =
    joinEvents.map Event.socketId := by decide +kernel

end Server

end DaraChat
