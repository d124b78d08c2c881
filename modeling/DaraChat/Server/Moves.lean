import DaraChat.Server.Operations
import Mathlib.Logic.Relation

set_option autoImplicit false

/-! # What one event can do

Every event is a chain of a few moves: a socket opens, retires, logs in, changes its slots,
founds, enters or leaves a group, and so on. `Move` lists them with all that the handlers have
checked before them, and `moves_step` says once that every event is such a chain. An invariant
of the server is then proved by one case for each move.

A `Guard` says what is known of a move because of the event it belongs to: the login that is
accepted, the channel that is stored, the socket that enters a group, the name a frame is sent
under. Invariants that need nothing are proved under any guard; others ask it of the events
(`Guard.Allows`).
-/

namespace DaraChat

open GroupContainer

namespace Server

/-! ## The moves -/

/-- What is known of the moves of an event. -/
structure Guard where
  /-- A socket logs in. -/
  logs : SocketId → AuthenticatedLogin → Prop := fun _ _ => True
  /-- A socket stores a client's channel. -/
  stores : Socket → Str → Prop := fun _ _ => True
  /-- A socket removes a channel. -/
  removes : SocketId → Prop := fun _ => True
  /-- A socket enters a group, founded or not. -/
  enters : SocketId → Socket → Prop := fun _ _ => True
  /-- In a state, a group with this id is founded by this character. -/
  founds : Server → Str → Str → Prop := fun _ _ _ => True
  /-- A message is published with this sender. -/
  sends : Str → Prop := fun _ => True
  /-- This `Tell` or `GroupInvite` is published. -/
  tells : FDaraChatMsg → Prop := fun _ => True
  /-- Groups or invitations change. -/
  commands : Prop := True
  /-- A message is sent to a socket. -/
  answers : SocketId → Str → Prop := fun _ _ => True

/-- A session with these data may publish `chatMsg` on `topic`. -/
def Relayed (data : PerSocketData) (chatMsg : FDaraChatMsg) (topic : Str) : Prop :=
  chatMsg.sender = data.name ∧
    match chatMsg.type with
    | .channel => topic = chatMsg.recipient
    | .zone => topic = zoneTopic data.zone
    | .tell => topic = tellTopic chatMsg.recipient
    | .group | .aliveInfo => topic = data.groupId
    | _ => False

/-- The changes of the server that the handlers are made of. -/
inductive Move (guard : Guard) (s : Server) : Server → Prop
  | opened (ws : SocketId) (h : ∀ sock, s.sockets ws = some sock → sock.phase = .closed) :
      Move guard s (s.setSocket ws (openSocket ws))
  | retired (ws : SocketId) (sock : Socket) (phase : Phase) (h : s.sockets ws = some sock)
      (hphase : phase ≠ .live)
      (hreg : phase = .closed → sock.data.connected = true →
        s.activeSessions.lookup sock.data.name ≠ some ws) :
      Move guard s (s.setSocket ws (sock.retire phase))
  | withdrawn (env : Env) (ws : SocketId) (sock : Socket) (h : s.sockets ws = some sock)
      (hc : sock.data.connected = true) (hreg : s.activeSessions.lookup sock.data.name = some ws) :
      Move guard s ((s.withdraw env ws sock).sendIf (s.closeTells env sock) sock.data.groupId)
  | enrolled (env : Env) (ws : SocketId) (sock : Socket) (login : AuthenticatedLogin)
      (h : s.sockets ws = some sock) (hlive : sock.phase = .live)
      (hc : sock.data.connected = false) (hname : login.characterName ≠ [])
      (hlogs : guard.logs ws login)
      (hold : ∀ old, s.activeSessions.lookup login.characterName = some old → old ≠ ws →
        ∀ sock', s.sockets old = some sock' → sock'.phase ≠ .live) :
      Move guard s ((s.enroll env ws { sock with data := handleConnect sock.data login }).sendIf
        (s.groupContainer.groupIdOf login.characterName ≠ [])
        (s.groupContainer.groupIdOf login.characterName))
  | stored (ws : SocketId) (sock : Socket) (topic : Str) (h : s.Session ws sock)
      (hvalid : checkValidTopicName topic = true) (hstores : guard.stores sock topic) :
      Move guard s (s.setSocket ws (sock.storeTopicSubscription topic))
  | removed (ws : SocketId) (sock : Socket) (topic : Str) (h : s.Session ws sock)
      (hremoves : guard.removes ws) :
      Move guard s (s.setSocket ws (sock.removeTopicSubscription topic))
  | left (ws : SocketId) (sock : Socket) (h : s.Session ws sock) (hcommands : guard.commands)
      (hsolo : (s.groupContainer.getGroupInfo sock.data.name).memberCount = 1) :
      Move guard s (s.leaveGroup ws sock)
  | disbanded (ws : SocketId) (sock : Socket) (h : s.Session ws sock)
      (hcommands : guard.commands) (hgroup : sock.data.groupId ≠ [])
      (hsends : guard.sends sock.data.name) :
      Move guard s (s.disband ws sock)
  | founded (env : Env) (ws : SocketId) (sock : Socket) (h : s.Session ws sock)
      (hcommands : guard.commands) (hfree : sock.data.groupId = [])
      (hnone : s.groupContainer.groupIdOf sock.data.name = []) (henters : guard.enters ws sock)
      (hfounds : guard.founds s (getNewGroupId env.uuid) sock.data.name) :
      Move guard s (s.foundGroup env ws sock)
  | admitted (env : Env) (ws : SocketId) (sock : Socket) (inviter : Str) (h : s.Session ws sock)
      (hcommands : guard.commands) (hfree : sock.data.groupId = [])
      (hjoin : s.groupContainer.CanJoin sock.data.name inviter) (henters : guard.enters ws sock) :
      Move guard s (s.acceptInvite env ws sock inviter)
  | invited (env : Env) (ws : SocketId) (sock : Socket) (chatMsg : FDaraChatMsg)
      (h : s.Session ws sock) (hcommands : guard.commands)
      (hsender : chatMsg.sender = sock.data.name) (hsends : guard.sends sock.data.name)
      (hinvite : (s.groupContainer.groupInvite chatMsg.recipient chatMsg.sender).errorCode =
        daraGroupSuccess)
      (htells : guard.tells { chatMsg with type := .groupInvite }) :
      Move guard s (s.invite env chatMsg)
  | pruned (env : Env) (hcommands : guard.commands) : Move guard s (s.prune env)
  | alive (env : Env) (ws : SocketId) (sock : Socket) (member : GroupMember)
      (h : s.Session ws sock) (hmember : member.name = sock.data.name) :
      Move guard s (s.setGroups (s.groupContainer.aliveMsg env.time member))
  | relayed (ws : SocketId) (sock : Socket) (topic : Str) (chatMsg : FDaraChatMsg)
      (h : s.Session ws sock) (hrelayed : Relayed sock.data chatMsg topic)
      (hsends : guard.sends sock.data.name) (htells : chatMsg.type = .tell → guard.tells chatMsg) :
      Move guard s (s.publish topic (.text chatMsg.serialize))
  | forwarded (ws : SocketId) (sock : Socket) (topic rest : Str) (h : s.Session ws sock)
      (hcolon : ':' ∉ topic) :
      Move guard s (s.publish topic (.text (topic ++ ':' :: rest)))
  | broadcast (ws : SocketId) (sock : Socket) (data : List UInt8) (h : s.Session ws sock)
      (hvalid : (FDaraRawChatMsg.deserialize data).isSome = true) :
      Move guard s (s.publish sock.data.groupId (.binary data))
  | sent (ws : SocketId) (sock : Socket) (message : Str) (h : s.Session ws sock)
      (hanswers : guard.answers ws message) :
      Move guard s (s.send ws message)

/-! ## What an event asks for -/

/-- The login that an event makes, and its socket. -/
def logging (cfg : Config) (s : Server) : Event → Option (SocketId × AuthenticatedLogin)
  | .text env ws msg =>
      match s.sockets ws with
      | none => none
      | some sock =>
          if sock.phase = .live ∧ sock.data.connected = false then
            match verifyLogin cfg.jwt msg cfg.jwtSecret env.now with
            | .ok login => some (ws, login)
            | .error _ => none
          else none
  | _ => none

/-- The channel that a `subscribe:` frame asks for, if it may be stored, and the socket that
asks. -/
def storing (s : Server) : Event → Option (Socket × Str)
  | .text _ ws msg =>
      match s.sockets ws with
      | none => none
      | some sock =>
          let newTopic := msg.drop "subscribe:".toList.length
          if sock.phase = .live ∧ sock.data.connected = true ∧
              startsWith msg "subscribe:".toList = true ∧ checkValidTopicName newTopic = true then
            some (sock, newTopic)
          else none
  | _ => none

/-- The socket that sends an `unsubscribe:` frame. -/
def removing (s : Server) : Event → Option SocketId
  | .text _ ws msg =>
      match s.sockets ws with
      | none => none
      | some sock =>
          if sock.phase = .live ∧ sock.data.connected = true ∧
              startsWith msg "unsubscribe:".toList = true then
            some ws
          else none
  | _ => none

/-- The socket that an event puts into a group, as it is when it enters. -/
def entering (s : Server) (e : Event) : Option (SocketId × Socket) :=
  match s.chatCommand e with
  | none => none
  | some cmd =>
      match cmd.chatMsg.type with
      | .groupInvite => if cmd.sock.data.groupId = [] then some (cmd.ws, cmd.sock) else none
      | .groupJoin =>
          let c := s.groupContainer.removeOldInvites cmd.env.time
          if JoinAllowed c cmd.sock.data.name cmd.chatMsg.recipient then
            if (c.getGroupInfo cmd.sock.data.name).memberCount = 1 then
              some (cmd.ws, cmd.sock.removeGroupSubscription.setGroupId [])
            else if cmd.sock.data.groupId = [] then some (cmd.ws, cmd.sock)
            else none
          else none
      | _ => none

/-- The id of the group that an event founds, and its founder. -/
def founding (s : Server) (e : Event) : Option (Str × Str) :=
  match s.chatCommand e with
  | none => none
  | some cmd =>
      if cmd.chatMsg.type = .groupInvite ∧ cmd.sock.data.groupId = [] then
        some (getNewGroupId cmd.env.uuid, cmd.sock.data.name)
      else none

/-- The commands that change groups or invitations. -/
def IsGroupCommand (type : EChatCmdType) : Prop :=
  type = .groupInvite ∨ type = .groupJoin ∨ type = .groupDisband

/-- The commands that are addressed to one character. -/
def IsPrivateType (type : EChatCmdType) : Prop := type = .tell ∨ type = .groupInvite

instance : DecidablePred IsPrivateType := fun type =>
  inferInstanceAs (Decidable (type = _ ∨ type = _))

theorem IsPrivateType.ne_none {type : EChatCmdType} (h : IsPrivateType type) : type ≠ .none := by
  rintro rfl
  simp [IsPrivateType] at h

/-- The types that belong to administrators. -/
def isAdminType (type : EChatCmdType) : Bool :=
  isAdminQuery type || type = .adminInfo || type = .adminError

/-- The reply that an event is answered with, and its socket. -/
def answering (cfg : Config) (s : Server) (e : Event) : Option (SocketId × FDaraChatMsg) :=
  match s.chatCommand e with
  | none => none
  | some cmd =>
      if isAdminType cmd.chatMsg.type = true then
        some (cmd.ws, answerAdminQuery cfg.serializeJson cmd.chatMsg
          (adminNow cmd.env cmd.sock.data) fun _ => s.collectAdminSnapshot cmd.env)
      else if cmd.chatMsg.type = .tell ∧ startsWith cmd.chatMsg.message "DEBUG".toList = true ∧
          adminNow cmd.env cmd.sock.data = false then
        some (cmd.ws, adminError cfg.serializeJson cmd.sock.data.name "Forbidden".toList
          "Administrator access required".toList)
      else none

/-- The event does what the guard knows of. -/
structure Guard.Allows (guard : Guard) (cfg : Config) (s : Server) (e : Event) : Prop where
  logs : ∀ p ∈ s.logging cfg e, guard.logs p.1 p.2
  stores : ∀ p ∈ s.storing e, guard.stores p.1 p.2
  removes : ∀ ws ∈ s.removing e, guard.removes ws
  enters : ∀ p ∈ s.entering e, guard.enters p.1 p.2
  founds : ∀ p ∈ s.founding e, guard.founds s p.1 p.2
  sends : ∀ cmd ∈ s.chatCommand e, guard.sends cmd.sock.data.name
  commands : ∀ cmd ∈ s.chatCommand e, IsGroupCommand cmd.chatMsg.type → guard.commands
  answers : ∀ p ∈ s.answering cfg e, guard.answers p.1 p.2.serialize
  tells : ∀ cmd ∈ s.chatCommand e, IsPrivateType cmd.chatMsg.type → guard.tells cmd.chatMsg

/-! ## Every event is a chain of moves -/

section Chains

variable {guard : Guard} {s : Server}

/-- A chain of moves. -/
abbrev Moves (guard : Guard) (s s' : Server) : Prop := Relation.ReflTransGen (Move guard) s s'

theorem Move.moves {s' : Server} (h : Move guard s s') : Moves guard s s' := .single h

theorem moves_closeSocket (env : Env) {ws : SocketId} {sock : Socket}
    (h : s.sockets ws = some sock) : Moves guard s (s.closeSocket env ws) := by
  by_cases hreg : sock.data.connected = true ∧ s.activeSessions.lookup sock.data.name = some ws
  · rw [closeSocket_of_registered s env ws h hreg.1 hreg.2]
    exact (Move.withdrawn env ws sock h hreg.1 hreg.2).moves
  · have hreg' : sock.data.connected = true → s.activeSessions.lookup sock.data.name ≠ some ws :=
      fun hc hr => hreg ⟨hc, hr⟩
    rw [closeSocket_of_not_registered s env ws h hreg']
    exact (Move.retired ws sock .closed h (by simp) fun _ => hreg').moves

theorem moves_endSocket (env : Env) (ws : SocketId) : Moves guard s (s.endSocket env ws) := by
  cases h : s.sockets ws with
  | none =>
      have hend : s.endSocket env ws = s := by simp [endSocket, h]
      rw [hend]
  | some sock =>
      rcases endSocket_cases s env ws h with ⟨-, heq⟩ | ⟨-, heq⟩ | ⟨-, heq⟩
      · rw [heq]
      · rw [heq]
        exact (Move.retired ws sock .ended h (by simp) (by simp)).moves
      · rw [heq]
        exact moves_closeSocket env h

theorem moves_endOld (env : Env) (ws : SocketId) (name : Str) :
    Moves guard s (s.endOld env ws name) := by
  rw [endOld]
  split
  · split
    · exact moves_endSocket env _
    · exact .refl
  · exact .refl

theorem moves_completeConnect (env : Env) {ws : SocketId} {sock : Socket}
    {login : AuthenticatedLogin} (h : s.sockets ws = some sock) (hlive : sock.phase = .live)
    (hc : sock.data.connected = false) (hname : login.characterName ≠ [])
    (hlogs : guard.logs ws login) :
    Moves guard s
      (s.completeConnect env ws { sock with data := handleConnect sock.data login }) := by
  obtain ⟨hsock, hold⟩ := endOld_frame s env ws login.characterName
  rw [completeConnect_eq]
  exact (moves_endOld env ws login.characterName).tail
    (.enrolled env ws sock login (hsock.trans h) hlive hc hname hlogs hold)

section Commands

variable {cfg : Config} {e : Event} {cmd : ChatCommand}

theorem entering_of_groupInvite (hcmd : s.chatCommand e = some cmd)
    (htype : cmd.chatMsg.type = .groupInvite) (hfree : cmd.sock.data.groupId = []) :
    s.entering e = some (cmd.ws, cmd.sock) := by
  simp only [entering, hcmd, htype]
  rw [if_pos hfree]

theorem founding_of_groupInvite (hcmd : s.chatCommand e = some cmd)
    (htype : cmd.chatMsg.type = .groupInvite) (hfree : cmd.sock.data.groupId = []) :
    s.founding e = some (getNewGroupId cmd.env.uuid, cmd.sock.data.name) := by
  simp only [founding, hcmd]
  rw [if_pos ⟨htype, hfree⟩]

/-- The command that founds a group. -/
theorem chatCommand_of_founding {p : Str × Str} (h : s.founding e = some p) :
    ∃ cmd, s.chatCommand e = some cmd ∧ p = (getNewGroupId cmd.env.uuid, cmd.sock.data.name) := by
  cases hcmd : s.chatCommand e with
  | none => simp [founding, hcmd] at h
  | some cmd =>
      simp only [founding, hcmd] at h
      split at h
      · exact ⟨cmd, rfl, (Option.some.inj h).symm⟩
      · cases h

/-- The id of a founded group carries the prefix. -/
theorem isGroupTopic_of_founding {p : Str × Str} (h : s.founding e = some p) :
    isGroupTopic p.1 = true := by
  obtain ⟨cmd, -, rfl⟩ := chatCommand_of_founding h
  exact startsWith_iff.mpr (List.prefix_append _ _)

/-- A login is made by a text frame of a live socket that has not logged in, and verified. -/
theorem logging_eq_some {p : SocketId × AuthenticatedLogin} (h : s.logging cfg e = some p) :
    ∃ (env : Env) (msg : Str) (sock : Socket), e = .text env p.1 msg ∧
      s.sockets p.1 = some sock ∧ sock.phase = .live ∧ sock.data.connected = false ∧
      verifyLogin cfg.jwt msg cfg.jwtSecret env.now = .ok p.2 := by
  cases e with
  | text env ws msg =>
      cases hsock : s.sockets ws with
      | none => simp [logging, hsock] at h
      | some sock =>
          simp only [logging, hsock] at h
          split at h
          case isFalse => cases h
          case isTrue hfree =>
            cases hlogin : verifyLogin cfg.jwt msg cfg.jwtSecret env.now with
            | error reason => simp [hlogin] at h
            | ok login =>
                rw [hlogin] at h
                obtain rfl := Option.some.inj h
                exact ⟨env, msg, sock, rfl, hsock, hfree.1, hfree.2, hlogin⟩
  | opened ws => cases h
  | binary env ws data => cases h
  | closed env ws => cases h

theorem entering_of_groupJoin (hcmd : s.chatCommand e = some cmd)
    (htype : cmd.chatMsg.type = .groupJoin)
    (hallowed : JoinAllowed (s.groupContainer.removeOldInvites cmd.env.time) cmd.sock.data.name
      cmd.chatMsg.recipient) :
    s.entering e =
      if ((s.groupContainer.removeOldInvites cmd.env.time).getGroupInfo
          cmd.sock.data.name).memberCount = 1 then
        some (cmd.ws, cmd.sock.removeGroupSubscription.setGroupId [])
      else if cmd.sock.data.groupId = [] then some (cmd.ws, cmd.sock) else none := by
  simp only [entering, hcmd, htype]
  rw [if_pos hallowed]

theorem answering_of_admin (hcmd : s.chatCommand e = some cmd)
    (htype : isAdminType cmd.chatMsg.type = true) :
    s.answering cfg e = some (cmd.ws, answerAdminQuery cfg.serializeJson cmd.chatMsg
      (adminNow cmd.env cmd.sock.data) fun _ => s.collectAdminSnapshot cmd.env) := by
  simp only [answering, hcmd]
  rw [if_pos htype]

theorem answering_of_debug (hcmd : s.chatCommand e = some cmd) (htype : cmd.chatMsg.type = .tell)
    (hdebug : startsWith cmd.chatMsg.message "DEBUG".toList = true)
    (hadmin : adminNow cmd.env cmd.sock.data = false) :
    s.answering cfg e = some (cmd.ws, adminError cfg.serializeJson cmd.sock.data.name
      "Forbidden".toList "Administrator access required".toList) := by
  have hother : isAdminType cmd.chatMsg.type = false := by
    rw [htype]
    rfl
  simp only [answering, hcmd]
  rw [if_neg (by simp [hother]), if_pos ⟨htype, hdebug, hadmin⟩]

theorem moves_inviteToGroup (env : Env) {ws : SocketId} {sock : Socket} {chatMsg : FDaraChatMsg}
    (h : s.Session ws sock) (hsender : chatMsg.sender = sock.data.name)
    (hcommands : guard.commands) (hsends : guard.sends sock.data.name)
    (htells : guard.tells { chatMsg with type := .groupInvite }) :
    Moves guard s (inviteToGroup env s chatMsg) := by
  rcases inviteToGroup_cases env s chatMsg with heq | ⟨hinvite, heq⟩
  · rw [heq]
  · rw [heq]
    exact (Move.invited env ws sock chatMsg h hcommands hsender hsends hinvite htells).moves

theorem moves_joinGroup (env : Env) {ws : SocketId} {sock : Socket} (h : s.Session ws sock)
    (inviter : Str) (hcommands : guard.commands)
    (henters : sock.data.groupId = [] → guard.enters ws sock) :
    Moves guard s (joinGroup env s ws sock sock.data.name inviter) := by
  rcases joinGroup_cases env ws s sock inviter with heq | ⟨hfree, hjoin, heq⟩
  · rw [heq]
  · rw [heq]
    exact (Move.admitted env ws sock inviter h hcommands hfree hjoin (henters hfree)).moves

theorem moves_handleGroupJoin (hcmd : s.chatCommand e = some cmd) (hallows : guard.Allows cfg s e)
    (htype : cmd.chatMsg.type = .groupJoin) :
    Moves guard s (handleGroupJoin cmd.env s cmd.ws cmd.sock cmd.chatMsg) := by
  obtain ⟨hs, hsender, -⟩ := chatCommand_eq_some hcmd
  have hcommands := hallows.commands cmd hcmd (Or.inr (Or.inl htype))
  have hprune : Moves guard s (s.prune cmd.env) := (Move.pruned cmd.env hcommands).moves
  have hs₀ : (s.prune cmd.env).Session cmd.ws cmd.sock := hs.of_sockets rfl
  have hname : (cmd.sock.removeGroupSubscription.setGroupId []).data.name = cmd.sock.data.name :=
    (Socket.sameSession_removeGroupSubscription cmd.sock).name
  rcases handleGroupJoin_cases cmd.env cmd.ws hsender with
    ⟨-, heq⟩ | ⟨hallowed, hone, heq⟩ | ⟨hallowed, hone, heq⟩
  · rw [heq]
    exact hprune
  · rw [heq, ← hname]
    refine (hprune.tail (.left cmd.ws cmd.sock hs₀ hcommands hone)).trans
      (moves_joinGroup cmd.env hs₀.leaveGroup cmd.chatMsg.recipient hcommands fun _ =>
        hallows.enters (_, _) ?_)
    exact (entering_of_groupJoin hcmd htype hallowed).trans (if_pos hone)
  · rw [heq]
    refine hprune.trans (moves_joinGroup cmd.env hs₀ cmd.chatMsg.recipient hcommands fun hfree =>
      hallows.enters (_, _) ((entering_of_groupJoin hcmd htype hallowed).trans ?_))
    exact (if_neg hone).trans (if_pos hfree)

theorem moves_handleGroupInvite (hcmd : s.chatCommand e = some cmd) (hallows : guard.Allows cfg s e)
    (htype : cmd.chatMsg.type = .groupInvite) :
    Moves guard s (handleGroupInvite cmd.env s cmd.ws cmd.sock cmd.chatMsg) := by
  obtain ⟨hs, hsender, -⟩ := chatCommand_eq_some hcmd
  have hcommands := hallows.commands cmd hcmd (Or.inl htype)
  have hsends := hallows.sends cmd hcmd
  have htells := hallows.tells cmd hcmd (Or.inr htype)
  have hwritten : { cmd.chatMsg with type := .groupInvite } = cmd.chatMsg := by rw [← htype]
  rw [← hwritten] at htells
  rcases handleGroupInvite_cases cmd.env cmd.ws hsender with heq | ⟨hfree, hnone, heq⟩ | ⟨-, heq⟩
  · rw [heq]
  · have hname : ((cmd.sock.setGroupId (getNewGroupId
        cmd.env.uuid)).subscribeGroupTopic).data.name = cmd.sock.data.name :=
      (Socket.sameSession_subscribeGroupTopic _).name
    rw [heq]
    refine (Move.founded cmd.env cmd.ws cmd.sock hs hcommands hfree hnone
      (hallows.enters (_, _) (entering_of_groupInvite hcmd htype hfree))
      (hallows.founds (_, _) (founding_of_groupInvite hcmd htype hfree))).moves.trans
      (moves_inviteToGroup cmd.env (hs.foundGroup cmd.env) ?_ hcommands ?_ htells)
    · rw [hname, hsender]
    · rwa [hname]
  · rw [heq]
    exact moves_inviteToGroup cmd.env hs hsender hcommands hsends htells

theorem moves_handleGroupDisband (hcmd : s.chatCommand e = some cmd) (hallows : guard.Allows cfg s e)
    (htype : cmd.chatMsg.type = .groupDisband) :
    Moves guard s (handleGroupDisband s cmd.ws cmd.sock cmd.chatMsg) := by
  obtain ⟨hs, hsender, -⟩ := chatCommand_eq_some hcmd
  by_cases hgroup : cmd.sock.data.groupId = []
  · simp [handleGroupDisband, hgroup, Relation.ReflTransGen.refl]
  · rw [handleGroupDisband_of_grouped cmd.ws hsender hgroup]
    exact (Move.disbanded cmd.ws cmd.sock hs
      (hallows.commands cmd hcmd (Or.inr (Or.inr htype))) hgroup (hallows.sends cmd hcmd)).moves

theorem moves_handleChatMsg (hcmd : s.chatCommand e = some cmd)
    (hallows : guard.Allows cfg s e) :
    Moves guard s (handleChatMsg cfg cmd.env s cmd.ws cmd.sock cmd.chatMsg) := by
  obtain ⟨hs, hsender, -⟩ := chatCommand_eq_some hcmd
  have hsends := hallows.sends cmd hcmd
  rw [handleChatMsg]
  split
  case isTrue htype =>
    exact (Move.sent cmd.ws cmd.sock _ hs
      (hallows.answers (_, _) (answering_of_admin hcmd htype))).moves
  case isFalse =>
    split
    case h_1 htype =>
      exact (Move.relayed cmd.ws cmd.sock _ _ hs ⟨hsender, by simp [htype]⟩ hsends
        (by simp [htype])).moves
    case h_2 htype =>
      exact (Move.relayed cmd.ws cmd.sock _ _ hs ⟨hsender, by simp [htype]⟩ hsends
        (by simp [htype])).moves
    case h_3 htype =>
      split
      · exact .refl
      · exact (Move.relayed cmd.ws cmd.sock _ _ hs ⟨hsender, by simp [htype]⟩ hsends
          (by simp [htype])).moves
    case h_4 htype =>
      unfold handleTell
      split
      case isTrue hdebug =>
        split
        case isTrue hadmin =>
          exact (Move.sent cmd.ws cmd.sock _ hs (hallows.answers (_, _)
            (answering_of_debug hcmd htype hdebug (by simpa using hadmin)))).moves
        case isFalse => exact .refl
      case isFalse =>
        exact (Move.relayed cmd.ws cmd.sock _ _ hs ⟨hsender, by simp [htype]⟩ hsends
          fun htell => hallows.tells cmd hcmd (Or.inl htell)).moves
    -- the three group commands are the ones that may be several moves
    case h_5 htype => exact moves_handleGroupInvite hcmd hallows htype
    case h_6 htype => exact moves_handleGroupJoin hcmd hallows htype
    case h_7 htype => exact moves_handleGroupDisband hcmd hallows htype
    case h_8 htype =>
      exact (Move.alive cmd.env cmd.ws cmd.sock _ hs hsender).moves.tail
        (.relayed cmd.ws cmd.sock _ _ (hs.of_sockets rfl) ⟨hsender, rfl⟩ hsends (by simp))
    case h_9 => exact .refl

end Commands

theorem moves_handleConnectMessage (cfg : Config) (env : Env) {ws : SocketId} {sock : Socket}
    (h : s.sockets ws = some sock) (hlive : sock.phase = .live) {msg : Str}
    (hallows : guard.Allows cfg s (.text env ws msg)) :
    Moves guard s (handleConnectMessage cfg env s ws sock msg) := by
  unfold handleConnectMessage
  split
  · exact moves_endSocket env ws
  case isFalse hc =>
    rw [Bool.not_eq_true] at hc
    split
    case h_1 login hlogin =>
      have hlogging : s.logging cfg (.text env ws msg) = some (ws, login) := by
        simp only [logging, h, hlogin]
        rw [if_pos ⟨hlive, hc⟩]
      exact moves_completeConnect env h hlive hc (verifyLogin_name_ne_nil hlogin)
        (hallows.logs (_, _) hlogging)
    case h_2 => exact moves_endSocket env ws

/-- A text frame that is no chat command. -/
theorem moves_handleText (cfg : Config) {env : Env} {ws : SocketId} {sock : Socket} {msg : Str}
    (h : s.sockets ws = some sock) (hlive : sock.phase = .live)
    (hcmd : s.chatCommand (.text env ws msg) = none)
    (hallows : guard.Allows cfg s (.text env ws msg)) :
    Moves guard s (handleText cfg env s ws sock msg) := by
  unfold handleText
  split
  · exact moves_handleConnectMessage cfg env h hlive hallows
  split
  · exact .refl
  -- past the authentication gate: the socket is connected
  case isFalse hc =>
  have hs : s.Session ws sock := ⟨h, hlive, by simpa using hc⟩
  split
  · exact .refl
  split
  case isTrue hsub =>
    rw [Socket.handleSubscribeMessage]
    split
    · rw [setSocket_self s h]
    case isFalse hvalid =>
      rw [Bool.not_eq_true, Bool.not_eq_false'] at hvalid
      refine (Move.stored ws sock _ hs hvalid (hallows.stores (sock, _) ?_)).moves
      simp only [storing, h, Option.mem_def]
      rw [if_pos ⟨hlive, hs.connected, hsub, hvalid⟩]
  case isFalse =>
    split
    case isTrue hunsub =>
      refine (Move.removed ws sock _ hs (hallows.removes ws ?_)).moves
      simp only [removing, h, Option.mem_def]
      rw [if_pos ⟨hlive, hs.connected, hunsub⟩]
    split
    · rcases handlePublish_cases s msg with heq | ⟨topic, rest, hcolon, heq⟩
      · rw [heq]
      · rw [heq]
        exact (Move.forwarded ws sock topic rest hs hcolon).moves
    split
    -- a frame that parses is a chat command, and there is none
    case h_1 hparse => simp [chatCommand, h, hlive, hs.connected, hparse] at hcmd
    case h_2 => exact .refl

/-- **Every event is a chain of moves.** -/
theorem moves_step (cfg : Config) (s : Server) (e : Event) (hallows : guard.Allows cfg s e) :
    Moves guard s (s.step cfg e) := by
  cases e with
  | opened ws =>
      simp only [step]
      split
      case h_1 hnone => exact (Move.opened ws (by simp [hnone])).moves
      case h_2 sock hsock =>
        split
        case isTrue hclosed =>
          refine (Move.opened ws fun sock' hsock' => ?_).moves
          rw [hsock] at hsock'
          rwa [← Option.some.inj hsock']
        case isFalse => exact .refl
  | closed env ws =>
      simp only [step]
      split
      case h_1 => exact .refl
      case h_2 sock hsock =>
        split
        · exact .refl
        · exact moves_closeSocket env hsock
  | binary env ws data =>
      simp only [step]
      split
      case h_1 => exact .refl
      case h_2 sock hsock =>
        split
        case isFalse => exact .refl
        case isTrue hlive =>
          unfold handleBinary
          split
          · exact .refl
          case isFalse hskip =>
            have hs : s.Session ws sock := ⟨hsock, hlive, by simp_all⟩
            split
            · exact .refl
            case h_2 validated hvalid =>
              split
              · exact .refl
              · exact (Move.broadcast ws sock data hs (Option.isSome_of_eq_some hvalid)).moves.tail
                  (.alive env ws sock _ (hs.of_sockets rfl) rfl)
  | text env ws msg =>
      -- chat commands are followed through `handleChatMsg`, other frames through `handleText`
      cases hcmd : s.chatCommand (.text env ws msg) with
      | some cmd =>
          rw [step_of_chatCommand cfg hcmd]
          exact moves_handleChatMsg hcmd hallows
      | none =>
          simp only [step]
          split
          case h_1 => exact .refl
          case h_2 sock hsock =>
            split
            case isFalse => exact .refl
            case isTrue hlive => exact moves_handleText cfg hsock hlive hcmd hallows

end Chains

/-! ## Invariants -/

section Invariants

variable {guard : Guard}

/-- What every move keeps, every allowed event keeps. -/
theorem step_of_move {I : Server → Prop} (hmove : ∀ {s s'}, Move guard s s' → I s → I s')
    (cfg : Config) {s : Server} {e : Event} (h : guard.Allows cfg s e) (hs : I s) :
    I (s.step cfg e) := by
  have hchain := moves_step cfg s e h
  generalize s.step cfg e = s' at hchain ⊢
  induction hchain with
  | refl => exact hs
  | tail _ hlast ih => exact hmove hlast ih

/-- The guard that knows nothing allows everything. -/
theorem allows_any (cfg : Config) (s : Server) (e : Event) : Guard.Allows {} cfg s e :=
  ⟨fun _ _ => trivial, fun _ _ => trivial, fun _ _ => trivial, fun _ _ => trivial, fun _ _ => trivial,
    fun _ _ => trivial, fun _ _ _ => trivial, fun _ _ => trivial, fun _ _ _ => trivial⟩

/-- **The invariant rule**: what holds at the start and is kept by every move holds in every
reachable state. -/
theorem invariant_of_moves {I : Server → Prop} (h0 : I {})
    (hmove : ∀ {s s'}, Move {} s s' → I s → I s') (cfg : Config) :
    ∀ evs, I ((machine cfg).run evs) :=
  (machine cfg).invariant h0 fun s e => step_of_move hmove cfg (allows_any cfg s e)

end Invariants

end Server

end DaraChat
