import DaraChat.Server.Topics
import DaraChat.Lib.Machine

set_option autoImplicit false

/-! # The handlers of the server (`uDaraChatServer.cpp`)

The open, message and close handlers of `main`, one function for each branch of the message
handler, and the server as a machine over the events `uWebSockets` delivers. A handler runs to
its end before the next one starts. `step` ignores events that `uWebSockets` does not deliver:
a message of a socket that has ended or closed, a second close, a new socket at an address in
use. The log output, the message counter it prints and the unreachable rest of the `schedule:`
branch are left out.
-/

namespace DaraChat

open GroupContainer

namespace Server

/-! ## Publishing group information -/

/-- The message that `SendGroupUpdateInfo` publishes. -/
def groupUpdateMsg (c : GroupContainer) (groupId : Str) : FDaraChatMsg :=
  { type := .groupInfo
    sender := "GroupAdmin".toList
    recipient := []
    message := (c.getGroupInfoByGroupId groupId).serializeToSend }

/-- `SendGroupUpdateInfo`. -/
def sendGroupUpdateInfo (s : Server) (groupId : Str) : Server :=
  s.publish (getGroupTopic groupId) (.text (groupUpdateMsg s.groupContainer groupId).serialize)

/-! ## Close -/

/-- The close handler. -/
def closeHandler (s : Server) (env : Env) (ws : SocketId) : Server :=
  match s.sockets ws with
  | none => s
  | some sock =>
      let data := sock.data
      if !data.connected then s
      -- a socket that another has replaced must not take the new session with it
      else if s.activeSessions.lookup data.name ≠ some ws then s
      else
        let s := s.unregister data.name
        let (changed, c) := s.groupContainer.setMemberOnline env.time data.name false
        let s := s.setGroups c
        if changed && data.groupId ≠ [] then s.sendGroupUpdateInfo data.groupId else s

/-- Socket `ws` enters a later phase and loses its subscriptions. -/
def retire (s : Server) (ws : SocketId) (phase : Phase) : Server :=
  match s.sockets ws with
  | none => s
  | some sock => s.setSocket ws (sock.retire phase)

/-- `uWebSockets` closes a socket: it is gone, and its close handler runs. -/
def closeSocket (s : Server) (env : Env) (ws : SocketId) : Server :=
  (s.retire ws .closed).closeHandler env ws

/-- `ws->end()`. The close handler runs inside it, or later if `env.lateClose`; on a socket that
has ended already nothing happens. -/
def endSocket (s : Server) (env : Env) (ws : SocketId) : Server :=
  match s.sockets ws with
  | none => s
  | some sock =>
      if sock.phase ≠ .live then s
      else if env.lateClose then s.retire ws .ended
      else s.closeSocket env ws

/-! ## Login -/

/-- `HandleConnect` when the login is accepted. -/
def handleConnect (data : PerSocketData) (login : AuthenticatedLogin) : PerSocketData :=
  { data with
    name := login.characterName
    zone := login.zone
    isAdmin := login.isAdmin
    adminExpiresAt := login.expiresAt
    connected := true }

/-- The rest of the `connect:` branch after a successful `HandleConnect`. -/
def completeConnect (s : Server) (env : Env) (ws : SocketId) (sock : Socket) : Server :=
  let name := sock.data.name
  let s := s.setSocket ws sock
  -- one session per character: retire the old socket
  let s :=
    match s.activeSessions.lookup name with
    | some old => if old ≠ ws then s.endSocket env old else s
    | none => s
  let s := s.register name ws
  let sock := sock.setGroupId (s.groupContainer.getCurrentGroupId name).groupId
  let s := s.setGroups (s.groupContainer.setMemberOnline env.time name true).2
  let s := s.setSocket ws sock.subscribeStandardTopics
  if sock.data.groupId ≠ [] then s.sendGroupUpdateInfo sock.data.groupId else s

/-- The `connect:` branch. -/
def handleConnectMessage (cfg : Config) (env : Env) (s : Server) (ws : SocketId) (sock : Socket)
    (msg : Str) : Server :=
  if sock.data.connected then s.endSocket env ws
  else
    match verifyLogin cfg.jwt msg cfg.jwtSecret env.now with
    | .ok login => s.completeConnect env ws { sock with data := handleConnect sock.data login }
    | .error _ => s.endSocket env ws

/-! ## Administration -/

/-- Count one more of `key` in a sorted map. -/
def bump (key : Str) : List (Str × Nat) → List (Str × Nat)
  | [] => [(key, 1)]
  | (k, n) :: rest =>
      if k = key then (k, n + 1) :: rest
      else if key < k then (key, 1) :: (k, n) :: rest
      else (k, n) :: bump key rest

/-- The channels a session counts for: the topics in its used slots, each once, without the
reserved ones. -/
def sessionChannels (data : PerSocketData) : List Str :=
  ((data.topics.filter fun slot =>
    slot.used && !startsWith slot.topic "tell_".toList && !isGroupTopic slot.topic &&
      !startsWith slot.topic "zone_".toList).map TopicSlot.topic).dedup

/-- The data of the registered sessions. -/
def sessionData (s : Server) : List PerSocketData :=
  s.activeSessions.entries.filterMap fun session => (s.sockets session.2).map Socket.data

/-- `GetUniqueGroupIds`, in some order. -/
def getUniqueGroupIds (c : GroupContainer) : List Str :=
  ((c.myGroups.map GroupMember.groupId).filter fun groupId => groupId ≠ []).dedup

/-- `CollectAdminSnapshot`. -/
def collectAdminSnapshot (s : Server) (env : Env) : AdminSnapshot :=
  { uptimeSeconds := env.uptimeSeconds
    connectedClients := s.activeSessions.entries.length
    groups := (getUniqueGroupIds s.groupContainer).map s.groupContainer.getGroupInfoByGroupId
    zones := s.sessionData.foldl (fun zones data => bump data.zone zones) []
    channels := s.sessionData.foldl
      (fun channels data => (sessionChannels data).foldl (fun m channel => bump channel m) channels)
      [] }

/-! ## Chat messages

Each function is one branch of the message handler for a parsed `chatMsg`, whose sender the
server has set to the authenticated name. -/

/-- Whether the session may act as administrator now. -/
def adminNow (env : Env) (data : PerSocketData) : Bool :=
  data.isAdmin && decide (env.now < data.adminExpiresAt)

/-- `Tell`. -/
def handleTell (cfg : Config) (env : Env) (s : Server) (ws : SocketId) (data : PerSocketData)
    (chatMsg : FDaraChatMsg) : Server :=
  -- the dumps of the debug command only go to the log
  if startsWith chatMsg.message "DEBUG".toList then
    if !adminNow env data then
      s.send ws (adminError cfg.serializeJson data.name "Forbidden".toList
        "Administrator access required".toList).serialize
    else s
  else s.publish (tellTopic chatMsg.recipient) (.text chatMsg.serialize)

/-- The second half of `GroupInvite`, once the inviter is in a group. -/
def inviteToGroup (env : Env) (s : Server) (chatMsg : FDaraChatMsg) : Server :=
  let inviter := chatMsg.sender
  let invited := chatMsg.recipient
  let inviteCheck := s.groupContainer.groupInvite invited inviter
  if inviteCheck.errorCode ≠ 1 then s
  else
    let s := s.setGroups
      ((s.groupContainer.removeOldInvites env.time).addInvite env.time inviter invited)
    s.publish (tellTopic invited) (.text { chatMsg with type := .groupInvite }.serialize)

/-- `GroupInvite`. -/
def handleGroupInvite (env : Env) (s : Server) (ws : SocketId) (sock : Socket)
    (chatMsg : FDaraChatMsg) : Server :=
  if sock.data.groupId = [] then
    let (info, c) := s.groupContainer.groupStartGroup env.time env.uuid chatMsg.sender
    let s := s.setGroups c
    if info.errorCode ≠ 0 then s
    else
      inviteToGroup env (s.setSocket ws (sock.setGroupId info.groupId).subscribeGroupTopic) chatMsg
  else inviteToGroup env s chatMsg

/-- The last part of `GroupJoin`, once a solo group has been left. -/
def joinGroup (env : Env) (s : Server) (ws : SocketId) (sock : Socket) (invited inviter : Str) :
    Server :=
  if sock.data.groupId = [] then
    let (info, c) := s.groupContainer.groupJoin env.time invited inviter
    let s := s.setGroups c
    if info.errorCode ≠ 0 ∨ info.groupId = [] then s
    else
      let sock := (sock.setGroupId info.groupId).subscribeGroupTopic
      let s := s.setSocket ws sock
      let s := s.setGroups (s.groupContainer.removeInvite inviter invited)
      s.sendGroupUpdateInfo sock.data.groupId
  else s

/-- `GroupJoin`. -/
def handleGroupJoin (env : Env) (s : Server) (ws : SocketId) (sock : Socket)
    (chatMsg : FDaraChatMsg) : Server :=
  let inviter := chatMsg.recipient
  let invited := chatMsg.sender
  let s := s.setGroups (s.groupContainer.removeOldInvites env.time)
  if s.groupContainer.checkHasInvited inviter invited = false then s
  else
    let targetGroup := s.groupContainer.getGroupInfo inviter
    if targetGroup.groupId = [] ∨ targetGroup.memberCount ≥ myMaxGroupMembers then s
    else
      let info := s.groupContainer.getGroupInfo invited
      if info.groupId ≠ [] ∧ info.groupId = targetGroup.groupId then s
      -- a solo group is left before the join, which could still fail
      else if info.memberCount = 1 then
        let sock := sock.removeGroupSubscription.setGroupId []
        let s := (s.setGroups (s.groupContainer.groupDisband invited).2).setSocket ws sock
        joinGroup env s ws sock invited inviter
      else joinGroup env s ws sock invited inviter

/-- `GetGroupDisbandInfoMessage`. -/
def getGroupDisbandInfoMessage (msg : FDaraChatMsg) : Str :=
  { msg with type := .groupDisbandInfo, message := "left the group".toList : FDaraChatMsg }.serialize

/-- `GroupDisband`. -/
def handleGroupDisband (s : Server) (ws : SocketId) (sock : Socket) (chatMsg : FDaraChatMsg) :
    Server :=
  if sock.data.groupId ≠ [] then
    let oldGroupTopic := getGroupTopic sock.data.groupId
    let s := s.setGroups (s.groupContainer.groupDisband chatMsg.sender).2
    let s := s.setSocket ws (sock.removeGroupSubscription.setGroupId [])
    let s := s.publish oldGroupTopic
      (.text (getGroupDisbandInfoMessage { sender := sock.data.name }))
    s.sendGroupUpdateInfo oldGroupTopic
  else s

/-- `Alive`. -/
def handleAlive (env : Env) (s : Server) (data : PerSocketData) (chatMsg : FDaraChatMsg) :
    Server :=
  let member : GroupMember :=
    { name := chatMsg.sender, zone := data.zone, health := chatMsg.message, storeTime := env.time }
  let s := s.setGroups (s.groupContainer.aliveMsg env.time member)
  let msg : FDaraChatMsg :=
    { type := .aliveInfo
      sender := chatMsg.sender
      recipient := []
      message := member.zone ++ ";".toList ++ chatMsg.message }
  s.publish data.groupId (.text msg.serialize)

/-- Everything that happens to a parsed message. -/
def handleChatMsg (cfg : Config) (env : Env) (s : Server) (ws : SocketId) (sock : Socket)
    (chatMsg : FDaraChatMsg) : Server :=
  if isAdminQuery chatMsg.type || chatMsg.type = .adminInfo || chatMsg.type = .adminError then
    s.send ws (answerAdminQuery cfg.serializeJson chatMsg (adminNow env sock.data)
      fun _ => s.collectAdminSnapshot env).serialize
  else
    match chatMsg.type with
    | .channel => s.publish chatMsg.recipient (.text chatMsg.serialize)
    | .zone => s.publish (zoneTopic sock.data.zone) (.text chatMsg.serialize)
    | .group =>
        if sock.data.groupId = [] then s
        else s.publish sock.data.groupId (.text chatMsg.serialize)
    | .tell => handleTell cfg env s ws sock.data chatMsg
    | .groupInvite => handleGroupInvite env s ws sock chatMsg
    | .groupJoin => handleGroupJoin env s ws sock chatMsg
    | .groupDisband => handleGroupDisband s ws sock chatMsg
    | .alive => handleAlive env s sock.data chatMsg
    | _ => s

/-! ## Frames -/

/-- The legacy `publish:` branch. -/
def handlePublish (s : Server) (msg : Str) : Server :=
  match find msg ':' 8 with
  -- the payload is all that follows the prefix, the topic included
  | some sep => s.publish (substr msg 8 (sep - 8)) (.text (msg.drop 8))
  | none => s

/-- The text branch of the message handler. -/
def handleText (cfg : Config) (env : Env) (s : Server) (ws : SocketId) (sock : Socket)
    (msg : Str) : Server :=
  if startsWith msg "connect:".toList then handleConnectMessage cfg env s ws sock msg
  else if sock.data.connected = false then s
  -- reserved for maintenance and not available to clients
  else if startsWith msg "schedule:".toList then s
  else if startsWith msg "subscribe:".toList then
    s.setSocket ws (sock.handleSubscribeMessage msg)
  else if startsWith msg "unsubscribe:".toList then
    s.setSocket ws (sock.removeTopicSubscription (msg.drop 12))
  else if startsWith msg "publish:".toList then handlePublish s msg
  else
    match tryParseMessage msg with
    -- the sender field that the client supplies is never trusted
    | (true, chatMsg, _) =>
        handleChatMsg cfg env s ws sock { chatMsg with sender := sock.data.name }
    | (false, _, _) => s

/-- The binary branch of the message handler. -/
def handleBinary (cfg : Config) (env : Env) (s : Server) (sock : Socket) (data : List UInt8) :
    Server :=
  if !sock.data.connected || sock.data.groupId = [] then s
  else
    match FDaraRawChatMsg.deserialize data with
    | none => s
    | some validated =>
        if floatLeZero validated.maxHealth then s
        else
          let s := s.publish sock.data.groupId (.binary data)
          let member : GroupMember :=
            { name := sock.data.name
              zone := sock.data.zone
              health := cfg.healthPercentage validated.health validated.maxHealth
              storeTime := env.time }
          s.setGroups (s.groupContainer.aliveMsg env.time member)

end Server

/-! ## The server as a machine -/

/-- What `uWebSockets` delivers. -/
inductive Event
  | opened (ws : SocketId)
  | text (env : Env) (ws : SocketId) (msg : Str)
  | binary (env : Env) (ws : SocketId) (data : List UInt8)
  | closed (env : Env) (ws : SocketId)

/-- The socket an event is about. -/
def Event.socketId : Event → SocketId
  | .opened ws => ws
  | .text _ ws _ => ws
  | .binary _ ws _ => ws
  | .closed _ ws => ws

namespace Server

/-- One event and the handler it runs. -/
def step (cfg : Config) (s : Server) : Event → Server
  | .opened ws =>
      match s.sockets ws with
      | none => s.setSocket ws (openSocket ws)
      | some sock => if sock.phase = .closed then s.setSocket ws (openSocket ws) else s
  | .text env ws msg =>
      match s.sockets ws with
      | none => s
      | some sock => if sock.phase = .live then handleText cfg env s ws sock msg else s
  | .binary env ws data =>
      match s.sockets ws with
      | none => s
      | some sock => if sock.phase = .live then handleBinary cfg env s sock data else s
  | .closed env ws =>
      match s.sockets ws with
      | none => s
      | some sock => if sock.phase = .closed then s else s.closeSocket env ws

/-- The server, from its start. -/
def machine (cfg : Config) : Machine Server Event := ⟨{}, step cfg⟩

end Server

end DaraChat
