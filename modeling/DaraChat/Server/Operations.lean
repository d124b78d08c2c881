import DaraChat.Group.Commands
import DaraChat.Server.Handlers

set_option autoImplicit false

/-! # What the handlers are made of

A handler that gets past its checks does one or two of a few things to the server: it enrolls a
session or withdraws one, its character founds a group, invites, leaves, disbands or is admitted.
Each of these is an operation here, with what it tells the group; the rest of the file says of
every handler when it comes to which. Later files cite these statements and never unfold a
handler.
-/

namespace DaraChat

open GroupContainer

namespace Server

/-! ## Sessions and their chat commands -/

/-- A live socket that has logged in. -/
structure Session (s : Server) (ws : SocketId) (sock : Socket) : Prop where
  found : s.sockets ws = some sock
  live : sock.phase = .live
  connected : sock.data.connected = true

/-- A parsed message with its sender set, and where it comes from. -/
structure ChatCommand where
  env : Env
  ws : SocketId
  sock : Socket
  chatMsg : FDaraChatMsg

/-- The message that an event hands to the chat branches of the message handler, if any. -/
def chatCommand (s : Server) : Event → Option ChatCommand
  | .text env ws msg =>
      match s.sockets ws with
      | none => none
      | some sock =>
          if sock.phase = .live ∧ sock.data.connected = true ∧ (tryParseMessage msg).1 = true then
            some ⟨env, ws, sock, { (tryParseMessage msg).2.1 with sender := sock.data.name }⟩
          else none
  | _ => none

/-- A chat command is a frame of a session that is read as a message. -/
theorem text_of_chatCommand {s : Server} {e : Event} {cmd : ChatCommand}
    (h : s.chatCommand e = some cmd) :
    ∃ msg, e = .text cmd.env cmd.ws msg ∧ s.Session cmd.ws cmd.sock ∧
      (tryParseMessage msg).1 = true ∧
      cmd.chatMsg = { (tryParseMessage msg).2.1 with sender := cmd.sock.data.name } := by
  cases e with
  | text env ws msg =>
      cases hsock : s.sockets ws with
      | none => simp [chatCommand, hsock] at h
      | some sock =>
          by_cases hc : sock.phase = .live ∧ sock.data.connected = true ∧
              (tryParseMessage msg).1 = true
          · simp only [chatCommand, hsock, if_pos hc, Option.some.injEq] at h
            subst h
            exact ⟨msg, rfl, ⟨hsock, hc.1, hc.2.1⟩, hc.2.2, rfl⟩
          · simp [chatCommand, hsock, hc] at h
  | opened ws => cases h
  | binary env ws data => cases h
  | closed env ws => cases h

/-- Every such frame is one. -/
theorem chatCommand_of_text {s : Server} {env : Env} {ws : SocketId} {sock : Socket} {msg : Str}
    (hs : s.Session ws sock) (hparse : (tryParseMessage msg).1 = true) :
    s.chatCommand (.text env ws msg) =
      some ⟨env, ws, sock, { (tryParseMessage msg).2.1 with sender := sock.data.name }⟩ := by
  simp only [chatCommand, hs.found]
  rw [if_pos ⟨hs.live, hs.connected, hparse⟩]

theorem chatCommand_eq_some {s : Server} {e : Event} {cmd : ChatCommand}
    (h : s.chatCommand e = some cmd) :
    s.Session cmd.ws cmd.sock ∧ cmd.chatMsg.sender = cmd.sock.data.name ∧
      cmd.chatMsg.type ≠ .none := by
  obtain ⟨msg, -, hs, hparse, hmsg⟩ := text_of_chatCommand h
  obtain ⟨_, _, _, _, -, -, -, -, hne, hread⟩ := eq_of_tryParseMessage hparse
  rw [hmsg, hread]
  exact ⟨hs, rfl, hne⟩

/-! ## The operations -/

/-- `SendGroupUpdateInfo` under a condition. -/
def sendIf (s : Server) (tells : Bool) (groupId : Str) : Server :=
  if tells then s.sendGroupUpdateInfo groupId else s

/-- The server without outdated invitations. -/
def prune (s : Server) (env : Env) : Server :=
  s.setGroups (s.groupContainer.removeOldInvites env.time)

/-- Socket `ws` joins nobody's group any more: its character leaves, and so does its
subscription. -/
def leaveGroup (s : Server) (ws : SocketId) (sock : Socket) : Server :=
  (s.setGroups (s.groupContainer.groupDisband sock.data.name).2).setSocket ws
    (sock.removeGroupSubscription.setGroupId [])

/-- The character of socket `ws` leaves its group, and those left are told. -/
def disband (s : Server) (ws : SocketId) (sock : Socket) : Server :=
  ((s.leaveGroup ws sock).publish (getGroupTopic sock.data.groupId)
    (.text (getGroupDisbandInfoMessage { sender := sock.data.name }))).sendGroupUpdateInfo
    (getGroupTopic sock.data.groupId)

/-- The character of socket `ws` founds a group. -/
def foundGroup (s : Server) (env : Env) (ws : SocketId) (sock : Socket) : Server :=
  (s.setGroups (s.groupContainer.append (founder env.time env.uuid sock.data.name))).setSocket ws
    (sock.setGroupId (getNewGroupId env.uuid)).subscribeGroupTopic

/-- The sender of `chatMsg` invites its recipient. -/
def invite (s : Server) (env : Env) (chatMsg : FDaraChatMsg) : Server :=
  (s.setGroups ((s.groupContainer.removeOldInvites env.time).addInvite env.time chatMsg.sender
    chatMsg.recipient)).publish (tellTopic chatMsg.recipient)
    (.text { chatMsg with type := .groupInvite }.serialize)

/-- The character of socket `ws` enters the group of `inviter`. -/
def enterGroup (s : Server) (env : Env) (ws : SocketId) (sock : Socket) (inviter : Str) :
    Server :=
  (s.setGroups (s.groupContainer.append
      (joiner env.time sock.data.name (s.groupContainer.groupIdOf inviter)))).setSocket ws
    (sock.setGroupId (s.groupContainer.groupIdOf inviter)).subscribeGroupTopic

/-- The character of socket `ws` enters the group of `inviter`, whose invitation is used up, and
the group is told. -/
def acceptInvite (s : Server) (env : Env) (ws : SocketId) (sock : Socket) (inviter : Str) : Server :=
  ((s.enterGroup env ws sock inviter).setGroups
    ((s.enterGroup env ws sock inviter).groupContainer.removeInvite inviter
      sock.data.name)).sendGroupUpdateInfo (s.groupContainer.groupIdOf inviter)

/-- Socket `ws`, with the login already in its data, becomes the session of its character. -/
def enroll (s : Server) (env : Env) (ws : SocketId) (sock : Socket) : Server :=
  ((s.register sock.data.name ws).setGroups
      (s.groupContainer.setMemberOnline env.time sock.data.name true).2).setSocket ws
    (sock.setGroupId (s.groupContainer.groupIdOf sock.data.name)).subscribeStandardTopics

/-- The session at socket `ws` closes. -/
def withdraw (s : Server) (env : Env) (ws : SocketId) (sock : Socket) : Server :=
  ((s.setSocket ws (sock.retire .closed)).unregister sock.data.name).setGroups
    (s.groupContainer.setMemberOnline env.time sock.data.name false).2

/-- The condition under which the close handler tells the group. -/
def closeTells (s : Server) (env : Env) (sock : Socket) : Bool :=
  (s.groupContainer.setMemberOnline env.time sock.data.name false).1 && sock.data.groupId ≠ []

section SendIf

variable (s : Server) (tells : Bool) (groupId : Str)

@[simp] theorem sendIf_sockets : (s.sendIf tells groupId).sockets = s.sockets := by
  cases tells <;> rfl

@[simp] theorem sendIf_activeSessions :
    (s.sendIf tells groupId).activeSessions = s.activeSessions := by
  cases tells <;> rfl

@[simp] theorem sendIf_groupContainer :
    (s.sendIf tells groupId).groupContainer = s.groupContainer := by
  cases tells <;> rfl

end SendIf

/-! ### Sessions stay sessions -/

section Session

variable {s : Server} {ws : SocketId} {sock : Socket}

/-- A session whose socket is untouched is one still. -/
theorem Session.of_sockets {s' : Server} (h : s.Session ws sock)
    (hsockets : s'.sockets ws = s.sockets ws) : s'.Session ws sock :=
  ⟨hsockets.trans h.found, h.live, h.connected⟩

theorem Session.leaveGroup (h : s.Session ws sock) :
    (s.leaveGroup ws sock).Session ws (sock.removeGroupSubscription.setGroupId []) where
  found := setSocket_sockets_self ..
  live := (Socket.sameSession_removeGroupSubscription sock).phase.trans h.live
  connected := (Socket.sameSession_removeGroupSubscription sock).connected.trans h.connected

theorem Session.foundGroup (h : s.Session ws sock) (env : Env) :
    (s.foundGroup env ws sock).Session ws
      (sock.setGroupId (getNewGroupId env.uuid)).subscribeGroupTopic where
  found := setSocket_sockets_self ..
  live := (Socket.sameSession_subscribeGroupTopic _).phase.trans h.live
  connected := (Socket.sameSession_subscribeGroupTopic _).connected.trans h.connected

end Session

/-! ## Close and login -/

section Handlers

variable (s : Server) (env : Env) (ws : SocketId)

theorem setGroups_self : s.setGroups s.groupContainer = s := rfl

theorem setSocket_self {ws : SocketId} {sock : Socket} (h : s.sockets ws = some sock) :
    s.setSocket ws sock = s := by
  rw [setSocket, ← h, Function.update_eq_self]

theorem setSocket_comm {ws ws' : SocketId} (h : ws ≠ ws') (sock sock' : Socket) :
    (s.setSocket ws sock).setSocket ws' sock' = (s.setSocket ws' sock').setSocket ws sock := by
  simp [setSocket, Function.update_comm h]

/-- The close of a registered session takes its name from the registry and marks its character
offline; the group is told if that changed anything. -/
theorem closeSocket_of_registered {sock : Socket} (h : s.sockets ws = some sock)
    (hc : sock.data.connected = true) (hreg : s.activeSessions.lookup sock.data.name = some ws) :
    s.closeSocket env ws =
      (s.withdraw env ws sock).sendIf (s.closeTells env sock) sock.data.groupId := by
  simp [closeSocket, retire, h, closeHandler, Socket.retire, hc, hreg, withdraw, sendIf, closeTells]

/-- The close of any other socket changes nothing but that socket. -/
theorem closeSocket_of_not_registered {sock : Socket} (h : s.sockets ws = some sock)
    (hreg : sock.data.connected = true → s.activeSessions.lookup sock.data.name ≠ some ws) :
    s.closeSocket env ws = s.setSocket ws (sock.retire .closed) := by
  by_cases hc : sock.data.connected = true
  · simp [closeSocket, retire, h, closeHandler, Socket.retire, hc, hreg hc]
  · simp [closeSocket, retire, h, closeHandler, Socket.retire, hc]

/-- The old session of the character that logs in at `ws`, ended. -/
def endOld (name : Str) : Server :=
  match s.activeSessions.lookup name with
  | some old => if old ≠ ws then s.endSocket env old else s
  | none => s

/-- What is done to one socket commutes with the end of another. -/
theorem setSocket_endSocket {old : SocketId} (h : old ≠ ws) (sock : Socket) :
    (s.setSocket ws sock).endSocket env old = (s.endSocket env old).setSocket ws sock := by
  -- `endSocket` touches no socket but `old`, so both sides take the same branch
  cases hold : s.sockets old with
  | none => simp [endSocket, setSocket_sockets_ne _ _ _ h, hold]
  | some oldSock =>
      have hold' : (s.setSocket ws sock).sockets old = some oldSock := by
        rw [setSocket_sockets_ne _ _ _ h, hold]
      by_cases hlive : oldSock.phase = .live
      · by_cases hlate : env.lateClose = true
        · simp [endSocket, hold, hold', hlive, hlate, retire, setSocket_comm _ h]
        · by_cases hreg : oldSock.data.connected = true ∧
              s.activeSessions.lookup oldSock.data.name = some old
          · simp only [endSocket, hold, hold', hlive, hlate]
            rw [if_neg (by simp), if_neg (by simp), if_neg (by simp), if_neg (by simp),
              closeSocket_of_registered _ _ _ hold' hreg.1 hreg.2,
              closeSocket_of_registered _ _ _ hold hreg.1 hreg.2]
            have hw : (s.setSocket ws sock).withdraw env old oldSock =
                (s.withdraw env old oldSock).setSocket ws sock := by
              simp [withdraw, setSocket, setGroups, unregister, Function.update_comm h]
            have htells : (s.setSocket ws sock).closeTells env oldSock =
                s.closeTells env oldSock := rfl
            rw [hw, htells]
            cases s.closeTells env oldSock <;> rfl
          · have hreg' : oldSock.data.connected = true →
                s.activeSessions.lookup oldSock.data.name ≠ some old := fun hc hr => hreg ⟨hc, hr⟩
            simp only [endSocket, hold, hold', hlive, hlate]
            rw [if_neg (by simp), if_neg (by simp), if_neg (by simp), if_neg (by simp),
              closeSocket_of_not_registered _ _ _ hold' hreg',
              closeSocket_of_not_registered _ _ _ hold hreg', setSocket_comm _ h]
      · simp [endSocket, hold, hold', hlive]

theorem setSocket_endOld (name : Str) (sock : Socket) :
    (s.setSocket ws sock).endOld env ws name = (s.endOld env ws name).setSocket ws sock := by
  rw [endOld, endOld, setSocket_activeSessions]
  cases s.activeSessions.lookup name with
  | none => rfl
  | some old =>
      by_cases hold : old = ws
      · simp [hold]
      · simp [hold, setSocket_endSocket s env ws hold]

/-- **A successful login** ends the old session, enrolls the new one, and tells its group. -/
theorem completeConnect_eq (sock : Socket) :
    s.completeConnect env ws sock =
      let s := s.endOld env ws sock.data.name
      let groupId := s.groupContainer.groupIdOf sock.data.name
      (s.enroll env ws sock).sendIf (groupId ≠ []) groupId := by
  have hunfold : s.completeConnect env ws sock =
      let s := ((s.setSocket ws sock).endOld env ws sock.data.name).register sock.data.name ws
      let sock := sock.setGroupId (s.groupContainer.getCurrentGroupId sock.data.name).groupId
      let s := s.setGroups (s.groupContainer.setMemberOnline env.time sock.data.name true).2
      let s := s.setSocket ws sock.subscribeStandardTopics
      if sock.data.groupId ≠ [] then s.sendGroupUpdateInfo sock.data.groupId else s := rfl
  rw [hunfold, setSocket_endOld]
  generalize s.endOld env ws sock.data.name = s
  simp only [enroll, getCurrentGroupId, getGroupInfo_groupId, register_groupContainer,
    setSocket_groupContainer, Socket.setGroupId]
  simp only [setSocket, register, setGroups, Function.update_idem, sendIf, decide_eq_true_eq]

theorem endSocket_cases {sock : Socket} (h : s.sockets ws = some sock) :
    sock.phase ≠ .live ∧ s.endSocket env ws = s ∨
      sock.phase = .live ∧ s.endSocket env ws = s.setSocket ws (sock.retire .ended) ∨
      sock.phase = .live ∧ s.endSocket env ws = s.closeSocket env ws := by
  by_cases hlive : sock.phase = .live
  · by_cases hlate : env.lateClose = true
    · simp [endSocket, h, hlive, hlate, retire]
    · simp [endSocket, h, hlive, hlate]
  · simp [endSocket, h, hlive]

/-- What a close does to sockets and registry. -/
theorem closeSocket_frame {sock : Socket} (h : s.sockets ws = some sock) :
    (s.closeSocket env ws).sockets = (s.setSocket ws (sock.retire .closed)).sockets ∧
      ∀ n ws', (s.closeSocket env ws).activeSessions.lookup n = some ws' →
        s.activeSessions.lookup n = some ws' := by
  by_cases hreg : sock.data.connected = true ∧ s.activeSessions.lookup sock.data.name = some ws
  · have herase : ∀ n ws', (s.activeSessions.erase sock.data.name).lookup n = some ws' →
        s.activeSessions.lookup n = some ws' := by
      intro n ws' hn
      by_cases hname : n = sock.data.name
      · rw [hname, AList.lookup_erase] at hn
        cases hn
      · rwa [AList.lookup_erase_ne hname] at hn
    rw [closeSocket_of_registered s env ws h hreg.1 hreg.2, sendIf_sockets, sendIf_activeSessions]
    exact ⟨rfl, herase⟩
  · rw [closeSocket_of_not_registered s env ws h fun hc hr => hreg ⟨hc, hr⟩]
    exact ⟨rfl, fun _ _ => id⟩

/-- An `end()` changes that socket only, which is not live afterwards. -/
theorem endSocket_frame {sock : Socket} (h : s.sockets ws = some sock) :
    ∃ sock', sock'.phase ≠ .live ∧
      (s.endSocket env ws).sockets = (s.setSocket ws sock').sockets ∧
      ∀ n ws', (s.endSocket env ws).activeSessions.lookup n = some ws' →
        s.activeSessions.lookup n = some ws' := by
  rcases endSocket_cases s env ws h with ⟨hp, heq⟩ | ⟨-, heq⟩ | ⟨-, heq⟩
  · refine ⟨sock, hp, ?_, fun n ws' => by rw [heq]; exact id⟩
    rw [heq, setSocket_self s h]
  · exact ⟨sock.retire .ended, by simp [Socket.retire], by rw [heq],
      fun n ws' => by rw [heq]; exact id⟩
  · obtain ⟨hsockets, hlookup⟩ := closeSocket_frame s env ws h
    exact ⟨sock.retire .closed, by simp [Socket.retire], by rw [heq, hsockets],
      fun n ws' => by rw [heq]; exact hlookup n ws'⟩

/-- After the end of the old session, no live socket but `ws` is registered under the name. -/
theorem endOld_frame (name : Str) :
    (s.endOld env ws name).sockets ws = s.sockets ws ∧
      ∀ old, (s.endOld env ws name).activeSessions.lookup name = some old → old ≠ ws →
        ∀ sock, (s.endOld env ws name).sockets old = some sock → sock.phase ≠ .live := by
  rw [endOld]
  cases hlook : s.activeSessions.lookup name with
  | none =>
      refine ⟨rfl, fun old hold => ?_⟩
      rw [hlook] at hold
      cases hold
  | some old =>
      by_cases hws : old = ws
      -- the socket that logs in again is not ended
      · refine ⟨by simp [hws], fun old' hold' hne => ?_⟩
        simp only [hws, ne_eq, not_true, if_false] at hold'
        rw [hlook, hws] at hold'
        exact absurd (Option.some.inj hold').symm hne
      · simp only [ne_eq, hws, not_false_eq_true, if_true]
        cases hold : s.sockets old with
        | none =>
            have hend : s.endSocket env old = s := by simp [endSocket, hold]
            rw [hend]
            refine ⟨rfl, fun old' hold' _ sock hsock => ?_⟩
            rw [hlook] at hold'
            rw [← Option.some.inj hold', hold] at hsock
            cases hsock
        | some oldSock =>
            -- `old` is retired, late close or not, and the registry can only have lost its entry
            obtain ⟨sock', hp, hsockets, hlookup⟩ := endSocket_frame s env old hold
            rw [hsockets, setSocket_sockets_ne _ _ _ (Ne.symm hws)]
            refine ⟨rfl, fun old' hold' _ sock hsock => ?_⟩
            have hsame := hlookup _ _ hold'
            rw [hlook] at hsame
            rw [← Option.some.inj hsame, setSocket_sockets_self] at hsock
            rw [← Option.some.inj hsock]
            exact hp

end Handlers

/-! ### The group commands -/

section GroupCommands

variable {s : Server} (env : Env) (ws : SocketId) {sock : Socket} {chatMsg : FDaraChatMsg}

/-- An invitation is refused, or stored and forwarded. -/
theorem inviteToGroup_cases (s : Server) (chatMsg : FDaraChatMsg) :
    inviteToGroup env s chatMsg = s ∨
      (s.groupContainer.groupInvite chatMsg.recipient chatMsg.sender).errorCode =
          daraGroupSuccess ∧
        inviteToGroup env s chatMsg = s.invite env chatMsg := by
  by_cases h : (s.groupContainer.groupInvite chatMsg.recipient chatMsg.sender).errorCode = 1
  · exact Or.inr ⟨h, by simp [inviteToGroup, h, invite]⟩
  · exact Or.inl (by simp [inviteToGroup, h])

/-- An invitation changes invitations and nothing else. -/
theorem inviteToGroup_frame (s : Server) (chatMsg : FDaraChatMsg) :
    (inviteToGroup env s chatMsg).sockets = s.sockets ∧
      (inviteToGroup env s chatMsg).groupContainer.myGroups = s.groupContainer.myGroups := by
  rcases inviteToGroup_cases env s chatMsg with heq | ⟨-, heq⟩
  · rw [heq]
    exact ⟨rfl, rfl⟩
  · rw [heq]
    exact ⟨rfl, rfl⟩

/-- A session without a group founds one before it invites. -/
theorem handleGroupInvite_of_free (hsender : chatMsg.sender = sock.data.name)
    (hfree : sock.data.groupId = []) (hnone : s.groupContainer.groupIdOf sock.data.name = []) :
    handleGroupInvite env s ws sock chatMsg =
      inviteToGroup env (s.foundGroup env ws sock) chatMsg := by
  obtain ⟨hc, hcode, hid⟩ := groupStartGroup_of_none env.time env.uuid hnone
  simp [handleGroupInvite, hfree, hsender, hcode, hid, hc, foundGroup]

theorem handleGroupInvite_cases (hsender : chatMsg.sender = sock.data.name) :
    handleGroupInvite env s ws sock chatMsg = s ∨
      sock.data.groupId = [] ∧ s.groupContainer.groupIdOf sock.data.name = [] ∧
        handleGroupInvite env s ws sock chatMsg =
          inviteToGroup env (s.foundGroup env ws sock) chatMsg ∨
      sock.data.groupId ≠ [] ∧
        handleGroupInvite env s ws sock chatMsg = inviteToGroup env s chatMsg := by
  by_cases hfree : sock.data.groupId = []
  · by_cases hnone : s.groupContainer.groupIdOf sock.data.name = []
    · exact Or.inr (Or.inl ⟨hfree, hnone, handleGroupInvite_of_free env ws hsender hfree hnone⟩)
    · obtain ⟨hc, hcode⟩ := groupStartGroup_of_grouped env.time env.uuid hnone
      exact Or.inl (by simp [handleGroupInvite, hfree, hsender, hcode.ne, hc, setGroups_self])
  · exact Or.inr (Or.inr ⟨hfree, by simp [handleGroupInvite, hfree]⟩)

/-- The character enters, the invitation is used up, and the group is told. -/
theorem joinGroup_of_canJoin {inviter : Str} (hfree : sock.data.groupId = [])
    (hjoin : s.groupContainer.CanJoin sock.data.name inviter) :
    joinGroup env s ws sock sock.data.name inviter = s.acceptInvite env ws sock inviter := by
  obtain ⟨hc, hcode, hid⟩ := groupJoin_of_canJoin env.time hjoin
  have hgroup : (sock.setGroupId (s.groupContainer.groupIdOf inviter)).subscribeGroupTopic.data.groupId
      = s.groupContainer.groupIdOf inviter :=
    (Socket.sameSession_subscribeGroupTopic _).groupId
  simp [joinGroup, hfree, hcode, hid, hc, hjoin.leader_grouped, acceptInvite, enterGroup, hgroup]

theorem joinGroup_of_grouped (inviter : Str) (hgroup : sock.data.groupId ≠ []) :
    joinGroup env s ws sock sock.data.name inviter = s := by
  simp [joinGroup, hgroup]

theorem joinGroup_cases (s : Server) (sock : Socket) (inviter : Str) :
    joinGroup env s ws sock sock.data.name inviter = s ∨
      sock.data.groupId = [] ∧ s.groupContainer.CanJoin sock.data.name inviter ∧
        joinGroup env s ws sock sock.data.name inviter = s.acceptInvite env ws sock inviter := by
  by_cases hfree : sock.data.groupId = []
  · by_cases hjoin : s.groupContainer.CanJoin sock.data.name inviter
    · exact Or.inr ⟨hfree, hjoin, joinGroup_of_canJoin env ws hfree hjoin⟩
    · obtain ⟨hc, hcode⟩ := groupJoin_of_not_canJoin env.time hjoin
      exact Or.inl (by simp [joinGroup, hfree, hcode.ne, hc, setGroups_self])
  · exact Or.inl (joinGroup_of_grouped env ws inviter hfree)

/-- The checks of `GroupJoin` that come before a solo group is left. -/
def JoinAllowed (c : GroupContainer) (invited inviter : Str) : Prop :=
  c.checkHasInvited inviter invited = true ∧ c.groupIdOf inviter ≠ [] ∧
    (c.getGroupInfo inviter).memberCount < myMaxGroupMembers ∧
    c.groupIdOf invited ≠ c.groupIdOf inviter

instance (c : GroupContainer) (invited inviter : Str) : Decidable (JoinAllowed c invited inviter) :=
  inferInstanceAs (Decidable (_ ∧ _ ∧ _ ∧ _))

/-- A join is refused after outdated invitations are dropped, or a solo group is left for it. -/
theorem handleGroupJoin_cases (hsender : chatMsg.sender = sock.data.name) :
    let s₀ := s.prune env
    ¬ JoinAllowed s₀.groupContainer sock.data.name chatMsg.recipient ∧
        handleGroupJoin env s ws sock chatMsg = s₀ ∨
      JoinAllowed s₀.groupContainer sock.data.name chatMsg.recipient ∧
        (s₀.groupContainer.getGroupInfo sock.data.name).memberCount = 1 ∧
        handleGroupJoin env s ws sock chatMsg =
          joinGroup env (s₀.leaveGroup ws sock) ws (sock.removeGroupSubscription.setGroupId [])
            sock.data.name chatMsg.recipient ∨
      JoinAllowed s₀.groupContainer sock.data.name chatMsg.recipient ∧
        (s₀.groupContainer.getGroupInfo sock.data.name).memberCount ≠ 1 ∧
        handleGroupJoin env s ws sock chatMsg =
          joinGroup env s₀ ws sock sock.data.name chatMsg.recipient := by
  intro s₀
  have hunfold : handleGroupJoin env s ws sock chatMsg =
      let target := s₀.groupContainer.getGroupInfo chatMsg.recipient
      let info := s₀.groupContainer.getGroupInfo chatMsg.sender
      if s₀.groupContainer.checkHasInvited chatMsg.recipient chatMsg.sender = false then s₀
      else if target.groupId = [] ∨ target.memberCount ≥ myMaxGroupMembers then s₀
      else if info.groupId ≠ [] ∧ info.groupId = target.groupId then s₀
      else if info.memberCount = 1 then
        joinGroup env
          ((s₀.setGroups (s₀.groupContainer.groupDisband chatMsg.sender).2).setSocket ws
            (sock.removeGroupSubscription.setGroupId [])) ws
          (sock.removeGroupSubscription.setGroupId []) chatMsg.sender chatMsg.recipient
      else joinGroup env s₀ ws sock chatMsg.sender chatMsg.recipient := rfl
  -- the guards in the order of the handler: each `by_cases` passes one of them
  rw [hunfold, hsender]
  simp only [getGroupInfo_groupId]
  by_cases hinv : s₀.groupContainer.checkHasInvited chatMsg.recipient sock.data.name = true
  case neg =>
    rw [if_pos (by simpa using hinv)]
    exact Or.inl ⟨fun h => hinv h.1, rfl⟩
  rw [if_neg (by simp [hinv])]
  by_cases hgroup : s₀.groupContainer.groupIdOf chatMsg.recipient = []
  · rw [if_pos (Or.inl hgroup)]
    exact Or.inl ⟨fun h => h.2.1 hgroup, rfl⟩
  by_cases hfull : (s₀.groupContainer.getGroupInfo chatMsg.recipient).memberCount ≥
      myMaxGroupMembers
  · rw [if_pos (Or.inr hfull)]
    exact Or.inl ⟨fun h => absurd h.2.2.1 (by omega), rfl⟩
  rw [if_neg fun h => h.elim hgroup hfull]
  by_cases hsame : s₀.groupContainer.groupIdOf sock.data.name =
      s₀.groupContainer.groupIdOf chatMsg.recipient
  · rw [if_pos ⟨by rwa [hsame], hsame⟩]
    exact Or.inl ⟨fun h => h.2.2.2 hsame, rfl⟩
  rw [if_neg fun h => hsame h.2]
  have hallowed : JoinAllowed s₀.groupContainer sock.data.name chatMsg.recipient :=
    ⟨hinv, hgroup, by omega, hsame⟩
  by_cases hone : (s₀.groupContainer.getGroupInfo sock.data.name).memberCount = 1
  · rw [if_pos hone]
    exact Or.inr (Or.inl ⟨hallowed, hone, rfl⟩)
  · rw [if_neg hone]
    exact Or.inr (Or.inr ⟨hallowed, hone, rfl⟩)

/-- A character in a group leaves it, and those left are told. -/
theorem handleGroupDisband_of_grouped (hsender : chatMsg.sender = sock.data.name)
    (hgroup : sock.data.groupId ≠ []) :
    handleGroupDisband s ws sock chatMsg = s.disband ws sock := by
  simp [handleGroupDisband, hgroup, hsender, disband, leaveGroup]

end GroupCommands

/-! ### Text frames -/

section Text

variable {s : Server}

/-- The legacy `publish:` branch forwards its payload to the topic that the payload names before
its first colon. -/
theorem handlePublish_cases (s : Server) (msg : Str) :
    s.handlePublish msg = s ∨
      ∃ topic rest, ':' ∉ topic ∧
        s.handlePublish msg = s.publish topic (.text (topic ++ ':' :: rest)) := by
  unfold handlePublish
  cases hsep : find msg ':' 8 with
  | none => exact Or.inl rfl
  | some sep =>
      obtain ⟨topic, rest, hdrop, hcolon, rfl⟩ := eq_of_find hsep
      refine Or.inr ⟨topic, rest, hcolon, ?_⟩
      simp only [substr, hdrop, Nat.add_sub_cancel_left, List.take_left]

/-- A text that parses starts with a capital letter. -/
theorem startsWith_of_parsed {msg : Str} (h : (tryParseMessage msg).1 = true) {c : Char}
    {start : Str} (hc : c.isLower = true) : startsWith msg (c :: start) = false := by
  obtain ⟨type, sender, recipient, message, rfl, -, -, -, hne, -⟩ := eq_of_tryParseMessage h
  cases type with
  | nil => exact absurd (by decide) hne
  | cons d type =>
      by_contra hstart
      rw [Bool.not_eq_false, startsWith_iff, List.cons_append, List.cons_prefix_cons] at hstart
      rw [← hstart.1] at hne
      exact hne (fromString_lower hc)

/-- A chat command is handled as such. -/
theorem step_of_chatCommand (cfg : Config) {e : Event} {cmd : ChatCommand}
    (hcmd : s.chatCommand e = some cmd) :
    s.step cfg e = handleChatMsg cfg cmd.env s cmd.ws cmd.sock cmd.chatMsg := by
  obtain ⟨msg, rfl, hs, hparse, hmsg⟩ := text_of_chatCommand hcmd
  -- no prefix of the other branches starts a message
  have hstart : ∀ {c : Char} {start : Str}, c.isLower = true →
      startsWith msg (c :: start) = false := fun h => startsWith_of_parsed hparse h
  have hlower : 'c'.isLower = true ∧ 's'.isLower = true ∧ 'u'.isLower = true ∧
      'p'.isLower = true := by decide
  have htext : s.step cfg (.text cmd.env cmd.ws msg) =
      handleText cfg cmd.env s cmd.ws cmd.sock msg := by
    simp [step, hs.found, hs.live]
  rw [htext, handleText, hmsg]
  rw [if_neg (by simp [hstart hlower.1]), if_neg (by simp [hs.connected]),
    if_neg (by simp [hstart hlower.2.1]), if_neg (by simp [hstart hlower.2.1]),
    if_neg (by simp [hstart hlower.2.2.1]), if_neg (by simp [hstart hlower.2.2.2])]
  revert hparse
  cases tryParseMessage msg with
  | mk flag rest =>
      rintro rfl
      rfl

end Text

/-! ### Which branch a group command takes -/

section GroupFrames

variable {s : Server} {e : Event} {cmd : ChatCommand}

theorem step_of_groupInvite (cfg : Config) (hcmd : s.chatCommand e = some cmd)
    (htype : cmd.chatMsg.type = .groupInvite) :
    s.step cfg e = handleGroupInvite cmd.env s cmd.ws cmd.sock cmd.chatMsg := by
  rw [step_of_chatCommand cfg hcmd, handleChatMsg, htype]
  rfl

theorem step_of_groupJoin (cfg : Config) (hcmd : s.chatCommand e = some cmd)
    (htype : cmd.chatMsg.type = .groupJoin) :
    s.step cfg e = handleGroupJoin cmd.env s cmd.ws cmd.sock cmd.chatMsg := by
  rw [step_of_chatCommand cfg hcmd, handleChatMsg, htype]
  rfl

theorem step_of_groupDisband (cfg : Config) (hcmd : s.chatCommand e = some cmd)
    (htype : cmd.chatMsg.type = .groupDisband) :
    s.step cfg e = handleGroupDisband s cmd.ws cmd.sock cmd.chatMsg := by
  rw [step_of_chatCommand cfg hcmd, handleChatMsg, htype]
  rfl

/-- What a `GroupDisband` frame does to the groups. -/
theorem container_of_groupDisband (cfg : Config) (hcmd : s.chatCommand e = some cmd)
    (htype : cmd.chatMsg.type = .groupDisband) :
    (s.step cfg e).groupContainer =
      if cmd.sock.data.groupId = [] then s.groupContainer
      else (s.groupContainer.groupDisband cmd.sock.data.name).2 := by
  obtain ⟨-, hsender, -⟩ := chatCommand_eq_some hcmd
  rw [step_of_groupDisband cfg hcmd htype]
  split
  case isTrue hgroup => rw [handleGroupDisband, if_neg (not_not.mpr hgroup)]
  case isFalse hgroup =>
    rw [handleGroupDisband_of_grouped cmd.ws hsender hgroup]
    rfl

end GroupFrames

end Server

end DaraChat
