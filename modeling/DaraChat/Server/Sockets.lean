import DaraChat.Server.Acceptance

set_option autoImplicit false

/-! # The sockets that an event touches

A chat command leaves all sockets as they are but the one it comes from, which leaves a group, enters
one, or leaves one to enter another (`socketsFollow_chatCommand`). And any event touches, besides its
own socket, only the one whose session a login replaces (`sockets_step_of_ne`).
-/

namespace DaraChat

open GroupContainer

/-- What a chat command makes of the socket it comes from. -/
inductive Regrouped (sock : Socket) : Socket → Prop
  | left : Regrouped sock (sock.removeGroupSubscription.setGroupId [])
  | entered (g : Str) (hfree : sock.data.groupId = []) (hg : isGroupTopic g = true) :
      Regrouped sock (sock.setGroupId g).subscribeGroupTopic
  | moved (g : Str) (hg : isGroupTopic g = true) :
      Regrouped sock
        ((sock.removeGroupSubscription.setGroupId []).setGroupId g).subscribeGroupTopic

namespace Server

/-- The sockets are those of before, but the one at `ws` may be regrouped. -/
def SocketsFollow (s s' : Server) (ws : SocketId) (sock : Socket) : Prop :=
  s'.sockets = s.sockets ∨
    ∃ sock', Regrouped sock sock' ∧ s'.sockets = (s.setSocket ws sock').sockets

section ChatCommand

variable {s : Server} {e : Event} {cmd : ChatCommand}

theorem socketsFollow_groupInvite (hcmd : s.chatCommand e = some cmd) :
    SocketsFollow s (handleGroupInvite cmd.env s cmd.ws cmd.sock cmd.chatMsg) cmd.ws cmd.sock := by
  obtain ⟨hsession, hsender, -⟩ := chatCommand_eq_some hcmd
  rcases handleGroupInvite_cases cmd.env cmd.ws hsender with heq | ⟨hfree, -, heq⟩ | ⟨-, heq⟩
  · exact .inl (by rw [heq])
  · refine .inr ⟨_, .entered _ hfree (startsWith_getNewGroupId cmd.env.uuid), ?_⟩
    rw [heq, (inviteToGroup_frame cmd.env _ cmd.chatMsg).1]
    rfl
  · exact .inl (by rw [heq, (inviteToGroup_frame cmd.env _ cmd.chatMsg).1])

theorem socketsFollow_groupJoin (cfg : Config) (hs : s.Consistent) (hcmd : s.chatCommand e = some cmd)
    (htype : cmd.chatMsg.type = .groupJoin) :
    SocketsFollow s (s.step cfg e) cmd.ws cmd.sock := by
  rcases groupJoin_cases cfg hs hcmd htype with ⟨-, heq⟩ | ⟨s₁, sock, hadm, -, heq⟩
  · exact .inl (by rw [heq]; rfl)
  have hg : isGroupTopic (s₁.groupContainer.groupIdOf cmd.chatMsg.recipient) = true := by
    have hgrouped := hadm.canJoin.leader_grouped
    rw [hadm.target] at hgrouped ⊢
    exact hs.presence.sound.groupIdOf_prefixed hgrouped
  rcases hadm.prepared with ⟨rfl, rfl⟩ | ⟨-, rfl, rfl⟩
  · exact .inr ⟨_, .entered _ hadm.free hg, by rw [heq]; rfl⟩
  · refine .inr ⟨_, .moved _ hg, ?_⟩
    rw [heq]
    exact Function.update_idem ..

/-- **What a chat command does to the sockets**, in a consistent state. -/
theorem socketsFollow_chatCommand (cfg : Config) (hs : s.Consistent)
    (hcmd : s.chatCommand e = some cmd) : SocketsFollow s (s.step cfg e) cmd.ws cmd.sock := by
  by_cases hjoin : cmd.chatMsg.type = .groupJoin
  · exact socketsFollow_groupJoin cfg hs hcmd hjoin
  rw [step_of_chatCommand cfg hcmd, handleChatMsg]
  split
  · exact .inl rfl
  cases htype : cmd.chatMsg.type with
  | groupInvite => exact socketsFollow_groupInvite hcmd
  | groupDisband =>
      obtain ⟨-, hsender, -⟩ := chatCommand_eq_some hcmd
      by_cases hgroup : cmd.sock.data.groupId = []
      · exact .inl (by simp [handleGroupDisband, hgroup])
      · refine .inr ⟨_, .left, ?_⟩
        show (handleGroupDisband s cmd.ws cmd.sock cmd.chatMsg).sockets = _
        rw [handleGroupDisband_of_grouped cmd.ws hsender hgroup]
        rfl
  | groupJoin => exact absurd htype hjoin
  | tell =>
      refine .inl ?_
      simp only [handleTell]
      split_ifs <;> rfl
  | group =>
      refine .inl ?_
      simp only
      split <;> rfl
  | _ => exact .inl rfl

end ChatCommand

/-! ## Other sockets -/

section Others

variable {s : Server} {e : Event} {ws ws' : SocketId}

theorem sockets_setSocket_of_ne (h : ws' ≠ ws) {t : Server} {sock : Socket}
    (hsockets : t.sockets = (s.setSocket ws' sock).sockets) : t.sockets ws = s.sockets ws := by
  rw [hsockets, setSocket_sockets_ne _ _ _ h.symm]

theorem sockets_endSocket_of_ne (env : Env) (h : ws' ≠ ws) :
    (s.endSocket env ws').sockets ws = s.sockets ws := by
  cases hsock : s.sockets ws' with
  | none =>
      have hend : s.endSocket env ws' = s := by simp [endSocket, hsock]
      rw [hend]
  | some sock =>
      obtain ⟨sock', -, hsockets, -⟩ := endSocket_frame s env ws' hsock
      exact sockets_setSocket_of_ne h hsockets

/-- A socket that another one logs in against is not live any more. -/
theorem sockets_endOld (env : Env) (ws' : SocketId) (name : Str) :
    (s.endOld env ws' name).sockets ws = s.sockets ws ∨
      ∀ sock ∈ (s.endOld env ws' name).sockets ws, sock.phase ≠ .live := by
  rw [endOld]
  cases hlook : s.activeSessions.lookup name with
  | none => exact .inl rfl
  | some old =>
      by_cases hold : old = ws'
      · exact .inl (by simp [hold])
      simp only [ne_eq, hold, not_false_eq_true, if_true]
      by_cases hws : old = ws
      · subst hws
        cases hsock : s.sockets old with
        | none =>
            have hend : s.endSocket env old = s := by simp [endSocket, hsock]
            exact .inl (by rw [hend, hsock])
        | some sock =>
            obtain ⟨sock', hphase, hsockets, -⟩ := endSocket_frame s env old hsock
            refine .inr fun sock₁ hsock₁ => ?_
            rw [hsockets, setSocket_sockets_self] at hsock₁
            obtain rfl := Option.some.inj hsock₁
            exact hphase
      · exact .inl (sockets_endSocket_of_ne env hws)

theorem sockets_handleConnectMessage (cfg : Config) (env : Env) {sock : Socket} (msg : Str)
    (h : ws' ≠ ws) :
    (handleConnectMessage cfg env s ws' sock msg).sockets ws = s.sockets ws ∨
      ∀ sock₁ ∈ (handleConnectMessage cfg env s ws' sock msg).sockets ws, sock₁.phase ≠ .live := by
  rw [handleConnectMessage]
  split
  · exact .inl (sockets_endSocket_of_ne env h)
  split
  · rename_i login _
    rw [completeConnect_eq]
    simp only [sendIf_sockets]
    have hother : ∀ t : Server, ∀ sock', (t.enroll env ws' sock').sockets ws = t.sockets ws :=
      fun t sock' => sockets_setSocket_of_ne (s := t) h rfl
    rw [hother]
    exact sockets_endOld env ws' _
  · exact .inl (sockets_endSocket_of_ne env h)

theorem sockets_handleBinary (cfg : Config) (env : Env) (s : Server) (sock : Socket)
    (data : List UInt8) : (handleBinary cfg env s sock data).sockets = s.sockets := by
  rw [handleBinary]
  split
  · rfl
  split
  · rfl
  · split <;> rfl

/-- **An event of another socket** leaves a socket as it is, or ends it. -/
theorem sockets_step_of_ne (cfg : Config) (hs : s.Consistent) (h : e.socketId ≠ ws) :
    (s.step cfg e).sockets ws = s.sockets ws ∨
      ∀ sock ∈ (s.step cfg e).sockets ws, sock.phase ≠ .live := by
  cases hcmd : s.chatCommand e with
  | some cmd =>
      obtain ⟨msg, rfl, -⟩ := text_of_chatCommand hcmd
      rcases socketsFollow_chatCommand cfg hs hcmd with heq | ⟨sock', -, heq⟩
      · exact .inl (by rw [heq])
      · exact .inl (sockets_setSocket_of_ne h heq)
  | none =>
  cases e with
  | opened ws' =>
      refine .inl ?_
      simp only [step]
      split
      · exact sockets_setSocket_of_ne h rfl
      · split
        · exact sockets_setSocket_of_ne h rfl
        · rfl
  | text env ws' msg =>
      simp only [step]
      split
      · exact .inl rfl
      rename_i sock hsock
      split
      case isFalse => exact .inl rfl
      rename_i hlive
      rw [handleText]
      split
      · exact sockets_handleConnectMessage cfg env msg h
      split
      · exact .inl rfl
      rename_i hconnected
      split
      · exact .inl rfl
      split
      · exact .inl (sockets_setSocket_of_ne h rfl)
      split
      · exact .inl (sockets_setSocket_of_ne h rfl)
      split
      · rcases handlePublish_cases s msg with heq | ⟨topic, rest, -, heq⟩
        · exact .inl (by rw [heq])
        · exact .inl (by rw [heq]; rfl)
      split
      case h_1 hparse => simp [chatCommand, hsock, hlive, hconnected, hparse] at hcmd
      case h_2 => exact .inl rfl
  | binary env ws' data =>
      refine .inl ?_
      simp only [step]
      split
      · rfl
      split
      · rw [sockets_handleBinary]
      · rfl
  | closed env ws' =>
      refine .inl ?_
      simp only [step]
      split
      · rfl
      rename_i sock hsock
      split
      · rfl
      · exact sockets_setSocket_of_ne h (closeSocket_frame s env ws' hsock).1

end Others

end Server

end DaraChat
