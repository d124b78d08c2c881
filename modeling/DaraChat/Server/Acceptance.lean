import DaraChat.Server.Coherence

set_option autoImplicit false

/-! # Accepting an invitation is all-or-nothing

`GroupJoin` leaves a solo group before it joins the new one, so a join that failed after that
would leave the character without a group. It cannot fail: what has been checked before the solo
group is left still holds after it, because the solo group is not the one that is joined
(`canJoin_groupDisband`). So a `GroupJoin` admits the character, or it drops outdated
invitations and does nothing else (`groupJoin_cases`).
-/

namespace DaraChat

open GroupContainer

namespace Server

/-- What holds when a `GroupJoin` frame comes to its join, in the state `s₁` and with the socket
as it is then: `s₁` is the state before the frame without outdated invitations, and without the
solo group of the character if it had one. -/
structure Admission (s : Server) (cmd : ChatCommand) (s₁ : Server) (sock : Socket) : Prop where
  session : s₁.Session cmd.ws sock
  free : sock.data.groupId = []
  name : sock.data.name = cmd.sock.data.name
  invited : (s.prune cmd.env).groupContainer.checkHasInvited cmd.chatMsg.recipient
    cmd.sock.data.name = true
  canJoin : s₁.groupContainer.CanJoin cmd.sock.data.name cmd.chatMsg.recipient
  target : s₁.groupContainer.groupIdOf cmd.chatMsg.recipient =
    s.groupContainer.groupIdOf cmd.chatMsg.recipient
  prepared : s₁ = s.prune cmd.env ∧ sock = cmd.sock ∨
    (s.groupContainer.getGroupInfo cmd.sock.data.name).memberCount = 1 ∧
      s₁ = (s.prune cmd.env).leaveGroup cmd.ws cmd.sock ∧
      sock = cmd.sock.removeGroupSubscription.setGroupId []

/-- What the checks of `GroupJoin` ensure after the solo group is gone. -/
theorem canJoin_groupDisband {c : GroupContainer} (hc : c.Sound)
    (hnamed : ∀ m ∈ c.myGroups, m.name ≠ []) {invited inviter : Str}
    (h : JoinAllowed c invited inviter) :
    (c.groupDisband invited).2.CanJoin invited inviter ∧
      (c.groupDisband invited).2.groupIdOf inviter = c.groupIdOf inviter := by
  obtain ⟨-, hgroup, hfull, hother⟩ := h
  -- the two are in different groups, so the target group is untouched
  have hne : inviter ≠ invited := fun heq => hother (by rw [heq])
  have hsame : (c.groupDisband invited).2.groupIdOf inviter = c.groupIdOf inviter :=
    (groupIdOf_groupDisband c invited inviter).trans (if_neg hne)
  obtain ⟨member, hmem, hname, -⟩ := exists_mem_of_groupIdOf hgroup
  refine ⟨⟨?_, ?_, ?_, ?_⟩, hsame⟩
  · rw [← hname]
    exact hnamed member hmem
  · rwa [hsame]
  · rw [hsame, entriesOf_groupDisband_ne hc.namesNodup hother]
    rwa [getGroupInfo_memberCount hgroup] at hfull
  · exact (groupIdOf_groupDisband c invited invited).trans (if_pos rfl)

/-- And when the character is in no group. -/
theorem canJoin_of_free {c : GroupContainer} (hnamed : ∀ m ∈ c.myGroups, m.name ≠ [])
    {invited inviter : Str} (h : JoinAllowed c invited inviter) (hfree : c.groupIdOf invited = []) :
    c.CanJoin invited inviter := by
  obtain ⟨-, hgroup, hfull, -⟩ := h
  obtain ⟨member, hmem, hname, -⟩ := exists_mem_of_groupIdOf hgroup
  refine ⟨?_, hgroup, ?_, hfree⟩
  · rw [← hname]
    exact hnamed member hmem
  · rwa [getGroupInfo_memberCount hgroup] at hfull

section GroupJoin

variable {s : Server} {e : Event} {cmd : ChatCommand}

/-- **What a `GroupJoin` frame does**, in a consistent state. -/
theorem groupJoin_cases (cfg : Config) (hs : s.Consistent) (hcmd : s.chatCommand e = some cmd)
    (htype : cmd.chatMsg.type = .groupJoin) :
    s.entering e = none ∧ s.step cfg e = s.prune cmd.env ∨
      ∃ s₁ sock, s.Admission cmd s₁ sock ∧ s.entering e = some (cmd.ws, sock) ∧
        s.step cfg e = s₁.acceptInvite cmd.env cmd.ws sock cmd.chatMsg.recipient := by
  obtain ⟨hsession, hsender, -⟩ := chatCommand_eq_some hcmd
  have hs₀ : (s.prune cmd.env).Session cmd.ws cmd.sock := hsession.of_sockets rfl
  have hp₀ : (s.prune cmd.env).Presence := hs.presence.congr rfl rfl
  rw [step_of_groupJoin cfg hcmd htype]
  rcases handleGroupJoin_cases cmd.env cmd.ws hsender with
    ⟨hnot, heq⟩ | ⟨hallowed, hone, heq⟩ | ⟨hallowed, hone, heq⟩
  · refine Or.inl ⟨?_, heq⟩
    simp only [entering, hcmd, htype]
    exact if_neg hnot
  · -- the solo group is left first
    have hname : (cmd.sock.removeGroupSubscription.setGroupId []).data.name =
        cmd.sock.data.name := (Socket.sameSession_removeGroupSubscription cmd.sock).name
    obtain ⟨hjoin, htarget⟩ := canJoin_groupDisband hp₀.sound hp₀.named hallowed
    refine Or.inr ⟨_, _, ⟨hs₀.leaveGroup, rfl, hname, hallowed.1, hjoin, htarget,
      Or.inr ⟨hone, rfl, rfl⟩⟩, (entering_of_groupJoin hcmd htype hallowed).trans (if_pos hone), ?_⟩
    rw [heq, ← hname]
    exact joinGroup_of_canJoin cmd.env cmd.ws rfl (hname.symm ▸ hjoin)
  · by_cases hfree : cmd.sock.data.groupId = []
    · have hnone : s.groupContainer.groupIdOf cmd.sock.data.name = [] :=
        (hs.groupId hsession).symm.trans hfree
      have hjoin := canJoin_of_free hp₀.named hallowed hnone
      refine Or.inr ⟨_, _, ⟨hs₀, hfree, rfl, hallowed.1, hjoin, rfl, Or.inl ⟨rfl, rfl⟩⟩,
        (entering_of_groupJoin hcmd htype hallowed).trans ((if_neg hone).trans (if_pos hfree)), ?_⟩
      rw [heq]
      exact joinGroup_of_canJoin cmd.env cmd.ws hfree hjoin
    · -- a character in a group of several stays in it
      refine Or.inl ⟨(entering_of_groupJoin hcmd htype hallowed).trans
        ((if_neg hone).trans (if_neg hfree)), ?_⟩
      rw [heq]
      exact joinGroup_of_grouped cmd.env cmd.ws _ hfree

/-- **What an event does to the socket that it puts into a group**, in a consistent state. -/
theorem step_entering (cfg : Config) (hs : s.Consistent) {ws : SocketId} {sock : Socket}
    (h : s.entering e = some (ws, sock)) :
    ∃ cmd g, s.chatCommand e = some cmd ∧ cmd.ws = ws ∧ isGroupTopic g = true ∧
      sock.data.groupId = [] ∧
      (sock = cmd.sock ∨ sock = cmd.sock.removeGroupSubscription.setGroupId []) ∧
      (s.step cfg e).sockets ws = some (sock.setGroupId g).subscribeGroupTopic := by
  cases hcmd : s.chatCommand e with
  | none => simp [entering, hcmd] at h
  | some cmd =>
      obtain ⟨hsession, hsender, -⟩ := chatCommand_eq_some hcmd
      by_cases hinvite : cmd.chatMsg.type = .groupInvite
      -- the first invitation of a character founds its group
      · by_cases hfree : cmd.sock.data.groupId = []
        · rw [entering_of_groupInvite hcmd hinvite hfree] at h
          obtain ⟨rfl, rfl⟩ := Prod.mk.inj (Option.some.inj h)
          have hnone := (hs.groupId hsession).symm.trans hfree
          refine ⟨cmd, _, rfl, rfl, startsWith_getNewGroupId cmd.env.uuid, hfree, Or.inl rfl, ?_⟩
          rw [step_of_groupInvite cfg hcmd hinvite,
            handleGroupInvite_of_free cmd.env cmd.ws hsender hfree hnone,
            (inviteToGroup_frame cmd.env _ cmd.chatMsg).1]
          exact setSocket_sockets_self ..
        · simp [entering, hcmd, hinvite, hfree] at h
      · by_cases hjoin : cmd.chatMsg.type = .groupJoin
        · rcases groupJoin_cases cfg hs hcmd hjoin with ⟨hnone, -⟩ | ⟨s₁, sock₁, hadm, henter, heq⟩
          · rw [hnone] at h
            cases h
          · rw [henter] at h
            obtain ⟨rfl, rfl⟩ := Prod.mk.inj (Option.some.inj h)
            refine ⟨cmd, s₁.groupContainer.groupIdOf cmd.chatMsg.recipient, rfl, rfl, ?_, hadm.free,
              hadm.prepared.imp (fun hp => hp.2) fun hp => hp.2.2, ?_⟩
            -- the id that is joined is that of a group that exists
            · have hgrouped := hadm.canJoin.leader_grouped
              rw [hadm.target] at hgrouped ⊢
              exact hs.presence.sound.groupIdOf_prefixed hgrouped
            · rw [heq]
              exact setSocket_sockets_self ..
        · simp only [entering, hcmd] at h
          cases h

/-- The character of the session is in the group that the inviter was in, and its session knows
the group's id. -/
def Joined (s s' : Server) (cmd : ChatCommand) : Prop :=
  ∃ g, (∃ m ∈ s.groupContainer.myGroups, m.name = cmd.chatMsg.recipient ∧ m.groupId = g) ∧
    (∃ m ∈ s'.groupContainer.myGroups, m.name = cmd.sock.data.name ∧ m.groupId = g) ∧
    ∃ sock', s'.sockets cmd.ws = some sock' ∧ sock'.data.groupId = g

/-- Entries and sockets are as before, and invitations but for those older than 180 seconds. -/
def NotJoined (s s' : Server) (cmd : ChatCommand) : Prop :=
  s'.groupContainer.myGroups = s.groupContainer.myGroups ∧ s'.sockets = s.sockets ∧
    s'.groupContainer.myInvites = s.groupContainer.myInvites.filter
      fun invite => decide (cmd.env.time - invite.storeTime ≤ 180)

/-- Every `GroupJoin` frame joins wholly or not at all; and where the handler leaves a solo group
first, the join that follows succeeds. -/
def JoinsWhole (cfg : Config) (s : Server) : Prop :=
  ∀ e cmd, s.chatCommand e = some cmd → cmd.chatMsg.type = .groupJoin →
    (Joined s (s.step cfg e) cmd ∨ NotJoined s (s.step cfg e) cmd) ∧
      let c := s.groupContainer.removeOldInvites cmd.env.time
      (JoinAllowed c cmd.sock.data.name cmd.chatMsg.recipient →
        (c.getGroupInfo cmd.sock.data.name).memberCount = 1 →
        ((c.groupDisband cmd.sock.data.name).2.groupJoin cmd.env.time cmd.sock.data.name
          cmd.chatMsg.recipient).1.errorCode = 0)

theorem notJoined_prune (cmd : ChatCommand) : NotJoined s (s.prune cmd.env) cmd :=
  ⟨rfl, rfl, List.filter_congr fun invite _ => by simp⟩

theorem Admission.joined {s₁ : Server} {sock : Socket} (h : s.Admission cmd s₁ sock) :
    Joined s (s₁.acceptInvite cmd.env cmd.ws sock cmd.chatMsg.recipient) cmd := by
  have hgrouped : s.groupContainer.groupIdOf cmd.chatMsg.recipient ≠ [] := by
    rw [← h.target]
    exact h.canJoin.leader_grouped
  refine ⟨s.groupContainer.groupIdOf cmd.chatMsg.recipient, exists_mem_of_groupIdOf hgrouped,
    ⟨joiner cmd.env.time sock.data.name (s₁.groupContainer.groupIdOf cmd.chatMsg.recipient),
      List.mem_append_right _ (List.mem_singleton_self _), h.name, h.target⟩,
    _, setSocket_sockets_self .., ?_⟩
  rw [(Socket.sameSession_subscribeGroupTopic _).groupId]
  exact h.target

/-- **Accepting an invitation is all-or-nothing**, in every reachable state. -/
theorem joinsWhole_run (cfg : Config) (evs : List Event) :
    JoinsWhole cfg ((machine cfg).run evs) := by
  intro e cmd hcmd htype
  have hs := consistent_run cfg evs
  refine ⟨?_, fun hallowed _ => ?_⟩
  · rcases groupJoin_cases cfg hs hcmd htype with ⟨-, heq⟩ | ⟨s₁, sock, hadmission, -, heq⟩
    · rw [heq]
      exact Or.inr (notJoined_prune cmd)
    · rw [heq]
      exact Or.inl hadmission.joined
  · have hp : (((machine cfg).run evs).prune cmd.env).Presence := hs.presence.congr rfl rfl
    exact (groupJoin_of_canJoin cmd.env.time
      (canJoin_groupDisband hp.sound hp.named hallowed).1).2.1

end GroupJoin

end Server

end DaraChat
