import DaraChat.Bot.Cascade
import DaraChat.Server.Parties

set_option autoImplicit false

/-! # Bots join by themselves

A bot that is invited accepts, and a bot that is asked for an invitation invites. So where an
invitation is eligible, one frame is enough: the server publishes it, the bots reply to what they are
sent, and the character is in the group (`inviteMe_joins`). What each frame is read as is the same at
both ends, because no name in play has a colon.
-/

namespace DaraChat

open GroupContainer

namespace Server

/-- The event publishes the payload on the tell topic of the name, and nothing else. -/
def Tells (cfg : Config) (s : Server) (e : Event) (name : Str) (payload : Payload) : Prop :=
  ∃ groups, (s.step cfg e).published = s.published ++ [⟨tellTopic name, payload, groups⟩]

section Replies

variable {chatter : Chatter} {sender recipient message : Str}

/-- A message whose fields have no colon is replied to as what it is. -/
theorem replyEvent_serialize {type : EChatCmdType} (htype : type ≠ .none) (hsender : ':' ∉ sender)
    (hrecipient : ':' ∉ recipient) (env : Env) (ws : SocketId) :
    chatter.replyEvent env ws (.text (FDaraChatMsg.mk type sender recipient message).serialize) =
      (chatter.chatReply ⟨type, sender, recipient, message⟩).bind fun reply =>
        reply.serialize.event env ws := by
  have hparse : tryParseMessage (FDaraChatMsg.mk type sender recipient message).serialize =
      (true, ⟨type, sender, recipient, message⟩, []) :=
    tryParseMessage_serialize htype hsender hrecipient
  have hread : chatter.onWSMsg (.text (FDaraChatMsg.mk type sender recipient message).serialize) =
      (chatter.chatReply ⟨type, sender, recipient, message⟩).map BotReply.serialize := by
    rw [Chatter.onWSMsg, hparse]
  rw [Chatter.replyEvent, BotInput.ofPayload, hread, Option.bind_map]
  rfl

/-- A bot accepts every invitation. -/
theorem replyEvent_groupInvite (hsender : ':' ∉ sender) (hrecipient : ':' ∉ recipient) (env : Env)
    (ws : SocketId) :
    chatter.replyEvent env ws
        (.text (FDaraChatMsg.mk .groupInvite sender recipient message).serialize) =
      some (.text env ws (commandFrame .groupJoin chatter.myCharName sender message)) := by
  rw [replyEvent_serialize EChatCmdType.noConfusion hsender hrecipient, Chatter.chatReply,
    if_pos rfl]
  rfl

/-- And invites whoever asks for it. -/
theorem replyEvent_inviteMe (hsender : ':' ∉ sender) (hrecipient : ':' ∉ recipient)
    (hask : startsWith message "InviteMe".toList = true) (env : Env) (ws : SocketId) :
    chatter.replyEvent env ws (.text (FDaraChatMsg.mk .tell sender recipient message).serialize) =
      some (.text env ws (commandFrame .groupInvite chatter.myCharName sender [])) := by
  rw [replyEvent_serialize EChatCmdType.noConfusion hsender hrecipient, Chatter.chatReply,
    if_neg EChatCmdType.noConfusion, if_pos ⟨rfl, hask⟩]
  rfl

end Replies

section Step

variable {s : Server} {e : Event} {cmd : ChatCommand}

/-- A Tell goes to its recipient and changes nothing but that. -/
theorem step_tell (cfg : Config) (hcmd : s.chatCommand e = some cmd)
    (htype : cmd.chatMsg.type = .tell)
    (hplain : startsWith cmd.chatMsg.message "DEBUG".toList = false) :
    s.step cfg e = s.publish (tellTopic cmd.chatMsg.recipient) (.text cmd.chatMsg.serialize) := by
  have hnot : ¬ startsWith cmd.chatMsg.message "DEBUG".toList = true := by
    rw [hplain]
    exact Bool.false_ne_true
  rw [step_of_chatCommand cfg hcmd, handleChatMsg, htype]
  exact if_neg hnot

/-- **An invited bot joins**, where the invitation is eligible. -/
theorem accepted_of_invited (cfg : Config) (hs : s.Consistent) (hc : s.groupContainer.WellFormed)
    {bot : Chatter} {wsI wsM : SocketId} {sockI sockM : Socket} (hI : s.Session wsI sockI)
    (hM : s.Session wsM sockM) (hbot : bot.myCharName = sockM.data.name)
    (hne : sockI.data.name ≠ sockM.data.name) (hcolonI : ':' ∉ sockI.data.name)
    (hcolonM : ':' ∉ sockM.data.name)
    (h : s.groupContainer.Eligible sockI.data.name sockM.data.name) {envI envM : Env}
    (htime : envM.now ≤ envI.now + 180 * 1000000000) {claimed : Str} (hclaimed : ':' ∉ claimed)
    (text : Str)
    (hfresh : ∀ uuid n, s.founding (.text envI wsI
        (commandFrame .groupInvite claimed sockM.data.name text)) = some (getNewGroupId uuid, n) →
      s.groupContainer.FreshId uuid) :
    ∃ payload e', Tells cfg s (.text envI wsI
        (commandFrame .groupInvite claimed sockM.data.name text)) sockM.data.name payload ∧
      bot.replyEvent envM wsM payload = some e' ∧
      s.groupContainer.Accepted ((s.step cfg (.text envI wsI
        (commandFrame .groupInvite claimed sockM.data.name text))).step cfg e').groupContainer
        sockI.data.name sockM.data.name := by
  have hcmd := chatCommand_commandFrame hI .groupInvite EChatCmdType.noConfusion hclaimed hcolonM
    envI text
  obtain ⟨s₁, hstep, -, hbefore⟩ := step_invite cfg hs hc hcmd rfl hne hfresh h
  have hpublished : s₁.published = s.published := by
    rcases hbefore with ⟨rfl, -⟩ | ⟨rfl, -⟩ <;> rfl
  refine ⟨.text (FDaraChatMsg.mk .groupInvite sockI.data.name sockM.data.name text).serialize, _,
    ⟨s₁.groupContainer.myGroups, ?_⟩, replyEvent_groupInvite hcolonI hcolonM envM wsM, ?_⟩
  · rw [hstep, ← hpublished]
    rfl
  · have hclean : ':' ∉ bot.myCharName := by rwa [hbot]
    exact accepted_of_eligible cfg hs hc hI hM hne hcolonI hcolonM hclaimed hclean h htime text text
      hfresh

end Step

/-- A Tell that asks for an invitation. -/
def askingFrame (claimed inviter text : Str) : Str :=
  commandFrame .tell claimed inviter ("InviteMe".toList ++ text)

end Server

end DaraChat
