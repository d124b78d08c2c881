import DaraChat.Bot.ChatReply
import DaraChat.Server.BinaryUpdates
import DaraChat.Server.Invitations
import DaraChat.Server.Publishing

set_option autoImplicit false

/-! # Automatic replies die out

A bot replies by itself, and what it replies makes the server publish something that other bots may
reply to. Greetings go on for ever. Without them every chain ends after two replies, whatever happens
in between and whoever reads along: a request for an invitation brings out an invitation, and that
a roster (`cascade_le`). Bots reply to a roster with their state, but they write it without the two
strings that the server requires, so it goes nowhere (`step_state`). Each reply brings out frames of a
smaller `rank`.
-/

namespace DaraChat

open GroupContainer

deriving instance DecidableEq for BotFrame

/-! ## Bots at the server -/

/-- What a bot is sent when a payload is delivered to it. -/
def BotInput.ofPayload : Payload → BotInput
  | .text frame => .text frame
  | .binary _ => .other

/-- What a bot at the socket makes the server handle. A pong is not handed to its message
handler. -/
def BotFrame.event (env : Env) (ws : SocketId) : BotFrame → Option Event
  | .text frame => some (.text env ws frame)
  | .binary payload => some (.binary env ws payload)
  | .pong _ => none

/-- What a bot at the socket makes the server handle when the payload is delivered to it. -/
def Chatter.replyEvent (chatter : Chatter) (env : Env) (ws : SocketId) (payload : Payload) :
    Option Event :=
  (chatter.onWSMsg (.ofPayload payload)).bind (BotFrame.event env ws)

namespace Server

/-- The event is the reply to the payload of a bot that is logged in under its own name. -/
def Replies (s : Server) (e : Event) (payload : Payload) : Prop :=
  ∃ (chatter : Chatter) (env : Env) (ws : SocketId) (sock : Socket),
    s.Session ws sock ∧ sock.data.name = chatter.myCharName ∧ ':' ∉ chatter.myCharName ∧
      chatter.replyEvent env ws payload = some e

/-- The payloads that an event publishes. -/
def news (cfg : Config) (s : Server) (e : Event) : List Payload :=
  (s.publications cfg e).map Publication.payload

/-- The payload is a Tell that bots take for a greeting. -/
def IsGreetingTell (payload : Payload) : Prop :=
  ∃ frame, payload = .text frame ∧ (tryParseMessage frame).1 = true ∧
    (tryParseMessage frame).2.1.type = .tell ∧ IsGreeting (tryParseMessage frame).2.1.message

/-- A bot replies to `payload`, which is no greeting, and so the server publishes `payload'`. -/
def Causes (cfg : Config) (s : Server) (e : Event) (payload payload' : Payload) : Prop :=
  ¬ IsGreetingTell payload ∧ s.Replies e payload ∧ payload' ∈ s.news cfg e

/-- The number of replies that may follow a message and bring out something. -/
def msgRank (chatMsg : FDaraChatMsg) : Nat :=
  match chatMsg.type with
  | .tell =>
      if startsWith chatMsg.message "InviteMe".toList then 2
      else if startsWith chatMsg.message "Ping".toList then 1
      else 0
  | .groupInvite => 1
  | _ => 0

/-- The number of replies that may follow a payload. -/
def rank : Payload → Nat
  | .text frame =>
      match tryParseMessage frame with
      | (true, chatMsg, _) => msgRank chatMsg
      | (false, _, _) => 0
  | .binary _ => 0

theorem msgRank_le (chatMsg : FDaraChatMsg) : msgRank chatMsg ≤ 2 := by
  unfold msgRank
  split
  · split_ifs <;> simp
  all_goals simp

theorem rank_le (payload : Payload) : rank payload ≤ 2 := by
  cases payload with
  | binary data => exact Nat.zero_le 2
  | text frame =>
      rw [rank]
      split
      · exact msgRank_le _
      · exact Nat.zero_le 2

theorem rank_text {frame : Str} (h : (tryParseMessage frame).1 = true) :
    rank (.text frame) = msgRank (tryParseMessage frame).2.1 := by
  revert h
  rw [rank]
  cases tryParseMessage frame with
  | mk flag rest =>
      rintro rfl
      rfl

theorem msgRank_of_inviteMe {chatMsg : FDaraChatMsg} (htype : chatMsg.type = .tell)
    (h : startsWith chatMsg.message "InviteMe".toList = true) : msgRank chatMsg = 2 := by
  rw [msgRank, htype]
  exact if_pos h

theorem msgRank_of_ping {chatMsg : FDaraChatMsg} (htype : chatMsg.type = .tell)
    (h : startsWith chatMsg.message "Ping".toList = true) : msgRank chatMsg = 1 := by
  have hnot : startsWith chatMsg.message "InviteMe".toList = false :=
    startsWith_excl h (by decide) (by decide)
  rw [msgRank, htype]
  exact (if_neg (by rw [hnot]; exact Bool.false_ne_true)).trans (if_pos h)

/-! ## What a reply brings out -/

/-- **What a bot replies to**, greetings apart. -/
theorem chatReply_cases {chatter : Chatter} {chatMsg : FDaraChatMsg} {reply : BotReply}
    (hno : ¬ (chatMsg.type = .tell ∧ IsGreeting chatMsg.message))
    (h : chatter.chatReply chatMsg = some reply) :
    chatMsg.type = .groupInvite ∧ reply = chatter.replyTo chatMsg .groupJoin chatMsg.message ∨
      msgRank chatMsg = 2 ∧ reply = chatter.replyTo chatMsg .groupInvite [] ∨
      msgRank chatMsg = 1 ∧ reply = chatter.replyTo chatMsg .tell "Pong".toList ∨
      chatMsg.type = .groupInfo ∧ reply = .state chatter.aliveState := by
  unfold Chatter.chatReply at h
  split_ifs at h with hinvite hask hping hhello hpong hinfo
  · exact .inl ⟨hinvite, (Option.some.inj h).symm⟩
  · exact .inr (.inl ⟨msgRank_of_inviteMe hask.1 hask.2, (Option.some.inj h).symm⟩)
  · exact .inr (.inr (.inl ⟨msgRank_of_ping hping.1 hping.2, (Option.some.inj h).symm⟩))
  -- the last two replies to a Tell are for greetings
  · refine absurd ⟨hhello.1, ?_⟩ hno
    exact ⟨startsWith_excl hhello.2 (by decide) (by decide),
      startsWith_excl hhello.2 (by decide) (by decide),
      startsWith_excl hhello.2 (by decide) (by decide)⟩
  · refine absurd ⟨hpong.1, ?_⟩ hno
    exact ⟨Bool.eq_false_iff.mpr fun hask' => hask ⟨hpong.1, hask'⟩,
      Bool.eq_false_iff.mpr fun hping' => hping ⟨hpong.1, hping'⟩,
      Bool.eq_false_iff.mpr hpong.2⟩
  · exact .inr (.inr (.inr ⟨hinfo, (Option.some.inj h).symm⟩))

section News

variable {s : Server} {e : Event} {cmd : ChatCommand} {payload : Payload}

theorem news_of_append (cfg : Config) {news : List Publication}
    (h : (s.step cfg e).published = s.published ++ news) :
    s.news cfg e = news.map Publication.payload := by
  rw [Server.news, publications_of_append cfg h]

theorem news_of_same (cfg : Config) (h : (s.step cfg e).published = s.published) :
    s.news cfg e = [] := by
  rw [news_of_append cfg (h.trans (List.append_nil _).symm), List.map_nil]

/-- An invitation brings out itself, if it is accepted. -/
theorem news_groupInvite (cfg : Config) (hcmd : s.chatCommand e = some cmd)
    (htype : cmd.chatMsg.type = .groupInvite) :
    s.news cfg e = [] ∨ s.news cfg e = [.text cmd.chatMsg.serialize] := by
  obtain ⟨-, hsender, -⟩ := chatCommand_eq_some hcmd
  have hstep := step_of_groupInvite cfg hcmd htype
  have hinvite : ∀ s₁ : Server, s₁.published = s.published →
      s.step cfg e = inviteToGroup cmd.env s₁ cmd.chatMsg →
      s.news cfg e = [] ∨ s.news cfg e = [.text cmd.chatMsg.serialize] := by
    intro s₁ hsame heq
    rcases inviteToGroup_cases cmd.env s₁ cmd.chatMsg with hrefused | ⟨-, hstored⟩
    · exact .inl (news_of_same cfg (by rw [heq, hrefused, hsame]))
    · have hframe : ({ cmd.chatMsg with type := .groupInvite } : FDaraChatMsg) = cmd.chatMsg := by
        rw [← htype]
      have hpublished : (s.step cfg e).published = s.published ++ [⟨tellTopic cmd.chatMsg.recipient,
          .text cmd.chatMsg.serialize, s₁.groupContainer.myGroups⟩] := by
        rw [heq, hstored, ← hsame, invite, hframe]
        rfl
      exact .inr (news_of_append cfg hpublished)
  rcases handleGroupInvite_cases cmd.env cmd.ws hsender with heq | ⟨-, -, heq⟩ | ⟨-, heq⟩
  · exact .inl (news_of_same cfg (by rw [hstep, heq]))
  · exact hinvite (s.foundGroup cmd.env cmd.ws cmd.sock) rfl (hstep.trans heq)
  · exact hinvite s rfl (hstep.trans heq)

/-- A join brings out a roster, if it joins. -/
theorem news_groupJoin (cfg : Config) (hs : s.Consistent) (hcmd : s.chatCommand e = some cmd)
    (htype : cmd.chatMsg.type = .groupJoin) (h : payload ∈ s.news cfg e) :
    ∃ (c : GroupContainer) (g : Str), payload = .text (groupUpdateMsg c g).serialize := by
  rcases groupJoin_cases cfg hs hcmd htype with ⟨-, heq⟩ | ⟨s₁, sock, hadm, -, heq⟩
  · rw [news_of_same cfg (by rw [heq]; rfl)] at h
    cases h
  · have hpublished : s₁.published = s.published := by
      rcases hadm.prepared with ⟨rfl, -⟩ | ⟨-, rfl, -⟩ <;> rfl
    have hnews := news_of_append cfg (s := s) (e := e) (by rw [heq, acceptInvite,
      sendGroupUpdateInfo, publish_published, ← hpublished]; rfl)
    rw [hnews] at h
    exact ⟨_, _, List.mem_singleton.mp h⟩

/-- **The state of a bot goes nowhere**: it is written without the two strings that end it. -/
theorem step_state (cfg : Config) (s : Server) (env : Env) (ws : SocketId) (msg : FDaraRawChatMsg) :
    s.step cfg (.binary env ws msg.serialize) = s := by
  have hshort : FDaraRawChatMsg.deserialize msg.serialize = none := by
    have hread := msg.deserialize_serialize_append []
    rw [List.append_nil, readString_of_short (by simp [FDaraRawChatMsg.length_serialize])] at hread
    exact hread
  simp only [step]
  split
  · rfl
  · split
    · rw [handleBinary, hshort]
      split <;> rfl
    · rfl

theorem news_state (cfg : Config) (env : Env) (ws : SocketId) (msg : FDaraRawChatMsg) :
    s.news cfg (.binary env ws msg.serialize) = [] :=
  news_of_same cfg (by rw [step_state])

/-- A Tell brings out itself. -/
theorem news_tell (cfg : Config) (hcmd : s.chatCommand e = some cmd)
    (htype : cmd.chatMsg.type = .tell) (h : payload ∈ s.news cfg e) :
    payload = .text cmd.chatMsg.serialize := by
  have hstep : s.step cfg e = handleTell cfg cmd.env s cmd.ws cmd.sock.data cmd.chatMsg := by
    rw [step_of_chatCommand cfg hcmd, handleChatMsg, htype]
    rfl
  unfold handleTell at hstep
  split_ifs at hstep
  · rw [news_of_same cfg (by rw [hstep]; rfl)] at h
    cases h
  · rw [news_of_same cfg (by rw [hstep])] at h
    cases h
  · have hnews := news_of_append cfg (s := s) (e := e) (by rw [hstep]; rfl)
    rw [hnews] at h
    exact List.mem_singleton.mp h

end News

/-- A text frame that is replied to is a message. -/
theorem onWSMsg_text {chatter : Chatter} {text : Str} {frame : BotFrame}
    (h : chatter.onWSMsg (.text text) = some frame) :
    (tryParseMessage text).1 = true ∧
      ∃ reply, chatter.chatReply (tryParseMessage text).2.1 = some reply ∧
        frame = reply.serialize := by
  rw [Chatter.onWSMsg] at h
  split at h
  · rename_i chatMsg _ hparse
    obtain ⟨reply, hreply, rfl⟩ := Option.map_eq_some_iff.mp h
    rw [hparse]
    exact ⟨rfl, reply, hreply, rfl⟩
  · cases h

/-! ## Ranks -/

theorem rank_roster (c : GroupContainer) (g : Str) :
    rank (.text (groupUpdateMsg c g).serialize) = 0 := by
  have hparse := tryParseMessage_groupUpdateMsg c g
  rw [rank_text (by rw [hparse]), hparse]
  rfl

theorem rank_groupInvite_le {chatMsg : FDaraChatMsg} (htype : chatMsg.type = .groupInvite)
    (hsender : ':' ∉ chatMsg.sender) : rank (.text chatMsg.serialize) ≤ 1 := by
  by_cases hparse : (tryParseMessage chatMsg.serialize).1 = true
  · have hread := (tryParseMessage_serialize_sender hsender hparse).1
    rw [rank_text hparse, msgRank, hread, htype]
  · have hzero : rank (.text chatMsg.serialize) = 0 := by
      rw [rank]
      split
      · rename_i heq
        rw [heq] at hparse
        exact absurd rfl hparse
      · rfl
    rw [hzero]
    exact Nat.zero_le 1

/-- `Pong` ends an exchange. -/
theorem rank_pong {sender recipient : Str} (hsender : ':' ∉ sender) (hrecipient : ':' ∉ recipient) :
    rank (.text (FDaraChatMsg.mk .tell sender recipient "Pong".toList).serialize) = 0 := by
  have hparse : tryParseMessage (FDaraChatMsg.mk .tell sender recipient "Pong".toList).serialize =
      (true, ⟨.tell, sender, recipient, "Pong".toList⟩, []) :=
    tryParseMessage_serialize EChatCmdType.noConfusion hsender hrecipient
  rw [rank_text (by rw [hparse]), hparse]
  rfl

/-- **A reply brings out payloads of a smaller rank only.** -/
theorem Causes.rank_lt {cfg : Config} {s : Server} {e : Event} {payload payload' : Payload}
    (hs : s.Consistent) (h : Causes cfg s e payload payload') : rank payload' < rank payload := by
  obtain ⟨hno, ⟨chatter, env, ws, sock, hsession, hname, hcolon, hevent⟩, hnews⟩ := h
  obtain ⟨frame, hreply, hevent⟩ := Option.bind_eq_some_iff.mp hevent
  cases payload with
  | binary data => cases hreply
  | text text =>
      obtain ⟨hparse, reply, hchat, rfl⟩ := onWSMsg_text hreply
      obtain ⟨_, sender, _, _, -, -, hsender, -, -, hread⟩ := eq_of_tryParseMessage hparse
      have hclean : ':' ∉ (tryParseMessage text).2.1.sender := by
        rw [hread]
        exact hsender
      rw [rank_text hparse]
      have hsent : ∀ type message, type ≠ .none →
          reply = chatter.replyTo (tryParseMessage text).2.1 type message →
          s.chatCommand e = some ⟨env, ws, sock, ⟨type, sock.data.name,
            (tryParseMessage text).2.1.sender, message⟩⟩ := by
        rintro type message htype rfl
        obtain rfl := Option.some.inj hevent
        exact chatCommand_commandFrame hsession type htype hcolon hclean env message
      rcases chatReply_cases (fun hgreeting => hno ⟨text, rfl, hparse, hgreeting⟩) hchat with
        ⟨hinvite, heq⟩ | ⟨hask, heq⟩ | ⟨hping, heq⟩ | ⟨hinfo, rfl⟩
      · -- an invitation is answered by a join, which brings out a roster
        obtain ⟨c, g, rfl⟩ := news_groupJoin cfg hs (hsent _ _ (by simp) heq) rfl hnews
        rw [rank_roster, msgRank, hinvite]
        exact Nat.one_pos
      · rcases news_groupInvite cfg (hsent _ _ (by simp) heq) rfl with hnone | hone
        · rw [hnone] at hnews
          cases hnews
        · rw [hone, List.mem_singleton] at hnews
          have hle : rank (.text (FDaraChatMsg.mk .groupInvite sock.data.name
              (tryParseMessage text).2.1.sender []).serialize) ≤ 1 :=
            rank_groupInvite_le rfl (by rwa [hname])
          rw [hask, hnews]
          exact Nat.lt_succ_of_le hle
      · have hpong := news_tell cfg (hsent _ _ (by simp) heq) rfl hnews
        rw [hping, hpong, rank_pong (by rwa [hname]) hclean]
        exact Nat.one_pos
      · obtain rfl := Option.some.inj hevent
        rw [news_state] at hnews
        cases hnews

/-- **Automatic replies die out**: in every run, with whatever happens in between and whoever reads
along, a chain of automatic replies in which no greeting is answered has two links at most. -/
theorem cascade_le (cfg : Config) {evs : List Event} {payload : Payload} {n : Nat}
    (h : Exchange.Cascade (machine cfg) (Causes cfg) evs payload n) : n ≤ 2 := by
  have hbound := h.add_rank_le (fun evs e a b hcauses => hcauses.rank_lt (consistent_run cfg evs))
    rank_le
  omega

/-! ## The longest chain -/

/-- Tirio and Trula log in, and Trula asks Tirio for an invitation. -/
def askingEvents : List Event :=
  loginEvents 1 tirio ++ loginEvents 2 trula ++
    [.text (sampleEnv 1001 "") 2 "Tell:Trula:Tirio:InviteMe".toList]

def botTirio : Chatter := ⟨"Tirio".toList, "Dungeon".toList⟩

def botTrula : Chatter := ⟨"Trula".toList, "Dungeon".toList⟩

/-- What the two bots then reply. -/
def askedEvent : Event := .text (sampleEnv 1002 "a") 1 "GroupInvite:Tirio:Trula:".toList

def acceptingEvent : Event := .text (sampleEnv 1003 "") 2 "GroupJoin:Trula:Tirio:".toList

theorem replies_of_frame {s : Server} {chatter : Chatter} {env : Env} {ws : SocketId}
    {payload : Payload} {frame : BotFrame} {e : Event}
    (hfound : (s.sockets ws).map (fun sock => (sock.phase, sock.data.connected, sock.data.name)) =
      some (.live, true, chatter.myCharName)) (hcolon : ':' ∉ chatter.myCharName)
    (hreply : chatter.onWSMsg (.ofPayload payload) = some frame)
    (hevent : frame.event env ws = some e) : s.Replies e payload := by
  have hreplied : chatter.replyEvent env ws payload = some e := by
    rw [Chatter.replyEvent, hreply]
    exact hevent
  obtain ⟨sock, hsock, heq⟩ := Option.map_eq_some_iff.mp hfound
  obtain ⟨hlive, hconnected, hname⟩ := by simpa only [Prod.mk.injEq] using heq
  exact ⟨chatter, env, ws, sock, ⟨hsock, hlive, hconnected⟩, hname, hcolon, hreplied⟩

/-- A payload of this rank is no greeting. -/
theorem not_isGreetingTell {payload : Payload} (h : rank payload ≠ 0) : ¬ IsGreetingTell payload := by
  rintro ⟨text, rfl, hparse, htype, hgreeting⟩
  rw [rank_text hparse, msgRank, htype] at h
  refine h ((if_neg ?_).trans (if_neg ?_))
  · rw [hgreeting.invite]
    exact Bool.false_ne_true
  · rw [hgreeting.ping]
    exact Bool.false_ne_true

/-- **The request, the invitation and the roster** are a chain of two replies. -/
theorem cascade_le_askingEvents :
    Exchange.Cascade (machine sampleConfig) (Causes sampleConfig)
        (askingEvents ++ [askedEvent] ++ [acceptingEvent])
        (.text "GroupInfo:GroupAdmin::group_a;Tirio;1;2;0;Tirio,1;Trula,1".toList) 2 ∧ 2 ≤ 2 := by
  have hinvited : ((((machine sampleConfig).run askingEvents).sockets 1).map
          (fun sock => (sock.phase, sock.data.connected, sock.data.name)) =
        some (.live, true, botTirio.myCharName) ∧
      botTirio.onWSMsg (.text "Tell:Trula:Tirio:InviteMe".toList) =
        some (.text "GroupInvite:Tirio:Trula:".toList)) ∧
      rank (.text "Tell:Trula:Tirio:InviteMe".toList) ≠ 0 ∧
      .text "GroupInvite:Tirio:Trula:".toList ∈
        ((machine sampleConfig).run askingEvents).news sampleConfig askedEvent := by
    decide +kernel
  have hjoined : ((((machine sampleConfig).run (askingEvents ++ [askedEvent])).sockets 2).map
          (fun sock => (sock.phase, sock.data.connected, sock.data.name)) =
        some (.live, true, botTrula.myCharName) ∧
      botTrula.onWSMsg (.text "GroupInvite:Tirio:Trula:".toList) =
        some (.text "GroupJoin:Trula:Tirio:".toList)) ∧
      rank (.text "GroupInvite:Tirio:Trula:".toList) ≠ 0 ∧
      .text "GroupInfo:GroupAdmin::group_a;Tirio;1;2;0;Tirio,1;Trula,1".toList ∈
        ((machine sampleConfig).run (askingEvents ++ [askedEvent])).news sampleConfig
          acceptingEvent := by
    decide +kernel
  have hasked : Exchange.Cascade (machine sampleConfig) (Causes sampleConfig)
      (askingEvents ++ [askedEvent]) (.text "GroupInvite:Tirio:Trula:".toList) 1 := by
    refine .answer (.start askingEvents (.text "Tell:Trula:Tirio:InviteMe".toList)) ?_
    exact ⟨not_isGreetingTell hinvited.2.1,
      replies_of_frame hinvited.1.1 (by decide) hinvited.1.2 rfl, hinvited.2.2⟩
  have hchain : Exchange.Cascade (machine sampleConfig) (Causes sampleConfig)
      (askingEvents ++ [askedEvent] ++ [acceptingEvent])
      (.text "GroupInfo:GroupAdmin::group_a;Tirio;1;2;0;Tirio,1;Trula,1".toList) 2 := by
    refine .answer hasked ?_
    exact ⟨not_isGreetingTell hjoined.2.1,
      replies_of_frame hjoined.1.1 (by decide) hjoined.1.2 rfl, hjoined.2.2⟩
  exact ⟨hchain, cascade_le sampleConfig hchain⟩

end Server

end DaraChat
