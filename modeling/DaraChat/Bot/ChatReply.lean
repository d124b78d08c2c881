import DaraChat.Chat.ChatLibrary
import DaraChat.Chat.RawMessage
import DaraChat.Lib.Exchange

set_option autoImplicit false

/-! # The replies of a bot (`uDaraChatBot.cpp`)

`chatReply` is `Client::ChatReply`: what a bot sends by itself when it is sent a message. A Tell is
answered by a Tell unless it starts with `InviteMe` or `Pong`, and of the answers only `Pong`
starts so. Two bots that have once greeted each other therefore do not stop
(`repliesDieOut_iff`).
-/

namespace DaraChat

/-- What a bot knows of itself (`chatter`). -/
structure Chatter where
  myCharName : Str
  myZoneName : Str

/-- What a bot sends: a text frame, a binary frame, or a pong. -/
inductive BotFrame
  | text (frame : Str)
  | binary (payload : List UInt8)
  | pong (payload : List UInt8)

/-- What a bot receives. -/
inductive BotInput
  | text (frame : Str)
  | ping (payload : List UInt8)
  | other

/-- A message a bot composes, before it is serialized. -/
inductive BotReply
  | chat (msg : FDaraChatMsg)
  | state (msg : FDaraRawChatMsg)

def BotReply.serialize : BotReply → BotFrame
  | .chat msg => .text msg.serialize
  | .state msg => .binary msg.serialize

namespace Chatter

variable (chatter : Chatter)

/-- A reply to the sender of `chatMsg`. -/
def replyTo (chatMsg : FDaraChatMsg) (type : EChatCmdType) (message : Str) : BotReply :=
  .chat { type := type, sender := chatter.myCharName, recipient := chatMsg.sender, message := message }

/-- The state a bot reports: at 100, 200, 0 with 90 of 100 health, 50 of 75 mana and 30 of 50
energy. -/
def aliveState : FDaraRawChatMsg :=
  { location := ⟨0x42C80000, 0x43480000, 0⟩
    health := 0x42B40000
    maxHealth := 0x42C80000
    mana := 0x42480000
    maxMana := 0x42960000
    energy := 0x41F00000
    maxEnergy := 0x42480000
    zone := chatter.myZoneName
    charName := chatter.myCharName }

/-- `Client::ChatReply`. -/
def chatReply (chatMsg : FDaraChatMsg) : Option BotReply :=
  if chatMsg.type = .groupInvite then some (chatter.replyTo chatMsg .groupJoin chatMsg.message)
  else if chatMsg.type = .tell ∧ startsWith chatMsg.message "InviteMe".toList then
    some (chatter.replyTo chatMsg .groupInvite [])
  else if chatMsg.type = .tell ∧ startsWith chatMsg.message "Ping".toList then
    some (chatter.replyTo chatMsg .tell "Pong".toList)
  else if chatMsg.type = .tell ∧ startsWith chatMsg.message "Hello".toList then
    some (chatter.replyTo chatMsg .tell "Hi my friend! Good to hear from you!".toList)
  else if chatMsg.type = .tell ∧ ¬ startsWith chatMsg.message "Pong".toList then
    some (chatter.replyTo chatMsg .tell "Hello my friend! Good to hear from you!".toList)
  else if chatMsg.type = .groupInfo then some (.state chatter.aliveState)
  else none

/-- `Client::onWSMsg`. -/
def onWSMsg : BotInput → Option BotFrame
  | .ping payload => some (.pong payload)
  | .other => none
  | .text frame =>
      match tryParseMessage frame with
      | (true, chatMsg, _) => (chatter.chatReply chatMsg).map BotReply.serialize
      | (false, _, _) => none

/-- The Tell a bot replies with, if it does. -/
def tellReply (chatMsg : FDaraChatMsg) : Option FDaraChatMsg :=
  match chatter.chatReply chatMsg with
  | some (.chat reply) => if reply.type = .tell then some reply else none
  | _ => none

end Chatter

/-- The exchange of automatic Tells ends: `a` is sent the message, and each reply that is a Tell is
delivered to the other of the two. -/
def RepliesDieOut (a b : Chatter) (chatMsg : FDaraChatMsg) : Prop :=
  Exchange.Ends a.tellReply b.tellReply chatMsg

/-! ## The cycle -/

section Replies

variable (chatter : Chatter) {chatMsg : FDaraChatMsg}

/-- A text that is neither a request for an invitation nor a move of ping-pong. -/
structure IsGreeting (text : Str) : Prop where
  invite : startsWith text "InviteMe".toList = false
  ping : startsWith text "Ping".toList = false
  pong : startsWith text "Pong".toList = false

theorem isGreeting_hi : IsGreeting "Hi my friend! Good to hear from you!".toList :=
  ⟨by decide, by decide, by decide⟩

theorem isGreeting_hello : IsGreeting "Hello my friend! Good to hear from you!".toList :=
  ⟨by decide, by decide, by decide⟩

/-- A test of `ChatReply` for a prefix that the text does not have. -/
theorem not_test {c : Prop} {text start : Str} (h : startsWith text start = false) :
    ¬ (c ∧ startsWith text start = true) := by
  rintro ⟨-, htrue⟩
  rw [h] at htrue
  cases htrue

theorem not_groupInvite (htype : chatMsg.type = .tell) : chatMsg.type ≠ .groupInvite := by
  rw [htype]
  exact EChatCmdType.noConfusion

/-- A greeting is answered with one of two texts. -/
theorem chatReply_of_greeting (htype : chatMsg.type = .tell) (h : IsGreeting chatMsg.message) :
    ∃ text, chatter.chatReply chatMsg = some (chatter.replyTo chatMsg .tell text) ∧
      IsGreeting text := by
  unfold Chatter.chatReply
  rw [if_neg (not_groupInvite htype), if_neg (not_test h.invite), if_neg (not_test h.ping)]
  by_cases hhello : startsWith chatMsg.message "Hello".toList = true
  · rw [if_pos ⟨htype, hhello⟩]
    exact ⟨_, rfl, isGreeting_hi⟩
  · rw [if_neg fun h => hhello h.2, if_pos ⟨htype, Bool.not_eq_true _ ▸ h.pong⟩]
    exact ⟨_, rfl, isGreeting_hello⟩

/-- **A greeting is answered by a greeting.** -/
theorem tellReply_of_greeting (h : chatMsg.type = .tell ∧ IsGreeting chatMsg.message) :
    ∃ reply, chatter.tellReply chatMsg = some reply ∧
      reply.type = .tell ∧ IsGreeting reply.message := by
  obtain ⟨text, hreply, htext⟩ := chatReply_of_greeting chatter h.1 h.2
  refine ⟨⟨.tell, chatter.myCharName, chatMsg.sender, text⟩, ?_, rfl, htext⟩
  rw [Chatter.tellReply, hreply]
  rfl

/-- A request for an invitation is answered by the invitation, which is no Tell. -/
theorem tellReply_of_inviteMe (htype : chatMsg.type = .tell)
    (h : startsWith chatMsg.message "InviteMe".toList = true) : chatter.tellReply chatMsg = none := by
  rw [Chatter.tellReply, Chatter.chatReply, if_neg (not_groupInvite htype), if_pos ⟨htype, h⟩]
  rfl

theorem tellReply_of_ping (htype : chatMsg.type = .tell)
    (h : startsWith chatMsg.message "Ping".toList = true) :
    chatter.tellReply chatMsg =
      some ⟨.tell, chatter.myCharName, chatMsg.sender, "Pong".toList⟩ := by
  have hinvite : startsWith chatMsg.message "InviteMe".toList = false :=
    startsWith_excl h (by decide) (by decide)
  rw [Chatter.tellReply, Chatter.chatReply, if_neg (not_groupInvite htype),
    if_neg (not_test hinvite), if_pos ⟨htype, h⟩]
  rfl

theorem tellReply_of_pong (htype : chatMsg.type = .tell)
    (h : startsWith chatMsg.message "Pong".toList = true) : chatter.tellReply chatMsg = none := by
  have hinfo : chatMsg.type ≠ .groupInfo := by
    rw [htype]
    exact EChatCmdType.noConfusion
  have hinvite : startsWith chatMsg.message "InviteMe".toList = false :=
    startsWith_excl h (by decide) (by decide)
  have hping : startsWith chatMsg.message "Ping".toList = false :=
    startsWith_excl h (by decide) (by decide)
  have hhello : startsWith chatMsg.message "Hello".toList = false :=
    startsWith_excl h (by decide) (by decide)
  rw [Chatter.tellReply, Chatter.chatReply, if_neg (not_groupInvite htype),
    if_neg (not_test hinvite), if_neg (not_test hping), if_neg (not_test hhello),
    if_neg fun hlast => hlast.2 h, if_neg hinfo]

end Replies

/-- **The replies to a Tell die out exactly when it asks for an invitation or plays ping-pong**;
after any other the two bots greet each other for ever. -/
theorem repliesDieOut_iff (a b : Chatter) (sender recipient text : Str) :
    RepliesDieOut a b ⟨.tell, sender, recipient, text⟩ ↔
      startsWith text "InviteMe".toList = true ∨ startsWith text "Ping".toList = true ∨
        startsWith text "Pong".toList = true := by
  constructor
  · intro hends
    by_contra hother
    rw [not_or, not_or, Bool.not_eq_true, Bool.not_eq_true, Bool.not_eq_true] at hother
    obtain ⟨hinvite, hping, hpong⟩ := hother
    exact Exchange.not_ends_of_closed (P := fun msg => msg.type = .tell ∧ IsGreeting msg.message)
      (fun _ => tellReply_of_greeting a) (fun _ => tellReply_of_greeting b)
      ⟨rfl, hinvite, hping, hpong⟩ hends
  · rintro (hinvite | hping | hpong)
    · exact Exchange.ends_of_silent (tellReply_of_inviteMe a rfl hinvite)
    · -- the answer is `Pong`, and that is the end
      have hpong : startsWith "Pong".toList "Pong".toList = true := by decide
      exact (Exchange.ends_iff_of_answer (tellReply_of_ping a rfl hping)).mpr
        (Exchange.ends_of_silent (tellReply_of_pong b rfl hpong))
    · exact Exchange.ends_of_silent (tellReply_of_pong a rfl hpong)

/-- After `Hello` the exchange does not end. -/
theorem not_repliesDieOut_hello :
    ¬ RepliesDieOut ⟨"Tirio".toList, "Dungeon".toList⟩ ⟨"Trula".toList, "Dungeon".toList⟩
      ⟨.tell, "Trula".toList, "Tirio".toList, "Hello".toList⟩ := by
  intro hends
  exact Exchange.not_ends_of_closed (P := fun msg => msg.type = .tell ∧ IsGreeting msg.message)
    (fun _ => tellReply_of_greeting _) (fun _ => tellReply_of_greeting _)
    ⟨rfl, by decide, by decide, by decide⟩ hends

/-! ## Through frames -/

/-- A reply names the bot and goes back to the sender. -/
theorem eq_of_chatReply {chatter : Chatter} {chatMsg reply : FDaraChatMsg}
    (h : chatter.chatReply chatMsg = some (.chat reply)) :
    ∃ type text, reply = ⟨type, chatter.myCharName, chatMsg.sender, text⟩ := by
  unfold Chatter.chatReply at h
  split_ifs at h
  all_goals first
    | exact ⟨_, _, (BotReply.chat.inj (Option.some.inj h)).symm⟩
    | cases h

/-- Between bots whose names have no colon, a Tell that is delivered as a frame is handled as the
message it was. -/
theorem onWSMsg_of_tellReply {a : Chatter} (b : Chatter) {chatMsg reply : FDaraChatMsg}
    (h : a.tellReply chatMsg = some reply) (hname : ':' ∉ a.myCharName)
    (hsender : ':' ∉ chatMsg.sender) :
    b.onWSMsg (.text reply.serialize) = (b.chatReply reply).map BotReply.serialize := by
  have hreply : a.chatReply chatMsg = some (.chat reply) ∧ reply.type = .tell := by
    unfold Chatter.tellReply at h
    split at h
    · rename_i reply' hreply
      split at h
      · rename_i htype
        obtain rfl := Option.some.inj h
        exact ⟨hreply, htype⟩
      · cases h
    · cases h
  obtain ⟨type, text, rfl⟩ := eq_of_chatReply hreply.1
  have htype : type ≠ .none := fun h => EChatCmdType.noConfusion (h.symm.trans hreply.2)
  have hparse : tryParseMessage (FDaraChatMsg.mk type a.myCharName chatMsg.sender text).serialize =
      (true, FDaraChatMsg.mk type a.myCharName chatMsg.sender text, []) :=
    tryParseMessage_serialize htype hname hsender
  rw [Chatter.onWSMsg, hparse]

end DaraChat
