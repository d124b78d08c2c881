import DaraChat.Server.Publishing

set_option autoImplicit false

/-! # Who receives a private message

A `Tell` and a `GroupInvite` are published on the tell topic of the recipient that is read in
them, and a session is subscribed to no tell topic but its own. The topic has the name in small
letters, while logins, the session registry and the groups tell names apart by every letter. So a
private message reaches the characters whose names are its recipient up to capital letters, and
nobody else (`reachesOnly_run`). That leaves three ways to overhear one
(`not_reachesOnly_overheard`): by a name that differs in capital letters only, on a public channel
called `Tell` that a legacy `publish:` frame names, and when a colon in the sender's name moves the
recipient.
-/

namespace DaraChat

open GroupContainer

/-- A tell topic stands for its name in small letters. -/
theorem tellTopic_inj {n n' : Str} (h : tellTopic n = tellTopic n') : toLower n = toLower n' :=
  List.append_cancel_left h

theorem tellTopic_ne_worldTopic (n : Str) : tellTopic n ≠ worldTopic := by
  intro h
  have hstart := congrArg (fun topic => startsWith topic "tell_".toList) h
  simp [tellTopic, worldTopic, startsWith, List.isPrefixOf] at hstart

theorem tellTopic_ne_zoneTopic (n zone : Str) : tellTopic n ≠ zoneTopic zone := by
  intro h
  have hstart := congrArg (fun topic => startsWith topic "tell_".toList) h
  simp [tellTopic, zoneTopic, startsWith, List.isPrefixOf] at hstart

namespace Server

/-- The `Tell` or `GroupInvite` that a publication is read as. -/
def privateMessage (pub : Publication) : Option FDaraChatMsg :=
  match pub.payload with
  | .text text =>
      if (tryParseMessage text).1 = true ∧ IsPrivateType (tryParseMessage text).2.1.type then
        some (tryParseMessage text).2.1
      else none
  | .binary _ => none

/-- The private message in a publication is for the session of `wsA`, and the session of `wsB`,
whose name differs from it in the sense of `differ`, is subscribed to the topic. -/
def Overheard (differ : Str → Str → Prop) (s : Server) (pub : Publication)
    (wsA wsB : SocketId) : Prop :=
  ∃ sockA ∈ s.sockets wsA, ∃ sockB ∈ s.sockets wsB,
    (sockA.phase = .live ∧ sockA.data.connected = true) ∧
    (sockB.phase = .live ∧ sockB.data.connected = true) ∧
    differ sockA.data.name sockB.data.name ∧
    (∃ msg ∈ privateMessage pub, msg.recipient = sockA.data.name) ∧
    pub.topic ∈ sockB.subscriptions

instance (s : Server) (pub : Publication) (wsA wsB : SocketId) :
    Decidable (Overheard (· ≠ ·) s pub wsA wsB) :=
  inferInstanceAs (Decidable (∃ sockA ∈ _, ∃ sockB ∈ _, _ ∧ _ ∧ _ ∧ (∃ msg ∈ _, _) ∧ _))

/-- No private message of the run that is `considered` is overheard. Sessions and subscriptions are
those before the event that publishes it, or after. -/
def ReachesOnly (considered : Server → Event → Publication → Prop) (differ : Str → Str → Prop)
    (cfg : Config) (evs : List Event) : Prop :=
  ∀ pre e post, evs = pre ++ e :: post →
    ∀ pub ∈ ((machine cfg).run pre).publications cfg e, considered ((machine cfg).run pre) e pub →
      ∀ s, (s = (machine cfg).run pre ∨ s = (machine cfg).run (pre ++ [e])) →
        ∀ wsA wsB, ¬ Overheard differ s pub wsA wsB

/-- The name of the session that publishes has no colon, and the topic is no channel that is called
like a private message. -/
def NamedPlainly (s : Server) (e : Event) (pub : Publication) : Prop :=
  (∀ cmd ∈ s.chatCommand e, ':' ∉ cmd.sock.data.name) ∧
    pub.topic ≠ "Tell".toList ∧ pub.topic ≠ "GroupInvite".toList

section Step

variable {s : Server} {e : Event}

/-- A command is read with a recipient without colon. -/
theorem colon_notMem_recipient {cmd : ChatCommand} (h : s.chatCommand e = some cmd) :
    ':' ∉ cmd.chatMsg.recipient := by
  obtain ⟨msg, -, -, hparse, hmsg⟩ := text_of_chatCommand h
  obtain ⟨_, _, _, _, -, -, -, hrecipient, -, hread⟩ := eq_of_tryParseMessage hparse
  rw [hmsg, hread]
  exact hrecipient

/-- Private messages are written without colons in sender and recipient. -/
def tellGuard : Guard where
  tells := fun chatMsg => ':' ∉ chatMsg.sender ∧ ':' ∉ chatMsg.recipient

theorem tellGuard_allows (cfg : Config)
    (hname : ∀ cmd ∈ s.chatCommand e, ':' ∉ cmd.sock.data.name) : tellGuard.Allows cfg s e := by
  refine { allows_any cfg s e with tells := fun cmd hcmd _ => ⟨?_, colon_notMem_recipient hcmd⟩ }
  rw [(chatCommand_eq_some hcmd).2.1]
  exact hname cmd hcmd

theorem privateMessage_text {topic text : Str} {groups : List GroupMember} {msg : FDaraChatMsg}
    (h : msg ∈ privateMessage ⟨topic, .text text, groups⟩) :
    (tryParseMessage text).1 = true ∧ IsPrivateType msg.type ∧ msg = (tryParseMessage text).2.1 := by
  simp only [privateMessage, Option.mem_def, Option.ite_none_right_eq_some, Option.some.injEq] at h
  obtain ⟨⟨hparse, hprivate⟩, rfl⟩ := h
  exact ⟨hparse, hprivate, rfl⟩

/-- Only two channels are called like a private message. -/
theorem eq_of_isPrivateType {topic : Str} (h : IsPrivateType (chatCmdTypeFromString topic)) :
    topic = "Tell".toList ∨ topic = "GroupInvite".toList := by
  rw [eq_toString_of_fromString h.ne_none]
  exact h.imp (congrArg chatCmdTypeToString) (congrArg chatCmdTypeToString)

/-- **A private message is published on the tell topic of its recipient.** -/
theorem topic_of_privateMessage {pub : Publication} {msg : FDaraChatMsg}
    (h : Published tellGuard pub) (htell : pub.topic ≠ "Tell".toList)
    (hinvite : pub.topic ≠ "GroupInvite".toList) (hmsg : msg ∈ privateMessage pub) :
    pub.topic = tellTopic msg.recipient := by
  cases h with
  | relayed chatMsg topic groups htype hsends htells =>
      obtain ⟨hparse, hprivate, rfl⟩ := privateMessage_text hmsg
      have hread := (tryParseMessage_type (colon_notMem_toString chatMsg.type)
        (serialize_eq chatMsg ▸ hparse)).2
      rw [← serialize_eq, chatCmdTypeFromString_toString] at hread
      rw [hread] at hprivate
      obtain ⟨⟨hsender, hrecipient⟩, htopic⟩ := htells hprivate
      rw [tryParseMessage_serialize hprivate.ne_none hsender hrecipient]
      exact htopic
  -- the text begins with the name of the channel, which is no name of a private message
  | forwarded topic rest groups hcolon =>
      obtain ⟨hparse, hprivate, rfl⟩ := privateMessage_text hmsg
      rw [(tryParseMessage_type hcolon hparse).2] at hprivate
      exact ((eq_of_isPrivateType hprivate).elim htell hinvite).elim
  | broadcast topic data groups => cases hmsg
  | roster g groups hg =>
      obtain ⟨-, hprivate, rfl⟩ := privateMessage_text hmsg
      rw [tryParseMessage_groupUpdateMsg] at hprivate
      rcases hprivate with htype | htype <;> cases htype

end Step

/-- A session is subscribed to the tell topics of its own name only. -/
theorem tellTopic_subscribed (cfg : Config) (evs : List Event) {ws : SocketId} {sock : Socket}
    (hs : ((machine cfg).run evs).Session ws sock) {n : Str}
    (hsubscribed : tellTopic n ∈ sock.subscriptions) : toLower n = toLower sock.data.name := by
  rcases reservedConfined_run cfg evs ws sock hs _ hsubscribed (isReservedTopic_tellTopic n) with
    hworld | hzone | htell | ⟨m, hm, -, hgroup⟩
  · exact absurd hworld (tellTopic_ne_worldTopic n)
  · exact absurd hzone (tellTopic_ne_zoneTopic n _)
  · exact tellTopic_inj htell
  · have hprefixed : isGroupTopic m.groupId = true :=
      (consistent_run cfg evs).presence.sound.prefixed m hm
    rw [← hgroup, isGroupTopic_tellTopic] at hprefixed
    cases hprefixed

/-- **Private messages reach only the character they name**, among characters whose names differ
in small letters too. -/
theorem reachesOnly_run (cfg : Config) (evs : List Event) :
    ReachesOnly NamedPlainly (fun a b => toLower a ≠ toLower b) cfg evs := by
  rintro pre e post - pub hpub ⟨hname, htell, hinvite⟩ s hs wsA wsB
    ⟨sockA, -, sockB, hfoundB, -, ⟨hliveB, hconnB⟩, hdiffer, ⟨msg, hmsg, hrecipient⟩, hsubscribed⟩
  obtain ⟨news, hnews, hall⟩ :=
    published_step cfg (consistent_run cfg pre) (tellGuard_allows cfg hname)
  rw [publications_of_append cfg hnews] at hpub
  rw [topic_of_privateMessage (hall pub hpub) htell hinvite hmsg, hrecipient] at hsubscribed
  apply hdiffer
  rcases hs with rfl | rfl
  · exact tellTopic_subscribed cfg pre ⟨hfoundB, hliveB, hconnB⟩ hsubscribed
  · exact tellTopic_subscribed cfg (pre ++ [e]) ⟨hfoundB, hliveB, hconnB⟩ hsubscribed

/-! ## Private messages that are overheard -/

/-- A character who is Trula but for the capital letter. -/
def namesake : SampleToken :=
  ⟨"trula".toList, samplePayload ++ "0cnVsYSJ9".toList,
    "u7ExQZOixqwt0Zbyn9V15e3F5sac9Qpet0KYWFpGH8I".toList⟩

/-- A character whose name is read as a sender and a recipient. -/
def coupleName : SampleToken :=
  ⟨"Trula:Tirio".toList, samplePayload ++ "UcnVsYTpUaXJpbyJ9".toList,
    "zIJxCrXCeH2vYJNG7CTxlkod7WELHnv3ho-Rfq55YIw".toList⟩

/-- The JWT library on their tokens and those of the others. -/
def namesakeJwt : JwtLib where
  decode pass :=
    match [namesake, coupleName].find? fun token => token.text = pass with
    | some token =>
        (sampleJwt.decode trula.text).map fun decoded =>
          { decoded with
            payload := decoded.payload.map fun (key, claim) =>
              (key, if key = "characterName".toList then .string token.name else claim)
            payloadBase64 := token.payload
            signature := token.signature }
    | none => sampleJwt.decode pass
  hs256Verify secret data signature :=
    sampleJwt.hs256Verify secret data signature ||
      (decide (secret = "k".toList) && [namesake, coupleName].any fun token =>
        decide (data = sampleHeader ++ ".".toList ++ token.payload ∧ signature = token.signature))

def namesakeConfig : Config := { sampleConfig with jwt := namesakeJwt }

/-- Tirio, Trula and her namesake log in. -/
def namesakeEvents : List Event :=
  loginEvents 1 tirio ++ loginEvents 2 trula ++ loginEvents 3 namesake

/-- Tirio writes to Trula. -/
def tellTrula : Event := .text (sampleEnv 1001 "") 1 "Tell:Tirio:Trula:secret".toList

/-- Tirio, Trula and Ulf log in, and Ulf subscribes to a channel called `Tell`. -/
def tellChannelEvents : List Event :=
  loginEvents 1 tirio ++ loginEvents 2 trula ++ loginEvents 3 ulf ++
    [.text (sampleEnv 1001 "") 3 "subscribe:Tell".toList]

/-- Tirio writes to Trula by way of the channel. -/
def publishTrula : Event := .text (sampleEnv 1002 "") 1 "publish:Tell:Tirio:Trula:secret".toList

/-- Tirio, a character with a colon in his name, and Ulf log in. -/
def coupleEvents : List Event :=
  loginEvents 1 tirio ++ loginEvents 2 coupleName ++ loginEvents 3 ulf

/-- The character with the colon writes to Ulf; the frame reads `Tell:Trula:Tirio:Ulf:hi`. -/
def tellUlf : Event := .text (sampleEnv 1001 "") 2 "Tell:x:Ulf:hi".toList

/-- One publication that is overheard is enough. -/
theorem not_reachesOnly {cfg : Config} {pre : List Event} {e : Event} (wsA wsB : SocketId)
    (h : ∃ pub ∈ ((machine cfg).run pre).publications cfg e,
      Overheard (· ≠ ·) ((machine cfg).run pre) pub wsA wsB) :
    ¬ ReachesOnly (fun _ _ _ => True) (· ≠ ·) cfg (pre ++ [e]) := by
  obtain ⟨pub, hpub, hoverheard⟩ := h
  intro hreaches
  exact hreaches pre e [] rfl pub hpub trivial _ (.inl rfl) wsA wsB hoverheard

/-- **A namesake, the listeners of a channel called `Tell`, and whoever a character with a colon in
her name writes to receive private messages to somebody else.** -/
theorem not_reachesOnly_overheard :
    ¬ ReachesOnly (fun _ _ _ => True) (· ≠ ·) namesakeConfig (namesakeEvents ++ [tellTrula]) ∧
      ¬ ReachesOnly (fun _ _ _ => True) (· ≠ ·) sampleConfig
          (tellChannelEvents ++ [publishTrula]) ∧
      ¬ ReachesOnly (fun _ _ _ => True) (· ≠ ·) namesakeConfig (coupleEvents ++ [tellUlf]) := by
  refine ⟨not_reachesOnly 2 3 ?_, not_reachesOnly 2 3 ?_, not_reachesOnly 1 3 ?_⟩
  · decide +kernel
  · decide +kernel
  · decide +kernel

end Server

end DaraChat
