import DaraChat.Server.Publishing

set_option autoImplicit false

/-! # Senders are authentic

On World and on zone, tell and group topics a recipient that parses a frame sees the name of the
session that caused it, or a roster that the server has written from its groups. Everything else
that clients can put there is rejected by the parser. Names with a colon are excluded: such a
name would be cut at its colon.
-/

namespace DaraChat

open GroupContainer

namespace Server

/-- No authenticated name has a colon. -/
def NamesColonFree (s : Server) : Prop := ∀ n ∈ s.activeSessions.keys, ':' ∉ n

instance (s : Server) : Decidable s.NamesColonFree :=
  inferInstanceAs (Decidable (∀ n ∈ s.activeSessions.keys, _))

/-- The text is a roster of the group whose topic it is published on, as the group was then. -/
def IsRoster (pub : Publication) (text : Str) : Prop :=
  let chatMsg := (tryParseMessage text).2.1
  chatMsg.type = .groupInfo ∧ chatMsg.sender = "GroupAdmin".toList ∧
    chatMsg.message =
      (getGroupInfoByGroupId { myGroups := pub.groups } pub.topic).serializeToSend

/-- A text frame on a reserved topic is rejected, or has the name of the event's session as its
sender, or is a roster. -/
def Authentic (s : Server) (e : Event) (pub : Publication) : Prop :=
  ∀ text, pub.payload = .text text → isReservedTopic pub.topic = true →
    (tryParseMessage text).1 = false ∨
      (∃ sock, s.Session e.socketId sock ∧
        (tryParseMessage text).2.1.sender = sock.data.name) ∨
      IsRoster pub text

section Authentic

variable {s : Server} {e : Event}

theorem socketId_of_chatCommand {cmd : ChatCommand} (h : s.chatCommand e = some cmd) :
    cmd.ws = e.socketId := by
  obtain ⟨msg, rfl, -⟩ := text_of_chatCommand h
  rfl

/-- The names under which an event may send: without colon, and that of its session. -/
def senderGuard (s : Server) (e : Event) : Guard where
  sends := fun n => ':' ∉ n ∧ ∃ sock, s.Session e.socketId sock ∧ sock.data.name = n

theorem senderGuard_allows (cfg : Config) (hs : s.Consistent) (hnames : s.NamesColonFree) :
    (senderGuard s e).Allows cfg s e := by
  refine { allows_any cfg s e with sends := fun cmd hcmd => ?_ }
  have hsession := (chatCommand_eq_some hcmd).1
  constructor
  · apply hnames
    exact hs.registry.mem_keys hsession
  · rw [socketId_of_chatCommand hcmd] at hsession
    exact ⟨cmd.sock, hsession, rfl⟩

/-- Every kind of publication is authentic. -/
theorem authentic_of_published {pub : Publication} (h : Published (senderGuard s e) pub) :
    Authentic s e pub := by
  intro text hpayload hreserved
  cases h with
  | relayed chatMsg topic groups htype hsends =>
      obtain rfl := Payload.text.inj hpayload
      obtain ⟨hcolon, sock, hsession, hname⟩ := hsends
      by_cases hparse : (tryParseMessage chatMsg.serialize).1 = true
      · have hsender := (tryParseMessage_serialize_sender hcolon hparse).2
        exact Or.inr (Or.inl ⟨sock, hsession, hsender.trans hname.symm⟩)
      · exact Or.inl (by simpa using hparse)
  | forwarded topic rest groups hcolon =>
      obtain rfl := Payload.text.inj hpayload
      exact Or.inl (tryParseMessage_forwarded rest hcolon hreserved)
  | broadcast topic data groups => cases hpayload
  | roster g groups hg =>
      obtain rfl := Payload.text.inj hpayload
      refine Or.inr (Or.inr ?_)
      rw [IsRoster, tryParseMessage_groupUpdateMsg]
      exact ⟨rfl, rfl, rfl⟩

end Authentic

/-- **Sender authenticity**: in every reachable state without a colon in an authenticated name,
an event appends only authentic frames to what has been published. -/
theorem authentic_step_of_run (cfg : Config) (evs : List Event) (e : Event)
    (hnames : ((machine cfg).run evs).NamesColonFree) :
    ∃ news, (((machine cfg).run evs).step cfg e).published =
        ((machine cfg).run evs).published ++ news ∧
      ∀ pub ∈ news, Authentic ((machine cfg).run evs) e pub := by
  have hs := consistent_run cfg evs
  obtain ⟨news, heq, hall⟩ := published_step cfg hs (senderGuard_allows cfg (e := e) hs hnames)
  exact ⟨news, heq, fun pub hpub => authentic_of_published (hall pub hpub)⟩

/-- Trula writes to World under the name of Tirio. -/
theorem authentic_step_joinEvents :
    ((machine sampleConfig).run joinEvents).NamesColonFree ∧
      ∃ news, (((machine sampleConfig).run joinEvents).step sampleConfig
          (.text (sampleEnv 1003 "") 2 "Channel:Tirio:World:hello".toList)).published =
          ((machine sampleConfig).run joinEvents).published ++ news ∧
        ∀ pub ∈ news, Authentic ((machine sampleConfig).run joinEvents)
          (.text (sampleEnv 1003 "") 2 "Channel:Tirio:World:hello".toList) pub :=
  have hnames : ((machine sampleConfig).run joinEvents).NamesColonFree := by decide +kernel
  ⟨hnames, authentic_step_of_run sampleConfig joinEvents _ hnames⟩

end Server

end DaraChat
