import DaraChat.Server.Confinement

set_option autoImplicit false

/-! # What the server publishes

Three kinds of text frames reach a topic: a message the server has written in the name of a
session, the payload of a legacy `publish:` frame, which names its topic before its first colon,
and a roster. `published_step` says that an event only appends such frames. What a recipient
reads then follows from how the first three colons are cut: on a reserved topic the legacy
payload is no message at all, and a session's message keeps its sender.
-/

namespace DaraChat

open GroupContainer

/-! ## What a recipient reads -/

/-- Whatever colons recipient and message have, a text written for a sender without one is read
with its type and its sender. -/
theorem tryParseMessage_serialize_sender {msg : FDaraChatMsg} (hs : ':' ∉ msg.sender)
    (h : (tryParseMessage msg.serialize).1 = true) :
    (tryParseMessage msg.serialize).2.1.type = msg.type ∧
      (tryParseMessage msg.serialize).2.1.sender = msg.sender := by
  obtain ⟨type, sender, recipient, message, heq, htype, hsender, -, -, hread⟩ :=
    eq_of_tryParseMessage h
  rw [serialize_eq] at heq
  obtain ⟨rfl, hrest⟩ := append_cons_inj (colon_notMem_toString msg.type) htype heq
  obtain ⟨rfl, -⟩ := append_cons_inj hs hsender hrest
  rw [hread]
  exact ⟨chatCmdTypeFromString_toString msg.type, rfl⟩

/-- No reserved topic is the name of a type. -/
theorem fromString_of_isReservedTopic {t : Str} (h : isReservedTopic t = true) :
    chatCmdTypeFromString t = .none := by
  by_contra hne
  have hname := eq_toString_of_fromString hne
  have hall : ∀ type, isReservedTopic (chatCmdTypeToString type) = false := by
    intro type
    cases type <;> decide
  rw [hname, hall] at h
  exact Bool.false_ne_true h

/-- A text that names a reserved topic before its first colon is no message. -/
theorem tryParseMessage_forwarded {topic : Str} (rest : Str) (hcolon : ':' ∉ topic)
    (h : isReservedTopic topic = true) : (tryParseMessage (topic ++ ':' :: rest)).1 = false := by
  by_contra hparse
  rw [Bool.not_eq_false] at hparse
  exact (tryParseMessage_type hcolon hparse).1 (fromString_of_isReservedTopic h)

namespace Server

/-- A roster is read as it was written. -/
theorem tryParseMessage_groupUpdateMsg (c : GroupContainer) (groupId : Str) :
    tryParseMessage (groupUpdateMsg c groupId).serialize = (true, groupUpdateMsg c groupId, []) :=
  tryParseMessage_serialize (by simp [groupUpdateMsg]) (by simp [groupUpdateMsg])
    (by simp [groupUpdateMsg])

/-! ## The publications of an event -/

/-- What an event publishes. -/
def publications (cfg : Config) (s : Server) (e : Event) : List Publication :=
  (s.step cfg e).published.drop s.published.length

theorem publications_of_append (cfg : Config) {s : Server} {e : Event} {news : List Publication}
    (h : (s.step cfg e).published = s.published ++ news) : s.publications cfg e = news := by
  rw [publications, h, List.drop_left]

/-- The types of messages that the server writes in the name of a session. -/
def IsRelayedType (type : EChatCmdType) : Prop :=
  type = .channel ∨ type = .zone ∨ type = .tell ∨ type = .group ∨ type = .aliveInfo ∨
    type = .groupInvite ∨ type = .groupDisbandInfo

theorem Relayed.isRelayedType {data : PerSocketData} {chatMsg : FDaraChatMsg} {topic : Str}
    (h : Relayed data chatMsg topic) : IsRelayedType chatMsg.type := by
  have htopic := h.2
  unfold IsRelayedType
  cases htype : chatMsg.type <;> simp [htype] at htopic ⊢

/-- A private message is written to the tell topic of its recipient. -/
theorem Relayed.eq_tell {data : PerSocketData} {chatMsg : FDaraChatMsg} {topic : Str}
    (h : Relayed data chatMsg topic) (hprivate : IsPrivateType chatMsg.type) :
    chatMsg.type = .tell ∧ topic = tellTopic chatMsg.recipient := by
  have htopic := h.2
  rcases hprivate with htype | htype
  · rw [htype] at htopic
    exact ⟨htype, htopic⟩
  · rw [htype] at htopic
    exact htopic.elim

/-- What may be published, and where. -/
inductive Published (guard : Guard) : Publication → Prop
  | relayed (chatMsg : FDaraChatMsg) (topic : Str) (groups : List GroupMember)
      (htype : IsRelayedType chatMsg.type) (hsends : guard.sends chatMsg.sender)
      (htells : IsPrivateType chatMsg.type →
        guard.tells chatMsg ∧ topic = tellTopic chatMsg.recipient) :
      Published guard ⟨topic, .text chatMsg.serialize, groups⟩
  | forwarded (topic rest : Str) (groups : List GroupMember) (hcolon : ':' ∉ topic) :
      Published guard ⟨topic, .text (topic ++ ':' :: rest), groups⟩
  | broadcast (topic : Str) (data : List UInt8) (groups : List GroupMember)
      (hvalid : (FDaraRawChatMsg.deserialize data).isSome = true) :
      Published guard ⟨topic, .binary data, groups⟩
  | roster (g : Str) (groups : List GroupMember) (hg : isGroupTopic g = true) :
      Published guard ⟨g, .text (groupUpdateMsg { myGroups := groups } g).serialize, groups⟩

section Publications

variable {guard : Guard} {s s' : Server}

/-- Between two states only these have been published. -/
def Appends (guard : Guard) (s s' : Server) : Prop :=
  ∃ news, s'.published = s.published ++ news ∧ ∀ pub ∈ news, Published guard pub

theorem appends_of_eq (h : s'.published = s.published) : Appends guard s s' :=
  Machine.Extends.of_eq h

theorem Appends.trans {s'' : Server} (h : Appends guard s s') (h' : Appends guard s' s'') :
    Appends guard s s'' :=
  Machine.Extends.trans h h'

theorem appends_publish {topic : Str} {payload : Payload}
    (h : Published guard ⟨topic, payload, s.groupContainer.myGroups⟩) :
    Appends guard s (s.publish topic payload) :=
  Machine.Extends.snoc h

/-- The topic of a group's roster is its id. -/
theorem appends_sendGroupUpdateInfo {g : Str} (hg : isGroupTopic g = true) :
    Appends guard s (s.sendGroupUpdateInfo g) := by
  refine appends_publish ?_
  rw [getGroupTopic_eq hg]
  exact .roster g _ hg

theorem appends_sendIf {tells : Bool} {g : Str} (h : tells = true → isGroupTopic g = true) :
    Appends guard s (s.sendIf tells g) := by
  cases tells with
  | false => exact appends_of_eq rfl
  | true => exact appends_sendGroupUpdateInfo (h rfl)

/-- The id of a registered session's group carries the prefix. -/
theorem Consistent.isGroupTopic (hs : s.Consistent) {n : Str}
    (hn : s.groupContainer.groupIdOf n ≠ []) :
    DaraChat.isGroupTopic (s.groupContainer.groupIdOf n) = true :=
  hs.presence.sound.groupIdOf_prefixed hn

theorem appends_disband (hs : s.Consistent) {ws : SocketId} {sock : Socket}
    (h : s.Session ws sock) (hgroup : sock.data.groupId ≠ []) (hsends : guard.sends sock.data.name) :
    Appends guard s (s.disband ws sock) := by
  have hg : isGroupTopic sock.data.groupId = true := by
    rw [hs.groupId h] at hgroup ⊢
    exact hs.isGroupTopic hgroup
  have hleft : Appends guard s (s.leaveGroup ws sock) := appends_of_eq rfl
  have hinfo : Appends guard (s.leaveGroup ws sock) ((s.leaveGroup ws sock).publish
      (getGroupTopic sock.data.groupId)
      (.text (getGroupDisbandInfoMessage { sender := sock.data.name }))) :=
    appends_publish (.relayed _ _ _ (by simp [IsRelayedType]) hsends (by simp [IsPrivateType]))
  have htold : isGroupTopic (getGroupTopic sock.data.groupId) = true := by
    rwa [getGroupTopic_eq hg]
  exact (hleft.trans hinfo).trans (appends_sendGroupUpdateInfo htold)

/-- **What a move publishes.** -/
theorem Move.appends (hm : Move guard s s') (hs : s.Consistent) : Appends guard s s' := by
  cases hm with
  | opened ws h => exact appends_of_eq rfl
  | retired ws sock phase h => exact appends_of_eq rfl
  | withdrawn env ws sock h hc hreg =>
      have hquiet : Appends guard s (s.withdraw env ws sock) := appends_of_eq rfl
      refine hquiet.trans (appends_sendIf fun htells => ?_)
      have hgroup : sock.data.groupId ≠ [] := by
        simp only [closeTells, Bool.and_eq_true, decide_eq_true_eq] at htells
        exact htells.2
      -- the id in the session is that of the group, so it is a group topic
      have hid := hs.coherent _ ws sock hreg h
      rw [hid] at hgroup ⊢
      exact hs.isGroupTopic hgroup
  | enrolled env ws sock login h =>
      have hquiet : Appends guard s
          (s.enroll env ws { sock with data := handleConnect sock.data login }) :=
        appends_of_eq rfl
      refine hquiet.trans (appends_sendIf fun htells => hs.isGroupTopic ?_)
      simpa using htells
  | stored ws sock topic h => exact appends_of_eq rfl
  | removed ws sock topic h => exact appends_of_eq rfl
  | left ws sock h => exact appends_of_eq rfl
  | disbanded ws sock h _ hgroup hsends => exact appends_disband hs h hgroup hsends
  | founded env ws sock h => exact appends_of_eq rfl
  | admitted env ws sock inviter h _ _ hjoin =>
      have hquiet : Appends guard s ((s.enterGroup env ws sock inviter).setGroups
          ((s.enterGroup env ws sock inviter).groupContainer.removeInvite inviter
            sock.data.name)) := appends_of_eq rfl
      exact hquiet.trans (appends_sendGroupUpdateInfo (hs.isGroupTopic hjoin.leader_grouped))
  | invited env ws sock chatMsg h _ hsender hsends _ htells =>
      refine appends_publish (.relayed _ _ _ (by simp [IsRelayedType]) ?_ fun _ => ⟨htells, rfl⟩)
      show guard.sends chatMsg.sender
      rwa [hsender]
  | pruned env => exact appends_of_eq rfl
  | alive env ws sock member h => exact appends_of_eq rfl
  | relayed ws sock topic chatMsg h hrelayed hsends htells =>
      refine appends_publish (.relayed _ _ _ hrelayed.isRelayedType (hrelayed.1 ▸ hsends) ?_)
      intro hprivate
      obtain ⟨htell, htopic⟩ := hrelayed.eq_tell hprivate
      exact ⟨htells htell, htopic⟩
  | forwarded ws sock topic rest h hcolon => exact appends_publish (.forwarded _ _ _ hcolon)
  | broadcast ws sock data h hvalid => exact appends_publish (.broadcast _ _ _ hvalid)
  | sent ws sock message h => exact appends_of_eq rfl

/-- **What an event publishes.** -/
theorem published_step (cfg : Config) (hs : s.Consistent) {e : Event} (h : guard.Allows cfg s e) :
    Appends guard s (s.step cfg e) :=
  step_of_consistent (I := Appends guard s) (fun hm hs hi => hi.trans (hm.appends hs)) cfg h hs
    (appends_of_eq rfl)

end Publications

end Server

end DaraChat
