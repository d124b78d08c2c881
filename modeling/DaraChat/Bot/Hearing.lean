import DaraChat.Bot.Bots
import DaraChat.Bot.ChatLoop
import DaraChat.Server.Sockets

set_option autoImplicit false

/-! # What a bot hears

A bot asks for three channels beside the topics that the server gives to every session, and is in one
group at a time, so it never runs out of topic slots (`length_topics`), and its subscriptions are what
it has asked for: `Follows` says which they are at every moment of a session, `stage_text` what one
frame of the bot makes of it, and `stage_run` follows a session through any run of the server
(`bot_hears`).
-/

namespace DaraChat

open GroupContainer

/-! ## Slots with room -/

section Holding

variable {ws : SocketId} {sock : Socket} {topics : List Str} {t : Str}

/-- The slots of the socket hold these topics, no more often than they are listed, and it is
subscribed to them and to its placeholders. -/
structure Holding (ws : SocketId) (topics : List Str) (sock : Socket) : Prop where
  capacity : sock.table.length = slotCount
  few : sock.usedTopics.Subperm topics
  used : ∀ t ∈ topics, t ∈ sock.usedTopics
  subscribed : ∀ t, t ∈ sock.subscriptions ↔ t ∈ placeholders ws ∨ t ∈ sock.usedTopics

theorem Holding.mem_iff (h : Holding ws topics sock) (t : Str) :
    t ∈ sock.subscriptions ↔ t ∈ placeholders ws ∨ t ∈ topics := by
  rw [h.subscribed]
  exact or_congr_right ⟨fun hmem => h.few.subset hmem, h.used t⟩

theorem Holding.perm (h : Holding ws topics sock) {topics' : List Str} (hperm : topics.Perm topics') :
    Holding ws topics' sock where
  capacity := h.capacity
  few := h.few.trans hperm.subperm
  used := fun t ht => h.used t (hperm.mem_iff.mpr ht)
  subscribed := h.subscribed

theorem Holding.setGroupId (h : Holding ws topics sock) (g : Str) :
    Holding ws topics (sock.setGroupId g) :=
  ⟨h.capacity, h.few, h.used, h.subscribed⟩

theorem holding_openSocket (ws : SocketId) : Holding ws [] (openSocket ws) where
  capacity := by rw [openSocket_table, List.length_replicate]
  few := by
    rw [openSocket_usedTopics]
  used := fun t ht => absurd ht List.not_mem_nil
  subscribed := by
    intro t
    rw [openSocket_usedTopics, openSocket_subscriptions, List.mem_toFinset]
    simp

/-- Storing one more topic, with room. -/
theorem Holding.store (h : Holding ws topics sock) (hroom : topics.length < slotCount) (t : Str) :
    Holding ws (t :: topics) (sock.storeTopicSubscription t) := by
  have hfree : none ∈ sock.table := by
    refine SlotTable.mem_of_length_keys ?_
    rw [h.capacity]
    exact h.few.length_le.trans_lt hroom
  rcases sock.storeTopicSubscription_cases t with ⟨tbl, hstore, htable, hsubs⟩ | ⟨hnone, -⟩
  · have hused : (sock.storeTopicSubscription t).usedTopics = SlotTable.keys tbl := by
      rw [Socket.usedTopics, htable]
    refine ⟨by rw [htable, SlotTable.length_store hstore, h.capacity], ?_, fun x hx => ?_, fun x => ?_⟩
    · rw [hused]
      exact (SlotTable.keys_store_subperm hstore).trans ((List.subperm_cons t).mpr h.few)
    · rw [hused, SlotTable.mem_keys_store hstore]
      exact (List.mem_cons.mp hx).imp_right (h.used x)
    · rw [hused, hsubs, Finset.mem_insert, SlotTable.mem_keys_store hstore, h.subscribed x]
      exact or_left_comm
  · exact absurd hnone (SlotTable.store_ne_none_of_free hfree)

/-- Releasing the only group topic. -/
theorem Holding.release {g : Str} (h : Holding ws (g :: topics) sock)
    (hg : isGroupTopic g = true) (hothers : ∀ t ∈ topics, isGroupTopic t = false) :
    Holding ws topics sock.removeGroupSubscription := by
  have hgused := h.used g List.mem_cons_self
  rcases sock.release_cases isGroupTopic with ⟨oldTopic, tbl, hrelease, htable, hsubs⟩ | ⟨hnone, -⟩
  · have hused : sock.removeGroupSubscription.usedTopics = SlotTable.keys tbl := by
      rw [Socket.removeGroupSubscription, Socket.usedTopics, htable]
    -- the topic that is released is the group topic
    obtain ⟨hold, holdused⟩ := SlotTable.release_key hrelease
    have hone : ∀ t ∈ sock.usedTopics, isGroupTopic t = true → t = g := by
      intro t ht hgroup
      rcases List.mem_cons.mp (h.few.subset ht) with rfl | hmem
      · rfl
      · rw [hothers t hmem] at hgroup
        cases hgroup
    obtain rfl := hone oldTopic holdused hold
    have hfilter : (SlotTable.keys tbl).filter isGroupTopic = [] := by
      refine SlotTable.filter_keys_release hrelease ((h.few.filter _).length_le.trans ?_)
      rw [List.filter_cons_of_pos hg, List.filter_eq_nil_iff.mpr fun t ht => by simp [hothers t ht]]
      exact le_rfl
    have hgone : oldTopic ∉ SlotTable.keys tbl := fun hmem =>
      List.filter_eq_nil_iff.mp hfilter _ hmem hg
    refine ⟨?_, ?_, fun t ht => ?_, fun t => ?_⟩
    · rw [Socket.removeGroupSubscription, htable, SlotTable.length_release hrelease, h.capacity]
    · rw [hused]
      have hkeys : (SlotTable.keys tbl).filter (fun t => !isGroupTopic t) = SlotTable.keys tbl :=
        List.filter_eq_self.mpr fun t ht => by
          rw [Bool.not_eq_true', ← Bool.not_eq_true]
          exact List.filter_eq_nil_iff.mp hfilter t ht
      have htopics : (oldTopic :: topics).filter (fun t => !isGroupTopic t) = topics := by
        rw [List.filter_cons_of_neg (by rw [hg]; decide), List.filter_eq_self]
        exact fun t ht => by rw [hothers t ht]; rfl
      have hsub := (SlotTable.keys_release_sublist hrelease).subperm.trans h.few
      have hfiltered := hsub.filter fun t => !isGroupTopic t
      rwa [hkeys, htopics] at hfiltered
    · rw [hused]
      have hne : t ≠ oldTopic := by
        rintro rfl
        rw [hothers _ ht] at hg
        cases hg
      exact (SlotTable.mem_keys_release hrelease hne).mpr (h.used t (List.mem_cons_of_mem _ ht))
    · rw [hused, Socket.removeGroupSubscription, hsubs, Finset.mem_erase, h.subscribed]
      by_cases hne : t = oldTopic
      · subst hne
        refine iff_of_false (fun hmem => hmem.1 rfl) fun hmem => ?_
        rcases hmem with hplace | hmem
        · have hreserved := placeholder_not_reserved hplace
          rw [isReservedTopic_of_isGroupTopic hg] at hreserved
          cases hreserved
        · exact hgone hmem
      · rw [SlotTable.mem_keys_release hrelease hne]
        exact and_iff_right hne
  · have hfalse := SlotTable.release_eq_none.mp hnone g hgused
    rw [hg] at hfalse
    cases hfalse

end Holding

/-! ## The session of a bot -/

/-- The channels that a bot asks for at its start. -/
def Chatter.channels (chatter : Chatter) : List Str :=
  ["World".toList, "SomeChannel".toList, chatter.myZoneName]

theorem Chatter.length_take_channels (chatter : Chatter) (n : Nat) :
    (chatter.channels.take n).length ≤ 3 := List.length_take_le' n chatter.channels

theorem Chatter.take_channels (chatter : Chatter) (n : Nat) :
    chatter.channels.take (n + 3) = chatter.channels :=
  List.take_of_length_le (Nat.le_add_left 3 n)

/-- The topics of a bot that has asked for these channels and is in this group, if any. -/
def Chatter.topics (chatter : Chatter) (asked : List Str) (groupId : Str) : List Str :=
  (if groupId = [] then [] else [groupId]) ++
    (asked.filter checkValidTopicName ++
      [worldTopic, zoneTopic chatter.myZoneName, tellTopic chatter.myCharName])

theorem Chatter.mem_topics (chatter : Chatter) {asked : List Str} {groupId t : Str} :
    t ∈ chatter.topics asked groupId ↔ (t ≠ [] ∧ t = groupId) ∨
      (t ∈ asked ∧ checkValidTopicName t = true) ∨
        t ∈ [worldTopic, zoneTopic chatter.myZoneName, tellTopic chatter.myCharName] := by
  rw [topics, List.mem_append, List.mem_append, List.mem_filter]
  refine or_congr_left ?_
  split
  · rename_i hnone
    rw [hnone]
    exact iff_of_false List.not_mem_nil fun h => h.1 h.2
  · rename_i hsome
    rw [List.mem_singleton]
    exact ⟨fun h => ⟨h ▸ hsome, h⟩, fun h => h.2⟩

/-- The socket is that of a session of the bot, which has asked for these channels. -/
structure Follows (chatter : Chatter) (ws : SocketId) (asked : List Str) (sock : Socket) : Prop where
  connected : sock.data.connected = true
  name : sock.data.name = chatter.myCharName
  zone : sock.data.zone = chatter.myZoneName
  group : sock.data.groupId = [] ∨ isGroupTopic sock.data.groupId = true
  holding : Holding ws (chatter.topics asked sock.data.groupId) sock

section Follows

variable {chatter : Chatter} {ws : SocketId} {asked : List Str} {sock : Socket}

/-- None of the topics but the group's is a group topic. -/
theorem isGroupTopic_of_mem {t : Str} (h : t ∈ asked.filter checkValidTopicName ++
    [worldTopic, zoneTopic chatter.myZoneName, tellTopic chatter.myCharName]) :
    isGroupTopic t = false := by
  rcases List.mem_append.mp h with hmem | hmem
  · have hreserved := checkValidTopicName_reserved (List.mem_filter.mp hmem).2
    by_contra hg
    rw [isReservedTopic_of_isGroupTopic (by simpa using hg)] at hreserved
    cases hreserved
  · simp only [List.mem_cons, List.not_mem_nil, or_false] at hmem
    rcases hmem with rfl | rfl | rfl
    · exact isGroupTopic_worldTopic
    · exact isGroupTopic_zoneTopic _
    · exact isGroupTopic_tellTopic _

theorem length_topics (hasked : asked.length ≤ 3) (groupId : Str) :
    (chatter.topics asked groupId).length < slotCount := by
  have hfilter := List.length_filter_le checkValidTopicName asked
  rw [Chatter.topics, List.length_append, List.length_append]
  have hgroup : (if groupId = [] then [] else [groupId] : List Str).length ≤ 1 := by
    split <;> simp
  have hauto : [worldTopic, zoneTopic chatter.myZoneName, tellTopic chatter.myCharName].length = 3 :=
    rfl
  have hslots : slotCount = 32 := rfl
  omega

/-- The bot asks for one more channel. -/
theorem Follows.subscribe (h : Follows chatter ws asked sock) (hasked : asked.length ≤ 3)
    (topic : Str) :
    Follows chatter ws (asked ++ [topic])
      (sock.handleSubscribeMessage ("subscribe:".toList ++ topic)) := by
  have hdrop : ("subscribe:".toList ++ topic).drop "subscribe:".toList.length = topic :=
    List.drop_left
  rw [Socket.handleSubscribeMessage, hdrop]
  by_cases hvalid : checkValidTopicName topic = true
  · rw [if_neg (by simp [hvalid])]
    have hsame := Socket.sameSession_storeTopicSubscription sock topic
    refine ⟨hsame.connected.trans h.connected, hsame.name.trans h.name, hsame.zone.trans h.zone, ?_, ?_⟩
    · rw [hsame.groupId]
      exact h.group
    · rw [hsame.groupId]
      refine (h.holding.store (length_topics hasked _) topic).perm ?_
      rw [Chatter.topics, Chatter.topics, List.filter_append, List.filter_cons_of_pos hvalid,
        List.filter_nil, List.append_assoc, List.singleton_append]
      exact List.perm_middle.symm.trans (List.perm_middle.symm.append_left _)
  · rw [if_pos (by simp [hvalid])]
    have htopics : chatter.topics (asked ++ [topic]) sock.data.groupId =
        chatter.topics asked sock.data.groupId := by
      rw [Chatter.topics, List.filter_append, List.filter_cons_of_neg hvalid, List.filter_nil,
        List.append_nil]
      rfl
    exact ⟨h.connected, h.name, h.zone, h.group, htopics ▸ h.holding⟩

/-- It leaves its group, if it is in one. -/
theorem Follows.left (h : Follows chatter ws asked sock) :
    Follows chatter ws asked (sock.removeGroupSubscription.setGroupId []) := by
  have hsame := Socket.sameSession_removeGroupSubscription sock
  have hholding : Holding ws (chatter.topics asked []) sock.removeGroupSubscription := by
    rcases h.group with hnil | hg
    · have hheld := h.holding
      rw [hnil] at hheld
      rcases sock.release_cases isGroupTopic with ⟨oldTopic, tbl, hrelease, -⟩ | ⟨-, heq⟩
      · obtain ⟨hold, hused⟩ := SlotTable.release_key hrelease
        rw [isGroupTopic_of_mem (hheld.few.subset hused)] at hold
        cases hold
      · rwa [Socket.removeGroupSubscription, heq]
    · have hheld := h.holding
      rw [Chatter.topics, if_neg (ne_nil_of_startsWith hg)] at hheld
      exact hheld.release hg fun t ht => isGroupTopic_of_mem ht
  exact ⟨hsame.connected.trans h.connected, hsame.name.trans h.name, hsame.zone.trans h.zone,
    .inl rfl, hholding.setGroupId []⟩

/-- It enters a group. -/
theorem Follows.entered (h : Follows chatter ws asked sock) (hasked : asked.length ≤ 3)
    (hfree : sock.data.groupId = []) {g : Str} (hg : isGroupTopic g = true) :
    Follows chatter ws asked (sock.setGroupId g).subscribeGroupTopic := by
  have heq : (sock.setGroupId g).subscribeGroupTopic =
      (sock.setGroupId g).storeTopicSubscription g := Socket.subscribeGroupTopic_eq hg
  rw [heq]
  have hsame := Socket.sameSession_storeTopicSubscription (sock.setGroupId g) g
  refine ⟨hsame.connected.trans h.connected, hsame.name.trans h.name, hsame.zone.trans h.zone, ?_, ?_⟩
  · rw [hsame.groupId]
    exact .inr hg
  · rw [hsame.groupId]
    have hheld := h.holding
    have hroom := @length_topics chatter asked hasked sock.data.groupId
    rw [hfree] at hheld hroom
    have hstored := (hheld.setGroupId g).store hroom g
    show Holding ws (chatter.topics asked g) _
    rw [Chatter.topics, if_neg (ne_nil_of_startsWith hg)]
    exact hstored

/-- What a chat command makes of it. -/
theorem Follows.regrouped (h : Follows chatter ws asked sock) (hasked : asked.length ≤ 3)
    {sock' : Socket} (hr : Regrouped sock sock') : Follows chatter ws asked sock' := by
  cases hr with
  | left => exact h.left
  | entered g hfree hg => exact h.entered hasked hfree hg
  | moved g hg => exact h.left.entered hasked rfl hg

/-- The order in which a socket gets its group and its other topics does not matter. -/
theorem storeTopicSubscription_setGroupId (sock : Socket) (g t : Str) :
    (sock.setGroupId g).storeTopicSubscription t = (sock.storeTopicSubscription t).setGroupId g := by
  have htopics : (sock.setGroupId g).data.topics = sock.data.topics := rfl
  rw [Socket.storeTopicSubscription, Socket.storeTopicSubscription, htopics]
  cases storeSlot t sock.data.topics with
  | none => rfl
  | some topics => rfl

/-- The session that a login of the bot begins. -/
theorem follows_login {login : AuthenticatedLogin} (hname : login.characterName = chatter.myCharName)
    (hzone : login.zone = chatter.myZoneName) {g : Str} (hg : g = [] ∨ isGroupTopic g = true)
    (hsock : sock = { openSocket ws with
      data := Server.handleConnect (openSocket ws).data login }) :
    Follows chatter ws [] (sock.setGroupId g).subscribeStandardTopics := by
  have hsession : sock.data.connected = true ∧ sock.data.name = chatter.myCharName ∧
      sock.data.zone = chatter.myZoneName ∧ sock.data.groupId = [] := by
    rw [hsock]
    exact ⟨rfl, hname, hzone, rfl⟩
  have hopen : Holding ws [] sock := by
    have hopen := holding_openSocket ws
    rw [hsock]
    exact ⟨hopen.capacity, hopen.few, hopen.used, hopen.subscribed⟩
  obtain ⟨hconnected, hname, hzone, hgroup⟩ := hsession
  have hsame₁ := Socket.sameSession_storeTopicSubscription sock worldTopic
  have hsame₂ := hsame₁.trans
    (Socket.sameSession_storeTopicSubscription _ (zoneTopic chatter.myZoneName))
  have hsame₃ := hsame₂.trans
    (Socket.sameSession_storeTopicSubscription _ (tellTopic chatter.myCharName))
  have hstored := ((hopen.store (by simp [slotCount]) worldTopic).store (by simp [slotCount])
    (zoneTopic chatter.myZoneName)).store (by simp [slotCount]) (tellTopic chatter.myCharName)
  -- the topics that every session gets
  have hauto : Follows chatter ws [] (((sock.storeTopicSubscription worldTopic).storeTopicSubscription
      (zoneTopic chatter.myZoneName)).storeTopicSubscription (tellTopic chatter.myCharName)) := by
    have hnone := hsame₃.groupId.trans hgroup
    refine ⟨hsame₃.connected.trans hconnected, hsame₃.name.trans hname, hsame₃.zone.trans hzone,
      .inl hnone, ?_⟩
    rw [hnone]
    exact hstored.perm (List.reverse_perm
      [worldTopic, zoneTopic chatter.myZoneName, tellTopic chatter.myCharName])
  have hstandard : (sock.setGroupId g).subscribeStandardTopics =
      ((((sock.storeTopicSubscription worldTopic).storeTopicSubscription
        (zoneTopic chatter.myZoneName)).storeTopicSubscription
          (tellTopic chatter.myCharName)).setGroupId g).subscribeGroupTopic := by
    rw [Socket.subscribeStandardTopics, ← hsame₂.name.trans hname, ← hsame₁.zone.trans hzone]
    simp only [storeTopicSubscription_setGroupId]
    rfl
  rw [hstandard]
  rcases hg with rfl | hg
  · rw [Socket.subscribeGroupTopic_of_nil rfl]
    exact ⟨hauto.connected, hauto.name, hauto.zone, .inl rfl,
      (hsame₃.groupId.trans hgroup ▸ hauto.holding).setGroupId []⟩
  · exact hauto.entered (by simp) (hsame₃.groupId.trans hgroup) hg

end Follows

namespace Server

/-! ## A run of a bot's session -/

/-- The text of a frame that comes from the socket. -/
def textAt (ws : SocketId) : Event → Option Str
  | .text _ ws' msg => if ws' = ws then some msg else none
  | _ => none

/-- The texts that come from a socket, in the order in which they come. -/
def textsAt (ws : SocketId) (evs : List Event) : List Str := evs.filterMap (textAt ws)

/-- How far a bot has come after some frames: it has not logged in, or it has, and has asked for the
first of its channels. -/
def Stage (chatter : Chatter) (ws : SocketId) : Nat → Socket → Prop
  | 0, sock => sock = openSocket ws
  | n + 1, sock => Follows chatter ws (chatter.channels.take n) sock

section Steps

variable {cfg : Config} {s : Server} {chatter : Chatter} {ws : SocketId} {sock sock' : Socket}
variable {env : Env}

theorem text_of_live {msg : Str} (hfound : s.sockets ws = some sock) (hlive : sock.phase = .live) :
    s.step cfg (.text env ws msg) = handleText cfg env s ws sock msg := by
  simp only [step, hfound, hlive, if_true]

/-- A frame comes from a socket that was live before. -/
theorem found_before {msg : Str}
    (hfound : (s.step cfg (.text env ws msg)).sockets ws = some sock) (hlive : sock.phase = .live) :
    ∃ old, s.sockets ws = some old ∧ old.phase = .live := by
  rw [step] at hfound
  cases hold : s.sockets ws with
  | none =>
      simp only [hold] at hfound
      cases hfound
  | some old =>
      refine ⟨old, rfl, ?_⟩
      by_contra hnot
      simp only [hold, if_neg hnot] at hfound
      exact hnot (Option.some.inj hfound ▸ hlive)

theorem closed_not_live (hfound : (s.step cfg (.closed env ws)).sockets ws = some sock) :
    sock.phase ≠ .live := by
  rw [step] at hfound
  cases hold : s.sockets ws with
  | none =>
      simp only [hold] at hfound
      cases hfound
  | some old =>
      by_cases hclosed : old.phase = .closed
      · simp only [hold, if_pos hclosed] at hfound
        obtain rfl := Option.some.inj hfound
        rw [hclosed]
        exact Phase.noConfusion
      · simp only [hold, if_neg hclosed] at hfound
        rw [(closeSocket_frame s env ws hold).1, setSocket_sockets_self] at hfound
        obtain rfl := Option.some.inj hfound
        exact Phase.noConfusion

theorem sockets_binary (cfg : Config) (s : Server) (env : Env) (ws : SocketId) (data : List UInt8) :
    (s.step cfg (.binary env ws data)).sockets = s.sockets := by
  simp only [step]
  split
  · rfl
  split
  · exact sockets_handleBinary cfg env s _ data
  · rfl

theorem Consistent.moves {guard : Guard} {s' : Server} (h : s.Consistent) (hm : Moves guard s s') :
    s'.Consistent := by
  induction hm with
  | refl => exact h
  | tail _ hm ih => exact ih.move hm

/-- The login of a bot, if it is accepted. -/
theorem stage_login {token : Str} (hs : s.Consistent)
    (hargs : checkArguments chatter.myCharName token = .ok ()) (hzone : ';' ∉ chatter.myZoneName)
    (hfound : s.sockets ws = some (openSocket ws))
    (hfound' : (s.step cfg (.text env ws (connectMessage chatter token))).sockets ws = some sock')
    (hlive : sock'.phase = .live) : Follows chatter ws [] sock' := by
  have hrefused : (s.endSocket env ws).sockets ws ≠ some sock' := by
    intro heq
    obtain ⟨sock₁, hphase, hsockets, -⟩ := endSocket_frame s env ws hfound
    rw [hsockets, setSocket_sockets_self] at heq
    exact hphase (Option.some.inj heq ▸ hlive)
  have hconnect : startsWith (connectMessage chatter token) "connect:".toList = true :=
    startsWith_iff.mpr (List.prefix_append _ _)
  have hnew : (openSocket ws).data.connected = false := rfl
  rw [text_of_live hfound rfl, handleText, if_pos hconnect, handleConnectMessage,
    if_neg (ne_true_of_eq_false hnew)] at hfound'
  split at hfound'
  · rename_i login hlogin
    obtain ⟨hname, hloginZone⟩ := login_connectMessage hargs hzone hlogin
    rw [completeConnect_eq] at hfound'
    simp only [sendIf_sockets] at hfound'
    have hmoves : Moves {} s (s.endOld env ws login.characterName) := moves_endOld env ws _
    have hsound := (hs.moves hmoves).presence.sound
    change ((s.endOld env ws login.characterName).enroll env ws _).sockets ws = _ at hfound'
    generalize s.endOld env ws login.characterName = s₁ at hsound hfound'
    rw [enroll, setSocket_sockets_self] at hfound'
    obtain rfl := Option.some.inj hfound'
    refine follows_login hname hloginZone ?_ rfl
    by_cases hnone : s₁.groupContainer.groupIdOf login.characterName = []
    · exact .inl hnone
    · exact .inr (hsound.groupIdOf_prefixed hnone)
  · exact absurd hfound' hrefused

section Session

variable {asked : List Str}

/-- A channel that it asks for. -/
theorem stage_subscribe (h : Follows chatter ws asked sock) (hasked : asked.length ≤ 3) {topic : Str}
    (hfound : s.sockets ws = some sock) (hlive : sock.phase = .live)
    (hfound' : (s.step cfg (.text env ws ("subscribe:".toList ++ topic))).sockets ws = some sock') :
    Follows chatter ws (asked ++ [topic]) sock' := by
  have hsubscribe : startsWith ("subscribe:".toList ++ topic) "subscribe:".toList = true :=
    startsWith_iff.mpr (List.prefix_append _ _)
  have hother : ∀ start : Str, startsWith "subscribe:".toList start = false →
      startsWith start "subscribe:".toList = false →
      ¬ startsWith ("subscribe:".toList ++ topic) start = true := fun start h h' =>
    ne_true_of_eq_false (startsWith_excl hsubscribe h h')
  rw [text_of_live hfound hlive, handleText, if_neg (hother _ (by decide) (by decide)),
    if_neg (by rw [h.connected]; decide), if_neg (hother _ (by decide) (by decide)),
    if_pos hsubscribe, setSocket_sockets_self] at hfound'
  obtain rfl := Option.some.inj hfound'
  exact h.subscribe hasked topic

/-- A line for the schedule changes nothing. -/
theorem step_schedule (h : Follows chatter ws asked sock) (hfound : s.sockets ws = some sock)
    (hlive : sock.phase = .live) : s.step cfg (.text env ws "schedule:".toList) = s := by
  rw [text_of_live hfound hlive, handleText, if_neg (by decide), if_neg (by rw [h.connected]; decide),
    if_pos (by decide)]

/-- Whatever it sends later. -/
theorem stage_later (hs : s.Consistent) (h : Follows chatter ws asked sock) (hasked : asked.length ≤ 3)
    {frame : Str} (hframe : chatter.CanSend frame) (hfound : s.sockets ws = some sock)
    (hlive : sock.phase = .live)
    (hfound' : (s.step cfg (.text env ws frame)).sockets ws = some sock') :
    Follows chatter ws asked sock' := by
  have hsame : s.sockets ws = some sock' → Follows chatter ws asked sock' := fun heq =>
    Option.some.inj (hfound.symm.trans heq) ▸ h
  rcases hframe.isOwn with rfl | ⟨msg, htype, -, rfl⟩
  · rw [step_schedule h hfound hlive] at hfound'
    exact hsame hfound'
  · have hcmd := @chatCommand_of_text s env ws sock msg.serialize ⟨hfound, hlive, h.connected⟩
      (tryParseMessage_serialize_accepts htype)
    rcases socketsFollow_chatCommand cfg hs hcmd with heq | ⟨sock₁, hr, heq⟩
    · exact hsame (heq ▸ hfound')
    · rw [heq, setSocket_sockets_self] at hfound'
      exact Option.some.inj hfound' ▸ h.regrouped hasked hr

end Session

/-- **A frame of a bot**, from one stage to the next. -/
theorem stage_text {token : Str} {later : List Str} {n : Nat} {frame : Str} (hs : s.Consistent)
    (hargs : checkArguments chatter.myCharName token = .ok ()) (hzone : ';' ∉ chatter.myZoneName)
    (hlater : ∀ frame ∈ later, chatter.CanSend frame)
    (hframe : (chatter.firstFrames token ++ later)[n]? = some frame)
    (hfound : s.sockets ws = some sock) (hlive : sock.phase = .live) (h : Stage chatter ws n sock)
    (hfound' : (s.step cfg (.text env ws frame)).sockets ws = some sock')
    (hlive' : sock'.phase = .live) : Stage chatter ws (n + 1) sock' := by
  match n, h with
  | 0, h =>
      obtain rfl := h
      obtain rfl := Option.some.inj hframe
      exact stage_login hs hargs hzone hfound hfound' hlive'
  | 1, h | 2, h | 3, h =>
      obtain rfl := Option.some.inj hframe
      exact stage_subscribe h (chatter.length_take_channels _) hfound hlive hfound'
  | n + 4, h =>
      have hmem : frame ∈ later := List.mem_of_getElem? (i := n) hframe
      -- all channels have been asked for
      rw [Stage, chatter.take_channels, ← chatter.take_channels (n + 1)] at h
      exact stage_later hs h (chatter.length_take_channels _) (hlater frame hmem) hfound hlive hfound'

/-- **A run of a bot's session**: while its socket is live, the frames that have come from it say in
which stage it is. -/
theorem stage_run (cfg : Config) {before after : List Event} {token : Str} {later : List Str}
    (hargs : checkArguments chatter.myCharName token = .ok ()) (hzone : ';' ∉ chatter.myZoneName)
    (hlater : ∀ frame ∈ later, chatter.CanSend frame)
    (hfree : ∀ sock ∈ ((machine cfg).run before).sockets ws, sock.phase = .closed)
    (hopened : Event.opened ws ∉ after)
    (htexts : textsAt ws after <+: chatter.firstFrames token ++ later)
    (hfound : ((machine cfg).run (before ++ .opened ws :: after)).sockets ws = some sock)
    (hlive : sock.phase = .live) : Stage chatter ws (textsAt ws after).length sock := by
  -- the events after the socket was opened, one by one
  induction after using List.reverseRecOn generalizing sock with
  | nil =>
      rw [Machine.run_snoc] at hfound
      change (((machine cfg).run before).step cfg (.opened ws)).sockets ws = some sock at hfound
      generalize (machine cfg).run before = s at hfree hfound
      rw [step] at hfound
      cases hold : s.sockets ws with
      | none =>
          simp only [hold, setSocket_sockets_self] at hfound
          exact (Option.some.inj hfound).symm
      | some old =>
          simp only [hold, hfree old hold, if_true, setSocket_sockets_self] at hfound
          exact (Option.some.inj hfound).symm
  | append_singleton after e ih =>
      rw [← List.cons_append, ← List.append_assoc, Machine.run_snoc] at hfound
      change (((machine cfg).run (before ++ .opened ws :: after)).step cfg e).sockets ws = some sock
        at hfound
      have hs := consistent_run cfg (before ++ .opened ws :: after)
      rw [List.mem_append, not_or, List.mem_singleton] at hopened
      rw [textsAt, List.filterMap_append, ← textsAt] at htexts ⊢
      have ih := fun sock => @ih sock hopened.1 ((List.prefix_append _ _).trans htexts)
      generalize (machine cfg).run (before ++ .opened ws :: after) = s at ih hs hfound
      have hsame : textAt ws e = none → s.sockets ws = some sock →
          Stage chatter ws (textsAt ws after ++ [e].filterMap (textAt ws)).length sock := by
        intro htext heq
        rw [List.filterMap_cons_none htext, List.filterMap_nil, List.append_nil]
        exact ih sock heq hlive
      by_cases hws : e.socketId = ws
      · cases e with
        | opened ws' => exact absurd (congrArg Event.opened hws.symm) hopened.2
        | closed env ws' =>
            obtain rfl : ws' = ws := hws
            exact absurd hlive (closed_not_live hfound)
        | binary env ws' data => exact hsame rfl (sockets_binary cfg s env ws' data ▸ hfound)
        | text env ws' msg =>
            obtain rfl : ws' = ws := hws
            have htext : textAt ws' (.text env ws' msg) = some msg := if_pos rfl
            rw [List.filterMap_cons_some htext, List.filterMap_nil] at htexts ⊢
            have hframe : (chatter.firstFrames token ++ later)[(textsAt ws' after).length]? =
                some msg := by
              obtain ⟨rest, heq⟩ := htexts
              rw [← heq, List.append_assoc, List.getElem?_append_right le_rfl, Nat.sub_self]
              rfl
            obtain ⟨old, hold, hlived⟩ := found_before hfound hlive
            rw [List.length_append]
            exact stage_text hs hargs hzone hlater hframe hold hlived (ih old hold hlived) hfound hlive
      · have htext : textAt ws e = none := by
          cases e with
          | text env ws' msg => exact if_neg hws
          | _ => rfl
        rcases sockets_step_of_ne cfg hs hws with heq | hended
        · exact hsame htext (heq ▸ hfound)
        · exact absurd hlive (hended sock hfound)

section Sessions

variable {before after : List Event} {token : Str} {later : List Str}

/-- Once its first frames have come, a bot whose socket is live is in the session of its character, and
has asked for all its channels. -/
theorem follows_run (cfg : Config) (hargs : checkArguments chatter.myCharName token = .ok ())
    (hzone : ';' ∉ chatter.myZoneName)
    (hfree : ∀ sock ∈ ((machine cfg).run before).sockets ws, sock.phase = .closed)
    (hopened : Event.opened ws ∉ after)
    (htexts : textsAt ws after = chatter.firstFrames token ++ later)
    (hlater : ∀ frame ∈ later, chatter.CanSend frame)
    (hfound : ((machine cfg).run (before ++ .opened ws :: after)).sockets ws = some sock)
    (hlive : sock.phase = .live) : Follows chatter ws chatter.channels sock := by
  have hstage := stage_run cfg hargs hzone hlater hfree hopened (htexts ▸ List.prefix_rfl) hfound hlive
  have hlength : (textsAt ws after).length = later.length + 3 + 1 := by
    rw [htexts, List.length_append]
    show 4 + later.length = _
    omega
  rwa [hlength, Stage, chatter.take_channels] at hstage

/-- **What a bot hears.** Once its first frames have come, a bot whose socket is live is in the
session of its character, and the socket is subscribed to the topics that every session gets, to the
topic of the group that the character is in, if any, to its channels with valid names, and to no other
topic than these and its placeholders. That holds whatever others do, and whatever the bot sends, for
its operator, as replies, or in its loop. -/
theorem bot_hears (cfg : Config) (hargs : checkArguments chatter.myCharName token = .ok ())
    (hzone : ';' ∉ chatter.myZoneName)
    (hfree : ∀ sock ∈ ((machine cfg).run before).sockets ws, sock.phase = .closed)
    (hopened : Event.opened ws ∉ after)
    (htexts : textsAt ws after = chatter.firstFrames token ++ later)
    (hlater : ∀ frame ∈ later, chatter.CanSend frame)
    (hfound : ((machine cfg).run (before ++ .opened ws :: after)).sockets ws = some sock)
    (hlive : sock.phase = .live) :
    ((machine cfg).run (before ++ .opened ws :: after)).activeSessions.lookup chatter.myCharName =
        some ws ∧
      sock.data.zone = chatter.myZoneName ∧
      ∀ t, t ∈ sock.subscriptions ↔ t ∈ placeholders ws ∨
        (t ≠ [] ∧ t = ((machine cfg).run (before ++ .opened ws :: after)).groupContainer.groupIdOf
          chatter.myCharName) ∨
        (t ∈ chatter.channels ∧ checkValidTopicName t = true) ∨
        t ∈ [worldTopic, zoneTopic chatter.myZoneName, tellTopic chatter.myCharName] := by
  have hfollows := follows_run cfg hargs hzone hfree hopened htexts hlater hfound hlive
  have hs := consistent_run cfg (before ++ .opened ws :: after)
  generalize (machine cfg).run (before ++ .opened ws :: after) = s at hs hfound
  have hsession : s.Session ws sock := ⟨hfound, hlive, hfollows.connected⟩
  have hgroup := hs.groupId hsession
  rw [hfollows.name] at hgroup
  refine ⟨hfollows.name ▸ hs.registry.live ws sock hsession, hfollows.zone, fun t => ?_⟩
  rw [hfollows.holding.mem_iff, Chatter.mem_topics, hgroup]

/-! Tirio's bot starts, and its operator makes it invite Trula. -/

def sampleSession : List Event :=
  (botTirio.firstFrames tirio.text ++ ["GroupInvite:Tirio:Trula:".toList]).map
    (.text (sampleEnv 1001 "a") 1)

theorem sampleSession_run :
    (((machine sampleConfig).run (loginEvents 2 trula ++ .opened 1 :: sampleSession)).sockets 1).map
        Socket.phase = some .live ∧
      ((machine sampleConfig).run (loginEvents 2 trula)).sockets 1 = none ∧
      ((machine sampleConfig).run
        (loginEvents 2 trula ++ .opened 1 :: sampleSession)).groupContainer.groupIdOf
          botTirio.myCharName = "group_a".toList ∧
      checkArguments botTirio.myCharName tirio.text = .ok () := by
  decide +kernel

theorem textsAt_sampleSession : textsAt 1 sampleSession =
    botTirio.firstFrames tirio.text ++ ["GroupInvite:Tirio:Trula:".toList] := rfl

theorem canSend_sampleSession :
    ∀ frame ∈ ["GroupInvite:Tirio:Trula:".toList], botTirio.CanSend frame := by
  intro frame hframe
  obtain rfl := List.mem_singleton.mp hframe
  exact .ordered (@controlCommand_invite botTirio "Trula".toList (by decide) (by decide))

theorem bot_hears_tirio :
    ∃ sock, ((machine sampleConfig).run (loginEvents 2 trula ++ .opened 1 :: sampleSession)).sockets 1 =
        some sock ∧
      ∀ t, t ∈ sock.subscriptions ↔ t ∈ placeholders 1 ∨ (t ≠ [] ∧ t = "group_a".toList) ∨
        (t ∈ ["World".toList, "SomeChannel".toList, "Dungeon".toList] ∧ checkValidTopicName t = true) ∨
        t ∈ ["World".toList, "zone_Dungeon".toList, "tell_tirio".toList] := by
  obtain ⟨hsome, hfree, hgroup, hargs⟩ := sampleSession_run
  obtain ⟨sock, hfound, hlive⟩ := Option.map_eq_some_iff.mp hsome
  obtain ⟨-, -, hhears⟩ := bot_hears sampleConfig hargs (by decide) (by simp [hfree])
    (by simp [sampleSession]) textsAt_sampleSession canSend_sampleSession hfound hlive
  rw [hgroup] at hhears
  exact ⟨sock, hfound, hhears⟩

end Sessions

end Steps

end Server

end DaraChat
