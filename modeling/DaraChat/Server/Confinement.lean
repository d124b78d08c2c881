import DaraChat.Server.Slots

set_option autoImplicit false

/-! # Reserved topics stay confined

World, zone, tell and group topics are reserved: no client text puts one into a slot
(`checkValidTopicName_reserved`), the automatic subscriptions put in only the session's own, and
at most one slot holds a group topic, that of the cached group id. A session is subscribed to
nothing but its placeholders and the topics in its used slots. So the reserved topics it is
subscribed to are its own, and with the cached id coherent, its group is the one it is in.
-/

namespace DaraChat

open GroupContainer

/-- World, and every topic with one of the three prefixes. -/
def isReservedTopic (t : Str) : Bool :=
  decide (t = worldTopic) || startsWith t "zone_".toList || startsWith t "tell_".toList ||
    isGroupTopic t

/-- No client text names a reserved topic. -/
theorem checkValidTopicName_reserved {t : Str} (h : checkValidTopicName t = true) :
    isReservedTopic t = false := by
  unfold checkValidTopicName at h
  split at h
  · cases h
  case isFalse h1 =>
    split at h
    · cases h
    case isFalse h2 =>
      simp only [Bool.or_eq_true, not_or, Bool.not_eq_true, decide_eq_true_eq] at h1 h2
      simp only [isReservedTopic, h1.1, h2.1, h2.2, decide_eq_false h1.2, Bool.or_self]

theorem isReservedTopic_of_isGroupTopic {t : Str} (h : isGroupTopic t = true) :
    isReservedTopic t = true := by
  simp [isReservedTopic, h]

theorem placeholder_not_reserved {ws : SocketId} {t : Str} (h : t ∈ placeholders ws) :
    isReservedTopic t = false := by
  have hworld : t ≠ worldTopic := by
    rintro rfl
    have hstart : startsWith worldTopic ['W'] = false := placeholder_not_startsWith h (by decide)
    exact absurd hstart (by decide)
  have hstart : ∀ {c : Char} {start : Str}, c.isDigit = false → startsWith t (c :: start) = false :=
    fun hc => placeholder_not_startsWith h hc
  have hz : startsWith t "zone_".toList = false := hstart (by decide)
  have ht : startsWith t "tell_".toList = false := hstart (by decide)
  have hg : isGroupTopic t = false := hstart (by decide)
  simp only [isReservedTopic, hz, ht, hg, decide_eq_false hworld, Bool.or_self]

/-- The three automatic topics are not group topics. -/
theorem isGroupTopic_worldTopic : isGroupTopic worldTopic = false := by decide

theorem isGroupTopic_zoneTopic (zone : Str) : isGroupTopic (zoneTopic zone) = false := by
  simp [isGroupTopic, zoneTopic, startsWith, List.isPrefixOf]

theorem isGroupTopic_tellTopic (name : Str) : isGroupTopic (tellTopic name) = false := by
  simp [isGroupTopic, tellTopic, startsWith, List.isPrefixOf]

theorem isReservedTopic_worldTopic : isReservedTopic worldTopic = true := by decide

theorem isReservedTopic_zoneTopic (zone : Str) : isReservedTopic (zoneTopic zone) = true := by
  simp [isReservedTopic, zoneTopic, startsWith, List.isPrefixOf]

theorem isReservedTopic_tellTopic (name : Str) : isReservedTopic (tellTopic name) = true := by
  simp [isReservedTopic, tellTopic, startsWith, List.isPrefixOf]

/-! ## The invariant of one socket -/

/-- What slots and subscriptions of the socket at `ws` hold. -/
structure SlotsConfined (ws : SocketId) (sock : Socket) : Prop where
  subscribed : ∀ t ∈ sock.subscriptions, t ∈ placeholders ws ∨ t ∈ sock.usedTopics
  own : ∀ t ∈ sock.usedTopics, checkValidTopicName t = true ∨ t = worldTopic ∨
    t = zoneTopic sock.data.zone ∨ t = tellTopic sock.data.name ∨ isGroupTopic t = true
  grouped : (sock.usedTopics.filter isGroupTopic).Sublist [sock.data.groupId]

section SlotsConfined

variable {ws : SocketId} {sock : Socket}

theorem slotsConfined_openSocket (ws : SocketId) : SlotsConfined ws (openSocket ws) where
  subscribed := fun _ ht => Or.inl (List.mem_toFinset.mp ht)
  own := by
    intro t ht
    rw [openSocket_usedTopics] at ht
    cases ht
  grouped := by
    rw [openSocket_usedTopics]
    exact List.nil_sublist _

/-- Storing a topic that the session may have. -/
theorem SlotsConfined.store (h : SlotsConfined ws sock) {t : Str}
    (hown : checkValidTopicName t = true ∨ t = worldTopic ∨ t = zoneTopic sock.data.zone ∨
      t = tellTopic sock.data.name ∨ isGroupTopic t = true)
    (hgroup : isGroupTopic t = true → t = sock.data.groupId ∧
      sock.usedTopics.filter isGroupTopic = []) :
    SlotsConfined ws (sock.storeTopicSubscription t) := by
  have hsame := Socket.sameSession_storeTopicSubscription sock t
  rcases sock.storeTopicSubscription_cases t with ⟨tbl, hstore, htable, hsubs⟩ | ⟨-, heq⟩
  · have hused : ∀ x, x ∈ (sock.storeTopicSubscription t).usedTopics ↔
        x = t ∨ x ∈ sock.usedTopics := by
      intro x
      rw [Socket.usedTopics, htable]
      exact SlotTable.mem_keys_store hstore
    refine ⟨fun x hx => ?_, fun x hx => ?_, ?_⟩
    · rw [hsubs, Finset.mem_insert] at hx
      rcases hx with rfl | hx
      · exact Or.inr ((hused x).mpr (Or.inl rfl))
      · exact (h.subscribed x hx).imp_right fun hx => (hused x).mpr (Or.inr hx)
    · rw [hsame.zone, hsame.name]
      rcases (hused x).mp hx with rfl | hx
      · exact hown
      · exact h.own x hx
    · rw [hsame.groupId, Socket.usedTopics, htable]
      -- a group topic is stored only while no slot holds one
      by_cases hg : isGroupTopic t = true
      · obtain ⟨rfl, hnone⟩ := hgroup hg
        rw [SlotTable.filter_keys_store_of_pos hstore hg hnone]
      · rw [SlotTable.filter_keys_store_of_neg hstore (by simpa using hg)]
        exact h.grouped
  · rw [heq]
    exact h

/-- Releasing a slot. -/
theorem SlotsConfined.release (h : SlotsConfined ws sock) (p : Str → Bool) :
    SlotsConfined ws (sock.release p) := by
  have hsame := Socket.sameSession_release sock p
  rcases sock.release_cases p with ⟨oldTopic, tbl, hrelease, htable, hsubs⟩ | ⟨-, heq⟩
  · have hsub : (sock.release p).usedTopics.Sublist sock.usedTopics := by
      rw [Socket.usedTopics, htable]
      exact SlotTable.keys_release_sublist hrelease
    refine ⟨fun x hx => ?_, fun x hx => ?_, ?_⟩
    · rw [hsubs, Finset.mem_erase] at hx
      refine (h.subscribed x hx.2).imp_right fun hused => ?_
      rw [Socket.usedTopics, htable]
      exact (SlotTable.mem_keys_release hrelease hx.1).mpr hused
    · rw [hsame.zone, hsame.name]
      exact h.own x (hsub.subset hx)
    · rw [hsame.groupId]
      exact (hsub.filter _).trans h.grouped
  · rw [heq]
    exact h

/-- After the release of the group slot no slot holds a group topic. -/
theorem SlotsConfined.filter_removeGroupSubscription (h : SlotsConfined ws sock) :
    sock.removeGroupSubscription.usedTopics.filter isGroupTopic = [] := by
  rcases sock.release_cases isGroupTopic with ⟨oldTopic, tbl, hrelease, htable, -⟩ | ⟨hnone, heq⟩
  · rw [Socket.removeGroupSubscription, Socket.usedTopics, htable]
    exact SlotTable.filter_keys_release hrelease h.grouped.length_le
  · rw [Socket.removeGroupSubscription, heq, List.filter_eq_nil_iff]
    intro t ht
    rw [SlotTable.release_eq_none.mp hnone t ht]
    exact Bool.false_ne_true

/-- A session without a group id has no group slot. -/
theorem SlotsConfined.filter_of_nil (h : SlotsConfined ws sock) (hfree : sock.data.groupId = []) :
    sock.usedTopics.filter isGroupTopic = [] := by
  rw [List.filter_eq_nil_iff]
  intro t ht hg
  have hmem := h.grouped.subset (List.mem_filter.mpr ⟨ht, hg⟩)
  rw [List.mem_singleton, hfree] at hmem
  rw [hmem] at hg
  exact absurd hg (by decide)

/-- The group id may change while no slot holds a group topic. -/
theorem SlotsConfined.setGroupId (h : SlotsConfined ws sock) (groupId : Str)
    (hnone : sock.usedTopics.filter isGroupTopic = []) :
    SlotsConfined ws (sock.setGroupId groupId) where
  subscribed := h.subscribed
  own := h.own
  grouped := by
    rw [Socket.usedTopics_setGroupId, hnone]
    exact List.nil_sublist _

/-- Subscribing to the group while no slot holds a group topic. -/
theorem SlotsConfined.subscribeGroupTopic (h : SlotsConfined ws sock)
    (hgroup : sock.data.groupId = [] ∨ isGroupTopic sock.data.groupId = true)
    (hnone : sock.usedTopics.filter isGroupTopic = []) :
    SlotsConfined ws sock.subscribeGroupTopic := by
  rcases hgroup with hnil | hgroup
  · rw [Socket.subscribeGroupTopic_of_nil hnil]
    exact h
  · rw [Socket.subscribeGroupTopic_eq hgroup]
    exact h.store (by simp [hgroup]) fun _ => ⟨rfl, hnone⟩

/-- Storing a topic of another kind leaves the group slots as they are. -/
theorem filter_storeTopicSubscription (sock : Socket) {t : Str} (ht : isGroupTopic t = false) :
    (sock.storeTopicSubscription t).usedTopics.filter isGroupTopic =
      sock.usedTopics.filter isGroupTopic := by
  rcases sock.storeTopicSubscription_cases t with ⟨tbl, hstore, htable, -⟩ | ⟨-, heq⟩
  · rw [Socket.usedTopics, htable]
    exact SlotTable.filter_keys_store_of_neg hstore ht
  · rw [heq]

/-- Storing one of the topics that are not group topics. -/
theorem SlotsConfined.storeAutomatic (h : SlotsConfined ws sock) {t : Str}
    (hown : t = worldTopic ∨ t = zoneTopic sock.data.zone ∨ t = tellTopic sock.data.name)
    (ht : isGroupTopic t = false) (hnone : sock.usedTopics.filter isGroupTopic = []) :
    SlotsConfined ws (sock.storeTopicSubscription t) ∧
      (sock.storeTopicSubscription t).usedTopics.filter isGroupTopic = [] := by
  refine ⟨h.store (by tauto) fun hg => ?_, (filter_storeTopicSubscription sock ht).trans hnone⟩
  rw [ht] at hg
  cases hg

theorem SlotsConfined.subscribeStandardTopics (h : SlotsConfined ws sock)
    (hgroup : sock.data.groupId = [] ∨ isGroupTopic sock.data.groupId = true)
    (hnone : sock.usedTopics.filter isGroupTopic = []) :
    SlotsConfined ws sock.subscribeStandardTopics := by
  obtain ⟨h1, hnone1⟩ := h.storeAutomatic (Or.inl rfl) isGroupTopic_worldTopic hnone
  obtain ⟨h2, hnone2⟩ := h1.storeAutomatic (Or.inr (Or.inl rfl)) (isGroupTopic_zoneTopic _) hnone1
  obtain ⟨h3, hnone3⟩ := h2.storeAutomatic (Or.inr (Or.inr rfl)) (isGroupTopic_tellTopic _) hnone2
  refine h3.subscribeGroupTopic ?_ hnone3
  rw [(Socket.sameSession_storeTopicSubscription _ _).groupId,
    (Socket.sameSession_storeTopicSubscription _ _).groupId,
    (Socket.sameSession_storeTopicSubscription _ _).groupId]
  exact hgroup

end SlotsConfined

/-- What holds of every socket: before its login it is as the open handler left it. -/
structure Confined (ws : SocketId) (sock : Socket) : Prop where
  fresh : sock.phase = .live → sock.data.connected = false → sock = openSocket ws
  slots : SlotsConfined ws sock

/-- A connected socket is confined by its slots. -/
theorem Confined.of_connected {ws : SocketId} {sock : Socket} (hconn : sock.data.connected = true)
    (hslots : SlotsConfined ws sock) : Confined ws sock := by
  refine ⟨fun _ hc => ?_, hslots⟩
  rw [hconn] at hc
  cases hc

/-- **Every operation on a socket keeps it confined.** -/
theorem confined_invariant (guard : Server.Guard) : SocketInvariant guard Confined where
  opened := fun ws => ⟨fun _ _ => rfl, slotsConfined_openSocket ws⟩
  retired := fun ws sock phase hphase h => by
    refine ⟨fun hlive => absurd hlive hphase, ⟨fun t ht => ?_, h.slots.own, h.slots.grouped⟩⟩
    exact absurd ht (Finset.notMem_empty t)
  enrolled := fun ws sock login groupId hlive hc hgroup _ h => by
    have hsame := Socket.sameSession_subscribeStandardTopics
      (({ sock with data := Server.handleConnect sock.data login } : Socket).setGroupId groupId)
    refine Confined.of_connected (hsame.connected.trans rfl) ?_
    -- the socket is as the open handler left it, with all slots free
    have hnone : sock.usedTopics = [] := by
      rw [h.fresh hlive hc]
      exact openSocket_usedTopics ws
    refine SlotsConfined.subscribeStandardTopics ⟨h.slots.subscribed, ?_, ?_⟩ hgroup ?_
    · intro t ht
      change t ∈ sock.usedTopics at ht
      rw [hnone] at ht
      cases ht
    · show (sock.usedTopics.filter isGroupTopic).Sublist _
      rw [hnone]
      exact List.nil_sublist _
    · show sock.usedTopics.filter isGroupTopic = []
      rw [hnone]
      rfl
  stored := fun ws sock topic hconn hvalid _ h => by
    have hsame := Socket.sameSession_storeTopicSubscription sock topic
    refine Confined.of_connected (hsame.connected.trans hconn)
      (h.slots.store (Or.inl hvalid) fun hg => ?_)
    have hreserved := checkValidTopicName_reserved hvalid
    rw [isReservedTopic_of_isGroupTopic hg] at hreserved
    cases hreserved
  removed := fun ws sock topic hconn _ h => by
    have hsame := Socket.sameSession_removeTopicSubscription sock topic
    exact Confined.of_connected (hsame.connected.trans hconn) (h.slots.release _)
  left := fun ws sock hconn h => by
    have hsame := Socket.sameSession_removeGroupSubscription sock
    exact Confined.of_connected (hsame.connected.trans hconn)
      (SlotsConfined.setGroupId (h.slots.release _) [] h.slots.filter_removeGroupSubscription)
  entered := fun ws sock groupId hconn hfree hgroup _ h => by
    have hsame := Socket.sameSession_subscribeGroupTopic (sock.setGroupId groupId)
    have hnone := h.slots.filter_of_nil hfree
    exact Confined.of_connected (hsame.connected.trans hconn)
      ((h.slots.setGroupId groupId hnone).subscribeGroupTopic (Or.inr hgroup) hnone)

namespace Server

/-- Every reserved topic that an open session is subscribed to is World, its zone, its own tell
topic, or the id of the group its character is a member of. -/
def ReservedConfined (s : Server) : Prop :=
  ∀ ws sock, s.Session ws sock → ∀ t ∈ sock.subscriptions, isReservedTopic t = true →
    t = worldTopic ∨ t = zoneTopic sock.data.zone ∨ t = tellTopic sock.data.name ∨
      ∃ m ∈ s.groupContainer.myGroups, m.name = sock.data.name ∧ t = m.groupId

theorem reservedConfined_run (cfg : Config) (evs : List Event) :
    ReservedConfined ((machine cfg).run evs) := by
  intro ws sock hs t ht hreserved
  have hslots := (allSockets_run (confined_invariant {}) cfg evs ws sock hs.found).slots
  rcases hslots.subscribed t ht with hplace | hused
  · rw [placeholder_not_reserved hplace] at hreserved
    cases hreserved
  · rcases hslots.own t hused with hvalid | hworld | hzone | htell | hgroup
    · rw [checkValidTopicName_reserved hvalid] at hreserved
      cases hreserved
    · exact Or.inl hworld
    · exact Or.inr (Or.inl hzone)
    · exact Or.inr (Or.inr (Or.inl htell))
    · -- the only group slot holds the cached id, which is the one in the container
      have hid := hslots.grouped.subset (List.mem_filter.mpr ⟨hused, hgroup⟩)
      rw [List.mem_singleton, (consistent_run cfg evs).groupId hs] at hid
      have hne : ((machine cfg).run evs).groupContainer.groupIdOf sock.data.name ≠ [] := by
        rw [← hid]
        exact ne_nil_of_startsWith hgroup
      obtain ⟨m, hm, hname, hm'⟩ := exists_mem_of_groupIdOf hne
      exact Or.inr (Or.inr (Or.inr ⟨m, hm, hname, hid.trans hm'.symm⟩))

/-- A `subscribe:` frame subscribes to no reserved topic, whatever it says. -/
theorem handleSubscribeMessage_reserved (sock : Socket) (msg : Str) {t : Str}
    (ht : t ∈ (sock.handleSubscribeMessage msg).subscriptions)
    (hreserved : isReservedTopic t = true) : t ∈ sock.subscriptions := by
  by_cases hvalid : checkValidTopicName (msg.drop "subscribe:".toList.length) = true
  · rw [Socket.handleSubscribeMessage, if_neg (by rw [hvalid]; decide)] at ht
    rcases sock.storeTopicSubscription_cases (msg.drop "subscribe:".toList.length) with
      ⟨-, -, -, hsubs⟩ | ⟨-, heq⟩
    · rw [hsubs, Finset.mem_insert] at ht
      rcases ht with rfl | ht
      · rw [checkValidTopicName_reserved hvalid] at hreserved
        cases hreserved
      · exact ht
    · rwa [heq] at ht
  · rw [Bool.not_eq_true] at hvalid
    rwa [Socket.handleSubscribeMessage, if_pos (by rw [hvalid]; decide)] at ht

/-- **Private topics stay confined**: in every reachable state the reserved topics of an open
session are its own, and no client text subscribes to another. -/
theorem privateTopics_confined (cfg : Config) (evs : List Event) :
    ReservedConfined ((machine cfg).run evs) ∧
      ∀ (sock : Socket) (msg t : Str), t ∈ (sock.handleSubscribeMessage msg).subscriptions →
        isReservedTopic t = true → t ∈ sock.subscriptions :=
  ⟨reservedConfined_run cfg evs, fun sock msg _ => handleSubscribeMessage_reserved sock msg⟩

end Server

end DaraChat
