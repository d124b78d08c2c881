import DaraChat.Server.Confinement
import Mathlib.Data.Finset.Basic

set_option autoImplicit false

/-! # The slots track the subscriptions

The used slots of a socket are meant to hold exactly the topics it is subscribed to, apart from
its placeholders. They do, in every state of a run, as long as no `subscribe:` frame names a
channel that is in a slot already with a free slot before it (`NoHole`): `StoreTopicSubscription`
takes the free slot without looking further, so the channel then stands in two slots, and its
removal empties one of them only. `slotsTrack_iff` says that this is the only way to break it.
-/

namespace DaraChat

open GroupContainer

/-- The slots of the open handler hold the subscriptions, without the placeholders. -/
structure Tracks (ws : SocketId) (sock : Socket) : Prop where
  capacity : sock.table.length = slotCount
  holds : SlotTable.Holds sock.table (sock.subscriptions \ (placeholders ws).toFinset)

section Tracks

variable {ws : SocketId} {sock : Socket}

theorem tracks_openSocket (ws : SocketId) : Tracks ws (openSocket ws) := by
  refine ⟨by rw [openSocket_table, List.length_replicate], ?_⟩
  rw [openSocket_table, openSocket_subscriptions, Finset.sdiff_self]
  exact SlotTable.holds_empty slotCount

/-- A placeholder has a character that no client's channel has. -/
theorem placeholder_not_valid {t : Str} (h : t ∈ placeholders ws) :
    checkValidTopicName t = false := by
  obtain ⟨i, -, rfl⟩ := List.mem_map.mp h
  have hbad : ((placeholder ws i).any fun c =>
      !("abcdefghijklmnopqrstuvwxyzABCDEFGHIJKLMNOPQRSTUVWXYZ0123456789_".toList.contains c)) =
      true := by
    rw [List.any_eq_true]
    exact ⟨'-', by simp [placeholder], by decide⟩
  unfold checkValidTopicName
  rw [hbad, Bool.or_true, Bool.not_true]
  split
  · rfl
  · split <;> rfl

/-- Storing a topic that is no placeholder, without a hole before it. -/
theorem Tracks.store (h : Tracks ws sock) {t : Str} (hplace : t ∉ placeholders ws)
    (hhole : SlotTable.holeBefore t sock.table = false) :
    Tracks ws (sock.storeTopicSubscription t) := by
  rcases sock.storeTopicSubscription_cases t with ⟨tbl, hstore, htable, hsubs⟩ | ⟨-, heq⟩
  · refine ⟨by rw [htable, SlotTable.length_store hstore, h.capacity], ?_⟩
    rw [htable, hsubs, Finset.insert_sdiff_of_notMem _ (by rwa [List.mem_toFinset])]
    exact h.holds.store hstore hhole
  · rwa [heq]

theorem Tracks.release (h : Tracks ws sock) (p : Str → Bool) : Tracks ws (sock.release p) := by
  rcases sock.release_cases p with ⟨oldTopic, tbl, hrelease, htable, hsubs⟩ | ⟨-, heq⟩
  · refine ⟨by rw [htable, SlotTable.length_release hrelease, h.capacity], ?_⟩
    rw [htable, hsubs, Finset.erase_sdiff_comm]
    exact h.holds.release hrelease
  · rwa [heq]

/-- After the removal of a topic no used slot names it. -/
theorem Tracks.notMem_removeTopicSubscription (h : Tracks ws sock) (t : Str) :
    t ∉ (sock.removeTopicSubscription t).usedTopics := by
  rcases sock.release_cases fun topic => decide (topic = t) with
    ⟨oldTopic, tbl, hrelease, htable, -⟩ | ⟨hnone, heq⟩
  · have hold : oldTopic = t := by simpa using (SlotTable.release_key hrelease).1
    rw [hold] at hrelease
    rw [Socket.removeTopicSubscription, Socket.usedTopics, htable]
    exact SlotTable.notMem_keys_release hrelease h.holds.nodup
  · rw [Socket.removeTopicSubscription, heq]
    intro ht
    have := SlotTable.release_eq_none.mp hnone t ht
    simp at this

/-- Storing a topic that no slot holds yet. -/
theorem Tracks.storeNew (h : Tracks ws sock) {t : Str} (hreserved : isReservedTopic t = true)
    (hnew : t ∉ sock.usedTopics) :
    Tracks ws (sock.storeTopicSubscription t) ∧
      ∀ x, x ∉ sock.usedTopics → x ≠ t → x ∉ (sock.storeTopicSubscription t).usedTopics := by
  refine ⟨h.store ?_ (SlotTable.holeBefore_of_notMem hnew), fun x hx hne hmem => ?_⟩
  · intro hplace
    rw [placeholder_not_reserved hplace] at hreserved
    cases hreserved
  · rcases sock.storeTopicSubscription_cases t with ⟨tbl, hstore, htable, -⟩ | ⟨-, heq⟩
    · rw [Socket.usedTopics, htable] at hmem
      exact ((SlotTable.mem_keys_store hstore).mp hmem).elim hne hx
    · rw [heq] at hmem
      exact hx hmem

theorem Tracks.subscribeGroupTopic (h : Tracks ws sock)
    (hgroup : sock.data.groupId = [] ∨ isGroupTopic sock.data.groupId = true)
    (hnew : isGroupTopic sock.data.groupId = true → sock.data.groupId ∉ sock.usedTopics) :
    Tracks ws sock.subscribeGroupTopic := by
  rcases hgroup with hnil | hgroup
  · rw [Socket.subscribeGroupTopic_of_nil hnil]
    exact h
  · rw [Socket.subscribeGroupTopic_eq hgroup]
    exact (h.storeNew (isReservedTopic_of_isGroupTopic hgroup) (hnew hgroup)).1

/-- The automatic topics of a login are four different topics. -/
theorem Tracks.subscribeStandardTopics (h : Tracks ws sock) (hnone : sock.usedTopics = [])
    (hgroup : sock.data.groupId = [] ∨ isGroupTopic sock.data.groupId = true) :
    Tracks ws sock.subscribeStandardTopics := by
  have hfree : ∀ x, x ∉ sock.usedTopics := by simp [hnone]
  have hzw : ∀ zone, zoneTopic zone ≠ worldTopic := by simp [zoneTopic, worldTopic]
  have htw : ∀ name, tellTopic name ≠ worldTopic := by simp [tellTopic, worldTopic]
  have htz : ∀ name zone, tellTopic name ≠ zoneTopic zone := by simp [tellTopic, zoneTopic]
  -- the topics are stored one after the other, each new to the table
  obtain ⟨h1, hnew1⟩ := h.storeNew isReservedTopic_worldTopic (hfree _)
  obtain ⟨h2, hnew2⟩ := h1.storeNew (isReservedTopic_zoneTopic
    (sock.storeTopicSubscription worldTopic).data.zone) (hnew1 _ (hfree _) (hzw _))
  obtain ⟨h3, hnew3⟩ := h2.storeNew (isReservedTopic_tellTopic
    ((sock.storeTopicSubscription worldTopic).storeTopicSubscription
      (zoneTopic (sock.storeTopicSubscription worldTopic).data.zone)).data.name)
    (hnew2 _ (hnew1 _ (hfree _) (htw _)) (htz _ _))
  refine h3.subscribeGroupTopic ?_ fun hg => hnew3 _ (hnew2 _ (hnew1 _ (hfree _) ?_) ?_) ?_
  · rw [(Socket.sameSession_storeTopicSubscription _ _).groupId,
      (Socket.sameSession_storeTopicSubscription _ _).groupId,
      (Socket.sameSession_storeTopicSubscription _ _).groupId]
    exact hgroup
  · intro heq
    rw [heq, isGroupTopic_worldTopic] at hg
    cases hg
  · intro heq
    rw [heq, isGroupTopic_zoneTopic] at hg
    cases hg
  · intro heq
    rw [heq, isGroupTopic_tellTopic] at hg
    cases hg

end Tracks

/-- The condition on a `subscribe:` frame: the channel it names does not stand behind a free
slot. -/
def NoHole (s : Server) (e : Event) : Prop :=
  ∀ p ∈ s.storing e, SlotTable.holeBefore p.2 p.1.table = false

instance (s : Server) (e : Event) : Decidable (NoHole s e) :=
  inferInstanceAs (Decidable (∀ p ∈ s.storing e, _))

/-- The guard of the runs that meet it. -/
def noHoleGuard : Server.Guard where
  stores := fun sock topic => SlotTable.holeBefore topic sock.table = false

/-- A socket is confined, and tracked while it is live. -/
def Tracked (ws : SocketId) (sock : Socket) : Prop :=
  Confined ws sock ∧ (sock.phase = .live → Tracks ws sock)

theorem tracked_invariant : SocketInvariant noHoleGuard Tracked where
  opened := fun ws => ⟨(confined_invariant noHoleGuard).opened ws, fun _ => tracks_openSocket ws⟩
  retired := fun ws sock phase hphase h =>
    ⟨(confined_invariant noHoleGuard).retired ws sock phase hphase h.1,
      fun hlive => absurd hlive hphase⟩
  enrolled := fun ws sock login groupId hlive hc hgroup hlogs h => by
    refine ⟨(confined_invariant noHoleGuard).enrolled ws sock login groupId hlive hc hgroup hlogs h.1,
      fun _ => Tracks.subscribeStandardTopics ⟨(h.2 hlive).capacity, (h.2 hlive).holds⟩ ?_ hgroup⟩
    rw [h.1.fresh hlive hc]
    exact openSocket_usedTopics ws
  stored := fun ws sock topic hconn hvalid hstores h => by
    refine ⟨(confined_invariant noHoleGuard).stored ws sock topic hconn hvalid hstores h.1,
      fun hlive => ?_⟩
    rw [(Socket.sameSession_storeTopicSubscription sock topic).phase] at hlive
    refine (h.2 hlive).store (fun hplace => ?_) hstores
    rw [placeholder_not_valid hplace] at hvalid
    cases hvalid
  removed := fun ws sock topic hconn hremoves h => by
    refine ⟨(confined_invariant noHoleGuard).removed ws sock topic hconn hremoves h.1,
      fun hlive => ?_⟩
    rw [(Socket.sameSession_removeTopicSubscription sock topic).phase] at hlive
    exact (h.2 hlive).release _
  left := fun ws sock hconn h => by
    refine ⟨(confined_invariant noHoleGuard).left ws sock hconn h.1, fun hlive => ?_⟩
    have hphase := (Socket.sameSession_removeGroupSubscription sock).phase
    have hleft := (h.2 (hphase.symm.trans hlive)).release isGroupTopic
    exact ⟨hleft.capacity, hleft.holds⟩
  entered := fun ws sock groupId hconn hfree hgroup henters h => by
    refine ⟨(confined_invariant noHoleGuard).entered ws sock groupId hconn hfree hgroup henters h.1,
      fun hlive => ?_⟩
    rw [(Socket.sameSession_subscribeGroupTopic _).phase] at hlive
    have htracks : Tracks ws (sock.setGroupId groupId) := ⟨(h.2 hlive).capacity, (h.2 hlive).holds⟩
    refine htracks.subscribeGroupTopic (Or.inr hgroup) fun _ hmem => ?_
    -- a socket without a group has no group slot to collide with
    have hnone := h.1.slots.filter_of_nil hfree
    rw [List.filter_eq_nil_iff] at hnone
    exact hnone groupId hmem hgroup

namespace Server

/-- In every live socket the topics in used slots are distinct, fit the slots, and are the
subscriptions apart from the placeholders; and a topic that is unsubscribed is in no slot. -/
def SlotsTrack (s : Server) : Prop :=
  ∀ ws sock, s.sockets ws = some sock → sock.phase = .live →
    sock.usedTopics.Nodup ∧ sock.usedTopics.length ≤ slotCount ∧
      (∀ t, t ∈ sock.usedTopics ↔ t ∈ sock.subscriptions ∧ t ∉ placeholders ws) ∧
      ∀ t, t ∉ (sock.removeTopicSubscription t).usedTopics

theorem slotsTrack_of_tracked {s : Server} (h : s.AllSockets Tracked) : SlotsTrack s := by
  intro ws sock hsock hlive
  have htracks := (h ws sock hsock).2 hlive
  refine ⟨htracks.holds.nodup, ?_, fun t => ?_, htracks.notMem_removeTopicSubscription⟩
  · rw [← htracks.capacity]
    exact List.length_filterMap_le _ _
  · rw [Socket.usedTopics, htracks.holds.mem, Finset.mem_sdiff, List.mem_toFinset]

theorem tracked_run (cfg : Config) (evs : List Event) (h : (machine cfg).Along NoHole evs) :
    ((machine cfg).run evs).AllSockets Tracked := by
  refine ((machine cfg).along_induction (C := NoHole)
    (P := fun _ s => s.Consistent ∧ s.AllSockets Tracked) ⟨consistent_init, allSockets_init⟩ ?_
    evs h).2
  intro evs e _ hhole hs
  have hallows : Guard.Allows noHoleGuard cfg ((machine cfg).run evs) e :=
    { allows_any cfg _ e with stores := hhole }
  exact ⟨consistent_step cfg hs.1, allSockets_step tracked_invariant cfg hallows hs.1 hs.2⟩

/-- What a `subscribe:` frame does. -/
theorem step_of_storing (cfg : Config) {s : Server} {e : Event} {sock : Socket} {topic : Str}
    (h : s.storing e = some (sock, topic)) :
    ∃ ws, s.sockets ws = some sock ∧ sock.phase = .live ∧
      s.step cfg e = s.setSocket ws (sock.storeTopicSubscription topic) := by
  cases e with
  | text env ws msg =>
      cases hsock : s.sockets ws with
      | none => simp [storing, hsock] at h
      | some sock' =>
          simp only [storing, hsock] at h
          split at h
          case isFalse => cases h
          case isTrue hc =>
            obtain ⟨rfl, rfl⟩ := Prod.mk.inj (Option.some.inj h)
            obtain ⟨hlive, hconn, hsub, hvalid⟩ := hc
            refine ⟨ws, hsock, hlive, ?_⟩
            have htext : s.step cfg (.text env ws msg) = handleText cfg env s ws sock' msg := by
              simp [step, hsock, hlive]
            -- a message that starts with `subscribe:` passes the earlier tests of the handler
            have hconnect : startsWith msg "connect:".toList = false :=
              startsWith_excl hsub (by decide) (by decide)
            have hschedule : startsWith msg "schedule:".toList = false :=
              startsWith_excl hsub (by decide) (by decide)
            rw [htext, handleText, hconnect, hschedule, hsub, hconn,
              Socket.handleSubscribeMessage]
            simp only [hvalid]
            rfl
  | opened ws => cases h
  | binary env ws data => cases h
  | closed env ws => cases h

/-- A frame that names a channel behind a free slot puts it into a second one. -/
theorem not_slotsTrack_step (cfg : Config) {s : Server} {e : Event} (h : ¬ NoHole s e) :
    ¬ SlotsTrack (s.step cfg e) := by
  obtain ⟨⟨sock, topic⟩, hstoring, hhole⟩ : ∃ p ∈ s.storing e,
      SlotTable.holeBefore p.2 p.1.table = true := by
    by_contra hnone
    refine h fun p hp => ?_
    by_contra hp'
    exact hnone ⟨p, hp, by simpa using hp'⟩
  obtain ⟨ws, hsock, hlive, hstep⟩ := step_of_storing cfg hstoring
  rw [hstep]
  intro htrack
  have hnodup := (htrack ws _ (setSocket_sockets_self ..)
    ((Socket.sameSession_storeTopicSubscription sock topic).phase.trans hlive)).1
  rcases sock.storeTopicSubscription_cases topic with ⟨tbl, hstore, htable, -⟩ | ⟨hnone, -⟩
  · rw [Socket.usedTopics, htable] at hnodup
    exact SlotTable.not_nodup_store hstore hhole hnodup
  · exact absurd hnone (SlotTable.store_ne_none_of_free (SlotTable.free_of_holeBefore hhole))

/-- **When the slot table tracks the subscriptions**: in every state along a run, exactly when
no `subscribe:` frame of the run names a channel behind a free slot. -/
theorem slotsTrack_iff (cfg : Config) (evs : List Event) :
    (∀ pre, pre <+: evs → SlotsTrack ((machine cfg).run pre)) ↔ (machine cfg).Along NoHole evs := by
  constructor
  · intro h
    rw [(machine cfg).along_iff]
    rintro pre e post rfl
    by_contra hhole
    refine not_slotsTrack_step cfg hhole ?_
    have hstep := h (pre ++ [e]) ⟨post, by simp⟩
    rwa [Machine.run_snoc] at hstep
  · rintro h pre ⟨post, rfl⟩
    rw [Machine.Along, Machine.alongFrom_append] at h
    exact slotsTrack_of_tracked (tracked_run cfg pre h.1)

/-- Tirio subscribes to two channels, drops the first, and names the second again. -/
def duplicateEvents : List Event :=
  loginEvents 1 tirio ++
    [ .text (sampleEnv 1001 "") 1 "subscribe:Trade".toList
    , .text (sampleEnv 1002 "") 1 "subscribe:Help".toList
    , .text (sampleEnv 1003 "") 1 "unsubscribe:Trade".toList
    , .text (sampleEnv 1004 "") 1 "subscribe:Help".toList ]

/-- The second channel then stands in two slots, and one of them outlives its removal. -/
theorem not_slotsTrack_duplicateEvents :
    ¬ SlotsTrack ((machine sampleConfig).run duplicateEvents) ∧
      (((machine sampleConfig).run (duplicateEvents ++
        [.text (sampleEnv 1005 "") 1 "unsubscribe:Help".toList])).sockets 1).map
        (fun sock => (decide ("Help".toList ∈ sock.usedTopics),
          decide ("Help".toList ∈ sock.subscriptions))) = some (true, false) := by
  have hevents : (((machine sampleConfig).run duplicateEvents).sockets 1).map
        (fun sock => (sock.phase, decide sock.usedTopics.Nodup)) = some (.live, false) ∧
      (((machine sampleConfig).run (duplicateEvents ++
        [.text (sampleEnv 1005 "") 1 "unsubscribe:Help".toList])).sockets 1).map
        (fun sock => (decide ("Help".toList ∈ sock.usedTopics),
          decide ("Help".toList ∈ sock.subscriptions))) = some (true, false) := by
    decide +kernel
  obtain ⟨hrun, hremoved⟩ := hevents
  refine ⟨fun htrack => ?_, hremoved⟩
  obtain ⟨sock, hsock, heq⟩ := Option.map_eq_some_iff.mp hrun
  obtain ⟨hlive, hnodup⟩ := Prod.mk.inj heq
  exact absurd (htrack 1 sock hsock hlive).1 (of_decide_eq_false hnodup)

end Server

end DaraChat
