import DaraChat.Server.Acceptance
import DaraChat.Server.Confinement

set_option autoImplicit false

/-! # Sessions receive their group's traffic

A session that never unsubscribes stays subscribed to World, its zone and its tell topic, which
its login stores in empty slots. To the topic of its group it is subscribed when it enters one,
if a slot is free then: `SubscribeGroupTopic` gives up silently when the table is full, and the
member is in the group without hearing it. `HasRoom` is that condition on an event, and
`trafficReceived_iff` says that nothing else goes wrong.
-/

namespace DaraChat

open GroupContainer

/-! ## Subscriptions of one socket -/

section Socket

variable {sock : Socket}

theorem mem_subscriptions_store (t : Str) {x : Str} (h : x ∈ sock.subscriptions) :
    x ∈ (sock.storeTopicSubscription t).subscriptions := by
  rcases sock.storeTopicSubscription_cases t with ⟨-, -, -, hsubs⟩ | ⟨-, heq⟩
  · rw [hsubs]
    exact Finset.mem_insert_of_mem h
  · rwa [heq]

/-- With a free slot, storing subscribes, and takes one free slot at most. -/
theorem mem_subscriptions_store_self (t : Str) (hfree : none ∈ sock.table) :
    t ∈ (sock.storeTopicSubscription t).subscriptions ∧
      SlotTable.free sock.table ≤ SlotTable.free (sock.storeTopicSubscription t).table + 1 := by
  rcases sock.storeTopicSubscription_cases t with ⟨tbl, hstore, htable, hsubs⟩ | ⟨hnone, -⟩
  · rw [hsubs, htable]
    exact ⟨Finset.mem_insert_self .., SlotTable.free_store hstore⟩
  · exact absurd hnone (SlotTable.store_ne_none_of_free hfree)

/-- Leaving a group unsubscribes from a group topic only. -/
theorem mem_subscriptions_removeGroupSubscription {x : Str} (h : x ∈ sock.subscriptions)
    (hx : isGroupTopic x = false) : x ∈ sock.removeGroupSubscription.subscriptions := by
  rcases sock.release_cases isGroupTopic with ⟨oldTopic, tbl, hrelease, -, hsubs⟩ | ⟨-, heq⟩
  · rw [Socket.removeGroupSubscription, hsubs]
    refine Finset.mem_erase_of_ne_of_mem ?_ h
    rintro rfl
    rw [(SlotTable.release_key hrelease).1] at hx
    cases hx
  · rwa [Socket.removeGroupSubscription, heq]

end Socket

/-- The session hears World, its zone and its tells. -/
structure HearsAutomatic (sock : Socket) : Prop where
  world : worldTopic ∈ sock.subscriptions
  zone : zoneTopic sock.data.zone ∈ sock.subscriptions
  tell : tellTopic sock.data.name ∈ sock.subscriptions

/-- And its group, if it is in one. -/
structure Hears (sock : Socket) : Prop extends HearsAutomatic sock where
  group : sock.data.groupId ≠ [] → sock.data.groupId ∈ sock.subscriptions

section Hears

variable {sock sock' : Socket}

/-- What the session hears does not shrink while its subscriptions do not. -/
theorem HearsAutomatic.mono (h : HearsAutomatic sock) (hsame : Socket.SameSession sock sock')
    (hsubs : ∀ x, isGroupTopic x = false → x ∈ sock.subscriptions → x ∈ sock'.subscriptions) :
    HearsAutomatic sock' where
  world := hsubs _ isGroupTopic_worldTopic h.world
  zone := by
    rw [hsame.zone]
    exact hsubs _ (isGroupTopic_zoneTopic _) h.zone
  tell := by
    rw [hsame.name]
    exact hsubs _ (isGroupTopic_tellTopic _) h.tell

theorem HearsAutomatic.store (h : HearsAutomatic sock) (t : Str) :
    HearsAutomatic (sock.storeTopicSubscription t) :=
  h.mono (Socket.sameSession_storeTopicSubscription sock t)
    fun _ _ hx => mem_subscriptions_store t hx

theorem Hears.store (h : Hears sock) (t : Str) : Hears (sock.storeTopicSubscription t) where
  toHearsAutomatic := h.toHearsAutomatic.store t
  group := by
    rw [(Socket.sameSession_storeTopicSubscription sock t).groupId]
    exact fun hg => mem_subscriptions_store t (h.group hg)

theorem Hears.left (h : Hears sock) : Hears (sock.removeGroupSubscription.setGroupId []) := by
  have hauto := h.toHearsAutomatic.mono (Socket.sameSession_removeGroupSubscription sock)
    fun _ hx hmem => mem_subscriptions_removeGroupSubscription hmem hx
  exact ⟨⟨hauto.world, hauto.zone, hauto.tell⟩, fun hg => absurd rfl hg⟩

/-- Subscribing to the group with a free slot. -/
theorem HearsAutomatic.subscribeGroupTopic (h : HearsAutomatic sock)
    (hgroup : isGroupTopic sock.data.groupId = true) (hfree : none ∈ sock.table) :
    Hears sock.subscribeGroupTopic := by
  rw [Socket.subscribeGroupTopic_eq hgroup]
  refine ⟨h.store _, fun _ => ?_⟩
  rw [(Socket.sameSession_storeTopicSubscription sock _).groupId]
  exact (mem_subscriptions_store_self _ hfree).1

/-- A login finds room for its four topics. -/
theorem hears_subscribeStandardTopics (hgroup : sock.data.groupId = [] ∨
    isGroupTopic sock.data.groupId = true) (hroom : 4 ≤ SlotTable.free sock.table) :
    Hears sock.subscribeStandardTopics := by
  set sock1 := sock.storeTopicSubscription worldTopic with hsock1
  set sock2 := sock1.storeTopicSubscription (zoneTopic sock1.data.zone) with hsock2
  set sock3 := sock2.storeTopicSubscription (tellTopic sock2.data.name) with hsock3
  have hs2 : Socket.SameSession sock1 sock2 := Socket.sameSession_storeTopicSubscription ..
  have hs3 : Socket.SameSession sock2 sock3 := Socket.sameSession_storeTopicSubscription ..
  have hs : Socket.SameSession sock sock3 :=
    ((Socket.sameSession_storeTopicSubscription ..).trans hs2).trans hs3
  -- each of the three takes one slot at most, which leaves one for the group
  obtain ⟨hworld, hfree1⟩ := mem_subscriptions_store_self worldTopic
    (SlotTable.mem_of_free_pos (by omega : 0 < SlotTable.free sock.table))
  rw [← hsock1] at hfree1
  obtain ⟨hzone, hfree2⟩ := mem_subscriptions_store_self (zoneTopic sock1.data.zone)
    (SlotTable.mem_of_free_pos (by omega : 0 < SlotTable.free sock1.table))
  rw [← hsock2] at hfree2
  obtain ⟨htell, hfree3⟩ := mem_subscriptions_store_self (tellTopic sock2.data.name)
    (SlotTable.mem_of_free_pos (by omega : 0 < SlotTable.free sock2.table))
  rw [← hsock3] at hfree3
  have hauto : HearsAutomatic sock3 :=
    { world := mem_subscriptions_store _ (mem_subscriptions_store _ hworld)
      zone := by
        rw [hs3.zone, hs2.zone]
        exact mem_subscriptions_store _ hzone
      tell := by
        rw [hs3.name]
        exact htell }
  have heq : sock.subscribeStandardTopics = sock3.subscribeGroupTopic := rfl
  rw [heq]
  rcases hgroup with hnil | hgroup
  · have hnil3 : sock3.data.groupId = [] := hs.groupId.trans hnil
    rw [Socket.subscribeGroupTopic_of_nil hnil3]
    exact ⟨hauto, fun hg => absurd hnil3 hg⟩
  · refine hauto.subscribeGroupTopic (by rw [hs.groupId]; exact hgroup) ?_
    exact SlotTable.mem_of_free_pos (by omega)

end Hears

namespace Server

/-! ## Sessions that have not unsubscribed -/

/-- The address at which a socket opens. -/
def opening (s : Server) : Event → Option SocketId
  | .opened ws => if ∀ sock ∈ s.sockets ws, sock.phase = .closed then some ws else none
  | _ => none

/-- Notes which sockets have sent an `unsubscribe:` frame since they opened. -/
def noteUnsubscribe (s : Server) (e : Event) (unsubscribed : SocketId → Bool) : SocketId → Bool :=
  match s.removing e with
  | some ws => Function.update unsubscribed ws true
  | none =>
      match s.opening e with
      | some ws => Function.update unsubscribed ws false
      | none => unsubscribed

/-- The sockets that have sent an `unsubscribe:` frame since they opened, after a run. -/
def unsubscribed (cfg : Config) (evs : List Event) : SocketId → Bool :=
  (machine cfg).observe noteUnsubscribe (fun _ => false) evs

/-- A socket that enters a group without having unsubscribed has a free slot. -/
def HasRoom (p : Server × (SocketId → Bool)) (e : Event) : Prop :=
  ∀ q ∈ p.1.entering e, p.2 q.1 = false → none ∈ q.2.table

instance (p : Server × (SocketId → Bool)) (e : Event) : Decidable (HasRoom p e) :=
  inferInstanceAs (Decidable (∀ q ∈ p.1.entering e, _))

/-- Every open session that has not unsubscribed is subscribed to World, its zone, its tells and,
in a group, to the topic that is published on for it. -/
def TrafficReceived (s : Server) (unsubscribed : SocketId → Bool) : Prop :=
  ∀ ws sock, s.Session ws sock → unsubscribed ws = false →
    worldTopic ∈ sock.subscriptions ∧ zoneTopic sock.data.zone ∈ sock.subscriptions ∧
      tellTopic sock.data.name ∈ sock.subscriptions ∧
      (sock.data.groupId ≠ [] → getGroupTopic sock.data.groupId = sock.data.groupId ∧
        sock.data.groupId ∈ sock.subscriptions)

section Notes

variable {s : Server} {e : Event} {u : SocketId → Bool} {ws : SocketId}

theorem closed_of_opening (h : s.opening e = some ws) {sock : Socket}
    (hsock : s.sockets ws = some sock) : sock.phase = .closed := by
  cases e with
  | opened ws' =>
      simp only [opening] at h
      split at h
      case isTrue hclosed =>
        obtain rfl := Option.some.inj h
        exact hclosed sock hsock
      case isFalse => cases h
  | text env ws' msg => cases h
  | binary env ws' data => cases h
  | closed env ws' => cases h

/-- A live socket that has not unsubscribed after the event had not before it. -/
theorem not_unsubscribed_of_note {sock : Socket} (h : s.sockets ws = some sock)
    (hlive : sock.phase = .live) (hu : noteUnsubscribe s e u ws = false) : u ws = false := by
  cases hremoving : s.removing e with
  | some ws' =>
      simp only [noteUnsubscribe, hremoving] at hu
      by_cases hws : ws = ws'
      · rw [hws, Function.update_self] at hu
        cases hu
      · rwa [Function.update_of_ne hws] at hu
  | none =>
      cases hopening : s.opening e with
      | some ws' =>
          simp only [noteUnsubscribe, hremoving, hopening] at hu
          by_cases hws : ws = ws'
          · rw [hws] at h
            rw [closed_of_opening hopening h] at hlive
            cases hlive
          · rwa [Function.update_of_ne hws] at hu
      | none => simpa only [noteUnsubscribe, hremoving, hopening] using hu

/-- An `unsubscribe:` frame is noted. -/
theorem note_of_removing (h : s.removing e = some ws) : noteUnsubscribe s e u ws = true := by
  simp only [noteUnsubscribe, h]
  exact Function.update_self ..

/-- A chat command is no `unsubscribe:` frame. -/
theorem note_of_chatCommand {cmd : ChatCommand} (h : s.chatCommand e = some cmd) :
    noteUnsubscribe s e u = u := by
  obtain ⟨msg, rfl, hs, hparse, -⟩ := text_of_chatCommand h
  have hstart : startsWith msg "unsubscribe:".toList = false :=
    startsWith_of_parsed hparse (by decide)
  have hremoving : s.removing (.text cmd.env cmd.ws msg) = none := by
    simp only [removing, hs.found]
    exact if_neg fun hall => by rw [hstart] at hall; exact absurd hall.2.2 (by decide)
  simp only [noteUnsubscribe, hremoving, opening]

end Notes

/-! ## Runs -/

/-- A socket is confined, and a session that has not unsubscribed hears what it should. -/
def Heard (unsubscribed : SocketId → Bool) (ws : SocketId) (sock : Socket) : Prop :=
  Confined ws sock ∧
    (unsubscribed ws = false → sock.phase = .live → sock.data.connected = true → Hears sock)

/-- What is known when a socket enters a group and when one removes a channel. -/
def roomGuard (unsubscribed : SocketId → Bool) : Guard where
  enters := fun ws sock => unsubscribed ws = false → none ∈ sock.table
  removes := fun ws => unsubscribed ws = true

theorem heard_invariant (u : SocketId → Bool) : SocketInvariant (roomGuard u) (Heard u) where
  opened := fun ws => by
    refine ⟨(confined_invariant (roomGuard u)).opened ws, fun _ _ hc => ?_⟩
    exact absurd hc (by simp [openSocket])
  retired := fun ws sock phase hphase h =>
    ⟨(confined_invariant (roomGuard u)).retired ws sock phase hphase h.1,
      fun _ hlive => absurd hlive hphase⟩
  enrolled := fun ws sock login groupId hlive hc hgroup hlogs h => by
    refine ⟨(confined_invariant (roomGuard u)).enrolled ws sock login groupId hlive hc hgroup hlogs h.1,
      fun _ _ _ => hears_subscribeStandardTopics hgroup ?_⟩
    -- a fresh table has room for the four automatic topics
    show 4 ≤ SlotTable.free sock.table
    rw [h.1.fresh hlive hc, openSocket_table, SlotTable.free_replicate]
    decide
  stored := fun ws sock topic hconn hvalid hstores h => by
    refine ⟨(confined_invariant (roomGuard u)).stored ws sock topic hconn hvalid hstores h.1,
      fun hu hlive _ => ?_⟩
    rw [(Socket.sameSession_storeTopicSubscription sock topic).phase] at hlive
    exact (h.2 hu hlive hconn).store topic
  removed := fun ws sock topic hconn hremoves h => by
    refine ⟨(confined_invariant (roomGuard u)).removed ws sock topic hconn hremoves h.1,
      fun hu => ?_⟩
    -- nobody in `u` removes a topic: this is what the guard excludes
    rw [hremoves] at hu
    cases hu
  left := fun ws sock hconn h => by
    refine ⟨(confined_invariant (roomGuard u)).left ws sock hconn h.1, fun hu hlive _ => ?_⟩
    have hphase := (Socket.sameSession_removeGroupSubscription sock).phase
    exact (h.2 hu (hphase.symm.trans hlive) hconn).left
  entered := fun ws sock groupId hconn hfree hgroup henters h => by
    refine ⟨(confined_invariant (roomGuard u)).entered ws sock groupId hconn hfree hgroup henters
      h.1, fun hu hlive _ => ?_⟩
    rw [(Socket.sameSession_subscribeGroupTopic _).phase] at hlive
    have hears := h.2 hu hlive hconn
    have hauto : HearsAutomatic (sock.setGroupId groupId) := ⟨hears.world, hears.zone, hears.tell⟩
    exact hauto.subscribeGroupTopic hgroup (henters hu)

theorem heard_step (cfg : Config) {s : Server} {u : SocketId → Bool} {e : Event}
    (hs : s.Consistent) (h : s.AllSockets (Heard u)) (hroom : HasRoom (s, u) e) :
    (s.step cfg e).AllSockets (Heard (noteUnsubscribe s e u)) := by
  have hallows : (roomGuard (noteUnsubscribe s e u)).Allows cfg s e := by
    refine { allows_any cfg s e with
      enters := fun q hq hu => ?_
      removes := fun ws hws => note_of_removing hws }
    obtain ⟨cmd, -, hcmd, hws, -⟩ := step_entering cfg hs hq
    have hsession := (chatCommand_eq_some hcmd).1
    rw [hws] at hsession
    exact hroom q hq (not_unsubscribed_of_note hsession.found hsession.live hu)
  have hnoted : s.AllSockets (Heard (noteUnsubscribe s e u)) := fun ws sock hsock =>
    ⟨(h ws sock hsock).1, fun hu hlive =>
      (h ws sock hsock).2 (not_unsubscribed_of_note hsock hlive hu) hlive⟩
  exact allSockets_step (heard_invariant _) cfg hallows hs hnoted

theorem Heard.trafficReceived {s : Server} {u : SocketId → Bool} (hs : s.Consistent)
    (h : s.AllSockets (Heard u)) : TrafficReceived s u := by
  intro ws sock hsession hu
  have hears := (h ws sock hsession.found).2 hu hsession.live hsession.connected
  refine ⟨hears.world, hears.zone, hears.tell, fun hg => ⟨getGroupTopic_eq ?_, hears.group hg⟩⟩
  have hid := hs.groupId hsession
  rw [hid] at hg ⊢
  exact hs.presence.sound.groupIdOf_prefixed hg

/-- A socket that enters a group with a full table does not hear it. -/
theorem not_trafficReceived_step (cfg : Config) {s : Server} {u : SocketId → Bool} {e : Event}
    (hs : s.Consistent) (hconfined : s.AllSockets Confined) (h : ¬ HasRoom (s, u) e) :
    ¬ TrafficReceived (s.step cfg e) (noteUnsubscribe s e u) := by
  obtain ⟨⟨ws, sock⟩, hentering, hu, hfull⟩ : ∃ q ∈ s.entering e, u q.1 = false ∧
      none ∉ q.2.table := by
    by_contra hnone
    refine h fun q hq hu => ?_
    by_contra hfull
    exact hnone ⟨q, hq, hu, hfull⟩
  obtain ⟨cmd, g, hcmd, rfl, hgroup, hfree, hsock, hafter⟩ := step_entering cfg hs hentering
  have hsession := (chatCommand_eq_some hcmd).1
  have hc : Confined cmd.ws sock := by
    have hbefore := hconfined cmd.ws cmd.sock hsession.found
    rcases hsock with rfl | rfl
    · exact hbefore
    · exact (confined_invariant {}).left cmd.ws cmd.sock hsession.connected hbefore
  -- no slot holds the topic yet, since the socket is in no group
  have hnew : g ∉ sock.usedTopics := fun hmem => by
    have hnone := hc.slots.filter_of_nil hfree
    rw [List.filter_eq_nil_iff] at hnone
    exact hnone g hmem hgroup
  -- so there is no slot for the group
  have hsame : (sock.setGroupId g).subscribeGroupTopic = sock.setGroupId g := by
    rw [Socket.subscribeGroupTopic_eq hgroup]
    rcases (sock.setGroupId g).storeTopicSubscription_cases g with ⟨tbl, hstore, -⟩ | ⟨-, heq⟩
    · exact ((SlotTable.free_or_mem_of_store hstore).elim hfull hnew).elim
    · exact heq
  rw [hsame] at hafter
  have hentered : (s.step cfg e).Session cmd.ws (sock.setGroupId g) := by
    rcases hsock with rfl | rfl
    · exact ⟨hafter, hsession.live, hsession.connected⟩
    · have hleft := Socket.sameSession_removeGroupSubscription cmd.sock
      exact ⟨hafter, hleft.phase.trans hsession.live, hleft.connected.trans hsession.connected⟩
  -- and it is in the subscriptions only with a slot
  intro htraffic
  have hunsubscribed : noteUnsubscribe s e u cmd.ws = false := by
    rwa [note_of_chatCommand hcmd]
  obtain ⟨-, hmem⟩ := (htraffic cmd.ws _ hentered hunsubscribed).2.2.2 (ne_nil_of_startsWith hgroup)
  rcases hc.slots.subscribed g hmem with hplace | hused
  · have hreserved := placeholder_not_reserved hplace
    rw [isReservedTopic_of_isGroupTopic hgroup] at hreserved
    cases hreserved
  · exact hnew hused

/-- **When group members receive their group's traffic**: in every state along a run, exactly
when every socket that enters a group in the run, not having unsubscribed, has a free slot. -/
theorem trafficReceived_iff (cfg : Config) (evs : List Event) :
    (∀ pre, pre <+: evs → TrafficReceived ((machine cfg).run pre) (unsubscribed cfg pre)) ↔
      ((machine cfg).observed noteUnsubscribe fun _ => false).Along HasRoom evs := by
  constructor
  · intro h
    rw [Machine.along_iff]
    rintro pre e post rfl
    by_contra hroom
    rw [Machine.run_observed] at hroom
    refine not_trafficReceived_step cfg (consistent_run cfg pre)
      (allSockets_run (confined_invariant {}) cfg pre) hroom ?_
    have hstep := h (pre ++ [e]) ⟨post, by simp⟩
    rwa [Machine.run_snoc, unsubscribed, Machine.observe_snoc] at hstep
  · rintro h pre ⟨post, rfl⟩
    rw [Machine.Along, Machine.alongFrom_append] at h
    refine Heard.trafficReceived (consistent_run cfg pre) ?_
    have hheard := Machine.along_induction _ (C := HasRoom)
      (P := fun _ p => p.1.Consistent ∧ p.1.AllSockets (Heard p.2))
      ⟨consistent_init, allSockets_init⟩ (fun evs e _ hroom hi =>
        ⟨consistent_step cfg hi.1, heard_step cfg hi.1 hi.2 hroom⟩) pre h.1
    rw [Machine.run_observed] at hheard
    exact hheard.2

/-- Tirio fills the table with channels before he invites Trula. -/
def fullTableEvents : List Event :=
  loginEvents 1 tirio ++
    (List.range 29).map (fun i =>
      .text (sampleEnv 1001 "") 1 ("subscribe:c".toList ++ natToString i)) ++
    [.text (sampleEnv 1002 "a") 1 "GroupInvite:Tirio:Trula:".toList]

/-- The group that he founds by that has no slot, and he does not hear it. -/
theorem not_trafficReceived_fullTableEvents :
    ¬ TrafficReceived ((machine sampleConfig).run fullTableEvents)
      (unsubscribed sampleConfig fullTableEvents) := by
  intro htraffic
  have hevents : (((machine sampleConfig).run fullTableEvents).sockets 1).map
        (fun sock => (sock.phase, sock.data.connected, sock.data.groupId,
          decide (sock.data.groupId ∈ sock.subscriptions))) =
          some (.live, true, "group_a".toList, false) ∧
      unsubscribed sampleConfig fullTableEvents 1 = false := by
    decide +kernel
  obtain ⟨hrun, hunsubscribed⟩ := hevents
  obtain ⟨sock, hsock, heq⟩ := Option.map_eq_some_iff.mp hrun
  simp only [Prod.mk.injEq] at heq
  obtain ⟨hlive, hconn, hid, hmem⟩ := heq
  have hgroup := (htraffic 1 sock ⟨hsock, hlive, hconn⟩ hunsubscribed).2.2.2 (by rw [hid]; decide)
  exact of_decide_eq_false hmem hgroup.2

end Server

end DaraChat
