import DaraChat.Group.Roster
import DaraChat.Server.Publishing

set_option autoImplicit false

/-! # The last roster is the true one

Clients learn who is in their group from the rosters published on its topic. Every move that
changes what the roster of a group shows either tells the group right after it or leaves nobody
in the group; only the founding of a group is not told. So the last roster shows the group as it
is, and a group without a roster is its founder alone. That needs every new id to be fresh: on a
topic that has been used before there may be an old roster.
-/

namespace DaraChat

open GroupContainer

namespace Server

/-! ## Rosters on a topic -/

/-- The message of a publication, if it is a `GroupInfo` frame on the topic. -/
def rosterText (topic : Str) (pub : Publication) : Option Str :=
  match pub.payload with
  | .text text =>
      if pub.topic = topic ∧ (tryParseMessage text).1 = true ∧
          (tryParseMessage text).2.1.type = .groupInfo then
        some (tryParseMessage text).2.1.message
      else none
  | .binary _ => none

/-- The messages of the `GroupInfo` frames published on the topic. -/
def rostersOn (s : Server) (topic : Str) : List Str := s.published.filterMap (rosterText topic)

/-- The groups that a run has founded, with their founders. -/
def foundings (cfg : Config) (evs : List Event) : List (Str × Str) :=
  (machine cfg).observe (fun s e founded => founded ++ (s.founding e).toList) [] evs

/-- `GetNewGroupId` draws no id twice in the run. -/
def FreshIds (cfg : Config) (evs : List Event) : Prop :=
  ((foundings cfg evs).map Prod.fst).Nodup

instance (cfg : Config) (evs : List Event) : Decidable (FreshIds cfg evs) :=
  inferInstanceAs (Decidable (List.Nodup _))

/-- For every group with a member, the last roster on its topic is the roster of the group as it
is; and if there is none, the group consists of its founder. -/
def RosterTrue (s : Server) (founded : List (Str × Str)) : Prop :=
  ∀ g, s.groupContainer.entriesOf g ≠ [] →
    (∀ text, (s.rostersOn (getGroupTopic g)).getLast? = some text →
      text = (s.groupContainer.getGroupInfoByGroupId g).serializeToSend) ∧
    (s.rostersOn (getGroupTopic g) = [] →
      ∃ m, s.groupContainer.entriesOf g = [m] ∧ (g, m.name) ∈ founded)

section RosterText

variable {guard : Guard}

theorem rosterText_roster (g g' : Str) (groups : List GroupMember) :
    rosterText g' ⟨g, .text (groupUpdateMsg { myGroups := groups } g).serialize, groups⟩ =
      if g = g' then some (roster { myGroups := groups } g) else none := by
  simp only [rosterText, tryParseMessage_groupUpdateMsg]
  by_cases hg : g = g'
  · rw [if_pos ⟨hg, trivial, rfl⟩, if_pos hg]
    rfl
  · rw [if_neg fun h => hg h.1, if_neg hg]

/-- No message that a session sends is a roster. -/
theorem rosterText_relayed {chatMsg : FDaraChatMsg} (htype : IsRelayedType chatMsg.type)
    (g topic : Str) (groups : List GroupMember) :
    rosterText g ⟨topic, .text chatMsg.serialize, groups⟩ = none := by
  refine if_neg fun h => ?_
  obtain ⟨-, hparse, hgroupInfo⟩ := h
  have hread := (tryParseMessage_type (colon_notMem_toString chatMsg.type)
    (by rwa [serialize_eq] at hparse)).2
  rw [← serialize_eq, chatCmdTypeFromString_toString, hgroupInfo] at hread
  rw [← hread] at htype
  simp [IsRelayedType] at htype

/-- Nor is the payload of a `publish:` frame on the topic of a group. -/
theorem rosterText_forwarded {g : Str} (hg : isGroupTopic g = true) {topic : Str} (rest : Str)
    (hcolon : ':' ∉ topic) (groups : List GroupMember) :
    rosterText g ⟨topic, .text (topic ++ ':' :: rest), groups⟩ = none := by
  refine if_neg fun h => ?_
  obtain ⟨rfl, hparse, -⟩ := h
  rw [tryParseMessage_forwarded rest hcolon (isReservedTopic_of_isGroupTopic hg)] at hparse
  cases hparse

theorem rostersOn_publish (s : Server) (topic : Str) (payload : Payload) (g : Str) :
    (s.publish topic payload).rostersOn g = s.rostersOn g ++
      (rosterText g ⟨topic, payload, s.groupContainer.myGroups⟩).toList := by
  rw [rostersOn, publish_published, List.filterMap_append]
  cases h : rosterText g ⟨topic, payload, s.groupContainer.myGroups⟩ <;> simp [rostersOn, h]

/-- Telling a group adds its roster, on its own topic. -/
theorem rostersOn_sendGroupUpdateInfo (s : Server) {g : Str} (hg : isGroupTopic g = true)
    (g' : Str) : (s.sendGroupUpdateInfo g).rostersOn g' =
      s.rostersOn g' ++ if g = g' then [s.groupContainer.roster g] else [] := by
  rw [sendGroupUpdateInfo, rostersOn_publish, getGroupTopic_eq hg]
  have htext := rosterText_roster g g' s.groupContainer.myGroups
  have hroster : roster { myGroups := s.groupContainer.myGroups } g = s.groupContainer.roster g :=
    rfl
  have hmsg : groupUpdateMsg { myGroups := s.groupContainer.myGroups } g =
      groupUpdateMsg s.groupContainer g := rfl
  rw [hroster, hmsg] at htext
  rw [htext]
  split <;> rfl

end RosterText

/-! ## The invariant -/

/-- The last roster on the topic of group `g` is its roster; without one, the founder is alone. -/
def LastTrue (founded : List (Str × Str)) (s : Server) (g : Str) : Prop :=
  (∀ text, (s.rostersOn g).getLast? = some text → text = s.groupContainer.roster g) ∧
    (s.rostersOn g = [] → ∃ m, s.groupContainer.entriesOf g = [m] ∧ (g, m.name) ∈ founded)

/-- What holds of entries, rosters and the groups founded so far. -/
structure Rostered (founded : List (Str × Str)) (s : Server) : Prop where
  grouped : ∀ g, s.groupContainer.entriesOf g ≠ [] → g ∈ founded.map Prod.fst
  told : ∀ g, isGroupTopic g = true → s.rostersOn g ≠ [] → g ∈ founded.map Prod.fst
  current : ∀ g, s.groupContainer.entriesOf g ≠ [] → LastTrue founded s g

section Rostered

variable {founded : List (Str × Str)} {s s' : Server}

theorem rostered_init : Rostered [] {} where
  grouped := fun _ h => absurd rfl h
  told := fun _ _ h => absurd rfl h
  current := fun _ h => absurd rfl h

/-- More groups may have been founded. -/
theorem Rostered.mono (h : Rostered founded s) {founded' : List (Str × Str)}
    (hsub : founded ⊆ founded') : Rostered founded' s where
  grouped := fun g hg => List.map_subset Prod.fst hsub (h.grouped g hg)
  told := fun g hg hne => List.map_subset Prod.fst hsub (h.told g hg hne)
  current := fun g hg => by
    obtain ⟨hlast, hnone⟩ := h.current g hg
    refine ⟨hlast, fun hno => ?_⟩
    obtain ⟨m, hm, hfounder⟩ := hnone hno
    exact ⟨m, hm, hsub hfounder⟩

/-- What group `g` shows and the rosters on its topic carry over. -/
theorem Rostered.carry (h : Rostered founded s) {g : Str}
    (hkeeps : KeepsShown s.groupContainer s'.groupContainer g)
    (hrosters : s'.rostersOn g = s.rostersOn g) (hne : s'.groupContainer.entriesOf g ≠ []) :
    LastTrue founded s' g := by
  obtain ⟨hlast, hnone⟩ := h.current g (entriesOf_ne_nil_of_keepsShown hkeeps hne)
  have hshown : s'.groupContainer.shownOf g = s.groupContainer.shownOf g :=
    hkeeps.resolve_left hne
  constructor
  · intro text htext
    rw [hrosters] at htext
    exact (hlast text htext).trans (roster_congr hshown).symm
  · intro hno
    rw [hrosters] at hno
    obtain ⟨m, hm, hfounder⟩ := hnone hno
    rw [shownOf, shownOf, hm, List.map_singleton] at hshown
    obtain ⟨m', hm', heq⟩ := List.map_eq_singleton_iff.mp hshown
    have hname : m'.name = m.name := congrArg Prod.fst heq
    exact ⟨m', hm', by rwa [hname]⟩

/-- A move that changes no roster and shows what was shown. -/
theorem Rostered.quiet (h : Rostered founded s) (hsound : s'.groupContainer.Sound)
    (hkeeps : ∀ g, KeepsShown s.groupContainer s'.groupContainer g)
    (hrosters : ∀ g, isGroupTopic g = true → s'.rostersOn g = s.rostersOn g) :
    Rostered founded s' where
  grouped := fun g hg => h.grouped g (entriesOf_ne_nil_of_keepsShown (hkeeps g) hg)
  told := fun g hg hne => h.told g hg (by rwa [hrosters g hg] at hne)
  current := fun g hne =>
    h.carry (hkeeps g) (hrosters g (hsound.prefixed_of_entries hne)) hne

/-- A change of one group, and its roster right after it. -/
theorem Rostered.tell (h : Rostered founded s) (hsound : s'.groupContainer.Sound) {g₀ : Str}
    (hg₀ : isGroupTopic g₀ = true) (hfounded : g₀ ∈ founded.map Prod.fst)
    (hkeeps : ∀ g, g₀ ≠ g → KeepsShown s.groupContainer s'.groupContainer g)
    (hrosters : ∀ g, isGroupTopic g = true → s'.rostersOn g = s.rostersOn g) :
    Rostered founded (s'.sendGroupUpdateInfo g₀) where
  grouped := by
    intro g hg
    by_cases heq : g₀ = g
    · rwa [← heq]
    · exact h.grouped g (entriesOf_ne_nil_of_keepsShown (hkeeps g heq) hg)
  told := by
    intro g hg hne
    by_cases heq : g₀ = g
    · rwa [← heq]
    · rw [rostersOn_sendGroupUpdateInfo s' hg₀, if_neg heq, List.append_nil, hrosters g hg] at hne
      exact h.told g hg hne
  current := by
    intro g hne
    have hg : isGroupTopic g = true := hsound.prefixed_of_entries hne
    by_cases heq : g₀ = g
    · -- the last roster is the one just sent
      subst heq
      rw [LastTrue, rostersOn_sendGroupUpdateInfo s' hg₀, if_pos rfl, List.getLast?_concat]
      refine ⟨fun text htext => (Option.some.inj htext).symm, fun hno => ?_⟩
      exact absurd hno (List.append_ne_nil_of_right_ne_nil _ (List.cons_ne_nil _ _))
    · refine h.carry (hkeeps g heq) ?_ hne
      rw [rostersOn_sendGroupUpdateInfo s' hg₀, if_neg heq, List.append_nil, hrosters g hg]

/-- A founded group has no roster yet. -/
theorem Rostered.found (h : Rostered founded s) {newMember : GroupMember}
    (hgroups : s'.groupContainer = s.groupContainer.append newMember)
    (hpublished : s'.published = s.published)
    (hempty : s.groupContainer.entriesOf newMember.groupId = [])
    (hnone : s.rostersOn newMember.groupId = [])
    (hfounded : (newMember.groupId, newMember.name) ∈ founded) : Rostered founded s' := by
  have hrosters : ∀ g, s'.rostersOn g = s.rostersOn g := fun g => by
    rw [rostersOn, hpublished]
    rfl
  have hkeeps : ∀ g, newMember.groupId ≠ g →
      KeepsShown s.groupContainer s'.groupContainer g := fun g hg => by
    rw [hgroups]
    exact keepsShown_append_ne hg
  constructor
  case grouped =>
    intro g hg
    by_cases heq : newMember.groupId = g
    · rw [← heq]
      exact List.mem_map_of_mem hfounded
    · exact h.grouped g (entriesOf_ne_nil_of_keepsShown (hkeeps g heq) hg)
  case told =>
    intro g hg hne
    exact h.told g hg (by rwa [hrosters g] at hne)
  case current =>
    intro g hne
    by_cases heq : newMember.groupId = g
    · subst heq
      -- the new group has one member, and no roster of it has been published
      have hsolo : s'.groupContainer.entriesOf newMember.groupId = [newMember] := by
        rw [hgroups, entriesOf_append, hempty, if_pos rfl, List.nil_append]
      rw [LastTrue, hrosters, hnone]
      exact ⟨fun text htext => absurd htext (by simp), fun _ => ⟨newMember, hsolo, hfounded⟩⟩
    · exact h.carry (hkeeps g heq) (hrosters g) hne

end Rostered

/-! ## Every move keeps it -/

/-- What is known of a founding: the id is new to entries and topics, and noted. -/
def freshGuard (founded : List (Str × Str)) : Guard where
  founds := fun s g n => s.groupContainer.entriesOf g = [] ∧ s.rostersOn g = [] ∧ (g, n) ∈ founded

section Moves

variable {founded : List (Str × Str)} {s s' : Server}

theorem rostersOn_of_published (h : s'.published = s.published) (g : Str) :
    s'.rostersOn g = s.rostersOn g := by
  rw [rostersOn, h]
  rfl

/-- The group of a name that is in one is among the founded ones. -/
theorem Rostered.founded_groupIdOf (h : Rostered founded s) {n : Str}
    (hn : s.groupContainer.groupIdOf n ≠ []) :
    s.groupContainer.groupIdOf n ∈ founded.map Prod.fst := by
  obtain ⟨m, hm, -, hg⟩ := exists_mem_of_groupIdOf hn
  exact h.grouped _ (List.ne_nil_of_mem (mem_entriesOf.mpr ⟨hm, hg⟩))

/-- A close tells the group if the closing character is in one. -/
theorem not_mem_of_closeTells (hs : s.Consistent) (env : Env) {ws : SocketId} {sock : Socket}
    (hsock : s.sockets ws = some sock) (hreg : s.activeSessions.lookup sock.data.name = some ws)
    (htells : s.closeTells env sock = false) :
    ∀ m ∈ s.groupContainer.myGroups, m.name ≠ sock.data.name := by
  intro m hm hname
  have hgrouped : sock.data.groupId ≠ [] := by
    rw [hs.coherent _ ws sock hreg hsock, ← hname,
      groupIdOf_eq_of_mem hs.presence.sound.namesNodup hm]
    exact hs.presence.sound.groupIdsNonempty m hm
  have hfind : s.groupContainer.myGroups.find? (fun m => decide (m.name = sock.data.name)) =
      some m :=
    (Keyed.find?_key_eq_some GroupMember.name hs.presence.sound.namesNodup).mpr ⟨hm, hname⟩
  have honline : m.isOnline = true := by
    rw [hs.presence.online m hm, hname, hreg]
    rfl
  have hchanged : (s.groupContainer.setMemberOnline env.time sock.data.name false).1 = true := by
    simp only [setMemberOnline, hfind, honline]
    rfl
  simp [closeTells, hchanged, hgrouped] at htells

theorem rostered_withdrawn (h : Rostered founded s) (hs : s.Consistent) (env : Env)
    {ws : SocketId} {sock : Socket} (hsock : s.sockets ws = some sock)
    (hreg : s.activeSessions.lookup sock.data.name = some ws)
    (hsound : (s.withdraw env ws sock).groupContainer.Sound) :
    Rostered founded ((s.withdraw env ws sock).sendIf (s.closeTells env sock) sock.data.groupId) := by
  have hnodup := hs.presence.sound.namesNodup
  have hid := hs.coherent _ ws sock hreg hsock
  have hgroups : (s.withdraw env ws sock).groupContainer =
      s.groupContainer.modifyMember sock.data.name _ := setMemberOnline_eq ..
  -- either the group is told, or there is no entry that could have changed
  cases htells : s.closeTells env sock with
  | true =>
      have hgrouped : s.groupContainer.groupIdOf sock.data.name ≠ [] := by
        simp only [closeTells, Bool.and_eq_true, decide_eq_true_eq] at htells
        rw [← hid]
        exact htells.2
      refine h.tell hsound ?_ ?_ (fun g hg => ?_) fun g _ => rostersOn_of_published rfl g
      · rw [hid]
        exact hs.isGroupTopic hgrouped
      · rw [hid]
        exact h.founded_groupIdOf hgrouped
      · rw [hgroups]
        rw [hid] at hg
        refine keepsShown_modifyMember_ne hnodup ?_ hg
        exact fun _ => rfl
  | false =>
      have hnone := not_mem_of_closeTells hs env hsock hreg htells
      have hquiet : Rostered founded (s.withdraw env ws sock) := by
        refine h.quiet hsound (fun g => ?_) fun g _ => rostersOn_of_published rfl g
        rw [hgroups]
        refine keepsShown_modifyMember hnodup ?_ (fun m hm hname => absurd hname (hnone m hm)) g
        exact fun _ => rfl
      exact hquiet

theorem rostered_enrolled (h : Rostered founded s) (hs : s.Consistent) (env : Env) (ws : SocketId)
    (sock : Socket) (hsound : (s.enroll env ws sock).groupContainer.Sound) :
    Rostered founded ((s.enroll env ws sock).sendIf (s.groupContainer.groupIdOf sock.data.name ≠ [])
      (s.groupContainer.groupIdOf sock.data.name)) := by
  have hnodup := hs.presence.sound.namesNodup
  have hgroups : (s.enroll env ws sock).groupContainer =
      s.groupContainer.modifyMember sock.data.name _ := setMemberOnline_eq ..
  -- a character without a group is in no entry; for the others the new flags are published
  by_cases hnone : s.groupContainer.groupIdOf sock.data.name = []
  · have hno := (groupIdOf_eq_nil hs.presence.sound.groupIdsNonempty).mp hnone
    have hquiet : Rostered founded (s.enroll env ws sock) := by
      refine h.quiet hsound (fun g => ?_) fun g _ => rostersOn_of_published rfl g
      rw [hgroups]
      refine keepsShown_modifyMember hnodup ?_ (fun m hm hname => absurd hname (hno m hm)) g
      exact fun _ => rfl
    simpa [sendIf, hnone] using hquiet
  · have htold : Rostered founded ((s.enroll env ws sock).sendGroupUpdateInfo
        (s.groupContainer.groupIdOf sock.data.name)) := by
      refine h.tell hsound (hs.isGroupTopic hnone) (h.founded_groupIdOf hnone) (fun g hg => ?_)
        fun g _ => rostersOn_of_published rfl g
      rw [hgroups]
      refine keepsShown_modifyMember_ne hnodup ?_ hg
      exact fun _ => rfl
    simpa [sendIf, hnone] using htold

/-- Those who are left are told; the farewell before that is no roster. -/
theorem rostered_disbanded (h : Rostered founded s) (hs : s.Consistent) {ws : SocketId}
    {sock : Socket} (hsession : s.Session ws sock) (hgroup : sock.data.groupId ≠ [])
    (hsound : (s.disband ws sock).groupContainer.Sound) : Rostered founded (s.disband ws sock) := by
  have hid := hs.groupId hsession
  rw [hid] at hgroup
  have hg : isGroupTopic sock.data.groupId = true := by
    rw [hid]
    exact hs.isGroupTopic hgroup
  have hinfo : ∀ g, rosterText g ⟨sock.data.groupId,
      .text (getGroupDisbandInfoMessage { sender := sock.data.name }),
      (s.leaveGroup ws sock).groupContainer.myGroups⟩ = none := fun g =>
    rosterText_relayed (by simp [IsRelayedType]) g _ _
  have hleft : ((s.leaveGroup ws sock).publish sock.data.groupId
      (.text (getGroupDisbandInfoMessage { sender := sock.data.name }))).groupContainer.Sound :=
    hsound
  rw [disband, getGroupTopic_eq hg]
  -- the roster follows the disband message, which is no roster itself
  refine h.tell hleft hg ?_ (fun g hne => ?_) fun g _ => ?_
  · rw [hid]
    exact h.founded_groupIdOf hgroup
  · rw [hid] at hne
    exact keepsShown_groupDisband_ne hs.presence.sound.namesNodup hne
  · rw [rostersOn_publish, hinfo g]
    exact (List.append_nil _).trans (rostersOn_of_published rfl g)

theorem rostered_admitted (h : Rostered founded s) (hs : s.Consistent) (env : Env) (ws : SocketId)
    {sock : Socket} {inviter : Str} (hjoin : s.groupContainer.CanJoin sock.data.name inviter)
    (hsound : (s.acceptInvite env ws sock inviter).groupContainer.Sound) :
    Rostered founded (s.acceptInvite env ws sock inviter) := by
  have hentered : ((s.enterGroup env ws sock inviter).setGroups
      ((s.enterGroup env ws sock inviter).groupContainer.removeInvite inviter
        sock.data.name)).groupContainer.Sound := hsound
  refine h.tell hentered (hs.isGroupTopic hjoin.leader_grouped)
    (h.founded_groupIdOf hjoin.leader_grouped) (fun g hg => ?_)
    fun g _ => rostersOn_of_published rfl g
  have happend : KeepsShown s.groupContainer (s.groupContainer.append
      (joiner env.time sock.data.name (s.groupContainer.groupIdOf inviter))) g :=
    keepsShown_append_ne hg
  exact happend

/-- An alive message shows nothing new: a registered character is online already. -/
theorem rostered_alive (h : Rostered founded s) (hs : s.Consistent) (env : Env) {ws : SocketId}
    {sock : Socket} {member : GroupMember} (hsession : s.Session ws sock)
    (hmember : member.name = sock.data.name)
    (hsound : (s.setGroups (s.groupContainer.aliveMsg env.time member)).groupContainer.Sound) :
    Rostered founded (s.setGroups (s.groupContainer.aliveMsg env.time member)) := by
  have hgroups : (s.setGroups (s.groupContainer.aliveMsg env.time member)).groupContainer =
      s.groupContainer.modifyMember member.name _ := aliveMsg_eq ..
  refine h.quiet hsound (fun g => ?_) fun g _ => rostersOn_of_published rfl g
  rw [hgroups]
  refine keepsShown_modifyMember hs.presence.sound.namesNodup ?_ (fun m hm hname => ?_) g
  · exact fun _ => rfl
  · have honline : m.isOnline = true := by
      rw [hs.presence.online m hm, hname, hmember]
      exact hs.registry.isSome_lookup hsession
    simp [shown, honline]

/-- A frame that is no roster. -/
theorem Rostered.publish (h : Rostered founded s) {topic : Str} {payload : Payload}
    (hsound : (s.publish topic payload).groupContainer.Sound)
    (hno : ∀ g, isGroupTopic g = true →
      rosterText g ⟨topic, payload, s.groupContainer.myGroups⟩ = none) :
    Rostered founded (s.publish topic payload) := by
  refine h.quiet hsound (fun g => keepsShown_of_myGroups rfl g) fun g hg => ?_
  rw [rostersOn_publish, hno g hg]
  exact List.append_nil _

/-- **Every move keeps the last rosters true.** -/
theorem Rostered.move (hm : Move (freshGuard founded) s s') (hs : s.Consistent)
    (h : Rostered founded s) : Rostered founded s' := by
  have hsound : s'.groupContainer.Sound := (hs.move hm).presence.sound
  have hnodup := hs.presence.sound.namesNodup
  have hquiet : s'.groupContainer.myGroups = s.groupContainer.myGroups →
      s'.published = s.published → Rostered founded s' := fun hgroups hpublished =>
    h.quiet hsound (keepsShown_of_myGroups hgroups) fun g _ => rostersOn_of_published hpublished g
  cases hm with
  | opened ws => exact hquiet rfl rfl
  | retired ws sock phase => exact hquiet rfl rfl
  | withdrawn env ws sock hsock hc hreg =>
      rw [sendIf_groupContainer] at hsound
      exact rostered_withdrawn h hs env hsock hreg hsound
  | enrolled env ws sock login hsock =>
      rw [sendIf_groupContainer] at hsound
      exact rostered_enrolled h hs env ws _ hsound
  | stored ws sock topic => exact hquiet rfl rfl
  | removed ws sock topic => exact hquiet rfl rfl
  -- a solo group is left: it has no entries any more, so nobody needs a roster
  | left ws sock hsession _ hsolo =>
      refine h.quiet hsound (fun g => ?_) fun g _ => rostersOn_of_published rfl g
      by_cases hg : s.groupContainer.groupIdOf sock.data.name = g
      · rw [← hg]
        exact Or.inl (entriesOf_groupDisband_solo hsolo)
      · exact keepsShown_groupDisband_ne hnodup hg
  | disbanded ws sock hsession _ hgroup =>
      exact rostered_disbanded h hs hsession hgroup hsound
  | founded env ws sock hsession _ hfree hnone henters hfounds =>
      obtain ⟨hempty, hrosters, hfounded⟩ := hfounds
      have hgroups : (s.foundGroup env ws sock).groupContainer =
          s.groupContainer.append (founder env.time env.uuid sock.data.name) := rfl
      exact h.found hgroups rfl hempty hrosters hfounded
  | admitted env ws sock inviter hsession _ hfree hjoin =>
      exact rostered_admitted h hs env ws hjoin hsound
  | invited env ws sock chatMsg hsession =>
      have hinvited : Rostered founded (s.setGroups ((s.groupContainer.removeOldInvites
          env.time).addInvite env.time chatMsg.sender chatMsg.recipient)) :=
        h.quiet hsound (keepsShown_of_myGroups rfl) fun g _ => rostersOn_of_published rfl g
      exact hinvited.publish hsound fun g _ => rosterText_relayed (by simp [IsRelayedType]) g _ _
  | pruned env => exact hquiet rfl rfl
  | alive env ws sock member hsession hmember =>
      exact rostered_alive h hs env hsession hmember hsound
  | relayed ws sock topic chatMsg hsession hrelayed =>
      refine h.publish hsound fun g _ => rosterText_relayed ?_ g _ _
      exact hrelayed.isRelayedType
  | forwarded ws sock topic rest hsession hcolon =>
      exact h.publish hsound fun g hg => rosterText_forwarded hg rest hcolon _
  | broadcast ws sock data hsession => exact h.publish hsound fun g _ => rfl
  | sent ws sock message => exact hquiet rfl rfl

end Moves

/-! ## Runs -/

section Runs

variable {s : Server} {e : Event}

theorem foundings_snoc (cfg : Config) (evs : List Event) (e : Event) :
    foundings cfg (evs ++ [e]) =
      foundings cfg evs ++ (((machine cfg).run evs).founding e).toList :=
  (machine cfg).observe_snoc ..

/-- An id that is fresh in the history is new to entries and topics. -/
theorem freshGuard_allows (cfg : Config) {founded : List (Str × Str)} (h : Rostered founded s)
    (hfresh : ((founded ++ (s.founding e).toList).map Prod.fst).Nodup) :
    (freshGuard (founded ++ (s.founding e).toList)).Allows cfg s e := by
  refine { allows_any cfg s e with founds := fun p hp => ?_ }
  have hmem : p ∈ (s.founding e).toList := Option.mem_toList.mpr hp
  have hnew : p.1 ∉ founded.map Prod.fst := by
    rw [List.map_append, List.nodup_append] at hfresh
    intro hold
    exact hfresh.2.2 p.1 hold p.1 (List.mem_map_of_mem hmem) rfl
  have hg : isGroupTopic p.1 = true := isGroupTopic_of_founding hp
  refine ⟨?_, ?_, List.mem_append_right _ hmem⟩
  · by_contra hne
    exact hnew (h.grouped p.1 hne)
  · by_contra hne
    exact hnew (h.told p.1 hg hne)

theorem rostered_run (cfg : Config) (evs : List Event) :
    FreshIds cfg evs →
      ((machine cfg).run evs).Consistent ∧ Rostered (foundings cfg evs) ((machine cfg).run evs) := by
  refine (machine cfg).history_induction
    (P := fun evs s => FreshIds cfg evs → s.Consistent ∧ Rostered (foundings cfg evs) s)
    (fun _ => ⟨consistent_init, rostered_init⟩) (fun evs e ih hfresh => ?_) evs
  have hfresh' : (((foundings cfg evs) ++ (((machine cfg).run evs).founding e).toList).map
      Prod.fst).Nodup := by rwa [FreshIds, foundings_snoc] at hfresh
  have hbefore : FreshIds cfg evs := by
    rw [List.map_append] at hfresh'
    exact hfresh'.of_append_left
  obtain ⟨hs, hrostered⟩ := ih hbefore
  have hallows := freshGuard_allows cfg (e := e) hrostered hfresh'
  rw [foundings_snoc]
  refine ⟨consistent_step cfg hs, ?_⟩
  exact step_of_consistent (fun hm hs h => h.move hm hs) cfg hallows hs
    (hrostered.mono (List.subset_append_left _ _))

/-- **The last published roster is the true roster**, in every state of a run with fresh ids. -/
theorem rosterTrue_run (cfg : Config) (evs : List Event) (hfresh : FreshIds cfg evs) :
    RosterTrue ((machine cfg).run evs) (foundings cfg evs) := by
  obtain ⟨hs, hrostered⟩ := rostered_run cfg evs hfresh
  intro g hne
  rw [getGroupTopic_eq (hs.presence.sound.prefixed_of_entries hne)]
  exact hrostered.current g hne

/-- Trula's join is told on the topic of the group. -/
theorem rosterTrue_joinEvents :
    ((machine sampleConfig).run joinEvents).rostersOn "group_a".toList =
        ["group_a;Tirio;1;2;0;Tirio,1;Trula,1".toList] ∧
      RosterTrue ((machine sampleConfig).run joinEvents) (foundings sampleConfig joinEvents) := by
  have hevents : FreshIds sampleConfig joinEvents ∧
      ((machine sampleConfig).run joinEvents).rostersOn "group_a".toList =
        ["group_a;Tirio;1;2;0;Tirio,1;Trula,1".toList] := by
    decide +kernel
  exact ⟨hevents.2, rosterTrue_run sampleConfig joinEvents hevents.1⟩

end Runs

end Server

end DaraChat
