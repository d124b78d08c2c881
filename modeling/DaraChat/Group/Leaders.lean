import DaraChat.Group.Invariant

set_option autoImplicit false

/-! # What holds of any ids

The part of the container's invariant that needs nothing of the ids that are drawn. Every group
names a leader (`HasLeaders`): it starts with one, and when the leader that is reported leaves,
`AssignLeader` names another. Names are unique and ids prefixed (`sound_exec`), and what holds of
all names and ids that commands bring in holds of all entries (`keys_exec`).
-/

namespace DaraChat.GroupContainer

/-- Every group with an entry has a leader among its entries. -/
def HasLeaders (c : GroupContainer) : Prop :=
  ∀ g, c.entriesOf g ≠ [] → ∃ leader, lastLeader (c.entriesOf g) = some leader

variable {c c' : GroupContainer}

theorem mem_of_lastLeader {l : List GroupMember} {leader : GroupMember}
    (h : lastLeader l = some leader) : leader ∈ l ∧ leader.isLeader = true := by
  have hmem : leader ∈ l.filter fun member => member.isLeader := List.mem_of_getLast? h
  rwa [List.mem_filter] at hmem

/-- Some leader is enough. -/
theorem exists_lastLeader {l : List GroupMember} {leader : GroupMember} (h : leader ∈ l)
    (hlead : leader.isLeader = true) : ∃ last, lastLeader l = some last := by
  have hne : l.filter (fun member => member.isLeader) ≠ [] :=
    List.ne_nil_of_mem (List.mem_filter.mpr ⟨h, hlead⟩)
  exact ⟨_, List.getLast?_eq_some_getLast hne⟩

/-- The leader that is reported for a name in a group. -/
theorem leaderName_of_lastLeader {n : Str} (hn : c.groupIdOf n ≠ []) {leader : GroupMember}
    (h : lastLeader (c.entriesOf (c.groupIdOf n)) = some leader) :
    (c.getGroupInfo n).leaderName = leader.name := by
  simp [getGroupInfo_eq hn, h]

/-! ## The operations keep it -/

theorem hasLeaders_init : HasLeaders {} := fun _ h => absurd rfl h

theorem HasLeaders.congr (h : c.HasLeaders) (hgroups : c'.myGroups = c.myGroups) :
    c'.HasLeaders := by
  intro g hg
  rw [entriesOf_congr hgroups] at hg ⊢
  exact h g hg

/-- A new entry leads, or joins a group that is not empty. -/
theorem HasLeaders.append (h : c.HasLeaders) {newMember : GroupMember}
    (hnew : newMember.isLeader = true ∨ c.entriesOf newMember.groupId ≠ []) :
    (c.append newMember).HasLeaders := by
  intro g hg
  rw [entriesOf_append] at hg ⊢
  by_cases hgg : newMember.groupId = g
  · rw [if_pos hgg]
    rcases hnew with hlead | hne
    · exact exists_lastLeader (List.mem_append_right _ (List.mem_singleton_self _)) hlead
    · rw [hgg] at hne
      obtain ⟨leader, hleader⟩ := h g hne
      obtain ⟨hmem, hlead⟩ := mem_of_lastLeader hleader
      exact exists_lastLeader (List.mem_append_left _ hmem) hlead
  · rw [if_neg hgg, List.append_nil] at hg ⊢
    exact h g hg

/-- A change of one entry that keeps its group and its leader flag. -/
theorem HasLeaders.modifyMember (h : c.HasLeaders) (hc : c.NamesNodup) {n : Str}
    {f : GroupMember → GroupMember} (hgroup : ∀ m, (f m).groupId = m.groupId)
    (hlead : ∀ m, (f m).isLeader = m.isLeader) : (c.modifyMember n f).HasLeaders := by
  intro g hg
  rw [entriesOf_modifyMember hc hgroup] at hg ⊢
  obtain ⟨leader, hleader⟩ := h g fun hnil => hg (by rw [hnil]; rfl)
  obtain ⟨hmem, hmark⟩ := mem_of_lastLeader hleader
  refine exists_lastLeader (List.mem_map_of_mem hmem) ?_
  by_cases hname : leader.name = n
  · rw [if_pos hname, hlead, hmark]
  · rw [if_neg hname, hmark]

/-- The entry of a name goes; where it is the leader that is reported, `h` must be shown. -/
theorem HasLeaders.eraseMember (h : c.HasLeaders) (hc : c.Sound) {n g : Str}
    (hleader : c.groupIdOf n = g → (c.getGroupInfo n).leaderName ≠ n)
    (hne : (c.eraseMember n).entriesOf g ≠ []) :
    ∃ leader, lastLeader ((c.eraseMember n).entriesOf g) = some leader := by
  rw [entriesOf_eraseMember] at hne ⊢
  have hold : c.entriesOf g ≠ [] := by
    intro hnil
    rw [hnil] at hne
    exact hne rfl
  obtain ⟨leader, hlast⟩ := h g hold
  obtain ⟨hmem, hlead⟩ := mem_of_lastLeader hlast
  refine exists_lastLeader (List.mem_filter.mpr ⟨hmem, ?_⟩) hlead
  rw [decide_eq_true_eq]
  rintro rfl
  -- the leader that stays is the one that is reported
  have hg : c.groupIdOf leader.name = g := by
    rw [groupIdOf_eq_of_mem hc.namesNodup (mem_entriesOf.mp hmem).1, (mem_entriesOf.mp hmem).2]
  subst hg
  have hgrouped : c.groupIdOf leader.name ≠ [] := by
    rw [← (mem_entriesOf.mp hmem).2]
    exact hc.groupIdsNonempty leader (mem_entriesOf.mp hmem).1
  exact hleader rfl (leaderName_of_lastLeader hgrouped hlast)

theorem HasLeaders.groupDisband (h : c.HasLeaders) (hc : c.Sound) (n : Str) :
    (c.groupDisband n).2.HasLeaders := by
  intro g hg
  have hgroups := groupDisband_myGroups c n
  by_cases hlead : (c.getGroupInfo n).leaderName = n
  · rw [if_pos hlead] at hgroups
    rw [entriesOf_congr hgroups] at hg ⊢
    by_cases hgn : g = c.groupIdOf n
    · -- the first entry left has been named leader
      subst hgn
      have hled : Keyed.HeadMarked GroupMember.isLeader
          (((c.eraseMember n).assignLeader (c.groupIdOf n)).entriesOf (c.groupIdOf n)) :=
        Keyed.headMarked_markFirst GroupMember.groupId
          (fun isLeader member => { member with isLeader := isLeader }) (fun _ _ => rfl)
          (fun _ _ => rfl) _ _
      rw [lastLeader_eq_head hled]
      exact ⟨_, List.head?_eq_some_head hg⟩
    · rw [entriesOf_assignLeader_ne _ _ hgn] at hg ⊢
      exact h.eraseMember hc (fun hgn' => absurd hgn'.symm hgn) hg
  · rw [if_neg hlead] at hgroups
    rw [entriesOf_congr hgroups] at hg ⊢
    exact h.eraseMember hc (fun _ => hlead) hg

theorem HasLeaders.groupKickMember (h : c.HasLeaders) (hc : c.Sound) (memberName leaderName : Str) :
    (c.groupKickMember memberName leaderName).2.HasLeaders := by
  rcases groupKickMember_cases c memberName leaderName with heq | ⟨hself, hlead, hgroup, heq⟩
  · rw [heq]
    exact h
  · rw [heq]
    intro g hg
    refine h.eraseMember hc (fun _ hreported => hself ?_) hg
    -- both names are told the same leader, the one who kicks
    have hgrouped : c.groupIdOf leaderName ≠ [] := (mem_of_getGroupInfo_isLeader hlead).1
    rw [getGroupInfo_eq hgrouped] at hlead
    cases hlast : lastLeader (c.entriesOf (c.groupIdOf leaderName)) with
    | none => simp [hlast] at hlead
    | some leader =>
        have hname : leader.name = leaderName := by simpa [hlast] using hlead
        rw [← hgroup] at hlast hgrouped
        rw [← hreported, leaderName_of_lastLeader hgrouped hlast, hname]

/-- **Every command keeps it**, whatever ids are drawn. -/
theorem hasLeaders_exec (h : c.HasLeaders) (hc : c.Sound) (cmd : Command) :
    (c.exec cmd).HasLeaders := by
  cases cmd with
  | groupStartGroup now uuid leaderName =>
      by_cases hn : c.groupIdOf leaderName = []
      · rw [exec, (groupStartGroup_of_none now uuid hn).1]
        exact h.append (.inl rfl)
      · rw [exec, (groupStartGroup_of_grouped now uuid hn).1]
        exact h
  | groupJoin now memberName leaderName =>
      by_cases hjoin : c.CanJoin memberName leaderName
      · rw [exec, (groupJoin_of_canJoin now hjoin).1]
        -- the group is not empty before the join: the entry of `leaderName` is in it
        obtain ⟨leader, hleader, -, hgroup⟩ := exists_mem_of_groupIdOf hjoin.leader_grouped
        exact h.append (.inr (List.ne_nil_of_mem (mem_entriesOf.mpr ⟨hleader, hgroup⟩)))
      · rw [exec, (groupJoin_of_not_canJoin now hjoin).1]
        exact h
  | groupInvite memberName leaderName => exact h
  | groupKickMember memberName leaderName => exact h.groupKickMember hc memberName leaderName
  | groupDisband memberName => exact h.groupDisband hc memberName
  | aliveMsg now memberAlive =>
      rw [exec, aliveMsg_eq]
      exact h.modifyMember hc.namesNodup (fun _ => rfl) fun _ => rfl
  | setMemberOnline now memberName online =>
      rw [exec, setMemberOnline_eq]
      exact h.modifyMember hc.namesNodup (fun _ => rfl) fun _ => rfl
  | addInvite now leaderName memberName => exact h.congr rfl
  | removeInvite leaderName memberName => exact h.congr rfl
  | removeOldInvites now => exact h.congr rfl

/-! ## Names and ids -/

/-- **Every command keeps names apart and ids prefixed**, whatever ids are drawn. -/
theorem sound_exec (hc : c.Sound) (cmd : Command) : (c.exec cmd).Sound := by
  cases cmd with
  | groupStartGroup now uuid leaderName =>
      by_cases hn : c.groupIdOf leaderName = []
      · rw [exec, (groupStartGroup_of_none now uuid hn).1]
        exact hc.append hn (startsWith_getNewGroupId uuid)
      · rw [exec, (groupStartGroup_of_grouped now uuid hn).1]
        exact hc
  | groupJoin now memberName leaderName =>
      by_cases hjoin : c.CanJoin memberName leaderName
      · rw [exec, (groupJoin_of_canJoin now hjoin).1]
        exact hc.append hjoin.member_free (hc.groupIdOf_prefixed hjoin.leader_grouped)
      · rw [exec, (groupJoin_of_not_canJoin now hjoin).1]
        exact hc
  | groupInvite memberName leaderName => exact hc
  | groupKickMember memberName leaderName =>
      rcases groupKickMember_cases c memberName leaderName with heq | ⟨-, -, -, heq⟩
      · rw [exec, heq]
        exact hc
      · rw [exec, heq]
        exact hc.of_sublist (keys_eraseMember_sublist memberName)
  | groupDisband memberName => exact hc.groupDisband memberName
  | aliveMsg now memberAlive => exact hc.of_sublist (by rw [exec, keys_aliveMsg])
  | setMemberOnline now memberName online =>
      exact hc.of_sublist (by rw [exec, keys_setMemberOnline])
  | addInvite now leaderName memberName => exact hc.of_sublist (List.Sublist.refl _)
  | removeInvite leaderName memberName => exact hc.of_sublist (List.Sublist.refl _)
  | removeOldInvites now => exact hc.of_sublist (List.Sublist.refl _)

/-- The name and the id that a command may bring in satisfy `p` and `q`. -/
def Command.Brings (p q : Str → Prop) : Command → Prop
  | .groupStartGroup _ uuid leaderName => p leaderName ∧ q (getNewGroupId uuid)
  | .groupJoin _ memberName _ => p memberName
  | _ => True

/-- What holds of all names and of all ids is kept by a command that brings in only such. -/
theorem keys_exec {p q : Str → Prop} (h : ∀ key ∈ c.keys, p key.1 ∧ q key.2) {cmd : Command}
    (hcmd : cmd.Brings p q) : ∀ key ∈ (c.exec cmd).keys, p key.1 ∧ q key.2 := by
  have happend : ∀ m : GroupMember, p m.name → q m.groupId →
      ∀ key ∈ (c.append m).keys, p key.1 ∧ q key.2 := by
    intro m hname hid key hkey
    rw [keys_append_member, List.mem_append] at hkey
    rcases hkey with hkey | hkey
    · exact h key hkey
    · rw [List.mem_singleton.mp hkey]
      exact ⟨hname, hid⟩
  cases cmd with
  | groupStartGroup now uuid leaderName =>
      by_cases hn : c.groupIdOf leaderName = []
      · rw [exec, (groupStartGroup_of_none now uuid hn).1]
        exact happend _ hcmd.1 hcmd.2
      · rw [exec, (groupStartGroup_of_grouped now uuid hn).1]
        exact h
  | groupJoin now memberName leaderName =>
      by_cases hjoin : c.CanJoin memberName leaderName
      · rw [exec, (groupJoin_of_canJoin now hjoin).1]
        obtain ⟨leader, hleader, -, hgroup⟩ := exists_mem_of_groupIdOf hjoin.leader_grouped
        refine happend _ hcmd ?_
        -- the id of the new entry is that of an entry which is there already
        show q (c.groupIdOf leaderName)
        rw [← hgroup]
        exact (h (leader.name, leader.groupId) (List.mem_map_of_mem hleader)).2
      · rw [exec, (groupJoin_of_not_canJoin now hjoin).1]
        exact h
  | groupInvite memberName leaderName => exact h
  | groupKickMember memberName leaderName =>
      rcases groupKickMember_cases c memberName leaderName with heq | ⟨-, -, -, heq⟩
      · rw [exec, heq]
        exact h
      · rw [exec, heq]
        exact fun key hkey => h key ((keys_eraseMember_sublist memberName).subset hkey)
  | groupDisband memberName =>
      rw [exec, keys_groupDisband]
      exact fun key hkey => h key ((keys_eraseMember_sublist memberName).subset hkey)
  | aliveMsg now memberAlive => rwa [exec, keys_aliveMsg]
  | setMemberOnline now memberName online => rwa [exec, keys_setMemberOnline]
  | addInvite now leaderName memberName => exact h
  | removeInvite leaderName memberName => exact h
  | removeOldInvites now => exact h

end DaraChat.GroupContainer
