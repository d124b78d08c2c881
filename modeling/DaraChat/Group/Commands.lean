import DaraChat.Group.Lookup

set_option autoImplicit false

/-! # What the commands do

One statement for each command of the container: under which conditions it succeeds, what it
answers, and what the container is afterwards. Later files cite these and never unfold a
command.
-/

namespace DaraChat.GroupContainer

variable {c : GroupContainer}

/-! ## `GroupStartGroup` -/

/-- The entry of a character that founds a group. -/
def founder (now : Time) (uuid leaderName : Str) : GroupMember :=
  { name := leaderName, groupId := getNewGroupId uuid, isLeader := true, isOnline := true,
    storeTime := now }

theorem groupStartGroup_of_grouped {n : Str} (now : Time) (uuid : Str) (h : c.groupIdOf n ≠ []) :
    (c.groupStartGroup now uuid n).2 = c ∧ (c.groupStartGroup now uuid n).1.errorCode < 0 := by
  simp [groupStartGroup, h, daraGroupMemberAlreadyInGroup]

theorem groupStartGroup_of_none {n : Str} (now : Time) (uuid : Str) (h : c.groupIdOf n = []) :
    (c.groupStartGroup now uuid n).2 = c.append (founder now uuid n) ∧
      (c.groupStartGroup now uuid n).1.errorCode = 0 ∧
      (c.groupStartGroup now uuid n).1.groupId = getNewGroupId uuid := by
  simp [groupStartGroup, h, append, founder]

/-! ## `GroupJoin` -/

/-- The entry of a character that joins the group `g`. -/
def joiner (now : Time) (memberName g : Str) : GroupMember :=
  { name := memberName, groupId := g, isLeader := false, isOnline := true, storeTime := now }

/-- The conditions under which `GroupJoin` adds the member. -/
structure CanJoin (c : GroupContainer) (memberName leaderName : Str) : Prop where
  leaderName_ne : leaderName ≠ []
  leader_grouped : c.groupIdOf leaderName ≠ []
  not_full : ((c.entriesOf (c.groupIdOf leaderName)).length : Int) < myMaxGroupMembers
  member_free : c.groupIdOf memberName = []

theorem groupJoin_of_canJoin {memberName leaderName : Str} (now : Time)
    (h : c.CanJoin memberName leaderName) :
    (c.groupJoin now memberName leaderName).2 =
        c.append (joiner now memberName (c.groupIdOf leaderName)) ∧
      (c.groupJoin now memberName leaderName).1.errorCode = 0 ∧
      (c.groupJoin now memberName leaderName).1.groupId = c.groupIdOf leaderName := by
  have hcount : ¬ (c.getGroupInfo leaderName).memberCount ≥ myMaxGroupMembers := by
    rw [getGroupInfo_memberCount h.leader_grouped]
    have := h.not_full
    omega
  have hcode : (c.getGroupInfo leaderName).errorCode = 0 := by
    rw [getGroupInfo_eq h.leader_grouped]
  simp [groupJoin, h.leaderName_ne, h.leader_grouped, hcount, h.member_free, hcode, append, joiner]

theorem groupJoin_of_not_canJoin {memberName leaderName : Str} (now : Time)
    (h : ¬ c.CanJoin memberName leaderName) :
    (c.groupJoin now memberName leaderName).2 = c ∧
      (c.groupJoin now memberName leaderName).1.errorCode < 0 := by
  by_cases hempty : leaderName = []
  · simp [groupJoin, hempty, daraGroupLeaderEmpty]
  by_cases hgroup : c.groupIdOf leaderName = []
  · simp [groupJoin, hempty, hgroup, daraGroupLeaderHasNoGroup]
  by_cases hfull : (c.getGroupInfo leaderName).memberCount ≥ myMaxGroupMembers
  · simp [groupJoin, hempty, hgroup, hfull, daraGroupErrorFull]
  have hmember : c.groupIdOf memberName ≠ [] := by
    intro hfree
    rw [getGroupInfo_memberCount hgroup] at hfull
    exact h ⟨hempty, hgroup, by omega, hfree⟩
  simp [groupJoin, hempty, hgroup, hfull, hmember, daraGroupMemberAlreadyInGroup]

/-! ## `GroupInvite` -/

/-- `GroupInvite` succeeds for a leader, and a guest who is free or alone in another group. -/
theorem groupInvite_success {memberName leaderName : Str}
    (h : (c.groupInvite memberName leaderName).errorCode = daraGroupSuccess) :
    (c.getGroupInfo leaderName).isLeader = true := by
  by_contra hlead
  simp [groupInvite, hlead, daraGroupIsNotLeader, daraGroupSuccess] at h

/-! ## `GroupKickMember` -/

theorem groupKickMember_cases (c : GroupContainer) (memberName leaderName : Str) :
    (c.groupKickMember memberName leaderName).2 = c ∨
      memberName ≠ leaderName ∧ (c.getGroupInfo leaderName).isLeader = true ∧
        c.groupIdOf memberName = c.groupIdOf leaderName ∧
        (c.groupKickMember memberName leaderName).2 = c.eraseMember memberName := by
  by_cases hself : memberName = leaderName
  · simp [groupKickMember, hself]
  by_cases hlead : (c.getGroupInfo leaderName).isLeader = true
  · by_cases hgroup : c.groupIdOf memberName = c.groupIdOf leaderName
    · exact Or.inr ⟨hself, hlead, hgroup, by simp [groupKickMember, hself, hlead, hgroup]⟩
    · simp [groupKickMember, hself, hlead, hgroup]
  · simp [groupKickMember, hself, hlead]

/-! ## `GroupDisband` -/

theorem groupDisband_myInvites (c : GroupContainer) (n : Str) :
    (c.groupDisband n).2.myInvites =
      if (c.getGroupInfo n).memberCount = 1 then
        c.myInvites.filter fun invite => invite.leaderName ≠ n
      else c.myInvites := by
  unfold groupDisband
  by_cases hone : (c.getGroupInfo n).memberCount = 1 <;>
    by_cases hlead : (c.getGroupInfo n).leaderName = n <;>
    simp [hone, hlead, eraseMember, assignLeader]

theorem groupDisband_myInvites_subset (c : GroupContainer) (n : Str) :
    (c.groupDisband n).2.myInvites ⊆ c.myInvites := by
  rw [groupDisband_myInvites]
  split
  · exact List.filter_subset_self _
  · exact fun _ hinv => hinv

theorem groupDisband_myGroups (c : GroupContainer) (n : Str) :
    (c.groupDisband n).2.myGroups =
      if (c.getGroupInfo n).leaderName = n then
        ((c.eraseMember n).assignLeader (c.groupIdOf n)).myGroups
      else (c.eraseMember n).myGroups := by
  unfold groupDisband
  by_cases hone : (c.getGroupInfo n).memberCount = 1 <;>
    by_cases hlead : (c.getGroupInfo n).leaderName = n <;>
    simp [hone, hlead, eraseMember, assignLeader]

theorem entriesOf_congr {c' : GroupContainer} (h : c'.myGroups = c.myGroups) (g : Str) :
    c'.entriesOf g = c.entriesOf g := by
  rw [entriesOf, entriesOf, h]

theorem groupIdOf_of_myGroups {c' : GroupContainer} (h : c'.myGroups = c.myGroups) (n : Str) :
    c'.groupIdOf n = c.groupIdOf n := by
  rw [groupIdOf, groupIdOf, h]

theorem groupIdOf_groupDisband (c : GroupContainer) (n n' : Str) :
    (c.groupDisband n).2.groupIdOf n' = if n' = n then [] else c.groupIdOf n' := by
  have herase : (c.groupDisband n).2.groupIdOf n' = (c.eraseMember n).groupIdOf n' := by
    by_cases hlead : (c.getGroupInfo n).leaderName = n
    · have hgroups := groupDisband_myGroups c n
      rw [if_pos hlead] at hgroups
      rw [groupIdOf_of_myGroups hgroups, groupIdOf_assignLeader]
    · have hgroups := groupDisband_myGroups c n
      rw [if_neg hlead] at hgroups
      exact groupIdOf_of_myGroups hgroups n'
  rw [herase]
  by_cases hn : n' = n
  · rw [if_pos hn, hn, groupIdOf_eraseMember_self]
  · rw [if_neg hn, groupIdOf_eraseMember_ne c n hn]

/-- Groups without an entry of that name are untouched. -/
theorem entriesOf_eraseMember_ne (hc : c.NamesNodup) {n g : Str} (hg : c.groupIdOf n ≠ g) :
    (c.eraseMember n).entriesOf g = c.entriesOf g := by
  rw [entriesOf_eraseMember, List.filter_eq_self]
  intro member hm
  obtain ⟨hmem, hmg⟩ := mem_entriesOf.mp hm
  rw [decide_eq_true_eq]
  rintro rfl
  exact hg ((groupIdOf_eq_of_mem hc hmem).trans hmg)

/-- Groups other than that of the departing character are untouched. -/
theorem entriesOf_groupDisband_ne (hc : c.NamesNodup) {n g : Str} (hg : c.groupIdOf n ≠ g) :
    (c.groupDisband n).2.entriesOf g = c.entriesOf g := by
  have herase := entriesOf_eraseMember_ne hc hg
  have hgroups := groupDisband_myGroups c n
  by_cases hlead : (c.getGroupInfo n).leaderName = n
  · rw [if_pos hlead] at hgroups
    rw [entriesOf_congr hgroups, entriesOf_assignLeader_ne _ _ (Ne.symm hg), herase]
  · rw [if_neg hlead] at hgroups
    rw [entriesOf_congr hgroups, herase]

/-- In its own group the departing character's entry is gone, and if it was the leader the first
entry left is. -/
theorem entriesOf_groupDisband_self (c : GroupContainer) (n : Str) :
    (c.groupDisband n).2.entriesOf (c.groupIdOf n) =
      let left := (c.entriesOf (c.groupIdOf n)).filter fun member => member.name ≠ n
      if (c.getGroupInfo n).leaderName = n then
        Keyed.markFirst GroupMember.groupId
          (fun isLeader member => { member with isLeader := isLeader }) (c.groupIdOf n) false left
      else left := by
  have hgroups := groupDisband_myGroups c n
  by_cases hlead : (c.getGroupInfo n).leaderName = n
  · rw [if_pos hlead] at hgroups
    rw [entriesOf_congr hgroups, entriesOf_assignLeader_self, entriesOf_eraseMember]
    exact (if_pos hlead).symm
  · rw [if_neg hlead] at hgroups
    rw [entriesOf_congr hgroups, entriesOf_eraseMember]
    exact (if_neg hlead).symm

/-- The other entries stay as they are, up to their leader flags. -/
theorem map_groupDisband {β : Type} (field : GroupMember → β)
    (hfield : ∀ b (m : GroupMember), field { m with isLeader := b } = field m) (n : Str) :
    (c.groupDisband n).2.myGroups.map field = (c.eraseMember n).myGroups.map field := by
  rw [groupDisband_myGroups]
  split
  · exact map_assignLeader _ _ field hfield
  · rfl

end DaraChat.GroupContainer
