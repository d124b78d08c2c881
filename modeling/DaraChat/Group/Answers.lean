import DaraChat.Group.Effects
import DaraChat.Group.Invitations

set_option autoImplicit false

/-! # Answers and lookups

What a command answers is put together in other ways than what the two lookups report: by hand for
a new group, from an older snapshot with one more member for a join, by a lookup for a kick. In
every container that is reached with fresh group ids they all say the same of the group
(`answersAgree_run`).
-/

namespace DaraChat

/-- The two say the same of one group: its id, its leader, its size and its members. -/
structure GroupInfo.SameGroup (info info' : GroupInfo) : Prop where
  groupId : info.groupId = info'.groupId
  leaderName : info.leaderName = info'.leaderName
  memberCount : info.memberCount = info'.memberCount
  groupMembers : info.groupMembers = info'.groupMembers

theorem GroupInfo.SameGroup.trans {info₁ info₂ info₃ : GroupInfo} (h : info₁.SameGroup info₂)
    (h' : info₂.SameGroup info₃) : info₁.SameGroup info₃ :=
  ⟨h.groupId.trans h'.groupId, h.leaderName.trans h'.leaderName,
    h.memberCount.trans h'.memberCount, h.groupMembers.trans h'.groupMembers⟩

theorem GroupInfo.SameGroup.symm {info info' : GroupInfo} (h : info.SameGroup info') :
    info'.SameGroup info :=
  ⟨h.groupId.symm, h.leaderName.symm, h.memberCount.symm, h.groupMembers.symm⟩

namespace GroupContainer

/-! ## The lookups -/

/-- The answer is what both lookups report afterwards, of every member and of the id. -/
structure Confirms (c : GroupContainer) (info : GroupInfo) : Prop where
  members : ∀ member ∈ c.entriesOf info.groupId, info.SameGroup (c.getGroupInfo member.name)
  group : info.SameGroup (c.getGroupInfoByGroupId info.groupId)
  counted : info.memberCount = info.groupMembers.length

variable {c : GroupContainer} {n : Str}

/-- The lookup by name and the lookup by id agree. -/
theorem sameGroup_lookups (hn : c.groupIdOf n ≠ []) :
    (c.getGroupInfo n).SameGroup (c.getGroupInfoByGroupId (c.groupIdOf n)) := by
  rw [getGroupInfo_eq hn, getGroupInfoByGroupId_eq]
  exact ⟨rfl, rfl, rfl, rfl⟩

/-- So an answer has to be compared with the lookup by id only. -/
theorem Sound.confirms (hc : c.Sound) {info : GroupInfo}
    (h : info.SameGroup (c.getGroupInfoByGroupId info.groupId)) : c.Confirms info where
  members := by
    intro member hm
    obtain ⟨hmem, hid⟩ := mem_entriesOf.mp hm
    have hgroup : c.groupIdOf member.name = info.groupId :=
      (groupIdOf_eq_of_mem hc.namesNodup hmem).trans hid
    have hgrouped : c.groupIdOf member.name ≠ [] := by
      rw [hgroup, ← hid]
      exact hc.groupIdsNonempty member hmem
    have hlookups := sameGroup_lookups hgrouped
    rw [hgroup] at hlookups
    exact h.trans hlookups.symm
  group := h
  counted := by
    rw [h.memberCount, h.groupMembers, getGroupInfoByGroupId_eq]

/-- The leader flag of a lookup by name says whether the name is the leader's. -/
theorem WellFormed.isLeader_lookup (hc : c.WellFormed) (hn : c.groupIdOf n ≠ []) :
    (c.getGroupInfo n).isLeader = true ↔ (c.getGroupInfo n).leaderName = n := by
  obtain ⟨member, hm, -, hid⟩ := exists_mem_of_groupIdOf hn
  have hled := hc.led (c.groupIdOf n)
  cases hentries : c.entriesOf (c.groupIdOf n) with
  | nil =>
      have hmem : member ∈ c.entriesOf (c.groupIdOf n) := mem_entriesOf.mpr ⟨hm, hid⟩
      rw [hentries] at hmem
      cases hmem
  | cons first rest =>
      rw [hentries] at hled
      have hlast : lastLeader (c.entriesOf (c.groupIdOf n)) = some first := by
        rw [lastLeader_eq_head (hc.led _), hentries]
        rfl
      rw [getGroupInfo_eq hn, hlast]
      simp

/-! ## The answers -/

/-- The commands whose answer describes a group. -/
def Describes : GroupCommand → Prop
  | .groupDisband _ => False
  | _ => True

theorem confirms_groupStartGroup (hc : c.WellFormed) (now : Time) {uuid leaderName : Str}
    (hnone : c.groupIdOf leaderName = []) (hfresh : c.FreshId uuid) :
    (c.groupStartGroup now uuid leaderName).2.Confirms
      (c.groupStartGroup now uuid leaderName).1 := by
  have hsound := (wellFormed_groupStartGroup hc now leaderName fun _ => hfresh).toSound
  have hanswer : (c.groupStartGroup now uuid leaderName).1 =
      { groupId := getNewGroupId uuid, leaderName := leaderName, isLeader := true, memberCount := 1,
        errorCode := 0, groupMembers := [founder now uuid leaderName] } := by
    simp [groupStartGroup, hnone, founder]
  rw [(groupStartGroup_of_none now uuid hnone).1] at hsound ⊢
  -- the group with the fresh id consists of the founder
  have hentries : (c.append (founder now uuid leaderName)).entriesOf (getNewGroupId uuid) =
      [founder now uuid leaderName] := by
    rw [entriesOf_append, freshId_iff.mp hfresh]
    exact if_pos rfl
  apply hsound.confirms
  rw [hanswer, getGroupInfoByGroupId_eq, hentries]
  exact ⟨rfl, rfl, rfl, rfl⟩

theorem confirms_groupJoin (hc : c.WellFormed) (now : Time) {memberName leaderName : Str}
    (hjoin : c.CanJoin memberName leaderName) :
    (c.groupJoin now memberName leaderName).2.Confirms (c.groupJoin now memberName leaderName).1 := by
  have hsound := (wellFormed_groupJoin hc now memberName leaderName).toSound
  have hanswer : (c.groupJoin now memberName leaderName).1 =
      { c.getGroupInfo leaderName with
        memberCount := (c.getGroupInfo leaderName).memberCount + 1
        groupMembers := (c.getGroupInfo leaderName).groupMembers ++
          [joiner now memberName (c.groupIdOf leaderName)] } := by
    have hcount : ¬ (c.getGroupInfo leaderName).memberCount ≥ myMaxGroupMembers := by
      rw [getGroupInfo_memberCount hjoin.leader_grouped]
      have := hjoin.not_full
      omega
    simp [groupJoin, hjoin.leaderName_ne, hjoin.leader_grouped, hcount, hjoin.member_free, joiner]
  rw [(groupJoin_of_canJoin now hjoin).1] at hsound ⊢
  have hentries : (c.append (joiner now memberName (c.groupIdOf leaderName))).entriesOf
      (c.groupIdOf leaderName) =
      c.entriesOf (c.groupIdOf leaderName) ++ [joiner now memberName (c.groupIdOf leaderName)] := by
    rw [entriesOf_append]
    exact congrArg _ (if_pos rfl)
  apply hsound.confirms
  rw [hanswer, getGroupInfo_eq hjoin.leader_grouped, getGroupInfoByGroupId_eq, hentries]
  refine ⟨rfl, ?_, ?_, rfl⟩
  · -- the new member is no leader, so the last leader is still the same
    simp only
    rw [lastLeader_append rfl]
  · simp

theorem confirms_groupKickMember (hc : c.WellFormed) {memberName leaderName : Str}
    (hkick : c.CanKick memberName leaderName) :
    (c.groupKickMember memberName leaderName).2.Confirms
      (c.groupKickMember memberName leaderName).1 := by
  have hsound := (wellFormed_groupKickMember hc memberName leaderName).toSound
  rw [groupKickMember_of_canKick hkick] at hsound ⊢
  -- the leader is still in its group, and the answer is its lookup
  have hgrouped : (c.eraseMember memberName).groupIdOf leaderName ≠ [] := by
    rw [groupIdOf_eraseMember_ne c memberName (Ne.symm hkick.other)]
    exact (mem_of_getGroupInfo_isLeader hkick.leads).1
  apply hsound.confirms
  rw [getGroupInfo_groupId]
  exact sameGroup_lookups hgrouped

/-- **The step lemma**: the answer of a command that succeeds is what the lookups report. -/
theorem WellFormed.confirms (hc : c.WellFormed) {cmd : GroupCommand} (hcmd : Describes cmd)
    (hfresh : c.DrawsFreshId cmd.toCommand) (h : ¬ c.Fails (.command cmd)) :
    (perform cmd c).2.Confirms (perform cmd c).1 := by
  cases cmd with
  | groupStartGroup now uuid leaderName =>
      by_cases hnone : c.groupIdOf leaderName = []
      · exact confirms_groupStartGroup hc now hnone (hfresh hnone)
      · exact absurd (groupStartGroup_of_grouped now uuid hnone).2 h
  | groupJoin now memberName leaderName =>
      by_cases hjoin : c.CanJoin memberName leaderName
      · exact confirms_groupJoin hc now hjoin
      · exact absurd (groupJoin_of_not_canJoin now hjoin).2 h
  | groupKickMember memberName leaderName =>
      by_cases hkick : c.CanKick memberName leaderName
      · exact confirms_groupKickMember hc hkick
      · exact absurd (errorCode_of_not_canKick hkick) h
  | groupDisband memberName => exact hcmd.elim

/-- The answers of the commands agree with the lookups, and the lookups with each other. -/
structure AnswersAgree (c : GroupContainer) : Prop where
  answers : ∀ cmd, Describes cmd → c.DrawsFreshId cmd.toCommand → ¬ c.Fails (.command cmd) →
    (perform cmd c).2.Confirms (perform cmd c).1
  lookups : ∀ n, c.groupIdOf n ≠ [] → c.Confirms (c.getGroupInfo n)
  leaders : ∀ n, c.groupIdOf n ≠ [] →
    ((c.getGroupInfo n).isLeader = true ↔ (c.getGroupInfo n).leaderName = n)

/-- **Answers agree with a fresh lookup, and the lookups with each other**, in every container that
is reached with fresh group ids. -/
theorem answersAgree_run (cmds : List Command) (h : machine.Along DrawsFreshId cmds) :
    (machine.run cmds).AnswersAgree where
  answers := fun _ hcmd hfresh hsucceeds => (wellFormed_run cmds h).confirms hcmd hfresh hsucceeds
  lookups := by
    intro n hn
    apply (wellFormed_run cmds h).toSound.confirms
    rw [getGroupInfo_groupId]
    exact sameGroup_lookups hn
  leaders := fun _ hn => (wellFormed_run cmds h).isLeader_lookup hn

theorem answersAgree_twoGroups :
    machine.Along DrawsFreshId twoGroups ∧ (machine.run twoGroups).AnswersAgree :=
  have hfresh : machine.Along DrawsFreshId twoGroups := by decide
  ⟨hfresh, answersAgree_run twoGroups hfresh⟩

end GroupContainer

end DaraChat
