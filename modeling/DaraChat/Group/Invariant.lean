import DaraChat.Group.Sound
import DaraChat.Lib.Machine

set_option autoImplicit false

/-! # The invariant of the group container

The container as a machine of its own: ten commands, in any order and with any names, on the
empty container. `WellFormed` is the invariant: names are unique, ids are non-empty, no group
exceeds `myMaxGroupMembers`, and every group is led by its first entry and by no other.
`wellFormed_run` proves it of every run in which new group ids are fresh.
-/

namespace DaraChat.GroupContainer

/-- The operations of the container that change its state or decide about it. -/
inductive Command
  | groupStartGroup (now : Time) (uuid leaderName : Str)
  | groupJoin (now : Time) (memberName leaderName : Str)
  | groupInvite (memberName leaderName : Str)
  | groupKickMember (memberName leaderName : Str)
  | groupDisband (memberName : Str)
  | aliveMsg (now : Time) (memberAlive : GroupMember)
  | setMemberOnline (now : Time) (memberName : Str) (online : Bool)
  | addInvite (now : Time) (leaderName memberName : Str)
  | removeInvite (leaderName memberName : Str)
  | removeOldInvites (now : Time)

/-- The container after a command. -/
def exec (c : GroupContainer) : Command → GroupContainer
  | .groupStartGroup now uuid leaderName => (c.groupStartGroup now uuid leaderName).2
  | .groupJoin now memberName leaderName => (c.groupJoin now memberName leaderName).2
  | .groupInvite _ _ => c
  | .groupKickMember memberName leaderName => (c.groupKickMember memberName leaderName).2
  | .groupDisband memberName => (c.groupDisband memberName).2
  | .aliveMsg now memberAlive => c.aliveMsg now memberAlive
  | .setMemberOnline now memberName online => (c.setMemberOnline now memberName online).2
  | .addInvite now leaderName memberName => c.addInvite now leaderName memberName
  | .removeInvite leaderName memberName => c.removeInvite leaderName memberName
  | .removeOldInvites now => c.removeOldInvites now

/-- The container and its commands. -/
def machine : Machine GroupContainer Command := ⟨{}, exec⟩

/-- The id that `GetNewGroupId` draws is not in use. -/
def FreshId (c : GroupContainer) (uuid : Str) : Prop :=
  ∀ member ∈ c.myGroups, member.groupId ≠ getNewGroupId uuid

instance (c : GroupContainer) (uuid : Str) : Decidable (c.FreshId uuid) :=
  inferInstanceAs (Decidable (∀ member ∈ c.myGroups, member.groupId ≠ getNewGroupId uuid))

theorem freshId_iff {c : GroupContainer} {uuid : Str} :
    c.FreshId uuid ↔ c.entriesOf (getNewGroupId uuid) = [] := by
  rw [FreshId, entriesOf, List.filter_eq_nil_iff]
  simp only [decide_eq_true_eq]

/-- A command that starts a group draws a fresh id. The id is drawn for a character without a
group only. -/
def DrawsFreshId (c : GroupContainer) : Command → Prop
  | .groupStartGroup _ uuid leaderName => c.groupIdOf leaderName = [] → c.FreshId uuid
  | _ => True

instance (c : GroupContainer) (cmd : Command) : Decidable (c.DrawsFreshId cmd) := by
  cases cmd <;> unfold DrawsFreshId <;> infer_instance

/-! ## The invariant -/

/-- The invariant of the container. -/
structure WellFormed (c : GroupContainer) : Prop extends Sound c where
  size_le : ∀ g, ((c.entriesOf g).length : Int) ≤ myMaxGroupMembers
  led : ∀ g, Keyed.HeadMarked GroupMember.isLeader (c.entriesOf g)

theorem length_entriesOf (c : GroupContainer) (g : Str) :
    (c.entriesOf g).length = (c.myGroups.map GroupMember.groupId).count g := by
  rw [entriesOf, ← List.countP_eq_length_filter, List.count, List.countP_map]
  congr 1
  funext member
  simp [beq_eq_decide]

theorem WellFormed.classesLed {c : GroupContainer} (hc : c.WellFormed) :
    Keyed.ClassesLed GroupMember.groupId GroupMember.isLeader c.myGroups := hc.led

/-- In a led group the last leader found is the first entry. -/
theorem lastLeader_eq_head {l : List GroupMember}
    (h : Keyed.HeadMarked GroupMember.isLeader l) : lastLeader l = l.head? := by
  cases l with
  | nil => rfl
  | cons first rest =>
      have hrest : rest.filter (fun member => member.isLeader) = [] := by
        rw [List.filter_eq_nil_iff]
        intro member hm
        rw [h.2 member hm]
        exact Bool.false_ne_true
      simp [lastLeader, h.1, hrest]

section WellFormed

variable {c : GroupContainer}

/-- The leader that is reported for a grouped name is the first entry of its group. -/
theorem WellFormed.leaderName_eq (hc : c.WellFormed) {n : Str} (hn : c.groupIdOf n ≠ [])
    {leader : GroupMember} (hl : leader ∈ c.entriesOf (c.groupIdOf n))
    (hlead : leader.isLeader = true) : (c.getGroupInfo n).leaderName = leader.name := by
  have hlast : lastLeader (c.entriesOf (c.groupIdOf n)) = some leader := by
    rw [lastLeader_eq_head (hc.led _), (hc.led _).eq_head hl hlead]
  simp [getGroupInfo_eq hn, hlast]

/-- A new entry for a name without one: at the head of a fresh group, or in a group with room. -/
theorem WellFormed.append (hc : c.WellFormed) {newMember : GroupMember}
    (hname : c.groupIdOf newMember.name = [])
    (hg : startsWith newMember.groupId myGroupPrefix = true)
    (hsize : ((c.entriesOf newMember.groupId).length : Int) < myMaxGroupMembers)
    (hled : ∀ g, Keyed.HeadMarked GroupMember.isLeader ((c.append newMember).entriesOf g)) :
    (c.append newMember).WellFormed where
  toSound := hc.toSound.append hname hg
  size_le := by
    intro g
    rw [entriesOf_append]
    by_cases hgg : newMember.groupId = g
    · subst hgg
      simp only [if_true, List.length_append, List.length_singleton]
      omega
    · simpa [hgg] using hc.size_le g
  led := hled

/-- An entry leaves; where it was its group's leader, the marks must be set afresh. -/
theorem WellFormed.eraseMember (hc : c.WellFormed) (n : Str)
    (hled : ∀ g, Keyed.HeadMarked GroupMember.isLeader ((c.eraseMember n).entriesOf g)) :
    (c.eraseMember n).WellFormed where
  toSound := hc.toSound.of_sublist (keys_eraseMember_sublist n)
  size_le := by
    intro g
    have hle := List.length_filter_le (fun member : GroupMember => decide (member.name ≠ n))
      (c.entriesOf g)
    have := hc.size_le g
    rw [entriesOf_eraseMember]
    omega
  led := hled

/-- Taking out `n` leaves every class led in which `n` is not a leader. -/
theorem WellFormed.headMarked_erase (hc : c.WellFormed) {n g : Str}
    (h : ∀ member ∈ c.entriesOf g, member.name = n → member.isLeader = false) :
    Keyed.HeadMarked GroupMember.isLeader ((c.eraseMember n).entriesOf g) := by
  rw [entriesOf_eraseMember]
  refine Keyed.HeadMarked.filter _ (hc.led g) fun member hm hlead => ?_
  rw [decide_eq_true_eq]
  intro hn
  rw [h member hm hn] at hlead
  exact Bool.false_ne_true hlead

/-- A change of one entry that keeps its name, group and leader flag. -/
theorem WellFormed.modifyMember (hc : c.WellFormed) {n : Str} {f : GroupMember → GroupMember}
    (hname : ∀ m, (f m).name = m.name) (hgroup : ∀ m, (f m).groupId = m.groupId)
    (hlead : ∀ m, (f m).isLeader = m.isLeader) : (c.modifyMember n f).WellFormed where
  toSound := hc.toSound.of_sublist (by rw [keys_modifyMember hname hgroup])
  size_le := by
    intro g
    rw [length_entriesOf, map_modifyMember _ hgroup, ← length_entriesOf]
    exact hc.size_le g
  led := by
    intro g
    rw [entriesOf_modifyMember hc.namesNodup hgroup]
    have hkeep : ∀ m : GroupMember, (if m.name = n then f m else m).isLeader = m.isLeader := by
      intro m
      by_cases hm : m.name = n <;> simp [hm, hlead]
    have h := hc.led g
    cases hl : c.entriesOf g with
    | nil => trivial
    | cons first rest =>
        rw [hl] at h
        refine ⟨(hkeep first).trans h.1, fun m hm => ?_⟩
        obtain ⟨m', hm', rfl⟩ := List.mem_map.mp hm
        exact (hkeep m').trans (h.2 m' hm')

/-- The invitations are no part of the invariant. -/
theorem WellFormed.congr {c' : GroupContainer} (hc : c.WellFormed)
    (h : c'.myGroups = c.myGroups) : c'.WellFormed where
  toSound := hc.toSound.of_sublist (by rw [keys, keys, h])
  size_le := by intro g; rw [entriesOf, h]; exact hc.size_le g
  led := by intro g; rw [entriesOf, h]; exact hc.led g

end WellFormed

/-! ## Every command keeps the invariant -/

section Commands

variable {c : GroupContainer}

theorem wellFormed_groupStartGroup (hc : c.WellFormed) (now : Time) {uuid : Str} (n : Str)
    (h : c.groupIdOf n = [] → c.FreshId uuid) : (c.groupStartGroup now uuid n).2.WellFormed := by
  by_cases hn : c.groupIdOf n = []
  · have hfresh := h hn
    rw [(groupStartGroup_of_none now uuid hn).1]
    have hempty := freshId_iff.mp hfresh
    refine hc.append hn (startsWith_getNewGroupId uuid) ?_ ?_
    · show ((c.entriesOf (getNewGroupId uuid)).length : Int) < myMaxGroupMembers
      rw [hempty]
      decide
    · exact hc.classesLed.append_new hfresh rfl
  · rw [(groupStartGroup_of_grouped now uuid hn).1]
    exact hc

theorem wellFormed_groupJoin (hc : c.WellFormed) (now : Time) (memberName leaderName : Str) :
    (c.groupJoin now memberName leaderName).2.WellFormed := by
  by_cases hjoin : c.CanJoin memberName leaderName
  · rw [(groupJoin_of_canJoin now hjoin).1]
    obtain ⟨leader, hleader, -, hgroup⟩ := exists_mem_of_groupIdOf hjoin.leader_grouped
    refine hc.append hjoin.member_free (hc.groupIdOf_prefixed hjoin.leader_grouped)
      hjoin.not_full ?_
    exact hc.classesLed.append_member hleader hgroup rfl
  · rw [(groupJoin_of_not_canJoin now hjoin).1]
    exact hc

/-- A kicked member is not the leader of its group, because the kicking one is. -/
theorem wellFormed_groupKickMember (hc : c.WellFormed) (memberName leaderName : Str) :
    (c.groupKickMember memberName leaderName).2.WellFormed := by
  rcases groupKickMember_cases c memberName leaderName with heq | ⟨hself, hlead, hgroup, heq⟩
  · rw [heq]
    exact hc
  · rw [heq]
    refine hc.eraseMember memberName fun g => hc.headMarked_erase fun member hm hn => ?_
    obtain ⟨-, leader, hleader, hname, hmark⟩ := mem_of_getGroupInfo_isLeader hlead
    by_contra hmember
    rw [Bool.not_eq_false] at hmember
    -- both would be the first entry of the same group
    have hg : g = c.groupIdOf leaderName := by
      rw [← hgroup, ← hn, groupIdOf_eq_of_mem hc.namesNodup (mem_entriesOf.mp hm).1,
        (mem_entriesOf.mp hm).2]
    subst hg
    have h1 := (hc.led _).eq_head hm hmember
    rw [(hc.led _).eq_head hleader hmark] at h1
    apply hself
    rw [← hn, ← hname, Option.some.inj h1]

/-- The departing leader's group is given its first remaining entry as leader. -/
theorem wellFormed_groupDisband (hc : c.WellFormed) (n : Str) :
    (c.groupDisband n).2.WellFormed := by
  -- in every group but that of `n` nobody leaves
  have hother : ∀ g, g ≠ c.groupIdOf n →
      Keyed.HeadMarked GroupMember.isLeader ((c.eraseMember n).entriesOf g) := by
    intro g hg
    refine hc.headMarked_erase fun member hm hn => absurd ?_ hg
    rw [← hn, groupIdOf_eq_of_mem hc.namesNodup (mem_entriesOf.mp hm).1, (mem_entriesOf.mp hm).2]
  have hgroups := groupDisband_myGroups c n
  by_cases hlead : (c.getGroupInfo n).leaderName = n
  · rw [if_pos hlead] at hgroups
    refine WellFormed.congr (c := (c.eraseMember n).assignLeader (c.groupIdOf n)) ?_ hgroups
    refine ⟨hc.toSound.of_sublist ?_, ?_, ?_⟩
    · rw [keys, map_assignLeader _ _ _ fun _ _ => rfl]
      exact keys_eraseMember_sublist n
    · intro g
      have hle := List.length_filter_le (fun member : GroupMember => decide (member.name ≠ n))
        (c.entriesOf g)
      have := hc.size_le g
      rw [length_entriesOf, map_assignLeader _ _ _ fun _ _ => rfl, ← length_entriesOf,
        entriesOf_eraseMember]
      omega
    · exact Keyed.classesLed_markFirst GroupMember.groupId
        (fun isLeader member => { member with isLeader := isLeader }) (fun _ _ => rfl)
        (fun _ _ => rfl) hother
  · rw [if_neg hlead] at hgroups
    refine WellFormed.congr (hc.eraseMember n fun g => ?_) hgroups
    by_cases hg : g = c.groupIdOf n
    · subst hg
      refine hc.headMarked_erase fun member hm hn => ?_
      by_contra hmember
      rw [Bool.not_eq_false] at hmember
      have hgrouped : c.groupIdOf n ≠ [] := by
        rw [← (mem_entriesOf.mp hm).2]
        exact hc.groupIdsNonempty member (mem_entriesOf.mp hm).1
      exact hlead ((hc.leaderName_eq hgrouped hm hmember).trans hn)
    · exact hother g hg

theorem wellFormed_aliveMsg (hc : c.WellFormed) (now : Time) (memberAlive : GroupMember) :
    (c.aliveMsg now memberAlive).WellFormed := by
  rw [aliveMsg_eq]
  exact hc.modifyMember (fun _ => rfl) (fun _ => rfl) fun _ => rfl

theorem wellFormed_setMemberOnline (hc : c.WellFormed) (now : Time) (n : Str) (online : Bool) :
    (c.setMemberOnline now n online).2.WellFormed := by
  rw [setMemberOnline_eq]
  exact hc.modifyMember (fun _ => rfl) (fun _ => rfl) fun _ => rfl

/-- **The step lemma**: every command keeps the invariant. -/
theorem wellFormed_exec (hc : c.WellFormed) (cmd : Command) (hfresh : c.DrawsFreshId cmd) :
    (c.exec cmd).WellFormed := by
  cases cmd with
  | groupStartGroup now uuid leaderName => exact wellFormed_groupStartGroup hc now leaderName hfresh
  | groupJoin now memberName leaderName => exact wellFormed_groupJoin hc now memberName leaderName
  | groupInvite memberName leaderName => exact hc
  | groupKickMember memberName leaderName =>
      exact wellFormed_groupKickMember hc memberName leaderName
  | groupDisband memberName => exact wellFormed_groupDisband hc memberName
  | aliveMsg now memberAlive => exact wellFormed_aliveMsg hc now memberAlive
  | setMemberOnline now memberName online =>
      exact wellFormed_setMemberOnline hc now memberName online
  | addInvite now leaderName memberName => exact hc.congr rfl
  | removeInvite leaderName memberName => exact hc.congr rfl
  | removeOldInvites now => exact hc.congr rfl

end Commands

theorem wellFormed_init : (machine.init).WellFormed where
  toSound := sound_init
  size_le := by intro g; simp [entriesOf, machine, myMaxGroupMembers]
  led := by intro g; trivial

/-- **The run lemma.** -/
theorem wellFormed_run (cmds : List Command) (h : machine.Along DrawsFreshId cmds) :
    (machine.run cmds).WellFormed :=
  machine.along_induction (P := fun _ c => c.WellFormed) wellFormed_init
    (fun _ cmd _ hfresh hc => wellFormed_exec hc cmd hfresh) cmds h

/-- **The container invariant over whole runs.** Names are unique, ids are non-empty, every
group has between one and `myMaxGroupMembers` entries, and in every group the first entry, and
no other, is the leader. -/
theorem groups_wellFormed_of_run (cmds : List Command) (h : machine.Along DrawsFreshId cmds) :
    let c := machine.run cmds
    (c.myGroups.map GroupMember.name).Nodup ∧
      (∀ member ∈ c.myGroups, member.groupId ≠ []) ∧
      (∀ member ∈ c.myGroups, 1 ≤ (c.entriesOf member.groupId).length ∧
        ((c.entriesOf member.groupId).length : Int) ≤ myMaxGroupMembers) ∧
      ∀ member ∈ c.myGroups, ∃ first rest, c.entriesOf member.groupId = first :: rest ∧
        first.isLeader = true ∧ ∀ other ∈ rest, other.isLeader = false := by
  intro c
  have hc : c.WellFormed := wellFormed_run cmds h
  refine ⟨hc.namesNodup, hc.groupIdsNonempty, fun member hm => ⟨?_, hc.size_le _⟩, ?_⟩
  · exact List.length_pos_of_mem (mem_entriesOf.mpr ⟨hm, rfl⟩)
  · intro member hm
    have hled := hc.led member.groupId
    cases hl : c.entriesOf member.groupId with
    | nil =>
        have hmem : member ∈ c.entriesOf member.groupId := mem_entriesOf.mpr ⟨hm, rfl⟩
        rw [hl] at hmem
        cases hmem
    | cons first rest =>
        rw [hl] at hled
        exact ⟨first, rest, rfl, hled⟩

/-- Trula joins Tirio's group, a third joins, and Tirio leaves: the lead passes on. -/
def succession : List Command :=
  [ .groupStartGroup 100 "a".toList "Tirio".toList
  , .groupJoin 101 "Trula".toList "Tirio".toList
  , .groupJoin 102 [] "Trula".toList
  , .groupKickMember "Tirio".toList "Trula".toList
  , .groupDisband "Tirio".toList ]

theorem groups_wellFormed_succession :
    (machine.run succession).myGroups.map GroupMember.isLeader = [true, false] ∧
      ((machine.run succession).myGroups.map GroupMember.name).Nodup :=
  ⟨by decide, (groups_wellFormed_of_run succession (by decide)).1⟩

end DaraChat.GroupContainer
