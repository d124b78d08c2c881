import DaraChat.Group.Leaders
import DaraChat.Group.Roster

set_option autoImplicit false

/-! # Eligible invitations

Whether `i` can take `m` into its group is asked twice: by `GroupInvite`, and by the handler of
`GroupJoin`. `Invitable` is what both ask, for an inviter who is in a group. An eligible inviter
without a group founds one first, and then it holds too (`Eligible.append_founder`).
-/

namespace DaraChat.GroupContainer

/-- The character `i`, who leads a group with room or is in none, and `m`, who is in none or alone
in another. -/
structure Eligible (c : GroupContainer) (i m : Str) : Prop where
  leads : c.groupIdOf i ≠ [] →
    ∃ leader ∈ c.entriesOf (c.groupIdOf i), leader.name = i ∧ leader.isLeader = true
  room : c.groupIdOf i ≠ [] → ((c.entriesOf (c.groupIdOf i)).length : Int) < myMaxGroupMembers
  apart : c.groupIdOf i ≠ [] → c.groupIdOf m ≠ c.groupIdOf i
  alone : c.groupIdOf m ≠ [] → (c.entriesOf (c.groupIdOf m)).length = 1

/-- The same of an `i` who is in a group, as `GetGroupInfo` reports it. -/
structure Invitable (c : GroupContainer) (i m : Str) : Prop where
  grouped : c.groupIdOf i ≠ []
  leader : ∃ leader, lastLeader (c.entriesOf (c.groupIdOf i)) = some leader ∧ leader.name = i
  room : ((c.entriesOf (c.groupIdOf i)).length : Int) < myMaxGroupMembers
  apart : c.groupIdOf m ≠ c.groupIdOf i
  alone : c.groupIdOf m ≠ [] → (c.entriesOf (c.groupIdOf m)).length = 1

variable {c c' : GroupContainer} {i m : Str}

instance (c : GroupContainer) (i m : Str) : Decidable (c.Eligible i m) :=
  decidable_of_iff
    ((c.groupIdOf i ≠ [] →
        ∃ leader ∈ c.entriesOf (c.groupIdOf i), leader.name = i ∧ leader.isLeader = true) ∧
      (c.groupIdOf i ≠ [] → ((c.entriesOf (c.groupIdOf i)).length : Int) < myMaxGroupMembers) ∧
      (c.groupIdOf i ≠ [] → c.groupIdOf m ≠ c.groupIdOf i) ∧
      (c.groupIdOf m ≠ [] → (c.entriesOf (c.groupIdOf m)).length = 1))
    ⟨fun h => ⟨h.1, h.2.1, h.2.2.1, h.2.2.2⟩, fun h => ⟨h.leads, h.room, h.apart, h.alone⟩⟩

theorem Invitable.congr (h : c.Invitable i m) (hgroups : c'.myGroups = c.myGroups) :
    c'.Invitable i m := by
  have hid := groupIdOf_of_myGroups hgroups
  have hentries := entriesOf_congr hgroups
  constructor
  · rw [hid]
    exact h.grouped
  · rw [hid, hentries]
    exact h.leader
  · rw [hid, hentries]
    exact h.room
  · rw [hid, hid]
    exact h.apart
  · rw [hid, hentries]
    exact h.alone

/-! ## The inviter is in a group -/

/-- In a well-formed container, whoever leads a group is reported as its leader. -/
theorem Eligible.invitable (h : c.Eligible i m) (hc : c.WellFormed) (hi : c.groupIdOf i ≠ []) :
    c.Invitable i m := by
  obtain ⟨leader, hmem, hname, hlead⟩ := h.leads hi
  refine ⟨hi, ⟨leader, ?_, hname⟩, h.room hi, h.apart hi, h.alone⟩
  rw [lastLeader_eq_head (hc.led _), (hc.led _).eq_head hmem hlead]

/-- An inviter without a group founds one, with itself as leader and its only member. -/
theorem Eligible.append_founder (h : c.Eligible i m) (hc : c.Sound) (hne : i ≠ m)
    (hi : c.groupIdOf i = []) (now : Time) {uuid : Str} (hfresh : c.FreshId uuid) :
    (c.append (founder now uuid i)).Invitable i m ∧
      (c.append (founder now uuid i)).groupIdOf i = getNewGroupId uuid := by
  have hnew : (c.append (founder now uuid i)).groupIdOf i = getNewGroupId uuid :=
    groupIdOf_append_self ((groupIdOf_eq_nil hc.groupIdsNonempty).mp hi)
  have hguest : (c.append (founder now uuid i)).groupIdOf m = c.groupIdOf m :=
    groupIdOf_append_ne (Ne.symm hne)
  have hempty := freshId_iff.mp hfresh
  have hsolo : (c.append (founder now uuid i)).entriesOf (getNewGroupId uuid) =
      [founder now uuid i] := by
    rw [entriesOf_append, hempty]
    exact if_pos rfl
  -- the guest is in a group that has entries, and the new group had none
  have hapart : c.groupIdOf m ≠ getNewGroupId uuid := by
    intro hm
    have hgrouped : c.groupIdOf m ≠ [] := by
      rw [hm]
      exact ne_nil_of_startsWith (startsWith_getNewGroupId uuid)
    obtain ⟨member, hmem, -, hg⟩ := exists_mem_of_groupIdOf hgrouped
    exact hfresh member hmem (hg.trans hm)
  refine ⟨⟨?_, ?_, ?_, ?_, ?_⟩, hnew⟩
  · rw [hnew]
    exact ne_nil_of_startsWith (startsWith_getNewGroupId uuid)
  · rw [hnew, hsolo]
    exact ⟨_, rfl, rfl⟩
  · rw [hnew, hsolo]
    show (1 : Int) < myMaxGroupMembers
    decide
  · rwa [hnew, hguest]
  · rw [hguest, entriesOf_append]
    intro hm
    have hother : (founder now uuid i).groupId ≠ c.groupIdOf m := Ne.symm hapart
    rw [if_neg hother, List.append_nil]
    exact h.alone hm

/-! ## Both checks pass -/

/-- `GroupInvite` lets the invitation pass. -/
theorem Invitable.groupInvite (h : c.Invitable i m) :
    (c.groupInvite m i).errorCode = daraGroupSuccess := by
  obtain ⟨leader, hlast, hname⟩ := h.leader
  have hlead : (c.getGroupInfo i).isLeader = true := by
    simp [getGroupInfo_eq h.grouped, hlast, hname]
  have hcount : ¬ (c.groupIdOf m ≠ [] ∧ (c.getGroupInfo m).memberCount > 1) := by
    rintro ⟨hm, hmany⟩
    rw [getGroupInfo_memberCount hm, h.alone hm] at hmany
    omega
  have hsame : ¬ (c.groupIdOf m ≠ [] ∧ c.groupIdOf m = c.groupIdOf i) := fun hm => h.apart hm.2
  simp only [GroupContainer.groupInvite, getGroupInfo_groupId]
  rw [if_neg (by simpa using hlead), if_neg hsame, if_neg hcount]

/-- The number of members that is reported for the inviter. -/
theorem Invitable.memberCount_lt (h : c.Invitable i m) :
    (c.getGroupInfo i).memberCount < myMaxGroupMembers := by
  rw [getGroupInfo_memberCount h.grouped]
  exact h.room

/-- The guest is in no group, or is reported to be alone. -/
theorem Invitable.memberCount_guest (h : c.Invitable i m) (hm : c.groupIdOf m ≠ []) :
    (c.getGroupInfo m).memberCount = 1 := by
  rw [getGroupInfo_memberCount hm, h.alone hm]
  rfl

/-! ## After the join -/

/-- A member who does not lead changes nothing about who leads. -/
theorem lastLeader_append {l : List GroupMember} {newMember : GroupMember}
    (h : newMember.isLeader = false) : lastLeader (l ++ [newMember]) = lastLeader l := by
  simp [lastLeader, List.filter_append, h]

/-- What an accepted invitation of `i` to `m` comes to: `m` is the last entry of the group of
`i`, which `i` leads as before; a solo group that `m` had is gone, with its invitations; and
every other group is as it was. -/
structure Accepted (c c' : GroupContainer) (i m : Str) : Prop where
  joined : ∃ rest entry, c'.entriesOf (c'.groupIdOf i) = rest ++ [entry] ∧ entry.name = m ∧
    (c.groupIdOf i ≠ [] → c'.groupIdOf i = c.groupIdOf i ∧ rest = c.entriesOf (c.groupIdOf i))
  grouped : c'.groupIdOf m = c'.groupIdOf i ∧ c'.groupIdOf i ≠ []
  leader : (c'.getGroupInfo i).isLeader = true ∧ (c'.getGroupInfo m).leaderName = i
  left : c.groupIdOf m ≠ [] → c'.entriesOf (c.groupIdOf m) = []
  purged : c.groupIdOf m ≠ [] → ∀ inv ∈ c'.myInvites, inv.leaderName ≠ m
  others : ∀ g, g ≠ c'.groupIdOf i → g ≠ c.groupIdOf m → c'.entriesOf g = c.entriesOf g

/-- In `c₁` the character `m` has left the solo group that it may have had in `c`. -/
structure Parted (c c₁ : GroupContainer) (m : Str) : Prop where
  sound : c₁.Sound
  free : c₁.groupIdOf m = []
  others : ∀ g, c.groupIdOf m ≠ g → c₁.entriesOf g = c.entriesOf g
  left : c.groupIdOf m ≠ [] → c₁.entriesOf (c.groupIdOf m) = []
  purged : c.groupIdOf m ≠ [] → ∀ inv ∈ c₁.myInvites, inv.leaderName ≠ m

/-- **The join of a guest who has left** comes to that. -/
theorem Invitable.accepted {c₁ : GroupContainer} (h : c.Invitable i m) (hparted : c.Parted c₁ m)
    (hi : c₁.groupIdOf i = c.groupIdOf i) (now : Time)
    (hgroups : c'.myGroups = (c₁.append (joiner now m (c.groupIdOf i))).myGroups)
    (hinvites : c'.myInvites ⊆ c₁.myInvites) : c.Accepted c' i m := by
  have hne : i ≠ m := fun heq => h.apart (by rw [heq])
  have hinviter : c'.groupIdOf i = c.groupIdOf i := by
    rw [groupIdOf_of_myGroups hgroups, groupIdOf_append_ne hne, hi]
  have hguest : c'.groupIdOf m = c.groupIdOf i := by
    rw [groupIdOf_of_myGroups hgroups]
    have hnew : ∀ member ∈ c₁.myGroups, member.name ≠ (joiner now m (c.groupIdOf i)).name :=
      (groupIdOf_eq_nil hparted.sound.groupIdsNonempty).mp hparted.free
    exact groupIdOf_append_self hnew
  have hjoined : c'.entriesOf (c.groupIdOf i) =
      c.entriesOf (c.groupIdOf i) ++ [joiner now m (c.groupIdOf i)] := by
    rw [entriesOf_congr hgroups, entriesOf_append, hparted.others _ h.apart]
    exact congrArg _ (if_pos rfl)
  have hother : ∀ g, g ≠ c.groupIdOf i → c'.entriesOf g = c₁.entriesOf g := by
    intro g hg
    have hnot : (joiner now m (c.groupIdOf i)).groupId ≠ g := Ne.symm hg
    rw [entriesOf_congr hgroups, entriesOf_append, if_neg hnot, List.append_nil]
  -- the new member does not lead, so the inviter still does
  obtain ⟨leader, hlast, hname⟩ := h.leader
  have hlast' : lastLeader (c'.entriesOf (c.groupIdOf i)) = some leader := by
    rw [hjoined, lastLeader_append rfl, hlast]
  have hgrouped : c'.groupIdOf i ≠ [] := by
    rw [hinviter]
    exact h.grouped
  constructor
  case joined =>
    rw [hinviter]
    exact ⟨_, _, hjoined, rfl, fun _ => ⟨rfl, rfl⟩⟩
  case grouped => exact ⟨hguest.trans hinviter.symm, hgrouped⟩
  case leader =>
    constructor
    · rw [getGroupInfo_eq hgrouped, hinviter, hlast']
      simp [hname]
    · have hmember : c'.groupIdOf m ≠ [] := by
        rw [hguest]
        exact h.grouped
      rw [leaderName_of_lastLeader hmember (hguest ▸ hlast'), hname]
  case left =>
    intro hgroup
    rw [hother _ h.apart]
    exact hparted.left hgroup
  case purged =>
    intro hgroup inv hinv
    exact hparted.purged hgroup inv (hinvites hinv)
  case others =>
    intro g hg hgm
    rw [hinviter] at hg
    rw [hother g hg]
    exact hparted.others g (Ne.symm hgm)

/-- Before the invitation the group of `i` may have been missing. -/
theorem Accepted.of_before {c₁ : GroupContainer} (h : c₁.Accepted c' i m)
    (hgrouped : c₁.groupIdOf i ≠ []) (hguest : c₁.groupIdOf m = c.groupIdOf m)
    (hsame : c.groupIdOf i ≠ [] → c₁.myGroups = c.myGroups)
    (hothers : ∀ g, g ≠ c₁.groupIdOf i → c₁.entriesOf g = c.entriesOf g) : c.Accepted c' i m := by
  obtain ⟨rest, entry, hentries, hname, hbefore⟩ := h.joined
  constructor
  -- where the inviter had a group already, nothing has changed before the join
  case joined =>
    refine ⟨rest, entry, hentries, hname, fun hi => ?_⟩
    have hgroups := hsame hi
    rw [← groupIdOf_of_myGroups hgroups i, ← entriesOf_congr hgroups]
    exact hbefore hgrouped
  case grouped => exact h.grouped
  case leader => exact h.leader
  case left =>
    rw [← hguest]
    exact h.left
  case purged =>
    rw [← hguest]
    exact h.purged
  case others =>
    intro g hg hgm
    rw [← hguest] at hgm
    rw [h.others g hg hgm]
    refine hothers g ?_
    rwa [← (hbefore hgrouped).1]

end DaraChat.GroupContainer
