import DaraChat.Group.Independence

set_option autoImplicit false

/-! # The effect of the group commands

Removal is by name over the whole vector, and a departing leader's flag is passed on by a loop that
rewrites the flags of a whole group. Names being unique and every group being led by its first
entry alone, one entry is removed and one flag is set (`Departs`); a command that fails changes
nothing, and the others append one entry or none (`statedEffect_run`).
-/

namespace DaraChat.GroupContainer

/-! ## The commands -/

/-- A call of a group command; `GroupInvite` is the one that only answers. -/
inductive GroupCall
  | command (cmd : GroupCommand)
  | groupInvite (memberName leaderName : Str)
  deriving DecidableEq, Repr

/-- The answer of a call, and the container after it. -/
def call (c : GroupContainer) : GroupCall → GroupInfo × GroupContainer
  | .command cmd => perform cmd c
  | .groupInvite memberName leaderName => (c.groupInvite memberName leaderName, c)

/-- Failures are answered with a negative code. -/
def Fails (c : GroupContainer) (gc : GroupCall) : Prop := (c.call gc).1.errorCode < 0

/-- The call takes a character out of a group that has no other member. -/
def LeavesSolo (c : GroupContainer) : GroupCall → Prop
  | .command (.groupDisband memberName) =>
      c.groupIdOf memberName ≠ [] ∧ (c.entriesOf (c.groupIdOf memberName)).length = 1
  | _ => False

/-! ## What they are to do -/

/-- The character `n` leaves its group: its entry is removed, and if it was the leader the first
entry left in the group becomes leader. -/
def Departs (c c' : GroupContainer) (n : Str) : Prop :=
  ∃ pre member post, c.myGroups = pre ++ member :: post ∧ member.name = n ∧
    c'.myGroups =
      if member.isLeader = true then
        Keyed.modifyFirst (fun other => other.groupId = member.groupId)
          (fun other => { other with isLeader := true }) (pre ++ post)
      else pre ++ post

/-- One entry is appended, of the character `n` in the group `g`. -/
def Enters (c c' : GroupContainer) (n g : Str) : Prop :=
  ∃ newMember : GroupMember, newMember.name = n ∧ newMember.groupId = g ∧
    c'.myGroups = c.myGroups ++ [newMember]

/-- What a call that succeeds does to the groups. -/
def Effect (c c' : GroupContainer) : GroupCall → Prop
  | .command (.groupStartGroup _ uuid leaderName) => c.Enters c' leaderName (getNewGroupId uuid)
  | .command (.groupJoin _ memberName leaderName) =>
      c.Enters c' memberName (c.groupIdOf leaderName)
  | .command (.groupKickMember memberName _) => c.Departs c' memberName
  | .command (.groupDisband memberName) =>
      if c.groupIdOf memberName = [] then c'.myGroups = c.myGroups else c.Departs c' memberName
  | .groupInvite _ _ => c'.myGroups = c.myGroups

/-- The call has its stated effect, and no other. -/
structure StatedEffect (c : GroupContainer) (gc : GroupCall) : Prop where
  fails : c.Fails gc → (c.call gc).2 = c
  succeeds : ¬ c.Fails gc → c.Effect (c.call gc).2 gc
  invites : ¬ c.LeavesSolo gc → (c.call gc).2.myInvites = c.myInvites

section Effects

variable {c c' : GroupContainer} {n : Str}

/-! ## An entry less -/

/-- The leader that is reported for a name has its entry marked, and its entry only. -/
theorem WellFormed.isLeader_iff (hc : c.WellFormed) {member : GroupMember}
    (hm : member ∈ c.myGroups) :
    member.isLeader = true ↔ (c.getGroupInfo member.name).leaderName = member.name := by
  have hid := groupIdOf_eq_of_mem hc.namesNodup hm
  have hgrouped : c.groupIdOf member.name ≠ [] := by
    rw [hid]
    exact hc.groupIdsNonempty member hm
  have hmem : member ∈ c.entriesOf (c.groupIdOf member.name) := mem_entriesOf.mpr ⟨hm, hid.symm⟩
  constructor
  · exact hc.leaderName_eq hgrouped hmem
  · intro hname
    -- the first entry of the group is the leader, and it has the name of `member`
    have hled := hc.led (c.groupIdOf member.name)
    cases hentries : c.entriesOf (c.groupIdOf member.name) with
    | nil =>
        rw [hentries] at hmem
        cases hmem
    | cons first rest =>
        rw [hentries] at hled
        have hfirst : first ∈ c.entriesOf (c.groupIdOf member.name) := by
          rw [hentries]
          exact List.mem_cons_self
        rw [hc.leaderName_eq hgrouped hfirst hled.1] at hname
        have hsame : first = member :=
          List.inj_on_of_nodup_map hc.namesNodup (mem_entriesOf.mp hfirst).1 hm hname
        rw [← hsame]
        exact hled.1

theorem exists_entry (h : c.groupIdOf n ≠ []) : ∃ member ∈ c.myGroups, member.name = n := by
  obtain ⟨member, hm, hname, -⟩ := exists_mem_of_groupIdOf h
  exact ⟨member, hm, hname⟩

/-- A character that is not a leader departs by having its entry erased. -/
theorem WellFormed.departs_of_erase (hc : c.WellFormed) (hgrouped : c.groupIdOf n ≠ [])
    (hlead : (c.getGroupInfo n).leaderName ≠ n)
    (hgroups : c'.myGroups = (c.eraseMember n).myGroups) : c.Departs c' n := by
  obtain ⟨member, hm, rfl⟩ := exists_entry hgrouped
  obtain ⟨pre, post, heq, herase⟩ := Keyed.filter_key_ne GroupMember.name hc.namesNodup hm
  refine ⟨pre, member, post, heq, rfl, ?_⟩
  rw [if_neg fun hmark => hlead ((hc.isLeader_iff hm).mp hmark), hgroups]
  exact herase

/-- A leader departs by having its entry erased and the flags of its group set afresh: there is no
other flag to clear. -/
theorem WellFormed.departs_of_assign (hc : c.WellFormed) (hgrouped : c.groupIdOf n ≠ [])
    (hlead : (c.getGroupInfo n).leaderName = n)
    (hgroups : c'.myGroups = ((c.eraseMember n).assignLeader (c.groupIdOf n)).myGroups) :
    c.Departs c' n := by
  obtain ⟨member, hm, rfl⟩ := exists_entry hgrouped
  obtain ⟨pre, post, heq, herase⟩ := Keyed.filter_key_ne GroupMember.name hc.namesNodup hm
  have hmark := (hc.isLeader_iff hm).mpr hlead
  have hid := groupIdOf_eq_of_mem hc.namesNodup hm
  have hunmarked : ∀ other ∈ pre ++ post, other.groupId = member.groupId →
      { other with isLeader := false } = other := by
    intro other hother hgroup
    have hin : other ∈ c.myGroups ∧ other.name ≠ member.name := by
      rw [← herase, List.mem_filter] at hother
      exact ⟨hother.1, by simpa using hother.2⟩
    -- two marked entries of one group would both be its first
    have hnot : other.isLeader = false := by
      by_contra hboth
      rw [Bool.not_eq_false] at hboth
      have hfirst := (hc.led member.groupId).eq_head (mem_entriesOf.mpr ⟨hin.1, hgroup⟩) hboth
      rw [(hc.led member.groupId).eq_head (mem_entriesOf.mpr ⟨hm, rfl⟩) hmark] at hfirst
      exact hin.2 (congrArg GroupMember.name (Option.some.inj hfirst).symm)
    rw [← hnot]
  refine ⟨pre, member, post, heq, rfl, ?_⟩
  rw [if_pos hmark, hgroups, hid]
  show Keyed.markFirst _ _ member.groupId false (c.eraseMember member.name).myGroups = _
  rw [show (c.eraseMember member.name).myGroups = pre ++ post from herase]
  exact Keyed.markFirst_eq_modifyFirst GroupMember.groupId
    (fun isLeader other => { other with isLeader := isLeader }) hunmarked

/-! ## The commands one by one -/

/-- A call that fails and changes nothing. -/
theorem statedEffect_of_fails {gc : GroupCall} (hsame : (c.call gc).2 = c) (hfails : c.Fails gc) :
    c.StatedEffect gc where
  fails := fun _ => hsame
  succeeds := fun hsucceeds => absurd hfails hsucceeds
  invites := fun _ => by rw [hsame]

/-- A call that does not fail and leaves the invitations alone. -/
theorem statedEffect_of_succeeds {gc : GroupCall} (hcode : 0 ≤ (c.call gc).1.errorCode)
    (heffect : c.Effect (c.call gc).2 gc) (hinvites : (c.call gc).2.myInvites = c.myInvites) :
    c.StatedEffect gc where
  fails := fun hfails => absurd hfails (not_lt.mpr hcode)
  succeeds := fun _ => heffect
  invites := fun _ => hinvites

theorem statedEffect_groupStartGroup (c : GroupContainer) (now : Time) (uuid leaderName : Str) :
    c.StatedEffect (.command (.groupStartGroup now uuid leaderName)) := by
  by_cases hnone : c.groupIdOf leaderName = []
  · obtain ⟨heq, hcode, -⟩ := groupStartGroup_of_none now uuid hnone
    refine statedEffect_of_succeeds (le_of_eq hcode.symm) ?_ ?_
    · refine ⟨founder now uuid leaderName, rfl, rfl, ?_⟩
      rw [call, perform, heq]
      rfl
    · rw [call, perform, heq]
      rfl
  · obtain ⟨heq, hcode⟩ := groupStartGroup_of_grouped now uuid hnone
    exact statedEffect_of_fails heq hcode

theorem statedEffect_groupJoin (c : GroupContainer) (now : Time) (memberName leaderName : Str) :
    c.StatedEffect (.command (.groupJoin now memberName leaderName)) := by
  by_cases hjoin : c.CanJoin memberName leaderName
  · obtain ⟨heq, hcode, -⟩ := groupJoin_of_canJoin now hjoin
    refine statedEffect_of_succeeds (le_of_eq hcode.symm) ?_ ?_
    · refine ⟨joiner now memberName (c.groupIdOf leaderName), rfl, rfl, ?_⟩
      rw [call, perform, heq]
      rfl
    · rw [call, perform, heq]
      rfl
  · obtain ⟨heq, hcode⟩ := groupJoin_of_not_canJoin now hjoin
    exact statedEffect_of_fails heq hcode

/-- A kick that fails says so: the author is no leader, or the two are not in one group. -/
theorem errorCode_of_not_canKick {memberName leaderName : Str}
    (h : ¬ c.CanKick memberName leaderName) :
    (c.groupKickMember memberName leaderName).1.errorCode < 0 := by
  by_cases hself : memberName = leaderName
  · simp [groupKickMember, hself, daraGroupCannotKickSelf]
  by_cases hlead : (c.getGroupInfo leaderName).isLeader = true
  · have hgroup : c.groupIdOf memberName ≠ c.groupIdOf leaderName :=
      fun hgroup => h ⟨hself, hlead, hgroup⟩
    simp [groupKickMember, hself, hlead, hgroup, daraGroupIsNotMember]
  · simp [groupKickMember, hself, hlead, daraGroupIsNotLeader]

/-- The kicked character is in the leader's group and is not its leader. -/
theorem CanKick.not_leader {memberName leaderName : Str} (h : c.CanKick memberName leaderName) :
    c.groupIdOf memberName ≠ [] ∧ (c.getGroupInfo memberName).leaderName ≠ memberName := by
  obtain ⟨hgrouped, -⟩ := mem_of_getGroupInfo_isLeader h.leads
  have hmember : c.groupIdOf memberName ≠ [] := by
    rw [h.member]
    exact hgrouped
  refine ⟨hmember, fun hname => h.other ?_⟩
  -- both lookups report the last leader of the one group, and the author is that leader
  have hleads := h.leads
  rw [getGroupInfo_eq hgrouped] at hleads
  rw [getGroupInfo_eq hmember, h.member] at hname
  cases hlast : lastLeader (c.entriesOf (c.groupIdOf leaderName)) with
  | none => simp [hlast] at hleads
  | some leader =>
      simp only [hlast, Option.map_some, Option.getD_some, decide_eq_true_eq] at hleads hname
      rw [← hname, hleads]

theorem statedEffect_groupKickMember (hc : c.WellFormed) (memberName leaderName : Str) :
    c.StatedEffect (.command (.groupKickMember memberName leaderName)) := by
  by_cases hkick : c.CanKick memberName leaderName
  · have heq := groupKickMember_of_canKick hkick
    obtain ⟨hgrouped, hlead⟩ := hkick.not_leader
    have hleader : (c.eraseMember memberName).groupIdOf leaderName ≠ [] := by
      rw [groupIdOf_eraseMember_ne c memberName (Ne.symm hkick.other)]
      exact (mem_of_getGroupInfo_isLeader hkick.leads).1
    refine statedEffect_of_succeeds ?_ ?_ ?_
    · -- the answer is the lookup of the author, who is still in the group
      rw [call, perform, heq, getGroupInfo_eq hleader]
    · exact hc.departs_of_erase hgrouped hlead (by rw [call, perform, heq])
    · rw [call, perform, heq]
      rfl
  · exact statedEffect_of_fails (groupKickMember_of_not_canKick hkick)
      (errorCode_of_not_canKick hkick)

/-- `GroupDisband` of a name without a group finds nothing to remove. -/
theorem groupDisband_myGroups_of_none (hc : c.Sound) (hnone : c.groupIdOf n = []) :
    (c.groupDisband n).2.myGroups = c.myGroups := by
  have hno := (groupIdOf_eq_nil hc.groupIdsNonempty).mp hnone
  have herase : c.eraseMember n = c := by
    have hall : c.myGroups.filter (fun member => member.name ≠ n) = c.myGroups :=
      List.filter_eq_self.mpr fun member hm => decide_eq_true (hno member hm)
    rw [eraseMember, hall]
  rw [groupDisband_myGroups, herase, hnone]
  split
  · -- no entry has the empty id, so there is no flag to set
    exact Keyed.markFirst_of_ne GroupMember.groupId
      (fun isLeader member => { member with isLeader := isLeader }) hc.groupIdsNonempty false
  · rfl

/-- Only the departure of the last member of a group purges invitations. -/
theorem groupDisband_myInvites_of_not_solo
    (h : ¬ c.LeavesSolo (.command (.groupDisband n))) :
    (c.groupDisband n).2.myInvites = c.myInvites := by
  rw [groupDisband_myInvites]
  refine if_neg fun hone => h ?_
  have hgrouped : c.groupIdOf n ≠ [] := by
    intro hnone
    rw [getGroupInfo_memberCount_of_none hnone] at hone
    omega
  rw [getGroupInfo_memberCount hgrouped] at hone
  exact ⟨hgrouped, by omega⟩

theorem statedEffect_groupDisband (hc : c.WellFormed) (memberName : Str) :
    c.StatedEffect (.command (.groupDisband memberName)) := by
  constructor
  case fails =>
    -- the answer of `GroupDisband` is always a success
    intro hfails
    have hcode : (c.call (.command (.groupDisband memberName))).1.errorCode = 1 := rfl
    rw [Fails, hcode] at hfails
    omega
  case succeeds =>
    intro _
    show if c.groupIdOf memberName = [] then _ else _
    by_cases hnone : c.groupIdOf memberName = []
    · rw [if_pos hnone]
      exact groupDisband_myGroups_of_none hc.toSound hnone
    · rw [if_neg hnone]
      have hgroups := groupDisband_myGroups c memberName
      by_cases hlead : (c.getGroupInfo memberName).leaderName = memberName
      · rw [if_pos hlead] at hgroups
        exact hc.departs_of_assign hnone hlead hgroups
      · rw [if_neg hlead] at hgroups
        exact hc.departs_of_erase hnone hlead hgroups
  case invites => exact groupDisband_myInvites_of_not_solo

/-- **The step lemma**: in a well-formed container every call has its stated effect. -/
theorem WellFormed.statedEffect (hc : c.WellFormed) (gc : GroupCall) : c.StatedEffect gc := by
  cases gc with
  | command cmd =>
      cases cmd with
      | groupStartGroup now uuid leaderName => exact statedEffect_groupStartGroup c now uuid leaderName
      | groupJoin now memberName leaderName => exact statedEffect_groupJoin c now memberName leaderName
      | groupKickMember memberName leaderName =>
          exact statedEffect_groupKickMember hc memberName leaderName
      | groupDisband memberName => exact statedEffect_groupDisband hc memberName
  | groupInvite memberName leaderName => exact ⟨fun _ => rfl, fun _ => rfl, fun _ => rfl⟩

end Effects

/-- **Group commands have exactly their stated effect**, in every container that is reached with
fresh group ids. -/
theorem statedEffect_run (cmds : List Command) (h : machine.Along DrawsFreshId cmds)
    (gc : GroupCall) : (machine.run cmds).StatedEffect gc :=
  (wellFormed_run cmds h).statedEffect gc

/-- Trula is in the group of Tirio, who leaves it. -/
theorem statedEffect_twoGroups :
    machine.Along DrawsFreshId twoGroups ∧
      (machine.run twoGroups).StatedEffect (.command (.groupDisband "Tirio".toList)) :=
  have hfresh : machine.Along DrawsFreshId twoGroups := by decide
  ⟨hfresh, statedEffect_run twoGroups hfresh _⟩

end DaraChat.GroupContainer
