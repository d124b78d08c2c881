import DaraChat.Group.Leaders
import DaraChat.Lib.Footprint

set_option autoImplicit false

/-! # Commands of unrelated groups

All groups share one vector, and every command scans or rewrites it as a whole. What is seen of it
is the group of every name and the entries of every group; and of that a command reads and writes
only what belongs to the names it is given (`local_perform`). So commands of characters that have
no group in common commute, with their failing branches (`commutes_of_unrelated`).
-/

namespace DaraChat.GroupContainer

/-! ## The commands and what they touch -/

/-- The commands that change groups and answer with a `GroupInfo`. -/
inductive GroupCommand
  | groupStartGroup (now : Time) (uuid leaderName : Str)
  | groupJoin (now : Time) (memberName leaderName : Str)
  | groupKickMember (memberName leaderName : Str)
  | groupDisband (memberName : Str)
  deriving DecidableEq, Repr

/-- The answer of a command, and the container after it. -/
def perform (cmd : GroupCommand) (c : GroupContainer) : GroupInfo × GroupContainer :=
  match cmd with
  | .groupStartGroup now uuid leaderName => c.groupStartGroup now uuid leaderName
  | .groupJoin now memberName leaderName => c.groupJoin now memberName leaderName
  | .groupKickMember memberName leaderName => c.groupKickMember memberName leaderName
  | .groupDisband memberName => c.groupDisband memberName

/-- The characters that a command names. -/
def GroupCommand.names : GroupCommand → List Str
  | .groupStartGroup _ _ leaderName => [leaderName]
  | .groupJoin _ memberName leaderName => [memberName, leaderName]
  | .groupKickMember memberName leaderName => [memberName, leaderName]
  | .groupDisband memberName => [memberName]

/-- The id that a command draws, if it founds a group. -/
def drawn (cmd : GroupCommand) (c : GroupContainer) : Option Str :=
  match cmd with
  | .groupStartGroup _ uuid leaderName =>
      if c.groupIdOf leaderName = [] then some (getNewGroupId uuid) else none
  | _ => none

/-- What is seen of a container: the group of a name, and the entries of a group. -/
inductive Key
  | name (n : Str)
  | group (g : Str)

def Key.Value : Key → Type
  | .name _ => Str
  | .group _ => List GroupMember

def observe (c : GroupContainer) : (k : Key) → k.Value
  | .name n => c.groupIdOf n
  | .group g => c.entriesOf g

/-- The names of a command, their groups, and the group that it founds. -/
def footprint (cmd : GroupCommand) (c : GroupContainer) : Set Key := fun k =>
  match k with
  | .name n => n ∈ cmd.names
  | .group g => g ≠ [] ∧ ((∃ n ∈ cmd.names, c.groupIdOf n = g) ∨ drawn cmd c = some g)

/-! ## Containers that agree on some names -/

/-- In both containers the names are in the same groups, with the same entries. -/
structure Agree (names : List Str) (c c' : GroupContainer) : Prop where
  groupIdOf : ∀ n ∈ names, c'.groupIdOf n = c.groupIdOf n
  entriesOf : ∀ n ∈ names, c'.entriesOf (c.groupIdOf n) = c.entriesOf (c.groupIdOf n)

variable {c c' : GroupContainer} {names : List Str}

theorem entriesOf_nil (hc : c.Sound) : c.entriesOf [] = [] := by
  rw [entriesOf, List.filter_eq_nil_iff]
  intro member hm
  simpa using hc.groupIdsNonempty member hm

theorem Agree.symm (h : Agree names c c') : Agree names c' c where
  groupIdOf := fun n hn => (h.groupIdOf n hn).symm
  entriesOf := fun n hn => by
    rw [h.groupIdOf n hn]
    exact (h.entriesOf n hn).symm

theorem Agree.getGroupInfo (h : Agree names c c') {n : Str} (hn : n ∈ names) :
    c'.getGroupInfo n = c.getGroupInfo n := by
  have hid := h.groupIdOf n hn
  by_cases hnone : c.groupIdOf n = []
  · rw [getGroupInfo_of_none hnone, getGroupInfo_of_none (hid.trans hnone)]
  · have hnone' : c'.groupIdOf n ≠ [] := by rwa [hid]
    rw [getGroupInfo_eq hnone, getGroupInfo_eq hnone', hid, h.entriesOf n hn]

theorem agree_of_observe {cmd : GroupCommand} (hc : c.Sound) (hc' : c'.Sound)
    (h : ∀ k ∈ footprint cmd c, observe c' k = observe c k) : Agree cmd.names c c' where
  groupIdOf := fun n hn => h (.name n) hn
  entriesOf := fun n hn => by
    by_cases hnone : c.groupIdOf n = []
    · rw [hnone, entriesOf_nil hc, entriesOf_nil hc']
    · exact h (.group _) ⟨hnone, .inl ⟨n, hn, rfl⟩⟩

/-- A command does the same in two containers: it answers alike, leaves its names in the same
groups, and leaves a group alike that was alike before. -/
structure DoneAlike (names : List Str) (c c' : GroupContainer) (r r' : GroupInfo × GroupContainer) :
    Prop where
  answer : r'.1 = r.1
  groupIdOf : ∀ n ∈ names, r'.2.groupIdOf n = r.2.groupIdOf n
  entriesOf : ∀ g, c'.entriesOf g = c.entriesOf g → r'.2.entriesOf g = r.2.entriesOf g

/-- A command leaves other names in their groups, and the groups of other names as they are. -/
structure Framed (names : List Str) (c : GroupContainer) (founded : Option Str)
    (c' : GroupContainer) : Prop where
  groupIdOf : ∀ n, n ∉ names → c'.groupIdOf n = c.groupIdOf n
  entriesOf : ∀ g, (∀ n ∈ names, c.groupIdOf n ≠ g) → founded ≠ some g →
    c'.entriesOf g = c.entriesOf g

theorem framed_self : Framed names c none c := ⟨fun _ _ => rfl, fun _ _ _ => rfl⟩

/-! ## A new entry -/

theorem framed_append {newMember : GroupMember} {founded : Option Str}
    (hname : newMember.name ∈ names)
    (hg : founded = some newMember.groupId ∨ ∃ n ∈ names, c.groupIdOf n = newMember.groupId) :
    Framed names c founded (c.append newMember) where
  groupIdOf := fun n hn => groupIdOf_append_ne fun heq => hn (heq ▸ hname)
  entriesOf := fun g hother hfounded => by
    have hne : newMember.groupId ≠ g := by
      rintro rfl
      rcases hg with hg | ⟨n, hn, hg⟩
      · exact hfounded hg
      · exact hother n hn hg
    rw [entriesOf_append, if_neg hne, List.append_nil]

theorem entriesOf_append_alike {newMember : GroupMember} {g : Str}
    (h : c'.entriesOf g = c.entriesOf g) :
    (c'.append newMember).entriesOf g = (c.append newMember).entriesOf g := by
  rw [entriesOf_append, entriesOf_append, h]

theorem groupIdOf_append_of_none (hc : c.Sound) (newMember : GroupMember)
    (hnone : c.groupIdOf newMember.name = []) :
    (c.append newMember).groupIdOf newMember.name = newMember.groupId :=
  groupIdOf_append_self ((groupIdOf_eq_nil hc.groupIdsNonempty).mp hnone)

section GroupStartGroup

variable {leaderName : Str}

theorem doneAlike_groupStartGroup (hc : c.Sound) (hc' : c'.Sound) (h : Agree [leaderName] c c')
    (now : Time) (uuid : Str) :
    DoneAlike [leaderName] c c' (c.groupStartGroup now uuid leaderName)
      (c'.groupStartGroup now uuid leaderName) := by
  have hmem : leaderName ∈ [leaderName] := List.mem_singleton_self _
  have hid := h.groupIdOf leaderName hmem
  have hanswer : (c'.groupStartGroup now uuid leaderName).1 =
      (c.groupStartGroup now uuid leaderName).1 := by
    simp only [groupStartGroup, h.getGroupInfo hmem]
    split <;> rfl
  -- both containers take the same branch, as they agree on the group of `leaderName`
  by_cases hnone : c.groupIdOf leaderName = []
  · have hnone' : c'.groupIdOf leaderName = [] := hid.trans hnone
    refine ⟨hanswer, ?_, ?_⟩
    · rw [(groupStartGroup_of_none now uuid hnone).1, (groupStartGroup_of_none now uuid hnone').1]
      intro n hn
      obtain rfl := List.mem_singleton.mp hn
      exact (groupIdOf_append_of_none hc' (founder now uuid n) hnone').trans
        (groupIdOf_append_of_none hc (founder now uuid n) hnone).symm
    · rw [(groupStartGroup_of_none now uuid hnone).1, (groupStartGroup_of_none now uuid hnone').1]
      exact fun g hg => entriesOf_append_alike hg
  · have hnone' : c'.groupIdOf leaderName ≠ [] := by rwa [hid]
    refine ⟨hanswer, ?_, ?_⟩
    · rw [(groupStartGroup_of_grouped now uuid hnone).1,
        (groupStartGroup_of_grouped now uuid hnone').1]
      exact h.groupIdOf
    · rw [(groupStartGroup_of_grouped now uuid hnone).1,
        (groupStartGroup_of_grouped now uuid hnone').1]
      exact fun g hg => hg

theorem framed_groupStartGroup (c : GroupContainer) (now : Time) (uuid leaderName : Str) :
    Framed [leaderName] c (drawn (.groupStartGroup now uuid leaderName) c)
      (c.groupStartGroup now uuid leaderName).2 := by
  by_cases hnone : c.groupIdOf leaderName = []
  · rw [(groupStartGroup_of_none now uuid hnone).1, drawn, if_pos hnone]
    exact framed_append (List.mem_singleton_self _) (.inl rfl)
  · rw [(groupStartGroup_of_grouped now uuid hnone).1, drawn, if_neg hnone]
    exact framed_self

end GroupStartGroup

section GroupJoin

variable {memberName leaderName : Str}

theorem CanJoin.alike (hjoin : c.CanJoin memberName leaderName)
    (h : Agree [memberName, leaderName] c c') : c'.CanJoin memberName leaderName where
  leaderName_ne := hjoin.leaderName_ne
  leader_grouped := by
    rw [h.groupIdOf leaderName (by simp)]
    exact hjoin.leader_grouped
  not_full := by
    rw [h.groupIdOf leaderName (by simp), h.entriesOf leaderName (by simp)]
    exact hjoin.not_full
  member_free := by
    rw [h.groupIdOf memberName (by simp)]
    exact hjoin.member_free

theorem doneAlike_groupJoin (hc : c.Sound) (hc' : c'.Sound)
    (h : Agree [memberName, leaderName] c c') (now : Time) :
    DoneAlike [memberName, leaderName] c c' (c.groupJoin now memberName leaderName)
      (c'.groupJoin now memberName leaderName) := by
  have hanswer : (c'.groupJoin now memberName leaderName).1 =
      (c.groupJoin now memberName leaderName).1 := by
    simp only [groupJoin, h.getGroupInfo (n := memberName) (by simp),
      h.getGroupInfo (n := leaderName) (by simp)]
    split
    · rfl
    split
    · rfl
    split
    · rfl
    split <;> rfl
  by_cases hjoin : c.CanJoin memberName leaderName
  · have hjoin' := hjoin.alike h
    have hleader := h.groupIdOf leaderName (by simp)
    refine ⟨hanswer, ?_, ?_⟩
    · rw [(groupJoin_of_canJoin now hjoin).1, (groupJoin_of_canJoin now hjoin').1, hleader]
      intro n hn
      -- the new member is found in its entry, everybody else where it was
      by_cases hname : n = memberName
      · subst hname
        have hself : ∀ {c₁ : GroupContainer}, c₁.Sound → c₁.groupIdOf n = [] →
            (c₁.append (joiner now n (c.groupIdOf leaderName))).groupIdOf n =
              c.groupIdOf leaderName :=
          fun hsound hnone => groupIdOf_append_of_none hsound _ hnone
        rw [hself hc' hjoin'.member_free, hself hc hjoin.member_free]
      · have hne : ∀ c₁ : GroupContainer,
            (c₁.append (joiner now memberName (c.groupIdOf leaderName))).groupIdOf n =
              c₁.groupIdOf n :=
          fun _ => groupIdOf_append_ne hname
        rw [hne, hne]
        exact h.groupIdOf n hn
    · rw [(groupJoin_of_canJoin now hjoin).1, (groupJoin_of_canJoin now hjoin').1, hleader]
      exact fun g hg => entriesOf_append_alike hg
  -- a refusal in one container is a refusal in the other
  · have hjoin' : ¬ c'.CanJoin memberName leaderName := fun hjoin' => hjoin (hjoin'.alike h.symm)
    refine ⟨hanswer, ?_, ?_⟩
    · rw [(groupJoin_of_not_canJoin now hjoin).1, (groupJoin_of_not_canJoin now hjoin').1]
      exact h.groupIdOf
    · rw [(groupJoin_of_not_canJoin now hjoin).1, (groupJoin_of_not_canJoin now hjoin').1]
      exact fun g hg => hg

theorem framed_groupJoin (c : GroupContainer) (now : Time) (memberName leaderName : Str) :
    Framed [memberName, leaderName] c none (c.groupJoin now memberName leaderName).2 := by
  by_cases hjoin : c.CanJoin memberName leaderName
  · rw [(groupJoin_of_canJoin now hjoin).1]
    exact framed_append List.mem_cons_self (.inr ⟨leaderName, by simp, rfl⟩)
  · rw [(groupJoin_of_not_canJoin now hjoin).1]
    exact framed_self

end GroupJoin

/-! ## An entry less -/

section GroupKickMember

variable {memberName leaderName : Str}

/-- The conditions under which `GroupKickMember` takes the member out. -/
structure CanKick (c : GroupContainer) (memberName leaderName : Str) : Prop where
  other : memberName ≠ leaderName
  leads : (c.getGroupInfo leaderName).isLeader = true
  member : c.groupIdOf memberName = c.groupIdOf leaderName

theorem groupKickMember_of_canKick (h : c.CanKick memberName leaderName) :
    c.groupKickMember memberName leaderName =
      ((c.eraseMember memberName).getGroupInfo leaderName, c.eraseMember memberName) := by
  simp [groupKickMember, h.other, h.leads, h.member]

theorem groupKickMember_of_not_canKick (h : ¬ c.CanKick memberName leaderName) :
    (c.groupKickMember memberName leaderName).2 = c := by
  rcases groupKickMember_cases c memberName leaderName with heq | ⟨hother, hleads, hmember, -⟩
  · exact heq
  · exact absurd ⟨hother, hleads, hmember⟩ h

theorem CanKick.alike (hkick : c.CanKick memberName leaderName)
    (h : Agree [memberName, leaderName] c c') : c'.CanKick memberName leaderName where
  other := hkick.other
  leads := by
    rw [h.getGroupInfo (by simp)]
    exact hkick.leads
  member := by
    rw [h.groupIdOf memberName (by simp), h.groupIdOf leaderName (by simp)]
    exact hkick.member

theorem doneAlike_groupKickMember (h : Agree [memberName, leaderName] c c') :
    DoneAlike [memberName, leaderName] c c' (c.groupKickMember memberName leaderName)
      (c'.groupKickMember memberName leaderName) := by
  by_cases hkick : c.CanKick memberName leaderName
  · have hkick' := hkick.alike h
    have hid : ∀ n ∈ [memberName, leaderName], (c'.eraseMember memberName).groupIdOf n =
        (c.eraseMember memberName).groupIdOf n := by
      intro n hn
      by_cases hname : n = memberName
      · rw [hname, groupIdOf_eraseMember_self, groupIdOf_eraseMember_self]
      · rw [groupIdOf_eraseMember_ne _ _ hname, groupIdOf_eraseMember_ne _ _ hname]
        exact h.groupIdOf n hn
    have hentries : ∀ g, c'.entriesOf g = c.entriesOf g →
        (c'.eraseMember memberName).entriesOf g = (c.eraseMember memberName).entriesOf g := by
      intro g hg
      rw [entriesOf_eraseMember, entriesOf_eraseMember, hg]
    -- the answer is about the leader's group without the member
    have hleft : Agree [leaderName] (c.eraseMember memberName) (c'.eraseMember memberName) := by
      constructor
      · intro n hn
        exact hid n (List.mem_cons_of_mem _ hn)
      · intro n hn
        obtain rfl := List.mem_singleton.mp hn
        rw [groupIdOf_eraseMember_ne _ _ (Ne.symm hkick.other)]
        exact hentries _ (h.entriesOf n (by simp))
    rw [groupKickMember_of_canKick hkick, groupKickMember_of_canKick hkick']
    exact ⟨hleft.getGroupInfo (List.mem_singleton_self _), hid, hentries⟩
  · have hkick' : ¬ c'.CanKick memberName leaderName := fun hkick' => hkick (hkick'.alike h.symm)
    have hleader := h.getGroupInfo (n := leaderName) (by simp)
    have hmember := h.getGroupInfo (n := memberName) (by simp)
    have hanswer : (c'.groupKickMember memberName leaderName).1 =
        (c.groupKickMember memberName leaderName).1 := by
      by_cases hself : memberName = leaderName
      · simp [groupKickMember, hself]
      by_cases hleads : (c.getGroupInfo leaderName).isLeader = true
      · have hother : c.groupIdOf memberName ≠ c.groupIdOf leaderName :=
          fun heq => hkick ⟨hself, hleads, heq⟩
        simp only [groupKickMember, if_neg hself, hleader, hmember, hleads, getGroupInfo_groupId]
        simp [hother]
      · simp [groupKickMember, hself, hleader, hleads]
    refine ⟨hanswer, ?_, ?_⟩
    · rw [groupKickMember_of_not_canKick hkick, groupKickMember_of_not_canKick hkick']
      exact h.groupIdOf
    · rw [groupKickMember_of_not_canKick hkick, groupKickMember_of_not_canKick hkick']
      exact fun g hg => hg

theorem framed_groupKickMember (hc : c.Sound) (memberName leaderName : Str) :
    Framed [memberName, leaderName] c none (c.groupKickMember memberName leaderName).2 := by
  by_cases hkick : c.CanKick memberName leaderName
  · rw [groupKickMember_of_canKick hkick]
    refine ⟨fun n hn => ?_, fun g hg _ => ?_⟩
    · exact groupIdOf_eraseMember_ne c memberName fun heq => hn (by simp [heq])
    · exact entriesOf_eraseMember_ne hc.namesNodup (hg memberName (by simp))
  · rw [groupKickMember_of_not_canKick hkick]
    exact framed_self

end GroupKickMember

section GroupDisband

variable {memberName : Str}

theorem doneAlike_groupDisband (h : Agree [memberName] c c') (hc : c.Sound) (hc' : c'.Sound) :
    DoneAlike [memberName] c c' (c.groupDisband memberName) (c'.groupDisband memberName) := by
  have hmem : memberName ∈ [memberName] := List.mem_singleton_self _
  have hid := h.groupIdOf memberName hmem
  have hinfo := h.getGroupInfo hmem
  refine ⟨?_, ?_, ?_⟩
  · simp only [groupDisband, hinfo]
  · intro n hn
    obtain rfl := List.mem_singleton.mp hn
    rw [groupIdOf_groupDisband, groupIdOf_groupDisband, if_pos rfl, if_pos rfl]
  · intro g hg
    by_cases hown : c.groupIdOf memberName = g
    · subst hown
      have hself := entriesOf_groupDisband_self c' memberName
      rw [hid, hinfo, hg] at hself
      rw [hself]
      exact (entriesOf_groupDisband_self c memberName).symm
    · rw [entriesOf_groupDisband_ne hc.namesNodup hown,
        entriesOf_groupDisband_ne hc'.namesNodup (by rwa [hid]), hg]

theorem framed_groupDisband (hc : c.Sound) (memberName : Str) :
    Framed [memberName] c none (c.groupDisband memberName).2 := by
  refine ⟨fun n hn => ?_, fun g hg _ => ?_⟩
  · rw [groupIdOf_groupDisband, if_neg (by simpa using hn)]
  · exact entriesOf_groupDisband_ne hc.namesNodup (hg memberName (List.mem_singleton_self _))

end GroupDisband

/-! ## Every command -/

/-- The command of the container's machine. -/
def GroupCommand.toCommand : GroupCommand → Command
  | .groupStartGroup now uuid leaderName => .groupStartGroup now uuid leaderName
  | .groupJoin now memberName leaderName => .groupJoin now memberName leaderName
  | .groupKickMember memberName leaderName => .groupKickMember memberName leaderName
  | .groupDisband memberName => .groupDisband memberName

theorem perform_exec (cmd : GroupCommand) (c : GroupContainer) :
    (perform cmd c).2 = c.exec cmd.toCommand := by
  cases cmd <;> rfl

theorem doneAlike_perform (cmd : GroupCommand) (hc : c.Sound) (hc' : c'.Sound)
    (h : Agree cmd.names c c') : DoneAlike cmd.names c c' (perform cmd c) (perform cmd c') := by
  cases cmd with
  | groupStartGroup now uuid leaderName => exact doneAlike_groupStartGroup hc hc' h now uuid
  | groupJoin now memberName leaderName => exact doneAlike_groupJoin hc hc' h now
  | groupKickMember memberName leaderName => exact doneAlike_groupKickMember h
  | groupDisband memberName => exact doneAlike_groupDisband h hc hc'

theorem framed_perform (cmd : GroupCommand) (hc : c.Sound) :
    Framed cmd.names c (drawn cmd c) (perform cmd c).2 := by
  cases cmd with
  | groupStartGroup now uuid leaderName => exact framed_groupStartGroup c now uuid leaderName
  | groupJoin now memberName leaderName => exact framed_groupJoin c now memberName leaderName
  | groupKickMember memberName leaderName =>
      exact framed_groupKickMember hc memberName leaderName
  | groupDisband memberName => exact framed_groupDisband hc memberName

theorem sound_perform (cmd : GroupCommand) (hc : c.Sound) : (perform cmd c).2.Sound := by
  rw [perform_exec]
  exact sound_exec hc cmd.toCommand

theorem drawn_alike {cmd : GroupCommand} (h : Agree cmd.names c c') : drawn cmd c' = drawn cmd c := by
  cases cmd with
  | groupStartGroup now uuid leaderName =>
      rw [drawn, drawn, h.groupIdOf leaderName (List.mem_singleton_self _)]
  | _ => rfl

/-- **A command reads and writes its footprint only.** -/
theorem local_perform (cmd : GroupCommand) :
    Footprint.Local observe Sound (perform cmd) (footprint cmd) where
  keeps := sound_perform cmd
  frame := by
    intro c k hc hk
    have hframed := framed_perform cmd hc
    cases k with
    | name n => exact hframed.groupIdOf n hk
    | group g =>
        -- the empty id is no group: a sound container has no entries under it
        by_cases hg : g = []
        · show (perform cmd c).2.entriesOf g = c.entriesOf g
          rw [hg, entriesOf_nil hc, entriesOf_nil (sound_perform cmd hc)]
        · refine hframed.entriesOf g (fun n hn heq => hk ⟨hg, .inl ⟨n, hn, heq⟩⟩) fun heq => ?_
          exact hk ⟨hg, .inr heq⟩
  agree := by
    intro c c' hc hc' h
    have hagree := agree_of_observe hc hc' h
    have hdone := doneAlike_perform cmd hc hc' hagree
    refine ⟨?_, hdone.answer, fun k hk => ?_⟩
    · funext k
      cases k with
      -- the names of the footprint do not depend on the state, its groups only through the names
      | name n => rfl
      | group g =>
          have hnames : (∃ n ∈ cmd.names, c'.groupIdOf n = g) ↔ ∃ n ∈ cmd.names, c.groupIdOf n = g :=
            exists_congr fun n => and_congr_right fun hn => by rw [hagree.groupIdOf n hn]
          simp only [footprint, hnames, drawn_alike hagree]
    · cases k with
      | name n => exact hdone.groupIdOf n hk
      | group g => exact hdone.entriesOf g (h (.group g) hk)

/-! ## The invitations -/

/-- The invitations that a command removes: those of the last character to leave a group. -/
def purges (cmd : GroupCommand) (c : GroupContainer) (invite : GroupInviteData) : Bool :=
  match cmd with
  | .groupDisband memberName =>
      decide ((c.getGroupInfo memberName).memberCount = 1) && decide (invite.leaderName = memberName)
  | _ => false

theorem perform_myInvites (cmd : GroupCommand) (c : GroupContainer) :
    (perform cmd c).2.myInvites = c.myInvites.filter fun invite => !purges cmd c invite := by
  cases cmd with
  | groupStartGroup now uuid leaderName =>
      by_cases hnone : c.groupIdOf leaderName = []
      · simp [perform, purges, (groupStartGroup_of_none now uuid hnone).1, append]
      · simp [perform, purges, (groupStartGroup_of_grouped now uuid hnone).1]
  | groupJoin now memberName leaderName =>
      by_cases hjoin : c.CanJoin memberName leaderName
      · simp [perform, purges, (groupJoin_of_canJoin now hjoin).1, append]
      · simp [perform, purges, (groupJoin_of_not_canJoin now hjoin).1]
  | groupKickMember memberName leaderName =>
      by_cases hkick : c.CanKick memberName leaderName
      · simp [perform, purges, groupKickMember_of_canKick hkick, GroupContainer.eraseMember]
      · simp [perform, purges, groupKickMember_of_not_canKick hkick]
  | groupDisband memberName =>
      simp only [perform, groupDisband_myInvites]
      by_cases hone : (c.getGroupInfo memberName).memberCount = 1 <;> simp [purges, hone]

theorem purges_alike {cmd : GroupCommand} (h : Agree cmd.names c c') :
    purges cmd c' = purges cmd c := by
  funext invite
  cases cmd with
  | groupDisband memberName =>
      simp only [purges, h.getGroupInfo (List.mem_singleton_self memberName)]
  | _ => rfl

/-! ## Unrelated commands -/

/-- No character is named by both commands, no group has a character that one names and one that
the other names, and the ids that are drawn are fresh. -/
structure Unrelated (c : GroupContainer) (a b : GroupCommand) : Prop where
  names : ∀ n ∈ a.names, n ∉ b.names
  groups : ∀ m ∈ c.myGroups, ∀ m' ∈ c.myGroups, m.name ∈ a.names → m'.name ∈ b.names →
    m.groupId ≠ m'.groupId
  fresh : ∀ m ∈ c.myGroups, drawn a c ≠ some m.groupId ∧ drawn b c ≠ some m.groupId
  apart : ∀ g ∈ drawn a c, g ∉ drawn b c

/-- The two commands answer the same in both orders, and lead to containers with the same groups
and the same invitations. -/
structure Commutes (c : GroupContainer) (a b : GroupCommand) : Prop where
  answers : (perform a (perform b c).2).1 = (perform a c).1 ∧
    (perform b (perform a c).2).1 = (perform b c).1
  groups : ∀ g, (perform b (perform a c).2).2.entriesOf g = (perform a (perform b c).2).2.entriesOf g
  invites : (perform b (perform a c).2).2.myInvites = (perform a (perform b c).2).2.myInvites

theorem Unrelated.disjoint {a b : GroupCommand} (h : c.Unrelated a b) :
    Disjoint (footprint a c) (footprint b c) := by
  have hmember : ∀ {cmd : GroupCommand} {g : Str}, g ≠ [] → (∃ n ∈ cmd.names, c.groupIdOf n = g) →
      ∃ m ∈ c.myGroups, m.name ∈ cmd.names ∧ m.groupId = g := by
    rintro cmd g hg ⟨n, hn, rfl⟩
    obtain ⟨m, hm, hname, hid⟩ := exists_mem_of_groupIdOf hg
    exact ⟨m, hm, hname ▸ hn, hid⟩
  rw [Set.disjoint_left]
  intro k ha hb
  cases k with
  | name n => exact h.names n ha hb
  | group g =>
      obtain ⟨hg, ha⟩ := ha
      obtain ⟨-, hb⟩ := hb
      -- a group is in a footprint as the group of a character or under a fresh id
      rcases ha with ha | ha
      · obtain ⟨m, hm, hname, rfl⟩ := hmember hg ha
        rcases hb with hb | hb
        · obtain ⟨m', hm', hname', heq⟩ := hmember hg hb
          exact h.groups m hm m' hm' hname hname' heq.symm
        · exact (h.fresh m hm).2 hb
      · rcases hb with hb | hb
        · obtain ⟨m, hm, -, rfl⟩ := hmember hg hb
          exact (h.fresh m hm).1 ha
        · exact h.apart g ha hb

theorem commutes_of_sound (hc : c.Sound) {a b : GroupCommand} (h : c.Unrelated a b) :
    c.Commutes a b := by
  have hdisjoint := h.disjoint
  obtain ⟨ha, hb, hobs⟩ := (local_perform a).commute (local_perform b) hc hdisjoint
  refine ⟨⟨ha, hb⟩, fun g => hobs (.group g), ?_⟩
  have hagree : Agree a.names c (perform b c).2 :=
    agree_of_observe hc (sound_perform b hc) fun k hk =>
      (local_perform b).frame hc (Set.disjoint_left.mp hdisjoint hk)
  have hagree' : Agree b.names c (perform a c).2 :=
    agree_of_observe hc (sound_perform a hc) fun k hk =>
      (local_perform a).frame hc (Set.disjoint_right.mp hdisjoint hk)
  rw [perform_myInvites, perform_myInvites, purges_alike hagree', perform_myInvites,
    perform_myInvites, purges_alike hagree, List.filter_filter, List.filter_filter]
  exact List.filter_congr fun invite _ => Bool.and_comm ..

/-- **Commands of unrelated groups commute**, in every reachable container. -/
theorem commutes_of_unrelated (cmds : List Command) (a b : GroupCommand)
    (h : (machine.run cmds).Unrelated a b) : (machine.run cmds).Commutes a b :=
  commutes_of_sound (machine.invariant sound_init (fun _ cmd hc => sound_exec hc cmd) cmds) h

/-- Tirio and Trula are in one group, Ulf is in another and has invited. -/
def twoGroups : List Command :=
  [ .groupStartGroup 1 "a".toList "Tirio".toList, .groupStartGroup 2 "b".toList "Ulf".toList
  , .groupJoin 3 "Trula".toList "Tirio".toList, .addInvite 4 "Ulf".toList "Wilma".toList ]

/-- The leader of the first group leaves, and so does the only member of the second. -/
theorem commutes_twoGroups :
    (machine.run twoGroups).Commutes (.groupDisband "Tirio".toList) (.groupDisband "Ulf".toList) :=
  commutes_of_unrelated twoGroups _ _
    { names := by decide, groups := by decide, fresh := by decide, apart := by decide }

end DaraChat.GroupContainer
