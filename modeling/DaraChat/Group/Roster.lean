import DaraChat.Group.Sound

set_option autoImplicit false

/-! # What a roster shows

The roster of a group is the text that its members are sent. It shows names, leaders and online
flags of the entries in their order and nothing else (`roster_congr`). The rest of the file says
which groups an operation does not change in that respect.
-/

namespace DaraChat.GroupContainer

/-- The text of the roster of group `g`. -/
def roster (c : GroupContainer) (g : Str) : Str := (c.getGroupInfoByGroupId g).serializeToSend

/-- What a roster shows of an entry. -/
def shown (m : GroupMember) : Str × Bool × Bool := (m.name, m.isLeader, m.isOnline)

/-- What the roster of group `g` shows. -/
def shownOf (c : GroupContainer) (g : Str) : List (Str × Bool × Bool) := (c.entriesOf g).map shown

variable {c c' : GroupContainer}

theorem lastLeader_name (l : List GroupMember) :
    (lastLeader l).map GroupMember.name =
      (((l.map shown).filter fun p => p.2.1).getLast?).map Prod.fst := by
  rw [List.filter_map, List.getLast?_map, Option.map_map]
  rfl

theorem roster_congr {g : Str} (h : c'.shownOf g = c.shownOf g) : c'.roster g = c.roster g := by
  have hleader : (lastLeader (c'.entriesOf g)).map GroupMember.name =
      (lastLeader (c.entriesOf g)).map GroupMember.name := by
    rw [lastLeader_name, lastLeader_name]
    exact congrArg (fun l => ((l.filter fun p => p.2.1).getLast?).map Prod.fst) h
  have hsome : (lastLeader (c'.entriesOf g)).isSome = (lastLeader (c.entriesOf g)).isSome := by
    have := congrArg Option.isSome hleader
    simpa using this
  have hlength : (c'.entriesOf g).length = (c.entriesOf g).length := by
    have := congrArg List.length h
    simpa [shownOf] using this
  have hmembers : ∀ (l : List GroupMember) (start : Str),
      l.foldl (fun serialized member =>
        serialized ++ ";".toList ++ member.name ++ ",".toList
          ++ (if member.isOnline then "1".toList else "0".toList)) start =
      (l.map shown).foldl (fun serialized p =>
        serialized ++ ";".toList ++ p.1 ++ ",".toList
          ++ (if p.2.2 then "1".toList else "0".toList)) start := by
    intro l start
    rw [List.foldl_map]
    rfl
  rw [roster, roster, getGroupInfoByGroupId_eq, getGroupInfoByGroupId_eq]
  unfold GroupInfo.serializeToSend
  simp only
  rw [hmembers, hmembers, hleader, hsome, hlength]
  show (c'.shownOf g).foldl _ _ = (c.shownOf g).foldl _ _
  rw [h]

/-! ## Which groups an operation leaves as they are -/

/-- The operation empties group `g` or changes nothing that its roster shows. -/
def KeepsShown (c c' : GroupContainer) (g : Str) : Prop :=
  c'.entriesOf g = [] ∨ c'.shownOf g = c.shownOf g

theorem keepsShown_of_entriesOf {g : Str} (h : c'.entriesOf g = c.entriesOf g) :
    KeepsShown c c' g := by
  refine Or.inr ?_
  rw [shownOf, h]
  rfl

theorem keepsShown_of_myGroups (h : c'.myGroups = c.myGroups) (g : Str) : KeepsShown c c' g :=
  keepsShown_of_entriesOf (entriesOf_congr h g)

theorem entriesOf_ne_nil_of_keepsShown {g : Str} (h : KeepsShown c c' g)
    (hne : c'.entriesOf g ≠ []) : c.entriesOf g ≠ [] := by
  intro hnil
  rcases h with hempty | hsame
  · exact hne hempty
  · rw [shownOf, shownOf, hnil, List.map_nil, List.map_eq_nil_iff] at hsame
    exact hne hsame

/-- A change of the entry of one name that shows what was shown. -/
theorem keepsShown_modifyMember (hc : c.NamesNodup) {n : Str} {f : GroupMember → GroupMember}
    (hgroup : ∀ m, (f m).groupId = m.groupId)
    (hshown : ∀ m ∈ c.myGroups, m.name = n → shown (f m) = shown m) (g : Str) :
    KeepsShown c (c.modifyMember n f) g := by
  refine Or.inr ?_
  rw [shownOf, shownOf, entriesOf_modifyMember hc hgroup, List.map_map]
  refine List.map_congr_left fun m hm => ?_
  by_cases hname : m.name = n
  · simp only [Function.comp_apply, if_pos hname]
    exact hshown m (mem_entriesOf.mp hm).1 hname
  · simp only [Function.comp_apply, if_neg hname]

theorem keepsShown_modifyMember_ne (hc : c.NamesNodup) {n : Str} {f : GroupMember → GroupMember}
    (hgroup : ∀ m, (f m).groupId = m.groupId) {g : Str} (hg : c.groupIdOf n ≠ g) :
    KeepsShown c (c.modifyMember n f) g :=
  keepsShown_of_entriesOf (entriesOf_modifyMember_ne hc hgroup hg)

theorem keepsShown_append_ne {newMember : GroupMember} {g : Str} (hg : newMember.groupId ≠ g) :
    KeepsShown c (c.append newMember) g := by
  refine keepsShown_of_entriesOf ?_
  rw [entriesOf_append, if_neg hg, List.append_nil]

theorem keepsShown_groupDisband_ne (hc : c.NamesNodup) {n g : Str} (hg : c.groupIdOf n ≠ g) :
    KeepsShown c (c.groupDisband n).2 g :=
  keepsShown_of_entriesOf (entriesOf_groupDisband_ne hc hg)

/-- A solo group that is left is empty. -/
theorem entriesOf_groupDisband_solo {n : Str} (hone : (c.getGroupInfo n).memberCount = 1) :
    (c.groupDisband n).2.entriesOf (c.groupIdOf n) = [] := by
  have hgrouped : c.groupIdOf n ≠ [] := by
    intro hnone
    rw [getGroupInfo_memberCount_of_none hnone] at hone
    omega
  rw [getGroupInfo_memberCount hgrouped] at hone
  obtain ⟨m, hm, hname, hg⟩ := exists_mem_of_groupIdOf hgrouped
  have hmem : m ∈ c.entriesOf (c.groupIdOf n) := mem_entriesOf.mpr ⟨hm, hg⟩
  have hsolo : ∀ m' ∈ c.entriesOf (c.groupIdOf n), m'.name = n := by
    intro m' hm'
    obtain ⟨only, honly⟩ := List.length_eq_one_iff.mp (by omega :
      (c.entriesOf (c.groupIdOf n)).length = 1)
    rw [honly, List.mem_singleton] at hmem hm'
    rw [hm', ← hmem, hname]
  -- the entries left are among those of other names
  have hmap := map_groupDisband (c := c) (fun m => (m.name, m.groupId)) (fun _ _ => rfl) n
  rw [List.eq_nil_iff_forall_not_mem]
  intro m' hm'
  obtain ⟨hin, hg'⟩ := mem_entriesOf.mp hm'
  have hkey : (m'.name, m'.groupId) ∈ (c.eraseMember n).myGroups.map fun m => (m.name, m.groupId) := by
    rw [← hmap]
    exact List.mem_map_of_mem hin
  obtain ⟨m'', hm'', heq⟩ := List.mem_map.mp hkey
  obtain ⟨hname'', hg''⟩ := Prod.mk.inj heq
  obtain ⟨hold, hne⟩ := List.mem_filter.mp hm''
  have := hsolo m'' (mem_entriesOf.mpr ⟨hold, hg''.trans hg'⟩)
  simp [this] at hne

end DaraChat.GroupContainer
