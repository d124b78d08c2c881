import DaraChat.Group.Container

set_option autoImplicit false

/-! # What the lookups of the container report

`entriesOf c g` is the part of `myGroups` that belongs to the group `g`, in list order. The two
lookups report it, its length, and its last leader; this file states that once
(`getGroupInfo_eq`, `getGroupInfoByGroupId_eq`) and says what each operation does to the group
a name belongs to (`groupIdOf`) and to the entries of every group.
-/

namespace DaraChat.GroupContainer

/-- The entries of the group `g`, in list order. -/
def entriesOf (c : GroupContainer) (g : Str) : List GroupMember :=
  c.myGroups.filter fun member => member.groupId = g

/-- The last leader among some entries. -/
def lastLeader (entries : List GroupMember) : Option GroupMember :=
  (entries.filter fun member => member.isLeader).getLast?

theorem mem_entriesOf {c : GroupContainer} {g : Str} {member : GroupMember} :
    member ∈ c.entriesOf g ↔ member ∈ c.myGroups ∧ member.groupId = g := by
  simp [entriesOf]

/-! ## The counting loop -/

theorem foldl_countMember (isLeader : GroupMember → Bool) (g : Str) (l : List GroupMember) :
    l.foldl (countMember isLeader) { groupId := g } =
      { groupId := g
        leaderName := ((lastLeader (l.filter fun member => member.groupId = g)).map
          GroupMember.name).getD []
        isLeader := ((lastLeader (l.filter fun member => member.groupId = g)).map
          isLeader).getD false
        memberCount := (l.filter fun member => member.groupId = g).length
        errorCode := 0
        groupMembers := l.filter fun member => member.groupId = g } := by
  induction l using List.reverseRecOn with
  | nil => rfl
  | append_singleton l member ih =>
      rw [List.foldl_append, ih]
      by_cases hg : member.groupId = g
      · by_cases hl : member.isLeader = true
        · simp [countMember, lastLeader, List.filter_append, hg, hl]
        · simp [countMember, lastLeader, List.filter_append, hg, hl]
      · simp [countMember, lastLeader, List.filter_append, hg]

/-- **What `GetGroupInfoByGroupId` reports.** -/
theorem getGroupInfoByGroupId_eq (c : GroupContainer) (g : Str) :
    c.getGroupInfoByGroupId g =
      { groupId := g
        leaderName := ((lastLeader (c.entriesOf g)).map GroupMember.name).getD []
        isLeader := (lastLeader (c.entriesOf g)).isSome
        memberCount := (c.entriesOf g).length
        errorCode := 0
        groupMembers := c.entriesOf g } := by
  rw [getGroupInfoByGroupId, foldl_countMember]
  cases h : lastLeader (c.entriesOf g) <;> simp [entriesOf] at h ⊢ <;> simp [h]

/-- **What `GetGroupInfo` reports** of a name that is in a group. -/
theorem getGroupInfo_eq {c : GroupContainer} {n : Str} (h : c.groupIdOf n ≠ []) :
    c.getGroupInfo n =
      { groupId := c.groupIdOf n
        leaderName := ((lastLeader (c.entriesOf (c.groupIdOf n))).map GroupMember.name).getD []
        isLeader := ((lastLeader (c.entriesOf (c.groupIdOf n))).map
          fun member => decide (member.name = n)).getD false
        memberCount := (c.entriesOf (c.groupIdOf n)).length
        errorCode := 0
        groupMembers := c.entriesOf (c.groupIdOf n) } := by
  rw [getGroupInfo, if_neg h, foldl_countMember]
  rfl

/-- What `GetGroupInfo` reports of a name that is in no group. -/
theorem getGroupInfo_of_none {c : GroupContainer} {n : Str} (h : c.groupIdOf n = []) :
    c.getGroupInfo n = { errorCode := daraGroupIsNotMemberOfAnyGroup } := by
  rw [getGroupInfo, if_pos h]

@[simp] theorem getGroupInfo_groupId (c : GroupContainer) (n : Str) :
    (c.getGroupInfo n).groupId = c.groupIdOf n := by
  by_cases h : c.groupIdOf n = []
  · rw [getGroupInfo_of_none h, h]
  · rw [getGroupInfo_eq h]

theorem getGroupInfo_memberCount {c : GroupContainer} {n : Str} (h : c.groupIdOf n ≠ []) :
    (c.getGroupInfo n).memberCount = (c.entriesOf (c.groupIdOf n)).length := by
  rw [getGroupInfo_eq h]

theorem getGroupInfo_memberCount_of_none {c : GroupContainer} {n : Str} (h : c.groupIdOf n = []) :
    (c.getGroupInfo n).memberCount = 0 := by
  rw [getGroupInfo_of_none h]

/-- A leader flag reported for `n` belongs to an entry of `n` in its own group. -/
theorem mem_of_getGroupInfo_isLeader {c : GroupContainer} {n : Str}
    (h : (c.getGroupInfo n).isLeader = true) :
    c.groupIdOf n ≠ [] ∧ ∃ member ∈ c.entriesOf (c.groupIdOf n),
      member.name = n ∧ member.isLeader = true := by
  by_cases hn : c.groupIdOf n = []
  · rw [getGroupInfo_of_none hn] at h
    exact absurd h Bool.false_ne_true
  · refine ⟨hn, ?_⟩
    rw [getGroupInfo_eq hn] at h
    cases hlast : lastLeader (c.entriesOf (c.groupIdOf n)) with
    | none => simp [hlast] at h
    | some member =>
        have hmem : member ∈ (c.entriesOf (c.groupIdOf n)).filter fun m => m.isLeader :=
          List.mem_of_getLast? hlast
        rw [List.mem_filter] at hmem
        exact ⟨member, hmem.1, by simpa [hlast] using h, hmem.2⟩

/-! ## The group of a name -/

/-- No entry has an empty group id. -/
def GroupIdsNonempty (c : GroupContainer) : Prop := ∀ member ∈ c.myGroups, member.groupId ≠ []

/-- No name has two entries. -/
def NamesNodup (c : GroupContainer) : Prop := (c.myGroups.map GroupMember.name).Nodup

theorem groupIdOf_eq_nil {c : GroupContainer} (hne : c.GroupIdsNonempty) {n : Str} :
    c.groupIdOf n = [] ↔ ∀ member ∈ c.myGroups, member.name ≠ n := by
  unfold groupIdOf
  cases h : c.myGroups.find? (fun member => decide (member.name = n)) with
  | none => simpa using h
  | some member =>
      have hmem := List.mem_of_find?_eq_some h
      have hname : member.name = n := by simpa using List.find?_some h
      simp only
      exact ⟨fun hg => absurd hg (hne member hmem), fun hall => absurd hname (hall member hmem)⟩

/-- The group of a name is the group of one of its entries. -/
theorem exists_mem_of_groupIdOf {c : GroupContainer} {n : Str} (h : c.groupIdOf n ≠ []) :
    ∃ member ∈ c.myGroups, member.name = n ∧ member.groupId = c.groupIdOf n := by
  unfold groupIdOf at h ⊢
  cases hf : c.myGroups.find? (fun member => decide (member.name = n)) with
  | none => simp [hf] at h
  | some member =>
      exact ⟨member, List.mem_of_find?_eq_some hf, by simpa using List.find?_some hf, rfl⟩

theorem groupIdOf_eq_of_mem {c : GroupContainer} (hc : c.NamesNodup) {member : GroupMember}
    (h : member ∈ c.myGroups) : c.groupIdOf member.name = member.groupId := by
  have hf := (Keyed.find?_key_eq_some GroupMember.name hc).mpr ⟨h, rfl⟩
  rw [groupIdOf, hf]

theorem groupIdOf_eq (c : GroupContainer) (n : Str) :
    c.groupIdOf n =
      (((c.myGroups.map fun m => (m.name, m.groupId)).find? fun p => p.1 = n).map Prod.snd).getD [] := by
  rw [groupIdOf, List.find?_map]
  show _ = (((c.myGroups.find? fun m => decide (m.name = n)).map fun m => (m.name, m.groupId)).map
    Prod.snd).getD []
  cases c.myGroups.find? (fun member => decide (member.name = n)) <;> rfl

/-- The lookup depends only on the names and group ids of the entries. -/
theorem groupIdOf_congr {c c' : GroupContainer}
    (h : c'.myGroups.map (fun m => (m.name, m.groupId)) = c.myGroups.map fun m => (m.name, m.groupId))
    (n : Str) : c'.groupIdOf n = c.groupIdOf n := by
  rw [groupIdOf_eq, groupIdOf_eq, h]

/-! ## What the operations do to the lookups -/

section Append

variable {c : GroupContainer} {newMember : GroupMember}

/-- The container with one more entry at the end. -/
def append (c : GroupContainer) (newMember : GroupMember) : GroupContainer :=
  { c with myGroups := c.myGroups ++ [newMember] }

theorem entriesOf_append (g : Str) : (c.append newMember).entriesOf g =
    c.entriesOf g ++ if newMember.groupId = g then [newMember] else [] := by
  by_cases hg : newMember.groupId = g <;> simp [append, entriesOf, List.filter_append, hg]

theorem groupIdOf_append_self (hnew : ∀ member ∈ c.myGroups, member.name ≠ newMember.name) :
    (c.append newMember).groupIdOf newMember.name = newMember.groupId := by
  have hnone : c.myGroups.find? (fun member => decide (member.name = newMember.name)) = none := by
    simpa using hnew
  simp [groupIdOf, append, List.find?_append, hnone]

theorem groupIdOf_append_ne {n : Str} (hn : n ≠ newMember.name) :
    (c.append newMember).groupIdOf n = c.groupIdOf n := by
  simp only [groupIdOf, append, List.find?_append]
  cases c.myGroups.find? (fun member => decide (member.name = n)) <;> simp [Ne.symm hn]

end Append

section Erase

variable (c : GroupContainer) (n : Str)

theorem entriesOf_eraseMember (g : Str) :
    (c.eraseMember n).entriesOf g = (c.entriesOf g).filter fun member => member.name ≠ n := by
  simp only [entriesOf, eraseMember, List.filter_filter]
  congr 1
  funext member
  rw [Bool.and_comm]

theorem groupIdOf_eraseMember_self : (c.eraseMember n).groupIdOf n = [] := by
  have hnone : (c.eraseMember n).myGroups.find? (fun member => decide (member.name = n)) = none := by
    simp [eraseMember, List.find?_eq_none]
  rw [groupIdOf, hnone]

theorem groupIdOf_eraseMember_ne {n' : Str} (hn : n' ≠ n) :
    (c.eraseMember n).groupIdOf n' = c.groupIdOf n' := by
  have hfind : (c.eraseMember n).myGroups.find? (fun member => decide (member.name = n')) =
      c.myGroups.find? fun member => decide (member.name = n') := by
    rw [eraseMember, List.find?_filter]
    congr 1
    funext member
    by_cases hm : member.name = n' <;> simp [hm, hn]
  rw [groupIdOf, groupIdOf, hfind]

end Erase

section AssignLeader

variable (c : GroupContainer) (g : Str)

theorem map_assignLeader {β : Type} (field : GroupMember → β)
    (hfield : ∀ b (m : GroupMember), field { m with isLeader := b } = field m) :
    (c.assignLeader g).myGroups.map field = c.myGroups.map field :=
  Keyed.map_markFirst _ _ field hfield g false c.myGroups

theorem groupIdOf_assignLeader (n : Str) : (c.assignLeader g).groupIdOf n = c.groupIdOf n :=
  groupIdOf_congr (map_assignLeader c g _ fun _ _ => rfl) n

theorem entriesOf_assignLeader_ne {g' : Str} (h : g' ≠ g) :
    (c.assignLeader g).entriesOf g' = c.entriesOf g' :=
  Keyed.filter_markFirst_ne GroupMember.groupId
    (fun isLeader member => { member with isLeader := isLeader }) (fun _ _ => rfl) h false c.myGroups

theorem entriesOf_assignLeader_self :
    (c.assignLeader g).entriesOf g = Keyed.markFirst GroupMember.groupId
      (fun isLeader member => { member with isLeader := isLeader }) g false (c.entriesOf g) :=
  Keyed.filter_markFirst_self GroupMember.groupId
    (fun isLeader member => { member with isLeader := isLeader }) (fun _ _ => rfl) g false c.myGroups

end AssignLeader

section ModifyMember

/-- The container with the first entry of the name `n` changed by `f`; the common shape of
`aliveMsg` and `setMemberOnline`. -/
def modifyMember (c : GroupContainer) (n : Str) (f : GroupMember → GroupMember) : GroupContainer :=
  { c with myGroups := Keyed.modifyFirst (fun member => member.name = n) f c.myGroups }

variable {c : GroupContainer} {n : Str} {f : GroupMember → GroupMember}

theorem map_modifyMember {β : Type} (field : GroupMember → β) (hf : ∀ m, field (f m) = field m) :
    (c.modifyMember n f).myGroups.map field = c.myGroups.map field :=
  Keyed.map_modifyFirst _ f field (fun m _ => hf m) c.myGroups

theorem entriesOf_modifyMember (hc : c.NamesNodup) (hgroup : ∀ m, (f m).groupId = m.groupId)
    (g : Str) : (c.modifyMember n f).entriesOf g =
      (c.entriesOf g).map fun m => if m.name = n then f m else m := by
  rw [entriesOf, modifyMember, Keyed.modifyFirst_eq_map GroupMember.name n f hc, List.filter_map]
  have hfun : ((fun member : GroupMember => decide (member.groupId = g)) ∘
      fun m => if m.name = n then f m else m) = fun member => decide (member.groupId = g) := by
    funext m
    by_cases hm : m.name = n <;> simp [hm, hgroup]
  rw [hfun]
  rfl

/-- Groups without an entry of that name are untouched. -/
theorem entriesOf_modifyMember_ne (hc : c.NamesNodup) (hgroup : ∀ m, (f m).groupId = m.groupId)
    {g : Str} (hg : c.groupIdOf n ≠ g) : (c.modifyMember n f).entriesOf g = c.entriesOf g := by
  rw [entriesOf_modifyMember hc hgroup]
  refine (List.map_congr_left fun m hm => ?_).trans (List.map_id' _)
  obtain ⟨hmem, hmg⟩ := mem_entriesOf.mp hm
  refine if_neg fun hn => hg ?_
  rw [← hn, groupIdOf_eq_of_mem hc hmem, hmg]

theorem aliveMsg_eq (now : Time) (memberAlive : GroupMember) :
    c.aliveMsg now memberAlive = c.modifyMember memberAlive.name fun member =>
      { member with
        zone := memberAlive.zone, health := memberAlive.health, storeTime := now,
        isOnline := true } := rfl

/-- `setMemberOnline` changes at most the first entry of the name, and says whether it did. -/
theorem setMemberOnline_eq (now : Time) (online : Bool) :
    (c.setMemberOnline now n online).2 = c.modifyMember n fun member =>
      { member with
        isOnline := online
        storeTime := if online then now else member.storeTime } := by
  unfold setMemberOnline modifyMember
  cases h : c.myGroups.find? (fun member => decide (member.name = n)) with
  | some member => rfl
  | none =>
      have hid : ∀ l : List GroupMember, (∀ m ∈ l, m.name ≠ n) → ∀ f,
          Keyed.modifyFirst (fun m => decide (m.name = n)) f l = l := by
        intro l hl f
        induction l with
        | nil => rfl
        | cons m rest ih =>
            rw [Keyed.modifyFirst, if_neg (by simpa using hl m List.mem_cons_self),
              ih fun m' hm' => hl m' (List.mem_cons_of_mem _ hm')]
      rw [hid c.myGroups (by simpa using h)]

end ModifyMember

end DaraChat.GroupContainer
