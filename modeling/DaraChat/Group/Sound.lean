import DaraChat.Group.Commands

set_option autoImplicit false

/-! # Names and ids of the entries

`Sound` is the part of the container's invariant that needs nothing of the ids that are drawn:
no name has two entries, and every id carries the group prefix. It depends on the names and ids
of the entries only (`keys`), so a command keeps it that drops entries or changes other fields.
-/

namespace DaraChat.GroupContainer

/-- Name and group id of every entry. -/
def keys (c : GroupContainer) : List (Str × Str) := c.myGroups.map fun m => (m.name, m.groupId)

/-- No name has two entries, and every id carries the group prefix. -/
structure Sound (c : GroupContainer) : Prop where
  namesNodup : c.NamesNodup
  prefixed : ∀ member ∈ c.myGroups, startsWith member.groupId myGroupPrefix = true

variable {c c' : GroupContainer}

theorem ne_nil_of_startsWith {g : Str} (h : startsWith g myGroupPrefix = true) : g ≠ [] := by
  rintro rfl
  simp [startsWith, myGroupPrefix] at h

theorem Sound.groupIdsNonempty (hc : c.Sound) : c.GroupIdsNonempty := fun member hm =>
  ne_nil_of_startsWith (hc.prefixed member hm)

/-- The id of a grouped name carries the group prefix. -/
theorem Sound.groupIdOf_prefixed (hc : c.Sound) {n : Str} (hn : c.groupIdOf n ≠ []) :
    startsWith (c.groupIdOf n) myGroupPrefix = true := by
  obtain ⟨member, hm, -, hg⟩ := exists_mem_of_groupIdOf hn
  rw [← hg]
  exact hc.prefixed member hm

/-- The id of a group with a member carries the group prefix. -/
theorem Sound.prefixed_of_entries (hc : c.Sound) {g : Str} (hg : c.entriesOf g ≠ []) :
    startsWith g myGroupPrefix = true := by
  obtain ⟨member, hm⟩ := List.exists_mem_of_ne_nil _ hg
  obtain ⟨hmem, rfl⟩ := mem_entriesOf.mp hm
  exact hc.prefixed member hmem

theorem startsWith_getNewGroupId (uuid : Str) :
    startsWith (getNewGroupId uuid) myGroupPrefix = true :=
  startsWith_iff.mpr (List.prefix_append _ _)

/-- The topic of an id that carries the prefix is the id. -/
theorem getGroupTopic_eq {g : Str} (h : startsWith g myGroupPrefix = true) :
    getGroupTopic g = g := by
  rw [getGroupTopic, if_neg (ne_nil_of_startsWith h), if_pos h]

/-! ## The operations keep it -/

theorem sound_init : Sound {} := ⟨List.nodup_nil, fun _ hm => nomatch hm⟩

theorem Sound.of_sublist (hc : c.Sound) (h : c'.keys.Sublist c.keys) : c'.Sound where
  namesNodup := by
    have hnames := h.map Prod.fst
    simp only [keys, List.map_map] at hnames
    exact List.Nodup.sublist hnames hc.namesNodup
  prefixed := by
    intro member hm
    have hkey : (member.name, member.groupId) ∈ c.keys :=
      h.subset (List.mem_map_of_mem hm)
    obtain ⟨member', hm', heq⟩ := List.mem_map.mp hkey
    rw [← (Prod.mk.inj heq).2]
    exact hc.prefixed member' hm'

/-- A new entry for a name without one. -/
theorem Sound.append (hc : c.Sound) {newMember : GroupMember}
    (hname : c.groupIdOf newMember.name = [])
    (hg : startsWith newMember.groupId myGroupPrefix = true) : (c.append newMember).Sound where
  namesNodup := by
    have hnew : newMember.name ∉ c.myGroups.map GroupMember.name := by
      intro hmem
      obtain ⟨member, hm, hn⟩ := List.mem_map.mp hmem
      exact (groupIdOf_eq_nil hc.groupIdsNonempty).mp hname member hm hn
    rw [NamesNodup, GroupContainer.append, List.map_append]
    exact List.Nodup.append hc.namesNodup (List.nodup_singleton _) (by simpa using hnew)
  prefixed := by
    intro member hm
    rcases List.mem_append.mp hm with hm | hm
    · exact hc.prefixed member hm
    · rw [List.mem_singleton.mp hm]
      exact hg

theorem keys_modifyMember {n : Str} {f : GroupMember → GroupMember}
    (hname : ∀ m, (f m).name = m.name) (hgroup : ∀ m, (f m).groupId = m.groupId) :
    (c.modifyMember n f).keys = c.keys :=
  map_modifyMember _ fun m => by rw [hname, hgroup]

theorem keys_aliveMsg (now : Time) (member : GroupMember) :
    (c.aliveMsg now member).keys = c.keys := by
  rw [aliveMsg_eq]
  exact keys_modifyMember (fun _ => rfl) fun _ => rfl

theorem keys_setMemberOnline (now : Time) (n : Str) (online : Bool) :
    (c.setMemberOnline now n online).2.keys = c.keys := by
  rw [setMemberOnline_eq]
  exact keys_modifyMember (fun _ => rfl) fun _ => rfl

theorem keys_append_member (newMember : GroupMember) :
    (c.append newMember).keys = c.keys ++ [(newMember.name, newMember.groupId)] :=
  List.map_append

theorem keys_eraseMember_sublist (n : Str) : (c.eraseMember n).keys.Sublist c.keys :=
  List.filter_sublist.map _

theorem keys_groupDisband (n : Str) : (c.groupDisband n).2.keys = (c.eraseMember n).keys :=
  map_groupDisband _ (fun _ _ => rfl) n

theorem Sound.groupDisband (hc : c.Sound) (n : Str) : (c.groupDisband n).2.Sound := by
  refine hc.of_sublist ?_
  rw [keys_groupDisband]
  exact keys_eraseMember_sublist n

theorem groupIdOf_of_keys (h : c'.keys = c.keys) (n : Str) : c'.groupIdOf n = c.groupIdOf n :=
  groupIdOf_congr h n

end DaraChat.GroupContainer
