import DaraChat.Server.Commands
import Mathlib.Data.Finset.Card

set_option autoImplicit false

/-! # What the snapshot says

`CollectAdminSnapshot` puts its figures together from the ids in the container, one scan of the
entries for each of them, and the session registry. They fit: the groups it lists are a partition
of the entries, every leader it names is a member, the zones count every registered session once,
and the groups that are online are those with a character in the registry, because an entry is
online exactly while its name is registered.
-/

namespace DaraChat

open GroupContainer

namespace Server

/-- The groups with a character whose session is registered. -/
def onlineGroupIds (s : Server) : Finset Str :=
  ((s.groupContainer.myGroups.filter fun m => (s.activeSessions.lookup m.name).isSome).map
    GroupMember.groupId).toFinset

/-- A field of the answer to a query, as `AnswerAdminQuery` derives it from a snapshot. -/
def answerField (type : EChatCmdType) (state : AdminSnapshot) (field : Str) : Option Json :=
  match adminBody type state with
  | .object fields => fields.lookup field
  | _ => none

/-- The snapshot is exact: groups, leaders, zones and online groups are those of the server. -/
structure SnapshotExact (s : Server) (state : AdminSnapshot) : Prop where
  /-- A group is listed once if it has a member, and not at all otherwise. -/
  listed : ∀ g, state.groups.countP (fun info => info.groupId = g) =
    if s.groupContainer.entriesOf g = [] then 0 else 1
  members : ∀ info ∈ state.groups, info.groupMembers = s.groupContainer.entriesOf info.groupId
  entry : ∀ m ∈ s.groupContainer.myGroups,
    state.groups.countP (fun info => m ∈ info.groupMembers) = 1
  leader : ∀ info ∈ state.groups, info.leaderName ∈ info.groupMembers.map GroupMember.name
  zones : (state.zones.map Prod.snd).sum = state.connectedClients
  clients : state.connectedClients = s.activeSessions.keys.length
  online : answerField .adminStatus state "onlineGroups".toList =
    some (jsonCount s.onlineGroupIds.card)

/-! ## Counting -/

/-- One element of a list without repetitions. -/
theorem countP_eq_one {α : Type} {p : α → Bool} {l : List α} (hnodup : l.Nodup) {a : α}
    (ha : a ∈ l) (hp : ∀ x ∈ l, p x = true ↔ x = a) : l.countP p = 1 := by
  classical
  have hcount : l.count a = 1 := List.count_eq_one_of_mem hnodup ha
  rw [← hcount]
  refine List.countP_congr fun x hx => ?_
  rw [hp x hx, beq_iff_eq]

theorem sum_bump (key : Str) (m : List (Str × Nat)) :
    ((bump key m).map Prod.snd).sum = (m.map Prod.snd).sum + 1 := by
  induction m with
  | nil => rfl
  | cons entry rest ih =>
      obtain ⟨k, n⟩ := entry
      unfold bump
      by_cases hk : k = key
      · rw [if_pos hk]
        simp only [List.map_cons, List.sum_cons]
        omega
      · rw [if_neg hk]
        split
        · simp only [List.map_cons, List.sum_cons]
          omega
        · simp only [List.map_cons, List.sum_cons, ih]
          omega

/-- Every element is counted once. -/
theorem sum_foldl_bump {α : Type} (key : α → Str) (l : List α) (m : List (Str × Nat)) :
    ((l.foldl (fun m a => bump (key a) m) m).map Prod.snd).sum =
      (m.map Prod.snd).sum + l.length := by
  induction l generalizing m with
  | nil => rfl
  | cons a l ih =>
      rw [List.foldl_cons, ih, sum_bump, List.length_cons]
      omega

/-! ## The ids -/

section Ids

variable {c : GroupContainer}

theorem nodup_getUniqueGroupIds : (getUniqueGroupIds c).Nodup := List.nodup_dedup _

theorem mem_getUniqueGroupIds (hc : c.GroupIdsNonempty) {g : Str} :
    g ∈ getUniqueGroupIds c ↔ ∃ m ∈ c.myGroups, m.groupId = g := by
  rw [getUniqueGroupIds, List.mem_dedup, List.mem_filter, List.mem_map]
  constructor
  · rintro ⟨hmem, -⟩
    exact hmem
  · rintro ⟨m, hm, rfl⟩
    exact ⟨⟨m, hm, rfl⟩, by simpa using hc m hm⟩

theorem mem_getUniqueGroupIds_iff (hc : c.GroupIdsNonempty) {g : Str} :
    g ∈ getUniqueGroupIds c ↔ c.entriesOf g ≠ [] := by
  rw [mem_getUniqueGroupIds hc]
  constructor
  · rintro ⟨m, hm, hg⟩
    exact List.ne_nil_of_mem (mem_entriesOf.mpr ⟨hm, hg⟩)
  · intro hne
    obtain ⟨m, hm⟩ := List.exists_mem_of_ne_nil _ hne
    exact ⟨m, mem_entriesOf.mp hm⟩

end Ids

/-! ## The snapshot of a reachable state -/

theorem hasLeaders_run (cfg : Config) (evs : List Event) :
    ((machine cfg).run evs).groupContainer.HasLeaders := by
  have hrun := invariant_of_moves (I := fun s => s.groupContainer.Sound ∧ s.groupContainer.HasLeaders)
    ⟨sound_init, hasLeaders_init⟩
    (fun hm h => hm.container_invariant (I := fun c => c.Sound ∧ c.HasLeaders)
      (fun c cmd _ hc => ⟨sound_exec hc.1 cmd, hasLeaders_exec hc.2 hc.1 cmd⟩) h) cfg evs
  exact hrun.2

section Exact

variable {s : Server} {env : Env}

/-- The listed groups, counted by a property of their ids. -/
theorem countP_groups (p : GroupInfo → Bool) :
    (s.collectAdminSnapshot env).groups.countP p =
      (getUniqueGroupIds s.groupContainer).countP
        fun g => p (s.groupContainer.getGroupInfoByGroupId g) :=
  List.countP_map

theorem mem_groups {info : GroupInfo} :
    info ∈ (s.collectAdminSnapshot env).groups ↔
      ∃ g ∈ getUniqueGroupIds s.groupContainer, s.groupContainer.getGroupInfoByGroupId g = info :=
  List.mem_map

/-- A group is listed once if it has an entry. -/
theorem countP_groupId (hids : s.groupContainer.GroupIdsNonempty) (g : Str) :
    (s.collectAdminSnapshot env).groups.countP (fun info => info.groupId = g) =
      if s.groupContainer.entriesOf g = [] then 0 else 1 := by
  rw [countP_groups]
  simp only [getGroupInfoByGroupId_eq]
  split
  · rename_i hempty
    rw [List.countP_eq_zero]
    intro g' hg' hgg
    rw [decide_eq_true_eq] at hgg
    exact (mem_getUniqueGroupIds_iff hids).mp hg' (hgg ▸ hempty)
  · rename_i hne
    refine countP_eq_one nodup_getUniqueGroupIds ((mem_getUniqueGroupIds_iff hids).mpr hne)
      fun g' _ => ?_
    rw [decide_eq_true_eq]

/-- An entry is listed once, under the id of its group. -/
theorem countP_member (hids : s.groupContainer.GroupIdsNonempty) {m : GroupMember}
    (hm : m ∈ s.groupContainer.myGroups) :
    (s.collectAdminSnapshot env).groups.countP (fun info => m ∈ info.groupMembers) = 1 := by
  rw [countP_groups]
  simp only [getGroupInfoByGroupId_eq, mem_entriesOf]
  have hlisted : m.groupId ∈ getUniqueGroupIds s.groupContainer :=
    (mem_getUniqueGroupIds_iff hids).mpr (List.ne_nil_of_mem (mem_entriesOf.mpr ⟨hm, rfl⟩))
  refine countP_eq_one nodup_getUniqueGroupIds hlisted fun g _ => ?_
  rw [decide_eq_true_eq]
  exact ⟨fun h => h.2.symm, fun h => ⟨hm, h.symm⟩⟩

/-- Every registered session has its data. -/
theorem length_sessionData (hr : s.Registry) :
    s.sessionData.length = s.activeSessions.keys.length := by
  have hsome : ∀ session ∈ s.activeSessions.entries,
      ((s.sockets session.2).map Socket.data).isSome = true := by
    intro session hsession
    obtain ⟨sock, hsock, -⟩ := hr.registered _ _ (AList.mem_lookup_iff.mpr hsession)
    rw [hsock]
    rfl
  rw [sessionData, List.length_filterMap_eq_countP, List.countP_eq_length.mpr hsome, AList.keys,
    List.keys, List.length_map]

theorem connectedClients_eq :
    (s.collectAdminSnapshot env).connectedClients = s.activeSessions.keys.length := by
  rw [AList.keys, List.keys, List.length_map]
  rfl

/-- A listed group is online when one of its characters is in the registry. -/
theorem onlineGroup_iff (hp : s.Presence) {g : Str} :
    onlineGroup (s.groupContainer.getGroupInfoByGroupId g) = true ↔ g ∈ s.onlineGroupIds := by
  rw [onlineGroup, getGroupInfoByGroupId_eq, List.any_eq_true, onlineGroupIds, List.mem_toFinset,
    List.mem_map]
  constructor
  · rintro ⟨m, hm, honline⟩
    obtain ⟨hmem, hg⟩ := mem_entriesOf.mp hm
    rw [hp.online m hmem] at honline
    exact ⟨m, List.mem_filter.mpr ⟨hmem, honline⟩, hg⟩
  · rintro ⟨m, hm, hg⟩
    obtain ⟨hmem, hregistered⟩ := List.mem_filter.mp hm
    refine ⟨m, mem_entriesOf.mpr ⟨hmem, hg⟩, ?_⟩
    rw [hp.online m hmem]
    exact hregistered

theorem countP_onlineGroup (hp : s.Presence) :
    (s.collectAdminSnapshot env).groups.countP onlineGroup = s.onlineGroupIds.card := by
  rw [countP_groups, List.countP_eq_length_filter,
    ← List.toFinset_card_of_nodup (nodup_getUniqueGroupIds.filter _)]
  congr 1
  ext g
  rw [List.mem_toFinset, List.mem_filter, onlineGroup_iff hp, and_iff_right_iff_imp]
  -- a group with a character in the registry has an entry, and so its id is listed
  intro hg
  rw [onlineGroupIds, List.mem_toFinset, List.mem_map] at hg
  obtain ⟨m, hm, rfl⟩ := hg
  exact (mem_getUniqueGroupIds hp.sound.groupIdsNonempty).mpr ⟨m, List.mem_of_mem_filter hm, rfl⟩

end Exact

/-- **The snapshot of a reachable state is exact**, whatever ids the groups have. -/
theorem snapshotExact_run (cfg : Config) (evs : List Event) (env : Env) :
    SnapshotExact ((machine cfg).run evs) (((machine cfg).run evs).collectAdminSnapshot env) := by
  have hs := consistent_run cfg evs
  have hleaders := hasLeaders_run cfg evs
  generalize (machine cfg).run evs = s at hs hleaders
  have hids := hs.presence.sound.groupIdsNonempty
  refine ⟨countP_groupId hids, fun info hinfo => ?_, fun m hm => countP_member hids hm,
    fun info hinfo => ?_, ?_, connectedClients_eq, ?_⟩
  · obtain ⟨g, -, rfl⟩ := mem_groups.mp hinfo
    rw [getGroupInfoByGroupId_eq]
  · obtain ⟨g, hg, rfl⟩ := mem_groups.mp hinfo
    obtain ⟨leader, hleader⟩ := hleaders g ((mem_getUniqueGroupIds_iff hids).mp hg)
    rw [getGroupInfoByGroupId_eq, hleader]
    exact List.mem_map_of_mem (mem_of_lastLeader hleader).1
  · show ((s.sessionData.foldl (fun zones data => bump data.zone zones) []).map Prod.snd).sum = _
    rw [sum_foldl_bump, length_sessionData hs.registry, connectedClients_eq]
    exact Nat.zero_add _
  · show some (jsonCount ((s.collectAdminSnapshot env).groups.countP onlineGroup)) = _
    rw [countP_onlineGroup hs.presence]

end Server

end DaraChat
