import DaraChat.Lib.Parties
import DaraChat.Server.Authorisation
import DaraChat.Server.Invitations

set_option autoImplicit false

/-! # The server's groups are parties

Under all its entries, topics, subscriptions and invitations the server plays the abstract game of
`Parties`: in a run with fresh ids every event moves nobody, or it is one move of the character
whose session has sent the frame (`movesByOwner_run`). So whatever holds of parties holds of the groups of
the server: a roster lists its members in the order in which they have entered, and the leader is the
one who has been there for the longest time (`seniority_run`); and a group that has dissolved never
comes back (`staysDissolved_run`).
-/

namespace DaraChat

namespace GroupContainer

/-! ## The abstraction -/

/-- Who is in which group, in list order. -/
def parties (c : GroupContainer) : Parties.State Str Str :=
  fun g => (c.entriesOf g).map GroupMember.name

section Parties

variable {c c' : GroupContainer} {n g : Str}

/-- Parties are about names and ids alone. -/
theorem parties_of_keys (h : c'.keys = c.keys) : c'.parties = c.parties := by
  have hkeys : ∀ (c : GroupContainer) (g : Str),
      c.parties g = (c.keys.filter fun p => p.2 = g).map Prod.fst := by
    intro c g
    rw [parties, entriesOf, keys, List.filter_map, List.map_map]
    rfl
  funext g
  rw [hkeys, hkeys, h]

theorem parties_of_myGroups (h : c'.myGroups = c.myGroups) : c'.parties = c.parties :=
  parties_of_keys (by rw [keys, keys, h])

theorem mem_parties (hc : c.Sound) : n ∈ c.parties g ↔ g ≠ [] ∧ c.groupIdOf n = g := by
  rw [parties, List.mem_map]
  constructor
  · rintro ⟨member, hmem, rfl⟩
    obtain ⟨hm, rfl⟩ := mem_entriesOf.mp hmem
    exact ⟨hc.groupIdsNonempty member hm, groupIdOf_eq_of_mem hc.namesNodup hm⟩
  · rintro ⟨hne, rfl⟩
    obtain ⟨member, hm, hname, hg⟩ := exists_mem_of_groupIdOf hne
    exact ⟨member, mem_entriesOf.mpr ⟨hm, hg⟩, hname⟩

/-- A character without a group is in no party. -/
theorem notMem_parties (hc : c.Sound) (hn : c.groupIdOf n = []) (g : Str) : n ∉ c.parties g := by
  intro hmem
  obtain ⟨hne, hg⟩ := (mem_parties hc).mp hmem
  exact hne (hg.symm.trans hn)

theorem parties_eq_nil : c.parties g = [] ↔ c.entriesOf g = [] := List.map_eq_nil_iff

theorem length_parties (c : GroupContainer) (g : Str) :
    (c.parties g).length = (c.entriesOf g).length := List.length_map _

/-- Whoever is alone in its group, by the count that the server goes by. -/
theorem parties_of_alone (hc : c.Sound) (hn : c.groupIdOf n ≠ [])
    (hone : (c.getGroupInfo n).memberCount = 1) : c.parties (c.groupIdOf n) = [n] := by
  rw [getGroupInfo_memberCount hn, ← length_parties] at hone
  obtain ⟨m, hm⟩ := List.length_eq_one_iff.mp (Int.ofNat.inj hone)
  have hmem : n ∈ c.parties (c.groupIdOf n) := (mem_parties hc).mpr ⟨hn, rfl⟩
  rw [hm, List.mem_singleton] at hmem
  rw [hm, hmem]

theorem parties_append (member : GroupMember) : (c.append member).parties =
    Function.update c.parties member.groupId (c.parties member.groupId ++ [member.name]) := by
  funext g
  by_cases hg : g = member.groupId
  · subst hg
    simp [parties, entriesOf_append]
  · simp [parties, entriesOf_append, hg, Ne.symm hg]

theorem parties_groupDisband (hc : c.Sound) (n : Str) : (c.groupDisband n).2.parties =
    Function.update c.parties (c.groupIdOf n) ((c.parties (c.groupIdOf n)).filter (· ≠ n)) := by
  rw [parties_of_keys (keys_groupDisband n)]
  have herase : ∀ g, (c.eraseMember n).parties g = (c.parties g).filter (· ≠ n) := by
    intro g
    rw [parties, entriesOf_eraseMember, parties, List.filter_map]
    rfl
  funext g
  rw [herase]
  by_cases hg : g = c.groupIdOf n
  · subst hg
    rw [Function.update_self]
  · rw [Function.update_of_ne hg, List.filter_eq_self]
    intro m hm
    rw [decide_eq_true_eq]
    rintro rfl
    exact hg ((mem_parties hc).mp hm).2.symm

end Parties

end GroupContainer

open GroupContainer

namespace Server

/-! ## One event is one move -/

/-- The event moves nobody, or it is a group command and one move of its sender. -/
def MovesByOwner (cfg : Config) (s : Server) (e : Event) : Prop :=
  (s.step cfg e).groupContainer.parties = s.groupContainer.parties ∨
    ∃ cmd ∈ s.chatCommand e, IsGroupCommand cmd.chatMsg.type ∧
      Parties.Step myMaxGroupMembers.toNat cmd.sock.data.name s.groupContainer.parties
        (s.step cfg e).groupContainer.parties

section Step

variable {s : Server} {e : Event} {cmd : ChatCommand}

theorem parties_groupInvite (cfg : Config) (hs : s.Consistent) (hcmd : s.chatCommand e = some cmd)
    (htype : cmd.chatMsg.type = .groupInvite)
    (hfresh : ∀ uuid n, s.founding e = some (getNewGroupId uuid, n) →
      s.groupContainer.FreshId uuid) : MovesByOwner cfg s e := by
  obtain ⟨-, hsender, -⟩ := chatCommand_eq_some hcmd
  have hstep := step_of_groupInvite cfg hcmd htype
  rcases handleGroupInvite_cases cmd.env cmd.ws hsender with heq | ⟨hfree, hnone, heq⟩ | ⟨-, heq⟩
  · rw [MovesByOwner, hstep, heq]
    exact .inl rfl
  · -- the founder is the first member of a group that had none
    have hempty := freshId_iff.mp (hfresh _ _ (founding_of_groupInvite hcmd htype hfree))
    have hmyGroups := (inviteToGroup_frame cmd.env (s.foundGroup cmd.env cmd.ws cmd.sock)
      cmd.chatMsg).2
    have hparties : (s.foundGroup cmd.env cmd.ws cmd.sock).groupContainer.parties =
        Function.update s.groupContainer.parties (getNewGroupId cmd.env.uuid)
          (s.groupContainer.parties (getNewGroupId cmd.env.uuid) ++ [cmd.sock.data.name]) :=
      parties_append _
    refine .inr ⟨cmd, hcmd, .inl htype, ?_⟩
    rw [hstep, heq, parties_of_myGroups hmyGroups, hparties, parties_eq_nil.mpr hempty]
    exact .found _ (parties_eq_nil.mpr hempty) (notMem_parties hs.presence.sound hnone)
  · refine .inl ?_
    rw [hstep, heq]
    exact parties_of_myGroups (inviteToGroup_frame cmd.env s cmd.chatMsg).2

theorem parties_groupJoin (cfg : Config) (hs : s.Consistent) (hcmd : s.chatCommand e = some cmd)
    (htype : cmd.chatMsg.type = .groupJoin) : MovesByOwner cfg s e := by
  obtain ⟨hsession, -, -⟩ := chatCommand_eq_some hcmd
  have hsound := hs.presence.sound
  rcases groupJoin_cases cfg hs hcmd htype with ⟨-, heq⟩ | ⟨s₁, sock, hadm, -, heq⟩
  · refine .inl ?_
    rw [heq]
    rfl
  have hafter : (s.step cfg e).groupContainer.parties = Function.update s₁.groupContainer.parties
      (s.groupContainer.groupIdOf cmd.chatMsg.recipient)
      (s₁.groupContainer.parties (s.groupContainer.groupIdOf cmd.chatMsg.recipient) ++
        [cmd.sock.data.name]) := by
    rw [heq, ← hadm.target, ← hadm.name]
    exact parties_append (joiner cmd.env.time sock.data.name _)
  -- the group that is joined has members, and room for one more
  have hparty : s₁.groupContainer.parties (s.groupContainer.groupIdOf cmd.chatMsg.recipient) ≠ [] := by
    rw [← hadm.target]
    refine List.ne_nil_of_mem ((mem_parties (hadm.parted hs).sound).mpr
      ⟨hadm.canJoin.leader_grouped, rfl⟩)
  have hroom : (s₁.groupContainer.parties
      (s.groupContainer.groupIdOf cmd.chatMsg.recipient)).length < myMaxGroupMembers.toNat := by
    rw [length_parties, ← hadm.target]
    have hfull := hadm.canJoin.not_full
    exact Int.lt_toNat.mpr hfull
  refine .inr ⟨cmd, hcmd, .inr (.inl htype), ?_⟩
  rw [hafter]
  rcases hadm.prepared with ⟨rfl, rfl⟩ | ⟨hone, rfl, -⟩
  · exact .join _ hparty hroom (notMem_parties hsound hadm.canJoin.member_free)
  · -- the guest was alone in the group that it leaves for the other
    have hgrouped : s.groupContainer.groupIdOf cmd.sock.data.name ≠ [] := by
      intro hnone
      rw [getGroupInfo_memberCount_of_none hnone] at hone
      exact absurd hone (by decide)
    have hsolo := parties_of_alone hsound hgrouped hone
    have hleft : ((s.prune cmd.env).leaveGroup cmd.ws cmd.sock).groupContainer.parties =
        Function.update s.groupContainer.parties
          (s.groupContainer.groupIdOf cmd.sock.data.name) [] := by
      have hpruned : (s.groupContainer.removeOldInvites cmd.env.time).Sound :=
        hsound.of_sublist (List.Sublist.refl _)
      have hempty : [cmd.sock.data.name].filter (· ≠ cmd.sock.data.name) = [] := by simp
      rw [← hempty, ← hsolo]
      exact parties_groupDisband hpruned cmd.sock.data.name
    have hne : s.groupContainer.groupIdOf cmd.chatMsg.recipient ≠
        s.groupContainer.groupIdOf cmd.sock.data.name := by
      intro hsame
      rw [hleft, hsame, Function.update_self] at hparty
      exact hparty rfl
    rw [hleft, Function.update_of_ne hne] at hparty hroom ⊢
    exact .switch _ _ hsolo (fun g hg => ((mem_parties hsound).mp hg).2.symm) hne hparty hroom

theorem parties_disband (cfg : Config) (hs : s.Consistent) (hcmd : s.chatCommand e = some cmd)
    (htype : cmd.chatMsg.type = .groupDisband) : MovesByOwner cfg s e := by
  obtain ⟨hsession, -, -⟩ := chatCommand_eq_some hcmd
  have hcontainer := container_of_groupDisband cfg hcmd htype
  by_cases hgroup : cmd.sock.data.groupId = []
  · rw [if_pos hgroup] at hcontainer
    exact .inl (by rw [hcontainer])
  · rw [if_neg hgroup] at hcontainer
    have hgrouped : s.groupContainer.groupIdOf cmd.sock.data.name ≠ [] := by
      rwa [← hs.groupId hsession]
    refine .inr ⟨cmd, hcmd, .inr (.inr htype), ?_⟩
    rw [hcontainer, parties_groupDisband hs.presence.sound]
    have honly : ∀ g, cmd.sock.data.name ∈ s.groupContainer.parties g ↔
        g = s.groupContainer.groupIdOf cmd.sock.data.name := by
      intro g
      rw [mem_parties hs.presence.sound]
      exact ⟨fun h => h.2.symm, fun h => ⟨h ▸ hgrouped, h.symm⟩⟩
    exact .leave _ honly

/-- **Every event is one move of its sender**, or moves nobody. -/
theorem movesByOwner_step (cfg : Config) (hs : s.Consistent)
    (hfresh : ∀ uuid n, s.founding e = some (getNewGroupId uuid, n) →
      s.groupContainer.FreshId uuid) : MovesByOwner cfg s e := by
  by_cases hcommand : ∃ cmd ∈ s.chatCommand e, IsGroupCommand cmd.chatMsg.type
  · obtain ⟨cmd, hcmd, htype | htype | htype⟩ := hcommand
    · exact parties_groupInvite cfg hs hcmd htype hfresh
    · exact parties_groupJoin cfg hs hcmd htype
    · exact parties_disband cfg hs hcmd htype
  · have hno : ∀ cmd ∈ s.chatCommand e, ¬ IsGroupCommand cmd.chatMsg.type :=
      fun cmd hcmd htype => hcommand ⟨cmd, hcmd, htype⟩
    exact .inl (parties_of_keys (frame_of_not_groupCommand cfg hno).1)

end Step

/-! ## Runs -/

section Runs

variable {cfg : Config} {evs : List Event} {e : Event}

theorem FreshIds.of_snoc (h : FreshIds cfg (evs ++ [e])) : FreshIds cfg evs := by
  rw [FreshIds, foundings_snoc, List.map_append] at h
  exact h.of_append_left

/-- The last event of a run with fresh ids. -/
theorem movesByOwner_last (cfg : Config) (hfresh : FreshIds cfg (evs ++ [e])) :
    MovesByOwner cfg ((machine cfg).run evs) e :=
  movesByOwner_step cfg (consistent_run cfg evs) fun _ _ h => freshId_of_founding hfresh h

/-- **The server refines the game of parties**: every event of a run with fresh ids is one move of
the character whose session has sent the frame, or moves nobody. -/
theorem movesByOwner_run (cfg : Config) (evs : List Event) (hfresh : FreshIds cfg evs) :
    (machine cfg).Along (MovesByOwner cfg) evs := by
  induction evs using List.reverseRecOn with
  | nil => trivial
  | append_singleton evs e ih =>
      exact ((machine cfg).along_snoc _ evs e).mpr
        ⟨ih hfresh.of_snoc, movesByOwner_last cfg hfresh⟩

/-- Both moves of the sample run are made by those who send the frames. -/
theorem movesByOwner_joinEvents :
    (machine sampleConfig).Along (MovesByOwner sampleConfig) joinEvents := by
  have hfresh : FreshIds sampleConfig joinEvents := by decide +kernel
  exact movesByOwner_run sampleConfig joinEvents hfresh

/-- In the run of `evs` the character `a` was in the group `g` already when `b` entered it, and both
have been in it ever since. -/
def Senior (cfg : Config) (evs : List Event) (g a b : Str) : Prop :=
  (machine cfg).Since
    (fun s e => a ∈ s.groupContainer.parties g ∧ b ∉ s.groupContainer.parties g ∧
      a ∈ (s.step cfg e).groupContainer.parties g ∧ b ∈ (s.step cfg e).groupContainer.parties g)
    (fun s e => a ∈ (s.step cfg e).groupContainer.parties g ∧
      b ∈ (s.step cfg e).groupContainer.parties g) evs

theorem senior_pairwise (cfg : Config) (evs : List Event) :
    FreshIds cfg evs → ∀ g,
      (((machine cfg).run evs).groupContainer.parties g).Pairwise (Senior cfg evs g) := by
  refine (machine cfg).history_induction
    (P := fun evs s => FreshIds cfg evs → ∀ g, (s.groupContainer.parties g).Pairwise
      (Senior cfg evs g)) (fun _ _ => .nil) (fun evs e ih hfresh g => ?_) evs
  have hordered := ih hfresh.of_snoc g
  rcases movesByOwner_last cfg hfresh with hsame | ⟨cmd, -, -, hstep⟩
  · have hparties : ((machine cfg).step ((machine cfg).run evs) e).groupContainer.parties g =
        ((machine cfg).run evs).groupContainer.parties g := congrFun hsame g
    rw [hparties]
    refine hordered.imp_of_mem fun ha hb h => h.snoc ?_
    rw [← hparties] at ha hb
    exact ⟨ha, hb⟩
  · refine hstep.pairwise hordered (fun a b _ _ ha hb h => h.snoc ⟨ha, hb⟩) ?_
    exact fun a ha ha' hb hb' => Machine.since_last ⟨ha, hb, ha', hb'⟩

/-- **The leader is the oldest member**: a roster lists the members in the order in which they have
entered, and the leader has been in the group before all the others. -/
theorem seniority_run (cfg : Config) (evs : List Event) (hfresh : FreshIds cfg evs) (g : Str) :
    (((machine cfg).run evs).groupContainer.parties g).Pairwise (Senior cfg evs g) ∧
      ∀ leader ∈ ((machine cfg).run evs).groupContainer.entriesOf g, leader.isLeader = true →
        ∀ n ∈ ((machine cfg).run evs).groupContainer.parties g, n ≠ leader.name →
          Senior cfg evs g leader.name n := by
  have hordered := senior_pairwise cfg evs hfresh g
  refine ⟨hordered, fun leader hleader hlead n hn hne => ?_⟩
  -- the leader is the first entry of its group
  have hhead := ((container_wellFormed cfg evs hfresh).led g).eq_head hleader hlead
  obtain ⟨rest, hentries⟩ := List.head?_eq_some_iff.mp hhead
  rw [parties, hentries, List.map_cons] at hordered hn
  exact (List.pairwise_cons.mp hordered).1 n ((List.mem_cons.mp hn).resolve_left hne)

/-- Who is in Tirio's group after Trula has joined it, and who came first. -/
theorem seniority_joinEvents :
    ((machine sampleConfig).run joinEvents).groupContainer.parties "group_a".toList =
        ["Tirio".toList, "Trula".toList] ∧
      (((machine sampleConfig).run joinEvents).groupContainer.parties "group_a".toList).Pairwise
        (Senior sampleConfig joinEvents "group_a".toList) := by
  have hevents : FreshIds sampleConfig joinEvents ∧
      ((machine sampleConfig).run joinEvents).groupContainer.parties "group_a".toList =
        ["Tirio".toList, "Trula".toList] := by
    decide +kernel
  exact ⟨hevents.2, (seniority_run sampleConfig joinEvents hevents.1 _).1⟩

/-! ## Dissolved groups -/

/-- No entry has the id. -/
def Dissolved (s : Server) (g : Str) : Prop :=
  ∀ key ∈ s.groupContainer.keys, key.2 ≠ g

theorem dissolved_iff {s : Server} {g : Str} :
    s.Dissolved g ↔ s.groupContainer.parties g = [] := by
  rw [parties_eq_nil, entriesOf, List.filter_eq_nil_iff]
  simp [Dissolved, keys]

theorem dissolved_step {s : Server} {g : Str} (h : s.Dissolved g)
    (hnew : ∀ p ∈ s.founding e, p.1 ≠ g) : (s.step cfg e).Dissolved g := by
  have hallows : Guard.Allows { founds := fun _ g' _ => g' ≠ g } cfg s e :=
    { allows_any cfg s e with founds := hnew }
  refine step_of_move (I := fun s => s.Dissolved g) (fun hm h => ?_) cfg hallows h
  refine hm.container_invariant (I := fun c => ∀ key ∈ c.keys, key.2 ≠ g)
    (fun c cmd hserves hkeys key hkey => ?_) h
  have hbrings : cmd.Brings (fun _ => True) (· ≠ g) := by
    -- only a founding brings in an id
    cases cmd with
    | groupStartGroup now uuid leaderName => exact ⟨trivial, hserves.2.2⟩
    | _ => trivial
  exact (keys_exec (fun key hkey => ⟨trivial, hkeys key hkey⟩) hbrings key hkey).2

/-- **A group that has dissolved never comes back.** -/
theorem staysDissolved_run (cfg : Config) (pre post : List Event)
    (hfresh : FreshIds cfg (pre ++ post)) {g : Str} (hfounded : g ∈ (foundings cfg pre).map Prod.fst)
    (hempty : ((machine cfg).run pre).groupContainer.parties g = []) :
    ((machine cfg).run (pre ++ post)).groupContainer.parties g = [] := by
  induction post using List.reverseRecOn with
  | nil => rwa [List.append_nil]
  | append_singleton post e ih =>
      rw [← List.append_assoc] at hfresh ⊢
      rw [Machine.run_snoc]
      refine dissolved_iff.mp (dissolved_step (dissolved_iff.mpr (ih hfresh.of_snoc)) ?_)
      rintro p hp rfl
      -- an id that has been founded before is not drawn again
      have hold : p.1 ∈ (foundings cfg (pre ++ post)).map Prod.fst :=
        List.map_subset Prod.fst ((machine cfg).collect_subset_append _ pre post) hfounded
      rw [FreshIds, foundings_snoc, List.map_append, List.nodup_append] at hfresh
      exact hfresh.2.2 _ hold _ (List.mem_map_of_mem (Option.mem_toList.mpr hp)) rfl

/-- Tirio founds a group and disbands it. -/
def dissolvingEvents : List Event :=
  loginEvents 1 tirio ++
    [ .text (sampleEnv 1001 "a") 1 "GroupInvite:Tirio:Trula:".toList
    , .text (sampleEnv 1002 "") 1 "GroupDisband:Tirio::".toList ]

/-- His next group is another one. -/
theorem staysDissolved_dissolvingEvents :
    ((machine sampleConfig).run (dissolvingEvents ++
        [.text (sampleEnv 1003 "b") 1 "GroupInvite:Tirio:Trula:".toList])).groupContainer.parties
          "group_b".toList = ["Tirio".toList] ∧
      ((machine sampleConfig).run (dissolvingEvents ++
        [.text (sampleEnv 1003 "b") 1 "GroupInvite:Tirio:Trula:".toList])).groupContainer.parties
          "group_a".toList = [] := by
  have hrun : FreshIds sampleConfig (dissolvingEvents ++
        [.text (sampleEnv 1003 "b") 1 "GroupInvite:Tirio:Trula:".toList]) ∧
      ("group_a".toList ∈ (foundings sampleConfig dissolvingEvents).map Prod.fst ∧
        ((machine sampleConfig).run dissolvingEvents).groupContainer.parties
          "group_a".toList = []) ∧
      ((machine sampleConfig).run (dissolvingEvents ++
        [.text (sampleEnv 1003 "b") 1 "GroupInvite:Tirio:Trula:".toList])).groupContainer.parties
          "group_b".toList = ["Tirio".toList] := by
    decide +kernel
  exact ⟨hrun.2.2, staysDissolved_run sampleConfig dissolvingEvents _ hrun.1 hrun.2.1.1
    hrun.2.1.2⟩

end Runs

end Server

end DaraChat
