import DaraChat.Server.Acceptance

set_option autoImplicit false

/-! # Who admits to a group

An invitation is stored with two names and a time, and not with the group it was issued for. So
it admits to whatever group its author is in when it is used, and it is only as good as the rule
that an author who leaves a group takes no invitation along. `GroupDisband` has that rule for the
last member of a group. Nothing has it for an author who leaves others behind
(`not_authorised_staleJoin`); in a run where no such author leaves with an invitation still
stored, every admission is authorised by the group that is joined (`authorised_run`).
-/

namespace DaraChat

open GroupContainer

namespace Server

/-! ## Invitations and admissions -/

/-- The character `n` is the leader of the group `g`. -/
def Leads (s : Server) (n g : Str) : Prop :=
  ∃ m ∈ s.groupContainer.entriesOf g, m.name = n ∧ m.isLeader = true

/-- The frame `cmd`, which leads from `s` to `s'`, is an accepted `GroupInvite`: the invitation
is stored, with its sender, its recipient and the time. -/
def Issues (s s' : Server) (cmd : ChatCommand) (inv : GroupInviteData) : Prop :=
  cmd.chatMsg.type = .groupInvite ∧
    inv = ⟨cmd.sock.data.name, cmd.chatMsg.recipient, cmd.env.time⟩ ∧
    s'.groupContainer.myInvites =
      (s.groupContainer.removeOldInvites cmd.env.time).myInvites ++ [inv]

/-- The frame `cmd` is a `GroupJoin` that adds its sender to the group `g`. -/
def Admits (s s' : Server) (cmd : ChatCommand) (g : Str) : Prop :=
  cmd.chatMsg.type = .groupJoin ∧ g ≠ [] ∧
    s.groupContainer.groupIdOf cmd.sock.data.name ≠ g ∧
    s'.groupContainer.groupIdOf cmd.sock.data.name = g

/-- The frame `cmd` is a successful join by the invitation. -/
def Consumes (s s' : Server) (cmd : ChatCommand) (inv : GroupInviteData) : Prop :=
  cmd.sock.data.name = inv.memberName ∧ cmd.chatMsg.recipient = inv.leaderName ∧
    ∃ g, Admits s s' cmd g

/-- In the run of `evs` the invitation was issued by the leader of the group `g` at that moment,
and no join has consumed it since. -/
def Issued (cfg : Config) (evs : List Event) (inv : GroupInviteData) (g : Str) : Prop :=
  (machine cfg).Since
    (fun s e => ∃ cmd ∈ s.chatCommand e, Issues s (s.step cfg e) cmd inv ∧
      (s.step cfg e).Leads inv.leaderName g)
    (fun s e => ∀ cmd ∈ s.chatCommand e, ¬ Consumes s (s.step cfg e) cmd inv) evs

/-- Every join of the run is by an invitation to the joining character that is at most 180
seconds old, was issued by the then leader of the group that is joined, and is not consumed. -/
def Authorised (cfg : Config) (evs : List Event) : Prop :=
  ∀ pre e post, evs = pre ++ e :: post →
    ∀ cmd ∈ ((machine cfg).run pre).chatCommand e, ∀ g,
      Admits ((machine cfg).run pre) (((machine cfg).run pre).step cfg e) cmd g →
      ∃ inv, inv.memberName = cmd.sock.data.name ∧ cmd.env.time - inv.storeTime ≤ 180 ∧
        Issued cfg pre inv g

instance (s : Server) (n g : Str) : Decidable (s.Leads n g) :=
  inferInstanceAs (Decidable (∃ m ∈ _, _))

instance (s s' : Server) (cmd : ChatCommand) (g : Str) : Decidable (Admits s s' cmd g) :=
  inferInstanceAs (Decidable (_ ∧ _))

/-! ## Under which conditions -/

/-- The recipient of a `GroupInvite` frame. -/
def inviting (s : Server) (e : Event) : Option Str :=
  match s.chatCommand e with
  | none => none
  | some cmd => if cmd.chatMsg.type = .groupInvite then some cmd.chatMsg.recipient else none

/-- The characters that have been logged in before some step of the run. -/
def charactersInPlay (cfg : Config) (evs : List Event) : List Str :=
  (machine cfg).collect (fun s _ => s.activeSessions.keys) evs

/-- The recipients of the run's `GroupInvite` frames. -/
def recipients (cfg : Config) (evs : List Event) : List Str :=
  (machine cfg).collect (fun s e => (s.inviting e).toList) evs

/-- `strcasecmp` tells the characters in play apart, and a recipient that it takes for one of
them is spelled like it. -/
def NamesDistinct (cfg : Config) (evs : List Event) : Prop :=
  ∀ n ∈ charactersInPlay cfg evs, ∀ n' ∈ charactersInPlay cfg evs ++ recipients cfg evs,
    strcasecmpEq n' n = true → n' = n

instance (cfg : Config) (evs : List Event) : Decidable (NamesDistinct cfg evs) :=
  inferInstanceAs (Decidable (∀ n ∈ _, ∀ n' ∈ _, _ → _))

/-- A `GroupDisband` frame of a character who is not alone in its group finds no invitation by
that character. -/
def TakesNoInvite (s : Server) (e : Event) : Prop :=
  ∀ cmd ∈ s.chatCommand e, cmd.chatMsg.type = .groupDisband → cmd.sock.data.groupId ≠ [] →
    (s.groupContainer.getGroupInfo cmd.sock.data.name).memberCount ≠ 1 →
    ∀ inv ∈ s.groupContainer.myInvites, inv.leaderName ≠ cmd.sock.data.name

instance (s : Server) (e : Event) : Decidable (TakesNoInvite s e) :=
  inferInstanceAs (Decidable (∀ cmd ∈ s.chatCommand e, _ → _ → _ → ∀ inv ∈ _, _))

/-! ## What one event does to a stored invitation -/

/-- The invitation was stored before, its author's group is the same, and it is not consumed. -/
def Keeps (cfg : Config) (s : Server) (e : Event) (inv : GroupInviteData) : Prop :=
  inv ∈ s.groupContainer.myInvites ∧
    (s.step cfg e).groupContainer.groupIdOf inv.leaderName =
      s.groupContainer.groupIdOf inv.leaderName ∧
    ∀ cmd ∈ s.chatCommand e, ¬ Consumes s (s.step cfg e) cmd inv

/-- The invitation is new, and its author leads a group. -/
def Stores (cfg : Config) (s : Server) (e : Event) (inv : GroupInviteData) : Prop :=
  (s.step cfg e).groupContainer.groupIdOf inv.leaderName ≠ [] ∧
    ∃ cmd ∈ s.chatCommand e, Issues s (s.step cfg e) cmd inv ∧
      (s.step cfg e).Leads inv.leaderName
        ((s.step cfg e).groupContainer.groupIdOf inv.leaderName)

section Step

variable {s : Server} {e : Event} {cmd : ChatCommand} {inv : GroupInviteData}

/-- Only `GroupJoin` frames consume. -/
theorem not_consumes_of_type {s' : Server} (hcmd : s.chatCommand e = some cmd)
    (htype : cmd.chatMsg.type ≠ .groupJoin) : ∀ cmd ∈ s.chatCommand e, ¬ Consumes s s' cmd inv := by
  rintro cmd' hcmd' ⟨-, -, g, hjoin, -⟩
  obtain rfl := Option.mem_unique hcmd hcmd'
  exact htype hjoin

/-- Without a group command, invitations stay and so do the names and ids of the entries. -/
theorem frame_of_not_groupCommand (cfg : Config)
    (h : ∀ cmd ∈ s.chatCommand e, ¬ IsGroupCommand cmd.chatMsg.type) :
    (s.step cfg e).groupContainer.keys = s.groupContainer.keys ∧
      (s.step cfg e).groupContainer.myInvites = s.groupContainer.myInvites := by
  have hallows : Guard.Allows { commands := False } cfg s e :=
    { allows_any cfg s e with commands := h }
  refine step_of_move (I := fun s' => s'.groupContainer.keys = s.groupContainer.keys ∧
    s'.groupContainer.myInvites = s.groupContainer.myInvites) (fun hm hi => ?_) cfg hallows
    ⟨rfl, rfl⟩
  obtain ⟨hkeys, hinvites⟩ := hi
  cases hm with
  | opened | retired | stored | removed | relayed | forwarded | broadcast | sent =>
      exact ⟨hkeys, hinvites⟩
  -- the presence updates rewrite entries, but neither their names nor their ids
  | withdrawn env ws sock =>
      rw [sendIf_groupContainer]
      refine ⟨(keys_setMemberOnline ..).trans hkeys, Eq.trans ?_ hinvites⟩
      rw [withdraw, setGroups_groupContainer, setMemberOnline_eq]
      rfl
  | enrolled env ws sock login =>
      rw [sendIf_groupContainer]
      refine ⟨(keys_setMemberOnline ..).trans hkeys, Eq.trans ?_ hinvites⟩
      rw [enroll, setSocket_groupContainer, setGroups_groupContainer, setMemberOnline_eq]
      rfl
  | alive env ws sock member => exact ⟨(keys_aliveMsg ..).trans hkeys, hinvites⟩
  | left _ _ _ hcommands => exact hcommands.elim
  | disbanded _ _ _ hcommands => exact hcommands.elim
  | founded _ _ _ _ hcommands => exact hcommands.elim
  | admitted _ _ _ _ _ hcommands => exact hcommands.elim
  | invited _ _ _ _ _ hcommands => exact hcommands.elim
  | pruned _ hcommands => exact hcommands.elim

/-- `GroupInvite` stores one invitation at most, and only by a leader. -/
theorem inviteToGroup_stored {s : Server} {env : Env} {chatMsg : FDaraChatMsg}
    (h : inv ∈ (inviteToGroup env s chatMsg).groupContainer.myInvites) :
    inv ∈ s.groupContainer.myInvites ∨
      (s.groupContainer.getGroupInfo chatMsg.sender).isLeader = true ∧
        inv = ⟨chatMsg.sender, chatMsg.recipient, env.time⟩ ∧
        (inviteToGroup env s chatMsg).groupContainer.myInvites =
          (s.groupContainer.removeOldInvites env.time).myInvites ++ [inv] := by
  rcases inviteToGroup_cases env s chatMsg with heq | ⟨hsuccess, heq⟩
  · rw [heq] at h
    exact Or.inl h
  · rw [heq] at h ⊢
    rcases List.mem_append.mp h with hold | hnew
    · exact Or.inl (List.mem_of_mem_filter hold)
    · have hinv : inv = ⟨chatMsg.sender, chatMsg.recipient, env.time⟩ := List.mem_singleton.mp hnew
      refine Or.inr ⟨groupInvite_success hsuccess, hinv, ?_⟩
      rw [hinv]
      rfl

theorem stored_groupInvite (cfg : Config) (hcmd : s.chatCommand e = some cmd)
    (htype : cmd.chatMsg.type = .groupInvite)
    (hgrouped : ∀ inv ∈ s.groupContainer.myInvites,
      s.groupContainer.groupIdOf inv.leaderName ≠ [])
    (hinv : inv ∈ (s.step cfg e).groupContainer.myInvites) :
    Keeps cfg s e inv ∨ Stores cfg s e inv := by
  obtain ⟨-, hsender, -⟩ := chatCommand_eq_some hcmd
  have hstep := step_of_groupInvite cfg hcmd htype
  have hnot : ∀ cmd ∈ s.chatCommand e, ¬ Consumes s (s.step cfg e) cmd inv :=
    not_consumes_of_type hcmd (by simp [htype])
  -- the state in which the sender has a group, founded for the occasion or not
  have hinvites : ∀ s₁ : Server, s₁.groupContainer.myInvites = s.groupContainer.myInvites →
      (∀ n, s.groupContainer.groupIdOf n ≠ [] →
        s₁.groupContainer.groupIdOf n = s.groupContainer.groupIdOf n) →
      s.step cfg e = inviteToGroup cmd.env s₁ cmd.chatMsg →
      Keeps cfg s e inv ∨ Stores cfg s e inv := by
    intro s₁ hsame hgroups heq
    have hmyGroups := (inviteToGroup_frame cmd.env s₁ cmd.chatMsg).2
    have hafter : ∀ n, (s.step cfg e).groupContainer.groupIdOf n =
        s₁.groupContainer.groupIdOf n := fun n => by
      rw [heq]
      exact groupIdOf_of_myGroups hmyGroups n
    rw [heq] at hinv
    rcases inviteToGroup_stored hinv with hold | ⟨hlead, hnew, hstored⟩
    · rw [hsame] at hold
      exact Or.inl ⟨hold, (hafter _).trans (hgroups _ (hgrouped inv hold)), hnot⟩
    · have hname : inv.leaderName = cmd.chatMsg.sender := by rw [hnew]
      obtain ⟨hne, m, hm, hmname, hmlead⟩ := mem_of_getGroupInfo_isLeader hlead
      refine Or.inr ⟨?_, cmd, hcmd, ⟨htype, ?_, ?_⟩, m, ?_, ?_, hmlead⟩
      · rwa [hafter, hname]
      · rw [hnew, hsender]
      · rw [heq, hstored, removeOldInvites, removeOldInvites, hsame]
      · rw [hafter, hname, heq, entriesOf_congr hmyGroups]
        exact hm
      · rw [hmname, hname]
  rcases handleGroupInvite_cases cmd.env cmd.ws hsender with heq | ⟨-, hnone, heq⟩ | ⟨-, heq⟩
  · have hsame : s.step cfg e = s := hstep.trans heq
    rw [hsame] at hinv
    exact Or.inl ⟨hinv, by rw [hsame], hnot⟩
  · refine hinvites (s.foundGroup cmd.env cmd.ws cmd.sock) rfl (fun n hn => ?_) (hstep.trans heq)
    have hne : n ≠ (founder cmd.env.time cmd.env.uuid cmd.sock.data.name).name :=
      fun hname => hn (by rw [hname]; exact hnone)
    exact groupIdOf_append_ne hne
  · exact hinvites s rfl (fun _ _ => rfl) (hstep.trans heq)

/-- A join neither admits nor consumes when the character stays where it is. -/
theorem not_consumes_of_same {s' : Server} (hcmd : s.chatCommand e = some cmd)
    (hsame : s'.groupContainer.groupIdOf cmd.sock.data.name =
      s.groupContainer.groupIdOf cmd.sock.data.name) :
    ∀ cmd ∈ s.chatCommand e, ¬ Consumes s s' cmd inv := by
  rintro cmd' hcmd' ⟨-, -, g, -, -, hbefore, hafter⟩
  obtain rfl := Option.mem_unique hcmd hcmd'
  exact hbefore (hsame.symm.trans hafter)

/-- Where a `GroupJoin` comes to its join, the others are in their groups as before it. -/
theorem Admission.groupIdOf {s₁ : Server} {sock : Socket} (h : s.Admission cmd s₁ sock) {n : Str}
    (hn : n ≠ cmd.sock.data.name) :
    s₁.groupContainer.groupIdOf n = s.groupContainer.groupIdOf n := by
  rcases h.prepared with ⟨rfl, -⟩ | ⟨-, rfl, -⟩
  · rfl
  · exact (groupIdOf_groupDisband ..).trans (if_neg hn)

/-- And the invitations are stored ones, none of them by the joining character. -/
theorem Admission.invite {s₁ : Server} {sock : Socket} (h : s.Admission cmd s₁ sock)
    (hs : s.Consistent)
    (hgrouped : ∀ inv ∈ s.groupContainer.myInvites,
      s.groupContainer.groupIdOf inv.leaderName ≠ [])
    (hinv : inv ∈ s₁.groupContainer.myInvites) :
    inv ∈ s.groupContainer.myInvites ∧ inv.leaderName ≠ cmd.sock.data.name := by
  rcases h.prepared with ⟨rfl, rfl⟩ | ⟨hone, rfl, -⟩
  · have hold : inv ∈ s.groupContainer.myInvites := List.mem_of_mem_filter hinv
    refine ⟨hold, fun hname => hgrouped inv hold ?_⟩
    rw [hname, ← hs.groupId (h.session.of_sockets rfl)]
    exact h.free
  · have hleft : inv ∈ ((s.prune cmd.env).groupContainer.groupDisband
        cmd.sock.data.name).2.myInvites := hinv
    have hsolo : ((s.prune cmd.env).groupContainer.getGroupInfo
        cmd.sock.data.name).memberCount = 1 := hone
    rw [groupDisband_myInvites, if_pos hsolo, List.mem_filter, decide_eq_true_eq] at hleft
    exact ⟨List.mem_of_mem_filter hleft.1, hleft.2⟩

theorem stored_groupJoin (cfg : Config) (hs : s.Consistent) (hcmd : s.chatCommand e = some cmd)
    (htype : cmd.chatMsg.type = .groupJoin)
    (hgrouped : ∀ inv ∈ s.groupContainer.myInvites,
      s.groupContainer.groupIdOf inv.leaderName ≠ [])
    (hinv : inv ∈ (s.step cfg e).groupContainer.myInvites) : Keeps cfg s e inv := by
  rcases groupJoin_cases cfg hs hcmd htype with ⟨-, heq⟩ | ⟨s₁, sock, hadm, -, heq⟩
  · -- outdated invitations are dropped, and nothing else
    refine ⟨?_, by rw [heq]; rfl, not_consumes_of_same hcmd (by rw [heq]; rfl)⟩
    rw [heq] at hinv
    exact List.mem_of_mem_filter hinv
  · have hremoved : inv ∈ s₁.groupContainer.myInvites ∧
        ¬ (inv.leaderName = cmd.chatMsg.recipient ∧ inv.memberName = sock.data.name) := by
      rw [heq] at hinv
      have hfilter := List.mem_filter.mp hinv
      rw [decide_eq_true_eq] at hfilter
      exact hfilter
    obtain ⟨hold, hunused⟩ := hremoved
    obtain ⟨hbefore, hother⟩ := hadm.invite hs hgrouped hold
    refine ⟨hbefore, ?_, ?_⟩
    · have hjoined : inv.leaderName ≠ (joiner cmd.env.time sock.data.name
          (s₁.groupContainer.groupIdOf cmd.chatMsg.recipient)).name := by
        rw [← hadm.name] at hother
        exact hother
      calc (s.step cfg e).groupContainer.groupIdOf inv.leaderName
          = s₁.groupContainer.groupIdOf inv.leaderName := by
            rw [heq]
            exact groupIdOf_append_ne hjoined
        _ = s.groupContainer.groupIdOf inv.leaderName := hadm.groupIdOf hother
    · -- the invitation that is used is removed
      rintro cmd' hcmd' ⟨hmember, hleader, -⟩
      obtain rfl := Option.mem_unique hcmd hcmd'
      exact hunused ⟨hleader.symm, by rw [hadm.name, hmember]⟩

theorem stored_groupDisband (cfg : Config) (hcmd : s.chatCommand e = some cmd)
    (htype : cmd.chatMsg.type = .groupDisband)
    (htakes : TakesNoInvite s e) (hinv : inv ∈ (s.step cfg e).groupContainer.myInvites) :
    Keeps cfg s e inv := by
  have heq := container_of_groupDisband cfg hcmd htype
  have hnot : ∀ cmd ∈ s.chatCommand e, ¬ Consumes s (s.step cfg e) cmd inv :=
    not_consumes_of_type hcmd (by simp [htype])
  by_cases hgroup : cmd.sock.data.groupId = []
  · rw [if_pos hgroup] at heq
    rw [heq] at hinv
    exact ⟨hinv, by rw [heq], hnot⟩
  · rw [if_neg hgroup] at heq
    rw [heq, groupDisband_myInvites] at hinv
    have hkept : inv ∈ s.groupContainer.myInvites ∧ inv.leaderName ≠ cmd.sock.data.name := by
      by_cases hone : (s.groupContainer.getGroupInfo cmd.sock.data.name).memberCount = 1
      · rw [if_pos hone, List.mem_filter, decide_eq_true_eq] at hinv
        exact hinv
      · -- nothing is purged here, so there has to be nothing to purge
        rw [if_neg hone] at hinv
        exact ⟨hinv, htakes cmd hcmd htype hgroup hone inv hinv⟩
    refine ⟨hkept.1, ?_, hnot⟩
    rw [heq]
    exact (groupIdOf_groupDisband ..).trans (if_neg hkept.2)

/-- **What one event does to a stored invitation**: it keeps it, for the same group of its
author, or it is the one that has stored it. -/
theorem stored_step (cfg : Config) (hs : s.Consistent) (htakes : TakesNoInvite s e)
    (hgrouped : ∀ inv ∈ s.groupContainer.myInvites,
      s.groupContainer.groupIdOf inv.leaderName ≠ [])
    (hinv : inv ∈ (s.step cfg e).groupContainer.myInvites) :
    Keeps cfg s e inv ∨ Stores cfg s e inv := by
  by_cases hcommand : ∃ cmd ∈ s.chatCommand e, IsGroupCommand cmd.chatMsg.type
  · obtain ⟨cmd, hcmd, htype | htype | htype⟩ := hcommand
    · exact stored_groupInvite cfg hcmd htype hgrouped hinv
    · exact Or.inl (stored_groupJoin cfg hs hcmd htype hgrouped hinv)
    · exact Or.inl (stored_groupDisband cfg hcmd htype htakes hinv)
  · have hno : ∀ cmd ∈ s.chatCommand e, ¬ IsGroupCommand cmd.chatMsg.type :=
      fun cmd hcmd htype => hcommand ⟨cmd, hcmd, htype⟩
    obtain ⟨hkeys, hinvites⟩ := frame_of_not_groupCommand cfg hno
    rw [hinvites] at hinv
    refine Or.inl ⟨hinv, groupIdOf_of_keys hkeys _, ?_⟩
    rintro cmd hcmd ⟨-, -, g, hjoin, -⟩
    exact hno cmd hcmd (Or.inr (Or.inl hjoin))

end Step

/-! ## Runs -/

/-- Every stored invitation was issued for the group that its author is in. -/
def Traced (cfg : Config) (evs : List Event) (s : Server) : Prop :=
  ∀ inv ∈ s.groupContainer.myInvites, s.groupContainer.groupIdOf inv.leaderName ≠ [] ∧
    Issued cfg evs inv (s.groupContainer.groupIdOf inv.leaderName)

theorem traced_run (cfg : Config) :
    ∀ evs, (machine cfg).Along TakesNoInvite evs → Traced cfg evs ((machine cfg).run evs) := by
  refine (machine cfg).along_induction (fun inv hinv => nomatch hinv) ?_
  intro evs e _ htakes ih inv hinv
  have hs := consistent_run cfg evs
  rcases stored_step cfg hs htakes (fun inv hold => (ih inv hold).1) hinv with
    ⟨hold, hsame, hunused⟩ | ⟨hne, hissued⟩
  · obtain ⟨hne, hissued⟩ := ih inv hold
    have hgroup : ((machine cfg).step ((machine cfg).run evs) e).groupContainer.groupIdOf
        inv.leaderName = ((machine cfg).run evs).groupContainer.groupIdOf inv.leaderName := hsame
    rw [hgroup]
    exact ⟨hne, hissued.snoc hunused⟩
  · exact ⟨hne, Machine.since_last hissued⟩

section Names

variable {cfg : Config} {pre post : List Event} {e : Event}

/-- The sender of a chat command is in play. -/
theorem mem_charactersInPlay {cmd : ChatCommand}
    (h : ((machine cfg).run pre).chatCommand e = some cmd) :
    cmd.sock.data.name ∈ charactersInPlay cfg (pre ++ e :: post) := by
  obtain ⟨hsession, -, -⟩ := chatCommand_eq_some h
  have hreg := (consistent_run cfg pre).registry.mem_keys hsession
  exact (machine cfg).mem_collect.mpr ⟨pre, e, post, rfl, hreg⟩

theorem mem_recipients {cmd : ChatCommand}
    (h : ((machine cfg).run pre).chatCommand e = some cmd)
    (htype : cmd.chatMsg.type = .groupInvite) :
    cmd.chatMsg.recipient ∈ recipients cfg (pre ++ e :: post) := by
  refine (machine cfg).mem_collect.mpr ⟨pre, e, post, rfl, ?_⟩
  rw [Option.mem_toList, inviting, h]
  exact if_pos htype

/-- Entries get their names from the sockets that enter. -/
theorem Move.named {names : List Str} {s s' : Server}
    (hm : Move { enters := fun _ sock => sock.data.name ∈ names } s s')
    (h : ∀ p ∈ s.groupContainer.keys, p.1 ∈ names) :
    ∀ p ∈ s'.groupContainer.keys, p.1 ∈ names := by
  -- only the two moves that append an entry bring a name, and the guard answers for it
  have happend : ∀ m : GroupMember, m.name ∈ names →
      ∀ p ∈ (s.groupContainer.append m).keys, p.1 ∈ names := by
    intro m hm p hp
    rw [keys_append_member, List.mem_append] at hp
    rcases hp with hp | hp
    · exact h p hp
    · rw [List.mem_singleton.mp hp]
      exact hm
  have herase : ∀ n, ∀ p ∈ (s.groupContainer.groupDisband n).2.keys, p.1 ∈ names := by
    intro n p hp
    rw [keys_groupDisband] at hp
    exact h p ((keys_eraseMember_sublist n).subset hp)
  cases hm with
  | opened | retired | stored | removed | relayed | forwarded | broadcast | sent | invited |
    pruned => exact h
  | withdrawn env ws sock =>
      rw [sendIf_groupContainer]
      intro p hp
      exact h p (by rwa [withdraw, setGroups_groupContainer, keys_setMemberOnline] at hp)
  | enrolled env ws sock login =>
      rw [sendIf_groupContainer]
      intro p hp
      exact h p (by
        rwa [enroll, setSocket_groupContainer, setGroups_groupContainer, keys_setMemberOnline] at hp)
  | alive env ws sock member =>
      intro p hp
      exact h p (by rwa [setGroups_groupContainer, keys_aliveMsg] at hp)
  | left ws sock => exact herase sock.data.name
  | disbanded ws sock => exact herase sock.data.name
  | founded env ws sock _ _ _ _ henters => exact happend (founder ..) henters
  | admitted env ws sock inviter _ _ _ _ henters => exact happend (joiner ..) henters

/-- Entries belong to characters in play. -/
theorem entries_inPlay (cfg : Config) (evs : List Event) :
    ∀ p ∈ ((machine cfg).run evs).groupContainer.keys, p.1 ∈ charactersInPlay cfg evs := by
  refine (machine cfg).history_induction
    (P := fun evs s => ∀ p ∈ s.groupContainer.keys, p.1 ∈ charactersInPlay cfg evs)
    (fun p hp => nomatch hp) (fun evs e ih => ?_) evs
  have hs := consistent_run cfg evs
  have hallows : Guard.Allows
      { enters := fun _ sock => sock.data.name ∈ charactersInPlay cfg (evs ++ [e]) }
      cfg ((machine cfg).run evs) e := by
    refine { allows_any cfg _ e with enters := fun p hp => ?_ }
    obtain ⟨cmd, -, hcmd, -, -, -, hsock, -⟩ := step_entering cfg hs hp
    have hname : p.2.data.name = cmd.sock.data.name := by
      rcases hsock with hsock | hsock
      · rw [hsock]
      · rw [hsock]
        exact (Socket.sameSession_removeGroupSubscription cmd.sock).name
    show p.2.data.name ∈ charactersInPlay cfg (evs ++ [e])
    rw [hname]
    exact mem_charactersInPlay hcmd
  exact step_of_move (I := fun s => ∀ p ∈ s.groupContainer.keys, _) Move.named cfg hallows
    fun p hp => (machine cfg).collect_subset_append _ evs [e] (ih p hp)

end Names

/-- **Admission is authorised by the group that is joined**, in every run in which no author of a
stored invitation leaves others behind in its group. -/
theorem authorised_run (cfg : Config) (evs : List Event) (hnames : NamesDistinct cfg evs)
    (htakes : (machine cfg).Along TakesNoInvite evs) : Authorised cfg evs := by
  rintro pre e post rfl cmd hcmd g ⟨htype, -, hbefore, hafter⟩
  have hs := consistent_run cfg pre
  have htraced := traced_run cfg pre (((machine cfg).alongFrom_append _ _ pre _).mp htakes).1
  rcases groupJoin_cases cfg hs hcmd htype with ⟨-, heq⟩ | ⟨s₁, sock, hadm, -, heq⟩
  · -- nobody is admitted
    refine absurd ?_ hbefore
    rw [← hafter, heq]
    rfl
  obtain ⟨inv, hinv, hmatch⟩ := List.any_eq_true.mp hadm.invited
  obtain ⟨hold, hyoung⟩ := List.mem_filter.mp hinv
  obtain ⟨hleader, hmember⟩ := Bool.and_eq_true_iff.mp hmatch
  obtain ⟨hne, hissued⟩ := htraced inv hold
  obtain ⟨pre', e', post', rfl, cmd', hcmd', ⟨htype', hinvited, -⟩, -⟩ := hissued.exists_step
  -- the names are spelled alike
  have hrecipient : cmd.chatMsg.recipient ∈
      charactersInPlay cfg (pre' ++ e' :: post' ++ e :: post) := by
    have hgrouped := hadm.canJoin.leader_grouped
    rw [hadm.target] at hgrouped
    obtain ⟨m, hm, hmname, -⟩ := exists_mem_of_groupIdOf hgrouped
    rw [← hmname]
    exact (machine cfg).collect_subset_append _ _ _
      (entries_inPlay cfg _ (m.name, m.groupId) (List.mem_map_of_mem hm))
  have hauthor : inv.leaderName ∈ charactersInPlay cfg (pre' ++ e' :: post' ++ e :: post) := by
    rw [hinvited]
    exact (machine cfg).collect_subset_append _ _ _ (mem_charactersInPlay hcmd')
  have hguest : inv.memberName ∈ recipients cfg (pre' ++ e' :: post' ++ e :: post) := by
    rw [hinvited]
    exact (machine cfg).collect_subset_append _ _ _ (mem_recipients hcmd' htype')
  have hleaderName := hnames _ hrecipient _ (List.mem_append_left _ hauthor) hleader
  have hmemberName :=
    hnames _ (mem_charactersInPlay hcmd) _ (List.mem_append_right _ hguest) hmember
  -- the group that is joined is the one that the author is in
  have hgroup : g = ((machine cfg).run (pre' ++ e' :: post')).groupContainer.groupIdOf
      inv.leaderName := by
    obtain ⟨g', ⟨m, hm, hmname, rfl⟩, ⟨m', hm', hmname', hsame⟩, -⟩ := hadm.joined
    rw [← heq] at hm'
    have hnodup' := (consistent_step cfg (e := e) hs).presence.sound.namesNodup
    have hnodup := hs.presence.sound.namesNodup
    calc g
        = m'.groupId := by rw [← hafter, ← hmname', groupIdOf_eq_of_mem hnodup' hm']
      _ = m.groupId := hsame
      _ = ((machine cfg).run (pre' ++ e' :: post')).groupContainer.groupIdOf inv.leaderName := by
          rw [hleaderName, ← hmname, groupIdOf_eq_of_mem hnodup hm]
  refine ⟨inv, hmemberName, ?_, by rwa [hgroup]⟩
  have hage : ¬ cmd.env.time - inv.storeTime > 180 := of_decide_eq_true hyoung
  exact not_lt.mp hage

/-- Trula's join is authorised by the leader of the group. -/
theorem authorised_joinEvents :
    ((machine sampleConfig).run joinEvents).groupContainer.groupIdOf "Trula".toList =
        "group_a".toList ∧
      Authorised sampleConfig joinEvents := by
  have hrun : NamesDistinct sampleConfig joinEvents ∧
      (machine sampleConfig).Along TakesNoInvite joinEvents ∧
      ((machine sampleConfig).run joinEvents).groupContainer.groupIdOf "Trula".toList =
        "group_a".toList := by
    decide +kernel
  exact ⟨hrun.2.2, authorised_run sampleConfig joinEvents hrun.1 hrun.2.1⟩

/-! ## An invitation that outlives the group -/

/-- Tirio invites Ulf, leaves the group to Trula, and founds another. -/
def leaderLeavesEvents : List Event :=
  loginEvents 1 tirio ++ loginEvents 2 trula ++ loginEvents 3 ulf ++
    [ .text (sampleEnv 1001 "a") 1 "GroupInvite:Tirio:Trula:".toList
    , .text (sampleEnv 1002 "") 2 "GroupJoin:Trula:Tirio:".toList
    , .text (sampleEnv 1003 "") 1 "GroupInvite:Tirio:Ulf:".toList
    , .text (sampleEnv 1004 "") 1 "GroupDisband:Tirio::".toList
    , .text (sampleEnv 1005 "b") 1 "GroupInvite:Tirio:Trula:".toList ]

/-- Ulf accepts. -/
def staleJoin : Event := .text (sampleEnv 1006 "") 3 "GroupJoin:Ulf:Tirio:".toList

/-- The frame is an invitation to Ulf from the leader of the second group. -/
def InvitesUlf (s : Server) (e : Event) : Prop :=
  ∃ cmd ∈ s.chatCommand e, cmd.chatMsg.type = .groupInvite ∧
    cmd.chatMsg.recipient = "Ulf".toList ∧
    (s.step sampleConfig e).Leads cmd.sock.data.name "group_b".toList

instance (s : Server) (e : Event) : Decidable (InvitesUlf s e) :=
  inferInstanceAs (Decidable (∃ cmd ∈ s.chatCommand e, _ ∧ _ ∧ _))

/-- **An invitation follows its author into another group**: Ulf is admitted to the second group,
and nobody has invited Ulf to it. -/
theorem not_authorised_staleJoin :
    NamesDistinct sampleConfig (leaderLeavesEvents ++ [staleJoin]) ∧
      ¬ Authorised sampleConfig (leaderLeavesEvents ++ [staleJoin]) := by
  have hrun : NamesDistinct sampleConfig (leaderLeavesEvents ++ [staleJoin]) ∧
      (machine sampleConfig).Along (fun s e => ¬ InvitesUlf s e) leaderLeavesEvents ∧
      ∃ cmd ∈ ((machine sampleConfig).run leaderLeavesEvents).chatCommand staleJoin,
        cmd.sock.data.name = "Ulf".toList ∧
          Admits ((machine sampleConfig).run leaderLeavesEvents)
            (((machine sampleConfig).run leaderLeavesEvents).step sampleConfig staleJoin) cmd
            "group_b".toList := by
    decide +kernel
  obtain ⟨hnames, hnever, cmd, hcmd, hname, hadmit⟩ := hrun
  refine ⟨hnames, fun h => ?_⟩
  obtain ⟨inv, hmember, -, hissued⟩ := h leaderLeavesEvents staleJoin [] rfl cmd hcmd _ hadmit
  obtain ⟨pre, e, post, hevs, cmd', hcmd', ⟨htype, hinv, -⟩, hleads⟩ := hissued.exists_step
  refine ((machine sampleConfig).along_iff _ _).mp hnever pre e post hevs ⟨cmd', hcmd', htype, ?_⟩
  rw [hinv] at hmember hleads
  exact ⟨hmember.trans hname, hleads⟩

end Server

end DaraChat
