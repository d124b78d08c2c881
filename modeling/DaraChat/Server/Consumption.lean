import DaraChat.Server.Authorisation

set_option autoImplicit false

/-! # One invitation, one join

A join uses its invitation up: `RemoveInvite` removes the invitations from the inviter to the
character that joins. It compares both names as they are spelled, while `CheckHasInvited`, which has
let the character in, compares them with `strcasecmp`. So an invitation that is spelled otherwise
stays and admits again (`not_goodForOneJoin_respelled`); in a run in which every join is by
invitations that are spelled like the names in play, each is good for one join
(`goodForOneJoin_run`).
-/

namespace DaraChat

open GroupContainer

namespace Server

/-! ## Joins and what they use -/

/-- The frame `cmd` is a `GroupJoin` by which `m` joins the group of `i`. -/
def Joins (s s' : Server) (cmd : ChatCommand) (i m : Str) : Prop :=
  cmd.chatMsg.recipient = i ∧ cmd.sock.data.name = m ∧ ∃ g, Admits s s' cmd g

/-- In the run of `evs` the character `i` has sent a `GroupInvite` for `m`, in whatever spelling, and
`m` has not joined its group since. -/
def InvitedSince (cfg : Config) (evs : List Event) (i m : Str) : Prop :=
  (machine cfg).Since
    (fun s e => ∃ cmd ∈ s.chatCommand e, cmd.chatMsg.type = .groupInvite ∧
      cmd.sock.data.name = i ∧ strcasecmpEq cmd.chatMsg.recipient m = true)
    (fun s e => ∀ cmd ∈ s.chatCommand e, ¬ Joins s (s.step cfg e) cmd i m) evs

/-- After every join of `m` to the group of `i` there is no invitation from `i` to `m`; and it has
been let in only because `i` has sent it a `GroupInvite` since any earlier one. -/
def GoodForOneJoin (cfg : Config) (evs : List Event) : Prop :=
  ∀ pre e post, evs = pre ++ e :: post →
    ∀ cmd ∈ ((machine cfg).run pre).chatCommand e, ∀ i m,
      Joins ((machine cfg).run pre) (((machine cfg).run pre).step cfg e) cmd i m →
      (((machine cfg).run pre).step cfg e).groupContainer.checkHasInvited i m = false ∧
        InvitedSince cfg pre i m

/-- The invitations that are stored when a `GroupJoin` frame comes to its join: not the outdated
ones, and not those by a sender who leaves a solo group for it. -/
def invitesAtJoin (s : Server) (cmd : ChatCommand) : List GroupInviteData :=
  let c := s.groupContainer.removeOldInvites cmd.env.time
  if (c.getGroupInfo cmd.sock.data.name).memberCount = 1 then
    (c.groupDisband cmd.sock.data.name).2.myInvites
  else c.myInvites

/-- `strcasecmp` takes the invitation for one from `i` to `m`. -/
def TakenFor (inv : GroupInviteData) (i m : Str) : Prop :=
  strcasecmpEq inv.leaderName i = true ∧ strcasecmpEq inv.memberName m = true

/-- At a `GroupJoin` frame that joins, there are invitations that `strcasecmp` takes for one from
the recipient to the sender, and all of them are spelled so. -/
def SpelledAlike (s : Server) (e : Event) : Prop :=
  ∀ cmd ∈ s.chatCommand e, cmd.chatMsg.type = .groupJoin → (s.entering e).isSome = true →
    (∃ inv ∈ s.invitesAtJoin cmd, TakenFor inv cmd.chatMsg.recipient cmd.sock.data.name) ∧
    ∀ inv ∈ s.invitesAtJoin cmd, TakenFor inv cmd.chatMsg.recipient cmd.sock.data.name →
      inv.leaderName = cmd.chatMsg.recipient ∧ inv.memberName = cmd.sock.data.name

instance (inv : GroupInviteData) (i m : Str) : Decidable (TakenFor inv i m) :=
  inferInstanceAs (Decidable (_ ∧ _))

instance (s : Server) (e : Event) : Decidable (SpelledAlike s e) :=
  inferInstanceAs (Decidable (∀ cmd ∈ s.chatCommand e, _ → _ → (∃ inv ∈ _, _) ∧ ∀ inv ∈ _, _ → _))

section Step

variable {s : Server} {e : Event} {cmd : ChatCommand} {inv : GroupInviteData}

theorem checkHasInvited_eq_false {c : GroupContainer} {i m : Str} :
    c.checkHasInvited i m = false ↔ ∀ inv ∈ c.myInvites, ¬ TakenFor inv i m := by
  simp [checkHasInvited, TakenFor]

theorem invitesAtJoin_subset (s : Server) (cmd : ChatCommand) :
    s.invitesAtJoin cmd ⊆ s.groupContainer.myInvites := by
  have hpruned : (s.groupContainer.removeOldInvites cmd.env.time).myInvites ⊆
      s.groupContainer.myInvites := List.filter_subset_self _
  by_cases hone : ((s.groupContainer.removeOldInvites cmd.env.time).getGroupInfo
      cmd.sock.data.name).memberCount = 1
  · simp only [invitesAtJoin, if_pos hone]
    exact fun inv hinv => hpruned (groupDisband_myInvites_subset _ _ hinv)
  · simp only [invitesAtJoin, if_neg hone]
    exact hpruned

theorem Admission.myInvites {s₁ : Server} {sock : Socket} (h : s.Admission cmd s₁ sock)
    (hs : s.Consistent) : s₁.groupContainer.myInvites = s.invitesAtJoin cmd := by
  unfold invitesAtJoin
  rcases h.prepared with ⟨rfl, rfl⟩ | ⟨hone, rfl, -⟩
  · -- the sender is in no group
    have hnone : s.groupContainer.groupIdOf cmd.sock.data.name = [] := by
      rw [← hs.groupId (h.session.of_sockets rfl)]
      exact h.free
    have hcount : ((s.groupContainer.removeOldInvites cmd.env.time).getGroupInfo
        cmd.sock.data.name).memberCount = 0 := getGroupInfo_memberCount_of_none hnone
    simp only [hcount]
    exact (if_neg (by decide)).symm
  · exact (if_pos hone).symm

/-- **What a join leaves of the invitations**: those that are spelled otherwise. -/
theorem myInvites_of_joins (cfg : Config) (hs : s.Consistent) (hcmd : s.chatCommand e = some cmd)
    {i m : Str} (hjoins : Joins s (s.step cfg e) cmd i m) :
    (s.entering e).isSome = true ∧
      (s.step cfg e).groupContainer.myInvites =
        (s.invitesAtJoin cmd).filter fun inv => ¬ (inv.leaderName = i ∧ inv.memberName = m) := by
  obtain ⟨rfl, rfl, g, htype, -, hbefore, hafter⟩ := hjoins
  rcases groupJoin_cases cfg hs hcmd htype with ⟨-, heq⟩ | ⟨s₁, sock, hadm, henter, heq⟩
  · refine absurd ?_ hbefore
    rw [← hafter, heq]
    rfl
  · refine ⟨by rw [henter]; rfl, ?_⟩
    rw [heq, ← hadm.myInvites hs, ← hadm.name]
    rfl

/-- So none is left that `strcasecmp` takes for one of the two exactly if those were all spelled
alike. -/
theorem checkHasInvited_of_joins (cfg : Config) (hs : s.Consistent)
    (hcmd : s.chatCommand e = some cmd) {i m : Str} (hjoins : Joins s (s.step cfg e) cmd i m) :
    (s.step cfg e).groupContainer.checkHasInvited i m = false ↔
      ∀ inv ∈ s.invitesAtJoin cmd, TakenFor inv i m →
        inv.leaderName = i ∧ inv.memberName = m := by
  rw [checkHasInvited_eq_false, (myInvites_of_joins cfg hs hcmd hjoins).2]
  simp only [List.mem_filter, decide_eq_true_eq, and_imp]
  constructor
  · intro h inv hinv htaken
    by_contra hother
    exact h inv hinv hother htaken
  · exact fun h inv hinv hother htaken => hother (h inv hinv htaken)

/-- An invitation that is stored after an event was stored before, or by it. -/
theorem myInvites_step (cfg : Config) (hs : s.Consistent)
    (hinv : inv ∈ (s.step cfg e).groupContainer.myInvites) :
    inv ∈ s.groupContainer.myInvites ∨
      ∃ cmd ∈ s.chatCommand e, cmd.chatMsg.type = .groupInvite ∧
        cmd.sock.data.name = inv.leaderName ∧ cmd.chatMsg.recipient = inv.memberName := by
  by_cases hcommand : ∃ cmd ∈ s.chatCommand e, IsGroupCommand cmd.chatMsg.type
  case neg =>
    have hno : ∀ cmd ∈ s.chatCommand e, ¬ IsGroupCommand cmd.chatMsg.type :=
      fun cmd hcmd htype => hcommand ⟨cmd, hcmd, htype⟩
    rw [(frame_of_not_groupCommand cfg hno).2] at hinv
    exact .inl hinv
  obtain ⟨cmd, hcmd, htype | htype | htype⟩ := hcommand
  · obtain ⟨-, hsender, -⟩ := chatCommand_eq_some hcmd
    -- whether or not the sender founds a group first, its invitation is all that is added
    have hinvited : ∀ s₁ : Server, s₁.groupContainer.myInvites = s.groupContainer.myInvites →
        s.step cfg e = inviteToGroup cmd.env s₁ cmd.chatMsg →
        inv ∈ s.groupContainer.myInvites ∨ ∃ cmd ∈ s.chatCommand e,
          cmd.chatMsg.type = .groupInvite ∧ cmd.sock.data.name = inv.leaderName ∧
            cmd.chatMsg.recipient = inv.memberName := by
      intro s₁ hsame heq
      rw [heq] at hinv
      rcases inviteToGroup_stored hinv with hold | ⟨-, hnew, -⟩
      · exact .inl (by rwa [hsame] at hold)
      · exact .inr ⟨cmd, hcmd, htype, by rw [hnew, hsender], by rw [hnew]⟩
    have hstep := step_of_groupInvite cfg hcmd htype
    rcases handleGroupInvite_cases cmd.env cmd.ws hsender with heq | ⟨-, -, heq⟩ | ⟨-, heq⟩
    · rw [hstep, heq] at hinv
      exact .inl hinv
    · exact hinvited (s.foundGroup cmd.env cmd.ws cmd.sock) rfl (hstep.trans heq)
    · exact hinvited s rfl (hstep.trans heq)
  · rcases groupJoin_cases cfg hs hcmd htype with ⟨-, heq⟩ | ⟨s₁, sock, hadm, -, heq⟩
    · rw [heq] at hinv
      exact .inl (List.mem_of_mem_filter hinv)
    · rw [heq] at hinv
      have hold : inv ∈ s₁.groupContainer.myInvites := List.mem_of_mem_filter hinv
      rw [hadm.myInvites hs] at hold
      exact .inl (invitesAtJoin_subset s cmd hold)
  · rw [container_of_groupDisband cfg hcmd htype] at hinv
    split at hinv
    · exact .inl hinv
    · exact .inl (groupDisband_myInvites_subset _ _ hinv)

end Step

/-! ## Runs -/

/-- **A stored invitation is unused**: since its author has sent it, nobody has joined by it. -/
theorem unused_run (cfg : Config) :
    ∀ evs, ∀ inv ∈ ((machine cfg).run evs).groupContainer.myInvites,
      InvitedSince cfg evs inv.leaderName inv.memberName := by
  refine (machine cfg).history_induction
    (P := fun evs s => ∀ inv ∈ s.groupContainer.myInvites,
      InvitedSince cfg evs inv.leaderName inv.memberName)
    (fun inv hinv => nomatch hinv) (fun evs e ih inv hinv => ?_)
  have hs := consistent_run cfg evs
  rcases myInvites_step cfg hs hinv with hold | ⟨cmd, hcmd, htype, hleader, hmember⟩
  · refine (ih inv hold).snoc fun cmd hcmd hjoins => ?_
    -- a join by this invitation would have removed it
    have hleft : inv ∈ (((machine cfg).run evs).step cfg e).groupContainer.myInvites := hinv
    rw [(myInvites_of_joins cfg hs hcmd hjoins).2, List.mem_filter, decide_eq_true_eq] at hleft
    exact hleft.2 ⟨rfl, rfl⟩
  · refine Machine.since_last ⟨cmd, hcmd, htype, hleader, ?_⟩
    rw [hmember]
    simp [strcasecmpEq]

/-- **An invitation is good for one join**, in every run in which the joins are by invitations that
are spelled like the names in play. -/
theorem goodForOneJoin_run (cfg : Config) (evs : List Event)
    (h : (machine cfg).Along SpelledAlike evs) : GoodForOneJoin cfg evs := by
  rintro pre e post rfl cmd hcmd i m hjoins
  have hs := consistent_run cfg pre
  have henters := (myInvites_of_joins cfg hs hcmd hjoins).1
  have halike := ((machine cfg).along_iff _ _).mp h pre e post rfl cmd hcmd hjoins.2.2.choose_spec.1
    henters
  obtain ⟨⟨inv, hinv, htaken⟩, hall⟩ := halike
  rw [hjoins.1, hjoins.2.1] at htaken hall
  refine ⟨(checkHasInvited_of_joins cfg hs hcmd hjoins).mpr hall, ?_⟩
  obtain ⟨hleader, hmember⟩ := hall inv hinv htaken
  have hunused := unused_run cfg pre inv (invitesAtJoin_subset _ cmd hinv)
  rwa [hleader, hmember] at hunused

/-- Trula's join uses up the invitation of Tirio. -/
theorem goodForOneJoin_joinEvents :
    ((machine sampleConfig).run joinEvents).groupContainer.myInvites = [] ∧
      GoodForOneJoin sampleConfig joinEvents := by
  have hrun : ((machine sampleConfig).run joinEvents).groupContainer.myInvites = [] ∧
      (machine sampleConfig).Along SpelledAlike joinEvents := by
    decide +kernel
  exact ⟨hrun.1, goodForOneJoin_run sampleConfig joinEvents hrun.2⟩

/-! ## An invitation that is spelled otherwise -/

/-- Tirio founds a group and invites Trula, in small letters. -/
def respelledEvents : List Event :=
  loginEvents 1 tirio ++ loginEvents 2 trula ++
    [.text (sampleEnv 1001 "a") 1 "GroupInvite:Tirio:trula:".toList]

/-- Trula accepts. -/
def respelledJoin : Event := .text (sampleEnv 1002 "") 2 "GroupJoin:Trula:Tirio:".toList

/-- She leaves and joins again. -/
def rejoinEvents : List Event :=
  [ .text (sampleEnv 1003 "") 2 "GroupDisband:Trula::".toList
  , .text (sampleEnv 1004 "") 2 "GroupJoin:Trula:Tirio:".toList ]

/-- **An invitation that is spelled otherwise stays**: Trula joins by it twice. -/
theorem not_goodForOneJoin_respelled :
    ¬ GoodForOneJoin sampleConfig (respelledEvents ++ respelledJoin :: rejoinEvents) ∧
      ((machine sampleConfig).run
        (respelledEvents ++ respelledJoin :: rejoinEvents)).groupContainer.groupIdOf
          "Trula".toList = "group_a".toList := by
  have hrun : (∃ cmd ∈ ((machine sampleConfig).run respelledEvents).chatCommand respelledJoin,
        (cmd.chatMsg.recipient = "Tirio".toList ∧ cmd.sock.data.name = "Trula".toList) ∧
          Admits ((machine sampleConfig).run respelledEvents)
            (((machine sampleConfig).run respelledEvents).step sampleConfig respelledJoin) cmd
            "group_a".toList) ∧
      (((machine sampleConfig).run respelledEvents).step sampleConfig
        respelledJoin).groupContainer.checkHasInvited "Tirio".toList "Trula".toList = true ∧
      ((machine sampleConfig).run
        (respelledEvents ++ respelledJoin :: rejoinEvents)).groupContainer.groupIdOf
          "Trula".toList = "group_a".toList := by
    decide +kernel
  obtain ⟨⟨cmd, hcmd, ⟨hinviter, hguest⟩, hadmits⟩, hleft, hagain⟩ := hrun
  refine ⟨fun h => ?_, hagain⟩
  have hgood := (h respelledEvents respelledJoin rejoinEvents rfl cmd hcmd _ _
    ⟨hinviter, hguest, _, hadmits⟩).1
  rw [hleft] at hgood
  cases hgood

end Server

end DaraChat
