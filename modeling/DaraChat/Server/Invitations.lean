import DaraChat.Group.Invitations
import DaraChat.Server.Acceptance
import DaraChat.Server.Commands
import DaraChat.Server.Rosters

set_option autoImplicit false

/-! # An eligible invitation can be accepted

A `GroupInvite` frame and the `GroupJoin` frame that answers it are two events, and each makes its
own checks. An eligible invitation passes the first (`step_invite`), stands in the state between
the two, and passes the second (`Invitable.accepted`); the solo groups that are founded and left on
the way disturb neither. This needs the container invariant in the state the invitation starts
from, and so ids that are fresh (`container_wellFormed`).
-/

namespace DaraChat

open GroupContainer

namespace Server

/-! ## The container invariant of the server -/

/-- **With fresh ids the container of the server keeps its invariant.** -/
theorem container_wellFormed (cfg : Config) (evs : List Event) (hfresh : FreshIds cfg evs) :
    ((machine cfg).run evs).groupContainer.WellFormed := by
  refine (machine cfg).history_induction
    (P := fun evs s => FreshIds cfg evs → s.groupContainer.WellFormed)
    (fun _ => wellFormed_init) (fun evs e ih hfresh => ?_) evs hfresh
  rw [FreshIds, foundings_snoc] at hfresh
  have hbefore : FreshIds cfg evs := by
    rw [List.map_append] at hfresh
    exact hfresh.of_append_left
  have hallows := freshGuard_allows cfg (e := e) (rostered_run cfg evs hbefore).2 hfresh
  refine step_of_move (I := fun s => s.groupContainer.WellFormed) (fun hm hc => ?_) cfg hallows
    (ih hbefore)
  refine hm.container_invariant (fun c cmd hserves hc => wellFormed_exec hc cmd ?_) hc
  cases cmd with
  | groupStartGroup now uuid leaderName =>
      obtain ⟨rfl, -, hempty, -⟩ := hserves
      exact fun _ => freshId_iff.mpr hempty
  | _ => trivial

/-- An event that founds a group draws an id that is not in use. -/
theorem freshId_of_founding {cfg : Config} {evs : List Event} {e : Event} {uuid n : Str}
    (hfresh : FreshIds cfg (evs ++ [e]))
    (hfounding : ((machine cfg).run evs).founding e = some (getNewGroupId uuid, n)) :
    ((machine cfg).run evs).groupContainer.FreshId uuid := by
  rw [FreshIds, foundings_snoc] at hfresh
  have hbefore : FreshIds cfg evs := by
    rw [List.map_append] at hfresh
    exact hfresh.of_append_left
  have hallows := freshGuard_allows cfg (e := e) (rostered_run cfg evs hbefore).2 hfresh
  exact freshId_iff.mpr (hallows.founds _ hfounding).1

/-! ## The two frames -/

/-- The text of a group command, with the sender that its client claims. -/
def commandFrame (type : EChatCmdType) (claimed recipient text : Str) : Str :=
  ({ type := type, sender := claimed, recipient := recipient, message := text } :
    FDaraChatMsg).serialize

section Frames

variable {s : Server} {ws : SocketId} {sock : Socket}

/-- A command frame is handled as what it says, under the name of its session. -/
theorem chatCommand_commandFrame (hs : s.Session ws sock) (type : EChatCmdType)
    (htype : type ≠ .none) {claimed recipient : Str} (hclaimed : ':' ∉ claimed)
    (hrecipient : ':' ∉ recipient) (env : Env) (text : Str) :
    s.chatCommand (.text env ws (commandFrame type claimed recipient text)) =
      some ⟨env, ws, sock, ⟨type, sock.data.name, recipient, text⟩⟩ := by
  have hparse : tryParseMessage (commandFrame type claimed recipient text) =
      (true, ⟨type, claimed, recipient, text⟩, []) :=
    tryParseMessage_serialize htype hclaimed hrecipient
  rw [chatCommand_of_text hs (by rw [hparse]), hparse]

end Frames

section Steps

variable {s : Server} {e : Event} {cmd : ChatCommand} {m : Str}

/-- **The first check passes**: the invitation is stored, in a state in which it stands. That
state has a new group if the inviter had none. -/
theorem step_invite (cfg : Config) (hs : s.Consistent) (hc : s.groupContainer.WellFormed)
    (hcmd : s.chatCommand e = some cmd) (htype : cmd.chatMsg.type = .groupInvite)
    (hne : cmd.sock.data.name ≠ cmd.chatMsg.recipient)
    (hfresh : ∀ uuid n, s.founding e = some (getNewGroupId uuid, n) →
      s.groupContainer.FreshId uuid)
    (h : s.groupContainer.Eligible cmd.sock.data.name cmd.chatMsg.recipient) :
    ∃ s₁, s.step cfg e = s₁.invite cmd.env cmd.chatMsg ∧
      s₁.groupContainer.Invitable cmd.sock.data.name cmd.chatMsg.recipient ∧
      (s₁ = s ∧ s.groupContainer.groupIdOf cmd.sock.data.name ≠ [] ∨
        s₁ = s.foundGroup cmd.env cmd.ws cmd.sock ∧
          s.groupContainer.groupIdOf cmd.sock.data.name = []) := by
  obtain ⟨hsession, hsender, -⟩ := chatCommand_eq_some hcmd
  have hid := hs.groupId hsession
  have hinvite : ∀ s₁ : Server,
      s₁.groupContainer.Invitable cmd.sock.data.name cmd.chatMsg.recipient →
      inviteToGroup cmd.env s₁ cmd.chatMsg = s₁.invite cmd.env cmd.chatMsg := by
    intro s₁ h₁
    have hsuccess := h₁.groupInvite
    rw [← hsender] at hsuccess
    simp [inviteToGroup, hsuccess, daraGroupSuccess, invite]
  rw [step_of_groupInvite cfg hcmd htype]
  -- an inviter without a group founds one first
  by_cases hgroup : s.groupContainer.groupIdOf cmd.sock.data.name = []
  · have hfree : cmd.sock.data.groupId = [] := hid.trans hgroup
    have hdrawn := hfresh _ _ (founding_of_groupInvite hcmd htype hfree)
    have h₁ := (h.append_founder hc.toSound hne hgroup cmd.env.time hdrawn).1
    refine ⟨s.foundGroup cmd.env cmd.ws cmd.sock, ?_, h₁, .inr ⟨rfl, hgroup⟩⟩
    rw [handleGroupInvite_of_free cmd.env cmd.ws hsender hfree hgroup]
    exact hinvite _ h₁
  · have h₁ := h.invitable hc hgroup
    refine ⟨s, ?_, h₁, .inl ⟨rfl, hgroup⟩⟩
    rw [handleGroupInvite, if_neg (by rwa [hid])]
    exact hinvite s h₁

/-- **The second check passes** where an invitation stands that is not outdated. -/
theorem step_join (cfg : Config) (hs : s.Consistent) (hcmd : s.chatCommand e = some cmd)
    (htype : cmd.chatMsg.type = .groupJoin)
    (h : s.groupContainer.Invitable cmd.chatMsg.recipient cmd.sock.data.name)
    {inv : GroupInviteData} (hinv : inv ∈ s.groupContainer.myInvites)
    (hleader : inv.leaderName = cmd.chatMsg.recipient)
    (hmember : inv.memberName = cmd.sock.data.name) (hage : cmd.env.time - inv.storeTime ≤ 180) :
    ∃ s₁ sock, s.Admission cmd s₁ sock ∧
      s.step cfg e = s₁.acceptInvite cmd.env cmd.ws sock cmd.chatMsg.recipient := by
  obtain ⟨hsession, -, -⟩ := chatCommand_eq_some hcmd
  have hstored : inv ∈ (s.groupContainer.removeOldInvites cmd.env.time).myInvites := by
    refine List.mem_filter.mpr ⟨hinv, ?_⟩
    rw [decide_eq_true_eq]
    exact not_lt.mpr hage
  have hallowed : JoinAllowed (s.groupContainer.removeOldInvites cmd.env.time)
      cmd.sock.data.name cmd.chatMsg.recipient := by
    refine ⟨?_, h.grouped, h.memberCount_lt, h.apart⟩
    refine List.any_eq_true.mpr ⟨inv, hstored, ?_⟩
    simp [hleader, hmember, strcasecmpEq]
  rcases groupJoin_cases cfg hs hcmd htype with ⟨hnone, -⟩ | ⟨s₁, sock, hadm, -, heq⟩
  · -- the guest is free, or leaves its solo group
    have henters := (entering_of_groupJoin hcmd htype hallowed).symm.trans hnone
    by_cases hgroup : s.groupContainer.groupIdOf cmd.sock.data.name = []
    · have hfree : cmd.sock.data.groupId = [] := (hs.groupId hsession).trans hgroup
      rw [if_pos hfree] at henters
      split at henters <;> cases henters
    · have hone : ((s.groupContainer.removeOldInvites cmd.env.time).getGroupInfo
          cmd.sock.data.name).memberCount = 1 := h.memberCount_guest hgroup
      rw [if_pos hone] at henters
      cases henters
  · exact ⟨s₁, sock, hadm, heq⟩

/-- Where a `GroupJoin` comes to its join, all groups but that of the guest are as before it. -/
theorem Admission.entriesOf {s₁ : Server} {sock : Socket} (hadm : s.Admission cmd s₁ sock)
    (hs : s.Consistent) {g : Str} (hg : s.groupContainer.groupIdOf cmd.sock.data.name ≠ g) :
    s₁.groupContainer.entriesOf g = s.groupContainer.entriesOf g := by
  rcases hadm.prepared with ⟨rfl, -⟩ | ⟨-, rfl, -⟩
  · rfl
  · have hnodup : (s.groupContainer.removeOldInvites cmd.env.time).NamesNodup :=
      hs.presence.sound.namesNodup
    exact entriesOf_groupDisband_ne hnodup hg

/-- A guest who was in a group has left it empty, and none of its invitations is stored. -/
theorem Admission.left {s₁ : Server} {sock : Socket} (hadm : s.Admission cmd s₁ sock)
    (hs : s.Consistent) (hgroup : s.groupContainer.groupIdOf cmd.sock.data.name ≠ []) :
    s₁.groupContainer.entriesOf (s.groupContainer.groupIdOf cmd.sock.data.name) = [] ∧
      ∀ inv ∈ s₁.groupContainer.myInvites, inv.leaderName ≠ cmd.sock.data.name := by
  rcases hadm.prepared with ⟨rfl, rfl⟩ | ⟨hone, rfl, -⟩
  · refine absurd ?_ hgroup
    rw [← hs.groupId (hadm.session.of_sockets rfl)]
    exact hadm.free
  · have hsolo : ((s.groupContainer.removeOldInvites cmd.env.time).getGroupInfo
        cmd.sock.data.name).memberCount = 1 := hone
    refine ⟨entriesOf_groupDisband_solo hsolo, fun inv hinv => ?_⟩
    have hinv' : inv ∈ ((s.groupContainer.removeOldInvites cmd.env.time).groupDisband
        cmd.sock.data.name).2.myInvites := hinv
    rw [groupDisband_myInvites, if_pos hsolo, List.mem_filter, decide_eq_true_eq] at hinv'
    exact hinv'.2

/-- Where a `GroupJoin` comes to its join, the guest has left what it was in. -/
theorem Admission.parted {s₁ : Server} {sock : Socket} (hadm : s.Admission cmd s₁ sock)
    (hs : s.Consistent) : s.groupContainer.Parted s₁.groupContainer cmd.sock.data.name where
  sound := by
    have hpruned : (s.groupContainer.removeOldInvites cmd.env.time).Sound :=
      hs.presence.sound.of_sublist (List.Sublist.refl _)
    rcases hadm.prepared with ⟨rfl, -⟩ | ⟨-, rfl, -⟩
    · exact hpruned
    · exact hpruned.groupDisband cmd.sock.data.name
  free := hadm.canJoin.member_free
  others := fun _ hg => hadm.entriesOf hs hg
  left := fun hgroup => (hadm.left hs hgroup).1
  purged := fun hgroup => (hadm.left hs hgroup).2

/-- **What the join leaves behind**, where the invitation stood before it. -/
theorem Admission.accepted {s₁ : Server} {sock : Socket} (hadm : s.Admission cmd s₁ sock)
    (hs : s.Consistent)
    (h : s.groupContainer.Invitable cmd.chatMsg.recipient cmd.sock.data.name) :
    s.groupContainer.Accepted
      (s₁.acceptInvite cmd.env cmd.ws sock cmd.chatMsg.recipient).groupContainer
      cmd.chatMsg.recipient cmd.sock.data.name := by
  refine h.accepted (hadm.parted hs) hadm.target cmd.env.time ?_ (List.filter_subset_self _)
  rw [← hadm.target, ← hadm.name]
  rfl

end Steps

/-! ## The two events -/

section Exchange

variable {s : Server} {wsI wsM : SocketId} {sockI sockM : Socket} {claimedI claimedM : Str}

/-- At most 180 seconds later, in whole seconds too. -/
theorem seconds_le {a b : Int} (h : b ≤ a + 180 * 1000000000) :
    b / 1000000000 - a / 1000000000 ≤ 180 := by
  omega

/-- The two frames in a state in which the invitation is eligible. -/
theorem accepted_of_eligible (cfg : Config) (hs : s.Consistent) (hc : s.groupContainer.WellFormed)
    (hI : s.Session wsI sockI) (hM : s.Session wsM sockM)
    (hne : sockI.data.name ≠ sockM.data.name) (hcolonI : ':' ∉ sockI.data.name)
    (hcolonM : ':' ∉ sockM.data.name) (hclaimedI : ':' ∉ claimedI) (hclaimedM : ':' ∉ claimedM)
    (h : s.groupContainer.Eligible sockI.data.name sockM.data.name) {envI envM : Env}
    (htime : envM.now ≤ envI.now + 180 * 1000000000) (textI textM : Str)
    (hfresh : ∀ uuid n, s.founding (.text envI wsI
        (commandFrame .groupInvite claimedI sockM.data.name textI)) =
      some (getNewGroupId uuid, n) → s.groupContainer.FreshId uuid) :
    s.groupContainer.Accepted ((s.step cfg (.text envI wsI
        (commandFrame .groupInvite claimedI sockM.data.name textI))).step cfg (.text envM wsM
        (commandFrame .groupJoin claimedM sockI.data.name textM))).groupContainer
      sockI.data.name sockM.data.name := by
  have hcmdI := chatCommand_commandFrame hI .groupInvite (by decide) hclaimedI hcolonM
    envI textI
  obtain ⟨s₁, hstep, hinvitable, hbefore⟩ := step_invite cfg hs hc hcmdI rfl hne hfresh h
  have ht := consistent_step cfg (e := .text envI wsI
    (commandFrame .groupInvite claimedI sockM.data.name textI)) hs
  rw [hstep] at ht ⊢
  -- the guest's session is at another socket, which the invitation does not touch
  have hws : wsM ≠ wsI := by
    rintro rfl
    exact hne (by rw [Option.some.inj (hI.found.symm.trans hM.found)])
  have hsockets : s₁.sockets wsM = s.sockets wsM := by
    rcases hbefore with ⟨rfl, -⟩ | ⟨rfl, -⟩
    · rfl
    · exact setSocket_sockets_ne _ _ _ hws
  have hMt : (s₁.invite envI ⟨.groupInvite, sockI.data.name, sockM.data.name, textI⟩).Session wsM
      sockM := hM.of_sockets hsockets
  have hcmdM := chatCommand_commandFrame hMt .groupJoin (by decide) hclaimedM hcolonI
    envM textM
  have hstands : (s₁.invite envI ⟨.groupInvite, sockI.data.name, sockM.data.name,
      textI⟩).groupContainer.Invitable sockI.data.name sockM.data.name := hinvitable.congr rfl
  have hstored : (⟨sockI.data.name, sockM.data.name, envI.time⟩ : GroupInviteData) ∈ (s₁.invite
      envI ⟨.groupInvite, sockI.data.name, sockM.data.name, textI⟩).groupContainer.myInvites :=
    List.mem_append_right _ (List.mem_singleton_self _)
  have hage : envM.time - envI.time ≤ 180 := seconds_le htime
  obtain ⟨s₂, sock₂, hadm, hjoin⟩ :=
    step_join cfg ht hcmdM rfl hstands hstored rfl rfl hage
  rw [hjoin]
  refine (hadm.accepted ht hstands).of_before hstands.grouped ?_ (fun hi => ?_) fun g hg => ?_
  · rcases hbefore with ⟨rfl, -⟩ | ⟨rfl, -⟩
    · rfl
    · exact groupIdOf_append_ne (Ne.symm hne)
  · rcases hbefore with ⟨rfl, -⟩ | ⟨-, hnone⟩
    · rfl
    · exact absurd hnone hi
  · rcases hbefore with ⟨rfl, -⟩ | ⟨rfl, hnone⟩
    · rfl
    · -- the group that is founded is the inviter's
      have hnew : (s.groupContainer.append
          (founder envI.time envI.uuid sockI.data.name)).groupIdOf sockI.data.name =
          getNewGroupId envI.uuid :=
        groupIdOf_append_self ((groupIdOf_eq_nil hs.presence.sound.groupIdsNonempty).mp hnone)
      have hnot : (founder envI.time envI.uuid sockI.data.name).groupId ≠ g :=
        fun heq => hg (heq.symm.trans hnew.symm)
      exact ((entriesOf_append g).trans (congrArg _ (if_neg hnot))).trans (List.append_nil _)

end Exchange

/-- **An eligible invitation can always be accepted.** In every state of a run with fresh ids, a
`GroupInvite` frame of one session to another and the `GroupJoin` frame that answers it within 180
seconds bring the second character into the group of the first. -/
theorem accepted_run (cfg : Config) (evs : List Event) (envI envM : Env) (wsI wsM : SocketId)
    (sockI sockM : Socket) (claimedI claimedM textI textM : Str)
    (hI : ((machine cfg).run evs).Session wsI sockI)
    (hM : ((machine cfg).run evs).Session wsM sockM)
    (hne : sockI.data.name ≠ sockM.data.name) (hcolonI : ':' ∉ sockI.data.name)
    (hcolonM : ':' ∉ sockM.data.name) (hclaimedI : ':' ∉ claimedI) (hclaimedM : ':' ∉ claimedM)
    (h : ((machine cfg).run evs).groupContainer.Eligible sockI.data.name sockM.data.name)
    (htime : envM.now ≤ envI.now + 180 * 1000000000)
    (hfresh : FreshIds cfg
      (evs ++ [.text envI wsI (commandFrame .groupInvite claimedI sockM.data.name textI)])) :
    ((machine cfg).run evs).groupContainer.Accepted
      ((machine cfg).run (evs ++
        [ .text envI wsI (commandFrame .groupInvite claimedI sockM.data.name textI)
        , .text envM wsM (commandFrame .groupJoin claimedM sockI.data.name textM) ])).groupContainer
      sockI.data.name sockM.data.name := by
  -- the ids drawn before the invitation are fresh too, so the container is well formed
  have hbefore : FreshIds cfg evs := by
    rw [FreshIds, foundings_snoc, List.map_append] at hfresh
    exact hfresh.of_append_left
  rw [List.append_cons, Machine.run_snoc, Machine.run_snoc]
  exact accepted_of_eligible cfg (consistent_run cfg evs) (container_wellFormed cfg evs hbefore)
    hI hM hne hcolonI hcolonM hclaimedI hclaimedM h htime textI textM
    fun _ _ hfounding => freshId_of_founding hfresh hfounding

/-- Trula founds a group by inviting Ulf. -/
def soloEvents : List Event :=
  loginEvents 1 tirio ++ loginEvents 2 trula ++
    [.text (sampleEnv 1001 "a") 2 "GroupInvite:Trula:Ulf:".toList]

/-- She accepts an invitation by Tirio 180 seconds after it, and her group and her invitation are
gone. -/
theorem accepted_soloEvents :
    ((machine sampleConfig).run soloEvents).groupContainer.Accepted
      ((machine sampleConfig).run (soloEvents ++
        [ .text (sampleEnv 1002 "b") 1 (commandFrame .groupInvite [] "Trula".toList [])
        , .text (sampleEnv 1182 "") 2 (commandFrame .groupJoin [] "Tirio".toList []) ])).groupContainer
      "Tirio".toList "Trula".toList := by
  have hrun : (((machine sampleConfig).run soloEvents).sockets 1).map
        (fun sock => (sock.phase, sock.data.connected, sock.data.name)) =
        some (.live, true, "Tirio".toList) ∧
      (((machine sampleConfig).run soloEvents).sockets 2).map
        (fun sock => (sock.phase, sock.data.connected, sock.data.name)) =
        some (.live, true, "Trula".toList) ∧
      ((machine sampleConfig).run soloEvents).groupContainer.Eligible "Tirio".toList
        "Trula".toList ∧
      FreshIds sampleConfig (soloEvents ++
        [.text (sampleEnv 1002 "b") 1 (commandFrame .groupInvite [] "Trula".toList [])]) := by
    decide +kernel
  obtain ⟨hI, hM, heligible, hfresh⟩ := hrun
  obtain ⟨sockI, hfoundI, heqI⟩ := Option.map_eq_some_iff.mp hI
  obtain ⟨sockM, hfoundM, heqM⟩ := Option.map_eq_some_iff.mp hM
  obtain ⟨hliveI, hconnI, hnameI⟩ := by simpa only [Prod.mk.injEq] using heqI
  obtain ⟨hliveM, hconnM, hnameM⟩ := by simpa only [Prod.mk.injEq] using heqM
  have haccepted := accepted_run sampleConfig soloEvents (sampleEnv 1002 "b") (sampleEnv 1182 "") 1 2
    sockI sockM [] [] [] [] ⟨hfoundI, hliveI, hconnI⟩ ⟨hfoundM, hliveM, hconnM⟩
    (by rw [hnameI, hnameM]; decide) (by rw [hnameI]; decide) (by rw [hnameM]; decide)
    (by simp) (by simp) (by rw [hnameI, hnameM]; exact heligible) (by decide)
    (by rw [hnameM]; exact hfresh)
  rwa [hnameI, hnameM] at haccepted

end Server

end DaraChat
