import DaraChat.Bot.Bots
import DaraChat.Bot.Control

set_option autoImplicit false

/-! # The scenarios of the group controller (`tools/group_test_controller.py`)

The controller writes lines to its bots: `scenario` is the list of what it sends to whom. It does not
look whether that has the effect it is for. For the scenario of six bots it has: whatever the server
has been through before, after it the bots are one group, which the first of them leads, and all other
groups are as they were but for the bots that have left them (`scenario_gathers`).
-/

namespace DaraChat

open GroupContainer

/-! ## The controller -/

/-- The argument of `scenario`. -/
inductive ScenarioKind
  | bots | unreal | unrealLed
  deriving DecidableEq, Repr

/-- `Controller.reset` while all bots are running: the lines that are sent, and to whom. -/
def reset (names : List Str) : List (Str × Str) := names.map fun name => (name, "leave".toList)

/-- The line that invites the target. -/
def inviteLine (target : Str) : Str := "invite ".toList ++ target

/-- `Controller.scenario`. It waits for the operator before and after the invitation to the Unreal
character. -/
def scenario (names : List Str) (unrealCharacter : Str) (kind : ScenarioKind) : List (Str × Str) :=
  match names with
  | [] => []
  | leader :: others =>
      reset names ++
        match kind with
        | .unrealLed => []
        | .unreal => (leader, inviteLine unrealCharacter) ::
            (others.take 4).map fun target => (leader, inviteLine target)
        | .bots => others.map fun target => (leader, inviteLine target)

/-- A line for a bot, and what the environment supplies while the server handles the frame that the
bot sends, and while it handles the replies. -/
structure Order where
  bot : Bot
  line : Str
  env : Env
  replyEnv : Env

namespace Server

/-- The bot carries out an order, and all bots reply. -/
def carryOut (cfg : Config) (bots : List Bot) (fuel : Nat) (s : Server) (order : Order) : Server :=
  match order.bot.chatter.controlCommand order.line with
  | .sent frame _ =>
      exchange cfg bots order.replyEnv fuel s (.text order.env order.bot.ws frame)
  | _ => s

/-! ## One order -/

section Orders

variable {cfg : Config} {bots : List Bot} {s : Server} {order : Order}

theorem not_founding {e : Event} {cmd : ChatCommand} (hcmd : s.chatCommand e = some cmd)
    (htype : cmd.chatMsg.type ≠ .groupInvite) : s.founding e = none := by
  simp only [founding, hcmd]
  exact if_neg fun h => htype h.1

/-- A parting and a roster are all that a disband publishes. -/
theorem published_disband (s : Server) (ws : SocketId) (sock : Socket) :
    (s.disband ws sock).published = s.published ++
      [ ⟨getGroupTopic sock.data.groupId,
          .text (getGroupDisbandInfoMessage { sender := sock.data.name }),
          (s.groupContainer.groupDisband sock.data.name).2.myGroups⟩
      , ⟨getGroupTopic (getGroupTopic sock.data.groupId),
          .text (groupUpdateMsg (s.groupContainer.groupDisband sock.data.name).2
            (getGroupTopic sock.data.groupId)).serialize,
          (s.groupContainer.groupDisband sock.data.name).2.myGroups⟩ ] := by
  rw [disband, sendGroupUpdateInfo, publish_published, publish_published, List.append_assoc]
  rfl

/-- **A bot that is told to leave** is in no group then. -/
theorem carryOut_leave (h : Ready cfg bots s) (hbot : order.bot ∈ bots)
    (hcolon : ':' ∉ order.bot.name) (hline : order.line = "leave".toList) (fuel : Nat) :
    Ready cfg bots (carryOut cfg bots fuel s order) ∧
      (carryOut cfg bots fuel s order).groupContainer.parties =
        fun g => (s.groupContainer.parties g).filter (· ≠ order.bot.name) := by
  obtain ⟨sock, hfound, hattends⟩ := h.online _ hbot
  have hsession := hattends.session hfound
  have hs := h.consistent
  have hcmd := chatCommand_commandFrame hsession .groupDisband EChatCmdType.noConfusion hcolon
    (List.not_mem_nil : ':' ∉ []) order.env []
  obtain ⟨e, he⟩ : ∃ e, Event.text order.env order.bot.ws
      (commandFrame .groupDisband order.bot.name [] []) = e := ⟨_, rfl⟩
  rw [he] at hcmd
  have hcarry : carryOut cfg bots fuel s order = exchange cfg bots order.replyEnv fuel s e := by
    rw [carryOut, hline, controlCommand_leave, ← he]
    rfl
  have hfresh : ∀ uuid n, s.founding e = some (getNewGroupId uuid, n) →
      s.groupContainer.FreshId uuid := by
    intro uuid n hfounding
    rw [not_founding hcmd EChatCmdType.noConfusion] at hfounding
    cases hfounding
  have hcontainer := container_of_groupDisband cfg hcmd rfl
  have hstep := step_of_groupDisband cfg hcmd rfl
  by_cases hgroup : sock.data.groupId = []
  · -- nothing happens at all
    have hsame : s.step cfg e = s := by
      rw [hstep]
      exact if_neg (not_not.mpr hgroup)
    have hnone : s.publications cfg e = [] :=
      publications_of_append cfg (by rw [hsame, List.append_nil])
    have hquiet := @exchange_of_quiet cfg bots order.replyEnv s e
      (by rw [hnone]; exact fun _ hpub => absurd hpub List.not_mem_nil) fuel
    rw [hcarry, hquiet, hsame]
    refine ⟨h, funext fun g => (List.filter_eq_self.mpr fun n hn => ?_).symm⟩
    rw [decide_eq_true_eq]
    rintro rfl
    refine notMem_parties hs.presence.sound ?_ g hn
    rw [← hattends.name, ← hs.groupId hsession, hgroup]
  · have hleft : s.step cfg e = s.disband order.bot.ws sock :=
      hstep.trans (handleGroupDisband_of_grouped order.bot.ws rfl hgroup)
    have hpublished := published_disband s order.bot.ws sock
    rw [← hleft] at hpublished
    have hquiet := @exchange_of_quiet cfg bots order.replyEnv s e (by
      rw [publications_of_append cfg hpublished, List.forall_mem_cons, List.forall_mem_singleton]
      exact ⟨isState_of_disbandInfo _ _ _, isState_of_roster _ _ _ _⟩) fuel
    rw [hcarry, hquiet]
    refine ⟨h.step hfresh fun bot hbot => ?_, ?_⟩
    · refine (h.online bot hbot).of_update hfound ?_ Attends.left
      rw [hleft]
      rfl
    · rw [hcontainer, if_neg hgroup, parties_groupDisband hs.presence.sound, hattends.name]
      funext g
      by_cases hg : g = s.groupContainer.groupIdOf order.bot.name
      · rw [hg, Function.update_self]
      · rw [Function.update_of_ne hg]
        refine (List.filter_eq_self.mpr fun n hn => ?_).symm
        rw [decide_eq_true_eq]
        rintro rfl
        exact hg ((mem_parties hs.presence.sound).mp hn).2.symm

/-- The name of a bot is a word without a colon. -/
structure Plain (name : Str) : Prop where
  nonempty : name ≠ []
  word : IsWord name
  colon : ':' ∉ name

/-- **The accepting half of an invitation.** -/
theorem exchange_join (h : Ready cfg bots s) {leader target : Bot} (htarget : target ∈ bots)
    (hleader : Plain leader.name) (hplain : Plain target.name) {env renv : Env}
    (hinvitable : s.groupContainer.Invitable leader.name target.name)
    (hfree : s.groupContainer.groupIdOf target.name = []) {inv : GroupInviteData}
    (hinv : inv ∈ s.groupContainer.myInvites) (hfrom : inv.leaderName = leader.name)
    (hto : inv.memberName = target.name) (hage : env.time - inv.storeTime ≤ 180) (fuel : Nat)
    (s' : Server) (hs' : exchange cfg bots renv fuel s (.text env target.ws
      (commandFrame .groupJoin target.name leader.name [])) = s') :
    Ready cfg bots s' ∧
      s'.groupContainer.parties = Function.update s.groupContainer.parties
        (s.groupContainer.groupIdOf leader.name)
        (s.groupContainer.parties (s.groupContainer.groupIdOf leader.name) ++ [target.name]) := by
  obtain ⟨sock, hfound, hattends⟩ := h.online _ htarget
  have hsession := hattends.session hfound
  have hs := h.consistent
  have hcmd := chatCommand_commandFrame hsession .groupJoin EChatCmdType.noConfusion hplain.colon
    hleader.colon env []
  obtain ⟨e, he⟩ : ∃ e, Event.text env target.ws
      (commandFrame .groupJoin target.name leader.name []) = e := ⟨_, rfl⟩
  rw [he] at hcmd hs'
  rw [← hattends.name] at hinvitable hto
  obtain ⟨s₁, sock₁, hadm, hjoin⟩ := step_join cfg hs hcmd rfl hinvitable hinv hfrom hto hage
  -- the target has no group that it would leave first
  have hprepared : s₁ = s.prune env ∧ sock = sock₁ := by
    rcases hadm.prepared with ⟨hpruned, hsame⟩ | ⟨hone, -⟩
    · exact ⟨hpruned, hsame.symm⟩
    · have hnone : (s.groupContainer.getGroupInfo sock.data.name).memberCount = 0 :=
        getGroupInfo_memberCount_of_none (by rw [hattends.name, hfree])
      have hone : (s.groupContainer.getGroupInfo sock.data.name).memberCount = 1 := hone
      rw [hnone] at hone
      cases hone
  obtain ⟨rfl, rfl⟩ := hprepared
  have hpublished := publications_of_append cfg (s := s) (e := e) (by rw [hjoin]; rfl)
  have hquiet := @exchange_of_quiet cfg bots renv s e (by
    rw [hpublished, List.forall_mem_singleton]
    exact isState_of_roster _ _ _ _) fuel
  rw [← hs', hquiet]
  refine ⟨h.step (fun uuid n hfounding => ?_) fun bot hbot => ?_, ?_⟩
  · rw [not_founding hcmd EChatCmdType.noConfusion] at hfounding
    cases hfounding
  · exact (h.online bot hbot).of_update hfound (by rw [hjoin]; rfl) fun hattends =>
      hattends.entered _
  · rw [hjoin, ← hattends.name]
    exact parties_append (joiner env.time sock.data.name _)

/-- **An order to invite is followed by the join**: the leader is in a group with the target then,
which it has founded if it was in none. -/
theorem carryOut_invite (h : Ready cfg bots s) (hdistinct : Distinct bots)
    (hleader : order.bot ∈ bots) {target : Bot} (htarget : target ∈ bots)
    (hplain : ∀ bot ∈ bots, Plain bot.name) (hne : order.bot.name ≠ target.name)
    (hline : order.line = inviteLine target.name)
    (hfresh : s.groupContainer.groupIdOf order.bot.name = [] →
      s.groupContainer.FreshId order.env.uuid)
    (heligible : s.groupContainer.Eligible order.bot.name target.name)
    (hfree : s.groupContainer.groupIdOf target.name = [])
    (htime : order.replyEnv.now ≤ order.env.now + 180 * 1000000000) (fuel : Nat) :
    Ready cfg bots (carryOut cfg bots (fuel + 1) s order) ∧
      ∃ g roster,
        (s.groupContainer.groupIdOf order.bot.name = [] ∧ g = getNewGroupId order.env.uuid ∧
            roster = [order.bot.name] ∨
          s.groupContainer.groupIdOf order.bot.name = g ∧ g ≠ [] ∧
            roster = s.groupContainer.parties g) ∧
        (carryOut cfg bots (fuel + 1) s order).groupContainer.parties =
          Function.update s.groupContainer.parties g (roster ++ [target.name]) := by
  obtain ⟨sock, hfound, hattends⟩ := h.online _ hleader
  have hsession := hattends.session hfound
  have hs := h.consistent
  have hcmd := chatCommand_commandFrame hsession .groupInvite EChatCmdType.noConfusion
    (hplain _ hleader).colon (hplain _ htarget).colon order.env []
  obtain ⟨e, he⟩ : ∃ e, Event.text order.env order.bot.ws
      (commandFrame .groupInvite order.bot.name target.name []) = e := ⟨_, rfl⟩
  rw [he] at hcmd
  have hcarry : carryOut cfg bots (fuel + 1) s order =
      exchange cfg bots order.replyEnv (fuel + 1) s e := by
    have hsent : order.bot.chatter.controlCommand (inviteLine target.name) =
        order.bot.chatter.sends "invite".toList target.name .groupInvite target.name [] :=
      controlCommand_invite _ (hplain _ htarget).nonempty (hplain _ htarget).word
    rw [carryOut, hline, hsent, Chatter.sends, ← he]
    rfl
  rw [← hattends.name] at heligible hne hfresh ⊢
  have hdrawn : ∀ uuid n, s.founding e = some (getNewGroupId uuid, n) →
      s.groupContainer.FreshId uuid := by
    intro uuid n hfounding
    simp only [founding, hcmd] at hfounding
    split at hfounding
    · rename_i hfounds
      obtain ⟨hid, -⟩ := Prod.mk.inj (Option.some.inj hfounding)
      obtain rfl : order.env.uuid = uuid := List.append_cancel_left hid
      exact hfresh ((hs.groupId hsession).symm.trans hfounds.2)
    · cases hfounding
  obtain ⟨s₁, hstep, hinvitable, hbefore⟩ := step_invite cfg hs h.wellFormed hcmd rfl hne hdrawn
    heligible
  have hready : Ready cfg bots (s.step cfg e) := by
    refine h.step hdrawn fun bot hbot => ?_
    rcases hbefore with ⟨rfl, -⟩ | ⟨rfl, -⟩
    · rw [hstep]
      exact h.online bot hbot
    · exact (h.online bot hbot).of_update hfound (by rw [hstep]; rfl) fun hattends =>
        hattends.entered _
  have hpublished : s₁.published = s.published := by
    rcases hbefore with ⟨rfl, -⟩ | ⟨rfl, -⟩ <;> rfl
  have hnews := publications_of_append cfg (s := s) (e := e) (by rw [hstep, ← hpublished]; rfl)
  -- the invitation is delivered to the target alone, which accepts it
  have haccept := @replyEvent_groupInvite target.chatter sock.data.name target.name []
    (by rw [hattends.name]; exact (hplain _ hleader).colon) (hplain _ htarget).colon order.replyEnv
    target.ws
  have hreplies := repliesTo_tell hready hdistinct htarget order.replyEnv
    (.text (FDaraChatMsg.mk .groupInvite sock.data.name target.name []).serialize)
    s₁.groupContainer.myGroups
  rw [haccept] at hreplies
  have hexchange : exchange cfg bots order.replyEnv (fuel + 1) s e =
      exchange cfg bots order.replyEnv fuel (s.step cfg e) (.text order.replyEnv target.ws
        (commandFrame .groupJoin target.name sock.data.name [])) := by
    rw [exchange, hnews, List.flatMap_singleton]
    exact congrArg (List.foldl _ _) hreplies
  -- the target is as free after the invitation as before it
  have hfreeAfter : (s.step cfg e).groupContainer.groupIdOf target.name = [] := by
    rw [hstep, ← hfree]
    rcases hbefore with ⟨rfl, -⟩ | ⟨rfl, -⟩
    · rfl
    · exact groupIdOf_append_ne (Ne.symm hne)
  have hstands : (s.step cfg e).groupContainer.Invitable order.bot.name target.name := by
    rw [hstep, ← hattends.name]
    exact hinvitable.congr rfl
  have hstored : (⟨sock.data.name, target.name, order.env.time⟩ : GroupInviteData) ∈
      (s.step cfg e).groupContainer.myInvites := by
    rw [hstep]
    exact List.mem_append_right _ (List.mem_singleton_self _)
  rw [hattends.name] at hexchange
  obtain ⟨hjoined, hparties⟩ := exchange_join hready htarget (hplain _ hleader) (hplain _ htarget)
    hstands hfreeAfter hstored hattends.name rfl (seconds_le htime) fuel _ (hcarry.trans hexchange).symm
  refine ⟨hjoined, ?_⟩
  have hsame : (s.step cfg e).groupContainer.myGroups = s₁.groupContainer.myGroups := by
    rw [hstep]
    rfl
  rw [hparties, parties_of_myGroups hsame, groupIdOf_of_myGroups hsame, ← hattends.name]
  rcases hbefore with ⟨rfl, hgrouped⟩ | ⟨rfl, hnone⟩
  · exact ⟨_, _, .inr ⟨rfl, hgrouped, rfl⟩, rfl⟩
  · -- a new group had no members
    have hempty : s.groupContainer.parties (getNewGroupId order.env.uuid) = [] :=
      parties_eq_nil.mpr (freshId_iff.mp (hfresh hnone))
    have hfounded : (s.foundGroup order.env order.bot.ws sock).groupContainer.parties =
        Function.update s.groupContainer.parties (getNewGroupId order.env.uuid)
          (s.groupContainer.parties (getNewGroupId order.env.uuid) ++ [sock.data.name]) :=
      parties_append (founder order.env.time order.env.uuid sock.data.name)
    have hid : (s.foundGroup order.env order.bot.ws sock).groupContainer.groupIdOf sock.data.name =
        getNewGroupId order.env.uuid :=
      groupIdOf_append_self ((groupIdOf_eq_nil hs.presence.sound.groupIdsNonempty).mp hnone)
    refine ⟨_, _, .inl ⟨hnone, rfl, rfl⟩, ?_⟩
    rw [hid, hfounded, hempty, Function.update_self, Function.update_idem]
    rfl

end Orders

/-! ## Runs of orders -/

section Runs

variable {cfg : Config} {bots : List Bot} {s : Server}

/-- The first of a party leads it. -/
theorem leader_of_parties (hc : s.groupContainer.WellFormed) {g n : Str} {rest : List Str}
    (h : s.groupContainer.parties g = n :: rest) :
    ∃ leader ∈ s.groupContainer.entriesOf g, leader.name = n ∧ leader.isLeader = true := by
  obtain ⟨leader, members, hentries, hname, -⟩ := List.map_eq_cons_iff.mp h
  have hled := hc.led g
  rw [hentries] at hled ⊢
  exact ⟨leader, List.mem_cons_self, hname, hled.1⟩

/-- Who is in no party is in no group. -/
theorem groupIdOf_of_notMem (hc : s.groupContainer.Sound) {n : Str}
    (h : ∀ g, n ∉ s.groupContainer.parties g) : s.groupContainer.groupIdOf n = [] := by
  by_contra hne
  exact h _ ((mem_parties hc).mpr ⟨hne, rfl⟩)

/-- **All of them leave.** -/
theorem foldl_leave (hplain : ∀ bot ∈ bots, Plain bot.name) (fuel : Nat) (orders : List Order) :
    ∀ s, Ready cfg bots s → (∀ order ∈ orders, order.bot ∈ bots ∧ order.line = "leave".toList) →
      Ready cfg bots (orders.foldl (carryOut cfg bots fuel) s) ∧
        (orders.foldl (carryOut cfg bots fuel) s).groupContainer.parties =
          fun g => (s.groupContainer.parties g).filter
            (· ∉ orders.map fun order => order.bot.name) := by
  induction orders with
  | nil =>
      intro s h _
      exact ⟨h, funext fun g => (List.filter_eq_self.mpr fun _ _ => decide_eq_true (by simp)).symm⟩
  | cons order orders ih =>
      intro s h hall
      obtain ⟨⟨hbot, hline⟩, hall⟩ := List.forall_mem_cons.mp hall
      obtain ⟨hready, hparties⟩ := carryOut_leave h hbot (hplain _ hbot).colon hline fuel
      obtain ⟨hdone, hrest⟩ := ih _ hready hall
      refine ⟨hdone, ?_⟩
      rw [List.foldl_cons, hrest, hparties]
      funext g
      rw [List.filter_filter]
      refine List.filter_congr fun n _ => ?_
      simp only [List.map_cons, List.mem_cons, not_or, Bool.decide_and, Bool.and_comm]

/-- A leader with room for one more may invite whoever is in no group. -/
theorem eligible_of_leader (hc : s.groupContainer.WellFormed) {g leader target : Str}
    {rest : List Str} (hparty : s.groupContainer.parties g = leader :: rest)
    (hroom : ((rest.length : Int) + 1) < myMaxGroupMembers)
    (hfree : s.groupContainer.groupIdOf target = []) :
    s.groupContainer.Eligible leader target := by
  obtain ⟨hg, hid⟩ := (mem_parties hc.toSound).mp
    (hparty ▸ List.mem_cons_self : leader ∈ s.groupContainer.parties g)
  have hlength : (s.groupContainer.entriesOf g).length = rest.length + 1 := by
    rw [← length_parties, hparty, List.length_cons]
  refine ⟨fun _ => ?_, fun _ => ?_, fun _ => ?_, fun hgrouped => absurd hfree hgrouped⟩
  · rw [hid]
    exact leader_of_parties hc hparty
  · rw [hid, hlength]
    exact_mod_cast hroom
  · rw [hid, hfree]
    exact hg.symm

/-- The order is the leader's to invite the target, and the reply comes in time. -/
structure Invites (bots : List Bot) (leader : Str) (order : Order) (target : Bot) : Prop where
  mem : order.bot ∈ bots
  name : order.bot.name = leader
  line : order.line = inviteLine target.name
  time : order.replyEnv.now ≤ order.env.now + 180 * 1000000000

/-- The target is one of the bots, and can come. -/
structure Comes (bots : List Bot) (s : Server) (leader : Str) (target : Bot) : Prop where
  mem : target ∈ bots
  name : leader ≠ target.name
  free : s.groupContainer.groupIdOf target.name = []

/-- Whoever can come and is not the one who has come can come still. -/
theorem Comes.of_update {s' : Server} {g leader : Str} {roster : List Str} {target : Bot}
    (h : Comes bots s leader target) (hs : s.groupContainer.Sound) (hs' : s'.groupContainer.Sound)
    (hparties : s'.groupContainer.parties = Function.update s.groupContainer.parties g roster)
    (hroster : target.name ∉ roster) : Comes bots s' leader target where
  mem := h.mem
  name := h.name
  free := by
    refine groupIdOf_of_notMem hs' fun g' => ?_
    rw [hparties]
    by_cases hg : g' = g
    · rwa [hg, Function.update_self]
    · rw [Function.update_of_ne hg]
      exact notMem_parties hs h.free g'

/-- **All of them come.** -/
theorem foldl_invite (hdistinct : Distinct bots) (hplain : ∀ bot ∈ bots, Plain bot.name)
    {leader g : Str} (fuel : Nat) {orders : List Order} {targets : List Bot}
    (hinvites : List.Forall₂ (Invites bots leader) orders targets) :
    ∀ s rest, Ready cfg bots s → s.groupContainer.parties g = leader :: rest →
      (∀ target ∈ targets, Comes bots s leader target) → (targets.map Bot.name).Nodup →
      (rest.length : Int) + 1 + targets.length ≤ myMaxGroupMembers →
      Ready cfg bots (orders.foldl (carryOut cfg bots (fuel + 1)) s) ∧
        (orders.foldl (carryOut cfg bots (fuel + 1)) s).groupContainer.parties =
          Function.update s.groupContainer.parties g (leader :: (rest ++ targets.map Bot.name)) := by
  induction hinvites with
  | nil =>
      intro s rest h hparty _ _ _
      refine ⟨h, ?_⟩
      rw [List.map_nil, List.append_nil, ← hparty, Function.update_eq_self]
      rfl
  | @cons order target orders targets hinvite _ ih =>
      intro s rest h hparty hcomes hnodup hroom
      obtain ⟨hcome, hcomes⟩ := List.forall_mem_cons.mp hcomes
      rw [List.map_cons, List.nodup_cons] at hnodup
      rw [List.length_cons] at hroom
      have hs := h.wellFormed.toSound
      have hin : leader ∈ s.groupContainer.parties g := by
        rw [hparty]
        exact List.mem_cons_self
      obtain ⟨hg, hid⟩ := (mem_parties hs).mp hin
      have hgrouped : s.groupContainer.groupIdOf order.bot.name = g := by rw [hinvite.name, hid]
      have heligible : s.groupContainer.Eligible order.bot.name target.name := by
        rw [hinvite.name]
        exact eligible_of_leader h.wellFormed hparty (by omega) hcome.free
      obtain ⟨hready, g', roster, hcase, hparties⟩ := carryOut_invite h hdistinct hinvite.mem hcome.mem
        hplain (by rw [hinvite.name]; exact hcome.name) hinvite.line
        (fun hnone => absurd (hgrouped.symm.trans hnone) hg) heligible hcome.free hinvite.time fuel
      -- the leader has its group already
      obtain ⟨rfl, rfl⟩ : g' = g ∧ roster = s.groupContainer.parties g := by
        rcases hcase with ⟨hnone, -⟩ | ⟨hsame, -, hroster⟩
        · exact absurd (hgrouped.symm.trans hnone) hg
        · obtain rfl := hsame.symm.trans hgrouped
          exact ⟨rfl, hroster⟩
      rw [hparty, List.cons_append] at hparties
      have hafter : (carryOut cfg bots (fuel + 1) s order).groupContainer.parties g' =
          leader :: (rest ++ [target.name]) := by
        rw [hparties, Function.update_self]
      have hcomes' : ∀ other ∈ targets,
          Comes bots (carryOut cfg bots (fuel + 1) s order) leader other := by
        intro other hother
        have hcome' := hcomes other hother
        refine hcome'.of_update hs hready.wellFormed.toSound hparties fun hmem => ?_
        rcases List.mem_cons.mp hmem with heq | hmem
        · exact hcome'.name heq.symm
        rcases List.mem_append.mp hmem with hmem | hmem
        · refine notMem_parties hs hcome'.free g' ?_
          rw [hparty]
          exact List.mem_cons_of_mem _ hmem
        · refine hnodup.1 ?_
          rw [← List.mem_singleton.mp hmem]
          exact List.mem_map_of_mem hother
      obtain ⟨hdone, hrest⟩ := ih _ (rest ++ [target.name]) hready hafter hcomes' hnodup.2 (by
        rw [List.length_append, List.length_singleton]
        push_cast at hroom ⊢
        omega)
      refine ⟨hdone, ?_⟩
      rw [List.foldl_cons, hrest, hparties, Function.update_idem, List.map_cons, List.append_assoc]
      rfl

/-- The first invitation founds the group, and the others follow. -/
theorem foldl_invite_founding (hdistinct : Distinct bots) (hplain : ∀ bot ∈ bots, Plain bot.name)
    {leader : Str} (fuel : Nat) {order : Order} {orders : List Order} {target : Bot}
    {targets : List Bot} (hinvites : List.Forall₂ (Invites bots leader) (order :: orders)
      (target :: targets)) (h : Ready cfg bots s)
    (hfree : s.groupContainer.groupIdOf leader = [])
    (hcomes : ∀ other ∈ target :: targets, Comes bots s leader other)
    (hnodup : ((target :: targets).map Bot.name).Nodup)
    (hroom : ((target :: targets).length : Int) + 1 ≤ myMaxGroupMembers)
    (hfresh : s.groupContainer.FreshId order.env.uuid) :
    Ready cfg bots ((order :: orders).foldl (carryOut cfg bots (fuel + 1)) s) ∧
      ((order :: orders).foldl (carryOut cfg bots (fuel + 1)) s).groupContainer.parties =
        Function.update s.groupContainer.parties (getNewGroupId order.env.uuid)
          (leader :: (target :: targets).map Bot.name) := by
  obtain ⟨hinvite, hinvites⟩ := List.forall₂_cons.mp hinvites
  obtain ⟨hcome, hcomes⟩ := List.forall_mem_cons.mp hcomes
  rw [List.map_cons, List.nodup_cons] at hnodup
  rw [List.length_cons] at hroom
  have hs := h.wellFormed.toSound
  have hnone : s.groupContainer.groupIdOf order.bot.name = [] := by rw [hinvite.name, hfree]
  have heligible : s.groupContainer.Eligible order.bot.name target.name :=
    ⟨fun hgrouped => absurd hnone hgrouped, fun hgrouped => absurd hnone hgrouped,
      fun hgrouped => absurd hnone hgrouped, fun hgrouped => absurd hcome.free hgrouped⟩
  obtain ⟨hready, g, roster, hcase, hparties⟩ := carryOut_invite h hdistinct hinvite.mem hcome.mem
    hplain (by rw [hinvite.name]; exact hcome.name) hinvite.line (fun _ => hfresh) heligible hcome.free
    hinvite.time fuel
  obtain ⟨rfl, rfl⟩ : g = getNewGroupId order.env.uuid ∧ roster = [leader] := by
    rcases hcase with ⟨-, hg, hroster⟩ | ⟨hsame, hg, -⟩
    · exact ⟨hg, by rw [hroster, hinvite.name]⟩
    · exact absurd (hsame.symm.trans hnone) hg
  have hafter : (carryOut cfg bots (fuel + 1) s order).groupContainer.parties
      (getNewGroupId order.env.uuid) = leader :: [target.name] := by
    rw [hparties, Function.update_self]
    rfl
  have hcomes' : ∀ other ∈ targets,
      Comes bots (carryOut cfg bots (fuel + 1) s order) leader other := by
    intro other hother
    refine (hcomes other hother).of_update hs hready.wellFormed.toSound hparties fun hmem => ?_
    rcases List.mem_cons.mp hmem with heq | hmem
    · exact (hcomes other hother).name heq.symm
    · refine hnodup.1 ?_
      rw [← List.mem_singleton.mp hmem]
      exact List.mem_map_of_mem hother
  obtain ⟨hdone, hrest⟩ := foldl_invite hdistinct hplain fuel hinvites _ [target.name] hready hafter
    hcomes' hnodup.2 (by
      rw [List.length_singleton]
      push_cast at hroom ⊢
      omega)
  refine ⟨hdone, ?_⟩
  rw [List.foldl_cons, hrest, hparties, Function.update_idem, List.map_cons]
  rfl

end Runs

def sampleLeader : Bot := ⟨botTirio, 1⟩

def sampleTargets : List Bot := [⟨botTrula, 2⟩, ⟨⟨"Ulf".toList, "Dungeon".toList⟩, 3⟩]

/-- A line for a bot, that many seconds after the logins. -/
def sampleOrder (bot : Bot) (line : Str) (seconds : Int) : Order :=
  ⟨bot, line, sampleEnv (1010 + seconds) "b", sampleEnv (1011 + seconds) ""⟩

def sampleOrders : List Order :=
  [ sampleOrder sampleLeader "leave".toList 0
  , sampleOrder ⟨botTrula, 2⟩ "leave".toList 1
  , sampleOrder ⟨⟨"Ulf".toList, "Dungeon".toList⟩, 3⟩ "leave".toList 2
  , sampleOrder sampleLeader "invite Trula".toList 3
  , sampleOrder sampleLeader "invite Ulf".toList 4 ]

end Server

end DaraChat
