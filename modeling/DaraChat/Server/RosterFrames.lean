import DaraChat.Auth.Login
import DaraChat.Group.Wire
import DaraChat.Server.Commands
import DaraChat.Server.Rosters

set_option autoImplicit false

/-! # Roster frames survive the wire

A roster frame is written with three separators and no escapes. Its message is read back because
no name and no group id contains a `;`: names come from login frames, whose fields it separates,
and ids from `GetNewGroupId`, which draws hexadecimal digits. The leader it names is among the
members, because every group has a leader.
-/

namespace DaraChat

open GroupContainer

/-! ## Names and ids without the separator -/

/-- A hexadecimal digit, as the stream of `GetNewGroupId` prints it. -/
def hexDigit (d : Fin 16) : Char := Nat.digitChar d

/-- The texts that `uDaraChatLibrary::GetNewGroupId` draws: a version 4 UUID. -/
def IsUuid (uuid : Str) : Prop :=
  ∃ (a b c d e : List (Fin 16)) (variant : Fin 16),
    (a.length = 8 ∧ b.length = 4 ∧ c.length = 3 ∧ d.length = 3 ∧ e.length = 12) ∧
    (8 ≤ variant ∧ variant ≤ 11) ∧
    uuid = a.map hexDigit ++ "-".toList ++ b.map hexDigit ++ "-4".toList ++ c.map hexDigit
      ++ "-".toList ++ [hexDigit variant] ++ d.map hexDigit ++ "-".toList ++ e.map hexDigit

theorem IsUuid.plain {uuid : Str} (h : IsUuid uuid) : ';' ∉ uuid := by
  obtain ⟨a, b, c, d, e, variant, -, -, rfl⟩ := h
  have hdigit : ∀ d, hexDigit d ≠ ';' := by decide
  have hdigits : ∀ l : List (Fin 16), ';' ∉ l.map hexDigit := by
    intro l hmem
    obtain ⟨d, -, hd⟩ := List.mem_map.mp hmem
    exact hdigit d hd
  have hvariant : ';' ≠ hexDigit variant := (hdigit variant).symm
  have hdash : ';' ∉ "-".toList ∧ ';' ∉ "-4".toList := by decide
  simp only [List.mem_append, hdigits, hdash.1, hdash.2, List.mem_singleton, hvariant, or_self,
    not_false_eq_true]

/-- **The name of a login contains no `;`**, because that ends a field. -/
theorem verifyLogin_name_plain {lib : JwtLib} {message secret : Str} {now : Date}
    {login : AuthenticatedLogin} (h : verifyLogin lib message secret now = .ok login) :
    ';' ∉ login.characterName := by
  obtain ⟨token, ⟨-, body, fields, -, hfields, pass, iat, exp, hclaims⟩, -⟩ := verifyLogin_iff.mp h
  obtain ⟨l, r, hsplit, -⟩ := List.lookup_eq_some_iff.mp hclaims.name
  have hmem : ("name".toList, login.characterName) ∈ fields := by
    rw [hsplit]
    exact List.mem_append_right _ List.mem_cons_self
  exact fun hmem' => hfields.separator _ hmem (List.mem_append_right _ (List.mem_cons_of_mem _ hmem'))

namespace Server

/-- Every id of a group founded in the run is one that `GetNewGroupId` draws. -/
def DrawnIds (cfg : Config) (evs : List Event) : Prop :=
  ∀ p ∈ foundings cfg evs, ∃ uuid, p.1 = getNewGroupId uuid ∧ IsUuid uuid

/-- The logins and foundings of such a run bring in no `;`. -/
def plainGuard : Guard where
  logs := fun _ login => ';' ∉ login.characterName
  founds := fun _ g _ => ';' ∉ g

/-- The name of a session contains no `;`. -/
def PlainName (_ : SocketId) (sock : Socket) : Prop :=
  sock.data.connected = true → ';' ∉ sock.data.name

theorem PlainName.of_same {ws : SocketId} {sock sock' : Socket} (h : PlainName ws sock)
    (hsame : Socket.SameSession sock sock') : PlainName ws sock' := by
  intro hc
  rw [hsame.name]
  exact h (hsame.connected ▸ hc)

theorem plainName_invariant : SocketInvariant plainGuard PlainName where
  opened := fun _ hc => absurd hc (by simp [openSocket])
  retired := fun _ _ _ _ h => h
  enrolled := fun ws sock login groupId _ _ _ hlogs _ => by
    refine PlainName.of_same ?_ (Socket.sameSession_subscribeStandardTopics _)
    exact fun _ => hlogs
  stored := fun _ sock topic _ _ _ h =>
    h.of_same (Socket.sameSession_storeTopicSubscription sock topic)
  removed := fun _ sock topic _ _ h =>
    h.of_same (Socket.sameSession_removeTopicSubscription sock topic)
  left := fun ws sock _ h => by
    have hplain : PlainName ws sock.removeGroupSubscription :=
      h.of_same (Socket.sameSession_removeGroupSubscription sock)
    exact hplain
  entered := fun ws sock groupId _ _ _ _ h => by
    have hplain : PlainName ws (sock.setGroupId groupId) := h
    exact hplain.of_same (Socket.sameSession_subscribeGroupTopic _)

/-- What holds of names and groups in a run with drawn ids. -/
structure Printable (s : Server) : Prop where
  consistent : s.Consistent
  sessions : s.AllSockets PlainName
  entries : ∀ key ∈ s.groupContainer.keys, ';' ∉ key.1 ∧ ';' ∉ key.2
  leaders : s.groupContainer.HasLeaders

theorem Printable.move {s s' : Server} (hm : Move plainGuard s s') (h : s.Printable) :
    s'.Printable := by
  have hbrings : ∀ c cmd, Serves plainGuard s c cmd → cmd.Brings (';' ∉ ·) (';' ∉ ·) := by
    intro c cmd hserves
    cases cmd with
    | groupStartGroup now uuid leaderName =>
        obtain ⟨-, ⟨ws, sock, hs, rfl⟩, hfounds⟩ := hserves
        exact ⟨h.sessions ws sock hs.found hs.connected, hfounds⟩
    | groupJoin now memberName leaderName =>
        obtain ⟨ws, sock, hs, rfl⟩ := hserves
        exact h.sessions ws sock hs.found hs.connected
    | _ => trivial
  have hcontainer := hm.container_invariant
    (I := fun c => c.Sound ∧ (∀ key ∈ c.keys, ';' ∉ key.1 ∧ ';' ∉ key.2) ∧ c.HasLeaders)
    (fun c cmd hserves ⟨hsound, hkeys, hleaders⟩ =>
      ⟨sound_exec hsound cmd, keys_exec hkeys (hbrings c cmd hserves),
        hasLeaders_exec hleaders hsound cmd⟩)
    ⟨h.consistent.presence.sound, h.entries, h.leaders⟩
  exact ⟨h.consistent.move hm, h.sessions.move plainName_invariant hm h.consistent.presence,
    hcontainer.2.1, hcontainer.2.2⟩

theorem printable_init : Printable {} where
  consistent := consistent_init
  sessions := allSockets_init
  entries := fun _ hkey => nomatch hkey
  leaders := hasLeaders_init

theorem plainGuard_allows (cfg : Config) (s : Server) {e : Event}
    (hids : ∀ p ∈ s.founding e, ∃ uuid, p.1 = getNewGroupId uuid ∧ IsUuid uuid) :
    plainGuard.Allows cfg s e := by
  refine { allows_any cfg s e with logs := fun p hp => ?_, founds := fun p hp => ?_ }
  · obtain ⟨env, msg, sock, -, -, -, -, hlogin⟩ := logging_eq_some hp
    exact verifyLogin_name_plain hlogin
  · obtain ⟨uuid, hid, huuid⟩ := hids p hp
    have hprefix : ';' ∉ myGroupPrefix := by decide
    show ';' ∉ p.1
    rw [hid]
    exact fun hmem => (List.mem_append.mp hmem).elim hprefix huuid.plain

theorem printable_run (cfg : Config) (evs : List Event) (hids : DrawnIds cfg evs) :
    ((machine cfg).run evs).Printable := by
  refine (machine cfg).history_induction (P := fun evs s => DrawnIds cfg evs → s.Printable)
    (fun _ => printable_init) (fun evs e ih hids => ?_) evs hids
  rw [DrawnIds, foundings_snoc] at hids
  refine step_of_move Printable.move cfg (plainGuard_allows cfg _ fun p hp => ?_)
    (ih fun p hp => hids p (List.mem_append_left _ hp))
  exact hids p (List.mem_append_right _ (Option.mem_toList.mpr hp))

/-! ## The frame of a roster -/

/-- The frame `SendGroupUpdateInfo` publishes for group `g` is read as what it was written from:
the group, its leader and its members with their online flags, in order. -/
def RosterSurvives (c : GroupContainer) (g : Str) (now : Time) : Prop :=
  let info := c.getGroupInfoByGroupId g
  let read := tryParseMessage (groupUpdateMsg c g).serialize
  (read.1 = true ∧ read.2.1.type = .groupInfo) ∧
    (∃ received, GroupInfo.deserialize now read.2.1.message = some received ∧
      received.groupId = info.groupId ∧ received.leaderName = info.leaderName ∧
      received.isLeader = info.isLeader ∧ received.memberCount = info.memberCount ∧
      received.errorCode = info.errorCode ∧
      received.groupMembers.map (fun m => (m.name, m.isOnline)) =
        info.groupMembers.map fun m => (m.name, m.isOnline)) ∧
    info.memberCount = info.groupMembers.length ∧
    info.leaderName ∈ info.groupMembers.map GroupMember.name

theorem Printable.rosterSurvives {s : Server} (h : s.Printable) {g : Str}
    (hne : s.groupContainer.entriesOf g ≠ []) (now : Time) :
    RosterSurvives s.groupContainer g now := by
  obtain ⟨leader, hlast⟩ := h.leaders g hne
  have hplain : ∀ m ∈ s.groupContainer.entriesOf g, ';' ∉ m.name ∧ ';' ∉ m.groupId := by
    intro m hm
    exact h.entries (m.name, m.groupId) (List.mem_map_of_mem (mem_entriesOf.mp hm).1)
  obtain ⟨hmem, -⟩ := mem_of_lastLeader hlast
  have hinfo := getGroupInfoByGroupId_eq s.groupContainer g
  rw [hlast] at hinfo
  -- neither the id nor a name holds a semicolon, the outer separator of the frame
  have hmessage : GroupInfo.deserialize now
      (s.groupContainer.getGroupInfoByGroupId g).serializeToSend =
      some ((s.groupContainer.getGroupInfoByGroupId g).received now) := by
    rw [hinfo]
    refine GroupInfo.deserialize_serializeToSend now ?_ (hplain leader hmem).1
      fun m hm => (hplain m hm).1
    show ';' ∉ g
    rw [← (mem_entriesOf.mp hmem).2]
    exact (hplain leader hmem).2
  unfold RosterSurvives
  rw [tryParseMessage_groupUpdateMsg]
  refine ⟨⟨rfl, rfl⟩, ⟨_, hmessage, rfl, rfl, rfl, rfl, rfl, ?_⟩, ?_, ?_⟩
  · simp [GroupInfo.received]
  · rw [hinfo]
  · rw [hinfo]
    exact List.mem_map_of_mem hmem

/-- **Roster frames survive the wire**, for every group with a member in every reachable state. -/
theorem rosterSurvives_run (cfg : Config) (evs : List Event) (hids : DrawnIds cfg evs) (g : Str)
    (hne : ((machine cfg).run evs).groupContainer.entriesOf g ≠ []) (now : Time) :
    RosterSurvives ((machine cfg).run evs).groupContainer g now :=
  (printable_run cfg evs hids).rosterSurvives hne now

/-- The id of Tirio's group. -/
def sampleUuid : Str := "3f2504e0-4f89-41d3-9a0c-0305e82c3301".toList

/-- Tirio founds a group with this id by inviting Trula, who joins. -/
def rosterEvents : List Event :=
  loginEvents 1 tirio ++ loginEvents 2 trula ++
    [ .text { now := 1001000000000, uuid := sampleUuid } 1 "GroupInvite:Tirio:Trula:".toList
    , .text (sampleEnv 1002 "") 2 "GroupJoin:Trula:Tirio:".toList ]

theorem rosterSurvives_rosterEvents :
    (((machine sampleConfig).run rosterEvents).groupContainer.roster
        (getNewGroupId sampleUuid) =
      "group_3f2504e0-4f89-41d3-9a0c-0305e82c3301;Tirio;1;2;0;Tirio,1;Trula,1".toList) ∧
    RosterSurvives ((machine sampleConfig).run rosterEvents).groupContainer
      (getNewGroupId sampleUuid) 1003 := by
  have hrun : foundings sampleConfig rosterEvents = [(getNewGroupId sampleUuid, "Tirio".toList)] ∧
      ((machine sampleConfig).run rosterEvents).groupContainer.roster (getNewGroupId sampleUuid) =
        "group_3f2504e0-4f89-41d3-9a0c-0305e82c3301;Tirio;1;2;0;Tirio,1;Trula,1".toList ∧
      ((machine sampleConfig).run rosterEvents).groupContainer.entriesOf
        (getNewGroupId sampleUuid) ≠ [] := by
    decide +kernel
  have huuid : IsUuid sampleUuid :=
    ⟨[3, 15, 2, 5, 0, 4, 14, 0], [4, 15, 8, 9], [1, 13, 3], [10, 0, 12],
      [0, 3, 0, 5, 14, 8, 2, 12, 3, 3, 0, 1], 9, by decide, by decide, by decide⟩
  refine ⟨hrun.2.1, rosterSurvives_run sampleConfig rosterEvents ?_ _ hrun.2.2 1003⟩
  intro p hp
  rw [hrun.1, List.mem_singleton] at hp
  exact ⟨sampleUuid, by rw [hp], huuid⟩

end Server

end DaraChat
