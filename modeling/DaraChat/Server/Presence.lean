import DaraChat.Server.Registry

set_option autoImplicit false

/-! # Presence

A member entry is marked online exactly while its name is registered. Both are changed by
connect, close and the group commands only, and each of them keeps the two in step; connect and
close touch nothing else of the container (`OnlyPresence`).
-/

namespace DaraChat

open GroupContainer

namespace GroupContainer

theorem mem_modifyMember {c : GroupContainer} (hc : c.NamesNodup) {n : Str}
    {f : GroupMember → GroupMember} {m' : GroupMember} :
    m' ∈ (c.modifyMember n f).myGroups ↔
      ∃ m ∈ c.myGroups, m' = if m.name = n then f m else m := by
  rw [modifyMember, Keyed.modifyFirst_eq_map GroupMember.name n f hc, List.mem_map]
  simp only [eq_comm]

/-- Every entry left by a departure is one of before, up to its leader flag. -/
theorem mem_groupDisband {c : GroupContainer} {n : Str} {m' : GroupMember}
    (h : m' ∈ (c.groupDisband n).2.myGroups) :
    ∃ m ∈ c.myGroups, m.name ≠ n ∧ m' = { m with isLeader := m'.isLeader } := by
  have hmap := map_groupDisband (c := c) (fun m => { m with isLeader := false }) (fun _ _ => rfl) n
  have hmem : { m' with isLeader := false } ∈
      (c.eraseMember n).myGroups.map fun m => { m with isLeader := false } := by
    rw [← hmap]
    exact List.mem_map_of_mem h
  obtain ⟨m, hm, heq⟩ := List.mem_map.mp hmem
  refine ⟨m, List.mem_of_mem_filter hm, by simpa using (List.mem_filter.mp hm).2, ?_⟩
  have hback := congrArg (fun x : GroupMember => { x with isLeader := m'.isLeader }) heq
  exact hback.symm

/-- An entry without its `isOnline` and `storeTime`, if it is one of `n`. -/
def hidePresence (n : Str) (m : GroupMember) : GroupMember :=
  if m.name = n then { m with isOnline := false, storeTime := 0 } else m

/-- The containers differ in `isOnline` and `storeTime` of entries of `n` at most. -/
def OnlyPresence (n : Str) (c c' : GroupContainer) : Prop :=
  c'.myInvites = c.myInvites ∧
    c'.myGroups.map (hidePresence n) = c.myGroups.map (hidePresence n)

theorem OnlyPresence.refl (n : Str) (c : GroupContainer) : OnlyPresence n c c := ⟨rfl, rfl⟩

theorem OnlyPresence.trans {n : Str} {c c' c'' : GroupContainer} (h : OnlyPresence n c c')
    (h' : OnlyPresence n c' c'') : OnlyPresence n c c'' :=
  ⟨h'.1.trans h.1, h'.2.trans h.2⟩

theorem onlyPresence_setMemberOnline (c : GroupContainer) (now : Time) (n : Str)
    (online : Bool) : OnlyPresence n c (c.setMemberOnline now n online).2 := by
  rw [setMemberOnline_eq]
  refine ⟨rfl, Keyed.map_modifyFirst _ _ _ (fun m hm => ?_) _⟩
  have hname : m.name = n := by simpa using hm
  simp [hidePresence, hname]

end GroupContainer

namespace Server

/-- Entries are sound, and online exactly while their name is registered. -/
structure Presence (s : Server) : Prop where
  sound : s.groupContainer.Sound
  named : ∀ m ∈ s.groupContainer.myGroups, m.name ≠ []
  online : ∀ m ∈ s.groupContainer.myGroups,
    m.isOnline = (s.activeSessions.lookup m.name).isSome

section Moves

variable {s : Server} {ws : SocketId} {sock : Socket}

theorem presence_init : Presence {} where
  sound := sound_init
  named := by intro m hm; cases hm
  online := by intro m hm; cases hm

/-- The invariant is about registry and entries only. -/
theorem Presence.congr {s' : Server} (hp : s.Presence)
    (hactive : s'.activeSessions = s.activeSessions)
    (hgroups : s'.groupContainer.myGroups = s.groupContainer.myGroups) : s'.Presence where
  sound := hp.sound.of_sublist (by rw [keys, keys, hgroups])
  named := by rw [hgroups]; exact hp.named
  online := by rw [hgroups, hactive]; exact hp.online

/-- A new entry of a registered name. -/
theorem Presence.append {s' : Server} (hp : s.Presence) {newMember : GroupMember}
    (hactive : s'.activeSessions = s.activeSessions)
    (hgroups : s'.groupContainer = s.groupContainer.append newMember)
    (hname : s.groupContainer.groupIdOf newMember.name = [])
    (hg : startsWith newMember.groupId myGroupPrefix = true) (hne : newMember.name ≠ [])
    (honline : newMember.isOnline = (s.activeSessions.lookup newMember.name).isSome) :
    s'.Presence where
  sound := by rw [hgroups]; exact hp.sound.append hname hg
  named := by
    intro m hm
    rw [hgroups] at hm
    rcases List.mem_append.mp hm with hm | hm
    · exact hp.named m hm
    · rw [List.mem_singleton.mp hm]
      exact hne
  online := by
    intro m hm
    rw [hgroups] at hm
    rw [hactive]
    rcases List.mem_append.mp hm with hm | hm
    · exact hp.online m hm
    · rw [List.mem_singleton.mp hm]
      exact honline

/-- The entry of `n` is marked to agree with what the registry says of `n` afterwards. -/
theorem Presence.modifyMember {s' : Server} (hp : s.Presence) {n : Str}
    {f : GroupMember → GroupMember}
    (hgroups : s'.groupContainer = s.groupContainer.modifyMember n f)
    (hname : ∀ m, (f m).name = m.name) (hgroup : ∀ m, (f m).groupId = m.groupId)
    (hself : ∀ m, (f m).isOnline = (s'.activeSessions.lookup n).isSome)
    (hother : ∀ n', n' ≠ n → s'.activeSessions.lookup n' = s.activeSessions.lookup n') :
    s'.Presence where
  sound := by
    rw [hgroups]
    exact hp.sound.of_sublist (by rw [keys_modifyMember hname hgroup])
  named := by
    intro m' hm'
    rw [hgroups, mem_modifyMember hp.sound.namesNodup] at hm'
    obtain ⟨m, hm, rfl⟩ := hm'
    split
    · rw [hname]
      exact hp.named m hm
    · exact hp.named m hm
  online := by
    intro m' hm'
    rw [hgroups, mem_modifyMember hp.sound.namesNodup] at hm'
    obtain ⟨m, hm, rfl⟩ := hm'
    by_cases hn : m.name = n
    · rw [if_pos hn, hself, hname, hn]
    · rw [if_neg hn, hother m.name hn]
      exact hp.online m hm

theorem Presence.leaveGroup (hp : s.Presence) (ws : SocketId) (sock : Socket) :
    (s.leaveGroup ws sock).Presence where
  sound := hp.sound.groupDisband _
  named := by
    intro m' hm'
    obtain ⟨m, hm, -, heq⟩ := mem_groupDisband hm'
    rw [heq]
    exact hp.named m hm
  online := by
    intro m' hm'
    obtain ⟨m, hm, -, heq⟩ := mem_groupDisband hm'
    rw [heq]
    exact hp.online m hm

theorem Presence.withdrawn (hp : s.Presence) (env : Env) (ws : SocketId) (sock : Socket) :
    (s.withdraw env ws sock).Presence := by
  refine hp.modifyMember (setMemberOnline_eq ..) (fun _ => rfl) (fun _ => rfl) ?_ ?_
  · intro m
    show false = ((s.activeSessions.erase sock.data.name).lookup sock.data.name).isSome
    rw [AList.lookup_erase]
    rfl
  · exact fun n' hn' => AList.lookup_erase_ne hn'

theorem Presence.enrolled (hp : s.Presence) (env : Env) (ws : SocketId) (sock : Socket) :
    (s.enroll env ws sock).Presence := by
  refine hp.modifyMember (setMemberOnline_eq ..) (fun _ => rfl) (fun _ => rfl) ?_ ?_
  · intro m
    show true = ((s.activeSessions.insert sock.data.name ws).lookup sock.data.name).isSome
    rw [AList.lookup_insert]
    rfl
  · exact fun n' hn' => AList.lookup_insert_ne hn'

/-- **Every move keeps presence.** -/
theorem Presence.move {guard : Guard} {s' : Server}
    (hm : Move guard s s') (hr : s.Registry) (hp : s.Presence) : s'.Presence := by
  cases hm with
  | opened ws h => exact hp.congr rfl rfl
  | retired ws sock phase h => exact hp.congr rfl rfl
  | withdrawn env ws sock h =>
      exact (hp.withdrawn env ws sock).congr (sendIf_activeSessions ..) (by simp)
  | enrolled env ws sock login h =>
      exact (hp.enrolled env ws _).congr (sendIf_activeSessions ..) (by simp)
  | stored ws sock topic hs => exact hp.congr rfl rfl
  | removed ws sock topic hs => exact hp.congr rfl rfl
  | left ws sock hs => exact hp.leaveGroup ws sock
  | disbanded ws sock hs => exact (hp.leaveGroup ws sock).congr rfl rfl
  -- the founder is online: its own frame has founded the group
  | founded env ws sock hs _ hfree hnone =>
      have hgroups : (s.foundGroup env ws sock).groupContainer =
          s.groupContainer.append (founder env.time env.uuid sock.data.name) := rfl
      exact hp.append rfl hgroups hnone (startsWith_getNewGroupId _)
        (hr.named ws sock hs.found hs.connected) (hr.isSome_lookup hs).symm
  | admitted env ws sock inviter hs _ hfree hjoin =>
      have hgroups : (s.enterGroup env ws sock inviter).groupContainer =
          s.groupContainer.append
            (joiner env.time sock.data.name (s.groupContainer.groupIdOf inviter)) := rfl
      have henter : (s.enterGroup env ws sock inviter).Presence :=
        hp.append rfl hgroups hjoin.member_free
          (hp.sound.groupIdOf_prefixed hjoin.leader_grouped)
          (hr.named ws sock hs.found hs.connected) (hr.isSome_lookup hs).symm
      exact henter.congr rfl rfl
  | invited env ws sock chatMsg hs => exact hp.congr rfl rfl
  | pruned env => exact hp.congr rfl rfl
  | alive env ws sock member hs hmember =>
      refine hp.modifyMember (aliveMsg_eq ..) (fun _ => rfl) (fun _ => rfl) ?_ fun _ _ => rfl
      rw [hmember]
      exact fun _ => (hr.isSome_lookup hs).symm
  | relayed ws sock topic chatMsg hs => exact hp.congr rfl rfl
  | forwarded ws sock topic rest hs => exact hp.congr rfl rfl
  | broadcast ws sock data hs => exact hp.congr rfl rfl
  | sent ws sock message hs => exact hp.congr rfl rfl

end Moves

/-- Registry and presence in every reachable state. -/
theorem presence_run (cfg : Config) (evs : List Event) :
    ((machine cfg).run evs).Registry ∧ ((machine cfg).run evs).Presence :=
  invariant_of_moves (I := fun s => s.Registry ∧ s.Presence) ⟨registry_init, presence_init⟩
    (fun hm h => ⟨h.1.move hm, h.2.move hm h.1⟩) cfg evs

/-! ## Connect and close -/

section ConnectAndClose

variable (s : Server) (env : Env) {ws : SocketId} {sock : Socket}

/-- A close changes the presence of the character of the closing socket only. -/
theorem onlyPresence_closeSocket (h : s.sockets ws = some sock) :
    OnlyPresence sock.data.name s.groupContainer (s.closeSocket env ws).groupContainer := by
  by_cases hreg : sock.data.connected = true ∧ s.activeSessions.lookup sock.data.name = some ws
  · rw [closeSocket_of_registered s env ws h hreg.1 hreg.2]
    rw [sendIf_groupContainer]
    exact onlyPresence_setMemberOnline s.groupContainer env.time sock.data.name false
  · rw [closeSocket_of_not_registered s env ws h fun hc hr => hreg ⟨hc, hr⟩]
    exact .refl ..

theorem onlyPresence_endSocket (h : s.sockets ws = some sock) :
    OnlyPresence sock.data.name s.groupContainer (s.endSocket env ws).groupContainer := by
  rcases endSocket_cases s env ws h with ⟨-, heq⟩ | ⟨-, heq⟩ | ⟨-, heq⟩
  · rw [heq]
    exact .refl ..
  · rw [heq]
    exact .refl ..
  · rw [heq]
    exact onlyPresence_closeSocket s env h

/-- The old session of a name is one of that name, so its end changes that name's presence. -/
theorem onlyPresence_endOld (hr : s.Registry) (ws : SocketId) (name : Str) :
    OnlyPresence name s.groupContainer (s.endOld env ws name).groupContainer := by
  rw [endOld]
  cases hlook : s.activeSessions.lookup name with
  | none => exact .refl ..
  | some old =>
      by_cases hold : old = ws
      · simp [hold, OnlyPresence.refl]
      · obtain ⟨oldSock, hsock, -, -, hname⟩ := hr.registered name old hlook
        simp only [ne_eq, hold, not_false_eq_true, if_true]
        rw [← hname]
        exact onlyPresence_endSocket s env hsock

theorem onlyPresence_completeConnect (hr : s.Registry) (ws : SocketId) (sock : Socket) :
    OnlyPresence sock.data.name s.groupContainer
      (s.completeConnect env ws sock).groupContainer := by
  have henroll := (onlyPresence_endOld s env hr ws sock.data.name).trans
    (onlyPresence_setMemberOnline (s.endOld env ws sock.data.name).groupContainer env.time
      sock.data.name true)
  rw [completeConnect_eq, sendIf_groupContainer]
  exact henroll

/-- A closed socket keeps its name. -/
theorem name_closeSocket (h : s.sockets ws = some sock) {sock' : Socket}
    (h' : (s.closeSocket env ws).sockets ws = some sock') : sock'.data.name = sock.data.name := by
  rw [(closeSocket_frame s env ws h).1, setSocket_sockets_self, Option.some.injEq] at h'
  rw [← h']
  rfl

theorem name_endSocket (h : s.sockets ws = some sock) {sock' : Socket}
    (h' : (s.endSocket env ws).sockets ws = some sock') : sock'.data.name = sock.data.name := by
  rcases endSocket_cases s env ws h with ⟨-, heq⟩ | ⟨-, heq⟩ | ⟨-, heq⟩
  · rw [heq, h, Option.some.injEq] at h'
    rw [h']
  · rw [heq, setSocket_sockets_self, Option.some.injEq] at h'
    rw [← h']
    rfl
  · rw [heq] at h'
    exact name_closeSocket s env h h'

theorem name_completeConnect (ws : SocketId) (sock : Socket) {sock' : Socket}
    (h' : (s.completeConnect env ws sock).sockets ws = some sock') :
    sock'.data.name = sock.data.name := by
  obtain ⟨sock₂, hsockets, -, hname, -⟩ := enroll_sockets (s.endOld env ws sock.data.name) env ws
    sock
  have hself : (s.completeConnect env ws sock).sockets ws = some sock₂ := by
    rw [completeConnect_eq, sendIf_sockets, hsockets]
    exact setSocket_sockets_self ..
  rw [hself, Option.some.injEq] at h'
  rw [← h', hname]

/-- The event is a connect frame or the close of socket `ws`. -/
def IsConnectOrClose (ws : SocketId) : Event → Prop
  | .text _ ws' msg => ws' = ws ∧ startsWith msg "connect:".toList = true
  | .closed _ ws' => ws' = ws
  | _ => False

/-- The only name whose presence a connect or close changes is the one the socket has then. -/
theorem onlyPresence_step (cfg : Config) (hr : s.Registry) {e : Event}
    (he : IsConnectOrClose ws e) :
    ∃ n, (∀ sock, (s.step cfg e).sockets ws = some sock → sock.data.name = n) ∧
      OnlyPresence n s.groupContainer (s.step cfg e).groupContainer := by
  have hsame : ∀ s' : Server, s' = s → ∃ n, (∀ sock, s'.sockets ws = some sock →
      sock.data.name = n) ∧ OnlyPresence n s.groupContainer s'.groupContainer := by
    rintro s' rfl
    cases hsock : s'.sockets ws with
    | none => exact ⟨[], fun _ h => absurd h (by simp), .refl ..⟩
    | some sock => exact ⟨sock.data.name, fun _ h => by rw [Option.some.inj h], .refl ..⟩
  cases e with
  | opened ws' => exact he.elim
  | binary env ws' data => exact he.elim
  | closed env ws' =>
      obtain rfl : ws' = ws := he
      simp only [step]
      split
      case h_1 => exact hsame s rfl
      case h_2 sock hsock =>
        split
        · exact hsame s rfl
        · exact ⟨sock.data.name, fun _ h' => name_closeSocket s env hsock h',
            onlyPresence_closeSocket s env hsock⟩
  | text env ws' msg =>
      obtain ⟨rfl, hmsg⟩ := he
      simp only [step]
      split
      case h_1 => exact hsame s rfl
      case h_2 sock hsock =>
        -- a socket that is refused at login is ended under the name it had, which may be empty
        have hend : ∃ n, (∀ sock, (s.endSocket env ws').sockets ws' = some sock →
            sock.data.name = n) ∧
            OnlyPresence n s.groupContainer (s.endSocket env ws').groupContainer :=
          ⟨sock.data.name, fun _ h' => name_endSocket s env hsock h',
            onlyPresence_endSocket s env hsock⟩
        split
        case isFalse => exact hsame s rfl
        case isTrue =>
          rw [handleText, if_pos hmsg, handleConnectMessage]
          split
          · exact hend
          split
          case h_1 login _ =>
            exact ⟨login.characterName, fun _ h' => name_completeConnect s env ws' _ h',
              onlyPresence_completeConnect s env hr ws' _⟩
          case h_2 => exact hend

end ConnectAndClose

/-- **Session registry and presence.** In every reachable state a registered name belongs to a
socket that has logged in under it and has not closed, a live session is the one registered
under its name, and an entry is online exactly while its name is registered; and a connect or
close changes nothing of the container but the presence of one name. -/
theorem sessions_and_presence (cfg : Config) (evs : List Event) :
    let s := (machine cfg).run evs
    (∀ n ws, s.activeSessions.lookup n = some ws → ∃ sock, s.sockets ws = some sock ∧
      sock.phase ≠ .closed ∧ sock.data.connected = true ∧ sock.data.name = n) ∧
    (∀ ws sock, s.sockets ws = some sock → sock.phase = .live → sock.data.connected = true →
      s.activeSessions.lookup sock.data.name = some ws) ∧
    (∀ m ∈ s.groupContainer.myGroups,
      m.isOnline = true ↔ (s.activeSessions.lookup m.name).isSome = true) ∧
    ∀ ws e, IsConnectOrClose ws e →
      ∃ n, (∀ sock, (s.step cfg e).sockets ws = some sock → sock.data.name = n) ∧
        OnlyPresence n s.groupContainer (s.step cfg e).groupContainer := by
  intro s
  obtain ⟨hr, hp⟩ := presence_run cfg evs
  refine ⟨hr.registered, fun ws sock h hlive hc => hr.live ws sock ⟨h, hlive, hc⟩, ?_, ?_⟩
  · intro m hm
    rw [hp.online m hm]
  · exact fun ws e he => onlyPresence_step s cfg hr he

end Server

end DaraChat
