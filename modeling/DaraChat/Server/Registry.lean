import DaraChat.Group.Sound
import DaraChat.Server.Moves

set_option autoImplicit false

/-! # The session registry

`Registry` is the invariant of `activeSessions`: it maps a name only to a socket that has logged
in under that name and has not closed, and every live session is the one registered under its
name. A login replaces the registered socket after it has ended the old one, and a close takes
the name out only if it is registered to the closing socket.
-/

namespace DaraChat

open GroupContainer

namespace Server

/-- The session registry and the sockets agree. -/
structure Registry (s : Server) : Prop where
  registered : ∀ n ws, s.activeSessions.lookup n = some ws → ∃ sock, s.sockets ws = some sock ∧
    sock.phase ≠ .closed ∧ sock.data.connected = true ∧ sock.data.name = n
  live : ∀ ws sock, s.Session ws sock → s.activeSessions.lookup sock.data.name = some ws
  named : ∀ ws sock, s.sockets ws = some sock → sock.data.connected = true → sock.data.name ≠ []

section Sockets

variable {s : Server} {ws ws' : SocketId} {sock sock' : Socket}

theorem setSocket_cases (h : (s.setSocket ws sock).sockets ws' = some sock') :
    ws' = ws ∧ sock' = sock ∨ ws' ≠ ws ∧ s.sockets ws' = some sock' := by
  by_cases hws : ws' = ws
  · rw [hws, setSocket_sockets_self] at h
    exact Or.inl ⟨hws, (Option.some.inj h).symm⟩
  · rw [setSocket_sockets_ne _ _ _ hws] at h
    exact Or.inr ⟨hws, h⟩

theorem registry_init : Registry {} where
  registered := by intro n ws h; cases h
  live := by intro ws sock h; cases h.found
  named := by intro ws sock h; cases h

/-- The invariant is about sockets and registry only. -/
theorem Registry.congr {s' : Server} (hr : s.Registry) (hsockets : s'.sockets = s.sockets)
    (hactive : s'.activeSessions = s.activeSessions) : s'.Registry where
  registered := by rw [hsockets, hactive]; exact hr.registered
  live := by
    intro ws sock hs
    rw [hactive]
    exact hr.live ws sock (hs.of_sockets (congrFun hsockets ws).symm)
  named := by rw [hsockets]; exact hr.named

/-- A change of a socket that keeps its phase and its login. -/
theorem Registry.setSocket (hr : s.Registry) (h : s.sockets ws = some sock)
    (hphase : sock'.phase = sock.phase) (hc : sock'.data.connected = sock.data.connected)
    (hname : sock'.data.name = sock.data.name) : (s.setSocket ws sock').Registry where
  registered := by
    intro n ws₁ hn
    obtain ⟨sock₁, h₁, hp₁, hc₁, hn₁⟩ := hr.registered n ws₁ hn
    by_cases hws : ws₁ = ws
    · subst hws
      rw [h, Option.some.injEq] at h₁
      subst h₁
      exact ⟨sock', setSocket_sockets_self .., by rwa [hphase], by rwa [hc], by rwa [hname]⟩
    · exact ⟨sock₁, by rwa [setSocket_sockets_ne _ _ _ hws], hp₁, hc₁, hn₁⟩
  live := by
    intro ws₁ sock₁ hs
    rcases setSocket_cases hs.found with ⟨rfl, rfl⟩ | ⟨-, h₁⟩
    · rw [hname]
      exact hr.live ws₁ sock ⟨h, hphase ▸ hs.live, hc ▸ hs.connected⟩
    · exact hr.live ws₁ sock₁ ⟨h₁, hs.live, hs.connected⟩
  named := by
    intro ws₁ sock₁ h₁ hc₁
    rcases setSocket_cases h₁ with ⟨rfl, rfl⟩ | ⟨-, h₁⟩
    · rw [hname]
      exact hr.named ws₁ sock h (hc ▸ hc₁)
    · exact hr.named ws₁ sock₁ h₁ hc₁

theorem Registry.isSome_lookup (hr : s.Registry) (hs : s.Session ws sock) :
    (s.activeSessions.lookup sock.data.name).isSome = true := by
  rw [hr.live ws sock hs]
  rfl

theorem Registry.mem_keys (hr : s.Registry) (hs : s.Session ws sock) :
    sock.data.name ∈ s.activeSessions.keys :=
  AList.mem_keys.mp (AList.lookup_isSome.mp (hr.isSome_lookup hs))

/-- A registered name belongs to one socket: another socket has another name. -/
theorem Registry.name_ne (hr : s.Registry) {n : Str} (hn : s.activeSessions.lookup n = some ws')
    (hs : s.Session ws sock) (hws : ws' ≠ ws) : n ≠ sock.data.name := by
  rintro rfl
  rw [hr.live ws sock hs, Option.some.injEq] at hn
  exact hws hn.symm

/-- A new socket stands at an address where nothing is registered. -/
theorem Registry.opened (hr : s.Registry)
    (h : ∀ sock, s.sockets ws = some sock → sock.phase = .closed) :
    (s.setSocket ws (openSocket ws)).Registry where
  registered := by
    intro n ws₁ hn
    obtain ⟨sock₁, h₁, hp₁, hc₁, hn₁⟩ := hr.registered n ws₁ hn
    by_cases hws : ws₁ = ws
    · subst hws
      exact absurd (h sock₁ h₁) hp₁
    · exact ⟨sock₁, by rwa [setSocket_sockets_ne _ _ _ hws], hp₁, hc₁, hn₁⟩
  live := by
    intro ws₁ sock₁ hs
    rcases setSocket_cases hs.found with ⟨rfl, rfl⟩ | ⟨-, h₁⟩
    · exact absurd hs.connected (by simp [openSocket])
    · exact hr.live ws₁ sock₁ ⟨h₁, hs.live, hs.connected⟩
  named := by
    intro ws₁ sock₁ h₁ hc₁
    rcases setSocket_cases h₁ with ⟨rfl, rfl⟩ | ⟨-, h₁⟩
    · exact absurd hc₁ (by simp [openSocket])
    · exact hr.named ws₁ sock₁ h₁ hc₁

/-- A socket retires: it must not be registered any more if it closes. -/
theorem Registry.retired (hr : s.Registry) {phase : Phase} (h : s.sockets ws = some sock)
    (hphase : phase ≠ .live)
    (hreg : phase = .closed → ∀ n, s.activeSessions.lookup n ≠ some ws) :
    (s.setSocket ws (sock.retire phase)).Registry where
  registered := by
    intro n ws₁ hn
    obtain ⟨sock₁, h₁, hp₁, hc₁, hn₁⟩ := hr.registered n ws₁ hn
    by_cases hws : ws₁ = ws
    · subst hws
      rw [h, Option.some.injEq] at h₁
      subst h₁
      exact ⟨_, setSocket_sockets_self .., fun hclosed => hreg hclosed n hn, hc₁, hn₁⟩
    · exact ⟨sock₁, by rwa [setSocket_sockets_ne _ _ _ hws], hp₁, hc₁, hn₁⟩
  live := by
    intro ws₁ sock₁ hs
    rcases setSocket_cases hs.found with ⟨rfl, rfl⟩ | ⟨-, h₁⟩
    · exact absurd hs.live hphase
    · exact hr.live ws₁ sock₁ ⟨h₁, hs.live, hs.connected⟩
  named := by
    intro ws₁ sock₁ h₁ hc₁
    rcases setSocket_cases h₁ with ⟨rfl, rfl⟩ | ⟨-, h₁⟩
    · exact hr.named ws₁ sock h hc₁
    · exact hr.named ws₁ sock₁ h₁ hc₁

theorem Registry.leaveGroup (hr : s.Registry) (hs : s.Session ws sock) :
    (s.leaveGroup ws sock).Registry := by
  have hsame := Socket.sameSession_removeGroupSubscription sock
  refine Registry.congr (hr.setSocket hs.found ?_ ?_ ?_) rfl rfl
  exacts [hsame.phase, hsame.connected, hsame.name]

theorem Registry.enterGroup (hr : s.Registry) (hs : s.Session ws sock) (groupId : Str) :
    (s.setSocket ws (sock.setGroupId groupId).subscribeGroupTopic).Registry := by
  have hsame := Socket.sameSession_subscribeGroupTopic (sock.setGroupId groupId)
  exact hr.setSocket hs.found hsame.phase hsame.connected hsame.name

/-- A session closes and takes its name out of the registry. -/
theorem Registry.withdrawn (hr : s.Registry) (env : Env) (h : s.sockets ws = some sock)
    (hreg : s.activeSessions.lookup sock.data.name = some ws) :
    (s.withdraw env ws sock).Registry := by
  have hsockets : (s.withdraw env ws sock).sockets =
      (s.setSocket ws (sock.retire .closed)).sockets := rfl
  have hactive : (s.withdraw env ws sock).activeSessions =
      s.activeSessions.erase sock.data.name := rfl
  constructor
  case registered =>
    intro n ws₁ hn
    rw [hactive] at hn
    by_cases hnn : n = sock.data.name
    · rw [hnn, AList.lookup_erase] at hn
      cases hn
    rw [AList.lookup_erase_ne hnn] at hn
    obtain ⟨sock₁, h₁, hp₁, hc₁, hn₁⟩ := hr.registered n ws₁ hn
    -- the closing socket was registered under its own name only
    have hws : ws₁ ≠ ws := by
      rintro rfl
      rw [h, Option.some.injEq] at h₁
      exact hnn (by rw [h₁, hn₁])
    rw [hsockets]
    exact ⟨sock₁, by rwa [setSocket_sockets_ne _ _ _ hws], hp₁, hc₁, hn₁⟩
  case live =>
    intro ws₁ sock₁ hs
    have hfound := hs.found
    rw [hsockets] at hfound
    rcases setSocket_cases hfound with ⟨-, rfl⟩ | ⟨hws, h₁⟩
    · exact absurd hs.live (by simp [Socket.retire])
    · have hlook := hr.live ws₁ sock₁ ⟨h₁, hs.live, hs.connected⟩
      have hnn : sock₁.data.name ≠ sock.data.name := by
        intro hnn
        rw [hnn, hreg, Option.some.injEq] at hlook
        exact hws hlook.symm
      rwa [hactive, AList.lookup_erase_ne hnn]
  case named =>
    intro ws₁ sock₁ h₁ hc₁
    rw [hsockets] at h₁
    rcases setSocket_cases h₁ with ⟨rfl, rfl⟩ | ⟨-, h₁⟩
    · exact hr.named ws₁ sock h hc₁
    · exact hr.named ws₁ sock₁ h₁ hc₁

/-- The socket that a login leaves behind is that of the login, up to its group and topics. -/
theorem enroll_sockets (s : Server) (env : Env) (ws : SocketId) (sock : Socket) :
    ∃ sock', (s.enroll env ws sock).sockets = (s.setSocket ws sock').sockets ∧
      sock'.phase = sock.phase ∧ sock'.data.name = sock.data.name ∧
      sock'.data.connected = sock.data.connected := by
  have hsame := Socket.sameSession_subscribeStandardTopics
    (sock.setGroupId (s.groupContainer.groupIdOf sock.data.name))
  exact ⟨_, rfl, hsame.phase, hsame.name, hsame.connected⟩

/-- A login replaces whatever was registered under its name. -/
theorem Registry.enrolled (hr : s.Registry) (env : Env) (h : s.sockets ws = some sock)
    (hc : sock.data.connected = false) (hphase : sock'.phase = .live)
    (hc' : sock'.data.connected = true) (hname : sock'.data.name ≠ [])
    (hold : ∀ old, s.activeSessions.lookup sock'.data.name = some old → old ≠ ws →
      ∀ oldSock, s.sockets old = some oldSock → oldSock.phase ≠ .live) :
    (s.enroll env ws sock').Registry := by
  obtain ⟨sock₂, hsockets, hphase₂, hname₂, hc₂⟩ := enroll_sockets s env ws sock'
  have hactive : (s.enroll env ws sock').activeSessions =
      s.activeSessions.insert sock'.data.name ws := rfl
  constructor
  case registered =>
    intro n ws₁ hn
    rw [hactive] at hn
    rw [hsockets]
    by_cases hnn : n = sock'.data.name
    · rw [hnn, AList.lookup_insert, Option.some.injEq] at hn
      subst hn
      exact ⟨sock₂, setSocket_sockets_self .., by simp [hphase₂, hphase], hc₂.trans hc',
        hname₂.trans hnn.symm⟩
    · rw [AList.lookup_insert_ne hnn] at hn
      obtain ⟨sock₁, h₁, hp₁, hc₁, hn₁⟩ := hr.registered n ws₁ hn
      -- the socket that logs in has been registered under no name before
      have hws : ws₁ ≠ ws := by
        rintro rfl
        rw [h, Option.some.injEq] at h₁
        rw [← h₁, hc] at hc₁
        exact Bool.false_ne_true hc₁
      exact ⟨sock₁, by rwa [setSocket_sockets_ne _ _ _ hws], hp₁, hc₁, hn₁⟩
  case live =>
    intro ws₁ sock₁ hs
    have hfound := hs.found
    rw [hsockets] at hfound
    rw [hactive]
    rcases setSocket_cases hfound with ⟨rfl, rfl⟩ | ⟨hws, h₁⟩
    · rw [hname₂, AList.lookup_insert]
    · have hlook := hr.live ws₁ sock₁ ⟨h₁, hs.live, hs.connected⟩
      -- another live session of that name has been ended by now
      by_cases hnn : sock₁.data.name = sock'.data.name
      · rw [hnn] at hlook
        exact absurd hs.live (hold ws₁ hlook hws sock₁ h₁)
      · rwa [AList.lookup_insert_ne hnn]
  case named =>
    intro ws₁ sock₁ h₁ hc₁
    rw [hsockets] at h₁
    rcases setSocket_cases h₁ with ⟨rfl, rfl⟩ | ⟨-, h₁⟩
    · rwa [hname₂]
    · exact hr.named ws₁ sock₁ h₁ hc₁

end Sockets

/-- **Every move keeps the registry.** -/
theorem Registry.move {guard : Guard} {s s' : Server}
    (hm : Move guard s s') (hr : s.Registry) : s'.Registry := by
  cases hm with
  | opened ws h => exact hr.opened h
  -- a session that is still registered is closed by `withdrawn`, never by this move
  | retired ws sock phase h hphase hreg =>
      refine hr.retired h hphase fun hclosed n hn => ?_
      obtain ⟨sock', h', -, hc', hn'⟩ := hr.registered n ws hn
      rw [h, Option.some.injEq] at h'
      subst h'
      exact hreg hclosed hc' (hn' ▸ hn)
  | withdrawn env ws sock h hc hreg =>
      exact (hr.withdrawn env h hreg).congr (sendIf_sockets ..) (sendIf_activeSessions ..)
  | enrolled env ws sock login h hlive hc hname _ hold =>
      have henroll : (s.enroll env ws
          { sock with data := handleConnect sock.data login }).Registry :=
        hr.enrolled env h hc hlive rfl hname hold
      exact henroll.congr (sendIf_sockets ..) (sendIf_activeSessions ..)
  | stored ws sock topic hs =>
      have hsame := Socket.sameSession_storeTopicSubscription sock topic
      exact hr.setSocket hs.found hsame.phase hsame.connected hsame.name
  | removed ws sock topic hs =>
      have hsame := Socket.sameSession_removeTopicSubscription sock topic
      exact hr.setSocket hs.found hsame.phase hsame.connected hsame.name
  | left ws sock hs => exact hr.leaveGroup hs
  | disbanded ws sock hs => exact (hr.leaveGroup hs).congr rfl rfl
  | founded env ws sock hs =>
      exact (hr.enterGroup hs (getNewGroupId env.uuid)).congr rfl rfl
  | admitted env ws sock inviter hs =>
      exact (hr.enterGroup hs (s.groupContainer.groupIdOf inviter)).congr rfl rfl
  | invited env ws sock chatMsg hs => exact hr.congr rfl rfl
  | pruned env => exact hr.congr rfl rfl
  | alive env ws sock member hs => exact hr.congr rfl rfl
  | relayed ws sock topic chatMsg hs => exact hr.congr rfl rfl
  | forwarded ws sock topic rest hs => exact hr.congr rfl rfl
  | broadcast ws sock data hs => exact hr.congr rfl rfl
  | sent ws sock message hs => exact hr.congr rfl rfl

end Server

end DaraChat
