import DaraChat.Server.Presence

set_option autoImplicit false

/-! # The cached group id

The id of a character's group is held twice: in the data of its session and in the container.
`Coherent` says that the two agree for every registered session. Only the session's own commands
and its login change either copy, and each changes both.
-/

namespace DaraChat

open GroupContainer

namespace Server

/-- The cached group id of a registered session is the one the container has. -/
def Coherent (s : Server) : Prop :=
  ∀ n ws sock, s.activeSessions.lookup n = some ws → s.sockets ws = some sock →
    sock.data.groupId = s.groupContainer.groupIdOf n

section Moves

variable {s s' : Server} {ws : SocketId} {sock sock' : Socket}

theorem coherent_init : Coherent {} := by
  intro n ws sock h
  cases h

/-- What a session's own command does: its socket and its entry change together. -/
theorem Coherent.update (hr : s.Registry) (hco : s.Coherent) (hs : s.Session ws sock)
    (hsockets : s'.sockets = (s.setSocket ws sock').sockets)
    (hactive : s'.activeSessions = s.activeSessions)
    (hself : sock'.data.groupId = s'.groupContainer.groupIdOf sock.data.name)
    (hother : ∀ n, n ≠ sock.data.name →
      s'.groupContainer.groupIdOf n = s.groupContainer.groupIdOf n) : s'.Coherent := by
  intro n ws₁ sock₁ hn h₁
  rw [hactive] at hn
  rw [hsockets] at h₁
  rcases setSocket_cases h₁ with ⟨rfl, rfl⟩ | ⟨hws, h₁⟩
  · obtain ⟨sock₂, h₂, -, -, hname⟩ := hr.registered n ws₁ hn
    rw [hs.found, Option.some.injEq] at h₂
    rw [hself, h₂, hname]
  · rw [hother n (hr.name_ne hn hs hws)]
    exact hco n ws₁ sock₁ hn h₁

/-- A change of sockets and registry that keeps the cached ids, and of the container that keeps
the ids there. -/
theorem Coherent.congr (hco : s.Coherent)
    (hsockets : ∀ ws sock', s'.sockets ws = some sock' →
      (∃ n, s'.activeSessions.lookup n = some ws) →
      ∃ sock, s.sockets ws = some sock ∧ sock'.data.groupId = sock.data.groupId)
    (hactive : ∀ n ws, s'.activeSessions.lookup n = some ws → s.activeSessions.lookup n = some ws)
    (hgroups : ∀ n, s'.groupContainer.groupIdOf n = s.groupContainer.groupIdOf n) :
    s'.Coherent := by
  intro n ws₁ sock₁ hn h₁
  obtain ⟨sock₂, h₂, hid⟩ := hsockets ws₁ sock₁ h₁ ⟨n, hn⟩
  rw [hid, hgroups]
  exact hco n ws₁ sock₂ (hactive n ws₁ hn) h₂

theorem groupId_retire (h : s.sockets ws = some sock) {phase : Phase} {ws₁ : SocketId}
    {sock₁ : Socket} (h₁ : (s.setSocket ws (sock.retire phase)).sockets ws₁ = some sock₁) :
    ∃ sock₂, s.sockets ws₁ = some sock₂ ∧ sock₁.data.groupId = sock₂.data.groupId := by
  rcases setSocket_cases h₁ with ⟨rfl, rfl⟩ | ⟨-, h₁⟩
  · exact ⟨sock, h, rfl⟩
  · exact ⟨sock₁, h₁, rfl⟩

/-- A login reads the id from the container. -/
theorem Coherent.enrolled (hr : s.Registry) (hco : s.Coherent) (env : Env)
    (h : s.sockets ws = some sock) (hc : sock.data.connected = false) (sock' : Socket) :
    (s.enroll env ws sock').Coherent := by
  have hsame := Socket.sameSession_subscribeStandardTopics
    (sock'.setGroupId (s.groupContainer.groupIdOf sock'.data.name))
  have hgroups : ∀ n, (s.enroll env ws sock').groupContainer.groupIdOf n =
      s.groupContainer.groupIdOf n := groupIdOf_of_keys (keys_setMemberOnline ..)
  have hactive : (s.enroll env ws sock').activeSessions =
      s.activeSessions.insert sock'.data.name ws := rfl
  intro n ws₁ sock₁ hn h₁
  rw [hgroups]
  rw [hactive] at hn
  -- the new session has just read the id; every other one is at another socket
  by_cases hnn : n = sock'.data.name
  · rw [hnn, AList.lookup_insert, Option.some.injEq] at hn
    subst hn
    rcases setSocket_cases h₁ with ⟨-, rfl⟩ | ⟨hws, -⟩
    · rw [hsame.groupId, hnn]
      rfl
    · exact absurd rfl hws
  · rw [AList.lookup_insert_ne hnn] at hn
    obtain ⟨sock₂, h₂, -, hc₂, -⟩ := hr.registered n ws₁ hn
    rcases setSocket_cases h₁ with ⟨rfl, -⟩ | ⟨-, h₁⟩
    · rw [h, Option.some.injEq] at h₂
      rw [← h₂, hc] at hc₂
      exact absurd hc₂ Bool.false_ne_true
    · exact hco n ws₁ sock₁ hn h₁

/-- Sockets and registry as they are, and the ids in the container. -/
theorem Coherent.of_eq (hco : s.Coherent) (hsockets : s'.sockets = s.sockets)
    (hactive : s'.activeSessions = s.activeSessions)
    (hgroups : ∀ n, s'.groupContainer.groupIdOf n = s.groupContainer.groupIdOf n) :
    s'.Coherent :=
  hco.congr (fun ws₁ sock₁ h₁ _ => ⟨sock₁, by rwa [hsockets] at h₁, rfl⟩)
    (fun _ _ hn => by rwa [hactive] at hn) hgroups

theorem Coherent.withdrawn (hco : s.Coherent) (env : Env) (h : s.sockets ws = some sock) :
    (s.withdraw env ws sock).Coherent := by
  refine hco.congr (fun _ _ h₁ _ => groupId_retire h h₁) (fun n ws₁ hn => ?_)
    (groupIdOf_of_keys (keys_setMemberOnline ..))
  change (s.activeSessions.erase sock.data.name).lookup n = some ws₁ at hn
  by_cases hnn : n = sock.data.name
  · rw [hnn, AList.lookup_erase] at hn
    cases hn
  · rwa [AList.lookup_erase_ne hnn] at hn

theorem Coherent.leaveGroup (hr : s.Registry) (hco : s.Coherent) (hs : s.Session ws sock) :
    (s.leaveGroup ws sock).Coherent := by
  have hgroups := groupIdOf_groupDisband s.groupContainer sock.data.name
  refine hco.update hr hs rfl rfl ?_ fun n hn => (hgroups n).trans (if_neg hn)
  exact ((hgroups sock.data.name).trans (if_pos rfl)).symm

/-- **Every move keeps the two copies equal.** -/
theorem Coherent.move {guard : Guard}
    (hm : Move guard s s') (hr : s.Registry) (hp : s.Presence) (hco : s.Coherent) :
    s'.Coherent := by
  cases hm with
  | opened ws h =>
      refine hco.congr (fun ws₁ sock₁ h₁ hreg => ?_) (fun _ _ => id) fun _ => rfl
      rcases setSocket_cases h₁ with ⟨rfl, -⟩ | ⟨-, h₁⟩
      -- a new socket opens where nothing is registered
      · obtain ⟨n, hn⟩ := hreg
        obtain ⟨sock₂, h₂, hp₂, -, -⟩ := hr.registered n ws₁ hn
        exact absurd (h sock₂ h₂) hp₂
      · exact ⟨sock₁, h₁, rfl⟩
  | retired ws sock phase h =>
      exact hco.congr (fun _ _ h₁ _ => groupId_retire h h₁) (fun _ _ => id) fun _ => rfl
  | withdrawn env ws sock h hc hreg =>
      exact (hco.withdrawn env h).of_eq (sendIf_sockets ..) (sendIf_activeSessions ..) (by simp)
  | enrolled env ws sock login h hlive hc =>
      exact (hco.enrolled hr env h hc _).of_eq (sendIf_sockets ..) (sendIf_activeSessions ..)
        (by simp)
  | stored ws sock topic hs =>
      refine hco.update hr hs rfl rfl ?_ fun _ _ => rfl
      rw [(Socket.sameSession_storeTopicSubscription sock topic).groupId]
      exact hco _ ws sock (hr.live ws sock hs) hs.found
  | removed ws sock topic hs =>
      refine hco.update hr hs rfl rfl ?_ fun _ _ => rfl
      rw [(Socket.sameSession_removeTopicSubscription sock topic).groupId]
      exact hco _ ws sock (hr.live ws sock hs) hs.found
  | left ws sock hs => exact hco.leaveGroup hr hs
  | disbanded ws sock hs => exact (hco.leaveGroup hr hs).of_eq rfl rfl fun _ => rfl
  | founded env ws sock hs _ hfree hnone =>
      have hfresh := (groupIdOf_eq_nil hp.sound.groupIdsNonempty).mp hnone
      refine hco.update hr hs rfl rfl ?_ fun n hn => ?_
      · rw [(Socket.sameSession_subscribeGroupTopic _).groupId]
        have hself : (s.foundGroup env ws sock).groupContainer.groupIdOf sock.data.name =
            getNewGroupId env.uuid := groupIdOf_append_self hfresh
        exact hself.symm
      · exact groupIdOf_append_ne hn
  | admitted env ws sock inviter hs _ hfree hjoin =>
      have hfresh := (groupIdOf_eq_nil hp.sound.groupIdsNonempty).mp hjoin.member_free
      refine hco.update hr hs rfl rfl ?_ fun n hn => ?_
      · rw [(Socket.sameSession_subscribeGroupTopic _).groupId]
        have hself : (s.enterGroup env ws sock inviter).groupContainer.groupIdOf sock.data.name =
            s.groupContainer.groupIdOf inviter := groupIdOf_append_self hfresh
        exact hself.symm
      · exact groupIdOf_append_ne hn
  | invited env ws sock chatMsg hs => exact hco.of_eq rfl rfl fun _ => rfl
  | pruned env => exact hco.of_eq rfl rfl fun _ => rfl
  | alive env ws sock member hs => exact hco.of_eq rfl rfl (groupIdOf_of_keys (keys_aliveMsg ..))
  | relayed ws sock topic chatMsg hs => exact hco.of_eq rfl rfl fun _ => rfl
  | forwarded ws sock topic rest hs => exact hco.of_eq rfl rfl fun _ => rfl
  | broadcast ws sock data hs => exact hco.of_eq rfl rfl fun _ => rfl
  | sent ws sock message hs => exact hco.of_eq rfl rfl fun _ => rfl

end Moves

/-- What holds of registry, entries and cached ids in every reachable state. -/
structure Consistent (s : Server) : Prop where
  registry : s.Registry
  presence : s.Presence
  coherent : s.Coherent

theorem consistent_init : Consistent {} := ⟨registry_init, presence_init, coherent_init⟩

theorem Consistent.move {guard : Guard} {s s' : Server}
    (hm : Move guard s s') (h : s.Consistent) : s'.Consistent :=
  ⟨h.registry.move hm, h.presence.move hm h.registry, h.coherent.move hm h.registry h.presence⟩

theorem consistent_step (cfg : Config) {s : Server} {e : Event} (h : s.Consistent) :
    (s.step cfg e).Consistent :=
  step_of_move Consistent.move cfg (allows_any cfg s e) h

/-- What every move keeps in a consistent state, every allowed event keeps. -/
theorem step_of_consistent {guard : Guard} {I : Server → Prop}
    (hmove : ∀ {s s'}, Move guard s s' → s.Consistent → I s → I s') (cfg : Config) {s : Server}
    {e : Event} (h : guard.Allows cfg s e) (hs : s.Consistent) (hi : I s) : I (s.step cfg e) :=
  (step_of_move (I := fun s => s.Consistent ∧ I s)
    (fun hm h => ⟨h.1.move hm, hmove hm h.1 h.2⟩) cfg h ⟨hs, hi⟩).2

theorem consistent_run (cfg : Config) (evs : List Event) : ((machine cfg).run evs).Consistent :=
  invariant_of_moves consistent_init Consistent.move cfg evs

/-- The cached id of a live session. -/
theorem Consistent.groupId {s : Server} (h : s.Consistent) {ws : SocketId} {sock : Socket}
    (hs : s.Session ws sock) : sock.data.groupId = s.groupContainer.groupIdOf sock.data.name :=
  h.coherent _ ws sock (h.registry.live ws sock hs) hs.found

/-- Every open session registered under its name has the group id that `GetGroupInfo` reports of
the name, and it is empty exactly when the name has no entry. -/
def GroupIdsCached (s : Server) : Prop :=
  ∀ ws sock, s.sockets ws = some sock → sock.data.connected = true →
    s.activeSessions.lookup sock.data.name = some ws →
    sock.data.groupId = (s.groupContainer.getGroupInfo sock.data.name).groupId ∧
      (sock.data.groupId = [] ↔ ∀ m ∈ s.groupContainer.myGroups, m.name ≠ sock.data.name)

/-- **Session cache coherence**, in every reachable state. -/
theorem groupIdsCached_run (cfg : Config) (evs : List Event) :
    GroupIdsCached ((machine cfg).run evs) := by
  intro ws sock h hc hreg
  have hs := consistent_run cfg evs
  have hid := hs.coherent _ ws sock hreg h
  rw [getGroupInfo_groupId]
  exact ⟨hid, by rw [hid]; exact groupIdOf_eq_nil hs.presence.sound.groupIdsNonempty⟩

/-! ## A configuration with three characters -/

/-- A token of the characters below: the signed name, and payload and signature as sent. -/
structure SampleToken where
  name : Str
  payload : Str
  signature : Str

/-- `{"alg":"HS256"}`. -/
def sampleHeader : Str := "eyJhbGciOiJIUzI1NiJ9".toList

/-- Issuer, audience, `iat` 0, `exp` 4000000000, and the key of the name that follows. -/
def samplePayload : Str :=
  ("eyJpc3MiOiJkYXJhLWdhbWUtc2VydmVyIiwiYXVkIjoiZGFyYS1jaGF0IiwiaWF0IjowLCJleHAiOjQwMDAwMDAw" ++
    "MDAsImNoYXJhY3Rlck5hbWUiOiJ").toList

def tirio : SampleToken :=
  ⟨"Tirio".toList, samplePayload ++ "UaXJpbyJ9".toList,
    "qiqkndFClEZR9LfUh-aqjdvqziZrlu2pA0RB4LC4ems".toList⟩

def trula : SampleToken :=
  ⟨"Trula".toList, samplePayload ++ "UcnVsYSJ9".toList,
    "k1mDxPBd3yoBR73cMUML4j5-zZKpHvsJWF5WxomDQJA".toList⟩

def ulf : SampleToken :=
  ⟨"Ulf".toList, samplePayload ++ "VbGYifQ".toList,
    "2e8-M6M1zSirN1AHVxNpWuKalSQGGkoNQc_MN9YbIFg".toList⟩

/-- The token as text. -/
def SampleToken.text (token : SampleToken) : Str :=
  sampleHeader ++ ".".toList ++ token.payload ++ ".".toList ++ token.signature

/-- The JWT library on these tokens, which are signed with the secret `k`. -/
def sampleJwt : JwtLib where
  decode pass :=
    ([tirio, trula, ulf].find? fun token => token.text = pass).map fun token =>
      { header := [("alg".toList, .string "HS256".toList)]
        payload :=
          [ ("iss".toList, .string "dara-game-server".toList)
          , ("aud".toList, .string "dara-chat".toList)
          , ("iat".toList, .integer 0)
          , ("exp".toList, .integer 4000000000)
          , ("characterName".toList, .string token.name) ]
        headerBase64 := sampleHeader
        payloadBase64 := token.payload
        signature := token.signature }
  hs256Verify secret data signature :=
    decide (secret = "k".toList) && [tirio, trula, ulf].any fun token =>
      decide (data = sampleHeader ++ ".".toList ++ token.payload ∧ signature = token.signature)

def sampleConfig : Config :=
  { jwt := sampleJwt, serializeJson := fun _ => [], healthPercentage := fun _ _ => [],
    jwtSecret := "k".toList }

/-- The environment at second `now`, with `uuid` as the next random text. -/
def sampleEnv (now : Int) (uuid : String) : Env := { now := now * 1000000000, uuid := uuid.toList }

/-- Socket `ws` opens and logs in. -/
def loginEvents (ws : SocketId) (token : SampleToken) : List Event :=
  [ .opened ws
  , .text (sampleEnv 1000 "") ws
      ("connect:name=".toList ++ token.name ++ ";zone=Dungeon;group=;pass=".toList ++ token.text) ]

/-- Trula joins the group that Tirio founded by inviting her. -/
def joinEvents : List Event :=
  loginEvents 1 tirio ++ loginEvents 2 trula ++
    [ .text (sampleEnv 1001 "a") 1 "GroupInvite:Tirio:Trula:".toList
    , .text (sampleEnv 1002 "") 2 "GroupJoin:Trula:Tirio:".toList ]

theorem groupIdsCached_joinEvents :
    (((machine sampleConfig).run joinEvents).sockets 2).map (fun sock => sock.data.groupId) =
        some "group_a".toList ∧
      GroupIdsCached ((machine sampleConfig).run joinEvents) :=
  ⟨by decide +kernel, groupIdsCached_run sampleConfig joinEvents⟩

end Server

end DaraChat
