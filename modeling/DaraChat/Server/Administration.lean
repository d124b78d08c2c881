import DaraChat.Auth.Login
import DaraChat.Server.Publishing
import DaraChat.Server.Strangers

set_option autoImplicit false

/-! # Administrators

An `AdminInfo` reply goes to the socket that asks, and only if that has been logged in by a token
with the signed role `chat_admin` that has not expired (`Administrator`). Any other session gets the
same `AdminError` whatever the state of the server is. What is published on a topic of the server is
not read as `AdminInfo`: messages of clients keep their type, a legacy payload is no message there,
and a binary message starts with another letter.
-/

namespace DaraChat

open GroupContainer

/-! ## Frames that are read as a type -/

/-- What a frame carries, byte by byte. -/
def Payload.characters : Payload → Str
  | .text s => s
  | .binary data => data.map fun b => Char.ofNat b.toNat

/-- A recipient takes the text for a message of this type. -/
def ReadAs (text : Str) (type : EChatCmdType) : Prop :=
  (tryParseMessage text).1 = true ∧ (tryParseMessage text).2.1.type = type

/-- A message is taken for what it is. -/
theorem ReadAs.type_eq {msg : FDaraChatMsg} {type : EChatCmdType} (h : ReadAs msg.serialize type) :
    msg.type = type := by
  obtain ⟨hparse, htype⟩ := h
  rw [serialize_eq] at hparse htype
  rw [← htype, (tryParseMessage_type (colon_notMem_toString _) hparse).2,
    chatCmdTypeFromString_toString]

/-- A text that is read starts like the name of its type. -/
theorem ReadAs.head_eq {text : Str} {type : EChatCmdType} (h : ReadAs text type) :
    text.head? = (chatCmdTypeToString type).head? := by
  obtain ⟨hparse, rfl⟩ := h
  have htext := serialize_tryParseMessage hparse
  rw [serialize_eq] at htext
  have hne : chatCmdTypeToString (tryParseMessage text).2.1.type ≠ [] := by
    cases (tryParseMessage text).2.1.type <;> decide
  have hhead := congrArg List.head? htext
  rw [List.head?_append_of_ne_nil _ hne] at hhead
  exact hhead.symm

/-- A binary message that the server accepts is not taken for administrator data. -/
theorem not_readAs_of_deserialize {data : List UInt8}
    (h : (FDaraRawChatMsg.deserialize data).isSome = true) :
    ¬ ReadAs (Payload.binary data).characters .adminInfo := by
  intro hread
  have hheader := FDaraRawChatMsg.take_of_deserialize h
  have hhead := hread.head_eq
  cases data with
  | nil => cases hheader
  | cons b data =>
      rw [List.take_succ_cons] at hheader
      obtain ⟨rfl, -⟩ := List.cons.inj hheader
      have hletter : (Payload.binary (0x44 :: data)).characters.head? = some 'D' := rfl
      rw [hletter] at hhead
      exact absurd hhead (by decide)

namespace Server

/-! ## Who is an administrator -/

/-- The event logs in socket `ws` with an administrator's token that expires at `exp`. -/
def AdminLogin (cfg : Config) (ws : SocketId) (exp : Int) (s : Server) (e : Event) : Prop :=
  ∃ env msg, e = .text env ws msg ∧ (s.logging cfg e).isSome = true ∧
    AdminToken cfg.jwt msg cfg.jwtSecret env.now exp

/-- The event opens no new connection at `ws`. -/
def StaysOpen (ws : SocketId) (s : Server) (e : Event) : Prop := s.Opens e → e.socketId ≠ ws

/-- The socket that is now at `ws` has been logged in by an administrator, whose token has not
expired at `now`. -/
def Administrator (cfg : Config) (evs : List Event) (ws : SocketId) (now : Date) : Prop :=
  ∃ exp : Int, now < exp * 1000000000 ∧
    (machine cfg).Since (AdminLogin cfg ws exp) (StaysOpen ws) evs

section Administrator

variable {cfg : Config} {s : Server} {e : Event} {evs : List Event} {ws : SocketId}

/-- The login of an administrator, and the expiry that it stores. -/
theorem adminLogin_of_logging {login : AuthenticatedLogin}
    (h : s.logging cfg e = some (ws, login)) (hadmin : login.isAdmin = true) :
    ∃ exp : Int, login.expiresAt = exp * 1000000000 ∧ AdminLogin cfg ws exp s e := by
  obtain ⟨env, msg, sock, rfl, -, -, -, hlogin⟩ := logging_eq_some h
  obtain ⟨exp, hexpires, htoken⟩ := adminToken_of_verifyLogin hlogin hadmin
  exact ⟨exp, hexpires, env, msg, rfl, Option.isSome_of_eq_some h, htoken⟩

/-- The data of a live administrator come from the login of its connection. -/
def AdminSince (cfg : Config) (evs : List Event) (ws : SocketId) (sock : Socket) : Prop :=
  sock.phase = .live → sock.data.isAdmin = true →
    ∃ exp : Int, sock.data.adminExpiresAt = exp * 1000000000 ∧
      (machine cfg).Since (AdminLogin cfg ws exp) (StaysOpen ws) evs

theorem AdminSince.of_same {sock sock' : Socket} (h : AdminSince cfg evs ws sock)
    (hsame : Socket.SameSession sock sock') : AdminSince cfg evs ws sock' := by
  have hadmin : sock'.data.isAdmin = sock.data.isAdmin := by rw [← hsame.data]
  have hexpires : sock'.data.adminExpiresAt = sock.data.adminExpiresAt := by rw [← hsame.data]
  rw [AdminSince, hsame.phase, hadmin, hexpires]
  exact h

/-- The logins of an event are those it makes in the state the run has reached. -/
def loginGuard (cfg : Config) (evs : List Event) (e : Event) : Guard where
  logs := fun ws login => ((machine cfg).run evs).logging cfg e = some (ws, login)

theorem adminSince_invariant (cfg : Config) (evs : List Event) (e : Event) :
    SocketInvariant (loginGuard cfg evs e) (AdminSince cfg (evs ++ [e])) where
  opened := by
    intro ws _ hadmin
    exact absurd hadmin (by simp [openSocket])
  retired := by
    intro ws sock phase hphase _ hlive
    exact absurd hlive hphase
  -- only a login sets `isAdmin`, and it is the last step of the run
  enrolled := by
    intro ws sock login groupId _ _ _ hlogs _
    refine AdminSince.of_same (fun _ hadmin => ?_) (Socket.sameSession_subscribeStandardTopics _)
    obtain ⟨exp, hexpires, hlogin⟩ := adminLogin_of_logging hlogs hadmin
    exact ⟨exp, hexpires, Machine.since_last hlogin⟩
  stored := fun _ sock topic _ _ _ h =>
    h.of_same (Socket.sameSession_storeTopicSubscription sock topic)
  removed := fun _ sock topic _ _ h =>
    h.of_same (Socket.sameSession_removeTopicSubscription sock topic)
  left := by
    intro ws sock _ h
    have hsince : AdminSince cfg (evs ++ [e]) ws sock.removeGroupSubscription :=
      h.of_same (Socket.sameSession_removeGroupSubscription sock)
    exact hsince
  entered := by
    intro ws sock groupId _ _ _ _ h
    have hsince : AdminSince cfg (evs ++ [e]) ws (sock.setGroupId groupId) := h
    exact hsince.of_same (Socket.sameSession_subscribeGroupTopic _)

theorem adminSince_run (cfg : Config) (evs : List Event) :
    ((machine cfg).run evs).AllSockets (AdminSince cfg evs) := by
  refine (machine cfg).history_induction (P := fun evs s => s.AllSockets (AdminSince cfg evs))
    allSockets_init ?_ evs
  intro evs e h
  have hbefore : ((machine cfg).run evs).AllSockets (AdminSince cfg (evs ++ [e])) := by
    intro ws sock hsock hlive hadmin
    obtain ⟨exp, hexpires, hsince⟩ := h ws sock hsock hlive hadmin
    refine ⟨exp, hexpires, hsince.snoc fun hopens hws => ?_⟩
    -- a live socket is in the way of a new one
    cases e with
    | opened ws' =>
        obtain rfl : ws' = ws := hws
        have hclosed := hopens sock hsock
        rw [hlive] at hclosed
        cases hclosed
    | text env ws' msg => cases hopens
    | binary env ws' data => cases hopens
    | closed env ws' => cases hopens
  exact allSockets_step (adminSince_invariant cfg evs e) cfg
    { allows_any cfg _ e with logs := fun p hp => hp } (consistent_run cfg evs) hbefore

/-- Whoever may act as administrator is one. -/
theorem administrator_of_adminNow (cfg : Config) (evs : List Event) {sock : Socket} {env : Env}
    (hs : ((machine cfg).run evs).Session ws sock) (h : adminNow env sock.data = true) :
    Administrator cfg evs ws env.now := by
  rw [adminNow, Bool.and_eq_true, decide_eq_true_eq] at h
  obtain ⟨exp, hexpires, hsince⟩ := adminSince_run cfg evs ws sock hs.found hs.live h.1
  exact ⟨exp, hexpires ▸ h.2, hsince⟩

end Administrator

/-! ## Direct replies -/

section Replies

variable {cfg : Config} {guard : Guard} {s s' : Server} {e : Event}

@[simp] theorem sendIf_sent (tells : Bool) (groupId : Str) :
    (s.sendIf tells groupId).sent = s.sent := by
  cases tells <;> rfl

/-- Between two states only these messages have been sent. -/
def Sends (guard : Guard) (s s' : Server) : Prop :=
  Machine.Extends (fun p : SocketId × Str => guard.answers p.1 p.2) s.sent s'.sent

/-- Only one move sends. -/
theorem Move.sends (hm : Move guard s s') : Sends guard s s' := by
  cases hm with
  | sent ws sock message h hanswers => exact Machine.Extends.snoc hanswers
  | withdrawn | enrolled => exact Machine.Extends.of_eq (sendIf_sent ..)
  | _ => exact Machine.Extends.of_eq rfl

/-- What an event sends is the reply to it. -/
theorem sent_step (cfg : Config) (s : Server) (e : Event) :
    ∃ news, (s.step cfg e).sent = s.sent ++ news ∧
      ∀ p ∈ news, ∃ reply, s.answering cfg e = some (p.1, reply) ∧ p.2 = reply.serialize := by
  let guard : Guard :=
    { answers := fun ws message =>
        ∃ reply, s.answering cfg e = some (ws, reply) ∧ message = reply.serialize }
  have hallows : guard.Allows cfg s e :=
    { allows_any cfg s e with answers := fun p hp => ⟨p.2, hp, rfl⟩ }
  exact step_of_move (I := Sends guard s) (fun hm h => h.trans hm.sends) cfg hallows
    (Machine.Extends.of_eq rfl)

/-- Only an administrator's query is answered with data. -/
theorem answerAdminQuery_adminInfo {serializeJson : Json → Str} {request : FDaraChatMsg}
    {isAdmin : Bool} {collect : Unit → AdminSnapshot}
    (h : (answerAdminQuery serializeJson request isAdmin collect).type = .adminInfo) :
    isAdmin = true ∧ isAdminQuery request.type = true := by
  unfold answerAdminQuery at h
  split at h
  · cases h
  case isFalse hadmin =>
    split at h
    · cases h
    case isFalse hquery =>
      simp only [Bool.or_eq_true, Bool.not_eq_true', not_or] at hadmin hquery
      exact ⟨by simpa using hadmin, by simpa using hquery.1.1⟩

/-- An event that is answered with administrator data is an administrator's query. -/
theorem answering_adminInfo {ws : SocketId} {reply : FDaraChatMsg}
    (h : s.answering cfg e = some (ws, reply)) (htype : reply.type = .adminInfo) :
    ∃ cmd, s.chatCommand e = some cmd ∧ cmd.ws = ws ∧ adminNow cmd.env cmd.sock.data = true ∧
      isAdminQuery cmd.chatMsg.type = true := by
  cases hcmd : s.chatCommand e with
  | none => simp [answering, hcmd] at h
  | some cmd =>
      simp only [answering, hcmd] at h
      split at h
      · obtain ⟨hws, rfl⟩ := Prod.mk.inj (Option.some.inj h)
        exact ⟨cmd, rfl, hws, answerAdminQuery_adminInfo htype⟩
      · split at h
        · obtain ⟨-, rfl⟩ := Prod.mk.inj (Option.some.inj h)
          cases htype
        · cases h

/-- The error that a character gets. -/
def forbidden (cfg : Config) (name : Str) : FDaraChatMsg :=
  adminError cfg.serializeJson name "Forbidden".toList "Administrator access required".toList

theorem handleChatMsg_of_forbidden {env : Env} {ws : SocketId} {sock : Socket}
    {chatMsg : FDaraChatMsg} (htype : isAdminType chatMsg.type = true)
    (hadmin : adminNow env sock.data = false) :
    handleChatMsg cfg env s ws sock chatMsg = s.send ws (forbidden cfg chatMsg.sender).serialize := by
  refine (if_pos htype).trans ?_
  rw [hadmin]
  rfl

/-- **A session that is no administrator now** gets the same error for all frames of these types. -/
theorem step_of_forbidden {env : Env} {ws : SocketId} {sock : Socket} {msg : Str}
    (hs : s.Session ws sock) (htype : isAdminType (tryParseMessage msg).2.1.type = true)
    (hadmin : adminNow env sock.data = false) :
    s.step cfg (.text env ws msg) = s.send ws (forbidden cfg sock.data.name).serialize := by
  have hparse : (tryParseMessage msg).1 = true := by
    by_contra hreject
    rw [(tryParseMessage_rejected (by simpa using hreject)).1] at htype
    cases htype
  rw [step_of_chatCommand cfg (chatCommand_of_text hs hparse)]
  exact handleChatMsg_of_forbidden htype hadmin

end Replies

/-! ## Confinement -/

/-- A text frame that has been published on a reserved topic is not read as administrator data. -/
theorem not_readAs_of_published {pub : Publication} (h : Published {} pub)
    (hreserved : isReservedTopic pub.topic = true) : ¬ ReadAs pub.payload.characters .adminInfo := by
  cases h with
  | relayed chatMsg topic groups htype =>
      intro hread
      have hinfo : chatMsg.type = .adminInfo := ReadAs.type_eq hread
      simp [IsRelayedType, hinfo] at htype
  | forwarded topic rest groups hcolon =>
      intro hread
      have hreject := tryParseMessage_forwarded rest hcolon hreserved
      rw [Payload.characters, ReadAs, hreject] at hread
      cases hread.1
  | broadcast topic data groups hvalid => exact not_readAs_of_deserialize hvalid
  | roster g groups hg =>
      intro hread
      cases ReadAs.type_eq hread

/-- Administrator data go only to administrators that ask for them, whoever else asks gets an error
that does not depend on the state, and topics of the server carry none. -/
structure AdminConfined (cfg : Config) : Prop where
  replies : ∀ evs e, ∃ news,
    ((machine cfg).run (evs ++ [e])).sent = ((machine cfg).run evs).sent ++ news ∧
    ∀ p ∈ news, ReadAs p.2 .adminInfo → ∃ env msg, e = .text env p.1 msg ∧
      isAdminQuery (tryParseMessage msg).2.1.type = true ∧ Administrator cfg evs p.1 env.now
  errors : ∀ evs evs' env env' ws ws' sock sock' msg,
    ((machine cfg).run evs).Session ws sock → ((machine cfg).run evs').Session ws' sock' →
    sock.data.name = sock'.data.name → isAdminType (tryParseMessage msg).2.1.type = true →
    ¬ Administrator cfg evs ws env.now → ¬ Administrator cfg evs' ws' env'.now →
    ∃ reply : FDaraChatMsg, reply.type = .adminError ∧
      (machine cfg).run (evs ++ [.text env ws msg]) =
        ((machine cfg).run evs).send ws reply.serialize ∧
      (machine cfg).run (evs' ++ [.text env' ws' msg]) =
        ((machine cfg).run evs').send ws' reply.serialize
  published : ∀ evs, ∀ pub ∈ ((machine cfg).run evs).published,
    isReservedTopic pub.topic = true → ¬ ReadAs pub.payload.characters .adminInfo

/-- **Administrator data are confined**, in every run. -/
theorem adminConfined_run (cfg : Config) : AdminConfined cfg where
  replies := by
    intro evs e
    obtain ⟨news, heq, hall⟩ := sent_step cfg ((machine cfg).run evs) e
    refine ⟨news, by rw [Machine.run_snoc]; exact heq, fun p hp hread => ?_⟩
    obtain ⟨reply, hreply, hserialize⟩ := hall p hp
    rw [hserialize] at hread
    obtain ⟨cmd, hcmd, hws, hadmin, hquery⟩ := answering_adminInfo hreply hread.type_eq
    obtain ⟨msg, he, hs, -, hmsg⟩ := text_of_chatCommand hcmd
    rw [hmsg] at hquery
    rw [← hws]
    exact ⟨cmd.env, msg, he, hquery, administrator_of_adminNow cfg evs hs hadmin⟩
  errors := by
    intro evs evs' env env' ws ws' sock sock' msg hs hs' hname htype hother hother'
    -- both states refuse the sender, and the refusal is written from its name alone
    have hadmin : adminNow env sock.data = false := by
      by_contra hadmin
      exact hother (administrator_of_adminNow cfg evs hs (by simpa using hadmin))
    have hadmin' : adminNow env' sock'.data = false := by
      by_contra hadmin
      exact hother' (administrator_of_adminNow cfg evs' hs' (by simpa using hadmin))
    refine ⟨forbidden cfg sock.data.name, rfl, ?_, ?_⟩
    · rw [Machine.run_snoc]
      exact step_of_forbidden hs htype hadmin
    · rw [Machine.run_snoc, hname]
      exact step_of_forbidden hs' htype hadmin'
  published := by
    intro evs
    -- the log only grows, so it is enough to look at what one step appends
    have hall : ∀ pub ∈ ((machine cfg).run evs).published, Published {} pub := by
      refine (machine cfg).history_induction
        (P := fun _ s => ∀ pub ∈ s.published, Published {} pub) (fun _ h => nomatch h) ?_ evs
      intro evs e ih
      have hstep : Appends {} ((machine cfg).run evs) (((machine cfg).run evs).step cfg e) :=
        published_step cfg (consistent_run cfg evs) (allows_any cfg ((machine cfg).run evs) e)
      exact Machine.Extends.forall_mem hstep ih
    intro pub hpub hreserved
    exact not_readAs_of_published (hall pub hpub) hreserved

/-! ## An administrator -/

/-- Tirio with the role `chat_admin`. -/
def chief : SampleToken :=
  ⟨"Tirio".toList, samplePayload ++ "UaXJpbyIsInJvbGVzIjpbImNoYXRfYWRtaW4iXX0".toList,
    "ymMhhve5jPrgqa9XAMj2P0zEsvzgZFrKuRcjt9XScQA".toList⟩

/-- The JWT library on this token. -/
def chiefJwt : JwtLib where
  decode pass :=
    if pass = chief.text then
      (sampleJwt.decode tirio.text).map fun token =>
        { token with
          payload := token.payload ++ [("roles".toList, .array [.string "chat_admin".toList])]
          payloadBase64 := chief.payload
          signature := chief.signature }
    else sampleJwt.decode pass
  hs256Verify secret data signature :=
    sampleJwt.hs256Verify secret data signature ||
      decide (secret = "k".toList ∧ data = sampleHeader ++ ".".toList ++ chief.payload ∧
        signature = chief.signature)

/-- Tirio and Trula ask for the status. -/
def statusEvents : List Event :=
  loginEvents 1 chief ++ loginEvents 2 trula ++
    [ .text (sampleEnv 1001 "") 1 "AdminStatus:::".toList
    , .text (sampleEnv 1001 "") 2 "AdminStatus:::".toList ]

-- both halves of the statement above occur
example : ((machine { sampleConfig with jwt := chiefJwt }).run statusEvents).sent.map
      (fun p => (p.1, (tryParseMessage p.2).2.1.type)) = [(1, .adminInfo), (2, .adminError)] := by
  decide +kernel

end Server

end DaraChat
