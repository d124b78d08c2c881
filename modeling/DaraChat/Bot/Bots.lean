import DaraChat.Bot.Joining
import DaraChat.Server.Delivery
import DaraChat.Server.PrivateMessages

set_option autoImplicit false

/-! # Bots around the server

Several bots at their sockets, and what becomes of an event when they have replied to all that it
makes the server publish, and to what their replies make it publish (`exchange`). Rosters and partings
are answered with nothing that the server takes notice of (`exchange_of_quiet`), and an invitation only
by the one who is invited, as long as the names of the bots differ in small letters too
(`repliesTo_tell`).
-/

namespace DaraChat

open GroupContainer

deriving instance DecidableEq for Chatter

/-- A bot at its socket. -/
structure Bot where
  chatter : Chatter
  ws : SocketId
  deriving DecidableEq

def Bot.name (bot : Bot) : Str := bot.chatter.myCharName

namespace Server

/-! ## The replies of all bots -/

/-- The socket is subscribed to the topic. -/
def hears (s : Server) (ws : SocketId) (topic : Str) : Bool :=
  match s.sockets ws with
  | some sock => decide (topic ∈ sock.subscriptions)
  | none => false

/-- The replies of the bots that a publication is delivered to. -/
def repliesTo (bots : List Bot) (env : Env) (s : Server) (pub : Publication) : List Event :=
  (bots.filter fun bot => s.hears bot.ws pub.topic).filterMap fun bot =>
    bot.chatter.replyEvent env bot.ws pub.payload

/-- The server after an event, when the bots have replied to what it has published; `fuel` bounds the
replies to replies. -/
def exchange (cfg : Config) (bots : List Bot) (env : Env) : Nat → Server → Event → Server
  | 0, s, e => s.step cfg e
  | fuel + 1, s, e =>
      ((s.publications cfg e).flatMap (repliesTo bots env (s.step cfg e))).foldl
        (exchange cfg bots env fuel) (s.step cfg e)

section Quiet

variable {cfg : Config} {bots : List Bot} {env : Env} {s : Server} {e : Event}

/-- The event is the state that a bot reports. -/
def IsState (e : Event) : Prop :=
  ∃ env ws msg, e = .binary env ws (FDaraRawChatMsg.serialize msg)

theorem IsState.step (h : IsState e) (cfg : Config) (s : Server) : s.step cfg e = s := by
  obtain ⟨env, ws, msg, rfl⟩ := h
  exact step_state cfg s env ws msg

/-- A state brings out nothing, however long one waits for replies. -/
theorem IsState.exchange (h : IsState e) (s : Server) (fuel : Nat) :
    exchange cfg bots env fuel s e = s := by
  have hnone : s.publications cfg e = [] :=
    publications_of_append cfg (by rw [h.step, List.append_nil])
  cases fuel with
  | zero => exact h.step cfg s
  | succ fuel =>
      rw [Server.exchange, hnone, h.step]
      rfl

/-- **An event that is answered with states only** is all that happens. -/
theorem exchange_of_quiet
    (h : ∀ pub ∈ s.publications cfg e, ∀ e' ∈ repliesTo bots env (s.step cfg e) pub, IsState e')
    (fuel : Nat) : exchange cfg bots env fuel s e = s.step cfg e := by
  cases fuel with
  | zero => rfl
  | succ fuel =>
      have hall : ∀ e' ∈ (s.publications cfg e).flatMap (repliesTo bots env (s.step cfg e)),
          IsState e' := by
        intro e' he'
        obtain ⟨pub, hpub, he'⟩ := List.mem_flatMap.mp he'
        exact h pub hpub e' he'
      rw [exchange]
      generalize (s.publications cfg e).flatMap (repliesTo bots env (s.step cfg e)) = replies at hall
      induction replies with
      | nil => rfl
      | cons e' replies ih =>
          obtain ⟨he', hrest⟩ := List.forall_mem_cons.mp hall
          rw [List.foldl_cons, he'.exchange]
          exact ih hrest

/-- Where a text is a message that is answered by no chat message, the replies are states. -/
theorem isState_of_repliesTo {pub : Publication} {text : Str} (hpayload : pub.payload = .text text)
    (h : (tryParseMessage text).1 = true → ∀ chatter : Chatter,
      ∀ reply ∈ chatter.chatReply (tryParseMessage text).2.1, ∃ msg, reply = .state msg) :
    ∀ e ∈ repliesTo bots env s pub, IsState e := by
  intro e he
  obtain ⟨bot, -, hevent⟩ := List.mem_filterMap.mp he
  rw [hpayload] at hevent
  obtain ⟨frame, hframe, hevent⟩ := Option.bind_eq_some_iff.mp hevent
  obtain ⟨hparse, reply, hreply, rfl⟩ := onWSMsg_text hframe
  obtain ⟨msg, rfl⟩ := h hparse bot.chatter reply hreply
  exact ⟨env, bot.ws, msg, (Option.some.inj hevent).symm⟩

/-- Rosters are answered with states. -/
theorem isState_of_roster (c : GroupContainer) (g topic : Str) (groups : List GroupMember) :
    ∀ e ∈ repliesTo bots env s ⟨topic, .text (groupUpdateMsg c g).serialize, groups⟩, IsState e := by
  refine isState_of_repliesTo rfl fun _ chatter reply hreply => ?_
  rw [tryParseMessage_groupUpdateMsg] at hreply
  exact ⟨_, (Option.some.inj hreply).symm⟩

/-- Partings are not answered. -/
theorem isState_of_disbandInfo (msg : FDaraChatMsg) (topic : Str) (groups : List GroupMember) :
    ∀ e ∈ repliesTo bots env s ⟨topic, .text (getGroupDisbandInfoMessage msg), groups⟩,
      IsState e := by
  refine isState_of_repliesTo rfl fun hparse chatter reply hreply => ?_
  have htype : (tryParseMessage (getGroupDisbandInfoMessage msg)).2.1.type = .groupDisbandInfo := by
    rw [getGroupDisbandInfoMessage, serialize_eq] at hparse ⊢
    exact (tryParseMessage_type (colon_notMem_toString _) hparse).2
  rw [Chatter.chatReply, htype] at hreply
  cases hreply

end Quiet

/-! ## Bots that are logged in -/

/-- The socket is that of a session of the bot, and hears what is told to it. -/
structure Attends (bot : Bot) (sock : Socket) : Prop where
  live : sock.phase = .live
  connected : sock.data.connected = true
  name : sock.data.name = bot.name
  tell : tellTopic bot.name ∈ sock.subscriptions

def Online (s : Server) (bot : Bot) : Prop := ∃ sock, s.sockets bot.ws = some sock ∧ Attends bot sock

section Online

variable {s s' : Server} {bot : Bot} {ws : SocketId} {sock : Socket}

theorem Attends.session (h : Attends bot sock) (hfound : s.sockets bot.ws = some sock) :
    s.Session bot.ws sock := ⟨hfound, h.live, h.connected⟩

theorem Attends.of_sameSession {sock' : Socket} (h : Attends bot sock)
    (hsame : Socket.SameSession sock sock') (htell : tellTopic bot.name ∈ sock'.subscriptions) :
    Attends bot sock' :=
  ⟨hsame.phase.trans h.live, hsame.connected.trans h.connected, hsame.name.trans h.name, htell⟩

/-- Entering a group. -/
theorem Attends.entered (h : Attends bot sock) (g : Str) :
    Attends bot (sock.setGroupId g).subscribeGroupTopic := by
  have hset : Attends bot (sock.setGroupId g) := ⟨h.live, h.connected, h.name, h.tell⟩
  refine hset.of_sameSession (Socket.sameSession_subscribeGroupTopic _) ?_
  unfold Socket.subscribeGroupTopic
  split
  · exact h.tell
  · exact mem_subscriptions_store _ h.tell

/-- Leaving it. -/
theorem Attends.left (h : Attends bot sock) :
    Attends bot (sock.removeGroupSubscription.setGroupId []) := by
  have hleft : Attends bot sock.removeGroupSubscription :=
    h.of_sameSession (Socket.sameSession_removeGroupSubscription sock)
      (mem_subscriptions_removeGroupSubscription h.tell (isGroupTopic_tellTopic _))
  exact ⟨hleft.live, hleft.connected, hleft.name, hleft.tell⟩

/-- What there is to look up. -/
theorem online_of_lookup (h : (s.sockets bot.ws).map (fun sock => (sock.phase, sock.data.connected,
      sock.data.name, decide (tellTopic bot.name ∈ sock.subscriptions))) =
    some (.live, true, bot.name, true)) : Online s bot := by
  obtain ⟨sock, hfound, heq⟩ := Option.map_eq_some_iff.mp h
  obtain ⟨hlive, hconnected, hname, htell⟩ := by simpa only [Prod.mk.injEq] using heq
  exact ⟨sock, hfound, hlive, hconnected, hname, of_decide_eq_true htell⟩

/-- A change of one socket leaves all bots online if it does so with those at it. -/
theorem Online.of_update {sock' : Socket} (h : Online s bot) (hfound : s.sockets ws = some sock)
    (hsockets : s'.sockets = Function.update s.sockets ws (some sock'))
    (hsock : Attends bot sock → Attends bot sock') : Online s' bot := by
  obtain ⟨own, hown, hattends⟩ := h
  by_cases hws : bot.ws = ws
  · subst hws
    obtain rfl := Option.some.inj (hfound.symm.trans hown)
    exact ⟨sock', by rw [hsockets, Function.update_self], hsock hattends⟩
  · exact ⟨own, by rw [hsockets, Function.update_of_ne hws, hown], hattends⟩

end Online

/-- The server has been running, with a container that keeps its invariant, and the bots are logged
in. -/
structure Ready (cfg : Config) (bots : List Bot) (s : Server) : Prop where
  reached : ∃ evs, s = (machine cfg).run evs
  wellFormed : s.groupContainer.WellFormed
  online : ∀ bot ∈ bots, Online s bot

/-- The names of the bots tell them apart, in small letters too. -/
def Distinct (bots : List Bot) : Prop := (bots.map fun bot => toLower bot.name).Nodup

section Ready

variable {cfg : Config} {bots : List Bot} {s : Server} {e : Event} {bot : Bot}

theorem Ready.consistent (h : Ready cfg bots s) : s.Consistent := by
  obtain ⟨evs, rfl⟩ := h.reached
  exact consistent_run cfg evs

/-- The container invariant, over one event. -/
theorem wellFormed_step (cfg : Config) (hc : s.groupContainer.WellFormed)
    (hfresh : ∀ uuid n, s.founding e = some (getNewGroupId uuid, n) →
      s.groupContainer.FreshId uuid) : (s.step cfg e).groupContainer.WellFormed := by
  have hallows : Guard.Allows { founds := fun s g _ => s.groupContainer.entriesOf g = [] } cfg s e := by
    refine { allows_any cfg s e with founds := fun p hp => ?_ }
    obtain ⟨cmd, -, rfl⟩ := chatCommand_of_founding hp
    exact freshId_iff.mp (hfresh _ _ hp)
  refine step_of_move (I := fun s => s.groupContainer.WellFormed) (fun hm hc => ?_) cfg hallows hc
  refine hm.container_invariant (fun c cmd hserves hc => wellFormed_exec hc cmd ?_) hc
  cases cmd with
  | groupStartGroup now uuid leaderName =>
      obtain ⟨rfl, -, hempty⟩ := hserves
      exact fun _ => freshId_iff.mpr hempty
  | _ => trivial

theorem Ready.step (h : Ready cfg bots s)
    (hfresh : ∀ uuid n, s.founding e = some (getNewGroupId uuid, n) →
      s.groupContainer.FreshId uuid)
    (honline : ∀ bot ∈ bots, Online (s.step cfg e) bot) : Ready cfg bots (s.step cfg e) where
  reached := by
    obtain ⟨evs, rfl⟩ := h.reached
    exact ⟨evs ++ [e], (Machine.run_snoc (machine cfg) evs e).symm⟩
  wellFormed := wellFormed_step cfg h.wellFormed hfresh
  online := honline

/-- Of the bots only the one with the name hears what is told to it. -/
theorem hears_tell (h : Ready cfg bots s) {other : Bot} (hother : other ∈ bots)
    (hears : s.hears other.ws (tellTopic bot.name) = true) :
    toLower bot.name = toLower other.name := by
  obtain ⟨sock, hfound, hattends⟩ := h.online other hother
  obtain ⟨evs, rfl⟩ := h.reached
  rw [Server.hears, hfound] at hears
  rw [tellTopic_subscribed cfg evs (hattends.session hfound) (of_decide_eq_true hears),
    hattends.name]

/-- **What is told to a bot only that bot replies to.** -/
theorem repliesTo_tell (h : Ready cfg bots s) (hdistinct : Distinct bots) (hbot : bot ∈ bots)
    (env : Env) (payload : Payload) (groups : List GroupMember) :
    repliesTo bots env s ⟨tellTopic bot.name, payload, groups⟩ =
      (bot.chatter.replyEvent env bot.ws payload).toList := by
  obtain ⟨before, after, rfl⟩ := List.append_of_mem hbot
  have hself : s.hears bot.ws (tellTopic bot.name) = true := by
    obtain ⟨sock, hfound, hattends⟩ := h.online bot hbot
    rw [Server.hears, hfound]
    exact decide_eq_true hattends.tell
  rw [Distinct, List.map_append, List.nodup_append, List.map_cons, List.nodup_cons] at hdistinct
  obtain ⟨-, ⟨hafter, -⟩, hbefore⟩ := hdistinct
  -- the others are subscribed to other tell topics
  have hnone : ∀ others : List Bot, (∀ other ∈ others, other ∈ before ++ bot :: after) →
      (∀ other ∈ others, toLower bot.name ≠ toLower other.name) →
      others.filter (fun other => s.hears other.ws (tellTopic bot.name)) = [] := by
    intro others hmem hne
    refine List.filter_eq_nil_iff.mpr fun other hother hears => ?_
    exact hne other hother (hears_tell h (hmem other hother) hears)
  have hleft := hnone before (fun other hother => List.mem_append_left _ hother) fun other hother heq =>
    hbefore _ (List.mem_map_of_mem hother) _ List.mem_cons_self heq.symm
  have hright := hnone after
    (fun other hother => List.mem_append_right _ (List.mem_cons_of_mem _ hother))
    fun other hother heq => hafter (heq ▸ List.mem_map_of_mem hother)
  have hone : (before ++ bot :: after).filter (fun other => s.hears other.ws (tellTopic bot.name)) =
      [bot] := by
    rw [List.filter_append, List.filter_cons, if_pos hself, hleft, hright]
    rfl
  rw [repliesTo, hone]
  cases hreply : bot.chatter.replyEvent env bot.ws payload with
  | none => exact List.filterMap_cons_none hreply
  | some e => exact List.filterMap_cons_some hreply

end Ready

end Server

end DaraChat
