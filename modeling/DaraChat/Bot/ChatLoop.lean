import DaraChat.Bot.Control

set_option autoImplicit false

/-! # What a bot sends (`uDaraChatBot.cpp`, `Chatter.cpp`)

`firstFrames` are the frames that `Client::run` sends when it is connected, `chatLoop` is
`Client::ChatLoop`, one tick of the mode that a bot has been started in. With the lines of its
operator and its replies that is all (`Chatter.CanSend`). After the first frames a bot never logs in,
subscribes or unsubscribes again: a frame is a chat message in its name, or one for the schedule, which
the server keeps for itself (`CanSend.isOwn`).
-/

namespace DaraChat

/-! ## The first frames -/

namespace Chatter

variable (chatter : Chatter)

/-- `Chatter::GetSubscribeString1`. -/
def getSubscribeString1 : Str := "subscribe:World".toList

/-- `Chatter::GetSubscribeString2`. -/
def getSubscribeString2 : Str := "subscribe:SomeChannel".toList

/-- `Chatter::GetSubscribeString3`. -/
def getSubscribeString3 : Str := "subscribe:".toList ++ chatter.myZoneName

/-- The frames of `Client::run` before its loop. -/
def firstFrames (token : Str) : List Str :=
  [connectMessage chatter token, getSubscribeString1, getSubscribeString2,
    chatter.getSubscribeString3]

end Chatter

/-! ## The loop -/

/-- `Chatter::GetRandomMessage(messages)`, for a number that is drawn. -/
def getRandomMessage (messages : List Str) (draw : Nat) : Str :=
  if messages = [] then "empty".toList else messages.getD (draw % messages.length) []

/-- The messages of `Chatter::GetRandomMessage()`. There is no comma between two of them. -/
def randomMessages : List Str :=
  [ "Why do you think Dara is that corrupted?".toList
  , "Tank looking for work!".toList
  , "DPS looking for work! Willing to travel.".toList
  , "Looking for WaterBastion update".toList
  , "Why me?".toList
  , "Really?".toList
  , "I just got here!".toList
  , "I'm not paid enough for this.".toList
  , "This isn't in my contract!".toList
  , "Again?!".toList
  , "Great. Just great.".toList
  , "Is that thing supposed to glow?".toList
  , "Nope. I'm out.".toList
  , "What did I just step in?".toList
  , "I think it's watching me...".toList
  , "This planet gives me the creeps.".toList
  , "Who's bright idea was this?".toList
  , "I thought this was a vacation mission.".toList
  , "I left the oven on back home.".toList
  , "If I die, tell my clone I said hi.".toList
  , "I demand hazard pay!".toList
  , "Aliens again? Ugh.".toList
  , "Not the face!".toList
  , "I've got a bad feeling about this...How's it going?".toList
  , "Just another day in paradise.".toList
  , "Anyone up for a raid?".toList
  , "Looking for group!".toList
  , "Is this thing on?".toList
  , "Can you hear me now?".toList
  , "Testing, testing, 1-2-3.".toList
  , "I love this game!".toList
  , "Where's the loot?".toList
  , "Let's get this party started!".toList
  , "Anyone need a healer?".toList
  , "I'm just here for the snacks.".toList
  , "Did you see that boss fight?".toList
  , "This is my favorite zone.".toList
  , "Who's got the map?".toList ]

/-- The numbers that one tick draws: for a partner, and for a message. -/
structure Draws where
  partner : Nat
  message : Nat

/-- The static counters of `ChatLoop`. -/
structure LoopState where
  count : Nat := 0
  upTimeCounter : Nat := 0
  deriving DecidableEq, Repr

namespace Chatter

variable (chatter : Chatter)

/-- A message with the name of the bot as its sender. -/
def message (type : EChatCmdType) (recipient text : Str) : BotFrame :=
  .text ({ type := type, sender := chatter.myCharName, recipient := recipient, message := text } :
    FDaraChatMsg).serialize

/-- `Chatter::GetRandomChatMsg`. -/
def getRandomChatMsg (draws : Draws) : BotFrame :=
  chatter.message .channel "World".toList (getRandomMessage randomMessages draws.message)

/-- `Chatter::GetRandomZoneMsg`. -/
def getRandomZoneMsg (draws : Draws) : BotFrame :=
  chatter.message .zone [] (getRandomMessage randomMessages draws.message)

/-- `Chatter::GetRandomTellMsg`. -/
def getRandomTellMsg (partners : List Str) (draws : Draws) : BotFrame :=
  chatter.message .tell (getRandomMessage partners draws.partner)
    (getRandomMessage randomMessages draws.message)

/-- `Chatter::GetRandomGroupMsg`. -/
def getRandomGroupMsg (draws : Draws) : BotFrame :=
  chatter.message .group [] (getRandomMessage randomMessages draws.message)

/-- `Chatter::GetRandomInvite`. -/
def getRandomInvite (partners : List Str) (draws : Draws) : BotFrame :=
  chatter.message .groupInvite (getRandomMessage partners draws.partner) []

/-- The state of the mode `Binary`: at 100, 200, 0 with 90 of 91 health, 92 of 93 mana and 94 of 95
energy. -/
def binaryState : FDaraRawChatMsg :=
  { location := ⟨0x42C80000, 0x43480000, 0⟩
    health := 0x42B40000
    maxHealth := 0x42B60000
    mana := 0x42B80000
    maxMana := 0x42BA0000
    energy := 0x42BC0000
    maxEnergy := 0x42BE0000
    zone := chatter.myZoneName
    charName := chatter.myCharName }

/-- `Client::ChatLoop`. A chatting bot sends an empty text if its counter is past the fourth tick.
The counters are `int` in the source; here they do not overflow. -/
def chatLoop (partners : List Str) (mode : Str) (draws : Draws) (state : LoopState) :
    LoopState × Option BotFrame :=
  let state : LoopState := ⟨state.count + 1, state.upTimeCounter + 1⟩
  let restart : LoopState := { state with count := 0 }
  let partner := getRandomMessage partners draws.partner
  let upTime := natToString state.upTimeCounter
  if mode = "chatting".toList then
    if state.count = 1 then (state, some (chatter.getRandomChatMsg draws))
    else if state.count = 2 then (state, some (chatter.getRandomZoneMsg draws))
    else if state.count = 3 then (state, some (chatter.getRandomTellMsg partners draws))
    else if state.count = 4 then (restart, some (chatter.getRandomGroupMsg draws))
    else (state, some (.text []))
  else if mode = "inviting".toList then (state, some (chatter.getRandomInvite partners draws))
  else if mode = "Binary".toList then (state, some (.binary chatter.binaryState.serialize))
  else if mode = "grouptests".toList then
    if state.count = 2 then (state, some (chatter.message .groupDisband [] []))
    else if state.count = 5 then (restart, some (chatter.message .groupJoin partner []))
    else (state, none)
  else if mode = "schedule".toList then (state, some (.text "schedule:".toList))
  else if mode = "groupmember".toList then
    if state.count = 1 then (state, some (chatter.message .groupDisband [] []))
    else if state.count = 4 then (state, some (chatter.message .groupJoin partner []))
    else if state.count = 5 then
      (state, some (chatter.message .group [] ("I am in your group now ".toList ++ upTime)))
    else if state.count = 10 then (restart, some (chatter.message .groupDisband [] []))
    else (state, none)
  else if mode = "groupleader".toList then
    if state.count = 2 then (state, some (chatter.message .groupInvite partner []))
    else if state.count = 5 then
      (restart, some (chatter.message .group [] ("Welcome to my group ".toList ++ upTime)))
    else (state, none)
  else if mode = "pingpong".toList then
    if state.count = 4 then
      (restart, some (chatter.message .tell partner ("Ping ".toList ++ upTime)))
    else (state, none)
  else (state, none)

/-- The counters after some ticks of a mode. -/
def ticks (partners : List Str) (mode : Str) (draws : List Draws) : LoopState :=
  draws.foldl (fun state draws => (chatter.chatLoop partners mode draws state).1) {}

/-- The texts that a bot can send after its first frames: for its operator, as a reply, or on a tick. -/
inductive CanSend : Str → Prop
  | ordered {line frame printed : Str} (h : chatter.controlCommand line = .sent frame printed) :
      CanSend frame
  | replied {text frame : Str} (h : chatter.onWSMsg (.text text) = some (.text frame)) :
      CanSend frame
  | ticked {partners : List Str} {mode : Str} {before : List Draws} {draws : Draws} {frame : Str}
      (h : (chatter.chatLoop partners mode draws (chatter.ticks partners mode before)).2 =
        some (.text frame)) : CanSend frame

end Chatter

/-! ## Counting -/

/-- After how many ticks a mode starts again; 0 if it never does. -/
def period (mode : Str) : Nat :=
  if mode = "chatting".toList ∨ mode = "pingpong".toList then 4
  else if mode = "grouptests".toList ∨ mode = "groupleader".toList then 5
  else if mode = "groupmember".toList then 10
  else 0

/-- A tick of a counter that starts again at `n`. -/
def LoopState.tick (n : Nat) (state : LoopState) : LoopState :=
  ⟨if state.count + 1 = n then 0 else state.count + 1, state.upTimeCounter + 1⟩

theorem LoopState.tick_restart {n : Nat} {state : LoopState} (h : state.count + 1 = n) :
    state.tick n = ⟨0, state.upTimeCounter + 1⟩ := by
  rw [tick, if_pos h]

theorem LoopState.tick_of_ne {n : Nat} {state : LoopState} (h : state.count + 1 ≠ n) :
    state.tick n = ⟨state.count + 1, state.upTimeCounter + 1⟩ := by
  rw [tick, if_neg h]

namespace Chatter

variable (chatter : Chatter) {partners : List Str} {mode : Str}

/-- **A tick of the loop** starts the counter again in the period of the mode. -/
theorem chatLoop_counters (draws : Draws) (state : LoopState) :
    (chatter.chatLoop partners mode draws state).1 = state.tick (period mode) := by
  simp only [chatLoop]
  by_cases hchatting : mode = "chatting".toList
  · rw [if_pos hchatting, hchatting]
    show _ = state.tick 4
    split_ifs
    all_goals
      first
      | exact (LoopState.tick_restart ‹_›).symm
      | exact (LoopState.tick_of_ne (by omega)).symm
  rw [if_neg hchatting]
  by_cases hinviting : mode = "inviting".toList
  · rw [if_pos hinviting, hinviting]
    rfl
  rw [if_neg hinviting]
  by_cases hbinary : mode = "Binary".toList
  · rw [if_pos hbinary, hbinary]
    rfl
  rw [if_neg hbinary]
  by_cases hgrouptests : mode = "grouptests".toList
  · rw [if_pos hgrouptests, hgrouptests]
    show _ = state.tick 5
    split_ifs
    all_goals
      first
      | exact (LoopState.tick_restart ‹_›).symm
      | exact (LoopState.tick_of_ne (by omega)).symm
  rw [if_neg hgrouptests]
  by_cases hschedule : mode = "schedule".toList
  · rw [if_pos hschedule, hschedule]
    rfl
  rw [if_neg hschedule]
  by_cases hgroupmember : mode = "groupmember".toList
  · rw [if_pos hgroupmember, hgroupmember]
    show _ = state.tick 10
    split_ifs
    all_goals
      first
      | exact (LoopState.tick_restart ‹_›).symm
      | exact (LoopState.tick_of_ne (by omega)).symm
  rw [if_neg hgroupmember]
  by_cases hgroupleader : mode = "groupleader".toList
  · rw [if_pos hgroupleader, hgroupleader]
    show _ = state.tick 5
    split_ifs
    all_goals
      first
      | exact (LoopState.tick_restart ‹_›).symm
      | exact (LoopState.tick_of_ne (by omega)).symm
  rw [if_neg hgroupleader]
  by_cases hpingpong : mode = "pingpong".toList
  · rw [if_pos hpingpong, hpingpong]
    show _ = state.tick 4
    split_ifs
    all_goals
      first
      | exact (LoopState.tick_restart ‹_›).symm
      | exact (LoopState.tick_of_ne (by omega)).symm
  rw [if_neg hpingpong]
  have hperiod : period mode = 0 := by
    rw [period, if_neg (not_or.mpr ⟨hchatting, hpingpong⟩),
      if_neg (not_or.mpr ⟨hgrouptests, hgroupleader⟩), if_neg hgroupmember]
  rw [hperiod]
  rfl

/-- **The counters of a run of ticks.** -/
theorem ticks_eq (draws : List Draws) :
    chatter.ticks partners mode draws = ⟨draws.length % period mode, draws.length⟩ := by
  induction draws using List.reverseRecOn with
  | nil => exact congrArg (LoopState.mk · 0) (Nat.zero_mod _).symm
  | append_singleton draws d ih =>
      rw [ticks, List.foldl_append, List.foldl_cons, List.foldl_nil, ← ticks, chatLoop_counters, ih,
        List.length_append, List.length_singleton, ← Nat.mod_add_mod]
      by_cases hrestart : draws.length % period mode + 1 = period mode
      · rw [LoopState.tick_restart hrestart, hrestart, Nat.mod_self]
      · rw [LoopState.tick_of_ne hrestart]
        rcases Nat.eq_zero_or_pos (period mode) with hzero | hpos
        · rw [hzero, Nat.mod_zero, Nat.mod_zero]
        · have hlt := Nat.mod_lt draws.length hpos
          rw [Nat.mod_eq_of_lt (by omega : draws.length % period mode + 1 < period mode)]

end Chatter

/-! ## The texts -/

/-- The text of a message of a real type in the name of the bot. -/
def Chatter.IsOwn (chatter : Chatter) (frame : Str) : Prop :=
  ∃ msg : FDaraChatMsg, msg.type ≠ .none ∧ msg.sender = chatter.myCharName ∧ frame = msg.serialize

namespace Chatter

variable {chatter : Chatter} {partners : List Str} {mode frame : Str} {draws : Draws}
variable {state : LoopState}

/-- A text that a tick brings out is a message of the bot, or it is for the schedule. -/
def Sends (chatter : Chatter) (tick : LoopState × Option BotFrame) : Prop :=
  ∀ frame, tick.2 = some (.text frame) → frame = "schedule:".toList ∨ chatter.IsOwn frame

theorem sends_ite {c : Prop} [Decidable c] {tick tick' : LoopState × Option BotFrame}
    (h : c → chatter.Sends tick) (h' : ¬ c → chatter.Sends tick') :
    chatter.Sends (if c then tick else tick') := by
  split
  · exact h ‹_›
  · exact h' ‹_›

theorem sends_none : chatter.Sends (state, none) := by
  intro frame h
  cases h

theorem sends_message {c : Prop} [Decidable c] {type : EChatCmdType} {recipient text : Str}
    {tick : LoopState × Option BotFrame} (htype : type ≠ .none) (h : ¬ c → chatter.Sends tick) :
    chatter.Sends (if c then (state, some (chatter.message type recipient text)) else tick) := by
  refine sends_ite (fun _ frame h => ?_) h
  exact .inr ⟨_, htype, rfl, (BotFrame.text.inj (Option.some.inj h)).symm⟩

/-- A tick in which a chatting bot has not passed the period. -/
theorem sends_chatLoop (hcount : mode = "chatting".toList → state.count < 4) :
    chatter.Sends (chatter.chatLoop partners mode draws state) := by
  refine sends_ite (fun hchatting => ?_) fun _ => ?_
  · refine sends_message EChatCmdType.noConfusion fun hone => ?_
    refine sends_message EChatCmdType.noConfusion fun htwo => ?_
    refine sends_message EChatCmdType.noConfusion fun hthree => ?_
    refine sends_message EChatCmdType.noConfusion fun hfour => ?_
    have hlt := hcount hchatting
    simp only at hone htwo hthree hfour
    omega
  refine sends_message EChatCmdType.noConfusion fun _ => ?_
  refine sends_ite (fun _ frame h => ?_) fun _ => ?_
  · cases h
  refine sends_ite (fun _ => ?_) fun _ => ?_
  · refine sends_message EChatCmdType.noConfusion fun _ => ?_
    exact sends_message EChatCmdType.noConfusion fun _ => sends_none
  refine sends_ite (fun _ frame h => ?_) fun _ => ?_
  · exact .inl (BotFrame.text.inj (Option.some.inj h)).symm
  refine sends_ite (fun _ => ?_) fun _ => ?_
  · refine sends_message EChatCmdType.noConfusion fun _ => ?_
    refine sends_message EChatCmdType.noConfusion fun _ => ?_
    refine sends_message EChatCmdType.noConfusion fun _ => ?_
    exact sends_message EChatCmdType.noConfusion fun _ => sends_none
  refine sends_ite (fun _ => ?_) fun _ => ?_
  · refine sends_message EChatCmdType.noConfusion fun _ => ?_
    exact sends_message EChatCmdType.noConfusion fun _ => sends_none
  refine sends_ite (fun _ => ?_) fun _ => sends_none
  exact sends_message EChatCmdType.noConfusion fun _ => sends_none

/-- A chat message that a bot replies with. -/
theorem type_ne_of_chatReply {chatMsg msg : FDaraChatMsg}
    (h : chatter.chatReply chatMsg = some (.chat msg)) :
    msg.type ≠ .none ∧ msg.sender = chatter.myCharName := by
  unfold chatReply at h
  split_ifs at h <;> cases h <;> exact ⟨EChatCmdType.noConfusion, rfl⟩

/-- **What a bot sends after its first frames.** -/
theorem CanSend.isOwn (h : chatter.CanSend frame) :
    frame = "schedule:".toList ∨ chatter.IsOwn frame := by
  cases h with
  | ordered hsent =>
      obtain ⟨type, recipient, message, horder, rfl⟩ := control_sent_iff.mp ⟨_, _, hsent⟩
      exact .inr ⟨_, horder.type_ne, rfl, rfl⟩
  | replied hreply =>
      obtain ⟨-, reply, hreply, hframe⟩ := Server.onWSMsg_text hreply
      cases reply with
      | chat msg =>
          obtain ⟨htype, hsender⟩ := type_ne_of_chatReply hreply
          exact .inr ⟨msg, htype, hsender, BotFrame.text.inj hframe⟩
      | state msg => cases hframe
  | ticked htick =>
      refine sends_chatLoop (fun hchatting => ?_) _ htick
      rw [ticks_eq]
      subst hchatting
      exact Nat.mod_lt _ (by decide)

end Chatter

end DaraChat
