import DaraChat.Server.State

set_option autoImplicit false

/-! # Topics of a socket (`uDaraChatServer.cpp`)

The functions that fill and empty the topic slots of a socket and subscribe or unsubscribe it
accordingly. All of them act on one socket only. The flags that no caller reads are left out.
-/

namespace DaraChat

/-! ## Names of topics -/

/-- The topic of world chat. -/
def worldTopic : Str := "World".toList

/-- The topic of a zone, `"zone_" + zone`. -/
def zoneTopic (zone : Str) : Str := "zone_".toList ++ zone

/-- The topic of private messages to a character, `"tell_" + ToLower(name)`. -/
def tellTopic (name : Str) : Str := "tell_".toList ++ toLower name

/-- The test for a group topic, `topic.rfind("group_", 0) == 0`. -/
def isGroupTopic (topic : Str) : Bool := startsWith topic "group_".toList

/-- The number of slots made in the open handler. -/
def slotCount : Nat := 32

/-- The placeholder of slot `i` of the socket at address `ws`, made in the open handler. -/
def placeholder (ws : SocketId) (i : Nat) : Str :=
  natToString ws ++ "-".toList ++ natToString i

/-- `CheckValidTopicName`. -/
def checkValidTopicName (topicName : Str) : Bool :=
  if startsWith topicName "tell_".toList || topicName = worldTopic then false
  else if isGroupTopic topicName || startsWith topicName "zone_".toList then false
  else
    !(topicName = [] || topicName.any fun c =>
      !("abcdefghijklmnopqrstuvwxyzABCDEFGHIJKLMNOPQRSTUVWXYZ0123456789_".toList.contains c))

/-! ## Slots -/

/-- The slot loop shared by `RemoveGroupSubscription` and `RemoveTopicSubscription`: free the
first used slot whose topic satisfies `p`; the result is that topic and the slots. -/
def releaseSlot (p : Str → Bool) : List TopicSlot → Option (Str × List TopicSlot)
  | [] => none
  | slot :: rest =>
      if slot.used && p slot.topic then
        some (slot.topic, { topic := "none".toList, used := false } :: rest)
      else (releaseSlot p rest).map fun r => (r.1, slot :: r.2)

/-- The slot loop of `StoreTopicSubscription`; `none` is `false`. -/
def storeSlot (newTopic : Str) : List TopicSlot → Option (List TopicSlot)
  | [] => none
  | slot :: rest =>
      -- a free slot is taken before the later slots are searched for the topic
      if !slot.used then some ({ topic := newTopic, used := true } :: rest)
      else if slot.topic = newTopic then some (slot :: rest)
      else (storeSlot newTopic rest).map fun rest => slot :: rest

namespace Socket

/-- Free the first used slot whose topic satisfies `p` and unsubscribe from that topic. -/
def release (sock : Socket) (p : Str → Bool) : Socket :=
  match releaseSlot p sock.data.topics with
  | some (oldTopic, topics) => (sock.setTopics topics).unsubscribe oldTopic
  | none => sock

/-- `RemoveGroupSubscription`. -/
def removeGroupSubscription (sock : Socket) : Socket := sock.release isGroupTopic

/-- `RemoveTopicSubscription`. -/
def removeTopicSubscription (sock : Socket) (oldTopic : Str) : Socket :=
  sock.release fun topic => decide (topic = oldTopic)

/-- `StoreTopicSubscription`, and `ws->subscribe(topic)` if it succeeds: what every caller does. -/
def storeTopicSubscription (sock : Socket) (newTopic : Str) : Socket :=
  match storeSlot newTopic sock.data.topics with
  | some topics => (sock.setTopics topics).subscribe newTopic
  | none => sock

/-- `HandleSubscribeMessage`. -/
def handleSubscribeMessage (sock : Socket) (msg : Str) : Socket :=
  let newTopic := msg.drop "subscribe:".toList.length
  if !checkValidTopicName newTopic then sock else sock.storeTopicSubscription newTopic

/-- `SubscribeGroupTopic`. -/
def subscribeGroupTopic (sock : Socket) : Socket :=
  if sock.data.groupId = [] then sock
  else
    let topic :=
      if isGroupTopic sock.data.groupId then sock.data.groupId
      else GroupContainer.getGroupTopic sock.data.groupId
    sock.storeTopicSubscription topic

/-- `SubscribeStandardTopics`. -/
def subscribeStandardTopics (sock : Socket) : Socket :=
  let sock := sock.storeTopicSubscription worldTopic
  let sock := sock.storeTopicSubscription (zoneTopic sock.data.zone)
  let sock := sock.storeTopicSubscription (tellTopic sock.data.name)
  sock.subscribeGroupTopic

/-! ### What they leave alone -/

/-- `sock'` is `sock` up to slots and subscriptions. -/
structure SameSession (sock sock' : Socket) : Prop where
  phase : sock'.phase = sock.phase
  data : { sock'.data with topics := sock.data.topics } = sock.data

namespace SameSession

variable {sock sock' sock'' : Socket}

theorem refl (sock : Socket) : SameSession sock sock := ⟨rfl, rfl⟩

theorem trans (h : SameSession sock sock') (h' : SameSession sock' sock'') :
    SameSession sock sock'' where
  phase := h'.phase.trans h.phase
  data := by
    have hdata := congrArg (fun data => { data with topics := sock.data.topics }) h'.data
    exact hdata.trans h.data

theorem name (h : SameSession sock sock') : sock'.data.name = sock.data.name := by
  rw [← h.data]

theorem zone (h : SameSession sock sock') : sock'.data.zone = sock.data.zone := by
  rw [← h.data]

theorem groupId (h : SameSession sock sock') : sock'.data.groupId = sock.data.groupId := by
  rw [← h.data]

theorem connected (h : SameSession sock sock') : sock'.data.connected = sock.data.connected := by
  rw [← h.data]

end SameSession

theorem sameSession_release (sock : Socket) (p : Str → Bool) :
    SameSession sock (sock.release p) := by
  unfold release
  split
  · exact ⟨rfl, rfl⟩
  · exact .refl _

theorem sameSession_removeGroupSubscription (sock : Socket) :
    SameSession sock sock.removeGroupSubscription := sameSession_release ..

theorem sameSession_removeTopicSubscription (sock : Socket) (oldTopic : Str) :
    SameSession sock (sock.removeTopicSubscription oldTopic) := sameSession_release ..

theorem sameSession_storeTopicSubscription (sock : Socket) (newTopic : Str) :
    SameSession sock (sock.storeTopicSubscription newTopic) := by
  unfold storeTopicSubscription
  split
  · exact ⟨rfl, rfl⟩
  · exact .refl _

theorem sameSession_subscribeGroupTopic (sock : Socket) :
    SameSession sock sock.subscribeGroupTopic := by
  unfold subscribeGroupTopic
  split
  · exact .refl _
  · exact sameSession_storeTopicSubscription ..

theorem sameSession_subscribeStandardTopics (sock : Socket) :
    SameSession sock sock.subscribeStandardTopics :=
  (((sameSession_storeTopicSubscription ..).trans (sameSession_storeTopicSubscription ..)).trans
    (sameSession_storeTopicSubscription ..)).trans (sameSession_subscribeGroupTopic _)

end Socket

/-- The socket as the open handler leaves it. -/
def openSocket (ws : SocketId) : Socket :=
  let placeholders := (List.range slotCount).map (placeholder ws)
  { data := { topics := placeholders.map fun topic => { topic := topic, used := false } }
    phase := .live
    subscriptions := placeholders.toFinset }

end DaraChat
