import DaraChat.Admin.AdminQueries
import DaraChat.Chat.RawMessage
import Mathlib.Data.Finset.Erase
import Mathlib.Data.Finset.Insert
import Mathlib.Data.Finset.Dedup
import Mathlib.Logic.Function.Basic

set_option autoImplicit false

/-! # The state of the server (`uDaraChatServer.cpp`)

The globals of the server and what `uWebSockets` keeps for it: the sockets with their user
data, phase and subscriptions, the session registry `activeSessions`, the group container, and
the log of what has been published and sent. `uWebSockets` is not part of the repository; it is
modelled by what it documents: `subscribe` and `unsubscribe` insert and erase a topic of one
socket, a socket that has ended or closed has no subscriptions.
-/

namespace DaraChat

/-- A socket, named by its address. An address may be used again after the socket closed. -/
abbrev SocketId := Nat

/-- `struct TopicSlot`. -/
structure TopicSlot where
  topic : Str
  used : Bool := false
  deriving DecidableEq, Repr

/-- `struct PerSocketData`. -/
structure PerSocketData where
  name : Str := []
  zone : Str := []
  groupId : Str := []
  topics : List TopicSlot := []
  isAdmin : Bool := false
  adminExpiresAt : Date := 0
  connected : Bool := false
  deriving DecidableEq, Repr

/-- A socket is live until `end()` or the peer's close; between `end()` and its close handler
it has `ended`. -/
inductive Phase
  | live | ended | closed
  deriving DecidableEq, Repr

/-- A WebSocket: its user data, its phase and the topics it is subscribed to. -/
structure Socket where
  data : PerSocketData
  phase : Phase
  subscriptions : Finset Str

/-- What a frame carries; the op code tells the two apart. -/
inductive Payload
  | text (s : Str)
  | binary (data : List UInt8)
  deriving DecidableEq, Repr

/-- One call of `app->publish`. `groups` is a history variable, the contents of `MyGroups` at
that moment; nothing reads it. -/
structure Publication where
  topic : Str
  payload : Payload
  groups : List GroupMember
  deriving DecidableEq, Repr

/-- The server. -/
structure Server where
  sockets : SocketId → Option Socket := fun _ => none
  activeSessions : AList (fun _ : Str => SocketId) := ∅
  groupContainer : GroupContainer := {}
  published : List Publication := []
  sent : List (SocketId × Str) := []

/-- What the server is configured with and what it calls outside the repository: the JWT
library, the JSON writer, the text of the float `Health / MaxHealth`, and the signing secret. -/
structure Config where
  jwt : JwtLib
  serializeJson : Json → Str
  healthPercentage : UInt32 → UInt32 → Str
  jwtSecret : Str

/-- What the environment supplies while one handler runs: the clock, the random text of
`GetNewGroupId`, the time since start, and whether `end()` leaves the close handler for later. -/
structure Env where
  now : Date
  uuid : Str := []
  uptimeSeconds : ℚ := 0
  lateClose : Bool := false
  deriving Repr

/-- `std::time(nullptr)`. -/
def Env.time (env : Env) : Time := env.now / 1000000000

/-! ## Local changes of a socket -/

namespace Socket

/-- `ws->subscribe(topic)`. -/
def subscribe (sock : Socket) (topic : Str) : Socket :=
  { sock with subscriptions := insert topic sock.subscriptions }

/-- `ws->unsubscribe(topic)`. -/
def unsubscribe (sock : Socket) (topic : Str) : Socket :=
  { sock with subscriptions := sock.subscriptions.erase topic }

/-- The socket with other topic slots. -/
def setTopics (sock : Socket) (topics : List TopicSlot) : Socket :=
  { sock with data := { sock.data with topics := topics } }

/-- `perSocketData->groupId = groupId`. -/
def setGroupId (sock : Socket) (groupId : Str) : Socket :=
  { sock with data := { sock.data with groupId := groupId } }

/-- The socket after `end()` or close: in a later phase, without subscriptions. -/
def retire (sock : Socket) (phase : Phase) : Socket :=
  { sock with phase := phase, subscriptions := ∅ }

end Socket

/-! ## Changes of the server -/

namespace Server

/-- The server with socket `ws` changed to `sock`. -/
def setSocket (s : Server) (ws : SocketId) (sock : Socket) : Server :=
  { s with sockets := Function.update s.sockets ws (some sock) }

/-- The server with another group container. -/
def setGroups (s : Server) (c : GroupContainer) : Server := { s with groupContainer := c }

/-- `app->publish(topic, payload, opCode)`. -/
def publish (s : Server) (topic : Str) (payload : Payload) : Server :=
  { s with published := s.published ++ [⟨topic, payload, s.groupContainer.myGroups⟩] }

/-- `ws->send(message, TEXT)`. -/
def send (s : Server) (ws : SocketId) (message : Str) : Server :=
  { s with sent := s.sent ++ [(ws, message)] }

/-- `activeSessions[name] = ws`. -/
def register (s : Server) (name : Str) (ws : SocketId) : Server :=
  { s with activeSessions := s.activeSessions.insert name ws }

/-- `activeSessions.erase(name)`. -/
def unregister (s : Server) (name : Str) : Server :=
  { s with activeSessions := s.activeSessions.erase name }

/-! ### What each change leaves alone -/

section Projections

variable (s : Server) (ws : SocketId) (sock : Socket) (c : GroupContainer) (topic name : Str)
  (payload : Payload) (message : Str)

@[simp] theorem setSocket_sockets_self : (s.setSocket ws sock).sockets ws = some sock :=
  Function.update_self ..

theorem setSocket_sockets_ne {ws' : SocketId} (h : ws' ≠ ws) :
    (s.setSocket ws sock).sockets ws' = s.sockets ws' := Function.update_of_ne h ..

@[simp] theorem setSocket_activeSessions :
    (s.setSocket ws sock).activeSessions = s.activeSessions := rfl
@[simp] theorem setSocket_groupContainer :
    (s.setSocket ws sock).groupContainer = s.groupContainer := rfl
@[simp] theorem setSocket_published : (s.setSocket ws sock).published = s.published := rfl

@[simp] theorem setGroups_sockets : (s.setGroups c).sockets = s.sockets := rfl
@[simp] theorem setGroups_activeSessions :
    (s.setGroups c).activeSessions = s.activeSessions := rfl
@[simp] theorem setGroups_groupContainer : (s.setGroups c).groupContainer = c := rfl
@[simp] theorem setGroups_published : (s.setGroups c).published = s.published := rfl

@[simp] theorem publish_sockets : (s.publish topic payload).sockets = s.sockets := rfl
@[simp] theorem publish_activeSessions :
    (s.publish topic payload).activeSessions = s.activeSessions := rfl
@[simp] theorem publish_groupContainer :
    (s.publish topic payload).groupContainer = s.groupContainer := rfl
@[simp] theorem publish_published : (s.publish topic payload).published =
    s.published ++ [⟨topic, payload, s.groupContainer.myGroups⟩] := rfl

@[simp] theorem send_sockets : (s.send ws message).sockets = s.sockets := rfl
@[simp] theorem send_activeSessions : (s.send ws message).activeSessions = s.activeSessions := rfl
@[simp] theorem send_groupContainer : (s.send ws message).groupContainer = s.groupContainer := rfl
@[simp] theorem send_published : (s.send ws message).published = s.published := rfl

@[simp] theorem register_sockets : (s.register name ws).sockets = s.sockets := rfl
@[simp] theorem register_groupContainer :
    (s.register name ws).groupContainer = s.groupContainer := rfl
@[simp] theorem register_published : (s.register name ws).published = s.published := rfl
@[simp] theorem register_activeSessions :
    (s.register name ws).activeSessions = s.activeSessions.insert name ws := rfl

@[simp] theorem unregister_sockets : (s.unregister name).sockets = s.sockets := rfl
@[simp] theorem unregister_groupContainer :
    (s.unregister name).groupContainer = s.groupContainer := rfl
@[simp] theorem unregister_published : (s.unregister name).published = s.published := rfl
@[simp] theorem unregister_activeSessions :
    (s.unregister name).activeSessions = s.activeSessions.erase name := rfl

end Projections

end Server

end DaraChat
