import DaraChat.Auth.JwtAuth
import DaraChat.Chat.ChatLibrary
import DaraChat.Group.Container

set_option autoImplicit false

/-! # Administrator queries (`AdminQueries.h`)

`answerAdminQuery` answers one query with one direct reply. The JSON text of a value
(`picojson::value::serialize`) is a parameter. A `picojson::object` is a `std::map`, so its
fields are listed in the order of their names.
-/

namespace DaraChat

/-- `struct AdminSnapshot`; the two maps are lists of key and count. -/
structure AdminSnapshot where
  uptimeSeconds : ℚ
  connectedClients : Nat
  groups : List GroupInfo
  zones : List (Str × Nat)
  channels : List (Str × Nat)

/-- `IsAdminQuery`. -/
def isAdminQuery (type : EChatCmdType) : Bool :=
  type = .adminStatus || type = .adminGroups || type = .adminZones || type = .adminChannels

/-- `AdminError`. -/
def adminError (serializeJson : Json → Str) (name code message : Str) : FDaraChatMsg :=
  { type := .adminError
    sender := "Server".toList
    recipient := name
    message := serializeJson (.object
      [("code".toList, .string code), ("message".toList, .string message)]) }

/-- A count as `picojson::value(static_cast<double>(n))`. -/
def jsonCount (n : Nat) : Json := .number n

/-- A group that has a member online. -/
def onlineGroup (group : GroupInfo) : Bool := group.groupMembers.any fun member => member.isOnline

/-- One group as listed by the `groups` query. -/
def jsonGroup (group : GroupInfo) : Json :=
  .object
    [ ("id".toList, .string group.groupId)
    , ("leader".toList, .string group.leaderName)
    , ("members".toList, .array (group.groupMembers.map fun member =>
        .object [("name".toList, .string member.name), ("online".toList, .boolean member.isOnline)])) ]

/-- The body of the answer to each of the four queries. -/
def adminBody (type : EChatCmdType) (state : AdminSnapshot) : Json :=
  match type with
  | .adminStatus =>
      .object
        [ ("connectedClients".toList, jsonCount state.connectedClients)
        , ("onlineGroups".toList, jsonCount (state.groups.countP onlineGroup))
        , ("query".toList, .string "status".toList)
        , ("totalGroups".toList, jsonCount state.groups.length)
        , ("uptimeSeconds".toList, .number state.uptimeSeconds) ]
  | .adminGroups =>
      .object
        [ ("groups".toList, .array (state.groups.map jsonGroup))
        , ("query".toList, .string "groups".toList) ]
  | .adminZones =>
      .object
        [ ("query".toList, .string "zones".toList)
        , ("zones".toList, .array (state.zones.map fun entry => .object
            [("connectedClients".toList, jsonCount entry.2), ("name".toList, .string entry.1)])) ]
  | _ =>
      .object
        [ ("channels".toList, .array (state.channels.map fun entry => .object
            [("name".toList, .string entry.1), ("subscribers".toList, jsonCount entry.2)]))
        , ("query".toList, .string "channels".toList) ]

/-- `AnswerAdminQuery`. `collect` is run for an authorised, well-formed query only. -/
def answerAdminQuery (serializeJson : Json → Str) (request : FDaraChatMsg) (isAdmin : Bool)
    (collect : Unit → AdminSnapshot) : FDaraChatMsg :=
  if !isAdmin then
    adminError serializeJson request.sender "Forbidden".toList
      "Administrator access required".toList
  else if !isAdminQuery request.type || request.recipient ≠ [] || request.message ≠ [] then
    adminError serializeJson request.sender "InvalidQuery".toList
      "Expected an admin query with empty recipient and message".toList
  else
    { type := .adminInfo
      sender := "Server".toList
      recipient := request.sender
      message := serializeJson (adminBody request.type (collect ())) }

end DaraChat
