import DaraChat.Group.Invariant
import DaraChat.Group.Independence
import DaraChat.Group.Answers
import DaraChat.Group.Malformed
import DaraChat.Auth.Login
import DaraChat.Auth.FieldOrder
import DaraChat.Auth.Identity
import DaraChat.Chat.RawAccesses
import DaraChat.Server.Tracking
import DaraChat.Server.Delivery
import DaraChat.Server.Authenticity
import DaraChat.Server.Rosters
import DaraChat.Server.Authorisation
import DaraChat.Server.RosterFrames
import DaraChat.Server.Invitations
import DaraChat.Server.Consumption
import DaraChat.Server.PrivateMessages
import DaraChat.Server.Administration
import DaraChat.Server.BinaryUpdates
import DaraChat.Server.Snapshot
import DaraChat.Server.Parties
import DaraChat.Admin.ReplyText
import DaraChat.Bot.ChatReply
import DaraChat.Bot.Transport
import DaraChat.Bot.Stream
import DaraChat.Bot.Sending
import DaraChat.Bot.Closing
import DaraChat.Bot.Handshake
import DaraChat.Bot.Cascade
import DaraChat.Bot.Joining
import DaraChat.Bot.Control
import DaraChat.Bot.Scenario
import DaraChat.Bot.Hearing
