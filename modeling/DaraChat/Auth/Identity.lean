import DaraChat.Auth.Login
import DaraChat.Chat.ChatLibrary

set_option autoImplicit false

/-! # The name of a login as the sender of a frame

`VerifyLogin` takes any non-empty signed name, and the envelope does not escape its fields: a
sender is read back as it was written if and only if there is no `:` in it
(`senderSurvives_iff_colon`). A `:` may stand in the `name` field of a login frame, so the names
that are admitted are not the names that survive.
-/

namespace DaraChat

/-- The frames from a sender `n` are read back with that sender, their recipient and their
text. -/
def SenderSurvives (n : Str) : Prop :=
  ∀ msg : FDaraChatMsg, msg.type ≠ .none → msg.sender = n → ':' ∉ msg.recipient →
    let read := tryParseMessage msg.serialize
    read.1 = true ∧ read.2.1.sender = n ∧ read.2.1.recipient = msg.recipient ∧
      read.2.1.message = msg.message

/-- The `name` field of a login frame has no `:`. -/
def NameWithoutColon (message : Str) : Prop :=
  ∀ body fields name, message = "connect:".toList ++ body → LoginFields body fields →
    fields.lookup "name".toList = some name → ':' ∉ name

/-- No sender that is read has a `:` in it, and without one it survives. -/
theorem senderSurvives_iff_colon {n : Str} : SenderSurvives n ↔ ':' ∉ n := by
  constructor
  · intro h
    obtain ⟨hread, hsender, -, -⟩ := h { type := .tell, sender := n } EChatCmdType.noConfusion rfl
      List.not_mem_nil
    obtain ⟨type, sender, recipient, message, -, -, hcolon, -, -, hmsg⟩ := eq_of_tryParseMessage hread
    rw [hmsg] at hsender
    exact hsender ▸ hcolon
  · rintro h msg htype rfl hrecipient
    rw [tryParseMessage_serialize htype h hrecipient]
    exact ⟨rfl, rfl, rfl, rfl⟩

/-- **An admitted name survives the envelope exactly when there is no `:` in the `name` field of
its login frame.** -/
theorem senderSurvives_iff {lib : JwtLib} {message secret : Str} {now : Date}
    {login : AuthenticatedLogin} (h : verifyLogin lib message secret now = .ok login) :
    SenderSurvives login.characterName ↔ NameWithoutColon message := by
  obtain ⟨token, ⟨-, body, fields, rfl, hfields, pass, iat, exp, hclaims⟩, -⟩ :=
    verifyLogin_iff.mp h
  rw [senderSurvives_iff_colon]
  constructor
  · intro hcolon body' fields' name hbody hfields' hname
    obtain rfl := List.append_cancel_left hbody
    -- both lists of fields are those of the one frame, and its name is the signed one
    rw [hfields'.lookup_unique hfields, hclaims.name] at hname
    exact Option.some.inj hname ▸ hcolon
  · intro hname
    exact hname body fields _ rfl hfields hclaims.name

/-- Tirio's name survives exactly when there is no `:` in his frame's `name` field. -/
theorem senderSurvives_tirio : SenderSurvives "Tirio".toList ↔ NameWithoutColon lateMessage :=
  senderSurvives_iff verifyLogin_lateMessage

/-! A token of the game server for the name `Trula:Tirio`, signed with the secret `k`. -/

def colonPayload : Str :=
  ("eyJpc3MiOiJkYXJhLWdhbWUtc2VydmVyIiwiYXVkIjoiZGFyYS1jaGF0IiwiaWF0IjowLCJleHAiOjQwMDAwMDAwMDAs" ++
    "ImNoYXJhY3Rlck5hbWUiOiJUcnVsYTpUaXJpbyJ9").toList

def colonSignature : Str := "zIJxCrXCeH2vYJNG7CTxlkod7WELHnv3ho-Rfq55YIw".toList

def colonToken : DecodedJwt where
  header := [("alg".toList, .string "HS256".toList)]
  payload :=
    [ ("iss".toList, .string "dara-game-server".toList)
    , ("aud".toList, .string "dara-chat".toList)
    , ("iat".toList, .integer 0)
    , ("exp".toList, .integer 4000000000)
    , ("characterName".toList, .string "Trula:Tirio".toList) ]
  headerBase64 := lateHeader
  payloadBase64 := colonPayload
  signature := colonSignature

/-- The JWT library on this token. -/
def colonJwt : JwtLib where
  decode pass :=
    if pass = lateHeader ++ ".".toList ++ colonPayload ++ ".".toList ++ colonSignature then
      some colonToken
    else none
  hs256Verify secret data signature :=
    decide (secret = "k".toList ∧ data = lateHeader ++ ".".toList ++ colonPayload ∧
      signature = colonSignature)

def colonMessage : Str :=
  "connect:name=Trula:Tirio;pass=".toList ++ lateHeader ++ ".".toList ++ colonPayload ++ ".".toList
    ++ colonSignature

/-- The login is accepted, and what its character tells Maro is read as a message from Trula to
Tirio. -/
theorem colonLogin_impersonates :
    ∃ login, verifyLogin colonJwt colonMessage "k".toList 1000000000000 = .ok login ∧
      ¬ SenderSurvives login.characterName ∧
      tryParseMessage (FDaraChatMsg.serialize
          ⟨.tell, login.characterName, "Maro".toList, "hi".toList⟩) =
        (true, ⟨.tell, "Trula".toList, "Tirio".toList, "Maro:hi".toList⟩, []) := by
  refine ⟨{ expiresAt := 4000000000000000000, characterName := "Trula:Tirio".toList, zone := [] },
    by decide +kernel, ?_, by decide +kernel⟩
  intro h
  exact senderSurvives_iff_colon.mp h (by decide)

end DaraChat
