import DaraChat.Basic.Str

set_option autoImplicit false

/-! # The text envelope (`ChatLibrary.h`, `ChatLibrary.cpp`)

A text frame is `Type:Sender:Recipient:Message`. `FDaraChatMsg.serialize` writes it and
`tryParseMessage` reads it, cutting at the first three colons only. The two results used
elsewhere are `tryParseMessage_serialize` (a message whose sender and recipient have no colon
is read back as it was) and `tryParseMessage_type` (whatever follows the first colon, the type
is the one named before it). `tryParseMessage_exact` is the codec as a whole, with the two
reference arguments the reader overwrites.
-/

namespace DaraChat

/-- `enum class EChatCmdType`. -/
inductive EChatCmdType
  | tell | group | raid | zone | channel
  | groupInvite | groupJoin | groupJoinInfo | groupDisband | groupDisbandInfo
  | groupKick | groupKickInfo | groupInfo
  | alive | aliveInfo
  | adminStatus | adminGroups | adminZones | adminChannels | adminInfo | adminError
  | none
  deriving DecidableEq, Repr

/-- `ChatCmdTypeToString`. -/
def chatCmdTypeToString : EChatCmdType → Str
  | .tell => "Tell".toList
  | .group => "Group".toList
  | .raid => "Raid".toList
  | .zone => "Zone".toList
  | .channel => "Channel".toList
  | .groupInvite => "GroupInvite".toList
  | .groupJoin => "GroupJoin".toList
  | .groupJoinInfo => "GroupJoinInfo".toList
  | .groupDisband => "GroupDisband".toList
  | .groupDisbandInfo => "GroupDisbandInfo".toList
  | .groupKick => "GroupKick".toList
  | .groupKickInfo => "GroupKickInfo".toList
  | .groupInfo => "GroupInfo".toList
  | .alive => "Alive".toList
  | .aliveInfo => "AliveInfo".toList
  | .adminStatus => "AdminStatus".toList
  | .adminGroups => "AdminGroups".toList
  | .adminZones => "AdminZones".toList
  | .adminChannels => "AdminChannels".toList
  | .adminInfo => "AdminInfo".toList
  | .adminError => "AdminError".toList
  | .none => "None".toList

/-- `ChatCmdTypeFromString`. -/
def chatCmdTypeFromString (str : Str) : EChatCmdType :=
  if str = "Tell".toList then .tell
  else if str = "Group".toList then .group
  else if str = "Raid".toList then .raid
  else if str = "Zone".toList then .zone
  else if str = "Channel".toList then .channel
  else if str = "GroupInvite".toList then .groupInvite
  else if str = "GroupJoin".toList then .groupJoin
  else if str = "GroupJoinInfo".toList then .groupJoinInfo
  else if str = "GroupDisband".toList then .groupDisband
  else if str = "GroupDisbandInfo".toList then .groupDisbandInfo
  else if str = "GroupKick".toList then .groupKick
  else if str = "GroupKickInfo".toList then .groupKickInfo
  else if str = "GroupInfo".toList then .groupInfo
  else if str = "Alive".toList then .alive
  else if str = "AliveInfo".toList then .aliveInfo
  else if str = "AdminStatus".toList then .adminStatus
  else if str = "AdminGroups".toList then .adminGroups
  else if str = "AdminZones".toList then .adminZones
  else if str = "AdminChannels".toList then .adminChannels
  else if str = "AdminInfo".toList then .adminInfo
  else if str = "AdminError".toList then .adminError
  else if str = "None".toList then .none
  else .none

theorem chatCmdTypeFromString_toString (type : EChatCmdType) :
    chatCmdTypeFromString (chatCmdTypeToString type) = type := by
  cases type <;> decide

/-- The only text that names a type other than `none` is the type's own name. -/
theorem eq_toString_of_fromString {str : Str} (hne : chatCmdTypeFromString str ≠ .none) :
    str = chatCmdTypeToString (chatCmdTypeFromString str) := by
  by_cases hex : ∃ type, str = chatCmdTypeToString type
  · obtain ⟨type, rfl⟩ := hex
    rw [chatCmdTypeFromString_toString]
  · -- no name matches, so every test of the chain fails
    have hall : ∀ type, str ≠ chatCmdTypeToString type := fun type h => hex ⟨type, h⟩
    refine absurd ?_ hne
    refine (if_neg (hall .tell)).trans <| (if_neg (hall .group)).trans <|
      (if_neg (hall .raid)).trans <| (if_neg (hall .zone)).trans <|
      (if_neg (hall .channel)).trans <| (if_neg (hall .groupInvite)).trans <|
      (if_neg (hall .groupJoin)).trans <| (if_neg (hall .groupJoinInfo)).trans <|
      (if_neg (hall .groupDisband)).trans <| (if_neg (hall .groupDisbandInfo)).trans <|
      (if_neg (hall .groupKick)).trans <| (if_neg (hall .groupKickInfo)).trans <|
      (if_neg (hall .groupInfo)).trans <| (if_neg (hall .alive)).trans <|
      (if_neg (hall .aliveInfo)).trans <| (if_neg (hall .adminStatus)).trans <|
      (if_neg (hall .adminGroups)).trans <| (if_neg (hall .adminZones)).trans <|
      (if_neg (hall .adminChannels)).trans <| (if_neg (hall .adminInfo)).trans <|
      (if_neg (hall .adminError)).trans <| (if_neg (hall .none))

/-- No type has a colon in its name. -/
theorem colon_notMem_toString (type : EChatCmdType) : ':' ∉ chatCmdTypeToString type := by
  cases type <;> decide

/-- Every type's name starts with a capital letter. -/
theorem fromString_lower {c : Char} {str : Str} (hc : c.isLower = true) :
    chatCmdTypeFromString (c :: str) = .none := by
  by_contra hne
  have h := eq_toString_of_fromString hne
  generalize chatCmdTypeFromString (c :: str) = type at h
  have hhead : (chatCmdTypeToString type).head? = some c := by rw [← h]; rfl
  have hupper : ∀ type, (chatCmdTypeToString type).head?.any Char.isLower = false := by
    intro type
    cases type <;> decide
  have := hupper type
  rw [hhead] at this
  simp [hc] at this

/-- `struct FDaraChatMsg`. -/
structure FDaraChatMsg where
  type : EChatCmdType := .none
  sender : Str := []
  recipient : Str := []
  message : Str := []
  deriving DecidableEq, Repr

/-- `FDaraChatMsg::Serialize`. -/
def FDaraChatMsg.serialize (msg : FDaraChatMsg) : Str :=
  chatCmdTypeToString msg.type ++ ":".toList ++ msg.sender ++ ":".toList ++ msg.recipient
    ++ ":".toList ++ msg.message

/-- `uDaraChatLibrary::TryParseMessage`. The result is the returned flag and the final values
of `output` and `error`; both are overwritten before they are read, so their old values are
not parameters. -/
def tryParseMessage (input : Str) : Bool × FDaraChatMsg × Str :=
  let first := find input ':' 0
  let second := match first with
    | some first => find input ':' (first + 1)
    | none => none
  let third := match second with
    | some second => find input ':' (second + 1)
    | none => none
  match first, second, third with
  | some first, some second, some third =>
      let type := chatCmdTypeFromString (substr input 0 first)
      if type = .none then (false, {}, "Unknown or inactive message type".toList)
      else
        (true,
          { type := type
            sender := substr input (first + 1) (second - first - 1)
            recipient := substr input (second + 1) (third - second - 1)
            message := input.drop (third + 1) },
          [])
  | _, _, _ => (false, {}, "Expected Type:Sender:Recipient:Message".toList)

/-! ## Reading what was written -/

/-- The reader on a text with three colons, none of them inside the first three fields. -/
theorem tryParseMessage_append {type sender recipient : Str} (message : Str) (ht : ':' ∉ type)
    (hs : ':' ∉ sender) (hr : ':' ∉ recipient) :
    tryParseMessage (type ++ ':' :: (sender ++ ':' :: (recipient ++ ':' :: message))) =
      if chatCmdTypeFromString type = .none then
        (false, {}, "Unknown or inactive message type".toList)
      else (true, ⟨chatCmdTypeFromString type, sender, recipient, message⟩, []) := by
  set input := type ++ ':' :: (sender ++ ':' :: (recipient ++ ':' :: message)) with hinput
  -- the three separators are the three colons that are written out, as the fields hold none
  have hfirst : find input ':' 0 = some type.length := by
    have := find_append_cons (b := sender ++ ':' :: (recipient ++ ':' :: message)) ht []
    simpa [hinput] using this
  have hsecond : find input ':' (type.length + 1) = some (type.length + 1 + sender.length) := by
    have := find_append_cons (b := recipient ++ ':' :: message) hs (type ++ [':'])
    simpa [hinput] using this
  have hthird : find input ':' (type.length + 1 + sender.length + 1)
      = some (type.length + 1 + sender.length + 1 + recipient.length) := by
    have := find_append_cons (b := message) hr (type ++ ':' :: (sender ++ [':']))
    simpa [hinput, Nat.add_assoc, Nat.add_comm, Nat.add_left_comm] using this
  have hdrop1 : input.drop (type.length + 1)
      = sender ++ ':' :: (recipient ++ ':' :: message) := by
    rw [hinput, drop_past]
  have hdrop2 : input.drop (type.length + 1 + sender.length + 1) = recipient ++ ':' :: message := by
    rw [Nat.add_assoc, ← List.drop_drop, hdrop1, drop_past]
  have hdrop3 : input.drop (type.length + 1 + sender.length + 1 + recipient.length + 1)
      = message := by
    rw [Nat.add_assoc _ recipient.length 1, ← List.drop_drop, hdrop2, drop_past]
  -- so the lengths that `substr` is given are those of the fields
  have htype : substr input 0 type.length = type := by simp [substr, hinput]
  have hsender : substr input (type.length + 1)
      (type.length + 1 + sender.length - type.length - 1) = sender := by
    rw [substr, hdrop1, show type.length + 1 + sender.length - type.length - 1 = sender.length by
      omega, List.take_left]
  have hrecipient : substr input (type.length + 1 + sender.length + 1)
      (type.length + 1 + sender.length + 1 + recipient.length
        - (type.length + 1 + sender.length) - 1) = recipient := by
    rw [substr, hdrop2, show type.length + 1 + sender.length + 1 + recipient.length
      - (type.length + 1 + sender.length) - 1 = recipient.length by omega, List.take_left]
  simp only [tryParseMessage, hfirst, hsecond, hthird, htype, hsender, hrecipient, hdrop3]

/-- A text that is read has the shape `Type:Sender:Recipient:Message`, and is read as such. -/
theorem eq_of_tryParseMessage {input : Str} (h : (tryParseMessage input).1 = true) :
    ∃ type sender recipient message,
      input = type ++ ':' :: (sender ++ ':' :: (recipient ++ ':' :: message)) ∧
      ':' ∉ type ∧ ':' ∉ sender ∧ ':' ∉ recipient ∧ chatCmdTypeFromString type ≠ .none ∧
      (tryParseMessage input).2.1 = ⟨chatCmdTypeFromString type, sender, recipient, message⟩ := by
  have hcolons : ∃ type sender recipient message,
      input = type ++ ':' :: (sender ++ ':' :: (recipient ++ ':' :: message)) ∧
      ':' ∉ type ∧ ':' ∉ sender ∧ ':' ∉ recipient := by
    -- each failing search returns with an error, so all three have succeeded
    cases h1 : find input ':' 0 with
    | none => simp [tryParseMessage, h1] at h
    | some first =>
    cases h2 : find input ':' (first + 1) with
    | none => simp [tryParseMessage, h1, h2] at h
    | some second =>
    cases h3 : find input ':' (second + 1) with
    | none => simp [tryParseMessage, h1, h2, h3] at h
    | some third =>
      obtain ⟨type, rest, hrest, hty, rfl⟩ := eq_of_find h1
      rw [List.drop_zero] at hrest
      obtain ⟨sender, rest', hrest', hse, rfl⟩ := eq_of_find h2
      rw [hrest, Nat.zero_add, drop_past] at hrest'
      obtain ⟨recipient, message, hmsg, hre, -⟩ := eq_of_find h3
      rw [hrest, hrest', Nat.zero_add, Nat.add_assoc, ← List.drop_drop, drop_past, drop_past] at hmsg
      exact ⟨type, sender, recipient, message, by rw [hrest, hrest', hmsg], hty, hse, hre⟩
  obtain ⟨type, sender, recipient, message, rfl, hty, hse, hre⟩ := hcolons
  have hread := tryParseMessage_append message hty hse hre
  by_cases hnone : chatCmdTypeFromString type = .none
  · rw [hread, if_pos hnone] at h
    exact absurd h Bool.false_ne_true
  · rw [if_neg hnone] at hread
    exact ⟨type, sender, recipient, message, rfl, hty, hse, hre, hnone, by rw [hread]⟩

theorem serialize_eq (msg : FDaraChatMsg) : msg.serialize =
    chatCmdTypeToString msg.type ++ ':' :: (msg.sender ++ ':' :: (msg.recipient ++ ':' :: msg.message)) := by
  simp [FDaraChatMsg.serialize]

/-- A message of a real type whose sender and recipient have no colon is read back as it was. -/
theorem tryParseMessage_serialize {msg : FDaraChatMsg} (ht : msg.type ≠ .none)
    (hs : ':' ∉ msg.sender) (hr : ':' ∉ msg.recipient) :
    tryParseMessage msg.serialize = (true, msg, []) := by
  rw [serialize_eq, tryParseMessage_append _ (colon_notMem_toString msg.type) hs hr,
    chatCmdTypeFromString_toString, if_neg ht]

/-- Whatever follows the first colon, the type read is the one named before it. -/
theorem tryParseMessage_type {type rest : Str} (ht : ':' ∉ type)
    (h : (tryParseMessage (type ++ ':' :: rest)).1 = true) :
    chatCmdTypeFromString type ≠ .none ∧
      (tryParseMessage (type ++ ':' :: rest)).2.1.type = chatCmdTypeFromString type := by
  obtain ⟨type', sender, recipient, message, heq, ht', -, -, hne, hread⟩ := eq_of_tryParseMessage h
  obtain ⟨rfl, -⟩ := append_cons_inj ht ht' heq
  exact ⟨hne, by rw [hread]⟩

/-! ## The codec as a whole -/

/-- The two reference arguments of `TryParseMessage`. -/
structure ParseResult where
  output : FDaraChatMsg
  error : Str

/-- `uDaraChatLibrary::TryParseMessage` statement by statement, on its reference arguments. -/
def tryParseMessageInto (input : Str) : StateM ParseResult Bool := do
  modify fun r => { r with output := {} }
  modify fun r => { r with error := [] }
  let first := find input ':' 0
  let second := first.bind fun first => find input ':' (first + 1)
  let third := second.bind fun second => find input ':' (second + 1)
  match first, second, third with
  | some first, some second, some third =>
      let type := chatCmdTypeFromString (substr input 0 first)
      if type = .none then
        modify fun r => { r with error := "Unknown or inactive message type".toList }
        return false
      else
        let parsed : FDaraChatMsg :=
          { type := type
            sender := substr input (first + 1) (second - first - 1)
            recipient := substr input (second + 1) (third - second - 1)
            message := input.drop (third + 1) }
        modify fun r => { r with output := parsed }
        return true
  | _, _, _ =>
      modify fun r => { r with error := "Expected Type:Sender:Recipient:Message".toList }
      return false

/-- What the arguments held before the call is never read. -/
theorem tryParseMessageInto_run (input : Str) (old : ParseResult) :
    (tryParseMessageInto input).run old =
      ((tryParseMessage input).1, ⟨(tryParseMessage input).2.1, (tryParseMessage input).2.2⟩) := by
  unfold tryParseMessageInto tryParseMessage
  cases find input ':' 0 with
  | none => rfl
  | some first =>
  cases h2 : find input ':' (first + 1) with
  | none => simp [h2]; rfl
  | some second =>
  cases h3 : find input ':' (second + 1) with
  | none => simp [h2, h3]; rfl
  | some third =>
    by_cases htype : chatCmdTypeFromString (substr input 0 first) = .none
    · simp [h2, h3, htype]; rfl
    · simp [h2, h3, htype]; rfl

/-- A text with `n + 1` colons is a part without one, a colon, and a text with `n`. -/
theorem succ_le_count_iff {s : Str} {c : Char} {n : Nat} :
    n + 1 ≤ s.count c ↔ ∃ a b, s = a ++ c :: b ∧ c ∉ a ∧ n ≤ b.count c := by
  constructor
  · intro h
    have hmem : c ∈ s := List.count_pos_iff.mp (by omega)
    obtain ⟨a, b, rfl, ha⟩ := List.eq_append_cons_of_mem hmem
    refine ⟨a, b, rfl, ha, ?_⟩
    rw [List.count_append, List.count_eq_zero.mpr ha, List.count_cons_self] at h
    omega
  · rintro ⟨a, b, rfl, ha, hb⟩
    rw [List.count_append, List.count_eq_zero.mpr ha, List.count_cons_self]
    omega

/-- The text before the first colon. -/
theorem takeWhile_append_cons {a b : Str} {c : Char} (ha : c ∉ a) :
    (a ++ c :: b).takeWhile (· != c) = a := by
  have hall : ∀ x ∈ a, (x != c) = true := by
    intro x hx
    rw [bne_iff_ne]
    rintro rfl
    exact ha hx
  rw [List.takeWhile_append_of_pos hall, List.takeWhile_cons_of_neg (by simp), List.append_nil]

/-- Which texts are read: three colons, and a type before the first. -/
theorem tryParseMessage_accepts_iff (input : Str) :
    (tryParseMessage input).1 = true ↔
      3 ≤ input.count ':' ∧
        ∃ type ≠ EChatCmdType.none, input.takeWhile (· != ':') = chatCmdTypeToString type := by
  constructor
  · intro h
    obtain ⟨type, sender, recipient, message, rfl, ht, hs, hr, hne, -⟩ := eq_of_tryParseMessage h
    constructor
    · exact succ_le_count_iff.mpr ⟨type, _, rfl, ht, succ_le_count_iff.mpr ⟨sender, _, rfl, hs,
        succ_le_count_iff.mpr ⟨recipient, message, rfl, hr, Nat.zero_le _⟩⟩⟩
    · exact ⟨chatCmdTypeFromString type, hne, by
        rw [takeWhile_append_cons ht]; exact eq_toString_of_fromString hne⟩
  · rintro ⟨hcount, type, hne, htype⟩
    obtain ⟨name, rest, rfl, hn, hrest⟩ := succ_le_count_iff.mp hcount
    obtain ⟨sender, rest, rfl, hs, hrest⟩ := succ_le_count_iff.mp hrest
    obtain ⟨recipient, message, rfl, hr, -⟩ := succ_le_count_iff.mp hrest
    rw [takeWhile_append_cons hn] at htype
    rw [tryParseMessage_append message hn hs hr, htype, chatCmdTypeFromString_toString, if_neg hne]

/-- A rejected text gives the default message and says why. -/
theorem tryParseMessage_rejected {input : Str} (h : (tryParseMessage input).1 = false) :
    (tryParseMessage input).2.1 = {} ∧ (tryParseMessage input).2.2 ≠ [] := by
  unfold tryParseMessage at h ⊢
  cases h1 : find input ':' 0 with
  | none => simp
  | some first =>
  cases h2 : find input ':' (first + 1) with
  | none => simp [h2]
  | some second =>
  cases h3 : find input ':' (second + 1) with
  | none => simp [h2, h3]
  | some third =>
    by_cases htype : chatCmdTypeFromString (substr input 0 first) = .none
    · simp [h2, h3, htype]
    · simp only [h1, h2, h3, if_neg htype] at h
      cases h

/-- What was read is written back as it was. -/
theorem serialize_tryParseMessage {input : Str} (h : (tryParseMessage input).1 = true) :
    (tryParseMessage input).2.1.serialize = input := by
  obtain ⟨type, sender, recipient, message, hinput, -, -, -, hne, hread⟩ := eq_of_tryParseMessage h
  rw [hread, serialize_eq, ← eq_toString_of_fromString hne]
  exact hinput.symm

/-- **The text envelope is exact**: which texts are read, that reading loses nothing, what a
rejection leaves behind, and that every message of a real type is read back. -/
theorem tryParseMessage_exact (input : Str) (old : ParseResult) (msg : FDaraChatMsg) :
    let read := (tryParseMessageInto input).run old
    let readBack := (tryParseMessageInto msg.serialize).run old
    (read.1 = true ↔ 3 ≤ input.count ':' ∧
      ∃ type ≠ EChatCmdType.none, input.takeWhile (· != ':') = chatCmdTypeToString type) ∧
    (read.1 = true → read.2.output.serialize = input) ∧
    (read.1 = false → read.2.output = {} ∧ read.2.error ≠ []) ∧
    (msg.type ≠ .none → ':' ∉ msg.sender → ':' ∉ msg.recipient →
      readBack.1 = true ∧ readBack.2.output = msg) := by
  simp only [tryParseMessageInto_run]
  refine ⟨tryParseMessage_accepts_iff input, serialize_tryParseMessage, tryParseMessage_rejected, ?_⟩
  intro ht hs hr
  rw [tryParseMessage_serialize ht hs hr]
  exact ⟨rfl, rfl⟩

end DaraChat
