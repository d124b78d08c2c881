import DaraChat.Admin.AdminQueries
import DaraChat.Json.ReadBack

set_option autoImplicit false

/-! # Administrator replies on the wire

A reply is a chat message whose body is JSON: `answer_read` says that a client reads from its text the
message and from its body the value, whatever is in the names of groups, members, zones and channels.
-/

namespace DaraChat

/-- The value in the body of the answer. -/
def answerBody (request : FDaraChatMsg) (isAdmin : Bool) (collect : Unit → AdminSnapshot) : Json :=
  if !isAdmin then
    .object [("code".toList, .string "Forbidden".toList),
      ("message".toList, .string "Administrator access required".toList)]
  else if !isAdminQuery request.type || request.recipient ≠ [] || request.message ≠ [] then
    .object [("code".toList, .string "InvalidQuery".toList),
      ("message".toList, .string "Expected an admin query with empty recipient and message".toList)]
  else adminBody request.type (collect ())

/-- The counts are exact doubles, and the uptime is read from what is written for it. -/
structure Countable (lib : NumberLib) (state : AdminSnapshot) : Prop where
  uptime : Json.NumberReads lib (Json.numberText lib state.uptimeSeconds)
    (Json.normalNumber state.uptimeSeconds)
  clients : state.connectedClients < 2 ^ 53
  groups : state.groups.length < 2 ^ 53
  zones : ∀ entry ∈ state.zones, entry.2 < 2 ^ 53
  channels : ∀ entry ∈ state.channels, entry.2 < 2 ^ 53

section Writable

variable {lib : NumberLib} {state : AdminSnapshot}

theorem writable_jsonCount {n : Nat} (h : n < 2 ^ 53) (depths : Nat) :
    Json.Writable lib (Json.numberText lib) depths (jsonCount n) := by
  refine .number _ _ (Json.numberReads_numberText lib ⟨?_, Rat.den_natCast n⟩)
  rw [abs_of_nonneg (Nat.cast_nonneg n)]
  exact_mod_cast h

theorem writable_jsonGroup (group : GroupInfo) (depths : Nat) :
    Json.Writable lib (Json.numberText lib) (depths + 2) (jsonGroup group) := by
  refine .object (depths + 1) _ ?_
  simp only [List.forall_mem_cons, List.not_mem_nil, false_implies, implies_true, and_true]
  refine ⟨.string _ _, .string _ _, .array (depths + 1) _ ?_⟩
  intro v hv
  obtain ⟨member, -, rfl⟩ := List.mem_map.mp hv
  refine .object depths _ ?_
  simp only [List.forall_mem_cons, List.not_mem_nil, false_implies, implies_true, and_true]
  exact ⟨.string _ _, .boolean _ _⟩

/-- The body of every answer can be written and read. -/
theorem writable_adminBody (h : Countable lib state) (type : EChatCmdType) :
    Json.Writable lib (Json.numberText lib) 100 (adminBody type state) := by
  have hentries {entries : List (Str × Nat)} (hentries : ∀ entry ∈ entries, entry.2 < 2 ^ 53)
      {f : Str × Nat → Json} (hf : ∀ entry : Str × Nat, entry.2 < 2 ^ 53 →
        Json.Writable lib (Json.numberText lib) 99 (f entry)) :
      Json.Writable lib (Json.numberText lib) 100 (.array (entries.map f)) := by
    refine .array 99 _ fun v hv => ?_
    obtain ⟨entry, hentry, rfl⟩ := List.mem_map.mp hv
    exact hf entry (hentries entry hentry)
  have hchannels : Json.Writable lib (Json.numberText lib) 100 (adminBody .adminChannels state) := by
    refine .object 99 _ ?_
    simp only [List.forall_mem_cons, List.not_mem_nil, false_implies, implies_true, and_true]
    refine ⟨hentries h.channels fun entry hentry => .object 98 _ ?_, .string _ _⟩
    simp only [List.forall_mem_cons, List.not_mem_nil, false_implies, implies_true, and_true]
    exact ⟨.string _ _, writable_jsonCount hentry _⟩
  cases type with
  | adminStatus =>
      refine .object 99 _ ?_
      simp only [List.forall_mem_cons, List.not_mem_nil, false_implies, implies_true, and_true]
      refine ⟨writable_jsonCount h.clients _, writable_jsonCount ?_ _, .string _ _,
        writable_jsonCount h.groups _, .number _ _ h.uptime⟩
      exact List.countP_le_length.trans_lt h.groups
  | adminGroups =>
      refine .object 99 _ ?_
      simp only [List.forall_mem_cons, List.not_mem_nil, false_implies, implies_true, and_true]
      refine ⟨.array 99 _ fun v hv => ?_, .string _ _⟩
      obtain ⟨group, -, rfl⟩ := List.mem_map.mp hv
      exact writable_jsonGroup group 97
  | adminZones =>
      refine .object 99 _ ?_
      simp only [List.forall_mem_cons, List.not_mem_nil, false_implies, implies_true, and_true]
      refine ⟨.string _ _, hentries h.zones fun entry hentry => .object 98 _ ?_⟩
      simp only [List.forall_mem_cons, List.not_mem_nil, false_implies, implies_true, and_true]
      exact ⟨writable_jsonCount hentry _, .string _ _⟩
  | _ => exact hchannels

/-- An error has two texts. -/
theorem writable_adminError (code message : Str) : Json.Writable lib (Json.numberText lib) 100
    (.object [("code".toList, .string code), ("message".toList, .string message)]) := by
  refine .object 99 _ ?_
  simp only [List.forall_mem_cons, List.not_mem_nil, false_implies, implies_true, and_true]
  exact ⟨.string _ _, .string _ _⟩

end Writable

section Answer

variable {lib : NumberLib} {request : FDaraChatMsg} {isAdmin : Bool}
variable {collect : Unit → AdminSnapshot}

theorem answerAdminQuery_message (serializeJson : Json → Str) :
    (answerAdminQuery serializeJson request isAdmin collect).message =
      serializeJson (answerBody request isAdmin collect) := by
  unfold answerAdminQuery answerBody
  split
  · rfl
  split
  · rfl
  · rfl

/-- Every answer is a message from the server, to whoever has asked. -/
theorem answerAdminQuery_address (serializeJson : Json → Str) :
    (answerAdminQuery serializeJson request isAdmin collect).type ≠ .none ∧
      (answerAdminQuery serializeJson request isAdmin collect).sender = "Server".toList ∧
      (answerAdminQuery serializeJson request isAdmin collect).recipient = request.sender := by
  unfold answerAdminQuery
  split
  · exact ⟨fun h => (by cases h), rfl, rfl⟩
  split
  · exact ⟨fun h => (by cases h), rfl, rfl⟩
  · exact ⟨fun h => (by cases h), rfl, rfl⟩

/-- **A client reads the answer as it was meant**: the message from its text, and the value from the
body of the message, with its counts as integers. -/
theorem answer_read (hsender : ':' ∉ request.sender) (hcollect : Countable lib (collect ())) :
    tryParseMessage (answerAdminQuery (Json.serialize lib) request isAdmin collect).serialize =
        (true, answerAdminQuery (Json.serialize lib) request isAdmin collect, []) ∧
      Json.parse lib (answerAdminQuery (Json.serialize lib) request isAdmin collect).message =
        some (Json.normal id (answerBody request isAdmin collect)) := by
  obtain ⟨htype, hserver, hrecipient⟩ :=
    @answerAdminQuery_address request isAdmin collect (Json.serialize lib)
  constructor
  · exact tryParseMessage_serialize htype (by rw [hserver]; decide) (by rw [hrecipient]; exact hsender)
  · have hwritable : Json.Writable lib (Json.numberText lib) 100
        (answerBody request isAdmin collect) := by
      unfold answerBody
      split
      · exact writable_adminError _ _
      split
      · exact writable_adminError _ _
      · exact writable_adminBody hcollect _
    rw [answerAdminQuery_message]
    exact Json.parse_write Json.writesStrings_serializeStr hwritable

end Answer

/-! An administrator asks for the zones of a server that has run for twelve seconds. -/

def zonesQuery : FDaraChatMsg where
  type := .adminZones
  sender := "ChatAdmin".toList
  recipient := []
  message := []

def twelveSeconds : AdminSnapshot where
  uptimeSeconds := 12
  connectedClients := 2
  groups := []
  zones := [("Dungeon".toList, 1), ("\"North\"".toList, 1)]
  channels := []

theorem countable_twelveSeconds (lib : NumberLib) : Countable lib twelveSeconds where
  uptime := Json.numberReads_numberText lib (by norm_num [twelveSeconds])
  clients := by decide
  groups := by decide
  zones := by
    simp only [twelveSeconds, List.forall_mem_cons, List.not_mem_nil, false_implies, implies_true,
      and_true]
    exact ⟨by decide, by decide⟩
  channels := fun entry hentry => (by cases hentry)

theorem answer_read_zones :
    tryParseMessage (answerAdminQuery (Json.serialize Json.sampleNumbers) zonesQuery true
        fun _ => twelveSeconds).serialize =
        (true, answerAdminQuery (Json.serialize Json.sampleNumbers) zonesQuery true
          fun _ => twelveSeconds, []) ∧
      Json.parse Json.sampleNumbers (answerAdminQuery (Json.serialize Json.sampleNumbers) zonesQuery
        true fun _ => twelveSeconds).message =
          some (Json.normal id (answerBody zonesQuery true fun _ => twelveSeconds)) :=
  answer_read (by decide) (countable_twelveSeconds _)

end DaraChat
