import DaraChat.Auth.AdminToken
import DaraChat.Bot.Cascade
import DaraChat.Group.Wire
import DaraChat.Server.Publishing

set_option autoImplicit false

/-! # Starting and controlling a bot (`uDaraChatBot.cpp`)

`checkArguments` is what `main` asks of the name and the token of a bot, `connectMessage` the login
frame that `Client::run` makes of them, and `controlCommand` is `Client::ControlCommand`, one line of
the operator. Both fit the server. A bot is let in exactly if its token is vouched for and issued to
its name, and the checks of `main` refuse no other tokens than those that spell their padding out
(`botLogin_iff`); and whatever an operator types, the frame that a bot sends is a command of its
character, and the server passes it on as it was sent (`control_chatCommand`).
-/

namespace DaraChat

/-! ## Arguments -/

/-- The characters that `find_first_not_of` lets pass in a token. -/
def tokenChars : Str := "ABCDEFGHIJKLMNOPQRSTUVWXYZabcdefghijklmnopqrstuvwxyz0123456789-_ .".toList

/-- What `main` asks of `--name` and of the token; an error is what it prints. -/
def checkArguments (name token : Str) : Except Str Unit :=
  if name = [] ∨ name.any (";\r\n".toList.contains ·) ∨ token = [] then
    .error ("A valid --name matching JWT characterName and a JWT via --token or " ++
      "DARA_CHAT_JWT_TOKEN are required.").toList
  else if token.any (!tokenChars.contains ·) ∨ ' ' ∈ token ∨ token.count '.' ≠ 2 then
    .error "Token must be a compact JWT.".toList
  else .ok ()

/-- The login frame of `Client::run`. -/
def connectMessage (chatter : Chatter) (token : Str) : Str :=
  "connect:".toList ++ ("name=".toList ++ chatter.myCharName ++ ";zone=".toList ++
    chatter.myZoneName ++ ";group=;pass=".toList ++ token)

/-- The arguments that `main` lets pass. -/
theorem checkArguments_iff {name token : Str} :
    checkArguments name token = .ok () ↔
      (name ≠ [] ∧ ';' ∉ name ∧ '\r' ∉ name ∧ '\n' ∉ name) ∧
        token ≠ [] ∧ (∀ c ∈ token, c ∈ Base64.alphabet ∨ c = '.') ∧ token.count '.' = 2 := by
  have hname : ¬ name.any (";\r\n".toList.contains ·) = true ↔
      ';' ∉ name ∧ '\r' ∉ name ∧ '\n' ∉ name := by
    have hchars : ";\r\n".toList = [';', '\r', '\n'] := rfl
    rw [hchars, List.any_eq_true]
    simp only [List.contains_iff_mem]
    push Not
    constructor
    · intro hall
      exact ⟨fun h => hall _ h (by decide), fun h => hall _ h (by decide),
        fun h => hall _ h (by decide)⟩
    · rintro ⟨hsemicolon, hreturn, hline⟩ c hc hmem
      simp only [List.mem_cons, List.not_mem_nil, or_false] at hmem
      rcases hmem with rfl | rfl | rfl
      · exact hsemicolon hc
      · exact hreturn hc
      · exact hline hc
  -- the characters are the alphabet, the space and the point
  have htoken : ¬ (token.any (!tokenChars.contains ·) = true ∨ ' ' ∈ token) ↔
      ∀ c ∈ token, c ∈ Base64.alphabet ∨ c = '.' := by
    have hchars : tokenChars = Base64.alphabet ++ " .".toList := by decide +kernel
    have hother : ∀ c, (!tokenChars.contains c) = true ↔ c ∉ tokenChars := by
      intro c
      rw [Bool.not_eq_true', ← Bool.not_eq_true, List.contains_iff_mem]
    rw [List.any_eq_true]
    simp only [hother]
    rw [hchars]
    push Not
    constructor
    · rintro ⟨hall, hspace⟩ c hc
      rcases List.mem_append.mp (hall c hc) with h | h
      · exact .inl h
      · rcases List.mem_cons.mp h with rfl | h
        · exact absurd hc hspace
        · exact .inr (List.mem_singleton.mp h)
    · intro hall
      refine ⟨fun c hc => List.mem_append.mpr ((hall c hc).imp id ?_), fun hspace => ?_⟩
      · rintro rfl
        decide
      · rcases hall ' ' hspace with h | h
        · exact absurd h (by decide)
        · cases h
  rw [← htoken, ← hname, checkArguments]
  by_cases hfirst : name = [] ∨ name.any (";\r\n".toList.contains ·) = true ∨ token = []
  · rw [if_pos hfirst]
    refine iff_of_false (by rintro ⟨⟩) ?_
    rintro ⟨⟨hne, hchars⟩, htokenNe, -⟩
    rcases hfirst with h | h | h
    · exact hne h
    · exact hchars h
    · exact htokenNe h
  rw [if_neg hfirst]
  rw [not_or, not_or] at hfirst
  by_cases hsecond : token.any (!tokenChars.contains ·) = true ∨ ' ' ∈ token ∨ token.count '.' ≠ 2
  · rw [if_pos hsecond]
    refine iff_of_false (by rintro ⟨⟩) ?_
    rintro ⟨-, -, hall, hcount⟩
    rcases or_assoc.mpr hsecond with h | h
    · exact hall h
    · exact h hcount
  · rw [if_neg hsecond]
    rw [← or_assoc, not_or, not_not] at hsecond
    exact iff_of_true rfl ⟨⟨hfirst.1, hfirst.2.1⟩, hfirst.2.2, hsecond⟩

/-! ## The login of a bot -/

/-- The fields of the login frame. -/
def botFields (chatter : Chatter) (token : Str) : List (Str × Str) :=
  [("name".toList, chatter.myCharName), ("zone".toList, chatter.myZoneName), ("group".toList, []),
    ("pass".toList, token)]

section Login

variable {num : NumberLib} {hmac : Str → Str → Str} {chatter : Chatter}
variable {token secret : Str} {now : Date} {login : AuthenticatedLogin}

theorem connectMessage_eq : ∃ body, connectMessage chatter token = "connect:".toList ++ body ∧
    body = [';'].intercalate ((botFields chatter token).map fieldText) := by
  refine ⟨_, rfl, ?_⟩
  simp [botFields, fieldText, List.intercalate, List.intersperse]

theorem loginFields_connectMessage (hname : ';' ∉ chatter.myCharName)
    (hzone : ';' ∉ chatter.myZoneName) (htoken : ';' ∉ token) :
    LoginFields ([';'].intercalate ((botFields chatter token).map fieldText))
      (botFields chatter token) := by
  refine loginFields_intercalate ?_ ?_
  · show ["name".toList, "zone".toList, "group".toList, "pass".toList].Nodup ∧
      ∀ key ∈ ["name".toList, "zone".toList, "group".toList, "pass".toList],
        key ≠ [] ∧ '=' ∉ key ∧ ';' ∉ key
    decide
  · simp only [botFields, List.forall_mem_cons, List.not_mem_nil, false_implies, implies_true,
      and_true]
    exact ⟨hname, hzone, not_false, htoken⟩

/-- A login that the frame of a bot stands for is the bot's. -/
theorem Qualifies.ofBot {lib : JwtLib} {decoded : DecodedJwt}
    (h : Qualifies lib (connectMessage chatter token) secret now login decoded)
    (hname : ';' ∉ chatter.myCharName) (hzone : ';' ∉ chatter.myZoneName) (htoken : ';' ∉ token) :
    ∃ iat exp, LoginClaims lib secret now (botFields chatter token) login decoded token iat exp := by
  obtain ⟨body, hmessage, hbody⟩ := @connectMessage_eq chatter token
  obtain ⟨-, body', fields, heq, hfields, pass, iat, exp, hclaims⟩ := h
  rw [hmessage] at heq
  obtain rfl := List.append_cancel_left heq
  -- the text has these fields only, so the token that was checked is the bot's
  have hbot := loginFields_connectMessage hname hzone htoken
  rw [← hbody] at hbot
  have hlookup := hfields.lookup_unique hbot
  obtain rfl : token = pass :=
    Option.some.inj ((hlookup "pass".toList).symm.trans hclaims.passField)
  exact ⟨iat, exp, { hclaims with
    name := (hlookup _).symm.trans hclaims.name
    passField := rfl
    zone := hclaims.zone.trans (by rw [hlookup]) }⟩

/-- It has the name and the zone of the bot. -/
theorem login_connectMessage {lib : JwtLib} (hargs : checkArguments chatter.myCharName token = .ok ())
    (hzone : ';' ∉ chatter.myZoneName)
    (h : verifyLogin lib (connectMessage chatter token) secret now = .ok login) :
    login.characterName = chatter.myCharName ∧ login.zone = chatter.myZoneName := by
  obtain ⟨⟨-, hname, -⟩, -, hall, -⟩ := checkArguments_iff.mp hargs
  obtain ⟨decoded, hqualifies, -⟩ := verifyLogin_iff.mp h
  obtain ⟨iat, exp, hclaims⟩ := hqualifies.ofBot hname hzone (notMem_of_compact hall (by decide))
  exact ⟨(Option.some.inj hclaims.name).symm, hclaims.zone⟩

/-- A text that decodes and has no padding spelled out passes the checks of a bot on its token. -/
theorem compact_of_decodeJwt {decoded : DecodedJwt} (h : decodeJwt num token = some decoded)
    (hfill : '%' ∉ token) :
    token ≠ [] ∧ (∀ c ∈ token, c ∈ Base64.alphabet ∨ c = '.') ∧ token.count '.' = 2 := by
  obtain ⟨signature, rfl, ⟨header, hheader, -⟩, ⟨payload, hpayload, -⟩, hsignature⟩ :=
    decodeJwt_iff.mp h
  refine ⟨List.append_ne_nil_of_right_ne_nil _ (List.cons_ne_nil _ _), fun c hc => ?_, ?_⟩
  · have hpart : ∀ {part bin : Str}, decodePart part = some bin → c ∈ part →
        c ∈ Base64.alphabet ∨ c = '.' := by
      intro part bin hpart hmem
      rcases decodePart_mem hpart c hmem with h | rfl
      · exact .inl h
      · exact absurd hc hfill
    rcases List.mem_append.mp hc with hmem | hmem
    · exact hpart hheader hmem
    rcases List.mem_cons.mp hmem with rfl | hmem
    · exact .inr rfl
    rcases List.mem_append.mp hmem with hmem | hmem
    · exact hpart hpayload hmem
    rcases List.mem_cons.mp hmem with rfl | hmem
    · exact .inr rfl
    · exact hpart hsignature hmem
  · rw [List.count_append, List.count_cons_self, List.count_append, List.count_cons_self,
      List.count_eq_zero.mpr (dot_notMem hheader), List.count_eq_zero.mpr (dot_notMem hpayload),
      List.count_eq_zero.mpr (dot_notMem hsignature)]

/-- **The bots that get in**: a bot starts and its login is accepted exactly if its token is vouched
for and issued to its name. The checks of `main` cost those bots their login only whose name breaks
the line, or whose token spells its padding out. -/
theorem botLogin_iff (hzone : ';' ∉ chatter.myZoneName) :
    checkArguments chatter.myCharName token = .ok () ∧
        verifyLogin (jwtLib num hmac) (connectMessage chatter token) secret now = .ok login ↔
      secret ≠ [] ∧ (';' ∉ chatter.myCharName ∧ '\r' ∉ chatter.myCharName ∧
        '\n' ∉ chatter.myCharName) ∧ '%' ∉ token ∧
      ∃ decoded iat exp,
        LoginClaims (jwtLib num hmac) secret now (botFields chatter token) login decoded token iat exp ∧
          NbfPasses decoded now := by
  rw [checkArguments_iff, verifyLogin_iff]
  constructor
  · rintro ⟨⟨⟨-, hsemicolon, hline⟩, -, hall, -⟩, decoded, hqualifies, hnbf⟩
    obtain ⟨iat, exp, hclaims⟩ :=
      hqualifies.ofBot hsemicolon hzone (notMem_of_compact hall (by decide))
    exact ⟨hqualifies.1, ⟨hsemicolon, hline⟩, notMem_of_compact hall (by decide), decoded, iat, exp,
      hclaims, hnbf⟩
  · rintro ⟨hsecret, ⟨hsemicolon, hline⟩, hfill, decoded, iat, exp, hclaims, hnbf⟩
    have htoken := compact_of_decodeJwt hclaims.vouched.decoded hfill
    have hname : chatter.myCharName = login.characterName := Option.some.inj hclaims.name
    have hnotMem : ';' ∉ token := notMem_of_compact htoken.2.1 (by decide)
    obtain ⟨body, hmessage, hbody⟩ := @connectMessage_eq chatter token
    refine ⟨⟨⟨hname ▸ hclaims.nonempty, hsemicolon, hline⟩, htoken⟩, decoded, ⟨hsecret, body,
      botFields chatter token, hmessage, ?_, token, iat, exp, hclaims⟩, hnbf⟩
    rw [hbody]
    exact loginFields_connectMessage hsemicolon hzone hnotMem

end Login

/-- The token for `ChatAdmin`. -/
def sampleToken : Str :=
  AdminToken.sampleMessage ++ ".faChqZpQ5DaXR-9Qx-60zXTdLamxvF49zejWJFMq-dk".toList

/-- The bot of that name. -/
def chatAdminBot : Chatter := ⟨"ChatAdmin".toList, "Dungeon".toList⟩

/-- It gets in with it, from the time of the token on. -/
theorem botLogin_sample :
    checkArguments chatAdminBot.myCharName sampleToken = .ok () ∧
      verifyLogin (jwtLib AdminToken.wholeNumbers AdminToken.sampleHmac)
        (connectMessage chatAdminBot sampleToken) (AdminToken.encodeStr "test-secret-ä".toList)
        1792310400000000000 =
        .ok { isAdmin := true, expiresAt := 1792311300000000000,
              characterName := "ChatAdmin".toList, zone := "Dungeon".toList } := by
  obtain ⟨decoded, hissued⟩ : ∃ decoded, AdminToken.Issued AdminToken.wholeNumbers
      AdminToken.sampleHmac "test-secret-ä".toList "ChatAdmin".toList 15 1792310400 sampleToken decoded :=
    AdminToken.exists_issued AdminToken.sampleHmac_bytes (by decide) AdminToken.generateAdminToken_sample
  have hzone : ';' ∉ chatAdminBot.myZoneName := by decide
  refine (botLogin_iff hzone).mpr ⟨AdminToken.encodeStr_ne_nil hissued.hasSecret, by decide,
    notMem_of_compact hissued.text.2 (by decide), decoded, 1792310400, 1792311300, ?_,
    hissued.nbfPasses _⟩
  exact hissued.loginClaims rfl rfl (by decide) (by decide) (by decide)

/-! ## Lines of the operator -/

/-- What becomes of a line: the bot stops, it prints why it does nothing, or it sends a frame and
prints a line. -/
inductive ControlOutcome
  | stop
  | refused (error : Str)
  | sent (frame printed : Str)
  deriving DecidableEq, Repr

/-- `input >> word` for a string; the second text is what is left of the stream. -/
def nextWord (input : Str) : Str × Str :=
  let input := input.dropWhile isSpace
  (input.takeWhile fun c => !isSpace c, input.dropWhile fun c => !isSpace c)

/-- The text of a `world` or `group` line: all from the first character after the first space that is
no space. -/
def controlText (command : Str) : Option Str :=
  let start := (find command ' ' 0).getD command.length
  let text := (command.drop start).dropWhile (· = ' ')
  if text = [] then none else some text

/-- A frame with the name of the bot as its sender. -/
def Chatter.sends (chatter : Chatter) (action target : Str) (type : EChatCmdType)
    (recipient message : Str) : ControlOutcome :=
  .sent
    ({ type := type, sender := chatter.myCharName, recipient := recipient, message := message } :
      FDaraChatMsg).serialize
    ("CONTROL SENT ".toList ++ action ++ " ".toList ++ target)

/-- `Client::ControlCommand`, once it has read its two words. -/
def Chatter.control (chatter : Chatter) (action target command : Str) : ControlOutcome :=
  let sends := chatter.sends action target
  if action = "quit".toList then .stop
  else if action = "admin-status".toList then sends .adminStatus target []
  else if action = "admin-groups".toList then sends .adminGroups target []
  else if action = "admin-zones".toList then sends .adminZones target []
  else if action = "admin-channels".toList then sends .adminChannels target []
  else if action = "world".toList ∨ action = "group".toList then
    match controlText command with
    | none => .refused (action ++ " requires a message".toList)
    | some text =>
        if action = "world".toList then sends .channel "World".toList text
        else sends .group [] text
  else if action = "invite".toList ∧ target ≠ [] then sends .groupInvite target []
  else if action = "kick".toList ∧ target ≠ [] then sends .groupKick target []
  else if action = "leave".toList then sends .groupDisband [] []
  else .refused ("Control command: world <message>, group <message>, invite <name>, kick <name>, " ++
    "leave, admin-status, admin-groups, admin-zones, admin-channels, quit").toList

/-- `Client::ControlCommand`. -/
def Chatter.controlCommand (chatter : Chatter) (command : Str) : ControlOutcome :=
  let (action, input) := nextWord command
  chatter.control action (nextWord input).1 command

/-- A text without white space. -/
def IsWord (word : Str) : Prop := ∀ c ∈ word, isSpace c = false

instance (word : Str) : Decidable (IsWord word) :=
  -- over the characters of the word, not over all there are
  List.decidableBAll (fun c => isSpace c = false) word

/-- The messages that an operator can make a bot send. -/
inductive IsOrder : EChatCmdType → Str → Str → Prop
  | admin (type : EChatCmdType) (target : Str) (htype : isAdminQuery type = true)
      (htarget : IsWord target) : IsOrder type target []
  | world (text : Str) (hne : text ≠ []) (hhead : text.head? ≠ some ' ') :
      IsOrder .channel "World".toList text
  | group (text : Str) (hne : text ≠ []) (hhead : text.head? ≠ some ' ') : IsOrder .group [] text
  | invite (target : Str) (hne : target ≠ []) (htarget : IsWord target) :
      IsOrder .groupInvite target []
  | kick (target : Str) (hne : target ≠ []) (htarget : IsWord target) :
      IsOrder .groupKick target []
  | leave : IsOrder .groupDisband [] []

section Words

variable {action target : Str}

theorem nextWord_isWord (input : Str) : IsWord (nextWord input).1 := by
  intro c hc
  have hplain := List.mem_takeWhile_imp hc
  rwa [Bool.not_eq_true'] at hplain

theorem nextWord_space (input : Str) : nextWord (' ' :: input) = nextWord input := by
  rw [nextWord, List.dropWhile_cons_of_pos (by decide)]
  rfl

theorem nextWord_word (h : IsWord action) : nextWord action = (action, []) := by
  have hall : ∀ c ∈ action, (!isSpace c) = true := fun c hc => by rw [h c hc]; rfl
  have hstart : action.dropWhile isSpace = action := by
    cases action with
    | nil => rfl
    | cons c action =>
        rw [List.dropWhile_cons_of_neg]
        rw [h c List.mem_cons_self]
        exact Bool.false_ne_true
  rw [nextWord, hstart, List.takeWhile_eq_self_iff.mpr hall, List.dropWhile_eq_nil_iff.mpr hall]

/-- The words of a line that is made of two. -/
theorem nextWord_line (haction : IsWord action) (hne : action ≠ []) (rest : Str) :
    nextWord (action ++ ' ' :: rest) = (action, ' ' :: rest) := by
  have hall : ∀ c ∈ action, (!isSpace c) = true := fun c hc => by rw [haction c hc]; rfl
  have hstart : (action ++ ' ' :: rest).dropWhile isSpace = action ++ ' ' :: rest := by
    obtain ⟨c, action, rfl⟩ := List.exists_cons_of_ne_nil hne
    rw [List.cons_append, List.dropWhile_cons_of_neg]
    rw [haction c List.mem_cons_self]
    exact Bool.false_ne_true
  rw [nextWord, hstart, List.takeWhile_append_of_pos hall, List.dropWhile_append_of_pos hall,
    List.takeWhile_cons_of_neg (by decide), List.dropWhile_cons_of_neg (by decide), List.append_nil]

variable (chatter : Chatter)

theorem controlCommand_line (haction : IsWord action) (hne : action ≠ []) (htarget : IsWord target) :
    chatter.controlCommand (action ++ ' ' :: target) =
      chatter.control action target (action ++ ' ' :: target) := by
  rw [Chatter.controlCommand, nextWord_line haction hne]
  show chatter.control action (nextWord (' ' :: target)).1 _ = _
  rw [nextWord_space, nextWord_word htarget]

theorem controlText_eq_some {command text : Str} (h : controlText command = some text) :
    text ≠ [] ∧ text.head? ≠ some ' ' := by
  simp only [controlText] at h
  split at h
  · cases h
  · rename_i hne
    obtain rfl := Option.some.inj h
    refine ⟨hne, fun hhead => ?_⟩
    have hfirst := List.head?_dropWhile_not (· = ' ')
      (command.drop ((find command ' ' 0).getD command.length))
    rw [hhead] at hfirst
    exact absurd hfirst (by decide)

theorem controlText_line {text : Str} (haction : ' ' ∉ action) (hne : text ≠ [])
    (hhead : text.head? ≠ some ' ') : controlText (action ++ ' ' :: text) = some text := by
  have hfind := find_append_cons (b := text) haction []
  rw [List.nil_append, List.length_nil, Nat.zero_add] at hfind
  have htext : text.dropWhile (· = ' ') = text := by
    obtain ⟨c, text, rfl⟩ := List.exists_cons_of_ne_nil hne
    rw [List.dropWhile_cons_of_neg]
    rw [decide_eq_true_eq]
    rintro rfl
    exact hhead rfl
  have hdrop : ((action ++ ' ' :: text).drop action.length).dropWhile (· = ' ') = text := by
    rw [List.drop_left, List.dropWhile_cons_of_pos (by decide), htext]
  simp only [controlText, hfind, Option.getD_some, hdrop]
  exact if_neg hne

end Words

section Orders

variable {chatter : Chatter} {frame printed : Str}

theorem sent_inj {action target recipient message : Str} {type : EChatCmdType}
    (h : chatter.sends action target type recipient message = .sent frame printed) :
    frame = (FDaraChatMsg.mk type chatter.myCharName recipient message).serialize :=
  (ControlOutcome.sent.inj h).1.symm

theorem isOrder_of_control {action target command : Str} (htarget : IsWord target)
    (h : chatter.control action target command = .sent frame printed) :
    ∃ type recipient message, IsOrder type recipient message ∧
      frame = (FDaraChatMsg.mk type chatter.myCharName recipient message).serialize := by
  have htext : ∀ {type : EChatCmdType} {recipient : Str},
      (match controlText command with
        | none => ControlOutcome.refused (action ++ " requires a message".toList)
        | some text => chatter.sends action target type recipient text) = .sent frame printed →
      ∃ text, (text ≠ [] ∧ text.head? ≠ some ' ') ∧
        frame = (FDaraChatMsg.mk type chatter.myCharName recipient text).serialize := by
    intro type recipient h
    cases hsome : controlText command with
    | none =>
        rw [hsome] at h
        cases h
    | some text =>
        rw [hsome] at h
        exact ⟨text, controlText_eq_some hsome, sent_inj h⟩
  simp only [Chatter.control] at h
  split_ifs at h with _ _ _ _ _ _ hworld hinvite hkick _
  · exact ⟨_, _, _, .admin .adminStatus target rfl htarget, sent_inj h⟩
  · exact ⟨_, _, _, .admin .adminGroups target rfl htarget, sent_inj h⟩
  · exact ⟨_, _, _, .admin .adminZones target rfl htarget, sent_inj h⟩
  · exact ⟨_, _, _, .admin .adminChannels target rfl htarget, sent_inj h⟩
  · obtain ⟨text, ⟨hne, hhead⟩, hframe⟩ := htext h
    exact ⟨_, _, _, .world text hne hhead, hframe⟩
  · obtain ⟨text, ⟨hne, hhead⟩, hframe⟩ := htext h
    exact ⟨_, _, _, .group text hne hhead, hframe⟩
  · exact ⟨_, _, _, .invite target hinvite.2 htarget, sent_inj h⟩
  · exact ⟨_, _, _, .kick target hkick.2 htarget, sent_inj h⟩
  · exact ⟨_, _, _, .leave, sent_inj h⟩

/-- An invitation that an operator orders. -/
theorem controlCommand_invite (chatter : Chatter) {target : Str} (hne : target ≠ [])
    (htarget : IsWord target) :
    chatter.controlCommand ("invite".toList ++ ' ' :: target) =
      chatter.sends "invite".toList target .groupInvite target [] := by
  rw [controlCommand_line chatter (by decide) (by decide) htarget]
  exact if_pos ⟨rfl, hne⟩

theorem controlCommand_leave (chatter : Chatter) :
    chatter.controlCommand "leave".toList =
      chatter.sends "leave".toList [] .groupDisband [] [] := by
  rfl

/-- **What an operator can make a bot send**: the frames of these messages, and no others. -/
theorem control_sent_iff :
    (∃ command printed, chatter.controlCommand command = .sent frame printed) ↔
      ∃ type recipient message, IsOrder type recipient message ∧
        frame = (FDaraChatMsg.mk type chatter.myCharName recipient message).serialize := by
  constructor
  · rintro ⟨command, printed, h⟩
    exact isOrder_of_control (nextWord_isWord _) h
  · rintro ⟨type, recipient, message, horder, rfl⟩
    have hline (action : Str) {target : Str} (haction : IsWord action ∧ action ≠ [])
        (htarget : IsWord target)
        (h : chatter.control action target (action ++ ' ' :: target) =
          chatter.sends action target type recipient message) :
        ∃ command printed, chatter.controlCommand command =
          .sent (FDaraChatMsg.mk type chatter.myCharName recipient message).serialize printed :=
      ⟨_, _, (controlCommand_line chatter haction.1 haction.2 htarget).trans h⟩
    have htext (action : Str) (haction : IsWord action ∧ action ≠ [] ∧ ' ' ∉ action)
        (hne : message ≠ []) (hhead : message.head? ≠ some ' ')
        (h : ∀ target command, controlText command = some message →
          chatter.control action target command =
            chatter.sends action target type recipient message) :
        ∃ command printed, chatter.controlCommand command =
          .sent (FDaraChatMsg.mk type chatter.myCharName recipient message).serialize printed := by
      have hread : chatter.controlCommand (action ++ ' ' :: message) =
          chatter.control action (nextWord (' ' :: message)).1 (action ++ ' ' :: message) := by
        rw [Chatter.controlCommand, nextWord_line haction.1 haction.2.1]
      exact ⟨_, _, hread.trans (h _ _ (controlText_line haction.2.2 hne hhead))⟩
    cases horder with
    | admin type target hquery htarget =>
        simp only [isAdminQuery, Bool.or_eq_true, decide_eq_true_eq] at hquery
        rcases hquery with ((rfl | rfl) | rfl) | rfl
        · exact hline "admin-status".toList (by decide) htarget rfl
        · exact hline "admin-groups".toList (by decide) htarget rfl
        · exact hline "admin-zones".toList (by decide) htarget rfl
        · exact hline "admin-channels".toList (by decide) htarget rfl
    | world text hne hhead =>
        refine htext "world".toList (by decide) hne hhead fun target command h => ?_
        show (match controlText command with | none => _ | some text => _) = _
        rw [h]
        rfl
    | group text hne hhead =>
        refine htext "group".toList (by decide) hne hhead fun target command h => ?_
        show (match controlText command with | none => _ | some text => _) = _
        rw [h]
        rfl
    | invite target hne htarget => exact ⟨_, _, controlCommand_invite chatter hne htarget⟩
    | kick target hne htarget =>
        exact hline "kick".toList (by decide) htarget (if_pos ⟨rfl, hne⟩)
    | leave => exact ⟨_, _, controlCommand_leave chatter⟩

end Orders

/-! ## At the server -/

theorem three_le_count_serialize (msg : FDaraChatMsg) : 3 ≤ msg.serialize.count ':' := by
  rw [serialize_eq, List.count_append, List.count_cons_self, List.count_append, List.count_cons_self,
    List.count_append, List.count_cons_self]
  omega

/-- Whatever colons it has, the text of a message of a real type is read. -/
theorem tryParseMessage_serialize_accepts {msg : FDaraChatMsg} (h : msg.type ≠ .none) :
    (tryParseMessage msg.serialize).1 = true := by
  refine (tryParseMessage_accepts_iff _).mpr ⟨three_le_count_serialize msg, msg.type, h, ?_⟩
  rw [serialize_eq, takeWhile_append_cons (colon_notMem_toString msg.type)]

/-- An order has a real type. -/
theorem IsOrder.type_ne {type : EChatCmdType} {recipient message : Str}
    (h : IsOrder type recipient message) : type ≠ .none := by
  cases h with
  | admin type target htype htarget =>
      rintro rfl
      cases htype
  | _ => exact EChatCmdType.noConfusion

namespace Server

section Handled

variable {s : Server} {ws : SocketId} {sock : Socket} {chatter : Chatter}

/-- A message in the name of its character is a command of it, and its text is kept. -/
theorem chatCommand_of_own (hs : s.Session ws sock) (hcolon : ':' ∉ sock.data.name) (env : Env)
    {own : FDaraChatMsg} (htype : own.type ≠ .none) (hsender : own.sender = sock.data.name) :
    ∃ msg, s.chatCommand (.text env ws own.serialize) = some ⟨env, ws, sock, msg⟩ ∧
      msg.type = own.type ∧ msg.serialize = own.serialize := by
  have haccepts := tryParseMessage_serialize_accepts htype
  obtain ⟨hread, hwritten⟩ := tryParseMessage_serialize_sender (hsender ▸ hcolon) haccepts
  have hserialize := serialize_tryParseMessage haccepts
  have hcmd := @chatCommand_of_text s env ws sock own.serialize hs haccepts
  -- the name of the session is the one that has been written
  have hsame : ({ (tryParseMessage own.serialize).2.1 with sender := sock.data.name } :
      FDaraChatMsg) = (tryParseMessage own.serialize).2.1 := by
    rw [← hsender, ← hwritten]
  rw [hsame] at hcmd
  exact ⟨_, hcmd, hread, hserialize⟩

/-- **Every frame that an operator makes a bot send is a command of its character**: it is one of the
orders, the server takes it for that, and passes on the text that was sent if it passes it on. A kick
changes nothing: the server has no branch for it. -/
theorem control_chatCommand (cfg : Config) (hs : s.Session ws sock)
    (hname : sock.data.name = chatter.myCharName) (hcolon : ':' ∉ chatter.myCharName) (env : Env)
    {command frame printed : Str} (h : chatter.controlCommand command = .sent frame printed) :
    ∃ type recipient message, IsOrder type recipient message ∧
      frame = (FDaraChatMsg.mk type chatter.myCharName recipient message).serialize ∧
      ∃ msg, s.chatCommand (.text env ws frame) = some ⟨env, ws, sock, msg⟩ ∧ msg.type = type ∧
        msg.serialize = frame ∧ (type = .groupKick → s.step cfg (.text env ws frame) = s) := by
  obtain ⟨type, recipient, message, horder, rfl⟩ := control_sent_iff.mp ⟨command, printed, h⟩
  refine ⟨type, recipient, message, horder, rfl, ?_⟩
  obtain ⟨msg, hcmd, htype, hserialize⟩ := @chatCommand_of_own s ws sock hs (hname ▸ hcolon) env
    ⟨type, chatter.myCharName, recipient, message⟩ horder.type_ne hname.symm
  refine ⟨msg, hcmd, htype, hserialize, ?_⟩
  rintro rfl
  rw [step_of_chatCommand cfg hcmd, handleChatMsg, htype]
  rfl

/-- Tirio's bot invites somebody with a colon in its name. -/
theorem control_chatCommand_tirio :
    ∃ sock type recipient message, IsOrder type recipient message ∧
      "GroupInvite:Tirio:Trula:x:".toList =
        (FDaraChatMsg.mk type botTirio.myCharName recipient message).serialize ∧
      ∃ msg, ((machine sampleConfig).run (loginEvents 1 tirio)).chatCommand
          (.text (sampleEnv 1001 "a") 1 "GroupInvite:Tirio:Trula:x:".toList) =
            some ⟨sampleEnv 1001 "a", 1, sock, msg⟩ ∧ msg.type = type ∧
        msg.serialize = "GroupInvite:Tirio:Trula:x:".toList := by
  have hrun : (((machine sampleConfig).run (loginEvents 1 tirio)).sockets 1).map
      (fun sock => (sock.phase, sock.data.connected, sock.data.name)) =
        some (.live, true, "Tirio".toList) := by
    decide +kernel
  obtain ⟨sock, hfound, heq⟩ := Option.map_eq_some_iff.mp hrun
  obtain ⟨hlive, hconnected, hname⟩ := by simpa only [Prod.mk.injEq] using heq
  have hsession : ((machine sampleConfig).run (loginEvents 1 tirio)).Session 1 sock :=
    ⟨hfound, hlive, hconnected⟩
  have hsent : botTirio.controlCommand "invite Trula:x".toList =
      .sent "GroupInvite:Tirio:Trula:x:".toList "CONTROL SENT invite Trula:x".toList := by
    decide +kernel
  obtain ⟨type, recipient, message, horder, hframe, msg, hcmd, htype, hread, -⟩ :=
    control_chatCommand sampleConfig hsession hname (by decide) (sampleEnv 1001 "a") hsent
  exact ⟨sock, type, recipient, message, horder, hframe, msg, hcmd, htype, hread⟩

end Handled

end Server

end DaraChat
