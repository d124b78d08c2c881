import DaraChat.Auth.Compact
import DaraChat.Json.ReadBack
import Mathlib.Data.List.DropRight

set_option autoImplicit false

/-! # Tokens for administrators (`tools/admin_token.py`)

The tool signs a token with the server's secret. Its texts are Unicode, and what it writes is UTF-8;
its JSON text and its base64 are Python's, the server reads them with picojson and jwt-cpp.
`adminToken_accepted_iff`: when a login with such a token is accepted.
-/

namespace DaraChat

namespace AdminToken

/-! ## The tool -/

/-- `str.encode('utf-8')`. -/
def encodeStr (s : Str) : Str := s.flatMap fun c => Json.encodeUtf8 c.toNat

/-- `str.isspace` of one character. -/
def isSpace (c : Char) : Bool :=
  let n := c.toNat
  9 ≤ n && n ≤ 13 || 28 ≤ n && n ≤ 32 || n = 0x85 || n = 0xa0 || n = 0x1680 ||
    0x2000 ≤ n && n ≤ 0x200a || n = 0x2028 || n = 0x2029 || n = 0x202f || n = 0x205f || n = 0x3000

/-- A character in a string of `json.dumps` with `ensure_ascii=False`. -/
def dumpsChar (c : Char) : Str :=
  if c = '"' then ['\\', '"']
  else if c = '\\' then ['\\', '\\']
  else if c = '\n' then ['\\', 'n']
  else if c = '\r' then ['\\', 'r']
  else if c = '\t' then ['\\', 't']
  else if c = '\x0c' then ['\\', 'f']
  else if c = '\x08' then ['\\', 'b']
  else if c.toNat < 32 then ['\\', 'u', '0', '0'] ++ Json.hexByte c.toNat
  else [c]

def dumpsStr (s : Str) : Str := '"' :: (s.flatMap dumpsChar ++ ['"'])

/-- `json.dumps(value, separators=(',', ':'), ensure_ascii=False)`; floats are written by `repr`. -/
def dumps (repr : ℚ → Str) (value : Json) : Str := Json.write dumpsStr repr value

/-- `base64.urlsafe_b64encode(value).rstrip(b'=')`. -/
def encodePart (value : Str) : Str := (Base64.encode ['='] value).rdropWhile (· = '=')

/-- The payload of the token. -/
def adminPayload (name : Str) (minutes issued : Int) : Json :=
  .object
    [ ("iss".toList, .string "dara-game-server".toList)
    , ("aud".toList, .string "dara-chat".toList)
    , ("characterName".toList, .string name)
    , ("iat".toList, .integer issued)
    , ("exp".toList, .integer (issued + minutes * 60))
    , ("roles".toList, .array [.string "chat_admin".toList]) ]

def adminHeader : Json :=
  .object [("alg".toList, .string "HS256".toList), ("typ".toList, .string "JWT".toList)]

/-- `generate_admin_token`, for a time that is given; the error is the text of the `ValueError`. -/
def generateAdminToken (repr : ℚ → Str) (hmac : Str → Str → Str) (secret name : Str)
    (minutes issued : Int) : Except Str Str :=
  if secret = [] ∨ '\n' ∈ secret ∨ '\r' ∈ secret then
    .error "Signing secret must be one nonempty line".toList
  else if name = [] ∨ name.any fun c => isSpace c || c = ':' || c = ';' || c = '\x00' then
    .error "Name must be nonempty without whitespace, colons or semicolons".toList
  else if ¬ (1 ≤ minutes ∧ minutes ≤ 60) then
    .error "Validity must be between 1 and 60 minutes".toList
  else
    let encode value := encodePart (encodeStr (dumps repr value))
    let message := encode adminHeader ++ ".".toList ++ encode (adminPayload name minutes issued)
    let signature := hmac (encodeStr secret) message
    .ok (message ++ ".".toList ++ encodePart signature)

/-! ## UTF-8 -/

/-- A character below 128 is one byte, any other only bytes from 128 on. -/
theorem encodeUtf8_cases (c : Char) :
    c.toNat < 128 ∧ Json.encodeUtf8 c.toNat = [c] ∨
      128 ≤ c.toNat ∧ ∀ b ∈ Json.encodeUtf8 c.toNat, 128 ≤ b.toNat ∧ b.toNat < 256 := by
  have hmax : c.toNat < 0x110000 := by
    have := c.valid
    rcases this with h | h
    · exact h.trans (by decide)
    · exact h.2
  unfold Json.encodeUtf8
  by_cases hone : c.toNat < 0x80
  · rw [if_pos hone, Char.ofNat_toNat]
    exact .inl ⟨hone, rfl⟩
  rw [if_neg hone]
  refine .inr ⟨Nat.le_of_not_lt hone, ?_⟩
  split
  · intro b hb
    simp only [List.mem_cons, List.not_mem_nil, or_false] at hb
    rcases hb with rfl | rfl
    · rw [Base64.toNat_ofNat (by omega)]
      omega
    · rw [Base64.toNat_ofNat (by omega)]
      omega
  split
  · intro b hb
    simp only [List.mem_cons, List.not_mem_nil, or_false] at hb
    rcases hb with rfl | rfl | rfl
    · rw [Base64.toNat_ofNat (by omega)]
      omega
    · rw [Base64.toNat_ofNat (by omega)]
      omega
    · rw [Base64.toNat_ofNat (by omega)]
      omega
  · intro b hb
    simp only [List.mem_cons, List.not_mem_nil, or_false] at hb
    rcases hb with rfl | rfl | rfl | rfl
    · rw [Base64.toNat_ofNat (by omega)]
      omega
    · rw [Base64.toNat_ofNat (by omega)]
      omega
    · rw [Base64.toNat_ofNat (by omega)]
      omega
    · rw [Base64.toNat_ofNat (by omega)]
      omega

theorem encodeStr_append (s t : Str) : encodeStr (s ++ t) = encodeStr s ++ encodeStr t :=
  List.flatMap_append

/-- Text of characters below 128 is its own encoding. -/
theorem encodeStr_ascii {s : Str} (h : ∀ c ∈ s, c.toNat < 128) : encodeStr s = s := by
  induction s with
  | nil => rfl
  | cons c s ih =>
      obtain ⟨hc, hs⟩ := List.forall_mem_cons.mp h
      rcases encodeUtf8_cases c with ⟨-, hone⟩ | ⟨hlarge, -⟩
      · show Json.encodeUtf8 c.toNat ++ encodeStr s = _
        rw [hone, ih hs]
        rfl
      · omega

theorem encodeStr_bytes (s : Str) : ∀ b ∈ encodeStr s, b.toNat < 256 := by
  intro b hb
  obtain ⟨c, -, hb⟩ := List.mem_flatMap.mp hb
  rcases encodeUtf8_cases c with ⟨hc, hone⟩ | ⟨-, hall⟩
  · rw [hone, List.mem_singleton] at hb
    rw [hb]
    omega
  · exact (hall b hb).2

/-- A byte below 128 is a character of the text. -/
theorem mem_of_mem_encodeStr {s : Str} {b : Char} (hb : b ∈ encodeStr s) (h : b.toNat < 128) :
    b ∈ s := by
  obtain ⟨c, hc, hb⟩ := List.mem_flatMap.mp hb
  rcases encodeUtf8_cases c with ⟨-, hone⟩ | ⟨-, hall⟩
  · rw [hone, List.mem_singleton] at hb
    rw [hb]
    exact hc
  · have := (hall b hb).1
    omega

theorem encodeStr_ne_nil {s : Str} (h : s ≠ []) : encodeStr s ≠ [] := by
  obtain ⟨c, s, rfl⟩ := List.exists_cons_of_ne_nil h
  have hne : Json.encodeUtf8 c.toNat ≠ [] := by
    unfold Json.encodeUtf8
    split
    · exact List.cons_ne_nil _ _
    split
    · exact List.cons_ne_nil _ _
    split
    · exact List.cons_ne_nil _ _
    · exact List.cons_ne_nil _ _
  exact List.append_ne_nil_of_left_ne_nil hne _

/-! ## The JSON text -/

/-- A byte that is read as itself. -/
theorem readsAs_high {b : Char} (h : 128 ≤ b.toNat) : Json.ReadsAs [b] [b] := by
  refine Json.readsAs_plain (by omega) ?_ ?_
  · rintro rfl
    exact absurd h (by decide)
  · rintro rfl
    exact absurd h (by decide)

theorem readsAs_bytes {s : Str} (h : ∀ b ∈ s, 128 ≤ b.toNat) : Json.ReadsAs s s := by
  induction s with
  | nil => exact Json.readsAs_nil
  | cons b s ih =>
      obtain ⟨hb, hs⟩ := List.forall_mem_cons.mp h
      exact (readsAs_high hb).append (ih hs)

theorem digitChar_ascii {d : Nat} (h : d < 16) : (Nat.digitChar d).toNat < 128 := by
  have hall : ∀ d : Fin 16, (Nat.digitChar d).toNat < 128 := by decide
  exact hall ⟨d, h⟩

/-- Every character is read back from what the tool writes for it, in UTF-8. -/
theorem readsAs_dumpsChar (c : Char) :
    Json.ReadsAs (encodeStr (dumpsChar c)) (Json.encodeUtf8 c.toNat) := by
  unfold dumpsChar
  split
  · rename_i h
    rw [h]
    exact Json.readsAs_escaped (by decide)
  split
  · rename_i h
    rw [h]
    exact Json.readsAs_escaped (by decide)
  split
  · rename_i h
    rw [h]
    exact Json.readsAs_escaped (by decide)
  split
  · rename_i h
    rw [h]
    exact Json.readsAs_escaped (by decide)
  split
  · rename_i h
    rw [h]
    exact Json.readsAs_escaped (by decide)
  split
  · rename_i h
    rw [h]
    exact Json.readsAs_escaped (by decide)
  split
  · rename_i h
    rw [h]
    exact Json.readsAs_escaped (by decide)
  split
  · rename_i h
    have hascii : ∀ d ∈ ['\\', 'u', '0', '0'] ++ Json.hexByte c.toNat, d.toNat < 128 := by
      rw [List.forall_mem_append]
      constructor
      · simp only [List.forall_mem_cons, List.not_mem_nil, false_implies, implies_true, and_true]
        decide
      · intro d hd
        simp only [Json.hexByte, List.mem_cons, List.not_mem_nil, or_false] at hd
        rcases hd with rfl | rfl
        · exact digitChar_ascii (Nat.mod_lt _ (by decide))
        · exact digitChar_ascii (Nat.mod_lt _ (by decide))
    rcases encodeUtf8_cases c with ⟨hc, hone⟩ | ⟨hlarge, -⟩
    · rw [encodeStr_ascii hascii, hone]
      exact Json.readsAs_hex hc
    · omega
  · rename_i hquote hslash _ _ _ _ _ hplain
    have hself : encodeStr [c] = Json.encodeUtf8 c.toNat := List.append_nil _
    rw [hself]
    rcases encodeUtf8_cases c with ⟨-, hone⟩ | ⟨-, hall⟩
    · rw [hone]
      exact Json.readsAs_plain (Nat.le_of_not_lt hplain) hquote hslash
    · exact readsAs_bytes fun b hb => (hall b hb).1

theorem encodeStr_flatMap (s : Str) (esc : Char → Str) :
    encodeStr (s.flatMap esc) = s.flatMap fun c => encodeStr (esc c) := by
  rw [encodeStr, List.flatMap_assoc]
  rfl

theorem writesStrings_dumpsStr : Json.WritesStrings (fun s => encodeStr (dumpsStr s)) encodeStr := by
  intro s
  refine ⟨encodeStr (s.flatMap dumpsChar), ?_, ?_⟩
  · show encodeStr (['"'] ++ (s.flatMap dumpsChar ++ ['"'])) = _
    rw [encodeStr_append, encodeStr_append, encodeStr_ascii (s := ['"'])
      (List.forall_mem_singleton.mpr (by decide))]
    rfl
  · rw [encodeStr_flatMap]
    exact Json.readsAs_flatMap readsAs_dumpsChar s

theorem intToString_ascii (i : Int) : ∀ c ∈ intToString i, c.toNat < 128 := by
  intro c hc
  rcases intToString_isNumeral i c hc with rfl | hdigit
  · decide
  · have hnine := (Char.isDigit_iff_toNat.mp hdigit).2
    exact hnine.trans_lt (by decide)

/-- The encoding of a text that is written is written with encoded strings. -/
theorem encodeStr_write (str : Str → Str) (num : ℚ → Str) (value : Json) :
    encodeStr (Json.write str num value) =
      Json.write (fun s => encodeStr (str s)) (fun x => encodeStr (num x)) value := by
  have helements : ∀ (vs : List Json), (∀ v ∈ vs, encodeStr (Json.write str num v) =
      Json.write (fun s => encodeStr (str s)) (fun x => encodeStr (num x)) v) → ∀ first,
      encodeStr (Json.writeElements str num first vs) =
        Json.writeElements (fun s => encodeStr (str s)) (fun x => encodeStr (num x)) first vs := by
    intro vs hvs
    induction vs with
    | nil => exact fun _ => rfl
    | cons v vs ih =>
        intro first
        obtain ⟨hv, hvs⟩ := List.forall_mem_cons.mp hvs
        rw [Json.writeElements, Json.writeElements, encodeStr_append, encodeStr_append, hv,
          ih hvs false]
        cases first with
        | true => rfl
        | false => rfl
  have hfields : ∀ (fields : List (Str × Json)), (∀ field ∈ fields,
      encodeStr (Json.write str num (Prod.snd field)) =
        Json.write (fun s => encodeStr (str s)) (fun x => encodeStr (num x)) (Prod.snd field)) →
      ∀ first, encodeStr (Json.writeFields str num first fields) =
        Json.writeFields (fun s => encodeStr (str s)) (fun x => encodeStr (num x)) first fields := by
    intro fields hfields
    induction fields with
    | nil => exact fun _ => rfl
    | cons field fields ih =>
        intro first
        obtain ⟨key, v⟩ := field
        obtain ⟨hv, hfields⟩ := List.forall_mem_cons.mp hfields
        have hcolon : ∀ s, encodeStr (':' :: s) = ':' :: encodeStr s := fun _ => rfl
        rw [Json.writeFields, Json.writeFields, encodeStr_append, encodeStr_append, hcolon,
          encodeStr_append, hv, ih hfields false]
        cases first with
        | true => rfl
        | false => rfl
  induction value using Json.inductionOn with
  | hnull => rfl
  | hboolean b =>
      cases b with
      | true => rfl
      | false => rfl
  | hinteger i =>
      rw [Json.write, Json.write]
      exact encodeStr_ascii (intToString_ascii i)
  | hnumber x => rw [Json.write, Json.write]
  | hstring s => rw [Json.write, Json.write]
  | harray elements ih =>
      rw [Json.write, Json.write, ← helements elements ih true]
      show encodeStr (['['] ++ (_ ++ [']'])) = _
      rw [encodeStr_append, encodeStr_append]
      rfl
  | hobject fields ih =>
      rw [Json.write, Json.write, ← hfields fields ih true]
      show encodeStr (['\x7b'] ++ (_ ++ ['\x7d'])) = _
      rw [encodeStr_append, encodeStr_append]
      rfl

/-! ## The parts of the token -/

theorem encodePart_eq (value : Str) : encodePart value = Base64.encode [] value := by
  have hstrip (count : Nat) : (Base64.encode [] value ++
      (List.replicate count ['=']).flatten).rdropWhile (· = '=') = Base64.encode [] value := by
    induction count with
    | zero =>
        rw [List.replicate_zero, List.flatten_nil, List.append_nil, List.rdropWhile_eq_self_iff]
        intro hne hlast
        have hmem := Base64.encode_mem value _ (List.getLast_mem hne)
        rw [of_decide_eq_true hlast] at hmem
        exact absurd hmem (by decide)
    | succ count ih =>
        have hconcat : (List.replicate (count + 1) ['=']).flatten =
            (List.replicate count ['=']).flatten ++ ['='] := by
          rw [List.replicate_succ', List.flatten_append, List.flatten_singleton]
        rw [hconcat, ← List.append_assoc, List.rdropWhile_concat_pos _ _ _ (by decide), ih]
  rw [encodePart, Base64.encode_eq]
  exact hstrip _

/-- Bytes that the tool encodes are what the server decodes. -/
theorem decodePart_encodePart {value : Str} (h : ∀ c ∈ value, c.toNat < 256) :
    decodePart (encodePart value) = some value := by
  rw [encodePart_eq]
  exact Base64.decode_encode h

/-- A part of the token, and the claims the server reads. -/
theorem parseClaims_dumps (num : NumberLib) (repr : ℚ → Str) {value : Json}
    {fields : List (Str × Json)} (hwritable : Json.Writable num (fun x => encodeStr (repr x)) 100 value)
    (hnormal : Json.normal encodeStr value = .object fields) :
    decodePart (encodePart (encodeStr (dumps repr value))) = some (encodeStr (dumps repr value)) ∧
      parseClaims num (encodeStr (dumps repr value)) = some fields := by
  refine ⟨decodePart_encodePart (encodeStr_bytes _), ?_⟩
  rw [dumps, encodeStr_write, parseClaims, Json.parse_write writesStrings_dumpsStr hwritable, hnormal]
  rfl

theorem normal_adminHeader : Json.normal encodeStr adminHeader =
    .object [("alg".toList, .string "HS256".toList), ("typ".toList, .string "JWT".toList)] := by
  rfl

/-- The claims of the payload in the order of their names. -/
def adminClaims (name : Str) (minutes issued : Int) : List (Str × Json) :=
  [ ("aud".toList, .string "dara-chat".toList)
  , ("characterName".toList, .string (encodeStr name))
  , ("exp".toList, .integer (issued + minutes * 60))
  , ("iat".toList, .integer issued)
  , ("iss".toList, .string "dara-game-server".toList)
  , ("roles".toList, .array [.string "chat_admin".toList]) ]

theorem normal_adminPayload (name : Str) (minutes issued : Int) :
    Json.normal encodeStr (adminPayload name minutes issued) =
      .object (adminClaims name minutes issued) := by
  rfl

/-- What the tool has checked, and what the server reads of the token it has printed. -/
structure Issued (num : NumberLib) (hmac : Str → Str → Str) (secret name : Str)
    (minutes issued : Int) (pass : Str) (token : DecodedJwt) : Prop where
  hasSecret : secret ≠ []
  hasName : name ≠ [] ∧ ';' ∉ name
  validity : 1 ≤ minutes ∧ minutes ≤ 60
  decoded : decodeJwt num pass = some token
  signed : hmacshaVerify hmac (encodeStr secret)
    (token.headerBase64 ++ ".".toList ++ token.payloadBase64) token.signature = true
  alg : token.header.lookup "alg".toList = some (.string "HS256".toList)
  payload : token.payload = adminClaims name minutes issued
  text : pass ≠ [] ∧ ∀ c ∈ pass, c ∈ Base64.alphabet ∨ c = '.'

section Issue

variable {num : NumberLib} {repr : ℚ → Str} {hmac : Str → Str → Str}
variable (hhmac : ∀ key data, ∀ c ∈ hmac key data, c.toNat < 256)
variable {secret name pass : Str} {minutes issued : Int}
variable (hclock : -(2 ^ 63) ≤ issued ∧ issued + 3600 < 2 ^ 63)

include hclock in
theorem writable_adminPayload (hminutes : 1 ≤ minutes ∧ minutes ≤ 60) (num : NumberLib)
    (text : ℚ → Str) : Json.Writable num text 100 (adminPayload name minutes issued) := by
  refine .object 99 _ ?_
  simp only [List.forall_mem_cons, List.not_mem_nil, false_implies, implies_true, and_true]
  refine ⟨.string _ _, .string _ _, .string _ _, .integer _ _ ?_ ?_, .integer _ _ ?_ ?_,
    .array 99 _ ?_⟩
  · exact hclock.1
  · omega
  · omega
  · omega
  · simp only [List.forall_mem_singleton]
    exact .string _ _

include hhmac hclock in
theorem exists_issued (h : generateAdminToken repr hmac secret name minutes issued = .ok pass) :
    ∃ token, Issued num hmac secret name minutes issued pass token := by
  unfold generateAdminToken at h
  by_cases hsecret : secret = [] ∨ '\n' ∈ secret ∨ '\r' ∈ secret
  · rw [if_pos hsecret] at h
    cases h
  by_cases hname : name = [] ∨ name.any fun c => isSpace c || c = ':' || c = ';' || c = '\x00'
  · rw [if_neg hsecret, if_pos hname] at h
    cases h
  by_cases hminutes : ¬ (1 ≤ minutes ∧ minutes ≤ 60)
  · rw [if_neg hsecret, if_neg hname, if_pos hminutes] at h
    cases h
  rw [if_neg hsecret, if_neg hname, if_neg hminutes] at h
  have hminutes := not_not.mp hminutes
  have htext : (encodePart (encodeStr (dumps repr adminHeader)) ++ ".".toList ++
      encodePart (encodeStr (dumps repr (adminPayload name minutes issued)))) ++ ".".toList ++
        encodePart (hmac (encodeStr secret) (encodePart (encodeStr (dumps repr adminHeader)) ++
          ".".toList ++ encodePart (encodeStr (dumps repr (adminPayload name minutes issued))))) =
      pass := Except.ok.inj h
  have hheader : Json.Writable num (fun x => encodeStr (repr x)) 100 adminHeader := by
    refine .object 99 _ ?_
    simp only [List.forall_mem_cons, List.not_mem_nil, false_implies, implies_true, and_true]
    exact ⟨.string _ _, .string _ _⟩
  obtain ⟨hheader, hheaderClaims⟩ := parseClaims_dumps num repr hheader normal_adminHeader
  have hwritable : Json.Writable num (fun x => encodeStr (repr x)) 100
      (adminPayload name minutes issued) := writable_adminPayload hclock hminutes num _
  obtain ⟨hpayload, hpayloadClaims⟩ := parseClaims_dumps num repr hwritable
    (normal_adminPayload name minutes issued)
  -- the three parts, of which nothing but what they decode to matters below
  generalize encodeStr (dumps repr adminHeader) = header at hheader hheaderClaims htext
  generalize encodeStr (dumps repr (adminPayload name minutes issued)) = payload
    at hpayload hpayloadClaims htext
  have hpart (value : Str) : ∀ c ∈ encodePart value, c ∈ Base64.alphabet ∨ c = '.' := fun c hc =>
    .inl (Base64.encode_mem value c (encodePart_eq value ▸ hc))
  obtain ⟨data, hdata⟩ : ∃ data, encodePart header ++ ".".toList ++ encodePart payload = data :=
    ⟨_, rfl⟩
  have hsignature := decodePart_encodePart (hhmac (encodeStr secret) data)
  have hpass : pass = encodePart header ++ '.' :: (encodePart payload ++ '.' ::
      encodePart (hmac (encodeStr secret) data)) := by
    rw [← htext, hdata, ← hdata]
    simp
  refine ⟨{ header := [("alg".toList, .string "HS256".toList), ("typ".toList, .string "JWT".toList)],
            payload := adminClaims name minutes issued, headerBase64 := encodePart header,
            payloadBase64 := encodePart payload, signature := hmac (encodeStr secret) data },
    fun h => hsecret (.inl h), ⟨fun h => hname (.inl h), ?_⟩, hminutes, ?_, ?_, rfl, rfl, ?_⟩
  · intro hmem
    exact hname (.inr (List.any_eq_true.mpr ⟨';', hmem, by decide⟩))
  · exact decodeJwt_iff.mpr ⟨_, hpass, ⟨header, hheader, hheaderClaims⟩,
      ⟨payload, hpayload, hpayloadClaims⟩, hsignature⟩
  · rw [hmacshaVerify_iff, hdata]
  · rw [hpass]
    refine ⟨List.append_ne_nil_of_right_ne_nil _ (List.cons_ne_nil _ _), ?_⟩
    simp only [List.forall_mem_append, List.forall_mem_cons, or_true, true_and]
    exact ⟨hpart header, hpart payload, hpart _⟩

/-- The login frame of an administrator. -/
def adminLogin (name zone pass : Str) : Str :=
  "connect:".toList ++ ("name=".toList ++ encodeStr name ++ ";zone=".toList ++ zone ++
    ";pass=".toList ++ pass)

/-- The fields of the frame. -/
def adminFields (name zone pass : Str) : List (Str × Str) :=
  [("name".toList, encodeStr name), ("zone".toList, zone), ("pass".toList, pass)]

theorem loginFields_adminLogin {zone : Str} (hname : ';' ∉ name) (hzone : ';' ∉ zone)
    (hpass : ';' ∉ pass) :
    LoginFields ("name=".toList ++ encodeStr name ++ ";zone=".toList ++ zone ++ ";pass=".toList ++ pass)
      (adminFields name zone pass) := by
  have hencoded : ';' ∉ encodeStr name := fun h => hname (mem_of_mem_encodeStr h (by decide))
  have htext : "name=".toList ++ encodeStr name ++ ";zone=".toList ++ zone ++ ";pass=".toList ++ pass =
      [';'].intercalate ((adminFields name zone pass).map fieldText) := by
    simp [adminFields, fieldText, List.intercalate, List.intersperse]
  rw [htext]
  refine loginFields_intercalate ?_ ?_
  · show ["name".toList, "zone".toList, "pass".toList].Nodup ∧
      ∀ key ∈ ["name".toList, "zone".toList, "pass".toList], key ≠ [] ∧ '=' ∉ key ∧ ';' ∉ key
    decide
  · simp only [adminFields, List.forall_mem_cons, List.not_mem_nil, false_implies, implies_true,
      and_true]
    exact ⟨hencoded, hzone, hpass⟩

section Claims

variable {num : NumberLib} {hmac : Str → Str → Str} {token : DecodedJwt}

theorem Issued.claim (h : Issued num hmac secret name minutes issued pass token) (claim : Str) :
    token.payloadClaim claim = (adminClaims name minutes issued).lookup claim := by
  rw [DecodedJwt.payloadClaim, h.payload]

theorem Issued.iatClaim (h : Issued num hmac secret name minutes issued pass token) :
    token.payloadClaim "iat".toList = some (.integer issued) := by
  rw [h.claim]
  rfl

theorem Issued.expClaim (h : Issued num hmac secret name minutes issued pass token) :
    token.payloadClaim "exp".toList = some (.integer (issued + minutes * 60)) := by
  rw [h.claim]
  rfl

theorem Issued.rolesClaim (h : Issued num hmac secret name minutes issued pass token) :
    token.payloadClaim "roles".toList = some (.array (["chat_admin".toList].map .string)) := by
  rw [h.claim]
  rfl

theorem Issued.nbfPasses (h : Issued num hmac secret name minutes issued pass token) (now : Date) :
    NbfPasses token now := by
  intro claim hnbf
  rw [h.claim] at hnbf
  cases hnbf

/-- A frame with such a token and its name is an administrator's in the time of the token. -/
theorem Issued.loginClaims (h : Issued num hmac secret name minutes issued pass token)
    {fields : List (Str × Str)} (hname : fields.lookup "name".toList = some (encodeStr name))
    (hpass : fields.lookup "pass".toList = some pass)
    (hrange : 0 ≤ issued ∧ issued + minutes * 60 ≤ maxSeconds) {now : Date}
    (hissued : (issued - jwtTolerance) * 1000000000 ≤ now)
    (hexpired : now < (issued + minutes * 60 + jwtTolerance) * 1000000000) :
    LoginClaims (jwtLib num hmac) (encodeStr secret) now fields
      { isAdmin := true, expiresAt := (issued + minutes * 60) * 1000000000,
        characterName := encodeStr name, zone := (fields.lookup "zone".toList).getD [] }
      token pass issued (issued + minutes * 60) where
  name := hname
  nonempty := encodeStr_ne_nil h.hasName.1
  passField := hpass
  passNonempty := h.text.1
  vouched := {
    decoded := h.decoded
    alg := h.alg
    signature := h.signed
    iss := by rw [h.claim]; rfl
    aud := Or.inl (by rw [h.claim]; rfl)
    iatClaim := h.iatClaim
    expClaim := h.expClaim
    range := ⟨hrange.1, by have := h.validity; omega, hrange.2⟩
    issued := hissued
    notExpired := hexpired }
  signed := by rw [h.claim]; rfl
  roles := Or.inr ⟨["chat_admin".toList], h.rolesClaim, iff_of_true rfl List.mem_cons_self⟩
  expiry := rfl
  zone := rfl

end Claims

include hhmac hclock in
/-- **A login with a token of the tool is accepted as an administrator's in the time of the token,
and at no other time**, with the tolerance of the server at both ends. -/
theorem adminToken_accepted_iff
    (htoken : generateAdminToken repr hmac secret name minutes issued = .ok pass) {zone : Str}
    (hzone : ';' ∉ zone) (now : Date) (login : AuthenticatedLogin) :
    verifyLogin (jwtLib num hmac) (adminLogin name zone pass) (encodeStr secret) now = .ok login ↔
      (0 ≤ issued ∧ issued + minutes * 60 ≤ maxSeconds) ∧
      (issued - jwtTolerance) * 1000000000 ≤ now ∧
      now < (issued + minutes * 60 + jwtTolerance) * 1000000000 ∧
      login = { isAdmin := true, expiresAt := (issued + minutes * 60) * 1000000000,
                characterName := encodeStr name, zone := zone } := by
  obtain ⟨token, h⟩ : ∃ token, Issued num hmac secret name minutes issued pass token :=
    exists_issued hhmac hclock htoken
  have hfields := loginFields_adminLogin h.hasName.2 hzone
    (notMem_of_compact h.text.2 (by decide))
  rw [verifyLogin_iff]
  constructor
  · rintro ⟨token', ⟨-, body, fields, hbody, hfields', pass', iat, exp, hclaims⟩, -⟩
    obtain rfl := List.append_cancel_left hbody
    have hlookup (key : Str) : fields.lookup key = (adminFields name zone pass).lookup key :=
      hfields'.lookup_unique hfields key
    obtain rfl : pass = pass' := Option.some.inj ((hlookup "pass".toList).symm.trans hclaims.passField)
    have hdecoded := hclaims.vouched.decoded
    obtain rfl : token = token' := Option.some.inj (h.decoded.symm.trans hdecoded)
    obtain rfl : issued = iat := by
      have := h.iatClaim.symm.trans hclaims.vouched.iatClaim
      injection this with this
      injection this
    obtain rfl : issued + minutes * 60 = exp := by
      have := h.expClaim.symm.trans hclaims.vouched.expClaim
      injection this with this
      injection this
    obtain ⟨hlow, -, hhigh⟩ := hclaims.vouched.range
    refine ⟨⟨hlow, hhigh⟩, hclaims.vouched.issued, hclaims.vouched.notExpired, ?_⟩
    have hcharacter : encodeStr name = login.characterName :=
      Option.some.inj ((hlookup "name".toList).symm.trans hclaims.name)
    have hloginZone : login.zone = zone := by
      rw [hclaims.zone, hlookup]
      rfl
    have hadmin : login.isAdmin = true := by
      rcases hclaims.roles with ⟨hnone, -⟩ | ⟨roles, hsome, hiff⟩
      · rw [h.rolesClaim] at hnone
        cases hnone
      · have hequal := Json.array.inj (Option.some.inj (h.rolesClaim.symm.trans hsome))
        have hroles : ["chat_admin".toList] = roles :=
          List.map_injective_iff.mpr (fun _ _ h => Json.string.inj h) hequal
        exact hiff.mpr (hroles ▸ List.mem_cons_self)
    have hexpiry := hclaims.expiry
    obtain ⟨isAdmin, expiresAt, characterName, loginZone⟩ := login
    simp only at hcharacter hloginZone hadmin hexpiry
    rw [← hcharacter, hloginZone, hadmin, hexpiry]
  · rintro ⟨hrange, hissued, hexpired, rfl⟩
    exact ⟨token, ⟨encodeStr_ne_nil h.hasSecret, _, adminFields name zone pass, rfl, hfields, pass,
      issued, issued + minutes * 60, h.loginClaims rfl rfl hrange hissued hexpired⟩,
      h.nbfPasses now⟩

end Issue

/-! A token for `ChatAdmin`, fifteen minutes from its time, under the secret `test-secret-ä`. -/

def sampleMessage : Str :=
  ("eyJhbGciOiJIUzI1NiIsInR5cCI6IkpXVCJ9.eyJpc3MiOiJkYXJhLWdhbWUtc2VydmVyIiwiYXVkIjoiZGFyYS1jaGF0" ++
    "IiwiY2hhcmFjdGVyTmFtZSI6IkNoYXRBZG1pbiIsImlhdCI6MTc5MjMxMDQwMCwiZXhwIjoxNzkyMzExMzAwLCJyb2xl" ++
    "cyI6WyJjaGF0X2FkbWluIl19").toList

/-- HMAC with SHA-256 on this message. -/
def sampleHmac (key data : Str) : Str :=
  if key = encodeStr "test-secret-ä".toList ∧ data = sampleMessage then
    [125, 160, 161, 169, 154, 80, 228, 54, 151, 71, 239, 80, 199, 238, 180, 205, 116, 221, 45, 169,
      177, 188, 94, 61, 205, 232, 214, 36, 83, 42, 249, 217].map Char.ofNat
  else []

theorem sampleHmac_bytes : ∀ key data, ∀ c ∈ sampleHmac key data, c.toNat < 256 := by
  intro key data c hc
  unfold sampleHmac at hc
  split at hc
  · obtain ⟨n, hn, rfl⟩ := List.mem_map.mp hc
    have hlt : ∀ n ∈ [125, 160, 161, 169, 154, 80, 228, 54, 151, 71, 239, 80, 199, 238, 180, 205,
        116, 221, 45, 169, 177, 188, 94, 61, 205, 232, 214, 36, 83, 42, 249, 217], n < 256 := by
      decide
    rw [Base64.toNat_ofNat (hlt n hn)]
    exact hlt n hn
  · cases hc

/-- The library without doubles, which no token of the tool has. -/
def wholeNumbers : NumberLib := ⟨fun _ => [], fun _ => none⟩

theorem generateAdminToken_sample :
    generateAdminToken (fun _ => []) sampleHmac "test-secret-ä".toList "ChatAdmin".toList 15
        1792310400 =
      .ok (sampleMessage ++ ".faChqZpQ5DaXR-9Qx-60zXTdLamxvF49zejWJFMq-dk".toList) := by
  decide +kernel

theorem adminToken_accepted_sample :
    verifyLogin (jwtLib wholeNumbers sampleHmac)
        (adminLogin "ChatAdmin".toList "Dungeon".toList
          (sampleMessage ++ ".faChqZpQ5DaXR-9Qx-60zXTdLamxvF49zejWJFMq-dk".toList))
        (encodeStr "test-secret-ä".toList) 1792310400000000000 =
      .ok { isAdmin := true, expiresAt := 1792311300000000000,
            characterName := "ChatAdmin".toList, zone := "Dungeon".toList } :=
  (adminToken_accepted_iff sampleHmac_bytes (by decide) generateAdminToken_sample (by decide)
    1792310400000000000 _).mpr ⟨by decide, by decide, by decide, by rfl⟩

end AdminToken

end DaraChat
