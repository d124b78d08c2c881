import DaraChat.Basic.Str
import Mathlib.Data.List.AList
import Mathlib.Data.Rat.Floor

set_option autoImplicit false

/-! # Login (`JwtAuth.h`)

`verifyLogin` reads the login frame `connect:key=value;...`, checks the token in its `pass`
field and returns the login or the reason it is rejected. The JSON claims of a token and the
accessors of the vendored `jwt-cpp` that `VerifyLogin` calls are modelled here; what is below
them (base64, the JSON text, OpenSSL's HMAC) is the parameter `JwtLib`.

An exception thrown inside the `try` block is a rejection with the current `stage`.
-/

namespace DaraChat

/-! ## Time -/

/-- A `std::chrono::system_clock` time point, in nanoseconds since the epoch (`int64_t`). -/
abbrev Date := Int

/-- Arithmetic on time points wraps at 64 bits. -/
def wrapDate (x : Int) : Date := Int.bmod x (2 ^ 64)

/-- `jwt::date(std::chrono::seconds(s))`. -/
def dateOfSeconds (s : Int) : Date := wrapDate (s * 1000000000)

/-- `JwtTolerance`, in seconds. -/
def jwtTolerance : Int := 30

/-- The same in ticks of the clock. -/
def toleranceTicks : Int := jwtTolerance * 1000000000

/-- `maxSeconds`: the seconds of the largest time point, less the tolerance. -/
def maxSeconds : Int := (2 ^ 63 - 1) / 1000000000 - jwtTolerance

/-! ## JSON claims -/

/-- `picojson::value` with 64-bit integers. A `number` is a finite double. -/
inductive Json
  | null
  | boolean (b : Bool)
  | integer (i : Int)
  | number (x : ℚ)
  | string (s : Str)
  | array (elements : List Json)
  | object (fields : List (Str × Json))

namespace Json

/-- `as_integer`; `none` is the `std::bad_cast`. -/
def asInteger : Json → Option Int
  | .integer i => some i
  | _ => none

/-- `as_string`. -/
def asString : Json → Option Str
  | .string s => some s
  | _ => none

/-- `as_array`. -/
def asArray : Json → Option (List Json)
  | .array elements => some elements
  | _ => none

/-- `std::llround`: halves away from zero; out of range the result is the smallest integer. -/
def llround (x : ℚ) : Int :=
  let r := if 0 ≤ x then (x + 1 / 2).floor else (x - 1 / 2).ceil
  if -(2 ^ 63) ≤ r ∧ r < 2 ^ 63 then r else -(2 ^ 63)

/-- `basic_claim::as_date`. -/
def asDate : Json → Option Date
  | .number x => some (dateOfSeconds (llround x))
  | .integer i => some (dateOfSeconds i)
  | _ => none

end Json

/-- `jwt::decoded_jwt`: the claims of header and payload and the parts that are signed. -/
structure DecodedJwt where
  header : List (Str × Json)
  payload : List (Str × Json)
  headerBase64 : Str
  payloadBase64 : Str
  signature : Str

/-- What is below the claims: `jwt::decode` (`none` when it throws) and the HS256 check of a
signature over some data under a secret. -/
structure JwtLib where
  decode : Str → Option DecodedJwt
  hs256Verify : Str → Str → Str → Bool

namespace DecodedJwt

variable (token : DecodedJwt)

/-- `get_payload_claim`; `none` is `claim_not_present_exception`. -/
def payloadClaim (name : Str) : Option Json := token.payload.lookup name

/-- `get_algorithm`. -/
def algorithm : Option Str := (token.header.lookup "alg".toList).bind Json.asString

/-- `get_issuer`. -/
def issuer : Option Str := (token.payloadClaim "iss".toList).bind Json.asString

/-- `get_audience`: a string stands for the set of that string. -/
def audience : Option (List Str) :=
  match token.payloadClaim "aud".toList with
  | some (.string s) => some [s]
  | some (.array elements) => elements.mapM Json.asString
  | _ => none

/-- `get_expires_at`. -/
def expiresAt : Option Date := (token.payloadClaim "exp".toList).bind Json.asDate

/-- `get_issued_at`. -/
def issuedAt : Option Date := (token.payloadClaim "iat".toList).bind Json.asDate

end DecodedJwt

/-! ## `jwt::verify` -/

/-- The errors of `jwt::verify` that `VerifyLogin` tells apart. -/
inductive VerifyError
  | signature
  | tokenExpired
  | other
  deriving DecidableEq

/-- The verifier's three time checks; a missing claim passes, `none` is an exception. -/
def verifyTimes (now : Date) (token : DecodedJwt) : Option Bool := do
  let check (name : Str) (ok : Date → Bool) : Option Bool :=
    match token.payloadClaim name with
    | none => some true
    | some claim => claim.asDate.map ok
  let exp ← check "exp".toList fun exp => ¬ now > wrapDate (exp + toleranceTicks)
  let iat ← check "iat".toList fun iat => ¬ now < wrapDate (iat - toleranceTicks)
  let nbf ← check "nbf".toList fun nbf => ¬ now < wrapDate (nbf - toleranceTicks)
  return exp && iat && nbf

/-- `verifier::verify` as `VerifyLogin` configures it. The verifier goes through its claim
checks in the order of a hash table; the time checks stand first here. -/
def jwtVerify (lib : JwtLib) (secret : Str) (now : Date) (token : DecodedJwt) :
    Option (Option VerifyError) :=
  let data := token.headerBase64 ++ ".".toList ++ token.payloadBase64
  match token.algorithm with
  | none => none
  | some alg =>
      if alg ≠ "HS256".toList then some (some .other)
      else if !lib.hs256Verify secret data token.signature then some (some .signature)
      else
        match verifyTimes now token with
        | none => none
        | some false => some (some .tokenExpired)
        | some true =>
            if token.issuer ≠ some "dara-game-server".toList then some (some .other)
            else if (token.audience.map fun aud => decide ("dara-chat".toList ∈ aud)) ≠ some true
            then some (some .other)
            else some none

/-! ## `VerifyLogin` -/

/-- `struct AuthenticatedLogin`. -/
structure AuthenticatedLogin where
  isAdmin : Bool := false
  expiresAt : Date := 0
  characterName : Str
  zone : Str
  deriving DecidableEq, Repr

/-- `std::map<std::string, std::string>`. -/
abbrev FieldMap := AList fun _ : Str => Str

/-- The field loop: each part is `key=value` with a non-empty key not seen before. -/
def parseFields (fields : FieldMap) : List Str → Option FieldMap
  | [] => some fields
  | part :: parts =>
      match find part '=' 0 with
      | none => none
      | some pos =>
          if pos = 0 ∨ (fields.lookup (part.take pos)).isSome then none
          else parseFields (fields.insert (part.take pos) (part.drop (pos + 1))) parts

/-- An exception is a rejection with the current stage. -/
def orReject {α : Type} (stage : Str) : Option α → Except Str α
  | some a => .ok a
  | none => .error stage

/-- The checks of `iat` and `exp` that come before all others. -/
def checkNumericDate (token : DecodedJwt) (claim : Str) : Except Str Unit := do
  let stage := "Missing or invalid JWT ".toList ++ claim ++ "; expected integer Unix seconds".toList
  let value ← orReject stage ((token.payloadClaim claim).bind Json.asInteger)
  if value < 0 ∨ value > maxSeconds then throw (stage ++ " within supported range".toList)

/-- Everything `VerifyLogin` asks of the token before it looks at the name in it. -/
def checkToken (lib : JwtLib) (secret : Str) (now : Date) (pass : Str) :
    Except Str (DecodedJwt × Date) := do
  let token ← orReject
    "Malformed JWT; expected a compact header.payload.signature token".toList (lib.decode pass)
  let alg ← orReject
    "Missing or invalid JWT alg header; HS256 is required".toList token.algorithm
  if alg ≠ "HS256".toList then throw "JWT algorithm rejected; only HS256 is allowed".toList
  checkNumericDate token "iat".toList
  checkNumericDate token "exp".toList
  let issStage := "Missing or invalid JWT iss; expected dara-game-server".toList
  let iss ← orReject issStage token.issuer
  if iss ≠ "dara-game-server".toList then throw issStage
  let audStage := "Missing or invalid JWT aud; expected dara-chat".toList
  let aud ← orReject audStage token.audience
  if "dara-chat".toList ∉ aud then throw audStage
  let exp ← orReject audStage token.expiresAt
  let iat ← orReject audStage token.issuedAt
  if exp ≤ iat then throw "JWT exp must be later than iat".toList
  if now ≥ wrapDate (exp + toleranceTicks) then
    throw "JWT expired; obtain a new token from Unreal (30-second tolerance)".toList
  if now < wrapDate (iat - toleranceTicks) then
    throw ("JWT iat is in the future; check game/chat server clocks (30-second tolerance)").toList
  let stage := "JWT verification failed; check signature and optional nbf claim".toList
  let error ← orReject stage (jwtVerify lib secret now token)
  match error with
  | none => return (token, exp)
  | some .signature =>
      throw ("JWT signature verification failed; check that Unreal and chat use the same raw " ++
        "UTF-8 secret and token is unchanged").toList
  | some .tokenExpired =>
      throw "JWT timestamp validation failed; check optional nbf and server clocks".toList
  | some .other => throw stage

/-- The name in the token, which must be the name in the login frame. -/
def signedName (token : DecodedJwt) (loginName : Str) : Except Str Str := do
  let stage := "Missing or invalid JWT characterName; expected a nonempty string".toList
  let name ← orReject stage ((token.payloadClaim "characterName".toList).bind Json.asString)
  if name = [] then throw stage
  if loginName ≠ name then
    throw ("Login name does not exactly match verified JWT characterName (case-sensitive)").toList
  return name

/-- Whether `chat_admin` is among the roles of the token. -/
def signedAdmin (token : DecodedJwt) : Except Str Bool :=
  match token.payloadClaim "roles".toList with
  | none => .ok false
  | some roles => do
      let stage := "Invalid JWT roles; expected an array of strings".toList
      let roles ← orReject stage roles.asArray
      let roles ← orReject stage (roles.mapM Json.asString)
      return decide ("chat_admin".toList ∈ roles)

/-- The two fields a login must have, `name` and `pass`. -/
def requiredFields (fields : FieldMap) : Except Str (Str × Str) :=
  let loginName := (fields.lookup "name".toList).getD []
  let pass := (fields.lookup "pass".toList).getD []
  if loginName = [] then .error "Missing or empty login name".toList
  else if pass = [] then .error "Missing or empty JWT in pass field".toList
  else .ok (loginName, pass)

/-- `dara::VerifyLogin`; the error is the `failureReason`. -/
def verifyLogin (lib : JwtLib) (message secret : Str) (now : Date) :
    Except Str AuthenticatedLogin :=
  if secret = [] then .error "Server JWT secret is missing or empty".toList
  else if !startsWith message "connect:".toList then
    .error "Expected connect: login text frame".toList
  else do
    let fields ← orReject
      "Malformed login field or duplicate field; expected key=value separated by semicolons".toList
      (parseFields ∅ (getlines ';' [] (message.drop 8)))
    let (loginName, pass) ← requiredFields fields
    let (token, exp) ← checkToken lib secret now pass
    let name ← signedName token loginName
    let isAdmin ← signedAdmin token
    return { isAdmin := isAdmin, expiresAt := exp, characterName := name,
             zone := (fields.lookup "zone".toList).getD [] }

/-! ## What a login guarantees -/

theorem signedName_ne_nil {token : DecodedJwt} {loginName name : Str}
    (h : signedName token loginName = .ok name) : name ≠ [] := by
  obtain ⟨name', -, h⟩ := bind_eq_ok.mp h
  by_cases hname : name' = []
  · simp [hname, bind, Except.bind, throw, throwThe, MonadExceptOf.throw] at h
  · by_cases hlogin : loginName = name'
    · simp [hname, hlogin, pure, Except.pure] at h
      exact h ▸ hname
    · simp [hname, hlogin, bind, Except.bind, throw, throwThe, MonadExceptOf.throw] at h

/-- **The name of a login is the signed name, and not empty.** -/
theorem verifyLogin_name_ne_nil {lib : JwtLib} {message secret : Str} {now : Date}
    {login : AuthenticatedLogin} (h : verifyLogin lib message secret now = .ok login) :
    login.characterName ≠ [] := by
  unfold verifyLogin at h
  by_cases hsecret : secret = []
  · rw [if_pos hsecret] at h
    cases h
  by_cases hstart : (!startsWith message "connect:".toList) = true
  · rw [if_neg hsecret, if_pos hstart] at h
    cases h
  rw [if_neg hsecret, if_neg hstart] at h
  obtain ⟨fields, -, h⟩ := bind_eq_ok.mp h
  obtain ⟨⟨loginName, pass⟩, -, h⟩ := bind_eq_ok.mp h
  obtain ⟨⟨token, exp⟩, -, h⟩ := bind_eq_ok.mp h
  obtain ⟨name, hname, h⟩ := bind_eq_ok.mp h
  obtain ⟨isAdmin, -, h⟩ := bind_eq_ok.mp h
  cases h
  exact signedName_ne_nil hname

end DaraChat
