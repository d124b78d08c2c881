import DaraChat.Auth.Fields
import Mathlib.Tactic.Linarith

set_option autoImplicit false

/-! # Which logins are accepted

The requirements of the protocol on a login frame and its token, stated on their own: the frame
is a list of fields (`LoginFields`), the token is vouched for (`Vouched`), and the time of `nbf`
has come (`NotBefore`, on exact numbers). `verifyLogin_iff` says what the code accepts; it
differs from the requirements in the arithmetic on `nbf` only, which is on 64-bit ticks of a
rounded number of seconds (`verifyLogin_specified_iff`).
-/

namespace DaraChat

/-! ## Computations that may reject -/

theorem orReject_eq_ok {α : Type} {stage : Str} {x : Option α} {a : α} :
    orReject stage x = .ok a ↔ x = some a := by
  cases x with
  | none => simp [orReject]
  | some b => simp [orReject]

/-- A check that throws, before the rest of the computation. -/
theorem throw_bind_eq_ok {ε α β : Type} {c : Prop} [Decidable c] {e : ε} {f : α → Except ε β}
    {x : Except ε β} {b : β} :
    (if c then (throw e : Except ε α) >>= f else x) = .ok b ↔ ¬ c ∧ x = .ok b := by
  by_cases h : c
  · simp [h, throw, throwThe, MonadExceptOf.throw, bind, Except.bind]
  · simp [h]

/-- The same when the check comes last. -/
theorem throw_eq_ok {ε β : Type} {c : Prop} [Decidable c] {e : ε} {x : Except ε β} {b : β} :
    (if c then throw e else x) = .ok b ↔ ¬ c ∧ x = .ok b := by
  by_cases h : c
  · simp [h, throw, throwThe, MonadExceptOf.throw]
  · simp [h]

/-! ## Dates -/

/-- A claim as a number. -/
def Json.numeric : Json → Option ℚ
  | .integer i => some i
  | .number x => some x
  | _ => none

/-- The whole number of seconds the library takes a claim for. -/
def Json.wholeSeconds : Json → Option Int
  | .number x => some (llround x)
  | .integer i => some i
  | _ => none

theorem asDate_eq (claim : Json) : claim.asDate = claim.wholeSeconds.map dateOfSeconds := by
  cases claim <;> rfl

theorem maxSeconds_eq : maxSeconds = 9223372006 := by decide

/-- Nothing wraps in the range of an `int64_t`. -/
theorem wrapDate_eq {x : Int} (hlow : -9223372036854775808 ≤ x) (hhigh : x < 9223372036854775808) :
    wrapDate x = x :=
  Int.bmod_eq_of_le (by omega) (by omega)

/-- Wrapping once at the end is enough. -/
theorem wrapDate_sub (x y : Int) : wrapDate (wrapDate x - y) = wrapDate (x - y) :=
  Int.bmod_sub_bmod

section InRange

variable {seconds : Int} (hlow : 0 ≤ seconds) (hhigh : seconds ≤ maxSeconds)
include hlow hhigh

/-- The supported range is one in which nothing wraps. -/
theorem dateOfSeconds_eq : dateOfSeconds seconds = seconds * 1000000000 := by
  rw [maxSeconds_eq] at hhigh
  exact wrapDate_eq (by omega) (by omega)

theorem date_add_tolerance :
    wrapDate (dateOfSeconds seconds + toleranceTicks) = (seconds + jwtTolerance) * 1000000000 := by
  rw [dateOfSeconds_eq hlow hhigh]
  rw [maxSeconds_eq] at hhigh
  unfold toleranceTicks jwtTolerance
  rw [wrapDate_eq (by omega) (by omega)]
  ring

theorem date_sub_tolerance :
    wrapDate (dateOfSeconds seconds - toleranceTicks) = (seconds - jwtTolerance) * 1000000000 := by
  rw [dateOfSeconds_eq hlow hhigh]
  rw [maxSeconds_eq] at hhigh
  unfold toleranceTicks jwtTolerance
  rw [wrapDate_eq (by omega) (by omega)]
  ring

end InRange

/-! ## The token -/

/-- What the protocol asks of the token in `pass`, the claim `nbf` apart; `exp` is its expiry in
seconds. -/
structure Vouched (lib : JwtLib) (secret pass : Str) (now : Date) (token : DecodedJwt)
    (iat exp : Int) : Prop where
  decoded : lib.decode pass = some token
  alg : token.header.lookup "alg".toList = some (.string "HS256".toList)
  signature : lib.hs256Verify secret
    (token.headerBase64 ++ ".".toList ++ token.payloadBase64) token.signature = true
  iss : token.payloadClaim "iss".toList = some (.string "dara-game-server".toList)
  aud : token.payloadClaim "aud".toList = some (.string "dara-chat".toList) ∨
    ∃ names : List Str, token.payloadClaim "aud".toList = some (.array (names.map .string)) ∧
      "dara-chat".toList ∈ names
  iatClaim : token.payloadClaim "iat".toList = some (.integer iat)
  expClaim : token.payloadClaim "exp".toList = some (.integer exp)
  range : 0 ≤ iat ∧ iat < exp ∧ exp ≤ maxSeconds
  issued : (iat - jwtTolerance) * 1000000000 ≤ now
  notExpired : now < (exp + jwtTolerance) * 1000000000

/-- The time of `nbf` has come, in exact numbers. -/
def NotBefore (token : DecodedJwt) (now : Date) : Prop :=
  ∀ claim, token.payloadClaim "nbf".toList = some claim →
    ∃ seconds, claim.numeric = some seconds ∧
      (seconds - jwtTolerance) * 1000000000 ≤ (now : ℚ)

/-- The time of `nbf` has come for the verifier: in 64-bit ticks, and whole seconds. -/
def NbfPasses (token : DecodedJwt) (now : Date) : Prop :=
  ∀ claim, token.payloadClaim "nbf".toList = some claim →
    ∃ seconds, claim.wholeSeconds = some seconds ∧
      wrapDate ((seconds - jwtTolerance) * 1000000000) ≤ now

theorem asString_eq_some {claim : Json} {s : Str} : claim.asString = some s ↔ claim = .string s := by
  cases claim <;> simp [Json.asString]

theorem asInteger_eq_some {claim : Json} {i : Int} :
    claim.asInteger = some i ↔ claim = .integer i := by
  cases claim <;> simp [Json.asInteger]

theorem asArray_eq_some {claim : Json} {elements : List Json} :
    claim.asArray = some elements ↔ claim = .array elements := by
  cases claim <;> simp [Json.asArray]

theorem mapM_asString_iff {elements : List Json} {names : List Str} :
    elements.mapM Json.asString = some names ↔ elements = names.map .string := by
  induction elements generalizing names with
  | nil => simp [eq_comm]
  | cons element elements ih =>
      rw [List.mapM_cons]
      constructor
      · intro h
        obtain ⟨name, hname, h⟩ := Option.bind_eq_some_iff.mp h
        obtain ⟨names', hnames, h⟩ := Option.bind_eq_some_iff.mp h
        obtain rfl := Option.some.inj h
        rw [asString_eq_some.mp hname, ih.mp hnames]
        rfl
      · intro h
        obtain _ | ⟨name, names⟩ := names
        · cases h
        obtain ⟨rfl, rfl⟩ := List.cons.inj h
        rw [ih.mpr rfl]
        rfl

/-- A claim of the payload read by an accessor that accepts one constructor only. -/
theorem bind_eq_some_of {α : Type} {f : Json → Option α} {g : α → Json} {claim : Option Json}
    (hf : ∀ {json a}, f json = some a ↔ json = g a) {a : α} :
    claim.bind f = some a ↔ claim = some (g a) := by
  rw [Option.bind_eq_some_iff]
  constructor
  · rintro ⟨json, rfl, h⟩
    rw [hf.mp h]
  · rintro rfl
    exact ⟨g a, rfl, hf.mpr rfl⟩

theorem audience_iff (token : DecodedJwt) :
    (∃ aud, token.audience = some aud ∧ "dara-chat".toList ∈ aud) ↔
      token.payloadClaim "aud".toList = some (.string "dara-chat".toList) ∨
        ∃ names : List Str, token.payloadClaim "aud".toList = some (.array (names.map .string)) ∧
          "dara-chat".toList ∈ names := by
  unfold DecodedJwt.audience
  rcases token.payloadClaim "aud".toList with _ | claim
  · simp
  · cases claim with
    | string s => simp [eq_comm]
    | array elements => simp [mapM_asString_iff]
    | _ => simp

theorem checkNumericDate_iff (token : DecodedJwt) (claim : Str) :
    checkNumericDate token claim = .ok () ↔
      ∃ seconds, token.payloadClaim claim = some (.integer seconds) ∧
        0 ≤ seconds ∧ seconds ≤ maxSeconds := by
  simp only [checkNumericDate, bind_eq_ok, orReject_eq_ok, bind_eq_some_of asInteger_eq_some,
    throw_eq_ok, pure, Except.pure, and_true, not_or, not_lt, gt_iff_lt]

/-! ## What the verifier checks -/

/-- A time check of the verifier passes when the claim is missing or its date is fine. -/
def TimePasses (token : DecodedJwt) (name : Str) (ok : Date → Prop) : Prop :=
  ∀ claim, token.payloadClaim name = some claim → ∃ date, claim.asDate = some date ∧ ok date

theorem timeCheck_iff {token : DecodedJwt} {name : Str} {ok : Date → Bool} :
    (match token.payloadClaim name with
      | none => some true
      | some claim => claim.asDate.map ok) = some true ↔
      TimePasses token name fun date => ok date = true := by
  unfold TimePasses
  cases token.payloadClaim name with
  | none => simp
  | some claim => simp

theorem verifyTimes_iff {now : Date} {token : DecodedJwt} :
    verifyTimes now token = some true ↔
      TimePasses token "exp".toList (fun exp => now ≤ wrapDate (exp + toleranceTicks)) ∧
      TimePasses token "iat".toList (fun iat => wrapDate (iat - toleranceTicks) ≤ now) ∧
      TimePasses token "nbf".toList (fun nbf => wrapDate (nbf - toleranceTicks) ≤ now) := by
  simp only [verifyTimes, Option.bind_eq_bind, Option.bind_eq_some_iff, Option.pure_def,
    Option.some.injEq, Bool.and_eq_true]
  constructor
  · rintro ⟨exp, hexp, iat, hiat, nbf, hnbf, ⟨rfl, rfl⟩, rfl⟩
    refine ⟨?_, ?_, ?_⟩
    · simpa using timeCheck_iff.mp hexp
    · simpa using timeCheck_iff.mp hiat
    · simpa using timeCheck_iff.mp hnbf
  · rintro ⟨hexp, hiat, hnbf⟩
    refine ⟨true, timeCheck_iff.mpr ?_, true, timeCheck_iff.mpr ?_, true, timeCheck_iff.mpr ?_,
      ⟨rfl, rfl⟩, rfl⟩
    · simpa using hexp
    · simpa using hiat
    · simpa using hnbf

/-- The verifier's check of `nbf`, in seconds. -/
theorem nbfPasses_iff {token : DecodedJwt} {now : Date} :
    TimePasses token "nbf".toList (fun nbf => wrapDate (nbf - toleranceTicks) ≤ now) ↔
      NbfPasses token now := by
  have hticks (seconds : Int) : wrapDate (dateOfSeconds seconds - toleranceTicks)
      = wrapDate ((seconds - jwtTolerance) * 1000000000) := by
    rw [dateOfSeconds, wrapDate_sub, toleranceTicks, Int.sub_mul]
  unfold TimePasses NbfPasses
  refine forall_congr' fun claim => imp_congr_right fun _ => ?_
  rw [asDate_eq]
  constructor
  · rintro ⟨date, hdate, hle⟩
    obtain ⟨seconds, hseconds, rfl⟩ := Option.map_eq_some_iff.mp hdate
    exact ⟨seconds, hseconds, (hticks seconds).symm.trans_le hle⟩
  · rintro ⟨seconds, hseconds, hle⟩
    exact ⟨dateOfSeconds seconds, by rw [hseconds]; rfl, (hticks seconds).trans_le hle⟩

/-- The verifier reports no error when everything it checks is right. -/
theorem jwtVerify_iff {lib : JwtLib} {secret : Str} {now : Date} {token : DecodedJwt} :
    jwtVerify lib secret now token = some none ↔
      token.algorithm = some "HS256".toList ∧
      lib.hs256Verify secret (token.headerBase64 ++ ".".toList ++ token.payloadBase64)
        token.signature = true ∧
      verifyTimes now token = some true ∧
      token.issuer = some "dara-game-server".toList ∧
      ∃ aud, token.audience = some aud ∧ "dara-chat".toList ∈ aud := by
  unfold jwtVerify
  generalize "HS256".toList = hs256, "dara-game-server".toList = server, "dara-chat".toList = chat,
    token.headerBase64 ++ ".".toList ++ token.payloadBase64 = data
  -- the checks in the order of `verifier::verify`: each case split passes one of them
  rcases token.algorithm with _ | alg
  · simp
  by_cases halg : alg = hs256
  swap
  · simp [halg]
  by_cases hsig : lib.hs256Verify secret data token.signature = true
  swap
  · simp [halg, hsig]
  rcases verifyTimes now token with _ | _ | _
  · simp [halg, hsig]
  · simp [halg, hsig]
  by_cases hiss : token.issuer = some server
  swap
  · simp [halg, hsig, hiss]
  rcases token.audience with _ | aud
  · simp [halg, hsig, hiss]
  · by_cases haud : chat ∈ aud
    · simp [halg, hsig, hiss, haud]
    · simp [halg, hsig, hiss, haud]

theorem algorithm_iff {token : DecodedJwt} {alg : Str} :
    token.algorithm = some alg ↔ token.header.lookup "alg".toList = some (.string alg) :=
  bind_eq_some_of asString_eq_some

theorem issuer_iff {token : DecodedJwt} {iss : Str} :
    token.issuer = some iss ↔ token.payloadClaim "iss".toList = some (.string iss) :=
  bind_eq_some_of asString_eq_some

/-- A date claim that is an integer is that many seconds. -/
theorem timePasses_integer {token : DecodedJwt} {name : Str} {seconds : Int} {ok : Date → Prop}
    (h : token.payloadClaim name = some (.integer seconds)) :
    TimePasses token name ok ↔ ok (dateOfSeconds seconds) := by
  unfold TimePasses
  rw [h]
  constructor
  · intro hall
    obtain ⟨date, hdate, hok⟩ := hall _ rfl
    obtain rfl := Option.some.inj hdate
    exact hok
  · rintro hok claim hclaim
    obtain rfl := Option.some.inj hclaim
    exact ⟨_, rfl, hok⟩

/-- **What is asked of the token**: that it is vouched for, and the verifier's check of `nbf`. -/
theorem checkToken_iff {lib : JwtLib} {secret pass : Str} {now : Date} {token : DecodedJwt}
    {expDate : Date} :
    checkToken lib secret now pass = .ok (token, expDate) ↔
      ∃ iat exp, Vouched lib secret pass now token iat exp ∧ NbfPasses token now ∧
        expDate = exp * 1000000000 := by
  unfold checkToken
  simp only [↓throw_bind_eq_ok, ↓bind_eq_ok, orReject_eq_ok, not_not, ne_eq, not_le, not_lt,
    ge_iff_le]
  constructor
  · rintro ⟨token', hdecode, _, halg, rfl, _, hiat, _, hexp, _, hiss, rfl, aud, haud, hmem,
      expDate', hexpDate, iatDate, hiatDate, hlt, hexpired, hissued, error, hverify, hlast⟩
    -- the last test is on the error code of `verify`, and only `none` passes it
    have herror : error = none ∧ token' = token ∧ expDate' = expDate := by
      rcases error with _ | _ | _ | _
      · exact ⟨rfl, Prod.mk.inj (Except.ok.inj hlast)⟩
      all_goals cases hlast
    obtain ⟨rfl, rfl, rfl⟩ := herror
    obtain ⟨iat, hiat, hiat0, hiatMax⟩ := (checkNumericDate_iff _ _).mp hiat
    obtain ⟨exp, hexp, hexp0, hexpMax⟩ := (checkNumericDate_iff _ _).mp hexp
    obtain rfl : dateOfSeconds exp = expDate' := by
      rw [DecodedJwt.expiresAt, hexp] at hexpDate
      exact Option.some.inj hexpDate
    obtain rfl : dateOfSeconds iat = iatDate := by
      rw [DecodedJwt.issuedAt, hiat] at hiatDate
      exact Option.some.inj hiatDate
    obtain ⟨-, hsig, htimes, -, -⟩ := jwtVerify_iff.mp hverify
    -- within the supported range the tick arithmetic does not wrap
    rw [date_add_tolerance hexp0 hexpMax] at hexpired
    rw [date_sub_tolerance hiat0 hiatMax] at hissued
    rw [dateOfSeconds_eq hexp0 hexpMax, dateOfSeconds_eq hiat0 hiatMax] at hlt
    refine ⟨iat, exp, ⟨hdecode, algorithm_iff.mp halg, hsig, issuer_iff.mp hiss,
      (audience_iff _).mp ⟨aud, haud, hmem⟩, hiat, hexp, ⟨hiat0, ?_, hexpMax⟩, hissued, hexpired⟩,
      nbfPasses_iff.mp (verifyTimes_iff.mp htimes).2.2, dateOfSeconds_eq hexp0 hexpMax⟩
    exact lt_of_mul_lt_mul_right hlt (by decide)
  · rintro ⟨iat, exp, h, hnbf, rfl⟩
    obtain ⟨hiat0, hlt, hexpMax⟩ := h.range
    have hexp0 : 0 ≤ exp := hiat0.trans hlt.le
    have hiatMax : iat ≤ maxSeconds := hlt.le.trans hexpMax
    obtain ⟨aud, haud, hmem⟩ := (audience_iff token).mpr h.aud
    -- `verify` tests `iat` and `exp` again, the latter with `≤` in place of `<`
    have hverify : jwtVerify lib secret now token = some none := by
      refine jwtVerify_iff.mpr ⟨algorithm_iff.mpr h.alg, h.signature,
        verifyTimes_iff.mpr ⟨?_, ?_, nbfPasses_iff.mpr hnbf⟩, issuer_iff.mpr h.iss, aud, haud, hmem⟩
      · rw [timePasses_integer h.expClaim, date_add_tolerance hexp0 hexpMax]
        exact h.notExpired.le
      · rw [timePasses_integer h.iatClaim, date_sub_tolerance hiat0 hiatMax]
        exact h.issued
    refine ⟨token, h.decoded, _, algorithm_iff.mpr h.alg, rfl,
      (), (checkNumericDate_iff _ _).mpr ⟨iat, h.iatClaim, hiat0, hiatMax⟩,
      (), (checkNumericDate_iff _ _).mpr ⟨exp, h.expClaim, hexp0, hexpMax⟩,
      _, issuer_iff.mpr h.iss, rfl, aud, haud, hmem,
      exp * 1000000000, ?_, iat * 1000000000, ?_, ?_, ?_, ?_, none, hverify, rfl⟩
    · rw [DecodedJwt.expiresAt, h.expClaim, ← dateOfSeconds_eq hexp0 hexpMax]
      rfl
    · rw [DecodedJwt.issuedAt, h.iatClaim, ← dateOfSeconds_eq hiat0 hiatMax]
      rfl
    · exact mul_lt_mul_of_pos_right hlt (by decide)
    · rw [← dateOfSeconds_eq hexp0 hexpMax, date_add_tolerance hexp0 hexpMax]
      exact h.notExpired
    · rw [← dateOfSeconds_eq hiat0 hiatMax, date_sub_tolerance hiat0 hiatMax]
      exact h.issued

/-! ## The login -/

theorem requiredFields_iff {fields : FieldMap} {name pass : Str} :
    requiredFields fields = .ok (name, pass) ↔
      (fields.lookup "name".toList = some name ∧ name ≠ []) ∧
        fields.lookup "pass".toList = some pass ∧ pass ≠ [] := by
  -- a missing field counts as an empty one
  have hgetD {field : Option Str} {text : Str} :
      (field.getD [] ≠ [] ∧ field.getD [] = text) ↔ field = some text ∧ text ≠ [] := by
    cases field with
    | none => simp
    | some value =>
        simp only [Option.getD_some, Option.some.injEq]
        constructor
        · rintro ⟨hne, rfl⟩
          exact ⟨rfl, hne⟩
        · rintro ⟨rfl, hne⟩
          exact ⟨hne, rfl⟩
  rw [← hgetD, ← hgetD]
  unfold requiredFields
  generalize (fields.lookup "name".toList).getD [] = name',
    (fields.lookup "pass".toList).getD [] = pass'
  by_cases hname : name' = []
  · simp [hname]
  by_cases hpass : pass' = []
  · simp [hname, hpass]
  · simp [hname, hpass]

theorem signedName_iff {token : DecodedJwt} {loginName name : Str} :
    signedName token loginName = .ok name ↔
      token.payloadClaim "characterName".toList = some (.string name) ∧ name ≠ [] ∧
        loginName = name := by
  unfold signedName
  simp only [↓throw_bind_eq_ok, ↓bind_eq_ok, orReject_eq_ok,
    bind_eq_some_of asString_eq_some, ne_eq, not_not, pure, Except.pure, Except.ok.injEq]
  constructor
  · rintro ⟨name', hclaim, hne, rfl, rfl⟩
    exact ⟨hclaim, hne, rfl⟩
  · rintro ⟨hclaim, hne, rfl⟩
    exact ⟨loginName, hclaim, hne, rfl, rfl⟩

theorem signedAdmin_iff {token : DecodedJwt} {isAdmin : Bool} :
    signedAdmin token = .ok isAdmin ↔
      token.payloadClaim "roles".toList = none ∧ isAdmin = false ∨
        ∃ roles : List Str, token.payloadClaim "roles".toList = some (.array (roles.map .string)) ∧
          (isAdmin = true ↔ "chat_admin".toList ∈ roles) := by
  unfold signedAdmin
  generalize "chat_admin".toList = chatAdmin
  rcases token.payloadClaim "roles".toList with _ | claim
  · simp [eq_comm]
  · simp only [bind_eq_ok, orReject_eq_ok, asArray_eq_some, mapM_asString_iff, pure, Except.pure,
      Except.ok.injEq, reduceCtorEq, false_and, false_or, Option.some.injEq]
    constructor
    · rintro ⟨elements, rfl, roles, rfl, rfl⟩
      exact ⟨roles, rfl, decide_eq_true_iff⟩
    · rintro ⟨roles, rfl, hadmin⟩
      exact ⟨_, rfl, roles, rfl, by rw [Bool.eq_iff_iff, decide_eq_true_iff, hadmin]⟩

/-- What the protocol asks of the fields of a frame and of the token in them, the claim `nbf`
apart, and the login they stand for. -/
structure LoginClaims (lib : JwtLib) (secret : Str) (now : Date) (fields : List (Str × Str))
    (login : AuthenticatedLogin) (token : DecodedJwt) (pass : Str) (iat exp : Int) : Prop where
  name : fields.lookup "name".toList = some login.characterName
  nonempty : login.characterName ≠ []
  passField : fields.lookup "pass".toList = some pass
  passNonempty : pass ≠ []
  vouched : Vouched lib secret pass now token iat exp
  signed : token.payloadClaim "characterName".toList = some (.string login.characterName)
  roles : token.payloadClaim "roles".toList = none ∧ login.isAdmin = false ∨
    ∃ roles : List Str, token.payloadClaim "roles".toList = some (.array (roles.map .string)) ∧
      (login.isAdmin = true ↔ "chat_admin".toList ∈ roles)
  expiry : login.expiresAt = exp * 1000000000
  zone : login.zone = (fields.lookup "zone".toList).getD []

/-- The message is a login frame that stands for `login`, but for the claim `nbf` of its token. -/
def Qualifies (lib : JwtLib) (message secret : Str) (now : Date) (login : AuthenticatedLogin)
    (token : DecodedJwt) : Prop :=
  secret ≠ [] ∧ ∃ body fields, message = "connect:".toList ++ body ∧ LoginFields body fields ∧
    ∃ pass iat exp, LoginClaims lib secret now fields login token pass iat exp

/-- **The logins the protocol specifies.** -/
def SpecifiedLogin (lib : JwtLib) (message secret : Str) (now : Date)
    (login : AuthenticatedLogin) : Prop :=
  ∃ token, Qualifies lib message secret now login token ∧ NotBefore token now

/-- **The logins the code accepts.** -/
theorem verifyLogin_iff {lib : JwtLib} {message secret : Str} {now : Date}
    {login : AuthenticatedLogin} :
    verifyLogin lib message secret now = .ok login ↔
      ∃ token, Qualifies lib message secret now login token ∧ NbfPasses token now := by
  unfold verifyLogin
  by_cases hsecret : secret = []
  · simp [Qualifies, hsecret]
  rw [if_neg hsecret]
  by_cases hstart : startsWith message "connect:".toList = true
  swap
  · rw [if_pos (by simpa using hstart)]
    constructor
    · intro h
      cases h
    · rintro ⟨_, ⟨-, body, _, rfl, -⟩, -⟩
      exact absurd (startsWith_iff.mpr (List.prefix_append _ _)) hstart
  -- past the two guards: the body of the message is what follows the eight letters of `connect:`
  obtain ⟨body, rfl⟩ := startsWith_iff.mp hstart
  rw [if_neg (by simpa using hstart)]
  have hbody : ("connect:".toList ++ body).drop 8 = body :=
    List.drop_left' (by decide)
  rw [hbody]
  simp only [bind_eq_ok, orReject_eq_ok, parseFields_getlines_iff, Prod.exists, requiredFields_iff,
    checkToken_iff, signedName_iff, signedAdmin_iff, pure, Except.pure, Except.ok.injEq]
  constructor
  · rintro ⟨m, ⟨fields, hfields, rfl⟩, name, pass, ⟨⟨hname, hne⟩, hpass, hpne⟩, token, expDate,
      ⟨iat, exp, hvouched, hnbf, rfl⟩, name', ⟨hsigned, -, rfl⟩, isAdmin, hroles, rfl⟩
    rw [hfields.lookup_eq] at hname hpass
    refine ⟨token, ⟨hsecret, body, fields, rfl, hfields, pass, iat, exp, ?_⟩, hnbf⟩
    exact ⟨hname, hne, hpass, hpne, hvouched, hsigned, hroles, rfl,
      congrArg (Option.getD · []) (hfields.lookup_eq _)⟩
  · rintro ⟨token, ⟨-, body', fields, hbody', hfields, pass, iat, exp, h⟩, hnbf⟩
    obtain rfl := List.append_cancel_left hbody'
    refine ⟨fieldMap ∅ fields, ⟨fields, hfields, rfl⟩, login.characterName, pass, ⟨⟨?_, h.nonempty⟩,
      ?_, h.passNonempty⟩, token, login.expiresAt, ⟨iat, exp, h.vouched, hnbf, h.expiry⟩,
      login.characterName, ⟨h.signed, h.nonempty, rfl⟩, login.isAdmin, h.roles, ?_⟩
    · rw [hfields.lookup_eq, h.name]
    · rw [hfields.lookup_eq, h.passField]
    · rw [hfields.lookup_eq, ← h.zone]

/-- The message is a login frame with a token that is vouched for, carries the signed role
`chat_admin` and expires at `exp`, in seconds. -/
def AdminToken (lib : JwtLib) (message secret : Str) (now : Date) (exp : Int) : Prop :=
  ∃ body fields pass token, message = "connect:".toList ++ body ∧ LoginFields body fields ∧
    fields.lookup "pass".toList = some pass ∧ (∃ iat, Vouched lib secret pass now token iat exp) ∧
    ∃ roles : List Str, token.payloadClaim "roles".toList = some (.array (roles.map .string)) ∧
      "chat_admin".toList ∈ roles

/-- An administrator's login comes from such a token, and its expiry too. -/
theorem adminToken_of_verifyLogin {lib : JwtLib} {message secret : Str} {now : Date}
    {login : AuthenticatedLogin} (h : verifyLogin lib message secret now = .ok login)
    (hadmin : login.isAdmin = true) :
    ∃ exp : Int, login.expiresAt = exp * 1000000000 ∧ AdminToken lib message secret now exp := by
  obtain ⟨token, ⟨-, body, fields, rfl, hfields, pass, iat, exp, hclaims⟩, -⟩ :=
    verifyLogin_iff.mp h
  rcases hclaims.roles with ⟨-, hnone⟩ | ⟨roles, hroles, hrole⟩
  · rw [hnone] at hadmin
    cases hadmin
  · exact ⟨exp, hclaims.expiry, body, fields, pass, token, rfl, hfields, hclaims.passField,
      ⟨iat, hclaims.vouched⟩, roles, hroles, hrole.mp hadmin⟩

/-- The token of a login is determined by the frame. -/
theorem Qualifies.token_unique {lib : JwtLib} {message secret : Str} {now : Date}
    {login login' : AuthenticatedLogin} {token token' : DecodedJwt}
    (h : Qualifies lib message secret now login token)
    (h' : Qualifies lib message secret now login' token') : token = token' := by
  obtain ⟨-, body, fields, rfl, hfields, pass, _, _, hclaims⟩ := h
  obtain ⟨-, body', fields', hbody, hfields', pass', _, _, hclaims'⟩ := h'
  obtain rfl := List.append_cancel_left hbody
  have hpass : some pass = some pass' := by
    rw [← hclaims.passField, ← hclaims'.passField, hfields.lookup_unique hfields']
  have hdecoded := hclaims.vouched.decoded
  rw [Option.some.inj hpass, hclaims'.vouched.decoded] at hdecoded
  exact (Option.some.inj hdecoded).symm

/-- At `now` the claim `nbf` is decided as by exact numbers. A whole number of seconds whose start,
tolerance included, is a time point is read as it is. Another one wraps, and a fraction is rounded;
then `now` is before both times or before neither. -/
def Json.NbfExactAt (now : Date) : Json → Prop
  | .integer seconds =>
      let start := (seconds - jwtTolerance) * 1000000000
      if start < -9223372036854775808 then now < start ∨ wrapDate start ≤ now
      else if 9223372036854775808 ≤ start then now < wrapDate start ∨ start ≤ now
      else True
  | .number x =>
      let start := (x - jwtTolerance) * 1000000000
      let read : ℚ := wrapDate ((llround x - jwtTolerance) * 1000000000)
      now < min read start ∨ max read start ≤ now
  | _ => True

/-- The claim `nbf` is decided as by exact numbers, if it is all that is left to decide about the
message. -/
def NbfExact (lib : JwtLib) (message secret : Str) (now : Date) : Prop :=
  ∀ login token, Qualifies lib message secret now login token →
    ∀ claim, token.payloadClaim "nbf".toList = some claim → claim.NbfExactAt now

/-- Two thresholds decide alike outside the interval between them. -/
theorem le_iff_le_iff {α : Type*} [LinearOrder α] {a b c : α} :
    (a ≤ c ↔ b ≤ c) ↔ c < min a b ∨ max a b ≤ c := by
  rw [lt_min_iff, max_le_iff, ← not_le, ← not_le]
  tauto

/-- **When the verifier's time for `nbf` and the exact one decide alike.** -/
theorem Json.nbfExactAt_iff {now : Date} {claim : Json} {rounded : Int} {value : ℚ}
    (hrounded : claim.wholeSeconds = some rounded) (hvalue : claim.numeric = some value) :
    claim.NbfExactAt now ↔ (wrapDate ((rounded - jwtTolerance) * 1000000000) ≤ now ↔
      (value - jwtTolerance) * 1000000000 ≤ (now : ℚ)) := by
  cases claim with
  | integer seconds =>
      obtain rfl := Option.some.inj hrounded
      obtain rfl := Option.some.inj hvalue
      have hcast : ((seconds : ℚ) - jwtTolerance) * 1000000000 ≤ now ↔
          (seconds - jwtTolerance) * 1000000000 ≤ now := by exact_mod_cast Iff.rfl
      simp only [hcast, NbfExactAt]
      generalize (seconds - jwtTolerance) * 1000000000 = start
      -- the wrapped time is a time point, and the exact one if that is a time point too
      have hlow : -9223372036854775808 ≤ wrapDate start := Int.le_bmod (by decide)
      have hhigh : wrapDate start < 9223372036854775808 := Int.bmod_lt (by decide)
      split
      case isTrue hearly =>
        have hle : start ≤ wrapDate start := hearly.le.trans hlow
        rw [le_iff_le_iff, min_eq_right hle, max_eq_left hle]
      split
      case isTrue hlate =>
        have hle : wrapDate start ≤ start := hhigh.le.trans hlate
        rw [le_iff_le_iff, min_eq_left hle, max_eq_right hle]
      case isFalse hearly hlate =>
        rw [wrapDate_eq (not_lt.mp hearly) (not_le.mp hlate)]
        exact iff_of_true trivial Iff.rfl
  | number x =>
      obtain rfl := Option.some.inj hrounded
      obtain rfl := Option.some.inj hvalue
      rw [NbfExactAt, ← le_iff_le_iff, Int.cast_le]
  | _ => cases hrounded

theorem numeric_isSome_iff {claim : Json} :
    (∃ seconds, claim.wholeSeconds = some seconds) ↔ ∃ seconds, claim.numeric = some seconds := by
  cases claim <;> simp [Json.wholeSeconds, Json.numeric]

/-- On such a time the two readings of `nbf` agree. -/
theorem NbfExact.passes_iff {lib : JwtLib} {message secret : Str} {now : Date}
    {login : AuthenticatedLogin} {token : DecodedJwt} (h : NbfExact lib message secret now)
    (hq : Qualifies lib message secret now login token) :
    NbfPasses token now ↔ NotBefore token now := by
  refine forall_congr' fun claim => imp_congr_right fun hclaim => ?_
  constructor
  · rintro ⟨rounded, hrounded, hle⟩
    obtain ⟨value, hvalue⟩ := numeric_isSome_iff.mp ⟨rounded, hrounded⟩
    have hexact := (Json.nbfExactAt_iff hrounded hvalue).mp (h login token hq claim hclaim)
    exact ⟨value, hvalue, hexact.mp hle⟩
  · rintro ⟨value, hvalue, hle⟩
    obtain ⟨rounded, hrounded⟩ := numeric_isSome_iff.mpr ⟨value, hvalue⟩
    have hexact := (Json.nbfExactAt_iff hrounded hvalue).mp (h login token hq claim hclaim)
    exact ⟨rounded, hrounded, hexact.mpr hle⟩

/-- **The code accepts exactly the specified logins when the arithmetic on `nbf` is exact**, and
only then. -/
theorem verifyLogin_specified_iff (lib : JwtLib) (message secret : Str) (now : Date) :
    (∀ login, verifyLogin lib message secret now = .ok login ↔
        SpecifiedLogin lib message secret now login) ↔
      NbfExact lib message secret now := by
  constructor
  · intro h login token hq claim hclaim
    by_cases hnumeric : ∃ rounded, claim.wholeSeconds = some rounded
    swap
    · cases claim <;> first | trivial | exact absurd ⟨_, rfl⟩ hnumeric
    obtain ⟨rounded, hrounded⟩ := hnumeric
    obtain ⟨value, hvalue⟩ := numeric_isSome_iff.mp ⟨rounded, hrounded⟩
    have hpasses : NbfPasses token now ↔
        wrapDate ((rounded - jwtTolerance) * 1000000000) ≤ now := by
      unfold NbfPasses
      rw [hclaim]
      simp [hrounded]
    have hbefore : NotBefore token now ↔ (value - jwtTolerance) * 1000000000 ≤ (now : ℚ) := by
      unfold NotBefore
      rw [hclaim]
      simp [hvalue]
    -- the frame has no other token
    have htoken {p : DecodedJwt → Prop} :
        (∃ token, Qualifies lib message secret now login token ∧ p token) ↔ p token :=
      ⟨fun ⟨token', hq', hp⟩ => hq.token_unique hq' ▸ hp, fun hp => ⟨token, hq, hp⟩⟩
    have hlogin := h login
    rw [verifyLogin_iff, SpecifiedLogin, htoken, htoken] at hlogin
    rw [Json.nbfExactAt_iff hrounded hvalue, ← hpasses, ← hbefore]
    exact hlogin
  · intro h login
    rw [verifyLogin_iff]
    exact exists_congr fun token => and_congr_right h.passes_iff

/-- The arithmetic is exact when `nbf` is a whole number of seconds whose start, tolerance
included, is a time point. -/
theorem nbfExact_of_inRange {lib : JwtLib} {message secret : Str} {now : Date}
    (h : ∀ login token, Qualifies lib message secret now login token →
      ∀ claim, token.payloadClaim "nbf".toList = some claim →
        ∃ seconds, claim = .integer seconds ∧
          -9223372036854775808 ≤ (seconds - jwtTolerance) * 1000000000 ∧
          (seconds - jwtTolerance) * 1000000000 < 9223372036854775808) :
    NbfExact lib message secret now := by
  intro login token hq claim hclaim
  obtain ⟨seconds, rfl, hlow, hhigh⟩ := h login token hq claim hclaim
  rw [Json.NbfExactAt, if_neg (by omega), if_neg (by omega)]
  trivial

/-! A token of the game server whose `nbf` is the largest 64-bit integer. -/

def lateHeader : Str := "eyJhbGciOiJIUzI1NiJ9".toList

def latePayload : Str :=
  ("eyJpc3MiOiJkYXJhLWdhbWUtc2VydmVyIiwiYXVkIjoiZGFyYS1jaGF0IiwiaWF0IjowLCJleHAiOjQwMDAwMDAwMDAs" ++
    "Im5iZiI6OTIyMzM3MjAzNjg1NDc3NTgwNywiY2hhcmFjdGVyTmFtZSI6IlRpcmlvIn0").toList

def lateSignature : Str := "QoV4Vj-LJYk1FfD0jjR57snzaNZe8IOxKDpHT93LgE0".toList

def lateToken : DecodedJwt where
  header := [("alg".toList, .string "HS256".toList)]
  payload :=
    [ ("iss".toList, .string "dara-game-server".toList)
    , ("aud".toList, .string "dara-chat".toList)
    , ("iat".toList, .integer 0)
    , ("exp".toList, .integer 4000000000)
    , ("nbf".toList, .integer 9223372036854775807)
    , ("characterName".toList, .string "Tirio".toList) ]
  headerBase64 := lateHeader
  payloadBase64 := latePayload
  signature := lateSignature

/-- The JWT library on this token, which is signed with the secret `k`. -/
def lateJwt : JwtLib where
  decode pass :=
    if pass = lateHeader ++ ".".toList ++ latePayload ++ ".".toList ++ lateSignature then
      some lateToken
    else none
  hs256Verify secret data signature :=
    decide (secret = "k".toList ∧ data = lateHeader ++ ".".toList ++ latePayload ∧
      signature = lateSignature)

def lateMessage : Str :=
  "connect:name=Tirio;pass=".toList ++ lateHeader ++ ".".toList ++ latePayload ++ ".".toList
    ++ lateSignature

theorem verifyLogin_lateMessage :
    verifyLogin lateJwt lateMessage "k".toList 1000000000000 =
      .ok { expiresAt := 4000000000000000000, characterName := "Tirio".toList, zone := [] } := by
  decide +kernel

/-- The login is accepted at second 1000, long before the time its `nbf` names. -/
theorem lateLogin_accepted :
    verifyLogin lateJwt lateMessage "k".toList 1000000000000 =
        .ok { expiresAt := 4000000000000000000, characterName := "Tirio".toList, zone := [] } ∧
      ¬ ∀ login, verifyLogin lateJwt lateMessage "k".toList 1000000000000 = .ok login ↔
        SpecifiedLogin lateJwt lateMessage "k".toList 1000000000000 login := by
  refine ⟨verifyLogin_lateMessage, fun hall => ?_⟩
  obtain ⟨token, ⟨-, _, _, -, -, pass, _, _, hclaims⟩, hbefore⟩ :=
    (hall _).mp verifyLogin_lateMessage
  obtain rfl : lateToken = token := by
    have hdecoded := hclaims.vouched.decoded
    simp only [lateJwt] at hdecoded
    split at hdecoded
    · exact Option.some.inj hdecoded
    · cases hdecoded
  obtain ⟨seconds, hseconds, hle⟩ := hbefore (.integer 9223372036854775807) (by rfl)
  obtain rfl : (9223372036854775807 : Int) = seconds := Option.some.inj hseconds
  norm_num [jwtTolerance] at hle

end DaraChat
