import DaraChat.Auth.Base64
import DaraChat.Auth.Login
import DaraChat.Json.PicoJson

set_option autoImplicit false

/-! # Compact tokens (`jwt-cpp/jwt.h`)

What `jwt::decode` and the HS256 check do with the text `header.payload.signature`, on base64url and
picojson as they are modelled here. OpenSSL's HMAC is a parameter, and so is the reading of numbers.
`signedText_iff`: the texts that are a token signed under a secret.
-/

namespace DaraChat

/-- `as_object`. -/
def Json.asObject : Json → Option (List (Str × Json))
  | .object fields => some fields
  | _ => none

/-- `map_of_claims::parse_claims`. -/
def parseClaims (num : NumberLib) (str : Str) : Option (List (Str × Json)) :=
  (Json.parse num str).bind Json.asObject

/-- `base::decode<base64url>(base::pad<base64url>(str))`. -/
def decodePart (str : Str) : Option Str := Base64.decode (Base64.pad str)

/-- The constructor of `decoded_jwt`; `none` when it throws. -/
def decodeJwt (num : NumberLib) (token : Str) : Option DecodedJwt := do
  let hdrEnd ← find token '.' 0
  let payloadEnd ← find token '.' (hdrEnd + 1)
  let headerBase64 := substr token 0 hdrEnd
  let payloadBase64 := substr token (hdrEnd + 1) (payloadEnd - hdrEnd - 1)
  let signatureBase64 := token.drop (payloadEnd + 1)
  let header ← decodePart headerBase64
  let payload ← decodePart payloadBase64
  let signature ← decodePart signatureBase64
  let headerClaims ← parseClaims num header
  let payloadClaims ← parseClaims num payload
  return { header := headerClaims, payload := payloadClaims, headerBase64 := headerBase64,
           payloadBase64 := payloadBase64, signature := signature }

/-- `hmacsha::verify`: the loop over the bytes both have, and the sizes. -/
def hmacshaVerify (hmac : Str → Str → Str) (secret data signature : Str) : Bool :=
  let res := hmac secret data
  let matched := (res.zip signature).all fun (a, b) => a = b
  matched && res.length = signature.length

/-- The JWT library, on the two libraries below it. -/
def jwtLib (num : NumberLib) (hmac : Str → Str → Str) : JwtLib where
  decode := decodeJwt num
  hs256Verify := hmacshaVerify hmac

/-! ## What is a token -/

theorem hmacshaVerify_iff {hmac : Str → Str → Str} {secret data signature : Str} :
    hmacshaVerify hmac secret data signature = true ↔ signature = hmac secret data := by
  have hall : ∀ res signature : Str, res.length = signature.length →
      (res.zip signature).all (fun (a, b) => a = b) = true → signature = res := by
    intro res
    induction res with
    | nil =>
        intro signature hlength _
        exact List.length_eq_zero_iff.mp hlength.symm
    | cons c res ih =>
        intro signature hlength hmatched
        obtain _ | ⟨d, signature⟩ := signature
        · cases hlength
        rw [List.zip_cons_cons, List.all_cons, Bool.and_eq_true, decide_eq_true_iff] at hmatched
        obtain ⟨rfl, hmatched⟩ := hmatched
        rw [ih signature (Nat.succ.inj hlength) hmatched]
  unfold hmacshaVerify
  constructor
  · intro h
    obtain ⟨hmatched, hlength⟩ := Bool.and_eq_true_iff.mp h
    exact hall _ _ (of_decide_eq_true hlength) hmatched
  · rintro rfl
    generalize hmac secret data = res
    have hself : (res.zip res).all (fun (a, b) => a = b) = true := by
      induction res with
      | nil => rfl
      | cons c res ih =>
          rw [List.zip_cons_cons, List.all_cons, ih, Bool.and_true]
          exact decide_eq_true rfl
    exact Bool.and_eq_true_iff.mpr ⟨hself, decide_eq_true rfl⟩

/-- What is decoded consists of symbols and fills. -/
theorem decodePart_mem {s bin : Str} (h : decodePart s = some bin) :
    ∀ c ∈ s, c ∈ Base64.alphabet ∨ c = '%' := by
  obtain ⟨t, ht, places, rfl, -⟩ := Base64.decode_pad_iff.mp h
  have hsymbols : ∀ c ∈ places.map Base64.symbol, c ∈ Base64.alphabet := by
    intro c hc
    obtain ⟨n, -, rfl⟩ := List.mem_map.mp hc
    exact Base64.symbol_mem n
  have hfill : ∀ c ∈ Base64.fill, c ∈ Base64.alphabet ∨ c = '%' := by
    have hall : Base64.fill.all (fun c => decide (c ∈ Base64.alphabet ∨ c = '%')) = true := by
      decide +kernel
    exact fun c hc => of_decide_eq_true (List.all_eq_true.mp hall c hc)
  rcases ht with ⟨rfl, -⟩ | ⟨rfl, -⟩
  · exact fun c hc => Or.inl (hsymbols c hc)
  · intro c hc
    rcases List.mem_append.mp hc with hc | hc
    · rcases List.mem_append.mp hc with hc | hc
      · exact Or.inl (hsymbols c hc)
      · exact hfill c hc
    · exact hfill c hc

theorem dot_notMem {s bin : Str} (h : decodePart s = some bin) : '.' ∉ s := by
  intro hmem
  rcases decodePart_mem h '.' hmem with h | h
  · exact absurd h (by decide)
  · cases h

/-- A separator is none of the characters of a token. -/
theorem notMem_of_compact {token : Str} (h : ∀ c ∈ token, c ∈ Base64.alphabet ∨ c = '.') {c : Char}
    (hc : c ∉ Base64.alphabet ∧ c ≠ '.') : c ∉ token := by
  intro hmem
  rcases h c hmem with h | h
  · exact hc.1 h
  · exact hc.2 h

/-- The text is a header, a payload and a signature, and this is what they say. -/
structure IsCompact (num : NumberLib) (pass : Str) (token : DecodedJwt) (signature : Str) :
    Prop where
  text : pass = token.headerBase64 ++ '.' :: (token.payloadBase64 ++ '.' :: signature)
  header : ∃ header, decodePart token.headerBase64 = some header ∧
    parseClaims num header = some token.header
  payload : ∃ payload, decodePart token.payloadBase64 = some payload ∧
    parseClaims num payload = some token.payload
  signature : decodePart signature = some token.signature

/-- The token of a text that is cut at its first two points. -/
theorem decodeJwt_parts (num : NumberLib) {a b : Str} (ha : '.' ∉ a) (hb : '.' ∉ b) (c : Str) :
    decodeJwt num (a ++ '.' :: (b ++ '.' :: c)) = do
      let header ← decodePart a
      let payload ← decodePart b
      let signature ← decodePart c
      let headerClaims ← parseClaims num header
      let payloadClaims ← parseClaims num payload
      return { header := headerClaims, payload := payloadClaims, headerBase64 := a,
               payloadBase64 := b, signature := signature } := by
  have hfirst := find_append_cons (b := b ++ '.' :: c) ha []
  have hsecond := find_append_cons (b := c) hb (a ++ ['.'])
  simp only [List.nil_append, List.length_nil, Nat.zero_add, List.append_assoc,
    List.singleton_append, List.length_append, List.length_singleton] at hfirst hsecond
  have hmiddle : a.length + 1 + b.length - a.length - 1 = b.length := by omega
  have hheader : substr (a ++ '.' :: (b ++ '.' :: c)) 0 a.length = a := List.take_left
  have hpayload : substr (a ++ '.' :: (b ++ '.' :: c)) (a.length + 1) b.length = b := by
    rw [substr, drop_past, List.take_left]
  have hsignature : (a ++ '.' :: (b ++ '.' :: c)).drop (a.length + 1 + b.length + 1) = c := by
    rw [Nat.add_assoc, ← List.drop_drop, drop_past, drop_past]
  rw [decodeJwt, hfirst, Option.bind_eq_bind, Option.bind_some, hsecond, Option.bind_eq_bind,
    Option.bind_some]
  simp only [hmiddle, hheader, hpayload, hsignature]

theorem decodeJwt_iff {num : NumberLib} {pass : Str} {token : DecodedJwt} :
    decodeJwt num pass = some token ↔ ∃ signature, IsCompact num pass token signature := by
  constructor
  · intro h
    -- the points that `find` has found cut the text
    have hcut : ∃ a b c, pass = a ++ '.' :: (b ++ '.' :: c) ∧ '.' ∉ a ∧ '.' ∉ b := by
      obtain ⟨hdrEnd, hfirst, h⟩ := Option.bind_eq_some_iff.mp h
      obtain ⟨payloadEnd, hsecond, -⟩ := Option.bind_eq_some_iff.mp h
      obtain ⟨a, rest, hpass, ha, rfl⟩ := eq_of_find hfirst
      obtain ⟨b, c, hrest, hb, -⟩ := eq_of_find hsecond
      rw [List.drop_zero] at hpass
      rw [Nat.zero_add, hpass, drop_past] at hrest
      exact ⟨a, b, c, hrest ▸ hpass, ha, hb⟩
    obtain ⟨a, b, c, rfl, ha, hb⟩ := hcut
    rw [decodeJwt_parts num ha hb] at h
    obtain ⟨header, hheader, h⟩ := Option.bind_eq_some_iff.mp h
    obtain ⟨payload, hpayload, h⟩ := Option.bind_eq_some_iff.mp h
    obtain ⟨signature, hsignature, h⟩ := Option.bind_eq_some_iff.mp h
    obtain ⟨headerClaims, hheaderClaims, h⟩ := Option.bind_eq_some_iff.mp h
    obtain ⟨payloadClaims, hpayloadClaims, h⟩ := Option.bind_eq_some_iff.mp h
    obtain rfl := Option.some.inj h
    exact ⟨c, rfl, ⟨header, hheader, hheaderClaims⟩, ⟨payload, hpayload, hpayloadClaims⟩,
      hsignature⟩
  · rintro ⟨signature, rfl, ⟨header, hheader, hheaderClaims⟩, ⟨payload, hpayload, hpayloadClaims⟩,
      hsignature⟩
    rw [decodeJwt_parts num (dot_notMem hheader) (dot_notMem hpayload), hheader, hpayload,
      hsignature]
    simp only [Option.bind_eq_bind, Option.bind_some, hheaderClaims, hpayloadClaims]
    rfl

/-- **The texts that are a token signed under the secret**: the signature spells the code of what
stands before it. -/
theorem signedText_iff {num : NumberLib} {hmac : Str → Str → Str} {secret pass : Str}
    {token : DecodedJwt} :
    ((jwtLib num hmac).decode pass = some token ∧
      (jwtLib num hmac).hs256Verify secret
        (token.headerBase64 ++ ".".toList ++ token.payloadBase64) token.signature = true) ↔
      ∃ signature, IsCompact num pass token signature ∧
        decodePart signature =
          some (hmac secret (token.headerBase64 ++ ".".toList ++ token.payloadBase64)) := by
  show (decodeJwt num pass = some token ∧ hmacshaVerify hmac secret _ token.signature = true) ↔ _
  rw [decodeJwt_iff, hmacshaVerify_iff]
  constructor
  · rintro ⟨⟨signature, h⟩, hmac⟩
    exact ⟨signature, h, hmac ▸ h.signature⟩
  · rintro ⟨signature, h, hmac⟩
    exact ⟨⟨signature, h⟩, Option.some.inj (h.signature.symm.trans hmac)⟩

end DaraChat
