import DaraChat.Auth.Login
import Mathlib.Data.List.Perm.Basic

set_option autoImplicit false

/-! # The order of the login fields

A login frame is read through lookups in the map of its fields, and a permutation of the parts
changes no lookup: the field loop refuses both frames or reads both into maps that look up the
same (`parseFields_perm`). What an accepted login says of a player comes from the token in `pass`
and from nothing else in the frame (`LoginClaims.identity_eq`).
-/

namespace DaraChat

/-- The value the field loop reads for `key`, if it accepts the frame. -/
def loginField (message key : Str) : Option Str :=
  (parseFields ∅ (getlines ';' [] (message.drop 8))).bind fun fields => fields.lookup key

/-! ## Permutations -/

/-- Different keys look up the same in any order. -/
theorem lookup_perm {list list' : List (Str × Str)} (hperm : list.Perm list')
    (hnodup : (list.map Prod.fst).Nodup) (key : Str) : list.lookup key = list'.lookup key := by
  induction hperm with
  | nil => rfl
  | cons field _ ih =>
      rw [List.map_cons, List.nodup_cons] at hnodup
      rw [List.lookup_cons, List.lookup_cons, ih hnodup.2]
  | swap field field' list =>
      have hne : field.1 ≠ field'.1 := by
        rw [List.map_cons, List.nodup_cons, List.map_cons, List.mem_cons, not_or] at hnodup
        exact fun h => hnodup.1.1 h.symm
      rw [List.lookup_cons, List.lookup_cons, List.lookup_cons, List.lookup_cons]
      -- `key` is one of the two at most
      by_cases hkey : key = field.1
      · have hother : (key == field'.1) = false := beq_eq_false_iff_ne.mpr (hkey ▸ hne)
        rw [hother]
      · have hother : (key == field.1) = false := beq_eq_false_iff_ne.mpr hkey
        rw [hother]
  | trans hperm₁ _ ih₁ ih₂ =>
      exact (ih₁ hnodup).trans (ih₂ ((hperm₁.map Prod.fst).nodup_iff.mp hnodup))

/-- Two maps that look up the same. -/
def SameLookups (m m' : FieldMap) : Prop := ∀ key, m.lookup key = m'.lookup key

/-- If the field loop accepts some parts, it accepts them in any order. -/
theorem parseFields_of_perm {parts parts' : List Str} (hperm : parts.Perm parts') {m : FieldMap}
    (h : parseFields ∅ parts = some m) :
    ∃ m', parseFields ∅ parts' = some m' ∧ SameLookups m m' := by
  obtain ⟨list, rfl, hall, hnodup, rfl⟩ := parseFields_iff.mp h
  obtain ⟨list', rfl, hlist⟩ : ∃ list' : List (Str × Str),
      parts' = list'.map fieldText ∧ list'.Perm list :=
    (congrFun (congrFun (List.eq_map_comp_perm fieldText) parts') list).mpr hperm.symm
  have hnodup' : (list'.map Prod.fst).Nodup := (hlist.map Prod.fst).nodup_iff.mpr hnodup
  refine ⟨fieldMap ∅ list', parseFields_iff.mpr ⟨list', rfl, ?_, hnodup', rfl⟩, fun key => ?_⟩
  · exact fun field hmem => hall field (hlist.mem_iff.mp hmem)
  · rw [lookup_fieldMap key hnodup, lookup_fieldMap key hnodup', lookup_perm hlist hnodup']

/-- **The field loop refuses the parts in every order or in none**, and its map looks up the same
in all. -/
theorem parseFields_perm {parts parts' : List Str} (hperm : parts.Perm parts') :
    Option.Rel SameLookups (parseFields ∅ parts) (parseFields ∅ parts') := by
  cases hparts : parseFields ∅ parts with
  | some m =>
      obtain ⟨m', hm', hsame⟩ := parseFields_of_perm hperm hparts
      rw [hm']
      exact .some hsame
  | none =>
      cases hparts' : parseFields ∅ parts' with
      | none => exact .none
      | some m' =>
          obtain ⟨m, hm, -⟩ := parseFields_of_perm hperm.symm hparts'
          rw [hparts] at hm
          cases hm

/-! ## The result of a login -/

/-- `VerifyLogin` reads its fields by lookup only. -/
theorem verifyLogin_congr {lib : JwtLib} {body body' secret : Str} {now : Date}
    (h : Option.Rel SameLookups (parseFields ∅ (getlines ';' [] body))
      (parseFields ∅ (getlines ';' [] body'))) :
    verifyLogin lib ("connect:".toList ++ body) secret now =
      verifyLogin lib ("connect:".toList ++ body') secret now := by
  have hstart (text : Str) : (!startsWith ("connect:".toList ++ text) "connect:".toList) = false := by
    rw [startsWith_iff.mpr (List.prefix_append _ _)]
    rfl
  have hbody (text : Str) : ("connect:".toList ++ text).drop 8 = text :=
    List.drop_left' (by decide)
  unfold verifyLogin
  rw [hstart, hstart, hbody, hbody]
  generalize parseFields ∅ (getlines ';' [] body) = m,
    parseFields ∅ (getlines ';' [] body') = m' at h
  -- the same text for two parts that are refused, the same lookups for two that are read
  cases h with
  | none => rfl
  | some hsame =>
      have hrequired : ∀ m m' : FieldMap, SameLookups m m' →
          requiredFields m = requiredFields m' := by
        intro m m' hsame
        unfold requiredFields
        rw [hsame, hsame]
      simp only [orReject, bind, Except.bind, hrequired _ _ hsame, hsame "zone".toList]

/-- What a login says of its player is what the token in `pass` says. -/
theorem LoginClaims.identity_eq {lib : JwtLib} {secret secret' pass : Str} {now now' : Date}
    {fields fields' : List (Str × Str)} {login login' : AuthenticatedLogin}
    {token token' : DecodedJwt} {iat exp iat' exp' : Int}
    (h : LoginClaims lib secret now fields login token pass iat exp)
    (h' : LoginClaims lib secret' now' fields' login' token' pass iat' exp') :
    login.characterName = login'.characterName ∧ login.isAdmin = login'.isAdmin ∧
      login.expiresAt = login'.expiresAt := by
  obtain rfl : token = token' := by
    have hdecoded := h.vouched.decoded
    rw [h'.vouched.decoded] at hdecoded
    exact (Option.some.inj hdecoded).symm
  refine ⟨?_, ?_, ?_⟩
  · have hsigned := h.signed
    rw [h'.signed] at hsigned
    exact (Json.string.inj (Option.some.inj hsigned)).symm
  · rcases h.roles with ⟨hnone, hadmin⟩ | ⟨roles, hroles, hadmin⟩
    · rcases h'.roles with ⟨-, hadmin'⟩ | ⟨roles', hroles', -⟩
      · rw [hadmin, hadmin']
      · rw [hnone] at hroles'
        cases hroles'
    · rcases h'.roles with ⟨hnone', -⟩ | ⟨roles', hroles', hadmin'⟩
      · rw [hnone'] at hroles
        cases hroles
      · -- the names of the roles are those of one claim
        have hnames : roles = roles' := by
          rw [hroles'] at hroles
          have hmap : roles'.map Json.string = roles.map Json.string :=
            Json.array.inj (Option.some.inj hroles)
          exact (List.map_injective_iff.mpr (fun _ _ => Json.string.inj) hmap).symm
        rw [Bool.eq_iff_iff, hadmin, hadmin', hnames]
  · have hexp := h.vouched.expClaim
    rw [h'.vouched.expClaim] at hexp
    rw [h.expiry, h'.expiry, Json.integer.inj (Option.some.inj hexp)]

/-- The fields of an accepted login are those the field loop reads. -/
theorem loginClaims_of_verifyLogin {lib : JwtLib} {message secret : Str} {now : Date}
    {login : AuthenticatedLogin} (h : verifyLogin lib message secret now = .ok login) :
    ∃ fields token pass iat exp, LoginClaims lib secret now fields login token pass iat exp ∧
      loginField message "pass".toList = some pass := by
  obtain ⟨token, ⟨-, body, fields, rfl, hfields, pass, iat, exp, hclaims⟩, -⟩ :=
    verifyLogin_iff.mp h
  refine ⟨fields, token, pass, iat, exp, hclaims, ?_⟩
  have hbody : ("connect:".toList ++ body).drop 8 = body := List.drop_left' (by decide)
  rw [loginField, hbody, parseFields_getlines_iff.mpr ⟨fields, hfields, rfl⟩, Option.bind_some,
    hfields.lookup_eq, hclaims.passField]

/-- **The order of the fields decides nothing, and the fields beside `name` and `pass` do not
touch the identity.** -/
theorem verifyLogin_field_order (lib : JwtLib) (secret : Str) (now : Date) :
    (∀ segments segments' : List Str, (∀ s ∈ segments, s ≠ [] ∧ ';' ∉ s) →
      segments.Perm segments' →
      verifyLogin lib ("connect:".toList ++ [';'].intercalate segments) secret now =
        verifyLogin lib ("connect:".toList ++ [';'].intercalate segments') secret now) ∧
    (∀ message message' login login', verifyLogin lib message secret now = .ok login →
      verifyLogin lib message' secret now = .ok login' →
      loginField message "name".toList = loginField message' "name".toList →
      loginField message "pass".toList = loginField message' "pass".toList →
      login.characterName = login'.characterName ∧ login.isAdmin = login'.isAdmin ∧
        login.expiresAt = login'.expiresAt) := by
  constructor
  · intro segments segments' hsegments hperm
    have hread {list : List Str} (hlist : ∀ s ∈ list, s ≠ [] ∧ ';' ∉ s) :
        getlines ';' [] ([';'].intercalate list) = list :=
      getlines_intercalate (fun s hs => (hlist s hs).2)
        fun s hs => (hlist s (List.mem_of_mem_getLast? hs)).1
    refine verifyLogin_congr ?_
    rw [hread hsegments, hread fun s hs => hsegments s (hperm.mem_iff.mpr hs)]
    exact parseFields_perm hperm
  · intro message message' login login' h h' _ hpass
    obtain ⟨fields, token, pass, iat, exp, hclaims, hread⟩ := loginClaims_of_verifyLogin h
    obtain ⟨fields', token', pass', iat', exp', hclaims', hread'⟩ := loginClaims_of_verifyLogin h'
    obtain rfl : pass = pass' := by
      rw [hread, hread'] at hpass
      exact Option.some.inj hpass
    exact hclaims.identity_eq hclaims'

/-- The fields of a login of Tirio, one of them a role of his own. -/
def spoofedFields : List Str :=
  ["name=Tirio".toList, "roles=chat_admin".toList,
    "pass=".toList ++ lateHeader ++ ".".toList ++ latePayload ++ ".".toList ++ lateSignature]

/-- Tirio's login with its fields reversed, and the one without the spoofed role. -/
theorem spoofedLogin_field_order :
    verifyLogin lateJwt ("connect:".toList ++ [';'].intercalate spoofedFields) "k".toList
        1000000000000 =
      verifyLogin lateJwt ("connect:".toList ++ [';'].intercalate spoofedFields.reverse) "k".toList
        1000000000000 ∧
    ∃ login login',
      verifyLogin lateJwt lateMessage "k".toList 1000000000000 = .ok login ∧
      verifyLogin lateJwt ("connect:".toList ++ [';'].intercalate spoofedFields) "k".toList
        1000000000000 = .ok login' ∧
      login.characterName = login'.characterName ∧ login.isAdmin = login'.isAdmin ∧
      login.expiresAt = login'.expiresAt := by
  obtain ⟨horder, hidentity⟩ := verifyLogin_field_order lateJwt "k".toList 1000000000000
  let login : AuthenticatedLogin :=
    { expiresAt := 4000000000000000000, characterName := "Tirio".toList, zone := [] }
  let spoofed : Str := "connect:".toList ++ [';'].intercalate spoofedFields
  -- one evaluation, so that the long texts are built once
  obtain ⟨hfields, hspoofed, hname, hpass⟩ :
      (∀ s ∈ spoofedFields, s ≠ [] ∧ ';' ∉ s) ∧
        verifyLogin lateJwt spoofed "k".toList 1000000000000 = .ok login ∧
        loginField lateMessage "name".toList = loginField spoofed "name".toList ∧
        loginField lateMessage "pass".toList = loginField spoofed "pass".toList := by
    decide +kernel
  exact ⟨horder spoofedFields spoofedFields.reverse hfields (List.reverse_perm _).symm,
    login, login, verifyLogin_lateMessage, hspoofed,
    hidentity _ _ _ _ verifyLogin_lateMessage hspoofed hname hpass⟩

end DaraChat
