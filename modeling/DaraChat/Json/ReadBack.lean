import DaraChat.Group.Wire
import DaraChat.Json.PicoJson

set_option autoImplicit false

/-! # What is written is read back

The reader takes what a writer has put together, whichever way the writer escapes strings, as long as
each string is read back for itself (`WritesStrings`). Two things change on the way: a double
without a fraction comes back as an integer, and the fields of an object come back in the order of
their names (`normal`).
-/

namespace DaraChat

namespace Json

/-! ## Induction over values -/

/-- The induction rule: all elements of an array, and all fields of an object. -/
theorem inductionOn {P : Json → Prop} (hnull : P .null) (hboolean : ∀ b, P (.boolean b))
    (hinteger : ∀ i, P (.integer i)) (hnumber : ∀ x, P (.number x)) (hstring : ∀ s, P (.string s))
    (harray : ∀ elements, (∀ v ∈ elements, P v) → P (.array elements))
    (hobject : ∀ fields, (∀ field ∈ fields, P (Prod.snd field)) → P (.object fields)) (v : Json) :
    P v :=
  @Json.rec P (fun vs => ∀ v ∈ vs, P v) (fun fields => ∀ field ∈ fields, P (Prod.snd field))
    (fun field => P field.2) hnull hboolean hinteger hnumber hstring harray hobject
    (fun _ hv => (by cases hv)) (fun _ _ hv hvs => List.forall_mem_cons.mpr ⟨hv, hvs⟩)
    (fun _ hfield => (by cases hfield))
    (fun _ _ hfield hfields => List.forall_mem_cons.mpr ⟨hfield, hfields⟩) (fun _ _ hv => hv) v

/-! ## Strings -/

/-- The loop of `_parse_string` takes the text for the bytes and goes on behind it. -/
def ReadsAs (text bytes : Str) : Prop :=
  ∀ (turns : Nat) (rest : Str), ∃ turns', turns ≤ turns' ∧
    parseStringLoop (text.length + turns) (text ++ rest) =
      (parseStringLoop turns' rest).map fun (out, s) => (bytes ++ out, s)

theorem parseStringLoop_quote (turns : Nat) (s : Str) :
    parseStringLoop (turns + 1) ('"' :: s) = some ([], s) := by
  cases s with
  | nil => rfl
  | cons c s => rfl

theorem parseStringLoop_plain {c : Char} (hc : 32 ≤ c.toNat) (hquote : c ≠ '"') (hslash : c ≠ '\\')
    (turns : Nat) (s : Str) : parseStringLoop (turns + 1) (c :: s) =
      (parseStringLoop turns s).map fun (out, s) => (c :: out, s) := by
  cases s with
  | nil => rw [parseStringLoop, if_neg (Nat.not_lt.mpr hc), if_neg hquote, if_neg hslash]
  | cons d s => rw [parseStringLoop, if_neg (Nat.not_lt.mpr hc), if_neg hquote, if_neg hslash]

theorem readsAs_nil : ReadsAs [] [] := by
  intro turns rest
  refine ⟨turns, Nat.le_refl _, ?_⟩
  rw [List.length_nil, Nat.zero_add, List.nil_append]
  cases parseStringLoop turns rest with
  | none => rfl
  | some found => rfl

theorem ReadsAs.append {a b x y : Str} (ha : ReadsAs a x) (hb : ReadsAs b y) :
    ReadsAs (a ++ b) (x ++ y) := by
  intro turns rest
  obtain ⟨middle, hmiddle, hread⟩ := ha (b.length + turns) (b ++ rest)
  obtain ⟨extra, rfl⟩ := Nat.exists_eq_add_of_le hmiddle
  obtain ⟨turns', hturns, hread'⟩ := hb (turns + extra) rest
  refine ⟨turns', (Nat.le_add_right _ _).trans hturns, ?_⟩
  rw [List.length_append, Nat.add_assoc, List.append_assoc, hread, Nat.add_assoc, hread']
  cases parseStringLoop turns' rest with
  | none => rfl
  | some found =>
      obtain ⟨out, s⟩ := found
      simp only [Option.map_some, List.append_assoc]

theorem readsAs_flatMap {esc bytes : Char → Str} (h : ∀ c, ReadsAs (esc c) (bytes c)) (s : Str) :
    ReadsAs (s.flatMap esc) (s.flatMap bytes) := by
  induction s with
  | nil => exact readsAs_nil
  | cons c s ih =>
      rw [List.flatMap_cons, List.flatMap_cons]
      exact (h c).append ih

/-- A character that stands for itself. -/
theorem readsAs_plain {c : Char} (hc : 32 ≤ c.toNat) (hquote : c ≠ '"') (hslash : c ≠ '\\') :
    ReadsAs [c] [c] := by
  intro turns rest
  refine ⟨turns, Nat.le_refl _, ?_⟩
  rw [List.length_singleton, Nat.add_comm, List.singleton_append,
    parseStringLoop_plain hc hquote hslash]
  rfl

/-- A letter behind a backslash. -/
theorem readsAs_escaped {letter c : Char} (h : escaped letter = some c) :
    ReadsAs ['\\', letter] [c] := by
  intro turns rest
  refine ⟨turns + 1, Nat.le_succ _, ?_⟩
  have hturns : ['\\', letter].length + turns = (turns + 1) + 1 := by
    rw [List.length_cons, List.length_singleton]
    omega
  have hlow : ¬ '\\'.toNat < 32 := by decide
  have hquote : ('\\' : Char) ≠ '"' := by decide
  rw [hturns, List.cons_append, List.singleton_append, parseStringLoop, if_neg hlow, if_neg hquote,
    if_pos rfl]
  simp only [h]
  rfl

theorem hexVal_digitChar {d : Nat} (h : d < 16) : hexVal (Nat.digitChar d) = some d := by
  have hall : ∀ d : Fin 16, hexVal (Nat.digitChar d) = some d.val := by decide
  exact hall ⟨d, h⟩

/-- A code below 128 in four hexadecimal digits. -/
theorem readsAs_hex {c : Char} (h : c.toNat < 128) :
    ReadsAs (['\\', 'u', '0', '0'] ++ hexByte c.toNat) [c] := by
  intro turns rest
  refine ⟨turns + 5, Nat.le_add_right _ _, ?_⟩
  have hturns : (['\\', 'u', '0', '0'] ++ hexByte c.toNat).length + turns = (turns + 5) + 1 := by
    show 6 + turns = _
    omega
  have hlow : ¬ '\\'.toNat < 32 := by decide
  have hquote : ('\\' : Char) ≠ '"' := by decide
  have hletter : escaped 'u' = none := by decide
  have hcode : c.toNat / 16 % 16 * 16 + c.toNat % 16 = c.toNat := by omega
  have hhex : parseQuadhex ('0' :: '0' :: (hexByte c.toNat ++ rest)) = some (c.toNat, rest) := by
    have hzero : hexVal '0' = some 0 := by decide
    have hhigh := hexVal_digitChar (Nat.mod_lt (c.toNat / 16) (by decide : 0 < 16))
    have hlow := hexVal_digitChar (Nat.mod_lt c.toNat (by decide : 0 < 16))
    show (do
      let a ← hexVal '0'
      let b ← hexVal '0'
      let c' ← hexVal (Nat.digitChar (c.toNat / 16 % 16))
      let d ← hexVal (Nat.digitChar (c.toNat % 16))
      return (((a * 16 + b) * 16 + c') * 16 + d, rest)) = _
    rw [hzero, hhigh, hlow]
    show some ((_, _) : Nat × Str) = _
    simp only [Nat.zero_mul, Nat.zero_add, hcode]
  have hcodepoint : parseCodepoint ('0' :: '0' :: (hexByte c.toNat ++ rest)) = some ([c], rest) := by
    have hnotSurrogate : ¬ (0xd800 ≤ c.toNat ∧ c.toNat ≤ 0xdfff) := by omega
    rw [parseCodepoint, hhex]
    simp only [if_neg hnotSurrogate, encodeUtf8, if_pos h, Char.ofNat_toNat]
  rw [hturns]
  show parseStringLoop (turns + 5 + 1)
    ('\\' :: 'u' :: '0' :: '0' :: (hexByte c.toNat ++ rest)) = _
  rw [parseStringLoop, if_neg hlow, if_neg hquote, if_pos rfl]
  simp only [hletter, if_true, hcodepoint, Option.bind_eq_bind, Option.bind_some]
  cases parseStringLoop (turns + 5) rest with
  | none => rfl
  | some found => rfl

/-- Every character is read back from what `serialize_str_char` writes for it. -/
theorem readsAs_serializeChar (c : Char) : ReadsAs (serializeChar c) [c] := by
  unfold serializeChar
  split
  · rename_i h
    rw [h]
    exact readsAs_escaped (by decide)
  split
  · rename_i h
    rw [h]
    exact readsAs_escaped (by decide)
  split
  · rename_i h
    rw [h]
    exact readsAs_escaped (by decide)
  split
  · rename_i h
    rw [h]
    exact readsAs_escaped (by decide)
  split
  · rename_i h
    rw [h]
    exact readsAs_escaped (by decide)
  split
  · rename_i h
    rw [h]
    exact readsAs_escaped (by decide)
  split
  · rename_i h
    rw [h]
    exact readsAs_escaped (by decide)
  split
  · rename_i h
    rw [h]
    exact readsAs_escaped (by decide)
  split
  · rename_i h
    refine readsAs_hex ?_
    rcases h with h | rfl
    · omega
    · decide
  · rename_i hquote hslash _ _ _ _ _ _ hplain
    exact readsAs_plain (Nat.le_of_not_lt fun h => hplain (.inl h)) hquote hslash

/-- Strings are written in quotes, and are read back. -/
def WritesStrings (str bytes : Str → Str) : Prop :=
  ∀ s, ∃ text, str s = '"' :: (text ++ ['"']) ∧ ReadsAs text (bytes s)

theorem writesStrings_serializeStr : WritesStrings serializeStr id := by
  intro s
  refine ⟨s.flatMap serializeChar, rfl, ?_⟩
  have hall := readsAs_flatMap readsAs_serializeChar s
  rwa [List.flatMap_singleton'] at hall

/-- The text up to its closing quote. -/
theorem ReadsAs.parseString {text bytes : Str} (h : ReadsAs text bytes) (rest : Str) :
    parseString (text ++ '"' :: rest) = some (bytes, rest) := by
  obtain ⟨turns, hturns, hread⟩ := h (rest.length + 2) ('"' :: rest)
  obtain ⟨turns, rfl⟩ : ∃ k, turns = k + 1 := ⟨turns - 1, by omega⟩
  have hlength : (text ++ '"' :: rest).length + 1 = text.length + (rest.length + 2) := by
    rw [List.length_append, List.length_cons]
    omega
  rw [Json.parseString, hlength, hread, parseStringLoop_quote, Option.map_some]
  simp only [List.append_nil]

/-! ## Numbers -/

/-- A text that `_parse` takes for a number, and the number. -/
structure NumberReads (lib : NumberLib) (text : Str) (v : Json) : Prop where
  head : ∃ c s, text = c :: s ∧ (c.isDigit = true ∨ c = '-')
  numberChars : ∀ c ∈ text, isNumberChar c = true
  read : readNumber lib text = some v

theorem strtoimax_intToString {i : Int} (hlow : -(2 ^ 63) ≤ i) (hhigh : i < 2 ^ 63) :
    strtoimax (intToString i) = some i := by
  cases i with
  | ofNat n =>
      obtain ⟨d, ds, hn⟩ := List.exists_cons_of_ne_nil (natToString_ne_nil n)
      obtain ⟨-, hminus, -⟩ := digit_plain (c := d)
        (natToString_isDigit (n := n) (by rw [hn]; exact List.mem_cons_self))
      have hhead : ¬ (natToString n).head? = some '-' := by
        rw [hn]
        exact fun h => hminus (Option.some.inj h)
      have hall : (natToString n).all Char.isDigit = true :=
        List.all_eq_true.mpr fun c => natToString_isDigit
      have hvalue : Nat.ofDigitChars 10 (natToString n) 0 = n := Nat.ofDigitChars_ten_toDigits
      rw [strtoimax, intToString, if_neg hhead, if_neg hhead, hvalue,
        if_pos ⟨natToString_ne_nil n, hall, hlow, hhigh⟩]
      rfl
  | negSucc n =>
      have hall : (natToString (n + 1)).all Char.isDigit = true :=
        List.all_eq_true.mpr fun c => natToString_isDigit
      have hvalue : Nat.ofDigitChars 10 (natToString (n + 1)) 0 = n + 1 :=
        Nat.ofDigitChars_ten_toDigits
      have hhead : ('-' :: natToString (n + 1)).head? = some '-' := rfl
      rw [strtoimax, intToString, if_pos hhead, if_pos hhead, List.drop_one, List.tail_cons, hvalue,
        if_pos ⟨natToString_ne_nil _, hall, hlow, hhigh⟩]
      rfl

/-- An integer of 64 bits is read back. -/
theorem numberReads_intToString (lib : NumberLib) {i : Int} (hlow : -(2 ^ 63) ≤ i)
    (hhigh : i < 2 ^ 63) : NumberReads lib (intToString i) (.integer i) where
  head := by
    obtain ⟨c, s, hcons⟩ := List.exists_cons_of_ne_nil (intToString_ne_nil i)
    refine ⟨c, s, hcons, ?_⟩
    rcases intToString_isNumeral i c (hcons ▸ List.mem_cons_self) with rfl | h
    · exact .inr rfl
    · exact .inl h
  numberChars := by
    intro c hc
    rcases intToString_isNumeral i c hc with rfl | h
    · rfl
    · simp [isNumberChar, h]
  read := by rw [readNumber, strtoimax_intToString hlow hhigh]

/-- A double that is written with digits alone: `%.17g` has no exponent below `10 ^ 17`. -/
def isWhole (x : ℚ) : Prop := |x| < 10 ^ 17 ∧ x.den = 1

instance (x : ℚ) : Decidable (isWhole x) := inferInstanceAs (Decidable (|x| < 10 ^ 17 ∧ x.den = 1))

/-- What a double comes back as. -/
def normalNumber (x : ℚ) : Json := if isWhole x then .integer x.num else .number x

/-- The whole numbers that picojson writes itself. -/
theorem numberReads_numberText (lib : NumberLib) {x : ℚ} (h : |x| < 2 ^ 53 ∧ x.den = 1) :
    NumberReads lib (numberText lib x) (normalNumber x) := by
  have hx : (x.num : ℚ) = x := Rat.den_eq_one_iff x |>.mp h.2
  have habs : |x.num| < 2 ^ 53 := by
    have hlt := h.1
    rw [← hx] at hlt
    exact_mod_cast hlt
  rw [abs_lt] at habs
  have hwhole : isWhole x := ⟨h.1.trans (by norm_num), h.2⟩
  rw [numberText, if_pos h, normalNumber, if_pos hwhole]
  exact numberReads_intToString lib (by omega) (by omega)

/-! ## Values -/

/-- The fields in the order of their names, the last of each name. -/
def insertFields (fields : List (Str × Json)) (more : List (Str × Json)) : List (Str × Json) :=
  more.foldl (fun fields field => insertField field.1 field.2 fields) fields

section Normal

variable (bytes : Str → Str)

mutual

/-- What a value comes back as when its strings come back as their bytes. -/
def normal : Json → Json
  | .null => .null
  | .boolean b => .boolean b
  | .integer i => .integer i
  | .number x => normalNumber x
  | .string s => .string (bytes s)
  | .array elements => .array (normalElements elements)
  | .object fields => .object (insertFields [] (normalFields fields))

def normalElements : List Json → List Json
  | [] => []
  | v :: vs => normal v :: normalElements vs

def normalFields : List (Str × Json) → List (Str × Json)
  | [] => []
  | (key, v) :: fields => (bytes key, normal v) :: normalFields fields

end

end Normal

/-- A value that can be written and read: integers have 64 bits, doubles are read from what is
written for them, and at most `depths` arrays contain each other. -/
inductive Writable (lib : NumberLib) (num : ℚ → Str) : Nat → Json → Prop
  | null (depths : Nat) : Writable lib num depths .null
  | boolean (depths : Nat) (b : Bool) : Writable lib num depths (.boolean b)
  | integer (depths : Nat) (i : Int) (hlow : -(2 ^ 63) ≤ i) (hhigh : i < 2 ^ 63) :
      Writable lib num depths (.integer i)
  | number (depths : Nat) (x : ℚ) (h : NumberReads lib (num x) (normalNumber x)) :
      Writable lib num depths (.number x)
  | string (depths : Nat) (s : Str) : Writable lib num depths (.string s)
  | array (depths : Nat) (elements : List Json) (h : ∀ v ∈ elements, Writable lib num depths v) :
      Writable lib num (depths + 1) (.array elements)
  | object (depths : Nat) (fields : List (Str × Json))
      (h : ∀ field ∈ fields, Writable lib num (depths + 1) (Prod.snd field)) :
      Writable lib num (depths + 1) (.object fields)

/-- No number goes on with this text. -/
def Ends (rest : Str) : Prop := ∀ c ∈ rest.head?, isNumberChar c = false

/-- The first character of a value is not a space, and ends no array or object. -/
def Starts (text : Str) : Prop :=
  ∃ c s, text = c :: s ∧ skipWs text = text ∧ c ≠ ']' ∧ c ≠ '\x7d'

theorem skipWs_cons {c : Char} (h : (c = ' ' || c = '\t' || c = '\n' || c = '\r') = false) (s : Str) :
    skipWs (c :: s) = c :: s := List.dropWhile_cons_of_neg (by rw [h]; decide)

theorem expect_cons_self (c : Char) (s : Str)
    (h : (c = ' ' || c = '\t' || c = '\n' || c = '\r') = false) : expect c (c :: s) = some s := by
  rw [expect, skipWs_cons h]
  exact if_pos rfl

theorem expect_cons_ne {c d : Char} (hne : d ≠ c) (s : Str)
    (h : (d = ' ' || d = '\t' || d = '\n' || d = '\r') = false) : expect c (d :: s) = none := by
  rw [expect, skipWs_cons h]
  exact if_neg hne

section Write

variable {lib : NumberLib} {str bytes : Str → Str} {num : ℚ → Str}

/-- A number starts with a digit or a minus, which are nothing else. -/
theorem number_start {c : Char} (h : c.isDigit = true ∨ c = '-') :
    (c = ' ' || c = '\t' || c = '\n' || c = '\r') = false ∧ c ≠ 'n' ∧ c ≠ 'f' ∧ c ≠ 't' ∧ c ≠ '"' ∧
      c ≠ '[' ∧ c ≠ ']' ∧ c ≠ '\x7b' ∧ c ≠ '\x7d' := by
  have hne : ∀ d : Char, d.isDigit = false → d ≠ '-' → c ≠ d := by
    rintro d hd hminus rfl
    rcases h with h | h
    · rw [hd] at h
      cases h
    · exact hminus h
  refine ⟨?_, hne _ (by decide) (by decide), hne _ (by decide) (by decide),
    hne _ (by decide) (by decide), hne _ (by decide) (by decide), hne _ (by decide) (by decide),
    hne _ (by decide) (by decide), hne _ (by decide) (by decide), hne _ (by decide) (by decide)⟩
  simp [hne ' ' (by decide) (by decide), hne '\t' (by decide) (by decide),
    hne '\n' (by decide) (by decide), hne '\r' (by decide) (by decide)]

theorem starts_of_number {text : Str} {v : Json} (h : NumberReads lib text v) (rest : Str) :
    Starts (text ++ rest) := by
  obtain ⟨c, s, rfl, hc⟩ := h.head
  obtain ⟨hws, -, -, -, -, -, hbracket, -, hbrace⟩ := number_start hc
  exact ⟨c, s ++ rest, rfl, skipWs_cons hws _, hbracket, hbrace⟩

theorem starts_write (hstr : WritesStrings str bytes) {depths : Nat} {v : Json}
    (h : Writable lib num depths v) (rest : Str) : Starts (write str num v ++ rest) := by
  cases h with
  | null _ => exact ⟨_, _, rfl, rfl, by decide, by decide⟩
  | boolean _ b =>
      rw [write]
      cases b with
      | true => exact ⟨_, _, rfl, rfl, by decide, by decide⟩
      | false => exact ⟨_, _, rfl, rfl, by decide, by decide⟩
  | integer _ i hlow hhigh =>
      rw [write]
      exact starts_of_number (numberReads_intToString lib hlow hhigh) rest
  | number _ x h =>
      rw [write]
      exact starts_of_number h rest
  | string _ s =>
      obtain ⟨text, hs, -⟩ := hstr s
      rw [write, hs]
      exact ⟨_, _, rfl, rfl, by decide, by decide⟩
  | array depths elements h =>
      rw [write]
      exact ⟨_, _, rfl, rfl, by decide, by decide⟩
  | object depths fields h =>
      rw [write]
      exact ⟨_, _, rfl, rfl, by decide, by decide⟩

/-- A number is taken up to the first character that belongs to none. -/
theorem parseValue_number {text : Str} {v : Json} (h : NumberReads lib text v) (fuel depths : Nat)
    {rest : Str} (hrest : Ends rest) :
    parseValue lib (fuel + 1) depths (text ++ rest) = some (v, rest) := by
  have hall : ∀ c ∈ text, isNumberChar c = true := h.numberChars
  have htake : (text ++ rest).takeWhile isNumberChar = text := by
    rw [List.takeWhile_append_of_pos hall]
    cases rest with
    | nil => rw [List.takeWhile_nil, List.append_nil]
    | cons c rest =>
        rw [List.takeWhile_cons_of_neg (by rw [hrest c rfl]; decide), List.append_nil]
  have hdrop : (text ++ rest).dropWhile isNumberChar = rest := by
    rw [List.dropWhile_append_of_pos hall]
    cases rest with
    | nil => rfl
    | cons c rest => exact List.dropWhile_cons_of_neg (by rw [hrest c rfl]; decide)
  obtain ⟨c, s, rfl, hc⟩ := h.head
  obtain ⟨hws, hn, hf, ht, hquote, hbracket, -, hbrace, -⟩ := number_start hc
  rw [List.cons_append] at htake hdrop ⊢
  rw [parseValue, skipWs_cons hws]
  simp only [if_neg hn, if_neg hf, if_neg ht, if_neg hquote, if_neg hbracket, if_neg hbrace,
    if_pos hc, htake, hdrop, h.read, Option.map_some]

/-- What is read of the text of `v`, whatever stands behind it. -/
def ReadsBack (lib : NumberLib) (str bytes : Str → Str) (num : ℚ → Str) (v : Json) : Prop :=
  ∀ (depths fuel : Nat) (rest : Str), Writable lib num depths v → Ends rest →
    2 * (write str num v).length ≤ fuel →
    parseValue lib fuel depths (write str num v ++ rest) = some (normal bytes v, rest)

theorem length_pos_write (hstr : WritesStrings str bytes) {depths : Nat} {v : Json}
    (h : Writable lib num depths v) : 0 < (write str num v).length := by
  obtain ⟨c, s, hcons, -⟩ := starts_write hstr h []
  rw [List.append_nil] at hcons
  rw [hcons]
  exact Nat.zero_lt_succ _

theorem parseElements_write : ∀ (vs : List Json) (v : Json),
    (∀ w ∈ v :: vs, ReadsBack lib str bytes num w) → ∀ (depths fuel : Nat) (rest : Str),
    (∀ w ∈ v :: vs, Writable lib num depths w) →
    2 * (writeElements str num true (v :: vs)).length + 1 ≤ fuel →
    parseElements lib fuel depths (writeElements str num true (v :: vs) ++ ']' :: rest) =
      some (normalElements bytes (v :: vs), rest) := by
  intro vs
  induction vs with
  | nil =>
      intro v hback depths fuel rest hwritable hfuel
      obtain ⟨fuel, rfl⟩ : ∃ k, fuel = k + 1 := ⟨fuel - 1, by omega⟩
      have hone : writeElements str num true [v] = write str num v := by
        simp [writeElements]
      rw [hone] at hfuel ⊢
      have hends : Ends (']' :: rest) := by
        intro c hc
        obtain rfl := Option.some.inj hc
        decide
      rw [parseElements, hback v List.mem_cons_self depths fuel _
        (hwritable v List.mem_cons_self) hends (by omega)]
      simp only
      rw [expect_cons_ne (by decide) rest (by decide)]
      simp only
      rw [expect_cons_self ']' rest (by decide)]
      rfl
  | cons w vs ih =>
      intro v hback depths fuel rest hwritable hfuel
      obtain ⟨fuel, rfl⟩ : ∃ k, fuel = k + 1 := ⟨fuel - 1, by omega⟩
      have htwo : writeElements str num true (v :: w :: vs) =
          write str num v ++ ',' :: writeElements str num true (w :: vs) := by
        simp [writeElements]
      rw [htwo, List.length_append, List.length_cons] at hfuel
      rw [htwo, List.append_assoc]
      have hends : Ends (',' :: writeElements str num true (w :: vs) ++ ']' :: rest) := by
        intro c hc
        obtain rfl := Option.some.inj hc
        decide
      rw [parseElements, hback v List.mem_cons_self depths fuel _
        (hwritable v List.mem_cons_self) hends (by omega)]
      simp only
      rw [List.cons_append, expect_cons_self ',' _ (by decide)]
      simp only
      rw [ih w (fun u hu => hback u (List.mem_cons_of_mem v hu)) depths fuel rest
        (fun u hu => hwritable u (List.mem_cons_of_mem v hu)) (by omega)]
      rfl

theorem parseFields_write (hstr : WritesStrings str bytes) : ∀ (fields : List (Str × Json))
    (field : Str × Json), (∀ f ∈ field :: fields, ReadsBack lib str bytes num (Prod.snd f)) →
    ∀ (depths fuel : Nat) (before : List (Str × Json)) (rest : Str),
    (∀ f ∈ field :: fields, Writable lib num depths (Prod.snd f)) →
    2 * (writeFields str num true (field :: fields)).length + 1 ≤ fuel →
    parseFields lib fuel depths before
        (writeFields str num true (field :: fields) ++ '\x7d' :: rest) =
      some (insertFields before (normalFields bytes (field :: fields)), rest) := by
  intro fields
  induction fields with
  | nil =>
      intro field hback depths fuel before rest hwritable hfuel
      obtain ⟨key, v⟩ := field
      obtain ⟨fuel, rfl⟩ : ∃ k, fuel = k + 1 := ⟨fuel - 1, by omega⟩
      obtain ⟨text, hkey, hreads⟩ := hstr key
      have hone : writeFields str num true [(key, v)] =
          '"' :: (text ++ '"' :: ':' :: write str num v) := by
        simp [writeFields, hkey]
      have hlength : (writeFields str num true [(key, v)]).length =
          text.length + 3 + (write str num v).length := by
        rw [hone]
        simp only [List.length_cons, List.length_append]
        omega
      rw [hlength] at hfuel
      have hends : Ends ('\x7d' :: rest) := by
        intro c hc
        obtain rfl := Option.some.inj hc
        decide
      rw [hone, parseFields]
      simp only [List.cons_append, List.append_assoc]
      rw [expect_cons_self '"' _ (by decide), Option.bind_some, hreads.parseString]
      simp only
      rw [expect_cons_self ':' _ (by decide), Option.bind_some,
        hback (key, v) List.mem_cons_self depths fuel _ (hwritable (key, v) List.mem_cons_self)
          hends (show 2 * (write str num v).length ≤ fuel by omega)]
      simp only
      rw [expect_cons_ne (by decide) rest (by decide)]
      simp only
      rw [expect_cons_self '\x7d' rest (by decide)]
      rfl
  | cons next fields ih =>
      intro field hback depths fuel before rest hwritable hfuel
      obtain ⟨key, v⟩ := field
      obtain ⟨fuel, rfl⟩ : ∃ k, fuel = k + 1 := ⟨fuel - 1, by omega⟩
      obtain ⟨text, hkey, hreads⟩ := hstr key
      have htwo : writeFields str num true ((key, v) :: next :: fields) =
          '"' :: (text ++ '"' :: ':' :: (write str num v ++
            ',' :: writeFields str num true (next :: fields))) := by
        obtain ⟨nextKey, nextValue⟩ := next
        simp [writeFields, hkey]
      have hlength : (writeFields str num true ((key, v) :: next :: fields)).length =
          text.length + 4 + (write str num v).length +
            (writeFields str num true (next :: fields)).length := by
        rw [htwo]
        simp only [List.length_cons, List.length_append]
        omega
      rw [hlength] at hfuel
      have hends : Ends (',' :: (writeFields str num true (next :: fields) ++ '\x7d' :: rest)) := by
        intro c hc
        obtain rfl := Option.some.inj hc
        decide
      rw [htwo, parseFields]
      simp only [List.cons_append, List.append_assoc]
      rw [expect_cons_self '"' _ (by decide), Option.bind_some, hreads.parseString]
      simp only
      rw [expect_cons_self ':' _ (by decide), Option.bind_some,
        hback (key, v) List.mem_cons_self depths fuel _ (hwritable (key, v) List.mem_cons_self)
          hends (show 2 * (write str num v).length ≤ fuel by omega)]
      simp only
      rw [expect_cons_self ',' _ (by decide)]
      simp only
      rw [ih next (fun f hf => hback f (List.mem_cons_of_mem _ hf)) depths fuel _ rest
        (fun f hf => hwritable f (List.mem_cons_of_mem _ hf)) (by omega)]
      rfl

/-- **Every value is read back**, by induction over the value. -/
theorem readsBack (hstr : WritesStrings str bytes) (v : Json) : ReadsBack lib str bytes num v := by
  induction v using inductionOn with
  | hnull =>
      intro depths fuel rest _ _ hfuel
      obtain ⟨fuel, rfl⟩ : ∃ k, fuel = k + 1 := ⟨fuel - 1, by simp [write] at hfuel; omega⟩
      rfl
  | hboolean b =>
      intro depths fuel rest _ _ hfuel
      cases b with
      | true =>
          obtain ⟨fuel, rfl⟩ : ∃ k, fuel = k + 1 := ⟨fuel - 1, by simp [write] at hfuel; omega⟩
          rfl
      | false =>
          obtain ⟨fuel, rfl⟩ : ∃ k, fuel = k + 1 := ⟨fuel - 1, by simp [write] at hfuel; omega⟩
          rfl
  | hinteger i =>
      intro depths fuel rest hwritable hrest hfuel
      have hpos := length_pos_write hstr hwritable
      cases hwritable with
      | integer _ _ hlow hhigh =>
          obtain ⟨fuel, rfl⟩ : ∃ k, fuel = k + 1 := ⟨fuel - 1, by omega⟩
          rw [write]
          exact parseValue_number (numberReads_intToString lib hlow hhigh) fuel depths hrest
  | hnumber x =>
      intro depths fuel rest hwritable hrest hfuel
      have hpos := length_pos_write hstr hwritable
      cases hwritable with
      | number _ _ h =>
          obtain ⟨fuel, rfl⟩ : ∃ k, fuel = k + 1 := ⟨fuel - 1, by omega⟩
          rw [write]
          exact parseValue_number h fuel depths hrest
  | hstring s =>
      intro depths fuel rest hwritable hrest hfuel
      have hpos := length_pos_write hstr hwritable
      obtain ⟨fuel, rfl⟩ : ∃ k, fuel = k + 1 := ⟨fuel - 1, by omega⟩
      obtain ⟨text, hs, hreads⟩ := hstr s
      have hparse := hreads.parseString rest
      rw [write, hs, parseValue]
      simp only [List.cons_append, List.append_assoc]
      rw [skipWs_cons (by decide)]
      simp [hparse, normal]
  | harray elements ih =>
      intro depths fuel rest hwritable hrest hfuel
      have hpos := length_pos_write hstr hwritable
      obtain ⟨fuel, rfl⟩ : ∃ k, fuel = k + 1 := ⟨fuel - 1, by omega⟩
      cases hwritable with
      | array depths _ h =>
          rw [write] at hfuel ⊢
          rw [parseValue]
          simp only [List.cons_append, List.append_assoc]
          rw [skipWs_cons (by decide)]
          cases elements with
          | nil =>
              have hclose : expect ']' (writeElements str num true [] ++ ']' :: rest) = some rest :=
                expect_cons_self ']' rest (by decide)
              simp [hclose, normal, normalElements]
          | cons v vs =>
              have hfirst : writeElements str num true (v :: vs) =
                  write str num v ++ writeElements str num false vs := by
                simp [writeElements]
              obtain ⟨c, s, hcons, hws, hbracket, -⟩ :=
                starts_write hstr (h v List.mem_cons_self)
                  (writeElements str num false vs ++ ']' :: rest)
              have hopen : expect ']' (writeElements str num true (v :: vs) ++ ']' :: rest) =
                  none := by
                rw [hfirst, List.append_assoc, expect, hws, hcons]
                exact if_neg hbracket
              have hparse := parseElements_write vs v ih depths fuel rest h (by
                simp only [List.length_cons, List.length_append, List.length_nil] at hfuel
                omega)
              simp [hopen, hparse, normal]
  | hobject fields ih =>
      intro depths fuel rest hwritable hrest hfuel
      have hpos := length_pos_write hstr hwritable
      obtain ⟨fuel, rfl⟩ : ∃ k, fuel = k + 1 := ⟨fuel - 1, by omega⟩
      cases hwritable with
      | object depths _ h =>
          rw [write] at hfuel ⊢
          rw [parseValue]
          simp only [List.cons_append, List.append_assoc]
          rw [skipWs_cons (by decide)]
          cases fields with
          | nil =>
              have hclose : expect '\x7d' (writeFields str num true [] ++ '\x7d' :: rest) =
                  some rest := expect_cons_self '\x7d' rest (by decide)
              simp [hclose, normal, normalFields, insertFields]
          | cons field fields =>
              obtain ⟨key, v⟩ := field
              obtain ⟨text, hkey, -⟩ := hstr key
              have hopen : expect '\x7d' (writeFields str num true ((key, v) :: fields) ++
                  '\x7d' :: rest) = none := by
                have hquote : ∃ s, writeFields str num true ((key, v) :: fields) = '"' :: s := by
                  exact ⟨_, by simp only [writeFields, hkey, if_true, List.nil_append]; rfl⟩
                obtain ⟨s, hs⟩ := hquote
                rw [hs]
                exact expect_cons_ne (by decide) _ (by decide)
              have hparse := parseFields_write hstr fields (key, v) ih (depths + 1) fuel [] rest h
                (by
                  simp only [List.length_cons, List.length_append, List.length_nil] at hfuel
                  omega)
              simp [hopen, hparse, normal]

end Write

/-- **What is written is read back**, with nothing but the order of fields and the type of whole
numbers changed. -/
theorem parse_write {lib : NumberLib} {str bytes : Str → Str} {num : ℚ → Str}
    (hstr : WritesStrings str bytes) {v : Json} (h : Writable lib num 100 v) :
    parse lib (write str num v) = some (normal bytes v) := by
  have hends : Ends [] := fun c hc => (by cases hc)
  have hback : ReadsBack lib str bytes num v := readsBack hstr v
  have hread := hback 100 (2 * (write str num v).length + 2) [] h hends (by omega)
  rw [List.append_nil] at hread
  rw [parse, hread]
  rfl

/-! ## Values of the library -/

/-- A value as the library has it when all its numbers are read back: the fields of an object are in
the order of their names, and a double has a fraction. -/
inductive Canonical : Json → Prop
  | null : Canonical .null
  | boolean (b : Bool) : Canonical (.boolean b)
  | integer (i : Int) : Canonical (.integer i)
  | number (x : ℚ) (h : ¬ isWhole x) : Canonical (.number x)
  | string (s : Str) : Canonical (.string s)
  | array (elements : List Json) (h : ∀ v ∈ elements, Canonical v) : Canonical (.array elements)
  | object (fields : List (Str × Json)) (sorted : fields.Pairwise (·.1 < ·.1))
      (h : ∀ field ∈ fields, Canonical (Prod.snd field)) : Canonical (.object fields)

theorem key_ne_of_lt {a b : Str} (h : a < b) : a ≠ b := by
  rintro rfl
  exact List.lt_irrefl a h

theorem key_lt_of_not {a b : Str} (hne : a ≠ b) (h : ¬ a < b) : b < a := by
  by_contra hnot
  exact hne (List.le_antisymm hnot h)

theorem insertField_last {key : Str} {v : Json} {fields : List (Str × Json)}
    (h : ∀ field ∈ fields, field.1 < key) : insertField key v fields = fields ++ [(key, v)] := by
  induction fields with
  | nil => rfl
  | cons field fields ih =>
      obtain ⟨hfield, hfields⟩ := List.forall_mem_cons.mp h
      rw [insertField, if_neg (key_ne_of_lt hfield).symm, if_neg (List.lt_asymm hfield), ih hfields]
      rfl

/-- Fields that come in order stay in order. -/
theorem insertFields_sorted {before fields : List (Str × Json)}
    (h : (before ++ fields).Pairwise (·.1 < ·.1)) : insertFields before fields = before ++ fields := by
  induction fields generalizing before with
  | nil => exact (List.append_nil before).symm
  | cons field fields ih =>
      have hlast : insertField field.1 field.2 before = before ++ [field] :=
        insertField_last fun other hother =>
          (List.pairwise_append.mp h).2.2 other hother field List.mem_cons_self
      have happend : before ++ field :: fields = (before ++ [field]) ++ fields := by simp
      show insertFields (insertField field.1 field.2 before) fields = _
      rw [hlast, happend]
      exact ih (happend ▸ h)

theorem normalElements_eq {bytes : Str → Str} {vs : List Json} (h : ∀ v ∈ vs, normal bytes v = v) :
    normalElements bytes vs = vs := by
  induction vs with
  | nil => rfl
  | cons v vs ih =>
      obtain ⟨hv, hvs⟩ := List.forall_mem_cons.mp h
      rw [normalElements, hv, ih hvs]

theorem normalFields_eq {fields : List (Str × Json)}
    (h : ∀ field ∈ fields, normal id (Prod.snd field) = Prod.snd field) :
    normalFields id fields = fields := by
  induction fields with
  | nil => rfl
  | cons field fields ih =>
      obtain ⟨hfield, hfields⟩ := List.forall_mem_cons.mp h
      rw [normalFields, hfield, ih hfields]
      rfl

theorem normal_of_canonical {v : Json} (h : Canonical v) : normal id v = v := by
  induction v using inductionOn with
  | hnull => rfl
  | hboolean b => rfl
  | hinteger i => rfl
  | hnumber x =>
      cases h with
      | number _ h => rw [normal, normalNumber, if_neg h]
  | hstring s => rfl
  | harray elements ih =>
      cases h with
      | array _ h => rw [normal, normalElements_eq fun v hv => ih v hv (h v hv)]
  | hobject fields ih =>
      cases h with
      | object _ sorted h =>
          have hsorted : insertFields [] fields = fields := @insertFields_sorted [] fields sorted
          rw [normal, normalFields_eq fun field hfield => ih field hfield (h field hfield), hsorted]

theorem mem_insertField {key : Str} {v : Json} {fields : List (Str × Json)} {field : Str × Json}
    (h : field ∈ insertField key v fields) : field = (key, v) ∨ field ∈ fields := by
  induction fields with
  | nil => exact .inl (List.mem_singleton.mp h)
  | cons other fields ih =>
      rw [insertField] at h
      split at h
      · rcases List.mem_cons.mp h with rfl | h
        · exact .inl rfl
        · exact .inr (List.mem_cons_of_mem _ h)
      split at h
      · rcases List.mem_cons.mp h with rfl | h
        · exact .inl rfl
        · exact .inr h
      · rcases List.mem_cons.mp h with rfl | h
        · exact .inr List.mem_cons_self
        · rcases ih h with rfl | h
          · exact .inl rfl
          · exact .inr (List.mem_cons_of_mem _ h)

/-- A map stays in the order of its keys. -/
theorem insertField_pairwise {key : Str} {v : Json} {fields : List (Str × Json)}
    (h : fields.Pairwise (·.1 < ·.1)) : (insertField key v fields).Pairwise (·.1 < ·.1) := by
  induction fields with
  | nil => exact List.pairwise_singleton _ _
  | cons other fields ih =>
      obtain ⟨hother, hfields⟩ := List.pairwise_cons.mp h
      rw [insertField]
      split
      · rename_i hkey
        exact List.pairwise_cons.mpr ⟨fun field hfield => hkey ▸ hother field hfield, hfields⟩
      split
      · rename_i hlt
        refine List.pairwise_cons.mpr ⟨fun field hfield => ?_, h⟩
        rcases List.mem_cons.mp hfield with rfl | hfield
        · exact hlt
        · exact List.lt_trans hlt (hother field hfield)
      · rename_i hne hnot
        refine List.pairwise_cons.mpr ⟨fun field hfield => ?_, ih hfields⟩
        rcases mem_insertField hfield with rfl | hfield
        · exact key_lt_of_not hne hnot
        · exact hother field hfield

theorem insertFields_invariant {P : Json → Prop} {before fields : List (Str × Json)}
    (hbefore : before.Pairwise (·.1 < ·.1) ∧ ∀ field ∈ before, P (Prod.snd field))
    (hfields : ∀ field ∈ fields, P (Prod.snd field)) :
    (insertFields before fields).Pairwise (·.1 < ·.1) ∧
      ∀ field ∈ insertFields before fields, P (Prod.snd field) := by
  induction fields generalizing before with
  | nil => exact hbefore
  | cons field fields ih =>
      obtain ⟨hfield, hfields⟩ := List.forall_mem_cons.mp hfields
      refine ih ⟨insertField_pairwise hbefore.1, fun other hother => ?_⟩ hfields
      rcases mem_insertField hother with rfl | hother
      · exact hfield
      · exact hbefore.2 other hother

/-- What is read is canonical. -/
theorem canonical_normal (bytes : Str → Str) (v : Json) : Canonical (normal bytes v) := by
  induction v using inductionOn with
  | hnull => exact .null
  | hboolean b => exact .boolean b
  | hinteger i => exact .integer i
  | hnumber x =>
      rw [normal, normalNumber]
      split
      · exact .integer _
      · rename_i h
        exact .number x h
  | hstring s => exact .string _
  | harray elements ih =>
      rw [normal]
      refine .array _ ?_
      induction elements with
      | nil => exact fun v hv => (by cases hv)
      | cons v vs ihvs =>
          obtain ⟨hv, hvs⟩ := List.forall_mem_cons.mp ih
          exact List.forall_mem_cons.mpr ⟨hv, ihvs hvs⟩
  | hobject fields ih =>
      rw [normal]
      have hall : ∀ field ∈ normalFields bytes fields, Canonical (Prod.snd field) := by
        induction fields with
        | nil => exact fun field hfield => (by cases hfield)
        | cons field fields ihfields =>
            obtain ⟨hfield, hfields⟩ := List.forall_mem_cons.mp ih
            exact List.forall_mem_cons.mpr ⟨hfield, ihfields hfields⟩
      have hnone : ([] : List (Str × Json)).Pairwise (·.1 < ·.1) ∧
          ∀ field ∈ ([] : List (Str × Json)), Canonical (Prod.snd field) :=
        ⟨List.Pairwise.nil, fun field hfield => (by cases hfield)⟩
      obtain ⟨hsorted, hcanonical⟩ := insertFields_invariant hnone hall
      exact .object _ hsorted hcanonical

/-- **What `serialize` writes, `parse` reads**, and what has been read once is read as it is. -/
theorem parse_serialize {lib : NumberLib} {v : Json} (h : Writable lib (numberText lib) 100 v) :
    parse lib (serialize lib v) = some (normal id v) ∧ Canonical (normal id v) ∧
      (Canonical v → parse lib (serialize lib v) = some v) := by
  have hread : parse lib (serialize lib v) = some (normal id v) :=
    parse_write writesStrings_serializeStr h
  refine ⟨hread, canonical_normal id v, fun hcanonical => ?_⟩
  rw [hread, normal_of_canonical hcanonical]

/-! A value with fields out of order, a string with escapes, a whole double and a fraction. -/

def sampleNumbers : NumberLib where
  format17g x := if x = 1 / 2 then "0.5".toList else []
  strtod s := if s = "0.5".toList then some (1 / 2) else none

def sampleValue : Json :=
  .object
    [ ("list".toList, .array [.integer (-7), .number 3, .string "a\"/\n".toList, .null])
    , ("half".toList, .number (1 / 2)) ]

theorem numberReads_half :
    NumberReads sampleNumbers (numberText sampleNumbers (1 / 2)) (normalNumber (1 / 2)) := by
  have hden : ((1 : ℚ) / 2).den ≠ 1 := by decide +kernel
  have htext : numberText sampleNumbers (1 / 2) = "0.5".toList := by
    rw [numberText, if_neg fun h => hden h.2]
    exact if_pos rfl
  have hnormal : normalNumber (1 / 2) = .number (1 / 2) := if_neg fun h => hden h.2
  rw [htext, hnormal]
  refine ⟨⟨'0', ".5".toList, rfl, .inl rfl⟩, List.all_eq_true.mp (by decide), ?_⟩
  have hinteger : strtoimax "0.5".toList = none := by decide
  have hstrtod : sampleNumbers.strtod "0.5".toList = some (1 / 2) := by
    simp [sampleNumbers]
  rw [readNumber, hinteger]
  simp only [hstrtod, Option.map_some]

theorem parse_serialize_sample :
    parse sampleNumbers (serialize sampleNumbers sampleValue) = some (normal id sampleValue) ∧
      Canonical (normal id sampleValue) ∧
      (Canonical sampleValue →
        parse sampleNumbers (serialize sampleNumbers sampleValue) = some sampleValue) := by
  refine parse_serialize (.object 99 _ ?_)
  simp only [List.forall_mem_cons, List.not_mem_nil, false_implies, implies_true, and_true]
  refine ⟨.array 99 _ ?_, .number _ _ numberReads_half⟩
  simp only [List.forall_mem_cons, List.not_mem_nil, false_implies, implies_true, and_true]
  exact ⟨.integer _ _ (by decide) (by decide),
    .number _ _ (numberReads_numberText _ (by norm_num)), .string _ _, .null _⟩

end Json

end DaraChat
