import DaraChat.Group.Wire

set_option autoImplicit false

/-! # Malformed rosters

`GroupInfo::Deserialize` answers a text of fewer than five parts with the default value, and hands
the two numbers of any other text to `std::stoi`, which throws. `deserializeInt` is the reader with
the exceptions and the range of `int`; where no exception is thrown it is the reader of `Group.Wire`
(`deserializeInt_eq_ok`). `decodesTotally_iff` says on which texts it does what it does on
a text of too few parts: report what is no roster by the default value.
-/

namespace DaraChat

/-! ## The range of `int` -/

/-- The value is one of an `int`. -/
def FitsInt (i : Int) : Prop := -2147483648 ≤ i ∧ i ≤ 2147483647

instance (i : Int) : Decidable (FitsInt i) := inferInstanceAs (Decidable (_ ∧ _))

/-- The exceptions of `std::stoi`. -/
inductive StoiError
  | invalidArgument
  | outOfRange
  deriving DecidableEq, Repr

/-- `std::stoi`, with the range of its result. -/
def stoiInt (s : Str) : Except StoiError Int :=
  match stoi s with
  | none => .error .invalidArgument
  | some i => if FitsInt i then .ok i else .error .outOfRange

theorem stoiInt_eq_ok {s : Str} {i : Int} : stoiInt s = .ok i ↔ stoi s = some i ∧ FitsInt i := by
  unfold stoiInt
  cases h : stoi s with
  | none => simp
  | some j =>
      by_cases hj : FitsInt j
      · simp only [if_pos hj, Except.ok.injEq, Option.some.injEq]
        exact ⟨fun heq => ⟨heq, heq ▸ hj⟩, fun h => h.1⟩
      · simp only [if_neg hj, reduceCtorEq, Option.some.injEq, false_iff, not_and]
        exact fun heq => heq ▸ hj

/-! ## Decimal integers -/

/-- The value of a text that is digits and nothing else. -/
def digitsValue (digits : Str) : Option Nat :=
  if digits ≠ [] ∧ digits.all Char.isDigit = true then some (Nat.ofDigitChars 10 digits 0) else none

/-- The value of a decimal integer: digits, perhaps after a sign. -/
def decimalValue : Str → Option Int
  | '-' :: digits => (digitsValue digits).map fun n : Nat => -(n : Int)
  | '+' :: digits => (digitsValue digits).map fun n : Nat => (n : Int)
  | digits => (digitsValue digits).map fun n : Nat => (n : Int)

/-- The text is a decimal integer that an `int` can hold. -/
def IsIntNumeral (s : Str) : Prop := ∃ i ∈ decimalValue s, FitsInt i

instance (s : Str) : Decidable (IsIntNumeral s) :=
  inferInstanceAs (Decidable (∃ i ∈ decimalValue s, FitsInt i))

theorem digitsValue_eq_some {digits : Str} {n : Nat} (h : digitsValue digits = some n) :
    digits ≠ [] ∧ digits.takeWhile Char.isDigit = digits ∧ Nat.ofDigitChars 10 digits 0 = n := by
  unfold digitsValue at h
  split at h
  case isFalse => cases h
  case isTrue hdigits =>
    have hall : ∀ c ∈ digits, c.isDigit = true := List.all_eq_true.mp hdigits.2
    exact ⟨hdigits.1, List.takeWhile_eq_self_iff.mpr hall, Option.some.inj h⟩

/-- What `std::stoi` reads after the blanks and the sign. -/
theorem stoi_of_digits {digits : Str} {n : Nat} (h : digitsValue digits = some n) :
    stoi digits = some (n : Int) ∧ stoi ('-' :: digits) = some (-(n : Int)) ∧
      stoi ('+' :: digits) = some (n : Int) := by
  obtain ⟨hne, htake, hvalue⟩ := digitsValue_eq_some h
  obtain ⟨d, ds, rfl⟩ := List.exists_cons_of_ne_nil hne
  have hdigit : d.isDigit = true :=
    List.takeWhile_eq_self_iff.mp htake d List.mem_cons_self
  obtain ⟨hspace, hminus, hplus⟩ := digit_plain hdigit
  refine ⟨?_, ?_, ?_⟩
  · have hdrop : (d :: ds).dropWhile isSpace = d :: ds :=
      List.dropWhile_cons_of_neg (by simp [hspace])
    simp only [stoi, hdrop, List.head?_cons, Option.some.injEq, hminus, hplus, or_self, if_false,
      htake, hvalue, if_neg hne]
  · have hdrop : ('-' :: d :: ds).dropWhile isSpace = '-' :: d :: ds :=
      List.dropWhile_cons_of_neg (by decide)
    simp only [stoi, hdrop, List.head?_cons, true_or, if_true, List.drop_one, List.tail_cons, htake,
      hvalue, if_neg hne]
  · have hdrop : ('+' :: d :: ds).dropWhile isSpace = '+' :: d :: ds :=
      List.dropWhile_cons_of_neg (by decide)
    have hsign : ¬ (some '+' = some '-') := by decide
    simp only [stoi, hdrop, List.head?_cons, or_true, if_true, List.drop_one, List.tail_cons, htake,
      hvalue, if_neg hne, if_neg hsign]

theorem stoi_of_decimalValue {s : Str} {i : Int} (h : decimalValue s = some i) :
    stoi s = some i := by
  unfold decimalValue at h
  split at h
  all_goals
    obtain ⟨n, hn, rfl⟩ := Option.map_eq_some_iff.mp h
  · exact (stoi_of_digits hn).2.1
  · exact (stoi_of_digits hn).2.2
  · exact (stoi_of_digits hn).1

/-- A decimal integer is read without an exception. -/
theorem IsIntNumeral.stoiInt {s : Str} (h : IsIntNumeral s) : ∃ i, stoiInt s = .ok i := by
  obtain ⟨i, hi, hfits⟩ := h
  exact ⟨i, stoiInt_eq_ok.mpr ⟨stoi_of_decimalValue hi, hfits⟩⟩

namespace GroupInfo

/-! ## The reader with its exceptions -/

/-- `GroupInfo::Deserialize`; the exceptions of `std::stoi` are not caught. -/
def deserializeInt (now : Time) (msg : Str) : Except StoiError GroupInfo :=
  match getlines ';' [] msg with
  | groupId :: leaderName :: isLeader :: memberCount :: errorCode :: members => do
      let memberCount ← stoiInt memberCount
      let errorCode ← stoiInt errorCode
      return { groupId := groupId, leaderName := leaderName
               isLeader := decide (isLeader = "1".toList), memberCount := memberCount
               errorCode := errorCode, groupMembers := members.map (readMember now) }
  -- fewer than five parts: the default value
  | _ => return {}

section Deserialize

variable {now : Time} {msg : Str}

/-- **Where no exception is thrown, the reader is that of `Group.Wire`**, with numbers that an `int`
can hold. -/
theorem deserializeInt_eq_ok {info : GroupInfo} :
    deserializeInt now msg = .ok info ↔
      deserialize now msg = some info ∧ FitsInt info.memberCount ∧ FitsInt info.errorCode := by
  unfold deserializeInt
  split
  case h_1 groupId leaderName isLeader memberCount errorCode members hparts =>
    simp only [deserialize, hparts, bind_eq_ok, stoiInt_eq_ok, Option.bind_eq_bind,
      Option.bind_eq_some_iff, Option.some.injEq, pure, Except.pure, Except.ok.injEq]
    constructor
    · rintro ⟨count, ⟨hcount, hfits⟩, code, ⟨hcode, hfits'⟩, rfl⟩
      exact ⟨⟨count, hcount, code, hcode, rfl⟩, hfits, hfits'⟩
    · rintro ⟨⟨count, hcount, code, hcode, rfl⟩, hfits, hfits'⟩
      exact ⟨count, ⟨hcount, hfits⟩, code, ⟨hcode, hfits'⟩, rfl⟩
  case h_2 hfew =>
    have hdefault : deserialize now msg = some {} := by
      unfold deserialize
      split
      case h_1 hparts => exact absurd hparts (hfew _ _ _ _ _ _)
      case h_2 => rfl
    rw [hdefault]
    constructor
    · intro h
      obtain rfl := Except.ok.inj h
      exact ⟨rfl, by decide, by decide⟩
    · rintro ⟨h, -, -⟩
      obtain rfl := Option.some.inj h
      rfl

/-- A roster whose numbers an `int` can hold is read back by this reader too. -/
theorem deserializeInt_serializeToSend (now : Time) {info : GroupInfo} (hid : ';' ∉ info.groupId)
    (hleader : ';' ∉ info.leaderName) (hmembers : ∀ member ∈ info.groupMembers, ';' ∉ member.name)
    (hcount : FitsInt info.memberCount) (hcode : FitsInt info.errorCode) :
    deserializeInt now info.serializeToSend = .ok (info.received now) :=
  deserializeInt_eq_ok.mpr ⟨deserialize_serializeToSend now hid hleader hmembers, hcount, hcode⟩

/-! ## Malformed texts -/

/-- The text has five parts or more, and one of the two that are to be numbers is none. -/
def Malformed (msg : Str) : Prop :=
  match getlines ';' [] msg with
  | _ :: _ :: _ :: memberCount :: errorCode :: _ =>
      ¬ (IsIntNumeral memberCount ∧ IsIntNumeral errorCode)
  | _ => False

/-- The reader returns, and reports a malformed text by the default value. -/
def DecodesTotally (now : Time) (msg : Str) : Prop :=
  (∃ info, deserializeInt now msg = .ok info) ∧
    (Malformed msg → deserializeInt now msg = .ok {})

/-- A text whose parts happen to read as those of the default value: both names empty, no leader
flag, no members, and two numbers that `std::stoi` takes for zero. -/
def ReadsAsDefault (msg : Str) : Prop :=
  ∃ isLeader memberCount errorCode,
    getlines ';' [] msg = [[], [], isLeader, memberCount, errorCode] ∧ isLeader ≠ "1".toList ∧
      stoi memberCount = some 0 ∧ stoi errorCode = some 0

theorem deserializeInt_of_readsAsDefault (h : ReadsAsDefault msg) :
    deserializeInt now msg = .ok {} := by
  obtain ⟨isLeader, memberCount, errorCode, hparts, hflag, hcount, hcode⟩ := h
  have hzero : ∀ {s : Str}, stoi s = some 0 → stoiInt s = .ok 0 := fun hs =>
    stoiInt_eq_ok.mpr ⟨hs, by decide⟩
  simp only [deserializeInt, hparts, hzero hcount, hzero hcode, hflag, decide_false]
  rfl

/-- The default value is read from nothing else, if there are five parts. -/
theorem readsAsDefault_of_malformed (hmalformed : Malformed msg)
    (h : deserializeInt now msg = .ok {}) : ReadsAsDefault msg := by
  unfold Malformed at hmalformed
  unfold deserializeInt at h
  split at h
  case h_2 hfew =>
    split at hmalformed
    case h_1 hparts => exact absurd hparts (hfew _ _ _ _ _ _)
    case h_2 => exact hmalformed.elim
  case h_1 groupId leaderName isLeader memberCount errorCode members hparts =>
    obtain ⟨count, hcount, h⟩ := bind_eq_ok.mp h
    obtain ⟨code, hcode, h⟩ := bind_eq_ok.mp h
    obtain ⟨rfl, rfl, hflag, rfl, rfl, hmembers⟩ := by
      simpa only [pure, Except.pure, Except.ok.injEq, GroupInfo.mk.injEq] using h
    obtain rfl := List.map_eq_nil_iff.mp hmembers
    exact ⟨isLeader, memberCount, errorCode, hparts, of_decide_eq_false hflag,
      (stoiInt_eq_ok.mp hcount).1, (stoiInt_eq_ok.mp hcode).1⟩

/-- A text that is not malformed is read. -/
theorem deserializeInt_of_not_malformed (now : Time) (h : ¬ Malformed msg) :
    ∃ info, deserializeInt now msg = .ok info := by
  unfold Malformed at h
  unfold deserializeInt
  split
  case h_2 => exact ⟨{}, rfl⟩
  case h_1 groupId leaderName isLeader memberCount errorCode members hparts =>
    rw [hparts] at h
    obtain ⟨hcount, hcode⟩ := not_not.mp h
    obtain ⟨count, hcount⟩ := hcount.stoiInt
    obtain ⟨code, hcode⟩ := hcode.stoiInt
    exact ⟨_, bind_eq_ok.mpr ⟨count, hcount, bind_eq_ok.mpr ⟨code, hcode, rfl⟩⟩⟩

/-- **Exactly the texts that are not malformed decode as they should**, and those malformed ones
that cannot be told from the default value. -/
theorem decodesTotally_iff (now : Time) (msg : Str) :
    DecodesTotally now msg ↔ ¬ Malformed msg ∨ ReadsAsDefault msg := by
  constructor
  · rintro ⟨-, hdefault⟩
    by_cases hmalformed : Malformed msg
    · exact .inr (readsAsDefault_of_malformed hmalformed (hdefault hmalformed))
    · exact .inl hmalformed
  · rintro (hformed | hreads)
    · exact ⟨deserializeInt_of_not_malformed now hformed, fun h => absurd h hformed⟩
    · have hread : deserializeInt now msg = .ok {} := deserializeInt_of_readsAsDefault hreads
      exact ⟨⟨{}, hread⟩, fun _ => hread⟩

end Deserialize

/-- A word where the number of members should be: the exception escapes. -/
theorem not_decodesTotally_word :
    deserializeInt 0 "group_a;Tirio;1;two;0;Tirio,1".toList = .error .invalidArgument ∧
      ¬ DecodesTotally 0 "group_a;Tirio;1;two;0;Tirio,1".toList := by
  have hthrows : deserializeInt 0 "group_a;Tirio;1;two;0;Tirio,1".toList =
      .error .invalidArgument := by
    decide +kernel
  refine ⟨hthrows, ?_⟩
  rintro ⟨⟨info, hinfo⟩, -⟩
  rw [hthrows] at hinfo
  cases hinfo

end GroupInfo

end DaraChat
