import DaraChat.Group.Lookup
import Mathlib.Data.List.TakeWhile

set_option autoImplicit false

/-! # Rosters on the wire (`GroupContainer.cpp`, `GroupInfo`)

A `GroupInfo` is written as `groupId;leaderName;isLeader;memberCount;errorCode` and one part
`name,online` for each member. `GroupInfo.deserialize` is the reader of the source. Nothing is
escaped, but a text is read back as long as no id or name contains a `;`
(`deserialize_serializeToSend`): a comma in a name does no harm, because the last one counts.
-/

namespace DaraChat

/-! ## Numbers -/

/-- `std::isspace`. -/
def isSpace (c : Char) : Bool := c = ' ' || ('\t'.toNat ≤ c.toNat && c.toNat ≤ '\r'.toNat)

/-- `std::stoi`; `none` is the exception for a text without a number. Numbers are unbounded here,
as in `GroupInfo`, so there is no exception for one that is too large. -/
def stoi (s : Str) : Option Int :=
  let s := s.dropWhile isSpace
  let negative := s.head? = some '-'
  let s := if negative ∨ s.head? = some '+' then s.drop 1 else s
  let digits := s.takeWhile Char.isDigit
  if digits = [] then none
  else
    let magnitude : Int := Nat.ofDigitChars 10 digits 0
    some (if negative then -magnitude else magnitude)

/-- A digit is neither a space nor a sign. -/
theorem digit_plain {c : Char} (h : c.isDigit = true) : isSpace c = false ∧ c ≠ '-' ∧ c ≠ '+' := by
  refine ⟨?_, ?_, ?_⟩
  · have hlow : 48 ≤ c.toNat := by
      simp only [Char.isDigit, Bool.and_eq_true, decide_eq_true_eq] at h
      exact h.1
    have hspace : c ≠ ' ' := by
      rintro rfl
      exact absurd h (by decide)
    have htab : 9 ≤ c.toNat → 13 < c.toNat := by omega
    simpa [isSpace, hspace] using htab
  · rintro rfl
    exact absurd h (by decide)
  · rintro rfl
    exact absurd h (by decide)

theorem takeWhile_natToString (n : Nat) : (natToString n).takeWhile Char.isDigit = natToString n := by
  have hall : ∀ c ∈ natToString n, c.isDigit = true := fun c => natToString_isDigit
  exact List.takeWhile_eq_self_iff.mpr hall

theorem stoi_natToString (n : Nat) : stoi (natToString n) = some (n : Int) := by
  obtain ⟨d, ds, hn⟩ := List.exists_cons_of_ne_nil (natToString_ne_nil n)
  obtain ⟨hspace, hminus, hplus⟩ := digit_plain (c := d)
    (natToString_isDigit (n := n) (by rw [hn]; exact List.mem_cons_self))
  have hdrop : (natToString n).dropWhile isSpace = natToString n := by
    rw [hn, List.dropWhile_cons_of_neg (by simp [hspace])]
  have hhead : (natToString n).head? = some d := by rw [hn]; rfl
  have hsign : ¬ (d = '-' ∨ d = '+') := not_or.mpr ⟨hminus, hplus⟩
  simp only [stoi, hdrop, hhead, Option.some.injEq]
  rw [if_neg hsign, takeWhile_natToString, if_neg (natToString_ne_nil n), if_neg hminus]
  exact congrArg (fun n : Nat => some (n : Int)) Nat.ofDigitChars_ten_toDigits

/-- What `std::to_string` writes, `std::stoi` reads. -/
theorem stoi_intToString (i : Int) : stoi (intToString i) = some i := by
  cases i with
  | ofNat n => exact stoi_natToString n
  | negSucc n =>
      have hdrop : (intToString (.negSucc n)).dropWhile isSpace = '-' :: natToString (n + 1) := by
        rw [intToString, List.dropWhile_cons_of_neg (by decide)]
      simp only [stoi, hdrop, List.head?_cons, List.drop_one, List.tail_cons, true_or, if_true]
      rw [takeWhile_natToString, if_neg (natToString_ne_nil _)]
      exact congrArg (fun n : Nat => some (-(n : Int))) Nat.ofDigitChars_ten_toDigits

theorem intToString_isNumeral (i : Int) : ∀ c ∈ intToString i, c = '-' ∨ c.isDigit = true := by
  cases i with
  | ofNat n => exact fun c hc => .inr (natToString_isDigit hc)
  | negSucc n =>
      intro c hc
      rcases List.mem_cons.mp hc with rfl | hc
      · exact .inl rfl
      · exact .inr (natToString_isDigit hc)

theorem intToString_ne_nil (i : Int) : intToString i ≠ [] := by
  cases i with
  | ofNat n => exact natToString_ne_nil n
  | negSucc n => exact List.cons_ne_nil _ _

/-- No number contains the separator. -/
theorem separator_notMem_intToString (i : Int) : ';' ∉ intToString i := by
  intro h
  rcases intToString_isNumeral i ';' h with h | h
  · exact absurd h (by decide)
  · exact absurd h (by decide)

namespace GroupInfo

/-! ## The reader -/

/-- The loop body of `GroupInfo::Deserialize`: a part is a name, a comma and a flag; a part of
another form is a name, as in the legacy protocol. -/
def readMember (now : Time) (part : Str) : GroupMember :=
  match rfind part ',' with
  | some sep =>
      let flag := part.drop (sep + 1)
      if flag = "0".toList ∨ flag = "1".toList then
        { name := part.take sep, isOnline := decide (flag = "1".toList), storeTime := now }
      else { name := part, storeTime := now }
  | none => { name := part, storeTime := now }

/-- `GroupInfo::Deserialize`; `none` is the exception of `std::stoi`. The clock is read by the
constructor of `GroupMember`. -/
def deserialize (now : Time) (msg : Str) : Option GroupInfo :=
  match getlines ';' [] msg with
  | groupId :: leaderName :: isLeader :: memberCount :: errorCode :: members => do
      let memberCount ← stoi memberCount
      let errorCode ← stoi errorCode
      return { groupId := groupId, leaderName := leaderName
               isLeader := decide (isLeader = "1".toList), memberCount := memberCount
               errorCode := errorCode, groupMembers := members.map (readMember now) }
  -- fewer than five parts: the default value
  | _ => some {}

/-! ## Reading what was written -/

/-- The part of a member. -/
def memberText (member : GroupMember) : Str :=
  member.name ++ ',' :: (if member.isOnline then "1".toList else "0".toList)

theorem intercalate_cons (c : Char) (part : Str) (parts : List Str) :
    [c].intercalate (part :: parts) = part ++ parts.flatMap (c :: ·) := by
  induction parts generalizing part with
  | nil => simp
  | cons next parts ih => rw [List.intercalate_cons_cons, ih]; simp

/-- The text is its parts with the separator between them. -/
theorem serializeToSend_eq (info : GroupInfo) :
    info.serializeToSend = [';'].intercalate
      (info.groupId :: info.leaderName :: boolToString info.isLeader ::
        intToString info.memberCount :: intToString info.errorCode ::
        info.groupMembers.map memberText) := by
  have hmembers : ∀ (members : List GroupMember) (start : Str),
      members.foldl (fun serialized member =>
        serialized ++ ";".toList ++ member.name ++ ",".toList
          ++ (if member.isOnline then "1".toList else "0".toList)) start =
      start ++ (members.map memberText).flatMap (';' :: ·) := by
    intro members
    induction members with
    | nil => simp
    | cons member members ih =>
        intro start
        rw [List.foldl_cons, ih]
        simp [memberText]
  rw [serializeToSend, hmembers, intercalate_cons]
  simp

theorem separator_notMem_memberText {member : GroupMember} (h : ';' ∉ member.name) :
    ';' ∉ memberText member := by
  have hflag : ';' ∉ (',' :: if member.isOnline then "1".toList else "0".toList : Str) := by
    cases member.isOnline <;> decide
  exact fun hmem => (List.mem_append.mp hmem).elim h hflag

/-- A member's part is read back: name and online flag are what it shows of him. -/
theorem readMember_memberText (now : Time) (member : GroupMember) :
    readMember now (memberText member) =
      { name := member.name, isOnline := member.isOnline, storeTime := now } := by
  have hsep : rfind (memberText member) ',' = some member.name.length := by
    refine rfind_append_cons ?_
    cases member.isOnline <;> decide
  have hflag : (memberText member).drop (member.name.length + 1) =
      if member.isOnline then "1".toList else "0".toList := drop_past ..
  have hname : (memberText member).take member.name.length = member.name := List.take_left
  simp only [readMember, hsep, hflag, hname]
  cases member.isOnline <;> simp

/-- What the reader gets of a roster: the members' names and online flags. -/
def received (now : Time) (info : GroupInfo) : GroupInfo :=
  { info with
    groupMembers := info.groupMembers.map fun member =>
      { name := member.name, isOnline := member.isOnline, storeTime := now } }

/-- **A roster is read back**, if no id or name in it contains the separator. -/
theorem deserialize_serializeToSend (now : Time) {info : GroupInfo} (hid : ';' ∉ info.groupId)
    (hleader : ';' ∉ info.leaderName) (hmembers : ∀ member ∈ info.groupMembers, ';' ∉ member.name) :
    deserialize now info.serializeToSend = some (info.received now) := by
  have hparts : getlines ';' [] info.serializeToSend =
      info.groupId :: info.leaderName :: boolToString info.isLeader ::
        intToString info.memberCount :: intToString info.errorCode ::
        info.groupMembers.map memberText := by
    rw [serializeToSend_eq]
    refine getlines_intercalate ?_ ?_
    · simp only [List.mem_cons]
      rintro p (rfl | rfl | rfl | rfl | rfl | hp)
      · exact hid
      · exact hleader
      · cases info.isLeader <;> decide
      · exact separator_notMem_intToString _
      · exact separator_notMem_intToString _
      · obtain ⟨member, hmember, rfl⟩ := List.mem_map.mp hp
        exact separator_notMem_memberText (hmembers member hmember)
    · -- the last part is a member's, or the error code
      intro p hp
      simp only [List.getLast?_cons_cons] at hp
      rcases List.mem_cons.mp (List.mem_of_mem_getLast? hp) with rfl | hp
      · exact intToString_ne_nil _
      · obtain ⟨member, -, rfl⟩ := List.mem_map.mp hp
        exact List.append_ne_nil_of_right_ne_nil _ (List.cons_ne_nil _ _)
  have hleaderFlag : decide (boolToString info.isLeader = "1".toList) = info.isLeader := by
    cases info.isLeader <;> decide
  have hread : readMember now ∘ memberText = fun member =>
      { name := member.name, isOnline := member.isOnline, storeTime := now } :=
    funext (readMember_memberText now)
  simp only [deserialize, hparts, stoi_intToString, hleaderFlag, List.map_map, hread,
    Option.bind_eq_bind, Option.bind_some, Option.pure_def, received]

end GroupInfo

end DaraChat
