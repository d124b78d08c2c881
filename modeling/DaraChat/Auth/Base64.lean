import DaraChat.Basic.Str
import DaraChat.Lib.Digits

set_option autoImplicit false

/-! # Base64url (`jwt-cpp/base.h`)

The parts of a token are decoded with a fill of `%3d`, which `pad` appends where it is missing. A
text may also bring its own fill, if there are two of them and the rest is two symbols more than
whole groups; in any other case a `%` belongs to no symbol (`decode_pad_iff`).
-/

namespace DaraChat

namespace Base64

/-! ## The functions -/

/-- `alphabet::base64url::data`. -/
def alphabet : Str := "ABCDEFGHIJKLMNOPQRSTUVWXYZabcdefghijklmnopqrstuvwxyz0123456789-_".toList

/-- `alphabet::base64url::fill`. -/
def fill : Str := "%3d".toList

/-- `alphabet[n & 0x3F]`. -/
def symbol (n : Nat) : Char := alphabet.getD (n % 64) 'A'

/-- `alphabet::index`; the table `rdata` is the inverse of `data`. -/
def index (c : Char) : Option Nat := alphabet.idxOf? c

/-- `static_cast<char>(n & 0xFF)`. -/
def byte (n : Nat) : Char := Char.ofNat (n % 256)

/-- `details::encode`. -/
def encode (fill : Str) : Str → Str
  | [] => []
  | [a] =>
      let triple := a.toNat * 2 ^ 16
      [symbol (triple / 2 ^ 18), symbol (triple / 2 ^ 12)] ++ fill ++ fill
  | [a, b] =>
      let triple := a.toNat * 2 ^ 16 + b.toNat * 2 ^ 8
      [symbol (triple / 2 ^ 18), symbol (triple / 2 ^ 12), symbol (triple / 2 ^ 6)] ++ fill
  | a :: b :: c :: bin =>
      let triple := a.toNat * 2 ^ 16 + b.toNat * 2 ^ 8 + c.toNat
      [symbol (triple / 2 ^ 18), symbol (triple / 2 ^ 12), symbol (triple / 2 ^ 6), symbol triple]
        ++ encode fill bin

/-- `details::count_padding`: how often the text ends in the fill. -/
def countPadding : Nat → Str → Nat
  | 0, _ => 0
  | turns + 1, base =>
      if fill.isSuffixOf base then countPadding turns (base.take (base.length - fill.length)) + 1
      else 0

/-- The loop of `details::decode` over whole groups, and what is left of the text. -/
def decodeGroups : List Char → Option (Str × Str)
  | a :: b :: c :: d :: base => do
      let a ← index a
      let b ← index b
      let c ← index c
      let d ← index d
      let triple := a * 2 ^ 18 + b * 2 ^ 12 + c * 2 ^ 6 + d
      let (res, rest) ← decodeGroups base
      return ([byte (triple / 2 ^ 16), byte (triple / 2 ^ 8), byte triple] ++ res, rest)
  | rest => some ([], rest)

/-- The last group, which the fill makes shorter. -/
def decodeLast : Nat → Str → Option Str
  | 1, a :: b :: c :: _ => do
      let a ← index a
      let b ← index b
      let c ← index c
      let triple := a * 2 ^ 18 + b * 2 ^ 12 + c * 2 ^ 6
      return [byte (triple / 2 ^ 16), byte (triple / 2 ^ 8)]
  | 2, a :: b :: _ => do
      let a ← index a
      let b ← index b
      let triple := a * 2 ^ 18 + b * 2 ^ 12
      return [byte (triple / 2 ^ 16)]
  | _, _ => some []

/-- `details::decode`; `none` when it throws. -/
def decode (base : Str) : Option Str :=
  let count := countPadding base.length base
  if 2 < count then none
  else
    let size := base.length - count * fill.length
    if (size + count) % 4 ≠ 0 then none
    else do
      let (res, rest) ← decodeGroups (base.take size)
      let last ← decodeLast count rest
      return res ++ last

/-- `details::pad`. -/
def pad (base : Str) : Str :=
  base ++
    if base.length % 4 = 1 then fill ++ fill ++ fill
    else if base.length % 4 = 2 then fill ++ fill
    else if base.length % 4 = 3 then fill
    else []

/-- `details::trim`: the text before the first fill. -/
def trim (fill : Str) : Str → Str
  | [] => []
  | c :: base => if fill.isPrefixOf (c :: base) then [] else c :: trim fill base

/-! ## Symbols -/

theorem index_symbol (n : Nat) : index (symbol n) = some (n % 64) := by
  have hall : ∀ i : Fin 64, index (alphabet.getD i 'A') = some i.val := by decide +kernel
  exact hall ⟨n % 64, Nat.mod_lt n (by decide)⟩

theorem symbol_mem (n : Nat) : symbol n ∈ alphabet := by
  have h := index_symbol n
  rw [index] at h
  exact List.isSome_idxOf?.mp (by rw [h]; rfl)

theorem index_eq_some {c : Char} {n : Nat} : index c = some n ↔ n < 64 ∧ c = symbol n := by
  constructor
  · intro h
    obtain ⟨hlt, hget, -⟩ := List.idxOf?_eq_some_iff.mp h
    have hlt64 : n < 64 := hlt
    refine ⟨hlt64, ?_⟩
    rw [symbol, Nat.mod_eq_of_lt hlt64, List.getD_eq_getElem?_getD, List.getElem?_eq_getElem hlt, hget]
    rfl
  · rintro ⟨hlt, rfl⟩
    rw [index_symbol, Nat.mod_eq_of_lt hlt]

theorem mapM_index_iff {t : Str} {places : List Nat} :
    t.mapM index = some places ↔ (∀ n ∈ places, n < 64) ∧ t = places.map symbol := by
  induction t generalizing places with
  | nil =>
      rw [List.mapM_nil]
      cases places with
      | nil => simp
      | cons n places => simp
  | cons c t ih =>
      rw [List.mapM_cons]
      constructor
      · intro h
        obtain ⟨n, hn, h⟩ := Option.bind_eq_some_iff.mp h
        obtain ⟨places', hplaces, h⟩ := Option.bind_eq_some_iff.mp h
        obtain rfl := Option.some.inj h
        obtain ⟨hlt, rfl⟩ := index_eq_some.mp hn
        obtain ⟨hall, ht⟩ := ih.mp hplaces
        exact ⟨List.forall_mem_cons.mpr ⟨hlt, hall⟩, congrArg (symbol n :: ·) ht⟩
      · rintro ⟨hall, ht⟩
        obtain _ | ⟨n, places⟩ := places
        · cases ht
        obtain ⟨rfl, rfl⟩ := List.cons.inj ht
        obtain ⟨hlt, hall⟩ := List.forall_mem_cons.mp hall
        rw [index_eq_some.mpr ⟨hlt, rfl⟩, ih.mpr ⟨hall, rfl⟩]
        rfl

theorem percent_notMem : '%' ∉ alphabet := by decide

theorem toNat_ofNat {n : Nat} (h : n < 256) : (Char.ofNat n).toNat = n := by
  have hvalid : n.isValidChar := Or.inl (by omega)
  rw [Char.ofNat, dif_pos hvalid]
  rfl

theorem toNat_byte (n : Nat) : (byte n).toNat = n % 256 := toNat_ofNat (Nat.mod_lt n (by decide))

/-! ## The fill -/

/-- So many fills. -/
def fills (count : Nat) : Str := (List.replicate count fill).flatten

theorem length_fills (count : Nat) : (fills count).length = 3 * count := by
  rw [fills, List.length_flatten, List.map_replicate, List.sum_replicate_nat]
  exact Nat.mul_comm _ _

theorem fills_add (count count' : Nat) : fills (count + count') = fills count ++ fills count' := by
  rw [fills, List.replicate_add, List.flatten_append]
  rfl

theorem fills_succ (count : Nat) : fills (count + 1) = fills count ++ fill := by
  rw [fills_add]
  rfl

/-- Every text ends in so many fills, and the rest in none. -/
theorem exists_fills (s : Str) : ∃ t count, s = t ++ fills count ∧ ¬ fill <:+ t := by
  induction hn : s.length using Nat.strong_induction_on generalizing s with
  | h n ih =>
      by_cases hfill : fill <:+ s
      · obtain ⟨s', rfl⟩ := hfill
        have hlt : s'.length < n := by
          rw [← hn, List.length_append]
          have : fill.length = 3 := rfl
          omega
        obtain ⟨t, count, rfl, ht⟩ := ih _ hlt s' rfl
        exact ⟨t, count + 1, by rw [fills_succ, List.append_assoc], ht⟩
      · exact ⟨s, 0, (List.append_nil s).symm, hfill⟩

theorem countPadding_fills {t : Str} (ht : ¬ fill <:+ t) (count turns : Nat) (h : count ≤ turns) :
    countPadding turns (t ++ fills count) = count := by
  induction count generalizing turns with
  | zero =>
      have hnot : ¬ fill.isSuffixOf (t ++ fills 0) = true := by
        rw [List.isSuffixOf_iff_suffix]
        simpa [fills] using ht
      cases turns with
      | zero => rfl
      | succ turns => rw [countPadding, if_neg hnot]
  | succ count ih =>
      obtain ⟨turns, rfl⟩ : ∃ k, turns = k + 1 := ⟨turns - 1, by omega⟩
      have hsuffix : fill.isSuffixOf (t ++ fills (count + 1)) = true := by
        rw [List.isSuffixOf_iff_suffix, fills_succ, ← List.append_assoc]
        exact List.suffix_append _ _
      have htake : (t ++ fills (count + 1)).take ((t ++ fills (count + 1)).length - fill.length) =
          t ++ fills count := by
        rw [fills_succ, ← List.append_assoc]
        exact List.take_left' (by simp only [List.length_append, Nat.add_sub_cancel])
      rw [countPadding, if_pos hsuffix, htake, ih turns (by omega)]

/-- `decode` with the fills taken off. -/
theorem decode_fills {t : Str} (ht : ¬ fill <:+ t) (count : Nat) :
    decode (t ++ fills count) =
      if 2 < count ∨ (t.length + count) % 4 ≠ 0 then none
      else
        (decodeGroups t).bind fun (res, rest) =>
          (decodeLast count rest).bind fun last => some (res ++ last) := by
  have hcount : countPadding (t ++ fills count).length (t ++ fills count) = count :=
    countPadding_fills ht count _ (by rw [List.length_append, length_fills]; omega)
  have hsize : (t ++ fills count).length - count * fill.length = t.length := by
    rw [List.length_append, length_fills, Nat.mul_comm 3]
    exact Nat.add_sub_cancel _ _
  rw [decode, hcount, hsize]
  simp only [List.take_left]
  by_cases hmany : 2 < count
  · rw [if_pos hmany, if_pos (Or.inl hmany)]
  by_cases hsize : (t.length + count) % 4 ≠ 0
  · rw [if_neg hmany, if_pos hsize, if_pos (Or.inr hsize)]
  · rw [if_neg hmany, if_neg hsize, if_neg (not_or.mpr ⟨hmany, hsize⟩)]
    rfl

/-! ## Groups -/

/-- The bytes of the symbols with these places, by groups. -/
def bytesOf : List Nat → Str
  | a :: b :: c :: d :: places =>
      let triple := a * 2 ^ 18 + b * 2 ^ 12 + c * 2 ^ 6 + d
      [byte (triple / 2 ^ 16), byte (triple / 2 ^ 8), byte triple] ++ bytesOf places
  | [a, b, c] =>
      let triple := a * 2 ^ 18 + b * 2 ^ 12 + c * 2 ^ 6
      [byte (triple / 2 ^ 16), byte (triple / 2 ^ 8)]
  | [a, b] => [byte ((a * 2 ^ 18 + b * 2 ^ 12) / 2 ^ 16)]
  | _ => []

theorem decodeGroups_last {count : Nat} (hcount : count ≤ 2) (t : Str)
    (h : (t.length + count) % 4 = 0) :
    ((decodeGroups t).bind fun (res, rest) =>
        (decodeLast count rest).bind fun last => some (res ++ last)) =
      (t.mapM index).map bytesOf := by
  induction t using decodeGroups.induct with
  | case1 a b c d base ih =>
      have hbase : (base.length + count) % 4 = 0 := by
        simp only [List.length_cons] at h
        omega
      have ih := ih hbase
      simp only [decodeGroups, List.mapM_cons]
      generalize List.mapM index base = places at ih ⊢
      rcases index a with _ | a
      · rfl
      rcases index b with _ | b
      · rfl
      rcases index c with _ | c
      · rfl
      rcases index d with _ | d
      · rfl
      simp only [Option.bind_eq_bind, Option.bind_some, Option.pure_def, Option.bind_assoc] at ih ⊢
      -- the bytes of the group stand before those of the text behind it
      have hbefore (bytes : Str) : ((decodeGroups base).bind fun (res, rest) =>
          (decodeLast count rest).bind fun last => some (bytes ++ res ++ last)) =
          (places.map bytesOf).map (bytes ++ ·) := by
        rw [← ih]
        simp [Option.map_bind]
      rw [hbefore]
      cases places with
      | none => rfl
      | some places => rfl
  | case2 rest hrest =>
      have hshort : decodeGroups rest = some ([], rest) := by
        obtain _ | ⟨a, _ | ⟨b, _ | ⟨c, _ | ⟨d, base⟩⟩⟩⟩ := rest
        · rfl
        · rfl
        · rfl
        · rfl
        · exact absurd rfl (hrest a b c d base)
      rw [hshort]
      simp only [Option.bind_some, List.nil_append]
      obtain _ | ⟨a, _ | ⟨b, _ | ⟨c, _ | ⟨d, base⟩⟩⟩⟩ := rest
      · obtain rfl : count = 0 := by
          simp only [List.length_nil] at h
          omega
        rfl
      · simp only [List.length_cons, List.length_nil] at h
        omega
      · obtain rfl : count = 2 := by
          simp only [List.length_cons, List.length_nil] at h
          omega
        simp only [decodeLast, List.mapM_cons, List.mapM_nil]
        rcases index a with _ | a
        · rfl
        rcases index b with _ | b
        · rfl
        rfl
      · obtain rfl : count = 1 := by
          simp only [List.length_cons, List.length_nil] at h
          omega
        simp only [decodeLast, List.mapM_cons, List.mapM_nil]
        rcases index a with _ | a
        · rfl
        rcases index b with _ | b
        · rfl
        rcases index c with _ | c
        · rfl
        rfl
      · exact absurd rfl (hrest a b c d base)

/-- The bytes are the leading bits of the places, by induction over the groups. -/
theorem leads_bytesOf {places : List Nat} (h : ∀ x ∈ places, x < 64) :
    Digits.Leads 6 8 places ((bytesOf places).map Char.toNat) := by
  have hbyte (n : Nat) : (byte n).toNat < 256 := by
    rw [toNat_byte]
    exact Nat.mod_lt n (by decide)
  induction places using bytesOf.induct with
  | case1 a b c d places ih =>
      have ih := ih (fun x hx => h x (by simp [hx]))
      have ha : a < 64 := h a (by simp)
      have hb : b < 64 := h b (by simp)
      have hc : c < 64 := h c (by simp)
      have hd : d < 64 := h d (by simp)
      have hgroup : Digits.Leads 6 8 [a, b, c, d]
          [(byte ((a * 2 ^ 18 + b * 2 ^ 12 + c * 2 ^ 6 + d) / 2 ^ 16)).toNat,
            (byte ((a * 2 ^ 18 + b * 2 ^ 12 + c * 2 ^ 6 + d) / 2 ^ 8)).toNat,
            (byte (a * 2 ^ 18 + b * 2 ^ 12 + c * 2 ^ 6 + d)).toNat] := by
        refine ⟨by simpa using ⟨ha, hb, hc, hd⟩, by simp [hbyte], by simp, ?_⟩
        simp [toNat_byte, Digits.number_cons]
        omega
      exact hgroup.append (by decide) (by simp) ih
  | case2 a b c =>
      have ha : a < 64 := h a (by simp)
      have hb : b < 64 := h b (by simp)
      have hc : c < 64 := h c (by simp)
      refine ⟨h, by simp [bytesOf, hbyte], by simp [bytesOf], ?_⟩
      simp [bytesOf, toNat_byte, Digits.number_cons]
      omega
  | case3 a b =>
      have ha : a < 64 := h a (by simp)
      have hb : b < 64 := h b (by simp)
      refine ⟨h, by simp [bytesOf, hbyte], by simp [bytesOf], ?_⟩
      simp [bytesOf, toNat_byte, Digits.number_cons]
      omega
  | case4 places hfour hthree htwo =>
      obtain _ | ⟨a, _ | ⟨b, _ | ⟨c, _ | ⟨d, places⟩⟩⟩⟩ := places
      · exact ⟨h, by simp [bytesOf], by simp [bytesOf], rfl⟩
      · have ha : a < 64 := h a (by simp)
        refine ⟨h, by simp [bytesOf], by simp [bytesOf], ?_⟩
        simp [bytesOf, Digits.number_cons]
        omega
      · exact absurd rfl (htwo a b)
      · exact absurd rfl (hthree a b c)
      · exact absurd rfl (hfour a b c d places)

/-! ## What is decoded -/

/-- The text consists of symbols, and the bytes are their leading bits. -/
def Spells (t bin : Str) : Prop :=
  ∃ places : List Nat, t = places.map symbol ∧ Digits.Leads 6 8 places (bin.map Char.toNat)

theorem spells_iff {t bin : Str} : Spells t bin ↔ (t.mapM index).map bytesOf = some bin := by
  constructor
  · rintro ⟨places, rfl, hleads⟩
    rw [mapM_index_iff.mpr ⟨hleads.left_lt, rfl⟩, Option.map_some, Option.some.injEq]
    refine List.map_injective_iff.mpr (fun _ _ h => Char.toNat_inj.mp h) ?_
    exact (leads_bytesOf hleads.left_lt).right_unique (by decide) hleads
  · intro h
    obtain ⟨places, hplaces, rfl⟩ := Option.map_eq_some_iff.mp h
    obtain ⟨hlt, ht⟩ := mapM_index_iff.mp hplaces
    exact ⟨places, ht, leads_bytesOf hlt⟩

/-- No symbol belongs to a fill. -/
theorem Spells.not_fill {t bin : Str} (h : Spells t bin) : ¬ fill <:+ t := by
  obtain ⟨places, rfl, -⟩ := h
  intro hfill
  have hpercent : '%' ∈ fill := by decide
  obtain ⟨n, -, hn⟩ := List.mem_map.mp (hfill.mem hpercent)
  have hmem := symbol_mem n
  rw [hn] at hmem
  exact percent_notMem hmem

theorem fills_unique {t t' : Str} {count count' : Nat} (ht : ¬ fill <:+ t) (ht' : ¬ fill <:+ t')
    (h : t ++ fills count = t' ++ fills count') : t = t' ∧ count = count' := by
  have hcount := countPadding_fills ht count (count + count') (by omega)
  rw [h, countPadding_fills ht' count' _ (by omega)] at hcount
  subst hcount
  exact ⟨List.append_cancel_right h, rfl⟩

/-- How many fills `pad` appends. -/
def missing (length : Nat) : Nat := if length % 4 = 0 then 0 else 4 - length % 4

theorem pad_eq (base : Str) : pad base = base ++ fills (missing base.length) := by
  obtain h | h | h | h : base.length % 4 = 0 ∨ base.length % 4 = 1 ∨ base.length % 4 = 2 ∨
      base.length % 4 = 3 := by omega
  · rw [pad, missing, h]
    rfl
  · rw [pad, missing, h]
    rfl
  · rw [pad, missing, h]
    rfl
  · rw [pad, missing, h]
    rfl

/-- **The texts that are decoded, and to what**: symbols alone, not one more than whole groups, or
two more than whole groups with the two fills that belong there. -/
theorem decode_pad_iff {s bin : Str} :
    decode (pad s) = some bin ↔
      ∃ t, (s = t ∧ t.length % 4 ≠ 1 ∨ s = t ++ fill ++ fill ∧ t.length % 4 = 2) ∧
        Spells t bin := by
  obtain ⟨t, count, rfl, ht⟩ := exists_fills s
  have hpad : pad (t ++ fills count) = t ++ fills (count + missing (t.length + 3 * count)) := by
    rw [pad_eq, List.append_assoc, List.length_append, length_fills, fills_add]
  have hgood : ¬ (2 < count + missing (t.length + 3 * count) ∨
      (t.length + (count + missing (t.length + 3 * count))) % 4 ≠ 0) ↔
      count = 0 ∧ t.length % 4 ≠ 1 ∨ count = 2 ∧ t.length % 4 = 2 := by
    unfold missing
    split <;> omega
  have hdecode : decode (pad (t ++ fills count)) = some bin ↔
      (count = 0 ∧ t.length % 4 ≠ 1 ∨ count = 2 ∧ t.length % 4 = 2) ∧ Spells t bin := by
    rw [hpad, decode_fills ht, spells_iff, ← hgood]
    by_cases hbad : 2 < count + missing (t.length + 3 * count) ∨
        (t.length + (count + missing (t.length + 3 * count))) % 4 ≠ 0
    · simp [hbad]
    · obtain ⟨hmany, hsize⟩ := not_or.mp hbad
      rw [if_neg hbad, decodeGroups_last (Nat.not_lt.mp hmany) t (not_not.mp hsize)]
      simp [hbad]
  rw [hdecode]
  constructor
  · rintro ⟨hcount, hspells⟩
    refine ⟨t, ?_, hspells⟩
    rcases hcount with ⟨rfl, hlength⟩ | ⟨rfl, hlength⟩
    · exact Or.inl ⟨List.append_nil t, hlength⟩
    · exact Or.inr ⟨by rw [List.append_assoc]; rfl, hlength⟩
  · rintro ⟨t', hs, hspells⟩
    have ht' := hspells.not_fill
    rcases hs with ⟨hs, hlength⟩ | ⟨hs, hlength⟩
    · obtain ⟨rfl, rfl⟩ := fills_unique ht ht' (hs.trans (List.append_nil t').symm : _ = t' ++ fills 0)
      exact ⟨Or.inl ⟨rfl, hlength⟩, hspells⟩
    · have hfills : t' ++ fill ++ fill = t' ++ fills 2 := by
        rw [List.append_assoc]
        rfl
      obtain ⟨rfl, rfl⟩ := fills_unique ht ht' (hs.trans hfills)
      exact ⟨Or.inr ⟨rfl, hlength⟩, hspells⟩

/-! ## What is encoded is decoded -/

theorem symbol_mod (n : Nat) : symbol (n % 64) = symbol n := by
  rw [symbol, Nat.mod_mod]
  rfl

/-- The fill apart, all encodings are one. -/
theorem encode_eq (fill bin : Str) : encode fill bin =
    encode [] bin ++ (List.replicate (missing (encode [] bin).length) fill).flatten := by
  induction bin using encode.induct with
  | case1 => simp [encode, missing]
  | case2 a => simp [encode, missing]
  | case3 a b => simp [encode, missing]
  | case4 a b c bin ih =>
      have hlength : missing (encode [] (a :: b :: c :: bin)).length =
          missing (encode [] bin).length := by
        simp only [encode, missing, List.length_append, List.length_cons, List.length_nil]
        rw [show 0 + 1 + 1 + 1 + 1 + (encode [] bin).length = (encode [] bin).length + 4 by omega,
          Nat.add_mod_right]
      rw [hlength, encode, ih, encode, List.append_assoc]

theorem spells_encode {bin : Str} (h : ∀ c ∈ bin, c.toNat < 256) : Spells (encode [] bin) bin := by
  induction bin using encode.induct with
  | case1 => exact ⟨[], rfl, by simp, by simp, rfl, rfl⟩
  | case2 a =>
      have ha : a.toNat < 256 := h a (by simp)
      refine ⟨[a.toNat * 2 ^ 16 / 2 ^ 18, a.toNat * 2 ^ 16 / 2 ^ 12 % 64], ?_, ?_, ?_, ?_, ?_⟩
      · simp [encode, symbol_mod]
      · simp
        omega
      · simpa using ha
      · simp
      · simp [Digits.number_cons]
        omega
  | case3 a b =>
      have ha : a.toNat < 256 := h a (by simp)
      have hb : b.toNat < 256 := h b (by simp)
      refine ⟨[(a.toNat * 2 ^ 16 + b.toNat * 2 ^ 8) / 2 ^ 18,
        (a.toNat * 2 ^ 16 + b.toNat * 2 ^ 8) / 2 ^ 12 % 64,
        (a.toNat * 2 ^ 16 + b.toNat * 2 ^ 8) / 2 ^ 6 % 64], ?_, ?_, ?_, ?_, ?_⟩
      · simp [encode, symbol_mod]
      · simp
        omega
      · simpa using ⟨ha, hb⟩
      · simp
      · simp [Digits.number_cons]
        omega
  | case4 a b c bin ih =>
      obtain ⟨places, hplaces, hleads⟩ := ih (fun x hx => h x (by simp [hx]))
      have ha : a.toNat < 256 := h a (by simp)
      have hb : b.toNat < 256 := h b (by simp)
      have hc : c.toNat < 256 := h c (by simp)
      have hgroup : Digits.Leads 6 8 [(a.toNat * 2 ^ 16 + b.toNat * 2 ^ 8 + c.toNat) / 2 ^ 18,
          (a.toNat * 2 ^ 16 + b.toNat * 2 ^ 8 + c.toNat) / 2 ^ 12 % 64,
          (a.toNat * 2 ^ 16 + b.toNat * 2 ^ 8 + c.toNat) / 2 ^ 6 % 64,
          (a.toNat * 2 ^ 16 + b.toNat * 2 ^ 8 + c.toNat) % 64] [a.toNat, b.toNat, c.toNat] := by
        refine ⟨?_, by simpa using ⟨ha, hb, hc⟩, by simp, ?_⟩
        · simp
          omega
        · simp [Digits.number_cons]
          omega
      refine ⟨_, ?_, hgroup.append (by decide) (by simp) hleads⟩
      rw [List.map_append, ← hplaces]
      simp [encode, symbol_mod]

theorem length_encode (bin : Str) : (encode [] bin).length % 4 ≠ 1 := by
  induction bin using encode.induct with
  | case1 => simp [encode]
  | case2 a => simp [encode]
  | case3 a b => simp [encode]
  | case4 a b c bin ih =>
      rw [encode, List.length_append]
      simpa using ih

/-- **What is encoded is decoded**, whatever the fill was that has been cut off. -/
theorem decode_encode {bin : Str} (h : ∀ c ∈ bin, c.toNat < 256) :
    decode (pad (encode [] bin)) = some bin :=
  decode_pad_iff.mpr ⟨_, Or.inl ⟨rfl, length_encode bin⟩, spells_encode h⟩

theorem encode_mem (bin : Str) : ∀ c ∈ encode [] bin, c ∈ alphabet := by
  induction bin using encode.induct with
  | case1 => simp [encode]
  | case2 a => simp [encode, symbol_mem]
  | case3 a b => simp [encode, symbol_mem]
  | case4 a b c bin ih =>
      rw [encode, List.forall_mem_append]
      exact ⟨by simp [symbol_mem], ih⟩

/-- The fill is cut off, if it starts with something that is no symbol. -/
theorem trim_encode {c : Char} (hc : c ∉ alphabet) (rest bin : Str) :
    trim (c :: rest) (encode (c :: rest) bin) = encode [] bin := by
  have htrim (count : Nat) (s : Str) (hs : ∀ d ∈ s, d ∈ alphabet) :
      trim (c :: rest) (s ++ (List.replicate count (c :: rest)).flatten) = s := by
    induction s with
    | nil =>
        cases count with
        | zero => rfl
        | succ count =>
            have hprefix : (c :: rest).isPrefixOf
                (c :: (rest ++ (List.replicate count (c :: rest)).flatten)) = true := by
              rw [List.isPrefixOf_iff_prefix]
              exact List.prefix_append (c :: rest) _
            rw [List.replicate_succ, List.flatten_cons, List.nil_append, List.cons_append, trim,
              if_pos hprefix]
    | cons d s ih =>
        obtain ⟨hd, hs⟩ := List.forall_mem_cons.mp hs
        have hne : ¬ (c :: rest).isPrefixOf
            (d :: (s ++ (List.replicate count (c :: rest)).flatten)) = true := by
          rw [List.isPrefixOf_iff_prefix, List.cons_prefix_cons]
          rintro ⟨rfl, -⟩
          exact hc hd
        rw [List.cons_append, trim, if_neg hne, ih hs]
  rw [encode_eq]
  exact htrim _ _ (encode_mem bin)

/-- **A part that the library writes is read back**: the fill it cuts off is the one it appends
again. -/
theorem decode_pad_trim {bin : Str} (h : ∀ c ∈ bin, c.toNat < 256) :
    decode (pad (trim fill (encode fill bin))) = some bin := by
  have hcut : trim fill (encode fill bin) = encode [] bin := trim_encode (by decide) _ bin
  rw [hcut]
  exact decode_encode h

/-- Two bytes, of which the second is no character of ASCII. -/
theorem decode_pad_trim_two :
    decode (pad (trim fill (encode fill ['a', 'ÿ']))) = some ['a', 'ÿ'] :=
  decode_pad_trim (List.forall_mem_cons.mpr ⟨by decide, List.forall_mem_singleton.mpr (by decide)⟩)

end Base64

end DaraChat
