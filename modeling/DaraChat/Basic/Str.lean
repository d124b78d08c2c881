import Mathlib.Data.List.Infix
import Mathlib.Data.Nat.Digits.Defs

set_option autoImplicit false

/-! # Strings of the server

A `std::string` is the list of its characters; every byte `0 … 255` is the `Char` of the same
code, and nothing depends on there being no larger ones. The `<cctype>` and `<strings.h>`
functions are those of the "C" locale (the server never calls `setlocale`), so they fold the
case of the ASCII letters only, and `strcasecmp` sees a string up to its first NUL, because it
is called on `c_str()`.
-/

namespace DaraChat

/-- `std::string`. -/
abbrev Str := List Char

/-! ## Searching and cutting -/

/-- `s.find(c, pos)`; `npos` is `none`. -/
def find (s : Str) (c : Char) (pos : Nat) : Option Nat :=
  ((s.drop pos).findIdx? (· == c)).map (pos + ·)

/-- `s.rfind(c)`; `npos` is `none`. -/
def rfind (s : Str) (c : Char) : Option Nat :=
  (s.reverse.findIdx? (· == c)).map (s.length - 1 - ·)

/-- `s.substr(pos, len)`. -/
def substr (s : Str) (pos len : Nat) : Str := (s.drop pos).take len

/-- `s.rfind(start, 0) == 0`. -/
def startsWith (s start : Str) : Bool := start.isPrefixOf s

theorem startsWith_iff {s start : Str} : startsWith s start = true ↔ start <+: s := by
  simp [startsWith]

/-- A string starts with one of two texts at most, unless one of them starts with the other. -/
theorem startsWith_excl {s a b : Str} (h : startsWith s a = true) (hab : startsWith a b = false)
    (hba : startsWith b a = false) : startsWith s b = false := by
  by_contra hb
  rw [Bool.not_eq_false, startsWith_iff] at hb
  rcases List.prefix_or_prefix_of_prefix (startsWith_iff.mp h) hb with hp | hp
  · rw [startsWith_iff.mpr hp] at hba
    cases hba
  · rw [startsWith_iff.mpr hp] at hab
    cases hab

/-- What follows the character after `a`. -/
theorem drop_past (a : Str) (c : Char) (b : Str) : (a ++ c :: b).drop (a.length + 1) = b := by
  rw [← List.drop_drop, List.drop_left]
  rfl

/-- The first `c` of a string stands right after a part without `c`. -/
theorem find_append_cons {a b : Str} {c : Char} (h : c ∉ a) (pre : Str) :
    find (pre ++ (a ++ c :: b)) c pre.length = some (pre.length + a.length) := by
  have hnone : a.findIdx? (· == c) = none := by
    simp only [List.findIdx?_eq_none_iff, beq_eq_false_iff_ne]
    rintro x hx rfl
    exact h hx
  simp [find, List.findIdx?_append, List.findIdx?_cons, hnone]

/-- The last `c` of a string stands right before a part without `c`. -/
theorem rfind_append_cons {a b : Str} {c : Char} (h : c ∉ b) :
    rfind (a ++ c :: b) c = some a.length := by
  have hfind := find_append_cons (a := b.reverse) (b := a.reverse) (c := c) (by simpa using h) []
  have hindex : (b.reverse ++ c :: a.reverse).findIdx? (· == c) = some b.length := by
    simpa [find] using hfind
  have hreverse : (a ++ c :: b).reverse = b.reverse ++ c :: a.reverse := by simp
  rw [rfind, hreverse, hindex]
  simp only [List.length_append, List.length_cons, Option.map_some, Option.some.injEq]
  omega

/-- The cut at the first `c` is unique. -/
theorem append_cons_inj {a a' b b' : Str} {c : Char} (h : c ∉ a) (h' : c ∉ a')
    (heq : a ++ c :: b = a' ++ c :: b') : a = a' ∧ b = b' := by
  have hf := find_append_cons (b := b) h []
  rw [List.nil_append, heq, ← List.nil_append (a' ++ c :: b'), find_append_cons h' []] at hf
  have hlen : a.length = a'.length := by simpa using hf.symm
  obtain ⟨ha, hb⟩ := List.append_inj heq hlen
  exact ⟨ha, (List.cons.inj hb).2⟩

/-- What a successful `find` has found. -/
theorem eq_of_find {s : Str} {c : Char} {pos i : Nat} (h : find s c pos = some i) :
    ∃ a b, s.drop pos = a ++ c :: b ∧ c ∉ a ∧ i = pos + a.length := by
  obtain ⟨j, hj, rfl⟩ := Option.map_eq_some_iff.mp h
  obtain ⟨hlt, hc, hbefore⟩ := List.findIdx?_eq_some_iff_getElem.mp hj
  refine ⟨(s.drop pos).take j, (s.drop pos).drop (j + 1), ?_, ?_, ?_⟩
  · have hget : (s.drop pos)[j] = c := by simpa using hc
    conv_lhs => rw [← List.take_append_drop j (s.drop pos), List.drop_eq_getElem_cons hlt, hget]
  · intro hmem
    obtain ⟨k, hk, hkc⟩ := List.mem_iff_getElem.mp hmem
    have hkj : k < j := by
      rw [List.length_take] at hk
      omega
    have := hbefore k hkj
    rw [List.getElem_take] at hkc
    simp [hkc] at this
  · rw [List.length_take]
    omega

/-! ## Parts between delimiters -/

/-- The parts `std::getline(input, part, delim)` reads one after the other; the part being read
is `part`, reversed. A delimiter at the very end is not followed by an empty part. -/
def getlines (delim : Char) (part : Str) : Str → List Str
  | [] => if part = [] then [] else [part.reverse]
  | c :: rest =>
      if c = delim then part.reverse :: getlines delim [] rest else getlines delim (c :: part) rest

/-- A part is read up to the next delimiter. -/
theorem getlines_append_cons {delim : Char} {a : Str} (ha : delim ∉ a) (part rest : Str) :
    getlines delim part (a ++ delim :: rest) = (part.reverse ++ a) :: getlines delim [] rest := by
  induction a generalizing part with
  | nil => simp [getlines]
  | cons c a ih =>
      have hc : c ≠ delim := fun h => ha (h ▸ List.mem_cons_self)
      rw [List.cons_append, getlines, if_neg hc, ih (List.not_mem_of_not_mem_cons ha)]
      simp

/-- The last part is read up to the end. -/
theorem getlines_last {delim : Char} {a : Str} (ha : delim ∉ a) (hne : a ≠ []) :
    getlines delim [] a = [a] := by
  have hread (part : Str) : ∀ s : Str, delim ∉ s → part ≠ [] ∨ s ≠ [] →
      getlines delim part s = [part.reverse ++ s] := by
    intro s
    induction s generalizing part with
    | nil =>
        intro _ h
        have hpart : part ≠ [] := h.resolve_right (fun h => h rfl)
        simp [getlines, hpart]
    | cons c s ih =>
        intro hs _
        have hc : c ≠ delim := fun h => hs (h ▸ List.mem_cons_self)
        rw [getlines, if_neg hc, ih (c :: part) (List.not_mem_of_not_mem_cons hs)
          (.inl (List.cons_ne_nil _ _))]
        simp
  exact hread [] a ha (.inr hne)

/-- Parts written with the delimiter between them are read back, if the last is not empty. -/
theorem getlines_intercalate {delim : Char} {parts : List Str} (hparts : ∀ p ∈ parts, delim ∉ p)
    (hlast : ∀ p ∈ parts.getLast?, p ≠ []) :
    getlines delim [] ([delim].intercalate parts) = parts := by
  induction parts with
  | nil => rfl
  | cons p parts ih =>
      have hp := hparts p List.mem_cons_self
      cases parts with
      | nil =>
          rw [List.intercalate_singleton]
          exact getlines_last hp (hlast p rfl)
      | cons q parts =>
          rw [List.intercalate_cons_cons, List.append_assoc, List.singleton_append,
            getlines_append_cons hp, ih (fun r hr => hparts r (List.mem_cons_of_mem p hr)) ?_]
          · rfl
          · intro r hr
            exact hlast r (by rwa [List.getLast?_cons_cons])

/-- A delimiter at the end changes nothing, whatever the last part is. -/
theorem getlines_intercalate_append {delim : Char} {parts : List Str}
    (hparts : ∀ p ∈ parts, delim ∉ p) (hne : parts ≠ []) :
    getlines delim [] ([delim].intercalate parts ++ [delim]) = parts := by
  induction parts with
  | nil => exact absurd rfl hne
  | cons p parts ih =>
      have hp := hparts p List.mem_cons_self
      cases parts with
      | nil =>
          rw [List.intercalate_singleton, getlines_append_cons hp]
          rfl
      | cons q parts =>
          rw [List.intercalate_cons_cons, List.append_assoc, List.append_assoc,
            List.singleton_append, getlines_append_cons hp,
            ih (fun r hr => hparts r (List.mem_cons_of_mem p hr)) (List.cons_ne_nil q parts)]
          rfl

/-- No part contains the delimiter. -/
theorem delim_notMem_getlines {delim : Char} (s part : Str) (hpart : delim ∉ part) :
    ∀ p ∈ getlines delim part s, delim ∉ p := by
  induction s generalizing part with
  | nil =>
      intro p hp
      unfold getlines at hp
      split at hp
      · cases hp
      · rwa [List.mem_singleton.mp hp, List.mem_reverse]
  | cons c s ih =>
      intro p hp
      unfold getlines at hp
      split at hp
      · rcases List.mem_cons.mp hp with rfl | hp
        · rwa [List.mem_reverse]
        · exact ih [] List.not_mem_nil p hp
      · rename_i hc
        refine ih (c :: part) ?_ p hp
        rw [List.mem_cons, not_or]
        exact ⟨fun h => hc h.symm, hpart⟩

/-- What was read is the parts with the delimiter between them, and perhaps one at the end. -/
theorem eq_of_getlines (delim : Char) (s part : Str) :
    part.reverse ++ s = [delim].intercalate (getlines delim part s) ∨
      getlines delim part s ≠ [] ∧
        part.reverse ++ s = [delim].intercalate (getlines delim part s) ++ [delim] := by
  induction s generalizing part with
  | nil =>
      left
      by_cases hpart : part = []
      · simp [getlines, hpart]
      · simp [getlines, hpart]
  | cons c s ih =>
      by_cases hc : c = delim
      · subst hc
        rw [getlines, if_pos rfl]
        rcases hrest : getlines c [] s with _ | ⟨q, parts⟩
        · -- nothing follows the delimiter
          have hs := ih []
          rw [hrest] at hs
          obtain hs | ⟨hne, -⟩ := hs
          · rw [List.reverse_nil, List.nil_append, List.intercalate_nil] at hs
            exact .inr ⟨List.cons_ne_nil _ _, by rw [hs, List.intercalate_singleton]⟩
          · exact absurd rfl hne
        · have hs := ih []
          rw [hrest, List.reverse_nil, List.nil_append] at hs
          rw [List.intercalate_cons_cons]
          obtain hs | ⟨-, hs⟩ := hs
          · exact .inl (by rw [hs]; simp)
          · exact .inr ⟨List.cons_ne_nil _ _, by rw [hs]; simp⟩
      · rw [getlines, if_neg hc]
        simpa using ih (c :: part)

/-! ## Letter case -/

/-- `ToLower`: `std::tolower` on every character. -/
def toLower (input : Str) : Str := input.map Char.toLower

/-- The string that `c_str()` shows to the C library. -/
def cStr (s : Str) : Str := s.takeWhile (· != '\x00')

/-- `strcasecmp(a.c_str(), b.c_str()) == 0`. -/
def strcasecmpEq (a b : Str) : Bool := toLower (cStr a) == toLower (cStr b)

/-! ## Numbers -/

/-- `std::to_string` of an unsigned number. -/
def natToString (n : Nat) : Str := Nat.toDigits 10 n

/-- `std::to_string` of a signed number. -/
def intToString : Int → Str
  | .ofNat n => natToString n
  | .negSucc n => '-' :: natToString (n + 1)

/-- `std::to_string` of a `bool`. -/
def boolToString (b : Bool) : Str := if b then ['1'] else ['0']

theorem natToString_isDigit {n : Nat} {c : Char} (h : c ∈ natToString n) : c.isDigit = true :=
  Nat.isDigit_of_mem_toDigits (by decide) (by decide) h

theorem natToString_ne_nil (n : Nat) : natToString n ≠ [] := Nat.toDigits_ne_nil

/-- A number does not start with a letter. -/
theorem natToString_append_not_startsWith {n : Nat} {rest start : Str} {c : Char}
    (hc : c.isDigit = false) : startsWith (natToString n ++ rest) (c :: start) = false := by
  rcases hn : natToString n with _ | ⟨d, ds⟩
  · exact absurd hn (natToString_ne_nil n)
  · have hd : d.isDigit = true := natToString_isDigit (n := n) (by rw [hn]; exact List.mem_cons_self)
    have hne : c ≠ d := by
      rintro rfl
      rw [hc] at hd
      exact Bool.false_ne_true hd
    simp [startsWith, List.isPrefixOf, hne]

/-! ## Exceptions -/

/-- A computation in `Except` that returns has passed through all its steps. -/
theorem bind_eq_ok {ε α β : Type} {x : Except ε α} {f : α → Except ε β} {b : β} :
    (x >>= f) = .ok b ↔ ∃ a, x = .ok a ∧ f a = .ok b := by
  cases x with
  | error e => simp [bind, Except.bind]
  | ok a => simp [bind, Except.bind]

end DaraChat
