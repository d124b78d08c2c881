import Mathlib.Data.List.Basic
import Mathlib.Data.List.Nodup

set_option autoImplicit false

/-! # Keyed rows in a list, grouped into classes

A flat list of rows is used as a table: every row has a key (`key : α → κ`) and belongs to a
class (`cls : α → γ`). The library has the loop that changes the first matching row
(`modifyFirst`), the lookup by key in a table with unique keys, and tables whose classes are
each led by a marked row: in the part of the list that belongs to one class the first row is
marked and no other (`HeadMarked`, `ClassesLed`). A class stays led when an unmarked row is
appended to it, when a row other than the first is taken out, and, whatever is taken out, once
the marks are set afresh (`markFirst`).
-/

namespace Keyed

variable {α κ γ : Type*}

/-! ## Changing the first match -/

/-- Apply `f` to the first row that satisfies `p`. -/
def modifyFirst (p : α → Bool) (f : α → α) : List α → List α
  | [] => []
  | x :: rest => if p x then f x :: rest else x :: modifyFirst p f rest

/-- A field that `f` keeps in the rows it may change is kept in every row. -/
theorem map_modifyFirst {β : Type*} (p : α → Bool) (f : α → α) (field : α → β)
    (hf : ∀ x, p x = true → field (f x) = field x) (l : List α) :
    (modifyFirst p f l).map field = l.map field := by
  induction l with
  | nil => rfl
  | cons x rest ih =>
      by_cases hp : p x
      · simp [modifyFirst, hp, hf x hp]
      · simp [modifyFirst, hp, ih]

/-- When keys are unique, changing the first row with a key changes the rows with that key. -/
theorem modifyFirst_eq_map [DecidableEq κ] (key : α → κ) (k : κ) (f : α → α) {l : List α}
    (hl : (l.map key).Nodup) :
    modifyFirst (fun x => key x = k) f l = l.map (fun x => if key x = k then f x else x) := by
  induction l with
  | nil => rfl
  | cons x rest ih =>
      rw [List.map_cons, List.nodup_cons] at hl
      by_cases hx : key x = k
      · have hrest : rest.map (fun y => if key y = k then f y else y) = rest := by
          refine (List.map_congr_left fun y hy => ?_).trans (List.map_id' rest)
          refine if_neg fun hyk => hl.1 ?_
          rw [hx, ← hyk]
          exact List.mem_map_of_mem hy
        simp [modifyFirst, hx, hrest]
      · simp [modifyFirst, hx, ih hl.2]

/-! ## Looking a row up by its key -/

theorem find?_key_eq_some [DecidableEq κ] (key : α → κ) {l : List α} (hl : (l.map key).Nodup)
    {k : κ} {x : α} : l.find? (fun y => key y = k) = some x ↔ x ∈ l ∧ key x = k := by
  constructor
  · intro h
    exact ⟨List.mem_of_find?_eq_some h, by simpa using List.find?_some h⟩
  · rintro ⟨hx, rfl⟩
    induction l with
    | nil => cases hx
    | cons y rest ih =>
        rw [List.map_cons, List.nodup_cons] at hl
        rcases List.mem_cons.mp hx with rfl | hx
        · simp
        · have hne : key y ≠ key x := fun h => hl.1 (h ▸ List.mem_map_of_mem hx)
          simp [hne, ih hl.2 hx]

/-- Taking out a key that a row has takes out that row and no other. -/
theorem filter_key_ne [DecidableEq κ] (key : α → κ) {l : List α} (hl : (l.map key).Nodup) {x : α}
    (hx : x ∈ l) :
    ∃ pre post, l = pre ++ x :: post ∧ l.filter (fun y => key y ≠ key x) = pre ++ post := by
  obtain ⟨pre, post, rfl⟩ := List.append_of_mem hx
  refine ⟨pre, post, rfl, ?_⟩
  rw [List.map_append, List.map_cons, List.nodup_middle, List.nodup_cons, ← List.map_append] at hl
  have hothers : ∀ y ∈ pre ++ post, key y ≠ key x := fun y hy heq =>
    hl.1 (heq ▸ List.mem_map_of_mem hy)
  rw [List.filter_append, List.filter_cons_of_neg (by simp), ← List.filter_append]
  exact List.filter_eq_self.mpr fun y hy => decide_eq_true (hothers y hy)

/-! ## Classes led by their first row -/

/-- The first row is marked, no other is. -/
def HeadMarked (mark : α → Bool) : List α → Prop
  | [] => True
  | x :: rest => mark x = true ∧ ∀ y ∈ rest, mark y = false

/-- In the part of the list that belongs to one class the first row is marked and no other. -/
def ClassesLed [DecidableEq γ] (cls : α → γ) (mark : α → Bool) (l : List α) : Prop :=
  ∀ c, HeadMarked mark (l.filter fun x => cls x = c)

theorem HeadMarked.append_unmarked {mark : α → Bool} {l : List α} {x : α}
    (h : HeadMarked mark l) (hl : l ≠ []) (hx : mark x = false) : HeadMarked mark (l ++ [x]) := by
  cases l with
  | nil => exact absurd rfl hl
  | cons y rest =>
      refine ⟨h.1, fun z hz => ?_⟩
      rcases List.mem_append.mp hz with hz | hz
      · exact h.2 z hz
      · rw [List.mem_singleton.mp hz]
        exact hx

/-- Taking rows out keeps the first row marked as long as that row stays. -/
theorem HeadMarked.filter {mark : α → Bool} {l : List α} (p : α → Bool) (h : HeadMarked mark l)
    (hp : ∀ x ∈ l, mark x = true → p x = true) : HeadMarked mark (l.filter p) := by
  cases l with
  | nil => exact h
  | cons y rest =>
      rw [List.filter_cons_of_pos (hp y List.mem_cons_self h.1)]
      exact ⟨h.1, fun z hz => h.2 z (List.mem_of_mem_filter hz)⟩

/-- In a led class the marked row is the only one with its key that carries a mark. -/
theorem HeadMarked.eq_head {mark : α → Bool} {l : List α} {x : α} (h : HeadMarked mark l)
    (hx : x ∈ l) (hm : mark x = true) : l.head? = some x := by
  cases l with
  | nil => cases hx
  | cons y rest =>
      rcases List.mem_cons.mp hx with rfl | hx
      · rfl
      · rw [h.2 x hx] at hm
        exact absurd hm Bool.false_ne_true

theorem ClassesLed.append_new [DecidableEq γ] {cls : α → γ} {mark : α → Bool} {l : List α} {x : α}
    (h : ClassesLed cls mark l) (hnew : ∀ y ∈ l, cls y ≠ cls x) (hx : mark x = true) :
    ClassesLed cls mark (l ++ [x]) := by
  intro c
  rw [List.filter_append]
  by_cases hc : cls x = c
  · have hnone : l.filter (fun y => cls y = c) = [] := by
      rw [List.filter_eq_nil_iff]
      intro y hy
      simpa [hc] using hc ▸ hnew y hy
    rw [hnone]
    simp [hc, HeadMarked, hx]
  · simpa [hc] using h c

theorem ClassesLed.append_member [DecidableEq γ] {cls : α → γ} {mark : α → Bool} {l : List α}
    {x y : α} (h : ClassesLed cls mark l) (hy : y ∈ l) (hcls : cls y = cls x)
    (hx : mark x = false) : ClassesLed cls mark (l ++ [x]) := by
  intro c
  rw [List.filter_append]
  by_cases hc : cls x = c
  · have hne : l.filter (fun z => cls z = c) ≠ [] := by
      refine List.ne_nil_of_mem (a := y) ?_
      simp [hy, hcls, hc]
    simpa [hc] using (h c).append_unmarked hne hx
  · simpa [hc] using h c

/-! ## Setting the marks of a class afresh -/

/-- The loop over the rows of class `c` that marks the first and unmarks the others; `found`
says that the first has been met. `setMark b x` is `x` with its mark set to `b`. -/
def markFirst [DecidableEq γ] (cls : α → γ) (setMark : Bool → α → α) (c : γ) :
    Bool → List α → List α
  | _, [] => []
  | found, x :: rest =>
      if cls x = c then setMark (!found) x :: markFirst cls setMark c true rest
      else x :: markFirst cls setMark c found rest

section MarkFirst

variable [DecidableEq γ] {mark : α → Bool}

theorem map_markFirst {β : Type*} (cls : α → γ) (setMark : Bool → α → α) (field : α → β)
    (hset : ∀ b x, field (setMark b x) = field x) (c : γ) (found : Bool) (l : List α) :
    (markFirst cls setMark c found l).map field = l.map field := by
  induction l generalizing found with
  | nil => rfl
  | cons x rest ih =>
      by_cases hx : cls x = c
      · simp [markFirst, hx, hset, ih]
      · simp [markFirst, hx, ih]

/-- The other classes are untouched. -/
theorem filter_markFirst_ne (cls : α → γ) (setMark : Bool → α → α)
    (hcls : ∀ b x, cls (setMark b x) = cls x) {c d : γ} (hd : d ≠ c) (found : Bool) (l : List α) :
    (markFirst cls setMark c found l).filter (fun x => cls x = d) = l.filter fun x => cls x = d := by
  induction l generalizing found with
  | nil => rfl
  | cons x rest ih =>
      by_cases hx : cls x = c
      · simp [markFirst, hx, hcls, Ne.symm hd, ih]
      · by_cases hxd : cls x = d
        · simp [markFirst, hxd, ih, hd]
        · simp [markFirst, hx, hxd, ih]

/-- The loop is about the rows of its class alone. -/
theorem filter_markFirst_self (cls : α → γ) (setMark : Bool → α → α)
    (hcls : ∀ b x, cls (setMark b x) = cls x) (c : γ) (found : Bool) (l : List α) :
    (markFirst cls setMark c found l).filter (fun x => cls x = c) =
      markFirst cls setMark c found (l.filter fun x => cls x = c) := by
  induction l generalizing found with
  | nil => rfl
  | cons x rest ih =>
      by_cases hx : cls x = c
      · simp [markFirst, hx, hcls, ih]
      · simp [markFirst, hx, ih]

theorem unmarked_markFirst (cls : α → γ) (setMark : Bool → α → α)
    (hcls : ∀ b x, cls (setMark b x) = cls x) (hmark : ∀ b x, mark (setMark b x) = b) (c : γ)
    (l : List α) : ∀ y ∈ (markFirst cls setMark c true l).filter (fun x => cls x = c), mark y = false := by
  induction l with
  | nil => simp [markFirst]
  | cons x rest ih =>
      by_cases hx : cls x = c
      · intro y hy
        rw [markFirst, if_pos hx, List.filter_cons_of_pos (by simp [hcls, hx])] at hy
        rcases List.mem_cons.mp hy with rfl | hy
        · simp [hmark]
        · exact ih y hy
      · simpa [markFirst, hx] using ih

/-- After the loop the class is led by its first row. -/
theorem headMarked_markFirst (cls : α → γ) (setMark : Bool → α → α)
    (hcls : ∀ b x, cls (setMark b x) = cls x) (hmark : ∀ b x, mark (setMark b x) = b) (c : γ)
    (l : List α) : HeadMarked mark ((markFirst cls setMark c false l).filter fun x => cls x = c) := by
  induction l with
  | nil => trivial
  | cons x rest ih =>
      by_cases hx : cls x = c
      · rw [markFirst, if_pos hx, List.filter_cons_of_pos (by simp [hcls, hx])]
        exact ⟨by simp [hmark], unmarked_markFirst cls setMark hcls hmark c rest⟩
      · simpa [markFirst, hx] using ih

/-- Every class is led after the marks of the only class in doubt have been set afresh. -/
theorem classesLed_markFirst (cls : α → γ) (setMark : Bool → α → α)
    (hcls : ∀ b x, cls (setMark b x) = cls x) (hmark : ∀ b x, mark (setMark b x) = b) {c : γ}
    {l : List α} (h : ∀ d, d ≠ c → HeadMarked mark (l.filter fun x => cls x = d)) :
    ClassesLed cls mark (markFirst cls setMark c false l) := by
  intro d
  by_cases hd : d = c
  · subst hd
    exact headMarked_markFirst cls setMark hcls hmark d l
  · rw [filter_markFirst_ne cls setMark hcls hd]
    exact h d hd

theorem markFirst_of_ne (cls : α → γ) (setMark : Bool → α → α) {c : γ} {l : List α}
    (h : ∀ x ∈ l, cls x ≠ c) (found : Bool) : markFirst cls setMark c found l = l := by
  induction l with
  | nil => rfl
  | cons x rest ih =>
      rw [markFirst, if_neg (h x List.mem_cons_self), ih fun y hy => h y (List.mem_cons_of_mem _ hy)]

/-- The loop changes nothing where there is nothing to unmark. -/
theorem markFirst_of_unmarked (cls : α → γ) (setMark : Bool → α → α) {c : γ} {l : List α}
    (h : ∀ x ∈ l, cls x = c → setMark false x = x) : markFirst cls setMark c true l = l := by
  induction l with
  | nil => rfl
  | cons x rest ih =>
      have hrest := ih fun y hy => h y (List.mem_cons_of_mem _ hy)
      by_cases hx : cls x = c
      · rw [markFirst, if_pos hx, hrest]
        exact congrArg (· :: rest) (h x List.mem_cons_self hx)
      · rw [markFirst, if_neg hx, hrest]

/-- In a class without a mark the loop marks the first row and changes no other. -/
theorem markFirst_eq_modifyFirst (cls : α → γ) (setMark : Bool → α → α) {c : γ} {l : List α}
    (h : ∀ x ∈ l, cls x = c → setMark false x = x) :
    markFirst cls setMark c false l = modifyFirst (fun x => cls x = c) (setMark true) l := by
  induction l with
  | nil => rfl
  | cons x rest ih =>
      have hrest : ∀ y ∈ rest, cls y = c → setMark false y = y := fun y hy =>
        h y (List.mem_cons_of_mem _ hy)
      by_cases hx : cls x = c
      · rw [markFirst, if_pos hx, markFirst_of_unmarked cls setMark hrest, modifyFirst,
          if_pos (decide_eq_true hx)]
        rfl
      · rw [markFirst, if_neg hx, ih hrest, modifyFirst, if_neg (by simpa using hx)]

end MarkFirst

end Keyed
