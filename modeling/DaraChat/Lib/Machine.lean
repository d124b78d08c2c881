import Mathlib.Data.List.Basic
import Mathlib.Data.List.Induction

set_option autoImplicit false

/-! # Deterministic machines and their runs

A `Machine` is a start state and a step function; a run is the fold of the step function over
a list of events. Nondeterminism of the environment (the clock, random numbers, which event
comes next) belongs to the events, so that a run is a function of its events.

Two induction rules carry every statement about all runs: `invariant`, for a predicate on
states, and `history_induction`, for a predicate on the events so far and the state they lead
to. `Along C` says that every step of a run meets the condition `C`, a predicate on the state
before the step and on the event; `along_induction` is the induction rule under such a
condition. `Since P Q` is the other direction of time: at some earlier step `P` held, and `Q` has
held at every step after it. `thin keep` deletes events from a run, and `thin_simulation` relates
the two runs. `Extends` is for logs, parts of the state that only grow: what a step appends is
enough to know what the log of a whole run holds.
-/

/-- A deterministic machine with states `σ` and events `ε`. -/
structure Machine (σ ε : Type*) where
  init : σ
  step : σ → ε → σ

namespace Machine

variable {σ ε : Type*} (M : Machine σ ε)

/-! ## Runs -/

/-- The state reached from `s` by the events `evs`. -/
def runFrom (s : σ) (evs : List ε) : σ := evs.foldl M.step s

/-- The state reached from the start state by the events `evs`. -/
def run (evs : List ε) : σ := M.runFrom M.init evs

@[simp] theorem run_nil : M.run [] = M.init := rfl

theorem run_snoc (evs : List ε) (e : ε) : M.run (evs ++ [e]) = M.step (M.run evs) e := by
  simp [run, runFrom]

theorem runFrom_append (s : σ) (pre post : List ε) :
    M.runFrom s (pre ++ post) = M.runFrom (M.runFrom s pre) post := by
  simp [runFrom]

/-! ## Induction over runs -/

/-- A predicate on the history and the state it leads to holds of every run when it holds at
the start and every step carries it to the extended history. -/
theorem history_induction {P : List ε → σ → Prop} (h0 : P [] M.init)
    (hstep : ∀ evs e, P evs (M.run evs) → P (evs ++ [e]) (M.step (M.run evs) e)) :
    ∀ evs, P evs (M.run evs) := by
  intro evs
  induction evs using List.reverseRecOn with
  | nil => exact h0
  | append_singleton evs e ih =>
      rw [run_snoc]
      exact hstep evs e ih

/-- **The invariant rule.** -/
theorem invariant {I : σ → Prop} (h0 : I M.init) (hstep : ∀ s e, I s → I (M.step s e)) :
    ∀ evs, I (M.run evs) :=
  M.history_induction (P := fun _ s => I s) h0 (fun _ e h => hstep _ e h)

/-! ## Observations along a run -/

section Observe

variable {γ : Type*}

/-- The machine together with an observer, who starts from `g` and learns at each step from the
state before it and the event. -/
def observed (learn : σ → ε → γ → γ) (g : γ) : Machine (σ × γ) ε :=
  ⟨(M.init, g), fun p e => (M.step p.1 e, learn p.1 e p.2)⟩

/-- The observer sees the run and does not change it. -/
@[simp] theorem run_observed_fst (learn : σ → ε → γ → γ) (g : γ) (evs : List ε) :
    ((M.observed learn g).run evs).1 = M.run evs := by
  induction evs using List.reverseRecOn with
  | nil => rfl
  | append_singleton evs e ih =>
      rw [run_snoc, run_snoc, ← ih]
      rfl

/-- What the observer knows after the run of `evs`. -/
def observe (learn : σ → ε → γ → γ) (g : γ) (evs : List ε) : γ :=
  ((M.observed learn g).run evs).2

@[simp] theorem observe_nil (learn : σ → ε → γ → γ) (g : γ) : M.observe learn g [] = g := rfl

theorem observe_snoc (learn : σ → ε → γ → γ) (g : γ) (evs : List ε) (e : ε) :
    M.observe learn g (evs ++ [e]) = learn (M.run evs) e (M.observe learn g evs) := by
  rw [observe, run_snoc, ← M.run_observed_fst learn g]
  rfl

theorem run_observed (learn : σ → ε → γ → γ) (g : γ) (evs : List ε) :
    (M.observed learn g).run evs = (M.run evs, M.observe learn g evs) := by
  rw [← M.run_observed_fst learn g]
  rfl

/-- All that `f` sees along the run. -/
def collect (f : σ → ε → List γ) (evs : List ε) : List γ :=
  M.observe (fun s e seen => seen ++ f s e) [] evs

theorem mem_collect {f : σ → ε → List γ} {evs : List ε} {c : γ} :
    c ∈ M.collect f evs ↔ ∃ pre e post, evs = pre ++ e :: post ∧ c ∈ f (M.run pre) e := by
  constructor
  · intro h
    induction evs using List.reverseRecOn with
    | nil => cases h
    | append_singleton evs e ih =>
        rw [collect, observe_snoc, List.mem_append] at h
        rcases h with h | h
        · obtain ⟨pre, e', post, rfl, hc⟩ := ih h
          exact ⟨pre, e', post ++ [e], by simp, hc⟩
        · exact ⟨evs, e, [], rfl, h⟩
  · rintro ⟨pre, e, post, rfl, hc⟩
    induction post using List.reverseRecOn with
    | nil =>
        rw [collect, observe_snoc]
        exact List.mem_append_right _ hc
    | append_singleton post e' ih =>
        rw [← List.cons_append, ← List.append_assoc, collect, observe_snoc]
        exact List.mem_append_left _ ih

/-- What has been seen stays seen. -/
theorem collect_subset_append (f : σ → ε → List γ) (pre post : List ε) :
    M.collect f pre ⊆ M.collect f (pre ++ post) := by
  intro c hc
  obtain ⟨pre', e, post', rfl, hseen⟩ := M.mem_collect.mp hc
  exact M.mem_collect.mpr ⟨pre', e, post' ++ post, by simp, hseen⟩

end Observe

/-! ## Logs that only grow -/

/-- The log has been extended by entries that satisfy `P`. -/
def Extends {α : Type*} (P : α → Prop) (log log' : List α) : Prop :=
  ∃ news, log' = log ++ news ∧ ∀ x ∈ news, P x

section Extends

variable {α : Type*} {P : α → Prop} {log log' log'' : List α}

theorem Extends.of_eq (h : log' = log) : Extends P log log' :=
  ⟨[], by rw [h, List.append_nil], fun _ hx => absurd hx List.not_mem_nil⟩

theorem Extends.snoc {x : α} (hx : P x) : Extends P log (log ++ [x]) := by
  refine ⟨[x], rfl, fun y hy => ?_⟩
  rw [List.mem_singleton.mp hy]
  exact hx

theorem Extends.trans (h : Extends P log log') (h' : Extends P log' log'') :
    Extends P log log'' := by
  obtain ⟨news, heq, hall⟩ := h
  obtain ⟨news', heq', hall'⟩ := h'
  refine ⟨news ++ news', by rw [heq', heq, List.append_assoc], fun x hx => ?_⟩
  exact (List.mem_append.mp hx).elim (hall x) (hall' x)

/-- What holds of the log and of all that is added holds of the longer log. -/
theorem Extends.forall_mem (h : Extends P log log') (hlog : ∀ x ∈ log, P x) :
    ∀ x ∈ log', P x := by
  obtain ⟨news, rfl, hall⟩ := h
  exact fun x hx => (List.mem_append.mp hx).elim (hlog x) (hall x)

end Extends

/-! ## Conditions along a run -/

/-- Every step of the run of `evs` from `s` meets `C`. -/
def AlongFrom (C : σ → ε → Prop) : σ → List ε → Prop
  | _, [] => True
  | s, e :: evs => C s e ∧ AlongFrom C (M.step s e) evs

/-- Every step of the run of `evs` meets `C`. -/
def Along (C : σ → ε → Prop) (evs : List ε) : Prop := M.AlongFrom C M.init evs

instance alongFromDecidable (C : σ → ε → Prop) [∀ s e, Decidable (C s e)] :
    ∀ (s : σ) (evs : List ε), Decidable (M.AlongFrom C s evs)
  | _, [] => inferInstanceAs (Decidable True)
  | s, e :: evs =>
      have := alongFromDecidable C (M.step s e) evs
      inferInstanceAs (Decidable (C s e ∧ M.AlongFrom C (M.step s e) evs))

instance alongDecidable (C : σ → ε → Prop) [∀ s e, Decidable (C s e)] (evs : List ε) :
    Decidable (M.Along C evs) := alongFromDecidable M C M.init evs

theorem alongFrom_append (C : σ → ε → Prop) (s : σ) (pre post : List ε) :
    M.AlongFrom C s (pre ++ post) ↔ M.AlongFrom C s pre ∧ M.AlongFrom C (M.runFrom s pre) post := by
  induction pre generalizing s with
  | nil => simp [AlongFrom, runFrom]
  | cons e pre ih =>
      simp only [List.cons_append, AlongFrom, ih, and_assoc]
      rfl

theorem along_snoc (C : σ → ε → Prop) (evs : List ε) (e : ε) :
    M.Along C (evs ++ [e]) ↔ M.Along C evs ∧ C (M.run evs) e := by
  simp [Along, alongFrom_append, AlongFrom, run]

/-- `Along` read as a statement about the prefixes of the run. -/
theorem along_iff (C : σ → ε → Prop) (evs : List ε) :
    M.Along C evs ↔ ∀ pre e post, evs = pre ++ e :: post → C (M.run pre) e := by
  constructor
  · rintro h pre e post rfl
    rw [Along, alongFrom_append] at h
    exact h.2.1
  · intro h
    induction evs using List.reverseRecOn with
    | nil => trivial
    | append_singleton evs e ih =>
        refine (M.along_snoc C evs e).mpr ⟨ih fun pre e' post hev => ?_, h evs e [] rfl⟩
        exact h pre e' (post ++ [e]) (by simp [hev])

/-- The history rule for the runs all of whose steps meet `C`. -/
theorem along_induction {C : σ → ε → Prop} {P : List ε → σ → Prop} (h0 : P [] M.init)
    (hstep : ∀ evs e, M.Along C evs → C (M.run evs) e → P evs (M.run evs) →
      P (evs ++ [e]) (M.step (M.run evs) e)) :
    ∀ evs, M.Along C evs → P evs (M.run evs) :=
  M.history_induction (P := fun evs s => M.Along C evs → P evs s) (fun _ => h0) (by
    intro evs e ih h
    obtain ⟨hevs, he⟩ := (M.along_snoc C evs e).mp h
    exact hstep evs e hevs he (ih hevs))

/-! ## Runs without some of the events -/

/-- The events that `keep` keeps, which sees the state before each of them. -/
def thin (keep : σ → ε → Bool) (evs : List ε) : List ε :=
  M.collect (fun s e => if keep s e then [e] else []) evs

theorem thin_snoc_of_keep {keep : σ → ε → Bool} {evs : List ε} {e : ε}
    (h : keep (M.run evs) e = true) : M.thin keep (evs ++ [e]) = M.thin keep evs ++ [e] := by
  rw [thin, collect, observe_snoc, if_pos h]
  rfl

theorem thin_snoc_of_drop {keep : σ → ε → Bool} {evs : List ε} {e : ε}
    (h : keep (M.run evs) e = false) : M.thin keep (evs ++ [e]) = M.thin keep evs := by
  rw [thin, collect, observe_snoc, if_neg (by simp [h]), List.append_nil]
  rfl

/-- **The simulation rule for deleted events**: a machine `N` that takes only the kept events
stays in `R` with `M` when `R` holds at the start, a kept event leads from `R` to `R`, and so does
a deleted one, at which `N` stands still. -/
theorem thin_simulation {τ : Type*} (N : Machine τ ε) {keep : σ → ε → Bool}
    {C : σ → ε → Prop} {R : σ → τ → Prop} (h0 : R M.init N.init)
    (hkeep : ∀ s t e, C s e → R s t → keep s e = true → R (M.step s e) (N.step t e))
    (hdrop : ∀ s t e, C s e → R s t → keep s e = false → R (M.step s e) t) :
    ∀ evs, M.Along C evs → R (M.run evs) (N.run (M.thin keep evs)) := by
  refine M.along_induction (P := fun evs s => R s (N.run (M.thin keep evs))) h0 ?_
  intro evs e _ hC hR
  cases hk : keep (M.run evs) e with
  | true =>
      rw [M.thin_snoc_of_keep hk, run_snoc]
      exact hkeep _ _ e hC hR hk
  | false =>
      rw [M.thin_snoc_of_drop hk]
      exact hdrop _ _ e hC hR hk

/-! ## Since an earlier step -/

/-- Some step of the run of `evs` met `P`, and every step after it met `Q`. -/
def Since (P Q : σ → ε → Prop) (evs : List ε) : Prop :=
  ∃ pre e post, evs = pre ++ e :: post ∧ P (M.run pre) e ∧ M.AlongFrom Q (M.run (pre ++ [e])) post

section Since

variable {M} {P Q : σ → ε → Prop} {evs : List ε} {e : ε}

theorem since_last (h : P (M.run evs) e) : M.Since P Q (evs ++ [e]) :=
  ⟨evs, e, [], rfl, h, trivial⟩

theorem Since.snoc (h : M.Since P Q evs) (hq : Q (M.run evs) e) : M.Since P Q (evs ++ [e]) := by
  obtain ⟨pre, e', post, rfl, hp, hall⟩ := h
  have hrun : M.runFrom (M.run (pre ++ [e'])) post = M.run (pre ++ e' :: post) := by
    rw [run, run, ← runFrom_append]
    simp
  refine ⟨pre, e', post ++ [e], by simp, hp, ?_⟩
  rw [alongFrom_append, hrun]
  exact ⟨hall, hq, trivial⟩

/-- The step that met `P`. -/
theorem Since.exists_step (h : M.Since P Q evs) :
    ∃ pre e post, evs = pre ++ e :: post ∧ P (M.run pre) e := by
  obtain ⟨pre, e, post, hevs, hp, -⟩ := h
  exact ⟨pre, e, post, hevs, hp⟩

end Since

end Machine
