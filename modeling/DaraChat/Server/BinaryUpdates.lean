import DaraChat.Lib.Single
import DaraChat.Server.Coherence

set_option autoImplicit false

/-! # Binary updates

What the server is to do with a binary frame: relay the bytes to the group and refresh the
sender's entry when the frame is admitted, and otherwise nothing (`Gated`). The handler asks for
more than zero by asking `MaxHealth <= 0`, which is false of a NaN, so a frame with such a
`MaxHealth` goes through (`floatLeZero_eq_false_iff`), and no other does (`gated_iff`).
-/

namespace DaraChat

open GroupContainer

/-! ## The comparison -/

theorem floatLeZero_eq_false_iff {f : UInt32} :
    floatLeZero f = false ↔ Single.Positive f ∨ Single.IsNaN f := by
  have hlt : f.toNat < 2 ^ 32 := f.toNat_lt
  have hmagnitude : (f &&& 0x7FFFFFFF).toNat = f.toNat % 2 ^ 31 :=
    Nat.and_two_pow_sub_one_eq_mod f.toNat 31
  have hfinite : f &&& 0x7FFFFFFF ≤ 0x7F800000 ↔ f.toNat % 2 ^ 31 ≤ 2139095040 := by
    rw [UInt32.le_iff_toNat_le, hmagnitude]
    rfl
  have hzero : f &&& 0x7FFFFFFF = 0 ↔ f.toNat % 2 ^ 31 = 0 := by
    rw [← UInt32.toNat_inj, hmagnitude]
    rfl
  have hnegative : f ≥ 0x80000000 ↔ 2 ^ 31 ≤ f.toNat := by
    rw [ge_iff_le, UInt32.le_iff_toNat_le]
    rfl
  rw [Single.positive_iff, Single.isNaN_iff, ← Bool.not_eq_true]
  simp only [floatLeZero, Bool.and_eq_true, Bool.or_eq_true, decide_eq_true_eq, beq_iff_eq, hfinite,
    hzero, hnegative]
  omega

/-- The bit test is the comparison of the values; a NaN has none. -/
theorem floatLeZero_iff {f : UInt32} :
    floatLeZero f = true ↔ ∃ v, Single.value f = some v ∧ v ≤ 0 := by
  rw [← Bool.not_eq_false, floatLeZero_eq_false_iff, not_or, Single.IsNaN]
  cases hvalue : Single.value f with
  | none => simp
  | some v =>
      rw [Single.positive_of_value hvalue, not_lt]
      simp

/-! ## The sender's entry -/

/-- An entry without what a binary update may change, if it is one of `n`. -/
def hideVitals (n : Str) (m : GroupMember) : GroupMember :=
  if m.name = n then { m with zone := [], health := [], storeTime := 0, isOnline := false } else m

/-- The containers differ in zone, health, `storeTime` and `isOnline` of entries of `n` at most. -/
def OnlyVitals (n : Str) (c c' : GroupContainer) : Prop :=
  c'.myInvites = c.myInvites ∧ c'.myGroups.map (hideVitals n) = c.myGroups.map (hideVitals n)

theorem onlyVitals_aliveMsg (c : GroupContainer) (now : Time) (memberAlive : GroupMember) :
    OnlyVitals memberAlive.name c (c.aliveMsg now memberAlive) := by
  refine ⟨rfl, Keyed.map_modifyFirst _ _ _ (fun m hm => ?_) _⟩
  have hname : m.name = memberAlive.name := by simpa using hm
  simp [hideVitals, hname]

namespace Server

/-! ## The gate -/

/-- The frame is one of an authenticated member of a group. -/
structure FromMember (s : Server) (ws : SocketId) (sock : Socket) : Prop extends
    s.Session ws sock where
  grouped : sock.data.groupId ≠ []

/-- The decoder accepts the bytes, and `MaxHealth` is a number greater than zero. -/
def ValidUpdate (data : List UInt8) : Prop :=
  ∃ msg, FDaraRawChatMsg.deserialize data = some msg ∧ Single.Positive msg.maxHealth

/-- The bytes have been published once, to the group of `sock`, and nothing else has changed but
the sender's entry. -/
structure UpdateRelayed (s s' : Server) (sock : Socket) (data : List UInt8) : Prop where
  published : s'.published =
    s.published ++ [⟨getGroupTopic sock.data.groupId, .binary data, s.groupContainer.myGroups⟩]
  groups : OnlyVitals sock.data.name s.groupContainer s'.groupContainer
  sockets : s'.sockets = s.sockets
  activeSessions : s'.activeSessions = s.activeSessions
  sent : s'.sent = s.sent

/-- What is to happen to a binary frame. -/
def Gated (cfg : Config) (s : Server) (env : Env) (ws : SocketId) (data : List UInt8) : Prop :=
  (∀ sock, s.FromMember ws sock → ValidUpdate data →
    UpdateRelayed s (s.step cfg (.binary env ws data)) sock data) ∧
  ((∀ sock, s.FromMember ws sock → ¬ ValidUpdate data) → s.step cfg (.binary env ws data) = s)

/-- A frame of a member that the decoder accepts does not have a NaN as its `MaxHealth`. -/
def NumericMaxHealth (s : Server) : Event → Prop
  | .binary _ ws data => ∀ sock msg, s.FromMember ws sock →
      FDaraRawChatMsg.deserialize data = some msg → ¬ Single.IsNaN msg.maxHealth
  | _ => True

section Step

variable (cfg : Config) {s : Server} {env : Env} {ws : SocketId} {sock : Socket}
  {data : List UInt8}

theorem step_of_binary (h : s.Session ws sock) :
    s.step cfg (.binary env ws data) = handleBinary cfg env s sock data := by
  simp only [step, h.found, if_pos h.live]

/-- Only a member's frame reaches the decoder. -/
theorem step_of_no_member (h : ∀ sock, ¬ s.FromMember ws sock) :
    s.step cfg (.binary env ws data) = s := by
  simp only [step]
  split
  · rfl
  · rename_i sock hfound
    split
    · rename_i hlive
      unfold handleBinary
      rw [if_pos]
      by_contra hmember
      simp only [Bool.or_eq_true, Bool.not_eq_true', decide_eq_true_eq, not_or,
        Bool.not_eq_false] at hmember
      exact h sock ⟨⟨hfound, hlive, hmember.1⟩, hmember.2⟩
    · rfl

theorem handleBinary_of_member (h : s.FromMember ws sock) :
    handleBinary cfg env s sock data =
      match FDaraRawChatMsg.deserialize data with
      | none => s
      | some validated =>
          if floatLeZero validated.maxHealth then s
          else
            (s.publish sock.data.groupId (.binary data)).setGroups
              (s.groupContainer.aliveMsg env.time
                { name := sock.data.name
                  zone := sock.data.zone
                  health := cfg.healthPercentage validated.health validated.maxHealth
                  storeTime := env.time }) := by
  unfold handleBinary
  rw [if_neg]
  · rfl
  · simp [h.connected, h.grouped]

/-- A member's frame that passes the handler's tests is relayed. -/
theorem relayed_of_passed (hs : s.Consistent) (h : s.FromMember ws sock) {msg : FDaraRawChatMsg}
    (hmsg : FDaraRawChatMsg.deserialize data = some msg)
    (hpass : floatLeZero msg.maxHealth = false) :
    UpdateRelayed s (s.step cfg (.binary env ws data)) sock data := by
  have htopic : getGroupTopic sock.data.groupId = sock.data.groupId := by
    have hgroup := h.grouped
    rw [hs.groupId h.toSession] at hgroup ⊢
    exact getGroupTopic_eq (hs.presence.sound.groupIdOf_prefixed hgroup)
  rw [step_of_binary cfg h.toSession, handleBinary_of_member cfg h, hmsg]
  simp only [hpass, Bool.false_eq_true, if_false]
  exact ⟨by rw [htopic]; rfl, onlyVitals_aliveMsg _ _ _, rfl, rfl, rfl⟩

/-- **The gate holds of a frame exactly when no NaN passes for a positive `MaxHealth`.** -/
theorem gated_iff (hs : s.Consistent) :
    Gated cfg s env ws data ↔ s.NumericMaxHealth (.binary env ws data) := by
  constructor
  · rintro ⟨-, hshut⟩ sock msg hmember hmsg hnan
    -- a NaN is relayed although the frame is not valid
    have hinvalid : ¬ ValidUpdate data := by
      rintro ⟨msg', hmsg', v, hv, -⟩
      rw [hmsg] at hmsg'
      obtain rfl := Option.some.inj hmsg'
      rw [hnan] at hv
      cases hv
    have hrelayed : UpdateRelayed s (s.step cfg (.binary env ws data)) sock data :=
      relayed_of_passed cfg hs hmember hmsg (floatLeZero_eq_false_iff.mpr (.inr hnan))
    have hpublished := hrelayed.published
    rw [hshut fun _ _ => hinvalid] at hpublished
    exact absurd hpublished (by simp)
  · intro hnumeric
    refine ⟨fun sock hmember hvalid => ?_, fun hshut => ?_⟩
    · obtain ⟨msg, hmsg, hpositive⟩ := hvalid
      exact relayed_of_passed cfg hs hmember hmsg (floatLeZero_eq_false_iff.mpr (.inl hpositive))
    · by_cases hmember : ∃ sock, s.FromMember ws sock
      · obtain ⟨sock, hmember⟩ := hmember
        rw [step_of_binary cfg hmember.toSession, handleBinary_of_member cfg hmember]
        cases hmsg : FDaraRawChatMsg.deserialize data with
        | none => rfl
        | some msg =>
            refine if_pos ?_
            rw [← Bool.not_eq_false, floatLeZero_eq_false_iff, not_or]
            exact ⟨fun hpositive => hshut sock hmember ⟨msg, hmsg, hpositive⟩,
              hnumeric sock msg hmember hmsg⟩
      · exact step_of_no_member cfg fun sock h => hmember ⟨sock, h⟩

end Step

/-- Every binary frame of the run is treated as it is to be. -/
def BinaryUpdatesGated (cfg : Config) (evs : List Event) : Prop :=
  ∀ pre env ws data post, evs = pre ++ .binary env ws data :: post →
    Gated cfg ((machine cfg).run pre) env ws data

/-- **Binary updates are gated and local in a run exactly when no member's frame in it has a NaN as
its `MaxHealth`.** -/
theorem binaryUpdatesGated_iff (cfg : Config) (evs : List Event) :
    BinaryUpdatesGated cfg evs ↔ (machine cfg).Along NumericMaxHealth evs := by
  rw [Machine.along_iff]
  constructor
  · rintro h pre e post rfl
    cases e with
    | binary env ws data =>
        exact (gated_iff cfg (consistent_run cfg pre)).mp (h pre env ws data post rfl)
    | opened ws => trivial
    | text env ws msg => trivial
    | closed env ws => trivial
  · rintro h pre env ws data post rfl
    exact (gated_iff cfg (consistent_run cfg pre)).mpr (h pre _ post rfl)

/-! ## A `MaxHealth` that is not a number -/

/-- A frame of zeros with the quiet NaN as its `MaxHealth`. -/
def nanUpdate : List UInt8 :=
  [0x44, 0x41, 0x52, 0x41] ++ List.replicate 16 0 ++ [0x00, 0x00, 0xC0, 0x7F] ++
    List.replicate 25 0

/-- Tirio founds a group. -/
def foundingEvents : List Event :=
  loginEvents 1 tirio ++ [.text (sampleEnv 1001 "a") 1 "GroupInvite:Tirio:Trula:".toList]

/-- **The frame is relayed to Tirio's group**, though its `MaxHealth` is not greater than zero. -/
theorem not_binaryUpdatesGated_nanUpdate :
    ¬ BinaryUpdatesGated sampleConfig
      (foundingEvents ++ [.binary (sampleEnv 1002 "") 1 nanUpdate]) := by
  intro h
  have hrun : (((machine sampleConfig).run foundingEvents).step sampleConfig
      (.binary (sampleEnv 1002 "") 1 nanUpdate)).published.length =
        ((machine sampleConfig).run foundingEvents).published.length + 1 ∧
      (FDaraRawChatMsg.deserialize nanUpdate).map FDaraRawChatMsg.maxHealth = some 0x7FC00000 := by
    decide +kernel
  obtain ⟨hpublished, hmaxHealth⟩ := hrun
  have hshut := (h foundingEvents _ 1 nanUpdate [] rfl).2
  rw [hshut] at hpublished
  · omega
  · rintro sock - ⟨msg, hmsg, hpositive⟩
    rw [hmsg] at hmaxHealth
    obtain hbits := Option.some.inj hmaxHealth
    rw [hbits, Single.positive_iff] at hpositive
    exact absurd hpositive.2 (by decide)

end Server

end DaraChat
