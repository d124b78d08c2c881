import DaraChat.Lib.SlotTable
import DaraChat.Server.Coherence

set_option autoImplicit false

/-! # The slots of a socket as a slot table

`Socket.table` forgets the topics of unused slots; on it the slot loops are `SlotTable.store`
and `SlotTable.release`. The last section is the rule for invariants of single sockets: what
opening, retiring, logging in, storing, removing, leaving and entering keep, every move keeps.
-/

namespace DaraChat

open GroupContainer

/-- The slots with the topics of those in use. -/
def slotTable (topics : List TopicSlot) : List (Option Str) :=
  topics.map fun slot => if slot.used then some slot.topic else none

@[simp] theorem slotTable_cons_free (topic : Str) (rest : List TopicSlot) :
    slotTable (⟨topic, false⟩ :: rest) = none :: slotTable rest := rfl

@[simp] theorem slotTable_cons_used (topic : Str) (rest : List TopicSlot) :
    slotTable (⟨topic, true⟩ :: rest) = some topic :: slotTable rest := rfl

theorem slotTable_storeSlot (newTopic : Str) (topics : List TopicSlot) :
    (storeSlot newTopic topics).map slotTable = SlotTable.store newTopic (slotTable topics) := by
  induction topics with
  | nil => rfl
  | cons slot rest ih =>
      obtain ⟨topic, used⟩ := slot
      cases used with
      | false => simp [storeSlot, SlotTable.store]
      | true =>
          by_cases htopic : topic = newTopic
          · simp [storeSlot, SlotTable.store, htopic]
          · simp [storeSlot, SlotTable.store, htopic, ← ih, Function.comp_def]

theorem slotTable_releaseSlot (p : Str → Bool) (topics : List TopicSlot) :
    (releaseSlot p topics).map (fun r => (r.1, slotTable r.2)) =
      SlotTable.release p (slotTable topics) := by
  induction topics with
  | nil => rfl
  | cons slot rest ih =>
      obtain ⟨topic, used⟩ := slot
      cases used with
      | false => simp [releaseSlot, SlotTable.release, ← ih, Function.comp_def]
      | true =>
          by_cases hp : p topic = true
          · simp [releaseSlot, SlotTable.release, hp]
          · simp [releaseSlot, SlotTable.release, hp, ← ih, Function.comp_def]

namespace Socket

/-- The slot table of a socket. -/
def table (sock : Socket) : List (Option Str) := slotTable sock.data.topics

/-- The topics in used slots. -/
def usedTopics (sock : Socket) : List Str := SlotTable.keys sock.table

/-- Storing a topic subscribes to it, or does nothing because there is no slot for it. -/
theorem storeTopicSubscription_cases (sock : Socket) (newTopic : Str) :
    (∃ tbl, SlotTable.store newTopic sock.table = some tbl ∧
        (sock.storeTopicSubscription newTopic).table = tbl ∧
        (sock.storeTopicSubscription newTopic).subscriptions =
          insert newTopic sock.subscriptions) ∨
      SlotTable.store newTopic sock.table = none ∧
        sock.storeTopicSubscription newTopic = sock := by
  have hstore := slotTable_storeSlot newTopic sock.data.topics
  unfold storeTopicSubscription
  cases h : storeSlot newTopic sock.data.topics with
  | some topics =>
      rw [h] at hstore
      exact Or.inl ⟨slotTable topics, hstore.symm, rfl, rfl⟩
  | none =>
      rw [h] at hstore
      exact Or.inr ⟨hstore.symm, rfl⟩

/-- Releasing unsubscribes from the topic of the first slot in question, if there is one. -/
theorem release_cases (sock : Socket) (p : Str → Bool) :
    (∃ oldTopic tbl, SlotTable.release p sock.table = some (oldTopic, tbl) ∧
        (sock.release p).table = tbl ∧
        (sock.release p).subscriptions = sock.subscriptions.erase oldTopic) ∨
      SlotTable.release p sock.table = none ∧ sock.release p = sock := by
  have hrelease := slotTable_releaseSlot p sock.data.topics
  unfold release
  cases h : releaseSlot p sock.data.topics with
  | some r =>
      rw [h] at hrelease
      exact Or.inl ⟨r.1, slotTable r.2, hrelease.symm, rfl, rfl⟩
  | none =>
      rw [h] at hrelease
      exact Or.inr ⟨hrelease.symm, rfl⟩

@[simp] theorem table_setGroupId (sock : Socket) (groupId : Str) :
    (sock.setGroupId groupId).table = sock.table := rfl

@[simp] theorem usedTopics_setGroupId (sock : Socket) (groupId : Str) :
    (sock.setGroupId groupId).usedTopics = sock.usedTopics := rfl

@[simp] theorem table_retire (sock : Socket) (phase : Phase) :
    (sock.retire phase).table = sock.table := rfl

/-- The group topic of a socket is its group id. -/
theorem subscribeGroupTopic_eq {sock : Socket} (h : isGroupTopic sock.data.groupId = true) :
    sock.subscribeGroupTopic = sock.storeTopicSubscription sock.data.groupId := by
  have hne : sock.data.groupId ≠ [] := ne_nil_of_startsWith h
  rw [subscribeGroupTopic, if_neg hne, if_pos h]

theorem subscribeGroupTopic_of_nil {sock : Socket} (h : sock.data.groupId = []) :
    sock.subscribeGroupTopic = sock := by
  rw [subscribeGroupTopic, if_pos h]

end Socket

/-! ## A new socket -/

/-- The placeholders of the socket at address `ws`. -/
def placeholders (ws : SocketId) : List Str := (List.range slotCount).map (placeholder ws)

theorem openSocket_table (ws : SocketId) :
    (openSocket ws).table = List.replicate slotCount none := by
  rw [openSocket, Socket.table, slotTable, List.map_map, List.map_map, List.eq_replicate_iff]
  refine ⟨by simp, fun slot hslot => ?_⟩
  obtain ⟨i, -, rfl⟩ := List.mem_map.mp hslot
  rfl

theorem openSocket_usedTopics (ws : SocketId) : (openSocket ws).usedTopics = [] := by
  rw [Socket.usedTopics, openSocket_table]
  decide

theorem openSocket_subscriptions (ws : SocketId) :
    (openSocket ws).subscriptions = (placeholders ws).toFinset := rfl

/-- A placeholder starts with a digit. -/
theorem placeholder_not_startsWith {ws : SocketId} {t start : Str} {c : Char}
    (h : t ∈ placeholders ws) (hc : c.isDigit = false) : startsWith t (c :: start) = false := by
  obtain ⟨i, -, rfl⟩ := List.mem_map.mp h
  rw [placeholder, List.append_assoc]
  exact natToString_append_not_startsWith hc

/-! ## Invariants of single sockets -/

/-- A predicate on sockets that every operation on one socket keeps. -/
structure SocketInvariant (guard : Server.Guard) (P : SocketId → Socket → Prop) : Prop where
  opened : ∀ ws, P ws (openSocket ws)
  retired : ∀ ws sock phase, phase ≠ .live → P ws sock → P ws (sock.retire phase)
  enrolled : ∀ ws sock login groupId, sock.phase = .live → sock.data.connected = false →
    (groupId = [] ∨ isGroupTopic groupId = true) → guard.logs ws login → P ws sock →
    P ws (({ sock with data := Server.handleConnect sock.data login } : Socket).setGroupId
      groupId).subscribeStandardTopics
  stored : ∀ ws sock topic, sock.data.connected = true → checkValidTopicName topic = true →
    guard.stores sock topic → P ws sock → P ws (sock.storeTopicSubscription topic)
  removed : ∀ ws sock topic, sock.data.connected = true → guard.removes ws → P ws sock →
    P ws (sock.removeTopicSubscription topic)
  left : ∀ ws sock, sock.data.connected = true → P ws sock →
    P ws (sock.removeGroupSubscription.setGroupId [])
  entered : ∀ ws sock groupId, sock.data.connected = true → sock.data.groupId = [] →
    isGroupTopic groupId = true → guard.enters ws sock → P ws sock →
    P ws (sock.setGroupId groupId).subscribeGroupTopic

namespace Server

/-- Every socket satisfies `P`. -/
def AllSockets (P : SocketId → Socket → Prop) (s : Server) : Prop :=
  ∀ ws sock, s.sockets ws = some sock → P ws sock

section AllSockets

variable {guard : Guard} {P : SocketId → Socket → Prop} {s s' : Server}

theorem allSockets_init : AllSockets P {} := by
  intro ws sock h
  cases h

theorem AllSockets.setSocket (h : s.AllSockets P) {ws : SocketId} {sock : Socket}
    (hsock : P ws sock) : (s.setSocket ws sock).AllSockets P := by
  intro ws₁ sock₁ h₁
  rcases setSocket_cases h₁ with ⟨rfl, rfl⟩ | ⟨-, h₁⟩
  · exact hsock
  · exact h ws₁ sock₁ h₁

theorem AllSockets.congr (h : s.AllSockets P) (hsockets : s'.sockets = s.sockets) :
    s'.AllSockets P := by
  intro ws sock h₁
  rw [hsockets] at h₁
  exact h ws sock h₁

/-- **The rule for invariants of single sockets.** -/
theorem AllSockets.move (hP : SocketInvariant guard P) (hm : Move guard s s')
    (hp : s.Presence) (h : s.AllSockets P) : s'.AllSockets P := by
  cases hm with
  | opened ws hclosed => exact h.setSocket (hP.opened ws)
  | retired ws sock phase hsock hphase =>
      exact h.setSocket (hP.retired ws sock phase hphase (h ws sock hsock))
  | withdrawn env ws sock hsock =>
      have hretired : (s.setSocket ws (sock.retire .closed)).AllSockets P :=
        h.setSocket (hP.retired ws sock .closed (by simp) (h ws sock hsock))
      exact hretired.congr (sendIf_sockets ..)
  | enrolled env ws sock login hsock hlive hc _ hlogs =>
      refine (h.setSocket (hP.enrolled ws sock login (s.groupContainer.groupIdOf
        login.characterName) hlive hc ?_ hlogs (h ws sock hsock))).congr (sendIf_sockets ..)
      -- the id that a login restores is empty or that of a group
      by_cases hnone : s.groupContainer.groupIdOf login.characterName = []
      · exact Or.inl hnone
      · exact Or.inr (hp.sound.groupIdOf_prefixed hnone)
  | stored ws sock topic hs hvalid hstores =>
      exact h.setSocket (hP.stored ws sock topic hs.connected hvalid hstores (h ws sock hs.found))
  | removed ws sock topic hs hremoves =>
      exact h.setSocket (hP.removed ws sock topic hs.connected hremoves (h ws sock hs.found))
  | left ws sock hs => exact h.setSocket (hP.left ws sock hs.connected (h ws sock hs.found))
  | disbanded ws sock hs => exact h.setSocket (hP.left ws sock hs.connected (h ws sock hs.found))
  | founded env ws sock hs _ hfree hnone henters =>
      exact h.setSocket (hP.entered ws sock _ hs.connected hfree (startsWith_getNewGroupId _)
        henters (h ws sock hs.found))
  | admitted env ws sock inviter hs _ hfree hjoin henters =>
      exact h.setSocket (hP.entered ws sock _ hs.connected hfree
        (hp.sound.groupIdOf_prefixed hjoin.leader_grouped) henters (h ws sock hs.found))
  | invited env ws sock chatMsg hs => exact h
  | pruned env => exact h
  | alive env ws sock member hs => exact h
  | relayed ws sock topic chatMsg hs => exact h
  | forwarded ws sock topic rest hs => exact h
  | broadcast ws sock data hs => exact h
  | sent ws sock message hs => exact h

/-- A socket invariant over an event that does what the guard knows of. -/
theorem allSockets_step (hP : SocketInvariant guard P) (cfg : Config) {e : Event}
    (hallows : guard.Allows cfg s e) (hs : s.Consistent) (h : s.AllSockets P) :
    (s.step cfg e).AllSockets P :=
  step_of_consistent (fun hm hs h => h.move hP hm hs.presence) cfg hallows hs h

/-- A socket invariant in every reachable state. -/
theorem allSockets_run (hP : SocketInvariant {} P) (cfg : Config) (evs : List Event) :
    ((machine cfg).run evs).AllSockets P := by
  refine (machine cfg).history_induction (P := fun _ s => s.AllSockets P) allSockets_init ?_ evs
  intro evs e h
  exact allSockets_step hP cfg (allows_any cfg _ e) (consistent_run cfg evs) h

end AllSockets

end Server

end DaraChat
