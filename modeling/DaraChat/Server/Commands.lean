import DaraChat.Group.Leaders
import DaraChat.Server.Coherence

set_option autoImplicit false

/-! # The server drives the container

What a move does to the group container is a short run of container commands (`Move.driven`), so
the container of every reachable server state is one that its own machine reaches, and an
invariant of the container's commands is an invariant of the server
(`Move.container_invariant`). `Serves` says which commands the server gives: a character founds a
group or joins one in its own session only, and nobody is kicked.
-/

namespace DaraChat

open GroupContainer

namespace Server

/-- The commands a move gives to the container, and the container it gives them to. -/
def Serves (guard : Guard) (s : Server) (c : GroupContainer) : Command → Prop
  | .groupStartGroup _ uuid leaderName =>
      c = s.groupContainer ∧ (∃ ws sock, s.Session ws sock ∧ sock.data.name = leaderName) ∧
        guard.founds s (getNewGroupId uuid) leaderName
  | .groupJoin _ memberName _ => ∃ ws sock, s.Session ws sock ∧ sock.data.name = memberName
  | .groupKickMember _ _ => False
  | _ => True

/-- The container `c` is reached by commands that a move serves. -/
def Driven (guard : Guard) (s : Server) (c : GroupContainer) : Prop :=
  ∃ cmds, c = GroupContainer.machine.runFrom s.groupContainer cmds ∧
    GroupContainer.machine.AlongFrom (Serves guard s) s.groupContainer cmds

section Moves

variable {guard : Guard} {s s' : Server}

theorem driven_self : Driven guard s s.groupContainer := ⟨[], rfl, trivial⟩

theorem driven_one (cmd : Command) (h : Serves guard s s.groupContainer cmd) :
    Driven guard s (s.groupContainer.exec cmd) := ⟨[cmd], rfl, h, trivial⟩

theorem driven_two (cmd cmd' : Command) (h : Serves guard s s.groupContainer cmd)
    (h' : Serves guard s (s.groupContainer.exec cmd) cmd') :
    Driven guard s ((s.groupContainer.exec cmd).exec cmd') := ⟨[cmd, cmd'], rfl, h, h', trivial⟩

/-- **What a move does to the container** is a run of commands it serves. -/
theorem Move.driven (hm : Move guard s s') : Driven guard s s'.groupContainer := by
  cases hm with
  | opened | retired | stored | removed | relayed | forwarded | broadcast | sent =>
      exact driven_self
  | withdrawn env ws sock =>
      rw [sendIf_groupContainer]
      exact driven_one (.setMemberOnline env.time sock.data.name false) trivial
  | enrolled env ws sock login =>
      rw [sendIf_groupContainer]
      exact driven_one (.setMemberOnline env.time login.characterName true) trivial
  | left ws sock h => exact driven_one (.groupDisband sock.data.name) trivial
  | disbanded ws sock h => exact driven_one (.groupDisband sock.data.name) trivial
  -- `foundGroup` and `enterGroup` write the new entry directly; the commands append the same one
  | founded env ws sock h _ _ hnone _ hfounds =>
      have hexec : (s.foundGroup env ws sock).groupContainer =
          s.groupContainer.exec (.groupStartGroup env.time env.uuid sock.data.name) :=
        (groupStartGroup_of_none env.time env.uuid hnone).1.symm
      rw [hexec]
      exact driven_one _ ⟨rfl, ⟨ws, sock, h, rfl⟩, hfounds⟩
  | admitted env ws sock inviter h _ _ hjoin =>
      have hexec : (s.enterGroup env ws sock inviter).groupContainer =
          s.groupContainer.exec (.groupJoin env.time sock.data.name inviter) :=
        (groupJoin_of_canJoin env.time hjoin).1.symm
      show Driven guard s ((s.enterGroup env ws sock inviter).groupContainer.exec
        (.removeInvite inviter sock.data.name))
      rw [hexec]
      exact driven_two _ _ ⟨ws, sock, h, rfl⟩ trivial
  | invited env ws sock chatMsg h =>
      exact driven_two (.removeOldInvites env.time)
        (.addInvite env.time chatMsg.sender chatMsg.recipient) trivial trivial
  | pruned env => exact driven_one (.removeOldInvites env.time) trivial
  | alive env ws sock member => exact driven_one (.aliveMsg env.time member) trivial

/-- **The rule for invariants of the container**: what every served command keeps, every move
keeps. -/
theorem Move.container_invariant {I : GroupContainer → Prop} (hm : Move guard s s')
    (hexec : ∀ c cmd, Serves guard s c cmd → I c → I (c.exec cmd)) (h : I s.groupContainer) :
    I s'.groupContainer := by
  obtain ⟨cmds, hrun, hserves⟩ := hm.driven
  rw [hrun]
  clear hrun
  generalize s.groupContainer = c at h hserves
  induction cmds generalizing c with
  | nil => exact h
  | cons cmd cmds ih => exact ih _ (hexec c cmd hserves.1 h) hserves.2

end Moves

end Server

end DaraChat
