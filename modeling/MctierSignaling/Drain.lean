import MctierSignaling.Progress
import MctierSignaling.Footprint
import Mathlib.Algebra.Order.BigOperators.Group.Finset

/-!
# The server drains

Once no connection comes in any more, and no frame either, all that is left to happen are the steps
of handlers and the ends of their sockets. `Task.drain` bounds what is left of each handler: its
work, and the cleanup that follows the end of its socket. Every step lowers it for its own handler
and leaves those of the others (`drain_step`), so the server comes to rest, in any order; and at
rest all handlers are gone and the lobby state is empty, whatever happened before (`server_drains`).
Here a handler with work left can always step, for a step stands for the wait before it too: how
long a handler waits for a lock or for a slow socket is not modelled.
-/

namespace MctierSignaling

/-- The most steps that are left of a handler: those of a frame, the end of its socket, and its
cleanup. -/
def HANDLER_WORK : Nat := FRAME_WORK + CLEANUP_WORK + 1

/-- The action is neither a new connection nor a frame. -/
def Action.closes : Action → Bool
  | .connect .. | .receive .. => false
  | .tick _ | .hangup _ | .exec .. => true

/-- The action is a step of a handler, or the end of its socket. -/
def Action.settles : Action → Bool
  | .hangup _ | .exec .. => true
  | .connect .. | .tick _ | .receive .. => false

/-- The handler does not go back to its socket. -/
def Next.ended : Next → Bool
  | .idle => false
  | .cleanup | .returned => true

section
variable {H : Crypto} {cfg : ServerConfig}

/-- The handler is done with its socket. -/
def Task.ended : Task H cfg → Bool
  | .absent | .cleanup | .returned => true
  | .ops _ next => next.ended
  | _ => false

/-- The steps that a handler has left when nothing more comes in: its work and, if it goes back to
its socket, the end of that and its cleanup. -/
def Task.drain (task : Task H cfg) : Nat :=
  task.work + if task.ended then 0 else CLEANUP_WORK + 1

/-- Nothing is left of a handler exactly if it is gone. -/
theorem Task.drain_eq_zero {task : Task H cfg} :
    task.drain = 0 ↔ task = .absent ∨ task = .returned := by
  rw [Task.drain, Nat.add_eq_zero_iff, Task.work_eq_zero]
  constructor
  · rintro ⟨rfl | rfl | rfl, hended⟩
    · exact .inl rfl
    · cases hended
    · exact .inr rfl
  · rintro (rfl | rfl) <;> exact ⟨by simp, rfl⟩

variable {s s' s₀ : Sys H cfg} {k : ConnId} {env : Env} {act : Action}

/-! ## Steps -/

theorem Read.ended {task task' : Task H cfg} (h : Read s k env task task')
    (hended : task.ended = true) : task'.ended = true := by
  cases h with
  | @finished next => cases next <;> first | rfl | cases hended
  | ran | started => exact hended
  | _ => cases hended

/-- A handler that is done with its socket does not go back to it. -/
theorem Exec.ended (h : Exec s k env s') (hended : (s.conns k).task.ended = true) :
    (s'.conns k).task.ended = true := by
  cases h with
  | read hread =>
    rw [Sys.setTask_self]
    exact hread.ended hended
  | rejected ht | committed ht | hostRefused ht | hostActed ht =>
    rw [ht] at hended
    cases hended
  | stayed =>
    rw [Sys.setTask_self]
    rfl
  | left =>
    dsimp only
    rw [Sys.setTask_self]
    rfl
  | sent ht | signalled ht =>
    rw [ht] at hended
    rw [Sys.setTask_self]
    exact hended

/-- **Every step leaves less to do.** A step of a handler, or the end of its socket, leaves less of
this handler and nothing more of the others. -/
theorem drain_step (hr : ReachableSys s) (hs : SysStep s act s') (hcloses : act.closes = true) :
    (s'.conns k).task.drain ≤ (s.conns k).task.drain ∧
      (act.settles = true → act.actor = some k →
        (s'.conns k).task.drain < (s.conns k).task.drain) := by
  have hmove := step_cases hs
  by_cases hactor : act.actor = some k
  · suffices hlt : (s'.conns k).task.drain < (s.conns k).task.drain from
      ⟨Nat.le_of_lt hlt, fun _ _ => hlt⟩
    cases hmove with
    | connected | refused | received | handled => cases hcloses
    | ticked => cases hactor
    | hungUp ht =>
      cases hactor
      rw [Sys.setTask_self, ht]
      exact Nat.lt_succ_self CLEANUP_WORK
    | moved hexec =>
      cases hactor
      have hwork := hexec.work hr.lobbyInv (ReachableSys.lobbyInv (hr.snoc hs))
      have hended := hexec.ended
      unfold Task.drain
      cases h : (s.conns k).task.ended with
      | true =>
        rw [hended h]
        exact hwork
      | false =>
        rw [if_neg Bool.false_ne_true]
        split <;> omega
  · rw [(hmove.untouched hactor).task]
    exact ⟨le_rfl, fun _ h => absurd h hactor⟩

/-! ## Runs -/

/-- The work of a handler is never more than that of a frame. -/
theorem ReachableSys.work_le (h : ReachableSys s) (k : ConnId) :
    (s.conns k).task.work ≤ FRAME_WORK := by
  refine h.invariant (I := fun s => (s.conns k).task.work ≤ FRAME_WORK) ?_ ?_
  · rintro _ rfl
    exact Nat.zero_le _
  · intro s act s' hr hle hs
    cases hwakes : act.wakes k with
    | true => exact work_wake hs hwakes
    | false => exact Nat.le_trans (work_step hr hs hwakes).1 hle

theorem ReachableSys.drain_le (h : ReachableSys s) (k : ConnId) :
    (s.conns k).task.drain ≤ HANDLER_WORK := by
  have hwork := h.work_le k
  unfold Task.drain HANDLER_WORK
  split <;> omega

/-- A handler that acts while nothing comes in was there at first. -/
theorem closing_actor {ts : List (Transition (Sys H cfg) Action)} (h₀ : ReachableSys s₀)
    (h : Run (· = s₀) SysStep ts s) (hts : ∀ u ∈ ts, u.act.closes = true)
    {u : Transition (Sys H cfg) Action} (hu : u ∈ ts) (hsettles : u.act.settles = true)
    (hactor : u.act.actor = some k) : (s₀.conns k).task.drain ≠ 0 := by
  obtain ⟨later, earlier, rfl⟩ := List.append_of_mem hu
  obtain ⟨hr, hstep⟩ := h.mem hu
  have hle : earlier.countP (fun _ => false) + (u.pre.conns k).task.drain ≤
      (s₀.conns k).task.drain :=
    Run.countP_add_le_start (m := fun s => (s.conns k).task.drain) (p := fun _ => false) h.before
      fun v hv hreach hst => ⟨(drain_step (h₀.trans hreach) hst
        (hts v (List.mem_append_right _ (List.mem_cons_of_mem _ hv)))).1, nofun⟩
  have hlt := (drain_step (h₀.trans hr) hstep (hts u hu)).2 hsettles hactor
  omega

/-- At rest, no handler has a step left, and no socket is open that could end. -/
def Sys.AtRest (s : Sys H cfg) : Prop :=
  ∀ act s', act.settles = true → ¬ SysStep s act s'

/-- At rest every handler is gone. -/
theorem Sys.AtRest.gone (h : s.AtRest) (k : ConnId) :
    (s.conns k).task = .absent ∨ (s.conns k).task = .returned := by
  by_cases hwork : (s.conns k).task.work = 0
  · obtain habsent | hidle | hreturned := Task.work_eq_zero.1 hwork
    · exact .inl habsent
    · refine absurd ?_ (h (.hangup k) (s.setTask k .cleanup) rfl)
      rw [SysStep, Sys.step, hidle]
    · exact .inr hreturned
  · obtain ⟨s', hstep⟩ := exec_enabled (recordedEnv "" 0 true) hwork
    exact absurd hstep (h _ s' rfl)

/-- When every handler is gone, the server is at rest. -/
theorem Sys.AtRest.of_gone (h : ∀ k, (s.conns k).task = .absent ∨ (s.conns k).task = .returned) :
    s.AtRest := by
  intro act s' hsettles hstep
  cases act with
  | hangup k | exec k =>
    rcases h k with ht | ht <;> simp [SysStep, Sys.step, Sys.exec, Sys.read, ht] at hstep
  | _ => cases hsettles

/-- **The server drains.** From any reachable state, as long as no connection and no frame comes in,
handlers take at most 1177 steps for each one that is there, in whatever order they take them and
whatever they find; and when none has a step left, all of them are gone, and no lobby and no entry
of the reverse map is left. -/
theorem server_drains {ts : List (Transition (Sys H cfg) Action)} (h₀ : ReachableSys s₀)
    (live : Finset ConnId) (hlive : ∀ k, (s₀.conns k).task ≠ .absent →
      (s₀.conns k).task ≠ .returned → k ∈ live)
    (h : Run (· = s₀) SysStep ts s) (hts : ∀ u ∈ ts, u.act.closes = true) :
    ts.countP (·.act.settles) ≤ 1177 * live.card ∧
      (s.AtRest → (∀ k, (s.conns k).task = .absent ∨ (s.conns k).task = .returned) ∧
        s.shared.lobbies = ∅ ∧ s.shared.clientLobbyMap = ∅) := by
  refine ⟨?_, fun hrest => ⟨hrest.gone, ?_⟩⟩
  · have hcount : ts.countP (·.act.settles) + ∑ k ∈ live, (s.conns k).task.drain ≤
        ∑ k ∈ live, (s₀.conns k).task.drain := by
      refine Run.countP_add_le_start (m := fun s => ∑ k ∈ live, (s.conns k).task.drain)
        (p := fun u => u.act.settles) h fun u hu hreach hst => ?_
      have hstep : ∀ k, _ := fun k => drain_step (k := k) (h₀.trans hreach) hst (hts u hu)
      refine ⟨Finset.sum_le_sum fun k _ => (hstep k).1, fun hsettles => ?_⟩
      obtain ⟨k, hactor⟩ : ∃ k, u.act.actor = some k := by
        cases hact : u.act with
        | hangup k => exact ⟨k, rfl⟩
        | exec k env => exact ⟨k, rfl⟩
        | _ => rw [hact] at hsettles; cases hsettles
      have hk : k ∈ live := by
        by_contra hk
        refine closing_actor h₀ h hts hu hsettles hactor (Task.drain_eq_zero.2 ?_)
        by_contra hgone
        exact hk (hlive k (fun ht => hgone (.inl ht)) fun ht => hgone (.inr ht))
      exact Finset.sum_lt_sum (fun k _ => (hstep k).1) ⟨k, hk, (hstep k).2 hsettles hactor⟩
    have hbound : ∑ k ∈ live, (s₀.conns k).task.drain ≤ 1177 * live.card :=
      calc ∑ k ∈ live, (s₀.conns k).task.drain
        _ ≤ ∑ _k ∈ live, 1177 := Finset.sum_le_sum fun k _ => h₀.drain_le k
        _ = live.card * 1177 := Finset.sum_const_nat fun _ _ => rfl
        _ = 1177 * live.card := Nat.mul_comm _ _
    omega
  · obtain ⟨-, hlobbies, hmap⟩ := footprint_bounded (h₀.trans h.reachable) ∅ fun k hopen hbusy => by
      rcases hrest.gone k with ht | ht
      · exact absurd ht hopen
      · rw [ht] at hbusy
        exact absurd trivial hbusy
    have hempty := Nat.eq_zero_of_le_zero hmap
    exact ⟨HashMap.eq_empty_of_length (Nat.eq_zero_of_le_zero (hempty ▸ hlobbies)),
      HashMap.eq_empty_of_length hempty⟩

end

/-- Alice's handler does its work, her socket ends, and it cleans up; then bob's does. -/
def closing : List Action :=
  List.replicate 11 (Action.exec 1 (recordedEnv "d4" 0 true)) ++ [Action.hangup 1] ++
    List.replicate 14 (Action.exec 1 (recordedEnv "d5" 0 true)) ++
    List.replicate 12 (Action.exec 3 (recordedEnv "d6" 0 true)) ++ [Action.hangup 3] ++
    List.replicate 4 (Action.exec 3 (recordedEnv "d7" 0 true))

/-- What is left of the room then. -/
def emptied (full : Sys recordedCrypto .default) : Option (Sys recordedCrypto .default) :=
  closing.foldlM (fun s act => if act.closes then s.step act else none) full

/-- After the replacement two connections are there. They take no more than 2354 steps, and leave
nothing. -/
theorem server_drains_replacement : ∃ full empty ts, replacement = some full ∧
    full.shared.clientLobbyMap.keys.length = 2 ∧ Run (· = full) SysStep ts empty ∧
    ts.countP (·.act.settles) ≤ 1177 * 2 ∧ empty.shared.lobbies = ∅ := by
  have hrun : (replacement.bind fun full => (emptied full).map fun empty =>
      (full.shared.clientLobbyMap.keys.length, (empty.conns 1).task.isReturned,
        (empty.conns 3).task.isReturned)) = some (2, true, true) := by decide +kernel
  obtain ⟨full, hfull, hrun⟩ := Option.bind_eq_some_iff.1 hrun
  obtain ⟨empty, hempty, hrun⟩ := Option.map_eq_some_iff.1 hrun
  simp only [Prod.mk.injEq, Task.isReturned_iff] at hrun
  obtain ⟨hsize, hreturned1, hreturned3⟩ := hrun
  have hstart : Run (· = full) SysStep [] full := .start rfl
  obtain ⟨ts, hts, hcloses⟩ := Run.foldlM (f := Sys.step) (p := fun _ act => act.closes) hstart
    (fun _ ht => absurd ht List.not_mem_nil) hempty
  have hrest : empty.AtRest := by
    refine Sys.AtRest.of_gone fun k => ?_
    by_cases hk : k ∈ ({1, 3} : Finset ConnId)
    · have hk : k = 1 ∨ k = 3 := by simpa using hk
      rcases hk with rfl | rfl
      · exact .inr hreturned1
      · exact .inr hreturned3
    · have huntouched : Untouched (full.conns k) (empty.conns k) := by
        refine Untouched.foldlM (fun s act s' hstep => ?_) (fun act hact hactor => hk ?_) hempty
        · exact (Option.ite_none_right_eq_some.1 hstep).2
        · simp only [closing, List.mem_append, List.mem_replicate, List.mem_singleton] at hact
          rcases hact with ((((⟨-, rfl⟩ | rfl) | ⟨-, rfl⟩) | ⟨-, rfl⟩) | rfl) | ⟨-, rfl⟩ <;>
            cases hactor <;> simp
      rw [huntouched.task]
      exact replacement_gone hfull hk
  obtain ⟨hcount, hgone⟩ := server_drains (handshake_reachable.foldlM hfull) {1, 3}
    (fun k hopen hbusy => by
      by_contra hk
      exact (replacement_gone hfull hk).elim hopen hbusy) hts hcloses
  exact ⟨full, empty, ts, hfull, hsize, hts, hcount, (hgone hrest).2.1⟩

end MctierSignaling
