import MctierSignaling.Routing

/-!
# The work of a handler

A handler that got a frame, or whose socket ended, has a bounded amount of work before it is back at
its socket or gone: its checks, one critical section, and frames to the at most 64 members of a
lobby. `Task.work` bounds it, every step of the handler lowers it (`Exec.work`), and no step of
another handler touches it, so the bound holds whatever is interleaved (`handler_comes_back`).
-/

namespace MctierSignaling

/-! ## The bound -/

/-- The steps of a broadcast, and of the frames it asks for. -/
def BROADCAST_WORK : Nat := 2 * MAX_LOBBY_MEMBERS + 2

/-- The steps of a cleanup: its critical section, and four broadcasts. -/
def CLEANUP_WORK : Nat := 4 * BROADCAST_WORK + 2

/-- The steps that a handler takes for one frame, at most: the check of its session, a registration,
its notifications, and its cleanup. -/
def FRAME_WORK : Nat := CLEANUP_WORK + BROADCAST_WORK + 2

/-- The steps that an operation is still good for. -/
def Op.work : Op → Nat
  | .jobs js => (js.map Job.weight).sum + 1
  | .broadcast .. => BROADCAST_WORK
  | .rotation targets .. => 2 * targets.length + 2
  | .sendTo .. | .roster .. | .publicList | .communityList | .communitySubmit .. => 4

def Next.work : Next → Nat
  | .cleanup => CLEANUP_WORK
  | .idle | .returned => 0

section
variable {H : Crypto} {cfg : ServerConfig}

/-- The steps that a handler takes before it is back at its socket, or gone. -/
def Task.work : Task H cfg → Nat
  | .absent | .idle | .returned => 0
  | .cleanup => CLEANUP_WORK
  | .ops pending next => (pending.map Op.work).sum + 1 + next.work
  | .offerName .. => 6
  | .lookup .. => BROADCAST_WORK + 2
  | .hostAction _ => CLEANUP_WORK + 1
  | .mapped _ => CLEANUP_WORK + 2
  | .confirmed commit => CLEANUP_WORK + 2 * commit.rotationTargets.length + 1
  | .committed commit => CLEANUP_WORK + 2 * commit.rotationTargets.length + 2
  | .registration _ => CLEANUP_WORK + BROADCAST_WORK + 1
  | .current _ => FRAME_WORK

/-- The handler waits at its socket, or is gone. -/
theorem Task.work_eq_zero {task : Task H cfg} :
    task.work = 0 ↔ task = .absent ∨ task = .idle ∨ task = .returned := by
  cases task <;> simp [Task.work, CLEANUP_WORK, FRAME_WORK]

variable {s s' : Sys H cfg} {k : ConnId} {env : Env}

/-! ## What a frame leads to -/

theorem Op.Asks.work {op : Op} (h : op.Asks) : op.work = 4 := by
  cases op <;> first | rfl | exact h.elim

/-- Whatever the socket yields leads to bounded work. -/
theorem handleInbound_work {conn : Conn H cfg} {inbound : Inbound} :
    (handleInbound k conn inbound).work < FRAME_WORK := by
  have hcases : Handled k conn inbound (handleInbound k conn inbound) := handleInbound_cases
  generalize handleInbound k conn inbound = task at hcases ⊢
  have hnext : ∀ next : Next, next.work ≤ CLEANUP_WORK := by
    intro next
    cases next <;> simp [Next.work]
  cases hcases with
  | @answered _ message next =>
    have hle := hnext next
    simp only [Task.work, Op.reply, List.map_cons, List.map_nil, Op.work, Job.weight,
      List.sum_cons, List.sum_nil, FRAME_WORK, BROADCAST_WORK, MAX_LOBBY_MEMBERS]
    omega
  | asks hasks =>
    simp only [Task.work, List.map_cons, List.map_nil, hasks.work]
    decide
  | ignored | ended | registeredAlready | registers | moderates | forwards | reconnects =>
    simp [Task.work, Op.work, Next.work, FRAME_WORK, CLEANUP_WORK, BROADCAST_WORK,
      MAX_LOBBY_MEMBERS]

/-! ## The frames of a snapshot -/

/-- A snapshot asks for fewer steps than it was good for. -/
theorem Op.start_work {sh : Shared} (hinv : LobbyInv sh) {op : Op} (hsnap : op.Snapshot) :
    (Op.jobs (op.start sh k env)).work < op.work := by
  have hsends : ∀ ds : List Delivery, ((ds.map Job.send).map Job.weight).sum = 2 * ds.length := by
    intro ds
    induction ds with
    | nil => rfl
    | cons d ds ih =>
      simp only [List.map_cons, List.sum_cons, ih, List.length_cons, Job.weight]
      omega
  cases op with
  | jobs => exact hsnap.elim
  | sendTo lobbyId clientId message =>
    have hone : (sendToLobbyClient sh.lobbies lobbyId clientId message).length ≤ 1 := by
      unfold sendToLobbyClient
      split
      · exact Nat.zero_le 1
      split <;> simp
    simp only [Op.start, Op.work, hsends]
    omega
  | broadcast lobbyId excludeId message =>
    have hall : (broadcastToLobby sh.lobbies lobbyId excludeId message).length ≤
        MAX_LOBBY_MEMBERS := by
      unfold broadcastToLobby
      split
      · exact Nat.zero_le _
      next lobby hl =>
      have hbounded := (hinv.lobby _ _ hl).members.bounded
      rw [AList.keys, List.keys, List.length_map] at hbounded
      rw [List.length_map]
      exact Nat.le_trans (List.length_filter_le _ _) hbounded
    simp only [Op.start, Op.work, hsends, BROADCAST_WORK]
    omega
  | rotation targets lobbyId chatToken chatTokenEpoch =>
    have hall : (sendChatTokenRotation sh.lobbies targets lobbyId chatToken
        chatTokenEpoch).length ≤ targets.length := by
      unfold sendChatTokenRotation
      split
      · exact Nat.zero_le _
      split
      · exact Nat.zero_le _
      · exact List.length_filterMap_le _ _
    simp only [Op.start, Op.work, hsends]
    omega
  | roster | publicList | communityList | communitySubmit =>
    simp [Op.start, Op.work, Job.weight]

/-- A rotation notifies the members of one lobby. -/
theorem rotationTargets_length {lobby : LobbyInfo} (h : MembersOk lobby.clients) :
    2 * (rotationTargets lobby).length + 2 ≤ BROADCAST_WORK := by
  have hbounded := h.bounded
  rw [AList.keys, List.keys, List.length_map] at hbounded
  rw [rotationTargets, List.length_map, BROADCAST_WORK]
  omega

/-! ## Steps -/

/-- A read comes closer to the end. -/
theorem Read.work {task task' : Task H cfg} (h : Read s k env task task')
    (hinv : LobbyInv s.shared) : task'.work < task.work := by
  cases h with
  | current => exact handleInbound_work
  | @found from_ lobbyId forward =>
    cases forward <;>
      simp [Forward.task, Task.work, Op.work, Next.work, BROADCAST_WORK, MAX_LOBBY_MEMBERS]
  | elsewhere _ htask =>
    rcases htask with rfl | rfl <;> simp [Task.work, CLEANUP_WORK]
  | @confirmed commit =>
    have hrotation : ((if commit.rotationTargets.isEmpty then []
        else [.rotation commit.rotationTargets commit.session.lobbyId commit.chatToken
          commit.chatTokenEpoch]).map Op.work).sum ≤ 2 * commit.rotationTargets.length + 2 := by
      split <;> simp [Op.work]
    simp only [Task.work, Commit.notifications, List.map_append, List.sum_append]
    simp only [Op.reply, List.map_cons, List.map_nil, Op.work, Job.weight, List.sum_cons,
      List.sum_nil, Next.work, CLEANUP_WORK, BROADCAST_WORK, MAX_LOBBY_MEMBERS]
    omega
  | @finished next => cases next <;> simp [Task.work, Next.task, Next.work]
  | ran =>
    simp only [Task.work, List.map_cons, List.sum_cons, Op.work, List.map_nil, List.sum_nil]
    omega
  | @started op _ _ hsnap =>
    have hless : (Op.jobs (op.start s.shared k env)).work < op.work := Op.start_work hinv hsnap
    simp only [Task.work, List.map_cons, List.sum_cons]
    omega
  | flagged | unflagged | superseded =>
    simp only [Task.work]
    omega
  | stale | unmapped | named | mapped =>
    simp [Task.work, refused, Op.work, Job.weight, Next.work, FRAME_WORK, CLEANUP_WORK,
      BROADCAST_WORK, MAX_LOBBY_MEMBERS]

/-- The news of a departure is no more than a cleanup is good for. -/
theorem Departs.work {sh sh' : Shared} {session : RegisteredSession} {token : String}
    {lobby : LobbyInfo} {departure : Departure} (h : Departs sh session token lobby sh' departure)
    (hinv : LobbyInv sh') :
    (Task.ops departure.notifications .returned : Task H cfg).work < CLEANUP_WORK := by
  cases h with
  | last =>
    simp [Departure.notifications, Task.work, Op.work, Next.work, CLEANUP_WORK, BROADCAST_WORK,
      MAX_LOBBY_MEMBERS]
  | @leaves lobby' newHost =>
    have hok := hinv.lobby session.lobbyId (rotateChatToken lobby' token) (by simp)
    have htargets := rotationTargets_length hok.members
    cases newHost <;>
      simp only [Departure.notifications, Task.work, Op.work, Next.work, CLEANUP_WORK,
        List.map_append, List.sum_append, List.map_cons, List.map_nil, List.sum_cons,
        List.sum_nil] <;>
      omega

/-- The news of a host action is no more than a cleanup is good for. -/
theorem HostEffect.work {token lobbyId : String} {lobby lobby' : LobbyInfo} {action : HostAction}
    {notice : HostNotice} (h : HostEffect token lobby action lobby' notice)
    (hok : MembersOk lobby'.clients) :
    (Task.ops (notice.notifications lobbyId) .idle : Task H cfg).work < CLEANUP_WORK := by
  cases h with
  | kicked =>
    have htargets := rotationTargets_length hok
    simp only [HostNotice.notifications, Task.work, Op.reply, List.map_cons, List.map_nil, Op.work,
      Job.weight, List.sum_cons, List.sum_nil, Next.work, CLEANUP_WORK]
    rw [BROADCAST_WORK, MAX_LOBBY_MEMBERS] at htargets ⊢
    omega
  | muted | unmuted | transferred | options =>
    simp [HostNotice.notifications, Task.work, Op.work, Next.work, CLEANUP_WORK, BROADCAST_WORK,
      MAX_LOBBY_MEMBERS]

/-- A commit notifies the other members of its lobby. -/
theorem Registers.work {sh sh' : Shared} {a : Admission H cfg} {now : Nat} {d : Draws}
    {commit : Commit H cfg} (h : Registers sh a now d sh' commit) (hinv : LobbyInv sh') :
    2 * commit.rotationTargets.length + 2 ≤ BROADCAST_WORK := by
  have hok := hinv.lobby a.lobbyId _ (by rw [h.lookup, if_pos rfl])
  refine Nat.le_trans ?_ (rotationTargets_length hok.members)
  rw [h.commit_eq]
  unfold Admission.commitOf
  dsimp only
  split
  · simp
  · have := List.length_filter_le (fun t : String × ConnId => t.1 != a.cid)
      (rotationTargets (a.enter (a.entered sh d) d))
    omega

/-- **Every step of a handler is one less.** -/
theorem Exec.work (h : Exec s k env s') (hinv : LobbyInv s.shared) (hinv' : LobbyInv s'.shared) :
    (s'.conns k).task.work < (s.conns k).task.work := by
  cases h with
  | read hread =>
    rw [Sys.setTask_self]
    exact hread.work hinv
  | @rejected _ _ refusal _ ht =>
    rw [Sys.setTask_self, ht]
    cases refusal <;>
      simp [Task.work, Op.reply, Op.work, Job.weight, Refusal.next, Next.work, CLEANUP_WORK,
        BROADCAST_WORK, MAX_LOBBY_MEMBERS]
  | committed ht hreg =>
    have hwork := hreg.work hinv'
    dsimp only
    rw [Sys.setConn_self, ht]
    simp only [Task.work]
    omega
  | hostRefused ht htask =>
    rw [Sys.setTask_self, ht]
    rcases htask with rfl | rfl <;> simp [Task.work]
  | @hostActed action session lobby lobby' notice ht _ _ heffect =>
    have hok := hinv'.lobby session.lobbyId lobby'
      (by simp [Sys.setTask, Sys.setConn, Sys.setShared])
    have hwork : (Task.ops (notice.notifications session.lobbyId) .idle : Task H cfg).work <
        CLEANUP_WORK := heffect.work hok.members
    dsimp only
    rw [Sys.setTask_self, ht]
    exact Nat.lt_succ_of_lt hwork
  | stayed ht =>
    rw [Sys.setTask_self, ht]
    exact Nat.succ_pos _
  | left ht _ _ _ _ hdep =>
    dsimp only
    rw [Sys.setTask_self, ht]
    exact hdep.work hinv'
  | @sent js pending next d rest ht hperm =>
    rw [Sys.setTask_self, ht]
    have hsignals : ((d.flag.toList.map Job.signal).map Job.weight).sum ≤ 1 := by
      cases d.flag <;> simp [Job.weight]
    have hweights := (hperm.map Job.weight).sum_nat
    have hweight : (Job.send d).weight = 2 := rfl
    simp only [Task.work, List.map_cons, List.sum_cons, Op.work, hweight] at hweights ⊢
    rw [hweights]
    split <;> simp only [List.append_nil, List.map_append, List.sum_append] <;> omega
  | @signalled js pending next k' rest ht hperm =>
    rw [Sys.setTask_self, ht]
    have hweights := (hperm.map Job.weight).sum_nat
    have hweight : (Job.signal k').weight = 1 := rfl
    simp only [Task.work, List.map_cons, List.sum_cons, Op.work, hweight] at hweights ⊢
    rw [hweights]
    omega

/-- A handler that is not at its socket has a next step. -/
theorem exec_enabled (env : Env) (hwork : (s.conns k).task.work ≠ 0) :
    ∃ s', SysStep s (.exec k env) s' := by
  by_cases hstage : 0 < (s.conns k).task.stage
  · exact exec_progress env hstage
  simp only [SysStep, Sys.step, Sys.exec]
  generalize (s.conns k).task = task at hwork hstage ⊢
  cases task with
  | cleanup => exact ⟨_, rfl⟩
  | absent | idle | returned => exact absurd rfl hwork
  | _ => exact absurd (Nat.succ_pos _) hstage

/-! ## Runs -/

/-- The action gives a handler something to do: a frame, or the end of its socket. -/
def Action.wakes (k : ConnId) : Action → Bool
  | .receive k' _ | .hangup k' => k' == k
  | _ => false

/-- The action is a step of this handler. -/
def Action.runs (k : ConnId) : Action → Bool
  | .exec k' _ => k' == k
  | _ => false

/-- A step lowers the work of its own handler, and no step but a frame or the end of a socket
raises it. -/
theorem work_step {act : Action} (hr : ReachableSys s) (hs : SysStep s act s')
    (hwakes : act.wakes k = false) :
    (s'.conns k).task.work ≤ (s.conns k).task.work ∧
      (act.runs k = true → (s'.conns k).task.work < (s.conns k).task.work) := by
  have hmove := step_cases hs
  by_cases hactor : act.actor = some k
  · cases hmove with
    | connected ht =>
      cases hactor
      obtain ⟨-, hidle | hreturned⟩ := Sys.connect_conn (s := s)
      · rw [hidle]
        exact ⟨Nat.zero_le _, nofun⟩
      · rw [hreturned]
        exact ⟨Nat.zero_le _, nofun⟩
    | ticked => cases hactor
    | refused | received | handled | hungUp =>
      cases hactor
      simp [Action.wakes] at hwakes
    | moved hexec =>
      cases hactor
      have hlt := hexec.work hr.lobbyInv (ReachableSys.lobbyInv (hr.snoc hs))
      exact ⟨Nat.le_of_lt hlt, fun _ => hlt⟩
  · rw [(hmove.untouched hactor).task]
    refine ⟨le_rfl, fun hruns => ?_⟩
    cases act with
    | exec k' env =>
      simp only [Action.runs, beq_iff_eq] at hruns
      exact absurd (congrArg some hruns) hactor
    | _ => cases hruns

/-- What wakes a handler leaves it with bounded work. -/
theorem work_wake {act : Action} (hs : SysStep s act s') (hwakes : act.wakes k = true) :
    (s'.conns k).task.work ≤ FRAME_WORK := by
  cases step_cases hs with
  | connected | ticked | moved => cases hwakes
  | refused =>
    obtain rfl := beq_iff_eq.1 hwakes
    rw [Sys.setConn_self]
    simp [Task.work, MctierSignaling.refused, Op.work, Job.weight, Next.work, FRAME_WORK,
      CLEANUP_WORK, BROADCAST_WORK, MAX_LOBBY_MEMBERS]
  | received =>
    obtain rfl := beq_iff_eq.1 hwakes
    rw [Sys.setConn_self]
    exact le_rfl
  | handled =>
    obtain rfl := beq_iff_eq.1 hwakes
    rw [Sys.setConn_self]
    exact Nat.le_of_lt handleInbound_work
  | hungUp =>
    obtain rfl := beq_iff_eq.1 hwakes
    rw [Sys.setTask_self]
    simp [Task.work, FRAME_WORK, Nat.add_assoc]

/-- What wakes a connection acts on it. -/
theorem Action.actor_of_wakes {act : Action} (h : act.wakes k = true) : act.actor = some k := by
  cases act with
  | receive | hangup => exact congrArg some (beq_iff_eq.1 h)
  | _ => cases h

/-- **A handler comes back to its socket.** In every run, a handler takes at most 654 steps between
a frame, or the end of its socket, and the next time that it waits or is gone, however its steps are
interleaved with those of others. -/
theorem handler_comes_back {mid earlier : List (Transition (Sys H cfg) Action)}
    {t : Transition (Sys H cfg) Action} (h : SysRun (mid ++ t :: earlier) s)
    (hwakes : t.act.wakes k = true) (hmid : ∀ u ∈ mid, u.act.wakes k = false) :
    mid.countP (·.act.runs k) ≤ 654 ∧
      (mid.countP (·.act.runs k) = 654 →
        (s.conns k).task = .idle ∨ (s.conns k).task = .returned) := by
  obtain ⟨hr, hstep⟩ := h.mem (List.mem_append_right mid List.mem_cons_self)
  have hwork : mid.countP (·.act.runs k) + (s.conns k).task.work ≤ (t.post.conns k).task.work :=
    Run.countP_add_le (m := fun s => (s.conns k).task.work) (p := fun u => u.act.runs k) h
      fun u hu hreach hst => work_step hreach hst (hmid u hu)
  have hbound : (t.post.conns k).task.work ≤ 654 := work_wake hstep hwakes
  have hopen : (s.conns k).task ≠ .absent := by
    intro habsent
    obtain ⟨u, hu, hpre, hpost⟩ := h.lost (P := fun s => (s.conns k).task ≠ .absent)
      ((step_cases hstep).ne_absent (Action.actor_of_wakes hwakes)) (not_not_intro habsent)
    exact hpost (open_step (h.mem (List.mem_append_left _ hu)).2 hpre)
  refine ⟨by omega, fun hall => ?_⟩
  obtain ht | ht | ht := Task.work_eq_zero.1 (by omega : (s.conns k).task.work = 0)
  · exact absurd ht hopen
  · exact .inl ht
  · exact .inr ht

end

/-- A connection that hangs up before it registers: its handler has one step to do. -/
theorem handler_comes_back_hangup : ∃ (s : Sys recordedCrypto .default)
    (mid earlier : List (Transition (Sys recordedCrypto .default) Action))
    (t : Transition (Sys recordedCrypto .default) Action),
    SysRun (mid ++ t :: earlier) s ∧ t.act.wakes 1 = true ∧
      mid.countP (·.act.runs 1) = 1 ∧ mid.countP (·.act.runs 1) ≤ 654 ∧
      (s.conns 1).task = .returned := by
  obtain ⟨ts, hts, -⟩ := greeted_outside
  let left := greeted.setTask 1 .cleanup
  let env := recordedEnv "" 0 true
  have hhangup : SysStep greeted (.hangup 1) left := rfl
  have hcleanup : SysStep left (.exec 1 env) (left.setTask 1 .returned) := rfl
  have hrun : SysRun ([⟨left, .exec 1 env, left.setTask 1 .returned⟩] ++
      ⟨greeted, .hangup 1, left⟩ :: ts) (left.setTask 1 .returned) :=
    (hts.snoc hhangup).snoc hcleanup
  obtain ⟨hbound, -⟩ := handler_comes_back (k := 1) hrun rfl
    (fun u hu => by rw [List.mem_singleton.1 hu]; rfl)
  exact ⟨_, _, _, _, hrun, rfl, rfl, hbound, rfl⟩

end MctierSignaling
