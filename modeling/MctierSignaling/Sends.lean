import MctierSignaling.Sessions

/-!
# Where frames come from

Every frame that a handler tries to send is ready before: it is one of the jobs of its pending work
(`Task.Ready`). A frame becomes ready in one of three ways (`Origin`): a snapshot of a lobby
produced it, it is the reply to the handler's own registration, or it is plain, made by the handler
itself, with no stamp and no chat token. `ready_step` and `log_step` say so for every step of the
server; the results about who is sent what are derived from them.
-/

namespace MctierSignaling

section
variable {H : Crypto} {cfg : ServerConfig}

/-- The stamp of a frame. -/
def Frame.stamp : Frame → Option (String × Nat)
  | .text _ stamp => stamp
  | .close => none

/-- A frame that no snapshot produced, with no stamp and no chat token. -/
structure Delivery.Plain (d : Delivery) : Prop where
  via : d.via = none
  stamp : d.frame.stamp = none
  chatToken : d.frame.chatToken = none

/-- The frame is one of the jobs of the operation. -/
def Op.Ready (d : Delivery) : Op → Prop
  | .jobs js => Job.send d ∈ js
  | _ => False

/-- The frame is one of the jobs of the handler's pending work. -/
def Task.Ready (d : Delivery) : Task H cfg → Prop
  | .ops pending _ => ∃ op ∈ pending, op.Ready d
  | _ => False

/-- How a step of a handler makes a frame ready. -/
inductive Origin (s : Sys H cfg) (k : ConnId) (env : Env) (d : Delivery) : Prop
  | snapshot {op : Op} {pending : List Op} {next : Next} :
      (s.conns k).task = .ops (op :: pending) next → op.Snapshot →
      Job.send d ∈ op.start s.shared k env → Origin s k env d
  | success {commit : Commit H cfg} : (s.conns k).task = .confirmed commit →
      isCurrentSession s.shared.lobbies commit.session.lobbyId commit.session.clientId
        commit.session.generation k = true →
      d = reply k commit.success → Origin s k env d
  | plain : d.Plain → Origin s k env d

/-! ## What a handler makes ready by itself -/

variable {s s' : Sys H cfg} {k : ConnId} {d : Delivery} {env : Env} {conn : Conn H cfg}

theorem reply_plain {message : SignalingMessage} (hm : message.chatToken = none) :
    (reply k message).Plain :=
  ⟨rfl, rfl, hm⟩

theorem closeFrame_plain : (closeFrame k).Plain := ⟨rfl, rfl, rfl⟩

theorem Op.reply_ready {message : SignalingMessage} (h : (Op.reply k message).Ready d) :
    d = MctierSignaling.reply k message :=
  Job.send.inj (List.mem_singleton.1 h)

/-- A single reply without a token is plain. -/
theorem Task.reply_ready {message : SignalingMessage} {next : Next}
    (hm : message.chatToken = none)
    (h : (Task.ops [.reply k message] next : Task H cfg).Ready d) : d.Plain := by
  obtain ⟨op, hop, hready⟩ := h
  cases List.mem_singleton.1 hop
  rw [Op.reply_ready hready]
  exact reply_plain hm

theorem refused_ready (h : (refused k : Task H cfg).Ready d) : d.Plain := by
  obtain ⟨op, hop, hready⟩ := h
  cases List.mem_singleton.1 hop
  cases List.mem_singleton.1 hready
  exact closeFrame_plain

/-- A snapshot that was not taken yet has no frames. -/
theorem Op.Snapshot.ready {op : Op} (h : op.Snapshot) : ¬ op.Ready d := by
  cases op <;> first | exact h.elim | exact id

/-- A message makes only plain frames ready. -/
theorem handleInbound_ready {inbound : Inbound} (h : (handleInbound k conn inbound).Ready d) :
    d.Plain := by
  have hcases : Handled k conn inbound (handleInbound k conn inbound) := handleInbound_cases
  generalize handleInbound k conn inbound = task at hcases h
  cases hcases with
  | ignored | ended | registers | moderates | forwards => exact h.elim
  | answered hm => exact Task.reply_ready hm h
  | registeredAlready =>
    obtain ⟨op, hop, -⟩ := h
    cases hop
  | reconnects =>
    obtain ⟨op, hop, hready⟩ := h
    cases List.mem_singleton.1 hop
    exact hready.elim
  | asks hasks =>
    obtain ⟨op, hop, hready⟩ := h
    cases List.mem_singleton.1 hop
    exact absurd hready hasks.snapshot.ready

/-- Only the reply to a registration is ready after it. -/
theorem Commit.notifications_ready {commit : Commit H cfg} {op : Op}
    (hop : op ∈ commit.notifications k) (h : op.Ready d) : d = reply k commit.success := by
  unfold Commit.notifications at hop
  simp only [List.mem_append, List.mem_cons, List.not_mem_nil, or_false] at hop
  rcases hop with ((rfl | rfl) | hop) | rfl
  · exact Op.reply_ready h
  · exact h.elim
  · split at hop
    · cases hop
    · cases List.mem_singleton.1 hop
      exact h.elim
  · exact h.elim

/-- Only plain frames are ready after a host action. -/
theorem HostNotice.notifications_ready {notice : HostNotice} {lobbyId : String} {op : Op}
    (hop : op ∈ notice.notifications lobbyId) (h : op.Ready d) : d.Plain := by
  cases notice with
  | kicked removed target targets token epoch =>
    simp only [HostNotice.notifications, List.mem_cons, List.not_mem_nil, or_false] at hop
    rcases hop with rfl | rfl | rfl | rfl | rfl
    · cases List.mem_singleton.1 h
    · rw [Op.reply_ready h]
      exact reply_plain rfl
    · cases List.mem_singleton.1 h
      exact closeFrame_plain
    · exact h.elim
    · exact h.elim
  | muteChanged target muted =>
    cases List.mem_singleton.1 hop
    exact h.elim
  | hostChanged target =>
    simp only [HostNotice.notifications, List.mem_cons, List.not_mem_nil, or_false] at hop
    rcases hop with rfl | rfl <;> exact h.elim
  | optionsChanged maxPlayers isPublic =>
    cases List.mem_singleton.1 hop
    exact h.elim

/-- No frame is ready after a cleanup. -/
theorem Departure.notifications_ready {departure : Departure} {op : Op}
    (hop : op ∈ departure.notifications) : ¬ op.Ready d := by
  simp only [Departure.notifications, List.mem_append, List.mem_singleton] at hop
  rcases hop with (rfl | hop) | hop
  · exact id
  · split at hop
    · cases List.mem_singleton.1 hop
      exact id
    · cases hop
  · split at hop
    · simp only [List.mem_cons, List.not_mem_nil, or_false] at hop
      rcases hop with rfl | rfl <;> exact id
    · cases hop

/-! ## Steps -/

/-- A frame that is ready after a read was ready before, or the read made it ready. -/
theorem Read.ready {task : Task H cfg} (h : Read s k env (s.conns k).task task)
    (hready : task.Ready d) : (s.conns k).task.Ready d ∨ Origin s k env d := by
  generalize htask : (s.conns k).task = before at h ⊢
  cases h with
  | stale => exact .inr (.plain (refused_ready hready))
  | current => exact .inr (.plain (handleInbound_ready hready))
  | unmapped => exact hready.elim
  | @found _ _ forward =>
    cases forward with
    | direct to_ message | broadcast message =>
      obtain ⟨op, hop, hready⟩ := hready
      cases List.mem_singleton.1 hop
      exact hready.elim
    | offer => exact hready.elim
  | named =>
    obtain ⟨op, hop, hready⟩ := hready
    cases List.mem_singleton.1 hop
    exact hready.elim
  | elsewhere _ htask => rcases htask with rfl | rfl <;> exact hready.elim
  | mapped => exact hready.elim
  | flagged => exact hready.elim
  | unflagged => exact hready.elim
  | superseded => exact hready.elim
  | confirmed hcurrent =>
    obtain ⟨op, hop, hready⟩ := hready
    exact .inr (.success htask hcurrent (Commit.notifications_ready hop hready))
  | @finished next => cases next <;> exact hready.elim
  | ran =>
    obtain ⟨op, hop, hready⟩ := hready
    exact .inl ⟨op, List.mem_cons_of_mem _ hop, hready⟩
  | @started op pending next hsnap =>
    obtain ⟨op', hop, hready⟩ := hready
    rcases List.mem_cons.1 hop with rfl | hop
    · exact .inr (.snapshot htask hsnap hready)
    · exact .inl ⟨op', List.mem_cons_of_mem _ hop, hready⟩

/-- The frames of the jobs that remain after one of them ran. -/
theorem Task.ready_of_jobs {js left : List Job} {pending : List Op} {next : Next}
    (ht : (s.conns k).task = .ops (.jobs js :: pending) next)
    (hleft : Job.send d ∈ left → Job.send d ∈ js)
    (hready : (Task.ops (.jobs left :: pending) next : Task H cfg).Ready d) :
    (s.conns k).task.Ready d := by
  rw [ht]
  obtain ⟨op, hop, hready⟩ := hready
  rcases List.mem_cons.1 hop with rfl | hop
  · exact ⟨_, List.mem_cons_self, hleft hready⟩
  · exact ⟨op, List.mem_cons_of_mem _ hop, hready⟩

/-- A frame that is ready after a step of a handler was ready before, or the step made it ready. -/
theorem Exec.ready (h : Exec s k env s') (hready : (s'.conns k).task.Ready d) :
    (s.conns k).task.Ready d ∨ Origin s k env d := by
  cases h with
  | read hread =>
    rw [Sys.setTask_self] at hready
    exact hread.ready hready
  | rejected =>
    rw [Sys.setTask_self] at hready
    exact .inr (.plain (Task.reply_ready rfl hready))
  | committed =>
    dsimp only at hready
    rw [Sys.setConn_self] at hready
    exact hready.elim
  | hostRefused ht htask =>
    rw [Sys.setTask_self] at hready
    rcases htask with rfl | rfl <;> exact hready.elim
  | hostActed =>
    dsimp only at hready
    rw [Sys.setTask_self] at hready
    obtain ⟨op, hop, hready⟩ := hready
    exact .inr (.plain (HostNotice.notifications_ready hop hready))
  | stayed =>
    rw [Sys.setTask_self] at hready
    exact hready.elim
  | left =>
    dsimp only at hready
    rw [Sys.setTask_self] at hready
    obtain ⟨op, hop, hready⟩ := hready
    exact absurd hready (Departure.notifications_ready hop)
  | sent ht hperm =>
    rw [Sys.setTask_self] at hready
    exact .inl (Task.ready_of_jobs ht (mem_left hperm) hready)
  | signalled ht hperm =>
    rw [Sys.setTask_self] at hready
    exact .inl (Task.ready_of_jobs ht
      (fun hmem => hperm.mem_iff.2 (List.mem_cons_of_mem _ hmem)) hready)

/-- **Where a ready frame comes from.** A frame that is ready after a step was ready before, or was
made ready by the step of its handler. -/
theorem ready_step {act : Action} (h : SysStep s act s') (hready : (s'.conns k).task.Ready d) :
    (s.conns k).task.Ready d ∨ d.Plain ∨ ∃ env, act = .exec k env ∧ Origin s k env d := by
  have hmove := step_cases h
  by_cases hactor : act.actor = some k
  · cases hmove with
    | connected =>
      cases hactor
      rcases Sys.connect_conn.2 with htask | htask <;> rw [htask] at hready <;>
        exact hready.elim
    | ticked => cases hactor
    | refused =>
      cases hactor
      rw [Sys.setConn_self] at hready
      exact .inr (.inl (refused_ready hready))
    | received =>
      cases hactor
      rw [Sys.setConn_self] at hready
      exact hready.elim
    | handled =>
      cases hactor
      rw [Sys.setConn_self] at hready
      exact .inr (.inl (handleInbound_ready hready))
    | hungUp =>
      cases hactor
      rw [Sys.setTask_self] at hready
      exact hready.elim
    | @moved _ env _ hexec =>
      cases hactor
      exact (hexec.ready hready).imp_right fun horigin => .inr ⟨env, rfl, horigin⟩
  · rw [(hmove.untouched hactor).task] at hready
    exact .inl hready

/-- A handler whose next operation is a snapshot takes it. -/
theorem Exec.of_snapshot {op : Op} {pending : List Op} {next : Next} (h : Exec s k env s')
    (ht : (s.conns k).task = .ops (op :: pending) next) (hop : op.Snapshot) :
    s' = s.setTask k (.ops (.jobs (op.start s.shared k env) :: pending) next) := by
  cases h with
  | read hread =>
    rw [ht] at hread
    cases hread with
    | ran => exact hop.elim
    | started => rfl
  | rejected ht' | committed ht' | hostRefused ht' | hostActed ht' | stayed ht' | left ht' =>
    cases ht.symm.trans ht'
  | sent ht' | signalled ht' =>
    cases ht.symm.trans ht'
    exact hop.elim

/-- A handler that committed a registration, and has not replied yet. -/
def Task.Owes (commit : Commit H cfg) : Task H cfg → Prop
  | .committed commit' | .confirmed commit' => commit' = commit
  | _ => False

/-- No message is a commit. -/
theorem handleInbound_owes {inbound : Inbound} {commit : Commit H cfg} :
    ¬ (handleInbound k conn inbound).Owes commit := by
  have hcases : Handled k conn inbound (handleInbound k conn inbound) := handleInbound_cases
  generalize handleInbound k conn inbound = task at hcases ⊢
  cases hcases <;> exact id

/-- **Where a commit comes from.** A handler that owes the reply to a commit after a step owed it
before, or the step was the commit. -/
theorem owes_step {act : Action} {commit : Commit H cfg} (h : SysStep s act s')
    (howes : (s'.conns k).task.Owes commit) :
    (s.conns k).task.Owes commit ∨ ∃ env a, act = .exec k env ∧
      (s.conns k).task = .registration a ∧
      Registers s.shared a s.now env.draws s'.shared commit ∧
      s'.issued = env.draws.token :: s.issued := by
  have hmove := step_cases h
  by_cases hactor : act.actor = some k
  · cases hmove with
    | connected =>
      cases hactor
      rcases Sys.connect_conn.2 with htask | htask <;> rw [htask] at howes <;> exact howes.elim
    | ticked => cases hactor
    | refused | received | handled =>
      cases hactor
      rw [Sys.setConn_self] at howes
      first
      | exact howes.elim
      | exact absurd howes handleInbound_owes
    | hungUp =>
      cases hactor
      rw [Sys.setTask_self] at howes
      exact howes.elim
    | @moved _ env _ hexec =>
      cases hactor
      cases hexec with
      | @read task hread =>
        rw [Sys.setTask_self] at howes
        generalize (s.conns k).task = before at hread ⊢
        cases hread with
        | current => exact absurd howes handleInbound_owes
        | @found _ _ forward => cases forward <;> exact howes.elim
        | elsewhere _ htask => rcases htask with rfl | rfl <;> exact howes.elim
        | unflagged => exact .inl howes
        | @finished next => cases next <;> exact howes.elim
        | _ => exact howes.elim
      | @committed a sh commit' ht hreg =>
        dsimp only at howes
        rw [Sys.setConn_self] at howes
        obtain rfl : commit' = commit := howes
        exact .inr ⟨env, a, rfl, ht, hreg, rfl⟩
      | hostRefused ht htask =>
        rw [Sys.setTask_self] at howes
        rcases htask with rfl | rfl <;> exact howes.elim
      | hostActed | left =>
        dsimp only at howes
        rw [Sys.setTask_self] at howes
        exact howes.elim
      | rejected | stayed | sent | signalled =>
        rw [Sys.setTask_self] at howes
        exact howes.elim
  · rw [(hmove.untouched hactor).task] at howes
    exact .inl howes

/-- **How the log grows.** A step logs one frame at most, which was ready at the handler that made
the step, or is the challenge of a new connection. -/
theorem log_grows {act : Action} (h : SysStep s act s') : s'.log = s.log ∨
    ∃ e, s'.log = e :: s.log ∧ ((s.conns e.by_).task.Ready e.delivery ∨ e.delivery.Plain) := by
  cases step_cases h with
  | connected => exact .inr ⟨_, rfl, .inr (reply_plain rfl)⟩
  | moved hexec =>
    cases hexec with
    | sent ht hperm =>
      refine .inr ⟨_, rfl, .inl ?_⟩
      rw [ht]
      exact ⟨_, List.mem_cons_self, hperm.mem_iff.2 List.mem_cons_self⟩
    | _ => exact .inl rfl
  | _ => exact .inl rfl

/-- **Where a logged frame comes from.** A frame that was tried after a step was tried before, or
was ready at the handler that made the step, or is the challenge of a new connection. -/
theorem log_step {act : Action} (h : SysStep s act s') {e : Sent} (he : e ∈ s'.log) :
    e ∈ s.log ∨ (s.conns e.by_).task.Ready e.delivery ∨ e.delivery.Plain := by
  rcases log_grows h with hlog | ⟨e', hlog, horigin⟩
  · exact .inl (hlog ▸ he)
  · rw [hlog] at he
    rcases List.mem_cons.1 he with rfl | he
    · exact .inr horigin
    · exact .inl he

end

end MctierSignaling
