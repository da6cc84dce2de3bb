import MctierSignaling.Sends

/-!
# Who is told to disconnect

A disconnect signal is left by a frame that could not be sent and by a kick, and a registration sets
the flag of the connection that it replaces. So while every send succeeds, a connection that is
flagged, or that some handler is about to flag, is no member of any lobby, and does not become one
again (`flagged_gone`).
-/

namespace MctierSignaling

section
variable {H : Crypto} {cfg : ServerConfig}

/-- Some pending job of the operation flags the connection. -/
def Op.Signals (m : ConnId) : Op → Prop
  | .jobs js => Job.signal m ∈ js
  | _ => False

/-- The handler is about to flag the connection. -/
def Task.Signals (m : ConnId) : Task H cfg → Prop
  | .ops pending _ => ∃ op ∈ pending, op.Signals m
  | _ => False

variable {s s' : Sys H cfg} {k m : ConnId} {env : Env} {conn : Conn H cfg}

/-! ## What a handler signals -/

theorem Task.signals_jobs {js : List Job} {pending : List Op} {next : Next} :
    (Task.ops (.jobs js :: pending) next : Task H cfg).Signals m ↔
      Job.signal m ∈ js ∨ ∃ op ∈ pending, op.Signals m := by
  simp [Task.Signals, Op.Signals]

theorem Task.signals_singleton {op : Op} {next : Next} :
    (Task.ops [op] next : Task H cfg).Signals m ↔ op.Signals m := by
  simp [Task.Signals]

theorem Op.reply_signals (k m : ConnId) (message : SignalingMessage) :
    ¬ (Op.reply k message).Signals m := by
  intro h
  cases List.mem_singleton.1 h

/-- A snapshot signals nobody before it is taken. -/
theorem Op.Snapshot.signals {op : Op} (h : op.Snapshot) : ¬ op.Signals m := by
  cases op <;> first | exact h.elim | exact id

/-- A snapshot asks for frames only. -/
theorem Op.start_signals {op : Op} {sh : Shared} (h : op.Snapshot) :
    Job.signal m ∉ op.start sh k env := by
  have hsends : ∀ ds : List Delivery, Job.signal m ∉ ds.map Job.send := by
    intro ds hmem
    obtain ⟨_, -, heq⟩ := List.mem_map.1 hmem
    cases heq
  cases op with
  | jobs => exact h.elim
  | sendTo | broadcast | rotation => exact hsends _
  | _ =>
    intro hmem
    cases List.mem_singleton.1 hmem

theorem refused_signals : ¬ (refused k : Task H cfg).Signals m := by
  intro h
  cases List.mem_singleton.1 (Task.signals_singleton.1 h)

/-- A message makes its handler signal nobody. -/
theorem handleInbound_signals {inbound : Inbound} : ¬ (handleInbound k conn inbound).Signals m := by
  have hcases : Handled k conn inbound (handleInbound k conn inbound) := handleInbound_cases
  generalize handleInbound k conn inbound = task at hcases ⊢
  cases hcases with
  | ignored | ended | registers | moderates | forwards => exact id
  | answered => exact fun h => Op.reply_signals _ _ _ (Task.signals_singleton.1 h)
  | registeredAlready =>
    rintro ⟨op, hop, -⟩
    exact absurd hop List.not_mem_nil
  | reconnects => exact fun h => Task.signals_singleton.1 h
  | asks hasks => exact fun h => hasks.snapshot.signals (Task.signals_singleton.1 h)

/-- The news after a registration signals nobody. -/
theorem Commit.notifications_signals {commit : Commit H cfg} {next : Next} :
    ¬ (Task.ops (commit.notifications k) next : Task H cfg).Signals m := by
  rintro ⟨op, hop, h⟩
  unfold Commit.notifications at hop
  simp only [List.mem_append, List.mem_cons, List.not_mem_nil, or_false] at hop
  rcases hop with ((rfl | rfl) | hop) | rfl
  · exact Op.reply_signals _ _ _ h
  · exact h
  · split at hop
    · cases hop
    · cases List.mem_singleton.1 hop
      exact h
  · exact h

/-- The news after a departure signals nobody. -/
theorem Departure.notifications_signals {departure : Departure} {next : Next} :
    ¬ (Task.ops departure.notifications next : Task H cfg).Signals m := by
  rintro ⟨op, hop, h⟩
  simp only [Departure.notifications, List.mem_append, List.mem_singleton] at hop
  rcases hop with (rfl | hop) | hop
  · exact h
  · split at hop
    · cases List.mem_singleton.1 hop
      exact h
    · cases hop
  · split at hop
    · simp only [List.mem_cons, List.not_mem_nil, or_false] at hop
      rcases hop with rfl | rfl <;> exact h
    · cases hop

/-- The news after a host action signals the member that a kick removed, and nobody else. -/
theorem HostNotice.notifications_signals {token lobbyId : String} {lobby lobby' : LobbyInfo}
    {action : HostAction} {notice : HostNotice} {next : Next}
    (he : HostEffect token lobby action lobby' notice)
    (h : (Task.ops (notice.notifications lobbyId) next : Task H cfg).Signals m) :
    ∃ target removed, action.removes = some target ∧ lobby.clients.lookup target = some removed ∧
      m = removed.disconnect := by
  obtain ⟨op, hop, h⟩ := h
  cases he with
  | @kicked target removed _ hremoved =>
    refine ⟨target, removed, rfl, hremoved, ?_⟩
    simp only [HostNotice.notifications, List.mem_cons, List.not_mem_nil, or_false] at hop
    rcases hop with rfl | rfl | rfl | rfl | rfl
    · cases List.mem_singleton.1 h
      rfl
    · exact absurd h (Op.reply_signals _ _ _)
    · cases List.mem_singleton.1 h
    · exact h.elim
    · exact h.elim
  | muted | unmuted | options =>
    cases List.mem_singleton.1 hop
    exact h.elim
  | transferred =>
    simp only [HostNotice.notifications, List.mem_cons, List.not_mem_nil, or_false] at hop
    rcases hop with rfl | rfl <;> exact h.elim

/-- A read leaves the signals of its handler as they are. -/
theorem Read.signals {task task' : Task H cfg} (h : Read s k env task task') :
    task'.Signals m ↔ task.Signals m := by
  cases h with
  | stale => exact iff_of_false refused_signals id
  | current => exact iff_of_false handleInbound_signals id
  | @found _ _ forward =>
    cases forward with
    | offer => exact .rfl
    | direct | broadcast => exact iff_of_false (fun h => Task.signals_singleton.1 h) id
  | named => exact iff_of_false (fun h => Task.signals_singleton.1 h) id
  | elsewhere _ htask => rcases htask with rfl | rfl <;> exact .rfl
  | confirmed => exact iff_of_false Commit.notifications_signals id
  | @finished next =>
    refine iff_of_false ?_ fun ⟨_, hop, _⟩ => absurd hop List.not_mem_nil
    cases next <;> exact id
  | ran => simp [Task.Signals, Op.Signals]
  | started hsnap =>
    rw [Task.signals_jobs, or_iff_right (Op.start_signals hsnap)]
    simp [Task.Signals, hsnap.signals]
  | _ => exact .rfl

/-! ## Flagged connections -/

/-- The connection has registered, and is no member any more. -/
structure Gone (s : Sys H cfg) (m : ConnId) : Prop where
  registered : (s.conns m).session.isSome = true
  absent : ∀ l c info, s.shared.member l c = some info → info.sender ≠ m

/-- The connection is flagged, or is about to be. -/
def Flagged (s : Sys H cfg) (m : ConnId) : Prop :=
  s.shared.disconnect m = true ∨ ∃ k, (s.conns k).task.Signals m

/-- Who is gone stays so. -/
theorem Gone.step {act : Action} (hgone : Gone s m) (hinv : SysInv s) (h : SysStep s act s') :
    Gone s' m where
  registered := session_isSome_step hinv h hgone.registered
  absent l c info hm := by
    rcases member_step hinv h hm with ⟨_, _, hcommits⟩ | hm
    · rintro rfl
      have hsome := hgone.registered
      rw [hcommits.session] at hsome
      cases hsome
    · exact hgone.absent l c info hm

/-- A member that a step removes or replaces is gone. -/
theorem SysInv.gone {act : Action} {l c : String} {info : ClientInfo} (hinv : SysInv s)
    (h : SysStep s act s') (hm : s.shared.member l c = some info)
    (hremoved : ∀ info', s'.shared.member l c = some info' → info'.sender ≠ info.sender) :
    Gone s' info.sender := by
  have hown := (hinv.own l c info hm).1
  have hsome : (s.conns info.sender).session.isSome = true := by rw [hown]; rfl
  refine ⟨session_isSome_step hinv h hsome, fun l' c' info' hm' heq => ?_⟩
  rcases member_step hinv h hm' with ⟨_, _, hcommits⟩ | hold
  · have hnone := hcommits.session
    rw [heq, hown] at hnone
    cases hnone
  · -- a connection has one entry, the one of its session
    have hown' := (hinv.own l' c' info' hold).1
    rw [heq, hown] at hown'
    have hsession := Option.some.inj hown'
    have hl : l = l' := congrArg RegisteredSession.lobbyId hsession
    have hc : c = c' := congrArg RegisteredSession.clientId hsession
    subst hl hc
    exact hremoved info' hm' heq

/-- Whom a registration replaces is gone. -/
theorem SysInv.replaced {a : Admission H cfg} {sh : Shared} {commit : Commit H cfg}
    {previous : ClientInfo} (hinv : SysInv s) (hlobby : LobbyInv s.shared)
    (ht : (s.conns k).task = .registration a)
    (hreg : Registers s.shared a s.now env.draws sh commit) (hshared : s'.shared = sh)
    (h : SysStep s (.exec k env) s')
    (hprevious : (a.entered s.shared env.draws).clients.lookup a.cid = some previous) :
    Gone s' previous.disconnect := by
  obtain ⟨hnone, -, hsender⟩ := hinv.registering ht
  obtain ⟨lobby, hl⟩ : ∃ lobby, s.shared.lobbies.lookup a.lobbyId = some lobby := by
    cases hl : s.shared.lobbies.lookup a.lobbyId with
    | some lobby => exact ⟨lobby, rfl⟩
    | none =>
      rw [Admission.entered, hl] at hprevious
      cases hprevious
  rw [Admission.entered, hl, Option.getD_some] at hprevious
  rw [(hlobby.lobby _ _ hl).members.handle _ _ hprevious]
  have hm := Shared.member_eq_some.2 ⟨lobby, hl, hprevious⟩
  refine hinv.gone h hm fun info' hm' heq => ?_
  rw [hshared, hreg.member, if_pos ⟨rfl, rfl⟩] at hm'
  cases hm'
  exact hinv.no_entry hnone hm (heq.symm.trans hsender)

/-- Whom a kick removes is gone. -/
theorem SysInv.kicked {action : HostAction} {session : RegisteredSession} {lobby lobby' : LobbyInfo}
    {notice : HostNotice} {target : String} {removed : ClientInfo} (hinv : SysInv s)
    (hlobby : LobbyInv s.shared) (hauth : Authorized s.shared (session.moderation k) lobby)
    (he : HostEffect env.draws.token lobby action lobby' notice)
    (hshared : s'.shared = action.store s.shared session.lobbyId lobby')
    (h : SysStep s (.exec k env) s') (htarget : action.removes = some target)
    (hremoved : lobby.clients.lookup target = some removed) : Gone s' removed.disconnect := by
  rw [(hlobby.lobby _ _ hauth.found).members.handle _ _ hremoved]
  refine hinv.gone h (Shared.member_eq_some.2 ⟨lobby, hauth.found, hremoved⟩) fun info' hm' => ?_
  rw [hshared, show session.lobbyId = (session.moderation k).lobbyId from rfl,
    he.member hauth.found, if_pos ⟨rfl, htarget⟩] at hm'
  cases hm'

/-- What a step of a handler does to a member that it flags, now or by a signal: it registers a
client in its place, or kicks it. -/
inductive Removal (s : Sys H cfg) (k : ConnId) (env : Env) (s' : Sys H cfg) : ConnId → Prop
  | replaced {a : Admission H cfg} {commit : Commit H cfg} {previous : ClientInfo} :
      (s.conns k).task = .registration a →
      Registers s.shared a s.now env.draws s'.shared commit →
      (a.entered s.shared env.draws).clients.lookup a.cid = some previous →
      Removal s k env s' previous.disconnect
  | kicked {action : HostAction} {session : RegisteredSession} {lobby lobby' : LobbyInfo}
      {notice : HostNotice} {target : String} {removed : ClientInfo} :
      Authorized s.shared (session.moderation k) lobby →
      HostEffect env.draws.token lobby action lobby' notice →
      s'.shared = action.store s.shared session.lobbyId lobby' →
      action.removes = some target → lobby.clients.lookup target = some removed →
      Removal s k env s' removed.disconnect

/-- Whom a step removes is gone. -/
theorem SysInv.removal (hinv : SysInv s) (hlobby : LobbyInv s.shared)
    (h : SysStep s (.exec k env) s') (hremoval : Removal s k env s' m) : Gone s' m := by
  cases hremoval with
  | replaced ht hreg hprevious => exact hinv.replaced hlobby ht hreg rfl h hprevious
  | kicked hauth he hshared htarget hremoved =>
    exact hinv.kicked hlobby hauth he hshared h htarget hremoved

/-- **What raises a flag.** A flag that is up after a step was up before, or some handler was about
to raise it, or the step registered a client in place of the member. -/
theorem disconnect_step {act : Action} (h : SysStep s act s')
    (hflag : s'.shared.disconnect m = true) :
    s.shared.disconnect m = true ∨ (∃ k, (s.conns k).task.Signals m) ∨
      ∃ k env, act = .exec k env ∧ Removal s k env s' m := by
  cases step_cases h with
  | @moved k env _ hexec =>
    cases hexec with
    | @committed a sh commit ht hreg =>
      have hsignalled : sh.disconnect m = true := hflag
      rw [hreg.signalled] at hsignalled
      cases hprevious : (a.entered s.shared env.draws).clients.lookup a.cid with
      | none =>
        rw [hprevious] at hsignalled
        exact .inl hsignalled
      | some previous =>
        rw [hprevious] at hsignalled
        by_cases hm : m = previous.disconnect
        · subst hm
          exact .inr (.inr ⟨k, env, rfl, .replaced ht hreg hprevious⟩)
        · have hset : Function.update s.shared.disconnect previous.disconnect true m = true :=
            hsignalled
          rw [Function.update_of_ne hm] at hset
          exact .inl hset
    | @hostActed action =>
      refine .inl ?_
      cases action <;> exact hflag
    | left _ _ _ _ _ hdep => exact .inl (hdep.disconnect ▸ hflag)
    | @signalled js pending next k' rest ht hperm =>
      by_cases hm : m = k'
      · refine .inr (.inl ⟨k, ?_⟩)
        rw [hm, ht, Task.signals_jobs]
        exact .inl (hperm.mem_iff.2 List.mem_cons_self)
      · have hset : Function.update s.shared.disconnect k' true m = true := hflag
        rw [Function.update_of_ne hm] at hset
        exact .inl hset
    | _ => exact .inl hflag
  | _ => exact .inl hflag

/-- **Where a signal comes from.** A handler that is about to flag a connection after a step was
about to flag it before, or the step failed to send a frame, or kicked the member. -/
theorem signals_step {act : Action} (h : SysStep s act s')
    (hsignals : (s'.conns k).task.Signals m) :
    (s.conns k).task.Signals m ∨ (∃ e ∈ s'.log, e.ok = false) ∨
      ∃ env, act = .exec k env ∧ Removal s k env s' m := by
  have hmove := step_cases h
  by_cases hactor : act.actor = some k
  · cases hmove with
    | connected =>
      cases hactor
      rcases Sys.connect_conn.2 with htask | htask <;> rw [htask] at hsignals <;>
        exact hsignals.elim
    | ticked => cases hactor
    | refused =>
      cases hactor
      rw [Sys.setConn_self] at hsignals
      exact absurd hsignals refused_signals
    | received =>
      cases hactor
      rw [Sys.setConn_self] at hsignals
      exact hsignals.elim
    | handled =>
      cases hactor
      rw [Sys.setConn_self] at hsignals
      exact absurd hsignals handleInbound_signals
    | hungUp =>
      cases hactor
      rw [Sys.setTask_self] at hsignals
      exact hsignals.elim
    | @moved _ env _ hexec =>
      cases hactor
      cases hexec with
      | read hread =>
        rw [Sys.setTask_self] at hsignals
        exact .inl (hread.signals.1 hsignals)
      | rejected =>
        rw [Sys.setTask_self] at hsignals
        exact absurd (Task.signals_singleton.1 hsignals) (Op.reply_signals _ _ _)
      | committed =>
        dsimp only at hsignals
        rw [Sys.setConn_self] at hsignals
        exact hsignals.elim
      | hostRefused _ htask =>
        rw [Sys.setTask_self] at hsignals
        rcases htask with rfl | rfl <;> exact hsignals.elim
      | hostActed _ _ hauth he =>
        dsimp only at hsignals
        rw [Sys.setTask_self] at hsignals
        obtain ⟨target, removed, htarget, hremoved, rfl⟩ :=
          HostNotice.notifications_signals he hsignals
        exact .inr (.inr ⟨env, rfl, .kicked hauth he rfl htarget hremoved⟩)
      | stayed =>
        rw [Sys.setTask_self] at hsignals
        exact hsignals.elim
      | left =>
        dsimp only at hsignals
        rw [Sys.setTask_self] at hsignals
        exact absurd hsignals Departure.notifications_signals
      | @sent js pending next d rest ht hperm =>
        cases hsent : (s.send k d env.ok).2 with
        | false => exact .inr (.inl ⟨_, List.mem_cons_self, hsent⟩)
        | true =>
          refine .inl ?_
          rw [Sys.setTask_self, hsent, if_pos rfl, List.append_nil, Task.signals_jobs] at hsignals
          rw [ht, Task.signals_jobs]
          exact hsignals.imp_left fun hmem => hperm.mem_iff.2 (List.mem_cons_of_mem _ hmem)
      | @signalled js pending next k' rest ht hperm =>
        refine .inl ?_
        rw [Sys.setTask_self, Task.signals_jobs] at hsignals
        rw [ht, Task.signals_jobs]
        exact hsignals.imp_left fun hmem => hperm.mem_iff.2 (List.mem_cons_of_mem _ hmem)
  · rw [(hmove.untouched hactor).task] at hsignals
    exact .inl hsignals

/-- **A step flags only who is gone**, while every send succeeds. -/
theorem flagged_step {act : Action} (hall : ∀ m, Flagged s m → Gone s m) (hinv : SysInv s)
    (hlobby : LobbyInv s.shared) (h : SysStep s act s') (hok : ∀ e ∈ s'.log, e.ok = true)
    (m : ConnId) (hflagged : Flagged s' m) : Gone s' m := by
  have hkeep : Flagged s m → Gone s' m := fun hm => (hall m hm).step hinv h
  rcases hflagged with hflag | ⟨k, hsignals⟩
  · obtain hflag | ⟨k, hsignals⟩ | ⟨k, env, rfl, hremoval⟩ := disconnect_step h hflag
    · exact hkeep (.inl hflag)
    · exact hkeep (.inr ⟨k, hsignals⟩)
    · exact hinv.removal hlobby h hremoval
  · obtain hsignals | ⟨e, he, hfailed⟩ | ⟨env, rfl, hremoval⟩ := signals_step h hsignals
    · exact hkeep (.inr ⟨k, hsignals⟩)
    · cases hfailed.symm.trans (hok e he)
    · exact hinv.removal hlobby h hremoval

/-- A step adds to the log. -/
theorem log_mono {act : Action} (h : SysStep s act s') {e : Sent} (he : e ∈ s.log) :
    e ∈ s'.log := by
  cases step_cases h with
  | connected => exact List.mem_cons_of_mem _ he
  | moved hexec =>
    cases hexec with
    | sent => exact List.mem_cons_of_mem _ he
    | _ => exact he
  | _ => exact he

/-- **A flagged connection is gone.** In a run in which every send succeeds, a connection that is
flagged, or is about to be, has registered and is no member any more. -/
theorem flagged_gone {ts : List (Transition (Sys H cfg) Action)} (h : SysRun ts s)
    (hok : ∀ e ∈ s.log, e.ok = true) (hflagged : Flagged s m) : Gone s m := by
  induction h generalizing m with
  | start h =>
    subst h
    rcases hflagged with hflagged | ⟨_, hsignals⟩
    · cases hflagged
    · exact hsignals.elim
  | snoc hr hst ih =>
    exact flagged_step (fun m => ih fun e he => hok e (log_mono hst he))
      (ReachableSys.inv hr.reachable) (ReachableSys.lobbyInv hr.reachable) hst hok m hflagged

end

end MctierSignaling
