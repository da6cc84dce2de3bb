import MctierSignaling.Server
import MctierSignaling.LobbyInvariant

/-!
# Sessions and their entries

Which connection owns which lobby entry. A handler sets its session once, with the commit of its
registration, and every entry of a lobby names as its sender a connection whose session is that
entry (`SysInv.own`), and whose handler has not been through its cleanup. What a handler is about to
do agrees with its session (`TaskOk`): it looks up its own client id, and forwards messages that
name its own client.
-/

namespace MctierSignaling

section
variable {H : Crypto} {cfg : ServerConfig}

/-! ## The invariant -/

/-- A message that names as its sender the client of this session, or nobody, and that carries no
chat token. -/
structure Claims (session : Option RegisteredSession) (message : SignalingMessage) : Prop where
  sender : ∀ id, jsonSenderId message.toJson = some id → session.map (·.clientId) = some id
  tokenless : message.chatToken = none

/-- A routed message names this session's client, or nobody. -/
def OpOk (session : Option RegisteredSession) : Op → Prop
  | .sendTo _ _ message | .broadcast _ _ message => Claims session message
  | _ => True

/-- A forwarded message names this session's client. -/
def ForwardOk (session : Option RegisteredSession) : Forward → Prop
  | .direct _ message | .broadcast message => Claims session message
  | .offer .. => True

/-- What a handler is about to do agrees with its session. -/
def TaskOk (k : ConnId) (conn : Conn H cfg) : Task H cfg → Prop
  | .absent => conn.session = none
  | .current _ | .mapped _ | .hostAction _ => conn.session.isSome = true
  | .lookup from_ forward =>
    conn.session.map (·.clientId) = some from_ ∧ ForwardOk conn.session forward
  | .offerName _ from_ _ _ => conn.session.map (·.clientId) = some from_
  | .registration a => conn.session = none ∧ a.context = conn.context k
  | .committed commit | .confirmed commit => conn.session = some commit.session
  | .ops pending _ => ∀ op ∈ pending, OpOk conn.session op
  | .idle | .cleanup | .returned => True

/-- The cleanup of this handler is done. -/
def Task.Finished : Task H cfg → Prop
  | .returned | .ops _ .returned => True
  | _ => False

/-- Handlers agree with their sessions, and entries with the sessions of their senders. -/
structure SysInv (s : Sys H cfg) : Prop where
  task : ∀ k, TaskOk k (s.conns k) (s.conns k).task
  own : ∀ l c info, s.shared.member l c = some info →
    (s.conns info.sender).session = some ⟨c, l, info.sessionGeneration⟩ ∧
      ¬ (s.conns info.sender).task.Finished

/-! ## Dispatch -/

variable {k : ConnId} {conn : Conn H cfg} {message : SignalingMessage}

/-- A forwarding arm looks up the claimed sender, and rebuilds a message that names it. -/
theorem routed_sender {r : Routed} (h : message.routed = some r) :
    message.claimedSender = some r.from_ ∧
      match r.forward with
      | .direct _ forwarded | .broadcast forwarded =>
        jsonSenderId forwarded.toJson = some r.from_ ∧ forwarded.chatToken = none
      | .offer .. => True := by
  cases message <;> cases h <;> exact ⟨rfl, by trivial⟩

/-- What a handler does next with whatever the socket yields agrees with its session. -/
theorem handleInbound_ok {inbound : Inbound} : TaskOk k conn (handleInbound k conn inbound) := by
  have hcases : Handled k conn inbound (handleInbound k conn inbound) := handleInbound_cases
  generalize handleInbound k conn inbound = task at hcases ⊢
  cases hcases with
  | ignored | ended => trivial
  | answered =>
    intro op hop
    cases List.mem_singleton.1 hop
    trivial
  | registeredAlready => exact fun op hop => absurd hop List.not_mem_nil
  | @asks _ op hasks =>
    intro op' hop
    cases List.mem_singleton.1 hop
    cases op <;> trivial
  | registers hs hcontext => exact ⟨hs, hcontext⟩
  | moderates hs => exact Option.isSome_iff_exists.2 ⟨_, hs⟩
  | @forwards message r session hs hr hclaimed =>
    obtain ⟨hsender, hforward⟩ := routed_sender hr
    have hfrom : conn.session.map (·.clientId) = some r.from_ := by
      rw [hsender] at hclaimed
      rw [hs, beq_iff_eq.1 hclaimed]
      rfl
    refine ⟨hfrom, ?_⟩
    unfold ForwardOk
    revert hforward
    cases r.forward with
    | direct to_ forwarded | broadcast forwarded =>
      exact fun h => ⟨fun id hid => hfrom.trans (h.1.symm.trans hid), h.2⟩
    | offer => exact id
  | reconnects hs =>
    intro op hop
    cases List.mem_singleton.1 hop
    refine ⟨fun id hid => ?_, rfl⟩
    cases hid
    rw [hs]
    rfl

theorem refused_ok : TaskOk k conn (refused k) := by
  intro op hop
  cases List.mem_singleton.1 hop
  trivial

/-- A message that names nobody is fine under every session. -/
theorem Claims.of_none {session : Option RegisteredSession}
    (h : jsonSenderId message.toJson = none) (ht : message.chatToken = none) :
    Claims session message :=
  ⟨fun _ hid => absurd (h.symm.trans hid) nofun, ht⟩

/-! ## Notifications -/

/-- The news of a new member names nobody as its sender. -/
theorem Commit.joined_sender {commit : Commit H cfg} :
    jsonSenderId commit.joined.toJson = none := by
  unfold Commit.joined
  cases commit.admission.virtualDomain <;> cases commit.admission.useDomain <;>
    cases commit.admission.chatPublicKey <;> rfl

/-- The news of a new limit names nobody as its sender. -/
theorem lobbyOptionsChanged_sender {maxPlayers : Option Nat} {isPublic : Bool} :
    jsonSenderId (SignalingMessage.lobbyOptionsChanged maxPlayers isPublic).toJson = none := by
  cases maxPlayers <;> rfl

/-- The news after a registration agrees with any session. -/
theorem Commit.notifications_ok {commit : Commit H cfg} {session : Option RegisteredSession} :
    ∀ op ∈ commit.notifications k, OpOk session op := by
  intro op hop
  unfold Commit.notifications at hop
  simp only [List.mem_append, List.mem_cons, List.not_mem_nil, or_false] at hop
  rcases hop with ((rfl | rfl) | hop) | rfl
  · trivial
  · trivial
  · split at hop
    · cases hop
    · cases List.mem_singleton.1 hop
      trivial
  · exact Claims.of_none Commit.joined_sender rfl

/-- The news after a host action agrees with any session. -/
theorem HostNotice.notifications_ok {notice : HostNotice} {lobbyId : String}
    {session : Option RegisteredSession} :
    ∀ op ∈ notice.notifications lobbyId, OpOk session op := by
  intro op hop
  cases notice with
  | kicked removed target targets token epoch =>
    simp only [HostNotice.notifications, List.mem_cons, List.not_mem_nil, or_false] at hop
    rcases hop with rfl | rfl | rfl | rfl | rfl
    · trivial
    · trivial
    · trivial
    · exact Claims.of_none rfl rfl
    · trivial
  | muteChanged target muted =>
    cases List.mem_singleton.1 hop
    exact Claims.of_none rfl rfl
  | hostChanged target =>
    simp only [HostNotice.notifications, List.mem_cons, List.not_mem_nil, or_false] at hop
    rcases hop with rfl | rfl
    · exact Claims.of_none rfl rfl
    · exact Claims.of_none rfl rfl
  | optionsChanged maxPlayers isPublic =>
    cases List.mem_singleton.1 hop
    exact Claims.of_none lobbyOptionsChanged_sender rfl

/-- The news after a cleanup agrees with any session. -/
theorem Departure.notifications_ok {departure : Departure} {session : Option RegisteredSession} :
    ∀ op ∈ departure.notifications, OpOk session op := by
  intro op hop
  simp only [Departure.notifications, List.mem_append, List.mem_singleton] at hop
  rcases hop with (rfl | hop) | hop
  · exact Claims.of_none rfl rfl
  · split at hop
    · cases List.mem_singleton.1 hop
      trivial
    · cases hop
  · split at hop
    · simp only [List.mem_cons, List.not_mem_nil, or_false] at hop
      rcases hop with rfl | rfl
      · exact Claims.of_none rfl rfl
      · exact Claims.of_none rfl rfl
    · cases hop

/-! ## Steps -/

variable {s s' : Sys H cfg} {env : Env}

/-- Whether a task agrees with the connection depends on its session and its registration
context. -/
theorem TaskOk.congr {conn conn' : Conn H cfg} {task : Task H cfg} (h : TaskOk k conn task)
    (hsession : conn'.session = conn.session) (hchallenge : conn'.challenge = conn.challenge)
    (hsourceIp : conn'.sourceIp = conn.sourceIp) : TaskOk k conn' task := by
  have hcontext : conn'.context k = conn.context k := by
    rw [Conn.context, Conn.context, hsession, hchallenge, hsourceIp]
  cases task <;> simp only [TaskOk, hsession, hcontext] at h ⊢ <;> exact h

theorem TaskOk.untouched {conn conn' : Conn H cfg} (h : TaskOk k conn conn.task)
    (hu : Untouched conn conn') : TaskOk k conn' conn'.task :=
  hu.task ▸ h.congr hu.session hu.challenge hu.sourceIp

/-- A read goes to a task that agrees with the session. -/
theorem Read.ok {task task' : Task H cfg} (h : Read s k env task task')
    (hok : TaskOk k (s.conns k) task) : TaskOk k (s.conns k) task' := by
  cases h with
  | stale => exact refused_ok
  | current => exact handleInbound_ok
  | unmapped => trivial
  | @found from_ lobbyId forward =>
    obtain ⟨hfrom, hforward⟩ := hok
    cases forward with
    | direct to_ message | broadcast message =>
      intro op hop
      cases List.mem_singleton.1 hop
      exact hforward
    | offer to_ data => exact hfrom
  | named =>
    intro op hop
    cases List.mem_singleton.1 hop
    refine ⟨fun id hid => ?_, rfl⟩
    cases hid
    exact hok
  | elsewhere _ htask => rcases htask with rfl | rfl <;> trivial
  | mapped => exact hok
  | flagged => trivial
  | unflagged => exact hok
  | superseded => trivial
  | confirmed => exact Commit.notifications_ok
  | @finished next => cases next <;> trivial
  | ran => exact fun op hop => hok op (List.mem_cons_of_mem _ hop)
  | started =>
    intro op hop
    rcases List.mem_cons.1 hop with rfl | hop
    · trivial
    · exact hok op (List.mem_cons_of_mem _ hop)

/-- No message leads past the cleanup. -/
theorem handleInbound_unfinished {inbound : Inbound} :
    ¬ (handleInbound k conn inbound).Finished := by
  have hcases : Handled k conn inbound (handleInbound k conn inbound) := handleInbound_cases
  generalize handleInbound k conn inbound = task at hcases ⊢
  cases hcases with
  | @answered _ message next _ hnext => cases next <;> first | exact id | exact absurd rfl hnext
  | _ => exact id

/-- A read does not finish a cleanup. -/
theorem Read.unfinished {task task' : Task H cfg} (h : Read s k env task task')
    (hf : ¬ task.Finished) : ¬ task'.Finished := by
  cases h with
  | current => exact handleInbound_unfinished
  | @found _ _ forward => cases forward <;> exact id
  | elsewhere _ htask => rcases htask with rfl | rfl <;> exact id
  | @finished next => cases next <;> first | exact id | exact hf
  | @ran _ next | @started _ _ next => cases next <;> first | exact id | exact hf
  | _ => exact id

/-- What a connection opens with. -/
theorem Sys.connect_conn {challenge : String} {sourceIp : IpAddr} {ok : Bool} :
    ((s.connect k challenge sourceIp ok).conns k).session = none ∧
      (((s.connect k challenge sourceIp ok).conns k).task = .idle ∨
        ((s.connect k challenge sourceIp ok).conns k).task = .returned) := by
  unfold Sys.connect Sys.setTask
  dsimp only
  rw [Sys.setConn_self]
  refine ⟨Sys.send_untouched.session.trans (by rw [Sys.setConn_self]), ?_⟩
  split
  · exact .inl rfl
  · exact .inr rfl

theorem handleInbound_ne_absent {conn : Conn H cfg} {inbound : Inbound} :
    handleInbound k conn inbound ≠ .absent := by
  have hcases : Handled k conn inbound (handleInbound k conn inbound) := handleInbound_cases
  generalize handleInbound k conn inbound = task at hcases ⊢
  cases hcases <;> simp

theorem Read.ne_absent {task task' : Task H cfg} (h : Read s k env task task') :
    task' ≠ .absent := by
  cases h with
  | current => exact handleInbound_ne_absent
  | @found _ _ forward => cases forward <;> simp [Forward.task]
  | elsewhere _ htask => rcases htask with rfl | rfl <;> simp
  | @finished next => cases next <;> simp [Next.task]
  | _ => simp [refused]

theorem Exec.ne_absent (h : Exec s k env s') : (s'.conns k).task ≠ .absent := by
  cases h with
  | read hread =>
    rw [Sys.setTask_self]
    exact hread.ne_absent
  | hostRefused _ htask =>
    rw [Sys.setTask_self]
    rcases htask with rfl | rfl <;> simp
  | committed =>
    dsimp only
    rw [Sys.setConn_self]
    simp
  | hostActed | left =>
    dsimp only
    rw [Sys.setTask_self]
    simp
  | rejected | stayed | sent | signalled =>
    rw [Sys.setTask_self]
    simp

/-- A connection that acts is open. -/
theorem Move.ne_absent {act : Action} (h : Move s act s') (hactor : act.actor = some k) :
    (s'.conns k).task ≠ .absent := by
  cases h with
  | connected =>
    cases hactor
    obtain ⟨-, htask | htask⟩ := Sys.connect_conn (s := s) <;> rw [htask] <;> simp
  | ticked => cases hactor
  | refused | received =>
    cases hactor
    rw [Sys.setConn_self]
    simp [MctierSignaling.refused]
  | handled =>
    cases hactor
    rw [Sys.setConn_self]
    exact handleInbound_ne_absent
  | hungUp =>
    cases hactor
    rw [Sys.setTask_self]
    simp
  | moved hexec =>
    cases hactor
    exact hexec.ne_absent

/-- A connection that is open stays so. -/
theorem open_step {act : Action} (h : SysStep s act s') (hopen : (s.conns k).task ≠ .absent) :
    (s'.conns k).task ≠ .absent := by
  by_cases hactor : act.actor = some k
  · exact (step_cases h).ne_absent hactor
  · rw [((step_cases h).untouched hactor).task]
    exact hopen

/-- A step that moves one handler, and whose entries are the old ones of other connections and
those of this handler's session, keeps the invariant. -/
theorem SysInv.of_actor (hinv : SysInv s)
    (hu : ∀ k', k' ≠ k → Untouched (s.conns k') (s'.conns k'))
    (htask : TaskOk k (s'.conns k) (s'.conns k).task)
    (hother : ∀ l c info, s'.shared.member l c = some info → info.sender ≠ k →
      s.shared.member l c = some info)
    (hself : ∀ l c info, s'.shared.member l c = some info → info.sender = k →
      (s'.conns k).session = some ⟨c, l, info.sessionGeneration⟩ ∧
        ¬ (s'.conns k).task.Finished) : SysInv s' where
  task k' := by
    by_cases hk : k' = k
    · exact hk ▸ htask
    · exact (hinv.task k').untouched (hu k' hk)
  own l c info hinfo := by
    by_cases hk : info.sender = k
    · exact hk ▸ hself l c info hinfo hk
    · obtain ⟨hsession, hf⟩ := hinv.own l c info (hother l c info hinfo hk)
      rw [(hu _ hk).session, (hu _ hk).task]
      exact ⟨hsession, hf⟩

/-- A step that moves one handler under its session, and changes no entry, keeps the invariant. -/
theorem SysInv.of_task (hinv : SysInv s)
    (hu : ∀ k', k' ≠ k → Untouched (s.conns k') (s'.conns k'))
    (hmember : ∀ l c, s'.shared.member l c = s.shared.member l c)
    (hsession : (s'.conns k).session = (s.conns k).session)
    (htask : TaskOk k (s'.conns k) (s'.conns k).task)
    (hf : ¬ (s.conns k).task.Finished → ¬ (s'.conns k).task.Finished) : SysInv s' := by
  refine hinv.of_actor hu htask (fun l c info hinfo _ => hmember l c ▸ hinfo) ?_
  intro l c info hinfo hk
  rw [hmember] at hinfo
  obtain ⟨hs, hfin⟩ := hinv.own l c info hinfo
  rw [hk] at hs hfin
  exact ⟨hsession.trans hs, hf hfin⟩

/-- A handler without a session has no entries. -/
theorem SysInv.no_entry (hinv : SysInv s) (hs : (s.conns k).session = none) {l c : String}
    {info : ClientInfo} (h : s.shared.member l c = some info) : info.sender ≠ k := by
  rintro rfl
  cases hs.symm.trans (hinv.own l c info h).1

/-- What waits for its registration was checked on the connection itself, which has no session. -/
theorem SysInv.registering {a : Admission H cfg} (hinv : SysInv s)
    (ht : (s.conns k).task = .registration a) : (s.conns k).session = none ∧
      a.context = (s.conns k).context k ∧ a.context.sender = k := by
  have hok := hinv.task k
  rw [ht] at hok
  obtain ⟨hnone, hcontext⟩ := hok
  refine ⟨hnone, hcontext, ?_⟩
  rw [hcontext]
  rfl

/-- An entry after a step of a handler was there before, or is that of the session that the step
opened. -/
theorem Exec.member {l c : String} {info : ClientInfo} (h : Exec s k env s')
    (hm : s'.shared.member l c = some info) : s.shared.member l c = some info ∨
      ∃ a commit, (s.conns k).task = .registration a ∧
        Registers s.shared a s.now env.draws s'.shared commit ∧ l = a.lobbyId ∧ c = a.cid ∧
        info = a.clientInfo env.draws.generation ∧
        (s'.conns k).session = some ⟨c, l, info.sessionGeneration⟩ := by
  cases h with
  | @committed a sh commit ht hreg =>
    dsimp only at hm
    rw [Sys.setConn_shared, Sys.setShared, hreg.member] at hm
    split at hm
    · next heq =>
      obtain ⟨rfl, rfl⟩ := heq
      cases hm
      refine .inr ⟨a, commit, ht, hreg, rfl, rfl, rfl, ?_⟩
      dsimp only
      rw [Sys.setConn_self, hreg.commit_eq]
      rfl
    · exact .inl hm
  | @hostActed action session lobby lobby' notice ht hs hauth he =>
    dsimp only at hm
    rw [Sys.setTask_shared, Sys.setShared, show session.lobbyId =
      (session.moderation k).lobbyId from rfl, he.member hauth.found] at hm
    split at hm
    · cases hm
    · exact .inl hm
  | left ht hs hl hc hk hdep =>
    dsimp only at hm
    rw [Sys.setTask_shared, Sys.setShared, hdep.member hl] at hm
    split at hm
    · cases hm
    · exact .inl hm
  | _ => exact .inl hm

/-- A step of a handler keeps the invariant. -/
theorem SysInv.exec (hinv : SysInv s) (h : Exec s k env s') : SysInv s' := by
  have hu := fun k' (hk : k' ≠ k) => h.untouched hk
  have hmember := fun l c info (hm : s'.shared.member l c = some info) => h.member hm
  have hother : ∀ l c info, s'.shared.member l c = some info → info.sender ≠ k →
      s.shared.member l c = some info := by
    intro l c info hm hk
    obtain hm | ⟨a, commit, ht, -, -, -, rfl, -⟩ := hmember l c info hm
    · exact hm
    · exact absurd (hinv.registering ht).2.2 hk
  have hreply : ∀ (conn : Conn H cfg) m next, TaskOk k conn (.ops [.reply k m] next) := by
    intro conn m next op hop
    cases List.mem_singleton.1 hop
    trivial
  cases h with
  | read hread =>
    refine hinv.of_task hu (fun _ _ => rfl) ?_ ?_ ?_ <;> rw [Sys.setTask_self]
    · exact (hread.ok (hinv.task k)).congr rfl rfl rfl
    · exact hread.unfinished
  | @rejected a message refusal failures ht =>
    refine hinv.of_task hu (fun _ _ => rfl) ?_ ?_ ?_ <;> rw [Sys.setTask_self]
    · rfl
    · exact hreply _ _ _
    · cases refusal <;> exact fun _ => id
  | @committed a sh commit ht hreg =>
    refine hinv.of_actor hu ?_ hother fun l c info hinfo hk => ?_
    · dsimp only
      rw [Sys.setConn_self]
      rfl
    · obtain hinfo | ⟨_, _, -, -, -, -, -, hsession⟩ := hmember l c info hinfo
      · exact absurd hk (hinv.no_entry (hinv.registering ht).1 hinfo)
      · refine ⟨hsession, ?_⟩
        dsimp only
        rw [Sys.setConn_self]
        exact id
  | hostRefused ht htask =>
    refine hinv.of_task hu (fun _ _ => rfl) ?_ ?_ ?_ <;> rw [Sys.setTask_self]
    · rcases htask with rfl | rfl <;> trivial
    · rcases htask with rfl | rfl <;> exact fun _ => id
  | @hostActed action session lobby lobby' notice ht hs hauth he =>
    refine hinv.of_actor hu ?_ hother fun l c info hinfo hk => ?_ <;>
      dsimp only <;> rw [Sys.setTask_self]
    · exact HostNotice.notifications_ok
    · obtain hinfo | ⟨_, _, ht', -⟩ := hmember l c info hinfo
      · obtain ⟨hsession, -⟩ := hinv.own l c info hinfo
        exact ⟨hk ▸ hsession, id⟩
      · cases ht.symm.trans ht'
  | stayed ht hleft =>
    refine hinv.of_actor hu ?_ hother fun l c info hinfo hk => ?_ <;> rw [Sys.setTask_self]
    · trivial
    · obtain ⟨hsession, -⟩ := hinv.own l c info hinfo
      exact absurd hk (hleft ⟨c, l, info.sessionGeneration⟩ (hk ▸ hsession) info hinfo)
  | @left session lobby info sh departure ht hs hl hc hk hdep =>
    refine hinv.of_actor hu ?_ hother fun l c info hinfo hk => ?_ <;> dsimp only
    · rw [Sys.setTask_self]
      exact Departure.notifications_ok
    · rw [Sys.setTask_shared, Sys.setShared, hdep.member hl] at hinfo
      split at hinfo
      · cases hinfo
      next hne =>
      obtain ⟨hsession, -⟩ := hinv.own l c info hinfo
      rw [hk, hs] at hsession
      cases hsession
      exact absurd ⟨rfl, rfl⟩ hne
  | @sent js pending next d rest ht hperm =>
    have hself : Untouched (s.conns k) ((s.send k d env.ok).1.conns k) := Sys.send_untouched
    have hok := hinv.task k
    rw [ht] at hok
    refine hinv.of_task hu (fun _ _ => rfl) ?_ ?_ ?_ <;> rw [Sys.setTask_self]
    · exact hself.session
    · have hops : TaskOk k (s.conns k) (.ops (.jobs (rest ++
          if (s.send k d env.ok).2 then [] else d.flag.toList.map Job.signal) :: pending)
          next) := by
        intro op hop
        rcases List.mem_cons.1 hop with rfl | hop
        · trivial
        · exact hok op (List.mem_cons_of_mem _ hop)
      exact hops.congr hself.session hself.challenge hself.sourceIp
    · rw [ht]
      cases next <;> exact id
  | @signalled js pending next k' rest ht hperm =>
    have hok := hinv.task k
    rw [ht] at hok
    refine hinv.of_task hu (fun _ _ => rfl) ?_ ?_ ?_ <;> rw [Sys.setTask_self]
    · rfl
    · intro op hop
      rcases List.mem_cons.1 hop with rfl | hop
      · trivial
      · exact hok op (List.mem_cons_of_mem _ hop)
    · rw [ht]
      cases next <;> exact id

/-- **Every step keeps the invariant.** -/
theorem SysInv.step {act : Action} (hinv : SysInv s) (h : SysStep s act s') : SysInv s' := by
  have hmove := step_cases h
  have hu := fun k' (hk : act.actor ≠ some k') => hmove.untouched hk
  cases hmove with
  | @connected k challenge sourceIp ok ht =>
    have hnone : (s.conns k).session = none := by
      have hok := hinv.task k
      rwa [ht] at hok
    have htask : ((s.connect k challenge sourceIp ok).conns k).task = .idle ∨
        ((s.connect k challenge sourceIp ok).conns k).task = .returned := Sys.connect_conn.2
    refine hinv.of_actor (fun k' hk => hu k' fun heq => hk (Option.some.inj heq).symm) ?_
      (fun l c info hinfo _ => hinfo) ?_
    · rcases htask with htask | htask <;> rw [htask] <;> trivial
    · intro l c info hinfo hk
      exact absurd hk (hinv.no_entry hnone hinfo)
  | ticked => exact ⟨hinv.task, hinv.own⟩
  | @refused k _ _ ht | @received k _ _ ht hs | @handled k _ _ ht hs =>
    refine hinv.of_task (fun k' hk => hu k' fun heq => hk (Option.some.inj heq).symm)
      (fun _ _ => rfl) ?_ ?_ ?_ <;> rw [Sys.setConn_self]
    · first
      | exact refused_ok
      | exact hs
      | exact handleInbound_ok.congr rfl rfl rfl
    · first
      | exact fun _ => id
      | exact fun _ => handleInbound_unfinished
  | @hungUp k ht =>
    refine hinv.of_task (fun k' hk => hu k' fun heq => hk (Option.some.inj heq).symm)
      (fun _ _ => rfl) ?_ ?_ ?_ <;> rw [Sys.setTask_self]
    · trivial
    · exact fun _ => id
  | moved hexec => exact hinv.exec hexec

theorem SysInv.initial : SysInv (Sys.initial : Sys H cfg) where
  task _ := rfl
  own _ _ _ h := nomatch h

/-- The invariant holds in every reachable state. -/
theorem ReachableSys.inv (h : ReachableSys s) : SysInv s :=
  h.invariant (fun _ h => h ▸ .initial) fun _ _ _ _ hinv hs => hinv.step hs

/-- The lobby invariant holds in every reachable state. -/
theorem ReachableSys.lobbyInv (h : ReachableSys s) : LobbyInv s.shared := h.shared.inv

/-- A session stays. -/
theorem session_step {act : Action} {session : RegisteredSession} (hinv : SysInv s)
    (h : SysStep s act s') (hs : (s.conns k).session = some session) :
    (s'.conns k).session = some session := by
  have hmove := step_cases h
  have hok := hinv.task k
  by_cases hactor : act.actor = some k
  · cases hmove with
    | connected ht =>
      cases hactor
      rw [ht] at hok
      cases hs.symm.trans hok
    | ticked => exact hs
    | refused | received | handled | hungUp =>
      cases hactor
      first
      | rw [Sys.setConn_self]
      | rw [Sys.setTask_self]
      exact hs
    | moved hexec =>
      cases hactor
      cases hexec with
      | committed ht =>
        rw [ht] at hok
        cases hs.symm.trans hok.1
      | sent =>
        rw [Sys.setTask_self]
        exact Sys.send_untouched.session.trans hs
      | read | rejected | hostRefused | stayed | signalled =>
        rw [Sys.setTask_self]
        exact hs
      | hostActed | left =>
        dsimp only
        rw [Sys.setTask_self]
        exact hs
  · rw [(hmove.untouched hactor).session]
    exact hs

/-- A connection that has a session keeps one. -/
theorem session_isSome_step {act : Action} (hinv : SysInv s) (h : SysStep s act s')
    (hs : (s.conns k).session.isSome = true) : (s'.conns k).session.isSome = true := by
  obtain ⟨session, hs⟩ := Option.isSome_iff_exists.1 hs
  rw [session_step hinv h hs]
  rfl

/-- The session of a connection that has an entry is current. -/
theorem SysInv.current {l c : String} {info : ClientInfo} {session : RegisteredSession}
    (hinv : SysInv s) (hs : (s.conns k).session = some session)
    (hm : s.shared.member l c = some info) (hk : info.sender = k) :
    isCurrentSession s.shared.lobbies session.lobbyId session.clientId session.generation k =
      true := by
  have hown := (hinv.own l c info hm).1
  rw [hk, hs] at hown
  cases hown
  obtain ⟨lobby, hl, hc⟩ := Shared.member_eq_some.1 hm
  exact isCurrentSession_iff.2 ⟨lobby, info, hl, hc, rfl, hk⟩

/-! ## The origin of an entry -/

/-- The step in which the handler of the entry's sender committed the registration `a`, with this
entry and this session. -/
structure Commits (l c : String) (info : ClientInfo) (a : Admission H cfg) (env : Env)
    (t : Transition (Sys H cfg) Action) : Prop where
  act : t.act = .exec info.sender env
  task : (t.pre.conns info.sender).task = .registration a
  session : (t.pre.conns info.sender).session = none
  context : a.context = (t.pre.conns info.sender).context info.sender
  registers : ∃ commit, Registers t.pre.shared a t.pre.now env.draws t.post.shared commit
  lobbyId : a.lobbyId = l
  cid : a.cid = c
  entry : info = a.clientInfo env.draws.generation
  committed : (t.post.conns info.sender).session = some ⟨c, l, info.sessionGeneration⟩

variable {l c : String} {info : ClientInfo}

/-- An entry after a step was committed by this step, or was there before. -/
theorem member_step {act : Action} (hinv : SysInv s) (h : SysStep s act s')
    (hm : s'.shared.member l c = some info) :
    (∃ a env, Commits l c info a env ⟨s, act, s'⟩) ∨ s.shared.member l c = some info := by
  cases step_cases h with
  | @moved k env _ hexec =>
    obtain hm | ⟨a, commit, ht, hreg, rfl, rfl, rfl, hsession⟩ := hexec.member hm
    · exact .inr hm
    · obtain ⟨hnone, hcontext, hsender⟩ := hinv.registering ht
      obtain rfl := hsender
      exact .inl ⟨a, env, {
        act := rfl
        task := ht
        session := hnone
        context := hcontext
        registers := ⟨commit, hreg⟩
        lobbyId := rfl
        cid := rfl
        entry := rfl
        committed := hsession }⟩
  | _ => exact .inr hm

/-- An entry was committed by the handler of its sender, and has been there since. -/
theorem entry_since {ts : List (Transition (Sys H cfg) Action)} (h : SysRun ts s)
    (hm : s.shared.member l c = some info) :
    Since (fun t => ∃ a env, Commits l c info a env t)
      (fun t => t.post.shared.member l c = some info) ts := by
  refine h.since (A := fun s => s.shared.member l c = some info) ?_ ?_ hm
  · rintro _ rfl h
    cases h
  · intro s act s' hr hstep hm
    rcases member_step (ReachableSys.inv hr) hstep hm with hc | hc
    · exact .inl hc
    · exact .inr ⟨hc, hm⟩

/-- A cleanup that finds no entry of its own changes nothing but its handler, which returns. -/
theorem cleanup_step (ht : (s.conns k).task = .cleanup) (h : SysStep s (.exec k env) s') :
    (∃ session info, (s.conns k).session = some session ∧
      s.shared.member session.lobbyId session.clientId = some info ∧ info.sender = k) ∨
    s' = s.setTask k .returned := by
  cases exec_cases h with
  | read hread => rw [ht] at hread; cases hread
  | stayed => exact .inr rfl
  | left _ hs hl hc hk =>
    exact .inl ⟨_, _, hs, Shared.member_eq_some.2 ⟨_, hl, hc⟩, hk⟩
  | rejected ht' | committed ht' | hostRefused ht' | hostActed ht' | sent ht' | signalled ht' =>
    cases ht.symm.trans ht'

/-- **Session ownership.** In every state of every run, an entry of a lobby was committed by the
handler of its sender, whose session it is and which is not through its cleanup; a handler that
returned has no entry; and a cleanup that finds no entry of its own only returns. -/
theorem session_ownership {ts : List (Transition (Sys H cfg) Action)} (h : SysRun ts s) :
    (∀ l c info, s.shared.member l c = some info →
      (s.conns info.sender).session = some ⟨c, l, info.sessionGeneration⟩ ∧
      ¬ (s.conns info.sender).task.Finished ∧
      Since (fun t => ∃ a env, Commits l c info a env t)
        (fun t => t.post.shared.member l c = some info) ts) ∧
    (∀ k, (s.conns k).task = .returned → ∀ l c info, s.shared.member l c = some info →
      info.sender ≠ k) ∧
    (∀ k env s', (s.conns k).task = .cleanup → SysStep s (.exec k env) s' →
      (∃ session info, (s.conns k).session = some session ∧
        s.shared.member session.lobbyId session.clientId = some info ∧ info.sender = k) ∨
      s' = s.setTask k .returned) := by
  have hinv := ReachableSys.inv h.reachable
  refine ⟨fun l c info hm => ?_, ?_, fun k env s' => cleanup_step⟩
  · obtain ⟨hsession, hf⟩ := hinv.own l c info hm
    exact ⟨hsession, hf, entry_since h hm⟩
  · rintro k ht l c info hm rfl
    exact (hinv.own l c info hm).2 (ht ▸ trivial)

end

/-- One step's environment, with a token and a generation to draw. -/
def recordedEnv (token : String) (generation : Nat) (ok : Bool) : Env :=
  ⟨ok, 0, recordedDraws token generation, 0, [], (true, "", none)⟩

/-- Alice and bob register, bob's second connection replaces his first, and the handler of the first
one returns. -/
def replacement : Option (Sys recordedCrypto .default) :=
  [Action.exec 1 (recordedEnv "d1" 1 true), .exec 2 (recordedEnv "d2" 2 true),
    .exec 3 (recordedEnv "d3" 3 true), .exec 2 (recordedEnv "" 0 true),
    .exec 2 (recordedEnv "" 0 true)].foldlM Sys.step handshake

/-- After the replacement the room has bob's second connection, and his first one returned. -/
theorem session_ownership_replacement : ∃ s info, replacement = some s ∧
    s.shared.member roomId bobId = some info ∧ info.sender = 3 ∧
    (s.conns 3).session = some ⟨bobId, roomId, 3⟩ ∧
    ∀ l c info, s.shared.member l c = some info → info.sender ≠ 2 := by
  have hrun : (replacement.bind fun s => s.shared.member roomId bobId).map
      (fun info => (info.sender, info.sessionGeneration)) = some (3, 3) := by decide +kernel
  obtain ⟨info, hinfo, hsender⟩ := Option.map_eq_some_iff.1 hrun
  obtain ⟨s, hs, hinfo⟩ := Option.bind_eq_some_iff.1 hinfo
  obtain ⟨hsender, hgeneration⟩ := Prod.mk.inj hsender
  have hreturned : (replacement.map fun s => match (s.conns 2).task with
      | .returned => true
      | _ => false) = some true := by decide +kernel
  rw [hs, Option.map_some] at hreturned
  have htask : (s.conns 2).task = .returned := by
    cases h : (s.conns 2).task <;> simp_all
  obtain ⟨ts, hts⟩ := Reachable.foldlM handshake_reachable hs
  obtain ⟨hown, hreturn, -⟩ := session_ownership hts
  refine ⟨s, info, hs, hinfo, hsender, ?_, hreturn 2 htask⟩
  have := (hown _ _ info hinfo).1
  rwa [hsender, hgeneration] at this

end MctierSignaling
