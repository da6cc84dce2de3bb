import MctierSignaling.Secrecy

/-!
# Whether members are told the chat token

Every change of a lobby's members draws a new token and leaves its handler with notices for all
members that remain. The handler may drop them: a rotation that a newer one superseded is not sent,
and a registration whose connection was flagged goes to its cleanup instead. `Covered` says of one
member that it was sent the current token, or is flagged, or that some handler still has work that
will do either: a commit or a cleanup with its own entry in the lobby, a rotation for the current
token, a frame that is ready, a signal. Every step keeps every member covered, with one exception:
the reply to a registration sets no flag when its send fails (`Sys.repliesArrive`), unlike the
notices of a rotation, and its member is then left without the token (`token_reply_lost`).
-/

namespace MctierSignaling

section
variable {H : Crypto} {cfg : ServerConfig}

/-- The token of a lobby, with its epoch. -/
def LobbyInfo.token (lobby : LobbyInfo) : Token := (lobby.chatToken, lobby.chatTokenEpoch)

/-- Some lobby with this token has a member on this connection. -/
def Shared.holds (sh : Shared) (m : ConnId) (tok : Token) : Bool :=
  sh.lobbies.entries.any fun e =>
    e.2.token == tok && e.2.clients.entries.any (·.2.sender == m)

/-- Whether the next frame that the handler sends, if it carries a token and its failure sets no
flag, is written, or goes to a connection that is flagged or no longer a member with this token. -/
def Sys.repliesArrive (s : Sys H cfg) : Action → Bool
  | .exec k env =>
    match (s.conns k).task with
    | .ops (.jobs js :: _) _ =>
      match js[env.pick % js.length]? with
      | some (.send d) => d.frame.chatToken.all fun tok =>
        d.flag.isSome || (s.send k d env.ok).2 || s.shared.disconnect d.to_ ||
          !s.shared.holds d.to_ tok
      | _ => true
    | _ => true
  | _ => true

/-- The operation is a notice that a registration, a kick or a cleanup left: a rotation, a frame
with a token, or a signal. -/
def Op.Notifies : Op → Prop
  | .jobs js => (∃ d, Job.send d ∈ js ∧ d.frame.chatToken ≠ none) ∨ ∃ k, Job.signal k ∈ js
  | .rotation .. => True
  | _ => False

/-- The handler has notices to send, or is between its commit and its notices, or before its
cleanup. -/
def Task.Notifies : Task H cfg → Prop
  | .committed _ | .confirmed _ | .cleanup => True
  | .ops pending _ => ∃ op ∈ pending, op.Notifies
  | _ => False

/-! ## Coverage -/

/-- The connection has the entry of the client in the lobby. -/
def Entered (sh : Shared) (l c : String) (k : ConnId) : Prop :=
  ∃ info, sh.member l c = some info ∧ info.sender = k

/-- The operation will tell the member the token, or flag it. -/
def Op.Covers (l c : String) (m : ConnId) (tok : Token) : Op → Prop
  | .jobs js => (∃ d, Job.send d ∈ js ∧ d.Tells m tok ∧ (d.flag = some m ∨ d.flag = none)) ∨
    Job.signal m ∈ js
  | .rotation targets lobbyId chatToken chatTokenEpoch =>
    lobbyId = l ∧ (chatToken, chatTokenEpoch) = tok ∧ (c, m) ∈ targets
  | _ => False

/-- The handler will tell the member the token, or flag it, or change the lobby's token: a commit
and a cleanup do so while they have their entry in the lobby. -/
def Task.Covers (sh : Shared) (k : ConnId) (session : Option RegisteredSession) (l c : String)
    (m : ConnId) (tok : Token) : Task H cfg → Prop
  | .committed commit | .confirmed commit => commit.session.lobbyId = l ∧ commit.token = tok ∧
    (m = k ∨ (c, m) ∈ commit.rotationTargets) ∧ Entered sh l commit.session.clientId k
  | .cleanup => ∃ own, session = some own ∧ own.lobbyId = l ∧ Entered sh l own.clientId k
  | .ops pending _ => ∃ op ∈ pending, op.Covers l c m tok
  | _ => False

/-- The connection was sent the token, or is flagged, or some handler covers it. -/
inductive Covered (s : Sys H cfg) (l c : String) (m : ConnId) (tok : Token) : Prop
  | sent {e : Sent} : e ∈ s.log → e.ok = true → e.delivery.Tells m tok → Covered s l c m tok
  | flagged : s.shared.disconnect m = true → Covered s l c m tok
  | pending {k : ConnId} :
      (s.conns k).task.Covers s.shared k (s.conns k).session l c m tok → Covered s l c m tok

/-- Every member of every lobby is covered for the lobby's token. -/
def AllCovered (s : Sys H cfg) : Prop :=
  ∀ l lobby c info, s.shared.lobbies.lookup l = some lobby → lobby.clients.lookup c = some info →
    Covered s l c info.sender lobby.token

variable {s s' : Sys H cfg} {k m : ConnId} {tok : Token} {env : Env} {l c : String}
  {lobby lobby' : LobbyInfo} {info : ClientInfo}

/-- Work that covers a member is a notice. -/
theorem Task.Covers.notifies {sh : Shared} {session : Option RegisteredSession} {task : Task H cfg}
    (h : task.Covers sh k session l c m tok) : task.Notifies := by
  cases task with
  | committed | confirmed | cleanup => trivial
  | ops pending next =>
    obtain ⟨op, hop, hcovers⟩ := h
    refine ⟨op, hop, ?_⟩
    cases op with
    | jobs js =>
      rcases hcovers with ⟨d, hd, htells, -⟩ | hsignal
      · exact .inl ⟨d, hd, by rw [htells.2]; nofun⟩
      · exact .inr ⟨m, hsignal⟩
    | rotation => trivial
    | _ => exact hcovers
  | _ => exact h

theorem mem_rotationTargets : (c, m) ∈ rotationTargets lobby ↔
    ∃ info, lobby.clients.lookup c = some info ∧ info.sender = m := by
  unfold rotationTargets
  rw [List.mem_map]
  constructor
  · rintro ⟨⟨c', info⟩, he, heq⟩
    obtain ⟨rfl, rfl⟩ := Prod.mk.inj heq
    exact ⟨info, HashMap.mem_entries.1 he, rfl⟩
  · rintro ⟨info, hc, rfl⟩
    exact ⟨⟨c, info⟩, HashMap.mem_entries.2 hc, rfl⟩

theorem Shared.holds_of_member {sh : Shared} (hl : sh.lobbies.lookup l = some lobby)
    (hc : lobby.clients.lookup c = some info) : sh.holds info.sender lobby.token = true := by
  refine List.any_eq_true.2 ⟨⟨l, lobby⟩, HashMap.mem_entries.2 hl, ?_⟩
  rw [Bool.and_eq_true]
  exact ⟨beq_self_eq_true _, List.any_eq_true.2 ⟨⟨c, info⟩, HashMap.mem_entries.2 hc,
    beq_self_eq_true _⟩⟩

/-! ## Steps that keep the lobby -/

/-- A step of one handler keeps a member of an unchanged lobby covered, if it keeps what that
handler covers. -/
theorem Covered.step (hu : ∀ k', k' ≠ k → Untouched (s.conns k') (s'.conns k'))
    (hlog : ∀ e ∈ s.log, e ∈ s'.log)
    (hflag : s.shared.disconnect m = true → s'.shared.disconnect m = true)
    (hmember : ∀ c, s'.shared.member l c = s.shared.member l c)
    (hactor : (s.conns k).task.Covers s.shared k (s.conns k).session l c m tok →
      Covered s' l c m tok)
    (h : Covered s l c m tok) : Covered s' l c m tok := by
  cases h with
  | sent he hok htells => exact .sent (hlog _ he) hok htells
  | flagged hf => exact .flagged (hflag hf)
  | @pending k' hcovers =>
    by_cases hk : k' = k
    · subst hk
      exact hactor hcovers
    · refine .pending (k := k') ?_
      rw [(hu k' hk).task, (hu k' hk).session]
      generalize (s.conns k').task = task at hcovers ⊢
      cases task with
      | committed | confirmed =>
        obtain ⟨hl, htok, hm, hentered⟩ := hcovers
        exact ⟨hl, htok, hm, by rwa [Entered, hmember]⟩
      | cleanup =>
        obtain ⟨own, hs, hl, hentered⟩ := hcovers
        exact ⟨own, hs, hl, by rwa [Entered, hmember]⟩
      | _ => exact hcovers

/-- The notices after a commit cover what the commit covered. -/
theorem Commit.notifications_covers {commit : Commit H cfg} (hl : commit.session.lobbyId = l)
    (htok : commit.token = tok) (hm : m = k ∨ (c, m) ∈ commit.rotationTargets) :
    ∃ op ∈ commit.notifications k, op.Covers l c m tok := by
  unfold Commit.notifications
  rcases hm with rfl | hm
  · refine ⟨.reply m commit.success, by simp, .inl ⟨reply m commit.success, ?_, ⟨rfl, ?_⟩,
      .inr rfl⟩⟩
    · exact List.mem_singleton.2 rfl
    · exact congrArg some htok
  · have hne : commit.rotationTargets.isEmpty = false :=
      Bool.eq_false_iff.2 fun hempty => by rw [List.isEmpty_iff.1 hempty] at hm; cases hm
    rw [hne]
    exact ⟨.rotation commit.rotationTargets commit.session.lobbyId commit.chatToken
      commit.chatTokenEpoch, by simp, hl, htok, hm⟩

/-- A read keeps what its handler covers. -/
theorem Read.covers {task : Task H cfg} (hinv : SysInv s) (hlobby : LobbyInv s.shared)
    (hl : s.shared.lobbies.lookup l = some lobby) (hc : lobby.clients.lookup c = some info)
    (h : Read s k env (s.conns k).task task)
    (hcovers : (s.conns k).task.Covers s.shared k (s.conns k).session l c info.sender
      lobby.token) :
    task.Covers s.shared k (s.conns k).session l c info.sender lobby.token := by
  have hok := hinv.task k
  generalize (s.conns k).task = before at h hcovers hok
  cases h with
  | stale | current | unmapped | found | named | elsewhere | mapped => exact hcovers.elim
  | flagged hd =>
    obtain ⟨hlid, -, -, hentered⟩ := hcovers
    exact ⟨_, hok, hlid, hentered⟩
  | unflagged => exact hcovers
  | superseded hnot =>
    -- the entry of the commit is the handler's own, so its session is current
    obtain ⟨rfl, -, -, info', hm', hsender⟩ := hcovers
    exact absurd (hinv.current hok hm' hsender) hnot
  | confirmed =>
    obtain ⟨hlid, htok, hm, -⟩ := hcovers
    exact Commit.notifications_covers hlid htok hm
  | finished =>
    obtain ⟨op, hop, -⟩ := hcovers
    cases hop
  | ran =>
    obtain ⟨op, hop, hcovers⟩ := hcovers
    rcases List.mem_cons.1 hop with rfl | hop
    · rcases hcovers with ⟨d, hd, -⟩ | hsignal
      · cases hd
      · cases hsignal
    · exact ⟨op, hop, hcovers⟩
  | @started op pending next hsnap =>
    obtain ⟨op', hop, hcovers⟩ := hcovers
    rcases List.mem_cons.1 hop with rfl | hop
    · cases op' with
      | rotation targets lobbyId chatToken chatTokenEpoch =>
        obtain ⟨rfl, htok, htarget⟩ := hcovers
        obtain ⟨rfl, rfl⟩ := Prod.mk.inj htok
        refine ⟨_, List.mem_cons_self, .inl ⟨_, List.mem_map.2 ⟨_,
          sendChatTokenRotation_mem hl hc htarget, rfl⟩, ⟨rfl, rfl⟩, .inl ?_⟩⟩
        exact congrArg some ((hlobby.lobby _ _ hl).members.handle c info hc)
      | jobs => exact hsnap.elim
      | _ => exact hcovers.elim
    · exact ⟨op', List.mem_cons_of_mem _ hop, hcovers⟩

/-- One of the jobs of a handler ran: what its handler covers is told or flagged by it, or is still
covered. -/
theorem covers_of_perm {js rest : List Job} {j : Job} {pending : List Op} {next : Next}
    (signals : List Job) (hperm : js.Perm (j :: rest)) {sh : Shared}
    {session : Option RegisteredSession}
    (hcovers : (Task.ops (.jobs js :: pending) next : Task H cfg).Covers sh k session l c m tok) :
    (∃ d, j = .send d ∧ d.Tells m tok ∧ (d.flag = some m ∨ d.flag = none)) ∨ j = .signal m ∨
      (Task.ops (.jobs (rest ++ signals) :: pending) next : Task H cfg).Covers sh k session l c m
        tok := by
  obtain ⟨op, hop, hcovers⟩ := hcovers
  rcases List.mem_cons.1 hop with rfl | hop
  · rcases hcovers with ⟨d, hd, htells⟩ | hsignal
    · rcases List.mem_cons.1 (hperm.mem_iff.1 hd) with rfl | hd
      · exact .inl ⟨d, rfl, htells⟩
      · exact .inr (.inr ⟨_, List.mem_cons_self, .inl ⟨d, List.mem_append_left _ hd, htells⟩⟩)
    · rcases List.mem_cons.1 (hperm.mem_iff.1 hsignal) with rfl | hsignal
      · exact .inr (.inl rfl)
      · exact .inr (.inr ⟨_, List.mem_cons_self, .inr (List.mem_append_left _ hsignal)⟩)
  · exact .inr (.inr ⟨op, List.mem_cons_of_mem _ hop, hcovers⟩)

/-! ## Steps that change the lobby -/

/-- The commit of a registration covers every member of the lobby it entered. -/
theorem Registers.covers {a : Admission H cfg} {sh' : Shared} {now : Nat} {d : Draws}
    {commit : Commit H cfg} (h : Registers s.shared a now d sh' commit)
    (hsender : a.context.sender = k) (hl : sh'.lobbies.lookup a.lobbyId = some lobby)
    (hc : lobby.clients.lookup c = some info) :
    (Task.committed commit : Task H cfg).Covers sh' k (some commit.session) a.lobbyId c info.sender
      lobby.token := by
  have hlookup := h.lookup a.lobbyId
  rw [if_pos rfl] at hlookup
  cases hl.symm.trans hlookup
  rw [h.commit_eq]
  refine ⟨rfl, rfl, ?_, a.clientInfo d.generation, ?_, hsender⟩
  · have hentry := hc
    rw [Admission.enter_clients, HashMap.lookup_insert_ite] at hc
    split at hc
    · cases hc
      exact .inl hsender
    · next hne =>
      have hmembers : (a.entered s.shared d).clients.entries.isEmpty = false := by
        refine Bool.eq_false_iff.2 fun hempty => ?_
        cases hc.symm.trans (HashMap.isEmpty_entries_iff.1 hempty c)
      refine .inr ?_
      dsimp only [Admission.commitOf]
      rw [hmembers]
      refine List.mem_filter.2 ⟨?_, bne_iff_ne.2 hne⟩
      exact mem_rotationTargets.2 ⟨info, hentry, rfl⟩
  · rw [h.member, if_pos ⟨rfl, rfl⟩]

/-- A step of one handler keeps every member covered, if it changes no lobby, and keeps what that
handler covers. -/
theorem AllCovered.of_kept (hall : AllCovered s)
    (hu : ∀ k', k' ≠ k → Untouched (s.conns k') (s'.conns k')) (hlog : ∀ e ∈ s.log, e ∈ s'.log)
    (hflag : ∀ m, s.shared.disconnect m = true → s'.shared.disconnect m = true)
    (hlobbies : s'.shared.lobbies = s.shared.lobbies)
    (hactor : ∀ l lobby c info, s.shared.lobbies.lookup l = some lobby →
      lobby.clients.lookup c = some info → (s.conns k).task.Covers s.shared k (s.conns k).session l
        c info.sender lobby.token → Covered s' l c info.sender lobby.token) : AllCovered s' := by
  intro l lobby c info hl hc
  rw [hlobbies] at hl
  have hmember : ∀ c, s'.shared.member l c = s.shared.member l c := fun c => by
    rw [Shared.member, Shared.member, hlobbies]
  exact (hall l lobby c info hl hc).step hu hlog (hflag _) hmember (hactor l lobby c info hl hc)

/-- A step of one handler keeps every member covered, if it changes one lobby and covers the members
of that, and covered no member of another lobby before. -/
theorem AllCovered.of_lobby (l₀ : String) (hall : AllCovered s)
    (hu : ∀ k', k' ≠ k → Untouched (s.conns k') (s'.conns k')) (hlog : ∀ e ∈ s.log, e ∈ s'.log)
    (hflag : ∀ m, s.shared.disconnect m = true → s'.shared.disconnect m = true)
    (hother : ∀ l, l ≠ l₀ → s'.shared.lobbies.lookup l = s.shared.lobbies.lookup l)
    (hactor : ∀ l c m tok, l ≠ l₀ →
      ¬ (s.conns k).task.Covers s.shared k (s.conns k).session l c m tok)
    (hnew : ∀ lobby c info, s'.shared.lobbies.lookup l₀ = some lobby →
      lobby.clients.lookup c = some info → Covered s' l₀ c info.sender lobby.token) :
    AllCovered s' := by
  intro l lobby c info hl hc
  by_cases hlid : l = l₀
  · subst hlid
    exact hnew lobby c info hl hc
  · rw [hother l hlid] at hl
    have hmember : ∀ c, s'.shared.member l c = s.shared.member l c := fun c => by
      rw [Shared.member, Shared.member, hother l hlid]
    exact (hall l lobby c info hl hc).step hu hlog (hflag _) hmember
      fun hcovers => absurd hcovers (hactor l c _ _ hlid)

/-- A commit keeps every member covered. -/
theorem AllCovered.committed {a : Admission H cfg} {sh : Shared} {commit : Commit H cfg}
    (hinv : SysInv s) (hall : AllCovered s) (ht : (s.conns k).task = .registration a)
    (hreg : Registers s.shared a s.now env.draws sh commit) :
    AllCovered { (s.setShared sh).setConn k
      { s.conns k with session := some commit.session, task := .committed commit } with
      issued := env.draws.token :: s.issued } := by
  have hsender := (hinv.registering ht).2.2
  refine hall.of_lobby a.lobbyId (fun _ hk => Sys.setConn_untouched hk) (fun _ he => he)
    (fun m hf => ?_) (fun l hl => (hreg.lookup l).trans (if_neg hl))
    (fun l c m tok _ => by rw [ht]; exact id) fun lobby c info hl hc => ?_
  · show sh.disconnect m = true
    rw [hreg.signalled]
    split
    · rw [Function.update_apply, hf, ite_self]
    · exact hf
  · refine .pending (k := k) ?_
    dsimp only
    rw [Sys.setConn_self]
    exact hreg.covers hsender hl hc

/-- A host action keeps every member covered: a kick leaves a rotation for the others. -/
theorem AllCovered.hostActed {action : HostAction} {session : RegisteredSession}
    {notice : HostNotice} (hall : AllCovered s) (ht : (s.conns k).task = .hostAction action)
    (hauth : Authorized s.shared (session.moderation k) lobby)
    (he : HostEffect env.draws.token lobby action lobby' notice) :
    AllCovered { (s.setShared (action.store s.shared session.lobbyId lobby')).setTask k
      (.ops (notice.notifications session.lobbyId) .idle) with
      issued := notice.drawn ++ s.issued } := by
  have hu : ∀ k', k' ≠ k → Untouched (s.conns k') (((s.setShared (action.store s.shared
      session.lobbyId lobby')).setTask k (.ops (notice.notifications session.lobbyId)
        .idle)).conns k') := fun _ hk => Sys.setConn_untouched hk
  have hflag : ∀ m, s.shared.disconnect m = true →
      (action.store s.shared session.lobbyId lobby').disconnect m = true := by
    intro m hf
    cases action <;> exact hf
  have hlookup : ∀ l, (action.store s.shared session.lobbyId lobby').lobbies.lookup l =
      if l = session.lobbyId then some lobby' else s.shared.lobbies.lookup l := fun l => by
    rw [HostAction.store_lobbies, HashMap.lookup_insert_ite]
  have hactor : ∀ l c m tok, ¬ (s.conns k).task.Covers s.shared k (s.conns k).session l c m tok :=
    fun l c m tok => by rw [ht]; exact id
  refine hall.of_lobby session.lobbyId hu (fun _ he => he) hflag
    (fun l hl => (hlookup l).trans (if_neg hl))
    (fun l c m tok _ => hactor l c m tok) fun lobby₁ c info hl hc => ?_
  cases ((hlookup _).trans (if_pos rfl)).symm.trans hl
  have hmember : ∀ c, (action.store s.shared session.lobbyId lobby').member session.lobbyId c =
      _ := fun c => he.member hauth.found
  cases he with
  | kicked =>
    refine .pending (k := k) ?_
    dsimp only
    rw [Sys.setTask_self]
    exact ⟨_, List.mem_of_mem_getLast? rfl, rfl, rfl, mem_rotationTargets.2 ⟨info, hc, rfl⟩⟩
  | muted | unmuted | transferred | options =>
    refine (hall _ lobby c info hauth.found hc).step hu (fun _ he => he) (hflag _)
      (fun c => (hmember c).trans (if_neg fun heq => ?_)) fun hcovers => ?_
    · cases heq.2
    · exact absurd hcovers (hactor _ _ _ _)

/-- A cleanup keeps every member covered: it leaves a rotation for the others. -/
theorem AllCovered.left {session : RegisteredSession} {sh : Shared} {departure : Departure}
    (hall : AllCovered s) (ht : (s.conns k).task = .cleanup)
    (hs : (s.conns k).session = some session)
    (hdep : Departs s.shared session env.draws.token lobby sh departure) :
    AllCovered { (s.setShared sh).setTask k (.ops departure.notifications .returned) with
      issued := departure.drawn ++ s.issued } := by
  refine hall.of_lobby session.lobbyId (fun _ hk => Sys.setConn_untouched hk)
    (fun _ he => he) (fun m hf => ?_) (fun l hl => hdep.lookup_ne hl)
    (fun l c m tok hlid hcovers => ?_) fun lobby' c info hl hc => ?_
  · show sh.disconnect m = true
    rw [hdep.disconnect]
    exact hf
  · rw [ht] at hcovers
    obtain ⟨own, hs', hlid', -⟩ := hcovers
    cases hs.symm.trans hs'
    exact hlid hlid'.symm
  · obtain ⟨hlid, -⟩ | ⟨-, _, _, -, rfl, rfl⟩ := hdep.lookup hl
    · exact absurd rfl hlid
    · refine .pending (k := k) ?_
      dsimp only
      rw [Sys.setTask_self]
      exact ⟨.rotation _ session.lobbyId _ _, by simp [Departure.notifications], rfl, rfl,
        mem_rotationTargets.2 ⟨info, hc, rfl⟩⟩

/-- A send keeps every member covered, unless it is a reply with the current token that fails. -/
theorem AllCovered.sent {js rest : List Job} {pending : List Op} {next : Next} {d : Delivery}
    (hall : AllCovered s) (harrives : s.repliesArrive (.exec k env) = true)
    (ht : (s.conns k).task = .ops (.jobs js :: pending) next)
    (hperm : js.Perm (.send d :: rest)) (hget : js[env.pick % js.length]? = some (.send d))
    (hu : ∀ k', k' ≠ k → Untouched (s.conns k') (((s.send k d env.ok).1.setTask k
      (.ops (.jobs (rest ++ if (s.send k d env.ok).2 then [] else d.flag.toList.map Job.signal) ::
        pending) next)).conns k')) :
    AllCovered ((s.send k d env.ok).1.setTask k (.ops (.jobs (rest ++
      if (s.send k d env.ok).2 then [] else d.flag.toList.map Job.signal) :: pending) next) ) := by
  refine hall.of_kept hu (fun _ he => List.mem_cons_of_mem _ he) (fun _ hf => hf) rfl
    fun l lobby c info hl hc hcovers => ?_
  rw [ht] at hcovers
  obtain ⟨d', heq, htells, hflag⟩ | heq | hcovers := covers_of_perm
    (if (s.send k d env.ok).2 then [] else d.flag.toList.map Job.signal) hperm hcovers
  · cases heq
    by_cases hsent : (s.send k d env.ok).2 = true
    · exact .sent List.mem_cons_self hsent htells
    rcases hflag with hflag | hflag
    · -- a failed notice leaves the signal
      refine .pending (k := k) ?_
      rw [Sys.setTask_self]
      refine ⟨_, List.mem_cons_self, .inr (List.mem_append_right _ ?_)⟩
      rw [if_neg hsent, hflag]
      exact List.mem_singleton.2 rfl
    · -- a failed reply does not: the member has to be flagged already
      have hholds : s.shared.holds info.sender lobby.token = true := Shared.holds_of_member hl hc
      simp only [Sys.repliesArrive, ht, hget, htells.2, Option.all_some, hflag, Option.isSome_none,
        Bool.eq_false_iff.2 hsent, Bool.false_or, htells.1, hholds, Bool.not_true,
        Bool.or_false] at harrives
      exact .flagged harrives
  · cases heq
  · refine .pending (k := k) ?_
    rw [Sys.setTask_self]
    exact hcovers

/-- A signal keeps every member covered. -/
theorem AllCovered.signalled {js rest : List Job} {pending : List Op} {next : Next} {k' : ConnId}
    (hall : AllCovered s) (ht : (s.conns k).task = .ops (.jobs js :: pending) next)
    (hperm : js.Perm (.signal k' :: rest)) :
    AllCovered
      ((s.setShared (s.shared.signal k')).setTask k (.ops (.jobs rest :: pending) next)) := by
  have hflag : ∀ m, (m = k' ∨ s.shared.disconnect m = true) →
      (s.shared.signal k').disconnect m = true := by
    intro m hm
    show Function.update s.shared.disconnect k' true m = true
    rw [Function.update_apply]
    split
    · rfl
    · exact hm.resolve_left ‹_›
  refine hall.of_kept (fun _ hk => Sys.setConn_untouched hk) (fun _ he => he)
    (fun m hf => hflag m (.inr hf)) rfl fun l lobby c info hl hc hcovers => ?_
  rw [ht] at hcovers
  obtain ⟨_, heq, -⟩ | heq | hcovers := covers_of_perm [] hperm hcovers
  · cases heq
  · cases heq
    exact .flagged (hflag _ (.inl rfl))
  · refine .pending (k := k) ?_
    rw [Sys.setTask_self, ← List.append_nil rest]
    exact hcovers

/-- A handler's step keeps every member covered, if the reply that it may send arrives. -/
theorem AllCovered.exec (hinv : SysInv s) (hlobby : LobbyInv s.shared)
    (harrives : s.repliesArrive (.exec k env) = true) (hall : AllCovered s)
    (h : Exec s k env s') : AllCovered s' := by
  have hu := fun k' (hk : k' ≠ k) => h.untouched hk
  cases h with
  | read hread =>
    refine hall.of_kept hu (fun _ he => he) (fun _ => id) rfl fun l lobby c info hl hc hcovers => ?_
    refine .pending (k := k) ?_
    rw [Sys.setTask_self]
    exact hread.covers hinv hlobby hl hc hcovers
  | rejected ht | hostRefused ht =>
    refine hall.of_kept hu (fun _ he => he) (fun _ => id) rfl fun l lobby c info hl hc hcovers => ?_
    rw [ht] at hcovers
    exact hcovers.elim
  | committed ht hreg => exact hall.committed hinv ht hreg
  | hostActed ht hs hauth he => exact hall.hostActed ht hauth he
  | stayed ht hother =>
    refine hall.of_kept hu (fun _ he => he) (fun _ => id) rfl fun l lobby c info hl hc hcovers => ?_
    rw [ht] at hcovers
    obtain ⟨own, hs, rfl, info', hm', hsender⟩ := hcovers
    exact absurd hsender (hother own hs info' hm')
  | left ht hs _ _ _ hdep => exact hall.left ht hs hdep
  | sent ht hperm hget => exact hall.sent harrives ht hperm hget hu
  | signalled ht hperm => exact hall.signalled ht hperm

/-- Every step keeps every member covered, if the reply that it may send arrives. -/
theorem AllCovered.step {act : Action} (hinv : SysInv s) (hlobby : LobbyInv s.shared)
    (harrives : s.repliesArrive act = true) (hall : AllCovered s) (h : SysStep s act s') :
    AllCovered s' := by
  have hmove := step_cases h
  have hu : ∀ {k}, act.actor = some k → ∀ k', k' ≠ k → Untouched (s.conns k') (s'.conns k') :=
    fun hk k' hne => hmove.untouched fun heq => hne (Option.some.inj (heq.symm.trans hk))
  cases hmove with
  | connected ht =>
    refine hall.of_kept (hu rfl) (fun _ he => List.mem_cons_of_mem _ he) (fun _ => id) rfl
      fun l lobby c info hl hc hcovers => ?_
    rw [ht] at hcovers
    exact hcovers.elim
  | ticked =>
    exact hall.of_kept (k := 0) (fun _ _ => .rfl) (fun _ he => he) (fun _ => id) rfl
      fun l lobby c info hl hc hcovers => .pending hcovers
  | refused ht | received ht | handled ht | hungUp ht =>
    refine hall.of_kept (hu rfl) (fun _ he => he) (fun _ => id) rfl
      fun l lobby c info hl hc hcovers => ?_
    rw [ht] at hcovers
    exact hcovers.elim
  | moved hexec => exact hall.exec hinv hlobby harrives hexec

/-! ## Quiet states -/

/-- In a run whose replies arrive, every member is covered. -/
theorem all_covered {ts : List (Transition (Sys H cfg) Action)} (h : SysRun ts s)
    (harrives : ∀ t ∈ ts, t.pre.repliesArrive t.act = true) : AllCovered s := by
  induction h with
  | start h => subst h; exact fun _ _ _ _ hl => nomatch hl
  | snoc hr hs ih =>
    exact (ih fun t ht => harrives t (List.mem_cons_of_mem _ ht)).step
      (ReachableSys.inv hr.reachable) (ReachableSys.lobbyInv hr.reachable)
      (harrives _ List.mem_cons_self) hs

/-- **Delivery of the current chat token.** In a run in which no reply to a registration with the
current token of an unflagged member fails, whenever no registration, kick or cleanup has notices
left, every member of every lobby was successfully sent the lobby's current token and epoch, or is
flagged. -/
theorem current_token_delivered {ts : List (Transition (Sys H cfg) Action)} (h : SysRun ts s)
    (harrives : ∀ t ∈ ts, t.pre.repliesArrive t.act = true)
    (hquiet : ∀ k, ¬ (s.conns k).task.Notifies)
    (hl : s.shared.lobbies.lookup l = some lobby) (hc : lobby.clients.lookup c = some info) :
    (∃ e ∈ s.log, e.ok = true ∧ e.delivery.to_ = info.sender ∧
      e.delivery.frame.chatToken = some (lobby.chatToken, lobby.chatTokenEpoch)) ∨
    s.shared.disconnect info.disconnect = true := by
  cases all_covered h harrives l lobby c info hl hc with
  | sent he hok htells => exact .inl ⟨_, he, hok, htells⟩
  | flagged hf =>
    have hhandle := ((ReachableSys.lobbyInv h.reachable).lobby l lobby hl).members.handle c info hc
    exact .inr (hhandle ▸ hf)
  | pending hcovers => exact absurd hcovers.notifies (hquiet _)

end

/-- Alice registers, and her handler does all that her registration asks for; the reply is written
or not. -/
def aliceSteps (written : Bool) : List Action :=
  [Action.exec 1 (recordedEnv "d1" 1 true), .exec 1 (recordedEnv "" 0 true),
    .exec 1 (recordedEnv "" 0 true), .exec 1 (recordedEnv "" 0 written)] ++
    List.replicate 7 (Action.exec 1 (recordedEnv "" 0 true))

/-- After these steps, if alice's handler waits for its next message, nobody has notices left. -/
theorem aliceSteps_quiet {f : Sys recordedCrypto .default → Action → Option (Sys recordedCrypto _)}
    (hf : ∀ s act s', f s act = some s' → SysStep s act s') {written : Bool}
    {s : Sys recordedCrypto .default} (h : (aliceSteps written).foldlM f handshake = some s)
    (hidle : (s.conns 1).task = .idle) (k : ConnId) : ¬ (s.conns k).task.Notifies := by
  by_cases h1 : k = 1
  · subst h1
    rw [hidle]
    exact id
  have hacts : ∀ act ∈ aliceSteps written, act.actor ≠ some k := by
    simp only [aliceSteps, List.mem_append, List.mem_cons, List.mem_replicate, List.not_mem_nil,
      or_false]
    rintro _ ((rfl | rfl | rfl | rfl) | ⟨-, rfl⟩) heq <;> exact h1 (Option.some.inj heq).symm
  rw [(Untouched.foldlM hf hacts h).task]
  rcases handshake_task k with htask | ⟨a, htask⟩ <;> rw [htask] <;> exact id

/-- The state after alice's registration, if her reply arrived. -/
def toldAlice : Option (Sys recordedCrypto .default) :=
  (aliceSteps true).foldlM (fun s act => if s.repliesArrive act then s.step act else none) handshake

/-- Alice was sent the room's token, or is flagged. -/
theorem current_token_delivered_alice : ∃ s lobby info, toldAlice = some s ∧
    s.shared.lobbies.lookup roomId = some lobby ∧ lobby.clients.lookup aliceId = some info ∧
    ((∃ e ∈ s.log, e.ok = true ∧ e.delivery.to_ = info.sender ∧
      e.delivery.frame.chatToken = some (lobby.chatToken, lobby.chatTokenEpoch)) ∨
    s.shared.disconnect info.disconnect = true) := by
  have hrun : (toldAlice.bind fun s => (s.shared.member roomId aliceId).map fun _ =>
      (s.conns 1).task.isIdle) = some true := by decide +kernel
  obtain ⟨s, hs, hrun⟩ := Option.bind_eq_some_iff.1 hrun
  obtain ⟨info, hm, hrun⟩ := Option.map_eq_some_iff.1 hrun
  obtain ⟨lobby, hl, hc⟩ := Shared.member_eq_some.1 hm
  have hidle : (s.conns 1).task = .idle := Task.isIdle_iff.1 hrun
  obtain ⟨ts, hts, hout⟩ := handshake_outside
  obtain ⟨ts', hts', harrives⟩ := hts.foldlM (p := Sys.repliesArrive) (fun t ht => by
    cases hact : t.act with
    | exec k env => exact absurd hact (hout t ht k env)
    | _ => rfl) hs
  have hf : ∀ (s : Sys recordedCrypto .default) act s',
      (if s.repliesArrive act then s.step act else none) = some s' → SysStep s act s' := by
    intro s act s' h
    split at h
    · exact h
    · cases h
  exact ⟨s, lobby, info, hs, hl, hc,
    current_token_delivered hts' harrives (aliceSteps_quiet hf hs hidle) hl hc⟩

/-- **A member without the token.** The reply to alice's registration fails: she stays a member that
was never sent the token of her lobby, and is not flagged, with no notices left. -/
theorem token_reply_lost : ∃ s : Sys recordedCrypto .default, ReachableSys s ∧
    (∀ k, ¬ (s.conns k).task.Notifies) ∧
    ∃ lobby info, s.shared.lobbies.lookup roomId = some lobby ∧
      lobby.clients.lookup aliceId = some info ∧ info.sender = 1 ∧
      (∀ e ∈ s.log, ¬ (e.ok = true ∧ e.delivery.frame.chatToken ≠ none)) ∧
      s.shared.disconnect info.disconnect = false := by
  have hrun : (((aliceSteps false).foldlM Sys.step handshake).bind fun s =>
      (s.shared.member roomId aliceId).map fun info =>
      (s.conns 1).task.isIdle && info.sender == 1 &&
      s.log.all (fun e => !(e.ok && e.delivery.frame.chatToken.isSome)) &&
      !s.shared.disconnect info.disconnect) = some true := by decide +kernel
  obtain ⟨s, hs, hrun⟩ := Option.bind_eq_some_iff.1 hrun
  obtain ⟨info, hm, hrun⟩ := Option.map_eq_some_iff.1 hrun
  obtain ⟨lobby, hl, hc⟩ := Shared.member_eq_some.1 hm
  simp only [Bool.and_eq_true, Task.isIdle_iff, beq_iff_eq, List.all_eq_true,
    Bool.not_eq_true'] at hrun
  obtain ⟨⟨⟨hidle, hsender⟩, hlog⟩, hflag⟩ := hrun
  refine ⟨s, handshake_reachable.foldlM hs, aliceSteps_quiet (fun _ _ _ h => h) hs hidle, lobby,
    info, hl, hc, hsender, ?_, hflag⟩
  rintro e he ⟨hok, htoken⟩
  have hnone := hlog e he
  rw [hok, Option.isSome_iff_ne_none.2 htoken] at hnone
  cases hnone

end MctierSignaling
