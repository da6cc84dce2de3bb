import MctierSignaling.Signals
import MctierSignaling.TokenOrder
import MctierSignaling.Budgets

/-!
# What a member's frames do to another member's connection

A connection's messages are limited to 120 in ten seconds, so that a member cannot overload its
peers, and the frames to a connection are limited to 64, and to a mebibyte, in one second. A frame
over the second limit is dropped, and its recipient is flagged as if its socket had failed. A member
within the first limit can exceed the second one, and so end a peer's connection
(`peer_flagged`). What one member's messages send to another one flags it exactly if they exceed the
budget of some window of one second (`peer_kept_iff`).
-/

namespace MctierSignaling

open FixedWindow

section
variable {H : Crypto} {cfg : ServerConfig}

/-- The frame that an action sends to a connection. -/
def Sys.sending (s : Sys H cfg) (m : ConnId) : Action → Option Event
  | .exec k env =>
    match (s.conns k).task with
    | .ops (.jobs js :: _) _ =>
      match js[env.pick % js.length]? with
      | some (.send d) => if d.to_ = m then some ⟨s.now, d.frame.bytes⟩ else none
      | _ => none
    | _ => none
  | .connect k challenge _ _ =>
    if k = m then some ⟨s.now, (reply k
      (.serverChallenge challenge true SIGNALING_PROTOCOL_VERSION)).frame.bytes⟩ else none
  | _ => none

/-- The connection whose disconnect flag an action sets as a signal. -/
def Sys.signalling (s : Sys H cfg) : Action → Option ConnId
  | .exec k env =>
    match (s.conns k).task with
    | .ops (.jobs js :: _) _ =>
      match js[env.pick % js.length]? with
      | some (.signal m) => some m
      | _ => none
    | _ => none
  | _ => none

/-- Whether the write of an action succeeds. -/
def Action.written : Action → Bool
  | .exec _ env => env.ok
  | .connect _ _ _ ok => ok
  | _ => true

/-- The frames that a run sent to a connection, oldest first. -/
def sendsTo (m : ConnId) (ts : List (Transition (Sys H cfg) Action)) : List Event :=
  ts.reverse.filterMap fun t => t.pre.sending m t.act

variable {s s' : Sys H cfg} {k m : ConnId} {env : Env}

theorem sendsTo_cons {t : Transition (Sys H cfg) Action}
    {ts : List (Transition (Sys H cfg) Action)} :
    sendsTo m (t :: ts) = sendsTo m ts ++ (t.pre.sending m t.act).toList := by
  unfold sendsTo
  rw [List.reverse_cons, List.filterMap_append]
  cases h : t.pre.sending m t.act <;> simp [h]

/-- A send charges the budget of its recipient, and no other. -/
theorem Sys.send_budget {d : Delivery} {written : Bool} :
    ((s.send k d written).1.conns m).budget = if d.to_ = m
      then ((s.conns m).budget.allow s.now d.frame.bytes).1 else (s.conns m).budget := by
  unfold Sys.send Sys.setConn
  dsimp only
  by_cases hm : d.to_ = m
  · rw [if_pos hm, hm, Function.update_self]
  · rw [if_neg hm, Function.update_of_ne (Ne.symm hm)]

/-! ## The handler of the member that speaks -/

/-- The frames of the operation flag their recipients when they fail, but for replies to the
connection itself. -/
def Op.Fair (k : ConnId) : Op → Prop
  | .jobs js => ∀ d, Job.send d ∈ js → d.flag = some d.to_ ∨ d.flag = none ∧ d.to_ = k
  | _ => True

/-- The handler deals with a message that is no host action. -/
def Task.Fair (k : ConnId) : Task H cfg → Prop
  | .idle | .lookup .. | .offerName .. | .cleanup | .returned => True
  | .current inbound => ∀ message, inbound = .text (.ok message) → message.hostAction = none
  | .ops pending _ => ∀ op ∈ pending, op.Fair k
  | _ => False

theorem Op.reply_fair (k : ConnId) (message : SignalingMessage) :
    (Op.reply k message).Fair k := by
  intro d hd
  cases List.mem_singleton.1 hd
  exact .inr ⟨rfl, rfl⟩

/-- A snapshot makes fair frames. -/
theorem Op.start_fair (k : ConnId) (env : Env) {op : Op} (hinv : LobbyInv s.shared)
    (hsnap : op.Snapshot) : (Op.jobs (op.start s.shared k env)).Fair k := by
  have hhandle : ∀ {l lobby c info}, s.shared.lobbies.lookup l = some lobby →
      lobby.clients.lookup c = some info → info.disconnect = info.sender := fun hl hc =>
    (hinv.lobby _ _ hl).members.handle _ _ hc
  have hsends : ∀ ds : List Delivery, (∀ d ∈ ds, d.flag = some d.to_) →
      (Op.jobs (ds.map Job.send)).Fair k := by
    intro ds hds d hd
    obtain ⟨d', hd', heq⟩ := List.mem_map.1 hd
    cases heq
    exact .inl (hds d hd')
  cases op with
  | jobs => exact hsnap.elim
  | sendTo =>
    refine hsends _ fun d hd => ?_
    obtain ⟨_, _, hl, hc, rfl⟩ := mem_sendToLobbyClient hd
    exact congrArg some (hhandle hl hc)
  | broadcast =>
    refine hsends _ fun d hd => ?_
    obtain ⟨_, _, _, hl, -, hc, rfl⟩ := mem_broadcastToLobby hd
    exact congrArg some (hhandle hl hc)
  | rotation =>
    refine hsends _ fun d hd => ?_
    obtain ⟨_, _, _, hl, -, -, -, hc, rfl⟩ := mem_sendChatTokenRotation hd
    exact congrArg some (hhandle hl hc)
  | _ => exact Op.reply_fair _ _

/-- A message that is no host action is dealt with fairly. -/
theorem handleInbound_fair {conn : Conn H cfg} {inbound : Inbound}
    (hsession : conn.session.isSome = true)
    (hhost : ∀ message, inbound = .text (.ok message) → message.hostAction = none) :
    (handleInbound k conn inbound).Fair k := by
  have hcases : Handled k conn inbound (handleInbound k conn inbound) := handleInbound_cases
  generalize handleInbound k conn inbound = task at hcases ⊢
  have hsingle : ∀ (op : Op) (next : Next), op.Fair k →
      (Task.ops [op] next : Task H cfg).Fair k := by
    intro op next hfair op' hop'
    rw [List.mem_singleton.1 hop']
    exact hfair
  cases hcases with
  | ignored | ended | forwards => trivial
  | answered => exact hsingle _ _ (Op.reply_fair k _)
  | registeredAlready => exact fun op hop => absurd hop List.not_mem_nil
  | registers hnone =>
    rw [hnone] at hsession
    cases hsession
  | moderates _ haction =>
    rw [hhost _ rfl] at haction
    cases haction
  | reconnects => exact hsingle _ _ trivial
  | asks hasks =>
    rename_i op
    cases op with
    | jobs | sendTo | broadcast | rotation => exact hasks.elim
    | _ => exact hsingle _ _ trivial

/-- A read of a fair handler leads to a fair task. -/
theorem Read.fair {task task' : Task H cfg} (h : Read s k env task task')
    (hinv : LobbyInv s.shared) (hsession : (s.conns k).session.isSome = true)
    (hfair : task.Fair k) : task'.Fair k := by
  cases h with
  | stale =>
    intro op hop
    cases List.mem_singleton.1 hop
    intro d hd
    cases List.mem_singleton.1 hd
    exact .inr ⟨rfl, rfl⟩
  | current => exact handleInbound_fair hsession hfair
  | unmapped => trivial
  | @found from_ lobbyId forward =>
    cases forward with
    | offer => trivial
    | direct | broadcast =>
      intro op hop
      cases List.mem_singleton.1 hop
      trivial
  | named =>
    intro op hop
    cases List.mem_singleton.1 hop
    trivial
  | elsewhere | mapped | flagged | unflagged | superseded | confirmed => exact hfair.elim
  | @finished next => cases next <;> trivial
  | ran => exact fun op hop => hfair op (List.mem_cons_of_mem _ hop)
  | started hsnap =>
    intro op hop
    rcases List.mem_cons.1 hop with rfl | hop
    · exact Op.start_fair k env hinv hsnap
    · exact hfair op (List.mem_cons_of_mem _ hop)

/-- The notices of a departure are fair. -/
theorem Departure.notifications_fair {departure : Departure} {next : Next} :
    (Task.ops departure.notifications next : Task H cfg).Fair k := by
  intro op hop
  simp only [Departure.notifications, List.mem_append, List.mem_singleton] at hop
  rcases hop with (rfl | hop) | hop
  · trivial
  · split at hop
    · cases List.mem_singleton.1 hop
      trivial
    · cases hop
  · split at hop
    · simp only [List.mem_cons, List.not_mem_nil, or_false] at hop
      rcases hop with rfl | rfl <;> trivial
    · cases hop

/-! ## Steps -/

/-- The handler has a job to run. -/
def Task.HasJob : Task H cfg → Prop
  | .ops (.jobs (_ :: _) :: _) _ => True
  | _ => False

/-- A step of a handler runs a send or a signal, or it does something else. -/
inductive Work (s : Sys H cfg) (k : ConnId) (env : Env) : Sys H cfg → Prop
  | sent {js : List Job} {pending : List Op} {next : Next} {d : Delivery} {rest : List Job} :
      (s.conns k).task = .ops (.jobs js :: pending) next → js.Perm (.send d :: rest) →
      (∀ m, s.sending m (.exec k env) = if d.to_ = m then some ⟨s.now, d.frame.bytes⟩ else none) →
      s.signalling (.exec k env) = none →
      Work s k env ((s.send k d env.ok).1.setTask k (.ops (.jobs (rest ++
        if (s.send k d env.ok).2 then [] else d.flag.toList.map Job.signal) :: pending) next))
  | signalled {js : List Job} {pending : List Op} {next : Next} {k' : ConnId} {rest : List Job} :
      (s.conns k).task = .ops (.jobs js :: pending) next → js.Perm (.signal k' :: rest) →
      (∀ m, s.sending m (.exec k env) = none) → s.signalling (.exec k env) = some k' →
      Work s k env ((s.setShared (s.shared.signal k')).setTask k
        (.ops (.jobs rest :: pending) next))
  | other {s' : Sys H cfg} : Exec s k env s' → ¬ (s.conns k).task.HasJob →
      (∀ m, s.sending m (.exec k env) = none) → s.signalling (.exec k env) = none →
      Work s k env s'

theorem work_cases (h : SysStep s (.exec k env) s') : Work s k env s' := by
  by_cases hjob : (s.conns k).task.HasJob
  · unfold Task.HasJob at hjob
    split at hjob
    · next j js pending next ht =>
      have hlt : env.pick % (j :: js).length < (j :: js).length := Nat.mod_lt _ (Nat.succ_pos _)
      have hperm := List.getElem_cons_eraseIdx_perm hlt
      have hget := List.getElem?_eq_getElem hlt
      simp only [SysStep, Sys.step, Sys.exec, ht, Sys.runJob, hget] at h
      generalize (j :: js)[env.pick % (j :: js).length] = job at h hperm hget
      cases job with
      | send d =>
        cases h
        exact .sent ht hperm.symm (fun m => by simp only [Sys.sending, ht, hget])
          (by simp only [Sys.signalling, ht, hget])
      | signal k' =>
        cases h
        exact .signalled ht hperm.symm (fun m => by simp only [Sys.sending, ht, hget])
          (by simp only [Sys.signalling, ht, hget])
    · exact hjob.elim
  · have hidle : ∀ {js : List Job} {pending : List Op} {next : Next},
        (s.conns k).task = .ops (.jobs js :: pending) next → js = [] := by
      intro js pending next ht
      rw [ht] at hjob
      cases js with
      | nil => rfl
      | cons => exact absurd trivial hjob
    refine .other (exec_cases h) hjob (fun m => ?_) ?_
    · simp only [Sys.sending]
      split
      · next ht => rw [hidle ht]; rfl
      · rfl
    · simp only [Sys.signalling]
      split
      · next ht => rw [hidle ht]; rfl
      · rfl

@[simp] theorem Sys.setTask_budget {task : Task H cfg} :
    ((s.setTask k task).conns m).budget = (s.conns m).budget := by
  by_cases hm : m = k
  · rw [hm, Sys.setTask_self]
  · rw [Sys.setTask, Sys.setConn_ne hm]

/-- A connection whose counters stay keeps its budget. -/
theorem Sys.setConn_budget {conn : Conn H cfg} (h : conn.budget = (s.conns k).budget) :
    ((s.setConn k conn).conns m).budget = (s.conns m).budget := by
  by_cases hm : m = k
  · rw [hm, Sys.setConn_self, h]
  · rw [Sys.setConn_ne hm]

/-- A task with a job runs it. -/
theorem Task.hasJob_of_perm {js rest : List Job} {j : Job} {pending : List Op} {next : Next}
    (ht : (s.conns k).task = .ops (.jobs js :: pending) next) (hperm : js.Perm (j :: rest)) :
    (s.conns k).task.HasJob := by
  rw [ht]
  cases js with
  | nil => exact absurd hperm.symm.eq_nil (List.cons_ne_nil _ _)
  | cons => trivial

/-- A step that runs no job charges no budget. -/
theorem Exec.budget (h : Exec s k env s') (hjob : ¬ (s.conns k).task.HasJob) :
    (s'.conns m).budget = (s.conns m).budget := by
  cases h with
  | sent ht hperm | signalled ht hperm => exact absurd (Task.hasJob_of_perm ht hperm) hjob
  | committed => exact Sys.setConn_budget rfl
  | _ => exact Sys.setTask_budget

/-- **What a step leaves of a connection's budget.** -/
theorem budget_step {act : Action} (h : SysStep s act s') (hm : (s.conns m).task ≠ .absent) :
    (s'.conns m).budget.counters = (s.sending m act).toList.foldl (Counters.after outboundLimits)
      (s.conns m).budget.counters := by
  cases step_cases h with
  | @connected k challenge sourceIp ok ht =>
    have hne : k ≠ m := fun heq => hm (heq ▸ ht)
    have hnone : s.sending m (.connect k challenge sourceIp ok) = none := if_neg hne
    rw [hnone]
    simp only [Sys.connect, Sys.setTask_budget, Sys.send_budget, reply, hne, if_false,
      Option.toList_none, List.foldl_nil]
    rw [Sys.setConn_ne (Ne.symm hne)]
  | ticked => rfl
  | refused | received | handled => exact congrArg _ (Sys.setConn_budget rfl)
  | hungUp => exact congrArg _ Sys.setTask_budget
  | @moved k env _ _ =>
    cases work_cases h with
    | @sent _ _ _ d _ _ _ hsending =>
      rw [Sys.setTask_budget, Sys.send_budget, hsending]
      by_cases hto : d.to_ = m
      · rw [if_pos hto, if_pos hto]
        exact ((s.conns m).budget.allow_eq s.now d.frame.bytes).1
      · rw [if_neg hto, if_neg hto]
        rfl
    | signalled _ _ hsending =>
      rw [hsending, Sys.setTask_budget]
      rfl
    | other hexec hjob hsending =>
      rw [hexec.budget hjob, hsending]
      rfl

/-! ## The steps of the member that speaks -/

/-- What a step of a registered handler does that deals with no host action: it stays so, it gets
ready to flag a peer exactly if the peer's budget refuses its frame, and it flags a peer by a signal
only. -/
structure Speaks (s : Sys H cfg) (act : Action) (s' : Sys H cfg) (k m : ConnId) : Prop where
  fair : (s'.conns k).task.Fair k
  signals : (s'.conns k).task.Signals m ∨ s.signalling act = some m ↔
    (s.conns k).task.Signals m ∨
      ∃ e, s.sending m act = some e ∧ (s.conns m).budget.counters.admits outboundLimits e = false
  disconnect : s.signalling act ≠ some m → s'.shared.disconnect m = s.shared.disconnect m

/-- A step that sends and signals nothing. -/
theorem Speaks.of_quiet {act : Action} (hfair : (s'.conns k).task.Fair k)
    (htask : (s'.conns k).task.Signals m ↔ (s.conns k).task.Signals m)
    (hsending : s.sending m act = none) (hsignalling : s.signalling act = none)
    (hdisconnect : s'.shared.disconnect m = s.shared.disconnect m) : Speaks s act s' k m where
  fair := hfair
  signals := by simp [htask, hsending, hsignalling]
  disconnect _ := hdisconnect

/-- A send of the handler. -/
theorem Speaks.sent {js : List Job} {pending : List Op} {next : Next} {d : Delivery}
    {rest : List Job} (hne : m ≠ k) (ht : (s.conns k).task = .ops (.jobs js :: pending) next)
    (hperm : js.Perm (.send d :: rest))
    (hsending : s.sending m (.exec k env) =
      if d.to_ = m then some ⟨s.now, d.frame.bytes⟩ else none)
    (hsignalling : s.signalling (.exec k env) = none) (hfair : (s.conns k).task.Fair k)
    (hwritten : s.sending m (.exec k env) ≠ none → env.ok = true) :
    Speaks s (.exec k env) ((s.send k d env.ok).1.setTask k (.ops (.jobs (rest ++
      if (s.send k d env.ok).2 then [] else d.flag.toList.map Job.signal) :: pending) next))
      k m := by
  rw [ht] at hfair
  have hjobs := hfair _ List.mem_cons_self
  have hflag := hjobs d (hperm.mem_iff.2 List.mem_cons_self)
  have hallowed := ((s.conns m).budget.allow_eq s.now d.frame.bytes).2
  constructor
  · rw [Sys.setTask_self]
    intro op hop
    rcases List.mem_cons.1 hop with rfl | hop
    · exact fun d' hd' => hjobs d' (mem_left hperm hd')
    · exact hfair op (List.mem_cons_of_mem _ hop)
  · -- the signal of the peer is pending if it was, or if the peer's budget refuses the frame
    have hsignal : (Job.signal m ∈ if (s.send k d env.ok).2 then []
        else d.flag.toList.map Job.signal) ↔ ∃ e, s.sending m (.exec k env) = some e ∧
          (s.conns m).budget.counters.admits outboundLimits e = false := by
      by_cases hto : d.to_ = m
      · rw [if_pos hto] at hsending
        have hok : (s.send k d env.ok).2 =
            (s.conns m).budget.counters.admits outboundLimits ⟨s.now, d.frame.bytes⟩ := by
          rw [← hallowed, ← hto]
          simp only [Sys.send, hwritten (by rw [hsending]; exact Option.some_ne_none _),
            Bool.true_and]
        have hflagged : d.flag = some m := by
          rcases hflag with hflag | ⟨-, hself⟩
          · rw [hflag, hto]
          · exact absurd (hto.symm.trans hself) hne
        rw [hok, hsending, hflagged]
        cases hadmits : (s.conns m).budget.counters.admits outboundLimits ⟨s.now, d.frame.bytes⟩ <;>
          simp [hadmits]
      · rw [if_neg hto] at hsending
        rw [hsending]
        refine iff_of_false (fun h => ?_) (by simp)
        split at h
        · cases h
        · obtain ⟨_, hmem, heq⟩ := List.mem_map.1 h
          cases heq
          rcases hflag with hflag | ⟨hflag, -⟩ <;> rw [hflag] at hmem
          · exact hto (Option.mem_some_iff.1 (Option.mem_toList.1 hmem))
          · cases hmem
    rw [Sys.setTask_self, ht, hsignalling, ← hsignal, Task.signals_jobs, Task.signals_jobs,
      hperm.mem_iff, List.mem_append, List.mem_cons]
    simp only [reduceCtorEq, false_or, or_false]
    exact or_right_comm
  · exact fun _ => rfl

/-- A signal of the handler. -/
theorem Speaks.signalled {js : List Job} {pending : List Op} {next : Next} {k' : ConnId}
    {rest : List Job} (ht : (s.conns k).task = .ops (.jobs js :: pending) next)
    (hperm : js.Perm (.signal k' :: rest)) (hsending : s.sending m (.exec k env) = none)
    (hsignalling : s.signalling (.exec k env) = some k') (hfair : (s.conns k).task.Fair k) :
    Speaks s (.exec k env) ((s.setShared (s.shared.signal k')).setTask k
      (.ops (.jobs rest :: pending) next)) k m := by
  rw [ht] at hfair
  have hjobs := hfair _ List.mem_cons_self
  constructor
  · rw [Sys.setTask_self]
    intro op hop
    rcases List.mem_cons.1 hop with rfl | hop
    · exact fun d hd => hjobs d (hperm.mem_iff.2 (List.mem_cons_of_mem _ hd))
    · exact hfair op (List.mem_cons_of_mem _ hop)
  · rw [Sys.setTask_self, ht, hsignalling, hsending, Task.signals_jobs, Task.signals_jobs,
      hperm.mem_iff, List.mem_cons]
    simp only [Option.some_inj, Job.signal.injEq, eq_comm (a := m), reduceCtorEq, false_and,
      exists_false, or_false]
    exact or_comm.trans or_assoc.symm
  · intro hne
    rw [hsignalling] at hne
    exact Function.update_of_ne (fun heq => hne (congrArg some heq.symm)) ..

/-- **What the speaker's handler does in one step.** -/
theorem speaks_step {act : Action} (hinv : SysInv s) (hlobby : LobbyInv s.shared)
    (h : SysStep s act s') (hactor : act.actor = some k) (hne : m ≠ k)
    (hsession : (s.conns k).session.isSome = true) (hfair : (s.conns k).task.Fair k)
    (hhost : ∀ message, act = .receive k (.text (.ok message)) → message.hostAction = none)
    (hwritten : s.sending m act ≠ none → act.written = true) : Speaks s act s' k m := by
  cases step_cases h with
  | @connected k' _ _ _ ht =>
    cases hactor
    have hok := hinv.task k
    rw [ht] at hok
    rw [hok] at hsession
    cases hsession
  | ticked => cases hactor
  | refused ht =>
    cases hactor
    refine .of_quiet ?_ ?_ rfl rfl rfl <;> rw [Sys.setConn_self]
    · intro op hop
      cases List.mem_singleton.1 hop
      intro d hd
      cases List.mem_singleton.1 hd
      exact .inr ⟨rfl, rfl⟩
    · rw [ht]
      exact iff_of_false refused_signals id
  | received ht =>
    cases hactor
    refine .of_quiet ?_ ?_ rfl rfl rfl <;> rw [Sys.setConn_self]
    · rintro message rfl
      exact hhost message rfl
    · rw [ht]
      exact .rfl
  | handled _ hnone =>
    cases hactor
    rw [hnone] at hsession
    cases hsession
  | hungUp ht =>
    cases hactor
    refine .of_quiet ?_ ?_ rfl rfl rfl <;> rw [Sys.setTask_self]
    · trivial
    · rw [ht]
      exact .rfl
  | @moved _ env _ _ =>
    cases hactor
    cases work_cases h with
    | sent ht hperm hsending hsignalling =>
      exact .sent hne ht hperm (hsending m) hsignalling hfair hwritten
    | signalled ht hperm hsending hsignalling =>
      exact .signalled ht hperm (hsending m) hsignalling hfair
    | other hexec hjob hsending hsignalling =>
      cases hexec with
      | read hread =>
        refine .of_quiet ?_ ?_ (hsending m) hsignalling rfl <;> rw [Sys.setTask_self]
        · exact hread.fair hlobby hsession hfair
        · exact hread.signals
      | rejected ht | committed ht | hostRefused ht | hostActed ht =>
        rw [ht] at hfair
        exact hfair.elim
      | stayed ht =>
        refine .of_quiet ?_ ?_ (hsending m) hsignalling rfl <;> rw [Sys.setTask_self]
        · trivial
        · rw [ht]
          exact .rfl
      | left ht _ _ _ _ hdep =>
        refine .of_quiet ?_ ?_ (hsending m) hsignalling ?_ <;> dsimp only
        · rw [Sys.setTask_self]
          exact Departure.notifications_fair
        · rw [Sys.setTask_self, ht]
          exact iff_of_false Departure.notifications_signals id
        · rw [Sys.setTask_shared]
          exact congrFun hdep.disconnect m
      | sent ht hperm | signalled ht hperm => exact absurd (Task.hasJob_of_perm ht hperm) hjob

/-! ## Runs -/

/-- What a run did that the handler `k` sends to `m`, from a state in which `m` had the counters
`c`. -/
structure Spoken (k m : ConnId) (c : Counters) (now : Nat)
    (ts : List (Transition (Sys H cfg) Action)) (s : Sys H cfg) : Prop where
  reachable : ReachableSys s
  session : (s.conns k).session.isSome = true
  listens : (s.conns m).session.isSome = true
  fair : (s.conns k).task.Fair k
  clock : now ≤ s.now
  times : ∀ e ∈ sendsTo m ts, now ≤ e.time
  budget : (s.conns m).budget.counters = (sendsTo m ts).foldl (Counters.after outboundLimits) c
  signals : ((s.conns k).task.Signals m ∨
      ∃ t ∈ ts, t.act.actor = some k ∧ t.pre.signalling t.act = some m) ↔
    c.admitsAll outboundLimits (sendsTo m ts) = false
  disconnect : ∀ t ∈ ts, t.act.actor = some k → t.pre.signalling t.act ≠ some m →
    t.post.shared.disconnect m = t.pre.shared.disconnect m

/-- The clock does not go back. -/
theorem clock_step {act : Action} (h : SysStep s act s') : s.now ≤ s'.now := by
  cases step_cases h with
  | ticked => exact Nat.le_add_right _ _
  | moved hexec => cases hexec <;> exact Nat.le_refl _
  | _ => exact Nat.le_refl _

/-- A connection with a session is there. -/
theorem SysInv.present (hinv : SysInv s) (hs : (s.conns m).session.isSome = true) :
    (s.conns m).task ≠ .absent := by
  intro ht
  have hok := hinv.task m
  rw [ht] at hok
  rw [hok] at hs
  cases hs

/-- The time of a frame is that of the step that sends it. -/
theorem Sys.sending_time {act : Action} {e : Event} (h : s.sending m act = some e) :
    e.time = s.now := by
  unfold Sys.sending at h
  split at h
  · split at h
    · split at h
      · split at h
        · cases h; rfl
        · cases h
      · cases h
    · cases h
  · split at h
    · cases h; rfl
    · cases h
  · cases h

/-- **A step keeps the account of what the speaker sends.** -/
theorem Spoken.step {act : Action} {c : Counters} {now : Nat}
    {ts : List (Transition (Sys H cfg) Action)} (hspoken : Spoken k m c now ts s)
    (h : SysStep s act s') (hne : m ≠ k)
    (hhost : ∀ message, act = .receive k (.text (.ok message)) → message.hostAction = none)
    (hothers : act.actor ≠ some k → s.sending m act = none)
    (hwritten : s.sending m act ≠ none → act.written = true) :
    Spoken k m c now (⟨s, act, s'⟩ :: ts) s' := by
  have hinv := ReachableSys.inv hspoken.reachable
  have hlobby := ReachableSys.lobbyInv hspoken.reachable
  have hspeaks : act.actor = some k → Speaks s act s' k m := fun hactor =>
    speaks_step hinv hlobby h hactor hne hspoken.session hspoken.fair hhost hwritten
  have huntouched : act.actor ≠ some k → (s'.conns k).task = (s.conns k).task := fun hactor =>
    ((step_cases h).untouched hactor).task
  constructor
  case reachable => exact hspoken.reachable.snoc h
  case session => exact session_isSome_step hinv h hspoken.session
  case listens => exact session_isSome_step hinv h hspoken.listens
  case fair =>
    by_cases hactor : act.actor = some k
    · exact (hspeaks hactor).fair
    · rw [huntouched hactor]
      exact hspoken.fair
  case clock => exact Nat.le_trans hspoken.clock (clock_step h)
  case times =>
    intro e he
    rw [sendsTo_cons] at he
    rcases List.mem_append.1 he with he | he
    · exact hspoken.times e he
    · rw [Sys.sending_time (Option.mem_toList.1 he)]
      exact hspoken.clock
  case budget =>
    rw [budget_step h (hinv.present hspoken.listens), hspoken.budget, sendsTo_cons,
      List.foldl_append]
  case signals =>
    have hadmits : c.admitsAll outboundLimits (sendsTo m (⟨s, act, s'⟩ :: ts)) = false ↔
        c.admitsAll outboundLimits (sendsTo m ts) = false ∨ ∃ e, s.sending m act = some e ∧
          (s.conns m).budget.counters.admits outboundLimits e = false := by
      rw [sendsTo_cons]
      dsimp only
      cases s.sending m act with
      | none => simp
      | some e =>
        rw [Option.toList_some, Counters.admitsAll_append, hspoken.budget, Bool.and_eq_false_iff]
        simp
    rw [hadmits, ← hspoken.signals]
    simp only [List.mem_cons, exists_eq_or_imp]
    by_cases hactor : act.actor = some k
    · rw [← or_assoc, and_iff_right hactor, (hspeaks hactor).signals]
      exact or_right_comm
    · rw [huntouched hactor, hothers hactor]
      simp [hactor]
  case disconnect =>
    intro t ht
    rcases List.mem_cons.1 ht with rfl | ht
    · exact fun hactor => (hspeaks hactor).disconnect
    · exact hspoken.disconnect t ht

/-- The account starts when the speaker waits for its next message. -/
theorem Spoken.start (h : ReachableSys s) (hsession : (s.conns k).session.isSome = true)
    (hlistens : (s.conns m).session.isSome = true) (hidle : (s.conns k).task = .idle) :
    Spoken k m (s.conns m).budget.counters s.now [] s where
  reachable := h
  session := hsession
  listens := hlistens
  fair := by rw [hidle]; trivial
  clock := Nat.le_refl _
  times := by
    intro e he
    cases he
  budget := rfl
  signals := by
    rw [hidle]
    refine iff_of_false ?_ (by simp [sendsTo, Counters.admitsAll])
    rintro (hsignals | ⟨t, ht, -⟩)
    · exact hsignals
    · cases ht
  disconnect := by
    intro t ht
    cases ht

/-- **When a peer is kept.** From a reachable state with two members of a lobby, of which the first
one waits for its next message and the second one's budget is fresh, in a run in which only the
first one's handler sends to the second one, its messages are no host actions, the writes to the
second one succeed and the messages are dealt with: the first one's handler does not signal the
second one to disconnect exactly if every window of one second has room for the frames sent in it;
and it sets the flag by this signal only. -/
theorem peer_kept_iff {s₀ : Sys H cfg} {ts : List (Transition (Sys H cfg) Action)}
    {l ca cb : String} {a b : ClientInfo} (h₀ : ReachableSys s₀)
    (ha : s₀.shared.member l ca = some a) (hb : s₀.shared.member l cb = some b) (hab : ca ≠ cb)
    (hidle : (s₀.conns a.sender).task = .idle)
    (hfresh : (s₀.conns b.sender).budget.counters.Fresh outboundLimits s₀.now)
    (hrun : Run (· = s₀) SysStep ts s)
    (hhost : ∀ t ∈ ts, ∀ message, t.act = .receive a.sender (.text (.ok message)) →
      message.hostAction = none)
    (hothers : ∀ t ∈ ts, t.act.actor ≠ some a.sender → t.pre.sending b.sender t.act = none)
    (hwritten : ∀ t ∈ ts, t.pre.sending b.sender t.act ≠ none → t.act.written = true)
    (hdone : (s.conns a.sender).task = .idle ∨ (s.conns a.sender).task = .returned) :
    ((∀ t ∈ ts, t.act.actor = some a.sender → t.pre.signalling t.act ≠ some b.disconnect) ↔
      Fits outboundLimits (s₀.conns b.sender).budget.windowStarted (sendsTo b.sender ts)) ∧
    ∀ t ∈ ts, t.act.actor = some a.sender → t.pre.signalling t.act ≠ some b.disconnect →
      t.post.shared.disconnect b.disconnect = t.pre.shared.disconnect b.disconnect := by
  have hinv := ReachableSys.inv h₀
  have howna := (hinv.own l ca a ha).1
  have hownb := (hinv.own l cb b hb).1
  have hhandle : b.disconnect = b.sender := by
    obtain ⟨lobby, hl, hc⟩ := Shared.member_eq_some.1 hb
    exact ((ReachableSys.lobbyInv h₀).lobby l lobby hl).members.handle cb b hc
  have hne : b.sender ≠ a.sender := by
    intro heq
    rw [heq, howna] at hownb
    exact hab (congrArg RegisteredSession.clientId (Option.some.inj hownb))
  have hspoken : Spoken a.sender b.sender (s₀.conns b.sender).budget.counters s₀.now ts s := by
    clear hdone
    induction hrun with
    | start h =>
      subst h
      exact .start h₀ (by rw [howna]; rfl) (by rw [hownb]; rfl) hidle
    | @snoc ts s₁ s₂ act hr hst ih =>
      have hrest : ∀ t ∈ ts, t ∈ (⟨s₁, act, s₂⟩ :: ts : List (Transition (Sys H cfg) Action)) :=
        fun t ht => List.mem_cons_of_mem _ ht
      exact (ih (fun t ht => hhost t (hrest t ht)) (fun t ht => hothers t (hrest t ht))
        fun t ht => hwritten t (hrest t ht)).step hst hne (hhost _ List.mem_cons_self)
          (hothers _ List.mem_cons_self) (hwritten _ List.mem_cons_self)
  have hquiet : ¬ (s.conns a.sender).task.Signals b.sender := by
    rcases hdone with hdone | hdone <;> rw [hdone] <;> exact id
  rw [hhandle]
  refine ⟨?_, hspoken.disconnect⟩
  have hsignals := hspoken.signals
  rw [or_iff_right hquiet] at hsignals
  have hfits := hfresh.admitsAll_iff hspoken.times
  rw [show (s₀.conns b.sender).budget.windowStarted =
    (s₀.conns b.sender).budget.counters.start from rfl, ← hfits, ← not_iff_not, Bool.not_eq_true,
    ← hsignals]
  push Not
  rfl

end

/-! ## Recorded runs -/

/-- Alice and bob have been in the room for a while. -/
def acquainted : Option (Sys recordedCrypto .default) :=
  joined.bind fun s => s.step (.tick (secs 20))

/-- Bob updates his status, and his handler deals with it. -/
def updates (n : Nat) : List Action :=
  (List.replicate n
    (Action.receive 2 (.text (.ok (.statusUpdate bobId true))) :: recordedSteps 2 6)).flatten

/-- Bob acts, his message is no host action and within his limit, and the write succeeds. -/
def bobUpdates (s : Sys recordedCrypto .default) (act : Action) : Bool :=
  act.actor == some 2 && act.written &&
    match act with
    | .receive k (.text (.ok message)) =>
      ((s.conns k).rate.allow s.now).2 && message.hostAction.isNone
    | _ => true

/-- What is said of the recorded runs: both are members, bob's handler waits for its next message,
and alice's budget is fresh. -/
structure Acquainted (s₀ : Sys recordedCrypto .default) (a b : ClientInfo) : Prop where
  reachable : ReachableSys s₀
  speaker : s₀.shared.member roomId bobId = some a
  speaker_sender : a.sender = 2
  peer : s₀.shared.member roomId aliceId = some b
  peer_sender : b.sender = 1
  peer_disconnect : b.disconnect = 1
  idle : (s₀.conns 2).task = .idle
  fresh : (s₀.conns 1).budget.counters.Fresh outboundLimits s₀.now
  unflagged : s₀.shared.disconnect 1 = false

theorem acquainted_ready : ∃ s₀ a b, acquainted = some s₀ ∧ Acquainted s₀ a b := by
  have hrun : (acquainted.map fun s => ((s.shared.member roomId bobId).map (·.sender),
      (s.shared.member roomId aliceId).map fun info => (info.sender, info.disconnect),
      (s.conns 2).task.isIdle,
      decide ((s.conns 1).budget.windowStarted + secs OUTBOUND_BUDGET_WINDOW_SECS ≤ s.now),
      s.shared.disconnect 1)) = some (some 2, some (1, 1), true, true, false) := by decide +kernel
  obtain ⟨s₀, hs, hrun⟩ := Option.map_eq_some_iff.1 hrun
  simp only [Prod.mk.injEq, Option.map_eq_some_iff, decide_eq_true_eq] at hrun
  obtain ⟨⟨a, ha, ha2⟩, ⟨b, hb, hb1, hb1'⟩, hidle, hover, hflag⟩ := hrun
  refine ⟨s₀, a, b, hs, ?_, ha, ha2, hb, hb1, hb1', ?_, .inr (Nat.le_sub_of_add_le' hover), hflag⟩
  · obtain ⟨s, hjoined, htick⟩ := Option.bind_eq_some_iff.1 hs
    obtain ⟨ts, hts, hout⟩ := handshake_outside
    obtain ⟨ts', hts', -⟩ := hts.foldlM (p := Sys.tokensCurrent) (fun t ht => by
      cases hact : t.act with
      | exec k env => exact absurd hact (hout t ht k env)
      | _ => rfl) hjoined
    exact hts'.reachable.snoc htick
  · exact Task.isIdle_iff.1 hidle

/-- Sixty-five updates, the last of which has one step more: the signal. -/
def flooded : Option (Sys recordedCrypto .default) :=
  acquainted.bind fun s₀ => (updates 65 ++ recordedSteps 2 1).foldlM
    (fun s act => if bobUpdates s act then s.step act else none) s₀

/-- **A peer is flagged.** Bob sends alice sixty-five status updates, all within his own limit; no
write fails, and alice is flagged. -/
theorem peer_flagged : ∃ (s₀ s : Sys recordedCrypto .default) (a b : ClientInfo)
    (ts : List (Transition (Sys recordedCrypto .default) Action)), Acquainted s₀ a b ∧
    Run (· = s₀) SysStep ts s ∧ (∀ t ∈ ts, bobUpdates t.pre t.act = true) ∧
    (s.conns a.sender).task = .idle ∧ s.shared.disconnect b.disconnect = true := by
  have hrun : (flooded.map fun s => ((s.conns 2).task.isIdle, s.shared.disconnect 1)) =
      some (true, true) := by decide +kernel
  obtain ⟨s, hs, hrun⟩ := Option.map_eq_some_iff.1 hrun
  obtain ⟨hidle, hflag⟩ := Prod.mk.inj hrun
  obtain ⟨s₀, a, b, hs₀, hacquainted⟩ := acquainted_ready
  rw [flooded, hs₀, Option.bind_some] at hs
  obtain ⟨ts, hts, hspeaks⟩ := (Run.start rfl : Run (· = s₀) SysStep [] s₀).foldlM
    (p := bobUpdates) (fun t ht => by cases ht) hs
  refine ⟨s₀, s, a, b, ts, hacquainted, hts, hspeaks, ?_, ?_⟩
  · rw [hacquainted.speaker_sender]
    exact Task.isIdle_iff.1 hidle
  · rw [hacquainted.peer_disconnect]
    exact hflag

/-- Time passes, or bob acts as above and does not signal alice. -/
def bobPaces (s : Sys recordedCrypto .default) : Action → Bool
  | .tick _ => true
  | act => bobUpdates s act && s.signalling act != some 1

theorem bobPaces_cases {s : Sys recordedCrypto .default} {act : Action}
    (h : bobPaces s act = true) : (∃ n, act = .tick n) ∨
      act.actor = some 2 ∧ act.written = true ∧ s.signalling act ≠ some 1 ∧
        ∀ k message, act = .receive k (.text (.ok message)) → message.hostAction = none := by
  unfold bobPaces at h
  split at h
  · exact .inl ⟨_, rfl⟩
  · obtain ⟨hupdates, hquiet⟩ := Bool.and_eq_true_iff.1 h
    refine .inr ?_
    simp only [bobUpdates, Bool.and_eq_true, beq_iff_eq] at hupdates
    obtain ⟨⟨hactor, hwritten⟩, hmessage⟩ := hupdates
    refine ⟨hactor, hwritten, bne_iff_ne.1 hquiet, ?_⟩
    rintro k message rfl
    exact Option.isNone_iff_eq_none.1 (Bool.and_eq_true_iff.1 hmessage).2

/-- Bob updates his status thirty-three times, and a second later again. -/
def paced : Option (Sys recordedCrypto .default) :=
  acquainted.bind fun s₀ => (updates 33 ++ [Action.tick (secs 1)] ++ updates 33).foldlM
    (fun s act => if bobPaces s act then s.step act else none) s₀

/-- The writes of bob's status to alice. -/
def Sys.updatesSent (s : Sys recordedCrypto .default) : Nat :=
  s.log.countP fun e => e.ok && e.delivery.to_ == 1 &&
    e.delivery.frame == .text (.statusUpdate bobId true) (some (bobId, 2))

/-- Sixty-six updates in two windows of a second fit in alice's budget, and do not flag her. -/
theorem peer_kept_paced : ∃ (s₀ s : Sys recordedCrypto .default) (a b : ClientInfo)
    (ts : List (Transition (Sys recordedCrypto .default) Action)), Acquainted s₀ a b ∧
    Run (· = s₀) SysStep ts s ∧ (∀ t ∈ ts, bobPaces t.pre t.act = true) ∧ s.updatesSent = 66 ∧
    Fits outboundLimits (s₀.conns b.sender).budget.windowStarted (sendsTo b.sender ts) := by
  have hrun : (paced.map fun s => ((s.conns 2).task.isIdle, s.updatesSent)) = some (true, 66) := by
    decide +kernel
  obtain ⟨s, hs, hrun⟩ := Option.map_eq_some_iff.1 hrun
  obtain ⟨hidle, hsent⟩ := Prod.mk.inj hrun
  obtain ⟨s₀, a, b, hs₀, hacq⟩ := acquainted_ready
  rw [paced, hs₀, Option.bind_some] at hs
  obtain ⟨ts, hts, hpaces⟩ := (Run.start rfl : Run (· = s₀) SysStep [] s₀).foldlM
    (p := bobPaces) (fun t ht => by cases ht) hs
  refine ⟨s₀, s, a, b, ts, hacq, hts, hpaces, hsent, ?_⟩
  have hbob := hacq.speaker_sender
  refine ((peer_kept_iff hacq.reachable hacq.speaker hacq.peer (by decide +kernel)
    (by rw [hbob]; exact hacq.idle) (by rw [hacq.peer_sender]; exact hacq.fresh) hts ?_ ?_ ?_
    (.inl ?_)).1).1 fun t ht _ => ?_
  · intro t ht message hact
    obtain ⟨n, htick⟩ | ⟨-, -, -, hmessage⟩ := bobPaces_cases (hpaces t ht)
    · cases htick.symm.trans hact
    · exact hmessage _ message hact
  · intro t ht hactor
    obtain ⟨n, htick⟩ | ⟨hbobs, -⟩ := bobPaces_cases (hpaces t ht)
    · rw [htick]
      rfl
    · exact absurd (hbob ▸ hbobs) hactor
  · intro t ht _
    obtain ⟨n, htick⟩ | ⟨-, hwritten, -⟩ := bobPaces_cases (hpaces t ht)
    · rw [htick]
      rfl
    · exact hwritten
  · rw [hbob]
    exact Task.isIdle_iff.1 hidle
  · rw [hacq.peer_disconnect]
    obtain ⟨n, htick⟩ | ⟨-, -, hquiet, -⟩ := bobPaces_cases (hpaces t ht)
    · rw [htick]
      exact (Option.some_ne_none 1).symm
    · exact hquiet

end MctierSignaling
