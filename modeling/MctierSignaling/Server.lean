import MctierSignaling.Connection
import MctierSignaling.Critical
import Mathlib.Data.List.Perm.Basic

/-!
# The server as a transition system

All connection handlers over the shared state, with their steps interleaved in any order. A step of
a handler is one read, one snapshot, one critical section, one send or one disconnect signal; the
outside opens connections, lets time pass, delivers frames, ends sockets, and decides whether a
write succeeds. Two components are there for the statements only: `issued`, the chat tokens drawn so
far, and `log`, the frames that handlers tried to send, newest first.

`exec_cases` says once what a step of a handler can do; every invariant of the server is derived
from it. The lobby state of the server moves by the critical sections of
`MctierSignaling.Critical` (`step_shared`), so its invariant holds here too (`ReachableSys.inv`).
-/

namespace MctierSignaling

/-- A frame that a handler tried to send, and whether it was written. -/
structure Sent where
  by_ : ConnId
  delivery : Delivery
  ok : Bool
  deriving DecidableEq

/-- The server. -/
structure Sys (H : Crypto) (cfg : ServerConfig) where
  conns : ConnId → Conn H cfg
  shared : Shared
  now : Nat
  issued : List String
  log : List Sent

/-- What one step draws or is told: whether a write succeeds, which job runs, random values, the
iteration order of a map, and the replies of the community node subsystem. -/
structure Env where
  ok : Bool
  pick : Nat
  draws : Draws
  order : Nat
  nodes : List CommunityNodeInfo
  submitted : Bool × String × Option CommunityNodeInfo

/-- What can happen next. `hangup` is any end of a socket that waits for a message: a disconnect
signal, an idle or registration timeout, the end of the stream or a read error. -/
inductive Action where
  | connect (k : ConnId) (challenge : String) (sourceIp : IpAddr) (ok : Bool)
  | tick (n : Nat)
  | receive (k : ConnId) (inbound : Inbound)
  | hangup (k : ConnId)
  | exec (k : ConnId) (env : Env)

/-- The jobs an operation asks for, from the state it finds. -/
def Op.start (op : Op) (sh : Shared) (k : ConnId) (env : Env) : List Job :=
  match op with
  | .jobs js => js
  | .sendTo lobbyId clientId message =>
    (sendToLobbyClient sh.lobbies lobbyId clientId message).map .send
  | .broadcast lobbyId excludeId message =>
    (broadcastToLobby sh.lobbies lobbyId excludeId message).map .send
  | .rotation targets lobbyId chatToken chatTokenEpoch =>
    (sendChatTokenRotation sh.lobbies targets lobbyId chatToken chatTokenEpoch).map .send
  | .roster lobbyId excludeId =>
    [.send (MctierSignaling.reply k
      (.playersList (currentPlayers sh.lobbies lobbyId excludeId)))]
  | .publicList =>
    [.send (MctierSignaling.reply k (.publicLobbyListResponse (publicLobbies sh.lobbies)))]
  | .communityList => [.send (MctierSignaling.reply k (.communityNodeListResponse env.nodes))]
  | .communitySubmit .. =>
    [.send (MctierSignaling.reply k (.communityNodeSubmitResult env.submitted.1 env.submitted.2.1
      env.submitted.2.2))]

section
variable {H : Crypto} {cfg : ServerConfig}

/-- The state in which the server starts. -/
def Sys.initial : Sys H cfg := ⟨fun _ => .absent, .initial, 0, [], []⟩

def Sys.setConn (s : Sys H cfg) (k : ConnId) (conn : Conn H cfg) : Sys H cfg :=
  { s with conns := Function.update s.conns k conn }

def Sys.setTask (s : Sys H cfg) (k : ConnId) (task : Task H cfg) : Sys H cfg :=
  s.setConn k { s.conns k with task }

def Sys.setShared (s : Sys H cfg) (sh : Shared) : Sys H cfg := { s with shared := sh }

/-- `send_message`: the recipient's budget, then the write, in one step: the time that the write may
take after the budget admitted it is not modelled. Reference: `send_message` (`transport.rs:30`). -/
def Sys.send (s : Sys H cfg) (k : ConnId) (d : Delivery) (written : Bool) : Sys H cfg × Bool :=
  let (budget, allowed) := (s.conns d.to_).budget.allow s.now d.frame.bytes
  let ok := written && allowed
  ({ s.setConn d.to_ { s.conns d.to_ with budget } with log := ⟨k, d, ok⟩ :: s.log }, ok)

/-- The tasks that only read what is shared, and where they go. -/
def Sys.read (s : Sys H cfg) (k : ConnId) (env : Env) : Option (Task H cfg) :=
  let conn := s.conns k
  match conn.task with
  | .current inbound =>
    some (match conn.session with
      | none => refused k
      | some session =>
        if isCurrentSession s.shared.lobbies session.lobbyId session.clientId session.generation k
        then handleInbound k conn inbound else refused k)
  | .lookup from_ forward =>
    some (match s.shared.clientLobbyMap.lookup from_ with
      | none => .idle
      | some lobbyId => forward.task lobbyId from_)
  | .offerName lobbyId from_ to_ offer =>
    let playerName := (s.shared.member lobbyId from_).map (·.playerName)
    some (.ops [.sendTo lobbyId to_ (.offer from_ to_ offer playerName)] .idle)
  | .mapped action =>
    some (match conn.session with
      | none => .cleanup
      | some session =>
        if s.shared.clientLobbyMap.lookup session.clientId = some session.lobbyId then
          .hostAction action else .idle)
  | .committed commit =>
    some (if s.shared.disconnect k then .cleanup else .confirmed commit)
  | .confirmed commit =>
    some (if isCurrentSession s.shared.lobbies commit.session.lobbyId commit.session.clientId
        commit.session.generation k then .ops (commit.notifications k) .idle else .cleanup)
  | .ops [] next => some next.task
  | .ops (.jobs [] :: pending) next => some (.ops pending next)
  | .ops (.jobs (_ :: _) :: _) _ => none
  | .ops (op :: pending) next => some (.ops (.jobs (op.start s.shared k env) :: pending) next)
  | _ => none

/-- The critical section of a registration. -/
def Sys.register (s : Sys H cfg) (k : ConnId) (a : Admission H cfg) (env : Env) : Sys H cfg :=
  match handleV3Locked s.shared a s.now env.draws with
  | (sh, .rejected message refusal) =>
    (s.setShared sh).setTask k (.ops [.reply k message] refusal.next)
  | (sh, .committed commit) =>
    { (s.setShared sh).setConn k
        { s.conns k with session := some commit.session, task := .committed commit } with
      issued := env.draws.token :: s.issued }

/-- The session under which a handler moderates. -/
def RegisteredSession.moderation (session : RegisteredSession) (k : ConnId) : ModerationSession :=
  ⟨session.clientId, session.lobbyId, session.generation, k⟩

def ModerationDispatch.task : ModerationDispatch → Task H cfg
  | .handled => .idle
  | .closeConnection => .cleanup

/-- The token a host action drew. -/
def HostNotice.drawn : HostNotice → List String
  | .kicked _ _ _ token _ => [token]
  | _ => []

/-- The critical section of a host action. -/
def Sys.moderate (s : Sys H cfg) (k : ConnId) (session : RegisteredSession) (action : HostAction)
    (env : Env) : Sys H cfg :=
  match MctierSignaling.moderate s.shared (session.moderation k) env.draws.token action with
  | (sh, .error result) => (s.setShared sh).setTask k result.task
  | (sh, .ok notice) =>
    { (s.setShared sh).setTask k (.ops (notice.notifications session.lobbyId) .idle) with
      issued := notice.drawn ++ s.issued }

/-- The token a cleanup drew. -/
def Departure.drawn (departure : Departure) : List String :=
  match departure.chatRotation with
  | some (_, token, _) => [token]
  | none => []

/-- The critical section of a cleanup. -/
def Sys.cleanup (s : Sys H cfg) (k : ConnId) (session : RegisteredSession) (env : Env) :
    Sys H cfg :=
  match MctierSignaling.cleanup s.shared k session env.order env.draws.token with
  | (sh, none) => (s.setShared sh).setTask k .returned
  | (sh, some departure) =>
    { (s.setShared sh).setTask k (.ops departure.notifications .returned) with
      issued := departure.drawn ++ s.issued }

/-- One of the concurrent jobs: a send, after whose failure the signal is left to do, or a
signal. -/
def Sys.runJob (s : Sys H cfg) (k : ConnId) (js : List Job) (pending : List Op) (next : Next)
    (env : Env) : Option (Sys H cfg) :=
  let i := env.pick % js.length
  match js[i]? with
  | none => none
  | some (.send d) =>
    let (s, ok) := s.send k d env.ok
    let failed := if ok then [] else d.flag.toList.map Job.signal
    some (s.setTask k (.ops (.jobs (js.eraseIdx i ++ failed) :: pending) next))
  | some (.signal k') =>
    some ((s.setShared (s.shared.signal k')).setTask k
      (.ops (.jobs (js.eraseIdx i) :: pending) next))

/-- One step of a handler. -/
def Sys.exec (s : Sys H cfg) (k : ConnId) (env : Env) : Option (Sys H cfg) :=
  match (s.conns k).task with
  | .registration a => some (s.register k a env)
  | .hostAction action =>
    some (match (s.conns k).session with
      | none => s.setTask k .cleanup
      | some session => s.moderate k session action env)
  | .cleanup =>
    some (match (s.conns k).session with
      | none => s.setTask k .returned
      | some session => s.cleanup k session env)
  | .ops (.jobs (j :: js) :: pending) next => s.runJob k (j :: js) pending next env
  | _ => (s.read k env).map (s.setTask k)

/-- A frame arrives: the rate check, and then the session check if the connection is registered.
Reference: message loop (`connection.rs:214-243`). -/
def Sys.receive (s : Sys H cfg) (k : ConnId) (inbound : Inbound) : Sys H cfg :=
  let (rate, allowed) := (s.conns k).rate.allow s.now
  let conn := { s.conns k with rate }
  s.setConn k { conn with
    task := if !allowed then refused k
      else if conn.session.isSome then .current inbound
      else handleInbound k conn inbound }

/-- A connection opens, and is sent its challenge. Reference:
`handle_connection_with_timeouts_and_limits` (`connection.rs:145-170`). -/
def Sys.connect (s : Sys H cfg) (k : ConnId) (challenge : String) (sourceIp : IpAddr) (ok : Bool) :
    Sys H cfg :=
  let conn := ⟨challenge, sourceIp, none, .new s.now, .new s.now, .absent⟩
  let (s, ok) := (s.setConn k conn).send k
    (reply k (.serverChallenge challenge true SIGNALING_PROTOCOL_VERSION)) ok
  s.setTask k (if ok then .idle else .returned)

/-- One step of the server. -/
def Sys.step (s : Sys H cfg) : Action → Option (Sys H cfg)
  | .connect k challenge sourceIp ok =>
    match (s.conns k).task with
    | .absent => some (s.connect k challenge sourceIp ok)
    | _ => none
  | .tick n => some { s with now := s.now + n }
  | .receive k inbound =>
    match (s.conns k).task with
    | .idle => some (s.receive k inbound)
    | _ => none
  | .hangup k =>
    match (s.conns k).task with
    | .idle => some (s.setTask k .cleanup)
    | _ => none
  | .exec k env => s.exec k env

/-- The step relation. -/
def SysStep (s : Sys H cfg) (act : Action) (s' : Sys H cfg) : Prop := s.step act = some s'

/-- The runs of the server. -/
abbrev SysRun (ts : List (Transition (Sys H cfg) Action)) (s : Sys H cfg) : Prop :=
  Run (· = Sys.initial) SysStep ts s

/-- The reachable states of the server. -/
abbrev ReachableSys (s : Sys H cfg) : Prop := Reachable (· = Sys.initial) SysStep s

end

/-! ## What a step does -/

section
variable {H : Crypto} {cfg : ServerConfig} {s s' : Sys H cfg} {k : ConnId} {env : Env}

@[simp] theorem Sys.setConn_self {conn : Conn H cfg} : (s.setConn k conn).conns k = conn :=
  Function.update_self ..

theorem Sys.setConn_ne {conn : Conn H cfg} {k' : ConnId} (h : k' ≠ k) :
    (s.setConn k conn).conns k' = s.conns k' :=
  Function.update_of_ne h ..

@[simp] theorem Sys.setConn_shared {conn : Conn H cfg} :
    (s.setConn k conn).shared = s.shared := rfl

@[simp] theorem Sys.setConn_log {conn : Conn H cfg} : (s.setConn k conn).log = s.log := rfl

@[simp] theorem Sys.setConn_issued {conn : Conn H cfg} :
    (s.setConn k conn).issued = s.issued := rfl

@[simp] theorem Sys.setTask_self {task : Task H cfg} :
    (s.setTask k task).conns k = { s.conns k with task } :=
  Sys.setConn_self

@[simp] theorem Sys.setShared_conns {sh : Shared} : (s.setShared sh).conns = s.conns := rfl

@[simp] theorem Sys.setTask_shared {task : Task H cfg} :
    (s.setTask k task).shared = s.shared := rfl

@[simp] theorem Sys.setTask_log {task : Task H cfg} : (s.setTask k task).log = s.log := rfl

@[simp] theorem Sys.setTask_issued {task : Task H cfg} :
    (s.setTask k task).issued = s.issued := rfl

/-- An operation that is not yet jobs. -/
def Op.Snapshot : Op → Prop
  | .jobs _ => False
  | _ => True

theorem Op.Asks.snapshot {op : Op} (h : op.Asks) : op.Snapshot := by
  cases op <;> trivial

/-- The reads of a handler, each with what it found and where the handler goes. -/
inductive Read (s : Sys H cfg) (k : ConnId) (env : Env) : Task H cfg → Task H cfg → Prop
  | stale {inbound : Inbound} :
      (∀ session, (s.conns k).session = some session → ¬ isCurrentSession s.shared.lobbies
        session.lobbyId session.clientId session.generation k = true) →
      Read s k env (.current inbound) (refused k)
  | current {inbound : Inbound} {session : RegisteredSession} :
      (s.conns k).session = some session →
      isCurrentSession s.shared.lobbies session.lobbyId session.clientId session.generation k =
        true →
      Read s k env (.current inbound) (handleInbound k (s.conns k) inbound)
  | unmapped {from_ : String} {forward : Forward} :
      s.shared.clientLobbyMap.lookup from_ = none → Read s k env (.lookup from_ forward) .idle
  | found {from_ lobbyId : String} {forward : Forward} :
      s.shared.clientLobbyMap.lookup from_ = some lobbyId →
      Read s k env (.lookup from_ forward) (forward.task lobbyId from_)
  | named {lobbyId from_ to_ : String} {offer : SessionDescription} :
      Read s k env (.offerName lobbyId from_ to_ offer)
        (.ops [.sendTo lobbyId to_ (.offer from_ to_ offer
          ((s.shared.member lobbyId from_).map (·.playerName)))] .idle)
  | elsewhere {action : HostAction} {task : Task H cfg} :
      (∀ session, (s.conns k).session = some session →
        s.shared.clientLobbyMap.lookup session.clientId ≠ some session.lobbyId) →
      task = .idle ∨ task = .cleanup → Read s k env (.mapped action) task
  | mapped {action : HostAction} {session : RegisteredSession} :
      (s.conns k).session = some session →
      s.shared.clientLobbyMap.lookup session.clientId = some session.lobbyId →
      Read s k env (.mapped action) (.hostAction action)
  | flagged {commit : Commit H cfg} : s.shared.disconnect k = true →
      Read s k env (.committed commit) .cleanup
  | unflagged {commit : Commit H cfg} : s.shared.disconnect k = false →
      Read s k env (.committed commit) (.confirmed commit)
  | superseded {commit : Commit H cfg} :
      ¬ isCurrentSession s.shared.lobbies commit.session.lobbyId commit.session.clientId
        commit.session.generation k = true →
      Read s k env (.confirmed commit) .cleanup
  | confirmed {commit : Commit H cfg} :
      isCurrentSession s.shared.lobbies commit.session.lobbyId commit.session.clientId
        commit.session.generation k = true →
      Read s k env (.confirmed commit) (.ops (commit.notifications k) .idle)
  | finished {next : Next} : Read s k env (.ops [] next) next.task
  | ran {pending : List Op} {next : Next} :
      Read s k env (.ops (.jobs [] :: pending) next) (.ops pending next)
  | started {op : Op} {pending : List Op} {next : Next} : op.Snapshot →
      Read s k env (.ops (op :: pending) next)
        (.ops (.jobs (op.start s.shared k env) :: pending) next)

/-- **What a read finds.** -/
theorem read_cases {task : Task H cfg} (h : s.read k env = some task) :
    Read s k env (s.conns k).task task := by
  unfold Sys.read at h
  dsimp only at h
  generalize (s.conns k).task = t at h ⊢
  cases t with
  | absent | idle | hostAction | registration | cleanup | returned => cases h
  | current inbound =>
    cases h
    split
    · next hs => exact .stale fun _ h => nomatch hs.symm.trans h
    next session hs =>
    split
    · next hcur => exact .current hs hcur
    · next hcur => exact .stale fun _ h => by cases hs.symm.trans h; exact hcur
  | lookup from_ forward =>
    cases h
    split
    · next hl => exact .unmapped hl
    · next hl => exact .found hl
  | offerName lobbyId from_ to_ offer => cases h; exact .named
  | mapped action =>
    cases h
    split
    · next hs => exact .elsewhere (fun _ h => nomatch hs.symm.trans h) (.inr rfl)
    next session hs =>
    split
    · next hl => exact .mapped hs hl
    · next hl => exact .elsewhere (fun _ h => by cases hs.symm.trans h; exact hl) (.inl rfl)
  | committed commit =>
    cases h
    split
    · next hd => exact .flagged hd
    · next hd => exact .unflagged (Bool.eq_false_iff.2 hd)
  | confirmed commit =>
    cases h
    split
    · next hc => exact .confirmed hc
    · next hc => exact .superseded hc
  | ops pending next =>
    cases pending with
    | nil => cases h; exact .finished
    | cons op pending =>
      cases op with
      | jobs js =>
        cases js with
        | nil => cases h; exact .ran
        | cons => cases h
      | _ => cases h; exact .started trivial

/-- The ways in which a handler moves: a read, the three critical sections and their refusals, a
send, a signal. -/
inductive Exec (s : Sys H cfg) (k : ConnId) (env : Env) : Sys H cfg → Prop
  | read {task : Task H cfg} : Read s k env (s.conns k).task task →
      Exec s k env (s.setTask k task)
  | rejected {a : Admission H cfg} {error : String} {refusal : Refusal}
      {failures : RegisterPasswordFailures} : (s.conns k).task = .registration a →
      Exec s k env ((s.setShared { s.shared with failures }).setTask k
        (.ops [.reply k (.registerError error)] refusal.next))
  | committed {a : Admission H cfg} {sh : Shared} {commit : Commit H cfg} :
      (s.conns k).task = .registration a →
      Registers s.shared a s.now env.draws sh commit →
      Exec s k env { (s.setShared sh).setConn k
        { s.conns k with session := some commit.session, task := .committed commit } with
        issued := env.draws.token :: s.issued }
  | hostRefused {action : HostAction} {task : Task H cfg} :
      (s.conns k).task = .hostAction action → task = .idle ∨ task = .cleanup →
      Exec s k env (s.setTask k task)
  | hostActed {action : HostAction} {session : RegisteredSession} {lobby lobby' : LobbyInfo}
      {notice : HostNotice} : (s.conns k).task = .hostAction action →
      (s.conns k).session = some session → Authorized s.shared (session.moderation k) lobby →
      HostEffect env.draws.token lobby action lobby' notice →
      Exec s k env { (s.setShared (action.store s.shared session.lobbyId lobby')).setTask k
        (.ops (notice.notifications session.lobbyId) .idle) with
        issued := notice.drawn ++ s.issued }
  | stayed : (s.conns k).task = .cleanup →
      (∀ session, (s.conns k).session = some session → ∀ info,
        s.shared.member session.lobbyId session.clientId = some info → info.sender ≠ k) →
      Exec s k env (s.setTask k .returned)
  | left {session : RegisteredSession} {lobby : LobbyInfo} {info : ClientInfo} {sh : Shared}
      {departure : Departure} : (s.conns k).task = .cleanup →
      (s.conns k).session = some session → s.shared.lobbies.lookup session.lobbyId = some lobby →
      lobby.clients.lookup session.clientId = some info → info.sender = k →
      Departs s.shared session env.draws.token lobby sh departure →
      Exec s k env { (s.setShared sh).setTask k (.ops departure.notifications .returned) with
        issued := departure.drawn ++ s.issued }
  | sent {js : List Job} {pending : List Op} {next : Next} {d : Delivery} {rest : List Job} :
      (s.conns k).task = .ops (.jobs js :: pending) next → js.Perm (.send d :: rest) →
      js[env.pick % js.length]? = some (.send d) →
      Exec s k env ((s.send k d env.ok).1.setTask k (.ops (.jobs (rest ++
        if (s.send k d env.ok).2 then [] else d.flag.toList.map Job.signal) :: pending) next))
  | signalled {js : List Job} {pending : List Op} {next : Next} {k' : ConnId} {rest : List Job} :
      (s.conns k).task = .ops (.jobs js :: pending) next → js.Perm (.signal k' :: rest) →
      Exec s k env ((s.setShared (s.shared.signal k')).setTask k
        (.ops (.jobs rest :: pending) next))

/-- One of the jobs runs, and the others stay. -/
theorem runJob_cases {js : List Job} {pending : List Op} {next : Next}
    (ht : (s.conns k).task = .ops (.jobs js :: pending) next)
    (h : s.runJob k js pending next env = some s') : Exec s k env s' := by
  unfold Sys.runJob at h
  dsimp only at h
  split at h
  · cases h
  · next d hget =>
    cases h
    obtain ⟨hlt, heq⟩ := List.getElem?_eq_some_iff.1 hget
    exact .sent ht (heq ▸ (List.getElem_cons_eraseIdx_perm hlt).symm) hget
  · next k' hget =>
    cases h
    obtain ⟨hlt, heq⟩ := List.getElem?_eq_some_iff.1 hget
    exact .signalled ht (heq ▸ (List.getElem_cons_eraseIdx_perm hlt).symm)

/-- What a frame that was not sent leaves to do is a signal. -/
theorem mem_failed {ok : Bool} {d : Delivery} {j : Job}
    (h : j ∈ if ok then [] else d.flag.toList.map Job.signal) : ∃ k, j = .signal k := by
  split at h
  · cases h
  · obtain ⟨k, -, rfl⟩ := List.mem_map.1 h
    exact ⟨k, rfl⟩

/-- A frame that is left to send after a job was one of the jobs. -/
theorem mem_left {js rest : List Job} {j : Job} {ok : Bool} {d d' : Delivery}
    (hperm : js.Perm (j :: rest))
    (h : .send d' ∈ rest ++ if ok then [] else d.flag.toList.map Job.signal) : .send d' ∈ js := by
  rcases List.mem_append.1 h with h | h
  · exact hperm.mem_iff.2 (List.mem_cons_of_mem _ h)
  · obtain ⟨_, heq⟩ := mem_failed h
    cases heq

/-- **What a step of a handler does.** -/
theorem exec_cases (h : s.exec k env = some s') : Exec s k env s' := by
  unfold Sys.exec at h
  split at h
  · next a ht =>
    cases h
    unfold Sys.register
    split
    · next hout =>
      obtain ⟨_, _, failures, heq, rfl⟩ | ⟨_, heq, -⟩ := handleV3Locked_cases hout
      · cases heq
        exact .rejected ht
      · cases heq
    · next hout =>
      obtain ⟨_, _, _, heq, -⟩ | ⟨_, heq, hreg⟩ := handleV3Locked_cases hout
      · cases heq
      · cases heq
        exact .committed ht hreg
  · next action ht =>
    cases h
    split
    · exact .hostRefused ht (.inr rfl)
    next session hs =>
    unfold Sys.moderate
    split
    · next sh result hout =>
      obtain ⟨_, heq, rfl⟩ | ⟨_, _, _, _, _, heq, -⟩ := moderate_cases hout
      · cases heq
        exact .hostRefused ht (by cases result <;> simp [ModerationDispatch.task])
      · cases heq
    · next hout =>
      obtain ⟨_, heq, -⟩ | ⟨_, _, _, hauth, he, heq, rfl⟩ := moderate_cases hout
      · cases heq
      · cases heq
        exact .hostActed ht hs hauth he
  · next ht =>
    cases h
    split
    · next hs => exact .stayed ht fun _ h => nomatch hs.symm.trans h
    next session hs =>
    unfold Sys.cleanup
    split
    · next hout =>
      obtain ⟨-, rfl, hother⟩ | ⟨_, _, _, _, _, _, heq, -⟩ := cleanup_cases hout
      · exact .stayed ht fun _ h => by cases hs.symm.trans h; exact hother
      · cases heq
    · next hout =>
      obtain ⟨heq, -, -⟩ | ⟨_, _, _, hl, hc, hk, heq, hdep⟩ := cleanup_cases hout
      · cases heq
      · cases heq
        exact .left ht hs hl hc hk hdep
  · next j js pending next ht => exact runJob_cases ht h
  · obtain ⟨task, hread, rfl⟩ := Option.map_eq_some_iff.1 h
    exact .read (read_cases hread)

/-- The ways in which the server moves. -/
inductive Move (s : Sys H cfg) : Action → Sys H cfg → Prop
  | connected {k : ConnId} {challenge : String} {sourceIp : IpAddr} {ok : Bool} :
      (s.conns k).task = .absent →
      Move s (.connect k challenge sourceIp ok) (s.connect k challenge sourceIp ok)
  | ticked {n : Nat} : Move s (.tick n) { s with now := s.now + n }
  | refused {k : ConnId} {inbound : Inbound} {rate : MessageRateLimiter} :
      (s.conns k).task = .idle →
      Move s (.receive k inbound)
        (s.setConn k { s.conns k with rate, task := MctierSignaling.refused k })
  | received {k : ConnId} {inbound : Inbound} {rate : MessageRateLimiter} :
      (s.conns k).task = .idle → (s.conns k).session.isSome = true →
      Move s (.receive k inbound) (s.setConn k { s.conns k with rate, task := .current inbound })
  | handled {k : ConnId} {inbound : Inbound} {rate : MessageRateLimiter} :
      (s.conns k).task = .idle → (s.conns k).session = none →
      Move s (.receive k inbound) (s.setConn k { s.conns k with
        rate, task := handleInbound k (s.conns k) inbound })
  | hungUp {k : ConnId} : (s.conns k).task = .idle → Move s (.hangup k) (s.setTask k .cleanup)
  | moved {k : ConnId} {env : Env} {s' : Sys H cfg} : Exec s k env s' → Move s (.exec k env) s'

/-- What a handler does with a frame does not depend on its counters. -/
theorem handleInbound_rate {conn : Conn H cfg} {rate : MessageRateLimiter} {inbound : Inbound} :
    handleInbound k { conn with rate } inbound = handleInbound k conn inbound :=
  rfl

theorem receive_cases {inbound : Inbound} (ht : (s.conns k).task = .idle) :
    Move s (.receive k inbound) (s.receive k inbound) := by
  unfold Sys.receive
  dsimp only
  split
  · exact .refused ht
  split
  · next hs => exact .received ht hs
  · next hs =>
    rw [handleInbound_rate]
    exact .handled ht (by simpa using hs)

/-- **What a step of the server does.** -/
theorem step_cases {act : Action} (h : SysStep s act s') : Move s act s' := by
  cases act with
  | connect k challenge sourceIp ok =>
    simp only [SysStep, Sys.step] at h
    split at h
    · next ht => cases h; exact .connected ht
    · cases h
  | tick n => cases h; exact .ticked
  | receive k inbound =>
    simp only [SysStep, Sys.step] at h
    split at h
    · next ht => cases h; exact receive_cases ht
    · cases h
  | hangup k =>
    simp only [SysStep, Sys.step] at h
    split at h
    · next ht => cases h; exact .hungUp ht
    · cases h
  | exec k env => exact .moved (exec_cases h)

/-! ## What a step leaves alone -/

/-- The connection whose handler acts, or which acts itself. -/
def Action.actor : Action → Option ConnId
  | .connect k .. | .receive k _ | .hangup k | .exec k _ => some k
  | .tick _ => none

/-- A step changes the variables of the acting connection only, except for the budgets that its
sends charge. -/
structure Untouched (conn conn' : Conn H cfg) : Prop where
  session : conn'.session = conn.session
  task : conn'.task = conn.task
  challenge : conn'.challenge = conn.challenge
  sourceIp : conn'.sourceIp = conn.sourceIp
  rate : conn'.rate = conn.rate

theorem Untouched.rfl {conn : Conn H cfg} : Untouched conn conn := ⟨.refl _, .refl _, .refl _,
  .refl _, .refl _⟩

theorem Sys.setConn_untouched {conn : Conn H cfg} {k' : ConnId} (h : k' ≠ k) :
    Untouched (s.conns k') ((s.setConn k conn).conns k') := by
  rw [Sys.setConn_ne h]
  exact .rfl

/-- A send changes one budget, and the log. -/
theorem Sys.send_untouched {d : Delivery} {written : Bool} {k' : ConnId} :
    Untouched (s.conns k') ((s.send k d written).1.conns k') := by
  unfold Sys.send Sys.setConn
  dsimp only
  by_cases hk : k' = d.to_
  · subst hk
    rw [Function.update_self]
    exact ⟨.refl _, .refl _, .refl _, .refl _, .refl _⟩
  · rw [Function.update_of_ne hk]
    exact .rfl

theorem Untouched.trans {conn conn' conn'' : Conn H cfg} (h : Untouched conn conn')
    (h' : Untouched conn' conn'') : Untouched conn conn'' where
  session := h'.session.trans h.session
  task := h'.task.trans h.task
  challenge := h'.challenge.trans h.challenge
  sourceIp := h'.sourceIp.trans h.sourceIp
  rate := h'.rate.trans h.rate

/-- A step of a handler leaves the other connections alone. -/
theorem Exec.untouched (h : Exec s k env s') {k' : ConnId} (hk : k' ≠ k) :
    Untouched (s.conns k') (s'.conns k') := by
  cases h with
  | sent => exact Sys.send_untouched.trans (Sys.setConn_untouched hk)
  | _ => exact Sys.setConn_untouched hk

/-- A step leaves the connections alone that do not act. -/
theorem Move.untouched {act : Action} (h : Move s act s') {k' : ConnId}
    (hk : act.actor ≠ some k') : Untouched (s.conns k') (s'.conns k') := by
  cases h with
  | connected =>
    have hne := fun heq : k' = _ => hk (congrArg some heq.symm)
    exact (Sys.setConn_untouched hne).trans (Sys.send_untouched.trans (Sys.setConn_untouched hne))
  | ticked => exact .rfl
  | refused | received | handled | hungUp =>
    exact Sys.setConn_untouched fun heq => hk (congrArg some heq.symm)
  | moved h => exact h.untouched fun heq => hk (congrArg some heq.symm)

/-- A list of actions leaves the connections alone that do not act in it. -/
theorem Untouched.foldlM {f : Sys H cfg → Action → Option (Sys H cfg)}
    (hf : ∀ s act s', f s act = some s' → SysStep s act s') {acts : List Action} {k' : ConnId}
    (hacts : ∀ act ∈ acts, act.actor ≠ some k') (h : acts.foldlM f s = some s') :
    Untouched (s.conns k') (s'.conns k') := by
  induction acts generalizing s with
  | nil => cases h; exact .rfl
  | cons act acts ih =>
    rw [List.foldlM_cons] at h
    obtain ⟨s₁, hs₁, h⟩ := Option.bind_eq_some_iff.1 h
    exact ((step_cases (hf _ _ _ hs₁)).untouched (hacts act List.mem_cons_self)).trans
      (ih (fun act hact => hacts act (List.mem_cons_of_mem _ hact)) h)

/-! ## The critical sections of a run -/

theorem Sys.register_shared {a : Admission H cfg} :
    (s.register k a env).shared = (handleV3Locked s.shared a s.now env.draws).1 := by
  unfold Sys.register
  rcases handleV3Locked s.shared a s.now env.draws with ⟨sh, _ | _⟩ <;> rfl

theorem Sys.moderate_shared {session : RegisteredSession} {action : HostAction} :
    (s.moderate k session action env).shared =
      (MctierSignaling.moderate s.shared (session.moderation k) env.draws.token action).1 := by
  unfold Sys.moderate
  rcases MctierSignaling.moderate s.shared (session.moderation k) env.draws.token action with
    ⟨sh, _ | _⟩ <;> rfl

theorem Sys.cleanup_shared {session : RegisteredSession} :
    (s.cleanup k session env).shared =
      (MctierSignaling.cleanup s.shared k session env.order env.draws.token).1 := by
  unfold Sys.cleanup
  rcases MctierSignaling.cleanup s.shared k session env.order env.draws.token with
    ⟨sh, _ | _⟩ <;> rfl

/-- The critical section that an action runs. -/
inductive Sys.Section (s : Sys H cfg) : Action → Critical H cfg → Prop
  | register {k : ConnId} {env : Env} {a : Admission H cfg} :
      (s.conns k).task = .registration a →
      s.Section (.exec k env) (.register a s.now env.draws)
  | moderate {k : ConnId} {env : Env} {session : RegisteredSession} {action : HostAction} :
      (s.conns k).task = .hostAction action → (s.conns k).session = some session →
      s.Section (.exec k env) (.moderate (session.moderation k) env.draws.token action)
  | cleanup {k : ConnId} {env : Env} {session : RegisteredSession} :
      (s.conns k).task = .cleanup → (s.conns k).session = some session →
      s.Section (.exec k env) (.cleanup k session env.order env.draws.token)
  | signal {k k' : ConnId} {env : Env} : s.Section (.exec k env) (.signal k')

/-- The lobby state moves by one critical section at a time. -/
theorem step_shared {act : Action} (h : SysStep s act s') :
    s'.shared = s.shared ∨
      ∃ c : Critical H cfg, s.Section act c ∧ c.Step s.shared s'.shared := by
  cases act with
  | connect | receive | hangup => cases step_cases h <;> exact .inl rfl
  | tick => cases h; exact .inl rfl
  | exec k env =>
    simp only [SysStep, Sys.step] at h
    unfold Sys.exec at h
    split at h
    · next a ht =>
      cases h
      exact .inr ⟨_, .register ht, Sys.register_shared⟩
    · next action ht =>
      cases h
      split
      · exact .inl rfl
      next session hs =>
      exact .inr ⟨_, .moderate ht hs, Sys.moderate_shared⟩
    · next ht =>
      cases h
      split
      · exact .inl rfl
      next session hs =>
      exact .inr ⟨_, .cleanup ht hs, Sys.cleanup_shared⟩
    · next j js pending next ht =>
      cases runJob_cases ht h with
      | signalled => exact .inr ⟨_, .signal, rfl⟩
      | sent => exact .inl rfl
      | read => exact .inl rfl
      | rejected ht' | committed ht' | hostRefused ht' | hostActed ht' | stayed ht' | left ht' =>
        cases ht.symm.trans ht'
    · obtain ⟨task, -, rfl⟩ := Option.map_eq_some_iff.1 h
      exact .inl rfl

/-- The lobby state of a reachable server is reachable by critical sections. -/
theorem ReachableSys.shared (h : ReachableSys s) : ReachableShared H cfg s.shared :=
  h.simulate (·.shared) (fun _ h => h ▸ rfl) fun _ _ _ _ hs =>
    (step_shared hs).imp_right fun ⟨c, _, hc⟩ => ⟨c, hc⟩

end

/-! ## A recorded handshake

Three connections are opened, and alice and bob, who has two of them, send their registrations.
The examples of the later modules run from here. -/

section
variable {H : Crypto} {cfg : ServerConfig} {s : Sys H cfg} {k : ConnId}

/-- The state after a connection was opened and sent its challenge. -/
def Sys.greet (s : Sys H cfg) (k : ConnId) (challenge : String) (sourceIp : IpAddr) : Sys H cfg :=
  let d := reply k (.serverChallenge challenge true SIGNALING_PROTOCOL_VERSION)
  { s.setConn k
      ⟨challenge, sourceIp, none, .new s.now,
        ((OutboundBudget.new s.now).allow s.now d.frame.bytes).1, .idle⟩ with
    log := ⟨k, d, true⟩ :: s.log }

/-- The state after an admitted registration request arrived. -/
def Sys.arrive (s : Sys H cfg) (k : ConnId) (a : Admission H cfg) : Sys H cfg :=
  s.setConn k { s.conns k with
    rate := ((s.conns k).rate.allow s.now).1
    task := .registration a }

/-- The state is reached by what happens outside the handlers alone. -/
def ReachableOutside (s : Sys H cfg) : Prop :=
  ∃ ts, SysRun ts s ∧ ∀ t ∈ ts, ∀ k env, t.act ≠ .exec k env

theorem ReachableOutside.snoc {a : Action} {s' : Sys H cfg} (h : ReachableOutside s)
    (hout' : ∀ k env, a ≠ .exec k env) (hs : SysStep s a s') : ReachableOutside s' := by
  obtain ⟨ts, hts, hout⟩ := h
  refine ⟨_, hts.snoc hs, fun t ht => ?_⟩
  rcases List.mem_cons.1 ht with rfl | ht
  · exact hout'
  · exact hout t ht

theorem ReachableOutside.greet (h : ReachableOutside s) {challenge : String} {sourceIp : IpAddr}
    (ht : (s.conns k).task = .absent)
    (hbudget : ((OutboundBudget.new s.now).allow s.now (reply k
      (.serverChallenge challenge true SIGNALING_PROTOCOL_VERSION)).frame.bytes).2 = true) :
    ReachableOutside (s.greet k challenge sourceIp) := by
  refine h.snoc (a := .connect k challenge sourceIp true) (fun _ _ => nofun) ?_
  simp only [SysStep, Sys.step, ht, Sys.connect, Sys.send, Sys.setTask, Sys.setConn, Sys.greet,
    reply, Function.update_self, Function.update_idem] at hbudget ⊢
  rw [hbudget]
  rfl

theorem ReachableOutside.arrive (h : ReachableOutside s) {a : Admission H cfg} {inbound : Inbound}
    (ht : (s.conns k).task = .idle) (hs : (s.conns k).session = none)
    (hrate : ((s.conns k).rate.allow s.now).2 = true)
    (ha : handleInbound k (s.conns k) inbound = .registration a) :
    ReachableOutside (s.arrive k a) := by
  refine h.snoc (a := .receive k inbound) (fun _ _ => nofun) ?_
  simp only [SysStep, Sys.step, ht]
  refine congrArg some ?_
  unfold Sys.receive Sys.arrive
  dsimp only
  rw [if_neg (by simp [hrate]), if_neg (by simp [hs]), handleInbound_rate, ha]

end

/-- The source of the recorded connections. -/
def recordedSource : IpAddr := .v4 ⟨192, 0, 2, 1⟩

/-- Three connections have their challenges. -/
def greeted : Sys recordedCrypto .default :=
  ((Sys.initial.greet 1 (repeatedByte "a1" 32) recordedSource).greet 2 (repeatedByte "b2" 32)
    recordedSource).greet 3 (repeatedByte "c3" 32) recordedSource

/-- Alice and bob have sent their registrations. -/
def handshake : Sys recordedCrypto .default :=
  ((greeted.arrive 1 alice).arrive 2 bob).arrive 3 bobAgain

theorem greeted_outside : ReachableOutside greeted := by
  have h0 : ReachableOutside (Sys.initial : Sys recordedCrypto .default) :=
    ⟨[], .start rfl, fun _ ht => absurd ht List.not_mem_nil⟩
  have h1 : ReachableOutside (Sys.initial.greet 1 (repeatedByte "a1" 32) recordedSource) :=
    h0.greet rfl (by decide +kernel)
  have h2 : ReachableOutside ((Sys.initial.greet 1 (repeatedByte "a1" 32) recordedSource).greet 2
      (repeatedByte "b2" 32) recordedSource) := h1.greet rfl (by decide +kernel)
  exact h2.greet rfl (by decide +kernel)

theorem handshake_outside : ReachableOutside handshake := by
  have h1 := greeted_outside.arrive (k := 1) rfl rfl (by decide +kernel)
    (handleInbound_registration (by decide +kernel) alice_checks)
  have h2 := h1.arrive (k := 2) rfl rfl (by decide +kernel)
    (handleInbound_registration (by decide +kernel) bob_checks)
  exact h2.arrive (k := 3) rfl rfl (by decide +kernel)
    (handleInbound_registration (by decide +kernel) bobAgain_checks)

/-- Nobody else is connected. -/
theorem handshake_absent {k : ConnId} (h1 : k ≠ 1) (h2 : k ≠ 2) (h3 : k ≠ 3) :
    handshake.conns k = .absent := by
  simp only [handshake, greeted, Sys.arrive, Sys.greet, Sys.setConn, Function.update_of_ne h1,
    Function.update_of_ne h2, Function.update_of_ne h3]
  rfl

/-- A handler waits to register, or has no connection. -/
theorem handshake_task (k : ConnId) : (handshake.conns k).task = .absent ∨
    ∃ a, (handshake.conns k).task = .registration a := by
  by_cases h1 : k = 1
  · subst h1
    exact .inr ⟨alice, rfl⟩
  by_cases h2 : k = 2
  · subst h2
    exact .inr ⟨bob, rfl⟩
  by_cases h3 : k = 3
  · subst h3
    exact .inr ⟨bobAgain, rfl⟩
  rw [handshake_absent h1 h2 h3]
  exact .inl rfl

theorem handshake_reachable : ReachableSys handshake :=
  have ⟨ts, hts, _⟩ := handshake_outside
  ⟨ts, hts⟩

end MctierSignaling
