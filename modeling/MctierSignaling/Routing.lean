import MctierSignaling.Sends

/-!
# Routing

What one message does when no other handler steps in between. A message with a `to` field is for one
member of the sender's lobby, a broadcast is for all the others, and nothing else is forwarded
(`forwardedFrames`). The arms of the dispatch rebuild their messages field by field, and find the
lobby by the reverse map or by the session; `routed_spec` and `dispatch_quiet` compare each of them
with what the message asks for. The steps that follow only read what is shared
(`Exec.quiet`), so that the frames a handler offers are those that its task has left to route
(`Task.routes`).
-/

namespace MctierSignaling

/-! ## What a message asks for -/

/-- The `to` field of a message. -/
def SignalingMessage.recipient : SignalingMessage → Option String
  | .offer _ to_ .. | .voiceReconnect _ to_ | .answer _ to_ _ | .iceCandidate _ to_ _
  | .screenShareRelay _ to_ .. | .screenShareOffer _ to_ .. | .screenShareAnswer _ to_ ..
  | .screenShareIceCandidate _ to_ .. | .screenShareError _ to_ ..
  | .screenShareListResponse _ to_ .. | .fileShareListResponse _ to_ _
  | .remoteControlRequest _ to_ .. | .remoteControlAccept _ to_ _ | .remoteControlReject _ to_ ..
  | .remoteControlOffer _ to_ .. | .remoteControlAnswer _ to_ .. | .remoteControlIce _ to_ ..
  | .remoteControlStop _ to_ _ => some to_
  | _ => none

/-- The messages for everybody else in the lobby. -/
def SignalingMessage.isBroadcast : SignalingMessage → Bool
  | .statusUpdate .. | .screenShareStart .. | .screenShareStop .. | .screenShareListRequest _
  | .screenShareViewerLeft .. | .screenShareUpdate .. | .fileShareAdded .. | .fileShareRemoved ..
  | .fileShareListRequest _ | .shareUpdated .. => true
  | _ => false

/-- The messages after which a registered connection ends. -/
def SignalingMessage.ends : SignalingMessage → Bool
  | .leave _ | .register .. | .registerV3 .. => true
  | _ => false

/-- The message names the client of the session as its sender, or nobody. -/
def RegisteredSession.owns (session : RegisteredSession) (message : SignalingMessage) : Bool :=
  message.claimedSender.all (· == session.clientId)

/-- A message as it is forwarded: an offer carries the name that its sender has in the lobby. -/
def SignalingMessage.forwardedIn (lobby : LobbyInfo) : SignalingMessage → SignalingMessage
  | .offer from_ to_ data _ =>
    .offer from_ to_ data ((lobby.clients.lookup from_).map (·.playerName))
  | message => message

/-- The members that a message of a client is for. -/
def LobbyInfo.recipients (lobby : LobbyInfo) (clientId : String) (message : SignalingMessage) :
    List ClientInfo :=
  match message.recipient with
  | some to_ => (lobby.clients.lookup to_).toList
  | none =>
    if message.isBroadcast then
      (lobby.clients.entries.filter (·.1 != clientId)).map (·.2)
    else []

/-- The frames for a message of a session: one for each recipient, with the session as its stamp. -/
def forwardedFrames (lobby : LobbyInfo) (session : RegisteredSession) (message : SignalingMessage) :
    List Delivery :=
  (lobby.recipients session.clientId message).map fun target =>
    ⟨target.sender, .text (message.forwardedIn lobby) (some (session.clientId, session.generation)),
      some target.disconnect, some session.lobbyId⟩

section
variable {H : Crypto} {cfg : ServerConfig}

/-! ## What is left to route -/

/-- The routed frame of a job. -/
def Job.routed : Job → Option Delivery
  | .send d => if d.via.isSome then some d else none
  | .signal _ => none

/-- The routed frames of an operation. -/
def Op.routes (sh : Shared) : Op → List Delivery
  | .jobs js => js.filterMap Job.routed
  | .sendTo lobbyId clientId message => sendToLobbyClient sh.lobbies lobbyId clientId message
  | .broadcast lobbyId excludeId message => broadcastToLobby sh.lobbies lobbyId excludeId message
  | _ => []

/-- The frames of a message on its way, in the lobby that was found. -/
def Forward.routes (sh : Shared) (lobbyId from_ : String) : Forward → List Delivery
  | .direct to_ message => sendToLobbyClient sh.lobbies lobbyId to_ message
  | .offer to_ data => sendToLobbyClient sh.lobbies lobbyId to_
      (.offer from_ to_ data ((sh.member lobbyId from_).map (·.playerName)))
  | .broadcast message => broadcastToLobby sh.lobbies lobbyId from_ message

/-- The frames that a handler has left to route, if nothing else happens. -/
def Task.routes (sh : Shared) : Task H cfg → List Delivery
  | .lookup from_ forward =>
    match sh.clientLobbyMap.lookup from_ with
    | none => []
    | some lobbyId => forward.routes sh lobbyId from_
  | .offerName lobbyId from_ to_ data => (Forward.offer to_ data).routes sh lobbyId from_
  | .ops pending _ => pending.flatMap (·.routes sh)
  | _ => []

/-- The operation sends routed frames, or answers its own connection. -/
def Op.Quiet (k : ConnId) : Op → Prop
  | .jobs js => ∀ d, Job.send d ∈ js → d.via.isSome = true ∨ d.to_ = k
  | .rotation .. => False
  | _ => True

/-- The handler changes nothing shared before it is idle or cleans up. -/
def Task.Quiet (k : ConnId) : Task H cfg → Prop
  | .idle | .cleanup | .lookup .. | .offerName .. => True
  | .ops pending next => next ≠ .returned ∧ ∀ op ∈ pending, op.Quiet k
  | _ => False

/-- The handler ends in its cleanup. -/
def Task.leaves : Task H cfg → Bool
  | .cleanup | .ops _ .cleanup => true
  | _ => false

/-- Between two states the lobbies are the same, and the handler of the connection offered just
these routed frames, and other frames to its own connection only. -/
structure Offers (k : ConnId) (s s' : Sys H cfg) (frames : List Delivery) : Prop where
  lobbies : s'.shared.lobbies = s.shared.lobbies
  clientLobbyMap : s'.shared.clientLobbyMap = s.shared.clientLobbyMap
  log : ∃ new, s'.log = new ++ s.log ∧
    (∀ e ∈ new, e.by_ = k ∧ (e.delivery.via.isSome = true ∨ e.delivery.to_ = k)) ∧
    ((new.map (·.delivery)).filter (·.via.isSome)).Perm frames

/-- Steps of the handler of one connection, with no others in between, up to where it is idle or
cleans up. -/
inductive Handles (k : ConnId) : Sys H cfg → Sys H cfg → Prop
  | done {s : Sys H cfg} : (s.conns k).task = .idle ∨ (s.conns k).task = .cleanup → Handles k s s
  | tick {s s' : Sys H cfg} {n : Nat} : Handles k { s with now := s.now + n } s' → Handles k s s'
  | step {s s₁ s' : Sys H cfg} {env : Env} : (s.conns k).task ≠ .cleanup →
      SysStep s (.exec k env) s₁ → Handles k s₁ s' → Handles k s s'

/-- A message arrives on a connection, and its handler deals with it. -/
def Processes (k : ConnId) (message : SignalingMessage) (s s' : Sys H cfg) : Prop :=
  ∃ s₁, SysStep s (.receive k (.text (.ok message))) s₁ ∧ Handles k s₁ s'

variable {s s₁ s' : Sys H cfg} {k : ConnId} {env : Env} {message : SignalingMessage}

/-! ## Offers -/

/-- Nothing was offered, and no lobby changed. -/
theorem Offers.nothing (hl : s'.shared.lobbies = s.shared.lobbies)
    (hm : s'.shared.clientLobbyMap = s.shared.clientLobbyMap) (hlog : s'.log = s.log) :
    Offers k s s' [] :=
  ⟨hl, hm, [], hlog, fun _ he => absurd he List.not_mem_nil, .nil⟩

theorem Offers.perm {frames frames' : List Delivery} (h : Offers k s s' frames)
    (hperm : frames.Perm frames') : Offers k s s' frames' :=
  have ⟨new, hlog, hby, hnew⟩ := h.log
  ⟨h.lobbies, h.clientLobbyMap, new, hlog, hby, hnew.trans hperm⟩

theorem Offers.trans {frames frames' : List Delivery} (h : Offers k s s₁ frames)
    (h' : Offers k s₁ s' frames') : Offers k s s' (frames ++ frames') := by
  obtain ⟨new, hlog, hby, hnew⟩ := h.log
  obtain ⟨new', hlog', hby', hnew'⟩ := h'.log
  refine ⟨h'.lobbies.trans h.lobbies, h'.clientLobbyMap.trans h.clientLobbyMap, new' ++ new, ?_,
    fun e he => (List.mem_append.1 he).elim (hby' e) (hby e), ?_⟩
  · rw [hlog', hlog, List.append_assoc]
  · rw [List.map_append, List.filter_append]
    exact (hnew'.append hnew).trans List.perm_append_comm

/-- What was offered is determined. -/
theorem Offers.unique {frames frames' : List Delivery} (h : Offers k s s' frames)
    (h' : Offers k s s' frames') : frames.Perm frames' := by
  obtain ⟨new, hlog, -, hnew⟩ := h.log
  obtain ⟨new', hlog', -, hnew'⟩ := h'.log
  obtain rfl := List.append_cancel_right (hlog.symm.trans hlog')
  exact hnew.symm.trans hnew'

/-- What was offered since a state with the same lobbies and the same log. -/
theorem Offers.since {frames : List Delivery} (h : Offers k s₁ s' frames)
    (hl : s₁.shared.lobbies = s.shared.lobbies)
    (hm : s₁.shared.clientLobbyMap = s.shared.clientLobbyMap) (hlog : s₁.log = s.log) :
    Offers k s s' frames :=
  ⟨h.lobbies.trans hl, h.clientLobbyMap.trans hm, hlog ▸ h.log⟩

/-! ## Steps -/

/-- A disconnect signal changes nothing that is routed. -/
@[simp] theorem Op.routes_signal {op : Op} {sh : Shared} :
    op.routes (sh.signal k) = op.routes sh := by
  cases op <;> rfl

/-- The routed frames of a snapshot are those of its operation. -/
theorem Op.start_routes {op : Op} {sh : Shared} (hsnap : op.Snapshot) (hq : op.Quiet k) :
    (Op.jobs (op.start sh k env)).routes sh = op.routes sh := by
  have hsend : ∀ ds : List Delivery, (∀ d ∈ ds, d.via.isSome = true) →
      (ds.map Job.send).filterMap Job.routed = ds := by
    intro ds hds
    rw [List.filterMap_map]
    refine (List.filterMap_congr fun d hd => ?_).trans List.filterMap_some
    exact if_pos (hds d hd)
  cases op with
  | jobs => exact hsnap.elim
  | rotation => exact hq.elim
  | sendTo =>
    refine hsend _ fun d hd => ?_
    obtain ⟨_, _, -, -, rfl⟩ := mem_sendToLobbyClient hd
    rfl
  | broadcast =>
    refine hsend _ fun d hd => ?_
    obtain ⟨_, _, _, -, -, -, rfl⟩ := mem_broadcastToLobby hd
    rfl
  | _ => rfl

/-- A snapshot makes routed frames, or an answer. -/
theorem Op.start_quiet {op : Op} {sh : Shared} (hsnap : op.Snapshot) (hq : op.Quiet k) :
    (Op.jobs (op.start sh k env)).Quiet k := by
  intro d hd
  cases op with
  | jobs => exact hsnap.elim
  | rotation => exact hq.elim
  | sendTo =>
    obtain ⟨d', hd', heq⟩ := List.mem_map.1 hd
    cases heq
    obtain ⟨_, _, -, -, rfl⟩ := mem_sendToLobbyClient hd'
    exact .inl rfl
  | broadcast =>
    obtain ⟨d', hd', heq⟩ := List.mem_map.1 hd
    cases heq
    obtain ⟨_, _, _, -, -, -, rfl⟩ := mem_broadcastToLobby hd'
    exact .inl rfl
  | _ =>
    cases List.mem_singleton.1 hd
    exact .inr rfl

/-- A read of a quiet handler leads to a quiet task with the same frames to route. -/
theorem Read.quiet {task task' : Task H cfg} (h : Read s k env task task') (hq : task.Quiet k) :
    task'.Quiet k ∧ task'.routes s.shared = task.routes s.shared ∧ task'.leaves = task.leaves := by
  cases h with
  | unmapped hl => exact ⟨trivial, by simp only [Task.routes, hl], rfl⟩
  | @found from_ lobbyId forward hl =>
    have hroutes : (Task.lookup from_ forward : Task H cfg).routes s.shared =
        forward.routes s.shared lobbyId from_ := by simp only [Task.routes, hl]
    rw [hroutes]
    cases forward with
    | offer => exact ⟨trivial, rfl, rfl⟩
    | direct | broadcast =>
      refine ⟨⟨nofun, fun op hop => ?_⟩, List.append_nil _, rfl⟩
      cases List.mem_singleton.1 hop
      trivial
  | named =>
    refine ⟨⟨nofun, fun op hop => ?_⟩, List.append_nil _, rfl⟩
    cases List.mem_singleton.1 hop
    trivial
  | @finished next =>
    cases next with
    | returned => exact absurd rfl hq.1
    | _ => exact ⟨trivial, rfl, rfl⟩
  | @ran pending next =>
    exact ⟨⟨hq.1, fun op hop => hq.2 op (List.mem_cons_of_mem _ hop)⟩, rfl, by cases next <;> rfl⟩
  | @started op pending next hsnap =>
    obtain ⟨hnext, hpending⟩ := hq
    have hop := hpending op List.mem_cons_self
    refine ⟨⟨hnext, fun op' hop' => ?_⟩, ?_, ?_⟩
    · rcases List.mem_cons.1 hop' with rfl | hop'
      · exact Op.start_quiet hsnap hop
      · exact hpending op' (List.mem_cons_of_mem _ hop')
    · simp only [Task.routes, List.flatMap_cons, Op.start_routes hsnap hop]
    · cases next <;> rfl
  | _ => exact hq.elim

/-- **A step of a quiet handler.** It stays quiet, changes no lobby, and the frames that it offers
and those that it still has to route are those that it had to route. -/
theorem Exec.quiet (h : Exec s k env s') (hq : (s.conns k).task.Quiet k)
    (hne : (s.conns k).task ≠ .cleanup) :
    ∃ frames, Offers k s s' frames ∧ (s'.conns k).task.Quiet k ∧
      (frames ++ (s'.conns k).task.routes s'.shared).Perm ((s.conns k).task.routes s.shared) ∧
      (s'.conns k).task.leaves = (s.conns k).task.leaves := by
  cases h with
  | read hread =>
    obtain ⟨hq', hroutes, hleaves⟩ := hread.quiet hq
    refine ⟨[], .nothing rfl rfl rfl, ?_⟩
    rw [Sys.setTask_self]
    exact ⟨hq', .of_eq hroutes, hleaves⟩
  | rejected ht | committed ht | hostRefused ht | hostActed ht =>
    rw [ht] at hq
    exact hq.elim
  | stayed ht | left ht => exact absurd ht hne
  | @sent js pending next d rest ht hperm =>
    rw [ht] at hq ⊢
    obtain ⟨hnext, hpending⟩ := hq
    have hjobs : (Op.jobs js).Quiet k := hpending _ List.mem_cons_self
    refine ⟨[d].filter (·.via.isSome), ⟨.refl _, .refl _, [_], .refl _, ?_, .refl _⟩, ?_⟩
    · intro e he
      cases List.mem_singleton.1 he
      exact ⟨rfl, hjobs d (hperm.mem_iff.2 List.mem_cons_self)⟩
    rw [Sys.setTask_self]
    generalize hsignals : (if (s.send k d env.ok).2 then []
      else d.flag.toList.map Job.signal) = signals
    refine ⟨⟨hnext, fun op hop => ?_⟩, ?_, by cases next <;> rfl⟩
    · rcases List.mem_cons.1 hop with rfl | hop
      · exact fun d' hd' => hjobs d' (mem_left hperm (hsignals ▸ hd'))
      · exact hpending op (List.mem_cons_of_mem _ hop)
    · have hnil : signals.filterMap Job.routed = [] := List.filterMap_eq_nil_iff.2 fun j hj => by
        obtain ⟨_, rfl⟩ := mem_failed (hsignals ▸ hj)
        rfl
      have hrest : (rest ++ signals).filterMap Job.routed = rest.filterMap Job.routed := by
        rw [List.filterMap_append, hnil, List.append_nil]
      have hsplit : (js.filterMap Job.routed).Perm
          ([d].filter (·.via.isSome) ++ rest.filterMap Job.routed) := by
        refine (hperm.filterMap _).trans (.of_eq ?_)
        cases hvia : d.via.isSome <;> simp [Job.routed, hvia]
      simp only [Task.routes, List.flatMap_cons, Op.routes, hrest]
      rw [← List.append_assoc]
      exact hsplit.symm.append_right _
  | @signalled js pending next k' rest ht hperm =>
    rw [ht] at hq ⊢
    obtain ⟨hnext, hpending⟩ := hq
    refine ⟨[], .nothing rfl rfl rfl, ?_⟩
    rw [Sys.setTask_self]
    refine ⟨⟨hnext, fun op hop => ?_⟩, ?_, by cases next <;> rfl⟩
    · rcases List.mem_cons.1 hop with rfl | hop
      · exact fun d hd => hpending _ List.mem_cons_self d
          (hperm.mem_iff.2 (List.mem_cons_of_mem _ hd))
      · exact hpending op (List.mem_cons_of_mem _ hop)
    · simp only [Task.routes, List.flatMap_cons, Sys.setTask_shared, Sys.setShared,
        Op.routes_signal, List.nil_append]
      exact (hperm.filterMap Job.routed).symm.append_right _

/-- **A quiet handler on its own.** It offers the frames that it has to route. -/
theorem Handles.quiet (h : Handles k s s') (hq : (s.conns k).task.Quiet k) :
    Offers k s s' ((s.conns k).task.routes s.shared) ∧
      ((s'.conns k).task = .cleanup ↔ (s.conns k).task.leaves = true) := by
  induction h with
  | done hdone =>
    rcases hdone with ht | ht <;> rw [ht] <;> exact ⟨.nothing rfl rfl rfl, by simp [Task.leaves]⟩
  | tick _ ih =>
    obtain ⟨hoffers, hends⟩ := ih hq
    exact ⟨hoffers.since rfl rfl rfl, hends⟩
  | step hne hs _ ih =>
    obtain ⟨frames, hoffers, hq', hperm, hleaves⟩ := (exec_cases hs).quiet hq hne
    obtain ⟨hrest, hends⟩ := ih hq'
    exact ⟨(hoffers.trans hrest).perm hperm, hleaves ▸ hends⟩

/-! ## Messages -/

/-- The frame to one member. -/
theorem sendToLobbyClient_eq {lobbies : HashMap String LobbyInfo} {lobbyId clientId : String}
    {lobby : LobbyInfo} (hl : lobbies.lookup lobbyId = some lobby) :
    sendToLobbyClient lobbies lobbyId clientId message =
      (lobby.clients.lookup clientId).toList.map fun target =>
        ⟨target.sender, .text message (stampIn lobby message), some target.disconnect,
          some lobbyId⟩ := by
  unfold sendToLobbyClient
  rw [hl]
  dsimp only
  cases lobby.clients.lookup clientId <;> rfl

/-- The frames to all members but one. -/
theorem broadcastToLobby_eq {lobbies : HashMap String LobbyInfo} {lobbyId excludeId : String}
    {lobby : LobbyInfo} (hl : lobbies.lookup lobbyId = some lobby) :
    broadcastToLobby lobbies lobbyId excludeId message =
      ((lobby.clients.entries.filter (·.1 != excludeId)).map (·.2)).map fun target =>
        ⟨target.sender, .text message (stampIn lobby message), some target.disconnect,
          some lobbyId⟩ := by
  unfold broadcastToLobby
  rw [hl, List.map_map]
  rfl

/-- **The forwarding arms.** Each of them rebuilds its message for the recipients that it asks
for. -/
theorem routed_spec {r : Routed} (h : message.routed = some r) :
    match r.forward with
    | .direct to_ forwarded => forwarded = message ∧ message.recipient = some to_ ∧
        ∀ lobby, message.forwardedIn lobby = message
    | .offer to_ data => ∃ playerName, message = .offer r.from_ to_ data playerName
    | .broadcast forwarded => forwarded = message ∧ message.recipient = none ∧
        message.isBroadcast = true ∧ ∀ lobby, message.forwardedIn lobby = message := by
  cases message <;> cases h <;>
    first
    | exact ⟨rfl, rfl, fun _ => rfl⟩
    | exact ⟨rfl, rfl, rfl, fun _ => rfl⟩
    | exact ⟨_, rfl⟩

section
variable {session : RegisteredSession} {lobby : LobbyInfo} {info : ClientInfo} {conn : Conn H cfg}

/-- A message on its way in the lobby of its session has the frames to route that it asks for. -/
theorem Forward.routes_eq {r : Routed} (hr : message.routed = some r)
    (howns : session.owns message = true)
    (hl : s.shared.lobbies.lookup session.lobbyId = some lobby)
    (hc : lobby.clients.lookup session.clientId = some info)
    (hg : info.sessionGeneration = session.generation) :
    r.forward.routes s.shared session.lobbyId r.from_ = forwardedFrames lobby session message := by
  obtain ⟨hsender, hid⟩ := routed_sender hr
  have hspec := routed_spec hr
  have hfrom : r.from_ = session.clientId := by
    rw [RegisteredSession.owns, hsender] at howns
    exact beq_iff_eq.1 howns
  rw [hfrom] at hid hspec ⊢
  unfold forwardedFrames LobbyInfo.recipients Forward.routes
  generalize r.forward = forward at hid hspec ⊢
  cases forward with
  | direct to_ forwarded =>
    obtain ⟨rfl, hto, hforwarded⟩ := hspec
    simp only [hto, hforwarded, sendToLobbyClient_eq hl, stampIn_of_member hid.1 hc, hg]
  | offer to_ data =>
    obtain ⟨playerName, rfl⟩ := hspec
    have hid : ∀ name, jsonSenderId (SignalingMessage.offer session.clientId to_ data name).toJson =
        some session.clientId := fun _ => rfl
    simp only [SignalingMessage.recipient, SignalingMessage.forwardedIn, sendToLobbyClient_eq hl,
      Shared.member, hl, Option.bind_some, stampIn_of_member (hid _) hc, hg]
  | broadcast forwarded =>
    obtain ⟨rfl, hto, hbroadcast, hforwarded⟩ := hspec
    simp only [hto, hbroadcast, hforwarded, broadcastToLobby_eq hl, stampIn_of_member hid.1 hc, hg,
      if_true]

/-- A single answer is quiet. -/
theorem Task.quiet_single {op : Op} {next : Next} (hop : op.Quiet k) (hnext : next ≠ .returned) :
    (Task.ops [op] next : Task H cfg).Quiet k := by
  refine ⟨hnext, fun op' hop' => ?_⟩
  cases List.mem_singleton.1 hop'
  exact hop

theorem Op.reply_quiet : (Op.reply k message).Quiet k := by
  intro d hd
  cases List.mem_singleton.1 hd
  exact .inr rfl

theorem Op.Asks.quiet {op : Op} (h : op.Asks) : op.Quiet k := by
  cases op <;> trivial

/-- The frame with which a registered connection asks a member to reconnect. -/
theorem voiceReconnect_routes {to_ : String}
    (hl : s.shared.lobbies.lookup session.lobbyId = some lobby)
    (hc : lobby.clients.lookup session.clientId = some info)
    (hg : info.sessionGeneration = session.generation) :
    sendToLobbyClient s.shared.lobbies session.lobbyId to_
      (.voiceReconnect session.clientId to_) =
      forwardedFrames lobby session (.voiceReconnect session.clientId to_) := by
  have hid : jsonSenderId (SignalingMessage.voiceReconnect session.clientId to_).toJson =
      some session.clientId := rfl
  rw [sendToLobbyClient_eq hl, stampIn_of_member hid hc, hg]
  rfl

/-- The arms that neither forward nor moderate. -/
theorem dispatch_quiet (hs : conn.session = some session) (howns : session.owns message = true)
    (hhost : message.hostAction = none) (hrouted : message.routed = none)
    (hl : s.shared.lobbies.lookup session.lobbyId = some lobby)
    (hc : lobby.clients.lookup session.clientId = some info)
    (hg : info.sessionGeneration = session.generation) :
    (dispatch k conn message).Quiet k ∧
      (dispatch k conn message).routes s.shared = forwardedFrames lobby session message ∧
      (dispatch k conn message).leaves = message.ends := by
  cases message with
  | register => exact ⟨Task.quiet_single Op.reply_quiet (by simp), rfl, rfl⟩
  | registerV3 =>
    have hreg : (conn.context k).isRegistered = true := by rw [Conn.context, hs]; rfl
    simp only [dispatch, handleV3Checks, hreg, dif_pos]
    exact ⟨⟨Refusal.next_ne_returned _, fun op hop => absurd hop List.not_mem_nil⟩, rfl, rfl⟩
  | playersListRequest =>
    simp only [dispatch, hs]
    exact ⟨Task.quiet_single trivial (by simp), rfl, rfl⟩
  | voiceReconnect from_ to_ =>
    obtain rfl : from_ = session.clientId := beq_iff_eq.1 howns
    simp only [dispatch, hs]
    exact ⟨Task.quiet_single trivial (by simp),
      (List.append_nil _).trans (voiceReconnect_routes hl hc hg), rfl⟩
  | ping => exact ⟨Task.quiet_single Op.reply_quiet (by simp), rfl, rfl⟩
  | publicLobbyListRequest | communityNodeListRequest | communityNodeSubmit =>
    exact ⟨Task.quiet_single trivial (by simp), rfl, rfl⟩
  | _ =>
    first
    | exact ⟨trivial, rfl, rfl⟩
    | contradiction

/-- **What a message leads to.** On the current session of its lobby, a message that is no host
action leads to a quiet task, with the frames to route that it asks for if it names its own client,
and with none if it names another. -/
theorem handleMessage_quiet (hs : conn.session = some session)
    (hshape : validateMessageShape message = true) (hhost : message.hostAction = none)
    (hl : s.shared.lobbies.lookup session.lobbyId = some lobby)
    (hc : lobby.clients.lookup session.clientId = some info)
    (hg : info.sessionGeneration = session.generation)
    (hmap : s.shared.clientLobbyMap.lookup session.clientId = some session.lobbyId) :
    (handleMessage k conn message).Quiet k ∧
      (handleMessage k conn message).routes s.shared =
        (if session.owns message then forwardedFrames lobby session message else []) ∧
      (handleMessage k conn message).leaves = (session.owns message && message.ends) := by
  unfold handleMessage
  rw [hshape, Bool.not_true, if_neg Bool.false_ne_true]
  split
  · next hforged =>
    have howns : session.owns message = false := by
      rw [hs] at hforged
      unfold RegisteredSession.owns
      cases hsender : message.claimedSender with
      | none => rw [hsender] at hforged; cases hforged
      | some sender =>
        have hne : session.clientId ≠ sender := by simpa [hsender] using hforged
        exact beq_false_of_ne hne.symm
    rw [howns]
    exact ⟨trivial, rfl, rfl⟩
  next hclaimed =>
  have howns : session.owns message = true := claimedSender_accepted hs hclaimed
  rw [howns, hhost, if_pos rfl, Bool.true_and]
  dsimp only
  split
  · next r hr =>
    have hsender := (routed_sender hr).1
    have hfrom : r.from_ = session.clientId := by
      rw [RegisteredSession.owns, hsender] at howns
      exact beq_iff_eq.1 howns
    have hstart : (r.start (some session) : Task H cfg) = .lookup r.from_ r.forward := by
      rw [Routed.start, hfrom, bne_self_eq_false, Bool.and_false, if_neg Bool.false_ne_true]
    rw [hs, hstart, ← Forward.routes_eq hr howns hl hc hg]
    refine ⟨trivial, ?_, ?_⟩
    · unfold Task.routes
      dsimp only
      rw [hfrom, hmap]
    · cases message <;> first | rfl | cases hr
  · next hr => exact dispatch_quiet hs howns hhost hr hl hc hg

end

/-! ## Connections that are not registered -/

section
variable {conn : Conn H cfg} {inbound : Inbound}

/-- A message on a connection that is not registered leads to a quiet task that routes nothing, or
to a registration. -/
theorem handleMessage_unregistered (hs : conn.session = none) (sh : Shared) :
    ((handleMessage k conn message).Quiet k ∧ (handleMessage k conn message).routes sh = []) ∨
      message.isRegistration = true ∧ ∃ a, handleMessage k conn message = .registration a := by
  have hcases : Handled k conn (.text (.ok message)) (handleMessage k conn message) :=
    handleInbound_cases
  generalize handleMessage k conn message = task at hcases ⊢
  cases hcases with
  | ignored | ended => exact .inl ⟨trivial, rfl⟩
  | answered _ hnext => exact .inl ⟨Task.quiet_single Op.reply_quiet hnext, rfl⟩
  | registeredAlready =>
    exact .inl ⟨⟨nofun, fun op hop => absurd hop List.not_mem_nil⟩, rfl⟩
  | registers _ _ hreg => exact .inr ⟨hreg, _, rfl⟩
  | moderates hs' | forwards hs' | reconnects hs' => cases hs.symm.trans hs'
  | @asks _ op hasks =>
    refine .inl ⟨Task.quiet_single hasks.quiet nofun, ?_⟩
    cases op <;> first | rfl | exact hasks.elim

/-- A handler keeps its session. -/
theorem Handles.session {session : RegisteredSession} (h : Handles k s s') (hinv : SysInv s)
    (hs : (s.conns k).session = some session) : (s'.conns k).session = some session := by
  induction h with
  | done => exact hs
  | @tick s _ n _ ih => exact ih (hinv.step (show SysStep s (.tick n) _ from rfl)) hs
  | step _ hstep _ ih => exact ih (hinv.step hstep) (session_step hinv hstep hs)

/-- A registration commits, or the handler answers its own connection only. -/
theorem Handles.registration {a : Admission H cfg} (h : Handles k s s') (hinv : SysInv s)
    (ht : (s.conns k).task = .registration a) :
    Offers k s s' [] ∨ ∃ session, (s'.conns k).session = some session := by
  induction h with
  | done hdone => rcases hdone with hdone | hdone <;> cases ht.symm.trans hdone
  | @tick s _ n _ ih =>
    have hticked : SysInv { s with now := s.now + n } :=
      hinv.step (show SysStep s (.tick n) _ from rfl)
    exact (ih hticked ht).imp_left fun hoffers => hoffers.since rfl rfl rfl
  | @step s s₁ s' env _ hstep hrest _ =>
    cases exec_cases hstep with
    | @rejected _ error refusal failures =>
      have hquiet : (Task.ops [Op.reply k (.registerError error)] refusal.next :
          Task H cfg).Quiet k := Task.quiet_single Op.reply_quiet refusal.next_ne_returned
      obtain ⟨hoffers, -⟩ := hrest.quiet (by rw [Sys.setTask_self]; exact hquiet)
      rw [Sys.setTask_self] at hoffers
      exact .inl (hoffers.since rfl rfl rfl)
    | @committed _ _ commit =>
      refine .inr ⟨commit.session, hrest.session (hinv.step hstep) ?_⟩
      dsimp only
      rw [Sys.setConn_self]
    | read hread => rw [ht] at hread; cases hread
    | hostRefused ht' | hostActed ht' | stayed ht' | left ht' | sent ht' | signalled ht' =>
      cases ht.symm.trans ht'

end

/-! ## Every message is dealt with -/

section

/-- The steps that a job is still good for. -/
def Job.weight : Job → Nat
  | .send _ => 2
  | .signal _ => 1

/-- How far a handler that has no pending work is from it. -/
def Task.stage : Task H cfg → Nat
  | .current _ => 5
  | .registration _ => 4
  | .lookup .. | .committed _ | .mapped _ => 3
  | .offerName .. | .confirmed _ | .hostAction _ => 2
  | .ops .. => 1
  | .absent | .idle | .cleanup | .returned => 0

/-- A handler that is not done can step, whatever happens around it. -/
theorem exec_progress (env : Env) (hstage : 0 < (s.conns k).task.stage) :
    ∃ s', SysStep s (.exec k env) s' := by
  simp only [SysStep, Sys.step]
  unfold Sys.exec Sys.read
  dsimp only
  generalize (s.conns k).task = task at hstage ⊢
  cases task with
  | absent | idle | cleanup | returned => exact absurd hstage (Nat.lt_irrefl 0)
  | ops pending next =>
    cases pending with
    | nil => exact ⟨_, rfl⟩
    | cons op pending =>
      cases op with
      | jobs js =>
        cases js with
        | nil => exact ⟨_, rfl⟩
        | cons j js =>
          have hlt : env.pick % (j :: js).length < (j :: js).length :=
            Nat.mod_lt _ (Nat.succ_pos _)
          unfold Sys.runJob
          dsimp only
          rw [List.getElem?_eq_getElem hlt]
          cases (j :: js)[env.pick % (j :: js).length] <;> exact ⟨_, rfl⟩
      | _ => exact ⟨_, rfl⟩
  | _ => exact ⟨_, rfl⟩

/-- The handler has work to do before it is idle or cleans up, or is there. -/
def Task.Underway : Task H cfg → Prop
  | .absent | .returned | .ops _ .returned => False
  | _ => True

theorem Task.underway_ops {pending : List Op} {next : Next} :
    (Task.ops pending next : Task H cfg).Underway ↔ next ≠ .returned := by
  cases next <;> simp [Task.Underway]

/-- A job runs, and may leave a signal in its place. -/
theorem Exec.of_jobs {js : List Job} {pending : List Op} {next : Next} (h : Exec s k env s')
    (ht : (s.conns k).task = .ops (.jobs js :: pending) next) :
    (s'.conns k).task = .ops pending next ∨
      ∃ js', (s'.conns k).task = .ops (.jobs js' :: pending) next ∧
        (js'.map Job.weight).sum < (js.map Job.weight).sum := by
  cases h with
  | read hread =>
    rw [Sys.setTask_self]
    rw [ht] at hread
    cases hread with
    | ran => exact .inl rfl
    | started hsnap => exact hsnap.elim
  | rejected ht' | committed ht' | hostRefused ht' | hostActed ht' | stayed ht' | left ht' =>
    cases ht.symm.trans ht'
  | @sent _ _ _ d rest ht' hperm =>
    cases ht.symm.trans ht'
    rw [Sys.setTask_self]
    refine .inr ⟨_, rfl, ?_⟩
    have hsignals : ((d.flag.toList.map Job.signal).map Job.weight).sum ≤ 1 := by
      cases d.flag <;> simp [Job.weight]
    rw [(hperm.map Job.weight).sum_nat]
    split
    · simp [Job.weight]
    · simp only [List.map_append, List.sum_append, List.map_cons, List.sum_cons]
      have hweight : (Job.send d).weight = 2 := rfl
      omega
  | @signalled _ _ _ k' rest ht' hperm =>
    cases ht.symm.trans ht'
    rw [Sys.setTask_self]
    refine .inr ⟨_, rfl, ?_⟩
    rw [(hperm.map Job.weight).sum_nat]
    simp [Job.weight]

/-- Pending jobs come to their end, if what follows them does. -/
theorem handles_jobs (env : Env) {pending : List Op} {next : Next}
    (hrest : ∀ s : Sys H cfg, (s.conns k).task = .ops pending next → ∃ s', Handles k s s') (n : Nat)
    {s : Sys H cfg} {js : List Job} (hn : (js.map Job.weight).sum < n)
    (ht : (s.conns k).task = .ops (.jobs js :: pending) next) : ∃ s', Handles k s s' := by
  induction n generalizing s js with
  | zero => exact absurd hn (Nat.not_lt_zero _)
  | succ n ih =>
    obtain ⟨s₁, hs₁⟩ := exec_progress (s := s) (k := k) env (by rw [ht]; exact Nat.one_pos)
    have hne : (s.conns k).task ≠ .cleanup := by rw [ht]; nofun
    obtain ht₁ | ⟨js', ht₁, hlt⟩ := (exec_cases hs₁).of_jobs ht
    · obtain ⟨s', h⟩ := hrest s₁ ht₁
      exact ⟨s', .step hne hs₁ h⟩
    · obtain ⟨s', h⟩ := ih (by omega) ht₁
      exact ⟨s', .step hne hs₁ h⟩

/-- Pending work comes to its end. -/
theorem handles_ops (env : Env) {pending : List Op} {next : Next} (hnext : next ≠ .returned)
    (ht : (s.conns k).task = .ops pending next) : ∃ s', Handles k s s' := by
  induction pending generalizing s with
  | nil =>
    have hstep : SysStep s (.exec k env) (s.setTask k next.task) := by
      simp only [SysStep, Sys.step, Sys.exec, ht, Sys.read, Option.map_some]
    refine ⟨_, .step (by rw [ht]; simp) hstep (.done ?_)⟩
    rw [Sys.setTask_self]
    cases next with
    | returned => exact absurd rfl hnext
    | idle => exact .inl rfl
    | cleanup => exact .inr rfl
  | cons op pending ih =>
    by_cases hsnap : op.Snapshot
    · obtain ⟨s₁, hs₁⟩ := exec_progress (s := s) (k := k) env (by rw [ht]; exact Nat.one_pos)
      have heq := (exec_cases hs₁).of_snapshot ht hsnap
      obtain ⟨s', h⟩ := handles_jobs (s := s₁) env (fun _ => ih) _ (Nat.lt_succ_self _)
        (by rw [heq, Sys.setTask_self])
      exact ⟨s', .step (by rw [ht]; simp) hs₁ h⟩
    · cases op with
      | jobs js => exact handles_jobs env (fun _ => ih) _ (Nat.lt_succ_self _) ht
      | _ => exact absurd trivial hsnap

/-- What a message leads to has less before it than the check of the session. -/
theorem handleInbound_stage {conn : Conn H cfg} {inbound : Inbound} :
    (handleInbound k conn inbound).stage ≤ 4 ∧ (handleInbound k conn inbound).Underway := by
  have hcases : Handled k conn inbound (handleInbound k conn inbound) := handleInbound_cases
  generalize handleInbound k conn inbound = task at hcases ⊢
  cases hcases with
  | answered _ hnext => exact ⟨Nat.le_add_left 1 3, Task.underway_ops.2 hnext⟩
  | _ => exact ⟨by simp [Task.stage], trivial⟩

/-- A handler without pending work steps towards it. -/
theorem Exec.stage (h : Exec s k env s') (hstage : 1 < (s.conns k).task.stage) :
    (s'.conns k).task.stage < (s.conns k).task.stage ∧ (s'.conns k).task.Underway := by
  cases h with
  | read hread =>
    rw [Sys.setTask_self]
    generalize (s.conns k).task = before at hread hstage ⊢
    cases hread with
    | current => exact ⟨Nat.lt_succ_of_le handleInbound_stage.1, handleInbound_stage.2⟩
    | @found _ _ forward => cases forward <;> exact ⟨by simp [Forward.task, Task.stage], trivial⟩
    | elsewhere _ htask => rcases htask with rfl | rfl <;> exact ⟨by simp [Task.stage], trivial⟩
    | finished | ran | started => exact absurd hstage (Nat.lt_irrefl 1)
    | _ => exact ⟨by simp [Task.stage, refused], trivial⟩
  | @rejected _ _ refusal _ ht =>
    rw [Sys.setTask_self, ht]
    exact ⟨by simp [Task.stage], Task.underway_ops.2 refusal.next_ne_returned⟩
  | committed ht =>
    dsimp only
    rw [Sys.setConn_self, ht]
    exact ⟨by simp [Task.stage], trivial⟩
  | hostRefused ht htask =>
    rw [Sys.setTask_self, ht]
    rcases htask with rfl | rfl <;> exact ⟨by simp [Task.stage], trivial⟩
  | hostActed ht =>
    dsimp only
    rw [Sys.setTask_self, ht]
    exact ⟨by simp [Task.stage], trivial⟩
  | stayed ht | left ht | sent ht | signalled ht =>
    rw [ht] at hstage
    exact absurd hstage (by simp [Task.stage])

/-- **Every message is dealt with.** -/
theorem handles_exists (env : Env) {n : Nat} (hn : (s.conns k).task.stage < n)
    (hwork : (s.conns k).task.Underway) : ∃ s', Handles k s s' := by
  induction n generalizing s with
  | zero => exact absurd hn (Nat.not_lt_zero _)
  | succ n ih =>
    by_cases hstage : 1 < (s.conns k).task.stage
    · obtain ⟨s₁, hs₁⟩ := exec_progress env (Nat.lt_of_succ_lt hstage)
      obtain ⟨hlt, hwork₁⟩ := (exec_cases hs₁).stage hstage
      obtain ⟨s', h⟩ := ih (by omega) hwork₁
      exact ⟨s', .step (fun ht => by rw [ht] at hstage; cases hstage) hs₁ h⟩
    · cases ht : (s.conns k).task with
      | ops pending next => exact handles_ops env (Task.underway_ops.1 (ht ▸ hwork)) ht
      | idle => exact ⟨s, .done (.inl ht)⟩
      | cleanup => exact ⟨s, .done (.inr ht)⟩
      | absent | returned => rw [ht] at hwork; exact hwork.elim
      | _ => rw [ht] at hstage; exact absurd (by simp [Task.stage]) hstage

end

/-! ## One message on its own -/

/-- The connection is the current session of the lobby. -/
structure CurrentSession (s : Sys H cfg) (k : ConnId) (session : RegisteredSession)
    (lobby : LobbyInfo) : Prop where
  owned : (s.conns k).session = some session
  found : s.shared.lobbies.lookup session.lobbyId = some lobby
  entry : ∃ info, lobby.clients.lookup session.clientId = some info ∧
    info.sessionGeneration = session.generation ∧ info.sender = k

theorem CurrentSession.setConn {session : RegisteredSession} {lobby : LobbyInfo}
    {conn : Conn H cfg} (h : CurrentSession s k session lobby)
    (hs : conn.session = (s.conns k).session) : CurrentSession (s.setConn k conn) k session lobby :=
  ⟨by rw [Sys.setConn_self, hs]; exact h.owned, h.found, h.entry⟩

/-- A message that the rate limiter lets through arrives. -/
theorem receive_message (ht : (s.conns k).task = .idle)
    (hrate : ((s.conns k).rate.allow s.now).2 = true)
    (hr : SysStep s (.receive k (.text (.ok message))) s₁) :
    s₁ = s.setConn k { s.conns k with
      rate := ((s.conns k).rate.allow s.now).1
      task := if (s.conns k).session.isSome then .current (.text (.ok message))
        else handleMessage k (s.conns k) message } := by
  simp only [SysStep, Sys.step, ht] at hr
  cases hr
  unfold Sys.receive
  dsimp only
  rw [if_neg (by simp [hrate])]
  rfl

/-- A message that arrives is dealt with. -/
theorem processes_exists (env : Env) (ht : (s.conns k).task = .idle) :
    ∃ s', Processes k message s s' := by
  have hr : SysStep s (.receive k (.text (.ok message))) (s.receive k (.text (.ok message))) := by
    simp only [SysStep, Sys.step, ht]
  have hwork : ((s.receive k (.text (.ok message))).conns k).task.Underway := by
    unfold Sys.receive
    dsimp only
    rw [Sys.setConn_self]
    dsimp only
    split
    · trivial
    split
    · trivial
    · exact handleInbound_stage.2
  obtain ⟨s', h⟩ := handles_exists env (Nat.lt_succ_self _) hwork
  exact ⟨s', _, hr, h⟩

/-- On a connection that is not registered, a message commits a registration, or it is answered on
the connection itself. -/
theorem Processes.unregistered (hp : Processes k message s s') (hinv : SysInv s)
    (ht : (s.conns k).task = .idle) (hrate : ((s.conns k).rate.allow s.now).2 = true)
    (hs : (s.conns k).session = none) :
    Offers k s s' [] ∨
      message.isRegistration = true ∧ ∃ session, (s'.conns k).session = some session := by
  obtain ⟨s₁, hr, hrest⟩ := hp
  have hinv₁ := hinv.step hr
  obtain rfl := receive_message ht hrate hr
  have htask : ∀ {task : Task H cfg}, handleMessage k (s.conns k) message = task →
      ((s.setConn k { s.conns k with
        rate := ((s.conns k).rate.allow s.now).1
        task := if (s.conns k).session.isSome then .current (.text (.ok message))
          else handleMessage k (s.conns k) message }).conns k).task = task := by
    intro task htask
    rw [Sys.setConn_self, hs]
    exact htask
  obtain ⟨hquiet, hroutes⟩ | ⟨hreg, a, ha⟩ := handleMessage_unregistered hs s.shared
  · obtain ⟨hoffers, -⟩ := hrest.quiet (by rw [htask rfl]; exact hquiet)
    rw [htask rfl] at hoffers
    have hnothing := hoffers.perm (.of_eq hroutes)
    exact .inl (hnothing.since rfl rfl rfl)
  · rcases hrest.registration hinv₁ (htask ha) with hoffers | hsession
    · exact .inl (hoffers.since rfl rfl rfl)
    · exact .inr ⟨hreg, hsession⟩

/-- The handler of the current session passes the check of the session, and forwards a message that
is no host action as it asks. -/
theorem Handles.forwards {session : RegisteredSession} {lobby : LobbyInfo} (h : Handles k s s')
    (hinv : LobbyInv s.shared) (ht : (s.conns k).task = .current (.text (.ok message)))
    (hcur : CurrentSession s k session lobby) (hshape : validateMessageShape message = true)
    (hhost : message.hostAction = none) :
    Offers k s s' (if session.owns message then forwardedFrames lobby session message else []) ∧
      ((s'.conns k).task = .cleanup ↔ session.owns message = true ∧ message.ends = true) := by
  induction h with
  | done hdone => rcases hdone with hdone | hdone <;> cases ht.symm.trans hdone
  | tick _ ih =>
    obtain ⟨hoffers, hends⟩ := ih hinv ht ⟨hcur.owned, hcur.found, hcur.entry⟩
    exact ⟨hoffers.since rfl rfl rfl, hends⟩
  | @step s s₁ s' env _ hstep hrest _ =>
    obtain ⟨info, hc, hg, hsender⟩ := hcur.entry
    have hmap := (hinv.mapped session.clientId session.lobbyId).2
      ⟨info, Shared.member_eq_some.2 ⟨lobby, hcur.found, hc⟩⟩
    cases exec_cases hstep with
    | read hread =>
      rw [ht] at hread
      cases hread with
      | stale hstale =>
        exact absurd (isCurrentSession_iff.2 ⟨lobby, info, hcur.found, hc, hg, hsender⟩)
          (hstale session hcur.owned)
      | current =>
        obtain ⟨hquiet, hroutes, hleaves⟩ := handleMessage_quiet (k := k) (s := s) hcur.owned hshape
          hhost hcur.found hc hg hmap
        obtain ⟨hoffers, hends⟩ := hrest.quiet (by rw [Sys.setTask_self]; exact hquiet)
        rw [Sys.setTask_self] at hoffers hends
        have hrouted := hoffers.perm (.of_eq hroutes)
        refine ⟨hrouted.since rfl rfl rfl, hends.trans ?_⟩
        rw [← Bool.and_eq_true, ← hleaves]
        rfl
    | rejected ht' | committed ht' | hostRefused ht' | hostActed ht' | stayed ht' | left ht'
    | sent ht' | signalled ht' => cases ht.symm.trans ht'

/-- On the current session, a message that is no host action is forwarded as it asks. -/
theorem Processes.forwards {session : RegisteredSession} {lobby : LobbyInfo}
    (hp : Processes k message s s') (hinv : LobbyInv s.shared) (ht : (s.conns k).task = .idle)
    (hrate : ((s.conns k).rate.allow s.now).2 = true)
    (hshape : validateMessageShape message = true) (hcur : CurrentSession s k session lobby)
    (hhost : message.hostAction = none) :
    Offers k s s' (if session.owns message then forwardedFrames lobby session message else []) ∧
      ((s'.conns k).task = .cleanup ↔ session.owns message = true ∧ message.ends = true) := by
  obtain ⟨s₁, hr, hrest⟩ := hp
  obtain rfl := receive_message ht hrate hr
  obtain ⟨hoffers, hends⟩ := hrest.forwards hinv (by rw [Sys.setConn_self, hcur.owned]; rfl)
    (hcur.setConn rfl) hshape hhost
  exact ⟨hoffers.since rfl rfl rfl, hends⟩

/-- **Routing.** A message that arrives on a connection, and that no other handler steps in between,
is dealt with. If the connection is not registered, it commits its registration, or its lobbies are
the same and no frame goes to another connection. If it is the current session of a lobby, a message
that is no host action leaves the lobbies as they are up to the cleanup of the connection itself,
and is forwarded to exactly the members that it asks for, under that session, if it names its own
client, and to nobody if it names another. -/
theorem routing_correctness (h : ReachableSys s) (ht : (s.conns k).task = .idle)
    (hrate : ((s.conns k).rate.allow s.now).2 = true)
    (hshape : validateMessageShape message = true) :
    (∃ s', Processes k message s s') ∧
    ∀ s', Processes k message s s' →
      ((s.conns k).session = none → Offers k s s' [] ∨
        message.isRegistration = true ∧ ∃ session, (s'.conns k).session = some session) ∧
      (∀ session lobby, CurrentSession s k session lobby → message.hostAction = none →
        Offers k s s'
          (if session.owns message then forwardedFrames lobby session message else []) ∧
        ((s'.conns k).task = .cleanup ↔
          session.owns message = true ∧ message.ends = true)) :=
  ⟨processes_exists (recordedEnv "" 0 true) ht, fun _ hp =>
    ⟨fun hs => hp.unregistered h.inv ht hrate hs, fun _ _ hcur hhost =>
      hp.forwards h.lobbyInv ht hrate hshape hcur hhost⟩⟩

end

/-- Alice and bob are in the room, and bob's handler is idle. -/
def bobWaits : Option (Sys recordedCrypto .default) :=
  ([Action.exec 1 (recordedEnv "d1" 1 true), .exec 2 (recordedEnv "d2" 2 true)] ++
    List.replicate 14 (Action.exec 2 (recordedEnv "" 0 true))).foldlM Sys.step handshake

/-- The room, if bob's handler is idle on his session. -/
def bobReady (s : Sys recordedCrypto .default) : Option LobbyInfo :=
  match (s.conns 2).task, s.shared.lobbies.lookup roomId with
  | .idle, some lobby =>
    if ((s.conns 2).rate.allow s.now).2 = true ∧ (s.conns 2).session = some ⟨bobId, roomId, 2⟩ ∧
        (lobby.clients.lookup bobId).map (fun info => (info.sessionGeneration, info.sender)) =
          some (2, 2) ∧
        (lobby.clients.entries.map fun e => (e.1, e.2.sender, e.2.disconnect)) =
          [(bobId, 2, 2), (aliceId, 1, 1)] then some lobby
    else none
  | _, _ => none

/-- Bob's second connection is the current session of the room. -/
theorem bobWaits_current : ∃ s lobby, bobWaits = some s ∧ (s.conns 2).task = .idle ∧
    ((s.conns 2).rate.allow s.now).2 = true ∧ CurrentSession s 2 ⟨bobId, roomId, 2⟩ lobby ∧
    (lobby.clients.entries.map fun e => (e.1, e.2.sender, e.2.disconnect)) =
      [(bobId, 2, 2), (aliceId, 1, 1)] := by
  have hrun : (bobWaits.bind bobReady).isSome = true := by decide +kernel
  obtain ⟨lobby, hready⟩ := Option.isSome_iff_exists.1 hrun
  obtain ⟨s, hs, hready⟩ := Option.bind_eq_some_iff.1 hready
  unfold bobReady at hready
  split at hready
  · next lobby ht hl =>
    split at hready
    · next hcond =>
      cases hready
      obtain ⟨hrate, hsession, hentry, hentries⟩ := hcond
      obtain ⟨info, hc, hinfo⟩ := Option.map_eq_some_iff.1 hentry
      obtain ⟨hg, hsender⟩ := Prod.mk.inj hinfo
      exact ⟨s, _, hs, ht, hrate, ⟨hsession, hl, info, hc, hg, hsender⟩, hentries⟩
    · cases hready
  · cases hready

/-- Bob's status is offered to alice alone. -/
theorem routing_correctness_status : ∃ s s' : Sys recordedCrypto .default, bobWaits = some s ∧
    Processes 2 (.statusUpdate bobId true) s s' ∧
    Offers 2 s s'
      [⟨1, .text (.statusUpdate bobId true) (some (bobId, 2)), some 1, some roomId⟩] := by
  obtain ⟨s, lobby, hs, ht, hrate, hcur, hentries⟩ := bobWaits_current
  obtain ⟨⟨s', hp⟩, hprocessed⟩ := routing_correctness (handshake_reachable.foldlM hs) ht hrate
    (show validateMessageShape (.statusUpdate bobId true) = true by decide +kernel)
  obtain ⟨hoffers, -⟩ := (hprocessed s' hp).2 _ lobby hcur rfl
  refine ⟨s, s', hs, hp, hoffers.perm (.of_eq ?_)⟩
  have hframes : forwardedFrames lobby ⟨bobId, roomId, 2⟩ (.statusUpdate bobId true) =
      ((lobby.clients.entries.map fun e => (e.1, e.2.sender, e.2.disconnect)).filter
        (·.1 != bobId)).map fun e => ⟨e.2.1, .text (.statusUpdate bobId true) (some (bobId, 2)),
          some e.2.2, some roomId⟩ := by
    simp only [forwardedFrames, LobbyInfo.recipients, SignalingMessage.recipient,
      SignalingMessage.isBroadcast, SignalingMessage.forwardedIn, if_true, List.filter_map,
      List.map_map]
    rfl
  have howns : (⟨bobId, roomId, 2⟩ : RegisteredSession).owns (.statusUpdate bobId true) = true := by
    decide +kernel
  rw [howns, if_pos rfl, hframes, hentries]
  decide +kernel

/-- **A forged sender.** A message for alice that bob sends in the name of another client is offered
to nobody. -/
theorem forged_sender_ignored : ∃ (s s' : Sys recordedCrypto .default) (lobby : LobbyInfo),
    ReachableSys s ∧ CurrentSession s 2 ⟨bobId, roomId, 2⟩ lobby ∧
    validateMessageShape (.voiceReconnect "x" aliceId) = true ∧
    Processes 2 (.voiceReconnect "x" aliceId) s s' ∧
    (∃ info, lobby.clients.lookup aliceId = some info) ∧
    ¬ Offers 2 s s' (forwardedFrames lobby ⟨bobId, roomId, 2⟩ (.voiceReconnect "x" aliceId)) := by
  obtain ⟨s, lobby, hs, ht, hrate, hcur, hentries⟩ := bobWaits_current
  have hreach : ReachableSys s := handshake_reachable.foldlM hs
  have hshape : validateMessageShape (.voiceReconnect "x" aliceId) = true := by decide +kernel
  obtain ⟨s', hp⟩ := processes_exists (k := 2) (s := s) (recordedEnv "" 0 true) ht
  obtain ⟨hoffers, -⟩ := hp.forwards hreach.lobbyInv ht hrate hshape hcur rfl
  have hforged : ¬ (⟨bobId, roomId, 2⟩ : RegisteredSession).owns (.voiceReconnect "x" aliceId) =
      true := by decide +kernel
  rw [if_neg hforged] at hoffers
  have halice : aliceId ∈ lobby.clients.entries.map (·.1) := by
    have hmem : aliceId ∈ (lobby.clients.entries.map fun e =>
        (e.1, e.2.sender, e.2.disconnect)).map (·.1) := by
      rw [hentries]
      decide +kernel
    rwa [List.map_map] at hmem
  obtain ⟨⟨_, info⟩, he, rfl⟩ := List.mem_map.1 halice
  have hinfo := HashMap.mem_entries.1 he
  refine ⟨s, s', lobby, hreach, hcur, hshape, hp, ⟨info, hinfo⟩, fun hclaimed => ?_⟩
  have hnil := (hoffers.unique hclaimed).nil_eq
  simp only [forwardedFrames, LobbyInfo.recipients, SignalingMessage.recipient, hinfo,
    Option.toList_some, List.map_cons] at hnil
  cases hnil

end MctierSignaling
