import MctierSignaling.Cleanup
import MctierSignaling.Transport

/-!
# The connection handler

`connection.rs`. A connection is handled by one task, which stops at every place where it reads or
changes what others share: the check of its session, the read of the reverse map, the snapshot of a
lobby, each of the three critical sections, each send. `Task` is where it stopped; what it does
between two such places depends on its own variables only, and is a function here. The steps
themselves are in `MctierSignaling.Server`.
-/

namespace MctierSignaling

/-! ## Pending work -/

/-- One of the futures of a `join_all`, or a send of its own: the send, and after a failure the
disconnect signal. -/
inductive Job where
  | send (d : Delivery)
  | signal (k : ConnId)
  deriving DecidableEq

/-- A piece of work that a handler still has to do, in order: jobs that run concurrently, a snapshot
that turns into jobs, or a reply that another subsystem decides. -/
inductive Op where
  | jobs (js : List Job)
  | sendTo (lobbyId clientId : String) (message : SignalingMessage)
  | broadcast (lobbyId excludeId : String) (message : SignalingMessage)
  | rotation (targets : List (String × ConnId)) (lobbyId chatToken : String)
      (chatTokenEpoch : Nat)
  | roster (lobbyId : String) (excludeId : Option String)
  | publicList
  | communityList
  | communitySubmit (name address : String) (submitter : Option String)

/-- A reply to one's own connection. -/
def Op.reply (k : ConnId) (message : SignalingMessage) : Op :=
  .jobs [.send (MctierSignaling.reply k message)]

/-- Where a handler goes after its pending work: `continue`, `break`, or `return`. -/
inductive Next where
  | idle
  | cleanup
  | returned
  deriving DecidableEq

/-- A message on its way to the lobby that the reverse map gives. -/
inductive Forward where
  | direct (to_ : String) (message : SignalingMessage)
  | offer (to_ : String) (offer : SessionDescription)
  | broadcast (message : SignalingMessage)

/-- What a socket yields: a text as `serde_json` parsed it, where an error says whether it is about
an unknown variant, a close frame, or another frame. -/
inductive Inbound where
  | text (parsed : Except Bool SignalingMessage)
  | close
  | other

/-- Where the handler of a connection stopped: before the named check, read or critical section. -/
inductive Task (H : Crypto) (cfg : ServerConfig) where
  | absent
  | idle
  | current (inbound : Inbound)
  | lookup (from_ : String) (forward : Forward)
  | offerName (lobbyId from_ to_ : String) (offer : SessionDescription)
  | mapped (action : HostAction)
  | hostAction (action : HostAction)
  | registration (a : Admission H cfg)
  | committed (commit : Commit H cfg)
  | confirmed (commit : Commit H cfg)
  | ops (pending : List Op) (next : Next)
  | cleanup
  | returned

/-- The task waits for a message. -/
def Task.isIdle {H : Crypto} {cfg : ServerConfig} : Task H cfg → Bool
  | .idle => true
  | _ => false

theorem Task.isIdle_iff {H : Crypto} {cfg : ServerConfig} {task : Task H cfg} :
    task.isIdle = true ↔ task = .idle := by
  cases task <;> simp [Task.isIdle]

/-- A connection: its own variables, its sender's budget, and its handler. `session` is the three
variables `client_id`, `lobby_id` and `session_generation`, which only its own handler reads; it is
set with the commit, where the source sets them when `handle_v3` returns. -/
structure Conn (H : Crypto) (cfg : ServerConfig) where
  challenge : String
  sourceIp : IpAddr
  session : Option RegisteredSession
  rate : MessageRateLimiter
  budget : OutboundBudget
  task : Task H cfg

section
variable {H : Crypto} {cfg : ServerConfig}

/-- No connection yet. -/
def Conn.absent : Conn H cfg :=
  ⟨"", .v4 ⟨0, 0, 0, 0⟩, none, .new 0, .new 0, .absent⟩

def Next.task : Next → Task H cfg
  | .idle => .idle
  | .cleanup => .cleanup
  | .returned => .returned

def Refusal.next : Refusal → Next
  | .retry => .idle
  | .disconnect => .cleanup

/-! ## Dispatch -/

/-- An arm that looks the sender's lobby up in the reverse map and forwards a rebuilt message; six
arms compare the sender with the connection's client once more. -/
structure Routed where
  from_ : String
  recheck : Bool
  forward : Forward

/-- The arms that forward. Reference: dispatch (`connection.rs:402-1573`). -/
def SignalingMessage.routed : SignalingMessage → Option Routed
  | .offer from_ to_ data _ => some ⟨from_, false, .offer to_ data⟩
  | .answer from_ to_ data => some ⟨from_, false, .direct to_ (.answer from_ to_ data)⟩
  | .iceCandidate from_ to_ candidate =>
    some ⟨from_, false, .direct to_ (.iceCandidate from_ to_ candidate)⟩
  | .statusUpdate clientId micEnabled =>
    some ⟨clientId, false, .broadcast (.statusUpdate clientId micEnabled)⟩
  | .screenShareStart from_ shareId playerName hasPassword =>
    some ⟨from_, false, .broadcast (.screenShareStart from_ shareId playerName hasPassword)⟩
  | .screenShareStop from_ shareId =>
    some ⟨from_, false, .broadcast (.screenShareStop from_ shareId)⟩
  | .screenShareRelay from_ to_ shareId action playerName password upstreamId downstreamId
      routeVersion sequence sourceSequence sentSequence limited reason =>
    some ⟨from_, true, .direct to_ (.screenShareRelay from_ to_ shareId action playerName password
      upstreamId downstreamId routeVersion sequence sourceSequence sentSequence limited reason)⟩
  | .screenShareOffer from_ to_ shareId playerName password routeVersion data =>
    some ⟨from_, true, .direct to_ (.screenShareOffer from_ to_ shareId playerName password
      routeVersion data)⟩
  | .screenShareAnswer from_ to_ shareId routeVersion data =>
    some ⟨from_, true, .direct to_ (.screenShareAnswer from_ to_ shareId routeVersion data)⟩
  | .screenShareIceCandidate from_ to_ shareId connectionRole routeVersion candidate =>
    some ⟨from_, true, .direct to_ (.screenShareIceCandidate from_ to_ shareId connectionRole
      routeVersion candidate)⟩
  | .screenShareError from_ to_ shareId error =>
    some ⟨from_, false, .direct to_ (.screenShareError from_ to_ shareId error)⟩
  | .screenShareListRequest from_ => some ⟨from_, false, .broadcast (.screenShareListRequest from_)⟩
  | .screenShareListResponse from_ to_ shareId playerName hasPassword =>
    some ⟨from_, false,
      .direct to_ (.screenShareListResponse from_ to_ shareId playerName hasPassword)⟩
  | .screenShareViewerLeft from_ shareId =>
    some ⟨from_, true, .broadcast (.screenShareViewerLeft from_ shareId)⟩
  | .screenShareUpdate from_ shareId viewerId viewerName viewerCount =>
    some ⟨from_, true,
      .broadcast (.screenShareUpdate from_ shareId viewerId viewerName viewerCount)⟩
  | .fileShareAdded from_ shareId shareName playerName hasPassword =>
    some ⟨from_, false,
      .broadcast (.fileShareAdded from_ shareId shareName playerName hasPassword)⟩
  | .fileShareRemoved from_ shareId =>
    some ⟨from_, false, .broadcast (.fileShareRemoved from_ shareId)⟩
  | .fileShareListRequest from_ => some ⟨from_, false, .broadcast (.fileShareListRequest from_)⟩
  | .fileShareListResponse from_ to_ shares =>
    some ⟨from_, false, .direct to_ (.fileShareListResponse from_ to_ shares)⟩
  | .shareUpdated from_ shareId shareName playerName hasPassword =>
    some ⟨from_, false, .broadcast (.shareUpdated from_ shareId shareName playerName hasPassword)⟩
  | .remoteControlRequest from_ to_ sessionId fromName =>
    some ⟨from_, false, .direct to_ (.remoteControlRequest from_ to_ sessionId fromName)⟩
  | .remoteControlAccept from_ to_ sessionId =>
    some ⟨from_, false, .direct to_ (.remoteControlAccept from_ to_ sessionId)⟩
  | .remoteControlReject from_ to_ sessionId reason =>
    some ⟨from_, false, .direct to_ (.remoteControlReject from_ to_ sessionId reason)⟩
  | .remoteControlOffer from_ to_ sessionId data =>
    some ⟨from_, false, .direct to_ (.remoteControlOffer from_ to_ sessionId data)⟩
  | .remoteControlAnswer from_ to_ sessionId data =>
    some ⟨from_, false, .direct to_ (.remoteControlAnswer from_ to_ sessionId data)⟩
  | .remoteControlIce from_ to_ sessionId candidate =>
    some ⟨from_, false, .direct to_ (.remoteControlIce from_ to_ sessionId candidate)⟩
  | .remoteControlStop from_ to_ sessionId =>
    some ⟨from_, false, .direct to_ (.remoteControlStop from_ to_ sessionId)⟩
  | _ => none

/-- A forwarding arm, up to the read of the reverse map. -/
def Routed.start (r : Routed) : Option RegisteredSession → Task H cfg
  | none => .cleanup
  | some session =>
    if r.recheck && session.clientId != r.from_ then .idle else .lookup r.from_ r.forward

/-- The part of a host action before it reads the reverse map. Reference:
`handle_moderation_message` (`moderation.rs:26-49`). -/
def handleModerationMessage (session : Option RegisteredSession) (from_ : String)
    (action : HostAction) : Task H cfg :=
  match session with
  | none => .cleanup
  | some session => if from_ ≠ session.clientId then .idle else .mapped action

/-- What a connection's registration reads of it. -/
def Conn.context (conn : Conn H cfg) (k : ConnId) : RegistrationContext :=
  ⟨k, conn.challenge, conn.sourceIp, conn.session.isSome⟩

/-- The arms that neither forward nor moderate. Reference: dispatch (`connection.rs:296-401` and
`connection.rs:1574-1654`). -/
def dispatch (k : ConnId) (conn : Conn H cfg) : SignalingMessage → Task H cfg
  | .register _ _ _ _ _ _ _ clientVersion _ =>
    .ops [.reply k (rejectLegacy cfg clientVersion)] .cleanup
  | .registerV3 entryMode protocolVersion identityPublicKey challengeSignature playerName virtualIp
      lobbyName lobbyPassword clientVersion _ useDomain =>
    match handleV3Checks H cfg (conn.context k) ⟨entryMode, protocolVersion, identityPublicKey,
      challengeSignature, playerName, virtualIp, useDomain, lobbyName, lobbyPassword,
      clientVersion⟩ with
    | .ok a => .registration a
    | .error r => .ops (r.reply.toList.map (Op.reply k)) r.refusal.next
  | .leave _ => .cleanup
  | .playersListRequest =>
    match conn.session with
    | none => .cleanup
    | some session => .ops [.roster session.lobbyId (some session.clientId)] .idle
  | .voiceReconnect from_ to_ =>
    match conn.session with
    | none => .cleanup
    | some session => .ops [.sendTo session.lobbyId to_ (.voiceReconnect from_ to_)] .idle
  | .ping => .ops [.reply k .pong] .idle
  | .publicLobbyListRequest => .ops [.publicList] .idle
  | .communityNodeListRequest => .ops [.communityList] .idle
  | .communityNodeSubmit name address submitter =>
    .ops [.communitySubmit name address submitter] .idle
  | _ => .idle

/-- A parsed message: field limits, claimed sender, host actions, dispatch. Reference: message loop
(`connection.rs:248-296`). -/
def handleMessage (k : ConnId) (conn : Conn H cfg) (message : SignalingMessage) : Task H cfg :=
  if !validateMessageShape message then
    .ops [.reply k (.registerError "信令字段无效或超出长度限制")] .cleanup
  else if message.claimedSender.any fun sender =>
      conn.session.map (·.clientId) != some sender then .idle
  else match message.hostAction with
  | some (from_, action) => handleModerationMessage conn.session from_ action
  | none =>
    match message.routed with
    | some r => r.start conn.session
    | none => dispatch k conn message

/-- Whatever the socket yields, after the rate and the session were checked. Reference: message loop
(`connection.rs:244-1681`). -/
def handleInbound (k : ConnId) (conn : Conn H cfg) : Inbound → Task H cfg
  | .text (.ok message) => handleMessage k conn message
  | .text (.error unknownVariant) =>
    .ops [.reply k (.registerError
      (if unknownVariant then "不支持的信令消息类型"
        else if conn.session.isNone then "请先使用 register-v3 完成注册"
        else "信令消息格式无效"))] .cleanup
  | .close => .cleanup
  | .other => .idle

/-- A message or a session that is refused: a close frame, and the loop ends. -/
def refused (k : ConnId) : Task H cfg := .ops [.jobs [.send (closeFrame k)]] .cleanup

/-- A forwarded message after the lobby was found. -/
def Forward.task (forward : Forward) (lobbyId from_ : String) : Task H cfg :=
  match forward with
  | .direct to_ message => .ops [.sendTo lobbyId to_ message] .idle
  | .offer to_ data => .offerName lobbyId from_ to_ data
  | .broadcast message => .ops [.broadcast lobbyId from_ message] .idle

/-! ## What a handler does with a message -/

/-- An operation whose snapshot or question yields one reply. -/
def Op.Asks : Op → Prop
  | .roster .. | .publicList | .communityList | .communitySubmit .. => True
  | _ => False

/-- The messages that may register their connection. -/
def SignalingMessage.isRegistration : SignalingMessage → Bool
  | .registerV3 .. => true
  | _ => false

/-- The ways in which a handler goes on with what its socket yields. -/
inductive Handled (k : ConnId) (conn : Conn H cfg) : Inbound → Task H cfg → Prop
  | ignored {inbound : Inbound} : Handled k conn inbound .idle
  | ended {inbound : Inbound} : Handled k conn inbound .cleanup
  | answered {inbound : Inbound} {message : SignalingMessage} {next : Next} :
      message.chatToken = none → next ≠ .returned →
      Handled k conn inbound (.ops [.reply k message] next)
  | registeredAlready {inbound : Inbound} : Handled k conn inbound (.ops [] .cleanup)
  | registers {message : SignalingMessage} {a : Admission H cfg} : conn.session = none →
      a.context = conn.context k → message.isRegistration = true →
      Handled k conn (.text (.ok message)) (.registration a)
  | moderates {message : SignalingMessage} {action : HostAction} {session : RegisteredSession} :
      conn.session = some session → message.hostAction = some (session.clientId, action) →
      Handled k conn (.text (.ok message)) (.mapped action)
  | forwards {message : SignalingMessage} {r : Routed} {session : RegisteredSession} :
      conn.session = some session → message.routed = some r →
      message.claimedSender.all (· == session.clientId) = true →
      Handled k conn (.text (.ok message)) (.lookup r.from_ r.forward)
  | reconnects {to_ : String} {session : RegisteredSession} : conn.session = some session →
      Handled k conn (.text (.ok (.voiceReconnect session.clientId to_)))
        (.ops [.sendTo session.lobbyId to_ (.voiceReconnect session.clientId to_)] .idle)
  | asks {inbound : Inbound} {op : Op} : op.Asks → Handled k conn inbound (.ops [op] .idle)

section
variable {k : ConnId} {conn : Conn H cfg} {message : SignalingMessage}

theorem rejectLegacy_chatToken {version : Option String} :
    (rejectLegacy cfg version).chatToken = none := by
  unfold rejectLegacy
  dsimp only
  split <;> rfl

theorem Refusal.next_ne_returned (refusal : Refusal) : refusal.next ≠ .returned := by
  cases refusal <;> nofun

/-- The claimed sender is the client of the session, or there is none. -/
theorem claimedSender_accepted {session : RegisteredSession} (hs : conn.session = some session)
    (h : ¬ message.claimedSender.any (fun sender =>
      conn.session.map (·.clientId) != some sender) = true) :
    message.claimedSender.all (· == session.clientId) = true := by
  rw [hs] at h
  cases hsender : message.claimedSender with
  | none => rfl
  | some sender =>
    rw [hsender] at h
    simpa using (show session.clientId = sender by simpa using h).symm

/-- The arms that neither forward nor moderate. -/
theorem dispatch_cases (hclaimed : ¬ message.claimedSender.any (fun sender =>
    conn.session.map (·.clientId) != some sender) = true) :
    Handled k conn (.text (.ok message)) (dispatch k conn message) := by
  unfold dispatch
  split
  · exact .answered rejectLegacy_chatToken nofun
  · split
    · next a ha =>
      obtain ⟨hcontext, -⟩ := handleV3Checks_ok ha
      refine .registers ?_ hcontext rfl
      have hnone := a.unregistered
      rw [hcontext] at hnone
      simpa [Conn.context] using hnone
    · next r hr =>
      have hcases : Checked (conn.context k) _ (.error r : Except Rejection (Admission H cfg)) :=
        hr ▸ handleV3Checks_cases
      cases hcases with
      | registered => exact .registeredAlready
      | @failed _ refusal => exact .answered rfl refusal.next_ne_returned
      | tooOld => exact .answered rfl nofun
  · exact .ended
  · split
    · exact .ended
    · exact .asks trivial
  · split
    · exact .ended
    next from_ to_ _ session hs =>
    obtain rfl : from_ = session.clientId := beq_iff_eq.1 (claimedSender_accepted hs hclaimed)
    exact .reconnects hs
  · exact .answered rfl nofun
  · exact .asks trivial
  · exact .asks trivial
  · exact .asks trivial
  · exact .ignored

/-- **What a handler does with what its socket yields.** -/
theorem handleInbound_cases {inbound : Inbound} :
    Handled k conn inbound (handleInbound k conn inbound) := by
  unfold handleInbound
  split
  · next message =>
    unfold handleMessage
    split
    · exact .answered rfl nofun
    split
    · exact .ignored
    next hclaimed =>
    split
    · next from_ action haction =>
      unfold handleModerationMessage
      split
      · exact .ended
      next session hs =>
      split
      · exact .ignored
      next hfrom =>
      rw [Decidable.not_not] at hfrom
      exact .moderates hs (hfrom ▸ haction)
    split
    · next r hr =>
      unfold Routed.start
      split
      · exact .ended
      next session hs =>
      split
      · exact .ignored
      · exact .forwards hs hr (claimedSender_accepted hs hclaimed)
    · exact dispatch_cases hclaimed
  · exact .answered rfl nofun
  · exact .ended
  · exact .ignored

end

/-! ## Notifications after the lock -/

/-- The reply to a committed registration. Reference: `handle_v3` (`registration.rs:518-531`). -/
def Commit.success (commit : Commit H cfg) : SignalingMessage :=
  .registerSuccess commit.session.clientId commit.session.generation commit.session.lobbyId
    (some commit.hostId) commit.maxPlayers (some commit.isPublic) (some commit.muted)
    commit.chatToken commit.chatTokenEpoch

/-- The news of a committed registration. Reference: `handle_v3` (`registration.rs:547-562`). -/
def Commit.joined (commit : Commit H cfg) : SignalingMessage :=
  .playerJoined commit.session.clientId commit.admission.request.playerName
    (some commit.admission.virtualIp.toString) commit.admission.virtualDomain
    commit.admission.useDomain commit.admission.chatPublicKey commit.session.generation

/-- Reference: `handle_v3` (`registration.rs:518-564`). -/
def Commit.notifications (commit : Commit H cfg) (k : ConnId) : List Op :=
  [.reply k commit.success, .roster commit.session.lobbyId (some commit.session.clientId)] ++
    (if commit.rotationTargets.isEmpty then []
      else [.rotation commit.rotationTargets commit.session.lobbyId commit.chatToken
        commit.chatTokenEpoch]) ++
    [.broadcast commit.session.lobbyId commit.session.clientId commit.joined]

end

/-- A sequence of host notices. Reference: `kick_player`, `mute_player`, `transfer_host` and
`set_lobby_options` after their locks (`moderation.rs:140-306`). -/
def HostNotice.notifications (notice : HostNotice) (lobbyId : String) : List Op :=
  match notice with
  | .kicked removed target targets token epoch =>
    [.jobs [.signal removed.disconnect],
      .reply removed.sender (.kicked "你已被房主移出大厅"),
      .jobs [.send (closeFrame removed.sender)],
      .broadcast lobbyId target (.playerLeft target removed.sessionGeneration),
      .rotation targets lobbyId token epoch]
  | .muteChanged target muted => [.broadcast lobbyId "" (.playerMuteChanged target muted)]
  | .hostChanged target =>
    [.broadcast lobbyId "" (.playerMuteChanged target false),
      .broadcast lobbyId "" (.hostChanged target)]
  | .optionsChanged maxPlayers isPublic =>
    [.broadcast lobbyId "" (.lobbyOptionsChanged maxPlayers isPublic)]

/-- Reference: cleanup (`connection.rs:1750-1786`). -/
def Departure.notifications (departure : Departure) : List Op :=
  let session := departure.session
  [.broadcast session.lobbyId session.clientId
      (.playerLeft session.clientId session.generation)] ++
    (match departure.chatRotation with
      | some (targets, token, epoch) => [.rotation targets session.lobbyId token epoch]
      | none => []) ++
    (match departure.newHost with
      | some hostId =>
        [.broadcast session.lobbyId "" (.playerMuteChanged hostId false),
          .broadcast session.lobbyId "" (.hostChanged hostId)]
      | none => [])

/-! ## Requests as messages -/

/-- The message of a request. -/
def RegistrationRequest.message (req : RegistrationRequest) : SignalingMessage :=
  .registerV3 req.entryMode req.protocolVersion req.identityPublicKey req.challengeSignature
    req.playerName req.virtualIp req.lobbyName req.lobbyPassword req.clientVersion none
    req.useDomain

/-- A request that passes the checks goes to its registration. -/
theorem handleInbound_registration {H : Crypto} {cfg : ServerConfig} {k : ConnId}
    {conn : Conn H cfg} {req : RegistrationRequest} {a : Admission H cfg}
    (hshape : validateMessageShape req.message = true)
    (ha : handleV3Checks H cfg (conn.context k) req = .ok a) :
    handleInbound k conn (.text (.ok req.message)) = .registration a := by
  simp only [handleInbound, handleMessage, hshape, Bool.not_true, Bool.false_eq_true, if_false]
  simp only [RegistrationRequest.message, SignalingMessage.claimedSender,
    SignalingMessage.hostAction, SignalingMessage.routed, dispatch, Option.any_none,
    Bool.false_eq_true, if_false, ha]

end MctierSignaling
