import MctierSignaling.State
import MctierSignaling.Protocol

/-!
# Registration

`registration.rs`. `handle_v3` checks a request in two parts. The first reads only the request and
the connection (`handleV3Checks`); what it accepts is an `Admission`, which carries the facts
checked as fields. The second runs under the lobby write lock (`handleV3Locked`): entry mode, a
single lobby per identity, the password limiter and the password, the virtual address, the capacity,
and the commit. What `handle_v3` does after the lock is released is in `MctierSignaling.Connection`.
-/

namespace MctierSignaling

/-- Reference: `RegistrationRequest` (`registration.rs:28`). -/
structure RegistrationRequest where
  entryMode : Option LobbyEntryMode
  protocolVersion : Nat
  identityPublicKey : String
  challengeSignature : String
  playerName : String
  virtualIp : Option String
  useDomain : Option Bool
  lobbyName : String
  lobbyPassword : String
  clientVersion : Option String

/-- What a registration reads of its connection. Reference: `RegistrationContext`
(`registration.rs:41`). -/
structure RegistrationContext where
  sender : ConnId
  challenge : String
  sourceIp : IpAddr
  isRegistered : Bool

/-- Reference: `RegisteredSession` (`registration.rs:54`). -/
structure RegisteredSession where
  clientId : String
  lobbyId : String
  generation : Nat
  deriving DecidableEq

/-- How a refused registration leaves its connection: `RegistrationOutcome::Retry` keeps it, and
`RegistrationOutcome::Disconnect` ends it. -/
inductive Refusal where
  | retry
  | disconnect
  deriving DecidableEq

/-- A refused registration: the reply, if there is one, and what follows. -/
structure Rejection where
  reply : Option SignalingMessage
  refusal : Refusal

/-! ## Versions -/

/-- The closure `parse_version` of `is_version_valid`. -/
def parseVersion (value : String) : Option (Nat × Nat × Nat) :=
  if value.isEmpty ∨ value.utf8ByteSize > MAX_CLIENT_VERSION_LEN then none
  else match value.toList.splitOn '.' with
  | [a, b, c] => do return (← parseU32 a, ← parseU32 b, ← parseU32 c)
  | _ => none

/-- The order of version numbers. -/
def versionLe (minimum current : Nat × Nat × Nat) : Bool :=
  minimum.1 < current.1 || minimum.1 == current.1 &&
    (minimum.2.1 < current.2.1 || minimum.2.1 == current.2.1 && minimum.2.2 ≤ current.2.2)

/-- Reference: `is_version_valid` (`registration.rs:77`). -/
def isVersionValid (version minimumVersion : String) : Bool :=
  match parseVersion version, parseVersion minimumVersion with
  | some current, some minimum => versionLe minimum current
  | _, _ => false

/-- Reference: `version_error` (`registration.rs:105`). -/
def versionError (cfg : ServerConfig) (version : String) : SignalingMessage :=
  .versionTooOld
    ("您的客户端版本过低（当前版本: " ++ version ++ "），请更新到最新版本（最低要求: " ++
      cfg.minimumClientVersion ++ "）")
    version cfg.minimumClientVersion cfg.clientDownloadUrl

/-- The reply to a legacy registration. Reference: `reject_legacy` (`registration.rs:118`). -/
def rejectLegacy (cfg : ServerConfig) (clientVersion : Option String) : SignalingMessage :=
  let version := clientVersion.getD "unknown"
  if !isVersionValid version cfg.minimumClientVersion then versionError cfg version
  else .registerError "已拒绝旧注册协议，请先等待 server-challenge 后使用 register-v3"

/-! ## Checks before the lock -/

/-- Reference: `valid_chat_public_key` (`protocol.rs:1023`). -/
def validChatPublicKey (H : Crypto) (value : String) : Bool :=
  !value.isEmpty && value.utf8ByteSize ≤ MAX_CHAT_PUBLIC_KEY_LEN &&
    (H.base64Decode value).any fun der => (H.keyOfDer der).isSome

/-- Reference: `normalize_chat_public_key` (`protocol.rs:1034`). -/
def normalizeChatPublicKey (H : Crypto) (raw : Option String) : Option String := do
  let trimmed := String.ofList (trim (← raw).toList)
  if validChatPublicKey H trimmed then some trimmed else none

/-- The client version a request submits, as `handle_v3` reads it. -/
def RegistrationRequest.version (req : RegistrationRequest) : String :=
  req.clientVersion.getD "unknown"

/-- A request that passed the checks of `handle_v3` before the lobby lock, with what they
established. -/
structure Admission (H : Crypto) (cfg : ServerConfig) where
  request : RegistrationRequest
  context : RegistrationContext
  cid : String
  chatPublicKey : Option String
  virtualDomain : Option String
  useDomain : Option Bool
  virtualIp : Ipv4Addr
  unregistered : context.isRegistered = false
  parsed : parseVirtualIpv4 request.virtualIp = some virtualIp
  verified : ProofVerified H context.challenge request.lobbyName virtualIp.toString
    request.identityPublicKey request.challengeSignature cid
  version : isVersionValid request.version cfg.minimumClientVersion = true

/-- The checks of `handle_v3` before the lobby lock. Reference: `handle_v3`
(`registration.rs:165-277`). -/
def handleV3Checks (H : Crypto) (cfg : ServerConfig) (ctx : RegistrationContext)
    (req : RegistrationRequest) : Except Rejection (Admission H cfg) :=
  if hreg : ctx.isRegistered then .error ⟨none, .disconnect⟩
  else if req.protocolVersion ≠ SIGNALING_PROTOCOL_VERSION then
    .error ⟨some (.registerError
      ("不支持的信令协议版本，要求 " ++ toString SIGNALING_PROTOCOL_VERSION)), .disconnect⟩
  else match hip : parseVirtualIpv4 req.virtualIp with
  | none => .error ⟨some (.registerError "virtualIp 必须位于 10.126.126.1-254"), .retry⟩
  | some ip =>
    match hid : verifyRegistrationIdentity H ctx.challenge req.lobbyName ip.toString
      req.identityPublicKey req.challengeSignature with
    | none => .error ⟨some (.registerError "身份公钥或 challengeSignature 无效"), .disconnect⟩
    | some (cid, identityKey, derivedVirtualDomain) =>
      let virtualDomain := some derivedVirtualDomain
      let useDomain := req.useDomain.or (some true)
      if !validText cid MAX_CLIENT_ID_LEN false ||
          !validText req.playerName MAX_PLAYER_NAME_LEN false ||
          !validText req.lobbyName MAX_LOBBY_NAME_LEN false ||
          !validText req.lobbyPassword MAX_LOBBY_PASSWORD_LEN true ||
          virtualDomain.any (!validText · MAX_VIRTUAL_DOMAIN_LEN true) then
        .error ⟨some (.registerError "注册字段为空、过长或包含控制字符"), .retry⟩
      else
        let chatPublicKey := normalizeChatPublicKey H (some identityKey)
        if hver : req.version = "unknown" ∨
            ¬ isVersionValid req.version cfg.minimumClientVersion = true then
          .error ⟨some (versionError cfg req.version), .disconnect⟩
        else match hip' : parseVirtualIpv4 req.virtualIp with
        -- the source parses the same field a second time
        | none => .error ⟨some (.registerError "virtualIp 必须位于 10.126.126.1-254"), .retry⟩
        | some virtualIp => .ok {
            request := req
            context := ctx
            cid := cid
            chatPublicKey := chatPublicKey
            virtualDomain := virtualDomain
            useDomain := useDomain
            virtualIp := virtualIp
            unregistered := by simpa using hreg
            parsed := hip'
            verified := by
              obtain rfl : ip = virtualIp := Option.some.inj (hip.symm.trans hip')
              exact verifyRegistrationIdentity_verified hid
            version := by simpa using (not_or.1 hver).2 }

/-- The outcomes of the checks: an admission of the request and the connection that were checked, or
a refusal, without a reply if the connection was registered already. -/
inductive Checked {H : Crypto} {cfg : ServerConfig} (ctx : RegistrationContext)
    (req : RegistrationRequest) : Except Rejection (Admission H cfg) → Prop
  | admitted {a : Admission H cfg} : a.context = ctx → a.request = req → Checked ctx req (.ok a)
  | registered : ctx.isRegistered = true → Checked ctx req (.error ⟨none, .disconnect⟩)
  | failed {error : String} {refusal : Refusal} :
      Checked ctx req (.error ⟨some (.registerError error), refusal⟩)
  | tooOld : Checked ctx req (.error ⟨some (versionError cfg req.version), .disconnect⟩)

theorem handleV3Checks_cases {H : Crypto} {cfg : ServerConfig} {ctx : RegistrationContext}
    {req : RegistrationRequest} : Checked ctx req (handleV3Checks H cfg ctx req) := by
  unfold handleV3Checks
  split
  · next hreg => exact .registered hreg
  split
  · exact .failed
  split
  · exact .failed
  split
  · exact .failed
  dsimp only
  split
  · exact .failed
  split
  · exact .tooOld
  · exact .admitted rfl rfl

/-- An admission is of the request and the connection that were checked. -/
theorem handleV3Checks_ok {H : Crypto} {cfg : ServerConfig} {ctx : RegistrationContext}
    {req : RegistrationRequest} {a : Admission H cfg}
    (h : handleV3Checks H cfg ctx req = .ok a) : a.context = ctx ∧ a.request = req := by
  have hcases : Checked ctx req (.ok a : Except Rejection (Admission H cfg)) :=
    h ▸ handleV3Checks_cases
  cases hcases with
  | admitted hcontext hrequest => exact ⟨hcontext, hrequest⟩

/-- The valid texts of a request and of what its proof derives. -/
def validFields (req : RegistrationRequest) (cid domain : String) : Bool :=
  validText cid MAX_CLIENT_ID_LEN false && validText req.playerName MAX_PLAYER_NAME_LEN false &&
    validText req.lobbyName MAX_LOBBY_NAME_LEN false &&
    validText req.lobbyPassword MAX_LOBBY_PASSWORD_LEN true &&
    validText domain MAX_VIRTUAL_DOMAIN_LEN true

/-- What the checks established of the request that they admit. -/
theorem handleV3Checks_spec {H : Crypto} {cfg : ServerConfig} {ctx : RegistrationContext}
    {req : RegistrationRequest} {a : Admission H cfg} (h : handleV3Checks H cfg ctx req = .ok a) :
    ∃ key domain,
    verifyRegistrationIdentity H ctx.challenge req.lobbyName a.virtualIp.toString
      req.identityPublicKey req.challengeSignature = some (a.cid, key, domain) ∧
    validFields req a.cid domain = true ∧ a.virtualDomain = some domain ∧
    a.chatPublicKey = normalizeChatPublicKey H (some key) ∧
    a.useDomain = req.useDomain.or (some true) := by
  unfold handleV3Checks at h
  split at h
  · cases h
  split at h
  · cases h
  split at h
  · cases h
  next ip hip =>
  split at h
  · cases h
  next cid key domain hid =>
  dsimp only at h
  split at h
  · cases h
  next hvalid =>
  split at h
  · cases h
  -- the second parse is of the same text, and does not fail
  cases h
  refine ⟨key, domain, hid, ?_, rfl, rfl, rfl⟩
  simp only [Bool.or_eq_true, not_or, Bool.not_eq_true, Bool.not_eq_false', Option.any_some]
    at hvalid
  simp [validFields, hvalid]

/-- A request that passes every check is admitted with what its proof derives. -/
theorem handleV3Checks_eq_ok {H : Crypto} {cfg : ServerConfig} {ctx : RegistrationContext}
    (req : RegistrationRequest) {ip : Ipv4Addr} {cid key domain : String}
    (hreg : ctx.isRegistered = false) (hprotocol : req.protocolVersion = SIGNALING_PROTOCOL_VERSION)
    (hip : parseVirtualIpv4 req.virtualIp = some ip)
    (hid : verifyRegistrationIdentity H ctx.challenge req.lobbyName ip.toString
      req.identityPublicKey req.challengeSignature = some (cid, key, domain))
    (hvalid : validFields req cid domain = true) (hknown : req.version ≠ "unknown")
    (hversion : isVersionValid req.version cfg.minimumClientVersion = true) :
    handleV3Checks H cfg ctx req = .ok {
      request := req
      context := ctx
      cid := cid
      chatPublicKey := normalizeChatPublicKey H (some key)
      virtualDomain := some domain
      useDomain := req.useDomain.or (some true)
      virtualIp := ip
      unregistered := hreg
      parsed := hip
      verified := verifyRegistrationIdentity_verified hid
      version := hversion } := by
  unfold handleV3Checks
  split
  · next h => rw [hreg] at h; cases h
  split
  · next h => exact absurd hprotocol h
  split
  · next h => cases h.symm.trans hip
  next ip' h =>
  cases h.symm.trans hip
  split
  · next h => cases h.symm.trans hid
  next h =>
  cases h.symm.trans hid
  dsimp only
  split
  · next h =>
    simp only [validFields, Bool.and_eq_true] at hvalid
    simp [hvalid] at h
  split
  · next h => simp [hknown, hversion] at h
  · rfl

/-! ## The commit, under the lobby lock -/

/-- The random values a registration may draw: the salt and the token of a new lobby or the rotated
token, the session generation, and the iteration order of the failure table. -/
structure Draws where
  salt : String
  token : String
  generation : Nat
  tie : Nat

/-- What a committed registration carries past the lock. -/
structure Commit (H : Crypto) (cfg : ServerConfig) where
  admission : Admission H cfg
  session : RegisteredSession
  chatToken : String
  chatTokenEpoch : Nat
  rotationTargets : List (String × ConnId)
  hostId : String
  maxPlayers : Option Nat
  isPublic : Bool
  muted : List String

inductive RegistrationOutcome (H : Crypto) (cfg : ServerConfig) where
  | rejected (reply : SignalingMessage) (refusal : Refusal)
  | committed (commit : Commit H cfg)

section
variable {H : Crypto} {cfg : ServerConfig}

/-- The lobby a registration asks for. -/
def Admission.lobbyId (a : Admission H cfg) : String := generateLobbyId H a.request.lobbyName

/-- The entry mode against the lobby's existence. Reference: `entry_error`
(`registration.rs:283`). -/
def entryError (entryMode : Option LobbyEntryMode) (lobbyExists : Bool) : Option String :=
  match entryMode, lobbyExists with
  | some .create, true => some "大厅名称已被占用，请更换大厅名称后重试"
  | some .join, false => some "大厅不存在或已关闭，请检查大厅名称或联系房主"
  | _, _ => none

/-- Some lobby that holds a client. Reference: `existing_client_lobby` (`registration.rs:300`). -/
def existingClientLobby (lobbies : HashMap String LobbyInfo) (cid : String) : Option String :=
  lobbies.entries.findSome? fun e => if cid ∈ e.2.clients then some e.1 else none

/-- The password check against an existing lobby, with the limiter's bookkeeping. Reference:
`handle_v3` (`registration.rs:347-376`). -/
def checkPassword (H : Crypto) (existing : Option LobbyInfo) (failures : RegisterPasswordFailures)
    (key : FailureKey) (password : String) (now tie : Nat) :
    RegisterPasswordFailures × Option String :=
  match existing with
  | none => (failures, none)
  | some existing =>
    let suppliedHash := hashLobbyPassword H existing.passwordSalt password
    if !ctEq (utf8Bytes suppliedHash) (utf8Bytes existing.passwordHash) then
      let (failures, locked) := failures.isLocked key now
      if locked then (failures, some "密码错误次数过多，请稍后再试")
      else (failures.recordFailure key now tie, some "密码错误")
    else (failures.clear key, none)

/-- The lobby `or_insert_with` creates. Reference: `handle_v3` (`registration.rs:378-397`). -/
def Admission.newLobby (a : Admission H cfg) (d : Draws) : LobbyInfo where
  lobbyName := a.request.lobbyName
  passwordHash := hashLobbyPassword H d.salt a.request.lobbyPassword
  passwordSalt := d.salt
  clients := ∅
  hostId := a.cid
  maxPlayers := none
  isPublic := false
  isPasswordless := a.request.lobbyPassword.isEmpty
  description := ""
  serverNode := ""
  muted := ∅
  chatToken := d.token
  chatTokenEpoch := 1

/-- Another member holds the address. Reference: `handle_v3` (`registration.rs:400-406`). -/
def addressTaken (lobby : LobbyInfo) (cid : String) (ip : Ipv4Addr) : Bool :=
  lobby.clients.entries.any fun e => e.2.playerId != cid &&
    e.2.virtualIp.bind (fun ip => parseIpv4 ip.toList) == some ip

/-- Reference: `client_info` (`registration.rs:421`). -/
def Admission.clientInfo (a : Admission H cfg) (generation : Nat) : ClientInfo where
  playerId := a.cid
  playerName := a.request.playerName
  virtualIp := some a.virtualIp.toString
  virtualDomain := a.virtualDomain
  useDomain := a.useDomain
  chatPublicKey := a.chatPublicKey
  sessionGeneration := generation
  sender := a.context.sender
  disconnect := a.context.sender

/-- No room: the absolute cap, even for a reconnect, or the host's cap for a new identity.
Reference: `handle_v3` (`registration.rs:435-439`). -/
def lobbyFull (lobby : LobbyInfo) (cid : String) : Bool :=
  lobby.clients.keys.length ≥ MAX_LOBBY_MEMBERS ||
    lobby.maxPlayers.any fun max => cid ∉ lobby.clients && lobby.clients.keys.length ≥ max

/-- The members that a rotation notifies, with the sender each has now. -/
def rotationTargets (lobby : LobbyInfo) : List (String × ConnId) :=
  lobby.clients.entries.map fun e => (e.1, e.2.sender)

/-- The lobby after a member entered: the token of a lobby that had members is rotated. Reference:
`handle_v3` (`registration.rs:461-470`). -/
def Admission.enter (a : Admission H cfg) (lobby : LobbyInfo) (d : Draws) : LobbyInfo :=
  let entered :=
    { lobby with clients := lobby.clients.insert a.cid (a.clientInfo d.generation) }
  if lobby.clients.entries.isEmpty then entered else rotateChatToken entered d.token

/-- What the commit hands to the notifications. Reference: `handle_v3`
(`registration.rs:471-498`). -/
def Admission.commitOf (a : Admission H cfg) (lobby : LobbyInfo) (d : Draws) : Commit H cfg :=
  let entered := a.enter lobby d
  { admission := a
    session := ⟨a.cid, a.lobbyId, d.generation⟩
    chatToken := entered.chatToken
    chatTokenEpoch := entered.chatTokenEpoch
    rotationTargets := if lobby.clients.entries.isEmpty then []
      else (rotationTargets entered).filter fun t => t.1 != a.cid
    hostId := entered.hostId
    maxPlayers := entered.maxPlayers
    isPublic := entered.isPublic
    muted := entered.muted.keys }

/-- Signals a replaced session, enters the member and maps the client to the lobby. Reference:
`handle_v3` (`registration.rs:461-490`). -/
def Admission.commit (a : Admission H cfg) (sh : Shared) (lobby : LobbyInfo) (d : Draws) :
    Shared :=
  let sh := match lobby.clients.lookup a.cid with
    | some previous => sh.signal previous.disconnect
    | none => sh
  { sh with
    lobbies := sh.lobbies.insert a.lobbyId (a.enter lobby d)
    clientLobbyMap := sh.clientLobbyMap.insert a.cid a.lobbyId }

/-- The critical section of `handle_v3`. Reference: `handle_v3` (`registration.rs:279-490`). -/
def handleV3Locked (sh : Shared) (a : Admission H cfg) (now : Nat) (d : Draws) :
    Shared × RegistrationOutcome H cfg :=
  let lid := a.lobbyId
  match entryError a.request.entryMode (lid ∈ sh.lobbies) with
  | some message => (sh, .rejected (.registerError message) .disconnect)
  | none =>
  if (existingClientLobby sh.lobbies a.cid).any (· != lid) then
    (sh, .rejected (.registerError "客户端身份已在使用中，请重新连接") .disconnect)
  else
  let failureKey := (quotaSource a.context.sourceIp, lid)
  let (failures, locked) := sh.failures.isLocked failureKey now
  if locked then
    ({ sh with failures }, .rejected (.registerError "密码错误次数过多，请稍后再试") .disconnect)
  else
  match checkPassword H (sh.lobbies.lookup lid) failures failureKey a.request.lobbyPassword now
    d.tie with
  | (failures, some message) =>
    ({ sh with failures }, .rejected (.registerError message) .disconnect)
  | (failures, none) =>
  -- `entry(..).or_insert_with(..)` inserts a new lobby before the checks that follow
  let lobby := (sh.lobbies.lookup lid).getD (a.newLobby d)
  let sh := { sh with failures, lobbies := HashMap.orInsert sh.lobbies lid (a.newLobby d) }
  if addressTaken lobby a.cid a.virtualIp then
    (sh, .rejected (.registerError "virtualIp 已被大厅内其他成员使用") .retry)
  else if lobbyFull lobby a.cid then
    (sh, .rejected (.registerError ("大厅人数已满（服务端上限 " ++ toString MAX_LOBBY_MEMBERS ++
      " 人）")) .retry)
  else
    (a.commit sh lobby d, .committed (a.commitOf lobby d))

end

/-! ## The recorded session

Alice and bob register for the lobby `room`, which has no password, bob on two connections. -/

def aliceId : String := "d99b042ea66ca203b15bdce14bb1d7f921d876919a1cfa69bc5a82605b515f53"

def bobId : String := "2246943603b617d81a6791d16a181485efbb948ae01e73f74e1c26dc5946e0db"

def roomId : String := "1f1c5b2fad778434024f1537986346927917f4755a6e7d3fd91f22653b7c3132"

/-- A registration for `room`. -/
def roomRequest (key proof name ip : String) : RegistrationRequest :=
  ⟨none, SIGNALING_PROTOCOL_VERSION, key, proof, name, some ip, none, "room", "", some "3.8.0"⟩

/-- A connection before its registration, with its challenge. -/
def recordedContext (k : ConnId) (challenge : String) : RegistrationContext :=
  ⟨k, challenge, .v4 ⟨192, 0, 2, 1⟩, false⟩

theorem alice_identity : verifyRegistrationIdentity recordedCrypto (repeatedByte "a1" 32) "room"
    (Ipv4Addr.toString ⟨10, 126, 126, 1⟩) aliceKey aliceProof =
      some (aliceId, aliceKey, String.ofList (aliceId.toList.take 32) ++ ".mct.net") := by
  decide +kernel

theorem bob_identity : verifyRegistrationIdentity recordedCrypto (repeatedByte "b2" 32) "room"
    (Ipv4Addr.toString ⟨10, 126, 126, 2⟩) bobKey bobProof =
      some (bobId, bobKey, String.ofList (bobId.toList.take 32) ++ ".mct.net") := by
  decide +kernel

theorem bobAgain_identity : verifyRegistrationIdentity recordedCrypto (repeatedByte "c3" 32) "room"
    (Ipv4Addr.toString ⟨10, 126, 126, 2⟩) bobKey bobAgainProof =
      some (bobId, bobKey, String.ofList (bobId.toList.take 32) ++ ".mct.net") := by
  decide +kernel

theorem room_version : isVersionValid "3.8.0" ServerConfig.default.minimumClientVersion = true := by
  decide +kernel

/-- What the checks admit of a recorded request. -/
def roomAdmission (ctx : RegistrationContext) (key proof name ip cid : String) (addr : Ipv4Addr)
    (hreg : ctx.isRegistered = false) (hip : parseVirtualIpv4 (some ip) = some addr)
    (hid : verifyRegistrationIdentity recordedCrypto ctx.challenge "room" addr.toString key proof =
      some (cid, key, String.ofList (cid.toList.take 32) ++ ".mct.net")) :
    Admission recordedCrypto .default where
  request := roomRequest key proof name ip
  context := ctx
  cid := cid
  chatPublicKey := normalizeChatPublicKey recordedCrypto (some key)
  virtualDomain := some (String.ofList (cid.toList.take 32) ++ ".mct.net")
  useDomain := some true
  virtualIp := addr
  unregistered := hreg
  parsed := hip
  verified := verifyRegistrationIdentity_verified hid
  version := room_version

/-- Alice, on connection 1. -/
def alice : Admission recordedCrypto .default :=
  roomAdmission (recordedContext 1 (repeatedByte "a1" 32)) aliceKey aliceProof "alice"
    "10.126.126.1" aliceId ⟨10, 126, 126, 1⟩ rfl (by decide +kernel) alice_identity

/-- Bob, on connection 2. -/
def bob : Admission recordedCrypto .default :=
  roomAdmission (recordedContext 2 (repeatedByte "b2" 32)) bobKey bobProof "bob"
    "10.126.126.2" bobId ⟨10, 126, 126, 2⟩ rfl (by decide +kernel) bob_identity

/-- Bob, on connection 3. -/
def bobAgain : Admission recordedCrypto .default :=
  roomAdmission (recordedContext 3 (repeatedByte "c3" 32)) bobKey bobAgainProof "bob"
    "10.126.126.2" bobId ⟨10, 126, 126, 2⟩ rfl (by decide +kernel) bobAgain_identity

/-- The checks admit a recorded request. -/
theorem roomAdmission_checks {ctx : RegistrationContext} {key proof name ip cid : String}
    {addr : Ipv4Addr} {hreg : ctx.isRegistered = false}
    {hip : parseVirtualIpv4 (some ip) = some addr}
    {hid : verifyRegistrationIdentity recordedCrypto ctx.challenge "room" addr.toString key proof =
      some (cid, key, String.ofList (cid.toList.take 32) ++ ".mct.net")}
    (hvalid : validFields (roomRequest key proof name ip) cid
      (String.ofList (cid.toList.take 32) ++ ".mct.net") = true) :
    handleV3Checks recordedCrypto .default ctx (roomRequest key proof name ip) =
      .ok (roomAdmission ctx key proof name ip cid addr hreg hip hid) :=
  handleV3Checks_eq_ok (roomRequest key proof name ip) hreg rfl hip hid hvalid
    (show "3.8.0" ≠ "unknown" by decide) room_version

theorem alice_checks : handleV3Checks recordedCrypto .default
    (recordedContext 1 (repeatedByte "a1" 32)) alice.request = .ok alice :=
  roomAdmission_checks (by decide +kernel)

theorem bob_checks : handleV3Checks recordedCrypto .default
    (recordedContext 2 (repeatedByte "b2" 32)) bob.request = .ok bob :=
  roomAdmission_checks (by decide +kernel)

theorem bobAgain_checks : handleV3Checks recordedCrypto .default
    (recordedContext 3 (repeatedByte "c3" 32)) bobAgain.request = .ok bobAgain :=
  roomAdmission_checks (by decide +kernel)

/-- The draws of one registration. -/
def recordedDraws (token : String) (generation : Nat) : Draws :=
  ⟨repeatedByte "5a" 16, repeatedByte token 32, generation, 0⟩

end MctierSignaling
