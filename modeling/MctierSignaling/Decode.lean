import MctierSignaling.Json
import MctierSignaling.Lib.Record

/-!
# Reading a message

What `serde` derives for reading a `SignalingMessage` from a JSON value, with the attributes of
`protocol.rs`: a variant is chosen by its tag `type`, and its fields are read by their renamed
names, or in their order from an array. A number must be an integer in the range of its field
(`SignalingMessage.InRange`). What the server writes is read back as it was (`decode_toJson_iff`),
in whatever order the members stand (`decode_sorted`), and so is what it forwards, stamped with its
sender's session (`decode_stamped`).
-/

namespace MctierSignaling

open Record

/-! ## Values -/

def Json.content : Json → Option (Content Json)
  | .obj fields => some (.map fields)
  | .arr vs => some (.seq vs)
  | _ => none

def Json.asBool : Json → Option Bool
  | .bool b => some b
  | _ => none

def U16_MAX : Nat := 65535
def U32_MAX : Nat := 4294967295
def U64_MAX : Nat := 18446744073709551615
def I64_MIN : Int := -9223372036854775808
def I64_MAX : Int := 9223372036854775807

/-- An integer of an unsigned type. -/
def Json.asUnsigned (max : Nat) : Json → Option Nat
  | .num n => if 0 ≤ n ∧ n ≤ max then some n.toNat else none
  | _ => none

/-- An `i64`. -/
def Json.asI64 : Json → Option Int
  | .num n => if I64_MIN ≤ n ∧ n ≤ I64_MAX then some n else none
  | _ => none

def Json.asOption {α : Type} (read : Json → Option α) : Json → Option (Option α)
  | .null => some none
  | v => (read v).map some

def Json.asList {α : Type} (read : Json → Option α) : Json → Option (List α)
  | .arr vs => vs.mapM read
  | _ => none

def Json.asRecord {α : Type} (r : Reader Json α) (v : Json) : Option α := v.content.bind r.all

/-- A unit variant of an enumeration: its name, or an object with the name as its only member. -/
def Json.asVariant : Json → Option String
  | .str name | .obj [(name, .null)] | .obj [(name, .obj [])] => some name
  | _ => none

/-! ## Fields -/

namespace Record

section
variable {α : Type} (name : String) (read : Json → Option α)

/-- A field that must be there. -/
@[simp] def required : Reader Json α := field name none none read

/-- An `Option`, which is `None` where no member has its name. -/
@[simp] def option : Reader Json (Option α) := field name (some none) none (Json.asOption read)

/-- A field with `#[serde(default)]`. -/
@[simp] def defaulted (value : α) : Reader Json α := field name (some value) (some value) read

end

@[simp] def text (name : String) : Reader Json String := required name Json.asStr
@[simp] def optText (name : String) : Reader Json (Option String) := option name Json.asStr
@[simp] def flag (name : String) : Reader Json Bool := required name Json.asBool
@[simp] def optFlag (name : String) : Reader Json (Option Bool) := option name Json.asBool

@[simp] def unsigned (name : String) (max : Nat) : Reader Json Nat :=
  required name (Json.asUnsigned max)

@[simp] def optUnsigned (name : String) (max : Nat) : Reader Json (Option Nat) :=
  option name (Json.asUnsigned max)

@[simp] def record {α : Type} (name : String) (r : Reader Json α) : Reader Json α :=
  required name (Json.asRecord r)

@[simp] def records {α : Type} (name : String) (r : Reader Json α) : Reader Json (List α) :=
  required name (Json.asList (Json.asRecord r))

end Record

/-! ## Records -/

/-- Reference: `LobbyEntryMode` (`protocol.rs:6`). -/
def LobbyEntryMode.decode (v : Json) : Option LobbyEntryMode :=
  match v.asVariant with
  | some "create" => some .create
  | some "join" => some .join
  | some "auto" => some .auto
  | _ => none

/-- Reference: `FileShareInfo` (`protocol.rs:557`). -/
def FileShareInfo.reader : Reader Json FileShareInfo := do
  return {
    shareId := ← text "shareId"
    shareName := ← text "shareName"
    playerName := ← text "playerName"
    hasPassword := ← flag "hasPassword" }

/-- Reference: `PublicLobbyInfo` (`protocol.rs:569`). -/
def PublicLobbyInfo.reader : Reader Json PublicLobbyInfo := do
  return {
    lobbyName := ← text "lobbyName"
    playerCount := ← unsigned "playerCount" U32_MAX
    maxPlayers := ← optUnsigned "maxPlayers" U32_MAX
    hostName := ← text "hostName"
    description := ← text "description"
    serverNode := ← defaulted "serverNode" Json.asStr "" }

/-- Reference: `CommunityNodeInfo` (`protocol.rs:590`). -/
def CommunityNodeInfo.reader : Reader Json CommunityNodeInfo := do
  return {
    name := ← text "name"
    address := ← text "address"
    submitter := ← defaulted "submitter" (Json.asOption Json.asStr) none
    submittedAt := ← defaulted "submittedAt" (Json.asUnsigned U64_MAX) 0
    lastOkAt := ← defaulted "lastOkAt" (Json.asUnsigned U64_MAX) 0
    online := ← defaulted "online" Json.asBool false
    latencyMs := ← defaulted "latencyMs" (Json.asOption (Json.asUnsigned U64_MAX)) none }

/-- Reference: `PlayerInfo` (`protocol.rs:610`). -/
def PlayerInfo.reader : Reader Json PlayerInfo := do
  return {
    playerId := ← text "playerId"
    playerName := ← text "playerName"
    virtualIp := ← optText "virtualIp"
    virtualDomain := ← optText "virtualDomain"
    useDomain := ← optFlag "useDomain"
    chatPublicKey := ← optText "chatPublicKey"
    sessionGeneration := ← unsigned "sessionGeneration" U64_MAX }

/-- Reference: `OfferData` and `AnswerData` (`protocol.rs:630-641`). -/
def SessionDescription.reader : Reader Json SessionDescription := do
  return { sdpType := ← text "type", sdp := ← text "sdp" }

/-- Reference: `CandidateData` (`protocol.rs:644`). -/
def CandidateData.reader : Reader Json CandidateData := do
  return {
    candidate := ← text "candidate"
    sdpMLineIndex := ← optUnsigned "sdpMLineIndex" U16_MAX
    sdpMid := ← optText "sdpMid" }

/-! ## Messages -/

/-- The names of the variants. Reference: the identifiers that `serde` derives for
`SignalingMessage`. -/
inductive Variant where
  | serverChallenge | registerV3 | register | registerSuccess | chatTokenRotated | registerError
  | leave | versionTooOld | playersList | playersListRequest | playerJoined | playerLeft | offer
  | voiceReconnect | answer | iceCandidate | chatMessage | statusUpdate | screenShareStart
  | screenShareStop | screenShareRelay | screenShareOffer | screenShareAnswer
  | screenShareIceCandidate | screenShareError | screenShareListRequest | screenShareListResponse
  | screenShareViewerLeft | screenShareUpdate | fileShareAdded | fileShareRemoved
  | fileShareListRequest | fileShareListResponse | shareUpdated | remoteControlRequest
  | remoteControlAccept | remoteControlReject | remoteControlOffer | remoteControlAnswer
  | remoteControlIce | remoteControlStop | ping | pong | kickPlayer | kicked | mutePlayer
  | playerMuteChanged | transferHost | hostChanged | setLobbyOptions | lobbyOptionsChanged
  | publicLobbyListRequest | publicLobbyListResponse | communityNodeListRequest
  | communityNodeListResponse | communityNodeSubmit | communityNodeSubmitResult
  deriving DecidableEq

/-- The tag of a variant: its `rename`, or its name in kebab case. -/
def Variant.tag : Variant → String
  | .serverChallenge => "server-challenge"
  | .registerV3 => "register-v3"
  | .register => "register"
  | .registerSuccess => "register-success"
  | .chatTokenRotated => "chat-token-rotated"
  | .registerError => "register-error"
  | .leave => "leave"
  | .versionTooOld => "version-too-old"
  | .playersList => "players-list"
  | .playersListRequest => "players-list-request"
  | .playerJoined => "player-joined"
  | .playerLeft => "player-left"
  | .offer => "offer"
  | .voiceReconnect => "voice-reconnect"
  | .answer => "answer"
  | .iceCandidate => "ice-candidate"
  | .chatMessage => "chat-message"
  | .statusUpdate => "status-update"
  | .screenShareStart => "screen-share-start"
  | .screenShareStop => "screen-share-stop"
  | .screenShareRelay => "screen-share-relay"
  | .screenShareOffer => "screen-share-offer"
  | .screenShareAnswer => "screen-share-answer"
  | .screenShareIceCandidate => "screen-share-ice-candidate"
  | .screenShareError => "screen-share-error"
  | .screenShareListRequest => "screen-share-list-request"
  | .screenShareListResponse => "screen-share-list-response"
  | .screenShareViewerLeft => "screen-share-viewer-left"
  | .screenShareUpdate => "screen-share-update"
  | .fileShareAdded => "file-share-added"
  | .fileShareRemoved => "file-share-removed"
  | .fileShareListRequest => "file-share-list-request"
  | .fileShareListResponse => "file-share-list-response"
  | .shareUpdated => "share-updated"
  | .remoteControlRequest => "remote-control-request"
  | .remoteControlAccept => "remote-control-accept"
  | .remoteControlReject => "remote-control-reject"
  | .remoteControlOffer => "remote-control-offer"
  | .remoteControlAnswer => "remote-control-answer"
  | .remoteControlIce => "remote-control-ice"
  | .remoteControlStop => "remote-control-stop"
  | .ping => "ping"
  | .pong => "pong"
  | .kickPlayer => "kick-player"
  | .kicked => "kicked"
  | .mutePlayer => "mute-player"
  | .playerMuteChanged => "player-mute-changed"
  | .transferHost => "transfer-host"
  | .hostChanged => "host-changed"
  | .setLobbyOptions => "set-lobby-options"
  | .lobbyOptionsChanged => "lobby-options-changed"
  | .publicLobbyListRequest => "public-lobby-list-request"
  | .publicLobbyListResponse => "public-lobby-list-response"
  | .communityNodeListRequest => "community-node-list-request"
  | .communityNodeListResponse => "community-node-list-response"
  | .communityNodeSubmit => "community-node-submit"
  | .communityNodeSubmitResult => "community-node-submit-result"

def Variant.all : List Variant :=
  [.serverChallenge, .registerV3, .register, .registerSuccess, .chatTokenRotated, .registerError,
    .leave, .versionTooOld, .playersList, .playersListRequest, .playerJoined, .playerLeft, .offer,
    .voiceReconnect, .answer, .iceCandidate, .chatMessage, .statusUpdate, .screenShareStart,
    .screenShareStop, .screenShareRelay, .screenShareOffer, .screenShareAnswer,
    .screenShareIceCandidate, .screenShareError, .screenShareListRequest, .screenShareListResponse,
    .screenShareViewerLeft, .screenShareUpdate, .fileShareAdded, .fileShareRemoved,
    .fileShareListRequest, .fileShareListResponse, .shareUpdated, .remoteControlRequest,
    .remoteControlAccept, .remoteControlReject, .remoteControlOffer, .remoteControlAnswer,
    .remoteControlIce, .remoteControlStop, .ping, .pong, .kickPlayer, .kicked, .mutePlayer,
    .playerMuteChanged, .transferHost, .hostChanged, .setLobbyOptions, .lobbyOptionsChanged,
    .publicLobbyListRequest, .publicLobbyListResponse, .communityNodeListRequest,
    .communityNodeListResponse, .communityNodeSubmit, .communityNodeSubmitResult]

/-- The variant with a tag. -/
def Variant.ofTag (tag : String) : Option Variant := Variant.all.find? (·.tag == tag)

/-- The fields of a variant. Reference: the `serde` attributes of `SignalingMessage`
(`protocol.rs:15`). -/
def Variant.reader : Variant → Reader Json SignalingMessage
  | .serverChallenge => do
    return .serverChallenge (← text "challenge") (← defaulted "lobbyEntryModes" Json.asBool false)
      (← unsigned "protocolVersion" U32_MAX)
  | .registerV3 => do
    return .registerV3 (← defaulted "entryMode" (Json.asOption LobbyEntryMode.decode) none)
      (← unsigned "protocolVersion" U32_MAX) (← text "identityPublicKey")
      (← text "challengeSignature") (← text "playerName") (← optText "virtualIp")
      (← text "lobbyName") (← text "lobbyPassword") (← optText "clientVersion")
      (← optText "virtualDomain") (← optFlag "useDomain")
  | .register => do
    return .register (← text "clientId") (← text "playerName") (← optText "virtualIp")
      (← optText "virtualDomain") (← optFlag "useDomain") (← text "lobbyName")
      (← text "lobbyPassword") (← optText "clientVersion") (← optText "chatPublicKey")
  | .registerSuccess => do
    return .registerSuccess (← text "clientId") (← unsigned "sessionGeneration" U64_MAX)
      (← text "lobbyId") (← optText "hostId") (← optUnsigned "maxPlayers" U32_MAX)
      (← optFlag "isPublic") (← option "mutedPlayers" (Json.asList Json.asStr))
      (← text "chatToken") (← unsigned "chatTokenEpoch" U64_MAX)
  | .chatTokenRotated => do
    return .chatTokenRotated (← text "lobbyId") (← text "chatToken")
      (← unsigned "chatTokenEpoch" U64_MAX)
  | .registerError => do return .registerError (← text "message")
  | .leave => do return .leave (← text "clientId")
  | .versionTooOld => do
    return .versionTooOld (← text "message") (← text "currentVersion") (← text "minimumVersion")
      (← text "downloadUrl")
  | .playersList => do return .playersList (← records "players" PlayerInfo.reader)
  | .playersListRequest => return .playersListRequest
  | .playerJoined => do
    return .playerJoined (← text "playerId") (← text "playerName") (← optText "virtualIp")
      (← optText "virtualDomain") (← optFlag "useDomain") (← optText "chatPublicKey")
      (← unsigned "sessionGeneration" U64_MAX)
  | .playerLeft => do
    return .playerLeft (← text "playerId") (← unsigned "sessionGeneration" U64_MAX)
  | .offer => do
    return .offer (← text "from") (← text "to") (← record "offer" SessionDescription.reader)
      (← optText "playerName")
  | .voiceReconnect => do return .voiceReconnect (← text "from") (← text "to")
  | .answer => do
    return .answer (← text "from") (← text "to") (← record "answer" SessionDescription.reader)
  | .iceCandidate => do
    return .iceCandidate (← text "from") (← text "to") (← record "candidate" CandidateData.reader)
  | .chatMessage => do
    return .chatMessage (← text "from") (← text "playerId") (← text "playerName") (← text "content")
      (← required "timestamp" Json.asI64)
  | .statusUpdate => do return .statusUpdate (← text "clientId") (← flag "micEnabled")
  | .screenShareStart => do
    return .screenShareStart (← text "from") (← text "shareId") (← text "playerName")
      (← flag "hasPassword")
  | .screenShareStop => do return .screenShareStop (← text "from") (← text "shareId")
  | .screenShareRelay => do
    return .screenShareRelay (← text "from") (← text "to") (← text "shareId") (← text "action")
      (← optText "playerName") (← optText "password") (← optText "upstreamId")
      (← optText "downstreamId") (← optUnsigned "routeVersion" U64_MAX)
      (← optUnsigned "sequence" U64_MAX) (← optUnsigned "sourceSequence" U64_MAX)
      (← optUnsigned "sentSequence" U64_MAX) (← optFlag "limited") (← optText "reason")
  | .screenShareOffer => do
    return .screenShareOffer (← text "from") (← text "to") (← text "shareId")
      (← optText "playerName") (← optText "password") (← optUnsigned "routeVersion" U64_MAX)
      (← record "offer" SessionDescription.reader)
  | .screenShareAnswer => do
    return .screenShareAnswer (← text "from") (← text "to") (← text "shareId")
      (← optUnsigned "routeVersion" U64_MAX) (← record "answer" SessionDescription.reader)
  | .screenShareIceCandidate => do
    return .screenShareIceCandidate (← text "from") (← text "to") (← text "shareId")
      (← optText "connectionRole") (← optUnsigned "routeVersion" U64_MAX)
      (← record "candidate" CandidateData.reader)
  | .screenShareError => do
    return .screenShareError (← text "from") (← text "to") (← text "shareId") (← text "error")
  | .screenShareListRequest => do return .screenShareListRequest (← text "from")
  | .screenShareListResponse => do
    return .screenShareListResponse (← text "from") (← text "to") (← text "shareId")
      (← text "playerName") (← flag "hasPassword")
  | .screenShareViewerLeft => do return .screenShareViewerLeft (← text "from") (← text "shareId")
  | .screenShareUpdate => do
    return .screenShareUpdate (← text "from") (← text "shareId") (← optText "viewerId")
      (← optText "viewerName") (← optUnsigned "viewerCount" U64_MAX)
  | .fileShareAdded => do
    return .fileShareAdded (← text "from") (← text "shareId") (← text "shareName")
      (← text "playerName") (← flag "hasPassword")
  | .fileShareRemoved => do return .fileShareRemoved (← text "from") (← text "shareId")
  | .fileShareListRequest => do return .fileShareListRequest (← text "from")
  | .fileShareListResponse => do
    return .fileShareListResponse (← text "from") (← text "to")
      (← records "shares" FileShareInfo.reader)
  | .shareUpdated => do
    return .shareUpdated (← text "from") (← text "shareId") (← optText "shareName")
      (← optText "playerName") (← optFlag "hasPassword")
  | .remoteControlRequest => do
    return .remoteControlRequest (← text "from") (← text "to") (← text "sessionId")
      (← text "fromName")
  | .remoteControlAccept => do
    return .remoteControlAccept (← text "from") (← text "to") (← text "sessionId")
  | .remoteControlReject => do
    return .remoteControlReject (← text "from") (← text "to") (← text "sessionId") (← text "reason")
  | .remoteControlOffer => do
    return .remoteControlOffer (← text "from") (← text "to") (← text "sessionId")
      (← record "offer" SessionDescription.reader)
  | .remoteControlAnswer => do
    return .remoteControlAnswer (← text "from") (← text "to") (← text "sessionId")
      (← record "answer" SessionDescription.reader)
  | .remoteControlIce => do
    return .remoteControlIce (← text "from") (← text "to") (← text "sessionId")
      (← record "candidate" CandidateData.reader)
  | .remoteControlStop => do
    return .remoteControlStop (← text "from") (← text "to") (← text "sessionId")
  | .ping => return .ping
  | .pong => return .pong
  | .kickPlayer => do return .kickPlayer (← text "from") (← text "target")
  | .kicked => do return .kicked (← text "reason")
  | .mutePlayer => do return .mutePlayer (← text "from") (← text "target") (← flag "muted")
  | .playerMuteChanged => do return .playerMuteChanged (← text "playerId") (← flag "muted")
  | .transferHost => do return .transferHost (← text "from") (← text "target")
  | .hostChanged => do return .hostChanged (← text "hostId")
  | .setLobbyOptions => do
    return .setLobbyOptions (← text "from") (← optUnsigned "maxPlayers" U32_MAX)
      (← optFlag "isPublic") (← optText "description") (← optText "serverNode")
  | .lobbyOptionsChanged => do
    return .lobbyOptionsChanged (← optUnsigned "maxPlayers" U32_MAX) (← flag "isPublic")
  | .publicLobbyListRequest => return .publicLobbyListRequest
  | .publicLobbyListResponse => do
    return .publicLobbyListResponse (← records "lobbies" PublicLobbyInfo.reader)
  | .communityNodeListRequest => return .communityNodeListRequest
  | .communityNodeListResponse => do
    return .communityNodeListResponse (← records "nodes" CommunityNodeInfo.reader)
  | .communityNodeSubmit => do
    return .communityNodeSubmit (← text "name") (← text "address")
      (← defaulted "submitter" (Json.asOption Json.asStr) none)
  | .communityNodeSubmitResult => do
    return .communityNodeSubmitResult (← flag "ok") (← text "message")
      (← defaulted "node" (Json.asOption (Json.asRecord CommunityNodeInfo.reader)) none)

/-- The message a JSON value is read as, if it is one. Reference: `serde_json::from_str` at
`SignalingMessage` (`connection.rs:247`). -/
def SignalingMessage.decode (v : Json) : Option SignalingMessage :=
  v.content.bind <| tagged "type" Json.asStr fun tag =>
    ((Variant.ofTag tag).map Variant.reader).getD failure

/-! ## Numbers in range -/

/-- A number that is not missing is at most `max`. -/
def AtMost (max : Nat) (n : Option Nat) : Prop := ∀ i ∈ n, i ≤ max

def PublicLobbyInfo.InRange (i : PublicLobbyInfo) : Prop :=
  i.playerCount ≤ U32_MAX ∧ AtMost U32_MAX i.maxPlayers

def CommunityNodeInfo.InRange (i : CommunityNodeInfo) : Prop :=
  i.submittedAt ≤ U64_MAX ∧ i.lastOkAt ≤ U64_MAX ∧ AtMost U64_MAX i.latencyMs

def PlayerInfo.InRange (i : PlayerInfo) : Prop := i.sessionGeneration ≤ U64_MAX

def CandidateData.InRange (d : CandidateData) : Prop := AtMost U16_MAX d.sdpMLineIndex

/-- Every number of a message is in the range of its field's type. -/
def SignalingMessage.InRange : SignalingMessage → Prop
  | .serverChallenge _ _ protocolVersion => protocolVersion ≤ U32_MAX
  | .registerV3 _ protocolVersion .. => protocolVersion ≤ U32_MAX
  | .registerSuccess _ sessionGeneration _ _ maxPlayers _ _ _ chatTokenEpoch =>
    sessionGeneration ≤ U64_MAX ∧ AtMost U32_MAX maxPlayers ∧ chatTokenEpoch ≤ U64_MAX
  | .chatTokenRotated _ _ chatTokenEpoch => chatTokenEpoch ≤ U64_MAX
  | .playersList players => ∀ i ∈ players, i.InRange
  | .playerJoined _ _ _ _ _ _ sessionGeneration => sessionGeneration ≤ U64_MAX
  | .playerLeft _ sessionGeneration => sessionGeneration ≤ U64_MAX
  | .iceCandidate _ _ candidate => candidate.InRange
  | .chatMessage _ _ _ _ timestamp => I64_MIN ≤ timestamp ∧ timestamp ≤ I64_MAX
  | .screenShareRelay _ _ _ _ _ _ _ _ routeVersion sequence sourceSequence sentSequence _ _ =>
    AtMost U64_MAX routeVersion ∧ AtMost U64_MAX sequence ∧ AtMost U64_MAX sourceSequence ∧
      AtMost U64_MAX sentSequence
  | .screenShareOffer _ _ _ _ _ routeVersion _ => AtMost U64_MAX routeVersion
  | .screenShareAnswer _ _ _ routeVersion _ => AtMost U64_MAX routeVersion
  | .screenShareIceCandidate _ _ _ _ routeVersion candidate =>
    AtMost U64_MAX routeVersion ∧ candidate.InRange
  | .screenShareUpdate _ _ _ _ viewerCount => AtMost U64_MAX viewerCount
  | .remoteControlIce _ _ _ candidate => candidate.InRange
  | .setLobbyOptions _ maxPlayers .. => AtMost U32_MAX maxPlayers
  | .lobbyOptionsChanged maxPlayers _ => AtMost U32_MAX maxPlayers
  | .publicLobbyListResponse lobbies => ∀ i ∈ lobbies, i.InRange
  | .communityNodeListResponse nodes => ∀ i ∈ nodes, i.InRange
  | .communityNodeSubmitResult _ _ node => ∀ i ∈ node, i.InRange
  | _ => True

/-! ## What is written is read back -/

section
variable {α : Type} {name name' s : String} {b : Bool} {n max : Nat} {f : α → Json}
  {read : Json → Option α} {o : Option α} {xs : List α}

@[simp] theorem asStr_str : (Json.str s).asStr = some s := rfl

@[simp] theorem asBool_bool : (Json.bool b).asBool = some b := rfl

theorem asUnsigned_nat (h : n ≤ max) : (Json.nat n).asUnsigned max = some n := by
  have hint : (n : Int) ≤ max := Int.ofNat_le.2 h
  simp [Json.asUnsigned, Json.nat, hint]

theorem asI64_num {i : Int} (h : I64_MIN ≤ i ∧ i ≤ I64_MAX) : (Json.num i).asI64 = some i :=
  if_pos h

theorem asList_map (h : ∀ x ∈ xs, read (f x) = some x) :
    (Json.arr (xs.map f)).asList read = some xs := by
  unfold Json.asList
  dsimp only
  induction xs with
  | nil => rfl
  | cons x xs ih =>
    rw [List.map_cons, List.mapM_cons, h x List.mem_cons_self,
      ih fun y hy => h y (List.mem_cons_of_mem _ hy)]
    rfl

@[simp] theorem values_optField : values name (optField name' f o) =
    if name' = name then (o.map f).toList else [] := by
  cases o <;> simp [optField]

/-- An optional field is read back, whether it is left out where it is `None` or is `null`. -/
theorem asOption_orNull (h : ∀ a ∈ o, (f a).asOption read = some (some a)) :
    (orNull f o).asOption read = some o := by
  cases o with
  | none => rfl
  | some a => exact h a rfl

theorem once_option {absent : Option (Option α)} (habsent : absent = some none)
    (h : ∀ a ∈ o, (f a).asOption read = some (some a)) :
    once absent (Json.asOption read) (o.map f).toList = some o := by
  cases o with
  | none => exact habsent
  | some a => exact h a rfl

@[simp] theorem once_option_str {o : Option String} :
    once (some none) (Json.asOption Json.asStr) (o.map Json.str).toList = some o :=
  once_option rfl fun _ _ => rfl

@[simp] theorem once_option_bool {o : Option Bool} :
    once (some none) (Json.asOption Json.asBool) (o.map Json.bool).toList = some o :=
  once_option rfl fun _ _ => rfl

theorem asOption_nat {o : Option Nat} (h : AtMost max o) :
    ∀ n ∈ o, (Json.nat n).asOption (Json.asUnsigned max) = some (some n) :=
  fun n hn => congrArg (Option.map some) (asUnsigned_nat (h n hn))

theorem once_option_nat {o : Option Nat} (h : AtMost max o) :
    once (some none) (Json.asOption (Json.asUnsigned max)) (o.map Json.nat).toList = some o :=
  once_option rfl (asOption_nat h)

@[simp] theorem asRecord_obj {r : Reader Json α} {fields : List (String × Json)} :
    (Json.obj fields).asRecord r = r.all (.map fields) := rfl

@[simp] theorem LobbyEntryMode.decode_toJson {mode : Option LobbyEntryMode} :
    (orNull LobbyEntryMode.toJson mode).asOption LobbyEntryMode.decode = some mode :=
  asOption_orNull fun mode _ => by cases mode <;> rfl

theorem FileShareInfo.read_toJson (i : FileShareInfo) :
    i.toJson.asRecord FileShareInfo.reader = some i := by
  simp [FileShareInfo.toJson, FileShareInfo.reader]

theorem PublicLobbyInfo.read_toJson {i : PublicLobbyInfo} (h : i.InRange) :
    i.toJson.asRecord PublicLobbyInfo.reader = some i := by
  simp [PublicLobbyInfo.toJson, PublicLobbyInfo.reader, asUnsigned_nat h.1, once_option_nat h.2]

theorem CommunityNodeInfo.read_toJson {i : CommunityNodeInfo} (h : i.InRange) :
    i.toJson.asRecord CommunityNodeInfo.reader = some i := by
  simp [CommunityNodeInfo.toJson, CommunityNodeInfo.reader, asUnsigned_nat h.1,
    asUnsigned_nat h.2.1, once_option_nat h.2.2]

theorem PlayerInfo.read_toJson {i : PlayerInfo} (h : i.InRange) :
    i.toJson.asRecord PlayerInfo.reader = some i := by
  simp [PlayerInfo.toJson, PlayerInfo.reader, asUnsigned_nat h]

@[simp] theorem SessionDescription.read_toJson {d : SessionDescription} :
    d.toJson.asRecord SessionDescription.reader = some d := by
  simp [SessionDescription.toJson, SessionDescription.reader]

theorem CandidateData.read_toJson {d : CandidateData} (h : d.InRange) :
    d.toJson.asRecord CandidateData.reader = some d := by
  have hindex := asOption_orNull (asOption_nat h)
  have hmid : (orNull Json.str d.sdpMid).asOption Json.asStr = some d.sdpMid :=
    asOption_orNull fun _ _ => rfl
  simp [CandidateData.toJson, CandidateData.reader, hindex, hmid]

end

/-- The variant of a message. -/
def SignalingMessage.variant : SignalingMessage → Variant
  | .serverChallenge .. => .serverChallenge
  | .registerV3 .. => .registerV3
  | .register .. => .register
  | .registerSuccess .. => .registerSuccess
  | .chatTokenRotated .. => .chatTokenRotated
  | .registerError .. => .registerError
  | .leave .. => .leave
  | .versionTooOld .. => .versionTooOld
  | .playersList .. => .playersList
  | .playersListRequest .. => .playersListRequest
  | .playerJoined .. => .playerJoined
  | .playerLeft .. => .playerLeft
  | .offer .. => .offer
  | .voiceReconnect .. => .voiceReconnect
  | .answer .. => .answer
  | .iceCandidate .. => .iceCandidate
  | .chatMessage .. => .chatMessage
  | .statusUpdate .. => .statusUpdate
  | .screenShareStart .. => .screenShareStart
  | .screenShareStop .. => .screenShareStop
  | .screenShareRelay .. => .screenShareRelay
  | .screenShareOffer .. => .screenShareOffer
  | .screenShareAnswer .. => .screenShareAnswer
  | .screenShareIceCandidate .. => .screenShareIceCandidate
  | .screenShareError .. => .screenShareError
  | .screenShareListRequest .. => .screenShareListRequest
  | .screenShareListResponse .. => .screenShareListResponse
  | .screenShareViewerLeft .. => .screenShareViewerLeft
  | .screenShareUpdate .. => .screenShareUpdate
  | .fileShareAdded .. => .fileShareAdded
  | .fileShareRemoved .. => .fileShareRemoved
  | .fileShareListRequest .. => .fileShareListRequest
  | .fileShareListResponse .. => .fileShareListResponse
  | .shareUpdated .. => .shareUpdated
  | .remoteControlRequest .. => .remoteControlRequest
  | .remoteControlAccept .. => .remoteControlAccept
  | .remoteControlReject .. => .remoteControlReject
  | .remoteControlOffer .. => .remoteControlOffer
  | .remoteControlAnswer .. => .remoteControlAnswer
  | .remoteControlIce .. => .remoteControlIce
  | .remoteControlStop .. => .remoteControlStop
  | .ping .. => .ping
  | .pong .. => .pong
  | .kickPlayer .. => .kickPlayer
  | .kicked .. => .kicked
  | .mutePlayer .. => .mutePlayer
  | .playerMuteChanged .. => .playerMuteChanged
  | .transferHost .. => .transferHost
  | .hostChanged .. => .hostChanged
  | .setLobbyOptions .. => .setLobbyOptions
  | .lobbyOptionsChanged .. => .lobbyOptionsChanged
  | .publicLobbyListRequest .. => .publicLobbyListRequest
  | .publicLobbyListResponse .. => .publicLobbyListResponse
  | .communityNodeListRequest .. => .communityNodeListRequest
  | .communityNodeListResponse .. => .communityNodeListResponse
  | .communityNodeSubmit .. => .communityNodeSubmit
  | .communityNodeSubmitResult .. => .communityNodeSubmitResult

theorem Variant.ofTag_tag (v : Variant) : Variant.ofTag v.tag = some v := by
  cases v <;> decide +kernel

/-- The message states a session generation of its own. -/
def SignalingMessage.statesGeneration : SignalingMessage → Bool
  | .registerSuccess .. | .playerJoined .. | .playerLeft .. => true
  | _ => false

namespace SignalingMessage

/-- An object whose first member is a tag is read as the tag says. -/
theorem decode_tagged (v : Variant) (rest : List (String × Json)) (h : values "type" rest = []) :
    decode (.obj (("type", .str v.tag) :: rest)) = v.reader.all (.map rest) := by
  have huntagged : rest.filter (·.1 != "type") = rest := by
    refine List.filter_eq_self.2 fun e he => ?_
    unfold values at h
    rw [List.map_eq_nil_iff, List.filter_eq_nil_iff] at h
    simpa using h e he
  simp [decode, Json.content, tagged, h, v.ofTag_tag, huntagged]

variable {m : SignalingMessage} {extra : List (String × Json)}

/-- The first member of a message is its tag, and no other member has its name. -/
theorem fields_eq : ∃ rest, m.fields = ("type", .str m.variant.tag) :: rest ∧
    values "type" rest = [] := by
  cases m <;> exact ⟨_, rfl, by simp⟩

/-- A message is read back from its fields, whatever else is among the members under the name of the
stamp. -/
theorem decode_fields (h : m.InRange)
    (hother : ∀ name, name ≠ "sessionGeneration" → values name extra = [])
    (hstates : m.statesGeneration = true → extra = []) :
    decode (.obj (m.fields ++ extra)) = some m := by
  have htag : values "type" extra = [] := hother _ (by decide)
  have hmembers : decode (.obj (m.fields ++ extra)) =
      m.variant.reader.all (.map (m.fields.tail ++ extra)) := by
    obtain ⟨rest, hrest, htype⟩ := m.fields_eq
    rw [hrest]
    exact decode_tagged _ (rest ++ extra) (by rw [values_append, htype, htag]; rfl)
  rw [hmembers]
  -- the members of a number are in its range by the hypothesis of its variant
  cases m with
  | registerSuccess clientId sessionGeneration lobbyId hostId maxPlayers isPublic muted =>
    obtain rfl := hstates rfl
    have hids : ∀ ids ∈ muted, (Json.arr (ids.map .str)).asOption (Json.asList Json.asStr) =
        some (some ids) := by
      intro ids _
      have hlist : (Json.arr (ids.map .str)).asList Json.asStr = some ids :=
        asList_map fun _ _ => rfl
      exact congrArg (Option.map some) hlist
    simp [variant, Variant.reader, fields, once_option rfl hids, asUnsigned_nat h.1,
      once_option_nat h.2.1, asUnsigned_nat h.2.2]
  | playerJoined | playerLeft =>
    obtain rfl := hstates rfl
    simp [variant, Variant.reader, fields, asUnsigned_nat h]
  | serverChallenge | registerV3 | chatTokenRotated =>
    simp [variant, Variant.reader, fields, hother, asUnsigned_nat h]
  | chatMessage => simp [variant, Variant.reader, fields, hother, asI64_num h]
  | screenShareRelay =>
    obtain ⟨hroute, hsequence, hsource, hsent⟩ := h
    simp [variant, Variant.reader, fields, hother, once_option_nat hroute,
      once_option_nat hsequence, once_option_nat hsource, once_option_nat hsent]
  | screenShareOffer | screenShareAnswer | screenShareUpdate | setLobbyOptions
  | lobbyOptionsChanged =>
    simp [variant, Variant.reader, fields, hother, once_option_nat h]
  | iceCandidate | remoteControlIce =>
    simp [variant, Variant.reader, fields, hother, CandidateData.read_toJson h]
  | screenShareIceCandidate =>
    simp [variant, Variant.reader, fields, hother, once_option_nat h.1,
      CandidateData.read_toJson h.2]
  | playersList =>
    simp [variant, Variant.reader, fields, hother,
      asList_map fun i hi => PlayerInfo.read_toJson (h i hi)]
  | fileShareListResponse =>
    simp [variant, Variant.reader, fields, hother,
      asList_map fun i _ => FileShareInfo.read_toJson i]
  | publicLobbyListResponse =>
    simp [variant, Variant.reader, fields, hother,
      asList_map fun i hi => PublicLobbyInfo.read_toJson (h i hi)]
  | communityNodeListResponse =>
    simp [variant, Variant.reader, fields, hother,
      asList_map fun i hi => CommunityNodeInfo.read_toJson (h i hi)]
  | communityNodeSubmitResult ok message node =>
    have hnode : ∀ i ∈ node, i.toJson.asOption (Json.asRecord CommunityNodeInfo.reader) =
        some (some i) := fun i hi =>
      congrArg (Option.map some) (CommunityNodeInfo.read_toJson (h i hi))
    simp [variant, Variant.reader, fields, hother, once_option rfl hnode]
  | _ => simp [variant, Variant.reader, fields, hother]

end SignalingMessage

/-! ## What is read is in range -/

section
variable {α : Type} {name : String} {max : Nat} {P : α → Prop} {r : Reader Json α}

theorem asUnsigned_le {v : Json} {n : Nat} (h : v.asUnsigned max = some n) : n ≤ max := by
  unfold Json.asUnsigned at h
  split at h
  · split at h
    · next hrange =>
      cases h
      omega
    · cases h
  · cases h

theorem asI64_range {v : Json} {i : Int} (h : v.asI64 = some i) : I64_MIN ≤ i ∧ i ≤ I64_MAX := by
  unfold Json.asI64 at h
  split at h
  · split at h
    · next hrange =>
      cases h
      exact hrange
    · cases h
  · cases h

theorem asOption_all {read : Json → Option α} (hread : ∀ v a, read v = some a → P a) {v : Json}
    {o : Option α} (h : v.asOption read = some o) : ∀ a ∈ o, P a := by
  unfold Json.asOption at h
  split at h
  · cases h
    exact fun a ha => nomatch ha
  · obtain ⟨a, ha, rfl⟩ := Option.map_eq_some_iff.1 h
    intro b hb
    cases hb
    exact hread _ _ ha

theorem asList_all {read : Json → Option α} (hread : ∀ v a, read v = some a → P a) {v : Json}
    {xs : List α} (h : v.asList read = some xs) : ∀ x ∈ xs, P x := by
  unfold Json.asList at h
  split at h
  · next vs =>
    induction vs generalizing xs with
    | nil =>
      cases h
      exact fun x hx => nomatch hx
    | cons v vs ih =>
      rw [List.mapM_cons] at h
      obtain ⟨a, ha, h⟩ := Option.bind_eq_some_iff.1 h
      obtain ⟨as, has, h⟩ := Option.bind_eq_some_iff.1 h
      cases h
      intro x hx
      rcases List.mem_cons.1 hx with rfl | hx
      · exact hread _ _ ha
      · exact ih has x hx
  · cases h

theorem asRecord_all (h : Yields P r) (v : Json) (a : α) (ha : v.asRecord r = some a) : P a := by
  obtain ⟨c, -, ha⟩ := Option.bind_eq_some_iff.1 ha
  exact h.all ha

theorem Record.Yields.required {read : Json → Option α} (hread : ∀ v a, read v = some a → P a) :
    Yields P (Record.required name read) :=
  .field hread nofun nofun

theorem Record.Yields.unsigned : Yields (· ≤ max) (Record.unsigned name max) :=
  .required fun _ _ => asUnsigned_le

theorem Record.Yields.option {read : Json → Option α} (hread : ∀ v a, read v = some a → P a) :
    Yields (fun o => ∀ a ∈ o, P a) (Record.option name read) :=
  .field (fun _ _ => asOption_all hread) (fun o h => by cases h; exact fun a ha => nomatch ha)
    nofun

theorem Record.Yields.optUnsigned : Yields (AtMost max) (Record.optUnsigned name max) :=
  .option fun _ _ => asUnsigned_le

theorem Record.Yields.defaulted {read : Json → Option α} {value : α}
    (hread : ∀ v a, read v = some a → P a) (hvalue : P value) :
    Yields P (Record.defaulted name read value) :=
  .field hread (fun a h => by cases h; exact hvalue) fun a h => by cases h; exact hvalue

theorem Record.Yields.record (h : Yields P r) : Yields P (Record.record name r) :=
  .required (asRecord_all h)

theorem Record.Yields.records (h : Yields P r) :
    Yields (fun xs => ∀ x ∈ xs, P x) (Record.records name r) :=
  .required fun _ _ => asList_all (asRecord_all h)

end

theorem PlayerInfo.reader_yields : Yields PlayerInfo.InRange PlayerInfo.reader := by
  unfold reader
  iterate 6 refine .bind .any fun _ _ => ?_
  exact .bind .unsigned fun _ h => .pure h

theorem PublicLobbyInfo.reader_yields : Yields PublicLobbyInfo.InRange PublicLobbyInfo.reader := by
  unfold reader
  refine .bind .any fun _ _ => .bind .unsigned fun _ hcount => .bind .optUnsigned fun _ hmax => ?_
  iterate 3 refine .bind .any fun _ _ => ?_
  exact .pure ⟨hcount, hmax⟩

theorem CommunityNodeInfo.reader_yields :
    Yields CommunityNodeInfo.InRange CommunityNodeInfo.reader := by
  unfold reader
  iterate 3 refine .bind .any fun _ _ => ?_
  refine .bind (.defaulted (fun _ _ => asUnsigned_le) (Nat.zero_le _)) fun _ hsubmitted => ?_
  refine .bind (.defaulted (fun _ _ => asUnsigned_le) (Nat.zero_le _)) fun _ hlast => ?_
  refine .bind .any fun _ _ => .bind (.defaulted (fun _ _ => asOption_all fun _ _ => asUnsigned_le)
    nofun) fun _ hlatency => .pure ⟨hsubmitted, hlast, hlatency⟩

theorem CandidateData.reader_yields : Yields CandidateData.InRange CandidateData.reader := by
  unfold reader
  exact .bind .any fun _ _ => .bind .optUnsigned fun _ h => .bind .any fun _ _ => .pure h

theorem Variant.reader_yields (v : Variant) : Yields SignalingMessage.InRange v.reader := by
  -- the fields before a number, the number, and the fields after it, none of which has another
  cases v with
  | serverChallenge | chatTokenRotated =>
    iterate 2 refine .bind .any fun _ _ => ?_
    exact .bind .unsigned fun _ h => .pure h
  | registerV3 =>
    refine .bind .any fun _ _ => .bind .unsigned fun _ h => ?_
    iterate 9 refine .bind .any fun _ _ => ?_
    exact .pure h
  | registerSuccess =>
    refine .bind .any fun _ _ => .bind .unsigned fun _ hgeneration => ?_
    iterate 2 refine .bind .any fun _ _ => ?_
    refine .bind .optUnsigned fun _ hmax => ?_
    iterate 3 refine .bind .any fun _ _ => ?_
    exact .bind .unsigned fun _ hepoch => .pure ⟨hgeneration, hmax, hepoch⟩
  | playersList => exact .bind (.records PlayerInfo.reader_yields) fun _ h => .pure h
  | playerJoined =>
    iterate 6 refine .bind .any fun _ _ => ?_
    exact .bind .unsigned fun _ h => .pure h
  | playerLeft => exact .bind .any fun _ _ => .bind .unsigned fun _ h => .pure h
  | iceCandidate =>
    iterate 2 refine .bind .any fun _ _ => ?_
    exact .bind (.record CandidateData.reader_yields) fun _ h => .pure h
  | chatMessage =>
    iterate 4 refine .bind .any fun _ _ => ?_
    exact .bind (.required fun _ _ => asI64_range) fun _ h => .pure h
  | screenShareRelay =>
    iterate 8 refine .bind .any fun _ _ => ?_
    refine .bind .optUnsigned fun _ hroute => .bind .optUnsigned fun _ hsequence => ?_
    refine .bind .optUnsigned fun _ hsource => .bind .optUnsigned fun _ hsent => ?_
    exact .bind .any fun _ _ => .bind .any fun _ _ => .pure ⟨hroute, hsequence, hsource, hsent⟩
  | screenShareOffer =>
    iterate 5 refine .bind .any fun _ _ => ?_
    exact .bind .optUnsigned fun _ h => .bind .any fun _ _ => .pure h
  | screenShareAnswer =>
    iterate 3 refine .bind .any fun _ _ => ?_
    exact .bind .optUnsigned fun _ h => .bind .any fun _ _ => .pure h
  | screenShareIceCandidate =>
    iterate 4 refine .bind .any fun _ _ => ?_
    exact .bind .optUnsigned fun _ hroute =>
      .bind (.record CandidateData.reader_yields) fun _ hcandidate => .pure ⟨hroute, hcandidate⟩
  | screenShareUpdate =>
    iterate 4 refine .bind .any fun _ _ => ?_
    exact .bind .optUnsigned fun _ h => .pure h
  | remoteControlIce =>
    iterate 3 refine .bind .any fun _ _ => ?_
    exact .bind (.record CandidateData.reader_yields) fun _ h => .pure h
  | setLobbyOptions =>
    refine .bind .any fun _ _ => .bind .optUnsigned fun _ h => ?_
    iterate 3 refine .bind .any fun _ _ => ?_
    exact .pure h
  | lobbyOptionsChanged => exact .bind .optUnsigned fun _ h => .bind .any fun _ _ => .pure h
  | publicLobbyListResponse =>
    exact .bind (.records PublicLobbyInfo.reader_yields) fun _ h => .pure h
  | communityNodeListResponse =>
    exact .bind (.records CommunityNodeInfo.reader_yields) fun _ h => .pure h
  | communityNodeSubmitResult =>
    iterate 2 refine .bind .any fun _ _ => ?_
    exact .bind (.defaulted (fun _ _ => asOption_all (asRecord_all CommunityNodeInfo.reader_yields))
      nofun) fun _ h => .pure h
  | _ =>
    -- messages without numbers
    unfold Variant.reader
    repeat refine .bind .any fun _ _ => ?_
    exact .pure trivial

namespace SignalingMessage

/-- A message that is read has its numbers in range. -/
theorem decode_inRange {v : Json} {m : SignalingMessage} (h : decode v = some m) : m.InRange := by
  obtain ⟨c, -, hm⟩ := Option.bind_eq_some_iff.1 h
  refine tagged_yields (fun tag => ?_) hm
  cases Variant.ofTag tag with
  | none => exact .fail
  | some v => exact v.reader_yields

end SignalingMessage

end MctierSignaling
