import MctierSignaling.Protocol

/-!
# Messages as JSON

A text frame is the compact rendering of a JSON value, so the model keeps the value and the length
of its rendering (`Json.bytes`). `SignalingMessage.toJson` is what `serde` derives for
`SignalingMessage`: the tag `type` first, then the fields under their renamed names, an absent
optional field left out where the field says `skip_serializing_if`. `jsonSenderId` and
`injectSessionMetadata` are the two functions of `transport.rs` that read and rewrite such a text.
-/

namespace MctierSignaling

/-- A JSON value, an object's members in the order in which they are written. -/
inductive Json where
  | null
  | bool (b : Bool)
  | num (n : Int)
  | str (s : String)
  | arr (vs : List Json)
  | obj (fields : List (String × Json))

/-- The bytes one byte of a text takes in a JSON string. Reference: the escape table of
`serde_json`. -/
def escapedBytes (b : UInt8) : Nat :=
  let n := b.toNat
  if n = 34 ∨ n = 92 then 2
  else if n = 8 ∨ n = 9 ∨ n = 10 ∨ n = 12 ∨ n = 13 then 2
  else if n < 32 then 6
  else 1

/-- The bytes of a JSON string, its quotes included. -/
def stringBytes (s : String) : Nat := 2 + ((utf8Bytes s).map escapedBytes).sum

mutual

/-- The length in bytes of a value's compact text. Reference: `serde_json::to_string`. -/
def Json.bytes : Json → Nat
  | .null => 4
  | .bool b => if b then 4 else 5
  | .num n => (if n < 0 then 1 else 0) + (Nat.toDigits 10 n.natAbs).length
  | .str s => stringBytes s
  | .arr vs => 2 + Json.bytesItems vs
  | .obj fields => 2 + Json.bytesFields fields

/-- The items of an array, with the commas between them. -/
def Json.bytesItems : List Json → Nat
  | [] => 0
  | [v] => v.bytes
  | v :: w :: vs => v.bytes + 1 + Json.bytesItems (w :: vs)

/-- The members of an object, with the colons and the commas between them. -/
def Json.bytesFields : List (String × Json) → Nat
  | [] => 0
  | [(k, v)] => stringBytes k + 1 + v.bytes
  | (k, v) :: f :: fs => stringBytes k + 1 + v.bytes + 1 + Json.bytesFields (f :: fs)

end

/-- `Value::get` on an object. -/
def Json.get (key : String) : Json → Option Json
  | .obj fields => (fields.find? (·.1 == key)).map (·.2)
  | _ => none

/-- `Value::as_str`. -/
def Json.asStr : Json → Option String
  | .str s => some s
  | _ => none

/-- `Map::insert`: the value of a present key is replaced. -/
def insertField (key : String) (value : Json) : List (String × Json) → List (String × Json)
  | [] => [(key, value)]
  | (k, v) :: rest =>
    if k = key then (k, value) :: rest else (k, v) :: insertField key value rest

/-- A field with `skip_serializing_if = "Option::is_none"`. -/
def optField {α : Type} (name : String) (f : α → Json) : Option α → List (String × Json)
  | some v => [(name, f v)]
  | none => []

/-- An optional field without `skip_serializing_if`. -/
def orNull {α : Type} (f : α → Json) : Option α → Json
  | some v => f v
  | none => .null

/-- An unsigned number. -/
def Json.nat (n : Nat) : Json := .num n

def LobbyEntryMode.toJson : LobbyEntryMode → Json
  | .create => .str "create"
  | .join => .str "join"
  | .auto => .str "auto"

def FileShareInfo.toJson (i : FileShareInfo) : Json :=
  .obj [("shareId", .str i.shareId), ("shareName", .str i.shareName),
    ("playerName", .str i.playerName), ("hasPassword", .bool i.hasPassword)]

def PublicLobbyInfo.toJson (i : PublicLobbyInfo) : Json :=
  .obj ([("lobbyName", .str i.lobbyName), ("playerCount", .nat i.playerCount)] ++
    optField "maxPlayers" .nat i.maxPlayers ++
    [("hostName", .str i.hostName), ("description", .str i.description),
      ("serverNode", .str i.serverNode)])

def CommunityNodeInfo.toJson (i : CommunityNodeInfo) : Json :=
  .obj ([("name", .str i.name), ("address", .str i.address)] ++
    optField "submitter" .str i.submitter ++
    [("submittedAt", .nat i.submittedAt), ("lastOkAt", .nat i.lastOkAt),
      ("online", .bool i.online)] ++
    optField "latencyMs" .nat i.latencyMs)

def PlayerInfo.toJson (i : PlayerInfo) : Json :=
  .obj ([("playerId", .str i.playerId), ("playerName", .str i.playerName)] ++
    optField "virtualIp" .str i.virtualIp ++ optField "virtualDomain" .str i.virtualDomain ++
    optField "useDomain" .bool i.useDomain ++ optField "chatPublicKey" .str i.chatPublicKey ++
    [("sessionGeneration", .nat i.sessionGeneration)])

def SessionDescription.toJson (d : SessionDescription) : Json :=
  .obj [("type", .str d.sdpType), ("sdp", .str d.sdp)]

def CandidateData.toJson (d : CandidateData) : Json :=
  .obj [("candidate", .str d.candidate), ("sdpMLineIndex", orNull .nat d.sdpMLineIndex),
    ("sdpMid", orNull .str d.sdpMid)]

/-- The fields of a message. Reference: the `serde` attributes of `SignalingMessage`
(`protocol.rs:13`). -/
def SignalingMessage.fields : SignalingMessage → List (String × Json)
  | .serverChallenge challenge lobbyEntryModes protocolVersion =>
    [("type", .str "server-challenge"), ("challenge", .str challenge),
      ("lobbyEntryModes", .bool lobbyEntryModes), ("protocolVersion", .nat protocolVersion)]
  | .registerV3 entryMode protocolVersion identityPublicKey challengeSignature playerName virtualIp
      lobbyName lobbyPassword clientVersion virtualDomain useDomain =>
    [("type", .str "register-v3"), ("entryMode", orNull LobbyEntryMode.toJson entryMode),
      ("protocolVersion", .nat protocolVersion), ("identityPublicKey", .str identityPublicKey),
      ("challengeSignature", .str challengeSignature), ("playerName", .str playerName)] ++
      optField "virtualIp" .str virtualIp ++
      [("lobbyName", .str lobbyName), ("lobbyPassword", .str lobbyPassword)] ++
      optField "clientVersion" .str clientVersion ++
      optField "virtualDomain" .str virtualDomain ++ optField "useDomain" .bool useDomain
  | .register clientId playerName virtualIp virtualDomain useDomain lobbyName lobbyPassword
      clientVersion chatPublicKey =>
    [("type", .str "register"), ("clientId", .str clientId), ("playerName", .str playerName)] ++
      optField "virtualIp" .str virtualIp ++ optField "virtualDomain" .str virtualDomain ++
      optField "useDomain" .bool useDomain ++
      [("lobbyName", .str lobbyName), ("lobbyPassword", .str lobbyPassword)] ++
      optField "clientVersion" .str clientVersion ++
      optField "chatPublicKey" .str chatPublicKey
  | .registerSuccess clientId sessionGeneration lobbyId hostId maxPlayers isPublic mutedPlayers
      chatToken chatTokenEpoch =>
    [("type", .str "register-success"), ("clientId", .str clientId),
      ("sessionGeneration", .nat sessionGeneration), ("lobbyId", .str lobbyId)] ++
      optField "hostId" .str hostId ++ optField "maxPlayers" .nat maxPlayers ++
      optField "isPublic" .bool isPublic ++
      optField "mutedPlayers" (fun ids => .arr (ids.map .str)) mutedPlayers ++
      [("chatToken", .str chatToken), ("chatTokenEpoch", .nat chatTokenEpoch)]
  | .chatTokenRotated lobbyId chatToken chatTokenEpoch =>
    [("type", .str "chat-token-rotated"), ("lobbyId", .str lobbyId),
      ("chatToken", .str chatToken), ("chatTokenEpoch", .nat chatTokenEpoch)]
  | .registerError message => [("type", .str "register-error"), ("message", .str message)]
  | .leave clientId => [("type", .str "leave"), ("clientId", .str clientId)]
  | .versionTooOld message currentVersion minimumVersion downloadUrl =>
    [("type", .str "version-too-old"), ("message", .str message),
      ("currentVersion", .str currentVersion), ("minimumVersion", .str minimumVersion),
      ("downloadUrl", .str downloadUrl)]
  | .playersList players =>
    [("type", .str "players-list"), ("players", .arr (players.map PlayerInfo.toJson))]
  | .playersListRequest => [("type", .str "players-list-request")]
  | .playerJoined playerId playerName virtualIp virtualDomain useDomain chatPublicKey
      sessionGeneration =>
    [("type", .str "player-joined"), ("playerId", .str playerId),
      ("playerName", .str playerName)] ++
      optField "virtualIp" .str virtualIp ++ optField "virtualDomain" .str virtualDomain ++
      optField "useDomain" .bool useDomain ++ optField "chatPublicKey" .str chatPublicKey ++
      [("sessionGeneration", .nat sessionGeneration)]
  | .playerLeft playerId sessionGeneration =>
    [("type", .str "player-left"), ("playerId", .str playerId),
      ("sessionGeneration", .nat sessionGeneration)]
  | .offer from_ to_ data playerName =>
    [("type", .str "offer"), ("from", .str from_), ("to", .str to_), ("offer", data.toJson)] ++
      optField "playerName" .str playerName
  | .voiceReconnect from_ to_ =>
    [("type", .str "voice-reconnect"), ("from", .str from_), ("to", .str to_)]
  | .answer from_ to_ data =>
    [("type", .str "answer"), ("from", .str from_), ("to", .str to_), ("answer", data.toJson)]
  | .iceCandidate from_ to_ candidate =>
    [("type", .str "ice-candidate"), ("from", .str from_), ("to", .str to_),
      ("candidate", candidate.toJson)]
  | .chatMessage from_ playerId playerName content timestamp =>
    [("type", .str "chat-message"), ("from", .str from_), ("playerId", .str playerId),
      ("playerName", .str playerName), ("content", .str content), ("timestamp", .num timestamp)]
  | .statusUpdate clientId micEnabled =>
    [("type", .str "status-update"), ("clientId", .str clientId),
      ("micEnabled", .bool micEnabled)]
  | .screenShareStart from_ shareId playerName hasPassword =>
    [("type", .str "screen-share-start"), ("from", .str from_), ("shareId", .str shareId),
      ("playerName", .str playerName), ("hasPassword", .bool hasPassword)]
  | .screenShareStop from_ shareId =>
    [("type", .str "screen-share-stop"), ("from", .str from_), ("shareId", .str shareId)]
  | .screenShareRelay from_ to_ shareId action playerName password upstreamId downstreamId
      routeVersion sequence sourceSequence sentSequence limited reason =>
    [("type", .str "screen-share-relay"), ("from", .str from_), ("to", .str to_),
      ("shareId", .str shareId), ("action", .str action)] ++
      optField "playerName" .str playerName ++ optField "password" .str password ++
      optField "upstreamId" .str upstreamId ++ optField "downstreamId" .str downstreamId ++
      optField "routeVersion" .nat routeVersion ++ optField "sequence" .nat sequence ++
      optField "sourceSequence" .nat sourceSequence ++ optField "sentSequence" .nat sentSequence ++
      optField "limited" .bool limited ++ optField "reason" .str reason
  | .screenShareOffer from_ to_ shareId playerName password routeVersion data =>
    [("type", .str "screen-share-offer"), ("from", .str from_), ("to", .str to_),
      ("shareId", .str shareId)] ++
      optField "playerName" .str playerName ++ optField "password" .str password ++
      optField "routeVersion" .nat routeVersion ++ [("offer", data.toJson)]
  | .screenShareAnswer from_ to_ shareId routeVersion data =>
    [("type", .str "screen-share-answer"), ("from", .str from_), ("to", .str to_),
      ("shareId", .str shareId)] ++
      optField "routeVersion" .nat routeVersion ++ [("answer", data.toJson)]
  | .screenShareIceCandidate from_ to_ shareId connectionRole routeVersion candidate =>
    [("type", .str "screen-share-ice-candidate"), ("from", .str from_), ("to", .str to_),
      ("shareId", .str shareId)] ++
      optField "connectionRole" .str connectionRole ++
      optField "routeVersion" .nat routeVersion ++ [("candidate", candidate.toJson)]
  | .screenShareError from_ to_ shareId error =>
    [("type", .str "screen-share-error"), ("from", .str from_), ("to", .str to_),
      ("shareId", .str shareId), ("error", .str error)]
  | .screenShareListRequest from_ =>
    [("type", .str "screen-share-list-request"), ("from", .str from_)]
  | .screenShareListResponse from_ to_ shareId playerName hasPassword =>
    [("type", .str "screen-share-list-response"), ("from", .str from_), ("to", .str to_),
      ("shareId", .str shareId), ("playerName", .str playerName),
      ("hasPassword", .bool hasPassword)]
  | .screenShareViewerLeft from_ shareId =>
    [("type", .str "screen-share-viewer-left"), ("from", .str from_), ("shareId", .str shareId)]
  | .screenShareUpdate from_ shareId viewerId viewerName viewerCount =>
    [("type", .str "screen-share-update"), ("from", .str from_), ("shareId", .str shareId)] ++
      optField "viewerId" .str viewerId ++ optField "viewerName" .str viewerName ++
      optField "viewerCount" .nat viewerCount
  | .fileShareAdded from_ shareId shareName playerName hasPassword =>
    [("type", .str "file-share-added"), ("from", .str from_), ("shareId", .str shareId),
      ("shareName", .str shareName), ("playerName", .str playerName),
      ("hasPassword", .bool hasPassword)]
  | .fileShareRemoved from_ shareId =>
    [("type", .str "file-share-removed"), ("from", .str from_), ("shareId", .str shareId)]
  | .fileShareListRequest from_ =>
    [("type", .str "file-share-list-request"), ("from", .str from_)]
  | .fileShareListResponse from_ to_ shares =>
    [("type", .str "file-share-list-response"), ("from", .str from_), ("to", .str to_),
      ("shares", .arr (shares.map FileShareInfo.toJson))]
  | .shareUpdated from_ shareId shareName playerName hasPassword =>
    [("type", .str "share-updated"), ("from", .str from_), ("shareId", .str shareId)] ++
      optField "shareName" .str shareName ++ optField "playerName" .str playerName ++
      optField "hasPassword" .bool hasPassword
  | .remoteControlRequest from_ to_ sessionId fromName =>
    [("type", .str "remote-control-request"), ("from", .str from_), ("to", .str to_),
      ("sessionId", .str sessionId), ("fromName", .str fromName)]
  | .remoteControlAccept from_ to_ sessionId =>
    [("type", .str "remote-control-accept"), ("from", .str from_), ("to", .str to_),
      ("sessionId", .str sessionId)]
  | .remoteControlReject from_ to_ sessionId reason =>
    [("type", .str "remote-control-reject"), ("from", .str from_), ("to", .str to_),
      ("sessionId", .str sessionId), ("reason", .str reason)]
  | .remoteControlOffer from_ to_ sessionId data =>
    [("type", .str "remote-control-offer"), ("from", .str from_), ("to", .str to_),
      ("sessionId", .str sessionId), ("offer", data.toJson)]
  | .remoteControlAnswer from_ to_ sessionId data =>
    [("type", .str "remote-control-answer"), ("from", .str from_), ("to", .str to_),
      ("sessionId", .str sessionId), ("answer", data.toJson)]
  | .remoteControlIce from_ to_ sessionId candidate =>
    [("type", .str "remote-control-ice"), ("from", .str from_), ("to", .str to_),
      ("sessionId", .str sessionId), ("candidate", candidate.toJson)]
  | .remoteControlStop from_ to_ sessionId =>
    [("type", .str "remote-control-stop"), ("from", .str from_), ("to", .str to_),
      ("sessionId", .str sessionId)]
  | .ping => [("type", .str "ping")]
  | .pong => [("type", .str "pong")]
  | .kickPlayer from_ target =>
    [("type", .str "kick-player"), ("from", .str from_), ("target", .str target)]
  | .kicked reason => [("type", .str "kicked"), ("reason", .str reason)]
  | .mutePlayer from_ target muted =>
    [("type", .str "mute-player"), ("from", .str from_), ("target", .str target),
      ("muted", .bool muted)]
  | .playerMuteChanged playerId muted =>
    [("type", .str "player-mute-changed"), ("playerId", .str playerId), ("muted", .bool muted)]
  | .transferHost from_ target =>
    [("type", .str "transfer-host"), ("from", .str from_), ("target", .str target)]
  | .hostChanged hostId => [("type", .str "host-changed"), ("hostId", .str hostId)]
  | .setLobbyOptions from_ maxPlayers isPublic description serverNode =>
    [("type", .str "set-lobby-options"), ("from", .str from_)] ++
      optField "maxPlayers" .nat maxPlayers ++ optField "isPublic" .bool isPublic ++
      optField "description" .str description ++ optField "serverNode" .str serverNode
  | .lobbyOptionsChanged maxPlayers isPublic =>
    [("type", .str "lobby-options-changed")] ++ optField "maxPlayers" .nat maxPlayers ++
      [("isPublic", .bool isPublic)]
  | .publicLobbyListRequest => [("type", .str "public-lobby-list-request")]
  | .publicLobbyListResponse lobbies =>
    [("type", .str "public-lobby-list-response"),
      ("lobbies", .arr (lobbies.map PublicLobbyInfo.toJson))]
  | .communityNodeListRequest => [("type", .str "community-node-list-request")]
  | .communityNodeListResponse nodes =>
    [("type", .str "community-node-list-response"),
      ("nodes", .arr (nodes.map CommunityNodeInfo.toJson))]
  | .communityNodeSubmit name address submitter =>
    [("type", .str "community-node-submit"), ("name", .str name), ("address", .str address)] ++
      optField "submitter" .str submitter
  | .communityNodeSubmitResult ok message node =>
    [("type", .str "community-node-submit-result"), ("ok", .bool ok),
      ("message", .str message)] ++ optField "node" CommunityNodeInfo.toJson node

/-- The text of a message. Reference: `serde_json::to_string`. -/
def SignalingMessage.toJson (message : SignalingMessage) : Json := .obj message.fields

/-! ## The sender of a text -/

/-- The sender a text names. Reference: `json_sender_id` (`transport.rs:61`). -/
def jsonSenderId (raw : Json) : Option String :=
  ((raw.get "from").or (raw.get "clientId")).bind Json.asStr

/-- Rewrites the sender of a text and stamps its session generation. Reference:
`inject_session_metadata` (`transport.rs:70`). -/
def injectSessionMetadata (raw : Json) (senderId : String) (generation : Nat) : Json :=
  match raw with
  | .obj fields =>
    let fields := if fields.any (·.1 == "from") then insertField "from" (.str senderId) fields
      else fields
    let fields := if fields.any (·.1 == "clientId") then
      insertField "clientId" (.str senderId) fields else fields
    .obj (insertField "sessionGeneration" (.nat generation) fields)
  | raw => raw

end MctierSignaling
