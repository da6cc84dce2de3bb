import MctierSignaling.Text

/-!
# The wire protocol

The message schema of `protocol.rs`, the identity a client's message claims (`claimedSender`), and
the field limits every client message passes before it is dispatched (`validateMessageShape`).
-/

namespace MctierSignaling

inductive LobbyEntryMode where
  | create
  | join
  | auto
  deriving DecidableEq, Repr

structure FileShareInfo where
  shareId : String
  shareName : String
  playerName : String
  hasPassword : Bool
  deriving DecidableEq

structure PublicLobbyInfo where
  lobbyName : String
  playerCount : Nat
  maxPlayers : Option Nat
  hostName : String
  description : String
  serverNode : String
  deriving DecidableEq

/-- A shared node. `lastOkAt` is the Unix second of its last successful probe, which alone decides
whether it is dropped; `online` only shows the last sweep. -/
structure CommunityNodeInfo where
  name : String
  address : String
  submitter : Option String
  submittedAt : Nat
  lastOkAt : Nat
  online : Bool
  latencyMs : Option Nat
  deriving DecidableEq

structure PlayerInfo where
  playerId : String
  playerName : String
  virtualIp : Option String
  virtualDomain : Option String
  useDomain : Option Bool
  chatPublicKey : Option String
  sessionGeneration : Nat
  deriving DecidableEq

/-- `OfferData` and `AnswerData` have the same fields. -/
structure SessionDescription where
  sdpType : String
  sdp : String
  deriving DecidableEq

structure CandidateData where
  candidate : String
  sdpMLineIndex : Option Nat
  sdpMid : Option String
  deriving DecidableEq

/-- A WebSocket signaling message. Reference: `SignalingMessage` (`protocol.rs:15`). -/
inductive SignalingMessage where
  | serverChallenge (challenge : String) (lobbyEntryModes : Bool) (protocolVersion : Nat)
  | registerV3 (entryMode : Option LobbyEntryMode) (protocolVersion : Nat)
      (identityPublicKey challengeSignature playerName : String) (virtualIp : Option String)
      (lobbyName lobbyPassword : String) (clientVersion virtualDomain : Option String)
      (useDomain : Option Bool)
  | register (clientId playerName : String) (virtualIp virtualDomain : Option String)
      (useDomain : Option Bool) (lobbyName lobbyPassword : String)
      (clientVersion chatPublicKey : Option String)
  | registerSuccess (clientId : String) (sessionGeneration : Nat) (lobbyId : String)
      (hostId : Option String) (maxPlayers : Option Nat) (isPublic : Option Bool)
      (mutedPlayers : Option (List String)) (chatToken : String) (chatTokenEpoch : Nat)
  | chatTokenRotated (lobbyId chatToken : String) (chatTokenEpoch : Nat)
  | registerError (message : String)
  | leave (clientId : String)
  | versionTooOld (message currentVersion minimumVersion downloadUrl : String)
  | playersList (players : List PlayerInfo)
  | playersListRequest
  | playerJoined (playerId playerName : String) (virtualIp virtualDomain : Option String)
      (useDomain : Option Bool) (chatPublicKey : Option String) (sessionGeneration : Nat)
  | playerLeft (playerId : String) (sessionGeneration : Nat)
  | offer (from_ to_ : String) (offer : SessionDescription) (playerName : Option String)
  | voiceReconnect (from_ to_ : String)
  | answer (from_ to_ : String) (answer : SessionDescription)
  | iceCandidate (from_ to_ : String) (candidate : CandidateData)
  | chatMessage (from_ playerId playerName content : String) (timestamp : Int)
  | statusUpdate (clientId : String) (micEnabled : Bool)
  | screenShareStart (from_ shareId playerName : String) (hasPassword : Bool)
  | screenShareStop (from_ shareId : String)
  | screenShareRelay (from_ to_ shareId action : String)
      (playerName password upstreamId downstreamId : Option String)
      (routeVersion sequence sourceSequence sentSequence : Option Nat) (limited : Option Bool)
      (reason : Option String)
  | screenShareOffer (from_ to_ shareId : String) (playerName password : Option String)
      (routeVersion : Option Nat) (offer : SessionDescription)
  | screenShareAnswer (from_ to_ shareId : String) (routeVersion : Option Nat)
      (answer : SessionDescription)
  | screenShareIceCandidate (from_ to_ shareId : String) (connectionRole : Option String)
      (routeVersion : Option Nat) (candidate : CandidateData)
  | screenShareError (from_ to_ shareId error : String)
  | screenShareListRequest (from_ : String)
  | screenShareListResponse (from_ to_ shareId playerName : String) (hasPassword : Bool)
  | screenShareViewerLeft (from_ shareId : String)
  | screenShareUpdate (from_ shareId : String) (viewerId viewerName : Option String)
      (viewerCount : Option Nat)
  | fileShareAdded (from_ shareId shareName playerName : String) (hasPassword : Bool)
  | fileShareRemoved (from_ shareId : String)
  | fileShareListRequest (from_ : String)
  | fileShareListResponse (from_ to_ : String) (shares : List FileShareInfo)
  | shareUpdated (from_ shareId : String) (shareName playerName : Option String)
      (hasPassword : Option Bool)
  | remoteControlRequest (from_ to_ sessionId fromName : String)
  | remoteControlAccept (from_ to_ sessionId : String)
  | remoteControlReject (from_ to_ sessionId reason : String)
  | remoteControlOffer (from_ to_ sessionId : String) (offer : SessionDescription)
  | remoteControlAnswer (from_ to_ sessionId : String) (answer : SessionDescription)
  | remoteControlIce (from_ to_ sessionId : String) (candidate : CandidateData)
  | remoteControlStop (from_ to_ sessionId : String)
  | ping
  | pong
  | kickPlayer (from_ target : String)
  | kicked (reason : String)
  | mutePlayer (from_ target : String) (muted : Bool)
  | playerMuteChanged (playerId : String) (muted : Bool)
  | transferHost (from_ target : String)
  | hostChanged (hostId : String)
  | setLobbyOptions (from_ : String) (maxPlayers : Option Nat) (isPublic : Option Bool)
      (description serverNode : Option String)
  | lobbyOptionsChanged (maxPlayers : Option Nat) (isPublic : Bool)
  | publicLobbyListRequest
  | publicLobbyListResponse (lobbies : List PublicLobbyInfo)
  | communityNodeListRequest
  | communityNodeListResponse (nodes : List CommunityNodeInfo)
  | communityNodeSubmit (name address : String) (submitter : Option String)
  | communityNodeSubmitResult (ok : Bool) (message : String) (node : Option CommunityNodeInfo)
  deriving DecidableEq

/-- The identity claimed by a client-originated message. Reference:
`SignalingMessage::claimed_sender` (`protocol.rs:514`). -/
def SignalingMessage.claimedSender : SignalingMessage → Option String
  | .offer from_ .. | .voiceReconnect from_ .. | .answer from_ .. | .iceCandidate from_ ..
  | .chatMessage from_ .. | .screenShareStart from_ .. | .screenShareStop from_ ..
  | .screenShareRelay from_ .. | .screenShareOffer from_ .. | .screenShareAnswer from_ ..
  | .screenShareIceCandidate from_ .. | .screenShareError from_ ..
  | .screenShareListRequest from_ | .screenShareListResponse from_ ..
  | .screenShareViewerLeft from_ .. | .screenShareUpdate from_ .. | .fileShareAdded from_ ..
  | .fileShareRemoved from_ .. | .fileShareListRequest from_ | .fileShareListResponse from_ ..
  | .shareUpdated from_ .. | .remoteControlRequest from_ .. | .remoteControlAccept from_ ..
  | .remoteControlReject from_ .. | .remoteControlOffer from_ .. | .remoteControlAnswer from_ ..
  | .remoteControlIce from_ .. | .remoteControlStop from_ .. | .kickPlayer from_ ..
  | .mutePlayer from_ .. | .transferHost from_ .. | .setLobbyOptions from_ .. => some from_
  | .statusUpdate clientId .. | .leave clientId => some clientId
  | _ => none

/-! ## Field limits -/

/-- Reference: `parse_virtual_ipv4` (`protocol.rs:652`). -/
def parseVirtualIpv4 (raw : Option String) : Option Ipv4Addr := do
  let ip ← parseIpv4 (trim (← raw).toList)
  if ip.o0 ≠ 10 ∨ ip.o1 ≠ 126 ∨ ip.o2 ≠ 126 ∨ ip.o3 = 0 ∨ ip.o3 = 255 then none else some ip

/-- Reference: `valid_text` (`protocol.rs:661`). -/
def validText (value : String) (maxLen : Nat) (allowEmpty : Bool) : Bool :=
  (allowEmpty || !(trim value.toList).isEmpty) && value.utf8ByteSize ≤ maxLen &&
    !value.toList.any isControl

def validIdentifier (value : String) : Bool := validText value MAX_CLIENT_ID_LEN false

def validControlText (value : String) (maxLen : Nat) (allowEmpty : Bool) : Bool :=
  validText value (min maxLen MAX_CONTROL_TEXT_LEN) allowEmpty

def validSessionId (value : String) : Bool := validText value MAX_REMOTE_SESSION_ID_LEN false

def validShareId (value : String) : Bool := validText value MAX_SHARE_ID_LEN false

/-- SDP is CRLF-delimited, so these two controls pass. Reference: `valid_session_description`
(`protocol.rs:683`), which `valid_offer_data` and `valid_answer_data` call. -/
def validSessionDescription (data : SessionDescription) (expectedType : String) : Bool :=
  data.sdpType == expectedType && data.sdp.utf8ByteSize ≤ MAX_SDP_LEN && !data.sdp.isEmpty &&
    !data.sdp.toList.any fun ch => isControl ch && ch != '\r' && ch != '\n'

def validCandidateData (data : CandidateData) : Bool :=
  !data.candidate.isEmpty && data.candidate.utf8ByteSize ≤ MAX_ICE_CANDIDATE_LEN &&
    !data.candidate.toList.any isControl && data.sdpMLineIndex.all (· ≤ 256) &&
    data.sdpMid.all (validControlText · 128 true)

/-- The closure `optional_control` of `validate_message_shape`. -/
def optionalControl (value : Option String) (maxLen : Nat) : Bool :=
  value.all (validControlText · maxLen true)

/-- The closure `ids` of `validate_message_shape`. -/
def validIds (from_ to_ : String) : Bool := validIdentifier from_ && validIdentifier to_

/-- The limits on a message's fields, checked before any routing. Reference:
`validate_message_shape` (`protocol.rs:712`). -/
def validateMessageShape : SignalingMessage → Bool
  | .serverChallenge challenge .. =>
    challenge.utf8ByteSize == CHALLENGE_BYTES * 2 &&
      challenge.toList.all fun c => c.isDigit || ('a' ≤ c && c ≤ 'f')
  | .registerV3 _ _ identityPublicKey challengeSignature playerName virtualIp lobbyName
      lobbyPassword clientVersion virtualDomain _ =>
    identityPublicKey.utf8ByteSize ≤ MAX_IDENTITY_PUBLIC_KEY_LEN &&
      challengeSignature.utf8ByteSize ≤ MAX_IDENTITY_SIGNATURE_LEN &&
      validControlText playerName MAX_PLAYER_NAME_LEN false &&
      virtualIp.any (validControlText · 32 false) &&
      optionalControl virtualDomain MAX_VIRTUAL_DOMAIN_LEN &&
      validControlText lobbyName MAX_LOBBY_NAME_LEN false &&
      validControlText lobbyPassword MAX_LOBBY_PASSWORD_LEN true &&
      optionalControl clientVersion MAX_CLIENT_VERSION_LEN
  | .register clientId playerName virtualIp virtualDomain _ lobbyName lobbyPassword clientVersion
      chatPublicKey =>
    validIdentifier clientId && validControlText playerName MAX_PLAYER_NAME_LEN false &&
      virtualIp.all (validControlText · 32 false) &&
      optionalControl virtualDomain MAX_VIRTUAL_DOMAIN_LEN &&
      validControlText lobbyName MAX_LOBBY_NAME_LEN false &&
      validControlText lobbyPassword MAX_LOBBY_PASSWORD_LEN true &&
      optionalControl clientVersion MAX_CLIENT_VERSION_LEN &&
      optionalControl chatPublicKey MAX_CHAT_PUBLIC_KEY_LEN
  | .offer from_ to_ offer _ => validIds from_ to_ && validSessionDescription offer "offer"
  | .answer from_ to_ answer => validIds from_ to_ && validSessionDescription answer "answer"
  | .voiceReconnect from_ to_ => validIds from_ to_ && from_ != to_
  | .iceCandidate from_ to_ candidate => validIds from_ to_ && validCandidateData candidate
  | .chatMessage from_ playerId playerName content _ =>
    validIdentifier from_ && validIdentifier playerId &&
      validControlText playerName MAX_PLAYER_NAME_LEN false &&
      validControlText content MAX_CONTROL_TEXT_LEN false
  | .statusUpdate clientId _ => validIdentifier clientId
  | .screenShareStart from_ shareId playerName _ =>
    validIdentifier from_ && validShareId shareId &&
      validControlText playerName MAX_PLAYER_NAME_LEN false
  | .screenShareStop from_ shareId | .screenShareViewerLeft from_ shareId =>
    validIdentifier from_ && validShareId shareId
  | .screenShareRelay from_ to_ shareId action playerName password upstreamId downstreamId _
      sequence sourceSequence sentSequence _ reason =>
    validIds from_ to_ && validShareId shareId && validControlText action 32 false &&
      optionalControl playerName MAX_PLAYER_NAME_LEN &&
      optionalControl password MAX_CONTROL_TEXT_LEN &&
      optionalControl upstreamId MAX_CLIENT_ID_LEN &&
      optionalControl downstreamId MAX_CLIENT_ID_LEN && optionalControl reason 256 &&
      [sequence, sourceSequence, sentSequence].all (·.all (· ≤ 1000000000))
  | .screenShareOffer from_ to_ shareId playerName password _ offer =>
    validIds from_ to_ && validShareId shareId && optionalControl playerName MAX_PLAYER_NAME_LEN &&
      optionalControl password MAX_CONTROL_TEXT_LEN && validSessionDescription offer "offer"
  | .screenShareAnswer from_ to_ shareId _ answer =>
    validIds from_ to_ && validShareId shareId && validSessionDescription answer "answer"
  | .screenShareIceCandidate from_ to_ shareId connectionRole _ candidate =>
    validIds from_ to_ && validShareId shareId && optionalControl connectionRole 32 &&
      validCandidateData candidate
  | .screenShareError from_ to_ shareId error =>
    validIds from_ to_ && validShareId shareId && validControlText error MAX_ERROR_TEXT_LEN false
  | .screenShareListRequest from_ | .fileShareListRequest from_ => validIdentifier from_
  | .screenShareListResponse from_ to_ shareId playerName _ =>
    validIds from_ to_ && validShareId shareId &&
      validControlText playerName MAX_PLAYER_NAME_LEN false
  | .screenShareUpdate from_ shareId viewerId viewerName _ =>
    validIdentifier from_ && validShareId shareId && optionalControl viewerId MAX_CLIENT_ID_LEN &&
      optionalControl viewerName MAX_PLAYER_NAME_LEN
  | .fileShareAdded from_ shareId shareName playerName _ =>
    validIdentifier from_ && validShareId shareId &&
      validControlText shareName MAX_SHARE_NAME_LEN false &&
      validControlText playerName MAX_PLAYER_NAME_LEN false
  | .fileShareRemoved from_ shareId => validIdentifier from_ && validShareId shareId
  | .fileShareListResponse from_ to_ shares =>
    validIds from_ to_ && shares.length ≤ 256 && shares.all fun share =>
      validShareId share.shareId && validControlText share.shareName MAX_SHARE_NAME_LEN false &&
        validControlText share.playerName MAX_PLAYER_NAME_LEN false
  | .shareUpdated from_ shareId shareName playerName _ =>
    validIdentifier from_ && validShareId shareId &&
      optionalControl shareName MAX_SHARE_NAME_LEN &&
      optionalControl playerName MAX_PLAYER_NAME_LEN
  | .remoteControlRequest from_ to_ sessionId fromName =>
    validIds from_ to_ && validSessionId sessionId && validControlText fromName 64 false
  | .remoteControlAccept from_ to_ sessionId | .remoteControlStop from_ to_ sessionId =>
    validIds from_ to_ && validSessionId sessionId
  | .remoteControlReject from_ to_ sessionId reason =>
    validIds from_ to_ && validSessionId sessionId &&
      validControlText reason MAX_ERROR_TEXT_LEN false
  | .remoteControlOffer from_ to_ sessionId offer =>
    validIds from_ to_ && validSessionId sessionId && validSessionDescription offer "offer"
  | .remoteControlAnswer from_ to_ sessionId answer =>
    validIds from_ to_ && validSessionId sessionId && validSessionDescription answer "answer"
  | .remoteControlIce from_ to_ sessionId candidate =>
    validIds from_ to_ && validSessionId sessionId && validCandidateData candidate
  | .leave clientId => validIdentifier clientId
  | .kickPlayer from_ target | .mutePlayer from_ target _ | .transferHost from_ target =>
    validIdentifier from_ && validIdentifier target
  | .setLobbyOptions from_ _ _ description serverNode =>
    validIdentifier from_ && optionalControl description MAX_CONTROL_TEXT_LEN &&
      optionalControl serverNode MAX_LOBBY_PASSWORD_LEN
  | .communityNodeSubmit name address submitter =>
    validControlText name COMMUNITY_NODE_NAME_MAX_LEN false &&
      validControlText address COMMUNITY_NODE_ADDRESS_MAX_LEN false &&
      optionalControl submitter COMMUNITY_NODE_SUBMITTER_MAX_LEN
  | _ => true

/-- Reference: `effective_public_setting` (`protocol.rs:1045`). -/
def effectivePublicSetting (requestedPublic isPasswordless : Bool) : Bool :=
  requestedPublic && isPasswordless

/-! ## Virtual addresses -/

/-- The lobby's virtual network: `10.126.126.1` to `10.126.126.254`. -/
def VirtualRange (ip : Ipv4Addr) : Prop :=
  ip.o0 = 10 ∧ ip.o1 = 126 ∧ ip.o2 = 126 ∧ ip.o3 ≠ 0 ∧ ip.o3 ≠ 255

/-- An accepted address lies in the lobby's virtual network. -/
theorem parseVirtualIpv4_range {raw : Option String} {ip : Ipv4Addr}
    (h : parseVirtualIpv4 raw = some ip) : VirtualRange ip := by
  unfold parseVirtualIpv4 at h
  cases raw with
  | none => cases h
  | some raw =>
    simp only [Option.bind_eq_bind, Option.bind_some, Option.bind_eq_some_iff] at h
    obtain ⟨ip', -, h⟩ := h
    split at h
    · cases h
    · next hne =>
      cases h
      simpa only [VirtualRange, not_or, Decidable.not_not, ne_eq] using hne

end MctierSignaling
