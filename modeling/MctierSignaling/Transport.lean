import MctierSignaling.State
import MctierSignaling.Json

/-!
# Frames and lobby delivery

`transport.rs`. A function that routes a message to a lobby first takes a snapshot of the recipients
under the read lock, and then sends to them with the lock released. The snapshots are the functions
here, each from the lobbies to the sends it asks for (`Delivery`); `send_message`, which may refuse
a frame or fail, is the step `Sys.send` of `MctierSignaling.Server`.
-/

namespace MctierSignaling

/-- A WebSocket frame the server sends: the text of a message, stamped with the id and the session
generation of its sender if the snapshot found them, or a close frame. -/
inductive Frame where
  | text (message : SignalingMessage) (stamp : Option (String × Nat))
  | close
  deriving DecidableEq

/-- The JSON text of a frame. -/
def Frame.json : Frame → Option Json
  | .text message none => some message.toJson
  | .text message (some (senderId, generation)) =>
    some (injectSessionMetadata message.toJson senderId generation)
  | .close => none

/-- The size `send_message` charges. Reference: `send_message` (`transport.rs:31-38`). -/
def Frame.bytes (frame : Frame) : Nat :=
  match frame.json with
  | some json => json.bytes
  | none => 0

/-- The chat token a message carries, with its epoch. -/
def SignalingMessage.chatToken : SignalingMessage → Option (String × Nat)
  | .registerSuccess _ _ _ _ _ _ _ chatToken chatTokenEpoch => some (chatToken, chatTokenEpoch)
  | .chatTokenRotated _ chatToken chatTokenEpoch => some (chatToken, chatTokenEpoch)
  | _ => none

/-- The chat token a frame carries, with its epoch. -/
def Frame.chatToken : Frame → Option (String × Nat)
  | .text message _ => message.chatToken
  | .close => none

/-- One frame to send to a connection. A send that fails sets the disconnect flag `flag`, if there
is one; `via` is the lobby whose snapshot found the recipient, for a frame that was routed. -/
structure Delivery where
  to_ : ConnId
  frame : Frame
  flag : Option ConnId
  via : Option String
  deriving DecidableEq

/-- `send_text` to one's own connection, whose result is ignored. -/
def reply (k : ConnId) (message : SignalingMessage) : Delivery :=
  ⟨k, .text message none, none, none⟩

/-- A close frame, whose result is ignored too. -/
def closeFrame (k : ConnId) : Delivery := ⟨k, .close, none, none⟩

/-! ## Snapshots -/

/-- The sender a message names, with its session generation in this lobby. -/
def stampIn (lobby : LobbyInfo) (message : SignalingMessage) : Option (String × Nat) := do
  let sourceId ← jsonSenderId message.toJson
  let source ← lobby.clients.lookup sourceId
  return (sourceId, source.sessionGeneration)

/-- The frame to one member, if it is there. Reference: `send_to_lobby_client`
(`transport.rs:96`). -/
def sendToLobbyClient (lobbies : HashMap String LobbyInfo) (lobbyId clientId : String)
    (message : SignalingMessage) : List Delivery :=
  match lobbies.lookup lobbyId with
  | none => []
  | some lobby =>
    match lobby.clients.lookup clientId with
    | none => []
    | some target =>
      [⟨target.sender, .text message (stampIn lobby message), some target.disconnect,
        some lobbyId⟩]

/-- The frames to all members but one. Reference: `broadcast_to_lobby` (`transport.rs:195`). -/
def broadcastToLobby (lobbies : HashMap String LobbyInfo) (lobbyId excludeId : String)
    (message : SignalingMessage) : List Delivery :=
  match lobbies.lookup lobbyId with
  | none => []
  | some lobby =>
    (lobby.clients.entries.filter fun e => e.1 != excludeId).map fun e =>
      ⟨e.2.sender, .text message (stampIn lobby message), some e.2.disconnect, some lobbyId⟩

/-- The frames of a rotation to the targets that still have the senders they had, unless a newer
rotation superseded this one. Reference: `send_chat_token_rotation` (`transport.rs:241`). -/
def sendChatTokenRotation (lobbies : HashMap String LobbyInfo)
    (targets : List (String × ConnId)) (lobbyId chatToken : String) (chatTokenEpoch : Nat) :
    List Delivery :=
  match lobbies.lookup lobbyId with
  | none => []
  | some lobby =>
    if lobby.chatTokenEpoch ≠ chatTokenEpoch ∨ lobby.chatToken ≠ chatToken then []
    else targets.filterMap fun t =>
      ((lobby.clients.lookup t.1).filter (·.sender == t.2)).map fun client =>
        ⟨t.2, .text (.chatTokenRotated lobbyId chatToken chatTokenEpoch) none,
          some client.disconnect, none⟩

/-- Reference: `is_current_session` (`transport.rs:150`). -/
def isCurrentSession (lobbies : HashMap String LobbyInfo) (lobbyId clientId : String)
    (sessionGeneration : Nat) (sender : ConnId) : Bool :=
  ((lobbies.lookup lobbyId).bind (·.clients.lookup clientId)).any fun client =>
    client.sessionGeneration == sessionGeneration && client.sender == sender

/-- What a member shows of itself. -/
def ClientInfo.player (info : ClientInfo) : PlayerInfo where
  playerId := info.playerId
  playerName := info.playerName
  virtualIp := info.virtualIp
  virtualDomain := info.virtualDomain
  useDomain := info.useDomain
  chatPublicKey := info.chatPublicKey
  sessionGeneration := info.sessionGeneration

/-- Reference: `current_players` (`transport.rs:167`). -/
def currentPlayers (lobbies : HashMap String LobbyInfo) (lobbyId : String)
    (excludeId : Option String) : List PlayerInfo :=
  match lobbies.lookup lobbyId with
  | none => []
  | some lobby =>
    (lobby.clients.entries.filter fun e => excludeId != some e.1).map fun e => e.2.player

/-- The listing of a public lobby. Reference: `PublicLobbyListRequest` (`connection.rs:1592`). -/
def LobbyInfo.listing (lobby : LobbyInfo) : PublicLobbyInfo where
  lobbyName := lobby.lobbyName
  playerCount := lobby.clients.keys.length
  maxPlayers := lobby.maxPlayers
  hostName := ((lobby.clients.lookup lobby.hostId).map (·.playerName)).getD "房主"
  description := lobby.description
  serverNode := lobby.serverNode

/-- The lobbies listed on the square. Reference: `PublicLobbyListRequest`
(`connection.rs:1590`). -/
def publicLobbies (lobbies : HashMap String LobbyInfo) : List PublicLobbyInfo :=
  (lobbies.entries.filter (·.2.isPublic)).map fun e => e.2.listing

/-! ## What the snapshots send -/

section
variable {lobbies : HashMap String LobbyInfo} {lobbyId clientId : String}
  {message : SignalingMessage} {lobby : LobbyInfo} {d : Delivery}

/-- A stamp is an id the message names, with that member's session generation. -/
theorem stampIn_eq_some {id : String} {generation : Nat}
    (h : stampIn lobby message = some (id, generation)) :
    jsonSenderId message.toJson = some id ∧
      ∃ source, lobby.clients.lookup id = some source ∧ source.sessionGeneration = generation := by
  simp only [stampIn, Option.bind_eq_bind, Option.bind_eq_some_iff, Option.pure_def,
    Option.some.injEq, Prod.mk.injEq] at h
  obtain ⟨id', hid, source, hsource, rfl, rfl⟩ := h
  exact ⟨hid, source, hsource, rfl⟩

/-- The stamp of a message that names a client is that client's entry. -/
theorem stampIn_of_member {id : String} {source : ClientInfo}
    (hid : jsonSenderId message.toJson = some id)
    (hsource : lobby.clients.lookup id = some source) :
    stampIn lobby message = some (id, source.sessionGeneration) := by
  simp only [stampIn, hid, Option.bind_eq_bind, Option.bind_some, hsource, Option.pure_def]

/-- A frame to one member goes to that member. -/
theorem mem_sendToLobbyClient (h : d ∈ sendToLobbyClient lobbies lobbyId clientId message) :
    ∃ lobby target, lobbies.lookup lobbyId = some lobby ∧
      lobby.clients.lookup clientId = some target ∧
      d = ⟨target.sender, .text message (stampIn lobby message), some target.disconnect,
        some lobbyId⟩ := by
  unfold sendToLobbyClient at h
  split at h
  · cases h
  next lobby hl =>
  split at h
  · cases h
  next target ht => exact ⟨lobby, target, hl, ht, List.mem_singleton.1 h⟩

/-- A broadcast frame goes to a member that is not excluded. -/
theorem mem_broadcastToLobby (h : d ∈ broadcastToLobby lobbies lobbyId clientId message) :
    ∃ lobby id target, lobbies.lookup lobbyId = some lobby ∧ id ≠ clientId ∧
      lobby.clients.lookup id = some target ∧
      d = ⟨target.sender, .text message (stampIn lobby message), some target.disconnect,
        some lobbyId⟩ := by
  unfold broadcastToLobby at h
  split at h
  · cases h
  next lobby hl =>
  obtain ⟨⟨id, target⟩, he, rfl⟩ := List.mem_map.1 h
  obtain ⟨he, hne⟩ := List.mem_filter.1 he
  exact ⟨lobby, id, target, hl, bne_iff_ne.1 hne, HashMap.mem_entries.1 he, rfl⟩

/-- Every member that is not excluded gets a frame of a broadcast. -/
theorem broadcastToLobby_mem {id : String} {target : ClientInfo}
    (hl : lobbies.lookup lobbyId = some lobby) (hc : lobby.clients.lookup id = some target)
    (hid : id ≠ clientId) :
    ⟨target.sender, .text message (stampIn lobby message), some target.disconnect, some lobbyId⟩ ∈
      broadcastToLobby lobbies lobbyId clientId message := by
  unfold broadcastToLobby
  rw [hl]
  exact List.mem_map.2 ⟨⟨id, target⟩,
    List.mem_filter.2 ⟨HashMap.mem_entries.2 hc, bne_iff_ne.2 hid⟩, rfl⟩

/-- A rotation frame carries the lobby's current token to a current member. -/
theorem mem_sendChatTokenRotation {targets : List (String × ConnId)} {chatToken : String}
    {chatTokenEpoch : Nat}
    (h : d ∈ sendChatTokenRotation lobbies targets lobbyId chatToken chatTokenEpoch) :
    ∃ lobby id client, lobbies.lookup lobbyId = some lobby ∧ lobby.chatToken = chatToken ∧
      lobby.chatTokenEpoch = chatTokenEpoch ∧ (id, client.sender) ∈ targets ∧
      lobby.clients.lookup id = some client ∧
      d = ⟨client.sender, .text (.chatTokenRotated lobbyId chatToken chatTokenEpoch) none,
        some client.disconnect, none⟩ := by
  unfold sendChatTokenRotation at h
  split at h
  · cases h
  next lobby hl =>
  split at h
  · cases h
  next hcur =>
  rw [not_or, Decidable.not_not, Decidable.not_not] at hcur
  obtain ⟨⟨id, sender⟩, ht, hd⟩ := List.mem_filterMap.1 h
  obtain ⟨client, hfilter, rfl⟩ := Option.map_eq_some_iff.1 hd
  obtain ⟨hc, hsender⟩ := Option.filter_eq_some_iff.1 hfilter
  obtain rfl : client.sender = sender := beq_iff_eq.1 hsender
  exact ⟨lobby, id, client, hl, hcur.2, hcur.1, ht, hc, rfl⟩

/-- Every target that still has its sender gets a frame of the current rotation. -/
theorem sendChatTokenRotation_mem {targets : List (String × ConnId)} {id : String}
    {client : ClientInfo} (hl : lobbies.lookup lobbyId = some lobby)
    (hc : lobby.clients.lookup id = some client) (ht : (id, client.sender) ∈ targets) :
    ⟨client.sender, .text (.chatTokenRotated lobbyId lobby.chatToken lobby.chatTokenEpoch) none,
        some client.disconnect, none⟩ ∈
      sendChatTokenRotation lobbies targets lobbyId lobby.chatToken lobby.chatTokenEpoch := by
  unfold sendChatTokenRotation
  rw [hl]
  simp only [ne_eq, not_true_eq_false, or_self, if_false]
  exact List.mem_filterMap.2 ⟨_, ht, by simp [hc]⟩

/-- The current session is the member's entry. -/
theorem isCurrentSession_iff {generation : Nat} {k : ConnId} :
    isCurrentSession lobbies lobbyId clientId generation k = true ↔
      ∃ lobby client, lobbies.lookup lobbyId = some lobby ∧
        lobby.clients.lookup clientId = some client ∧ client.sessionGeneration = generation ∧
        client.sender = k := by
  unfold isCurrentSession
  cases lobbies.lookup lobbyId with
  | none => simp
  | some lobby => cases h : lobby.clients.lookup clientId <;> simp [h]

end

end MctierSignaling
