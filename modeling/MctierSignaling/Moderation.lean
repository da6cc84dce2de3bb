import MctierSignaling.Registration

/-!
# Host actions

`moderation.rs`. Each of the four host actions has a critical section under the lobby write lock,
which checks again that the session is current and the host's (`authorizeHost`) before it changes
anything. What `handle_moderation_message` checks before the lock and sends after it is in
`MctierSignaling.Connection`.
-/

namespace MctierSignaling

/-- Reference: `ModerationSession` (`moderation.rs:10`). -/
structure ModerationSession where
  clientId : String
  lobbyId : String
  sessionGeneration : Nat
  sender : ConnId

/-- How an action that changed nothing ends: `ModerationDispatch::Handled` or
`ModerationDispatch::CloseConnection`. -/
inductive ModerationDispatch where
  | handled
  | closeConnection
  deriving DecidableEq

/-- The host actions a client can send, without their `from`. -/
inductive HostAction where
  | kickPlayer (target : String)
  | mutePlayer (target : String) (muted : Bool)
  | transferHost (target : String)
  | setLobbyOptions (maxPlayers : Option Nat) (isPublic : Option Bool)
      (description serverNode : Option String)

/-- The host action of a message, with its `from`. -/
def SignalingMessage.hostAction : SignalingMessage → Option (String × HostAction)
  | .kickPlayer from_ target => some (from_, .kickPlayer target)
  | .mutePlayer from_ target muted => some (from_, .mutePlayer target muted)
  | .transferHost from_ target => some (from_, .transferHost target)
  | .setLobbyOptions from_ maxPlayers isPublic description serverNode =>
    some (from_, .setLobbyOptions maxPlayers isPublic description serverNode)
  | _ => none

/-- The entry of a client is this session: its generation and its sender. -/
def isCurrentIn (lobby : LobbyInfo) (clientId : String) (generation : Nat) (sender : ConnId) :
    Bool :=
  (lobby.clients.lookup clientId).any fun client =>
    client.sessionGeneration == generation && client.sender == sender

/-- Checks the session and the host under the lock of the change. Reference: `authorize_host`
(`moderation.rs:87`). -/
def authorizeHost (lobby : LobbyInfo) (session : ModerationSession) : Option ModerationDispatch :=
  if !isCurrentIn lobby session.clientId session.sessionGeneration session.sender then
    some .closeConnection
  else if lobby.hostId ≠ session.clientId then some .handled
  else none

/-- What a host action that took effect does after the lock is released. -/
inductive HostNotice where
  | kicked (removed : ClientInfo) (target : String) (targets : List (String × ConnId))
      (token : String) (epoch : Nat)
  | muteChanged (target : String) (muted : Bool)
  | hostChanged (target : String)
  | optionsChanged (maxPlayers : Option Nat) (isPublic : Bool)

/-- The start of every critical section: the lobby, and the authorization. -/
def withHost (sh : Shared) (session : ModerationSession)
    (act : LobbyInfo → Shared × Except ModerationDispatch HostNotice) :
    Shared × Except ModerationDispatch HostNotice :=
  match sh.lobbies.lookup session.lobbyId with
  | none => (sh, .error .handled)
  | some lobby =>
    match authorizeHost lobby session with
    | some result => (sh, .error result)
    | none => act lobby

/-- Stores the changed lobby. -/
def Shared.setLobby (sh : Shared) (lobbyId : String) (lobby : LobbyInfo) : Shared :=
  { sh with lobbies := sh.lobbies.insert lobbyId lobby }

/-- The lobby without a member, who is no longer muted either. -/
def LobbyInfo.remove (lobby : LobbyInfo) (cid : String) : LobbyInfo :=
  { lobby with clients := lobby.clients.erase cid, muted := lobby.muted.erase cid }

/-- Unmaps a client that is mapped to this lobby. -/
def Shared.unmap (sh : Shared) (cid lobbyId : String) : Shared :=
  { sh with
    clientLobbyMap := if sh.clientLobbyMap.lookup cid = some lobbyId then
        sh.clientLobbyMap.erase cid
      else sh.clientLobbyMap }

/-- Reference: `kick_player` (`moderation.rs:106`). -/
def kickPlayer (sh : Shared) (session : ModerationSession) (target token : String) :
    Shared × Except ModerationDispatch HostNotice :=
  withHost sh session fun lobby =>
    if target = session.clientId then (sh, .error .handled)
    else match lobby.clients.lookup target with
    | none => (sh, .error .handled)
    | some removed =>
      let lobby := rotateChatToken (lobby.remove target) token
      ((sh.setLobby session.lobbyId lobby).unmap target session.lobbyId,
        .ok (.kicked removed target (rotationTargets lobby) lobby.chatToken lobby.chatTokenEpoch))

/-- Reference: `mute_player` (`moderation.rs:162`). -/
def mutePlayer (sh : Shared) (session : ModerationSession) (target : String) (muted : Bool) :
    Shared × Except ModerationDispatch HostNotice :=
  withHost sh session fun lobby =>
    if target = lobby.hostId ∧ muted then (sh, .error .handled)
    else if target ∉ lobby.clients then (sh, .error .handled)
    else if muted then
      if lobby.muted.keys.length ≥ MAX_LOBBY_MEMBERS ∧ target ∉ lobby.muted then
        (sh, .error .handled)
      else
        (sh.setLobby session.lobbyId { lobby with muted := lobby.muted.insert target () },
          .ok (.muteChanged target muted))
    else
      (sh.setLobby session.lobbyId { lobby with muted := lobby.muted.erase target },
        .ok (.muteChanged target muted))

/-- Reference: `transfer_host` (`moderation.rs:206`). -/
def transferHost (sh : Shared) (session : ModerationSession) (target : String) :
    Shared × Except ModerationDispatch HostNotice :=
  withHost sh session fun lobby =>
    if target ∉ lobby.clients then (sh, .error .handled)
    else
      (sh.setLobby session.lobbyId
        { lobby with hostId := target, muted := lobby.muted.erase target },
        .ok (.hostChanged target))

/-- The member limit a host asks for: zero means none. Reference: `set_lobby_options`
(`moderation.rs:264-270`). -/
def requestedMaxPlayers (maxPlayers : Nat) : Option Nat :=
  if maxPlayers = 0 then none else some (min maxPlayers MAX_LOBBY_MEMBERS)

/-- The options of a lobby after a request; an absent option keeps its value, and so does an
invalid text. Reference: `set_lobby_options` (`moderation.rs:264-287`). -/
def applyOptions (lobby : LobbyInfo) (maxPlayers : Option Nat) (isPublic : Option Bool)
    (description serverNode : Option String) : LobbyInfo where
  __ := lobby
  maxPlayers := match maxPlayers with
    | some maxPlayers => requestedMaxPlayers maxPlayers
    | none => lobby.maxPlayers
  description := match description with
    | some description => if validText description 200 true then description else lobby.description
    | none => lobby.description
  serverNode := match serverNode with
    | some serverNode => if validText serverNode 512 false then serverNode else lobby.serverNode
    | none => lobby.serverNode
  isPublic := match isPublic with
    | some requestedPublic => effectivePublicSetting requestedPublic lobby.isPasswordless
    | none => lobby.isPublic

/-- Reference: `set_lobby_options` (`moderation.rs:248`). -/
def setLobbyOptions (sh : Shared) (session : ModerationSession) (maxPlayers : Option Nat)
    (isPublic : Option Bool) (description serverNode : Option String) :
    Shared × Except ModerationDispatch HostNotice :=
  withHost sh session fun lobby =>
    let lobby := applyOptions lobby maxPlayers isPublic description serverNode
    (sh.setLobby session.lobbyId lobby, .ok (.optionsChanged lobby.maxPlayers lobby.isPublic))

/-- The critical section of a host action. Reference: `handle_moderation_message`
(`moderation.rs:56-84`). -/
def moderate (sh : Shared) (session : ModerationSession) (token : String) :
    HostAction → Shared × Except ModerationDispatch HostNotice
  | .kickPlayer target => kickPlayer sh session target token
  | .mutePlayer target muted => mutePlayer sh session target muted
  | .transferHost target => transferHost sh session target
  | .setLobbyOptions maxPlayers isPublic description serverNode =>
    setLobbyOptions sh session maxPlayers isPublic description serverNode

end MctierSignaling
