import MctierSignaling.Moderation

/-!
# Leaving a lobby

The critical section of the cleanup of `connection.rs`, which every connection that registered runs
once, after its message loop. It acts only if the lobby's entry of its client still has its own
sender.
-/

namespace MctierSignaling

/-- What a cleanup that removed its own entry does after the lock is released. -/
structure Departure where
  session : RegisteredSession
  /-- `chat_rotation`: the targets, the token and the epoch, if members remain. -/
  chatRotation : Option (List (String × ConnId) × String × Nat)
  newHost : Option String

/-- Some key, as `keys().next()` of a hash map, whose iteration order is `order`. -/
def someKey {ν : Type} (m : HashMap String ν) (order : Nat) : Option String :=
  m.keys[order % m.keys.length]?

/-- The lobby after a member that is not its last one left, and the new host if the host left.
Reference: cleanup (`connection.rs:1713-1723`). -/
def handOver (lobby : LobbyInfo) (cid : String) (order : Nat) : LobbyInfo × Option String :=
  if lobby.hostId = cid then
    match someKey lobby.clients order with
    | some next => ({ lobby with hostId := next, muted := lobby.muted.erase next }, some next)
    | none => (lobby, none)
  else (lobby, none)

/-- Whether the lobby's entry of the client is this connection's own. Reference:
`is_current_connection` (`connection.rs:1700`). -/
def isCurrentConnection (lobby : LobbyInfo) (cid : String) (sender : ConnId) : Bool :=
  (lobby.clients.lookup cid).any (·.sender == sender)

/-- Reference: cleanup (`connection.rs:1691-1748`). -/
def cleanup (sh : Shared) (sender : ConnId) (session : RegisteredSession) (order : Nat)
    (token : String) : Shared × Option Departure :=
  match sh.lobbies.lookup session.lobbyId with
  | none => (sh, none)
  | some lobby =>
    if isCurrentConnection lobby session.clientId sender then
      let lobby := lobby.remove session.clientId
      if lobby.clients.entries.isEmpty then
        ({ sh with lobbies := sh.lobbies.erase session.lobbyId }.unmap session.clientId
          session.lobbyId, some ⟨session, none, none⟩)
      else
        let (lobby, newHost) := handOver lobby session.clientId order
        let lobby := rotateChatToken lobby token
        ((sh.setLobby session.lobbyId lobby).unmap session.clientId session.lobbyId,
          some ⟨session, some (rotationTargets lobby, lobby.chatToken, lobby.chatTokenEpoch),
            newHost⟩)
    else (sh, none)

end MctierSignaling
