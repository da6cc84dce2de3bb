import MctierSignaling.Security
import MctierSignaling.Lib.HashMap

/-!
# Shared lobby state and bounded runtime counters

The shared maps of `state.rs` and the counters around them. A connection is named by a number
(`ConnId`): it has one sender handle and one disconnect channel, which other connections hold
clones of, and `Arc::ptr_eq` of two senders is equality of their connections. Every counter takes
the current time as an argument, where the source reads a clock.
-/

namespace MctierSignaling

/-- A connection, and so its sender handle and its disconnect channel. -/
abbrev ConnId := Nat

/-- A lobby member. Reference: `ClientInfo` (`state.rs:7`). -/
structure ClientInfo where
  playerId : String
  playerName : String
  virtualIp : Option String
  virtualDomain : Option String
  useDomain : Option Bool
  chatPublicKey : Option String
  sessionGeneration : Nat
  sender : ConnId
  disconnect : ConnId
  deriving DecidableEq

/-- Reference: `LobbyInfo` (`state.rs:22`). -/
structure LobbyInfo where
  lobbyName : String
  passwordHash : String
  passwordSalt : String
  clients : HashMap String ClientInfo
  hostId : String
  maxPlayers : Option Nat
  isPublic : Bool
  isPasswordless : Bool
  description : String
  serverNode : String
  muted : HashSet String
  chatToken : String
  chatTokenEpoch : Nat

/-! ## Counters -/

/-- Reference: `OutboundBudget` (`state.rs:84`). -/
structure OutboundBudget where
  windowStarted : Nat
  frames : Nat
  bytes : Nat
  deriving DecidableEq

def OutboundBudget.new (now : Nat) : OutboundBudget := ⟨now, 0, 0⟩

/-- Whether a frame of a size may be sent now, and the counters after the decision. Reference:
`OutboundBudget::allow` (`state.rs:99`). -/
def OutboundBudget.allow (b : OutboundBudget) (now bytes : Nat) : OutboundBudget × Bool :=
  let b := if now - b.windowStarted ≥ secs OUTBOUND_BUDGET_WINDOW_SECS then ⟨now, 0, 0⟩ else b
  if bytes > MAX_OUTBOUND_BYTES_PER_WINDOW ∨ b.frames ≥ MAX_OUTBOUND_FRAMES_PER_WINDOW ∨
      min (b.bytes + bytes) (2 ^ 64 - 1) > MAX_OUTBOUND_BYTES_PER_WINDOW then (b, false)
  else ({ b with frames := b.frames + 1, bytes := b.bytes + bytes }, true)

/-- Reference: `MessageRateLimiter` (`state.rs:130`). -/
structure MessageRateLimiter where
  windowStarted : Nat
  messages : Nat
  deriving DecidableEq

def MessageRateLimiter.new (now : Nat) : MessageRateLimiter := ⟨now, 0⟩

/-- Whether a message may be handled now. Reference: `MessageRateLimiter::allow`
(`state.rs:143`). -/
def MessageRateLimiter.allow (r : MessageRateLimiter) (now : Nat) : MessageRateLimiter × Bool :=
  let r := if now - r.windowStarted ≥ secs MESSAGE_RATE_WINDOW_SECS then ⟨now, 0⟩ else r
  if r.messages ≥ MAX_MESSAGES_PER_WINDOW then (r, false)
  else ({ r with messages := r.messages + 1 }, true)

/-! ## Password failures -/

/-- A source and a lobby. -/
abbrev FailureKey := IpAddr × String

/-- Failed passwords by source and lobby, each with its times, oldest first. Reference:
`RegisterPasswordFailures` (`state.rs:167`). -/
structure RegisterPasswordFailures where
  attempts : HashMap FailureKey (List Nat)

/-- The times of one key that are still in the window, unless there are none. -/
def pruneAttempts (now : Nat) (_ : FailureKey) (attempts : List Nat) : Option (List Nat) :=
  let kept := attempts.dropWhile fun attempt =>
    now - attempt > secs REGISTER_PASSWORD_FAILURE_WINDOW_SECS
  if kept.isEmpty then none else some kept

/-- Reference: `RegisterPasswordFailures::prune` (`state.rs:172`). -/
def RegisterPasswordFailures.prune (f : RegisterPasswordFailures) (now : Nat) :
    RegisterPasswordFailures :=
  ⟨HashMap.retain (pruneAttempts now) f.attempts⟩

/-- Only failures for this source and lobby lock it. Reference:
`RegisterPasswordFailures::is_locked` (`state.rs:186`). -/
def RegisterPasswordFailures.isLocked (f : RegisterPasswordFailures) (key : FailureKey)
    (now : Nat) : RegisterPasswordFailures × Bool :=
  let f := f.prune now
  (f, match f.attempts.lookup key with
    | some attempts => attempts.length ≥ MAX_REGISTER_PASSWORD_FAILURES
    | none => false)

/-- The order of `min_by_key(|(_, attempts)| attempts.back().copied())`: no time comes first. -/
def lastAttempt (attempts : List Nat) : Nat :=
  match attempts.getLast? with
  | some t => t + 1
  | none => 0

/-- A key whose last failure is oldest. The iteration order of the source's hash map, which breaks
ties, is `tie`. -/
def RegisterPasswordFailures.oldest (f : RegisterPasswordFailures) (tie : Nat) :
    Option FailureKey :=
  let candidates := f.attempts.entries.filter fun e =>
    f.attempts.entries.all fun e' => lastAttempt e.2 ≤ lastAttempt e'.2
  (candidates[tie % candidates.length]?).map (·.1)

/-- Records a failure, retiring the least recently failed key when the table is full. Reference:
`RegisterPasswordFailures::record_failure` (`state.rs:194`). -/
def RegisterPasswordFailures.recordFailure (f : RegisterPasswordFailures) (key : FailureKey)
    (now tie : Nat) : RegisterPasswordFailures :=
  let f := f.prune now
  let f := if key ∉ f.attempts ∧ f.attempts.keys.length ≥ MAX_REGISTER_PASSWORD_KEYS then
      match f.oldest tie with
      | some oldest => ⟨f.attempts.erase oldest⟩
      | none => f
    else f
  let attempts := (f.attempts.lookup key).getD []
  if attempts.length < MAX_REGISTER_PASSWORD_FAILURES then
    ⟨f.attempts.insert key (attempts ++ [now])⟩
  else ⟨f.attempts.insert key attempts⟩

/-- Reference: `RegisterPasswordFailures::clear` (`state.rs:214`). -/
def RegisterPasswordFailures.clear (f : RegisterPasswordFailures) (key : FailureKey) :
    RegisterPasswordFailures :=
  ⟨f.attempts.erase key⟩

/-! ## The chat token -/

/-- Replaces the lobby's chat token by a new one. Reference: `rotate_chat_token`
(`state.rs:229`). -/
def rotateChatToken (lobby : LobbyInfo) (token : String) : LobbyInfo :=
  { lobby with
    chatToken := token
    chatTokenEpoch := max (min (lobby.chatTokenEpoch + 1) (2 ^ 64 - 1)) 1 }

section
variable (lobby : LobbyInfo) (token : String)

@[simp] theorem rotateChatToken_clients : (rotateChatToken lobby token).clients = lobby.clients :=
  rfl

@[simp] theorem rotateChatToken_hostId : (rotateChatToken lobby token).hostId = lobby.hostId := rfl

@[simp] theorem rotateChatToken_muted : (rotateChatToken lobby token).muted = lobby.muted := rfl

@[simp] theorem rotateChatToken_chatToken : (rotateChatToken lobby token).chatToken = token := rfl

end

/-! ## The shared state -/

/-- What the connections share: `lobbies` and `client_lobby_map` of `main`, the password failure
table, and the disconnect channel of every connection. -/
structure Shared where
  lobbies : HashMap String LobbyInfo
  clientLobbyMap : HashMap String String
  failures : RegisterPasswordFailures
  disconnect : ConnId → Bool

/-- The state `main` starts with. -/
def Shared.initial : Shared := ⟨∅, ∅, ⟨∅⟩, fun _ => false⟩

/-- `disconnect.send(true)` on a connection's channel. -/
def Shared.signal (sh : Shared) (k : ConnId) : Shared :=
  { sh with disconnect := Function.update sh.disconnect k true }

/-- The member `c` of the lobby `l`. -/
def Shared.member (sh : Shared) (l c : String) : Option ClientInfo :=
  (sh.lobbies.lookup l).bind (·.clients.lookup c)

end MctierSignaling
