/-!
# Server configuration and protocol limits

The constants of `config.rs` and of `state.rs` that the modelled functions read. Times are
nanoseconds (`secs`), as `Instant` and `Duration` count them, and sizes are bytes.
-/

namespace MctierSignaling

/-- A `Duration::from_secs` in nanoseconds. -/
def secs (n : Nat) : Nat := n * 1000000000

def MAX_LOBBY_MEMBERS : Nat := 64
def MAX_CLIENT_ID_LEN : Nat := 128
def MAX_PLAYER_NAME_LEN : Nat := 128
def MAX_LOBBY_NAME_LEN : Nat := 128
def MAX_LOBBY_PASSWORD_LEN : Nat := 256
def MAX_VIRTUAL_DOMAIN_LEN : Nat := 253
def MAX_CLIENT_VERSION_LEN : Nat := 32
def SIGNALING_PROTOCOL_VERSION : Nat := 3
def CHALLENGE_BYTES : Nat := 32
def MAX_IDENTITY_PUBLIC_KEY_LEN : Nat := 512
def MAX_IDENTITY_SIGNATURE_LEN : Nat := 256
def MAX_SDP_LEN : Nat := 128 * 1024
def MAX_ICE_CANDIDATE_LEN : Nat := 16 * 1024
def MAX_CONTROL_TEXT_LEN : Nat := 8 * 1024
def MAX_MESSAGES_PER_WINDOW : Nat := 120
def MESSAGE_RATE_WINDOW_SECS : Nat := 10
def MAX_OUTBOUND_FRAMES_PER_WINDOW : Nat := 64
def MAX_OUTBOUND_BYTES_PER_WINDOW : Nat := 1024 * 1024
def OUTBOUND_BUDGET_WINDOW_SECS : Nat := 1
def MAX_REMOTE_SESSION_ID_LEN : Nat := 128
def MAX_SHARE_ID_LEN : Nat := 128
def MAX_SHARE_NAME_LEN : Nat := 256
def MAX_ERROR_TEXT_LEN : Nat := 512
def MAX_CHAT_PUBLIC_KEY_LEN : Nat := 512
def MAX_REGISTER_PASSWORD_FAILURES : Nat := 5
def REGISTER_PASSWORD_FAILURE_WINDOW_SECS : Nat := 300
def MAX_REGISTER_PASSWORD_KEYS : Nat := 4096

def COMMUNITY_NODE_NAME_MAX_LEN : Nat := 32
def COMMUNITY_NODE_ADDRESS_MAX_LEN : Nat := 128
def COMMUNITY_NODE_SUBMITTER_MAX_LEN : Nat := 24

/-- The settings of `ServerConfig` that the modelled functions read. -/
structure ServerConfig where
  minimumClientVersion : String
  clientDownloadUrl : String
  communityNodeCapacity : Nat

/-- The defaults of `ServerConfig::from_env` when no variable is set. -/
def ServerConfig.default : ServerConfig where
  minimumClientVersion := "3.8.0"
  clientDownloadUrl := "https://mctier.pmhs.top"
  communityNodeCapacity := 200

end MctierSignaling
