import MctierSignaling.Protocol

/-!
# Community nodes

Addresses of `community_nodes.rs`: the host and port that a node address names, the normalized
address under which a node is registered, and when a node is dropped. `lower` is
`str::to_lowercase`, whose tables are not modelled.
-/

namespace MctierSignaling.CommunityNodes

def COMMUNITY_NODE_MAX_OFFLINE_SECS : Nat := 24 * 60 * 60

/-- `str::split_once`: the text before the first occurrence of a pattern, and after it. -/
def splitOnce (pat : List Char) : List Char → Option (List Char × List Char)
  | [] => none
  | c :: cs =>
    if pat.isPrefixOf (c :: cs) then some ([], (c :: cs).drop pat.length)
    else (splitOnce pat cs).map fun (before, after) => (c :: before, after)

/-- `str::rsplit_once` for one character. -/
def rsplitOnce (c : Char) (s : List Char) : Option (List Char × List Char) :=
  (splitOnce [c] s.reverse).map fun (after, before) => (before.reverse, after.reverse)

/-- `str::parse::<u16>`. -/
def parseU16 (s : List Char) : Option Nat := parseUnsigned (2 ^ 16 - 1) s

/-- `u16::to_string`. -/
def decimal (n : Nat) : List Char := Nat.toDigits 10 n

section
variable (lower : List Char → List Char)

/-- The scheme of an address, in lower case, and what follows it. -/
def splitScheme (address : List Char) : List Char × List Char :=
  match splitOnce "://".toList address with
  | some (scheme, rest) => (lower scheme, rest)
  | none => ([], address)

def defaultPort (scheme : List Char) : Nat :=
  if scheme = "wss".toList ∨ scheme = "https".toList then 443
  else if scheme = "ws".toList ∨ scheme = "http".toList then 80
  else 11010

/-- The host and port of the part before the path. -/
def parseHostPort (hostPort : List Char) (port : Nat) : Option (List Char × Nat) :=
  match hostPort with
  | [] => none
  | '[' :: stripped => do
    let (host, tail) ← splitOnce [']'] stripped
    if host.isEmpty then none
    else match tail with
    | ':' :: p => (parseU16 p).map (host, ·)
    | _ => some (host, port)
  | _ =>
    match rsplitOnce ':' hostPort with
    | none => some (hostPort, port)
    | some (host, portStr) =>
      match parseU16 portStr with
      | none => some (hostPort, port)
      | some p => if host.isEmpty then none else some (host, p)

/-- Reference: `parse_node_host_port` (`community_nodes.rs:45`). -/
def parseNodeHostPort (address : List Char) : Option (List Char × Nat) :=
  let (scheme, rest) := splitScheme lower (trim address)
  parseHostPort (rest.takeWhile (· ≠ '/')) (defaultPort scheme)

/-- The path of an address, if it is more than a slash. -/
def pathOf (rest : List Char) : List Char :=
  match splitOnce ['/'] rest with
  | some (_, []) | none => []
  | some (_, path) => '/' :: path

/-- The normalized text of an endpoint. -/
def endpointText (scheme host : List Char) (port : Nat) (path : List Char) : List Char :=
  let host := lower host
  let host := if ':' ∈ host then '[' :: host ++ [']'] else host
  scheme ++ "://".toList ++ host ++ ':' :: decimal port ++ path

/-- Reference: `normalize_community_node_address` (`community_nodes.rs:88`). -/
def normalizeCommunityNodeAddress (address : String) : Except String String :=
  let trimmed := trim address.toList
  if trimmed.isEmpty then .error "节点地址不能为空"
  else if (String.ofList trimmed).utf8ByteSize > COMMUNITY_NODE_ADDRESS_MAX_LEN then
    .error "节点地址过长"
  else if trimmed.any fun c => isWhitespace c || isControl c then
    .error "节点地址不能包含空白或控制字符"
  else match splitOnce "://".toList trimmed with
  | none => .error "节点地址必须以 tcp:// udp:// ws:// wss:// 开头"
  | some (scheme, rest) =>
    let scheme := lower scheme
    if scheme ∉ ["tcp".toList, "udp".toList, "ws".toList, "wss".toList] then
      .error "节点地址协议不支持，仅支持 tcp:// udp:// ws:// wss://"
    else match parseNodeHostPort lower trimmed with
    | none => .error "节点地址无法解析出主机与端口"
    | some (host, port) =>
      if port = 0 then .error "节点端口无效"
      else .ok (String.ofList (endpointText lower scheme host port (pathOf rest)))

end

/-- Reference: `sanitize_community_text` (`community_nodes.rs:127`). -/
def sanitizeCommunityText (raw : String) (maxLen : Nat) : String :=
  String.ofList (trim (((trim raw.toList).filter (!isControl ·)).take maxLen))

/-- Reference: `ProbeOutcome` (`community_nodes.rs:142`). -/
inductive ProbeOutcome where
  | alive (ms : Nat)
  | dead
  | blocked
  | busy
  deriving DecidableEq

/-- Reference: `is_community_node_expired` (`community_nodes.rs:339`). -/
def isCommunityNodeExpired (node : CommunityNodeInfo) (now : Nat) : Bool :=
  now - node.lastOkAt > COMMUNITY_NODE_MAX_OFFLINE_SECS

end MctierSignaling.CommunityNodes
