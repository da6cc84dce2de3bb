import MctierSignaling.FieldLimits
import MctierSignaling.RegistrationProof

/-!
# What gets through the server

A text that a client sends reaches others in two ways: a handler forwards the message it is in, or a
registration or a host action stores it in a lobby, from where the news, the roster and the list of
public lobbies take it. `Task.Bounded` says of everything a handler may still send that it is within
the limits of `fieldLimit`, and `LobbyInfo.Bounded` of everything that is stored. Every step keeps
both (`FieldsBounded.step`), so no frame to another client, and no stored text, ever exceeds its
limit (`texts_bounded`).
-/

namespace MctierSignaling

/-! ## Drawn and decoded texts -/

def CHAT_TOKEN_BYTES : Nat := 32

/-- Reference: `generate_chat_token` (`security.rs:6`), from the bytes that it draws. -/
def generateChatToken (bytes : Vector UInt8 CHAT_TOKEN_BYTES) : String :=
  String.ofList (hexText bytes.toList)

/-- The digits of base64, and its padding. -/
def base64Alphabet : List Char :=
  "ABCDEFGHIJKLMNOPQRSTUVWXYZabcdefghijklmnopqrstuvwxyz0123456789+/=".toList

/-- `STANDARD.decode` fails on a text with any other character. -/
def Crypto.DecodesBase64 (H : Crypto) : Prop :=
  ∀ text bytes, H.base64Decode text = some bytes → ∀ c ∈ text.toList, c ∈ base64Alphabet

section
variable {H : Crypto} {cfg : ServerConfig} {lines : Bool}

/-- A hexadecimal text is printable. -/
theorem hexText_allows {bytes : List UInt8} {maxLen : Nat} (hlen : bytes.length * 2 ≤ maxLen) :
    TextLimit.Allows ⟨maxLen, true, lines⟩ (String.ofList (hexText bytes)) := by
  refine .of_printable ((length_hexText bytes).trans_le hlen) fun c hc => ?_
  have hdigits : "0123456789abcdef".toList.all (fun c => 32 ≤ c.toNat ∧ c.toNat < 127) = true := by
    decide
  have hall c (hc : c ∈ "0123456789abcdef".toList) : 32 ≤ c.toNat ∧ c.toNat < 127 :=
    of_decide_eq_true (List.all_eq_true.mp hdigits c hc)
  rw [hexText, List.mem_flatMap] at hc
  obtain ⟨b, -, hc⟩ := hc
  have hb := b.toNat_lt
  simp only [List.mem_cons, List.not_mem_nil, or_false] at hc
  rcases hc with rfl | rfl
  · exact hall _ (hexDigit_mem (by omega))
  · exact hall _ (hexDigit_mem (by omega))

theorem generateChatToken_allows {bytes : Vector UInt8 CHAT_TOKEN_BYTES} :
    (fieldLimit "chatToken").Allows (generateChatToken bytes) :=
  hexText_allows (by rw [Vector.length_toList]; decide)

theorem generateLobbyId_allows {lobbyName : String} :
    (fieldLimit "lobbyId").Allows (generateLobbyId H lobbyName) :=
  hexText_allows (by rw [Vector.length_toList]; decide)

/-- The text of an address is short and printable. -/
theorem Ipv4Addr.toString_allows {ip : Ipv4Addr} :
    (fieldLimit "virtualIp").Allows ip.toString := by
  have hoctet : ∀ o : UInt8, (octetText o).length ≤ 3 ∧
      ∀ c ∈ octetText o, 32 ≤ c.toNat ∧ c.toNat < 127 := by
    intro o
    have h : ∀ n : Fin 256, (octetText (UInt8.ofNat n.1)).length ≤ 3 ∧
        (octetText (UInt8.ofNat n.1)).all (fun c => 32 ≤ c.toNat ∧ c.toNat < 127) = true := by
      decide +kernel
    have ho := h ⟨o.toNat, o.toNat_lt⟩
    rw [UInt8.ofNat_toNat] at ho
    exact ⟨ho.1, fun c hc => of_decide_eq_true (List.all_eq_true.mp ho.2 c hc)⟩
  obtain ⟨hlen₀, hchars₀⟩ := hoctet ip.o0
  obtain ⟨hlen₁, hchars₁⟩ := hoctet ip.o1
  obtain ⟨hlen₂, hchars₂⟩ := hoctet ip.o2
  obtain ⟨hlen₃, hchars₃⟩ := hoctet ip.o3
  have hdot : 32 ≤ '.'.toNat ∧ '.'.toNat < 127 := by decide
  refine .of_printable ?_ fun c hc => ?_
  · simp only [Ipv4Addr.text, List.length_append, List.length_cons]
    omega
  · simp only [Ipv4Addr.text, List.mem_append, List.mem_cons] at hc
    rcases hc with hc | rfl | hc | rfl | hc | rfl | hc
    · exact hchars₀ c hc
    · exact hdot
    · exact hchars₁ c hc
    · exact hdot
    · exact hchars₂ c hc
    · exact hdot
    · exact hchars₃ c hc

/-- A normalized key is short, and printable as the base64 text that it is. -/
theorem normalizeChatPublicKey_allows {raw : Option String} (hdecode : H.DecodesBase64) :
    ∀ key ∈ normalizeChatPublicKey H raw, (fieldLimit "chatPublicKey").Allows key := by
  intro key hkey
  obtain ⟨text, -, hkey⟩ := Option.bind_eq_some_iff.mp hkey
  dsimp only at hkey
  split at hkey
  · next hvalid =>
    cases hkey
    simp only [validChatPublicKey, Bool.and_eq_true, decide_eq_true_eq] at hvalid
    obtain ⟨⟨-, hsize⟩, hder⟩ := hvalid
    refine ⟨hsize.trans (by decide), nofun, fun c hc hcontrol => ?_⟩
    obtain ⟨der, hdecoded, -⟩ := (Option.any_eq_true _ _).mp hder
    have hall : base64Alphabet.all (!isControl ·) = true := by decide
    have hplain := List.all_eq_true.mp hall c (hdecode _ _ hdecoded c hc)
    rw [hcontrol] at hplain
    cases hplain
  · cases hkey

/-! ## What is stored -/

/-- Every text that the roster shows of a member is within its limit. -/
def ClientInfo.Bounded (info : ClientInfo) : Prop := Within (info.player.toJson.texts "")

/-- The texts of a stored lobby are within their limits, and so are the ids of its members and what
the roster shows of them. -/
structure LobbyInfo.Bounded (lobby : LobbyInfo) : Prop where
  lobbyName : TextLimit.Allows ⟨128, true, false⟩ lobby.lobbyName
  description : TextLimit.Allows ⟨200, true, false⟩ lobby.description
  serverNode : TextLimit.Allows ⟨256, true, false⟩ lobby.serverNode
  chatToken : (fieldLimit "chatToken").Allows lobby.chatToken
  members : ∀ c info, lobby.clients.lookup c = some info →
    (fieldLimit "playerId").Allows c ∧ info.Bounded

/-- The ids of a session are within their limits. -/
structure RegisteredSession.Bounded (session : RegisteredSession) : Prop where
  clientId : (fieldLimit "playerId").Allows session.clientId
  lobbyId : (fieldLimit "lobbyId").Allows session.lobbyId

/-- What a registration would store is within its limits. -/
structure Admission.Bounded (a : Admission H cfg) : Prop where
  lobbyName : TextLimit.Allows ⟨128, true, false⟩ a.request.lobbyName
  cid : (fieldLimit "playerId").Allows a.cid
  client : ∀ generation, (a.clientInfo generation).Bounded

/-- What a host action stores unchecked, or names in its news, is within its limits. -/
def HostAction.Bounded : HostAction → Prop
  | .kickPlayer target | .mutePlayer target _ | .transferHost target =>
    (fieldLimit "playerId").Allows target
  | .setLobbyOptions _ _ _ serverNode =>
    ∀ text ∈ serverNode, TextLimit.Allows ⟨256, true, false⟩ text

theorem ClientInfo.bounded_iff {info : ClientInfo} : info.Bounded ↔
    (fieldLimit "playerId").Allows info.playerId ∧
      (fieldLimit "playerName").Allows info.playerName ∧
      (∀ text ∈ info.virtualIp, (fieldLimit "virtualIp").Allows text) ∧
      (∀ text ∈ info.virtualDomain, (fieldLimit "virtualDomain").Allows text) ∧
      ∀ text ∈ info.chatPublicKey, (fieldLimit "chatPublicKey").Allows text := by
  simp only [ClientInfo.Bounded, ClientInfo.player, PlayerInfo.toJson, Json.texts, Json.fieldTexts,
    fieldTexts_append, within_append, within_cons, within_nil, within_optField,
    optField_bool_texts, Json.nat, and_true, and_assoc]

theorem applyOptions_bounded {lobby : LobbyInfo} {maxPlayers : Option Nat} {isPublic : Option Bool}
    {description serverNode : Option String} (h : lobby.Bounded)
    (haction : (HostAction.setLobbyOptions maxPlayers isPublic description serverNode).Bounded) :
    (applyOptions lobby maxPlayers isPublic description serverNode).Bounded where
  lobbyName := h.lobbyName
  description := by
    cases description with
    | none => exact h.description
    | some description =>
      simp only [applyOptions]
      split
      · next hvalid => exact validText_iff.mp hvalid
      · exact h.description
  serverNode := by
    cases serverNode with
    | none => exact h.serverNode
    | some serverNode =>
      simp only [applyOptions]
      split
      -- the check of this section has a larger limit than the one of the message
      · exact haction serverNode rfl
      · exact h.serverNode
  chatToken := h.chatToken
  members := h.members

/-- A host action keeps the lobby within its limits. -/
theorem LobbyInfo.Bounded.moderated {token : String} {lobby lobby' : LobbyInfo}
    {action : HostAction} {notice : HostNotice} (h : lobby.Bounded)
    (he : HostEffect token lobby action lobby' notice) (haction : action.Bounded)
    (htoken : ∀ drawn ∈ notice.drawn, (fieldLimit "chatToken").Allows drawn) : lobby'.Bounded := by
  cases he with
  | kicked => exact {
      lobbyName := h.lobbyName
      description := h.description
      serverNode := h.serverNode
      chatToken := htoken _ List.mem_cons_self
      members := fun c info hc => h.members c info (HashMap.lookup_of_erase hc) }
  | options => exact applyOptions_bounded h haction
  | muted | unmuted | transferred =>
    exact ⟨h.lobbyName, h.description, h.serverNode, h.chatToken, h.members⟩

/-- The lobby that a member leaves stays within its limits. -/
theorem LobbyInfo.Bounded.left {token cid : String} {lobby lobby' : LobbyInfo}
    {newHost : Option String} (h : lobby.Bounded)
    (hover : HandsOver (lobby.remove cid) cid lobby' newHost)
    (htoken : (fieldLimit "chatToken").Allows token) :
    (rotateChatToken lobby' token).Bounded := by
  have hmembers : ∀ c info, (lobby.remove cid).clients.lookup c = some info →
      (fieldLimit "playerId").Allows c ∧ info.Bounded :=
    fun c info hc => h.members c info (HashMap.lookup_of_erase hc)
  cases hover with
  | keeps | passes => exact ⟨h.lobbyName, h.description, h.serverNode, htoken, hmembers⟩

/-- A member that registers keeps the lobby within its limits. -/
theorem LobbyInfo.Bounded.enter {a : Admission H cfg} {lobby : LobbyInfo} {d : Draws}
    (h : lobby.Bounded) (ha : a.Bounded) (htoken : (fieldLimit "chatToken").Allows d.token) :
    (a.enter lobby d).Bounded := by
  have hmembers : ∀ c info, (a.enter lobby d).clients.lookup c = some info →
      (fieldLimit "playerId").Allows c ∧ info.Bounded := by
    intro c info hc
    rw [Admission.enter_clients, HashMap.lookup_insert_ite] at hc
    split at hc
    · next hcid =>
      cases hc
      exact ⟨hcid ▸ ha.cid, ha.client d.generation⟩
    · exact h.members c info hc
  have hkept : (a.enter lobby d).lobbyName = lobby.lobbyName ∧
      (a.enter lobby d).description = lobby.description ∧
      (a.enter lobby d).serverNode = lobby.serverNode ∧
      ((a.enter lobby d).chatToken = lobby.chatToken ∨
        (a.enter lobby d).chatToken = d.token) := by
    unfold Admission.enter
    dsimp only
    split
    · exact ⟨rfl, rfl, rfl, .inl rfl⟩
    · exact ⟨rfl, rfl, rfl, .inr rfl⟩
  obtain ⟨hname, hdescription, hnode, hchatToken⟩ := hkept
  refine ⟨hname ▸ h.lobbyName, hdescription ▸ h.description, hnode ▸ h.serverNode, ?_, hmembers⟩
  rcases hchatToken with heq | heq
  · exact heq ▸ h.chatToken
  · exact heq ▸ htoken

/-- The lobby that a registration finds or creates is within its limits. -/
theorem Admission.Bounded.entered {a : Admission H cfg} {sh : Shared} {d : Draws}
    (ha : a.Bounded) (htoken : (fieldLimit "chatToken").Allows d.token)
    (h : ∀ l lobby, sh.lobbies.lookup l = some lobby → lobby.Bounded) :
    (a.entered sh d).Bounded := by
  unfold Admission.entered
  cases hl : sh.lobbies.lookup a.lobbyId with
  | some lobby => exact h _ _ hl
  | none =>
    have hempty : ∀ maxLen, TextLimit.Allows ⟨maxLen, true, false⟩ "" := fun maxLen =>
      ⟨Nat.zero_le _, nofun, fun c hc => nomatch hc⟩
    exact ⟨ha.lobbyName, hempty 200, hempty 256, htoken, fun c info hc => nomatch hc⟩

/-! ## The messages of the server -/

section
variable {cid lobbyId chatToken : String}

theorem playerLeft_bounded {generation : Nat} (h : (fieldLimit "playerId").Allows cid) :
    (SignalingMessage.playerLeft cid generation).Bounded := by
  refine .of_fields rfl (by decide +kernel) ?_ (Nat.zero_le _)
  simpa [SignalingMessage.fields, Json.texts, Json.fieldTexts, Json.nat] using h

theorem playerMuteChanged_bounded {muted : Bool} (h : (fieldLimit "playerId").Allows cid) :
    (SignalingMessage.playerMuteChanged cid muted).Bounded := by
  refine .of_fields rfl (by decide +kernel) ?_ (Nat.zero_le _)
  simpa [SignalingMessage.fields, Json.texts, Json.fieldTexts] using h

theorem hostChanged_bounded (h : (fieldLimit "hostId").Allows cid) :
    (SignalingMessage.hostChanged cid).Bounded := by
  refine .of_fields rfl (by decide +kernel) ?_ (Nat.zero_le _)
  simpa [SignalingMessage.fields, Json.texts, Json.fieldTexts] using h

theorem lobbyOptionsChanged_bounded {maxPlayers : Option Nat} {isPublic : Bool} :
    (SignalingMessage.lobbyOptionsChanged maxPlayers isPublic).Bounded := by
  refine .of_fields rfl (by decide +kernel) ?_ (Nat.zero_le _)
  simp [SignalingMessage.fields, Json.texts, Json.fieldTexts]

theorem chatTokenRotated_bounded {epoch : Nat} (hlobby : (fieldLimit "lobbyId").Allows lobbyId)
    (htoken : (fieldLimit "chatToken").Allows chatToken) :
    (SignalingMessage.chatTokenRotated lobbyId chatToken epoch).Bounded := by
  refine .of_fields rfl (by decide +kernel) ?_ (Nat.zero_le _)
  simp [SignalingMessage.fields, Json.texts, Json.fieldTexts, Json.nat, hlobby, htoken]

/-- The news of a kick. -/
theorem kicked_bounded : (SignalingMessage.kicked "你已被房主移出大厅").Bounded := by
  refine .of_fields rfl (by decide +kernel) ?_ (Nat.zero_le _)
  have hvalid : validText "你已被房主移出大厅" 512 true = true := by decide +kernel
  have hreason : (fieldLimit "reason").Allows "你已被房主移出大厅" := validText_iff.mp hvalid
  simpa [SignalingMessage.fields, Json.texts, Json.fieldTexts] using hreason

/-- The news of a member shows what the roster shows of it. -/
theorem joined_bounded {commit : Commit H cfg}
    (hcid : commit.session.clientId = commit.admission.cid) (h : commit.admission.Bounded) :
    commit.joined.Bounded := by
  obtain ⟨hid, hname, hip, hdomain, hkey⟩ :=
    ClientInfo.bounded_iff.mp (h.client commit.session.generation)
  refine .of_fields rfl (by decide +kernel) ?_ (Nat.zero_le _)
  simp only [Commit.joined, SignalingMessage.fields, List.nil_append, List.cons_append,
    List.tail_cons, Json.texts, Json.fieldTexts, fieldTexts_append, Json.nat, optField_bool_texts,
    within_append, within_cons, within_nil, within_optField, and_true, hcid]
  exact ⟨hid, hname, ⟨hip, hdomain⟩, hkey⟩

end

/-! ## What a handler holds -/

/-- A forwarded message is within its limits, an offer with any allowed name. -/
def Forward.Bounded (from_ : String) : Forward → Prop
  | .direct _ message | .broadcast message => message.Bounded
  | .offer to_ data => ∀ playerName : Option String,
    (∀ text ∈ playerName, (fieldLimit "playerName").Allows text) →
      (SignalingMessage.offer from_ to_ data playerName).Bounded

/-- What an operation sends to other connections is within its limits. -/
def Op.Bounded (k : ConnId) : Op → Prop
  | .jobs js => ∀ d, Job.send d ∈ js → d.to_ = k ∨ d.frame.Bounded
  | .sendTo _ _ message | .broadcast _ _ message => message.Bounded
  | .rotation _ lobbyId chatToken chatTokenEpoch =>
    (SignalingMessage.chatTokenRotated lobbyId chatToken chatTokenEpoch).Bounded
  | .roster .. | .publicList | .communityList | .communitySubmit .. => True

/-- The news of a commit is within its limits. -/
structure Commit.Bounded (commit : Commit H cfg) : Prop where
  joined : commit.joined.Bounded
  rotated : (SignalingMessage.chatTokenRotated commit.session.lobbyId commit.chatToken
    commit.chatTokenEpoch).Bounded

/-- What a handler may still send to other connections, or store, is within its limits. -/
def Task.Bounded (k : ConnId) : Task H cfg → Prop
  | .lookup from_ forward => forward.Bounded from_
  | .offerName _ from_ to_ data => (Forward.offer to_ data).Bounded from_
  | .mapped action | .hostAction action => action.Bounded
  | .registration a => a.Bounded
  | .committed commit | .confirmed commit => commit.Bounded
  | .ops pending _ => ∀ op ∈ pending, op.Bounded k
  | .absent | .idle | .current _ | .cleanup | .returned => True

variable {k : ConnId} {conn : Conn H cfg} {message : SignalingMessage} {s s' : Sys H cfg}
  {env : Env}

theorem Op.reply_bounded {message : SignalingMessage} : (Op.reply k message).Bounded k := by
  intro d hd
  cases List.mem_singleton.mp hd
  exact .inl rfl

/-- A single operation is all that a handler holds. -/
theorem Task.bounded_single {op : Op} {next : Next} (h : op.Bounded k) :
    (Task.ops [op] next : Task H cfg).Bounded k := by
  intro op' hop
  cases List.mem_singleton.mp hop
  exact h

theorem refused_bounded : (refused k : Task H cfg).Bounded k := by
  refine Task.bounded_single fun d hd => ?_
  cases List.mem_singleton.mp hd
  exact .inl rfl

theorem Op.Asks.bounded {op : Op} (h : op.Asks) : op.Bounded k := by
  cases op <;> trivial

/-! ## Messages -/

/-- What the checks admit is within its limits. -/
theorem handleV3Checks_bounded {ctx : RegistrationContext} {req : RegistrationRequest}
    {a : Admission H cfg} (hdecode : H.DecodesBase64)
    (h : handleV3Checks H cfg ctx req = .ok a) : a.Bounded := by
  obtain ⟨key, domain, -, hvalid, hdomain, hkey, -⟩ := handleV3Checks_spec h
  obtain ⟨-, rfl⟩ := handleV3Checks_ok h
  simp only [validFields, Bool.and_eq_true] at hvalid
  obtain ⟨⟨⟨⟨hcid, hname⟩, hlobby⟩, -⟩, hvirtual⟩ := hvalid
  have hid : (fieldLimit "playerId").Allows a.cid := .of_valid hcid le_rfl fun _ => rfl
  have hplayerName : (fieldLimit "playerName").Allows a.request.playerName :=
    .of_valid hname le_rfl fun _ => rfl
  refine ⟨.of_valid hlobby le_rfl fun _ => rfl, hid, fun generation => ?_⟩
  refine ClientInfo.bounded_iff.mpr ⟨hid, hplayerName, ?_, ?_, ?_⟩
  · intro text htext
    cases htext
    exact Ipv4Addr.toString_allows
  · intro text htext
    rw [Admission.clientInfo, hdomain] at htext
    cases htext
    exact .of_valid hvirtual (by decide) id
  · rw [Admission.clientInfo, hkey]
    exact normalizeChatPublicKey_allows hdecode

/-- A message that goes to its registration was admitted. -/
theorem handleMessage_admission {a : Admission H cfg}
    (h : handleMessage k conn message = .registration a) :
    ∃ req, handleV3Checks H cfg (conn.context k) req = .ok a := by
  unfold handleMessage at h
  split at h
  · cases h
  split at h
  · cases h
  split at h
  · unfold handleModerationMessage at h
    split at h
    · cases h
    · split at h <;> cases h
  split at h
  · unfold Routed.start at h
    split at h
    · cases h
    · split at h <;> cases h
  unfold dispatch at h
  split at h
  case h_2 =>
    split at h
    · next ha =>
      cases h
      exact ⟨_, ha⟩
    · cases h
  case h_4 | h_5 => split at h <;> cases h
  all_goals cases h

/-- A host action of a message that passes the check of its fields is within its limits. -/
theorem hostAction_bounded {from_ : String} {action : HostAction}
    (hshape : validateMessageShape message = true)
    (h : message.hostAction = some (from_, action)) : action.Bounded := by
  cases message <;> cases h <;>
    simp only [validateMessageShape, validIdentifier, Bool.and_eq_true] at hshape
  case kickPlayer | mutePlayer | transferHost => exact .of_valid hshape.2 le_rfl fun _ => rfl
  case setLobbyOptions => exact .of_optional hshape.2 (by decide)

/-- What a forwarding arm makes of a message that passes the check of its fields is within its
limits. -/
theorem routed_bounded {r : Routed} (hshape : validateMessageShape message = true)
    (h : message.routed = some r) : r.forward.Bounded r.from_ := by
  have hspec := routed_spec h
  obtain ⟨sender, recheck, forward⟩ := r
  cases forward with
  | direct to_ forwarded =>
    obtain ⟨rfl, hto, -⟩ := hspec
    refine forwarded_bounded hshape (.inl (hto ▸ rfl)) ?_
    rintro _ _ _ _ rfl
    cases h
  | broadcast forwarded =>
    obtain ⟨rfl, -, hbroadcast, -⟩ := hspec
    refine forwarded_bounded hshape (.inr hbroadcast) ?_
    rintro _ _ _ _ rfl
    cases h
  | offer to_ data =>
    obtain ⟨_, rfl⟩ := hspec
    exact fun playerName hname => offer_bounded hshape hname

/-- **What a handler holds of a message is within its limits.** -/
theorem handleInbound_bounded {inbound : Inbound} (hdecode : H.DecodesBase64) :
    (handleInbound k conn inbound).Bounded k := by
  have hcases : Handled k conn inbound (handleInbound k conn inbound) := handleInbound_cases
  cases inbound with
  | close | other => trivial
  | text parsed =>
    cases parsed with
    | error unknown => exact Task.bounded_single Op.reply_bounded
    | ok message =>
      by_cases hshape : validateMessageShape message = true
      · generalize htask : handleInbound k conn (.text (.ok message)) = task at hcases ⊢
        cases hcases with
        | ignored | ended => trivial
        | answered => exact Task.bounded_single Op.reply_bounded
        | registeredAlready => exact fun op hop => absurd hop List.not_mem_nil
        | registers =>
          obtain ⟨req, ha⟩ := handleMessage_admission htask
          exact handleV3Checks_bounded hdecode ha
        | moderates _ haction => exact hostAction_bounded hshape haction
        | forwards _ hr => exact routed_bounded hshape hr
        | reconnects => exact Task.bounded_single (forwarded_bounded hshape (.inl rfl) nofun)
        | asks hasks => exact Task.bounded_single hasks.bounded
      · have hrefused : handleInbound k conn (.text (.ok message)) =
            .ops [.reply k (.registerError "信令字段无效或超出长度限制")] .cleanup := by
          simp [handleInbound, handleMessage, hshape]
        rw [hrefused]
        exact Task.bounded_single Op.reply_bounded

/-! ## Notifications -/

/-- The news after a registration is within its limits. -/
theorem Commit.notifications_bounded {commit : Commit H cfg} (h : commit.Bounded) :
    ∀ op ∈ commit.notifications k, op.Bounded k := by
  intro op hop
  unfold Commit.notifications at hop
  simp only [List.mem_append, List.mem_cons, List.not_mem_nil, or_false] at hop
  rcases hop with ((rfl | rfl) | hop) | rfl
  · exact Op.reply_bounded
  · trivial
  · split at hop
    · cases hop
    · cases List.mem_singleton.mp hop
      exact h.rotated
  · exact h.joined

/-- The news after a host action is within its limits. -/
theorem HostNotice.notifications_bounded {token lobbyId : String} {lobby lobby' : LobbyInfo}
    {action : HostAction} {notice : HostNotice} (he : HostEffect token lobby action lobby' notice)
    (haction : action.Bounded) (hlobbyId : (fieldLimit "lobbyId").Allows lobbyId)
    (htoken : ∀ drawn ∈ notice.drawn, (fieldLimit "chatToken").Allows drawn) :
    ∀ op ∈ notice.notifications lobbyId, op.Bounded k := by
  intro op hop
  cases he with
  | @kicked target removed =>
    have hjobs : ∀ d : Delivery, d.frame.Bounded → (Op.jobs [.send d]).Bounded k := by
      intro d hd d' hmem
      cases List.mem_singleton.mp hmem
      exact .inr hd
    simp only [HostNotice.notifications, List.mem_cons, List.not_mem_nil, or_false] at hop
    rcases hop with rfl | rfl | rfl | rfl | rfl
    · intro d hd
      cases List.mem_singleton.mp hd
    · exact hjobs _ (Frame.bounded kicked_bounded fun _ _ h => by cases h)
    · exact hjobs _ ⟨within_nil, Nat.zero_le _⟩
    · exact playerLeft_bounded haction
    · exact chatTokenRotated_bounded hlobbyId (htoken _ List.mem_cons_self)
  | muted | unmuted =>
    cases List.mem_singleton.mp hop
    exact playerMuteChanged_bounded haction
  | transferred =>
    simp only [HostNotice.notifications, List.mem_cons, List.not_mem_nil, or_false] at hop
    rcases hop with rfl | rfl
    · exact playerMuteChanged_bounded haction
    · exact hostChanged_bounded haction
  | options =>
    cases List.mem_singleton.mp hop
    exact lobbyOptionsChanged_bounded

/-- The news after a departure is within its limits. -/
theorem Departure.notifications_bounded {departure : Departure}
    (hsession : departure.session.Bounded)
    (htoken : ∀ drawn ∈ departure.drawn, (fieldLimit "chatToken").Allows drawn)
    (hhost : ∀ hostId ∈ departure.newHost, (fieldLimit "playerId").Allows hostId) :
    ∀ op ∈ departure.notifications, op.Bounded k := by
  intro op hop
  obtain ⟨session, rotation, newHost⟩ := departure
  simp only [Departure.notifications, List.mem_append, List.mem_singleton] at hop
  rcases hop with (rfl | hop) | hop
  · exact playerLeft_bounded hsession.clientId
  · cases rotation with
    | none => cases hop
    | some rotation =>
      cases List.mem_singleton.mp hop
      exact chatTokenRotated_bounded hsession.lobbyId (htoken _ List.mem_cons_self)
  · cases newHost with
    | none => cases hop
    | some hostId =>
      simp only [List.mem_cons, List.not_mem_nil, or_false] at hop
      rcases hop with rfl | rfl
      · exact playerMuteChanged_bounded (hhost hostId rfl)
      · exact hostChanged_bounded (hhost hostId rfl)

/-! ## Steps -/

/-- The frames of a snapshot to other connections are within their limits. -/
theorem Op.start_bounded {op : Op} {sh : Shared} (h : op.Bounded k) :
    (Op.jobs (op.start sh k env)).Bounded k := by
  intro d hd
  cases op with
  | jobs => exact h d hd
  | sendTo lobbyId clientId message =>
    obtain ⟨d', hd', heq⟩ := List.mem_map.mp hd
    cases heq
    obtain ⟨lobby, target, -, -, rfl⟩ := mem_sendToLobbyClient hd'
    exact .inr (Frame.bounded h fun _ _ hstamp => (stampIn_eq_some hstamp).1)
  | broadcast lobbyId excludeId message =>
    obtain ⟨d', hd', heq⟩ := List.mem_map.mp hd
    cases heq
    obtain ⟨lobby, id, target, -, -, -, rfl⟩ := mem_broadcastToLobby hd'
    exact .inr (Frame.bounded h fun _ _ hstamp => (stampIn_eq_some hstamp).1)
  | rotation targets lobbyId chatToken chatTokenEpoch =>
    obtain ⟨d', hd', heq⟩ := List.mem_map.mp hd
    cases heq
    obtain ⟨lobby, id, client, -, -, -, -, -, rfl⟩ := mem_sendChatTokenRotation hd'
    exact .inr (Frame.bounded h nofun)
  | roster | publicList | communityList | communitySubmit =>
    cases List.mem_singleton.mp hd
    exact .inl rfl

/-- What is stored, and what a handler may still send or did send to another connection, is within
its limits. -/
structure FieldsBounded (s : Sys H cfg) : Prop where
  task : ∀ k, (s.conns k).task.Bounded k
  session : ∀ k session, (s.conns k).session = some session → session.Bounded
  lobby : ∀ l lobby, s.shared.lobbies.lookup l = some lobby → lobby.Bounded
  log : ∀ e ∈ s.log, e.delivery.to_ = e.by_ ∨ e.delivery.frame.Bounded

/-- A read keeps what a handler holds within its limits. -/
theorem Read.bounded {task task' : Task H cfg} (hinv : FieldsBounded s) (hdecode : H.DecodesBase64)
    (h : Read s k env task task') (htask : task.Bounded k) : task'.Bounded k := by
  cases h with
  | stale => exact refused_bounded
  | current => exact handleInbound_bounded hdecode
  | unmapped | flagged | superseded => trivial
  | @found _ _ forward =>
    cases forward with
    | direct | broadcast => exact Task.bounded_single htask
    | offer => exact htask
  | @named lobbyId from_ to_ data =>
    refine Task.bounded_single (htask _ fun text htext => ?_)
    obtain ⟨info, hinfo, rfl⟩ := Option.map_eq_some_iff.mp htext
    obtain ⟨lobby, hl, hc⟩ := Shared.member_eq_some.mp hinfo
    exact (ClientInfo.bounded_iff.mp ((hinv.lobby _ _ hl).members _ _ hc).2).2.1
  | elsewhere _ hend => rcases hend with rfl | rfl <;> trivial
  | mapped => exact htask
  | unflagged => exact htask
  | confirmed => exact Commit.notifications_bounded htask
  | @finished next => cases next <;> trivial
  | ran => exact fun op hop => htask op (List.mem_cons_of_mem _ hop)
  | started =>
    intro op hop
    rcases List.mem_cons.mp hop with rfl | hop
    · exact Op.start_bounded (htask _ List.mem_cons_self)
    · exact htask op (List.mem_cons_of_mem _ hop)

/-- A step that moves one handler keeps the invariant if what it leaves there does. -/
theorem FieldsBounded.of_actor (hinv : FieldsBounded s)
    (hu : ∀ k', k' ≠ k → Untouched (s.conns k') (s'.conns k'))
    (htask : (s'.conns k).task.Bounded k)
    (hsession : ∀ session, (s'.conns k).session = some session → session.Bounded)
    (hlobby : ∀ l lobby, s'.shared.lobbies.lookup l = some lobby → lobby.Bounded)
    (hlog : ∀ e ∈ s'.log, e.delivery.to_ = e.by_ ∨ e.delivery.frame.Bounded) :
    FieldsBounded s' where
  task k' := by
    by_cases hk : k' = k
    · exact hk ▸ htask
    · exact (hu k' hk).task ▸ hinv.task k'
  session k' session hs := by
    by_cases hk : k' = k
    · subst hk
      exact hsession session hs
    · exact hinv.session k' session ((hu k' hk).session ▸ hs)
  lobby := hlobby
  log := hlog

/-- Every token that was drawn is a text of random bytes. -/
def TokensDrawn (s : Sys H cfg) : Prop :=
  ∀ token ∈ s.issued, ∃ bytes, token = generateChatToken bytes

theorem TokensDrawn.allows {token : String} (h : TokensDrawn s) (hmem : token ∈ s.issued) :
    (fieldLimit "chatToken").Allows token := by
  obtain ⟨bytes, rfl⟩ := h token hmem
  exact generateChatToken_allows

/-- The lobbies after a departure are within their limits, and so is its news. -/
theorem Departs.bounded {sh sh' : Shared} {session : RegisteredSession} {token : String}
    {lobby : LobbyInfo} {departure : Departure} (h : Departs sh session token lobby sh' departure)
    (hsession : session.Bounded)
    (htoken : ∀ drawn ∈ departure.drawn, (fieldLimit "chatToken").Allows drawn)
    (hl : sh.lobbies.lookup session.lobbyId = some lobby)
    (hall : ∀ l lobby, sh.lobbies.lookup l = some lobby → lobby.Bounded) :
    (∀ l lobby, sh'.lobbies.lookup l = some lobby → lobby.Bounded) ∧
      ∀ op ∈ departure.notifications, op.Bounded k := by
  have hbounded := hall _ _ hl
  constructor
  · intro l lobby₁ hl₁
    obtain ⟨-, hl₁⟩ | ⟨-, _, _, hover, rfl, rfl⟩ := h.lookup hl₁
    · exact hall l lobby₁ hl₁
    · exact hbounded.left hover (htoken _ List.mem_cons_self)
  · cases h with
    | last => exact Departure.notifications_bounded hsession htoken nofun
    | leaves _ hover =>
      refine Departure.notifications_bounded hsession htoken fun hostId hhost => ?_
      cases hover with
      | keeps => cases hhost
      | passes _ hmem =>
        cases hhost
        obtain ⟨info, hinfo⟩ := HashMap.mem_keys.mp (AList.mem_keys.mp hmem)
        exact (hbounded.members _ info (HashMap.lookup_of_erase hinfo)).1

/-- What a registration commits is within its limits, and so is its news. -/
theorem Registers.bounded {a : Admission H cfg} {sh sh' : Shared} {now : Nat} {d : Draws}
    {commit : Commit H cfg} (h : Registers sh a now d sh' commit) (ha : a.Bounded)
    (htoken : (fieldLimit "chatToken").Allows d.token)
    (hall : ∀ l lobby, sh.lobbies.lookup l = some lobby → lobby.Bounded) :
    (∀ l lobby, sh'.lobbies.lookup l = some lobby → lobby.Bounded) ∧
      commit.session.Bounded ∧ commit.Bounded := by
  obtain rfl := h.commit_eq
  have hentered : (a.enter (a.entered sh d) d).Bounded :=
    (ha.entered htoken hall).enter ha htoken
  have hlobbyId : (fieldLimit "lobbyId").Allows a.lobbyId := generateLobbyId_allows
  refine ⟨fun l lobby hl => ?_, ⟨ha.cid, hlobbyId⟩,
    ⟨joined_bounded rfl ha, chatTokenRotated_bounded hlobbyId hentered.chatToken⟩⟩
  rw [h.lookup] at hl
  split at hl
  · cases hl
    exact hentered
  · exact hall l lobby hl

/-- A step of a handler keeps everything within its limits. -/
theorem FieldsBounded.exec (hinv : FieldsBounded s) (hdecode : H.DecodesBase64)
    (h : Exec s k env s') (htokens : TokensDrawn s') : FieldsBounded s' := by
  have hu := fun k' (hk : k' ≠ k) => h.untouched hk
  have hsession := hinv.session k
  cases h with
  | read hread =>
    refine hinv.of_actor hu ?_ ?_ hinv.lobby hinv.log <;> rw [Sys.setTask_self]
    · exact hread.bounded hinv hdecode (hinv.task k)
    · exact hsession
  | rejected =>
    refine hinv.of_actor hu ?_ ?_ hinv.lobby hinv.log <;> rw [Sys.setTask_self]
    · exact Task.bounded_single Op.reply_bounded
    · exact hsession
  | @committed a sh commit ht hreg =>
    have ha := hinv.task k
    rw [ht] at ha
    have htoken : (fieldLimit "chatToken").Allows env.draws.token :=
      htokens.allows List.mem_cons_self
    obtain ⟨hlobby, hcommitted, hcommit⟩ := hreg.bounded ha htoken hinv.lobby
    refine hinv.of_actor hu ?_ ?_ hlobby hinv.log <;> dsimp only <;> rw [Sys.setConn_self]
    · exact hcommit
    · rintro _ ⟨⟩
      exact hcommitted
  | hostRefused ht hend =>
    refine hinv.of_actor hu ?_ ?_ hinv.lobby hinv.log <;> rw [Sys.setTask_self]
    · rcases hend with rfl | rfl <;> trivial
    · exact hsession
  | @hostActed action session lobby lobby' notice ht hs hauth he =>
    have haction := hinv.task k
    rw [ht] at haction
    have htoken : ∀ drawn ∈ notice.drawn, (fieldLimit "chatToken").Allows drawn :=
      fun drawn hdrawn => htokens.allows (List.mem_append_left _ hdrawn)
    refine hinv.of_actor hu ?_ ?_ (fun l lobby₁ hl => ?_) hinv.log
    · dsimp only
      rw [Sys.setTask_self]
      exact HostNotice.notifications_bounded he haction (hsession session hs).lobbyId htoken
    · dsimp only
      rw [Sys.setTask_self]
      exact hsession
    · replace hl : (action.store s.shared session.lobbyId lobby').lobbies.lookup l =
        some lobby₁ := hl
      rw [HostAction.store_lobbies, HashMap.lookup_insert_ite] at hl
      split at hl
      · cases hl
        exact (hinv.lobby _ _ hauth.found).moderated he haction htoken
      · exact hinv.lobby l lobby₁ hl
  | stayed =>
    refine hinv.of_actor hu ?_ ?_ hinv.lobby hinv.log <;> rw [Sys.setTask_self]
    · trivial
    · exact hsession
  | @left session lobby info sh departure ht hs hl hc hk hdep =>
    have htoken : ∀ drawn ∈ departure.drawn, (fieldLimit "chatToken").Allows drawn :=
      fun drawn hdrawn => htokens.allows (List.mem_append_left _ hdrawn)
    obtain ⟨hlobby, hnews⟩ := hdep.bounded (k := k) (hsession session hs) htoken hl hinv.lobby
    refine hinv.of_actor hu ?_ ?_ hlobby hinv.log <;> dsimp only <;> rw [Sys.setTask_self]
    · exact hnews
    · exact hsession
  | @sent js pending next d rest ht hperm =>
    have hself : Untouched (s.conns k) ((s.send k d env.ok).1.conns k) := Sys.send_untouched
    have htask := hinv.task k
    rw [ht] at htask
    have hjobs : (Op.jobs js).Bounded k := htask _ List.mem_cons_self
    refine hinv.of_actor hu ?_ ?_ hinv.lobby fun e he => ?_
    · rw [Sys.setTask_self]
      intro op hop
      rcases List.mem_cons.mp hop with rfl | hop
      · exact fun d' hd' => hjobs d' (mem_left hperm hd')
      · exact htask op (List.mem_cons_of_mem _ hop)
    · rw [Sys.setTask_self]
      exact fun session hs => hsession session (hself.session ▸ hs)
    · rcases List.mem_cons.mp he with rfl | he
      · exact hjobs d (hperm.mem_iff.mpr List.mem_cons_self)
      · exact hinv.log e he
  | @signalled js pending next k' rest ht hperm =>
    have htask := hinv.task k
    rw [ht] at htask
    refine hinv.of_actor hu ?_ ?_ hinv.lobby hinv.log <;> rw [Sys.setTask_self]
    · intro op hop
      rcases List.mem_cons.mp hop with rfl | hop
      · exact fun d hd => htask _ List.mem_cons_self d
          (hperm.mem_iff.mpr (List.mem_cons_of_mem _ hd))
      · exact htask op (List.mem_cons_of_mem _ hop)
    · exact hsession

/-- **Every step keeps everything within its limits.** -/
theorem FieldsBounded.step {act : Action} (hinv : FieldsBounded s) (hdecode : H.DecodesBase64)
    (h : SysStep s act s') (htokens : TokensDrawn s') : FieldsBounded s' := by
  have hmove := step_cases h
  have hu : ∀ k', act.actor ≠ some k' → Untouched (s.conns k') (s'.conns k') :=
    fun _ hk => hmove.untouched hk
  cases hmove with
  | @connected k challenge sourceIp ok ht =>
    have hother : ∀ k', k' ≠ k →
        Untouched (s.conns k') ((s.connect k challenge sourceIp ok).conns k') :=
      fun k' hk => hu k' fun heq => hk (Option.some.inj heq).symm
    obtain ⟨hnone, htask⟩ : ((s.connect k challenge sourceIp ok).conns k).session = none ∧ _ :=
      Sys.connect_conn
    refine hinv.of_actor hother ?_ ?_ hinv.lobby fun e he => ?_
    · rcases htask with htask | htask <;> rw [htask] <;> trivial
    · intro session hs
      cases hnone.symm.trans hs
    · rcases List.mem_cons.mp he with rfl | he
      · exact .inl rfl
      · exact hinv.log e he
  | ticked => exact ⟨hinv.task, hinv.session, hinv.lobby, hinv.log⟩
  | @refused k =>
    refine hinv.of_actor (fun k' hk => Sys.setConn_untouched hk) ?_ ?_ hinv.lobby hinv.log <;>
      rw [Sys.setConn_self]
    · exact refused_bounded
    · exact hinv.session k
  | @received k =>
    refine hinv.of_actor (fun k' hk => Sys.setConn_untouched hk) ?_ ?_ hinv.lobby hinv.log <;>
      rw [Sys.setConn_self]
    · trivial
    · exact hinv.session k
  | @handled k =>
    refine hinv.of_actor (fun k' hk => Sys.setConn_untouched hk) ?_ ?_ hinv.lobby hinv.log <;>
      rw [Sys.setConn_self]
    · exact handleInbound_bounded hdecode
    · exact hinv.session k
  | @hungUp k =>
    refine hinv.of_actor (fun k' hk => Sys.setConn_untouched hk) ?_ ?_ hinv.lobby hinv.log <;>
      rw [Sys.setTask_self]
    · trivial
    · exact hinv.session k
  | moved hexec => exact hinv.exec hdecode hexec htokens

/-- What was drawn stays so. -/
theorem issued_step {act : Action} {token : String} (h : SysStep s act s')
    (htoken : token ∈ s.issued) : token ∈ s'.issued := by
  cases step_cases h with
  | moved hexec =>
    cases hexec with
    | committed => exact List.mem_cons_of_mem _ htoken
    | hostActed | left => exact List.mem_append_right _ htoken
    | _ => exact htoken
  | _ => exact htoken

/-- In a reachable state everything is within its limits. -/
theorem ReachableSys.fieldsBounded (h : ReachableSys s) (hdecode : H.DecodesBase64)
    (htokens : TokensDrawn s) : FieldsBounded s := by
  refine h.invariant (I := fun s => TokensDrawn s → FieldsBounded s) ?_ ?_ htokens
  · rintro _ rfl -
    exact {
      task := fun _ => trivial
      session := fun _ _ hs => nomatch hs
      lobby := fun _ _ hl => nomatch hl
      log := fun e he => absurd he List.not_mem_nil }
  · intro s act s' hr ih hs htokens
    have hbefore : TokensDrawn s := fun token htoken =>
      htokens token (issued_step hs htoken)
    exact (ih hbefore).step hdecode hs htokens

/-- **No unbounded or control text gets through the server.** In every run, every text of every
frame that a handler tried to send to another connection is within the limit of its field, a list of
file shares in it has at most 256 items, and every stored name, description and node is within its
limit. -/
theorem texts_bounded (hdecode : H.DecodesBase64) {ts : List (Transition (Sys H cfg) Action)}
    (h : SysRun ts s) (htokens : TokensDrawn s) :
    (∀ e ∈ s.log, e.delivery.to_ ≠ e.by_ →
      (∀ key text, (key, text) ∈ e.delivery.frame.texts → (fieldLimit key).Allows text) ∧
        e.delivery.frame.shares.length ≤ 256) ∧
    ∀ l lobby, s.shared.lobbies.lookup l = some lobby →
      TextLimit.Allows ⟨128, true, false⟩ lobby.lobbyName ∧
      TextLimit.Allows ⟨200, true, false⟩ lobby.description ∧
      TextLimit.Allows ⟨256, true, false⟩ lobby.serverNode ∧
      ∀ c info, lobby.clients.lookup c = some info →
        TextLimit.Allows ⟨128, true, false⟩ info.playerName := by
  have hinv : FieldsBounded s := ReachableSys.fieldsBounded h.reachable hdecode htokens
  refine ⟨fun e he hother => ?_, fun l lobby hl => ?_⟩
  · have hframe := (hinv.log e he).resolve_left hother
    exact ⟨hframe.texts, hframe.shares⟩
  · have hlobby := hinv.lobby l lobby hl
    refine ⟨hlobby.lobbyName, hlobby.description, hlobby.serverNode, fun c info hc => ?_⟩
    exact (ClientInfo.bounded_iff.mp (hlobby.members c info hc).2).2.1

end

/-! ## A recorded offer -/

/-- A text that base64 decodes has digits and padding only. -/
theorem decodeBase64_digits {bytes decoded : List UInt8} (h : decodeBase64 bytes = some decoded) :
    ∀ b ∈ bytes, b = 61 ∨ (base64Digit b).isSome = true := by
  fun_induction decodeBase64 bytes generalizing decoded with
  | case1 => exact fun b hb => absurd hb List.not_mem_nil
  | case2 b₀ b₁ b₂ b₃ rest ih =>
    simp only [Option.bind_eq_bind] at h
    obtain ⟨x, hx, h⟩ := Option.bind_eq_some_iff.mp h
    obtain ⟨y, hy, h⟩ := Option.bind_eq_some_iff.mp h
    have hpair : ∀ b ∈ [b₀, b₁], b = 61 ∨ (base64Digit b).isSome = true := by
      simp [hx, hy]
    split at h
    · next h₂ =>
      split at h
      · next hpad =>
        obtain ⟨h₃, rfl, -⟩ := hpad
        simpa [h₂, h₃] using hpair
      · cases h
    obtain ⟨z, hz, h⟩ := Option.bind_eq_some_iff.mp h
    split at h
    · next h₃ =>
      split at h
      · next hpad =>
        obtain ⟨rfl, -⟩ := hpad
        simpa [hz, h₃] using hpair
      · cases h
    obtain ⟨w, hw, h⟩ := Option.bind_eq_some_iff.mp h
    obtain ⟨tail, htail, -⟩ := Option.bind_eq_some_iff.mp h
    have hrest := ih htail
    simp only [List.mem_cons, forall_eq_or_imp, hx, hy, hz, hw, Option.isSome_some, or_true,
      true_and]
    exact hrest
  | case3 => cases h

/-- A character whose encoding starts with an ASCII byte is that byte. -/
theorem utf8EncodeChar_ascii {c : Char} (h : ∀ b ∈ String.utf8EncodeChar c, b.toNat < 128) :
    c.toNat < 128 ∧ UInt8.ofNat c.toNat ∈ String.utf8EncodeChar c := by
  revert h
  fun_cases String.utf8EncodeChar c with
  | case1 v hc =>
    intro _
    exact ⟨Nat.lt_succ_of_le hc, List.mem_singleton.mpr rfl⟩
  | case2 | case3 | case4 =>
    intro h
    have hfirst := h _ List.mem_cons_self
    rw [UInt8.toNat_ofNat'] at hfirst
    omega

theorem recorded_decodesBase64 {digests : List (List UInt8 × Vector UInt8 32)}
    {signatures : List (List UInt8 × List UInt8 × List UInt8)} :
    (Crypto.recorded digests signatures).DecodesBase64 := by
  intro text bytes h c hc
  have hdigits := decodeBase64_digits h
  have hencoded : utf8Bytes text = text.toList.flatMap String.utf8EncodeChar := by
    have htext : text.toByteArray = text.toList.utf8Encode := by
      rw [← String.toByteArray_ofList, String.ofList_toList]
    rw [utf8Bytes, htext, List.utf8Encode]
    simp
  have hbytes : ∀ b ∈ String.utf8EncodeChar c, b = 61 ∨ (base64Digit b).isSome = true := by
    intro b hb
    exact hdigits b (hencoded ▸ List.mem_flatMap.mpr ⟨c, hc, hb⟩)
  have hascii : ∀ b : UInt8, b = 61 ∨ (base64Digit b).isSome = true → b.toNat < 128 := by
    intro b
    have hall : ∀ n : Fin 256, (UInt8.ofNat n.1 = 61 ∨
        (base64Digit (UInt8.ofNat n.1)).isSome = true) → n.1 < 128 := by decide +kernel
    have hb := hall ⟨b.toNat, b.toNat_lt⟩
    rwa [UInt8.ofNat_toNat] at hb
  obtain ⟨hlow, hmem⟩ := utf8EncodeChar_ascii fun b hb => hascii b (hbytes b hb)
  have hall : ∀ n : Fin 128, (UInt8.ofNat n.1 = 61 ∨
      (base64Digit (UInt8.ofNat n.1)).isSome = true) → Char.ofNat n.1 ∈ base64Alphabet := by
    decide +kernel
  have hchar := hall ⟨c.toNat, hlow⟩ (hbytes _ hmem)
  rwa [Char.ofNat_toNat] at hchar

/-- Bob sends alice an offer under a name with a line break. -/
def bobOffers : Option (Sys recordedCrypto .default) :=
  bobWaits.bind fun s =>
    (Action.receive 2 (.text (.ok (.offer bobId aliceId ⟨"offer", "v=0\r\n"⟩ (some "a\nb")))) ::
      List.replicate 5 (Action.exec 2 (recordedEnv "" 0 true))).foldlM Sys.step s

/-- Bob's offer reaches alice under the name that he has in the room. -/
theorem texts_bounded_offer : ∃ s e, bobOffers = some s ∧ e ∈ s.log ∧ e.ok = true ∧
    e.delivery.to_ = 1 ∧ e.by_ = 2 ∧
    e.delivery.frame.texts = [("type", "offer"), ("from", bobId), ("to", aliceId),
      ("type", "offer"), ("sdp", "v=0\r\n"), ("playerName", "bob")] ∧
    (∀ key text, (key, text) ∈ e.delivery.frame.texts → (fieldLimit key).Allows text) := by
  have hrun : (bobOffers.bind fun s => s.log.head?.bind fun e =>
      if s.issued = [repeatedByte "d2" 32, repeatedByte "d1" 32] ∧ e.ok = true ∧
        e.delivery.to_ = 1 ∧ e.by_ = 2 ∧
        e.delivery.frame.texts = [("type", "offer"), ("from", bobId), ("to", aliceId),
          ("type", "offer"), ("sdp", "v=0\r\n"), ("playerName", "bob")] then some ()
      else none) = some () := by decide +kernel
  obtain ⟨s, hs, hrun⟩ := Option.bind_eq_some_iff.mp hrun
  obtain ⟨e, he, hrun⟩ := Option.bind_eq_some_iff.mp hrun
  split at hrun
  · next hcond =>
    obtain ⟨hissued, hok, hto, hby, htexts⟩ := hcond
    obtain ⟨s₀, hs₀, hs'⟩ := Option.bind_eq_some_iff.mp hs
    obtain ⟨ts, hts⟩ := Reachable.foldlM (Reachable.foldlM handshake_reachable hs₀) hs'
    have htokens : TokensDrawn s := by
      intro token htoken
      rw [hissued] at htoken
      simp only [List.mem_cons, List.not_mem_nil, or_false] at htoken
      rcases htoken with rfl | rfl
      · exact ⟨Vector.replicate 32 0xd2, by decide +kernel⟩
      · exact ⟨Vector.replicate 32 0xd1, by decide +kernel⟩
    have he := List.mem_of_mem_head? he
    have hother : e.delivery.to_ ≠ e.by_ := by
      rw [hto, hby]
      decide
    obtain ⟨hframes, -⟩ := texts_bounded recorded_decodesBase64 hts htokens
    exact ⟨s, e, hs, he, hok, hto, hby, htexts, (hframes e he hother).1⟩
  · cases hrun

end MctierSignaling
