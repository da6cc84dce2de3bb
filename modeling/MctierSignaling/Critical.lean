import MctierSignaling.Cleanup
import MctierSignaling.Lib.Transition

/-!
# The critical sections of the lobby state

`lobbies` and `client_lobby_map` change in three critical sections only: the commit of a
registration, a host action, and the cleanup of a connection. This module is the system whose steps
they are (`Critical`), with the disconnect signals that the sends between them set, and says once
what each section does: what it had checked when it changed anything, and what it leaves alone.
Every invariant of the lobby state is derived from these three theorems.
-/

namespace MctierSignaling

/-- A critical section, with the session that runs it and what it draws. -/
inductive Critical (H : Crypto) (cfg : ServerConfig) where
  | register (a : Admission H cfg) (now : Nat) (d : Draws)
  | moderate (session : ModerationSession) (token : String) (action : HostAction)
  | cleanup (sender : ConnId) (session : RegisteredSession) (order : Nat) (token : String)
  | signal (k : ConnId)

section
variable {H : Crypto} {cfg : ServerConfig}

/-- The shared state after a critical section. -/
def Critical.apply (sh : Shared) : Critical H cfg → Shared
  | .register a now d => (handleV3Locked sh a now d).1
  | .moderate session token action => (MctierSignaling.moderate sh session token action).1
  | .cleanup sender session order token =>
    (MctierSignaling.cleanup sh sender session order token).1
  | .signal k => sh.signal k

/-- One critical section after the other. -/
def Critical.Step (sh : Shared) (c : Critical H cfg) (sh' : Shared) : Prop := sh' = c.apply sh

/-- The runs of critical sections from the empty maps. -/
abbrev CriticalRun (ts : List (Transition Shared (Critical H cfg))) (sh : Shared) : Prop :=
  Run (· = Shared.initial) Critical.Step ts sh

/-- The shared states between critical sections. -/
abbrev ReachableShared (H : Crypto) (cfg : ServerConfig) (sh : Shared) : Prop :=
  Reachable (· = Shared.initial) (@Critical.Step H cfg) sh

end

/-! ## The maps after an update -/

section
variable {sh : Shared} {l l' c c' : String} {lobby : LobbyInfo} {k k' : ConnId}

@[simp] theorem Shared.signal_lobbies : (sh.signal k).lobbies = sh.lobbies := rfl

@[simp] theorem Shared.signal_clientLobbyMap :
    (sh.signal k).clientLobbyMap = sh.clientLobbyMap := rfl

@[simp] theorem Shared.signal_failures : (sh.signal k).failures = sh.failures := rfl

@[simp] theorem Shared.setLobby_lobbies :
    (sh.setLobby l lobby).lobbies = sh.lobbies.insert l lobby := rfl

@[simp] theorem Shared.setLobby_clientLobbyMap :
    (sh.setLobby l lobby).clientLobbyMap = sh.clientLobbyMap := rfl

@[simp] theorem Shared.unmap_lobbies : (sh.unmap c l).lobbies = sh.lobbies := rfl

/-- A client mapped elsewhere keeps its mapping. -/
@[simp] theorem Shared.lookup_unmap : (sh.unmap c l).clientLobbyMap.lookup c' =
    if c' = c ∧ sh.clientLobbyMap.lookup c = some l then none
    else sh.clientLobbyMap.lookup c' := by
  unfold Shared.unmap
  by_cases h : sh.clientLobbyMap.lookup c = some l <;> simp [h]

theorem Shared.member_eq_some {info : ClientInfo} : sh.member l c = some info ↔
    ∃ lobby, sh.lobbies.lookup l = some lobby ∧ lobby.clients.lookup c = some info :=
  Option.bind_eq_some_iff

end

/-! ## The commit of a registration -/

section
variable {H : Crypto} {cfg : ServerConfig} {sh sh' : Shared} {a : Admission H cfg} {now : Nat}
  {d : Draws}

/-- The lobby a registration enters, as it finds or creates it. -/
def Admission.entered (a : Admission H cfg) (sh : Shared) (d : Draws) : LobbyInfo :=
  (sh.lobbies.lookup a.lobbyId).getD (a.newLobby d)

/-- What a registration had checked under the lock when it committed, and what the commit did. -/
structure Registers (sh : Shared) (a : Admission H cfg) (now : Nat) (d : Draws) (sh' : Shared)
    (commit : Commit H cfg) : Prop where
  entry : entryError a.request.entryMode (a.lobbyId ∈ sh.lobbies) = none
  single : ∀ l, existingClientLobby sh.lobbies a.cid = some l → l = a.lobbyId
  unlocked : (sh.failures.isLocked (quotaSource a.context.sourceIp, a.lobbyId) now).2 = false
  password : ∀ lobby, sh.lobbies.lookup a.lobbyId = some lobby →
    hashLobbyPassword H lobby.passwordSalt a.request.lobbyPassword = lobby.passwordHash
  address : addressTaken (a.entered sh d) a.cid a.virtualIp = false
  room : lobbyFull (a.entered sh d) a.cid = false
  commit_eq : commit = a.commitOf (a.entered sh d) d
  lookup : ∀ l, sh'.lobbies.lookup l =
    if l = a.lobbyId then some (a.enter (a.entered sh d) d) else sh.lobbies.lookup l
  mapped : sh'.clientLobbyMap = sh.clientLobbyMap.insert a.cid a.lobbyId
  signalled : sh'.disconnect = match (a.entered sh d).clients.lookup a.cid with
    | some previous => Function.update sh.disconnect previous.disconnect true
    | none => sh.disconnect

/-- The commit's updates of the shared state. -/
theorem Admission.commit_spec (sh : Shared) (a : Admission H cfg) (lobby : LobbyInfo)
    (d : Draws) :
    (a.commit sh lobby d).lobbies = sh.lobbies.insert a.lobbyId (a.enter lobby d) ∧
    (a.commit sh lobby d).clientLobbyMap = sh.clientLobbyMap.insert a.cid a.lobbyId ∧
    (a.commit sh lobby d).failures = sh.failures ∧
    (a.commit sh lobby d).disconnect = match lobby.clients.lookup a.cid with
      | some previous => Function.update sh.disconnect previous.disconnect true
      | none => sh.disconnect := by
  unfold Admission.commit
  cases lobby.clients.lookup a.cid <;> exact ⟨rfl, rfl, rfl, rfl⟩

/-- A new lobby refuses nobody: it has no members and no limit. -/
theorem Admission.newLobby_open :
    addressTaken (a.newLobby d) a.cid a.virtualIp = false ∧
      lobbyFull (a.newLobby d) a.cid = false :=
  ⟨rfl, rfl⟩

/-- An accepted password matches the lobby's. -/
theorem checkPassword_accepts {existing : Option LobbyInfo} {failures : RegisterPasswordFailures}
    {key : FailureKey} {password : String} {tie : Nat}
    (h : (checkPassword H existing failures key password now tie).2 = none) :
    ∀ lobby, existing = some lobby →
      hashLobbyPassword H lobby.passwordSalt password = lobby.passwordHash := by
  rintro lobby rfl
  by_contra hne
  have hct : ctEq (utf8Bytes (hashLobbyPassword H lobby.passwordSalt password))
      (utf8Bytes lobby.passwordHash) = false :=
    Bool.eq_false_iff.2 fun heq => hne (utf8Bytes_injective (ctEq_iff.1 heq))
  simp only [checkPassword, hct, Bool.not_false, if_true] at h
  split at h <;> cases h

/-- **What a registration does under the lock.** It commits, having checked everything, or is
rejected with an error, and then changes only the password failures. -/
theorem handleV3Locked_cases {out : RegistrationOutcome H cfg}
    (h : handleV3Locked sh a now d = (sh', out)) :
    (∃ error refusal failures, out = .rejected (.registerError error) refusal ∧
        sh' = { sh with failures }) ∨
      ∃ commit, out = .committed commit ∧ Registers sh a now d sh' commit := by
  unfold handleV3Locked at h
  dsimp only at h
  split at h
  · cases h
    exact .inl ⟨_, _, sh.failures, rfl, rfl⟩
  next hentry =>
  split at h
  · cases h
    exact .inl ⟨_, _, sh.failures, rfl, rfl⟩
  next hsingle =>
  split at h
  · cases h
    exact .inl ⟨_, _, _, rfl, rfl⟩
  next hunlocked =>
  split at h
  · cases h
    exact .inl ⟨_, _, _, rfl, rfl⟩
  next failures' hpassword =>
  have hpass := checkPassword_accepts (congrArg Prod.snd hpassword)
  -- a lobby that was just created refuses nobody, so a refusal leaves the map of lobbies alone
  have hkept : ∀ lobby, sh.lobbies.lookup a.lobbyId = some lobby →
      HashMap.orInsert sh.lobbies a.lobbyId (a.newLobby d) = sh.lobbies := by
    intro lobby hl
    rw [HashMap.orInsert, hl]
  have hrefused : addressTaken (a.entered sh d) a.cid a.virtualIp = true ∨
      lobbyFull (a.entered sh d) a.cid = true →
      HashMap.orInsert sh.lobbies a.lobbyId (a.newLobby d) = sh.lobbies := by
    intro hr
    cases hl : sh.lobbies.lookup a.lobbyId with
    | some lobby => exact hkept lobby hl
    | none =>
      rw [Admission.entered, hl] at hr
      obtain ⟨haddr, hroom⟩ := Admission.newLobby_open (a := a) (d := d)
      simp only [Option.getD_none, haddr, hroom, Bool.false_eq_true, or_self] at hr
  split at h
  · next haddr =>
    cases h
    exact .inl ⟨_, _, failures', rfl, by rw [hrefused (.inl haddr)]⟩
  next haddr =>
  split at h
  · next hroom =>
    cases h
    exact .inl ⟨_, _, failures', rfl, by rw [hrefused (.inr hroom)]⟩
  next hroom =>
  cases h
  obtain ⟨hlobbies, hmap, -, hdisconnect⟩ := Admission.commit_spec
    { sh with
      failures := failures'
      lobbies := HashMap.orInsert sh.lobbies a.lobbyId (a.newLobby d) }
    a ((sh.lobbies.lookup a.lobbyId).getD (a.newLobby d)) d
  refine .inr ⟨_, rfl, {
    entry := hentry
    single := fun l hl => ?_
    unlocked := Bool.eq_false_iff.2 hunlocked
    password := hpass
    address := Bool.eq_false_iff.2 haddr
    room := Bool.eq_false_iff.2 hroom
    commit_eq := rfl
    lookup := fun l => ?_
    mapped := hmap
    signalled := hdisconnect }⟩
  · rw [hl] at hsingle
    simpa using hsingle
  · rw [hlobbies, HashMap.lookup_insert_ite, HashMap.lookup_orInsert]
    by_cases hl : l = a.lobbyId
    · rw [if_pos hl, if_pos hl]; rfl
    · rw [if_neg hl, if_neg hl, if_neg hl]

end

/-! ## Host actions -/

section
variable {sh sh' : Shared} {session : ModerationSession} {token : String} {lobby : LobbyInfo}
  {action : HostAction}

/-- The lobby and the notice after a host action that passed its own guards. -/
inductive HostEffect (token : String) (lobby : LobbyInfo) :
    HostAction → LobbyInfo → HostNotice → Prop
  | kicked {target : String} {removed : ClientInfo} : target ≠ lobby.hostId →
      lobby.clients.lookup target = some removed →
      HostEffect token lobby (.kickPlayer target) (rotateChatToken (lobby.remove target) token)
        (.kicked removed target (rotationTargets (rotateChatToken (lobby.remove target) token))
          token (rotateChatToken (lobby.remove target) token).chatTokenEpoch)
  | muted {target : String} : target ≠ lobby.hostId → target ∈ lobby.clients →
      HostEffect token lobby (.mutePlayer target true)
        { lobby with muted := lobby.muted.insert target () } (.muteChanged target true)
  | unmuted {target : String} : target ∈ lobby.clients →
      HostEffect token lobby (.mutePlayer target false)
        { lobby with muted := lobby.muted.erase target } (.muteChanged target false)
  | transferred {target : String} : target ∈ lobby.clients →
      HostEffect token lobby (.transferHost target)
        { lobby with hostId := target, muted := lobby.muted.erase target } (.hostChanged target)
  | options {maxPlayers : Option Nat} {isPublic : Option Bool}
      {description serverNode : Option String} :
      HostEffect token lobby (.setLobbyOptions maxPlayers isPublic description serverNode)
        (applyOptions lobby maxPlayers isPublic description serverNode)
        (.optionsChanged (applyOptions lobby maxPlayers isPublic description serverNode).maxPlayers
          (applyOptions lobby maxPlayers isPublic description serverNode).isPublic)

/-- Stores the lobby after a host action; a kick unmaps its target too. -/
def HostAction.store (action : HostAction) (sh : Shared) (lobbyId : String) (lobby : LobbyInfo) :
    Shared :=
  match action with
  | .kickPlayer target => (sh.setLobby lobbyId lobby).unmap target lobbyId
  | _ => sh.setLobby lobbyId lobby

@[simp] theorem HostAction.store_lobbies {l : String} :
    (action.store sh l lobby).lobbies = sh.lobbies.insert l lobby := by
  cases action <;> rfl

/-- The member a host action removes. -/
def HostAction.removes : HostAction → Option String
  | .kickPlayer target => some target
  | _ => none

/-- The session is the host of the lobby, and the host's own current session. -/
structure Authorized (sh : Shared) (session : ModerationSession) (lobby : LobbyInfo) : Prop where
  found : sh.lobbies.lookup session.lobbyId = some lobby
  current : isCurrentIn lobby session.clientId session.sessionGeneration session.sender = true
  host : lobby.hostId = session.clientId

/-- The authorization of `withHost`: the action runs on the lobby of its own host, or nothing
changes. -/
theorem withHost_cases {act : LobbyInfo → Shared × Except ModerationDispatch HostNotice}
    {out : Except ModerationDispatch HostNotice} (h : withHost sh session act = (sh', out)) :
    (∃ result, out = .error result ∧ sh' = sh) ∨
      ∃ lobby, Authorized sh session lobby ∧ act lobby = (sh', out) := by
  unfold withHost at h
  split at h
  · cases h
    exact .inl ⟨_, rfl, rfl⟩
  next lobby hfound =>
  split at h
  · cases h
    exact .inl ⟨_, rfl, rfl⟩
  next hauth =>
  unfold authorizeHost at hauth
  split at hauth
  · cases hauth
  next hcurrent =>
  split at hauth
  · cases hauth
  next hhost =>
  exact .inr ⟨lobby, ⟨hfound, by simpa using hcurrent, by simpa using hhost⟩, h⟩

/-- **What a host action does under the lock.** It changes nothing, or it runs as the current
session of the lobby's host and has its own effect. -/
theorem moderate_cases {out : Except ModerationDispatch HostNotice}
    (h : moderate sh session token action = (sh', out)) :
    (∃ result, out = .error result ∧ sh' = sh) ∨
      ∃ lobby lobby' notice, Authorized sh session lobby ∧
        HostEffect token lobby action lobby' notice ∧ out = .ok notice ∧
        sh' = action.store sh session.lobbyId lobby' := by
  cases action with
  | kickPlayer target =>
    obtain ⟨result, rfl, rfl⟩ | ⟨lobby, hauth, h⟩ := withHost_cases h
    · exact .inl ⟨_, rfl, rfl⟩
    split at h
    · cases h
      exact .inl ⟨_, rfl, rfl⟩
    next hself =>
    split at h
    · cases h
      exact .inl ⟨_, rfl, rfl⟩
    next removed hremoved =>
    cases h
    exact .inr ⟨lobby, _, _, hauth, .kicked (hauth.host ▸ hself) hremoved, rfl, rfl⟩
  | mutePlayer target muted =>
    obtain ⟨result, rfl, rfl⟩ | ⟨lobby, hauth, h⟩ := withHost_cases h
    · exact .inl ⟨_, rfl, rfl⟩
    split at h
    · cases h
      exact .inl ⟨_, rfl, rfl⟩
    next hhost =>
    split at h
    · cases h
      exact .inl ⟨_, rfl, rfl⟩
    next htarget =>
    cases muted with
    | true =>
      simp only [if_true] at h
      split at h
      · cases h
        exact .inl ⟨_, rfl, rfl⟩
      · cases h
        exact .inr ⟨lobby, _, _, hauth, .muted (fun he => hhost ⟨he, rfl⟩)
          (Decidable.not_not.1 htarget), rfl, rfl⟩
    | false =>
      cases h
      exact .inr ⟨lobby, _, _, hauth, .unmuted (Decidable.not_not.1 htarget), rfl, rfl⟩
  | transferHost target =>
    obtain ⟨result, rfl, rfl⟩ | ⟨lobby, hauth, h⟩ := withHost_cases h
    · exact .inl ⟨_, rfl, rfl⟩
    split at h
    · cases h
      exact .inl ⟨_, rfl, rfl⟩
    next htarget =>
    cases h
    exact .inr ⟨lobby, _, _, hauth, .transferred (Decidable.not_not.1 htarget), rfl, rfl⟩
  | setLobbyOptions maxPlayers isPublic description serverNode =>
    obtain ⟨result, rfl, rfl⟩ | ⟨lobby, hauth, h⟩ := withHost_cases h
    · exact .inl ⟨_, rfl, rfl⟩
    cases h
    exact .inr ⟨lobby, _, _, hauth, .options, rfl, rfl⟩

end

/-! ## Leaving -/

section
variable {sh sh' : Shared} {lobby : LobbyInfo} {cid : String} {order : Nat}

/-- The lobby's entry of the client is this connection's. -/
theorem isCurrentConnection_iff {k : ConnId} : isCurrentConnection lobby cid k = true ↔
    ∃ info, lobby.clients.lookup cid = some info ∧ info.sender = k := by
  unfold isCurrentConnection
  cases lobby.clients.lookup cid <;> simp

theorem someKey_mem {m : HashMap String ClientInfo} {k : String} (h : someKey m order = some k) :
    k ∈ m :=
  AList.mem_keys.2 (List.mem_of_getElem? h)

theorem someKey_isSome {m : HashMap String ClientInfo} (h : m.entries.isEmpty = false) :
    ∃ k, someKey m order = some k := by
  have hlen : m.keys.length ≠ 0 := by
    rw [AList.keys, List.keys, List.length_map, ne_eq, List.length_eq_zero_iff]
    exact fun he => by rw [he] at h; cases h
  exact ⟨_, List.getElem?_eq_getElem (Nat.mod_lt _ (Nat.pos_of_ne_zero hlen))⟩

/-- The lobby after a member left that still has members: the host stays, or some member, who is
unmuted, becomes the host. -/
inductive HandsOver (lobby : LobbyInfo) (cid : String) : LobbyInfo → Option String → Prop
  | keeps : lobby.hostId ≠ cid → HandsOver lobby cid lobby none
  | passes {next : String} : lobby.hostId = cid → next ∈ lobby.clients →
      HandsOver lobby cid { lobby with hostId := next, muted := lobby.muted.erase next } (some next)

theorem handOver_cases (h : lobby.clients.entries.isEmpty = false) :
    HandsOver lobby cid (handOver lobby cid order).1 (handOver lobby cid order).2 := by
  unfold handOver
  split
  · next hhost =>
    obtain ⟨next, hnext⟩ : ∃ next, someKey lobby.clients order = some next := someKey_isSome h
    rw [hnext]
    exact .passes hhost (someKey_mem hnext)
  · next hhost => exact .keeps hhost

variable {sender : ConnId} {session : RegisteredSession} {token : String}

/-- What a cleanup did that found its own entry: the lobby goes with its last member, and otherwise
loses this member, keeps a host, and has a new token. -/
inductive Departs (sh : Shared) (session : RegisteredSession) (token : String)
    (lobby : LobbyInfo) : Shared → Departure → Prop
  | last : (lobby.remove session.clientId).clients.entries.isEmpty = true →
      Departs sh session token lobby
        ({ sh with lobbies := sh.lobbies.erase session.lobbyId }.unmap session.clientId
          session.lobbyId)
        ⟨session, none, none⟩
  | leaves {lobby' : LobbyInfo} {newHost : Option String} :
      (lobby.remove session.clientId).clients.entries.isEmpty = false →
      HandsOver (lobby.remove session.clientId) session.clientId lobby' newHost →
      Departs sh session token lobby
        ((sh.setLobby session.lobbyId (rotateChatToken lobby' token)).unmap session.clientId
          session.lobbyId)
        ⟨session, some (rotationTargets (rotateChatToken lobby' token), token,
          (rotateChatToken lobby' token).chatTokenEpoch), newHost⟩

/-- **What a cleanup does under the lock.** It changes nothing unless the lobby's entry of its
client is its own connection's, and then removes that entry. -/
theorem cleanup_cases {out : Option Departure}
    (h : cleanup sh sender session order token = (sh', out)) :
    (out = none ∧ sh' = sh ∧
      ∀ info, sh.member session.lobbyId session.clientId = some info → info.sender ≠ sender) ∨
      ∃ lobby info departure, sh.lobbies.lookup session.lobbyId = some lobby ∧
        lobby.clients.lookup session.clientId = some info ∧ info.sender = sender ∧
        out = some departure ∧ Departs sh session token lobby sh' departure := by
  unfold cleanup at h
  split at h
  · next hnone =>
    cases h
    refine .inl ⟨rfl, rfl, fun info hinfo => ?_⟩
    obtain ⟨lobby, hl, -⟩ := Shared.member_eq_some.1 hinfo
    cases hnone.symm.trans hl
  next lobby hl =>
  split at h
  · next hcur =>
    obtain ⟨info, hinfo, hsender⟩ := isCurrentConnection_iff.1 hcur
    dsimp only at h
    split at h
    · next hempty =>
      cases h
      exact .inr ⟨lobby, info, _, hl, hinfo, hsender, rfl, .last hempty⟩
    · next hne =>
      have hne := Bool.eq_false_iff.2 hne
      cases h
      exact .inr ⟨lobby, info, _, hl, hinfo, hsender, rfl, .leaves hne (handOver_cases hne)⟩
  · next hcur =>
    cases h
    refine .inl ⟨rfl, rfl, fun info hinfo hsender => hcur ?_⟩
    obtain ⟨lobby', hl', hinfo⟩ := Shared.member_eq_some.1 hinfo
    cases hl.symm.trans hl'
    exact isCurrentConnection_iff.2 ⟨info, hinfo, hsender⟩

end

/-! ## Steps -/

section
variable {H : Crypto} {cfg : ServerConfig} {sh sh' : Shared} {c : Critical H cfg}

/-- How a critical section changed the lobby state, if it did. -/
inductive Change (sh : Shared) : Critical H cfg → Shared → Prop
  | kept {c : Critical H cfg} {sh' : Shared} : sh'.lobbies = sh.lobbies →
      sh'.clientLobbyMap = sh.clientLobbyMap → Change sh c sh'
  | registered {a : Admission H cfg} {now : Nat} {d : Draws} {sh' : Shared}
      {commit : Commit H cfg} : Registers sh a now d sh' commit →
      Change sh (.register a now d) sh'
  | moderated {session : ModerationSession} {token : String} {action : HostAction}
      {lobby lobby' : LobbyInfo} {notice : HostNotice} : Authorized sh session lobby →
      HostEffect token lobby action lobby' notice →
      Change sh (.moderate session token action) (action.store sh session.lobbyId lobby')
  | departed {sender : ConnId} {session : RegisteredSession} {order : Nat} {token : String}
      {lobby : LobbyInfo} {info : ClientInfo} {sh' : Shared} {departure : Departure} :
      sh.lobbies.lookup session.lobbyId = some lobby →
      lobby.clients.lookup session.clientId = some info → info.sender = sender →
      Departs sh session token lobby sh' departure →
      Change sh (.cleanup sender session order token) sh'

/-- Every critical section changes the lobby state in one of these ways. -/
theorem step_change (h : c.Step sh sh') : Change sh c sh' := by
  subst h
  cases c with
  | register a now d =>
    rcases hout : handleV3Locked sh a now d with ⟨sh', out⟩
    rw [Critical.apply, hout]
    obtain ⟨_, _, _, -, rfl⟩ | ⟨_, -, h⟩ := handleV3Locked_cases hout
    · exact .kept rfl rfl
    · exact .registered h
  | moderate session token action =>
    rcases hout : moderate sh session token action with ⟨sh', out⟩
    rw [Critical.apply, hout]
    obtain ⟨_, -, rfl⟩ | ⟨_, _, _, hauth, he, -, rfl⟩ := moderate_cases hout
    · exact .kept rfl rfl
    · exact .moderated hauth he
  | cleanup sender session order token =>
    rcases hout : cleanup sh sender session order token with ⟨sh', out⟩
    rw [Critical.apply, hout]
    obtain ⟨-, rfl, -⟩ | ⟨_, _, _, hl, hc, hsender, -, h⟩ := cleanup_cases hout
    · exact .kept rfl rfl
    · exact .departed hl hc hsender h
  | signal k => exact .kept rfl rfl

end

end MctierSignaling
