import MctierSignaling.LobbyInvariant

/-!
# A registration commits whole or not at all

`handle_v3` creates a lobby before the checks that can still refuse the registration. A lobby that
was just created has no members and no limit, so that it passes these checks, and a refusal leaves
the lobbies, the reverse map and the disconnect flags as they were. A commit changes the entry of
its client and what belongs to it (`CommitsOnly`).
-/

namespace MctierSignaling

section
variable {H : Crypto} {cfg : ServerConfig} {sh sh' : Shared} {ctx : RegistrationContext}
  {req : RegistrationRequest} {now : Nat} {d : Draws} {a : Admission H cfg} {commit : Commit H cfg}

/-- The checks of a registration and its critical section, as one call sees them. Reference:
`handle_v3` (`registration.rs:148-490`). -/
def handleV3 (H : Crypto) (cfg : ServerConfig) (sh : Shared) (ctx : RegistrationContext)
    (req : RegistrationRequest) (now : Nat) (d : Draws) :
    Shared × Except Rejection (Commit H cfg) :=
  match handleV3Checks H cfg ctx req with
  | .error r => (sh, .error r)
  | .ok a =>
    match handleV3Locked sh a now d with
    | (sh, .rejected message refusal) => (sh, .error ⟨some message, refusal⟩)
    | (sh, .committed commit) => (sh, .ok commit)

/-- The lobby after a commit: a new one with its founder alone, or the old one with the new entry
and a new token. -/
inductive LobbyChange (c token : String) (info : ClientInfo) : Option LobbyInfo → LobbyInfo → Prop
  | created {lobby' : LobbyInfo} : lobby'.clients = (∅ : HashMap String ClientInfo).insert c info →
      lobby'.hostId = c → lobby'.chatToken = token → lobby'.chatTokenEpoch = 1 →
      LobbyChange c token info none lobby'
  | entered {lobby : LobbyInfo} : LobbyChange c token info (some lobby) { lobby with
      clients := lobby.clients.insert c info
      chatToken := token
      chatTokenEpoch := if lobby.chatTokenEpoch + 1 < 2 ^ 64 then lobby.chatTokenEpoch + 1
        else lobby.chatTokenEpoch }

/-- The entry is what the request registers: this connection, with the returned generation, the
address that the request gives, and the client id, the key and the domain of the identity that its
proof verifies. -/
def EntryOf (H : Crypto) (ctx : RegistrationContext) (req : RegistrationRequest)
    (session : RegisteredSession) (info : ClientInfo) : Prop :=
  ∃ ip key domain, parseVirtualIpv4 req.virtualIp = some ip ∧
    verifyRegistrationIdentity H ctx.challenge req.lobbyName ip.toString req.identityPublicKey
      req.challengeSignature = some (session.clientId, key, domain) ∧
    info = {
      playerId := session.clientId
      playerName := req.playerName
      virtualIp := some ip.toString
      virtualDomain := some domain
      useDomain := req.useDomain.or (some true)
      chatPublicKey := normalizeChatPublicKey H (some key)
      sessionGeneration := session.generation
      sender := ctx.sender
      disconnect := ctx.sender }

/-- Everything that a commit changed. -/
structure CommitsOnly (sh : Shared) (ctx : RegistrationContext) (req : RegistrationRequest)
    (d : Draws) (sh' : Shared) (commit : Commit H cfg) : Prop where
  admitted : commit.admission.context = ctx ∧ commit.admission.request = req
  lobbyId : commit.session.lobbyId = generateLobbyId H req.lobbyName
  generation : commit.session.generation = d.generation
  lobby : ∃ info lobby', EntryOf H ctx req commit.session info ∧
    sh'.lobbies.lookup commit.session.lobbyId = some lobby' ∧
    LobbyChange commit.session.clientId d.token info (sh.lobbies.lookup commit.session.lobbyId)
      lobby'
  lobbies : ∀ l, l ≠ commit.session.lobbyId → sh'.lobbies.lookup l = sh.lobbies.lookup l
  members : ∀ l c, (l, c) ≠ (commit.session.lobbyId, commit.session.clientId) →
    sh'.member l c = sh.member l c
  mapped : sh'.clientLobbyMap =
    sh.clientLobbyMap.insert commit.session.clientId commit.session.lobbyId
  signalled : ∀ k, sh'.disconnect k = true ↔ sh.disconnect k = true ∨
    ∃ previous, sh.member commit.session.lobbyId commit.session.clientId = some previous ∧
      previous.disconnect = k

/-! ## Commits -/

/-- The lobby that a commit stores. -/
theorem Admission.enter_change (hinv : LobbyInv sh) :
    LobbyChange a.cid d.token (a.clientInfo d.generation) (sh.lobbies.lookup a.lobbyId)
      (a.enter (a.entered sh d) d) := by
  unfold Admission.entered
  cases hl : sh.lobbies.lookup a.lobbyId with
  | none => exact .created rfl rfl rfl rfl
  | some lobby =>
    have hok := hinv.lobby _ lobby hl
    have hmembers : lobby.clients.entries.isEmpty = false := by
      refine Bool.eq_false_iff.2 fun hempty => ?_
      obtain ⟨info, hhost⟩ := AList.lookup_isSome.2 hok.host |> Option.isSome_iff_exists.1
      cases (HashMap.isEmpty_entries_iff.1 hempty lobby.hostId).symm.trans hhost
    have hepoch : max (min (lobby.chatTokenEpoch + 1) (2 ^ 64 - 1)) 1 =
        if lobby.chatTokenEpoch + 1 < 2 ^ 64 then lobby.chatTokenEpoch + 1
          else lobby.chatTokenEpoch := by
      obtain ⟨hpos, hlt⟩ := hok.epoch
      split <;> omega
    have henter : a.enter lobby d = { lobby with
        clients := lobby.clients.insert a.cid (a.clientInfo d.generation)
        chatToken := d.token
        chatTokenEpoch := if lobby.chatTokenEpoch + 1 < 2 ^ 64 then lobby.chatTokenEpoch + 1
          else lobby.chatTokenEpoch } := by
      rw [← hepoch, Admission.enter, hmembers]
      rfl
    rw [Option.getD_some, henter]
    exact .entered

/-- The entry of an admission is what its request registers. -/
theorem Admission.clientInfo_entryOf (ha : handleV3Checks H cfg ctx req = .ok a) :
    EntryOf H ctx req ⟨a.cid, a.lobbyId, d.generation⟩ (a.clientInfo d.generation) := by
  obtain ⟨key, domain, hid, -, hdomain, hkey, huse⟩ := handleV3Checks_spec ha
  obtain ⟨rfl, rfl⟩ := handleV3Checks_ok ha
  refine ⟨a.virtualIp, key, domain, a.parsed, hid, ?_⟩
  rw [Admission.clientInfo, hdomain, hkey, huse]

/-- What a commit under the lock changed. -/
theorem Registers.commitsOnly (h : Registers sh a now d sh' commit) (hinv : LobbyInv sh)
    (ha : handleV3Checks H cfg ctx req = .ok a) : CommitsOnly sh ctx req d sh' commit := by
  obtain rfl := h.commit_eq
  have hentry := Admission.clientInfo_entryOf (d := d) ha
  obtain ⟨rfl, rfl⟩ := handleV3Checks_ok ha
  have hlookup : sh'.lobbies.lookup a.lobbyId = some (a.enter (a.entered sh d) d) := by
    rw [h.lookup, if_pos rfl]
  have hprevious : (a.entered sh d).clients.lookup a.cid = sh.member a.lobbyId a.cid := by
    unfold Admission.entered Shared.member
    cases sh.lobbies.lookup a.lobbyId <;> rfl
  refine {
    admitted := ⟨rfl, rfl⟩
    lobbyId := rfl
    generation := rfl
    lobby := ⟨a.clientInfo d.generation, _, hentry, hlookup, Admission.enter_change hinv⟩
    lobbies := fun l hl => (h.lookup l).trans (if_neg hl)
    members := fun l c hne => h.member.trans (if_neg fun heq => hne (Prod.ext heq.1 heq.2))
    mapped := h.mapped
    signalled := fun k => ?_ }
  · rw [h.signalled, hprevious]
    change _ ↔ _ ∨ ∃ previous, sh.member a.lobbyId a.cid = some previous ∧ previous.disconnect = k
    cases sh.member a.lobbyId a.cid with
    | none => simp
    | some previous =>
      by_cases hk : k = previous.disconnect
      · subst hk; simp
      · simp [Function.update_of_ne hk, Ne.symm hk]

/-- **Registration is all-or-nothing.** A refused registration leaves everything but the table of
password failures as it was, and a committed one changes the entry of its client, its mapping, the
disconnect flag of the connection that it replaced, and the creation of its lobby or the token of
the lobby that it joined. -/
theorem registration_all_or_nothing (hinv : LobbyInv sh) {out : Except Rejection (Commit H cfg)}
    (h : handleV3 H cfg sh ctx req now d = (sh', out)) :
    (∀ r, out = .error r → ∃ failures, sh' = { sh with failures }) ∧
      ∀ commit, out = .ok commit → CommitsOnly sh ctx req d sh' commit := by
  have hrefused : ∀ {r failures}, (sh', out) = ({ sh with failures }, .error r) →
      (∀ r, out = .error r → ∃ failures, sh' = { sh with failures }) ∧
        ∀ commit, out = .ok commit → CommitsOnly sh ctx req d sh' commit := by
    rintro r failures ⟨⟩
    exact ⟨fun _ _ => ⟨failures, rfl⟩, fun _ heq => (by cases heq)⟩
  unfold handleV3 at h
  split at h
  · exact hrefused h.symm
  next a ha =>
  split at h
  · next hlocked =>
    obtain ⟨_, _, failures, -, rfl⟩ | ⟨_, heq, -⟩ := handleV3Locked_cases hlocked
    · exact hrefused h.symm
    · cases heq
  · next hlocked =>
    cases h
    obtain ⟨_, _, _, heq, -⟩ | ⟨_, heq, hreg⟩ := handleV3Locked_cases hlocked
    · cases heq
    · cases heq
      refine ⟨fun _ heq => (by cases heq), fun _ heq => ?_⟩
      cases heq
      exact hreg.commitsOnly hinv ha

end

theorem bobAgain_commits : ∃ sh' commit,
    handleV3 recordedCrypto .default roomShared bobAgain.context bobAgain.request 0
      (recordedDraws "d3" 3) = (sh', .ok commit) := by
  have hcommits : (match (handleV3Locked roomShared bobAgain 0 (recordedDraws "d3" 3)).2 with
      | .committed _ => true
      | .rejected .. => false) = true := by decide +kernel
  have hchecks : handleV3Checks recordedCrypto .default bobAgain.context bobAgain.request =
      .ok bobAgain := bobAgain_checks
  generalize hout : handleV3Locked roomShared bobAgain 0 (recordedDraws "d3" 3) = out at hcommits
  obtain ⟨sh', _ | commit⟩ := out
  · cases hcommits
  exact ⟨sh', commit, by simp only [handleV3, hchecks, hout]⟩

/-- Bob's second connection replaces his first in the room. -/
theorem registration_all_or_nothing_replacement : ∃ sh' commit,
    handleV3 recordedCrypto .default roomShared bobAgain.context bobAgain.request 0
      (recordedDraws "d3" 3) = (sh', .ok commit) ∧
    CommitsOnly roomShared bobAgain.context bobAgain.request (recordedDraws "d3" 3) sh' commit := by
  obtain ⟨sh', commit, hrun⟩ := bobAgain_commits
  exact ⟨sh', commit, hrun,
    (registration_all_or_nothing (ReachableShared.inv roomShared_run.reachable) hrun).2 commit rfl⟩

end MctierSignaling
