import MctierSignaling.Critical

/-!
# The lobby state invariant

What holds of `lobbies` and `client_lobby_map` between any two critical sections (`LobbyInv`): every
lobby has a host among its members, mutes members other than the host, holds members with distinct
addresses of the virtual network, and keeps its options in range; and the reverse map holds exactly
the pairs of a client and its lobby. The invariant is proved once for each of the three critical
sections, from what `MctierSignaling.Critical` says that the section does.
-/

namespace MctierSignaling

/-! ## The invariant -/

/-- The members of a lobby: each under its own id, with one connection and an address of the virtual
network that no other member has. -/
structure MembersOk (clients : HashMap String ClientInfo) : Prop where
  bounded : clients.keys.length ≤ MAX_LOBBY_MEMBERS
  id : ∀ c info, clients.lookup c = some info → info.playerId = c
  handle : ∀ c info, clients.lookup c = some info → info.disconnect = info.sender
  address : ∀ c info, clients.lookup c = some info →
    ∃ ip, info.virtualIp = some ip.toString ∧ VirtualRange ip
  distinct : ∀ c c' info info', clients.lookup c = some info → clients.lookup c' = some info' →
    info.virtualIp = info'.virtualIp → c = c'

/-- What holds of a lobby from its creation on, before its first member enters too. -/
structure LobbyShape (lobby : LobbyInfo) : Prop where
  members : MembersOk lobby.clients
  muted : ∀ c, c ∈ lobby.muted → c ∈ lobby.clients ∧ c ≠ lobby.hostId
  limit : ∀ m, lobby.maxPlayers = some m → 1 ≤ m ∧ m ≤ MAX_LOBBY_MEMBERS
  publicOnly : lobby.isPublic = true → lobby.isPasswordless = true
  epoch : 1 ≤ lobby.chatTokenEpoch ∧ lobby.chatTokenEpoch < 2 ^ 64

/-- A lobby with a host among its members. -/
structure LobbyOk (lobby : LobbyInfo) : Prop extends LobbyShape lobby where
  host : lobby.hostId ∈ lobby.clients

/-- Every lobby is in order, and the reverse map is the members of the lobbies. -/
structure LobbyInv (sh : Shared) : Prop where
  lobby : ∀ l lobby, sh.lobbies.lookup l = some lobby → LobbyOk lobby
  mapped : ∀ c l, sh.clientLobbyMap.lookup c = some l ↔ ∃ info, sh.member l c = some info

section
variable {sh sh' : Shared} {l l' c : String} {lobby : LobbyInfo} {info info' : ClientInfo}

/-- A client is in one lobby. -/
theorem LobbyInv.member_unique (hinv : LobbyInv sh) (h : sh.member l c = some info)
    (h' : sh.member l' c = some info') : l = l' :=
  Option.some.inj (((hinv.mapped c l).2 ⟨_, h⟩).symm.trans ((hinv.mapped c l').2 ⟨_, h'⟩))

/-- The lobby a search finds for a client is the client's. -/
theorem LobbyInv.existingClientLobby (hinv : LobbyInv sh) (h : sh.member l c = some info) :
    existingClientLobby sh.lobbies c = some l := by
  obtain ⟨lobby, hl, hc⟩ := Shared.member_eq_some.1 h
  cases hf : MctierSignaling.existingClientLobby sh.lobbies c with
  | none =>
    have hnone := List.findSome?_eq_none_iff.1 hf ⟨l, lobby⟩ (HashMap.mem_entries.2 hl)
    rw [if_pos (HashMap.mem_of_lookup hc)] at hnone
    cases hnone
  | some found =>
    obtain ⟨⟨l', lobby'⟩, he, hif⟩ := List.exists_of_findSome?_eq_some hf
    split at hif
    · next hmem =>
      obtain ⟨info', hinfo'⟩ := Option.isSome_iff_exists.1 (AList.lookup_isSome.2 hmem)
      have h' : sh.member l' c = some info' :=
        Shared.member_eq_some.2 ⟨lobby', HashMap.mem_entries.1 he, hinfo'⟩
      rw [hinv.member_unique h h']
      exact hif.symm
    · cases hif

/-- Removing one entry, and its mapping, keeps the reverse map exact. -/
theorem LobbyInv.mapped_unmap (hinv : LobbyInv sh) (h : sh.member l c = some info)
    (hmember : ∀ l' c', sh'.member l' c' =
      if l' = l ∧ c' = c then none else sh.member l' c')
    (hmap : ∀ c', sh'.clientLobbyMap.lookup c' =
      if c' = c ∧ sh.clientLobbyMap.lookup c = some l then none
      else sh.clientLobbyMap.lookup c') :
    ∀ c' l', sh'.clientLobbyMap.lookup c' = some l' ↔ ∃ info, sh'.member l' c' = some info := by
  intro c' l'
  have hl := (hinv.mapped c l).2 ⟨info, h⟩
  rw [hmap, hmember]
  by_cases hc : c' = c
  · subst hc
    rw [if_pos ⟨rfl, hl⟩]
    refine ⟨nofun, fun ⟨info', h'⟩ => ?_⟩
    split at h'
    · cases h'
    · next hne => exact absurd ⟨hinv.member_unique h' h, rfl⟩ hne
  · rw [if_neg fun h => hc h.1, if_neg fun h => hc h.2]
    exact hinv.mapped c' l'

/-- The members after one lobby was replaced. -/
theorem Shared.member_setLobby :
    (sh.setLobby l lobby).member l' c = if l' = l then lobby.clients.lookup c
      else sh.member l' c := by
  rw [Shared.member, Shared.setLobby_lobbies, HashMap.lookup_insert_ite]
  split <;> rfl

@[simp] theorem Shared.member_unmap {c' : String} :
    (sh.unmap c' l').member l c = sh.member l c := rfl

end

/-! ## Registration -/

section
variable {H : Crypto} {cfg : ServerConfig} {sh sh' : Shared} {a : Admission H cfg} {now : Nat}
  {d : Draws} {commit : Commit H cfg} {lobby : LobbyInfo} {c l : String}

@[simp] theorem Admission.enter_clients :
    (a.enter lobby d).clients = lobby.clients.insert a.cid (a.clientInfo d.generation) := by
  unfold Admission.enter
  dsimp only
  split <;> rfl

@[simp] theorem Admission.enter_hostId : (a.enter lobby d).hostId = lobby.hostId := by
  unfold Admission.enter
  dsimp only
  split <;> rfl

@[simp] theorem Admission.enter_muted : (a.enter lobby d).muted = lobby.muted := by
  unfold Admission.enter
  dsimp only
  split <;> rfl

/-- A new token's epoch is in range. -/
theorem rotateChatToken_epoch {token : String} :
    1 ≤ (rotateChatToken lobby token).chatTokenEpoch ∧
      (rotateChatToken lobby token).chatTokenEpoch < 2 ^ 64 := by
  simp only [rotateChatToken]
  omega

/-- A free address is none of the other members'. -/
theorem MembersOk.address_free {cid : String} {ip : Ipv4Addr} (h : MembersOk lobby.clients)
    (hfree : addressTaken lobby cid ip = false) {info : ClientInfo}
    (hc : lobby.clients.lookup c = some info) (hne : c ≠ cid) :
    info.virtualIp ≠ some ip.toString := by
  intro heq
  obtain ⟨e, he⟩ : ∃ e : Sigma fun _ : String => ClientInfo, e = ⟨c, info⟩ := ⟨_, rfl⟩
  have hmem : e ∈ lobby.clients.entries := he ▸ HashMap.mem_entries.2 hc
  have := List.any_eq_false.1 hfree e hmem
  subst he
  have hid := h.id c info hc
  have hparse : parseIpv4 ip.toString.toList = some ip := by
    rw [Ipv4Addr.toString, String.toList_ofList, parseIpv4_text]
  simp [heq, hid, hne, hparse] at this

/-- The members after a checked registration entered. -/
theorem MembersOk.enter (h : MembersOk lobby.clients)
    (haddress : addressTaken lobby a.cid a.virtualIp = false)
    (hroom : lobbyFull lobby a.cid = false) : MembersOk (a.enter lobby d).clients := by
  have hlt : lobby.clients.keys.length < MAX_LOBBY_MEMBERS := by
    simp only [lobbyFull, Bool.or_eq_false_iff, decide_eq_false_iff_not, not_le, ge_iff_le] at hroom
    exact hroom.1
  rw [Admission.enter_clients]
  constructor
  case bounded => exact Nat.le_trans HashMap.length_insert_le hlt
  case id =>
    intro c info hc
    rw [HashMap.lookup_insert_ite] at hc
    split at hc
    · next hcid => cases hc; exact hcid.symm
    · exact h.id c info hc
  case handle =>
    intro c info hc
    rw [HashMap.lookup_insert_ite] at hc
    split at hc
    · cases hc; rfl
    · exact h.handle c info hc
  case address =>
    intro c info hc
    rw [HashMap.lookup_insert_ite] at hc
    split at hc
    · cases hc; exact ⟨a.virtualIp, rfl, parseVirtualIpv4_range a.parsed⟩
    · exact h.address c info hc
  case distinct =>
    intro c c' info info' hc hc' heq
    rw [HashMap.lookup_insert_ite] at hc hc'
    split at hc <;> split at hc'
    · next h1 h2 => rw [h1, h2]
    · next h1 h2 =>
      cases hc
      exact absurd heq.symm (h.address_free haddress hc' h2)
    · next h1 h2 =>
      cases hc'
      exact absurd heq (h.address_free haddress hc h1)
    · exact h.distinct c c' info info' hc hc' heq

theorem MembersOk.empty : MembersOk ∅ where
  bounded := Nat.zero_le _
  id _ _ h := nomatch h
  handle _ _ h := nomatch h
  address _ _ h := nomatch h
  distinct _ _ _ _ h := nomatch h

/-- A lobby that was just created is in shape. -/
theorem Admission.newLobby_shape : LobbyShape (a.newLobby d) where
  members := .empty
  muted := nofun
  limit := nofun
  publicOnly := nofun
  epoch := ⟨le_refl 1, Nat.one_lt_two_pow (by decide)⟩

/-- The lobby after a checked registration entered. -/
theorem LobbyShape.enter (h : LobbyShape lobby)
    (hhost : lobby.hostId ∈ lobby.clients ∨ lobby.hostId = a.cid)
    (haddress : addressTaken lobby a.cid a.virtualIp = false)
    (hroom : lobbyFull lobby a.cid = false) : LobbyOk (a.enter lobby d) := by
  have hmembers := h.members.enter (d := d) haddress hroom
  constructor
  case host =>
    rw [Admission.enter_clients, Admission.enter_hostId, AList.mem_insert]
    exact hhost.symm
  constructor
  case members => exact hmembers
  case muted =>
    intro c hc
    rw [Admission.enter_muted] at hc
    rw [Admission.enter_clients, Admission.enter_hostId, AList.mem_insert]
    exact ⟨.inr (h.muted c hc).1, (h.muted c hc).2⟩
  all_goals
    unfold Admission.enter
    dsimp only
    split
  case limit.isTrue | limit.isFalse => exact h.limit
  case publicOnly.isTrue | publicOnly.isFalse => exact h.publicOnly
  case epoch.isTrue => exact h.epoch
  case epoch.isFalse => exact rotateChatToken_epoch

/-- The members after a registration: its own entry is new. -/
theorem Registers.member (h : Registers sh a now d sh' commit) :
    sh'.member l c = if l = a.lobbyId ∧ c = a.cid then some (a.clientInfo d.generation)
      else sh.member l c := by
  rw [Shared.member, h.lookup]
  by_cases hl : l = a.lobbyId
  · rw [if_pos hl, Option.bind_some, Admission.enter_clients, HashMap.lookup_insert_ite]
    by_cases hc : c = a.cid
    · rw [if_pos hc, if_pos ⟨hl, hc⟩]
    · rw [if_neg hc, if_neg fun h => hc h.2, Shared.member, hl, Admission.entered]
      cases sh.lobbies.lookup a.lobbyId <;> rfl
  · rw [if_neg hl, if_neg fun h => hl h.1]
    rfl

/-- A registration keeps the invariant. -/
theorem LobbyInv.registers (hinv : LobbyInv sh) (h : Registers sh a now d sh' commit) :
    LobbyInv sh' where
  lobby := by
    intro l lobby hl
    rw [h.lookup] at hl
    split at hl
    · cases hl
      cases he : sh.lobbies.lookup a.lobbyId with
      | none =>
        have hent : a.entered sh d = a.newLobby d := by rw [Admission.entered, he]; rfl
        have hhost : (a.newLobby d).hostId = a.cid := rfl
        exact LobbyShape.enter (hent ▸ Admission.newLobby_shape) (.inr (hent ▸ hhost)) h.address
          h.room
      | some lobby =>
        have hent : a.entered sh d = lobby := by rw [Admission.entered, he]; rfl
        have hok := hinv.lobby _ _ he
        exact LobbyShape.enter (hent ▸ hok.toLobbyShape) (.inl (hent ▸ hok.host)) h.address h.room
    · exact hinv.lobby l lobby hl
  mapped := by
    intro c l
    rw [h.mapped, h.member, HashMap.lookup_insert_ite]
    by_cases hc : c = a.cid
    · subst hc
      rw [if_pos rfl]
      constructor
      · intro heq
        cases heq
        exact ⟨_, if_pos ⟨rfl, rfl⟩⟩
      · rintro ⟨info, hinfo⟩
        split at hinfo
        · next hl => rw [hl.1]
        · rw [h.single l (hinv.existingClientLobby hinfo)]
    · rw [if_neg hc, if_neg fun h => hc h.2]
      exact hinv.mapped c l

end

/-! ## Host actions and leaving -/

section
variable {sh sh' : Shared} {session : ModerationSession} {token cid l : String}
  {lobby lobby' : LobbyInfo} {action : HostAction} {notice : HostNotice}

/-- The members without one of them. -/
theorem MembersOk.erase {clients : HashMap String ClientInfo} (h : MembersOk clients) :
    MembersOk (clients.erase cid) := by
  have hold : ∀ c info, (clients.erase cid).lookup c = some info →
      clients.lookup c = some info := by
    intro c info hc
    rw [HashMap.lookup_erase_ite] at hc
    split at hc
    · cases hc
    · exact hc
  exact {
    bounded := Nat.le_trans HashMap.length_erase_le h.bounded
    id := fun c info hc => h.id c info (hold c info hc)
    handle := fun c info hc => h.handle c info (hold c info hc)
    address := fun c info hc => h.address c info (hold c info hc)
    distinct := fun c c' info info' hc hc' =>
      h.distinct c c' info info' (hold c info hc) (hold c' info' hc') }

/-- A lobby in shape stays in shape when a member leaves. -/
theorem LobbyShape.remove (h : LobbyShape lobby) : LobbyShape (lobby.remove cid) where
  members := h.members.erase
  muted := fun c hc => by
    have ⟨hne, hc⟩ := AList.mem_erase.1 hc
    exact ⟨AList.mem_erase.2 ⟨hne, (h.muted c hc).1⟩, (h.muted c hc).2⟩
  limit := h.limit
  publicOnly := h.publicOnly
  epoch := h.epoch

/-- A new token keeps a lobby in order. -/
theorem LobbyOk.rotate (h : LobbyOk lobby) : LobbyOk (rotateChatToken lobby token) where
  members := h.members
  muted := h.muted
  limit := h.limit
  publicOnly := h.publicOnly
  epoch := rotateChatToken_epoch
  host := h.host

/-- A member becomes the host and is unmuted. -/
theorem LobbyShape.passHost {next : String} (h : LobbyShape lobby) (hnext : next ∈ lobby.clients) :
    LobbyOk { lobby with hostId := next, muted := lobby.muted.erase next } where
  members := h.members
  muted := fun c hc => by
    have ⟨hne, hc⟩ := AList.mem_erase.1 hc
    exact ⟨(h.muted c hc).1, hne⟩
  limit := h.limit
  publicOnly := h.publicOnly
  epoch := h.epoch
  host := hnext

/-- A requested limit is none, or in range. -/
theorem requestedMaxPlayers_range {maxPlayers m : Nat}
    (h : requestedMaxPlayers maxPlayers = some m) : 1 ≤ m ∧ m ≤ MAX_LOBBY_MEMBERS := by
  unfold requestedMaxPlayers at h
  split at h
  · cases h
  · next hne =>
    cases h
    exact ⟨Nat.le_min.2 ⟨Nat.pos_of_ne_zero hne, by decide⟩, Nat.min_le_right _ _⟩

/-- New options keep a lobby in order. -/
theorem LobbyOk.options {maxPlayers : Option Nat} {isPublic : Option Bool}
    {description serverNode : Option String} (h : LobbyOk lobby) :
    LobbyOk (applyOptions lobby maxPlayers isPublic description serverNode) where
  members := h.members
  muted := h.muted
  limit := by
    intro m hm
    cases maxPlayers with
    | none => exact h.limit m hm
    | some maxPlayers => exact requestedMaxPlayers_range hm
  publicOnly := by
    intro hp
    cases isPublic with
    | none => exact h.publicOnly hp
    | some requestedPublic => exact (Bool.and_eq_true_iff.1 hp).2
  epoch := h.epoch
  host := h.host

/-- Every host action keeps its lobby in order. -/
theorem LobbyOk.effect (h : LobbyOk lobby) (he : HostEffect token lobby action lobby' notice) :
    LobbyOk lobby' := by
  cases he with
  | kicked hne _ =>
    exact LobbyOk.rotate ⟨h.toLobbyShape.remove, AList.mem_erase.2 ⟨hne.symm, h.host⟩⟩
  | @muted target hne hmem =>
    refine ⟨⟨h.members, fun c hc => ?_, h.limit, h.publicOnly, h.epoch⟩, h.host⟩
    rcases AList.mem_insert _ |>.1 hc with rfl | hc
    · exact ⟨hmem, hne⟩
    · exact h.muted c hc
  | unmuted hmem =>
    exact ⟨⟨h.members, fun c hc => h.muted c (AList.mem_erase.1 hc).2, h.limit, h.publicOnly,
      h.epoch⟩, h.host⟩
  | transferred hmem => exact h.toLobbyShape.passHost hmem
  | options => exact h.options

/-- The members of the lobby after a host action: without the target of a kick. -/
theorem HostEffect.lookup (he : HostEffect token lobby action lobby' notice) {c : String} :
    lobby'.clients.lookup c = if action.removes = some c then none
      else lobby.clients.lookup c := by
  cases he with
  | @kicked target =>
    rw [rotateChatToken_clients, LobbyInfo.remove, HashMap.lookup_erase_ite]
    simp only [HostAction.removes, Option.some.injEq, eq_comm]
  | _ => rfl

/-- The members after a host action: without the target of a kick. -/
theorem HostEffect.member (hl : sh.lobbies.lookup session.lobbyId = some lobby)
    (he : HostEffect token lobby action lobby' notice) {c : String} :
    (action.store sh session.lobbyId lobby').member l c =
      if l = session.lobbyId ∧ action.removes = some c then none else sh.member l c := by
  rw [Shared.member, HostAction.store_lobbies, HashMap.lookup_insert_ite]
  by_cases hlid : l = session.lobbyId
  · subst hlid
    rw [if_pos rfl, Option.bind_some, he.lookup, Shared.member, hl, Option.bind_some]
    simp only [true_and]
  · rw [if_neg hlid, if_neg fun h => hlid h.1, Shared.member]

/-- A host action keeps the invariant. -/
theorem LobbyInv.moderated (hinv : LobbyInv sh) (hauth : Authorized sh session lobby)
    (he : HostEffect token lobby action lobby' notice) :
    LobbyInv (action.store sh session.lobbyId lobby') where
  lobby := by
    intro l lobby₁ hl
    rw [HostAction.store_lobbies, HashMap.lookup_insert_ite] at hl
    split at hl
    · cases hl
      exact (hinv.lobby _ _ hauth.found).effect he
    · exact hinv.lobby l lobby₁ hl
  mapped := by
    have hmember := fun l c => he.member (l := l) (c := c) hauth.found
    cases he with
    | @kicked target removed _ hremoved =>
      refine hinv.mapped_unmap (Shared.member_eq_some.2 ⟨lobby, hauth.found, hremoved⟩)
        (fun l c => ?_) fun c => Shared.lookup_unmap
      rw [hmember]
      simp only [HostAction.removes, Option.some.injEq, eq_comm (a := c)]
    | _ =>
      intro c l
      rw [hmember, if_neg fun h => nomatch h.2]
      exact hinv.mapped c l

variable {departure : Departure} {session : RegisteredSession} {info : ClientInfo}

/-- The lobby after a member left that still has members. -/
theorem HandsOver.ok {newHost : Option String} (h : LobbyOk lobby)
    (hh : HandsOver (lobby.remove cid) cid lobby' newHost) : LobbyOk lobby' := by
  cases hh with
  | keeps hne =>
    exact ⟨h.toLobbyShape.remove, AList.mem_erase.2 ⟨hne, h.host⟩⟩
  | passes _ hnext => exact h.toLobbyShape.remove.passHost hnext

theorem HandsOver.clients {newHost : Option String} (hh : HandsOver lobby cid lobby' newHost) :
    lobby'.clients = lobby.clients := by
  cases hh <;> rfl

/-- A cleanup leaves the lobbies other than that of its session as they are. -/
theorem Departs.lookup_ne (h : Departs sh session token lobby sh' departure)
    (hne : l ≠ session.lobbyId) : sh'.lobbies.lookup l = sh.lobbies.lookup l := by
  cases h with
  | last => rw [Shared.unmap_lobbies, HashMap.lookup_erase_ite, if_neg hne]
  | leaves =>
    rw [Shared.unmap_lobbies, Shared.setLobby_lobbies, HashMap.lookup_insert_ite, if_neg hne]

/-- The lobbies after a cleanup: the others, and that of its session if it has members left, under
the host that it has now and with a new token. -/
theorem Departs.lookup {lobby₁ : LobbyInfo} (h : Departs sh session token lobby sh' departure)
    (hl : sh'.lobbies.lookup l = some lobby₁) :
    l ≠ session.lobbyId ∧ sh.lobbies.lookup l = some lobby₁ ∨
      l = session.lobbyId ∧ ∃ lobby' newHost,
        HandsOver (lobby.remove session.clientId) session.clientId lobby' newHost ∧
        lobby₁ = rotateChatToken lobby' token ∧
        departure =
          ⟨session, some (rotationTargets lobby₁, token, lobby₁.chatTokenEpoch), newHost⟩ := by
  by_cases hlid : l = session.lobbyId
  · refine .inr ⟨hlid, ?_⟩
    cases h with
    | last =>
      rw [Shared.unmap_lobbies, HashMap.lookup_erase_ite, if_pos hlid] at hl
      cases hl
    | leaves _ hh =>
      rw [Shared.unmap_lobbies, Shared.setLobby_lobbies, HashMap.lookup_insert_ite,
        if_pos hlid] at hl
      cases hl
      exact ⟨_, _, hh, rfl, rfl⟩
  · exact .inl ⟨hlid, (h.lookup_ne hlid).symm.trans hl⟩

/-- A cleanup flags nobody. -/
theorem Departs.disconnect (h : Departs sh session token lobby sh' departure) :
    sh'.disconnect = sh.disconnect := by
  cases h <;> rfl

/-- The members after a cleanup that found its own entry: that entry is gone. -/
theorem Departs.member (h : Departs sh session token lobby sh' departure)
    (hl : sh.lobbies.lookup session.lobbyId = some lobby) {c : String} :
    sh'.member l c = if l = session.lobbyId ∧ c = session.clientId then none
      else sh.member l c := by
  have hold : ∀ c, sh.member session.lobbyId c = lobby.clients.lookup c := by
    intro c
    rw [Shared.member, hl, Option.bind_some]
  by_cases hlid : l = session.lobbyId
  · subst hlid
    have hrest : sh'.member session.lobbyId c =
        (lobby.remove session.clientId).clients.lookup c := by
      cases h with
      | last hempty =>
        rw [HashMap.isEmpty_entries_iff.1 hempty c, Shared.member_unmap, Shared.member]
        simp only [HashMap.lookup_erase_ite, if_true, Option.bind_none]
      | leaves _ hh =>
        rw [Shared.member_unmap, Shared.member_setLobby, if_pos rfl, rotateChatToken_clients,
          hh.clients]
    rw [hrest, LobbyInfo.remove, HashMap.lookup_erase_ite, hold]
    by_cases hc : c = session.clientId
    · rw [if_pos hc, if_pos ⟨rfl, hc⟩]
    · rw [if_neg hc, if_neg fun h => hc h.2]
  · rw [if_neg fun h => hlid h.1, Shared.member, h.lookup_ne hlid, Shared.member]

/-- A cleanup keeps the invariant. -/
theorem LobbyInv.departs (hinv : LobbyInv sh)
    (hl : sh.lobbies.lookup session.lobbyId = some lobby)
    (hc : lobby.clients.lookup session.clientId = some info)
    (h : Departs sh session token lobby sh' departure) : LobbyInv sh' where
  lobby := by
    intro l lobby₁ hl₁
    obtain ⟨-, hl₁⟩ | ⟨-, _, _, hh, rfl, -⟩ := h.lookup hl₁
    · exact hinv.lobby l lobby₁ hl₁
    · exact (HandsOver.ok (hinv.lobby _ _ hl) hh).rotate
  mapped := by
    refine hinv.mapped_unmap (Shared.member_eq_some.2 ⟨lobby, hl, hc⟩) (fun l c => h.member hl)
      fun c => ?_
    cases h <;> exact Shared.lookup_unmap

end

/-! ## Runs -/

section
variable {H : Crypto} {cfg : ServerConfig} {sh sh' : Shared} {c : Critical H cfg}

/-- Signals and password failures are no part of the invariant. -/
theorem LobbyInv.congr (hinv : LobbyInv sh) (hl : sh'.lobbies = sh.lobbies)
    (hm : sh'.clientLobbyMap = sh.clientLobbyMap) : LobbyInv sh' where
  lobby := by rw [hl]; exact hinv.lobby
  mapped := by rw [hm]; unfold Shared.member; rw [hl]; exact hinv.mapped

/-- Every critical section keeps the invariant. -/
theorem LobbyInv.step (hinv : LobbyInv sh) (h : c.Step sh sh') : LobbyInv sh' := by
  cases step_change h with
  | kept hl hm => exact hinv.congr hl hm
  | registered h => exact hinv.registers h
  | moderated hauth he => exact hinv.moderated hauth he
  | departed hl hc _ h => exact hinv.departs hl hc h

theorem LobbyInv.initial : LobbyInv Shared.initial where
  lobby _ _ h := nomatch h
  mapped _ _ := ⟨nofun, fun ⟨_, h⟩ => nomatch h⟩

/-- The invariant holds between any two critical sections. -/
theorem ReachableShared.inv (h : ReachableShared H cfg sh) : LobbyInv sh :=
  h.invariant (fun _ h => h ▸ .initial) fun _ _ _ _ hinv hs => hinv.step hs

end

/-! ## Since the creation of a lobby -/

section
variable {H : Crypto} {cfg : ServerConfig} {sh sh' : Shared} {c : Critical H cfg} {l : String}
  {lobby lobby' : LobbyInfo}

/-- What a lobby keeps from its creation on. -/
structure Credentials where
  lobbyName : String
  passwordHash : String
  passwordSalt : String
  isPasswordless : Bool

def LobbyInfo.credentials (lobby : LobbyInfo) : Credentials :=
  ⟨lobby.lobbyName, lobby.passwordHash, lobby.passwordSalt, lobby.isPasswordless⟩

/-- The lobby with these credentials exists. -/
def HasCredentials (l : String) (cred : Credentials) (sh : Shared) : Prop :=
  ∃ lobby, sh.lobbies.lookup l = some lobby ∧ lobby.credentials = cred

/-- A registration created the lobby, with these credentials. -/
structure Creates (l : String) (cred : Credentials) (t : Transition Shared (Critical H cfg)) :
    Prop where
  absent : t.pre.lobbies.lookup l = none
  created : ∃ a now d, t.act = .register a now d ∧ a.lobbyId = l ∧
    cred = ⟨a.request.lobbyName, hashLobbyPassword H d.salt a.request.lobbyPassword, d.salt,
      a.request.lobbyPassword.isEmpty⟩

/-- The lobby a critical section is about. -/
def Critical.lobbyId : Critical H cfg → Option String
  | .register a _ _ => some a.lobbyId
  | .moderate session _ _ => some session.lobbyId
  | .cleanup _ session _ _ => some session.lobbyId
  | .signal _ => none

/-- The token a critical section would give its lobby. -/
def Critical.token : Critical H cfg → Option String
  | .register _ _ d => some d.token
  | .moderate _ token _ | .cleanup _ _ _ token => some token
  | .signal _ => none

@[simp] theorem Admission.enter_credentials {a : Admission H cfg} {d : Draws} :
    (a.enter lobby d).credentials = lobby.credentials := by
  unfold Admission.enter
  dsimp only
  split <;> rfl

theorem HostEffect.credentials {token : String} {action : HostAction} {notice : HostNotice}
    (he : HostEffect token lobby action lobby' notice) :
    lobby'.credentials = lobby.credentials := by
  cases he <;> rfl

theorem HandsOver.credentials {cid : String} {newHost : Option String}
    (hh : HandsOver lobby cid lobby' newHost) : lobby'.credentials = lobby.credentials := by
  cases hh <;> rfl

/-- A lobby after a critical section is new, or has the credentials it had. -/
theorem credentials_step (h : c.Step sh sh') (hl : sh'.lobbies.lookup l = some lobby') :
    Creates l lobby'.credentials ⟨sh, c, sh'⟩ ∨ HasCredentials l lobby'.credentials sh := by
  cases step_change h with
  | kept hlobbies _ => exact .inr ⟨lobby', hlobbies ▸ hl, rfl⟩
  | @registered a now d _ commit hreg =>
    rw [hreg.lookup] at hl
    split at hl
    · next hlid =>
      subst hlid
      cases hl
      rw [Admission.enter_credentials]
      cases he : sh.lobbies.lookup a.lobbyId with
      | none =>
        have hent : a.entered sh d = a.newLobby d := by rw [Admission.entered, he]; rfl
        exact .inl ⟨he, a, now, d, rfl, rfl, by rw [hent]; rfl⟩
      | some lobby =>
        have hent : a.entered sh d = lobby := by rw [Admission.entered, he]; rfl
        exact .inr ⟨lobby, he, by rw [hent]⟩
    · exact .inr ⟨lobby', hl, rfl⟩
  | moderated hauth he =>
    rw [HostAction.store_lobbies, HashMap.lookup_insert_ite] at hl
    split at hl
    · next hlid =>
      subst hlid
      cases hl
      exact .inr ⟨_, hauth.found, he.credentials.symm⟩
    · exact .inr ⟨lobby', hl, rfl⟩
  | departed hfound _ _ hdep =>
    obtain ⟨-, hl⟩ | ⟨rfl, _, _, hh, rfl, -⟩ := hdep.lookup hl
    · exact .inr ⟨lobby', hl, rfl⟩
    · exact .inr ⟨_, hfound, hh.credentials.symm⟩

/-- The credentials of a lobby are those of its creation, since when it has existed with them. -/
theorem credentials_since {ts : List (Transition Shared (Critical H cfg))}
    (h : CriticalRun ts sh) (hl : sh.lobbies.lookup l = some lobby) :
    Since (Creates l lobby.credentials)
      (fun t => HasCredentials l lobby.credentials t.post) ts := by
  refine h.since (A := HasCredentials l lobby.credentials) ?_ ?_ ⟨lobby, hl, rfl⟩
  · rintro _ rfl ⟨_, h, _⟩
    cases h
  · rintro s a s' - hstep ⟨lobby', hl', hcred⟩
    rcases credentials_step hstep hl' with hc | hc
    · exact .inl (hcred ▸ hc)
    · exact .inr ⟨hcred ▸ hc, lobby', hl', hcred⟩

/-! ## The chat token and the members -/

/-- The lobby has this token, with this epoch and these members. -/
def HasToken (l token : String) (epoch : Nat) (clients : HashMap String ClientInfo)
    (sh : Shared) : Prop :=
  ∃ lobby, sh.lobbies.lookup l = some lobby ∧ lobby.chatToken = token ∧
    lobby.chatTokenEpoch = epoch ∧ lobby.clients = clients

/-- A critical section on the lobby drew this token for it: with the first epoch in a lobby it
created, and with the next epoch otherwise. -/
structure DrawsToken (l token : String) (epoch : Nat) (t : Transition Shared (Critical H cfg)) :
    Prop where
  about : t.act.lobbyId = some l
  drawn : t.act.token = some token
  epoch : epoch = match t.pre.lobbies.lookup l with
    | none => 1
    | some lobby => (rotateChatToken lobby token).chatTokenEpoch

/-- A registration gives the lobby it enters the token it drew: a new lobby with the first epoch,
and a lobby that had members with the next one. -/
theorem LobbyInv.enter_token {a : Admission H cfg} {d : Draws} (hinv : LobbyInv sh) :
    (a.enter (a.entered sh d) d).chatToken = d.token ∧
      (a.enter (a.entered sh d) d).chatTokenEpoch = match sh.lobbies.lookup a.lobbyId with
        | none => 1
        | some lobby => (rotateChatToken lobby d.token).chatTokenEpoch := by
  cases he : sh.lobbies.lookup a.lobbyId with
  | none =>
    have hent : a.entered sh d = a.newLobby d := by rw [Admission.entered, he]; rfl
    rw [hent]
    exact ⟨rfl, rfl⟩
  | some lobby =>
    have hent : a.entered sh d = lobby := by rw [Admission.entered, he]; rfl
    have hne : lobby.clients.entries.isEmpty = false := by
      refine Bool.eq_false_iff.2 fun hempty => ?_
      have hhost := (hinv.lobby _ _ he).host
      exact HashMap.notMem_of_lookup (HashMap.isEmpty_entries_iff.1 hempty _) hhost
    rw [hent, Admission.enter, hne]
    exact ⟨rfl, rfl⟩

/-- A lobby after a critical section has a token drawn there, or its token, epoch and members are
what they were. -/
theorem token_step (hinv : LobbyInv sh) (h : c.Step sh sh')
    (hl : sh'.lobbies.lookup l = some lobby') :
    DrawsToken l lobby'.chatToken lobby'.chatTokenEpoch ⟨sh, c, sh'⟩ ∨
      HasToken l lobby'.chatToken lobby'.chatTokenEpoch lobby'.clients sh := by
  cases step_change h with
  | kept hlobbies _ => exact .inr ⟨lobby', hlobbies ▸ hl, rfl, rfl, rfl⟩
  | @registered a now d _ commit hreg =>
    rw [hreg.lookup] at hl
    split at hl
    · next hlid =>
      subst hlid
      cases hl
      obtain ⟨htoken, hepoch⟩ := hinv.enter_token (a := a) (d := d)
      exact .inl ⟨rfl, congrArg some htoken.symm, htoken ▸ hepoch⟩
    · exact .inr ⟨lobby', hl, rfl, rfl, rfl⟩
  | @moderated session token action lobby lobby₁ notice hauth he =>
    rw [HostAction.store_lobbies, HashMap.lookup_insert_ite] at hl
    split at hl
    · next hlid =>
      subst hlid
      cases hl
      cases he with
      | kicked => exact .inl ⟨rfl, rfl, by dsimp only; rw [hauth.found]; rfl⟩
      | _ => exact .inr ⟨lobby, hauth.found, rfl, rfl, rfl⟩
    · exact .inr ⟨lobby', hl, rfl, rfl, rfl⟩
  | departed hfound _ _ hdep =>
    obtain ⟨-, hl⟩ | ⟨rfl, _, _, hh, rfl, rfl⟩ := hdep.lookup hl
    · exact .inr ⟨lobby', hl, rfl, rfl, rfl⟩
    · exact .inl ⟨rfl, rfl, by dsimp only; rw [hfound]; cases hh <;> rfl⟩

/-- The token of a lobby was drawn by its last change of members: since then, its token, epoch and
members have stayed. -/
theorem token_since {ts : List (Transition Shared (Critical H cfg))} (h : CriticalRun ts sh)
    (hl : sh.lobbies.lookup l = some lobby) :
    Since (DrawsToken l lobby.chatToken lobby.chatTokenEpoch)
      (fun t => HasToken l lobby.chatToken lobby.chatTokenEpoch lobby.clients t.post) ts := by
  refine h.since (A := HasToken l lobby.chatToken lobby.chatTokenEpoch lobby.clients) ?_ ?_
    ⟨lobby, hl, rfl, rfl, rfl⟩
  · rintro _ rfl ⟨_, h, _⟩
    cases h
  · rintro s a s' hr hstep ⟨lobby', hl', htoken, hepoch, hclients⟩
    rcases token_step (ReachableShared.inv hr) hstep hl' with hc | hc
    · exact .inl (htoken ▸ hepoch ▸ hc)
    · exact .inr ⟨htoken ▸ hepoch ▸ hclients ▸ hc, lobby', hl', htoken, hepoch, hclients⟩

/-! ## The invariant of every run -/

/-- **The lobby state invariant.** Between any two critical sections, every lobby has between one
and sixty-four members with a host among them, mutes only other members, holds members with
distinct addresses of the virtual network, and keeps its options in range; the reverse map is the
pairs of a client and its one lobby; and the password and the chat token of a lobby are those of
its creation and of its last change of members. -/
theorem lobby_state_invariant {ts : List (Transition Shared (Critical H cfg))}
    (h : CriticalRun ts sh) :
    (∀ l lobby, sh.lobbies.lookup l = some lobby →
      (1 ≤ lobby.clients.keys.length ∧ lobby.clients.keys.length ≤ 64) ∧
      lobby.hostId ∈ lobby.clients ∧
      (∀ c, c ∈ lobby.muted → c ∈ lobby.clients) ∧ lobby.hostId ∉ lobby.muted ∧
      (∀ c info, lobby.clients.lookup c = some info → info.playerId = c) ∧
      (∀ c info, lobby.clients.lookup c = some info →
        ∃ ip, info.virtualIp = some ip.toString ∧ VirtualRange ip) ∧
      (∀ c c' info info', lobby.clients.lookup c = some info →
        lobby.clients.lookup c' = some info' → info.virtualIp = info'.virtualIp → c = c') ∧
      (∀ m, lobby.maxPlayers = some m → 1 ≤ m ∧ m ≤ 64) ∧
      (lobby.isPublic = true → lobby.isPasswordless = true) ∧
      Since (Creates l lobby.credentials) (fun t => HasCredentials l lobby.credentials t.post) ts ∧
      (1 ≤ lobby.chatTokenEpoch ∧ lobby.chatTokenEpoch < 2 ^ 64) ∧
      Since (DrawsToken l lobby.chatToken lobby.chatTokenEpoch)
        (fun t => HasToken l lobby.chatToken lobby.chatTokenEpoch lobby.clients t.post) ts) ∧
    (∀ c l, sh.clientLobbyMap.lookup c = some l ↔ ∃ info, sh.member l c = some info) ∧
    (∀ c l l' info info', sh.member l c = some info → sh.member l' c = some info' → l = l') := by
  have hinv := ReachableShared.inv h.reachable
  refine ⟨fun l lobby hl => ?_, hinv.mapped, fun c l l' _ _ => hinv.member_unique⟩
  have hok := hinv.lobby l lobby hl
  have hpos : 1 ≤ lobby.clients.keys.length := List.length_pos_of_mem (AList.mem_keys.1 hok.host)
  exact ⟨⟨hpos, hok.members.bounded⟩, hok.host, fun c hc => (hok.muted c hc).1,
    fun hc => (hok.muted _ hc).2 rfl, hok.members.id, hok.members.address, hok.members.distinct,
    hok.limit, hok.publicOnly, credentials_since h hl, hok.epoch, token_since h hl⟩

/-- Alice created the room. -/
def aliceShared : Shared :=
  (Critical.register alice 0 (recordedDraws "d1" 1)).apply .initial

/-- Bob joined it. -/
def roomShared : Shared :=
  (Critical.register bob 0 (recordedDraws "d2" 2)).apply aliceShared

theorem roomShared_run : CriticalRun
    [⟨aliceShared, .register bob 0 (recordedDraws "d2" 2), roomShared⟩,
      ⟨.initial, .register alice 0 (recordedDraws "d1" 1), aliceShared⟩] roomShared :=
  .snoc (.snoc (.start rfl) rfl) rfl

/-- The room of two keeps the invariant. -/
theorem lobby_state_invariant_room : ∃ lobby, roomShared.lobbies.lookup roomId = some lobby ∧
    lobby.clients.keys.length = 2 ∧ lobby.hostId ∈ lobby.clients ∧
    lobby.hostId ∉ lobby.muted := by
  obtain ⟨lobby, hl⟩ := Option.isSome_iff_exists.1
    (show (roomShared.lobbies.lookup roomId).isSome = true by decide +kernel)
  have hlen : (roomShared.lobbies.lookup roomId).map (·.clients.keys.length) = some 2 := by
    decide +kernel
  rw [hl] at hlen
  obtain ⟨-, hhost, -, hmuted, -⟩ := (lobby_state_invariant roomShared_run).1 roomId lobby hl
  exact ⟨lobby, hl, Option.some.inj hlen, hhost, hmuted⟩

end

end MctierSignaling
