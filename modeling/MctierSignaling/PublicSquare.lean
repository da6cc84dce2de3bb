import MctierSignaling.Sessions

/-!
# The public square

`PublicLobbyListRequest` of `connection.rs` answers anyone, registered or not, with the public
lobbies. In every reachable state the answer is true: it names every public lobby once, and each
name leads to a lobby with the listed host and members that opens to the empty password
(`public_square`). So a registration for a listed lobby commits, unless the lobby is full, its
source is locked or its address taken (`listed_lobby_opens`).
-/

namespace MctierSignaling

section
variable {H : Crypto} {cfg : ServerConfig} {s : Sys H cfg} {l : String} {lobby : LobbyInfo}

/-- A lobby is under the id of its name. -/
theorem ReachableSys.lobbyName (h : ReachableSys s) (hl : s.shared.lobbies.lookup l = some lobby) :
    generateLobbyId H lobby.lobbyName = l := by
  obtain ⟨ts, hts⟩ := h.shared
  obtain ⟨_, t, _, -, hcreates, -⟩ := credentials_since hts hl
  obtain ⟨a, now, d, -, hid, hcred⟩ := hcreates.created
  rw [← hid]
  exact congrArg (generateLobbyId H) (congrArg Credentials.lobbyName hcred)

/-- A lobby without a password opens to the empty one. -/
theorem ReachableSys.passwordless (h : ReachableSys s)
    (hl : s.shared.lobbies.lookup l = some lobby) (hopen : lobby.isPasswordless = true) :
    hashLobbyPassword H lobby.passwordSalt "" = lobby.passwordHash := by
  obtain ⟨ts, hts⟩ := h.shared
  obtain ⟨_, t, _, -, hcreates, -⟩ := credentials_since hts hl
  obtain ⟨a, now, d, -, -, hcred⟩ := hcreates.created
  have hempty : a.request.lobbyPassword = "" :=
    String.isEmpty_iff.1 ((congrArg Credentials.isPasswordless hcred).symm.trans hopen)
  have hhash := congrArg Credentials.passwordHash hcred
  have hsalt := congrArg Credentials.passwordSalt hcred
  dsimp only [LobbyInfo.credentials] at hhash hsalt
  rw [hhash, hsalt, hempty]

/-- What a listing promises: a public lobby of its name, which opens to the empty password, has the
listed number of members, and has a host of the listed name among them. -/
structure Listed (H : Crypto) (sh : Shared) (i : PublicLobbyInfo) (lobby : LobbyInfo) : Prop where
  found : sh.lobbies.lookup (generateLobbyId H i.lobbyName) = some lobby
  listing : i = lobby.listing
  isPublic : lobby.isPublic = true
  opens : hashLobbyPassword H lobby.passwordSalt "" = lobby.passwordHash
  players : i.playerCount = lobby.clients.keys.length ∧ 1 ≤ i.playerCount ∧
    i.playerCount ≤ MAX_LOBBY_MEMBERS
  limit : ∀ m ∈ i.maxPlayers, 1 ≤ m ∧ m ≤ MAX_LOBBY_MEMBERS
  host : ∃ host, lobby.clients.lookup lobby.hostId = some host ∧ i.hostName = host.playerName

theorem ReachableSys.listed (h : ReachableSys s) (hl : s.shared.lobbies.lookup l = some lobby)
    (hpublic : lobby.isPublic = true) : Listed H s.shared lobby.listing lobby := by
  have hok := h.lobbyInv.lobby l lobby hl
  obtain ⟨host, hhost⟩ := HashMap.mem_keys.1 (AList.mem_keys.1 hok.host)
  exact {
    found := by
      rw [LobbyInfo.listing, h.lobbyName hl]
      exact hl
    listing := rfl
    isPublic := hpublic
    opens := h.passwordless hl (hok.publicOnly hpublic)
    players := ⟨rfl, List.length_pos_of_mem (AList.mem_keys.1 hok.host), hok.members.bounded⟩
    limit := hok.limit
    host := ⟨host, hhost, by rw [LobbyInfo.listing, hhost]; rfl⟩ }

theorem ReachableSys.listed_of_mem (h : ReachableSys s) {i : PublicLobbyInfo}
    (hi : i ∈ publicLobbies s.shared.lobbies) : ∃ lobby, Listed H s.shared i lobby := by
  obtain ⟨⟨l, lobby⟩, he, rfl⟩ := List.mem_map.1 hi
  obtain ⟨he, hpublic⟩ := List.mem_filter.1 he
  exact ⟨lobby, h.listed (HashMap.mem_entries.1 he) hpublic⟩

/-- **The public square is true.** In every reachable state, whoever asks for the public lobbies is
answered with each of them once, by names of their own; and every listing keeps its promise. -/
theorem public_square (h : ReachableSys s) (k : ConnId) (env : Env) : ∃ infos,
    Op.publicList.start s.shared k env =
      [.send (reply k (.publicLobbyListResponse infos))] ∧
    (infos.map (·.lobbyName)).Nodup ∧
    (∀ l lobby, s.shared.lobbies.lookup l = some lobby → lobby.isPublic = true →
      lobby.listing ∈ infos) ∧
    ∀ i ∈ infos, ∃ lobby, Listed H s.shared i lobby := by
  refine ⟨_, rfl, ?_, fun l lobby hl hpublic => ?_, fun i => h.listed_of_mem⟩
  · -- the ids of the names are the keys, which are distinct
    refine List.Nodup.of_map (generateLobbyId H) ?_
    have hids : ((publicLobbies s.shared.lobbies).map (·.lobbyName)).map (generateLobbyId H) =
        (s.shared.lobbies.entries.filter (·.2.isPublic)).map (·.1) := by
      rw [publicLobbies, List.map_map, List.map_map]
      refine List.map_congr_left fun e he => ?_
      exact h.lobbyName (HashMap.mem_entries.1 (List.mem_filter.1 he).1)
    rw [hids]
    exact s.shared.lobbies.keys_nodup.sublist (List.filter_sublist.map _)
  · exact List.mem_map.2 ⟨⟨l, lobby⟩,
      List.mem_filter.2 ⟨HashMap.mem_entries.2 hl, hpublic⟩, rfl⟩

/-- A registration that everything is checked for commits. -/
theorem handleV3Locked_commits {sh : Shared} {a : Admission H cfg} {now : Nat} {d : Draws}
    (hmode : entryError a.request.entryMode (a.lobbyId ∈ sh.lobbies) = none)
    (hsingle : ∀ l, existingClientLobby sh.lobbies a.cid = some l → l = a.lobbyId)
    (hunlocked : (sh.failures.isLocked (quotaSource a.context.sourceIp, a.lobbyId) now).2 = false)
    (hl : sh.lobbies.lookup a.lobbyId = some lobby)
    (hpassword : hashLobbyPassword H lobby.passwordSalt a.request.lobbyPassword =
      lobby.passwordHash)
    (haddress : addressTaken lobby a.cid a.virtualIp = false)
    (hroom : lobbyFull lobby a.cid = false) :
    (handleV3Locked sh a now d).2 = .committed (a.commitOf lobby d) := by
  have hct : ctEq (utf8Bytes (hashLobbyPassword H lobby.passwordSalt a.request.lobbyPassword))
      (utf8Bytes lobby.passwordHash) = true := ctEq_iff.2 (congrArg utf8Bytes hpassword)
  have hother : (existingClientLobby sh.lobbies a.cid).any (· != a.lobbyId) = false := by
    cases he : existingClientLobby sh.lobbies a.cid with
    | none => rfl
    | some l => simp [hsingle l he]
  unfold handleV3Locked
  dsimp only
  rw [hmode]
  dsimp only
  rw [hother, hunlocked, hl, checkPassword, hct]
  simp [haddress, hroom]

/-- A lobby that a search finds has the client as a member. -/
theorem member_of_existingClientLobby {sh : Shared} {c : String}
    (h : existingClientLobby sh.lobbies c = some l) : ∃ info, sh.member l c = some info := by
  obtain ⟨⟨l', lobby⟩, he, hif⟩ := List.exists_of_findSome?_eq_some h
  split at hif
  · next hmem =>
    cases hif
    obtain ⟨info, hinfo⟩ := HashMap.mem_keys.1 (AList.mem_keys.1 hmem)
    exact ⟨info, Shared.member_eq_some.2 ⟨lobby, HashMap.mem_entries.1 he, hinfo⟩⟩
  · cases hif

/-- An address that no other member has is free. -/
theorem MembersOk.not_taken (h : MembersOk lobby.clients) {cid : String} {ip : Ipv4Addr}
    (hfree : ∀ c info, lobby.clients.lookup c = some info → c ≠ cid →
      info.virtualIp ≠ some ip.toString) : addressTaken lobby cid ip = false := by
  refine List.any_eq_false.2 fun e he htaken => ?_
  have hc := HashMap.mem_entries.1 he
  rw [Bool.and_eq_true, bne_iff_ne, h.id _ _ hc] at htaken
  obtain ⟨ip', hip', -⟩ := h.address _ _ hc
  have hparse : parseIpv4 ip'.toString.toList = some ip' := by
    rw [Ipv4Addr.toString, String.toList_ofList, parseIpv4_text]
  rw [hip', Option.bind_some, hparse, beq_iff_eq] at htaken
  cases htaken.2
  exact hfree _ _ hc htaken.1 hip'

/-- **A listed lobby opens.** A registration for a listed name, without a password, commits,
unless it asks to create the lobby, its client is in another lobby, its source is locked, its
address is another member's, or the lobby has no place left. -/
theorem listed_lobby_opens (h : ReachableSys s) {i : PublicLobbyInfo}
    (hi : i ∈ publicLobbies s.shared.lobbies) {a : Admission H cfg} {d : Draws}
    (hname : a.request.lobbyName = i.lobbyName) (hpassword : a.request.lobbyPassword = "")
    (hmode : a.request.entryMode ≠ some .create)
    (hhome : ∀ l info, s.shared.member l a.cid = some info → l = a.lobbyId)
    (hunlocked : (s.shared.failures.isLocked
      (quotaSource a.context.sourceIp, a.lobbyId) s.now).2 = false)
    (haddress : ∀ c info, s.shared.member a.lobbyId c = some info → c ≠ a.cid →
      info.virtualIp ≠ some a.virtualIp.toString)
    (hroom : i.playerCount < MAX_LOBBY_MEMBERS ∧ ∀ m ∈ i.maxPlayers, i.playerCount < m) :
    ∃ commit, (handleV3Locked s.shared a s.now d).2 = .committed commit ∧
      commit.session = ⟨a.cid, generateLobbyId H i.lobbyName, d.generation⟩ := by
  obtain ⟨lobby, hlisted⟩ := h.listed_of_mem hi
  have hid : a.lobbyId = generateLobbyId H i.lobbyName := congrArg (generateLobbyId H) hname
  have hl : s.shared.lobbies.lookup a.lobbyId = some lobby := by
    rw [hid]
    exact hlisted.found
  have hentry : entryError a.request.entryMode (a.lobbyId ∈ s.shared.lobbies) = none := by
    have hmem : a.lobbyId ∈ s.shared.lobbies := HashMap.mem_of_lookup hl
    unfold entryError
    rw [decide_eq_true hmem]
    cases hentry : a.request.entryMode with
    | none => rfl
    | some mode =>
      cases mode with
      | create => exact absurd hentry hmode
      | join | auto => rfl
  have hsingle : ∀ l, existingClientLobby s.shared.lobbies a.cid = some l → l = a.lobbyId := by
    intro l hexisting
    obtain ⟨info, hinfo⟩ := member_of_existingClientLobby hexisting
    exact hhome l info hinfo
  have htaken : addressTaken lobby a.cid a.virtualIp = false :=
    (h.lobbyInv.lobby _ _ hl).members.not_taken fun c info hc =>
      haddress c info (Shared.member_eq_some.2 ⟨lobby, hl, hc⟩)
  have hfull : lobbyFull lobby a.cid = false := by
    have hlimit := hroom.2
    rw [hlisted.players.1, hlisted.listing] at hlimit
    rw [hlisted.players.1] at hroom
    simp only [lobbyFull, Bool.or_eq_false_iff, decide_eq_false_iff_not, not_le, ge_iff_le,
      Option.any_eq_false]
    refine ⟨hroom.1, fun m hm => ?_⟩
    have hless := hlimit m hm
    rw [decide_eq_false (Nat.not_le.2 hless), Bool.and_false]
  refine ⟨_, handleV3Locked_commits hentry hsingle hunlocked hl ?_ htaken hfull, ?_⟩
  · rw [hpassword]
    exact hlisted.opens
  · rw [← hid]
    rfl

end

/-- Alice has the room to herself, and has made it public. -/
def advertised : Option (Sys recordedCrypto .default) :=
  ([Action.exec 1 (recordedEnv "d1" 1 true)] ++
    List.replicate 10 (Action.exec 1 (recordedEnv "" 0 true)) ++
    [Action.receive 1 (.text (.ok (.setLobbyOptions aliceId (some 2) (some true) none none))),
      .exec 1 (recordedEnv "" 0 true), .exec 1 (recordedEnv "" 0 true),
      .exec 1 (recordedEnv "" 0 true)]).foldlM Sys.step handshake

/-- What the square says of the room, and that bob may enter it: he is nowhere, his source is not
locked, and his address is free. -/
theorem advertised_room : ∃ s, advertised = some s ∧ ReachableSys s ∧
    publicLobbies s.shared.lobbies = [⟨"room", 1, some 2, "alice", "", ""⟩] ∧
    s.shared.clientLobbyMap.lookup bobId = none ∧
    (s.shared.failures.isLocked (quotaSource bob.context.sourceIp, bob.lobbyId) s.now).2 = false ∧
    ∀ c info, s.shared.member roomId c = some info →
      info.virtualIp ≠ some bob.virtualIp.toString := by
  have hrun : advertised.map (fun s => (publicLobbies s.shared.lobbies,
      s.shared.clientLobbyMap.lookup bobId,
      (s.shared.failures.isLocked (quotaSource bob.context.sourceIp, bob.lobbyId) s.now).2,
      (s.shared.lobbies.lookup roomId).any fun lobby => lobby.clients.entries.all fun e =>
        e.2.virtualIp != some bob.virtualIp.toString)) =
      some ([⟨"room", 1, some 2, "alice", "", ""⟩], none, false, true) := by decide +kernel
  obtain ⟨s, hs, hrun⟩ := Option.map_eq_some_iff.1 hrun
  obtain ⟨hlist, hrun⟩ := Prod.mk.inj hrun
  obtain ⟨hmap, hrun⟩ := Prod.mk.inj hrun
  obtain ⟨hlocked, hfree⟩ := Prod.mk.inj hrun
  refine ⟨s, hs, handshake_reachable.foldlM hs, hlist, hmap, hlocked, fun c info hinfo => ?_⟩
  obtain ⟨lobby, hl, hc⟩ := Shared.member_eq_some.1 hinfo
  rw [hl, Option.any_some] at hfree
  exact bne_iff_ne.1 (List.all_eq_true.1 hfree ⟨c, info⟩ (HashMap.mem_entries.2 hc))

/-- The square lists the room, and it is as listed. -/
theorem public_square_room : ∃ s, advertised = some s ∧ ∃ i lobby, i.lobbyName = "room" ∧
    i.hostName = "alice" ∧ Listed recordedCrypto s.shared i lobby := by
  obtain ⟨s, hs, hreach, hlist, -⟩ := advertised_room
  obtain ⟨infos, hstart, -, -, hlisted⟩ := public_square hreach 1 (recordedEnv "" 0 true)
  cases hstart
  obtain ⟨lobby, hlobby⟩ := hlisted ⟨"room", 1, some 2, "alice", "", ""⟩ (by simp [hlist])
  exact ⟨s, hs, _, lobby, rfl, rfl, hlobby⟩

/-- Bob's registration for the room commits. -/
theorem listed_lobby_opens_room : ∃ s commit, advertised = some s ∧
    (handleV3Locked s.shared bob s.now (recordedDraws "d2" 2)).2 = .committed commit ∧
    commit.session.clientId = bobId := by
  obtain ⟨s, hs, hreach, hlist, hmap, hlocked, hfree⟩ := advertised_room
  obtain ⟨commit, hcommit, hsession⟩ := listed_lobby_opens hreach
    (i := ⟨"room", 1, some 2, "alice", "", ""⟩) (a := bob) (d := recordedDraws "d2" 2)
    (by simp [hlist]) rfl rfl nofun
    (fun l info hinfo => by
      have hnone := (hreach.lobbyInv.mapped _ l).2 ⟨info, hinfo⟩
      cases hmap.symm.trans hnone)
    hlocked (fun c info hinfo _ => hfree c info hinfo) (by decide)
  exact ⟨s, commit, hs, hcommit, by rw [hsession]; rfl⟩

end MctierSignaling
