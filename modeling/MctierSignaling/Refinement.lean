import MctierSignaling.Rooms
import MctierSignaling.Sessions

/-!
# The server is a system of rooms

`MctierSignaling.Rooms` says what the lobby state is for; this module shows that the server does it.
Its lobbies, seen without tokens and without what members say of themselves, are rooms whose
sessions are connections (`Shared.rooms`). Every critical section that changes them is a step of the
rooms, taken by the connection that runs it, for what its handler was about to do (`rooms_step`),
and nothing else changes them; so every run of the server is a run of the rooms
(`server_refines_rooms`).
-/

namespace MctierSignaling

/-! ## Rooms of lobbies -/

/-- What a lobby has besides members and a token. -/
@[ext] structure LobbyOptions where
  lobbyName : String
  passwordHash : String
  passwordSalt : String
  maxPlayers : Option Nat
  isPublic : Bool
  isPasswordless : Bool
  description : String
  serverNode : String

/-- What a host asks of the options. -/
structure OptionsRequest where
  maxPlayers : Option Nat
  isPublic : Option Bool
  description : Option String
  serverNode : Option String

/-- A lobby as a room. -/
def LobbyInfo.room (lobby : LobbyInfo) : Room String LobbyOptions where
  host := lobby.hostId
  muted := {c | c ∈ lobby.muted}
  options := {
    lobbyName := lobby.lobbyName
    passwordHash := lobby.passwordHash
    passwordSalt := lobby.passwordSalt
    maxPlayers := lobby.maxPlayers
    isPublic := lobby.isPublic
    isPasswordless := lobby.isPasswordless
    description := lobby.description
    serverNode := lobby.serverNode }

/-- What lobbies ask. A new lobby has the name and the password of its founder, and nothing else; a
lobby opens to its password; it takes another member below the host's limit and the server's; and a
valid text, a limit, or a public setting that it may have, takes the place of the old one. -/
def lobbyPolicy (H : Crypto) : Policy String String OptionsRequest LobbyOptions where
  founds l password options :=
    generateLobbyId H options.lobbyName = l ∧
      hashLobbyPassword H options.passwordSalt password = options.passwordHash ∧
      options.isPasswordless = password.isEmpty ∧ options.maxPlayers = none ∧
      options.isPublic = false ∧ options.description = "" ∧ options.serverNode = ""
  opens options password := hashLobbyPassword H options.passwordSalt password = options.passwordHash
  takes options n := n < MAX_LOBBY_MEMBERS ∧ ∀ m ∈ options.maxPlayers, n < m
  amend request options := {
    options with
    maxPlayers := request.maxPlayers.elim options.maxPlayers requestedMaxPlayers
    isPublic := request.isPublic.elim options.isPublic
      (effectivePublicSetting · options.isPasswordless)
    description := request.description.elim options.description fun description =>
      if validText description 200 true then description else options.description
    serverNode := request.serverNode.elim options.serverNode fun serverNode =>
      if validText serverNode 512 false then serverNode else options.serverNode }

/-- A command of the host. -/
def HostAction.command : HostAction → Command String String String OptionsRequest
  | .kickPlayer target => .kick target
  | .mutePlayer target muted => if muted then .mute target else .unmute target
  | .transferHost target => .transfer target
  | .setLobbyOptions maxPlayers isPublic description serverNode =>
    .amend ⟨maxPlayers, isPublic, description, serverNode⟩

/-- What a handler is about to ask for. -/
def Task.command {H : Crypto} {cfg : ServerConfig} :
    Task H cfg → Option (Command String String String OptionsRequest)
  | .registration a => some (.enter a.cid a.lobbyId a.request.lobbyPassword)
  | .hostAction action => some action.command
  | .cleanup => some .leave
  | _ => none

section
variable {sh sh' : Shared} {l c : String} {k : ConnId} {lobby : LobbyInfo} {info : ClientInfo}

/-- The seat of a client: its lobby, and the connection of its entry there. -/
def Shared.seat (sh : Shared) (c : String) : Option (String × ConnId) := do
  let l ← sh.clientLobbyMap.lookup c
  let info ← sh.member l c
  return (l, info.sender)

theorem LobbyInv.seat (hinv : LobbyInv sh) :
    sh.seat c = some (l, k) ↔ ∃ info, sh.member l c = some info ∧ info.sender = k := by
  constructor
  · intro h
    obtain ⟨l', -, h⟩ := Option.bind_eq_some_iff.1 h
    obtain ⟨info, hinfo, h⟩ := Option.bind_eq_some_iff.1 h
    cases h
    exact ⟨info, hinfo, rfl⟩
  · rintro ⟨info, hinfo, rfl⟩
    rw [Shared.seat, (hinv.mapped c l).2 ⟨info, hinfo⟩, Option.bind_eq_bind, Option.bind_some,
      hinfo]
    rfl

/-- The members of a lobby are those who sit there. -/
theorem LobbyInv.here (hinv : LobbyInv sh) (hl : sh.lobbies.lookup l = some lobby) :
    {c | ∃ k, sh.seat c = some (l, k)} = {c | c ∈ lobby.clients} := by
  ext c
  constructor
  · rintro ⟨k, hseat⟩
    obtain ⟨info, hinfo, -⟩ := hinv.seat.1 hseat
    obtain ⟨lobby', hl', hc⟩ := Shared.member_eq_some.1 hinfo
    cases hl.symm.trans hl'
    exact HashMap.mem_of_lookup hc
  · intro hc
    obtain ⟨info, hc⟩ := Option.isSome_iff_exists.1 (AList.lookup_isSome.2 hc)
    exact ⟨info.sender, hinv.seat.2 ⟨info, Shared.member_eq_some.2 ⟨lobby, hl, hc⟩, rfl⟩⟩

/-- A room counts the members of its lobby. -/
theorem LobbyInv.ncard_here (hinv : LobbyInv sh) (hl : sh.lobbies.lookup l = some lobby) :
    {c | ∃ k, sh.seat c = some (l, k)}.ncard = lobby.clients.keys.length := by
  have hkeys : {c | c ∈ lobby.clients} = (lobby.clients.keys.toFinset : Set String) := by
    ext c
    simp [AList.mem_keys]
  rw [hinv.here hl, hkeys, Set.ncard_coe_finset,
    List.toFinset_card_of_nodup lobby.clients.keys_nodup]

/-- Every connection has one entry at most. -/
def Shared.Single (sh : Shared) : Prop :=
  ∀ l l' c c' info info', sh.member l c = some info → sh.member l' c' = some info' →
    info.sender = info'.sender → c = c'

/-- The lobby state as rooms. -/
def Shared.rooms (sh : Shared) (hinv : LobbyInv sh) (hsingle : sh.Single) :
    Rooms String String ConnId LobbyOptions where
  seat := sh.seat
  room l := (sh.lobbies.lookup l).map LobbyInfo.room
  single c c' l l' k hc hc' := by
    obtain ⟨info, hinfo, hk⟩ := hinv.seat.1 hc
    obtain ⟨info', hinfo', hk'⟩ := hinv.seat.1 hc'
    exact hsingle l l' c c' info info' hinfo hinfo' (hk.trans hk'.symm)
  opened c l k hc := by
    obtain ⟨info, hinfo, -⟩ := hinv.seat.1 hc
    obtain ⟨lobby, hl, -⟩ := Shared.member_eq_some.1 hinfo
    exact ⟨lobby.room, by rw [hl, Option.map_some]⟩
  fits l x hx := by
    obtain ⟨lobby, hl, rfl⟩ := Option.map_eq_some_iff.1 hx
    have hok := hinv.lobby l lobby hl
    rw [hinv.here hl]
    exact ⟨hok.host, hok.muted⟩

/-! ## Updates -/

/-- Where the members are the same, so are the seats. -/
theorem LobbyInv.seat_congr (hinv : LobbyInv sh) (hinv' : LobbyInv sh')
    (hmember : ∀ l c, sh'.member l c = sh.member l c) : sh'.seat c = sh.seat c := by
  refine Option.ext fun ⟨l, k⟩ => ?_
  rw [hinv'.seat, hinv.seat, hmember]

/-- Where one entry changed, of a client that was in no other lobby, so did its seat. -/
theorem LobbyInv.seat_update (hinv : LobbyInv sh) (hinv' : LobbyInv sh') {new : Option ClientInfo}
    {c' : String} (hmember : ∀ l' c', sh'.member l' c' =
      if l' = l ∧ c' = c then new else sh.member l' c')
    (hhome : ∀ l' info, sh.member l' c = some info → l' = l) :
    sh'.seat c' = if c' = c then new.map fun info => (l, info.sender) else sh.seat c' := by
  refine Option.ext fun ⟨l', k⟩ => ?_
  rw [hinv'.seat, hmember]
  by_cases hc : c' = c
  · rw [if_pos hc]
    by_cases hl : l' = l
    · rw [if_pos ⟨hl, hc⟩, hl, Option.map_eq_some_iff]
      simp only [Prod.mk.injEq, true_and]
    · rw [if_neg fun h => hl h.1]
      constructor
      · rintro ⟨info, hinfo, -⟩
        exact absurd (hhome l' info (hc ▸ hinfo)) hl
      · intro hnew
        obtain ⟨info, -, heq⟩ := Option.map_eq_some_iff.1 hnew
        exact absurd (Prod.mk.inj heq).1.symm hl
  · rw [if_neg hc, if_neg fun h => hc h.2, hinv.seat]

/-- Where one entry is gone, so is its seat. -/
theorem LobbyInv.seat_erase (hinv : LobbyInv sh) (hinv' : LobbyInv sh') {c' : String}
    (hc : sh.member l c = some info) (hmember : ∀ l' c', sh'.member l' c' =
      if l' = l ∧ c' = c then none else sh.member l' c') :
    sh'.seat c' = if c' = c then none else sh.seat c' :=
  hinv.seat_update hinv' hmember fun _ _ h => hinv.member_unique h hc

end

/-! ## Steps -/

section
variable {H : Crypto} {cfg : ServerConfig} {s s' : Sys H cfg} {act : Action}

theorem ReachableSys.single (h : ReachableSys s) : s.shared.Single := by
  intro l l' c c' info info' hinfo hinfo' hsender
  have hown := (h.inv.own l c info hinfo).1
  rw [hsender, (h.inv.own l' c' info' hinfo').1] at hown
  exact (congrArg RegisteredSession.clientId (Option.some.inj hown)).symm

/-- The rooms of a server. -/
def ReachableSys.rooms (h : ReachableSys s) : Rooms String String ConnId LobbyOptions :=
  s.shared.rooms h.lobbyInv h.single

variable {sh sh' : Shared} {hinv : LobbyInv sh} {hinv' : LobbyInv sh'} {hsingle : sh.Single}
  {hsingle' : sh'.Single} {k : ConnId}

/-! ### Registrations -/

section
variable {a : Admission H cfg} {now : Nat} {d : Draws} {commit : Commit H cfg} {lobby : LobbyInfo}

@[simp] theorem Admission.enter_room : (a.enter lobby d).room = lobby.room := by
  unfold Admission.enter
  dsimp only
  split <;> rfl

/-- A registering client is in no other lobby. -/
theorem Registers.home (h : Registers sh a now d sh' commit) (hinv : LobbyInv sh) :
    ∀ l info, sh.member l a.cid = some info → l = a.lobbyId :=
  fun l _ hinfo => h.single l (hinv.existingClientLobby hinfo)

/-- The rooms after a registration. -/
theorem Registers.rooms (h : Registers sh a now d sh' commit) {hroom hhome hfree} :
    sh'.rooms hinv' hsingle' = (sh.rooms hinv hsingle).enter a.cid a.lobbyId a.context.sender
      (a.entered sh d).room hroom hhome hfree := by
  refine Rooms.ext (funext fun c => ?_) (funext fun l => ?_)
  · rw [Rooms.enter_seat]
    exact hinv.seat_update hinv' (fun l' c' => h.member) (h.home hinv)
  · rw [Rooms.enter_room, Shared.rooms, Shared.rooms]
    dsimp only
    rw [h.lookup]
    split
    · rw [Option.map_some, Admission.enter_room]
    · rfl

/-- A registration is an entry. -/
theorem Registers.enter_step (h : Registers sh a now d sh' commit)
    (hfree : ∀ l c info, sh.member l c = some info → info.sender ≠ a.context.sender) :
    (sh.rooms hinv hsingle).Step (lobbyPolicy H) a.context.sender
      (.enter a.cid a.lobbyId a.request.lobbyPassword) (sh'.rooms hinv' hsingle') := by
  have hseat : ∀ c l, (sh.rooms hinv hsingle).seat c ≠ some (l, a.context.sender) := by
    intro c l hc
    obtain ⟨info, hinfo, hsender⟩ := hinv.seat.1 hc
    exact hfree l c info hinfo hsender
  have hhome : ∀ l k, (sh.rooms hinv hsingle).seat a.cid = some (l, k) → l = a.lobbyId := by
    intro l k hc
    obtain ⟨info, hinfo, -⟩ := hinv.seat.1 hc
    exact h.home hinv l info hinfo
  cases hl : sh.lobbies.lookup a.lobbyId with
  | none =>
    have hent : a.entered sh d = a.newLobby d := by rw [Admission.entered, hl]; rfl
    have hroom : (sh.rooms hinv hsingle).room a.lobbyId = none := by
      simp only [Shared.rooms, hl, Option.map_none]
    have hnew : (a.entered sh d).room.host = a.cid ∧ (a.entered sh d).room.muted = ∅ := by
      rw [hent]
      exact ⟨rfl, Set.eq_empty_iff_forall_notMem.2 fun _ h => by cases h⟩
    have hfounds : (lobbyPolicy H).founds a.lobbyId a.request.lobbyPassword
        (a.entered sh d).room.options := by
      rw [hent]
      exact ⟨rfl, rfl, rfl, rfl, rfl, rfl, rfl⟩
    exact h.rooms ▸ Rooms.Step.founded hroom hnew hhome hseat hfounds
  | some lobby =>
    have hent : a.entered sh d = lobby := by rw [Admission.entered, hl]; rfl
    have hroom : (sh.rooms hinv hsingle).room a.lobbyId = some (a.entered sh d).room := by
      simp only [Shared.rooms, hl, Option.map_some, hent]
    have hopens : (lobbyPolicy H).opens (a.entered sh d).room.options a.request.lobbyPassword := by
      rw [hent]
      exact h.password lobby hl
    have htakes : a.cid ∉ (sh.rooms hinv hsingle).here a.lobbyId →
        (lobbyPolicy H).takes (a.entered sh d).room.options
          ((sh.rooms hinv hsingle).here a.lobbyId).ncard := by
      intro hout
      have hfull := h.room
      rw [hent] at hfull ⊢
      have hcount : ((sh.rooms hinv hsingle).here a.lobbyId).ncard = lobby.clients.keys.length :=
        hinv.ncard_here hl
      have hnew : a.cid ∉ lobby.clients := by
        have hhere : (sh.rooms hinv hsingle).here a.lobbyId = {c | c ∈ lobby.clients} :=
          hinv.here hl
        rwa [hhere] at hout
      simp only [lobbyFull, Bool.or_eq_false_iff, decide_eq_false_iff_not, not_le, ge_iff_le,
        Option.any_eq_false] at hfull
      rw [hcount]
      refine ⟨hfull.1, fun m hm => ?_⟩
      simpa [hnew] using hfull.2 m hm
    exact h.rooms ▸ Rooms.Step.entered hroom hhome hseat hopens htakes

end

/-! ### Host actions and departures -/

section
variable {lobby lobby' : LobbyInfo} {token l c : String} {info : ClientInfo}

theorem Shared.rooms_room (hl : sh.lobbies.lookup l = some lobby) :
    (sh.rooms hinv hsingle).room l = some lobby.room := by
  simp only [Shared.rooms, hl, Option.map_some]

theorem Shared.rooms_seat (hl : sh.lobbies.lookup l = some lobby)
    (hc : lobby.clients.lookup c = some info) :
    (sh.rooms hinv hsingle).seat c = some (l, info.sender) :=
  hinv.seat.2 ⟨info, Shared.member_eq_some.2 ⟨lobby, hl, hc⟩, rfl⟩

/-- Those in the room are the members of the lobby. -/
theorem Shared.mem_here (hl : sh.lobbies.lookup l = some lobby) :
    c ∈ (sh.rooms hinv hsingle).here l ↔ c ∈ lobby.clients := by
  have hhere : (sh.rooms hinv hsingle).here l = {c | c ∈ lobby.clients} := hinv.here hl
  rw [hhere]
  rfl

/-- A member that leaves leaves the room. -/
theorem LobbyInfo.room_remove : (lobby.remove c).room = lobby.room.without c :=
  Room.ext rfl (Set.ext fun _ => AList.mem_erase.trans and_comm) rfl

/-- A new host is not muted. -/
theorem LobbyInfo.room_passTo :
    LobbyInfo.room { lobby with hostId := c, muted := lobby.muted.erase c } =
      lobby.room.passTo c :=
  Room.ext rfl (Set.ext fun _ => AList.mem_erase.trans and_comm) rfl

theorem LobbyInfo.room_mute :
    LobbyInfo.room { lobby with muted := lobby.muted.insert c () } =
      { lobby.room with muted := insert c lobby.room.muted } :=
  Room.ext rfl (Set.ext fun _ => AList.mem_insert _) rfl

theorem LobbyInfo.room_unmute :
    LobbyInfo.room { lobby with muted := lobby.muted.erase c } = lobby.room.without c :=
  Room.ext rfl (Set.ext fun _ => AList.mem_erase.trans and_comm) rfl

@[simp] theorem LobbyInfo.room_rotate : (rotateChatToken lobby token).room = lobby.room := rfl

/-- New options are the host's request. -/
theorem LobbyInfo.room_options {maxPlayers : Option Nat} {isPublic : Option Bool}
    {description serverNode : Option String} :
    (applyOptions lobby maxPlayers isPublic description serverNode).room =
      { lobby.room with
        options := (lobbyPolicy H).amend ⟨maxPlayers, isPublic, description, serverNode⟩
          lobby.room.options } := by
  cases maxPlayers <;> cases isPublic <;> cases description <;> cases serverNode <;> rfl

/-- The entry of an authorized session is its own connection's. -/
theorem Authorized.entry {session : ModerationSession} (h : Authorized sh session lobby) :
    ∃ info, lobby.clients.lookup session.clientId = some info ∧ info.sender = session.sender := by
  have hcurrent := h.current
  unfold isCurrentIn at hcurrent
  cases hc : lobby.clients.lookup session.clientId with
  | none =>
    rw [hc] at hcurrent
    cases hcurrent
  | some info =>
    rw [hc, Option.any_some, Bool.and_eq_true, beq_iff_eq, beq_iff_eq] at hcurrent
    exact ⟨info, rfl, hcurrent.2⟩

/-- A host action is a command of the host. -/
theorem HostEffect.command_step {session : ModerationSession} {action : HostAction}
    {notice : HostNotice} (hauth : Authorized sh session lobby)
    (he : HostEffect token lobby action lobby' notice)
    (hsh : sh' = action.store sh session.lobbyId lobby') :
    (sh.rooms hinv hsingle).Step (lobbyPolicy H) session.sender action.command
      (sh'.rooms hinv' hsingle') := by
  have hroom : (sh.rooms hinv hsingle).room session.lobbyId = some lobby.room :=
    Shared.rooms_room hauth.found
  have hhost : (sh.rooms hinv hsingle).seat lobby.room.host =
      some (session.lobbyId, session.sender) := by
    obtain ⟨info, hc, hsender⟩ := hauth.entry
    rw [← hsender]
    rw [← hauth.host] at hc
    exact Shared.rooms_seat hauth.found hc
  have hrooms : ∀ p, (sh'.rooms hinv' hsingle').room p =
      if p = session.lobbyId then some lobby'.room else (sh.rooms hinv hsingle).room p := by
    intro p
    rw [Shared.rooms, Shared.rooms]
    dsimp only
    rw [hsh, HostAction.store_lobbies, HashMap.lookup_insert_ite]
    split <;> rfl
  have hcommand : action.removes = none →
      lobby.room.Commanded (lobbyPolicy H) ((sh.rooms hinv hsingle).here session.lobbyId)
        action.command lobby'.room →
      (sh.rooms hinv hsingle).Step (lobbyPolicy H) session.sender action.command
        (sh'.rooms hinv' hsingle') := by
    intro hnone h
    have hreform : sh'.rooms hinv' hsingle' =
        (sh.rooms hinv hsingle).reform session.lobbyId lobby'.room
          (h.fits ((sh.rooms hinv hsingle).fits _ _ hroom)) := by
      refine Rooms.ext (funext fun c => ?_) (funext fun p => ?_)
      · refine hinv.seat_congr hinv' fun l c => ?_
        rw [hsh, he.member hauth.found, hnone, if_neg fun h => nomatch h.2]
      · rw [Rooms.reform_room, hrooms]
    exact hreform ▸ .commanded hroom hhost h
  cases he with
  | @kicked target removed hne hremoved =>
    have hseat : (sh.rooms hinv hsingle).seat target = some (session.lobbyId, removed.sender) :=
      Shared.rooms_seat hauth.found hremoved
    have hvacate : ∀ hclosed hfits, sh'.rooms hinv' hsingle' =
        (sh.rooms hinv hsingle).vacate target session.lobbyId removed.sender
          (some (lobby.room.without target)) hseat hclosed hfits := by
      intro hclosed hfits
      refine Rooms.ext (funext fun c => ?_) (funext fun p => ?_)
      · rw [Rooms.vacate_seat]
        refine hinv.seat_erase hinv' (Shared.member_eq_some.2 ⟨lobby, hauth.found, hremoved⟩)
          fun l c => ?_
        rw [hsh, HostEffect.member hauth.found (.kicked hne hremoved)]
        simp only [HostAction.removes, Option.some.injEq, eq_comm]
      · rw [Rooms.vacate_room, hrooms, LobbyInfo.room_rotate, LobbyInfo.room_remove]
    exact hvacate _ _ ▸ .kicked hroom hhost hseat hne.symm
  | muted hne hmem =>
    exact hcommand rfl (LobbyInfo.room_mute ▸ .mute ((Shared.mem_here hauth.found).2 hmem) hne)
  | unmuted hmem =>
    exact hcommand rfl (LobbyInfo.room_unmute ▸ .unmute ((Shared.mem_here hauth.found).2 hmem))
  | transferred hmem =>
    exact hcommand rfl (LobbyInfo.room_passTo ▸ .transfer ((Shared.mem_here hauth.found).2 hmem))
  | options => exact hcommand rfl (LobbyInfo.room_options ▸ .amend)

/-- A departure leaves the room. -/
theorem Departs.leave_step {session : RegisteredSession} {departure : Departure}
    (hl : sh.lobbies.lookup session.lobbyId = some lobby)
    (hc : lobby.clients.lookup session.clientId = some info)
    (h : Departs sh session token lobby sh' departure) :
    (sh.rooms hinv hsingle).Step (lobbyPolicy H) info.sender .leave (sh'.rooms hinv' hsingle') := by
  have hroom : (sh.rooms hinv hsingle).room session.lobbyId = some lobby.room :=
    Shared.rooms_room hl
  have hseat : (sh.rooms hinv hsingle).seat session.clientId =
      some (session.lobbyId, info.sender) := Shared.rooms_seat hl hc
  have hleft : lobby.room.Left ((sh.rooms hinv hsingle).here session.lobbyId) session.clientId
      ((sh'.rooms hinv' hsingle').room session.lobbyId) := by
    cases h with
    | last hempty =>
      have hnone : (Shared.rooms _ hinv' hsingle').room session.lobbyId = none := by
        simp [Shared.rooms]
      rw [hnone]
      refine .closes fun c hhere => ?_
      by_contra hne
      obtain ⟨other, hother⟩ := Option.isSome_iff_exists.1
        (AList.lookup_isSome.2 ((Shared.mem_here hl).1 hhere))
      have hgone := HashMap.isEmpty_entries_iff.1 hempty c
      rw [LobbyInfo.remove, HashMap.lookup_erase_ite, if_neg hne, hother] at hgone
      cases hgone
    | @leaves lobby' _ _ hover =>
      have hstays : (Shared.rooms _ hinv' hsingle').room session.lobbyId = some lobby'.room := by
        simp [Shared.rooms]
      rw [hstays]
      cases hover with
      | keeps hne =>
        rw [LobbyInfo.room_remove]
        exact .stays hne
      | passes heq hnext =>
        rw [LobbyInfo.room_passTo, LobbyInfo.room_remove]
        obtain ⟨hne, hnext⟩ := AList.mem_erase.1 hnext
        exact .passes heq ((Shared.mem_here hl).2 hnext) hne
  have hvacate : ∀ hclosed hfits, sh'.rooms hinv' hsingle' =
      (sh.rooms hinv hsingle).vacate session.clientId session.lobbyId info.sender
        ((sh'.rooms hinv' hsingle').room session.lobbyId) hseat hclosed hfits := by
    intro hclosed hfits
    refine Rooms.ext (funext fun c => ?_) (funext fun l => ?_)
    · rw [Rooms.vacate_seat]
      exact hinv.seat_erase hinv' (Shared.member_eq_some.2 ⟨lobby, hl, hc⟩) fun l c => h.member hl
    · rw [Rooms.vacate_room]
      split
      · next heq => rw [heq]
      · next hne => exact congrArg (Option.map LobbyInfo.room) (h.lookup_ne hne)
  exact hvacate _ _ ▸ .left hroom hseat hleft

end

/-! ### Runs -/

/-- A connection that registers has no entry. -/
theorem SysInv.no_seat (hinv : SysInv s) {a : Admission H cfg}
    (ht : (s.conns k).task = .registration a) :
    a.context.sender = k ∧ ∀ l c info, s.shared.member l c = some info → info.sender ≠ k := by
  have htask := hinv.task k
  rw [ht] at htask
  refine ⟨by rw [htask.2]; rfl, fun l c info hinfo hsender => ?_⟩
  have hown := (hinv.own l c info hinfo).1
  rw [hsender, htask.1] at hown
  cases hown

/-- **A step of the server is a step of the rooms, or moves nothing.** -/
theorem rooms_step (h : ReachableSys s) (hs : SysStep s act s') (h' : ReachableSys s') :
    h'.rooms = h.rooms ∨ ∃ k env command, act = .exec k env ∧
      (s.conns k).task.command = some command ∧
      h.rooms.Step (lobbyPolicy H) k command h'.rooms := by
  have hkept : s'.shared.lobbies = s.shared.lobbies →
      s'.shared.clientLobbyMap = s.shared.clientLobbyMap → h'.rooms = h.rooms := by
    intro hl hm
    refine Rooms.ext (funext fun c => ?_) (funext fun l => ?_)
    · refine h.lobbyInv.seat_congr h'.lobbyInv fun l c => ?_
      rw [Shared.member, hl, Shared.member]
    · exact congrArg (fun m => (AList.lookup l m).map LobbyInfo.room) hl
  rcases step_shared hs with hshared | ⟨c, hsection, hstep⟩
  · exact .inl (hkept (by rw [hshared]) (by rw [hshared]))
  have hchange := step_change hstep
  generalize hsh : s'.shared = sh at hchange
  cases hchange with
  | kept hl hm => exact .inl (hkept (hsh ▸ hl) (hsh ▸ hm))
  | registered hreg =>
    subst hsh
    cases hsection with
    | @register k env a ht =>
      obtain ⟨hself, hfree⟩ := h.inv.no_seat ht
      subst hself
      exact .inr ⟨_, env, _, rfl, by rw [ht]; rfl, hreg.enter_step hfree⟩
  | moderated hauth he =>
    cases hsection with
    | @moderate k env session action ht hsession =>
      exact .inr ⟨k, env, _, rfl, by rw [ht]; rfl, he.command_step hauth hsh⟩
  | departed hl hc hsender hdep =>
    subst hsh
    subst hsender
    cases hsection with
    | @cleanup k env session ht hsession =>
      exact .inr ⟨_, env, _, rfl, by rw [ht]; rfl, hdep.leave_step hl hc⟩

/-- The rooms of a server that is reachable. -/
def HasRooms (s : Sys H cfg) (rs : Rooms String String ConnId LobbyOptions) : Prop :=
  ∃ h : ReachableSys s, rs = h.rooms

/-- The transition of the server that a transition of the rooms stands for: the handler of the
session's connection took a step, for what it was about to ask for. -/
def Performs (u : Transition (Rooms String String ConnId LobbyOptions)
    (ConnId × Command String String String OptionsRequest))
    (t : Transition (Sys H cfg) Action) : Prop :=
  (∃ env, t.act = .exec u.act.1 env) ∧ (t.pre.conns u.act.1).task.command = some u.act.2 ∧
    HasRooms t.pre u.pre ∧ HasRooms t.post u.post

/-- The transition of the server changes nothing of the rooms. -/
def KeepsRooms (t : Transition (Sys H cfg) Action) : Prop :=
  ∃ rs, HasRooms t.pre rs ∧ HasRooms t.post rs

/-- **The server is a system of rooms.** Every run of the server, whatever is interleaved, is a run
of the rooms: it ends in the rooms of the last state, its steps are, in order, steps of the handlers
for what they were about to ask for, and all other steps of the server leave the rooms as they
are. -/
theorem server_refines_rooms {ts : List (Transition (Sys H cfg) Action)} (h : SysRun ts s) :
    ∃ us, RoomsRun (lobbyPolicy H) us (ReachableSys.rooms ⟨ts, h⟩) ∧
      Matching Performs KeepsRooms us ts := by
  have hsim : ∃ us rs, RoomsRun (lobbyPolicy H) us rs ∧ HasRooms s rs ∧
      Matching Performs KeepsRooms us ts := by
    refine h.simulate (R := HasRooms) (M := Performs) (fun s hs => ?_)
      fun s act s' rs hr hstep hrs => ?_
    · subst hs
      refine ⟨_, rfl, ⟨⟨[], .start rfl⟩, ?_⟩⟩
      exact Rooms.ext rfl rfl
    · obtain ⟨h, rfl⟩ := hrs
      have h' : ReachableSys s' := Reachable.snoc hr hstep
      rcases rooms_step h hstep h' with heq | ⟨k, env, command, hact, hcommand, hrooms⟩
      · exact .inl ⟨h', heq.symm⟩
      · exact .inr ⟨(k, command), _, hrooms, ⟨h', rfl⟩, ⟨env, hact⟩, hcommand, ⟨h, rfl⟩, h', rfl⟩
  obtain ⟨us, rs, hrun, ⟨_, rfl⟩, hmatch⟩ := hsim
  exact ⟨us, hrun, hmatch⟩

/-- After the replacement, bob sits in the room by his second connection, as the rooms have it. -/
theorem server_refines_rooms_replacement : ∃ (s : Sys recordedCrypto .default) (h : ReachableSys s),
    replacement = some s ∧ h.rooms.seat bobId = some (roomId, 3) ∧
    ∃ ts us, SysRun ts s ∧ RoomsRun (lobbyPolicy recordedCrypto) us h.rooms ∧
      Matching Performs KeepsRooms us ts := by
  have hrun : (replacement.bind fun s => s.shared.seat bobId) = some (roomId, 3) := by
    decide +kernel
  obtain ⟨s, hs, hseat⟩ := Option.bind_eq_some_iff.1 hrun
  obtain ⟨ts, hts⟩ := handshake_reachable.foldlM hs
  obtain ⟨us, hus, hmatch⟩ := server_refines_rooms hts
  exact ⟨s, ⟨ts, hts⟩, hs, hseat, ts, us, hts, hus, hmatch⟩

/-! ## Mutes -/

/-- The lobby mutes the client. -/
def Sys.Mutes (s : Sys H cfg) (l c : String) : Prop :=
  ∃ lobby, s.shared.lobbies.lookup l = some lobby ∧ c ∈ lobby.muted

instance {l c : String} : Decidable (s.Mutes l c) :=
  decidable_of_iff ((s.shared.lobbies.lookup l).any (c ∈ ·.muted) = true) (by
    cases h : s.shared.lobbies.lookup l <;> simp [Sys.Mutes, h])

/-- The client is a member of the lobby by this connection. -/
def Sys.Sits (s : Sys H cfg) (l c : String) (k : ConnId) : Prop :=
  ∃ info, s.shared.member l c = some info ∧ info.sender = k

/-- The connection is that of the lobby's host. -/
def Sys.Hosts (s : Sys H cfg) (l : String) (k : ConnId) : Prop :=
  ∃ lobby, s.shared.lobbies.lookup l = some lobby ∧ s.Sits l lobby.hostId k

/-- The transition lifted a mute: the handler of the host's connection ran a command to unmute the
client, to make it the host, or to remove it; the client's own handler ran its cleanup; or the
host's did, and the client is the host now. -/
def LiftsMute (l c : String) (t : Transition (Sys H cfg) Action) : Prop :=
  ∃ k env, t.act = .exec k env ∧
    ((∃ action, (t.pre.conns k).task = .hostAction action ∧ t.pre.Hosts l k ∧
        (action = .mutePlayer c false ∨ action = .transferHost c ∨ action = .kickPlayer c)) ∨
      (t.pre.conns k).task = .cleanup ∧ (t.pre.Sits l c k ∨ t.pre.Hosts l k ∧
        ∃ lobby, t.post.shared.lobbies.lookup l = some lobby ∧ lobby.hostId = c))

theorem ReachableSys.hosts (h : ReachableSys s) {l : String} (hhost : h.rooms.Hosts l k) :
    s.Hosts l k := by
  obtain ⟨x, hx, hseat⟩ := hhost
  obtain ⟨lobby, hl, rfl⟩ := Option.map_eq_some_iff.1 hx
  exact ⟨lobby, hl, h.lobbyInv.seat.1 hseat⟩

theorem ReachableSys.mutes (h : ReachableSys s) {l c : String} :
    h.rooms.Mutes l c ↔ s.Mutes l c := by
  constructor
  · rintro ⟨x, hx, hc⟩
    obtain ⟨lobby, hl, rfl⟩ := Option.map_eq_some_iff.1 hx
    exact ⟨lobby, hl, hc⟩
  · rintro ⟨lobby, hl, hc⟩
    exact ⟨lobby.room, Shared.rooms_room hl, hc⟩

/-- A mute that no longer holds after a step was lifted by it. -/
theorem mute_step (h : ReachableSys s) (hs : SysStep s act s') {l c : String}
    (hmuted : s.Mutes l c) (hlost : ¬ s'.Mutes l c) : LiftsMute l c ⟨s, act, s'⟩ := by
  have h' : ReachableSys s' := Reachable.snoc h hs
  rcases rooms_step h hs h' with heq | ⟨k, env, command, rfl, hcommand, hstep⟩
  · exact absurd (h'.mutes.1 (heq ▸ h.mutes.2 hmuted)) hlost
  refine ⟨k, env, rfl, ?_⟩
  have hlifts := hstep.lifts (h.mutes.2 hmuted) fun hmutes => hlost (h'.mutes.1 hmutes)
  cases ht : (s.conns k).task with
  | hostAction action =>
    rw [ht] at hcommand
    refine .inl ⟨action, rfl, ?_⟩
    cases action with
    | kickPlayer target =>
      cases hcommand
      cases hlifts with
      | kicked hhosts => exact ⟨h.hosts hhosts, .inr (.inr rfl)⟩
    | mutePlayer target muted =>
      cases muted <;> cases hcommand
      · cases hlifts with
        | unmuted hhosts => exact ⟨h.hosts hhosts, .inl rfl⟩
      · cases hlifts
    | transferHost target =>
      cases hcommand
      cases hlifts with
      | promoted hhosts => exact ⟨h.hosts hhosts, .inr (.inl rfl)⟩
    | setLobbyOptions =>
      cases hcommand
      cases hlifts
  | cleanup =>
    rw [ht] at hcommand
    refine .inr ⟨rfl, ?_⟩
    cases hcommand
    cases hlifts with
    | left hseat => exact .inl (h.lobbyInv.seat.1 hseat)
    | succeeds hhosts hx hhost =>
      obtain ⟨lobby, hl, rfl⟩ := Option.map_eq_some_iff.1 hx
      exact .inr ⟨h.hosts hhosts, lobby, hl, hhost⟩
  | registration =>
    rw [ht] at hcommand
    cases hcommand
    cases hlifts
  | _ =>
    rw [ht] at hcommand
    cases hcommand

/-- **A mute stays.** Once a client is muted in a lobby, it stays muted, over whatever else happens,
a registration on another connection included, until the host lifts the mute, the client's own
connection ends, or the client becomes the host. -/
theorem mute_sticks {mid earlier : List (Transition (Sys H cfg) Action)}
    {t : Transition (Sys H cfg) Action} {l c : String} (h : SysRun (mid ++ t :: earlier) s)
    (hmuted : t.post.Mutes l c) (hlost : ¬ s.Mutes l c) : ∃ u ∈ mid, LiftsMute l c u := by
  obtain ⟨u, hu, hpre, hpost⟩ := h.lost (P := fun s => s.Mutes l c) hmuted hlost
  obtain ⟨hr, hstep⟩ := h.mem (List.mem_append_left _ hu)
  exact ⟨u, hu, mute_step hr hstep hpre hpost⟩

end

/-- Alice and bob are in the room and idle, and alice's handler is about to mute bob. -/
def muting : Option (Sys recordedCrypto .default) :=
  ([Action.exec 1 (recordedEnv "d1" 1 true)] ++
    List.replicate 10 (Action.exec 1 (recordedEnv "" 0 true)) ++
    [Action.exec 2 (recordedEnv "d2" 2 true)] ++
    List.replicate 14 (Action.exec 2 (recordedEnv "" 0 true)) ++
    [Action.receive 1 (.text (.ok (.mutePlayer aliceId bobId true))),
      .exec 1 (recordedEnv "" 0 true), .exec 1 (recordedEnv "" 0 true)]).foldlM Sys.step handshake

/-- Alice mutes bob, and then his connection ends. -/
theorem mute_sticks_left : ∃ (s : Sys recordedCrypto .default)
    (mid earlier : List (Transition (Sys recordedCrypto .default) Action))
    (t : Transition (Sys recordedCrypto .default) Action), SysRun (mid ++ t :: earlier) s ∧
    t.post.Mutes roomId bobId ∧ ¬ s.Mutes roomId bobId ∧
    ∃ u ∈ mid, LiftsMute roomId bobId u := by
  have hrun : (do
      let muting ← muting
      let muted ← muting.step (.exec 1 (recordedEnv "" 0 true))
      let ended ← muted.step (.hangup 2)
      let left ← ended.step (.exec 2 (recordedEnv "d3" 0 true))
      return (decide (muted.Mutes roomId bobId), decide (left.Mutes roomId bobId))) =
        some (true, false) := by decide +kernel
  obtain ⟨muting, hmuting, hrun⟩ := Option.bind_eq_some_iff.1 hrun
  obtain ⟨muted, hmuted, hrun⟩ := Option.bind_eq_some_iff.1 hrun
  obtain ⟨ended, hended, hrun⟩ := Option.bind_eq_some_iff.1 hrun
  obtain ⟨left, hleft, hrun⟩ := Option.bind_eq_some_iff.1 hrun
  obtain ⟨hbefore, hafter⟩ := Prod.mk.inj (Option.some.inj hrun)
  obtain ⟨ts, hts⟩ := handshake_reachable.foldlM hmuting
  have hall : SysRun ([⟨ended, .exec 2 (recordedEnv "d3" 0 true), left⟩,
      ⟨muted, .hangup 2, ended⟩] ++ ⟨muting, .exec 1 (recordedEnv "" 0 true), muted⟩ :: ts) left :=
    ((hts.snoc hmuted).snoc hended).snoc hleft
  exact ⟨left, _, ts, _, hall, of_decide_eq_true hbefore, of_decide_eq_false hafter,
    mute_sticks hall (of_decide_eq_true hbefore) (of_decide_eq_false hafter)⟩

end MctierSignaling
