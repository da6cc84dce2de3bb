import MctierSignaling.Views
import MctierSignaling.TokenOrder

/-!
# Whether views converge

When nobody has news left to send, each member should know the host and the other members of its
lobby. `Informed` says of one member that what it knows is right or will be corrected. A change of a
lobby leaves news for every other member, and what a handler has to send stays with it, with two
exceptions: a registration that finds itself superseded drops its news, and a frame that is written
takes its own news away. A run with timely news (`Sys.NewsTimely`) keeps every member informed
(`views_converge`).

The server does not see to that. Unlike the notices of a rotation, which are dropped when they are
superseded, news are sent whatever happened since their lock was released: bob registers, alice
hands the room over to him, everyone is told, and then the reply to his registration tells him that
alice is the host (`views_diverge`).
-/

namespace MctierSignaling

section
variable {H : Crypto} {cfg : ServerConfig}

/-- What the member knows of its lobby is right, or will be corrected. -/
structure Informed (s : Sys H cfg) (l : String) (lobby : LobbyInfo) (c : String) (m : ConnId) :
    Prop where
  host : (s.view m).host = some lobby.hostId ∨ s.Pending l c m .host
  roster : ∀ p, s.Settled l lobby c m p ((s.view m).roster p)

/-- Every member of every lobby is informed. -/
def AllInformed (s : Sys H cfg) : Prop :=
  ∀ l lobby c info, s.shared.lobbies.lookup l = some lobby → lobby.clients.lookup c = some info →
    Informed s l lobby c info.sender

/-- The step carries the news for the member on, except that a client joined whose registration is
unchecked when it loses its entry. -/
def Carries (s s' : Sys H cfg) (l c : String) (m : ConnId) : Prop :=
  ∀ news, s.Pending l c m news → s'.Pending l c m news ∨ ∃ p info, news = .joined p ∧
    s.shared.member l p = some info ∧ (s.conns info.sender).task.unchecked = true ∧
    s'.shared.member l p ≠ some info

variable {s s' : Sys H cfg} {k m : ConnId} {env : Env} {l c p : String} {lobby lobby' : LobbyInfo}
  {info : ClientInfo} {news : News} {generation : Option Nat} {act : Action}

/-! ## Client ids -/

/-- The fingerprint of a key is no empty text, which a broadcast to everyone excludes. -/
theorem clientIdOfKey_ne_empty {der : List UInt8} : clientIdOfKey H der ≠ "" := by
  intro h
  have hlen : (clientIdOfKey H der).toList.length = 64 := by
    simp [clientIdOfKey, hexText, List.length_flatMap]
  rw [h] at hlen
  cases hlen

/-- A member has a client id. -/
theorem member_ne_empty (h : ReachableSys s) (hm : s.shared.member l c = some info) : c ≠ "" := by
  refine h.invariant (I := fun s => ∀ l c info, s.shared.member l c = some info → c ≠ "") ?_ ?_
    l c info hm
  · rintro _ rfl l c info hm
    cases hm
  · intro s act s' hr ih hst l c info hm
    rcases member_step (ReachableSys.inv hr) hst hm with ⟨a, env, hcommits⟩ | hm
    · obtain ⟨der, -, -, -, -, -, -, -, -, hcid⟩ := a.verified
      rw [← hcommits.cid, hcid]
      exact clientIdOfKey_ne_empty
    · exact ih l c info hm

/-! ## What stays on its way -/

/-- What a member should have of a client is the client's entry. -/
theorem LobbyInfo.actual_roster {sh : Shared} (hl : sh.lobbies.lookup l = some lobby) :
    (lobby.actual c).roster p =
      if p = c then none else (sh.member l p).map (·.sessionGeneration) := by
  simp only [LobbyInfo.actual, Shared.member, hl, Option.bind_some]

/-- A step of one handler carries news on if it keeps those of this handler. -/
theorem Carries.of_untouched (hu : ∀ k', k' ≠ k → Untouched (s.conns k') (s'.conns k'))
    (hactor : ∀ news, (s.conns k).task.Reports s.shared k l c m news → s'.Pending l c m news) :
    Carries s s' l c m := by
  rintro news ⟨k', h⟩
  by_cases hk : k' = k
  · subst hk
    exact .inl (hactor news h)
  have htask := (hu k' hk).task
  cases hbefore : (s.conns k').task with
  | committed commit | confirmed commit =>
    rw [hbefore] at h htask
    rcases h with hown | ⟨hl, hc, rfl, info, hm, hsender⟩
    · refine .inl ⟨k', ?_⟩
      rw [htask]
      exact .inl hown
    by_cases hm' : s'.shared.member l commit.session.clientId = some info
    · refine .inl ⟨k', ?_⟩
      rw [htask]
      exact .inr ⟨hl, hc, rfl, info, hm', hsender⟩
    · refine .inr ⟨_, info, rfl, hm, ?_, hm'⟩
      rw [hsender, hbefore]
      rfl
  | ops =>
    refine .inl ⟨k', ?_⟩
    rw [htask, hbefore]
    rwa [hbefore] at h
  | _ =>
    rw [hbefore] at h
    exact h.elim

/-- News other than that a client joined are carried on. -/
theorem Carries.kept (h : Carries s s' l c m) (hnews : ∀ p, news ≠ .joined p)
    (hp : s.Pending l c m news) : s'.Pending l c m news := by
  rcases h news hp with hp | ⟨p, _, heq, -⟩
  · exact hp
  · exact absurd heq (hnews p)

/-- The news that a client joined are carried on while it keeps its entry. -/
theorem Carries.joined (h : Carries s s' l c m)
    (hmember : s'.shared.member l p = s.shared.member l p) (hp : s.Pending l c m (.joined p)) :
    s'.Pending l c m (.joined p) := by
  rcases h _ hp with hp | ⟨_, info, heq, hm, -, hm'⟩
  · exact hp
  · cases heq
    exact absurd (hmember.trans hm) hm'

/-- What is settled of a client that keeps its entry stays so. -/
theorem Sys.Settled.carry (h : s.Settled l lobby c m p generation) (hc : Carries s s' l c m)
    (hl : s.shared.lobbies.lookup l = some lobby) (hl' : s'.shared.lobbies.lookup l = some lobby')
    (hmember : s'.shared.member l p = s.shared.member l p) :
    s'.Settled l lobby' c m p generation := by
  have hactual : (lobby'.actual c).roster p = (lobby.actual c).roster p := by
    rw [LobbyInfo.actual_roster hl', LobbyInfo.actual_roster hl, hmember]
  rcases h with hright | hp | hp | ⟨hgone, g, hg, hp⟩
  · exact .inl (hright.trans hactual.symm)
  · exact .inr (.inl (hc.kept (fun _ => nofun) hp))
  · exact .inr (.inr (.inl (hc.joined hmember hp)))
  · exact .inr (.inr (.inr ⟨hactual.trans hgone, g, hg, hc.kept (fun _ => nofun) hp⟩))

/-- A member stays informed if a new host is news, and what is settled of a client whose entry
changes stays so. -/
theorem Informed.carry (h : Informed s l lobby c m) (hc : Carries s s' l c m)
    (hview : s'.view m = s.view m) (hl : s.shared.lobbies.lookup l = some lobby)
    (hl' : s'.shared.lobbies.lookup l = some lobby')
    (hhost : lobby'.hostId = lobby.hostId ∨ s'.Pending l c m .host)
    (hroster : ∀ p, s'.shared.member l p ≠ s.shared.member l p →
      s.Settled l lobby c m p ((s.view m).roster p) →
      s'.Settled l lobby' c m p ((s.view m).roster p)) : Informed s' l lobby' c m where
  host := by
    rw [hview]
    rcases h.host with hright | hp
    · rcases hhost with heq | hp
      · exact .inl (heq ▸ hright)
      · exact .inr hp
    · exact .inr (hc.kept (fun _ => nofun) hp)
  roster p := by
    rw [hview]
    by_cases hmember : s'.shared.member l p = s.shared.member l p
    · exact (h.roster p).carry hc hl hl' hmember
    · exact hroster p hmember (h.roster p)

/-- A step of one handler keeps every member informed if it tells nobody anything, changes no lobby,
and keeps what this handler reports. -/
theorem AllInformed.of_kept (hall : AllInformed s)
    (hu : ∀ k', k' ≠ k → Untouched (s.conns k') (s'.conns k'))
    (hview : ∀ m, s'.view m = s.view m) (hlobbies : s'.shared.lobbies = s.shared.lobbies)
    (hactor : ∀ l lobby c info news, s.shared.lobbies.lookup l = some lobby →
      lobby.clients.lookup c = some info →
      (s.conns k).task.Reports s.shared k l c info.sender news →
      s'.Pending l c info.sender news) : AllInformed s' := by
  intro l lobby c info hl hc
  have hl₀ : s.shared.lobbies.lookup l = some lobby := hlobbies ▸ hl
  refine (hall l lobby c info hl₀ hc).carry
    (.of_untouched hu fun news => hactor l lobby c info news hl₀ hc) (hview _) hl₀ hl (.inl rfl) ?_
  intro p hmember
  exact absurd (by rw [Shared.member, Shared.member, hlobbies]) hmember

/-- A step of one handler that reported nothing keeps every member informed if it tells nobody
anything, changes one lobby, and leaves the members of that informed. -/
theorem AllInformed.of_lobby (l₀ : String) (hall : AllInformed s)
    (hu : ∀ k', k' ≠ k → Untouched (s.conns k') (s'.conns k'))
    (hview : ∀ m, s'.view m = s.view m)
    (hother : ∀ l, l ≠ l₀ → s'.shared.lobbies.lookup l = s.shared.lobbies.lookup l)
    (hsilent : ∀ l c m news, ¬ (s.conns k).task.Reports s.shared k l c m news)
    (hnew : ∀ lobby c info, s'.shared.lobbies.lookup l₀ = some lobby →
      lobby.clients.lookup c = some info → Informed s' l₀ lobby c info.sender) :
    AllInformed s' := by
  intro l lobby c info hl hc
  by_cases hlid : l = l₀
  · subst hlid
    exact hnew lobby c info hl hc
  have hl₀ : s.shared.lobbies.lookup l = some lobby := hother l hlid ▸ hl
  refine (hall l lobby c info hl₀ hc).carry
    (.of_untouched hu fun news h => absurd h (hsilent _ _ _ _)) (hview _) hl₀ hl (.inl rfl) ?_
  intro p hmember
  exact absurd (by rw [Shared.member, Shared.member, hother l hlid]) hmember

/-! ## Steps that change a lobby -/

/-- A commit keeps every member informed: it will tell its own connection the host and the roster,
and the others its client. -/
theorem AllInformed.committed {a : Admission H cfg} {sh : Shared} {commit : Commit H cfg}
    (hinv : SysInv s) (hall : AllInformed s) (ht : (s.conns k).task = .registration a)
    (hreg : Registers s.shared a s.now env.draws sh commit) :
    AllInformed { (s.setShared sh).setConn k
      { s.conns k with session := some commit.session, task := .committed commit } with
      issued := env.draws.token :: s.issued } := by
  have hsender := (hinv.registering ht).2.2
  have hsession : commit.session = ⟨a.cid, a.lobbyId, env.draws.generation⟩ := by
    rw [hreg.commit_eq]
    rfl
  have hu : ∀ k', k' ≠ k → Untouched (s.conns k') (((s.setShared sh).setConn k
      { s.conns k with session := some commit.session, task := .committed commit }).conns k') :=
    fun _ hk => Sys.setConn_untouched hk
  refine hall.of_lobby a.lobbyId hu (fun _ => rfl)
    (fun l hl => (hreg.lookup l).trans (if_neg hl)) (fun l c m news => by rw [ht]; exact id)
    fun lobby' c info hl hc => ?_
  have hlookup : lobby' = a.enter (a.entered s.shared env.draws) env.draws :=
    Option.some.inj (hl.symm.trans ((hreg.lookup _).trans (if_pos rfl)))
  rw [hlookup, Admission.enter_clients, HashMap.lookup_insert_ite] at hc
  by_cases hcid : c = a.cid
  · rw [if_pos hcid] at hc
    cases hc
    constructor
    case host =>
      refine .inr ⟨k, ?_⟩
      dsimp only
      rw [Sys.setConn_self]
      exact .inl ⟨hsender.symm, .inl rfl⟩
    case roster =>
      refine fun p => .inr (.inl ⟨k, ?_⟩)
      dsimp only
      rw [Sys.setConn_self]
      exact .inl ⟨hsender.symm, .inr rfl⟩
  rw [if_neg hcid] at hc
  -- the lobby has another member, so it was there before
  cases hold : s.shared.lobbies.lookup a.lobbyId with
  | none =>
    rw [Admission.entered, hold] at hc
    cases hc
  | some lobby =>
    have hentered : a.entered s.shared env.draws = lobby := by rw [Admission.entered, hold]; rfl
    rw [hentered] at hc hlookup
    refine (hall _ lobby c info hold hc).carry
      (.of_untouched hu fun news h => by rw [ht] at h; exact h.elim) rfl hold hl
      (.inl (by rw [hlookup, Admission.enter_hostId])) fun p hmember _ => ?_
    have hp : p = a.cid := by
      by_contra hp
      refine hmember ?_
      show sh.member a.lobbyId p = _
      rw [hreg.member, if_neg fun h => hp h.2]
    refine .inr (.inr (.inl ⟨k, ?_⟩))
    dsimp only
    rw [Sys.setConn_self, hp]
    refine .inr ⟨by rw [hsession], by rw [hsession]; exact Ne.symm hcid, by rw [hsession],
      a.clientInfo env.draws.generation, ?_, hsender⟩
    show sh.member a.lobbyId commit.session.clientId = _
    rw [hsession, hreg.member, if_pos ⟨rfl, rfl⟩]

/-- What is settled of a client stays so when the client is removed, if it is news that it left, and
its registration is not unchecked. -/
theorem Sys.Settled.removed (h : s.Settled l lobby c m p generation) (hc : Carries s s' l c m)
    (hl : s.shared.lobbies.lookup l = some lobby) (hl' : s'.shared.lobbies.lookup l = some lobby')
    (hp : p ≠ c) (hm : s.shared.member l p = some info) (hm' : s'.shared.member l p = none)
    (hchecked : (s.conns info.sender).task.unchecked = false)
    (hleft : s'.Pending l c m (.left p info.sessionGeneration)) :
    s'.Settled l lobby' c m p generation := by
  have hactual : (lobby.actual c).roster p = some info.sessionGeneration := by
    rw [LobbyInfo.actual_roster hl, if_neg hp, hm]
    rfl
  have hgone : (lobby'.actual c).roster p = none := by
    rw [LobbyInfo.actual_roster hl', if_neg hp, hm']
    rfl
  rcases h with hright | hpending | hpending | ⟨hnone, -⟩
  · exact .inr (.inr (.inr ⟨hgone, _, hright.trans hactual, hleft⟩))
  · exact .inr (.inl (hc.kept (fun _ => nofun) hpending))
  · rcases hc _ hpending with hpending | ⟨_, info', heq, hinfo', hunchecked, -⟩
    · exact .inr (.inr (.inl hpending))
    · cases heq
      cases hm.symm.trans hinfo'
      rw [hchecked] at hunchecked
      cases hunchecked
  · rw [hactual] at hnone
    cases hnone

/-- A cleanup keeps every member informed: it will tell the others that its client left, and who is
the host now. -/
theorem AllInformed.left {session : RegisteredSession} {sh : Shared} {departure : Departure}
    (hr : ReachableSys s) (hall : AllInformed s) (ht : (s.conns k).task = .cleanup)
    (hs : (s.conns k).session = some session)
    (hl₀ : s.shared.lobbies.lookup session.lobbyId = some lobby)
    (hc₀ : lobby.clients.lookup session.clientId = some info) (hk : info.sender = k)
    (hdep : Departs s.shared session env.draws.token lobby sh departure) :
    AllInformed { (s.setShared sh).setTask k (.ops departure.notifications .returned) with
      issued := departure.drawn ++ s.issued } := by
  have hu : ∀ k', k' ≠ k → Untouched (s.conns k') (((s.setShared sh).setTask k
      (.ops departure.notifications .returned)).conns k') :=
    fun _ hk => Sys.setConn_untouched hk
  have hmember := fun l c => hdep.member (l := l) (c := c) hl₀
  have hsilent : ∀ l c m news, ¬ (s.conns k).task.Reports s.shared k l c m news := by
    intro l c m news
    rw [ht]
    exact id
  refine hall.of_lobby session.lobbyId hu (fun _ => rfl) (fun l hl => hdep.lookup_ne hl) hsilent
    fun lobby' c info' hl hc => ?_
  have hm' : sh.member session.lobbyId c = some info' := Shared.member_eq_some.2 ⟨lobby', hl, hc⟩
  rw [hmember] at hm'
  split at hm'
  · cases hm'
  next hne =>
  have hne : c ≠ session.clientId := fun hc => hne ⟨rfl, hc⟩
  obtain ⟨lobby₁, hl₁, hc'⟩ := Shared.member_eq_some.1 hm'
  cases hl₀.symm.trans hl₁
  have hcarries := Carries.of_untouched (l := session.lobbyId) (c := c) (m := info'.sender) hu
    fun news h => absurd h (hsilent _ _ _ _)
  have hreports : ∀ op ∈ departure.notifications, ∀ news,
      op.Reports k session.lobbyId c info'.sender news → Sys.Pending
        { (s.setShared sh).setTask k (.ops departure.notifications .returned) with
          issued := departure.drawn ++ s.issued } session.lobbyId c info'.sender news := by
    intro op hop news h
    refine ⟨k, ?_⟩
    dsimp only
    rw [Sys.setTask_self]
    exact ⟨op, hop, h⟩
  refine (hall _ lobby c info' hl₀ hc').carry hcarries rfl hl₀ hl ?_ fun p hchanged hsettled => ?_
  · obtain ⟨hlid, -⟩ | ⟨-, lobby₁, newHost, hh, rfl, rfl⟩ := hdep.lookup hl
    · exact absurd rfl hlid
    cases hh with
    | keeps => exact .inl rfl
    | @passes next =>
      have hc : "" ≠ c := (member_ne_empty hr hm').symm
      refine .inr (hreports (.broadcast session.lobbyId "" (.hostChanged next)) ?_ _
        ⟨rfl, hc, rfl⟩)
      simp [Departure.notifications]
  have hp : p = session.clientId := by
    by_contra hp
    refine hchanged ?_
    show sh.member session.lobbyId p = _
    rw [hmember, if_neg fun h => hp h.2]
  subst hp
  have hm := Shared.member_eq_some.2 ⟨lobby, hl₀, hc₀⟩
  have hgeneration : session.generation = info.sessionGeneration := by
    have hown := ((ReachableSys.inv hr).own _ _ _ hm).1
    rw [hk, hs] at hown
    exact congrArg RegisteredSession.generation (Option.some.inj hown)
  refine hsettled.removed hcarries hl₀ hl hne.symm hm ?_ ?_ ?_
  · show sh.member session.lobbyId session.clientId = none
    rw [hmember, if_pos ⟨rfl, rfl⟩]
  · rw [hk, ht]
    rfl
  · refine hreports (.broadcast session.lobbyId session.clientId
      (.playerLeft session.clientId session.generation)) ?_ _ ⟨rfl, hne.symm, ?_⟩
    · have hsession : departure.session = session := by cases hdep <;> rfl
      simp [Departure.notifications, hsession]
    · rw [hgeneration]
      rfl

/-- A handler that has dropped its news has none on their way. -/
theorem Sys.Pending.of_dropped (h : (s.setTask k .cleanup).Pending l c m news) :
    s.Pending l c m news := by
  obtain ⟨k', h⟩ := h
  by_cases hk : k' = k
  · subst hk
    rw [Sys.setTask_self] at h
    exact h.elim
  · have hconn : (s.setTask k .cleanup).conns k' = s.conns k' := Sys.setConn_ne hk
    rw [hconn] at h
    exact ⟨k', h⟩

/-- After a timely kick, what the others have of the client is settled. -/
theorem Sys.KickTimely.settled {target : String} {removed : ClientInfo}
    (h : s.KickTimely l target removed c m)
    (hu : ∀ k', k' ≠ k → Untouched (s.conns k') (s'.conns k'))
    (hsilent : ∀ news, ¬ (s.conns k).task.Reports s.shared k l c m news)
    (hm : s.shared.member l target = some removed)
    (hgone : (lobby'.actual c).roster target = none)
    (hleft : s'.Pending l c m (.left target removed.sessionGeneration)) :
    s'.Settled l lobby' c m target ((s.view m).roster target) := by
  cases hview : (s.view m).roster target with
  | none => exact .inl hgone.symm
  | some generation =>
    -- the same step, after the handler of the client has dropped its news
    have hcarries : Carries (s.setTask removed.sender .cleanup)
        (s'.setTask removed.sender .cleanup) l c m := by
      refine Carries.of_untouched (k := k) (fun k' hk => ?_) fun news hreports => ?_
      · by_cases hk' : k' = removed.sender
        · subst hk'
          rw [Sys.setTask_self, Sys.setTask_self]
          have hunder := hu _ hk
          exact ⟨hunder.session, rfl, hunder.challenge, hunder.sourceIp, hunder.rate⟩
        · have hbefore : (s.setTask removed.sender .cleanup).conns k' = s.conns k' :=
            Sys.setConn_ne hk'
          have hafter : (s'.setTask removed.sender .cleanup).conns k' = s'.conns k' :=
            Sys.setConn_ne hk'
          rw [hbefore, hafter]
          exact hu k' hk
      · by_cases hk : k = removed.sender
        · subst hk
          rw [Sys.setTask_self] at hreports
          exact hreports.elim
        · have hbefore : (s.setTask removed.sender .cleanup).conns k = s.conns k :=
            Sys.setConn_ne hk
          rw [hbefore] at hreports
          exact absurd hreports (hsilent news)
    rcases h generation (Sys.view_roster_eq_some.1 hview) with rfl | hp | hp | hp
    · exact .inr (.inr (.inr ⟨hgone, _, rfl, hleft⟩))
    · exact .inr (.inl (.of_dropped (hcarries.kept (fun _ => nofun) hp)))
    · rcases hcarries _ hp with hp | ⟨_, info, heq, hinfo, hunchecked, -⟩
      · exact .inr (.inr (.inl hp.of_dropped))
      · cases heq
        cases hm.symm.trans hinfo
        rw [Sys.setTask_self] at hunchecked
        cases hunchecked
    · exact .inr (.inr (.inr ⟨hgone, generation, rfl,
        .of_dropped (hcarries.kept (fun _ => nofun) hp)⟩))

/-- A host action keeps every member informed, if its kick is timely: it will tell the others who is
the host now, or that the client left. -/
theorem AllInformed.hostActed {action : HostAction} {session : RegisteredSession}
    {notice : HostNotice} (hr : ReachableSys s) (hall : AllInformed s)
    (htimely : s.NewsTimely (.exec k env)) (ht : (s.conns k).task = .hostAction action)
    (hs : (s.conns k).session = some session)
    (hauth : Authorized s.shared (session.moderation k) lobby)
    (he : HostEffect env.draws.token lobby action lobby' notice) :
    AllInformed { (s.setShared (action.store s.shared session.lobbyId lobby')).setTask k
      (.ops (notice.notifications session.lobbyId) .idle) with
      issued := notice.drawn ++ s.issued } := by
  have hu : ∀ k', k' ≠ k → Untouched (s.conns k') (((s.setShared (action.store s.shared
      session.lobbyId lobby')).setTask k (.ops (notice.notifications session.lobbyId) .idle)).conns
        k') := fun _ hk => Sys.setConn_untouched hk
  have hsilent : ∀ l c m news, ¬ (s.conns k).task.Reports s.shared k l c m news := by
    intro l c m news
    rw [ht]
    exact id
  have hlookup : ∀ l, (action.store s.shared session.lobbyId lobby').lobbies.lookup l =
      if l = session.lobbyId then some lobby' else s.shared.lobbies.lookup l := fun l => by
    rw [HostAction.store_lobbies, HashMap.lookup_insert_ite]
  refine hall.of_lobby session.lobbyId hu (fun _ => rfl)
    (fun l hl => (hlookup l).trans (if_neg hl)) hsilent fun lobby₁ c info hl hc => ?_
  have hnew : lobby₁ = lobby' := Option.some.inj (hl.symm.trans ((hlookup _).trans (if_pos rfl)))
  subst hnew
  have hmember : ∀ c, (action.store s.shared session.lobbyId lobby₁).member session.lobbyId c =
      if session.lobbyId = (session.moderation k).lobbyId ∧ action.removes = some c then none
      else s.shared.member session.lobbyId c := fun c => he.member hauth.found
  have hm := Shared.member_eq_some.2 ⟨lobby₁, hl, hc⟩
  have hold : s.shared.member session.lobbyId c = some info := by
    have hafter := (hmember c).symm.trans hm
    split at hafter
    · cases hafter
    · exact hafter
  have hne : action.removes ≠ some c := fun heq => by
    have hafter := (hmember c).symm.trans hm
    rw [if_pos ⟨rfl, heq⟩] at hafter
    cases hafter
  obtain ⟨lobby₀, hl₀, hc₀⟩ := Shared.member_eq_some.1 hold
  have hfound : s.shared.lobbies.lookup session.lobbyId = some lobby := hauth.found
  cases hfound.symm.trans hl₀
  have hreports : ∀ op ∈ notice.notifications session.lobbyId, ∀ news,
      op.Reports k session.lobbyId c info.sender news → Sys.Pending
        { (s.setShared (action.store s.shared session.lobbyId lobby₁)).setTask k
          (.ops (notice.notifications session.lobbyId) .idle) with
          issued := notice.drawn ++ s.issued } session.lobbyId c info.sender news := by
    intro op hop news h
    refine ⟨k, ?_⟩
    dsimp only
    rw [Sys.setTask_self]
    exact ⟨op, hop, h⟩
  have hcarries := Carries.of_untouched (l := session.lobbyId) (c := c) (m := info.sender) hu
    fun news h => absurd h (hsilent _ _ _ _)
  refine (hall _ lobby c info hfound hc₀).carry hcarries rfl hfound hl ?_
    fun p hchanged hsettled => ?_
  · cases he with
    | transferred =>
      have hc : "" ≠ c := (member_ne_empty hr hold).symm
      exact .inr (hreports _ (List.mem_cons_of_mem _ List.mem_cons_self) _ ⟨rfl, hc, rfl⟩)
    | _ => exact .inl rfl
  have hremoves : action.removes = some p := by
    by_contra hp
    refine hchanged ?_
    show (action.store s.shared session.lobbyId lobby₁).member session.lobbyId p = _
    rw [hmember, if_neg fun h => hp h.2]
  cases he with
  | @kicked target removed htarget hremoved =>
    cases hremoves
    have hp : p ≠ c := fun heq => hne (congrArg some heq)
    have hgone := (hmember p).trans (if_pos ⟨rfl, rfl⟩)
    have hleft := hreports (.broadcast session.lobbyId p (.playerLeft p removed.sessionGeneration))
      (by simp [HostNotice.notifications]) (.left p removed.sessionGeneration) ⟨rfl, hp, rfl⟩
    have hbefore := Shared.member_eq_some.2 ⟨lobby, hfound, hremoved⟩
    cases hchecked : (s.conns removed.sender).task.unchecked with
    | false => exact hsettled.removed hcarries hfound hl hp hbefore hgone hchecked hleft
    | true =>
      simp only [Sys.NewsTimely, ht] at htimely
      refine (htimely session lobby removed hs hauth hremoved hchecked c info (Ne.symm hp)
        hc₀).settled hu (hsilent _ _ _) hbefore ?_ hleft
      rw [LobbyInfo.actual_roster hl, if_neg hp]
      exact congrArg (Option.map _) hgone
  | _ => cases hremoves

/-! ## Reads -/

/-- A commit that has news for a member has an entry of its own. -/
theorem Task.Reports.entered {sh : Shared} {commit : Commit H cfg}
    (h : (Task.committed commit : Task H cfg).Reports sh k l c info.sender news)
    (hm : sh.member l c = some info) : ∃ l c info, sh.member l c = some info ∧ info.sender = k := by
  rcases h with ⟨hk, -⟩ | ⟨-, -, -, info', hm', hsender⟩
  · exact ⟨l, c, info, hm, hk.symm⟩
  · exact ⟨_, _, info', hm', hsender⟩

/-- The notices after a commit are the news that the commit had. -/
theorem Commit.notifications_reports {commit : Commit H cfg} {sh : Shared}
    (h : (Task.committed commit : Task H cfg).Reports sh k l c m news) :
    ∃ op ∈ commit.notifications k, op.Reports k l c m news := by
  unfold Commit.notifications
  rcases h with ⟨rfl, rfl | rfl⟩ | ⟨hl, hc, rfl, -⟩
  · refine ⟨.reply k commit.success, by simp, MctierSignaling.reply k commit.success, ?_, rfl, rfl⟩
    exact List.mem_singleton.2 rfl
  · exact ⟨.roster commit.session.lobbyId (some commit.session.clientId), by simp, rfl, rfl⟩
  · exact ⟨.broadcast commit.session.lobbyId commit.session.clientId commit.joined, by simp, hl, hc,
      rfl⟩

/-- A read keeps the news of its handler: a registration of a member is current, and unflagged if no
member is flagged. -/
theorem Read.reports {task : Task H cfg} (hinv : SysInv s) (hgone : ∀ m, Flagged s m → Gone s m)
    (hl : s.shared.lobbies.lookup l = some lobby) (hc : lobby.clients.lookup c = some info)
    (h : Read s k env (s.conns k).task task)
    (hreports : (s.conns k).task.Reports s.shared k l c info.sender news) :
    task.Reports s.shared k l c info.sender news := by
  have hok := hinv.task k
  have hm := Shared.member_eq_some.2 ⟨lobby, hl, hc⟩
  generalize (s.conns k).task = before at h hreports hok
  cases h with
  | stale | current | unmapped | found | named | elsewhere | mapped => exact hreports.elim
  | flagged hd =>
    obtain ⟨l', c', info', hm', hsender⟩ := Task.Reports.entered hreports hm
    exact absurd hsender ((hgone k (.inl hd)).absent l' c' info' hm')
  | unflagged => exact hreports
  | superseded hnot =>
    obtain ⟨l', c', info', hm', hsender⟩ := Task.Reports.entered hreports hm
    exact absurd (hinv.current hok hm' hsender) hnot
  | confirmed => exact Commit.notifications_reports hreports
  | finished =>
    obtain ⟨op, hop, -⟩ := hreports
    cases hop
  | ran =>
    obtain ⟨op, hop, hreports⟩ := hreports
    rcases List.mem_cons.1 hop with rfl | hop
    · obtain ⟨d, hd, -⟩ := hreports
      cases hd
    · exact ⟨op, hop, hreports⟩
  | @started op pending next hsnap =>
    obtain ⟨op', hop, hreports⟩ := hreports
    rcases List.mem_cons.1 hop with rfl | hop
    · cases op' with
      | broadcast lobbyId excludeId message =>
        obtain ⟨rfl, hexclude, hnews⟩ := hreports
        exact ⟨_, List.mem_cons_self, _, List.mem_map.2 ⟨_,
          broadcastToLobby_mem hl hc (Ne.symm hexclude), rfl⟩, rfl, hnews⟩
      | roster lobbyId excludeId =>
        obtain ⟨rfl, rfl⟩ := hreports
        exact ⟨_, List.mem_cons_self, _, List.mem_singleton.2 rfl, rfl, rfl⟩
      | jobs => exact hsnap.elim
      | _ => exact hreports.elim
    · exact ⟨op', List.mem_cons_of_mem _ hop, hreports⟩

/-! ## Sends -/

/-- What a connection knows after a frame was tried. -/
theorem Sys.view_log {e : Sent} (h : s'.log = e :: s.log) :
    s'.view m = if e.ok && e.delivery.to_ == m then (s.view m).apply e.delivery.frame
      else s.view m := by
  unfold Sys.view Sys.received
  rw [h, List.filterMap_cons]
  cases e.ok && e.delivery.to_ == m <;> rfl

/-- A frame without news changes nothing that a connection knows. -/
theorem Sys.view_of_news_none {e : Sent} (h : s'.log = e :: s.log)
    (hnews : e.delivery.frame.news = none) : s'.view m = s.view m := by
  rw [Sys.view_log h]
  split
  · exact View.apply_of_news_none hnews
  · rfl

/-- What is settled stays so while the news that settle it are on their way. -/
theorem Sys.Settled.mono (h : s.Settled l lobby c m p generation)
    (hroster : s.Pending l c m .roster → s'.Pending l c m .roster)
    (hjoined : s.Pending l c m (.joined p) → s'.Pending l c m (.joined p))
    (hleft : ∀ g, generation = some g → s.Pending l c m (.left p g) →
      s'.Pending l c m (.left p g)) : s'.Settled l lobby c m p generation := by
  rcases h with hright | hp | hp | ⟨hgone, g, hg, hp⟩
  · exact .inl hright
  · exact .inr (.inl (hroster hp))
  · exact .inr (.inr (.inl (hjoined hp)))
  · exact .inr (.inr (.inr ⟨hgone, g, hg, hleft g hg hp⟩))

/-- A timely frame keeps its recipient informed, if the other news stay on their way. -/
theorem Informed.sent {rest : Sys H cfg} {frame : Frame} (h : Informed s l lobby c m)
    (htimely : frame.Timely rest l lobby c m) (hview : s'.view m = (s.view m).apply frame)
    (htaken : ∀ news, s.Pending l c m news → rest.Pending l c m news ∨ frame.news = some news)
    (hrest : ∀ news, rest.Pending l c m news → s'.Pending l c m news) :
    Informed s' l lobby c m where
  host := by
    rw [hview]
    by_cases hnews : frame.news = some .host
    · exact (htimely.host hnews).imp_right (hrest _)
    · rw [View.apply_host_of_ne hnews]
      exact h.host.imp_right fun hp => hrest _ ((htaken _ hp).resolve_right hnews)
  roster p := by
    rw [hview]
    have hkept : ∀ news, frame.news ≠ some news → s.Pending l c m news → s'.Pending l c m news :=
      fun news hnews hp => hrest _ ((htaken _ hp).resolve_right hnews)
    have hinforms := htimely.informs (v := s.view m) (p := p)
    generalize frame.news = news at hinforms hkept
    cases hinforms with
    | settles hsettled => exact hsettled.mono (hrest _) (hrest _) fun g _ => hrest _
    | nothing heq hroster hjoined hleft =>
      rw [heq]
      exact (h.roster p).mono (hkept _ hroster) (hkept _ hjoined) fun g _ => hkept _ (hleft g)
    | @left g hstale heq =>
      rw [heq]
      have hsettled := h.roster p
      by_cases hbefore : (s.view m).roster p = some g
      · -- the client is gone, or its next news are on their way
        rw [if_pos hbefore]
        rcases hsettled with hright | hp | hp | ⟨hgone, -⟩
        · exact absurd hbefore (hstale (hright.symm.trans hbefore))
        · exact .inr (.inl (hkept _ nofun hp))
        · exact .inr (.inr (.inl (hkept _ nofun hp)))
        · exact .inl hgone.symm
      · rw [if_neg hbefore]
        refine hsettled.mono (hkept _ nofun) (hkept _ nofun) fun g' hg' => hkept _ fun heq => ?_
        cases heq
        exact hbefore hg'

/-- The news of a handler whose next operation is jobs. -/
theorem Task.reports_jobs {sh : Shared} {js : List Job} {pending : List Op} {next : Next} :
    (Task.ops (.jobs js :: pending) next : Task H cfg).Reports sh k l c m news ↔
      (∃ d, Job.send d ∈ js ∧ d.to_ = m ∧ d.frame.news = some news) ∨
        ∃ op ∈ pending, op.Reports k l c m news := by
  simp [Task.Reports, Op.Reports]

/-- One of the jobs of a handler takes only its own news away. -/
theorem Sys.Pending.taken {js rest : List Job} {j : Job} {pending : List Op} {next : Next}
    (ht : (s.conns k).task = .ops (.jobs js :: pending) next) (hperm : js.Perm (j :: rest))
    (h : s.Pending l c m news) :
    (s.setTask k (.ops (.jobs rest :: pending) next)).Pending l c m news ∨
      ∃ d, j = .send d ∧ d.to_ = m ∧ d.frame.news = some news := by
  obtain ⟨k', h⟩ := h
  by_cases hk : k' = k
  · subst hk
    rw [ht, Task.reports_jobs] at h
    rcases h with ⟨d, hd, hnews⟩ | hop
    · rcases List.mem_cons.1 (hperm.mem_iff.1 hd) with rfl | hd
      · exact .inr ⟨d, rfl, hnews⟩
      · refine .inl ⟨k', ?_⟩
        rw [Sys.setTask_self, Task.reports_jobs]
        exact .inl ⟨d, hd, hnews⟩
    · refine .inl ⟨k', ?_⟩
      rw [Sys.setTask_self, Task.reports_jobs]
      exact .inr hop
  · have hconn : (s.setTask k (.ops (.jobs rest :: pending) next)).conns k' = s.conns k' :=
      Sys.setConn_ne hk
    exact .inl ⟨k', hconn ▸ h⟩

/-- The news of the jobs that are left are those of the next state. -/
theorem Sys.Pending.rest {js rest : List Job} {pending : List Op} {next : Next}
    (hperm : js.Perm rest) (hu : ∀ k', k' ≠ k → Untouched (s.conns k') (s'.conns k'))
    (hshared : s'.shared.lobbies = s.shared.lobbies)
    (ht : (s'.conns k).task = .ops (.jobs rest :: pending) next)
    (h : (s.setTask k (.ops (.jobs js :: pending) next)).Pending l c m news) :
    s'.Pending l c m news := by
  obtain ⟨k', h⟩ := h
  refine ⟨k', ?_⟩
  by_cases hk : k' = k
  · subst hk
    rw [Sys.setTask_self, Task.reports_jobs] at h
    rw [ht, Task.reports_jobs]
    refine h.imp_left ?_
    rintro ⟨d, hd, hnews⟩
    exact ⟨d, hperm.mem_iff.1 hd, hnews⟩
  · have hconn : (s.setTask k (.ops (.jobs js :: pending) next)).conns k' = s.conns k' :=
      Sys.setConn_ne hk
    rw [hconn, Sys.setTask_shared] at h
    rw [(hu k' hk).task]
    cases htask : (s.conns k').task with
    | committed commit | confirmed commit =>
      rw [htask] at h
      refine h.imp_right fun ⟨hl, hc, hnews, info, hm, hsender⟩ =>
        ⟨hl, hc, hnews, info, ?_, hsender⟩
      rwa [Shared.member, hshared]
    | _ =>
      rw [htask] at h
      exact h

/-- A send that succeeds keeps every member informed, if its frame is timely. -/
theorem AllInformed.sent {js rest : List Job} {pending : List Op} {next : Next} {d : Delivery}
    (hall : AllInformed s) (htimely : s.NewsTimely (.exec k env))
    (ht : (s.conns k).task = .ops (.jobs js :: pending) next)
    (hperm : js.Perm (.send d :: rest)) (hget : js[env.pick % js.length]? = some (.send d))
    (hok : (s.send k d env.ok).2 = true)
    (hu : ∀ k', k' ≠ k → Untouched (s.conns k') (((s.send k d env.ok).1.setTask k
      (.ops (.jobs (rest ++ if (s.send k d env.ok).2 then [] else d.flag.toList.map Job.signal) ::
        pending) next)).conns k')) :
    AllInformed ((s.send k d env.ok).1.setTask k (.ops (.jobs (rest ++
      if (s.send k d env.ok).2 then [] else d.flag.toList.map Job.signal) :: pending) next)) := by
  rw [hok, if_pos rfl, List.append_nil] at hu ⊢
  intro l lobby c info hl hc
  have hl : s.shared.lobbies.lookup l = some lobby := hl
  have hview : ∀ m, ((s.send k d env.ok).1.setTask k (.ops (.jobs rest :: pending) next)).view m =
      if d.to_ = m then (s.view m).apply d.frame else s.view m := fun m => by
    have hlog : ((s.send k d env.ok).1.setTask k (.ops (.jobs rest :: pending) next)).log =
        ⟨k, d, (s.send k d env.ok).2⟩ :: s.log := rfl
    rw [Sys.view_log hlog, hok]
    simp only [Bool.true_and, beq_iff_eq]
  have hleft : js.Perm (.send d :: js.eraseIdx (env.pick % js.length)) := by
    obtain ⟨hlt, heq⟩ := List.getElem?_eq_some_iff.1 hget
    exact heq ▸ (List.getElem_cons_eraseIdx_perm hlt).symm
  have htaken : ∀ news, s.Pending l c info.sender news →
      (s.setTask k (.ops (.jobs (js.eraseIdx (env.pick % js.length)) :: pending) next)).Pending l c
        info.sender news ∨ d.to_ = info.sender ∧ d.frame.news = some news := by
    intro news hp
    rcases hp.taken ht hleft with hp | ⟨_, heq, hnews⟩
    · exact .inl hp
    · cases heq
      exact .inr hnews
  have hrest : ∀ news, (s.setTask k (.ops (.jobs (js.eraseIdx (env.pick % js.length)) :: pending)
      next)).Pending l c info.sender news → ((s.send k d env.ok).1.setTask k
        (.ops (.jobs rest :: pending) next)).Pending l c info.sender news := fun news =>
    Sys.Pending.rest (hleft.symm.trans hperm).cons_inv hu rfl (by rw [Sys.setTask_self])
  have hinformed := hall l lobby c info hl hc
  by_cases hto : d.to_ = info.sender
  · simp only [Sys.NewsTimely, ht] at htimely
    have hframe := htimely d hget l lobby c info hl hc hto.symm
    rw [hto] at hframe
    exact hinformed.sent hframe (by rw [hview, if_pos hto])
      (fun news hp => (htaken news hp).imp_right And.right) hrest
  · have hkept : ∀ news, s.Pending l c info.sender news → ((s.send k d env.ok).1.setTask k
        (.ops (.jobs rest :: pending) next)).Pending l c info.sender news := fun news hp =>
      hrest news ((htaken news hp).resolve_right fun h => hto h.1)
    constructor
    case host =>
      rw [hview, if_neg hto]
      exact hinformed.host.imp_right (hkept _)
    case roster =>
      intro p
      rw [hview, if_neg hto]
      exact (hinformed.roster p).mono (hkept _) (hkept _) fun g _ => hkept _

/-- A handler's step keeps every member informed, if its news are timely, every send succeeds, and
no member is flagged. -/
theorem AllInformed.exec (hr : ReachableSys s) (hgone : ∀ m, Flagged s m → Gone s m)
    (htimely : s.NewsTimely (.exec k env)) (hok : ∀ e ∈ s'.log, e.ok = true) (hall : AllInformed s)
    (h : Exec s k env s') : AllInformed s' := by
  have hinv := ReachableSys.inv hr
  have hu := fun k' (hk : k' ≠ k) => h.untouched hk
  cases h with
  | read hread =>
    refine hall.of_kept hu (fun _ => rfl) rfl fun l lobby c info news hl hc hreports => ⟨k, ?_⟩
    have hkept := hread.reports hinv hgone hl hc hreports
    rwa [Sys.setTask_self]
  | rejected ht | hostRefused ht | stayed ht =>
    refine hall.of_kept hu (fun _ => rfl) rfl fun l lobby c info news hl hc hreports => ?_
    rw [ht] at hreports
    exact hreports.elim
  | committed ht hreg => exact hall.committed hinv ht hreg
  | hostActed ht hs hauth he => exact hall.hostActed hr htimely ht hs hauth he
  | left ht hs hl hc hk hdep => exact hall.left hr ht hs hl hc hk hdep
  | sent ht hperm hget => exact hall.sent htimely ht hperm hget (hok _ List.mem_cons_self) hu
  | signalled ht hperm =>
    refine hall.of_kept hu (fun _ => rfl) rfl fun l lobby c info news hl hc hreports => ?_
    rcases Sys.Pending.taken ht hperm ⟨k, hreports⟩ with hp | ⟨_, heq, -⟩
    · exact hp.rest (.refl _) hu rfl (by rw [Sys.setTask_self])
    · cases heq

/-- **A step with timely news keeps every member informed**, while every send succeeds. -/
theorem AllInformed.step (hr : ReachableSys s) (hgone : ∀ m, Flagged s m → Gone s m)
    (htimely : s.NewsTimely act) (hok : ∀ e ∈ s'.log, e.ok = true) (hall : AllInformed s)
    (h : SysStep s act s') : AllInformed s' := by
  have hmove := step_cases h
  have hu : ∀ {k}, act.actor = some k → ∀ k', k' ≠ k → Untouched (s.conns k') (s'.conns k') :=
    fun hk k' hne => hmove.untouched fun heq => hne (Option.some.inj (heq.symm.trans hk))
  cases hmove with
  | @connected k challenge sourceIp ok ht =>
    refine hall.of_kept (hu rfl) (fun m => ?_) rfl fun l lobby c info news hl hc hreports => ?_
    · have hlog : (s.connect k challenge sourceIp ok).log =
          ⟨k, reply k (.serverChallenge challenge true SIGNALING_PROTOCOL_VERSION), _⟩ :: s.log :=
        rfl
      exact Sys.view_of_news_none hlog rfl
    · rw [ht] at hreports
      exact hreports.elim
  | ticked =>
    exact hall.of_kept (k := 0) (fun _ _ => .rfl) (fun _ => rfl) rfl
      fun l lobby c info news hl hc hreports => ⟨0, hreports⟩
  | refused ht | received ht | handled ht | hungUp ht =>
    refine hall.of_kept (hu rfl) (fun _ => rfl) rfl fun l lobby c info news hl hc hreports => ?_
    rw [ht] at hreports
    exact hreports.elim
  | moved hexec => exact hall.exec hr hgone htimely hok hexec

/-! ## Quiet states -/

/-- In a run with timely news in which every send succeeds, every member is informed. -/
theorem all_informed {ts : List (Transition (Sys H cfg) Action)} (h : SysRun ts s)
    (hok : ∀ e ∈ s.log, e.ok = true) (htimely : ∀ t ∈ ts, t.pre.NewsTimely t.act) :
    AllInformed s := by
  induction h with
  | start h => subst h; exact fun _ _ _ _ hl => nomatch hl
  | snoc hr hst ih =>
    have hok₀ := fun e he => hok e (log_mono hst he)
    exact (ih hok₀ fun t ht => htimely t (List.mem_cons_of_mem _ ht)).step hr.reachable
      (fun m => flagged_gone hr hok₀) (htimely _ List.mem_cons_self) hok hst

/-- Whoever has news on their way for somebody is not quiet. -/
theorem Sys.Pending.publishes (h : s.Pending l c m news) : ∃ k, (s.conns k).task.Publishes := by
  obtain ⟨k, h⟩ := h
  refine ⟨k, ?_⟩
  generalize (s.conns k).task = task at h ⊢
  cases task with
  | committed | confirmed => trivial
  | ops pending next =>
    obtain ⟨op, hop, h⟩ := h
    refine ⟨op, hop, ?_⟩
    cases op with
    | jobs js =>
      obtain ⟨d, hd, -, hnews⟩ := h
      exact ⟨d, hd, by rw [hnews]; nofun⟩
    | broadcast lobbyId excludeId message =>
      have hnews : message.news ≠ none := by rw [h.2.2]; nofun
      exact hnews
    | roster => trivial
    | _ => exact h.elim
  | _ => exact h.elim

/-- **Views converge.** In a run with timely news in which every send succeeds, whenever no handler
has news left to send, every member of every lobby knows the lobby's host, and its other members
with their generations. -/
theorem views_converge {ts : List (Transition (Sys H cfg) Action)} (h : SysRun ts s)
    (hok : ∀ e ∈ s.log, e.ok = true) (htimely : ∀ t ∈ ts, t.pre.NewsTimely t.act)
    (hquiet : ∀ k, ¬ (s.conns k).task.Publishes)
    (hl : s.shared.lobbies.lookup l = some lobby) (hc : lobby.clients.lookup c = some info) :
    s.view info.sender = lobby.actual c := by
  have hinformed := all_informed h hok htimely l lobby c info hl hc
  have hnone : ∀ news, ¬ s.Pending l c info.sender news := fun news hp =>
    have ⟨k, hk⟩ := hp.publishes
    hquiet k hk
  refine View.ext ?_ (funext fun p => ?_)
  · exact hinformed.host.resolve_right (hnone _)
  · rcases hinformed.roster p with hright | hp | hp | ⟨-, _, -, hp⟩
    · exact hright
    · exact absurd hp (hnone _)
    · exact absurd hp (hnone _)
    · exact absurd hp (hnone _)

end

/-! ## Recorded runs -/

/-- After steps of alice's and of bob's first handler, if both wait for a message, nobody has news
left to send. -/
theorem recorded_quiet {f : Sys recordedCrypto .default → Action → Option (Sys recordedCrypto _)}
    (hf : ∀ s act s', f s act = some s' → SysStep s act s') {acts : List Action}
    (hacts : (acts.all fun act => act.actor == some 1 || act.actor == some 2) = true)
    {s : Sys recordedCrypto .default} (h : acts.foldlM f handshake = some s)
    (hidle : ∀ k, k = 1 ∨ k = 2 → (s.conns k).task = .idle) (k : ConnId) :
    ¬ (s.conns k).task.Publishes := by
  by_cases hk : k = 1 ∨ k = 2
  · rw [hidle k hk]
    exact id
  have hothers : ∀ act ∈ acts, act.actor ≠ some k := by
    intro act hact heq
    have hactor := List.all_eq_true.1 hacts act hact
    rw [heq] at hactor
    exact hk (by simpa using hactor)
  rw [(Untouched.foldlM hf hothers h).task]
  rcases handshake_task k with htask | ⟨a, htask⟩ <;> rw [htask] <;> exact id

/-- Alice creates the room and bob joins it, with news that agree with it. -/
def met : Option (Sys recordedCrypto .default) :=
  (aliceSteps true ++ [Action.exec 2 (recordedEnv "d2" 2 true)] ++ recordedSteps 2 14).foldlM
    (fun s act => if s.newsAgree act then s.step act else none) handshake

/-- Bob knows the room. -/
theorem views_converge_met : ∃ s lobby info, met = some s ∧
    s.shared.lobbies.lookup roomId = some lobby ∧ lobby.clients.lookup bobId = some info ∧
    s.view info.sender = lobby.actual bobId := by
  have hrun : (met.bind fun s => (s.shared.member roomId bobId).map fun _ =>
      (s.conns 1).task.isIdle && (s.conns 2).task.isIdle && s.log.all (·.ok)) = some true := by
    decide +kernel
  obtain ⟨s, hs, hrun⟩ := Option.bind_eq_some_iff.1 hrun
  obtain ⟨info, hm, hrun⟩ := Option.map_eq_some_iff.1 hrun
  obtain ⟨lobby, hl, hc⟩ := Shared.member_eq_some.1 hm
  simp only [Bool.and_eq_true, Task.isIdle_iff, List.all_eq_true] at hrun
  obtain ⟨⟨hidle₁, hidle₂⟩, hok⟩ := hrun
  obtain ⟨ts, hts, hout⟩ := handshake_outside
  obtain ⟨ts', hts', hagree⟩ := hts.foldlM (p := Sys.newsAgree) (fun t ht => by
    cases hact : t.act with
    | exec k env => exact absurd hact (hout t ht k env)
    | _ => rfl) hs
  have hf : ∀ (s : Sys recordedCrypto .default) act s',
      (if s.newsAgree act then s.step act else none) = some s' → SysStep s act s' := by
    intro s act s' h
    split at h
    · exact h
    · cases h
  have hquiet := recorded_quiet hf (by decide +kernel) hs (by rintro k (rfl | rfl) <;> assumption)
  exact ⟨s, lobby, info, hs, hl, hc, views_converge hts' hok
    (fun t ht => Sys.newsTimely_of_newsAgree (hagree t ht)) hquiet hl hc⟩

/-- Bob's registration has committed when alice makes him the host, and his handler tells him the
host that it read there after everyone was told of the new one. -/
def misled : Option (Sys recordedCrypto .default) :=
  (aliceSteps true ++ [Action.exec 2 (recordedEnv "d2" 2 true),
    .receive 1 (.text (.ok (.transferHost aliceId bobId)))] ++ recordedSteps 1 12 ++
      recordedSteps 2 14).foldlM Sys.step handshake

/-- **A view that stays wrong.** Every send succeeds, nobody has news left to send, and bob, who is
the host, knows alice as the host. -/
theorem views_diverge : ∃ s : Sys recordedCrypto .default, ReachableSys s ∧
    (∀ e ∈ s.log, e.ok = true) ∧ (∀ k, ¬ (s.conns k).task.Publishes) ∧
    ∃ lobby info, s.shared.lobbies.lookup roomId = some lobby ∧
      lobby.clients.lookup bobId = some info ∧ s.view info.sender ≠ lobby.actual bobId := by
  have hrun : (misled.bind fun s => (s.shared.lobbies.lookup roomId).bind fun lobby =>
      (lobby.clients.lookup bobId).map fun info =>
      (s.conns 1).task.isIdle && (s.conns 2).task.isIdle && s.log.all (·.ok) &&
        lobby.hostId == bobId && (s.view info.sender).host == some aliceId) = some true := by
    decide +kernel
  obtain ⟨s, hs, hrun⟩ := Option.bind_eq_some_iff.1 hrun
  obtain ⟨lobby, hl, hrun⟩ := Option.bind_eq_some_iff.1 hrun
  obtain ⟨info, hc, hrun⟩ := Option.map_eq_some_iff.1 hrun
  simp only [Bool.and_eq_true, Task.isIdle_iff, List.all_eq_true, beq_iff_eq] at hrun
  obtain ⟨⟨⟨⟨hidle₁, hidle₂⟩, hok⟩, hhost⟩, hview⟩ := hrun
  have hquiet := recorded_quiet (fun _ _ _ h => h) (by decide +kernel) hs
    (by rintro k (rfl | rfl) <;> assumption)
  refine ⟨s, handshake_reachable.foldlM hs, hok, hquiet, lobby, info, hl, hc, fun heq => ?_⟩
  have hsame : some aliceId = some lobby.hostId := hview.symm.trans (congrArg View.host heq)
  rw [hhost] at hsame
  exact absurd hsame (by decide)

end MctierSignaling
