import MctierSignaling.Sessions

/-!
# Who may change a lobby

The host, the mutes and the options of a lobby change in two kinds of step only: a host action, run
by the current session of the lobby's host, and the cleanup of a member, which hands the host over
and unmutes the leaver and the new host. A member is removed by a kick, by its own cleanup or by a
registration that replaces it. A host action that is refused, at any of the three places where it
is checked, moves its own handler and changes nothing else.
-/

namespace MctierSignaling

section
variable {H : Crypto} {cfg : ServerConfig}

/-- What the host of a lobby decides. -/
structure Settings where
  hostId : String
  muted : HashSet String
  maxPlayers : Option Nat
  isPublic : Bool
  description : String
  serverNode : String

def LobbyInfo.settings (lobby : LobbyInfo) : Settings :=
  ⟨lobby.hostId, lobby.muted, lobby.maxPlayers, lobby.isPublic, lobby.description, lobby.serverNode⟩

/-- The guard of each host action: its target is a member, and a host neither kicks nor mutes
itself. -/
def HostAction.Allowed (lobby : LobbyInfo) : HostAction → Prop
  | .kickPlayer target => target ∈ lobby.clients ∧ target ≠ lobby.hostId
  | .mutePlayer target muted => target ∈ lobby.clients ∧ (muted = true → target ≠ lobby.hostId)
  | .transferHost target => target ∈ lobby.clients
  | .setLobbyOptions .. => True

/-- The handler is at the critical section of a host action that its guard allows, and its session
is the current session of the lobby's host. -/
structure MayAct (s : Sys H cfg) (k : ConnId) (action : HostAction) (session : RegisteredSession)
    (lobby : LobbyInfo) : Prop where
  task : (s.conns k).task = .hostAction action
  owned : (s.conns k).session = some session
  authorized : Authorized s.shared (session.moderation k) lobby
  allowed : action.Allowed lobby

/-- The handler is at its cleanup, and the lobby's entry of its client is its own. -/
structure Leaving (s : Sys H cfg) (k : ConnId) (session : RegisteredSession) (lobby : LobbyInfo) :
    Prop where
  task : (s.conns k).task = .cleanup
  owned : (s.conns k).session = some session
  found : s.shared.lobbies.lookup session.lobbyId = some lobby
  own : ∃ info, lobby.clients.lookup session.clientId = some info ∧ info.sender = k

variable {s s' : Sys H cfg} {k : ConnId} {env : Env} {lobby lobby' : LobbyInfo} {l c : String}
  {action : HostAction} {notice : HostNotice} {token : String} {act : Action}

theorem HostEffect.allowed (he : HostEffect token lobby action lobby' notice) :
    action.Allowed lobby := by
  cases he with
  | kicked hne htarget => exact ⟨HashMap.mem_of_lookup htarget, hne⟩
  | muted hne htarget => exact ⟨htarget, fun _ => hne⟩
  | unmuted htarget => exact ⟨htarget, nofun⟩
  | transferred htarget => exact htarget
  | options => trivial

@[simp] theorem Admission.enter_settings {a : Admission H cfg} {d : Draws} :
    (a.enter lobby d).settings = lobby.settings := by
  unfold Admission.enter
  dsimp only
  split <;> rfl

/-! ## Changes -/

/-- The settings of a lobby that exists before and after a step are changed by its host, or by a
member that leaves and hands the host over. -/
theorem settings_step (h : SysStep s act s') (hl : s.shared.lobbies.lookup l = some lobby)
    (hl' : s'.shared.lobbies.lookup l = some lobby') (hne : lobby'.settings ≠ lobby.settings) :
    (∃ k env action session, act = .exec k env ∧ session.lobbyId = l ∧
      MayAct s k action session lobby) ∨
    ∃ k env session lobby₁ newHost, act = .exec k env ∧ session.lobbyId = l ∧
      Leaving s k session lobby ∧
      HandsOver (lobby.remove session.clientId) session.clientId lobby₁ newHost ∧
      lobby'.settings = lobby₁.settings := by
  have hkept : s.shared.lobbies.lookup l = some lobby' → False := by
    intro heq
    cases hl.symm.trans heq
    exact hne rfl
  cases step_cases h with
  | moved hexec =>
    cases hexec with
    | @committed a sh commit ht hreg =>
      replace hl' : sh.lobbies.lookup l = some lobby' := hl'
      rw [hreg.lookup] at hl'
      split at hl'
      · next hlid =>
        cases hl'
        rw [Admission.enter_settings, Admission.entered, ← hlid, hl] at hne
        exact absurd rfl hne
      · exact (hkept hl').elim
    | @hostActed action session lobby₀ lobby₁ notice ht hs hauth he =>
      replace hl' : (action.store s.shared session.lobbyId lobby₁).lobbies.lookup l =
        some lobby' := hl'
      rw [HostAction.store_lobbies, HashMap.lookup_insert_ite] at hl'
      split at hl'
      · next hlid =>
        have hfound : s.shared.lobbies.lookup session.lobbyId = some lobby₀ := hauth.found
        rw [← hlid, hl] at hfound
        cases hfound
        exact .inl ⟨_, _, action, session, rfl, hlid.symm, ht, hs, hauth, he.allowed⟩
      · exact (hkept hl').elim
    | @left session lobby₀ info sh departure ht hs hfound hc hk hdep =>
      replace hl' : sh.lobbies.lookup l = some lobby' := hl'
      obtain ⟨-, hl'⟩ | ⟨rfl, _, _, hh, rfl, -⟩ := hdep.lookup hl'
      · exact (hkept hl').elim
      · cases hl.symm.trans hfound
        exact .inr ⟨_, _, session, _, _, rfl, rfl, ⟨ht, hs, hfound, info, hc, hk⟩, hh, rfl⟩
    | _ => exact (hkept hl').elim
  | _ => exact (hkept hl').elim

/-- An entry that a step removes or replaces was kicked by the host, left by its own cleanup, or was
replaced by a registration of the same client. -/
theorem removal_step {info : ClientInfo} (h : SysStep s act s')
    (hm : s.shared.member l c = some info) (hne : s'.shared.member l c ≠ some info) :
    (∃ k env session lobby, act = .exec k env ∧ session.lobbyId = l ∧
      MayAct s k (.kickPlayer c) session lobby) ∨
    (∃ env lobby session, act = .exec info.sender env ∧ session.lobbyId = l ∧
      session.clientId = c ∧ Leaving s info.sender session lobby) ∨
    ∃ k env, ∃ a : Admission H cfg, act = .exec k env ∧ (s.conns k).task = .registration a ∧
      a.lobbyId = l ∧ a.cid = c ∧
      s'.shared.member l c = some (a.clientInfo env.draws.generation) := by
  have hsame : s'.shared.member l c = s.shared.member l c → False := fun heq => hne (heq.trans hm)
  cases step_cases h with
  | moved hexec =>
    cases hexec with
    | @committed a sh commit ht hreg =>
      have hmember : sh.member l c = _ := hreg.member
      split at hmember
      · next heq =>
        exact .inr (.inr ⟨_, _, a, rfl, ht, heq.1.symm, heq.2.symm, hmember⟩)
      · exact (hsame hmember).elim
    | @hostActed action session lobby₀ lobby₁ notice ht hs hauth he =>
      have hmember : (action.store s.shared session.lobbyId lobby₁).member l c = _ :=
        he.member hauth.found
      split at hmember
      · next heq =>
        cases he with
        | kicked hne' htarget =>
          cases heq.2
          exact .inl ⟨_, _, session, lobby₀, rfl, heq.1.symm, ht, hs, hauth,
            HashMap.mem_of_lookup htarget, hne'⟩
        | _ => cases heq.2
      · exact (hsame hmember).elim
    | @left session lobby₀ info₀ sh departure ht hs hfound hc hk hdep =>
      have hmember : sh.member l c = _ := hdep.member hfound
      split at hmember
      · next heq =>
        obtain ⟨rfl, rfl⟩ := heq
        subst hk
        cases hm.symm.trans (Shared.member_eq_some.2 ⟨lobby₀, hfound, hc⟩)
        exact .inr (.inl ⟨_, lobby₀, session, rfl, rfl, rfl, ht, hs, hfound, info, hc, rfl⟩)
      · exact (hsame hmember).elim
    | _ => exact (hsame rfl).elim
  | _ => exact (hsame rfl).elim

/-! ## Refusals -/

/-- The step only moves the handler, which waits for its next message or goes to its cleanup: the
lobbies, the reverse map, the disconnect flags and the log stay, and nothing is left to send. -/
def Refuses (s : Sys H cfg) (k : ConnId) (s' : Sys H cfg) : Prop :=
  ∃ task, (task = .idle ∨ task = .cleanup) ∧ s' = s.setTask k task

/-- A host action whose `from` is not the id of the connection's session goes no further. -/
theorem handleModerationMessage_refuses {session : Option RegisteredSession} {from_ : String}
    (h : session.map (·.clientId) ≠ some from_) :
    (handleModerationMessage session from_ action : Task H cfg) = .idle ∨
      (handleModerationMessage session from_ action : Task H cfg) = .cleanup := by
  unfold handleModerationMessage
  split
  · exact .inr rfl
  next session =>
  split
  · exact .inl rfl
  · next heq => exact absurd (congrArg some (Decidable.not_not.1 heq).symm) h

/-- A host action goes on from the reverse map only if it maps the session's client to the session's
lobby. -/
theorem mapped_step (ht : (s.conns k).task = .mapped action) (h : SysStep s (.exec k env) s') :
    Refuses s k s' ∨ ∃ session, (s.conns k).session = some session ∧
      s.shared.clientLobbyMap.lookup session.clientId = some session.lobbyId ∧
      s' = s.setTask k (.hostAction action) := by
  cases exec_cases h with
  | read hread =>
    rw [ht] at hread
    cases hread with
    | elsewhere _ htask => exact .inl ⟨_, htask, rfl⟩
    | mapped hs hl => exact .inr ⟨_, hs, hl, rfl⟩
  | rejected ht' | committed ht' | hostRefused ht' | hostActed ht' | stayed ht' | left ht'
  | sent ht' | signalled ht' => cases ht.symm.trans ht'

/-- A host action takes effect as the host's current session, with its guard met, or is refused. -/
theorem hostAction_step (ht : (s.conns k).task = .hostAction action)
    (h : SysStep s (.exec k env) s') :
    Refuses s k s' ∨ ∃ session lobby lobby' notice, MayAct s k action session lobby ∧
      HostEffect env.draws.token lobby action lobby' notice ∧
      s' = { (s.setShared (action.store s.shared session.lobbyId lobby')).setTask k
        (.ops (notice.notifications session.lobbyId) .idle) with
        issued := notice.drawn ++ s.issued } := by
  cases exec_cases h with
  | read hread => rw [ht] at hread; cases hread
  | hostRefused _ htask => exact .inl ⟨_, htask, rfl⟩
  | hostActed ht' hs hauth he =>
    cases ht.symm.trans ht'
    exact .inr ⟨_, _, _, _, ⟨ht, hs, hauth, he.allowed⟩, he, rfl⟩
  | rejected ht' | committed ht' | stayed ht' | left ht' | sent ht' | signalled ht' =>
    cases ht.symm.trans ht'

/-! ## Kicks -/

/-- What a kick does: the lobby loses the target's entry and mute and has a new token, the target is
unmapped, and the handler goes on to signal and tell the target, and to tell the others. -/
structure Kicks (s : Sys H cfg) (k : ConnId) (session : RegisteredSession) (lobby : LobbyInfo)
    (target token : String) (removed : ClientInfo) (s' : Sys H cfg) : Prop where
  lobby : ∃ lobby', s'.shared.lobbies.lookup session.lobbyId = some lobby' ∧
    lobby'.clients = lobby.clients.erase target ∧
    lobby'.settings = { lobby.settings with muted := lobby.muted.erase target } ∧
    lobby'.credentials = lobby.credentials ∧ lobby'.chatToken = token ∧
    (s'.conns k).task = .ops ((HostNotice.kicked removed target (rotationTargets lobby') token
      lobby'.chatTokenEpoch).notifications session.lobbyId) .idle
  others : ∀ l, l ≠ session.lobbyId → s'.shared.lobbies.lookup l = s.shared.lobbies.lookup l
  mapped : ∀ c, s'.shared.clientLobbyMap.lookup c =
    if c = target then none else s.shared.clientLobbyMap.lookup c
  flags : s'.shared.disconnect = s.shared.disconnect
  log : s'.log = s.log

theorem kick_step {target : String} (hinv : LobbyInv s.shared)
    (ht : (s.conns k).task = .hostAction (.kickPlayer target)) (h : SysStep s (.exec k env) s') :
    Refuses s k s' ∨ ∃ session lobby removed, MayAct s k (.kickPlayer target) session lobby ∧
      lobby.clients.lookup target = some removed ∧
      Kicks s k session lobby target env.draws.token removed s' := by
  obtain hrefused | ⟨session, lobby, lobby', notice, hmay, he, rfl⟩ := hostAction_step ht h
  · exact .inl hrefused
  cases he with
  | @kicked _ removed _ hremoved =>
    have hfound : s.shared.lobbies.lookup session.lobbyId = some lobby := hmay.authorized.found
    have hmap := (hinv.mapped target session.lobbyId).2
      ⟨removed, Shared.member_eq_some.2 ⟨lobby, hfound, hremoved⟩⟩
    refine .inr ⟨session, lobby, removed, hmay, hremoved, ?_⟩
    constructor
    case lobby =>
      refine ⟨rotateChatToken (lobby.remove target) env.draws.token, ?_, rfl, rfl, rfl, rfl, ?_⟩
      · exact AList.lookup_insert _
      · dsimp only
        rw [Sys.setTask_self]
    case others => exact fun l hl => AList.lookup_insert_ne hl
    case mapped =>
      intro c
      refine Shared.lookup_unmap.trans ?_
      simp only [Shared.setLobby_clientLobbyMap, hmap, and_true]
    case flags => rfl
    case log => rfl

/-- **Moderation authority.** At every step of every run: the settings of a lobby change only by a
host action of its own host's current session, or by the cleanup of a member that hands the host
over; an entry is removed only by a kick of the host, by its own cleanup, or by a registration that
replaces it; a host action that its session, its `from`, the reverse map, the lobby's host or its
guard does not allow is refused, without a change or a frame; and a kick removes the target only. -/
theorem moderation_authority {ts : List (Transition (Sys H cfg) Action)} (h : SysRun ts s) :
    ∀ t ∈ ts,
      (∀ l lobby lobby', t.pre.shared.lobbies.lookup l = some lobby →
        t.post.shared.lobbies.lookup l = some lobby' → lobby'.settings ≠ lobby.settings →
        (∃ k env action session, t.act = .exec k env ∧ session.lobbyId = l ∧
          MayAct t.pre k action session lobby) ∨
        ∃ k env session lobby₁ newHost, t.act = .exec k env ∧ session.lobbyId = l ∧
          Leaving t.pre k session lobby ∧
          HandsOver (lobby.remove session.clientId) session.clientId lobby₁ newHost ∧
          lobby'.settings = lobby₁.settings) ∧
      (∀ l c info, t.pre.shared.member l c = some info → t.post.shared.member l c ≠ some info →
        (∃ k env session lobby, t.act = .exec k env ∧ session.lobbyId = l ∧
          MayAct t.pre k (.kickPlayer c) session lobby) ∨
        (∃ env lobby session, t.act = .exec info.sender env ∧ session.lobbyId = l ∧
          session.clientId = c ∧ Leaving t.pre info.sender session lobby) ∨
        ∃ k env, ∃ a : Admission H cfg, t.act = .exec k env ∧
          (t.pre.conns k).task = .registration a ∧ a.lobbyId = l ∧ a.cid = c ∧
          t.post.shared.member l c = some (a.clientInfo env.draws.generation)) ∧
      (∀ k from_ action, (t.pre.conns k).session.map (·.clientId) ≠ some from_ →
        (handleModerationMessage (t.pre.conns k).session from_ action : Task H cfg) = .idle ∨
        (handleModerationMessage (t.pre.conns k).session from_ action : Task H cfg) = .cleanup) ∧
      (∀ k env action, t.act = .exec k env → (t.pre.conns k).task = .mapped action →
        (∀ session, (t.pre.conns k).session = some session →
          t.pre.shared.clientLobbyMap.lookup session.clientId ≠ some session.lobbyId) →
        Refuses t.pre k t.post) ∧
      (∀ k env action, t.act = .exec k env → (t.pre.conns k).task = .hostAction action →
        (∀ session lobby, ¬ MayAct t.pre k action session lobby) → Refuses t.pre k t.post) ∧
      (∀ k env target, t.act = .exec k env →
        (t.pre.conns k).task = .hostAction (.kickPlayer target) →
        Refuses t.pre k t.post ∨ ∃ session lobby removed,
          MayAct t.pre k (.kickPlayer target) session lobby ∧
          lobby.clients.lookup target = some removed ∧
          Kicks t.pre k session lobby target env.draws.token removed t.post) := by
  rintro ⟨pre, act, post⟩ ht
  obtain ⟨hr, hstep⟩ := h.mem ht
  dsimp only at hr hstep ⊢
  refine ⟨fun l lobby lobby' => settings_step hstep, fun l c info => removal_step hstep,
    fun k from_ action => handleModerationMessage_refuses, ?_, ?_, ?_⟩
  · rintro k env action rfl htask hmap
    obtain hrefused | ⟨session, hs, hl, -⟩ := mapped_step htask hstep
    · exact hrefused
    · exact absurd hl (hmap session hs)
  · rintro k env action rfl htask hnot
    obtain hrefused | ⟨session, lobby, -, -, hmay, -⟩ := hostAction_step htask hstep
    · exact hrefused
    · exact absurd hmay (hnot session lobby)
  · rintro k env target rfl htask
    exact kick_step (ReachableSys.lobbyInv hr) htask hstep

end

/-- Alice has the room to herself and is idle, then bob registers, and alice's kick passes the first
two checks. -/
def kicking : Option (Sys recordedCrypto .default) :=
  ([Action.exec 1 (recordedEnv "d1" 1 true)] ++
    List.replicate 10 (Action.exec 1 (recordedEnv "" 0 true)) ++
    [Action.exec 2 (recordedEnv "d2" 2 true), .receive 1 (.text (.ok (.kickPlayer aliceId bobId))),
      .exec 1 (recordedEnv "" 0 true), .exec 1 (recordedEnv "" 0 true)]).foldlM Sys.step handshake

/-- The member that a task is about to kick. -/
def Task.kickTarget {H : Crypto} {cfg : ServerConfig} : Task H cfg → Option String
  | .hostAction (.kickPlayer target) => some target
  | _ => none

/-- Alice, the host, kicks bob. -/
theorem moderation_authority_kick : ∃ s s' : Sys recordedCrypto .default,
    kicking = some s ∧ SysStep s (.exec 1 (recordedEnv "d3" 0 true)) s' ∧
    ∃ session lobby removed, MayAct s 1 (.kickPlayer bobId) session lobby ∧
      lobby.clients.lookup bobId = some removed ∧
      Kicks s 1 session lobby bobId (recordedDraws "d3" 0).token removed s' := by
  have hrun : (kicking.bind fun s => (s.step (.exec 1 (recordedEnv "d3" 0 true))).map fun s' =>
      (s.conns 1).task.kickTarget == some bobId &&
      (s.shared.member roomId bobId).isSome && (s'.shared.member roomId bobId).isNone) =
        some true := by decide +kernel
  obtain ⟨s, hs, hrun⟩ := Option.bind_eq_some_iff.1 hrun
  obtain ⟨s', hs', hrun⟩ := Option.map_eq_some_iff.1 hrun
  rw [Bool.and_eq_true, Bool.and_eq_true, beq_iff_eq] at hrun
  obtain ⟨⟨htask, hbefore⟩, hafter⟩ := hrun
  have ht : (s.conns 1).task = .hostAction (.kickPlayer bobId) := by
    unfold Task.kickTarget at htask
    split at htask
    · next heq =>
      cases htask
      exact heq
    · cases htask
  obtain ⟨ts, hts⟩ := handshake_reachable.foldlM hs
  have hkick := moderation_authority (hts.snoc hs') _ List.mem_cons_self
  obtain ⟨task, -, heq⟩ | hkick := hkick.2.2.2.2.2 1 _ bobId rfl ht
  · replace heq : s' = s.setTask 1 task := heq
    rw [heq, Sys.setTask_shared, Option.isNone_iff_eq_none] at hafter
    rw [hafter] at hbefore
    cases hbefore
  · exact ⟨s, s', hs, hs', hkick⟩

end MctierSignaling
