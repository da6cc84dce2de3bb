import MctierSignaling.Sends

/-!
# Who was told a chat token

A chat token leaves the server in two kinds of frame: the reply to a registration, which its
handler owes from the commit on, and the notices of a rotation, whose recipients are looked up
again when they are sent. `Told` says that a connection was sent a token, or is about to be. If no
token is drawn twice, the connections that were told the token of a lobby are the connections of its
members: every section that removes or replaces a member draws a new token, and every later frame
with it goes to a member found in the lobby.
-/

namespace MctierSignaling

section
variable {H : Crypto} {cfg : ServerConfig}

/-! ## Frames with a token -/

/-- A token and its epoch. -/
abbrev Token := String × Nat

/-- The frame tells the connection this token. -/
def Delivery.Tells (d : Delivery) (m : ConnId) (tok : Token) : Prop :=
  d.to_ = m ∧ d.frame.chatToken = some tok

/-- The token of a commit. -/
def Commit.token (commit : Commit H cfg) : Token := (commit.chatToken, commit.chatTokenEpoch)

/-- A connection was sent a token, or some handler is about to send it: in a frame that is ready, or
in the reply that the connection's own handler owes. -/
inductive Told (s : Sys H cfg) (m : ConnId) : Token → Prop
  | sent {e : Sent} {tok : Token} : e ∈ s.log → e.delivery.Tells m tok → Told s m tok
  | ready {k : ConnId} {d : Delivery} {tok : Token} : (s.conns k).task.Ready d → d.Tells m tok →
      Told s m tok
  | owed {commit : Commit H cfg} : (s.conns m).task.Owes commit → Told s m commit.token

/-- The connection is a member's, of a lobby with this token. -/
def Holds (sh : Shared) (m : ConnId) (token : String) : Prop :=
  ∃ l lobby c info, sh.lobbies.lookup l = some lobby ∧ lobby.chatToken = token ∧
    lobby.clients.lookup c = some info ∧ info.sender = m

variable {s s' : Sys H cfg} {k m : ConnId} {tok : Token} {env : Env} {d : Delivery}

theorem Delivery.Plain.tells (h : d.Plain) : ¬ d.Tells m tok :=
  fun htells => nomatch h.chatToken.symm.trans htells.2

/-- A snapshot tells a token only to members of the lobby that has it. -/
theorem Op.start_tells {op : Op} {session : Option RegisteredSession} (hop : op.Snapshot)
    (hok : OpOk session op) (hd : Job.send d ∈ op.start s.shared k env) (h : d.Tells m tok) :
    Holds s.shared m tok.1 := by
  obtain ⟨rfl, htok⟩ := h
  cases op with
  | jobs => exact hop.elim
  | sendTo lobbyId clientId message =>
    obtain ⟨d', hd', heq⟩ := List.mem_map.1 hd
    cases heq
    obtain ⟨lobby, target, -, -, rfl⟩ := mem_sendToLobbyClient hd'
    exact absurd (hok.tokenless.symm.trans htok) nofun
  | broadcast lobbyId excludeId message =>
    obtain ⟨d', hd', heq⟩ := List.mem_map.1 hd
    cases heq
    obtain ⟨lobby, id, target, -, -, -, rfl⟩ := mem_broadcastToLobby hd'
    exact absurd (hok.tokenless.symm.trans htok) nofun
  | rotation targets lobbyId chatToken chatTokenEpoch =>
    obtain ⟨d', hd', heq⟩ := List.mem_map.1 hd
    cases heq
    obtain ⟨lobby, id, client, hl, htoken, -, -, hc, rfl⟩ := mem_sendChatTokenRotation hd'
    cases htok
    exact ⟨lobbyId, lobby, id, client, hl, htoken, hc, rfl⟩
  | roster | publicList | communityList | communitySubmit =>
    cases List.mem_singleton.1 hd
    cases htok

/-! ## Steps -/

/-- What is told after a step was told before, or is told to a member of the lobby that has the
token. -/
theorem told_step {act : Action} (hinv : SysInv s) (h : SysStep s act s') (htold : Told s' m tok) :
    Told s m tok ∨ Holds s'.shared m tok.1 := by
  cases htold with
  | sent he htells =>
    rcases log_step h he with he | hready | hplain
    · exact .inl (.sent he htells)
    · exact .inl (.ready hready htells)
    · exact absurd htells hplain.tells
  | @ready k d _ hready htells =>
    obtain hready | hplain | ⟨env, rfl, horigin⟩ := ready_step h hready
    · exact .inl (.ready hready htells)
    · exact absurd htells hplain.tells
    cases horigin with
    | @snapshot op pending next ht hop hd =>
      have hok := hinv.task k
      rw [ht] at hok
      obtain rfl := (exec_cases h).of_snapshot ht hop
      exact .inr (Op.start_tells hop (hok op List.mem_cons_self) hd htells)
    | @success commit ht hcurrent heq =>
      subst heq
      obtain ⟨rfl, htok⟩ := htells
      cases htok
      have howes : (s.conns k).task.Owes commit := by rw [ht]; rfl
      exact .inl (.owed howes)
    | plain hplain => exact absurd htells hplain.tells
  | owed howes =>
    obtain howes | ⟨env, a, rfl, ht, hreg, -⟩ := owes_step h howes
    · exact .inl (.owed howes)
    · have hsender := (hinv.registering ht).2.2
      refine .inr ⟨a.lobbyId, _, a.cid, a.clientInfo env.draws.generation,
        by rw [hreg.lookup, if_pos rfl], ?_, ?_, hsender⟩
      · rw [hreg.commit_eq]
        rfl
      · rw [Admission.enter_clients, HashMap.lookup_insert_ite, if_pos rfl]

/-- A lobby after a step has the token and the members it had, or a token that the step drew; at
most one lobby has a new token. -/
theorem drawn_step {act : Action} (hlobby : LobbyInv s.shared) (h : SysStep s act s') :
    ∃ drawn l₀, s'.issued = drawn ++ s.issued ∧
      ∀ l lobby', s'.shared.lobbies.lookup l = some lobby' →
        (l = l₀ ∧ lobby'.chatToken ∈ drawn) ∨ ∃ lobby, s.shared.lobbies.lookup l = some lobby ∧
          lobby'.chatToken = lobby.chatToken ∧ lobby'.clients = lobby.clients := by
  have hkept : ∀ {s' : Sys H cfg}, s'.issued = s.issued → s'.shared.lobbies = s.shared.lobbies →
      ∃ drawn l₀, s'.issued = drawn ++ s.issued ∧
        ∀ l lobby', s'.shared.lobbies.lookup l = some lobby' →
          (l = l₀ ∧ lobby'.chatToken ∈ drawn) ∨ ∃ lobby, s.shared.lobbies.lookup l = some lobby ∧
            lobby'.chatToken = lobby.chatToken ∧ lobby'.clients = lobby.clients :=
    fun hissued hlobbies =>
      ⟨[], "", hissued, fun l lobby' hl => .inr ⟨lobby', hlobbies ▸ hl, rfl, rfl⟩⟩
  cases step_cases h with
  | moved hexec =>
    cases hexec with
    | @committed a sh commit ht hreg =>
      rename_i k env
      refine ⟨[env.draws.token], a.lobbyId, rfl, fun l lobby' hl => ?_⟩
      replace hl : sh.lobbies.lookup l = some lobby' := hl
      rw [hreg.lookup] at hl
      split at hl
      · next hlid =>
        cases hl
        exact .inl ⟨hlid, List.mem_singleton.2 hlobby.enter_token.1⟩
      · exact .inr ⟨lobby', hl, rfl, rfl⟩
    | @hostActed action session lobby lobby' notice ht hs hauth he =>
      refine ⟨notice.drawn, session.lobbyId, rfl, fun l lobby₁ hl => ?_⟩
      replace hl : (action.store s.shared session.lobbyId lobby').lobbies.lookup l = some lobby₁ :=
        hl
      rw [HostAction.store_lobbies, HashMap.lookup_insert_ite] at hl
      split at hl
      · next hlid =>
        cases hl
        cases he with
        | kicked => exact .inl ⟨hlid, List.mem_singleton.2 rfl⟩
        | _ => exact .inr ⟨lobby, hlid ▸ hauth.found, rfl, rfl⟩
      · exact .inr ⟨lobby₁, hl, rfl, rfl⟩
    | @left session lobby info sh departure ht hs hl hc hk hdep =>
      refine ⟨departure.drawn, session.lobbyId, rfl, fun l lobby₁ hl₁ => ?_⟩
      replace hl₁ : sh.lobbies.lookup l = some lobby₁ := hl₁
      obtain ⟨-, hl₁⟩ | ⟨hlid, _, _, -, rfl, rfl⟩ := hdep.lookup hl₁
      · exact .inr ⟨lobby₁, hl₁, rfl, rfl⟩
      · exact .inl ⟨hlid, List.mem_singleton.2 rfl⟩
    | _ => exact hkept rfl rfl
  | _ => exact hkept rfl rfl

/-! ## Secrecy -/

/-- What was told was drawn; the tokens of the lobbies were drawn, and differ; and the token of a
lobby was told to its members only. -/
structure Secret (s : Sys H cfg) : Prop where
  told : ∀ m tok, Told s m tok → tok.1 ∈ s.issued
  drawn : ∀ l lobby, s.shared.lobbies.lookup l = some lobby → lobby.chatToken ∈ s.issued
  distinct : ∀ l l' lobby lobby', s.shared.lobbies.lookup l = some lobby →
    s.shared.lobbies.lookup l' = some lobby' → lobby.chatToken = lobby'.chatToken → l = l'
  held : ∀ m l lobby epoch, s.shared.lobbies.lookup l = some lobby →
    Told s m (lobby.chatToken, epoch) →
      ∃ c info, lobby.clients.lookup c = some info ∧ info.sender = m

/-- A step that draws fresh tokens keeps them secret. -/
theorem Secret.step {act : Action} (hsecret : Secret s) (hr : ReachableSys s)
    (h : SysStep s act s') (hfresh : s'.issued.Nodup) : Secret s' := by
  have htold_step : ∀ m tok, Told s' m tok → Told s m tok ∨ Holds s'.shared m tok.1 :=
    fun m tok htold => told_step (ReachableSys.inv hr) h htold
  obtain ⟨drawn, l₀, hissued, hlobby⟩ := drawn_step (ReachableSys.lobbyInv hr) h
  rw [hissued] at hfresh
  have hdisjoint : ∀ t ∈ drawn, t ∉ s.issued := fun t ht ht' =>
    (List.nodup_append.1 hfresh).2.2 t ht t ht' rfl
  have hdrawn : ∀ l lobby, s'.shared.lobbies.lookup l = some lobby →
      lobby.chatToken ∈ s'.issued := by
    intro l lobby' hl
    rw [hissued]
    rcases hlobby l lobby' hl with ⟨-, ht⟩ | ⟨lobby, hl, htoken, -⟩
    · exact List.mem_append_left _ ht
    · exact List.mem_append_right _ (htoken ▸ hsecret.drawn l lobby hl)
  have hdistinct : ∀ l l' lobby lobby', s'.shared.lobbies.lookup l = some lobby →
      s'.shared.lobbies.lookup l' = some lobby' → lobby.chatToken = lobby'.chatToken → l = l' := by
    intro l₁ l₂ lobby₁ lobby₂ hl₁ hl₂ heq
    rcases hlobby l₁ lobby₁ hl₁ with ⟨h₁, ht₁⟩ | ⟨old₁, hold₁, htoken₁, -⟩ <;>
      rcases hlobby l₂ lobby₂ hl₂ with ⟨h₂, ht₂⟩ | ⟨old₂, hold₂, htoken₂, -⟩
    · rw [h₁, h₂]
    · refine absurd (hsecret.drawn _ _ hold₂) (hdisjoint _ ?_)
      rwa [← htoken₂, ← heq]
    · refine absurd (hsecret.drawn _ _ hold₁) (hdisjoint _ ?_)
      rwa [← htoken₁, heq]
    · exact hsecret.distinct _ _ _ _ hold₁ hold₂ (htoken₁.symm.trans (heq.trans htoken₂))
  refine ⟨fun m tok htold => ?_, hdrawn, hdistinct, fun m l lobby' epoch hl htold => ?_⟩
  · rcases htold_step m tok htold with htold | ⟨l, lobby, c, info, hl, htoken, -⟩
    · rw [hissued]
      exact List.mem_append_right _ (hsecret.told m tok htold)
    · exact htoken ▸ hdrawn l lobby hl
  · rcases htold_step m _ htold with htold | ⟨l', lobby₁, c, info, hl', htoken, hc, hm⟩
    · rcases hlobby l lobby' hl with ⟨-, ht⟩ | ⟨lobby, hl, htoken, hclients⟩
      · -- nobody was told a token before it was drawn
        exact absurd (hsecret.told m _ htold) (hdisjoint _ ht)
      · rw [htoken] at htold
        rw [hclients]
        exact hsecret.held m l lobby epoch hl htold
    · obtain rfl := hdistinct _ _ _ _ hl' hl htoken
      cases hl.symm.trans hl'
      exact ⟨c, info, hc, hm⟩

/-- In a reachable state in which no token was drawn twice, tokens are secret. -/
theorem ReachableSys.secret (h : ReachableSys s) (hfresh : s.issued.Nodup) : Secret s := by
  refine h.invariant (I := fun s => s.issued.Nodup → Secret s) ?_ ?_ hfresh
  · rintro _ rfl -
    exact {
      told := fun m tok h => by
        cases h with
        | sent he => cases he
        | ready hready => exact hready.elim
        | owed howes => exact howes.elim
      drawn := fun _ _ hl => nomatch hl
      distinct := fun _ _ _ _ hl => nomatch hl
      held := fun _ _ _ _ hl => nomatch hl }
  · intro s act s' hr ih hs hfresh
    obtain ⟨drawn, -, hissued, -⟩ := drawn_step (ReachableSys.lobbyInv hr) hs
    have hbefore : s.issued.Nodup := by
      rw [hissued] at hfresh
      exact (List.nodup_append.1 hfresh).2.1
    exact (ih hbefore).step hr hs hfresh

/-- **Chat-token secrecy.** In a run that drew no token twice, a connection that was sent the
current token of a lobby, or to which some handler is about to send it, belongs to a current member:
its session is that member's entry. -/
theorem chat_token_secrecy {ts : List (Transition (Sys H cfg) Action)} (h : SysRun ts s)
    (hfresh : s.issued.Nodup) {l : String} {lobby : LobbyInfo} {epoch : Nat}
    (hl : s.shared.lobbies.lookup l = some lobby) (htold : Told s m (lobby.chatToken, epoch)) :
    ∃ c info, lobby.clients.lookup c = some info ∧ info.sender = m ∧
      (s.conns m).session = some ⟨c, l, info.sessionGeneration⟩ := by
  obtain ⟨c, info, hc, rfl⟩ :=
    (ReachableSys.secret h.reachable hfresh).held m l lobby epoch hl htold
  refine ⟨c, info, hc, rfl, ?_⟩
  exact ((ReachableSys.inv h.reachable).own l c info (Shared.member_eq_some.2 ⟨lobby, hl, hc⟩)).1

end

/-- Alice creates the room, bob joins it and is told its token, and his second connection replaces
the first one and is told the next one. -/
def readmitted : Option (Sys recordedCrypto .default) :=
  [Action.exec 1 (recordedEnv "d1" 1 true), .exec 2 (recordedEnv "d2" 2 true),
    .exec 2 (recordedEnv "" 0 true), .exec 2 (recordedEnv "" 0 true),
    .exec 2 (recordedEnv "" 0 true), .exec 3 (recordedEnv "d3" 3 true),
    .exec 3 (recordedEnv "" 0 true), .exec 3 (recordedEnv "" 0 true),
    .exec 3 (recordedEnv "" 0 true)].foldlM Sys.step handshake

/-- The token of the room was sent to bob's second connection, which is a member's; his first one
was sent the token before, and is not told this one. -/
theorem chat_token_secrecy_readmitted : ∃ s lobby, readmitted = some s ∧
    s.shared.lobbies.lookup roomId = some lobby ∧
    (∃ e ∈ s.log, e.ok = true ∧ e.delivery.Tells 3 (lobby.chatToken, 3)) ∧
    (∃ e ∈ s.log, ∃ token, e.ok = true ∧ e.delivery.Tells 2 (token, 2)) ∧
    (∃ c info, lobby.clients.lookup c = some info ∧ info.sender = 3 ∧
      (s.conns 3).session = some ⟨c, roomId, info.sessionGeneration⟩) ∧
    ¬ Told s 2 (lobby.chatToken, 3) := by
  have hrun : (readmitted.bind fun s => (s.shared.lobbies.lookup roomId).bind fun lobby =>
      s.log[0]?.bind fun e => s.log[1]?.bind fun e' =>
        if s.issued.Nodup ∧ lobby.clients.entries.map (·.2.sender) = [3, 1] ∧
          e.ok = true ∧ e.delivery.to_ = 3 ∧
          e.delivery.frame.chatToken = some (lobby.chatToken, 3) ∧ e'.ok = true ∧
          e'.delivery.to_ = 2 ∧ e'.delivery.frame.chatToken.map (·.2) = some 2
        then some () else none) = some () := by decide +kernel
  obtain ⟨s, hs, hrun⟩ := Option.bind_eq_some_iff.1 hrun
  obtain ⟨lobby, hl, hrun⟩ := Option.bind_eq_some_iff.1 hrun
  obtain ⟨e, he, hrun⟩ := Option.bind_eq_some_iff.1 hrun
  obtain ⟨e', he', hrun⟩ := Option.bind_eq_some_iff.1 hrun
  obtain ⟨ts, hts⟩ := Reachable.foldlM handshake_reachable hs
  split at hrun
  · next hcond =>
    obtain ⟨hfresh, hsenders, hok, hto, htoken, hok', hto', htoken'⟩ := hcond
    obtain ⟨⟨token, epoch⟩, htoken', heq⟩ := Option.map_eq_some_iff.1 htoken'
    obtain rfl : epoch = 2 := heq
    have he : e ∈ s.log := List.mem_of_getElem? he
    have he' : e' ∈ s.log := List.mem_of_getElem? he'
    refine ⟨s, lobby, hs, hl, ⟨e, he, hok, hto, htoken⟩, ⟨e', he', token, hok', hto', htoken'⟩,
      chat_token_secrecy hts hfresh hl (.sent he ⟨hto, htoken⟩), fun htold => ?_⟩
    obtain ⟨c, info, hc, hsender, -⟩ := chat_token_secrecy hts hfresh hl htold
    have hmem : info.sender ∈ lobby.clients.entries.map (·.2.sender) :=
      List.mem_map.2 ⟨⟨c, info⟩, HashMap.mem_entries.2 hc, rfl⟩
    rw [hsenders, hsender] at hmem
    exact absurd hmem (by decide)
  · cases hrun

end MctierSignaling
