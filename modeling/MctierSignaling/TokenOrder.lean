import MctierSignaling.TokenDelivery

/-!
# The order of token epochs

The epoch of a lobby's token never falls, and `send_chat_token_rotation` drops a notice whose token
is not the lobby's any more. The check and the sends are separate steps, and the reply to a
registration is sent without one: a newer token may be drawn and sent in between, and the older
frame then arrives after it (`token_overtaken`). In a run that writes every token while its
recipient is still a member of a lobby with this token (`Sys.tokensCurrent`), the epochs that a
connection receives never fall (`token_epochs_ordered`).
-/

namespace MctierSignaling

section
variable {H : Crypto} {cfg : ServerConfig}

/-- The epoch that a frame brings to a connection. -/
def Sent.epochTo (e : Sent) (m : ConnId) : Option Nat :=
  if e.ok && e.delivery.to_ == m then e.delivery.frame.chatToken.map (·.2) else none

/-- The epochs of the tokens that were sent to a connection, newest first. -/
def Sys.sentEpochs (s : Sys H cfg) (m : ConnId) : List Nat := s.log.filterMap (·.epochTo m)

/-- The epochs of the tokens that a connection receives, in the order of their arrival, which is
that of the sends on its socket. -/
def Sys.receivedEpochs (s : Sys H cfg) (m : ConnId) : List Nat := (s.sentEpochs m).reverse

/-- Whether the next frame that the handler sends, if it carries a token and is written, goes to a
member of a lobby that still has this token. -/
def Sys.tokensCurrent (s : Sys H cfg) : Action → Bool
  | .exec k env =>
    match (s.conns k).task with
    | .ops (.jobs js :: _) _ =>
      match js[env.pick % js.length]? with
      | some (.send d) =>
        !(s.send k d env.ok).2 || d.frame.chatToken.all fun tok => s.shared.holds d.to_ tok
      | _ => true
    | _ => true
  | _ => true

variable {s s' : Sys H cfg} {k m : ConnId} {env : Env} {d : Delivery}

/-! ## The epoch of a lobby -/

/-- The epoch of a lobby never falls. -/
theorem epoch_step {act : Action} {l : String} {lobby lobby' : LobbyInfo}
    (hlobby : LobbyInv s.shared) (h : SysStep s act s')
    (hl : s.shared.lobbies.lookup l = some lobby)
    (hl' : s'.shared.lobbies.lookup l = some lobby') :
    lobby.chatTokenEpoch ≤ lobby'.chatTokenEpoch := by
  obtain heq | ⟨c, -, hstep⟩ := step_shared h
  · rw [heq] at hl'
    cases hl.symm.trans hl'
    exact Nat.le_refl _
  rcases token_step hlobby hstep hl' with hdrawn | ⟨old, hold, -, hepoch, -⟩
  · have hrange := (hlobby.lobby l lobby hl).epoch
    have hnext := hdrawn.epoch
    dsimp only at hnext
    rw [hl] at hnext
    simp only [rotateChatToken] at hnext
    omega
  · cases hl.symm.trans hold
    exact Nat.le_of_eq hepoch

/-- A lobby with this token has the connection as a member. -/
theorem Shared.holds_iff {sh : Shared} {tok : Token} : sh.holds m tok = true ↔
    ∃ l lobby c info, sh.lobbies.lookup l = some lobby ∧ lobby.token = tok ∧
      lobby.clients.lookup c = some info ∧ info.sender = m := by
  constructor
  · intro h
    obtain ⟨⟨l, lobby⟩, he, h⟩ := List.any_eq_true.1 h
    obtain ⟨htok, h⟩ := Bool.and_eq_true_iff.1 h
    obtain ⟨⟨c, info⟩, hc, hm⟩ := List.any_eq_true.1 h
    exact ⟨l, lobby, c, info, HashMap.mem_entries.1 he, beq_iff_eq.1 htok,
      HashMap.mem_entries.1 hc, beq_iff_eq.1 hm⟩
  · rintro ⟨l, lobby, c, info, hl, rfl, hc, rfl⟩
    exact Shared.holds_of_member hl hc

/-! ## What is sent -/

/-- A frame that is tried adds the epoch that it brings. -/
theorem sentEpochs_log {e : Sent} (h : s'.log = e :: s.log) :
    s'.sentEpochs m = (e.epochTo m).toList ++ s.sentEpochs m := by
  unfold Sys.sentEpochs
  rw [h, List.filterMap_cons]
  cases e.epochTo m <;> rfl

/-- A frame without a token, or one that is not written, brings no epoch. -/
theorem Sent.epochTo_eq_none {e : Sent} (h : e.ok = false ∨ e.delivery.frame.chatToken = none) :
    e.epochTo m = none := by
  unfold Sent.epochTo
  split
  · next hok =>
    rcases h with h | h
    · rw [h] at hok
      cases hok
    · rw [h]
      rfl
  · rfl

/-- What a step tells the connections: nothing, or one of them a token, which is still that of a
lobby of its recipient if the step meets the condition. -/
inductive Tells (s s' : Sys H cfg) (act : Action) : Prop
  | nothing : (∀ m, s'.sentEpochs m = s.sentEpochs m) → Tells s s' act
  | token {to_ : ConnId} {tok : Token} : s'.shared = s.shared →
      (s.tokensCurrent act = true → s.shared.holds to_ tok = true) →
      (∀ m, s'.sentEpochs m = if m = to_ then tok.2 :: s.sentEpochs m else s.sentEpochs m) →
      Tells s s' act

theorem tells_step {act : Action} (h : SysStep s act s') : Tells s s' act := by
  have hquiet : s'.log = s.log → Tells s s' act := fun heq =>
    .nothing fun m => by unfold Sys.sentEpochs; rw [heq]
  have hsilent : ∀ e : Sent, s'.log = e :: s.log →
      e.ok = false ∨ e.delivery.frame.chatToken = none → Tells s s' act := fun e heq he =>
    .nothing fun m => by rw [sentEpochs_log heq, Sent.epochTo_eq_none he]; rfl
  cases step_cases h with
  | connected => exact hsilent _ rfl (.inr rfl)
  | @moved k env _ hexec =>
    cases hexec with
    | @sent js pending next d rest ht hperm hget =>
      have hlog : ((s.send k d env.ok).1.setTask k (.ops (.jobs (rest ++
          if (s.send k d env.ok).2 then [] else d.flag.toList.map Job.signal) :: pending)
          next)).log = ⟨k, d, (s.send k d env.ok).2⟩ :: s.log := rfl
      by_cases hok : (s.send k d env.ok).2 = true
      · cases htok : d.frame.chatToken with
        | none => exact hsilent _ hlog (.inr htok)
        | some tok =>
          refine @Tells.token _ _ s _ _ d.to_ tok rfl (fun hcurrent => ?_) fun m => ?_
          · simpa only [Sys.tokensCurrent, ht, hget, hok, htok, Bool.not_true, Bool.false_or,
              Option.all_some] using hcurrent
          · rw [sentEpochs_log hlog, Sent.epochTo, hok, htok]
            by_cases hm : m = d.to_
            · simp [hm]
            · simp [hm, Ne.symm hm]
      · exact hsilent _ hlog (.inl (Bool.eq_false_iff.2 hok))
    | _ => exact hquiet rfl
  | _ => exact hquiet rfl

/-! ## The order -/

/-- What every connection was sent is in order; what a member was sent is not newer than its lobby's
token; and who was sent a token has a session. -/
structure EpochsOrdered (s : Sys H cfg) : Prop where
  sorted : ∀ m, (s.sentEpochs m).Pairwise fun newer older => older ≤ newer
  current : ∀ l lobby c info, s.shared.lobbies.lookup l = some lobby →
    lobby.clients.lookup c = some info → ∀ epoch ∈ s.sentEpochs info.sender,
      epoch ≤ lobby.chatTokenEpoch
  session : ∀ m, s.sentEpochs m ≠ [] → (s.conns m).session.isSome = true

theorem EpochsOrdered.initial : EpochsOrdered (Sys.initial : Sys H cfg) where
  sorted := fun _ => .nil
  current := fun _ _ _ _ _ _ => nofun
  session := fun _ h => absurd rfl h

/-- **A step that meets the condition keeps the epochs in order.** -/
theorem EpochsOrdered.step {act : Action} (hordered : EpochsOrdered s) (hr : ReachableSys s)
    (h : SysStep s act s') (hcurrent : s.tokensCurrent act = true) : EpochsOrdered s' := by
  have hinv := ReachableSys.inv hr
  -- an entry after the step is new, and its connection was sent nothing, or it was there before
  have hentry : ∀ l lobby' c info, s'.shared.lobbies.lookup l = some lobby' →
      lobby'.clients.lookup c = some info → ∀ epoch ∈ s.sentEpochs info.sender,
        epoch ≤ lobby'.chatTokenEpoch := by
    intro l lobby' c info hl' hc' epoch hepoch
    rcases member_step hinv h (Shared.member_eq_some.2 ⟨lobby', hl', hc'⟩) with
      ⟨_, _, hcommits⟩ | hm
    · have hsome := hordered.session _ (List.ne_nil_of_mem hepoch)
      rw [hcommits.session] at hsome
      cases hsome
    · obtain ⟨lobby, hl, hc⟩ := Shared.member_eq_some.1 hm
      exact Nat.le_trans (hordered.current l lobby c info hl hc epoch hepoch)
        (epoch_step (ReachableSys.lobbyInv hr) h hl hl')
  cases tells_step h with
  | nothing hsame =>
    exact {
      sorted := fun m => by rw [hsame]; exact hordered.sorted m
      current := fun l lobby' c info hl hc => by rw [hsame]; exact hentry l lobby' c info hl hc
      session := fun m hm => by
        rw [hsame] at hm
        exact session_isSome_step hinv h (hordered.session m hm) }
  | @token to_ tok hshared hholds hsent =>
    obtain ⟨l₀, lobby₀, c₀, info₀, hl₀, rfl, hc₀, rfl⟩ := Shared.holds_iff.1 (hholds hcurrent)
    have hown := (hinv.own l₀ c₀ info₀ (Shared.member_eq_some.2 ⟨lobby₀, hl₀, hc₀⟩)).1
    refine ⟨fun m => ?_, fun l lobby c info hl hc epoch hepoch => ?_, fun m hm => ?_⟩
    · rw [hsent]
      split
      · next hm =>
        subst hm
        exact List.pairwise_cons.2 ⟨hordered.current l₀ lobby₀ c₀ info₀ hl₀ hc₀,
          hordered.sorted _⟩
      · exact hordered.sorted m
    · rw [hsent] at hepoch
      split at hepoch
      · next hm =>
        rcases List.mem_cons.1 hepoch with rfl | hepoch
        · -- a connection is a member of one lobby
          rw [hshared] at hl
          have hown' := (hinv.own l c info (Shared.member_eq_some.2 ⟨lobby, hl, hc⟩)).1
          rw [hm, hown] at hown'
          have hsame : l₀ = l := congrArg RegisteredSession.lobbyId (Option.some.inj hown')
          rw [hsame] at hl₀
          cases hl₀.symm.trans hl
          exact Nat.le_refl _
        · exact hentry l lobby c info hl hc epoch hepoch
      · exact hentry l lobby c info hl hc epoch hepoch
    · refine session_isSome_step hinv h ?_
      by_cases hm₀ : m = info₀.sender
      · rw [hm₀, hown]
        rfl
      · rw [hsent, if_neg hm₀] at hm
        exact hordered.session m hm

/-- **Token epochs in order.** In a run that writes every token while its recipient is still a
member of a lobby with this token, the epochs that a connection receives never fall. -/
theorem token_epochs_ordered {ts : List (Transition (Sys H cfg) Action)} (h : SysRun ts s)
    (hcurrent : ∀ t ∈ ts, t.pre.tokensCurrent t.act = true) (m : ConnId) :
    (s.receivedEpochs m).Pairwise (· ≤ ·) := by
  have hordered : EpochsOrdered s := by
    induction h with
    | start h => subst h; exact .initial
    | snoc hr hst ih =>
      exact (ih fun t ht => hcurrent t (List.mem_cons_of_mem _ ht)).step hr.reachable hst
        (hcurrent _ List.mem_cons_self)
  exact List.pairwise_reverse.2 (hordered.sorted m)

end

/-! ## Recorded runs -/

/-- Steps of one handler. -/
def recordedSteps (k : ConnId) (n : Nat) : List Action :=
  List.replicate n (.exec k (recordedEnv "" 0 true))

/-- Alice creates the room, bob joins it, and their handlers send all that this asks for. -/
def joined : Option (Sys recordedCrypto .default) :=
  (aliceSteps true ++ [Action.exec 2 (recordedEnv "d2" 2 true)] ++ recordedSteps 2 14).foldlM
    (fun s act => if s.tokensCurrent act then s.step act else none) handshake

/-- Alice receives the epochs of both tokens in order. -/
theorem token_epochs_ordered_alice : ∃ s, joined = some s ∧ s.receivedEpochs 1 = [1, 2] ∧
    (s.receivedEpochs 1).Pairwise (· ≤ ·) := by
  have hrun : joined.map (·.receivedEpochs 1) = some [1, 2] := by decide +kernel
  obtain ⟨s, hs, hepochs⟩ := Option.map_eq_some_iff.1 hrun
  obtain ⟨ts, hts, hout⟩ := handshake_outside
  obtain ⟨ts', hts', hcurrent⟩ := hts.foldlM (p := Sys.tokensCurrent) (fun t ht => by
    cases hact : t.act with
    | exec k env => exact absurd hact (hout t ht k env)
    | _ => rfl) hs
  exact ⟨s, hs, hepochs, token_epochs_ordered hts' hcurrent 1⟩

/-- Bob's notice of the second token has passed its check when his other connection registers, and
is sent after the notice of the third one. -/
def overtaken : Option (Sys recordedCrypto .default) :=
  (aliceSteps true ++ [Action.exec 2 (recordedEnv "d2" 2 true)] ++ recordedSteps 2 8 ++
    [Action.exec 3 (recordedEnv "d3" 3 true)] ++ recordedSteps 3 9 ++ recordedSteps 2 1).foldlM
      Sys.step handshake

/-- **An old token after a newer one.** Alice receives the third token and then the second one. -/
theorem token_overtaken : ∃ s : Sys recordedCrypto .default, ReachableSys s ∧
    ¬ (s.receivedEpochs 1).Pairwise (· ≤ ·) := by
  have hrun : overtaken.map (·.receivedEpochs 1) = some [1, 3, 2] := by decide +kernel
  obtain ⟨s, hs, hepochs⟩ := Option.map_eq_some_iff.1 hrun
  refine ⟨s, handshake_reachable.foldlM hs, ?_⟩
  rw [hepochs]
  decide

end MctierSignaling
