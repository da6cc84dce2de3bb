import MctierSignaling.Sessions

/-!
# How members were admitted

Every entry of a lobby was committed by a registration that had passed every check, before the lock
and under it: the facts that `handle_v3` checked are fields of the admission (`Admission`) and of
what the critical section had found (`Registers`), and the history of the run carries them from the
commit to the present. The password and the name of a lobby are those of the registration that
founded it. Lobby ids are digests of lobby names, so that a member signed the stored name is stated
for runs in which no two names with one digest were submitted.
-/

namespace MctierSignaling

section
variable {H : Crypto} {cfg : ServerConfig}

/-- The handler commits a registration in this step. -/
structure CommitsAt (k : ConnId) (a : Admission H cfg) (env : Env)
    (t : Transition (Sys H cfg) Action) : Prop where
  act : t.act = .exec k env
  task : (t.pre.conns k).task = .registration a
  committed : ∃ commit, (t.post.conns k).task = .committed commit

/-- A registration founded the lobby, with these credentials. -/
structure Founds (l : String) (cred : Credentials) (a : Admission H cfg) (d : Draws)
    (t : Transition (Sys H cfg) Action) : Prop where
  task : ∃ k env, t.act = .exec k env ∧ (t.pre.conns k).task = .registration a
  absent : t.pre.shared.lobbies.lookup l = none
  lobbyId : a.lobbyId = l
  credentials : cred = ⟨a.request.lobbyName,
    hashLobbyPassword H d.salt a.request.lobbyPassword, d.salt, a.request.lobbyPassword.isEmpty⟩

/-- Some handler of the run was at the critical section of this registration. -/
def Submitted (ts : List (Transition (Sys H cfg) Action)) (a : Admission H cfg) : Prop :=
  ∃ t ∈ ts, ∃ k, (t.pre.conns k).task = .registration a

/-- No two lobby names that were submitted in the run have one id. -/
def NoCollision (ts : List (Transition (Sys H cfg) Action)) : Prop :=
  ∀ a a' : Admission H cfg, Submitted ts a → Submitted ts a' → a.lobbyId = a'.lobbyId →
    a.request.lobbyName = a'.request.lobbyName

variable {s s' : Sys H cfg} {k : ConnId} {env : Env} {l c : String} {lobby lobby' : LobbyInfo}
  {info : ClientInfo} {a : Admission H cfg} {ts : List (Transition (Sys H cfg) Action)}
  {act : Action} {cred : Credentials}

/-! ## Commits -/

/-- What a registration that commits had checked under the lock. -/
theorem CommitsAt.registers {t : Transition (Sys H cfg) Action} (h : CommitsAt k a env t)
    (hstep : SysStep t.pre t.act t.post) :
    ∃ commit, Registers t.pre.shared a t.pre.now env.draws t.post.shared commit := by
  obtain ⟨pre, act, post⟩ := t
  obtain ⟨rfl, ht, commit, hpost⟩ := h
  dsimp only at ht hpost hstep ⊢
  cases exec_cases hstep with
  | read hread => rw [ht] at hread; cases hread
  | rejected => rw [Sys.setTask_self] at hpost; cases hpost
  | committed ht' hreg =>
    cases ht.symm.trans ht'
    exact ⟨_, hreg⟩
  | hostRefused ht' | hostActed ht' | stayed ht' | left ht' | sent ht' | signalled ht' =>
    cases ht.symm.trans ht'

/-- The password of a registration that commits is the one of the lobby it enters. -/
theorem Registers.password_matches {sh sh' : Shared} {now : Nat} {d : Draws}
    {commit : Commit H cfg} (h : Registers sh a now d sh' commit) :
    hashLobbyPassword H (a.entered sh d).passwordSalt a.request.lobbyPassword =
      (a.entered sh d).passwordHash := by
  cases he : sh.lobbies.lookup a.lobbyId with
  | none =>
    rw [show a.entered sh d = a.newLobby d by rw [Admission.entered, he]; rfl]
    rfl
  | some lobby =>
    rw [show a.entered sh d = lobby by rw [Admission.entered, he]; rfl]
    exact h.password lobby he

/-- A registration with `create` finds no lobby and makes its client the host, and one with `join`
finds the lobby. -/
theorem Registers.entryMode {sh sh' : Shared} {now : Nat} {d : Draws} {commit : Commit H cfg}
    (h : Registers sh a now d sh' commit) :
    (a.request.entryMode = some .create → sh.lobbies.lookup a.lobbyId = none ∧
      ∃ lobby, sh'.lobbies.lookup a.lobbyId = some lobby ∧ lobby.hostId = a.cid) ∧
    (a.request.entryMode = some .join → ∃ lobby, sh.lobbies.lookup a.lobbyId = some lobby) := by
  have hentry := h.entry
  refine ⟨fun hmode => ?_, fun hmode => ?_⟩
  · have habsent : sh.lobbies.lookup a.lobbyId = none := by
      rw [AList.lookup_eq_none]
      intro hmem
      rw [hmode, decide_eq_true hmem] at hentry
      cases hentry
    refine ⟨habsent, _, by rw [h.lookup, if_pos rfl], ?_⟩
    rw [Admission.enter_hostId, Admission.entered, habsent]
    rfl
  · refine Option.isSome_iff_exists.1 (AList.lookup_isSome.2 (Decidable.not_not.1 fun hmem => ?_))
    rw [hmode, decide_eq_false hmem] at hentry
    cases hentry

/-! ## Founding -/

/-- A lobby after a step was founded by the step, or had its credentials before. -/
theorem founds_step (h : SysStep s act s') (hl : s'.shared.lobbies.lookup l = some lobby') :
    (∃ a d, Founds l lobby'.credentials a d ⟨s, act, s'⟩) ∨
      HasCredentials l lobby'.credentials s.shared := by
  rcases step_shared h with heq | ⟨section_, hsection, hstep⟩
  · exact .inr ⟨lobby', heq ▸ hl, rfl⟩
  · refine (credentials_step hstep hl).imp_left fun hcreates => ?_
    obtain ⟨a, now, d, rfl, hlid, hcred⟩ := hcreates.created
    cases hsection with
    | @register k env _ ht =>
      exact ⟨a, env.draws, ⟨k, env, rfl, ht⟩, hcreates.absent, hlid, hcred⟩

/-- The credentials of a lobby are those of its founding, and have stayed since. -/
theorem founded_since (h : SysRun ts s) (hl : s.shared.lobbies.lookup l = some lobby) :
    Since (fun t => ∃ a d, Founds l lobby.credentials a d t)
      (fun t => HasCredentials l lobby.credentials t.post.shared) ts := by
  refine h.since (A := fun s => HasCredentials l lobby.credentials s.shared) ?_ ?_ ⟨lobby, hl, rfl⟩
  · rintro _ rfl ⟨_, h, _⟩
    cases h
  · rintro s act s' - hstep ⟨lobby', hl', hcred⟩
    rcases founds_step hstep hl' with hf | hf
    · exact .inl (hcred ▸ hf)
    · exact .inr ⟨hcred ▸ hf, lobby', hl', hcred⟩

/-! ## Entries -/

/-- The lobby has these credentials and this entry. -/
def HasEntry (l c : String) (info : ClientInfo) (cred : Credentials) (sh : Shared) : Prop :=
  ∃ lobby, sh.lobbies.lookup l = some lobby ∧ lobby.credentials = cred ∧
    lobby.clients.lookup c = some info

/-- The entry was committed by this registration, whose password is that of the lobby. -/
structure Admits (l c : String) (info : ClientInfo) (cred : Credentials) (a : Admission H cfg)
    (env : Env) (t : Transition (Sys H cfg) Action) : Prop where
  commits : Commits l c info a env t
  password : hashLobbyPassword H cred.passwordSalt a.request.lobbyPassword = cred.passwordHash
  entry : HasEntry l c info cred t.post.shared

/-- An entry after a step was admitted by the step, or was there before in the same lobby. -/
theorem entry_step (hinv : SysInv s) (h : SysStep s act s')
    (he : HasEntry l c info cred s'.shared) :
    (∃ a env, Admits l c info cred a env ⟨s, act, s'⟩) ∨ HasEntry l c info cred s.shared := by
  obtain ⟨lobby', hl', rfl, hc⟩ := he
  rcases member_step hinv h (Shared.member_eq_some.2 ⟨lobby', hl', hc⟩) with
    ⟨a, env, hcommits⟩ | hm
  · refine .inl ⟨a, env, hcommits, ?_, lobby', hl', rfl, hc⟩
    obtain ⟨commit, hreg⟩ := hcommits.registers
    have hlookup := hreg.lookup l
    rw [if_pos hcommits.lobbyId.symm] at hlookup
    cases hl'.symm.trans hlookup
    rw [Admission.enter_credentials]
    exact hreg.password_matches
  · obtain ⟨lobby, hl, hinfo⟩ := Shared.member_eq_some.1 hm
    rcases founds_step h hl' with ⟨a, d, hfounds⟩ | ⟨lobby₁, hl₁, hcred⟩
    · cases hfounds.absent.symm.trans hl
    · cases hl.symm.trans hl₁
      exact .inr ⟨lobby, hl, hcred, hinfo⟩

/-- An entry was admitted, and has been there since, in the same lobby. -/
theorem admitted_since (h : SysRun ts s) (he : HasEntry l c info cred s.shared) :
    Since (fun t => ∃ a env, Admits l c info cred a env t)
      (fun t => HasEntry l c info cred t.post.shared) ts := by
  refine h.since (A := fun s => HasEntry l c info cred s.shared) ?_ ?_ he
  · rintro _ rfl ⟨_, h, _⟩
    cases h
  · intro s act s' hr hstep he
    rcases entry_step (ReachableSys.inv hr) hstep he with ha | ha
    · exact .inl ha
    · exact .inr ⟨ha, he⟩

/-- Without a collision, the name of a lobby is the name that its members submitted. -/
theorem lobbyName_of_noCollision (h : SysRun ts s) (hnc : NoCollision ts)
    (hl : s.shared.lobbies.lookup l = some lobby) (ha : Submitted ts a) (hlid : a.lobbyId = l) :
    lobby.lobbyName = a.request.lobbyName := by
  obtain ⟨later, t, earlier, rfl, ⟨a', d, hfounds⟩, -⟩ := founded_since h hl
  obtain ⟨k, env, -, ht⟩ := hfounds.task
  have hsubmitted : Submitted (later ++ t :: earlier) a' :=
    ⟨t, List.mem_append_right _ List.mem_cons_self, k, ht⟩
  have hname := congrArg Credentials.lobbyName hfounds.credentials
  exact hname.trans (hnc a' a hsubmitted ha (hfounds.lobbyId.trans hlid.symm))

/-- The version text was parsed, and is at least the minimum. -/
theorem isVersionValid_iff {version minimum : String} :
    isVersionValid version minimum = true ↔ ∃ current least, parseVersion version = some current ∧
      parseVersion minimum = some least ∧ versionLe least current = true := by
  unfold isVersionValid
  cases parseVersion version <;> cases parseVersion minimum <;> simp

/-- What the registration had checked that committed an entry of a lobby. -/
structure SoundlyAdmitted (ts : List (Transition (Sys H cfg) Action)) (l c : String)
    (info : ClientInfo) (lobby : LobbyInfo) (a : Admission H cfg) (env : Env)
    (t : Transition (Sys H cfg) Action) : Prop where
  commits : Commits l c info a env t
  address : info.virtualIp = some a.virtualIp.toString
  proof : ProofVerified H (t.pre.conns info.sender).challenge a.request.lobbyName
    a.virtualIp.toString a.request.identityPublicKey a.request.challengeSignature c
  lobbyId : l = generateLobbyId H a.request.lobbyName
  lobbyName : NoCollision ts → lobby.lobbyName = a.request.lobbyName
  version : ∃ current least, parseVersion a.request.version = some current ∧
    parseVersion cfg.minimumClientVersion = some least ∧ versionLe least current = true
  password : hashLobbyPassword H lobby.passwordSalt a.request.lobbyPassword = lobby.passwordHash
  unlocked : (t.pre.shared.failures.isLocked
    (quotaSource (t.pre.conns info.sender).sourceIp, l) t.pre.now).2 = false

/-- An admitted entry was admitted soundly. -/
theorem Admits.sound {t : Transition (Sys H cfg) Action} (h : SysRun ts s) (ht : t ∈ ts)
    (hl : s.shared.lobbies.lookup l = some lobby)
    (ha : Admits l c info lobby.credentials a env t) :
    SoundlyAdmitted ts l c info lobby a env t := by
  obtain ⟨commit, hreg⟩ := ha.commits.registers
  have hcontext := ha.commits.context
  exact {
    commits := ha.commits
    address := by rw [ha.commits.entry]; rfl
    proof := by
      have hverified := a.verified
      rw [hcontext, ha.commits.cid] at hverified
      exact hverified
    lobbyId := ha.commits.lobbyId.symm
    lobbyName := fun hnc =>
      lobbyName_of_noCollision h hnc hl ⟨t, ht, _, ha.commits.task⟩ ha.commits.lobbyId
    version := isVersionValid_iff.1 a.version
    password := ha.password
    unlocked := by
      have hunlocked := hreg.unlocked
      rw [hcontext, ha.commits.lobbyId] at hunlocked
      exact hunlocked }

/-- **Admission soundness.** In every state of every run, an entry of a lobby was committed by a
registration on its sender's connection whose proof, version and password were checked and whose
source was not locked, and has been there since, and the password and the salt of the lobby are
those of its founding. A registration with `create` commits only if there was no lobby, and makes
its client the host; one with `join` commits only if there was one; and between two commits with
`create` for one name the lobby was destroyed. -/
theorem admission_soundness (h : SysRun ts s) :
    (∀ l c info lobby, s.shared.lobbies.lookup l = some lobby →
      lobby.clients.lookup c = some info →
      Since (fun t => ∃ a env, SoundlyAdmitted ts l c info lobby a env t)
        (fun t => HasEntry l c info lobby.credentials t.post.shared) ts ∧
      Since (fun t => ∃ a d, Founds l lobby.credentials a d t)
        (fun t => HasCredentials l lobby.credentials t.post.shared) ts) ∧
    (∀ t ∈ ts, ∀ k a env, CommitsAt k a env t →
      (a.request.entryMode = some .create → t.pre.shared.lobbies.lookup a.lobbyId = none ∧
        ∃ lobby, t.post.shared.lobbies.lookup a.lobbyId = some lobby ∧ lobby.hostId = a.cid) ∧
      (a.request.entryMode = some .join →
        ∃ lobby, t.pre.shared.lobbies.lookup a.lobbyId = some lobby)) ∧
    (∀ later t₂ mid t₁ earlier, ts = later ++ t₂ :: (mid ++ t₁ :: earlier) →
      ∀ k₁ k₂ a₁ a₂ env₁ env₂, CommitsAt k₁ a₁ env₁ t₁ → CommitsAt k₂ a₂ env₂ t₂ →
      a₁.request.entryMode = some .create → a₂.request.entryMode = some .create →
      a₁.request.lobbyName = a₂.request.lobbyName →
      ∃ t ∈ mid, (∃ lobby, t.pre.shared.lobbies.lookup a₁.lobbyId = some lobby) ∧
        t.post.shared.lobbies.lookup a₁.lobbyId = none) := by
  have hcommit : ∀ t ∈ ts, ∀ k a env, CommitsAt k a env t →
      ∃ commit, Registers t.pre.shared a t.pre.now env.draws t.post.shared commit :=
    fun t ht k a env hc => hc.registers (h.mem ht).2
  refine ⟨fun l c info lobby hl hc => ⟨?_, founded_since h hl⟩, fun t ht k a env hc => ?_, ?_⟩
  · obtain ⟨later, t, earlier, rfl, ⟨a, env, ha⟩, hlater⟩ :=
      admitted_since h ⟨lobby, hl, rfl, hc⟩
    exact ⟨later, t, earlier, rfl, ⟨a, env, ha.sound h (List.mem_append_right _
      List.mem_cons_self) hl⟩, hlater⟩
  · obtain ⟨commit, hreg⟩ := hcommit t ht k a env hc
    exact hreg.entryMode
  · rintro later t₂ mid t₁ earlier rfl k₁ k₂ a₁ a₂ env₁ env₂ hc₁ hc₂ hmode₁ hmode₂ hname
    have hlid : a₂.lobbyId = a₁.lobbyId := congrArg (generateLobbyId H) hname.symm
    obtain ⟨commit₁, hreg₁⟩ := hcommit t₁ (by simp) k₁ a₁ env₁ hc₁
    obtain ⟨commit₂, hreg₂⟩ := hcommit t₂ (by simp) k₂ a₂ env₂ hc₂
    obtain ⟨lobby₁, hl₁, -⟩ := (hreg₁.entryMode.1 hmode₁).2
    have habsent := (hreg₂.entryMode.1 hmode₂).1
    rw [hlid] at habsent
    obtain ⟨t, ht, hbefore, hafter⟩ := h.before.lost
      (P := fun s => ∃ lobby, s.shared.lobbies.lookup a₁.lobbyId = some lobby) ⟨lobby₁, hl₁⟩
      fun ⟨lobby, hl⟩ => nomatch habsent.symm.trans hl
    exact ⟨t, ht, hbefore, Option.eq_none_iff_forall_ne_some.2 fun lobby hl => hafter ⟨lobby, hl⟩⟩

end

/-- Alice founds the room. -/
def founded : Option (Sys recordedCrypto .default) :=
  handshake.step (.exec 1 (recordedEnv "d1" 1 true))

/-- Alice was admitted to the room soundly. -/
theorem admission_soundness_founded : ∃ s lobby info, founded = some s ∧
    s.shared.lobbies.lookup roomId = some lobby ∧ lobby.clients.lookup aliceId = some info ∧
    ∃ ts, SysRun ts s ∧
      Since (fun t => ∃ a env, SoundlyAdmitted ts roomId aliceId info lobby a env t)
        (fun t => HasEntry roomId aliceId info lobby.credentials t.post.shared) ts := by
  have hrun : (founded.bind fun s => s.shared.member roomId aliceId).isSome = true := by
    decide +kernel
  obtain ⟨info, hinfo⟩ := Option.isSome_iff_exists.1 hrun
  obtain ⟨s, hs, hm⟩ := Option.bind_eq_some_iff.1 hinfo
  obtain ⟨lobby, hl, hc⟩ := Shared.member_eq_some.1 hm
  obtain ⟨ts, hts⟩ := handshake_reachable.snoc hs
  exact ⟨s, lobby, info, hs, hl, hc, ts, hts,
    ((admission_soundness hts).1 roomId aliceId info lobby hl hc).1⟩

end MctierSignaling
