import MctierSignaling.Signals
import MctierSignaling.TokenDelivery

/-!
# What members know of their lobby

A member learns the host and the other members of its lobby from the frames that it receives. A
change of the lobby is published after its lock is released, and what a registration tells its own
connection was read under another lock, so a frame may be written when it is not true any more. That
does no harm while a handler still has the news to send that correct it (`Frame.Timely`), but nobody
checks that, and the news may have been sent before.

A run has timely news (`Sys.NewsTimely`) if every frame that it writes to a member is true of the
member's lobby or will be corrected, and if it leaves nobody behind who was kicked between the
commit of its registration and the check that follows, which drops the news of the registration.
`MctierSignaling.Convergence` proves that views converge in such runs, and that they need not in
others.
-/

namespace MctierSignaling

/-! ## Views -/

/-- What a member knows of its lobby: the host, and the other members with the generations of their
sessions. -/
@[ext]
structure View where
  host : Option String
  roster : String → Option Nat

/-- What a member knows that was told nothing. -/
def View.empty : View := ⟨none, fun _ => none⟩

/-- The generation under which a list has a player. -/
def rosterOf (players : List PlayerInfo) (p : String) : Option Nat :=
  (players.find? (·.playerId == p)).map (·.sessionGeneration)

/-- A member receives a message. -/
def View.receive (v : View) : SignalingMessage → View
  | .registerSuccess _ _ _ hostId _ _ _ _ _ => { v with host := hostId }
  | .playersList players => { v with roster := rosterOf players }
  | .playerJoined p _ _ _ _ _ generation =>
    { v with roster := Function.update v.roster p (some generation) }
  | .playerLeft p generation =>
    { v with roster := fun q => if q = p ∧ v.roster p = some generation then none else v.roster q }
  | .hostChanged hostId => { v with host := some hostId }
  | _ => v

/-- A member receives a frame. -/
def View.apply (v : View) : Frame → View
  | .text message _ => v.receive message
  | .close => v

/-- What a member should know: the host, and the members but itself. -/
def LobbyInfo.actual (lobby : LobbyInfo) (c : String) : View where
  host := some lobby.hostId
  roster p := if p = c then none else (lobby.clients.lookup p).map (·.sessionGeneration)

/-- The news that a message carries: the host, the whole roster, a member that joined, or one that
left under a generation. -/
inductive News where
  | host
  | roster
  | joined (p : String)
  | left (p : String) (generation : Nat)
  deriving DecidableEq

def SignalingMessage.news : SignalingMessage → Option News
  | .registerSuccess _ _ _ _ _ _ _ _ _ | .hostChanged _ => some .host
  | .playersList _ => some .roster
  | .playerJoined p _ _ _ _ _ _ => some (.joined p)
  | .playerLeft p generation => some (.left p generation)
  | _ => none

def Frame.news : Frame → Option News
  | .text message _ => message.news
  | .close => none

/-- Whether the news of a message agrees with the lobby of the member `c`. -/
def SignalingMessage.agrees (lobby : LobbyInfo) (c : String) : SignalingMessage → Bool
  | .registerSuccess _ _ _ hostId _ _ _ _ _ => hostId == some lobby.hostId
  | .playersList players => (players.map (·.playerId) ++ lobby.clients.keys).all fun p =>
    rosterOf players p == (lobby.actual c).roster p
  | .playerJoined p _ _ _ _ _ generation => (lobby.actual c).roster p == some generation
  | .playerLeft p generation => (lobby.actual c).roster p != some generation
  | .hostChanged hostId => hostId == lobby.hostId
  | _ => true

def Frame.agrees (lobby : LobbyInfo) (c : String) : Frame → Bool
  | .text message _ => message.agrees lobby c
  | .close => true

/-- The message has the client under this generation. -/
def SignalingMessage.tells (p : String) (generation : Nat) : SignalingMessage → Bool
  | .playersList players => rosterOf players p == some generation
  | .playerJoined q _ _ _ _ _ g => q == p && g == generation
  | _ => false

/-- The message tells a member that has the client under this generation that it is wrong: by a
roster without it, by the news that the client joined under another, or that it left under this one.
-/
def SignalingMessage.retracts (p : String) (generation : Nat) : SignalingMessage → Bool
  | .playersList players => rosterOf players p != some generation
  | .playerJoined q _ _ _ _ _ g => q == p && g != generation
  | .playerLeft q g => q == p && g == generation
  | _ => false

def Frame.tells (p : String) (generation : Nat) : Frame → Bool
  | .text message _ => message.tells p generation
  | .close => false

def Frame.retracts (p : String) (generation : Nat) : Frame → Bool
  | .text message _ => message.retracts p generation
  | .close => false

section
variable {H : Crypto} {cfg : ServerConfig}

/-- The frames that a connection received, newest first. -/
def Sys.received (s : Sys H cfg) (m : ConnId) : List Frame :=
  s.log.filterMap fun e => if e.ok && e.delivery.to_ == m then some e.delivery.frame else none

/-- What a connection knows of its lobby, from the frames in the order of their arrival. -/
def Sys.view (s : Sys H cfg) (m : ConnId) : View :=
  (s.received m).foldr (fun frame v => v.apply frame) View.empty

/-- The connection was sent a frame that has the client under this generation, and none after it
that retracts that. -/
def Sys.Heard (s : Sys H cfg) (m : ConnId) (p : String) (generation : Nat) : Prop :=
  ∃ later frame earlier, s.received m = later ++ frame :: earlier ∧
    frame.tells p generation = true ∧ ∀ f ∈ later, f.retracts p generation = false

/-- The handler committed a registration, and has not checked since that its session is current. -/
def Task.unchecked : Task H cfg → Bool
  | .committed _ | .confirmed _ => true
  | _ => false

/-! ## News on their way -/

/-- The operation will send these news to the member `c` of the lobby `l`, whose connection is `m`.
-/
def Op.Reports (k : ConnId) (l c : String) (m : ConnId) (news : News) : Op → Prop
  | .jobs js => ∃ d, Job.send d ∈ js ∧ d.to_ = m ∧ d.frame.news = some news
  | .broadcast lobbyId excludeId message =>
    lobbyId = l ∧ excludeId ≠ c ∧ message.news = some news
  | .roster .. => k = m ∧ news = .roster
  | _ => False

/-- The handler will send these news to the member. A commit will tell the host and the roster to
its own connection, and its client to the others while it has its entry in the lobby. -/
def Task.Reports (sh : Shared) (k : ConnId) (l c : String) (m : ConnId) (news : News) :
    Task H cfg → Prop
  | .committed commit | .confirmed commit =>
    k = m ∧ (news = .host ∨ news = .roster) ∨
      commit.session.lobbyId = l ∧ commit.session.clientId ≠ c ∧
        news = .joined commit.session.clientId ∧ Entered sh l commit.session.clientId k
  | .ops pending _ => ∃ op ∈ pending, op.Reports k l c m news
  | _ => False

/-- Some handler will send these news to the member. -/
def Sys.Pending (s : Sys H cfg) (l c : String) (m : ConnId) (news : News) : Prop :=
  ∃ k, (s.conns k).task.Reports s.shared k l c m news

/-- To have the client `p` under this generation, or not at all, is right for the member `c`, or
will be corrected: by a roster, by the news that the client joined, or, if it is there no more, by
the news that it left under this generation. -/
def Sys.Settled (s : Sys H cfg) (l : String) (lobby : LobbyInfo) (c : String) (m : ConnId)
    (p : String) (generation : Option Nat) : Prop :=
  generation = (lobby.actual c).roster p ∨ s.Pending l c m .roster ∨ s.Pending l c m (.joined p) ∨
    (lobby.actual c).roster p = none ∧ ∃ g, generation = some g ∧ s.Pending l c m (.left p g)

/-- What the message tells the member is right, or will be corrected. -/
def SignalingMessage.Timely (s : Sys H cfg) (l : String) (lobby : LobbyInfo) (c : String)
    (m : ConnId) : SignalingMessage → Prop
  | .registerSuccess _ _ _ hostId _ _ _ _ _ =>
    hostId = some lobby.hostId ∨ s.Pending l c m .host
  | .hostChanged hostId => hostId = lobby.hostId ∨ s.Pending l c m .host
  | .playersList players => ∀ p, s.Settled l lobby c m p (rosterOf players p)
  | .playerJoined p _ _ _ _ _ generation => s.Settled l lobby c m p (some generation)
  | .playerLeft p generation =>
    (lobby.actual c).roster p = some generation → s.Settled l lobby c m p none
  | _ => True

/-- What the frame tells the member is right, or will be corrected. -/
def Frame.Timely (s : Sys H cfg) (l : String) (lobby : LobbyInfo) (c : String) (m : ConnId) :
    Frame → Prop
  | .text message _ => message.Timely s l lobby c m
  | .close => True

/-- What a kick leaves a member with that was last told of the client under another generation: when
the handler of the client has dropped its news, others still report a roster, that the client joined
again, or that it left under this generation. -/
def Sys.KickTimely (s : Sys H cfg) (l target : String) (removed : ClientInfo) (c : String)
    (m : ConnId) : Prop :=
  ∀ generation, s.Heard m target generation → generation = removed.sessionGeneration ∨
    let after := s.setTask removed.sender .cleanup
    after.Pending l c m .roster ∨ after.Pending l c m (.joined target) ∨
      after.Pending l c m (.left target generation)

/-- The step writes a frame only to members for which it is timely, while the handler has its other
jobs left; and if it kicks a client whose registration is unchecked, then timely for every other
member. -/
def Sys.NewsTimely (s : Sys H cfg) : Action → Prop
  | .exec k env =>
    match (s.conns k).task with
    | .ops (.jobs js :: pending) next =>
      ∀ d, js[env.pick % js.length]? = some (.send d) → ∀ l lobby c info,
        s.shared.lobbies.lookup l = some lobby → lobby.clients.lookup c = some info →
        info.sender = d.to_ → d.frame.Timely
          (s.setTask k (.ops (.jobs (js.eraseIdx (env.pick % js.length)) :: pending) next))
          l lobby c d.to_
    | .hostAction (.kickPlayer target) =>
      ∀ session lobby removed, (s.conns k).session = some session →
        Authorized s.shared (session.moderation k) lobby →
        lobby.clients.lookup target = some removed →
        (s.conns removed.sender).task.unchecked = true → ∀ c info, c ≠ target →
        lobby.clients.lookup c = some info →
        s.KickTimely session.lobbyId target removed c info.sender
    | _ => True
  | _ => True

/-- The operation will send news, or is news. -/
def Op.Publishes : Op → Prop
  | .jobs js => ∃ d, Job.send d ∈ js ∧ d.frame.news ≠ none
  | .broadcast _ _ message => message.news ≠ none
  | .roster .. => True
  | _ => False

/-- The handler has news to send, or is between its commit and its news. -/
def Task.Publishes : Task H cfg → Prop
  | .committed _ | .confirmed _ => True
  | .ops pending _ => ∃ op ∈ pending, op.Publishes
  | _ => False

/-- A check of the next step that is enough for timely news: its frame agrees with the lobbies of
its recipient, and it kicks nobody. -/
def Sys.newsAgree (s : Sys H cfg) : Action → Bool
  | .exec k env =>
    match (s.conns k).task with
    | .ops (.jobs js :: _) _ =>
      match js[env.pick % js.length]? with
      | some (.send d) => s.shared.lobbies.entries.all fun l => l.2.clients.entries.all fun c =>
        c.2.sender != d.to_ || d.frame.agrees l.2 c.1
      | _ => true
    | .hostAction (.kickPlayer _) => false
    | _ => true
  | _ => true

variable {s s' : Sys H cfg} {k m : ConnId} {env : Env} {l c p : String} {lobby lobby' : LobbyInfo}
  {info : ClientInfo} {v : View} {frame : Frame} {news : News} {act : Action}

/-! ## Frames and views -/

/-- A frame without news tells nothing. -/
theorem View.apply_of_news_none (h : frame.news = none) : v.apply frame = v := by
  cases frame with
  | close => rfl
  | text message stamp => cases message <;> first | rfl | cases h

/-- A member has a client under a generation after a frame that tells so, or if it had before and
the frame does not retract it. -/
theorem View.apply_roster_eq_some {generation : Nat} :
    (v.apply frame).roster p = some generation ↔
      frame.tells p generation = true ∨
        v.roster p = some generation ∧ frame.retracts p generation = false := by
  cases frame with
  | close => simp [View.apply, Frame.tells, Frame.retracts]
  | text message stamp =>
    cases message with
    | playersList players =>
      simp [View.apply, View.receive, Frame.tells, Frame.retracts, SignalingMessage.tells,
        SignalingMessage.retracts]
    | playerJoined q _ _ _ _ _ g =>
      by_cases hp : q = p
      · subst hp
        simp [View.apply, View.receive, Frame.tells, Frame.retracts, SignalingMessage.tells,
          SignalingMessage.retracts]
      · simp [View.apply, View.receive, Frame.tells, Frame.retracts, SignalingMessage.tells,
          SignalingMessage.retracts, Function.update_of_ne (Ne.symm hp), hp]
    | playerLeft q g =>
      by_cases hp : q = p
      · subst hp
        by_cases hg : v.roster q = some g <;>
          grind [View.apply, View.receive, Frame.tells, Frame.retracts, SignalingMessage.tells,
            SignalingMessage.retracts]
      · simp [View.apply, View.receive, Frame.tells, Frame.retracts, SignalingMessage.tells,
          SignalingMessage.retracts, hp, Ne.symm hp]
    | _ => simp [View.apply, View.receive, Frame.tells, Frame.retracts, SignalingMessage.tells,
        SignalingMessage.retracts]

/-- **What a member has of a client is what it was told last.** -/
theorem Sys.view_roster_eq_some {generation : Nat} :
    (s.view m).roster p = some generation ↔ s.Heard m p generation := by
  unfold Sys.view Sys.Heard
  -- over the frames from the newest: either it tells, or the ones before it do and it keeps
  induction s.received m with
  | nil => simp [View.empty]
  | cons frame frames ih =>
    rw [List.foldr_cons, View.apply_roster_eq_some, ih]
    constructor
    · rintro (htells | ⟨⟨later, told, earlier, rfl, htells, hkept⟩, hkeeps⟩)
      · exact ⟨[], frame, frames, rfl, htells, by simp⟩
      · exact ⟨frame :: later, told, earlier, rfl, htells,
          List.forall_mem_cons.2 ⟨hkeeps, hkept⟩⟩
    · rintro ⟨_ | ⟨newest, later⟩, told, earlier, heq, htells, hkept⟩
      · cases heq
        exact .inl htells
      · cases heq
        have hkept := List.forall_mem_cons.1 hkept
        exact .inr ⟨⟨later, told, earlier, rfl, htells, hkept.2⟩, hkept.1⟩

/-- A timely frame leaves the host right or to be corrected. -/
theorem Frame.Timely.host (h : frame.Timely s l lobby c m) (hnews : frame.news = some .host) :
    (v.apply frame).host = some lobby.hostId ∨ s.Pending l c m .host := by
  cases frame with
  | close => cases hnews
  | text message stamp =>
    cases message with
    | registerSuccess => exact h
    | hostChanged => exact h.imp_left (congrArg some)
    | _ => cases hnews

/-- Only news of the host tell the host. -/
theorem View.apply_host_of_ne (h : frame.news ≠ some .host) : (v.apply frame).host = v.host := by
  cases frame with
  | close => rfl
  | text message stamp => cases message <;> first | rfl | exact absurd rfl h

/-- What a timely frame does to what a member has of a client: it settles it, or removes the client
under a generation, or leaves it alone. -/
inductive Frame.Informs (s : Sys H cfg) (l : String) (lobby : LobbyInfo) (c : String) (m : ConnId)
    (p : String) (before after : Option Nat) : Option News → Prop
  | settles {news : Option News} : s.Settled l lobby c m p after →
      Informs s l lobby c m p before after news
  | left {generation : Nat} :
      ((lobby.actual c).roster p = some generation → before ≠ some generation) →
      after = (if before = some generation then none else before) →
      Informs s l lobby c m p before after (some (.left p generation))
  | nothing {news : Option News} : after = before → news ≠ some .roster →
      news ≠ some (.joined p) → (∀ generation, news ≠ some (.left p generation)) →
      Informs s l lobby c m p before after news

/-- **What a timely frame tells of a client.** -/
theorem Frame.Timely.informs (h : frame.Timely s l lobby c m) :
    Frame.Informs s l lobby c m p (v.roster p) ((v.apply frame).roster p) frame.news := by
  cases frame with
  | close => exact .nothing rfl nofun nofun fun _ => nofun
  | text message stamp =>
    cases message with
    | playersList players => exact .settles (h p)
    | playerJoined q _ _ _ _ _ generation =>
      by_cases hp : p = q
      · subst hp
        refine .settles ?_
        have hsettled : s.Settled l lobby c m p (some generation) := h
        simpa only [View.apply, View.receive, Function.update_self] using hsettled
      · refine .nothing (Function.update_of_ne hp ..) nofun (fun heq => hp ?_) fun _ => nofun
        cases heq
        rfl
    | playerLeft q generation =>
      by_cases hp : p = q
      · subst hp
        by_cases hstale : (lobby.actual c).roster p = some generation ∧
            v.roster p = some generation
        · obtain ⟨hactual, hv⟩ := hstale
          refine .settles ?_
          have hsettled : s.Settled l lobby c m p none := h hactual
          simpa only [View.apply, View.receive, hv, and_self, if_true] using hsettled
        · refine .left (fun hactual hv => hstale ⟨hactual, hv⟩) ?_
          simp only [View.apply, View.receive, true_and]
      · refine .nothing ?_ nofun nofun fun g heq => hp ?_
        · simp only [View.apply, View.receive, hp, false_and, if_false]
        · cases heq
          rfl
    | _ => exact .nothing rfl nofun nofun fun _ => nofun

/-! ## Frames that agree with the lobby -/

/-- A roster that agrees with the lobby on its players and on the members agrees on everyone. -/
theorem rosterOf_of_agrees {players : List PlayerInfo}
    (h : (SignalingMessage.playersList players).agrees lobby c = true) :
    rosterOf players p = (lobby.actual c).roster p := by
  have hall := List.all_eq_true.1 h
  by_cases hp : p ∈ players.map (·.playerId) ++ lobby.clients.keys
  · exact beq_iff_eq.1 (hall p hp)
  rw [List.mem_append, not_or] at hp
  have hroster : rosterOf players p = none := by
    refine Option.map_eq_none_iff.2 (List.find?_eq_none.2 fun player hplayer heq => hp.1 ?_)
    exact List.mem_map.2 ⟨player, hplayer, beq_iff_eq.1 heq⟩
  have hmember : lobby.clients.lookup p = none := AList.lookup_eq_none.2 fun hmem =>
    hp.2 (AList.mem_keys.1 hmem)
  simp [LobbyInfo.actual, hroster, hmember]

/-- A frame that agrees with the lobby is timely. -/
theorem Frame.timely_of_agrees (h : frame.agrees lobby c = true) : frame.Timely s l lobby c m := by
  cases frame with
  | close => trivial
  | text message stamp =>
    cases message with
    | registerSuccess | hostChanged => exact .inl (beq_iff_eq.1 h)
    | playersList players => exact fun p => .inl (rosterOf_of_agrees h)
    | playerJoined => exact .inl (beq_iff_eq.1 h).symm
    | playerLeft => exact fun hactual => absurd hactual (bne_iff_ne.1 h)
    | _ => trivial

/-- The check is enough for timely news. -/
theorem Sys.newsTimely_of_newsAgree (h : s.newsAgree act = true) : s.NewsTimely act := by
  cases act with
  | exec k env =>
    simp only [Sys.newsAgree] at h
    simp only [Sys.NewsTimely]
    cases ht : (s.conns k).task with
    | ops pending next =>
      rw [ht] at h
      cases pending with
      | nil => trivial
      | cons op pending =>
        cases op with
        | jobs js =>
          intro d hget l lobby c info hl hc hto
          simp only [hget, List.all_eq_true] at h
          have hagrees := h ⟨l, lobby⟩ (HashMap.mem_entries.2 hl) ⟨c, info⟩
            (HashMap.mem_entries.2 hc)
          simp only [hto, bne_self_eq_false, Bool.false_or] at hagrees
          exact Frame.timely_of_agrees hagrees
        | _ => trivial
    | hostAction action =>
      rw [ht] at h
      cases action with
      | kickPlayer => cases h
      | _ => trivial
    | _ => trivial
  | _ => trivial

end

end MctierSignaling
