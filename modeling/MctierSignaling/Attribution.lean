import MctierSignaling.Sends

/-!
# In whose name a frame is forwarded

A forwarded frame is stamped with the session generation of the client it names, as the snapshot of
the recipients finds it. The session was checked before, and the lobby was looked up in between, by
the client id alone, so another connection that registers the same client between these steps lends
the frame its lobby or its generation (`forwarded_for_another_session`). This is the only way: in a
run whose snapshots all find the lobby of the handler's own session, with its own entry, if any
(`Sys.forwardsOwn`), every forwarded frame is sent under the session of the connection that
received it, to members of that session's lobby (`forwarded_frames_attributed`).
-/

namespace MctierSignaling

section
variable {H : Crypto} {cfg : ServerConfig}

/-- The sender that a frame names. -/
def Frame.sender : Frame → Option String
  | .text message _ => jsonSenderId message.toJson
  | .close => none

/-- The lobby and the message of an operation that forwards. -/
def Op.forwards : Op → Option (String × SignalingMessage)
  | .sendTo lobbyId _ message | .broadcast lobbyId _ message => some (lobbyId, message)
  | _ => none

/-- The members an operation forwards to. -/
def Op.addresses (op : Op) (id : String) : Bool :=
  match op with
  | .sendTo _ clientId _ => id == clientId
  | .broadcast _ excludeId _ => id != excludeId
  | _ => false

/-- Whether a snapshot of the lobbies for a message of this session finds nobody, or finds the lobby
of the session, in which the entry of its client, if there is one, is of its generation. -/
def ownSnapshot (sh : Shared) (session : RegisteredSession) (op : Op) (lobbyId : String) : Bool :=
  (sh.lobbies.lookup lobbyId).all fun lobby =>
    lobby.clients.keys.all (!op.addresses ·) ||
      (lobbyId == session.lobbyId &&
        (lobby.clients.lookup session.clientId).all (·.sessionGeneration == session.generation))

/-- Whether the snapshot that the handler takes next, if it takes one for a message that names its
own client, is one of its own session. -/
def Sys.forwardsOwn (s : Sys H cfg) : Action → Bool
  | .exec k _ =>
    match (s.conns k).task, (s.conns k).session with
    | .ops (op :: _) _, some session =>
      match op.forwards with
      | some (lobbyId, message) =>
        jsonSenderId message.toJson != some session.clientId ||
          ownSnapshot s.shared session op lobbyId
      | none => true
    | _, _ => true
  | _ => true

/-! ## One snapshot -/

variable {s s' : Sys H cfg} {k : ConnId} {d : Delivery} {env : Env}

/-- The frames of a forwarding snapshot: one to each member of its lobby that it addresses, with the
lobby's entry of the client the message names as its stamp. -/
theorem Op.mem_start {op : Op} {lobbyId : String} {message : SignalingMessage}
    (hop : op.forwards = some (lobbyId, message)) :
    Job.send d ∈ op.start s.shared k env ↔
      ∃ lobby id target, s.shared.lobbies.lookup lobbyId = some lobby ∧ op.addresses id = true ∧
        lobby.clients.lookup id = some target ∧ d = ⟨target.sender,
          .text message (stampIn lobby message), some target.disconnect, some lobbyId⟩ := by
  cases op with
  | sendTo =>
    cases hop
    simp only [Op.start, List.mem_map, Job.send.injEq, exists_eq_right, Op.addresses, beq_iff_eq]
    constructor
    · intro hd
      obtain ⟨lobby, target, hl, ht, rfl⟩ := mem_sendToLobbyClient hd
      exact ⟨lobby, _, target, hl, rfl, ht, rfl⟩
    · rintro ⟨lobby, id, target, hl, rfl, ht, rfl⟩
      rw [sendToLobbyClient, hl]
      dsimp only
      rw [ht]
      exact List.mem_singleton.2 rfl
  | broadcast =>
    cases hop
    simp only [Op.start, List.mem_map, Job.send.injEq, exists_eq_right, Op.addresses, bne_iff_ne]
    constructor
    · intro hd
      obtain ⟨lobby, id, target, hl, hne, ht, rfl⟩ := mem_broadcastToLobby hd
      exact ⟨lobby, id, target, hl, hne, ht, rfl⟩
    · rintro ⟨lobby, id, target, hl, hne, ht, rfl⟩
      rw [broadcastToLobby, hl]
      exact List.mem_map.2 ⟨⟨id, target⟩, List.mem_filter.2 ⟨HashMap.mem_entries.2 ht,
        bne_iff_ne.2 hne⟩, rfl⟩
  | _ => cases hop

/-- A snapshot that forwards nothing makes frames with no stamp, routed nowhere. -/
theorem Op.start_other {op : Op} (hsnap : op.Snapshot) (hop : op.forwards = none)
    (hd : Job.send d ∈ op.start s.shared k env) : d.via = none ∧ d.frame.stamp = none := by
  cases op with
  | jobs => exact hsnap.elim
  | sendTo | broadcast => cases hop
  | rotation =>
    obtain ⟨d', hd', heq⟩ := List.mem_map.1 hd
    cases heq
    obtain ⟨lobby, id, client, -, -, -, -, -, rfl⟩ := mem_sendChatTokenRotation hd'
    exact ⟨rfl, rfl⟩
  | roster | publicList | communityList | communitySubmit =>
    cases List.mem_singleton.1 hd
    exact ⟨rfl, rfl⟩

/-- What a snapshot for its own session finds, if it finds somebody. -/
theorem ownSnapshot_iff {sh : Shared} {session : RegisteredSession} {op : Op} {lobbyId : String} :
    ownSnapshot sh session op lobbyId = true ↔
      ∀ id target, op.addresses id = true → sh.member lobbyId id = some target →
        lobbyId = session.lobbyId ∧ ∀ info, sh.member lobbyId session.clientId = some info →
          info.sessionGeneration = session.generation := by
  unfold ownSnapshot Shared.member
  cases sh.lobbies.lookup lobbyId with
  | none => simp
  | some lobby =>
    simp only [Option.all_some, Option.bind_some, Bool.or_eq_true, Bool.and_eq_true,
      List.all_eq_true, beq_iff_eq, Option.all_eq_true, HashMap.mem_keys, Bool.not_eq_true']
    constructor
    · rintro (hnone | hown) id target haddr ht
      · exact absurd haddr (Bool.eq_false_iff.1 (hnone id ⟨target, ht⟩))
      · exact hown
    · intro h
      by_cases hsome : ∃ id target, op.addresses id = true ∧ lobby.clients.lookup id = some target
      · obtain ⟨id, target, haddr, ht⟩ := hsome
        exact .inr (h id target haddr ht)
      · refine .inl fun id ⟨target, ht⟩ => Bool.eq_false_iff.2 fun haddr => ?_
        exact hsome ⟨id, target, haddr, ht⟩

/-- **What one snapshot forwards.** The frames that a handler forwards from one snapshot all go to
the lobby of its session, under the generation of its session, if and only if the snapshot is one of
its own session. -/
theorem start_own_iff {op : Op} {lobbyId : String} {message : SignalingMessage}
    {session : RegisteredSession} (hop : op.forwards = some (lobbyId, message))
    (hsender : jsonSenderId message.toJson = some session.clientId) :
    (∀ d, Job.send d ∈ op.start s.shared k env → d.via = some session.lobbyId ∧
      ∀ stamp, d.frame.stamp = some stamp → stamp = (session.clientId, session.generation)) ↔
    ownSnapshot s.shared session op lobbyId = true := by
  rw [ownSnapshot_iff]
  constructor
  · intro h id target haddr ht
    obtain ⟨lobby, hl, hlookup⟩ := Shared.member_eq_some.1 ht
    obtain ⟨hvia, hstamp⟩ := h _ ((Op.mem_start hop).2 ⟨lobby, id, target, hl, haddr, hlookup, rfl⟩)
    refine ⟨Option.some.inj hvia, fun info hinfo => ?_⟩
    obtain ⟨lobby', hl', hc⟩ := Shared.member_eq_some.1 hinfo
    cases hl.symm.trans hl'
    exact congrArg Prod.snd (hstamp _ (stampIn_of_member hsender hc))
  · intro h d hd
    obtain ⟨lobby, id, target, hl, haddr, ht, rfl⟩ := (Op.mem_start hop).1 hd
    obtain ⟨rfl, hgeneration⟩ := h id target haddr (Shared.member_eq_some.2 ⟨lobby, hl, ht⟩)
    refine ⟨rfl, fun ⟨c, g⟩ hstamp => ?_⟩
    obtain ⟨hid, source, hsource, rfl⟩ := stampIn_eq_some hstamp
    obtain rfl := Option.some.inj (hsender.symm.trans hid)
    rw [hgeneration source (Shared.member_eq_some.2 ⟨lobby, hl, hsource⟩)]

/-! ## Runs -/

/-- The frame is of the handler's own session: in the name of its client, to its lobby, and under
its generation, if it is stamped. -/
structure Own (s : Sys H cfg) (k : ConnId) (d : Delivery) (session : RegisteredSession) : Prop where
  owned : (s.conns k).session = some session
  sender : d.frame.sender = some session.clientId
  via : d.via = some session.lobbyId
  stamp : ∀ stamp, d.frame.stamp = some stamp → stamp = (session.clientId, session.generation)

/-- The step of the handler takes the snapshot from which it sends the frame; the recipient is a
member of the session's lobby then. -/
structure Snaps (k : ConnId) (d : Delivery) (session : RegisteredSession)
    (t : Transition (Sys H cfg) Action) : Prop where
  took : ∃ env op pending next, t.act = .exec k env ∧
    (t.pre.conns k).task = .ops (op :: pending) next ∧ op.Snapshot ∧
    Job.send d ∈ op.start t.pre.shared k env
  recipient : ∃ id info, t.pre.shared.member session.lobbyId id = some info ∧ info.sender = d.to_

/-- A frame that is ready at a handler is not forwarded in the name of any client, or it is of the
handler's own session, and has been ready since its snapshot. -/
def FrameOk (ts : List (Transition (Sys H cfg) Action)) (s : Sys H cfg) (k : ConnId)
    (d : Delivery) : Prop :=
  (d.frame.stamp = none ∧ (d.via = none ∨ d.frame.sender = none)) ∨
    ∃ session, Own s k d session ∧
      Since (Snaps k d session) (fun t => (t.post.conns k).task.Ready d) ts

/-- The handler forwarded the frame under its own session: it took the snapshot, in which the
recipient was a member of the session's lobby, the frame was ready from then on, and then it was
sent, when the frames of `before` had been tried. -/
structure Attributed (ts : List (Transition (Sys H cfg) Action)) (s : Sys H cfg)
    (before : List Sent) (e : Sent) (session : RegisteredSession) : Prop extends
    Own s e.by_ e.delivery session where
  snapshot : ∃ later sent earlier, ts = later ++ sent :: earlier ∧ sent.pre.log = before ∧
    sent.post.log = e :: before ∧ Since (Snaps e.by_ e.delivery session)
      (fun t => (t.post.conns e.by_).task.Ready e.delivery) earlier

variable {ts : List (Transition (Sys H cfg) Action)} {e : Sent} {before : List Sent}
  {session : RegisteredSession}

theorem Delivery.Plain.frameOk (h : d.Plain) : FrameOk ts s k d := .inl ⟨h.stamp, .inl h.via⟩

/-- A session lasts, and so does what is of it. -/
theorem Own.step {act : Action} (hinv : SysInv s) (h : SysStep s act s')
    (hown : Own s k d session) : Own s' k d session :=
  { hown with owned := session_step hinv h hown.owned }

/-- A frame that stays ready. -/
theorem FrameOk.step {act : Action} (hinv : SysInv s) (h : SysStep s act s')
    (hready : (s'.conns k).task.Ready d) (hok : FrameOk ts s k d) :
    FrameOk (⟨s, act, s'⟩ :: ts) s' k d :=
  hok.imp_right <| Exists.imp fun _ hsession =>
    ⟨hsession.1.step hinv h, hsession.2.keep hready⟩

/-- Attribution lasts. -/
theorem Attributed.step {act : Action} (hinv : SysInv s) (h : SysStep s act s')
    (ha : Attributed ts s before e session) :
    Attributed (⟨s, act, s'⟩ :: ts) s' before e session := by
  obtain ⟨later, sent, earlier, rfl, hsent⟩ := ha.snapshot
  exact { ha.toOwn.step hinv h with snapshot := ⟨_ :: later, sent, earlier, rfl, hsent⟩ }

/-- The frames of a snapshot of the handler's own session are of this session. -/
theorem frameOk_of_snapshot {op : Op} {pending : List Op} {next : Next} (hinv : SysInv s)
    (ht : (s.conns k).task = .ops (op :: pending) next) (hsnap : op.Snapshot)
    (hd : Job.send d ∈ op.start s.shared k env) (hown : s.forwardsOwn (.exec k env) = true)
    (h : SysStep s (.exec k env) s') : FrameOk (⟨s, .exec k env, s'⟩ :: ts) s' k d := by
  cases hop : op.forwards with
  | none =>
    obtain ⟨hvia, hstamp⟩ := Op.start_other hsnap hop hd
    exact .inl ⟨hstamp, .inl hvia⟩
  | some forward =>
    have htook := hd
    obtain ⟨lobbyId, message⟩ := forward
    obtain ⟨lobby, id, target, hl, haddr, htarget, rfl⟩ := (Op.mem_start hop).1 hd
    have hclaims : Claims (s.conns k).session message := by
      have hok := hinv.task k
      rw [ht] at hok
      have hop_ok := hok op List.mem_cons_self
      cases op <;> cases hop <;> exact hop_ok
    cases hsender : jsonSenderId message.toJson with
    | none =>
      refine .inl ⟨?_, .inr hsender⟩
      rw [Frame.stamp, stampIn, hsender]
      rfl
    | some c =>
      obtain ⟨session, hs, rfl⟩ := Option.map_eq_some_iff.1 (hclaims.sender c hsender)
      simp only [Sys.forwardsOwn, ht, hs, hop, hsender, bne_self_eq_false, Bool.false_or] at hown
      obtain ⟨hvia, hstamp⟩ := (start_own_iff hop hsender).2 hown _ hd
      cases hvia
      refine .inr ⟨session, ⟨session_step hinv h hs, hsender, rfl, hstamp⟩, Since.new ?_⟩
      exact {
        took := ⟨env, op, pending, next, rfl, ht, hsnap, htook⟩
        recipient := ⟨id, target, Shared.member_eq_some.2 ⟨lobby, hl, htarget⟩, rfl⟩ }

/-- In a run whose snapshots are all of the handler's own session, every frame that is ready is. -/
theorem frames_own (h : SysRun ts s) (hown : ∀ t ∈ ts, t.pre.forwardsOwn t.act = true)
    (hd : (s.conns k).task.Ready d) : FrameOk ts s k d := by
  induction h with
  | start h =>
    subst h
    exact hd.elim
  | @snoc ts s s' act hr hs ih =>
    have hinv := ReachableSys.inv hr.reachable
    obtain hready | hplain | ⟨env, rfl, horigin⟩ := ready_step hs hd
    · exact (ih (fun t ht => hown t (List.mem_cons_of_mem _ ht)) hready).step hinv hs hd
    · exact hplain.frameOk
    cases horigin with
    | snapshot ht hsnap hd =>
      exact frameOk_of_snapshot hinv ht hsnap hd (hown _ List.mem_cons_self) hs
    | success _ _ heq =>
      subst heq
      exact .inl ⟨rfl, .inl rfl⟩
    | plain hplain => exact hplain.frameOk

/-- In a run whose snapshots are all of the handler's own session, every frame that was tried was
not forwarded in the name of any client, or it is attributed. -/
theorem frames_attributed (h : SysRun ts s) (hown : ∀ t ∈ ts, t.pre.forwardsOwn t.act = true)
    {after : List Sent} (hlog : s.log = after ++ e :: before) :
    (e.delivery.frame.stamp = none ∧ (e.delivery.via = none ∨ e.delivery.frame.sender = none)) ∨
      ∃ session, Attributed ts s before e session := by
  induction h generalizing after with
  | start h =>
    subst h
    exact absurd hlog.symm (List.append_ne_nil_of_right_ne_nil _ (List.cons_ne_nil e before))
  | @snoc ts s s' act hr hs ih =>
    have hinv := ReachableSys.inv hr.reachable
    have hbefore := fun t ht => hown t (List.mem_cons_of_mem _ ht)
    rcases log_grows hs with hsame | ⟨e', hnew, horigin⟩
    · refine (ih hbefore (hsame ▸ hlog)).imp_right ?_
      exact Exists.imp fun session ha => ha.step hinv hs
    cases after with
    | cons first after =>
      refine (ih hbefore (List.cons.inj (hnew.symm.trans hlog)).2).imp_right ?_
      exact Exists.imp fun session ha => ha.step hinv hs
    | nil =>
      obtain ⟨rfl, rfl⟩ := List.cons.inj (hnew.symm.trans hlog)
      rcases horigin with hready | hplain
      · refine (frames_own hr hbefore hready).imp_right ?_
        rintro ⟨session, hof, hsince⟩
        exact ⟨session, { hof.step hinv hs with
          snapshot := ⟨[], _, ts, rfl, rfl, hnew, hsince⟩ }⟩
      · exact .inl ⟨hplain.stamp, .inl hplain.via⟩

/-- **Attribution of forwarded frames.** In a run whose forwarding snapshots are all of the
handler's own session, a frame stamped with a client and a generation was forwarded by the
connection whose session has them, and a frame that was routed in the name of a client went to the
lobby of the session, both to a recipient that was a member of that lobby in the snapshot from which
this frame was sent. -/
theorem forwarded_frames_attributed (h : SysRun ts s)
    (hown : ∀ t ∈ ts, t.pre.forwardsOwn t.act = true) :
    ∀ after e before, s.log = after ++ e :: before →
      (∀ c g, e.delivery.frame.stamp = some (c, g) →
        ∃ l, Attributed ts s before e ⟨c, l, g⟩) ∧
      (∀ l c, e.delivery.via = some l → e.delivery.frame.sender = some c →
        ∃ g, Attributed ts s before e ⟨c, l, g⟩) := by
  intro after e before hlog
  rcases frames_attributed h hown hlog with ⟨hstamp, hvia⟩ | ⟨session, ha⟩
  · refine ⟨fun c g hs => absurd (hstamp.symm.trans hs) nofun, fun l c hl hc => ?_⟩
    rcases hvia with hvia | hsender
    · cases hvia.symm.trans hl
    · cases hsender.symm.trans hc
  · refine ⟨fun c g hs => ?_, fun l c hl hc => ?_⟩
    · cases ha.stamp _ hs
      exact ⟨session.lobbyId, ha⟩
    · cases ha.via.symm.trans hl
      cases ha.sender.symm.trans hc
      exact ⟨session.generation, ha⟩

end

/-- Steps of the handler of bob's first connection. -/
def bobSteps (n : Nat) : List Action := List.replicate n (.exec 2 (recordedEnv "" 0 true))

/-- Alice and bob are in the room, bob's handler is idle, and a status of his arrives. -/
def bobSpeaks : List Action :=
  [Action.exec 1 (recordedEnv "d1" 1 true), .exec 2 (recordedEnv "d2" 2 true)] ++ bobSteps 14 ++
    [.receive 2 (.text (.ok (.statusUpdate bobId true)))]

/-- Bob's status is forwarded. -/
def forwarded : Option (Sys recordedCrypto .default) :=
  (bobSpeaks ++ bobSteps 4).foldlM (fun s act => if s.forwardsOwn act then s.step act else none)
    handshake

/-- Bob's status reaches alice under his own session, from a snapshot in which she was a member. -/
theorem forwarded_frames_attributed_status : ∃ ts s e before l, SysRun ts s ∧ forwarded = some s ∧
    s.log = e :: before ∧ e.ok = true ∧ e.delivery.to_ = 1 ∧
    e.delivery.frame.stamp = some (bobId, 2) ∧ Attributed ts s before e ⟨bobId, l, 2⟩ := by
  have hrun : (forwarded.bind fun s => s.log.head?.bind fun e =>
      if e.ok = true ∧ e.delivery.to_ = 1 ∧ e.delivery.frame.stamp = some (bobId, 2) then some ()
        else none) = some () := by decide +kernel
  obtain ⟨s, hs, hrun⟩ := Option.bind_eq_some_iff.1 hrun
  obtain ⟨e, he, hrun⟩ := Option.bind_eq_some_iff.1 hrun
  split at hrun
  · next hcond =>
    obtain ⟨hok, hto, hstamp⟩ := hcond
    obtain ⟨ts, hts, hout⟩ := handshake_outside
    obtain ⟨ts', hts', hown⟩ := hts.foldlM (p := Sys.forwardsOwn) (fun t ht => by
      have hact := hout t ht
      cases h : t.act with
      | exec k env => exact absurd h (hact k env)
      | _ => rfl) hs
    obtain ⟨before, hlog⟩ := List.head?_eq_some_iff.1 he
    obtain ⟨l, ha⟩ := (forwarded_frames_attributed hts' hown [] e before hlog).1 bobId 2 hstamp
    exact ⟨ts', s, e, before, l, hts', hs, hlog, hok, hto, hstamp, ha⟩
  · cases hrun

/-- The session of bob's first connection is checked, his second connection registers, and then the
first one looks up the lobby and forwards. -/
def forwardedLate : Option (Sys recordedCrypto .default) :=
  (bobSpeaks ++ bobSteps 1 ++ [Action.exec 3 (recordedEnv "d3" 3 true)] ++ bobSteps 3).foldlM
    Sys.step handshake

/-- **A frame under another session.** The status that bob's first connection received reaches alice
under the session of his second one. -/
theorem forwarded_for_another_session : ∃ s : Sys recordedCrypto .default, ReachableSys s ∧
    ∃ e ∈ s.log, e.ok = true ∧ e.by_ = 2 ∧ e.delivery.to_ = 1 ∧
      e.delivery.frame.stamp = some (bobId, 3) ∧
      (s.conns 2).session = some ⟨bobId, roomId, 2⟩ ∧
      (s.conns 3).session = some ⟨bobId, roomId, 3⟩ := by
  have hrun : (forwardedLate.bind fun s => s.log.head?.bind fun e =>
      if e.ok = true ∧ e.by_ = 2 ∧ e.delivery.to_ = 1 ∧
        e.delivery.frame.stamp = some (bobId, 3) ∧ (s.conns 2).session = some ⟨bobId, roomId, 2⟩ ∧
        (s.conns 3).session = some ⟨bobId, roomId, 3⟩ then some () else none) = some () := by
    decide +kernel
  obtain ⟨s, hs, hrun⟩ := Option.bind_eq_some_iff.1 hrun
  obtain ⟨e, he, hrun⟩ := Option.bind_eq_some_iff.1 hrun
  split at hrun
  · next hcond =>
    exact ⟨s, handshake_reachable.foldlM hs, e, List.mem_of_mem_head? he, hcond⟩
  · cases hrun

end MctierSignaling
