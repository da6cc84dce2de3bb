import MctierSignaling.PeerBudget

/-!
# The traffic of a connection

How much the server takes from a connection and admits for it, in every run, whoever sends: the
handlers of all members of its lobby charge the one budget of its sender, and its own handler takes
its messages by the one rate limiter. So the bounds of one limiter are bounds of the whole server
(`traffic_bounded`), from the opening of the connection on. A frame counts when its budget admits
it: its write comes after that, and may take until the timeout of the send.
-/

namespace MctierSignaling

open FixedWindow

section
variable {H : Crypto} {cfg : ServerConfig}

/-- The budget that an action charges: that of a connection is new when it is opened. -/
def Sys.charging (s : Sys H cfg) (m : ConnId) : Action → OutboundBudget
  | .connect .. => .new s.now
  | _ => (s.conns m).budget

/-- The frame to a connection that its budget admitted in a transition. -/
def charged (m : ConnId) (t : Transition (Sys H cfg) Action) : Option Event :=
  (t.pre.sending m t.act).filter fun e => ((t.pre.charging m t.act).allow e.time e.size).2

/-- The message that a transition delivered to the handler of a connection. -/
def delivered (m : ConnId) (t : Transition (Sys H cfg) Action) : Option Event :=
  match t.act with
  | .receive k _ => if k = m then some ⟨t.pre.now, 0⟩ else none
  | _ => none

/-- The rate of a connection allows one more message. -/
def Sys.allows (s : Sys H cfg) (m : ConnId) : Bool := ((s.conns m).rate.allow s.now).2

/-- The message that a transition delivered to the handler of a connection, and that the handler
looked at. -/
def taken (m : ConnId) (t : Transition (Sys H cfg) Action) : Option Event :=
  if t.pre.allows m then delivered m t else none

/-- The events of a run, oldest first. -/
def eventsOf (f : Transition (Sys H cfg) Action → Option Event)
    (ts : List (Transition (Sys H cfg) Action)) : List Event :=
  ts.reverse.filterMap f

/-- The events of a half-open interval. -/
def between (length start : Nat) (es : List Event) : List Event :=
  es.filter fun e => start ≤ e.time && e.time < start + length

variable {s s' : Sys H cfg} {k m : ConnId} {env : Env} {act : Action}

theorem eventsOf_cons {f : Transition (Sys H cfg) Action → Option Event}
    {t : Transition (Sys H cfg) Action} {ts : List (Transition (Sys H cfg) Action)} :
    eventsOf f (t :: ts) = eventsOf f ts ++ (f t).toList := by
  unfold eventsOf
  rw [List.reverse_cons, List.filterMap_append]
  cases h : f t <;> simp [h]

/-! ## Steps -/

/-- A frame is charged to the budget that the connection has, which admits it. -/
theorem charged_step {e : Event} (h : SysStep s act s') (hm : (s.conns m).task ≠ .absent)
    (hcharged : charged m ⟨s, act, s'⟩ = some e) :
    s.sending m act = some e ∧ (s.conns m).budget.counters.admits outboundLimits e = true := by
  obtain ⟨hsending, hallowed⟩ := Option.filter_eq_some_iff.1 hcharged
  refine ⟨hsending, ?_⟩
  rw [← ((s.conns m).budget.allow_eq e.time e.size).2]
  cases step_cases h with
  | @connected k challenge sourceIp ok ht =>
    have hne : k ≠ m := fun heq => hm (heq ▸ ht)
    cases hsending.symm.trans (if_neg hne)
  | _ => exact hallowed

/-- A handler's own steps leave its message rate as it is. -/
theorem Exec.rate (h : Exec s k env s') : (s'.conns k).rate = (s.conns k).rate := by
  cases h with
  | committed =>
    dsimp only
    rw [Sys.setConn_self]
  | hostActed | left =>
    rw [Sys.setTask_self]
    rfl
  | sent =>
    rw [Sys.setTask_self]
    exact Sys.send_untouched.rate
  | read | hostRefused | stayed => rw [Sys.setTask_self]
  | rejected | signalled =>
    rw [Sys.setTask_self]
    rfl

/-- A message that arrives is charged to the message rate of its connection, and nothing else
is. -/
theorem rate_step (h : SysStep s act s') (hm : (s.conns m).task ≠ .absent) :
    (s'.conns m).rate.counters = (delivered m ⟨s, act, s'⟩).toList.foldl
      (Counters.after messageLimits) (s.conns m).rate.counters := by
  have hmove := step_cases h
  by_cases hactor : act.actor = some m
  · cases act with
    | connect =>
      cases hactor
      cases hmove with
      | connected ht => exact absurd ht hm
    | tick => cases hactor
    | receive k inbound =>
      cases hactor
      simp only [SysStep, Sys.step] at h
      split at h
      · cases h
        have hcharged := messageLimiter_implements.after (s.conns m).rate s.now
        simp only [delivered, if_true, Option.toList_some, List.foldl_cons, List.foldl_nil]
        rw [Sys.receive, Sys.setConn_self]
        exact hcharged
      · cases h
    | hangup k =>
      cases hactor
      cases hmove with
      | hungUp =>
        rw [Sys.setTask_self]
        rfl
    | exec k env =>
      cases hactor
      cases hmove with
      | moved hexec =>
        rw [hexec.rate]
        rfl
  · have hnone : delivered m ⟨s, act, s'⟩ = none := by
      cases act with
      | receive k inbound => exact if_neg fun heq => hactor (congrArg some heq)
      | _ => rfl
    rw [(hmove.untouched hactor).rate, hnone]
    rfl

/-! ## Runs -/

/-- What the budget and the message rate of a connection were charged with since a time. -/
structure Accounted (m : ConnId) (since : Nat) (ts : List (Transition (Sys H cfg) Action))
    (s : Sys H cfg) : Prop where
  present : (s.conns m).task ≠ .absent
  outbound : ∃ offered, Metered outboundLimits since offered (eventsOf (charged m) ts)
    (s.conns m).budget.counters s.now
  inbound : ∃ offered, Metered messageLimits since offered (eventsOf (taken m) ts)
    (s.conns m).rate.counters s.now

/-- A connection that was opened stays accounted for. -/
theorem Accounted.step {since : Nat} {ts : List (Transition (Sys H cfg) Action)}
    (hacc : Accounted m since ts s) (h : SysStep s act s') :
    Accounted m since (⟨s, act, s'⟩ :: ts) s' where
  present := open_step h hacc.present
  outbound := by
    obtain ⟨offered, hmetered⟩ := hacc.outbound
    rw [budget_step h hacc.present, eventsOf_cons]
    cases hcharged : charged m ⟨s, act, s'⟩ with
    | some e =>
      obtain ⟨hsending, hadmits⟩ := charged_step h hacc.present hcharged
      rw [hsending]
      exact ⟨_, (hmetered.offer (p := true) (Sys.sending_time hsending)
        fun _ => hadmits).mono (clock_step h)⟩
    | none =>
      cases hsending : s.sending m act with
      | none => exact ⟨_, by simpa using hmetered.mono (clock_step h)⟩
      | some e =>
        exact ⟨_, (hmetered.offer (p := false) (Sys.sending_time hsending) nofun).mono
          (clock_step h)⟩
  inbound := by
    obtain ⟨offered, hmetered⟩ := hacc.inbound
    rw [rate_step h hacc.present, eventsOf_cons, taken]
    cases hdelivered : delivered m ⟨s, act, s'⟩ with
    | none => exact ⟨_, by simpa using hmetered.mono (clock_step h)⟩
    | some e =>
      have htime : e = ⟨s.now, 0⟩ := by
        unfold delivered at hdelivered
        split at hdelivered
        · split at hdelivered
          · exact (Option.some.inj hdelivered).symm
          · cases hdelivered
        · cases hdelivered
      subst htime
      have hadmits := messageLimiter_implements.admits (s.conns m).rate s.now
      have hoffered := (hmetered.offer (p := s.allows m) (e := ⟨s.now, 0⟩) rfl
        fun hp => hadmits.symm.trans hp).mono (clock_step h)
      refine ⟨offered ++ [⟨s.now, 0⟩], ?_⟩
      cases hallows : s.allows m <;> simpa [hallows] using hoffered

/-- The account of a connection starts when it is opened: the greeting is the first frame that its
budget is charged with. -/
theorem Accounted.connect {challenge : String} {sourceIp : IpAddr} {ok : Bool}
    (h : SysStep s (.connect m challenge sourceIp ok) s') :
    Accounted m s.now [⟨s, .connect m challenge sourceIp ok, s'⟩] s' := by
  cases step_cases h with
  | connected =>
    let opened := s.setConn m ⟨challenge, sourceIp, none, .new s.now, .new s.now, .absent⟩
    let greeting := reply m (.serverChallenge challenge true SIGNALING_PROTOCOL_VERSION)
    let e : Event := ⟨s.now, greeting.frame.bytes⟩
    have hspec : ((OutboundBudget.new s.now).allow s.now e.size).1.counters =
          Counters.after outboundLimits ⟨s.now, 0, 0⟩ e ∧
        ((OutboundBudget.new s.now).allow s.now e.size).2 =
          Counters.admits outboundLimits ⟨s.now, 0, 0⟩ e :=
      (OutboundBudget.new s.now).allow_eq s.now e.size
    have hbudget : ((s.connect m challenge sourceIp ok).conns m).budget.counters =
        Counters.after outboundLimits ⟨s.now, 0, 0⟩ e := by
      rw [← hspec.1]
      simp only [Sys.connect, Sys.setTask_self]
      simp only [Sys.send, reply, Sys.setConn_self]
      rfl
    have hgreeting : s.sending m (.connect m challenge sourceIp ok) = some e := if_pos rfl
    have hcharged : eventsOf (charged m) [⟨s, .connect m challenge sourceIp ok,
        s.connect m challenge sourceIp ok⟩] =
          [] ++ if ((OutboundBudget.new s.now).allow s.now e.size).2 then [e] else [] := by
      rw [eventsOf_cons, charged, hgreeting, Option.filter_some]
      change _ ++ (if ((OutboundBudget.new s.now).allow s.now e.size).2 then some e
        else none).toList = _
      split <;> rfl
    constructor
    case present =>
      simp only [Sys.connect, Sys.setTask_self]
      split <;> simp
    case outbound =>
      rw [hbudget, hcharged]
      exact ⟨_, Metered.new.offer rfl (hspec.2.symm.trans ·)⟩
    case inbound =>
      have hrate : ((s.connect m challenge sourceIp ok).conns m).rate.counters =
          ⟨s.now, 0, 0⟩ := by
        simp only [Sys.connect, Sys.setTask_self]
        simp only [Sys.send, reply, Sys.setConn_self]
        rfl
      have htaken : eventsOf (taken m) [⟨s, .connect m challenge sourceIp ok,
          s.connect m challenge sourceIp ok⟩] = [] := by
        simp [eventsOf, taken, delivered]
      rw [hrate, htaken]
      exact ⟨[], Metered.new⟩

/-- A connection that was opened is accounted for ever after. -/
theorem Accounted.run {mid earlier : List (Transition (Sys H cfg) Action)}
    {t : Transition (Sys H cfg) Action} {challenge : String} {sourceIp : IpAddr} {ok : Bool}
    (h : SysRun (mid ++ t :: earlier) s) (ht : t.act = .connect m challenge sourceIp ok) :
    Accounted m t.pre.now (mid ++ [t]) s := by
  induction mid generalizing s with
  | nil =>
    cases h with
    | snoc _ hst =>
      cases ht
      exact .connect hst
  | cons u mid ih =>
    cases h with
    | snoc hr hst => exact (ih hr).step hst

/-- **The traffic of a connection is bounded.** In every run, whatever the other connections do,
in every interval of one second after a connection is opened its budget admits at most 128 frames of
together 2 MiB for it, the greeting included, and in every interval of ten seconds its handler deals
with at most 240 of its messages. -/
theorem traffic_bounded {mid earlier : List (Transition (Sys H cfg) Action)}
    {t : Transition (Sys H cfg) Action} {challenge : String} {sourceIp : IpAddr} {ok : Bool}
    (h : SysRun (mid ++ t :: earlier) s) (ht : t.act = .connect m challenge sourceIp ok)
    (start : Nat) :
    FixedWindow.Within ⟨secs 1, 128, 2 * (1024 * 1024)⟩
        (between (secs 1) start (eventsOf (charged m) (mid ++ [t]))) ∧
      (between (secs 10) start (eventsOf (taken m) (mid ++ [t]))).length ≤ 240 := by
  obtain ⟨-, ⟨_, houtbound⟩, _, hinbound⟩ := Accounted.run h ht
  exact ⟨houtbound.interval (by decide) start, (hinbound.interval (by decide) start).1⟩

end

/-- A connection is greeted. -/
def opened : Sys recordedCrypto .default :=
  Sys.initial.connect 1 (repeatedByte "a1" 32) recordedSource true

/-- It sent a message that the server does not know. -/
def puzzled : Sys recordedCrypto .default := opened.receive 1 (.text (.error true))

/-- It was told so. -/
def answered : Sys recordedCrypto .default :=
  (puzzled.step (.exec 1 (recordedEnv "" 0 true))).get (by decide +kernel)

/-- The run, newest first. -/
def answeredRun : List (Transition (Sys recordedCrypto .default) Action) :=
  [⟨puzzled, .exec 1 (recordedEnv "" 0 true), answered⟩,
    ⟨opened, .receive 1 (.text (.error true)), puzzled⟩,
    ⟨.initial, .connect 1 (repeatedByte "a1" 32) recordedSource true, opened⟩]

/-- The greeting and the answer are what was admitted, and one message was taken. -/
theorem traffic_bounded_answered : SysRun answeredRun answered ∧
    (eventsOf (charged 1) answeredRun).length = 2 ∧ (eventsOf (taken 1) answeredRun).length = 1 ∧
    FixedWindow.Within ⟨secs 1, 128, 2 * (1024 * 1024)⟩
      (between (secs 1) 0 (eventsOf (charged 1) answeredRun)) ∧
    (between (secs 10) 0 (eventsOf (taken 1) answeredRun)).length ≤ 240 := by
  have hconnect : SysStep Sys.initial (.connect 1 (repeatedByte "a1" 32) recordedSource true)
      opened := rfl
  have hreceive : SysStep opened (.receive 1 (.text (.error true))) puzzled := by
    have hidle : (opened.conns 1).task = .idle := Task.isIdle_iff.1 (by decide +kernel)
    simp only [SysStep, Sys.step, hidle]
    rfl
  have hanswer : SysStep puzzled (.exec 1 (recordedEnv "" 0 true)) answered :=
    (Option.some_get _).symm
  have hrun : SysRun answeredRun answered := by
    refine .snoc (.snoc (.snoc (.start rfl) hconnect) hreceive) hanswer
  have hsplit : SysRun (answeredRun.take 2 ++
      ⟨.initial, .connect 1 (repeatedByte "a1" 32) recordedSource true, opened⟩ :: []) answered :=
    hrun
  exact ⟨hrun, by decide +kernel, by decide +kernel, traffic_bounded hsplit rfl 0⟩

end MctierSignaling
