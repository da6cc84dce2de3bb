import MctierSignaling.AddressSpelling
import MctierSignaling.RegistryTransitions
import MctierSignaling.Lib.FixedWindow

/-!
# The throttling of submissions

A submission is charged to the quota of its source, eight in ten minutes, and starts a cooldown of
thirty seconds. Both tables forget: the entry of a quota is dropped twenty minutes after its window
started, the one of a cooldown with the first submission after it. This module runs submissions one
after the other (`Throttle.submit`), each at one time of one clock, and shows what they are limited
to (`throttle_bounded`).

An entry of the quota table is dropped only when its window is over, so a source's submissions are
decided as if it was kept (`Counted`). A source that cools down has an entry in the quota table
(`Recent`), whose size is limited, so the size of the other table is limited too.
-/

namespace MctierSignaling.CommunityNodes

open FixedWindow

/-- The tables that throttle submissions, and the time of the last one, in nanoseconds. -/
structure Throttle where
  quotas : HashMap IpAddr SubmitQuota
  cooldowns : HashMap IpAddr Nat
  now : Nat

/-- What became of a submission that is well formed: its source, its time, the start of the quota
window that it was charged to, if it was, and whether it got past the quota and the cooldown. -/
structure Submitted where
  source : IpAddr
  time : Nat
  window : Option Nat
  pastQuota : Bool
  pastCooldown : Bool
  deriving DecidableEq

/-- A submission, up to its cooldown. Reference: `handle_community_node_submit_with_limits`
(`community_nodes.rs:589-641`). -/
def Throttle.submit (lower : List Char → List Char) (t : Throttle) (now : Nat) (sub : Submission) :
    Throttle × Option Submitted :=
  match sub.accept lower (now / secs 1) with
  | .error _ => ({ t with now }, none)
  | .ok a =>
    let (quotas, refusal) := chargeQuota t.quotas a.peer now
    let window := (quotas.lookup a.peer).map SubmitQuota.windowStarted
    match refusal with
    | some _ => ({ t with quotas, now }, some ⟨a.peer, now, window, false, false⟩)
    | none =>
      let (cooldowns, refusal) := startCooldown t.cooldowns a.peer a.now
      (⟨quotas, cooldowns, now⟩, some ⟨a.peer, now, window, true, refusal.isNone⟩)

/-- One submission after the other. -/
def ThrottleStep (lower : List Char → List Char) (t : Throttle) (act : Nat × Submission)
    (t' : Throttle) : Prop :=
  t.now ≤ act.1 ∧ t' = (t.submit lower act.1 act.2).1

/-- The runs from empty tables. -/
abbrev ThrottleRun (lower : List Char → List Char)
    (ts : List (Transition Throttle (Nat × Submission))) (t : Throttle) : Prop :=
  Run (fun t => t.quotas = ∅ ∧ t.cooldowns = ∅) (ThrottleStep lower) ts t

/-- What became of the submissions of a run, oldest first. -/
def throttleLog (lower : List Char → List Char)
    (ts : List (Transition Throttle (Nat × Submission))) : List Submitted :=
  ts.reverse.filterMap fun t => (t.pre.submit lower t.act.1 t.act.2).2

section
variable {lower : List Char → List Char} {t t' : Throttle} {now : Nat} {sub : Submission}
  {ip : IpAddr} {quotas : HashMap IpAddr SubmitQuota} {cooldowns : HashMap IpAddr Nat}
  {ts : List (Transition Throttle (Nat × Submission))} {log : List Submitted} {r : Submitted}

/-! ## One submission -/

/-- The limits of a quota. -/
def submitLimits : Limits :=
  ⟨secs COMMUNITY_NODE_SUBMIT_WINDOW_SECS, COMMUNITY_NODE_SUBMIT_MAX_PER_WINDOW, 0⟩

def SubmitQuota.counters (quota : SubmitQuota) : Counters :=
  ⟨quota.windowStarted, quota.submissions, 0⟩

/-- `allow_submit_quota` is a budget of a fixed window. -/
theorem allowSubmitQuota_eq (quota : SubmitQuota) (now : Nat) :
    (allowSubmitQuota quota now).1.counters = quota.counters.after submitLimits ⟨now, 0⟩ ∧
      (allowSubmitQuota quota now).2 = quota.counters.admits submitLimits ⟨now, 0⟩ := by
  obtain ⟨quota', hquota', hat⟩ : ∃ quota' : SubmitQuota,
      (if now - quota.windowStarted ≥ secs COMMUNITY_NODE_SUBMIT_WINDOW_SECS then ⟨now, 0⟩
        else quota) = quota' ∧
        quota.counters.at submitLimits ⟨now, 0⟩ = quota'.counters := by
    by_cases hlate : now - quota.windowStarted ≥ secs COMMUNITY_NODE_SUBMIT_WINDOW_SECS
    · exact ⟨⟨now, 0⟩, if_pos hlate, if_pos hlate⟩
    · exact ⟨quota, if_neg hlate, if_neg hlate⟩
  unfold allowSubmitQuota
  simp only [hquota']
  exact Counters.of_count (L := submitLimits) hat (Nat.zero_le 0) rfl

/-- The quotas that are kept at a time. -/
def keptQuotas (quotas : HashMap IpAddr SubmitQuota) (now : Nat) : HashMap IpAddr SubmitQuota :=
  HashMap.retain (fun _ quota =>
    if now - quota.windowStarted < secs (COMMUNITY_NODE_SUBMIT_WINDOW_SECS * 2) then some quota
    else none) quotas

/-- The cooldowns that last at a time, in seconds. -/
def keptCooldowns (cooldowns : HashMap IpAddr Nat) (now : Nat) : HashMap IpAddr Nat :=
  HashMap.retain (fun _ at_ =>
    if now - at_ ≤ COMMUNITY_NODE_SUBMIT_COOLDOWN_SECS then some at_ else none) cooldowns

/-- The counters that a submission is charged to. -/
def chargedCounters (quotas : HashMap IpAddr SubmitQuota) (ip : IpAddr) (now : Nat) : Counters :=
  (((keptQuotas quotas now).lookup ip).getD ⟨now, 0⟩).counters

/-- What the cooldown makes of a submission: whether it is past the quota, the table after it, and
whether it is past the cooldown. -/
inductive Cooled (cooldowns : HashMap IpAddr Nat) (ip : IpAddr) (now : Nat) :
    Bool → HashMap IpAddr Nat → Bool → Prop
  | refused : Cooled cooldowns ip now false cooldowns false
  | cooling {last : Nat} : (keptCooldowns cooldowns now).lookup ip = some last →
      Cooled cooldowns ip now true (keptCooldowns cooldowns now) false
  | passed : (keptCooldowns cooldowns now).lookup ip = none →
      Cooled cooldowns ip now true ((keptCooldowns cooldowns now).insert ip now) true

/-- What a submission does: it is not well formed, the table of quotas has no room for its source,
or it is charged. -/
inductive Throttled (t : Throttle) (now : Nat) : Throttle → Option Submitted → Prop
  | malformed : Throttled t now { t with now } none
  | crowded {ip : IpAddr} : (keptQuotas t.quotas now).lookup ip = none →
      Throttled t now { t with quotas := keptQuotas t.quotas now, now }
        (some ⟨ip, now, none, false, false⟩)
  | charged {ip : IpAddr} {quota : SubmitQuota} {cooldowns : HashMap IpAddr Nat}
      {pastQuota pastCooldown : Bool} :
      (∃ old, (keptQuotas t.quotas now).lookup ip = some old) ∨
        (keptQuotas t.quotas now).keys.length < MAX_TRACKED_IP_SUBMITTERS →
      quota.counters = (chargedCounters t.quotas ip now).after submitLimits ⟨now, 0⟩ →
      (chargedCounters t.quotas ip now).admits submitLimits ⟨now, 0⟩ = pastQuota →
      Cooled t.cooldowns ip (now / secs 1) pastQuota cooldowns pastCooldown →
      Throttled t now ⟨(keptQuotas t.quotas now).insert ip quota, cooldowns, now⟩
        (some ⟨ip, now, some quota.windowStarted, pastQuota, pastCooldown⟩)

theorem startCooldown_cases : Cooled cooldowns ip now true (startCooldown cooldowns ip now).1
    (startCooldown cooldowns ip now).2.isNone := by
  have hkept : (keptCooldowns cooldowns now).lookup ip = none ∨
      ∃ last, (keptCooldowns cooldowns now).lookup ip = some last := by
    cases (keptCooldowns cooldowns now).lookup ip <;> simp
  unfold keptCooldowns at hkept
  obtain hnone | ⟨last, hlast⟩ := hkept
  · simp only [startCooldown, hnone]
    exact .passed hnone
  · simp only [startCooldown, hlast]
    exact .cooling hlast

theorem chargeQuota_cases (quotas : HashMap IpAddr SubmitQuota) (ip : IpAddr) (now : Nat) :
    ((keptQuotas quotas now).lookup ip = none ∧
      ∃ m, chargeQuota quotas ip now = (keptQuotas quotas now, some m)) ∨
    ((∃ old, (keptQuotas quotas now).lookup ip = some old) ∨
        (keptQuotas quotas now).keys.length < MAX_TRACKED_IP_SUBMITTERS) ∧
      ∃ quota refusal, chargeQuota quotas ip now =
          ((keptQuotas quotas now).insert ip quota, refusal) ∧
        quota.counters = (chargedCounters quotas ip now).after submitLimits ⟨now, 0⟩ ∧
        (chargedCounters quotas ip now).admits submitLimits ⟨now, 0⟩ = refusal.isNone := by
  by_cases hfull : ((keptQuotas quotas now).lookup ip).isNone ∧
      (keptQuotas quotas now).keys.length ≥ MAX_TRACKED_IP_SUBMITTERS
  · left
    refine ⟨Option.isNone_iff_eq_none.mp hfull.1, "投稿来源过多，请稍后再试", ?_⟩
    exact if_pos hfull
  · right
    have hroom : (∃ old, (keptQuotas quotas now).lookup ip = some old) ∨
        (keptQuotas quotas now).keys.length < MAX_TRACKED_IP_SUBMITTERS := by
      cases hlookup : (keptQuotas quotas now).lookup ip with
      | some old => exact .inl ⟨old, rfl⟩
      | none =>
        right
        rw [hlookup] at hfull
        simpa using hfull
    let allowed := allowSubmitQuota (((keptQuotas quotas now).lookup ip).getD ⟨now, 0⟩) now
    have hcharge : chargeQuota quotas ip now = ((keptQuotas quotas now).insert ip allowed.1,
        if allowed.2 then none else some "该来源的投稿配额已用尽，请稍后再试") := if_neg hfull
    obtain ⟨hafter, hadmits⟩ := allowSubmitQuota_eq
      (((keptQuotas quotas now).lookup ip).getD ⟨now, 0⟩) now
    refine ⟨hroom, _, _, hcharge, hafter, ?_⟩
    rw [chargedCounters, ← hadmits]
    cases allowed.2 <;> rfl

theorem submit_cases :
    Throttled t now (t.submit lower now sub).1 (t.submit lower now sub).2 := by
  unfold Throttle.submit
  cases haccept : sub.accept lower (now / secs 1) with
  | error message => exact .malformed
  | ok a =>
    have hnow : a.now = now / secs 1 := accept_now haccept
    dsimp only
    obtain ⟨hnone, message, hcharge⟩ | ⟨hroom, quota, refusal, hcharge, hcounters, hadmits⟩ :=
      chargeQuota_cases t.quotas a.peer now
    · rw [hcharge, hnone]
      exact .crowded hnone
    · rw [hcharge]
      have hlookup :
          ((keptQuotas t.quotas now).insert a.peer quota).lookup a.peer = some quota := by simp
      cases refusal with
      | some message =>
        simp only [hlookup, Option.map_some]
        exact .charged hroom hcounters hadmits .refused
      | none =>
        simp only [hlookup, Option.map_some]
        rw [hnow]
        exact .charged hroom hcounters hadmits startCooldown_cases

/-! ## The steps of the server -/

/-- The tables of the server, at its time. -/
def State.throttle (s : State) : Throttle := ⟨s.quotas, s.cooldowns, s.now⟩

/-- The server takes these steps for a submission, if nothing else happens in between; the task goes
on to look for the node exactly if the submission got past the cooldown. -/
theorem submit_steps {s : State} {i : Nat} {capacity : Nat} (env : Env)
    (hi : s.tasks i = .absent) : ∃ n s',
    (.submit i sub :: List.replicate n (.run i env)).foldlM (State.step lower capacity) s =
        some s' ∧
      s'.throttle = (s.throttle.submit lower s.now sub).1 ∧
      ((∃ a, s'.tasks i = .lookup a) ↔
        ∃ r, (s.throttle.submit lower s.now sub).2 = some r ∧ r.pastCooldown = true) := by
  have hsubmit : s.step lower capacity (.submit i sub) = some (s.submit lower i sub) := by
    simp only [State.step, hi]
  cases haccept : sub.accept lower (s.now / secs 1) with
  | error message =>
    have hs : s.submit lower i sub = s.setTask i (rejected message) := by
      simp only [State.submit, State.unixSecs, haccept]
    refine ⟨0, s.submit lower i sub, by simp [hsubmit], ?_, ?_⟩
    · simp only [Throttle.submit, haccept, hs]
      rfl
    · simp [Throttle.submit, haccept, hs, State.setTask_self, rejected]
  | ok a =>
    have hs : s.submit lower i sub = s.setTask i (.quota a) := by
      simp only [State.submit, State.unixSecs, haccept]
    have hquota : ∀ s₁ : State, s₁ = s.setTask i (.quota a) → s₁.quotas = s.quotas ∧
        s₁.cooldowns = s.cooldowns ∧ s₁.now = s.now ∧ s₁.tasks i = .quota a := by
      rintro s₁ rfl
      exact ⟨rfl, rfl, rfl, State.setTask_self⟩
    obtain ⟨hquotas, hcooldowns, hnow, htask⟩ := hquota _ hs
    rcases hcharge : chargeQuota s.quotas a.peer s.now with ⟨quotas, refusal⟩
    cases refusal with
    | some message =>
      have hrun : (s.submit lower i sub).step lower capacity (.run i env) =
          some ({ s.submit lower i sub with quotas }.setTask i (rejected message)) := by
        simp only [State.step, State.run, htask, hquotas, hnow, hcharge]
      refine ⟨1, _, by simpa [hsubmit] using hrun, ?_, ?_⟩
      · simp only [State.throttle, Throttle.submit, haccept, hcharge]
        exact congrArg₂ (Throttle.mk quotas) hcooldowns hnow
      · simp [Throttle.submit, State.throttle, haccept, hcharge, rejected]
    | none =>
      have hrun : (s.submit lower i sub).step lower capacity (.run i env) =
          some ({ s.submit lower i sub with quotas }.setTask i (.cooldown a)) := by
        simp only [State.step, State.run, htask, hquotas, hnow, hcharge]
      rcases hcool : startCooldown s.cooldowns a.peer a.now with ⟨cooldowns, refusal⟩
      have hcool' : startCooldown ({ s.submit lower i sub with quotas }.setTask i
          (.cooldown a)).cooldowns a.peer a.now = (cooldowns, refusal) := by
        rw [← hcool, ← hcooldowns]
        rfl
      obtain ⟨task, htask', hcooled⟩ : ∃ task : Task,
          (({ s.submit lower i sub with quotas }.setTask i (.cooldown a)).step lower capacity
            (.run i env)) = some ({ s.submit lower i sub with quotas, cooldowns }.setTask i task) ∧
          ((∃ a, task = .lookup a) ↔ refusal.isNone = true) := by
        cases refusal with
        | some message =>
          refine ⟨rejected message, ?_, by simp [rejected]⟩
          simp only [State.step, State.run, State.setTask_self, hcool']
          simp [State.setTask]
        | none =>
          refine ⟨.lookup a, ?_, by simp⟩
          simp only [State.step, State.run, State.setTask_self, hcool']
          simp [State.setTask]
      refine ⟨2, _, by simpa [hsubmit, hrun] using htask', ?_, ?_⟩
      · simp only [State.throttle, Throttle.submit, haccept, hcharge, hcool]
        exact congrArg (Throttle.mk quotas cooldowns) hnow
      · simp [Throttle.submit, State.throttle, haccept, hcharge, hcool, hcooled]

/-! ## Runs -/

theorem throttleLog_cons {x : Transition Throttle (Nat × Submission)} :
    throttleLog lower (x :: ts) =
      throttleLog lower ts ++ (x.pre.submit lower x.act.1 x.act.2).2.toList := by
  unfold throttleLog
  rw [List.reverse_cons, List.filterMap_append]
  cases h : (x.pre.submit lower x.act.1 x.act.2).2 <;> simp [h]

/-- **The induction rule of submissions.** What holds of empty tables and no submission, and is kept
by every later submission, holds after every run. -/
theorem ThrottleRun.invariant {I : Throttle → List Submitted → Prop}
    (h : ThrottleRun lower ts t)
    (h0 : ∀ t : Throttle, t.quotas = ∅ → t.cooldowns = ∅ → I t [])
    (hs : ∀ t log now t' r, I t log → t.now ≤ now → Throttled t now t' r →
      I t' (log ++ r.toList)) : I t (throttleLog lower ts) := by
  induction h with
  | start h => exact h0 _ h.1 h.2
  | snoc _ hstep ih =>
    obtain ⟨hnow, rfl⟩ := hstep
    rw [throttleLog_cons]
    exact hs _ _ _ _ _ ih hnow submit_cases

theorem Throttled.now_eq {o : Option Submitted} (h : Throttled t now t' o) : t'.now = now := by
  cases h <;> rfl

theorem Throttled.time_eq {o : Option Submitted} (h : Throttled t now t' o) :
    ∀ r ∈ o.toList, r.time = now := by
  intro r hr
  cases h with
  | malformed => cases hr
  | crowded | charged =>
    obtain rfl := List.mem_singleton.mp hr
    rfl

/-- A submission that gets past the quota was charged to it. -/
theorem Throttled.window_isSome {o : Option Submitted} (h : Throttled t now t' o) :
    ∀ r ∈ o.toList, r.pastQuota = true → r.window.isSome = true := by
  intro r hr hpast
  cases h with
  | malformed => cases hr
  | crowded =>
    obtain rfl := List.mem_singleton.mp hr
    cases hpast
  | charged =>
    obtain rfl := List.mem_singleton.mp hr
    rfl

/-- The log is in the order of time, and what got past the quota was charged to it. -/
structure InOrder (t : Throttle) (log : List Submitted) : Prop where
  ordered : (log.map Submitted.time).Pairwise (· ≤ ·)
  past : ∀ r ∈ log, r.time ≤ t.now
  charged : ∀ r ∈ log, r.pastQuota = true → r.window.isSome = true

theorem InOrder.step {o : Option Submitted} (h : InOrder t log) (hnow : t.now ≤ now)
    (hs : Throttled t now t' o) : InOrder t' (log ++ o.toList) := by
  have htime := hs.time_eq
  constructor
  · rw [List.map_append, List.pairwise_append]
    refine ⟨h.ordered, ?_, fun x hx y hy => ?_⟩
    · cases o with
      | none => exact .nil
      | some r => exact List.pairwise_singleton ..
    · obtain ⟨r, hr, rfl⟩ := List.mem_map.mp hx
      obtain ⟨r', hr', rfl⟩ := List.mem_map.mp hy
      have hpast := h.past r hr
      have hnew := htime r' hr'
      omega
  · intro r hr
    rw [hs.now_eq]
    obtain hr | hr := List.mem_append.mp hr
    · exact Nat.le_trans (h.past r hr) hnow
    · exact Nat.le_of_eq (htime r hr)
  · intro r hr
    obtain hr | hr := List.mem_append.mp hr
    · exact h.charged r hr
    · exact hs.window_isSome r hr

/-! ## The size of the tables -/

theorem lookup_keptQuotas {quota : SubmitQuota} :
    (keptQuotas quotas now).lookup ip = some quota ↔
      quotas.lookup ip = some quota ∧
        now - quota.windowStarted < secs (COMMUNITY_NODE_SUBMIT_WINDOW_SECS * 2) :=
  HashMap.mem_retain_ite

theorem lookup_keptCooldowns {last : Nat} :
    (keptCooldowns cooldowns now).lookup ip = some last ↔
      cooldowns.lookup ip = some last ∧ now - last ≤ COMMUNITY_NODE_SUBMIT_COOLDOWN_SECS :=
  HashMap.mem_retain_ite

/-- A source that cools down has a quota, whose window had not ended when the cooldown started. -/
def Recent (quotas : HashMap IpAddr SubmitQuota) (cooldowns : HashMap IpAddr Nat) (now : Nat) :
    Prop :=
  ∀ ip last, cooldowns.lookup ip = some last →
    now / secs 1 - last ≤ COMMUNITY_NODE_SUBMIT_COOLDOWN_SECS →
    ∃ quota, quotas.lookup ip = some quota ∧
      secs last < quota.windowStarted + secs COMMUNITY_NODE_SUBMIT_WINDOW_SECS

theorem Recent.later {n : Nat} (h : Recent quotas cooldowns n) (hnow : n ≤ now) :
    Recent quotas cooldowns now := by
  intro ip last hlast hfresh
  have hn : n / secs 1 ≤ now / secs 1 := Nat.div_le_div_right hnow
  exact h ip last hlast (by omega)

/-- The entries of the sources that cool down are kept. -/
theorem Recent.kept (h : Recent quotas cooldowns now) :
    Recent (keptQuotas quotas now) cooldowns now := by
  intro ip last hlast hfresh
  obtain ⟨quota, hquota, hwindow⟩ := h ip last hlast hfresh
  refine ⟨quota, lookup_keptQuotas.mpr ⟨hquota, ?_⟩, hwindow⟩
  have hsec := Nat.lt_div_mul_add (a := now) (b := secs 1) (by decide)
  simp only [secs, COMMUNITY_NODE_SUBMIT_WINDOW_SECS, COMMUNITY_NODE_SUBMIT_COOLDOWN_SECS] at *
  omega

/-- The window that a submission is charged to is not over, and not older than the last one. -/
theorem charged_window {quota : SubmitQuota}
    (hquota : quota.counters = (chargedCounters quotas ip now).after submitLimits ⟨now, 0⟩) :
    now < quota.windowStarted + secs COMMUNITY_NODE_SUBMIT_WINDOW_SECS ∧
      ∀ old, (keptQuotas quotas now).lookup ip = some old →
        old.windowStarted ≤ quota.windowStarted := by
  have hstart : quota.windowStarted =
      ((chargedCounters quotas ip now).at submitLimits ⟨now, 0⟩).start := by
    rw [← Counters.after_start, ← hquota]
    rfl
  have hold : ∀ old, (keptQuotas quotas now).lookup ip = some old →
      (chargedCounters quotas ip now).start = old.windowStarted := by
    intro old hlookup
    rw [chargedCounters, hlookup]
    rfl
  obtain ⟨hlate, hat⟩ | ⟨hin, hat⟩ := Counters.at_cases (L := submitLimits)
    (c := chargedCounters quotas ip now) (e := ⟨now, 0⟩)
  · rw [hstart, hat]
    refine ⟨?_, fun old hlookup => ?_⟩
    · simp only [secs, COMMUNITY_NODE_SUBMIT_WINDOW_SECS]
      omega
    · have := hold old hlookup
      simp only [submitLimits, secs, COMMUNITY_NODE_SUBMIT_WINDOW_SECS] at hlate
      dsimp only at hlate ⊢
      omega
  · rw [hstart, hat]
    refine ⟨?_, fun old hlookup => Nat.le_of_eq (hold old hlookup).symm⟩
    simp only [submitLimits] at hin
    omega

theorem Recent.insert {quota : SubmitQuota} (h : Recent (keptQuotas quotas now) cooldowns now)
    (hquota : quota.counters = (chargedCounters quotas ip now).after submitLimits ⟨now, 0⟩) :
    Recent ((keptQuotas quotas now).insert ip quota) cooldowns now := by
  intro ip' last hlast hfresh
  obtain ⟨old, hold, hwindow⟩ := h ip' last hlast hfresh
  by_cases hip : ip' = ip
  · subst hip
    have hstart := (charged_window hquota).2 old hold
    exact ⟨quota, by simp, by omega⟩
  · exact ⟨old, by simpa [hip] using hold, hwindow⟩

/-- What the cooldown table gains is recent. -/
theorem Recent.cooled {c : HashMap IpAddr Nat} {pastQuota pastCooldown : Bool}
    {quota : SubmitQuota} (h : Recent quotas cooldowns now)
    (hlookup : quotas.lookup ip = some quota)
    (hquota : now < quota.windowStarted + secs COMMUNITY_NODE_SUBMIT_WINDOW_SECS)
    (hs : Cooled cooldowns ip (now / secs 1) pastQuota c pastCooldown) : Recent quotas c now := by
  cases hs with
  | refused => exact h
  | cooling =>
    intro ip' last hlast hfresh
    exact h ip' last (lookup_keptCooldowns.mp hlast).1 hfresh
  | passed =>
    intro ip' last hlast hfresh
    by_cases hip : ip' = ip
    · subst hip
      have hlast' : now / secs 1 = last := by simpa using hlast
      have hle : secs last ≤ now := by
        rw [← hlast']
        exact Nat.div_mul_le_self now (secs 1)
      exact ⟨quota, hlookup, by omega⟩
    · have hkept : (keptCooldowns cooldowns (now / secs 1)).lookup ip' = some last := by
        simpa [hip] using hlast
      exact h ip' last (lookup_keptCooldowns.mp hkept).1 hfresh

/-- The sources that cool down have quotas, and both tables have room for no more than the
limit. -/
structure Sized (t : Throttle) : Prop where
  recent : Recent t.quotas t.cooldowns t.now
  quotas_le : t.quotas.keys.length ≤ MAX_TRACKED_IP_SUBMITTERS
  cooldowns_le : t.cooldowns.keys.length ≤ MAX_TRACKED_IP_SUBMITTERS

theorem length_charged (quota : SubmitQuota)
    (hquotas : quotas.keys.length ≤ MAX_TRACKED_IP_SUBMITTERS)
    (hroom : (∃ old, (keptQuotas quotas now).lookup ip = some old) ∨
      (keptQuotas quotas now).keys.length < MAX_TRACKED_IP_SUBMITTERS) :
    ((keptQuotas quotas now).insert ip quota).keys.length ≤ MAX_TRACKED_IP_SUBMITTERS := by
  have hkept : (keptQuotas quotas now).keys.length ≤ quotas.keys.length :=
    HashMap.length_retain_le _ _
  obtain ⟨old, hold⟩ | hlt := hroom
  · rw [HashMap.length_insert_of_mem (HashMap.mem_of_lookup hold)]
    omega
  · have hinsert := HashMap.length_insert_le (m := keptQuotas quotas now) (k := ip) (v := quota)
    omega

/-- The cooldown table grows only when all of its sources have quotas. -/
theorem length_cooled {c : HashMap IpAddr Nat} {pastQuota pastCooldown : Bool}
    (hcooldowns : cooldowns.keys.length ≤ MAX_TRACKED_IP_SUBMITTERS)
    (hquotas : quotas.keys.length ≤ MAX_TRACKED_IP_SUBMITTERS)
    (h : Recent quotas c now)
    (hs : Cooled cooldowns ip (now / secs 1) pastQuota c pastCooldown) :
    c.keys.length ≤ MAX_TRACKED_IP_SUBMITTERS := by
  cases hs with
  | refused => exact hcooldowns
  | cooling =>
    have hkept : (keptCooldowns cooldowns (now / secs 1)).keys.length ≤ cooldowns.keys.length :=
      HashMap.length_retain_le _ _
    omega
  | passed =>
    refine Nat.le_trans (HashMap.length_keys_le fun ip' last hlast => ?_) hquotas
    have hfresh : now / secs 1 - last ≤ COMMUNITY_NODE_SUBMIT_COOLDOWN_SECS := by
      by_cases hip : ip' = ip
      · have hlast' : now / secs 1 = last := by simpa [hip] using hlast
        omega
      · exact (lookup_keptCooldowns.mp (by simpa [hip] using hlast)).2
    obtain ⟨quota, hquota, -⟩ := h ip' last hlast hfresh
    exact ⟨quota, hquota⟩

theorem Sized.step {o : Option Submitted} (h : Sized t) (hnow : t.now ≤ now)
    (hs : Throttled t now t' o) : Sized t' := by
  have hlater := h.recent.later hnow
  have hkept := hlater.kept
  cases hs with
  | malformed => exact ⟨hlater, h.quotas_le, h.cooldowns_le⟩
  | crowded =>
    exact ⟨hkept, Nat.le_trans (HashMap.length_retain_le _ _) h.quotas_le, h.cooldowns_le⟩
  | @charged ip quota _ _ _ hroom hquota _ hcooled =>
    have hquotas := length_charged quota h.quotas_le hroom
    have hrecent := (hkept.insert hquota).cooled (by simp) (charged_window hquota).1 hcooled
    exact ⟨hrecent, hquotas, length_cooled h.cooldowns_le hquotas hrecent hcooled⟩

/-! ## Cooldowns -/

/-- The last submission of a source that got past the cooldown is in the table while it cools
down. -/
def Cooling (t : Throttle) (log : List Submitted) : Prop :=
  ∀ r ∈ log, r.pastCooldown = true →
    t.now / secs 1 - r.time / secs 1 ≤ COMMUNITY_NODE_SUBMIT_COOLDOWN_SECS →
    ∃ last, t.cooldowns.lookup r.source = some last ∧ r.time / secs 1 ≤ last

/-- The submissions of a source that got past the cooldown. -/
def probed (ip : IpAddr) (log : List Submitted) : List Submitted :=
  log.filter fun r => r.source = ip ∧ r.pastCooldown = true

/-- They are more than the cooldown apart. -/
def Spaced (log : List Submitted) : Prop :=
  ∀ ip, (probed ip log).Pairwise fun r r' =>
    r.time + secs COMMUNITY_NODE_SUBMIT_COOLDOWN_SECS < r'.time

/-- The entry of a source that cools down is kept. -/
theorem Cooling.kept (h : Cooling t log) (hnow : t.now ≤ now) (hr : r ∈ log)
    (hpast : r.pastCooldown = true)
    (hfresh : now / secs 1 - r.time / secs 1 ≤ COMMUNITY_NODE_SUBMIT_COOLDOWN_SECS) :
    ∃ last, (keptCooldowns t.cooldowns (now / secs 1)).lookup r.source = some last ∧
      r.time / secs 1 ≤ last := by
  have hlater : t.now / secs 1 ≤ now / secs 1 := Nat.div_le_div_right hnow
  obtain ⟨last, hlast, hle⟩ := h r hr hpast (by omega)
  exact ⟨last, lookup_keptCooldowns.mpr ⟨hlast, by omega⟩, hle⟩

theorem Cooling.step {o : Option Submitted} (h : Cooling t log) (hnow : t.now ≤ now)
    (hs : Throttled t now t' o) : Cooling t' (log ++ o.toList) := by
  intro r hr hpast hfresh
  rw [hs.now_eq] at hfresh
  obtain hr | hr := List.mem_append.mp hr
  · -- an earlier submission
    obtain ⟨last, hkept, hle⟩ := h.kept hnow hr hpast hfresh
    have hlast := (lookup_keptCooldowns.mp hkept).1
    cases hs with
    | malformed | crowded => exact ⟨last, hlast, hle⟩
    | @charged ip _ _ _ _ _ _ _ hcooled =>
      cases hcooled with
      | refused => exact ⟨last, hlast, hle⟩
      | cooling => exact ⟨last, hkept, hle⟩
      | passed hnone =>
        have hip : r.source ≠ ip := by
          rintro rfl
          rw [hkept] at hnone
          cases hnone
        exact ⟨last, by simpa [hip] using hkept, hle⟩
  · -- the submission itself
    cases hs with
    | malformed => cases hr
    | crowded =>
      obtain rfl := List.mem_singleton.mp hr
      cases hpast
    | charged _ _ _ hcooled =>
      obtain rfl := List.mem_singleton.mp hr
      cases hcooled with
      | refused | cooling => cases hpast
      | passed => exact ⟨now / secs 1, by simp, Nat.le_refl _⟩

theorem Spaced.step {o : Option Submitted} (h : Spaced log) (hcooling : Cooling t log)
    (hnow : t.now ≤ now) (hs : Throttled t now t' o) : Spaced (log ++ o.toList) := by
  have hold : ∀ ip, (keptCooldowns t.cooldowns (now / secs 1)).lookup ip = none →
      ∀ r ∈ probed ip log, r.time + secs COMMUNITY_NODE_SUBMIT_COOLDOWN_SECS < now := by
    intro ip hnone r hr
    simp only [probed, List.mem_filter, decide_eq_true_eq] at hr
    obtain ⟨hr, rfl, hpast⟩ := hr
    by_contra hclose
    obtain ⟨last, hkept, -⟩ := hcooling.kept hnow hr hpast (by
      simp only [secs, COMMUNITY_NODE_SUBMIT_COOLDOWN_SECS] at *
      omega)
    rw [hnone] at hkept
    cases hkept
  intro ip
  unfold probed
  rw [List.filter_append, List.pairwise_append]
  refine ⟨h ip, ?_, fun r hr r' hr' => ?_⟩
  · cases o with
    | none => exact .nil
    | some r => exact (List.pairwise_singleton ..).filter _
  · simp only [List.mem_filter, decide_eq_true_eq] at hr'
    obtain ⟨hr', rfl, hpast⟩ := hr'
    rw [hs.time_eq r' hr']
    cases hs with
    | malformed => cases hr'
    | crowded =>
      obtain rfl := List.mem_singleton.mp hr'
      cases hpast
    | charged _ _ _ hcooled =>
      obtain rfl := List.mem_singleton.mp hr'
      cases hcooled with
      | refused | cooling => cases hpast
      | passed hnone => exact hold _ hnone r hr

/-! ## Quotas -/

/-- The submissions of a source that were charged to its quota. -/
def charges (ip : IpAddr) (log : List Submitted) : List Submitted :=
  log.filter fun r => r.source = ip ∧ r.window.isSome

def Submitted.event (r : Submitted) : Event := ⟨r.time, 0⟩

def Submitted.decision (r : Submitted) : Decision := ⟨r.event, r.window.getD 0, r.pastQuota⟩

/-- The quota of a source at its first submission. -/
def firstCounters (rs : List Submitted) : Counters := ⟨(rs.head?.map Submitted.time).getD 0, 0, 0⟩

/-- The quota of a source as if it was never dropped. -/
def undropped (rs : List Submitted) : Counters :=
  (rs.map Submitted.event).foldl (Counters.after submitLimits) (firstCounters rs)

/-- The quota that is not dropped, before the next submission. -/
def beforeNext (rs : List Submitted) (now : Nat) : Counters :=
  if rs = [] then ⟨now, 0, 0⟩ else undropped rs

/-- The submissions of every source are decided as if its quota was never dropped: an entry of the
table is that quota, and where there is none, its window is over. -/
structure Counted (t : Throttle) (log : List Submitted) : Prop where
  decided : ∀ ip, (charges ip log).map Submitted.decision =
    (firstCounters (charges ip log)).decisions submitLimits
      ((charges ip log).map Submitted.event)
  kept : ∀ ip quota, t.quotas.lookup ip = some quota →
    charges ip log ≠ [] ∧ undropped (charges ip log) = quota.counters
  dropped : ∀ ip, t.quotas.lookup ip = none → charges ip log = [] ∨
    (undropped (charges ip log)).start + secs COMMUNITY_NODE_SUBMIT_WINDOW_SECS ≤ t.now

theorem charges_append (hip : r.source = ip) (hwindow : r.window.isSome = true) :
    charges ip (log ++ [r]) = charges ip log ++ [r] := by
  simp [charges, hip, hwindow]

theorem charges_append_other (h : r.source = ip → r.window = none) :
    charges ip (log ++ [r]) = charges ip log := by
  have hnone : ¬ (r.source = ip ∧ r.window.isSome) := by
    rintro ⟨hip, hsome⟩
    rw [h hip] at hsome
    cases hsome
  simp only [charges, List.filter_append, List.filter_cons, hnone, decide_false,
    Bool.false_eq_true, if_false, List.filter_nil, List.append_nil]

theorem undropped_append {rs : List Submitted} :
    undropped (rs ++ [r]) = (beforeNext rs r.time).after submitLimits r.event := by
  cases rs with
  | nil => rfl
  | cons x rs => simp [undropped, beforeNext, firstCounters]

theorem decisions_append {rs : List Submitted}
    (h : rs.map Submitted.decision =
      (firstCounters rs).decisions submitLimits (rs.map Submitted.event))
    (hr : r.decision = ⟨r.event, (undropped (rs ++ [r])).start,
      (beforeNext rs r.time).admits submitLimits r.event⟩) :
    (rs ++ [r]).map Submitted.decision =
      (firstCounters (rs ++ [r])).decisions submitLimits ((rs ++ [r]).map Submitted.event) := by
  rw [undropped_append, Counters.after_start] at hr
  rw [List.map_append, List.map_append, h, List.map_singleton, List.map_singleton,
    Counters.decisions_append, hr]
  cases rs with
  | nil => rfl
  | cons x rs => rfl

theorem Counted.later (h : Counted t log) (hnow : t.now ≤ now) : Counted { t with now } log where
  decided := h.decided
  kept := h.kept
  dropped ip hlookup := (h.dropped ip hlookup).imp_right fun hover => Nat.le_trans hover hnow

/-- An entry that is dropped is one whose window is over. -/
theorem Counted.keep (h : Counted t log) (hnow : t.now ≤ now) :
    Counted { t with quotas := keptQuotas t.quotas now, now } log where
  decided := h.decided
  kept ip quota hlookup := h.kept ip quota (lookup_keptQuotas.mp hlookup).1
  dropped ip hlookup := by
    cases htable : t.quotas.lookup ip with
    | none => exact (h.later hnow).dropped ip htable
    | some quota =>
      right
      have hdropped : ¬ now - quota.windowStarted <
          secs (COMMUNITY_NODE_SUBMIT_WINDOW_SECS * 2) := by
        intro hlt
        have hkept := lookup_keptQuotas.mpr ⟨htable, hlt⟩
        dsimp only at hlookup
        rw [hlookup] at hkept
        cases hkept
      rw [(h.kept ip quota htable).2]
      simp only [SubmitQuota.counters, secs, COMMUNITY_NODE_SUBMIT_WINDOW_SECS] at hdropped ⊢
      omega

/-- A submission is charged to the quota as if it was never dropped. -/
theorem Counted.at_eq (h : Counted t log) (hnow : t.now ≤ now) (ip : IpAddr) :
    (beforeNext (charges ip log) now).at submitLimits ⟨now, 0⟩ =
      (chargedCounters t.quotas ip now).at submitLimits ⟨now, 0⟩ := by
  have hkeep := h.keep hnow
  cases hlookup : (keptQuotas t.quotas now).lookup ip with
  | some quota =>
    obtain ⟨hne, hquota⟩ := hkeep.kept ip quota hlookup
    rw [chargedCounters, hlookup, beforeNext, if_neg hne, hquota]
    rfl
  | none =>
    have hcharged : chargedCounters t.quotas ip now = ⟨now, 0, 0⟩ := by
      rw [chargedCounters, hlookup]
      rfl
    have hnew : (Counters.mk now 0 0).at submitLimits ⟨now, 0⟩ = ⟨now, 0, 0⟩ :=
      if_neg (by simp [submitLimits, secs, COMMUNITY_NODE_SUBMIT_WINDOW_SECS])
    rw [hcharged, hnew, beforeNext]
    split
    · exact hnew
    · rename_i hne
      have hover := (hkeep.dropped ip hlookup).resolve_left hne
      dsimp only at hover
      exact if_pos (by simp only [submitLimits]; omega)

/-- A submission that is charged. -/
theorem Counted.charge {quota : SubmitQuota} (h : Counted t log) (hnow : t.now ≤ r.time)
    (hwindow : r.window = some quota.windowStarted)
    (hquota : quota.counters =
      (chargedCounters t.quotas r.source r.time).after submitLimits r.event)
    (hadmits : (chargedCounters t.quotas r.source r.time).admits submitLimits r.event =
      r.pastQuota) :
    Counted ⟨(keptQuotas t.quotas r.time).insert r.source quota, cooldowns, r.time⟩
      (log ++ [r]) := by
  have hkeep := h.keep hnow
  obtain ⟨hadmits', hafter⟩ := Counters.after_congr (h.at_eq hnow r.source)
  have hself : charges r.source (log ++ [r]) = charges r.source log ++ [r] :=
    charges_append rfl (by rw [hwindow]; rfl)
  have hother : ∀ ip, ip ≠ r.source → charges ip (log ++ [r]) = charges ip log :=
    fun ip hip => charges_append_other fun heq => absurd heq.symm hip
  have hnew : undropped (charges r.source log ++ [r]) = quota.counters := by
    rw [undropped_append, hquota]
    exact hafter
  constructor
  · intro ip
    by_cases hip : ip = r.source
    · subst hip
      rw [hself]
      refine decisions_append (h.decided r.source) ?_
      rw [hnew, Submitted.decision, hwindow, ← hadmits]
      simp only [Option.getD_some, Decision.mk.injEq, true_and]
      exact ⟨rfl, hadmits'.symm⟩
    · rw [hother ip hip]
      exact h.decided ip
  · intro ip quota' hlookup
    by_cases hip : ip = r.source
    · subst hip
      have heq : quota = quota' := by simpa using hlookup
      rw [hself, hnew, heq]
      exact ⟨by simp, rfl⟩
    · rw [hother ip hip]
      exact hkeep.kept ip quota' (by simpa [hip] using hlookup)
  · intro ip hlookup
    by_cases hip : ip = r.source
    · subst hip
      simp at hlookup
    · rw [hother ip hip]
      exact hkeep.dropped ip (by simpa [hip] using hlookup)

theorem Counted.step {o : Option Submitted} (h : Counted t log) (hnow : t.now ≤ now)
    (hs : Throttled t now t' o) : Counted t' (log ++ o.toList) := by
  cases hs with
  | malformed => simpa using h.later hnow
  | @crowded ip hnone =>
    have hkeep := h.keep hnow
    have hsame : ∀ ip', charges ip' (log ++ [⟨ip, now, none, false, false⟩]) =
        charges ip' log := fun _ => charges_append_other fun _ => rfl
    constructor
    · intro ip'
      rw [Option.toList_some, hsame]
      exact hkeep.decided ip'
    · intro ip' quota hlookup
      rw [Option.toList_some, hsame]
      exact hkeep.kept ip' quota hlookup
    · intro ip' hlookup
      rw [Option.toList_some, hsame]
      exact hkeep.dropped ip' hlookup
  | @charged ip quota _ pastQuota pastCooldown _ hquota hadmits _ =>
    exact h.charge (r := ⟨ip, now, some quota.windowStarted, pastQuota, pastCooldown⟩) hnow rfl
      hquota hadmits

/-! ## The bounds -/

/-- What holds after some submissions. -/
structure Throttle.Inv (t : Throttle) (log : List Submitted) : Prop where
  order : InOrder t log
  sized : Sized t
  cooling : Cooling t log
  spaced : Spaced log
  counted : Counted t log

theorem ThrottleRun.inv (h : ThrottleRun lower ts t) : t.Inv (throttleLog lower ts) := by
  refine h.invariant (fun t hquotas hcooldowns => ?_) fun t log now t' o hinv hnow hs => ?_
  · have hq : ∀ ip, t.quotas.lookup ip = none := by simp [hquotas]
    have hc : ∀ ip, t.cooldowns.lookup ip = none := by simp [hcooldowns]
    refine ⟨⟨.nil, nofun, nofun⟩, ⟨?_, ?_, ?_⟩, nofun, fun ip => .nil, ⟨fun ip => rfl, ?_, ?_⟩⟩
    · intro ip last hlast
      rw [hc] at hlast
      cases hlast
    · rw [hquotas]
      exact Nat.zero_le _
    · rw [hcooldowns]
      exact Nat.zero_le _
    · intro ip quota hlookup
      rw [hq] at hlookup
      cases hlookup
    · exact fun ip _ => .inl rfl
  · exact ⟨hinv.order.step hnow hs, hinv.sized.step hnow hs, hinv.cooling.step hnow hs,
      hinv.spaced.step hinv.cooling hnow hs, hinv.counted.step hnow hs⟩

theorem firstCounters_eq {rs : List Submitted} :
    firstCounters rs = ⟨(firstCounters rs).start, 0, 0⟩ := rfl

theorem InOrder.ordered_charges (h : InOrder t log) (ip : IpAddr) :
    Ordered (firstCounters (charges ip log)).start ((charges ip log).map Submitted.event) := by
  have hsub : ((charges ip log).map Submitted.time).Pairwise (· ≤ ·) :=
    h.ordered.sublist (List.filter_sublist.map _)
  have htimes : ((charges ip log).map Submitted.event).map Event.time =
      (charges ip log).map Submitted.time := by
    rw [List.map_map]
    rfl
  unfold Ordered
  rw [htimes]
  cases hcharges : charges ip log with
  | nil => exact List.pairwise_singleton ..
  | cons r rs =>
    rw [hcharges] at hsub
    refine List.pairwise_cons.mpr ⟨fun time hmem => ?_, hsub⟩
    obtain rfl | hmem := List.mem_cons.mp hmem
    · exact Nat.le_refl _
    · exact (List.pairwise_cons.mp hsub).1 time hmem

/-- Submissions of a source that get past the quota are among the ones that its quota admitted. -/
theorem InOrder.countP_le {q : Submitted → Bool} {p : Decision → Bool} (h : InOrder t log)
    (hq : ∀ r ∈ log, q r = true →
      r.source = ip ∧ r.pastQuota = true ∧ p r.decision = true) :
    log.countP q ≤ (admitted p ((charges ip log).map Submitted.decision)).length := by
  unfold admitted charges
  rw [List.length_map, ← List.countP_eq_length_filter, List.countP_map, List.countP_filter]
  refine List.countP_mono_left fun r hr hqr => ?_
  obtain ⟨hip, hpast, hp⟩ := hq r hr hqr
  have hwindow := h.charged r hr hpast
  have hadmitted : r.decision.admitted = true := hpast
  simp [hip, hwindow, hp, hadmitted]

/-- **Submissions are throttled.** In every run, the submissions of a source that get past the
cooldown are more than thirty seconds apart; at most eight get past the quota in a window, and at
most sixteen in any ten minutes; no table has more than 8192 sources; and every submission of the
source that is charged is decided as if the entry of its quota was never dropped. -/
theorem throttle_bounded (h : ThrottleRun lower ts t) (ip : IpAddr) :
    (((throttleLog lower ts).filter fun r => r.source = ip ∧ r.pastCooldown).Pairwise
      fun r r' => r.time + secs 30 < r'.time) ∧
    (∀ start, ((throttleLog lower ts).countP fun r =>
      r.source = ip ∧ r.pastQuota ∧ r.window = some start) ≤ 8) ∧
    (∀ start, ((throttleLog lower ts).countP fun r =>
      r.source = ip ∧ r.pastQuota ∧ start ≤ r.time ∧ r.time < start + secs 600) ≤ 16) ∧
    t.quotas.keys.length ≤ 8192 ∧ t.cooldowns.keys.length ≤ 8192 ∧
    (charges ip (throttleLog lower ts)).map Submitted.decision =
      (firstCounters (charges ip (throttleLog lower ts))).decisions submitLimits
        ((charges ip (throttleLog lower ts)).map Submitted.event) := by
  have hinv := h.inv
  have hordered := hinv.order.ordered_charges ip
  refine ⟨hinv.spaced ip, fun start => ?_, fun start => ?_, hinv.sized.quotas_le,
    hinv.sized.cooldowns_le, hinv.counted.decided ip⟩
  · have hcount := (within_window (L := submitLimits) (by decide) hordered start).1
    rw [← firstCounters_eq, ← hinv.counted.decided ip] at hcount
    refine Nat.le_trans (hinv.order.countP_le fun r _ hr => ?_) hcount
    simp only [decide_eq_true_eq] at hr
    obtain ⟨hip, hpast, hwindow⟩ := hr
    exact ⟨hip, hpast, by simp [Decision.inWindow, Submitted.decision, hwindow]⟩
  · have hcount := (within_interval (L := submitLimits) (by decide) hordered start).1
    rw [← firstCounters_eq, ← hinv.counted.decided ip] at hcount
    refine Nat.le_trans (hinv.order.countP_le fun r _ hr => ?_) hcount
    simp only [decide_eq_true_eq] at hr
    obtain ⟨hip, hpast, hinterval⟩ := hr
    refine ⟨hip, hpast, ?_⟩
    simp only [Decision.inInterval, Bool.and_eq_true, decide_eq_true_eq]
    exact hinterval

/-! A source that submits a node, and again after 31 seconds. -/

def resubmission : Submission := ⟨.v4 ⟨8, 8, 4, 4⟩, "node", "tcp://example.com:11010", none⟩

def firstSubmitted : Throttle := (Throttle.submit asciiLower ⟨∅, ∅, 0⟩ 0 resubmission).1

def resubmitted : Throttle := (firstSubmitted.submit asciiLower (secs 31) resubmission).1

def resubmissionRun : List (Transition Throttle (Nat × Submission)) :=
  [⟨firstSubmitted, (secs 31, resubmission), resubmitted⟩,
    ⟨⟨∅, ∅, 0⟩, (0, resubmission), firstSubmitted⟩]

theorem resubmissionRun_run : ThrottleRun asciiLower resubmissionRun resubmitted :=
  .snoc (.snoc (.start ⟨rfl, rfl⟩) ⟨Nat.zero_le _, rfl⟩) ⟨by decide +kernel, rfl⟩

theorem throttle_bounded_example :
    throttleLog asciiLower resubmissionRun =
        [⟨.v4 ⟨8, 8, 4, 4⟩, 0, some 0, true, true⟩,
          ⟨.v4 ⟨8, 8, 4, 4⟩, secs 31, some 0, true, true⟩] ∧
      ((throttleLog asciiLower resubmissionRun).filter fun r =>
        r.source = .v4 ⟨8, 8, 4, 4⟩ ∧ r.pastCooldown).Pairwise
          fun r r' => r.time + secs 30 < r'.time :=
  ⟨by decide +kernel, (throttle_bounded resubmissionRun_run (.v4 ⟨8, 8, 4, 4⟩)).1⟩

end

end MctierSignaling.CommunityNodes
