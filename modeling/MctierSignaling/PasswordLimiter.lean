import MctierSignaling.Server
import MctierSignaling.Lib.SlidingWindow
import Mathlib.Data.List.DropRight
import Mathlib.Data.List.MinMax

/-!
# The password limiter

Wrong passwords are counted for each source and lobby. `handle_v3` asks `is_locked` before it
compares a password, records a failure after a wrong one, and clears the key after a right one. The
table prunes all keys at every call and retires the least recently failed key when it is full. This
module names what an attempt is for the limiter (`Attempt`), compares the table with the log of all
attempts of a run (`Tracked`), and derives the limits that hold over every run.
-/

namespace MctierSignaling

open SlidingWindow

/-! ## The table -/

/-- The window of the limiter. -/
def failureWindow : Nat := secs REGISTER_PASSWORD_FAILURE_WINDOW_SECS

section
variable {f : RegisterPasswordFailures} {key key' : FailureKey} {now now' tie : Nat}

/-- The failures of a key that the table holds, oldest first. -/
def RegisterPasswordFailures.queue (f : RegisterPasswordFailures) (key : FailureKey) : List Nat :=
  (f.attempts.lookup key).getD []

/-- The key that a new failure retires: the least recently failed one, if the table is full of
others. -/
def RegisterPasswordFailures.retires (f : RegisterPasswordFailures) (key : FailureKey)
    (now tie : Nat) : Option FailureKey :=
  if key ∉ (f.prune now).attempts ∧
      (f.prune now).attempts.keys.length ≥ MAX_REGISTER_PASSWORD_KEYS then (f.prune now).oldest tie
  else none

theorem pruneAttempts_eq {queue queue' : List Nat} : pruneAttempts now key queue = some queue' ↔
    queue.dropWhile (fun t => now - t > failureWindow) = queue' ∧ queue' ≠ [] := by
  unfold pruneAttempts
  dsimp only
  split
  · next h =>
    rw [List.isEmpty_iff] at h
    exact ⟨nofun, fun ⟨heq, hne⟩ => absurd (heq.symm.trans h) hne⟩
  · next h =>
    rw [List.isEmpty_iff] at h
    rw [Option.some_inj]
    exact ⟨fun heq => ⟨heq, heq ▸ h⟩, fun ⟨heq, _⟩ => heq⟩

theorem RegisterPasswordFailures.lookup_prune {queue : List Nat} :
    (f.prune now).attempts.lookup key = some queue ↔
      ∃ old, f.attempts.lookup key = some old ∧
        old.dropWhile (fun t => now - t > failureWindow) = queue ∧ queue ≠ [] := by
  rw [RegisterPasswordFailures.prune, HashMap.mem_retain]
  simp only [pruneAttempts_eq]

/-- A prune drops the expired front of every queue. -/
theorem RegisterPasswordFailures.queue_prune :
    (f.prune now).queue key = (f.queue key).dropWhile fun t => now - t > failureWindow := by
  unfold RegisterPasswordFailures.queue RegisterPasswordFailures.prune pruneAttempts
  rw [HashMap.lookup_retain]
  cases f.attempts.lookup key with
  | none => rfl
  | some old =>
    dsimp only [Option.bind_some, Option.getD_some]
    split
    · next h => exact (List.isEmpty_iff.1 h).symm
    · rfl

/-- A second prune at the same time finds nothing to do. -/
theorem RegisterPasswordFailures.prune_prune : (f.prune now).prune now = f.prune now := by
  have hstable : ∀ l : List (Sigma fun _ : FailureKey => List Nat),
      HashMap.retainEntries (pruneAttempts now) (HashMap.retainEntries (pruneAttempts now) l) =
        HashMap.retainEntries (pruneAttempts now) l := by
    intro l
    induction l with
    | nil => rfl
    | cons e l ih =>
      unfold HashMap.retainEntries at ih ⊢
      rw [List.filterMap_cons]
      cases h : pruneAttempts now e.1 e.2 with
      | none => exact ih
      | some queue =>
        obtain ⟨heq, hne⟩ := pruneAttempts_eq.1 h
        have hagain : pruneAttempts now e.1 queue = some queue :=
          pruneAttempts_eq.2 ⟨by rw [← heq, List.dropWhile_idempotent], hne⟩
        rw [Option.map_some, List.filterMap_cons, hagain, Option.map_some, ih]
  unfold RegisterPasswordFailures.prune
  exact congrArg RegisterPasswordFailures.mk (AList.ext (hstable f.attempts.entries))

theorem RegisterPasswordFailures.isLocked_prune :
    (f.prune now).isLocked key now = f.isLocked key now := by
  unfold RegisterPasswordFailures.isLocked
  rw [RegisterPasswordFailures.prune_prune]

theorem RegisterPasswordFailures.recordFailure_prune :
    (f.prune now).recordFailure key now tie = f.recordFailure key now tie := by
  unfold RegisterPasswordFailures.recordFailure
  rw [RegisterPasswordFailures.prune_prune]

/-- A key is locked if the table holds as many failures of it as are allowed. -/
theorem RegisterPasswordFailures.isLocked_iff : (f.isLocked key now).2 = true ↔
    MAX_REGISTER_PASSWORD_FAILURES ≤ ((f.prune now).queue key).length := by
  unfold RegisterPasswordFailures.isLocked RegisterPasswordFailures.queue
  dsimp only
  split
  · next h => rw [h, decide_eq_true_eq]; rfl
  · next h => rw [h]; exact ⟨nofun, fun h => absurd h (by decide)⟩

/-- The retired key is one of the table. -/
theorem RegisterPasswordFailures.oldest_mem {oldest : FailureKey} (h : f.oldest tie = some oldest) :
    oldest ∈ f.attempts := by
  obtain ⟨e, he, rfl⟩ := Option.map_eq_some_iff.1 h
  exact AList.mem_keys.2 (List.mem_map_of_mem (List.mem_of_mem_filter (List.mem_of_getElem? he)))

/-- A table that is not empty has a least recently failed key. -/
theorem RegisterPasswordFailures.oldest_isSome (tie : Nat) (h : f.attempts.entries ≠ []) :
    ∃ oldest, f.oldest tie = some oldest := by
  obtain ⟨e, he⟩ : ∃ e, e ∈ f.attempts.entries.argmin fun e => lastAttempt e.2 :=
    Option.ne_none_iff_exists'.1 (mt List.argmin_eq_none.1 h)
  have hmem : e ∈ f.attempts.entries.filter fun e =>
      f.attempts.entries.all fun e' => lastAttempt e.2 ≤ lastAttempt e'.2 := by
    refine List.mem_filter.2 ⟨List.argmin_mem he, List.all_eq_true.2 fun e' he' => ?_⟩
    exact decide_eq_true (List.le_of_mem_argmin (f := fun e => lastAttempt e.2) he' he)
  unfold RegisterPasswordFailures.oldest
  dsimp only
  rw [List.getElem?_eq_getElem (Nat.mod_lt _ (List.length_pos_of_mem hmem))]
  exact ⟨_, rfl⟩

/-- The table with room for a failure of a key. -/
def RegisterPasswordFailures.withRoom (f : RegisterPasswordFailures) (key : FailureKey)
    (now tie : Nat) : RegisterPasswordFailures :=
  match f.retires key now tie with
  | some oldest => ⟨(f.prune now).attempts.erase oldest⟩
  | none => f.prune now

/-- A failure is recorded in a table with room for it, unless its queue is full. -/
theorem RegisterPasswordFailures.recordFailure_eq : f.recordFailure key now tie =
    ⟨(f.withRoom key now tie).attempts.insert key
      (if ((f.withRoom key now tie).queue key).length < MAX_REGISTER_PASSWORD_FAILURES
        then (f.withRoom key now tie).queue key ++ [now]
        else (f.withRoom key now tie).queue key)⟩ := by
  have hpush : ∀ g : RegisterPasswordFailures,
      (if ((g.attempts.lookup key).getD []).length < MAX_REGISTER_PASSWORD_FAILURES then
        (⟨g.attempts.insert key ((g.attempts.lookup key).getD [] ++ [now])⟩ :
          RegisterPasswordFailures)
      else ⟨g.attempts.insert key ((g.attempts.lookup key).getD [])⟩) =
        ⟨g.attempts.insert key (if (g.queue key).length < MAX_REGISTER_PASSWORD_FAILURES
          then g.queue key ++ [now] else g.queue key)⟩ := by
    intro g
    unfold RegisterPasswordFailures.queue
    split <;> rfl
  refine (hpush _).trans ?_
  unfold RegisterPasswordFailures.withRoom RegisterPasswordFailures.retires
  split
  · cases (f.prune now).oldest tie <;> rfl
  · rfl

/-- The key of the failure is not the one retired for it. -/
theorem RegisterPasswordFailures.retires_ne (h : f.retires key now tie = some key') :
    key' ≠ key ∧ key' ∈ (f.prune now).attempts ∧
      MAX_REGISTER_PASSWORD_KEYS ≤ (f.prune now).attempts.keys.length := by
  unfold RegisterPasswordFailures.retires at h
  split at h
  · next hfull =>
    have hmem := RegisterPasswordFailures.oldest_mem h
    exact ⟨fun heq => hfull.1 (heq ▸ hmem), hmem, hfull.2⟩
  · cases h

/-- Making room leaves the queues of the other keys alone. -/
theorem RegisterPasswordFailures.lookup_withRoom :
    (f.withRoom key now tie).attempts.lookup key' =
      if f.retires key now tie = some key' then none else (f.prune now).attempts.lookup key' := by
  unfold RegisterPasswordFailures.withRoom
  cases f.retires key now tie with
  | none => rfl
  | some oldest =>
    by_cases h : key' = oldest
    · simp [h]
    · simp [h, Ne.symm h]

theorem RegisterPasswordFailures.queue_withRoom_self :
    (f.withRoom key now tie).queue key = (f.prune now).queue key := by
  unfold RegisterPasswordFailures.queue
  rw [RegisterPasswordFailures.lookup_withRoom,
    if_neg fun h => (RegisterPasswordFailures.retires_ne h).1 rfl]

/-- The queues after a failure was recorded of a key that is not locked. -/
theorem RegisterPasswordFailures.queue_recordFailure (h : (f.isLocked key now).2 = false) :
    (f.recordFailure key now tie).queue key' =
      if key' = key then (f.prune now).queue key ++ [now]
      else if f.retires key now tie = some key' then [] else (f.prune now).queue key' := by
  have hlt : ((f.prune now).queue key).length < MAX_REGISTER_PASSWORD_FAILURES := by
    by_contra hge
    rw [RegisterPasswordFailures.isLocked_iff.2 (not_lt.1 hge)] at h
    cases h
  rw [RegisterPasswordFailures.recordFailure_eq, RegisterPasswordFailures.queue_withRoom_self,
    if_pos hlt, RegisterPasswordFailures.queue, HashMap.lookup_insert_ite]
  by_cases hk : key' = key
  · rw [if_pos hk, if_pos hk]; rfl
  · rw [if_neg hk, if_neg hk, RegisterPasswordFailures.lookup_withRoom]
    split <;> rfl

theorem RegisterPasswordFailures.queue_clear :
    (f.clear key).queue key' = if key' = key then [] else f.queue key' := by
  unfold RegisterPasswordFailures.queue RegisterPasswordFailures.clear
  rw [HashMap.lookup_erase_ite]
  split <;> rfl

/-! ### What every operation keeps -/

/-- A bounded table: as many keys as are allowed at most, each with its past failures, in order, at
least one and as many as are allowed at most. -/
structure RegisterPasswordFailures.Bounded (f : RegisterPasswordFailures) (now : Nat) : Prop where
  keys : f.attempts.keys.length ≤ MAX_REGISTER_PASSWORD_KEYS
  queues : ∀ key queue, f.attempts.lookup key = some queue →
    1 ≤ queue.length ∧ queue.length ≤ MAX_REGISTER_PASSWORD_FAILURES ∧ Ordered now queue

theorem RegisterPasswordFailures.Bounded.initial : RegisterPasswordFailures.Bounded ⟨∅⟩ now :=
  ⟨Nat.zero_le _, fun _ _ h => by cases h⟩

theorem RegisterPasswordFailures.Bounded.later (h : f.Bounded now) (hle : now ≤ now') :
    f.Bounded now' :=
  ⟨h.keys, fun key queue hq =>
    have ⟨hpos, hlen, hord⟩ := h.queues key queue hq
    ⟨hpos, hlen, hord.later hle⟩⟩

theorem RegisterPasswordFailures.Bounded.ordered (h : f.Bounded now) (key : FailureKey) :
    Ordered now (f.queue key) := by
  unfold RegisterPasswordFailures.queue
  cases hq : f.attempts.lookup key with
  | none => exact .nil
  | some queue => exact (h.queues key queue hq).2.2

theorem RegisterPasswordFailures.Bounded.prune (h : f.Bounded now) : (f.prune now).Bounded now := by
  refine ⟨(HashMap.length_retain_le _ _).trans h.keys, fun key queue hq => ?_⟩
  obtain ⟨old, hold, rfl, hne⟩ := RegisterPasswordFailures.lookup_prune.1 hq
  obtain ⟨-, hlen, hord⟩ := h.queues key old hold
  have hsub := List.dropWhile_sublist (l := old) fun t => decide (now - t > failureWindow)
  exact ⟨List.length_pos_iff.2 hne, hsub.length_le.trans hlen, hord.sublist hsub⟩

theorem RegisterPasswordFailures.Bounded.clear (h : f.Bounded now) : (f.clear key).Bounded now := by
  refine ⟨HashMap.length_erase_le.trans h.keys, fun key' queue hq => h.queues key' queue ?_⟩
  unfold RegisterPasswordFailures.clear at hq
  rw [HashMap.lookup_erase_ite] at hq
  split at hq
  · cases hq
  · exact hq

/-- Making room leaves a bounded table, with room for a key that is new. -/
theorem RegisterPasswordFailures.Bounded.withRoom (h : f.Bounded now) (key : FailureKey)
    (tie : Nat) : (f.withRoom key now tie).Bounded now ∧ (key ∉ (f.withRoom key now tie).attempts →
      (f.withRoom key now tie).attempts.keys.length < MAX_REGISTER_PASSWORD_KEYS) := by
  have hpruned := h.prune
  unfold RegisterPasswordFailures.withRoom
  cases hret : f.retires key now tie with
  | some oldest =>
    obtain ⟨-, hmem, -⟩ := RegisterPasswordFailures.retires_ne hret
    have hlen : ((f.prune now).attempts.erase oldest).keys.length <
        MAX_REGISTER_PASSWORD_KEYS := by
      have := HashMap.length_erase_of_mem hmem
      have := hpruned.keys
      omega
    exact ⟨hpruned.clear, fun _ => hlen⟩
  | none =>
    refine ⟨hpruned, fun hnew => ?_⟩
    by_contra hfull
    -- a full table has a least recently failed key
    unfold RegisterPasswordFailures.retires at hret
    rw [if_pos ⟨hnew, not_lt.1 hfull⟩] at hret
    obtain ⟨oldest, hold⟩ := RegisterPasswordFailures.oldest_isSome tie
      fun hnil => hfull (by rw [AList.keys, hnil]; decide)
    rw [hret] at hold
    cases hold

theorem RegisterPasswordFailures.Bounded.recordFailure (h : f.Bounded now) :
    (f.recordFailure key now tie).Bounded now := by
  obtain ⟨hroom, hfree⟩ := h.withRoom key tie
  rw [RegisterPasswordFailures.recordFailure_eq]
  refine ⟨?_, fun key' queue hq => ?_⟩
  · by_cases hmem : key ∈ (f.withRoom key now tie).attempts
    · exact (HashMap.length_insert_of_mem hmem).trans_le hroom.keys
    · exact (HashMap.length_insert_of_notMem hmem).trans_le (hfree hmem)
  rw [HashMap.lookup_insert_ite] at hq
  split at hq
  · cases hq
    split
    · next hlt =>
      refine ⟨by simp, ?_, (hroom.ordered key).record⟩
      rw [List.length_append, List.length_singleton]
      exact hlt
    · next hge =>
      -- a full queue is one of the table
      have hmax : 1 ≤ MAX_REGISTER_PASSWORD_FAILURES := by decide
      unfold RegisterPasswordFailures.queue at hge ⊢
      cases hold : (f.withRoom key now tie).attempts.lookup key with
      | none => rw [hold] at hge; exact absurd (by decide) hge
      | some old => exact hroom.queues key old hold
  · exact hroom.queues key' queue hq

end

/-! ## Attempts -/

/-- What a registration is for the limiter: it is refused before the limiter is asked, it is locked
out, its lobby does not exist yet, or its password is compared with the lobby's. -/
inductive PasswordCheck where
  | skipped
  | locked
  | unprotected
  | wrong
  | correct
  deriving DecidableEq

/-- One registration, as the limiter sees it. -/
structure Attempt where
  key : FailureKey
  now : Nat
  tie : Nat
  check : PasswordCheck

/-- The table after an attempt. -/
def Attempt.after (t : Attempt) (f : RegisterPasswordFailures) : RegisterPasswordFailures :=
  match t.check with
  | .skipped => f
  | .locked | .unprotected => f.prune t.now
  | .wrong => f.recordFailure t.key t.now t.tie
  | .correct => (f.prune t.now).clear t.key

/-- What an attempt is for a key: a failure of it, or a reset, by its right password or because a
failure of another key retires it. -/
def Attempt.mark (t : Attempt) (f : RegisterPasswordFailures) (key : FailureKey) : Mark :=
  match t.check with
  | .wrong =>
    if key = t.key then .failure
    else if f.retires t.key t.now t.tie = some key then .reset else .other
  | .correct => if key = t.key then .reset else .other
  | _ => .other

/-- The reply to a source that is locked out. -/
def lockedReply : SignalingMessage := .registerError "密码错误次数过多，请稍后再试"

/-- The reply to a wrong password. -/
def wrongPasswordReply : SignalingMessage := .registerError "密码错误"

section
variable {H : Crypto} {cfg : ServerConfig}

/-- Reference: `failure_key` (`registration.rs:324`). -/
def Admission.failureKey (a : Admission H cfg) : FailureKey :=
  (quotaSource a.context.sourceIp, a.lobbyId)

/-- What a registration is for the limiter. Reference: `handle_v3`
(`registration.rs:281-376`). -/
def Admission.passwordCheck (a : Admission H cfg) (sh : Shared) (now : Nat) : PasswordCheck :=
  if (entryError a.request.entryMode (a.lobbyId ∈ sh.lobbies)).isSome ||
      (existingClientLobby sh.lobbies a.cid).any (· != a.lobbyId) then .skipped
  else if (sh.failures.isLocked a.failureKey now).2 then .locked
  else match sh.lobbies.lookup a.lobbyId with
    | none => .unprotected
    | some existing =>
      if ctEq (utf8Bytes (hashLobbyPassword H existing.passwordSalt a.request.lobbyPassword))
          (utf8Bytes existing.passwordHash) then .correct
      else .wrong

/-- A registration as an attempt. -/
def Admission.attempt (a : Admission H cfg) (sh : Shared) (now : Nat) (d : Draws) : Attempt :=
  ⟨a.failureKey, now, d.tie, a.passwordCheck sh now⟩

/-- The answers to a registration by what it is for the limiter. -/
def PasswordCheck.Answered (out : RegistrationOutcome H cfg) : PasswordCheck → Prop
  | .locked => out = .rejected lockedReply .disconnect
  | .wrong => out = .rejected wrongPasswordReply .disconnect
  | _ => out ≠ .rejected lockedReply .disconnect

/-- The refusals before the limiter is asked have texts of their own. -/
theorem entryError_ne {mode : Option LobbyEntryMode} {found : Bool} {message : String}
    (h : entryError mode found = some message) : message ≠ "密码错误次数过多，请稍后再试" := by
  unfold entryError at h
  split at h
  · cases h; decide
  · cases h; decide
  · cases h

theorem rejected_ne {message : String} {refusal : Refusal}
    (h : message ≠ "密码错误次数过多，请稍后再试") :
    (.rejected (.registerError message) refusal : RegistrationOutcome H cfg) ≠
      .rejected lockedReply .disconnect := by
  intro heq
  exact h (SignalingMessage.registerError.inj (RegistrationOutcome.rejected.inj heq).1)

variable {sh : Shared} {a : Admission H cfg} {now : Nat} {d : Draws}

/-- **What a registration does to the limiter.** It moves the table as its attempt does, and is
answered as locked out exactly if it is. -/
theorem handleV3Locked_attempt (sh : Shared) (a : Admission H cfg) (now : Nat) (d : Draws) :
    (handleV3Locked sh a now d).1.failures = (a.attempt sh now d).after sh.failures ∧
      (a.passwordCheck sh now).Answered (handleV3Locked sh a now d).2 := by
  unfold Admission.attempt Attempt.after handleV3Locked Admission.passwordCheck
  dsimp only
  cases hentry : entryError a.request.entryMode (a.lobbyId ∈ sh.lobbies) with
  | some message =>
    rw [Option.isSome_some, Bool.true_or, if_pos rfl]
    exact ⟨rfl, rejected_ne (entryError_ne hentry)⟩
  | none =>
  rw [Option.isSome_none, Bool.false_or]
  dsimp only
  by_cases hsingle : (existingClientLobby sh.lobbies a.cid).any (· != a.lobbyId) = true
  · rw [if_pos hsingle, if_pos hsingle]
    exact ⟨rfl, rejected_ne (by decide)⟩
  rw [if_neg hsingle, if_neg hsingle]
  by_cases hlocked : (sh.failures.isLocked a.failureKey now).2 = true
  · rw [if_pos hlocked, if_pos (show (sh.failures.isLocked (quotaSource a.context.sourceIp,
      a.lobbyId) now).2 = true from hlocked)]
    exact ⟨rfl, rfl⟩
  rw [if_neg hlocked, if_neg (show ¬ (sh.failures.isLocked (quotaSource a.context.sourceIp,
    a.lobbyId) now).2 = true from hlocked)]
  -- past the limiter, the commit and the refusals that may follow leave the table alone
  have hpassed : ∀ failures : RegisterPasswordFailures,
      let lobby := (sh.lobbies.lookup a.lobbyId).getD (a.newLobby d)
      let sh := { sh with
        failures
        lobbies := HashMap.orInsert sh.lobbies a.lobbyId (a.newLobby d) }
      let out := if addressTaken lobby a.cid a.virtualIp then
          (sh, .rejected (.registerError "virtualIp 已被大厅内其他成员使用") .retry)
        else if lobbyFull lobby a.cid then
          (sh, .rejected (.registerError ("大厅人数已满（服务端上限 " ++
            toString MAX_LOBBY_MEMBERS ++ " 人）")) .retry)
        else (a.commit sh lobby d, RegistrationOutcome.committed (a.commitOf lobby d))
      out.1.failures = failures ∧ out.2 ≠ .rejected lockedReply .disconnect := by
    intro failures
    dsimp only
    split
    · exact ⟨rfl, rejected_ne (by decide)⟩
    split
    · exact ⟨rfl, rejected_ne (by decide)⟩
    · exact ⟨(Admission.commit_spec _ a _ d).2.2.1, nofun⟩
  cases hlobby : sh.lobbies.lookup a.lobbyId with
  | none =>
    rw [hlobby] at hpassed
    exact hpassed _
  | some existing =>
    rw [hlobby] at hpassed
    unfold checkPassword
    dsimp only
    cases hct : ctEq
        (utf8Bytes (hashLobbyPassword H existing.passwordSalt a.request.lobbyPassword))
        (utf8Bytes existing.passwordHash) with
    | true => exact hpassed _
    | false =>
      have hunlocked := Bool.eq_false_iff.2 hlocked
      rw [← RegisterPasswordFailures.isLocked_prune] at hunlocked
      change (((sh.failures.isLocked a.failureKey now).1.isLocked a.failureKey now).2) = false
        at hunlocked
      unfold Admission.failureKey at hunlocked
      rw [Bool.not_false, if_pos rfl, hunlocked]
      refine ⟨?_, rfl⟩
      change RegisterPasswordFailures.recordFailure ((sh.failures.prune now).prune now) _ now d.tie
        = _
      rw [RegisterPasswordFailures.recordFailure_prune,
        RegisterPasswordFailures.recordFailure_prune]
      rfl

/-- Whoever is answered as locked out is locked out. -/
theorem passwordCheck_locked
    (h : (handleV3Locked sh a now d).2 = .rejected lockedReply .disconnect) :
    (sh.failures.isLocked a.failureKey now).2 = true := by
  have hanswered := (handleV3Locked_attempt sh a now d).2
  have hcheck : a.passwordCheck sh now = .locked := by
    rw [h] at hanswered
    cases hc : a.passwordCheck sh now with
    | locked => rfl
    | wrong =>
      rw [hc] at hanswered
      exact absurd hanswered.symm (rejected_ne (by decide))
    | skipped | unprotected | correct =>
      rw [hc] at hanswered
      exact absurd rfl hanswered
  unfold Admission.passwordCheck at hcheck
  split at hcheck
  · cases hcheck
  split at hcheck
  · next hlocked => exact hlocked
  split at hcheck
  · cases hcheck
  split at hcheck <;> cases hcheck

end

/-! ## The table against the log -/

/-- A table that is bounded, and whose queues are the logs' failures since the last reset, but for
those out of the window. -/
structure RegisterPasswordFailures.Tracked (f : RegisterPasswordFailures) (now : Nat)
    (log : FailureKey → List (Nat × Mark)) : Prop where
  bounded : f.Bounded now
  tracks : ∀ key, Tracks failureWindow now (f.queue key) (sinceReset (log key))

section
variable {f : RegisterPasswordFailures} {now now' : Nat} {log : FailureKey → List (Nat × Mark)}

theorem RegisterPasswordFailures.Tracked.later (h : f.Tracked now log) (hle : now ≤ now') :
    f.Tracked now' log :=
  ⟨h.bounded.later hle, fun key => (h.tracks key).later hle⟩

/-- An event that is neither a failure nor a reset does not count. -/
theorem RegisterPasswordFailures.Tracked.other {t : Nat} (h : f.Tracked now log) :
    f.Tracked now fun key => (t, .other) :: log key :=
  ⟨h.bounded, h.tracks⟩

theorem RegisterPasswordFailures.Tracked.prune (h : f.Tracked now log) :
    (f.prune now).Tracked now log := by
  refine ⟨h.bounded.prune, fun key => ?_⟩
  rw [RegisterPasswordFailures.queue_prune]
  exact (h.tracks key).expire

/-- The failures of a key in the window, since the last reset, are its queue in the pruned table. -/
theorem RegisterPasswordFailures.Tracked.recent (h : f.Tracked now log) (key : FailureKey) :
    (sinceReset (log key)).filter (fun t => now - t ≤ failureWindow) =
      ((f.prune now).queue key).reverse := by
  rw [(h.tracks key).recent (h.bounded.ordered key), RegisterPasswordFailures.queue_prune]

/-- **An attempt keeps the table in step with the logs.** -/
theorem Attempt.tracked (t : Attempt) (h : f.Tracked t.now log)
    (hallowed : t.check = .wrong → (f.isLocked t.key t.now).2 = false) :
    (t.after f).Tracked t.now fun key => (t.now, t.mark f key) :: log key := by
  unfold Attempt.after Attempt.mark
  cases hcheck : t.check with
  | skipped => exact h.other
  | locked | unprotected => exact h.prune.other
  | correct =>
    refine ⟨h.prune.bounded.clear, fun key => ?_⟩
    dsimp only
    rw [RegisterPasswordFailures.queue_clear]
    by_cases hk : key = t.key
    · rw [if_pos hk, if_pos hk]
      exact .nil
    · rw [if_neg hk, if_neg hk]
      exact h.prune.tracks key
  | wrong =>
    refine ⟨h.bounded.recordFailure, fun key => ?_⟩
    dsimp only
    rw [RegisterPasswordFailures.queue_recordFailure (hallowed hcheck)]
    by_cases hk : key = t.key
    · rw [if_pos hk, if_pos hk, ← hk]
      exact (h.prune.tracks key).record
    rw [if_neg hk, if_neg hk]
    by_cases hret : f.retires t.key t.now t.tie = some key
    · rw [if_pos hret, if_pos hret]
      exact .nil
    · rw [if_neg hret, if_neg hret]
      exact h.prune.tracks key

end

/-! ## Runs -/

section
variable {H : Crypto} {cfg : ServerConfig}

/-- The registration that an action runs, as an attempt. -/
def Sys.attempt (s : Sys H cfg) : Action → Option Attempt
  | .exec k env =>
    match (s.conns k).task with
    | .registration a => some (a.attempt s.shared s.now env.draws)
    | _ => none
  | _ => none

/-- What an action is for a key of the limiter. -/
def Sys.mark (s : Sys H cfg) (act : Action) (key : FailureKey) : Mark :=
  match s.attempt act with
  | some t => t.mark s.shared.failures key
  | none => .other

/-- The log of a key over a run. -/
def passwordLog (key : FailureKey) (ts : List (Transition (Sys H cfg) Action)) :
    List (Nat × Mark) :=
  ts.map fun t => (t.pre.now, t.pre.mark t.act key)

/-- The wrong passwords of a key at times that satisfy a condition. -/
def wrongPasswords (key : FailureKey) (p : Nat → Bool)
    (ts : List (Transition (Sys H cfg) Action)) : List (Transition (Sys H cfg) Action) :=
  ts.filter fun t => t.pre.mark t.act key = .failure && p t.pre.now

variable {s s' : Sys H cfg} {act : Action} {ts : List (Transition (Sys H cfg) Action)}
  {key : FailureKey}

theorem length_failures {p : Nat → Bool} :
    (failures p (passwordLog key ts)).length = (wrongPasswords key p ts).length := by
  unfold failures passwordLog wrongPasswords
  rw [List.filter_map, List.length_map]
  rfl

theorem Departs.failures {sh sh' : Shared} {session : RegisteredSession} {token : String}
    {lobby : LobbyInfo} {departure : Departure}
    (h : Departs sh session token lobby sh' departure) : sh'.failures = sh.failures := by
  cases h <;> rfl

/-- Only registrations change the table. -/
theorem section_failures {sh sh' : Shared} {c : Critical H cfg} (h : c.Step sh sh')
    (hc : ∀ a now d, c ≠ .register a now d) : sh'.failures = sh.failures := by
  cases c with
  | register a now d => exact absurd rfl (hc a now d)
  | signal => cases h; rfl
  | moderate session token action =>
    cases h
    obtain ⟨-, -, heq⟩ | ⟨_, _, _, -, -, -, heq⟩ := moderate_cases
      (show moderate sh session token action = (_, _) from rfl)
    · exact congrArg Shared.failures heq
    · refine (congrArg Shared.failures heq).trans ?_
      cases action <;> rfl
  | cleanup sender session order token =>
    cases h
    obtain ⟨-, heq, -⟩ | ⟨_, _, _, -, -, -, -, hdep⟩ := cleanup_cases
      (show cleanup sh sender session order token = (_, _) from rfl)
    · exact congrArg Shared.failures heq
    · exact hdep.failures

/-- The clock of the server moves when time passes, and only then. -/
theorem step_now (h : SysStep s act s') :
    s.now ≤ s'.now ∧ ((∀ n, act ≠ .tick n) → s'.now = s.now) := by
  have hmove : (∀ n, act ≠ .tick n) → s'.now = s.now := by
    intro hact
    cases step_cases h with
    | ticked => exact absurd rfl (hact _)
    | moved h => cases h <;> rfl
    | _ => rfl
  refine ⟨?_, hmove⟩
  cases act with
  | tick n => cases h; exact Nat.le_add_right _ _
  | _ => exact (hmove nofun).ge

/-- An attempt is the critical section of a registration. -/
theorem attempt_eq_some {t : Attempt} : s.attempt act = some t ↔
    ∃ k env a, act = .exec k env ∧ (s.conns k).task = .registration a ∧
      t = a.attempt s.shared s.now env.draws := by
  constructor
  · intro h
    unfold Sys.attempt at h
    split at h
    · split at h
      · next a ht => exact ⟨_, _, a, rfl, ht, (Option.some.inj h).symm⟩
      · cases h
    · cases h
  · rintro ⟨k, env, a, rfl, ht, rfl⟩
    unfold Sys.attempt
    dsimp only
    rw [ht]

/-- A step that is no attempt leaves the table alone. -/
theorem step_failures_none (h : SysStep s act s') (hact : s.attempt act = none) :
    s'.shared.failures = s.shared.failures := by
  obtain heq | ⟨c, hc, hstep⟩ := step_shared h
  · rw [heq]
  · refine section_failures hstep fun a now d hreg => ?_
    subst hreg
    cases hc with
    | register ht => cases hact.symm.trans (attempt_eq_some.2 ⟨_, _, _, rfl, ht, rfl⟩)

/-- **An attempt moves the table as the limiter does.** -/
theorem step_failures_some {t : Attempt} (h : SysStep s act s') (hact : s.attempt act = some t) :
    s'.shared.failures = t.after s.shared.failures ∧ s'.now = s.now ∧ t.now = s.now := by
  obtain ⟨k, env, a, rfl, ht, rfl⟩ := attempt_eq_some.1 hact
  refine ⟨?_, (step_now h).2 nofun, rfl⟩
  obtain rfl : s.register k a env = s' := by
    simpa only [SysStep, Sys.step, Sys.exec, ht, Option.some_inj] using h
  rw [Sys.register_shared]
  exact (handleV3Locked_attempt s.shared a s.now env.draws).1

/-- A wrong password is compared only if its key is not locked. -/
theorem attempt_allowed {t : Attempt} (hact : s.attempt act = some t) (hwrong : t.check = .wrong) :
    (s.shared.failures.isLocked t.key t.now).2 = false := by
  obtain ⟨k, env, a, rfl, ht, rfl⟩ := attempt_eq_some.1 hact
  unfold Admission.attempt Admission.passwordCheck at hwrong
  dsimp only at hwrong
  split at hwrong
  · cases hwrong
  split at hwrong
  · cases hwrong
  · next hunlocked => exact Bool.eq_false_iff.2 hunlocked

/-- **In every run the table is in step with the logs.** -/
theorem SysRun.tracked (h : SysRun ts s) :
    s.shared.failures.Tracked s.now fun key => passwordLog key ts := by
  induction h with
  | start h => subst h; exact ⟨.initial, fun _ => .nil⟩
  | @snoc ts s s' act hr hst ih =>
    cases hact : s.attempt act with
    | none =>
      have hmark : ∀ key, s.mark act key = .other := fun key => by unfold Sys.mark; rw [hact]
      rw [step_failures_none hst hact]
      have hlater := (ih.later (step_now hst).1).other (t := s.now)
      simp only [passwordLog, List.map_cons, hmark]
      exact hlater
    | some t =>
      obtain ⟨hfailures, hnow, ht⟩ := step_failures_some hst hact
      have hmark : ∀ key, s.mark act key = t.mark s.shared.failures key :=
        fun key => by unfold Sys.mark; rw [hact]
      rw [hfailures, hnow, ← ht]
      simp only [passwordLog, List.map_cons, hmark]
      rw [← ht] at ih ⊢
      exact t.tracked ih (attempt_allowed hact)

/-- The log of a key is in the order of time. -/
theorem SysRun.log_sorted (h : SysRun ts s) (key : FailureKey) :
    ((passwordLog key ts).Pairwise fun e e' => e'.1 ≤ e.1) ∧
      ∀ e ∈ passwordLog key ts, e.1 ≤ s.now := by
  induction h with
  | start => exact ⟨.nil, nofun⟩
  | @snoc ts s s' act hr hst ih =>
    refine ⟨List.pairwise_cons.2 ⟨ih.2, ih.1⟩, fun e he => ?_⟩
    rcases List.mem_cons.1 he with rfl | he
    · exact (step_now hst).1
    · exact (ih.2 e he).trans (step_now hst).1

/-! ## The limits -/

/-- A transition of a run, with the run before it, for a key of the limiter. -/
theorem mem_passwordLog {key : FailureKey} {newer older : List (Nat × Mark)} {e : Nat × Mark}
    (h : passwordLog key ts = newer ++ e :: older) :
    ∃ later t earlier, ts = later ++ t :: earlier ∧ e = (t.pre.now, t.pre.mark t.act key) ∧
      older = passwordLog key earlier := by
  obtain ⟨later, rest, rfl, -, hrest⟩ := List.map_eq_append_iff.1 h
  obtain ⟨t, earlier, rfl, rfl, rfl⟩ := List.map_eq_cons_iff.1 hrest
  exact ⟨later, t, earlier, rfl, rfl, rfl⟩

theorem mark_eq_failure (h : s.mark act key = .failure) :
    ∃ t, s.attempt act = some t ∧ t.check = .wrong ∧ t.key = key := by
  unfold Sys.mark at h
  split at h
  · next t hact =>
    refine ⟨t, hact, ?_⟩
    unfold Attempt.mark at h
    split at h
    · next hcheck =>
      split at h
      · next hk => exact ⟨hcheck, hk.symm⟩
      · split at h <;> cases h
    · split at h <;> cases h
    · cases h
  · cases h

/-- A reset is the right password of the key, or the key is retired for another one. -/
theorem mark_eq_reset (h : s.mark act key = .reset) :
    ∃ t, s.attempt act = some t ∧ (t.check = .correct ∧ t.key = key ∨
      s.shared.failures.retires t.key t.now t.tie = some key) := by
  unfold Sys.mark at h
  split at h
  · next t hact =>
    refine ⟨t, hact, ?_⟩
    unfold Attempt.mark at h
    split at h
    · split at h
      · cases h
      · split at h
        · next hret => exact .inr hret
        · cases h
    · next hcheck =>
      split at h
      · next hk => exact .inl ⟨hcheck, hk.symm⟩
      · cases h
    · cases h
  · cases h

/-- The id a proof establishes is the fingerprint of its key. -/
theorem ProofVerified.unique {challenge challenge' lobbyName lobbyName' virtualIp virtualIp' key
    signature signature' cid cid' : String}
    (h : ProofVerified H challenge lobbyName virtualIp key signature cid)
    (h' : ProofVerified H challenge' lobbyName' virtualIp' key signature' cid') : cid' = cid := by
  obtain ⟨der, _, _, _, hder, -, -, -, -, rfl⟩ := h
  obtain ⟨der', _, _, _, hder', -, -, -, -, rfl⟩ := h'
  cases hder.symm.trans hder'
  rfl

/-- A locked key's registration ends before its password is read. -/
theorem handleV3Locked_lockedOut {sh : Shared} {a : Admission H cfg} {now : Nat} {d : Draws}
    (h : (sh.failures.isLocked a.failureKey now).2 = true) :
    handleV3Locked sh a now d =
      match entryError a.request.entryMode (a.lobbyId ∈ sh.lobbies) with
      | some message => (sh, .rejected (.registerError message) .disconnect)
      | none =>
        if (existingClientLobby sh.lobbies a.cid).any (· != a.lobbyId) then
          (sh, .rejected (.registerError "客户端身份已在使用中，请重新连接") .disconnect)
        else
          ({ sh with failures := sh.failures.prune now }, .rejected lockedReply .disconnect) := by
  unfold handleV3Locked
  dsimp only
  cases entryError a.request.entryMode (a.lobbyId ∈ sh.lobbies) with
  | some message => rfl
  | none =>
    dsimp only
    by_cases hsingle : (existingClientLobby sh.lobbies a.cid).any (· != a.lobbyId) = true
    · rw [if_pos hsingle, if_pos hsingle]
    · rw [if_neg hsingle, if_neg hsingle, if_pos (show (sh.failures.isLocked
        (quotaSource a.context.sourceIp, a.lobbyId) now).2 = true from h)]
      rfl

/-- A locked key's registration is refused. -/
theorem handleV3Locked_refused {sh : Shared} {a : Admission H cfg} {now : Nat} {d : Draws}
    (h : (sh.failures.isLocked a.failureKey now).2 = true) :
    ∃ sh' message refusal, handleV3Locked sh a now d = (sh', .rejected message refusal) := by
  rw [handleV3Locked_lockedOut h]
  split
  · exact ⟨_, _, _, rfl⟩
  split
  · exact ⟨_, _, _, rfl⟩
  · exact ⟨_, _, _, rfl⟩

/-- Two admitted requests that differ in the password only have the same answer while their key is
locked. -/
theorem register_lockedOut {k : ConnId} {ctx : RegistrationContext} {req : RegistrationRequest}
    {password : String} {a a' : Admission H cfg} {env env' : Env}
    (ha : handleV3Checks H cfg ctx req = .ok a)
    (ha' : handleV3Checks H cfg ctx { req with lobbyPassword := password } = .ok a')
    (h : (s.shared.failures.isLocked a.failureKey s.now).2 = true) :
    s.register k a env = s.register k a' env' := by
  obtain ⟨hcontext, hrequest⟩ := handleV3Checks_ok ha
  obtain ⟨hcontext', hrequest'⟩ := handleV3Checks_ok ha'
  have hlobby : a'.lobbyId = a.lobbyId := by
    unfold Admission.lobbyId
    rw [hrequest, hrequest']
  have hmode : a'.request.entryMode = a.request.entryMode := by rw [hrequest, hrequest']
  have hcid : a'.cid = a.cid := by
    have hverified := a'.verified
    rw [hrequest'] at hverified
    refine ProofVerified.unique (hrequest ▸ a.verified) hverified
  have hkey : a'.failureKey = a.failureKey := by
    unfold Admission.failureKey
    rw [hlobby, hcontext, hcontext']
  have hsame : handleV3Locked s.shared a s.now env.draws =
      handleV3Locked s.shared a' s.now env'.draws := by
    rw [handleV3Locked_lockedOut h, handleV3Locked_lockedOut (hkey ▸ h), hlobby, hmode, hcid]
  obtain ⟨sh', message, refusal, hrefused⟩ := handleV3Locked_refused (d := env.draws) h
  unfold Sys.register
  rw [← hsame, hrefused]

/-- The limits of the password limiter over a run. -/
structure PasswordLimits (ts : List (Transition (Sys H cfg) Action)) (s : Sys H cfg) : Prop where
  /-- A closed interval of 300 seconds has at most five wrong passwords of a key, unless the key is
  reset in it. -/
  bounded : ∀ key start,
    (∀ t ∈ ts, within failureWindow start t.pre.now = true → t.pre.mark t.act key ≠ .reset) →
    (wrongPasswords key (within failureWindow start) ts).length ≤ MAX_REGISTER_PASSWORD_FAILURES
  /-- A reset is the right password of the key, or a retirement while as many keys as the table
  holds had failures in the window. -/
  reset : ∀ later t earlier key, ts = later ++ t :: earlier → t.pre.mark t.act key = .reset →
    (∃ attempt, t.pre.attempt t.act = some attempt ∧ attempt.check = .correct ∧
      attempt.key = key) ∨
    ∃ keys : List FailureKey, keys.Nodup ∧ keys.length = MAX_REGISTER_PASSWORD_KEYS ∧
      key ∈ keys ∧ ∀ key' ∈ keys,
        ∃ u ∈ sinceReset (passwordLog key' earlier), t.pre.now - u ≤ failureWindow
  /-- A source is locked out only after five wrong passwords of exactly its key. -/
  locked : ∀ later t earlier k env a, ts = later ++ t :: earlier → t.act = .exec k env →
    (t.pre.conns k).task = .registration a →
    (handleV3Locked t.pre.shared a t.pre.now env.draws).2 = .rejected lockedReply .disconnect →
    MAX_REGISTER_PASSWORD_FAILURES ≤
      (wrongPasswords a.failureKey (fun u => t.pre.now - u ≤ failureWindow) earlier).length
  /-- While a source is locked out, nothing depends on the submitted password. -/
  unread : ∀ k ctx req password a a' env env', handleV3Checks H cfg ctx req = .ok a →
    handleV3Checks H cfg ctx { req with lobbyPassword := password } = .ok a' →
    (s.shared.failures.isLocked a.failureKey s.now).2 = true →
    s.register k a env = s.register k a' env'
  /-- The table is bounded, and so is what each of its operations leaves. -/
  table : s.shared.failures.Bounded s.now ∧ ∀ key tie,
    (s.shared.failures.isLocked key s.now).1.Bounded s.now ∧
    (s.shared.failures.recordFailure key s.now tie).Bounded s.now ∧
    (s.shared.failures.clear key).Bounded s.now

/-- An attempt finds fewer failures of its key in the window than are allowed if its password is
compared, and as many if it is locked out. -/
theorem SysRun.found (h : SysRun ts s) (key : FailureKey) :
    ((sinceReset (passwordLog key ts)).filter fun u => s.now - u ≤ failureWindow).length =
      ((s.shared.failures.prune s.now).queue key).length := by
  rw [h.tracked.recent key, List.length_reverse]

/-- A closed interval has at most five wrong passwords of a key that is not reset in it. -/
theorem SysRun.bounded (h : SysRun ts s) {start : Nat}
    (hreset : ∀ t ∈ ts, within failureWindow start t.pre.now = true →
      t.pre.mark t.act key ≠ .reset) :
    (wrongPasswords key (within failureWindow start) ts).length ≤
      MAX_REGISTER_PASSWORD_FAILURES := by
  rw [← length_failures]
  refine window_bound (h.log_sorted key).1 (fun newer t older heq => ?_) fun e he => ?_
  · obtain ⟨later, u, earlier, rfl, hu, rfl⟩ := mem_passwordLog heq
    obtain ⟨rfl, hmark⟩ := Prod.mk.inj hu
    obtain ⟨attempt, hattempt, hwrong, hkey⟩ := mark_eq_failure hmark.symm
    have hunlocked := attempt_allowed hattempt hwrong
    have hnow : attempt.now = u.pre.now := by
      obtain ⟨_, _, _, -, -, rfl⟩ := attempt_eq_some.1 hattempt
      rfl
    rw [SysRun.found h.before key]
    by_contra hge
    rw [hkey, hnow, RegisterPasswordFailures.isLocked_iff.2 (not_lt.1 hge)] at hunlocked
    cases hunlocked
  · obtain ⟨t, ht, rfl⟩ := List.mem_map.1 he
    exact hreset t ht

/-- A key is retired only when the table is full of keys with failures in the window. -/
theorem SysRun.retired (h : SysRun ts s) {key' : FailureKey} {tie : Nat}
    (hret : s.shared.failures.retires key' s.now tie = some key) :
    ∃ keys : List FailureKey, keys.Nodup ∧ keys.length = MAX_REGISTER_PASSWORD_KEYS ∧
      key ∈ keys ∧ ∀ key' ∈ keys,
        ∃ u ∈ sinceReset (passwordLog key' ts), s.now - u ≤ failureWindow := by
  obtain ⟨-, hmem, hfull⟩ := RegisterPasswordFailures.retires_ne hret
  have hbounded := h.tracked.bounded.prune
  refine ⟨(s.shared.failures.prune s.now).attempts.keys, AList.keys_nodup _,
    Nat.le_antisymm hbounded.keys hfull, AList.mem_keys.1 hmem, fun key' hkey' => ?_⟩
  obtain ⟨queue, hqueue⟩ := HashMap.mem_keys.1 hkey'
  have hpos : 0 < ((sinceReset (passwordLog key' ts)).filter
      fun u => s.now - u ≤ failureWindow).length := by
    rw [h.found key', RegisterPasswordFailures.queue, hqueue]
    exact (hbounded.queues key' queue hqueue).1
  obtain ⟨u, hu⟩ := List.exists_mem_of_length_pos hpos
  exact ⟨u, (List.mem_filter.1 hu).1, of_decide_eq_true (List.mem_filter.1 hu).2⟩

/-- **Every run keeps the limits.** -/
theorem password_limits (h : SysRun ts s) : PasswordLimits ts s where
  bounded := fun key start hreset => h.bounded hreset
  reset := by
    rintro later t earlier key rfl hmark
    obtain ⟨attempt, hattempt, ⟨hcorrect, hkey⟩ | hret⟩ := mark_eq_reset hmark
    · exact .inl ⟨attempt, hattempt, hcorrect, hkey⟩
    · obtain ⟨_, _, _, -, -, rfl⟩ := attempt_eq_some.1 hattempt
      exact .inr (SysRun.retired h.before hret)
  locked := by
    rintro later t earlier k env a rfl hact htask hanswer
    have hlocked := passwordCheck_locked hanswer
    rw [RegisterPasswordFailures.isLocked_iff, ← SysRun.found h.before a.failureKey] at hlocked
    rw [← length_failures]
    exact hlocked.trans sinceReset_le
  unread := fun k ctx req password a a' env env' ha ha' hlocked => register_lockedOut ha ha' hlocked
  table := ⟨h.tracked.bounded, fun key tie =>
    ⟨h.tracked.bounded.prune, h.tracked.bounded.recordFailure, h.tracked.bounded.clear⟩⟩

end

/-! ## A recorded lockout

Alice creates the lobby `room` without a password, and then asks for it on six more connections with
the password `guess`. -/

/-- The primitives on what alice sends. -/
def guessCrypto : Crypto :=
  .recorded
    [(utf8Bytes "room",
      digestOfHex "1f1c5b2fad778434024f1537986346927917f4755a6e7d3fd91f22653b7c3132"),
      (ofBase64 aliceKey,
        digestOfHex "d99b042ea66ca203b15bdce14bb1d7f921d876919a1cfa69bc5a82605b515f53"),
      (utf8Bytes (repeatedByte "5a" 16),
        digestOfHex "8b4ed76aac5ba5c555bbf28f7295c6b858b1253250a31843b4a0809510e52446"),
      (utf8Bytes (repeatedByte "5a" 16 ++ "guess"),
        digestOfHex "204c7db387e258d11e87dcdad6395cf93e69521c628a43937b7e78496f370543")]
    [(ofBase64 aliceKey, registrationCanonical (repeatedByte "a1" 32) "room" "10.126.126.1",
      ofBase64 aliceProof)]

theorem alice_guesses : verifyRegistrationIdentity guessCrypto (repeatedByte "a1" 32) "room"
    (Ipv4Addr.toString ⟨10, 126, 126, 1⟩) aliceKey aliceProof =
      some (aliceId, aliceKey, String.ofList (aliceId.toList.take 32) ++ ".mct.net") := by
  decide +kernel

/-- Alice asks for the lobby on a connection with a password. -/
def guessRequest (password : String) : RegistrationRequest :=
  { roomRequest aliceKey aliceProof "alice" "10.126.126.1" with lobbyPassword := password }

/-- What the checks admit of it. -/
def guessed (k : ConnId) (password : String) : Admission guessCrypto .default where
  request := guessRequest password
  context := recordedContext k (repeatedByte "a1" 32)
  cid := aliceId
  chatPublicKey := normalizeChatPublicKey guessCrypto (some aliceKey)
  virtualDomain := some (String.ofList (aliceId.toList.take 32) ++ ".mct.net")
  useDomain := some true
  virtualIp := ⟨10, 126, 126, 1⟩
  unregistered := rfl
  parsed := alice.parsed
  verified := verifyRegistrationIdentity_verified alice_guesses
  version := room_version

/-- Alice's connection was opened and her registration has arrived. -/
def Sys.guess (s : Sys guessCrypto .default) (k : ConnId) (password : String) :
    Sys guessCrypto .default :=
  (s.greet k (repeatedByte "a1" 32) recordedSource).arrive k (guessed k password)

theorem ReachableOutside.guess {s : Sys guessCrypto .default} {k : ConnId} {password : String}
    (h : ReachableOutside s) (hnow : s.now = 0) (ht : (s.conns k).task = .absent)
    (hshape : validateMessageShape (guessRequest password).message = true)
    (hvalid : validFields (guessRequest password) aliceId
      (String.ofList (aliceId.toList.take 32) ++ ".mct.net") = true) :
    ReachableOutside (s.guess k password) := by
  have hidentity : verifyRegistrationIdentity guessCrypto
      (recordedContext k (repeatedByte "a1" 32)).challenge (guessRequest password).lobbyName
      (Ipv4Addr.toString ⟨10, 126, 126, 1⟩) (guessRequest password).identityPublicKey
      (guessRequest password).challengeSignature =
        some (aliceId, aliceKey, String.ofList (aliceId.toList.take 32) ++ ".mct.net") := by
    dsimp only [guessRequest, roomRequest, recordedContext]
    exact alice_guesses
  have hchecks : handleV3Checks guessCrypto .default (recordedContext k (repeatedByte "a1" 32))
      (guessRequest password) = .ok (guessed k password) :=
    handleV3Checks_eq_ok (guessRequest password) rfl rfl (guessed k password).parsed hidentity
      hvalid (show "3.8.0" ≠ "unknown" by decide) room_version
  have hconn : (s.greet k (repeatedByte "a1" 32) recordedSource).conns k =
      ⟨repeatedByte "a1" 32, recordedSource, none, .new s.now,
        ((OutboundBudget.new s.now).allow s.now (reply k
          (.serverChallenge (repeatedByte "a1" 32) true SIGNALING_PROTOCOL_VERSION)).frame.bytes).1,
        .idle⟩ :=
    Function.update_self ..
  have hbudget : ((OutboundBudget.new s.now).allow s.now (reply k
      (.serverChallenge (repeatedByte "a1" 32) true SIGNALING_PROTOCOL_VERSION)).frame.bytes).2 =
        true := by
    rw [hnow]
    change ((OutboundBudget.new 0).allow 0 (reply 0
      (.serverChallenge (repeatedByte "a1" 32) true SIGNALING_PROTOCOL_VERSION)).frame.bytes).2 =
        true
    decide +kernel
  have hrate : ((MessageRateLimiter.new s.now).allow s.now).2 = true := by
    rw [hnow]
    decide +kernel
  have hinbound : handleInbound k ((s.greet k (repeatedByte "a1" 32) recordedSource).conns k)
      (.text (.ok (guessRequest password).message)) = .registration (guessed k password) := by
    rw [hconn]
    exact handleInbound_registration hshape hchecks
  exact (h.greet ht hbudget).arrive (congrArg Conn.task hconn) (congrArg Conn.session hconn)
    (by rw [congrArg Conn.rate hconn]; exact hrate) hinbound

/-- Alice's registrations have arrived on seven connections. -/
def guesses : Sys guessCrypto .default :=
  [2, 3, 4, 5, 6, 7].foldl (fun s k => s.guess k "guess") (Sys.initial.guess 1 "")

theorem guesses_outside : ReachableOutside guesses := by
  have h0 : ReachableOutside (Sys.initial : Sys guessCrypto .default) :=
    ⟨[], .start rfl, fun _ ht => absurd ht List.not_mem_nil⟩
  have h1 : ReachableOutside (Sys.initial.guess 1 "") :=
    h0.guess rfl rfl (by decide +kernel) (by decide +kernel)
  have hshape : validateMessageShape (guessRequest "guess").message = true := by decide +kernel
  have hvalid : validFields (guessRequest "guess") aliceId
      (String.ofList (aliceId.toList.take 32) ++ ".mct.net") = true := by decide +kernel
  have h2 := h1.guess (k := 2) rfl rfl hshape hvalid
  have h3 := h2.guess (k := 3) rfl rfl hshape hvalid
  have h4 := h3.guess (k := 4) rfl rfl hshape hvalid
  have h5 := h4.guess (k := 5) rfl rfl hshape hvalid
  have h6 := h5.guess (k := 6) rfl rfl hshape hvalid
  exact h6.guess (k := 7) rfl rfl hshape hvalid

/-- Alice's first connection creates the lobby, and five more compare a wrong password. -/
def guessSteps : List Action :=
  [1, 2, 3, 4, 5, 6].map fun k => .exec k
    ⟨true, 0, recordedDraws "d1" k, 0, [], (true, "", none)⟩

/-- Alice's source and the lobby `room`. -/
def aliceRoom : FailureKey := (quotaSource recordedSource, roomId)

theorem guessSteps_run : ((guessSteps.foldlM Sys.step guesses).any fun s =>
    (s.shared.failures.isLocked aliceRoom s.now).2) = true := by
  decide +kernel

theorem password_limits_lockedOut : ∃ (ts : List (Transition (Sys guessCrypto .default) Action))
    (s : Sys guessCrypto .default), SysRun ts s ∧
      (s.shared.failures.isLocked aliceRoom s.now).2 = true ∧ PasswordLimits ts s := by
  obtain ⟨s, hs, hlocked⟩ := (Option.any_eq_true _ _).1 guessSteps_run
  obtain ⟨ts₀, hts₀, -⟩ := guesses_outside
  obtain ⟨ts, hts⟩ : ReachableSys s := Reachable.foldlM ⟨ts₀, hts₀⟩ hs
  exact ⟨ts, s, hts, hlocked, password_limits hts⟩

end MctierSignaling
