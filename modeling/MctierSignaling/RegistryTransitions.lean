import MctierSignaling.CommunityRegistry

/-!
# What happens to the registry

Probes run while nothing is locked, so that a write-back finds a registry other than the one its
task looked at. Each of the two write-backs checks again what it relies on: a submission that finds
its key refreshes the entry, and one that does not counts again; a sweep passes over keys that are
gone, and drops only what is expired after its own marks. So the registry keeps its bound, a key
comes in only with a probe of its own, and leaves it only when it is expired
(`registry_transitions`).
-/

namespace MctierSignaling.CommunityNodes

/-! ## Marks -/

section
variable {nodes : Registry} {results : List (String × ProbeOutcome)} {now : Nat} {key : String}
  {outcome : ProbeOutcome} {node : CommunityNodeInfo}

/-- A mark changes what a probe tells, and nothing else. -/
theorem mark_eq (node : CommunityNodeInfo) :
    outcome.mark node now = { node with
      online := (outcome.mark node now).online
      latencyMs := (outcome.mark node now).latencyMs
      lastOkAt := (outcome.mark node now).lastOkAt } := by
  cases outcome <;> rfl

/-- A mark of an entry, as one lookup. -/
theorem lookup_markOne {result : String × ProbeOutcome} : (markOne now nodes result).lookup key =
    if key = result.1 then (nodes.lookup key).map (result.2.mark · now) else nodes.lookup key := by
  unfold markOne
  split
  · next hnone =>
    split
    · next hkey => rw [hkey, hnone, Option.map_none]
    · rfl
  · next hsome =>
    rw [HashMap.lookup_insert_ite]
    split
    · next hkey => rw [hkey, hsome, Option.map_some]
    · rfl

/-- Marks are of entries that are there. -/
theorem markAll_length : (markAll nodes results now).keys.length = nodes.keys.length := by
  unfold markAll
  induction results generalizing nodes with
  | nil => rfl
  | cons result results ih =>
    rw [List.foldl_cons, ih]
    unfold markOne
    split
    · rfl
    · next hnode => exact HashMap.length_insert_of_mem (HashMap.mem_of_lookup hnode)

/-- A key that was not probed is not marked. -/
theorem lookup_markAll_of_notMem (hkey : key ∉ results.map Prod.fst) :
    (markAll nodes results now).lookup key = nodes.lookup key := by
  unfold markAll
  induction results generalizing nodes with
  | nil => rfl
  | cons result results ih =>
    rw [List.map_cons, List.mem_cons, not_or] at hkey
    rw [List.foldl_cons, ih hkey.2, lookup_markOne, if_neg hkey.1]

/-- A key that was probed is marked with the outcome. -/
theorem lookup_markAll_of_mem (hnodup : (results.map Prod.fst).Nodup)
    (hmem : (key, outcome) ∈ results) :
    (markAll nodes results now).lookup key = (nodes.lookup key).map (outcome.mark · now) := by
  induction results generalizing nodes with
  | nil => cases hmem
  | cons result results ih =>
    obtain ⟨hfirst, hnodup⟩ := List.nodup_cons.1 hnodup
    have hcons : markAll nodes (result :: results) now =
        markAll (markOne now nodes result) results now := rfl
    rw [hcons]
    rcases List.mem_cons.1 hmem with rfl | hmem
    · rw [lookup_markAll_of_notMem hfirst, lookup_markOne, if_pos rfl]
    · have hne : key ≠ result.1 := by
        rintro rfl
        exact hfirst (List.mem_map.2 ⟨_, hmem, rfl⟩)
      rw [ih hnodup hmem, lookup_markOne, if_neg hne]

/-- An entry that is marked alive is not expired. -/
theorem expired_mark_alive {latency : Nat} :
    isCommunityNodeExpired (ProbeOutcome.mark (.alive latency) node now) now = false := by
  refine decide_eq_false ?_
  dsimp only [ProbeOutcome.mark]
  rw [Nat.sub_self]
  exact Nat.not_lt_zero _

/-- The entries that are kept are not expired. -/
theorem lookup_retainAlive : (retainAlive nodes now).lookup key =
    (nodes.lookup key).filter fun node => !isCommunityNodeExpired node now := by
  unfold retainAlive
  rw [HashMap.lookup_retain]
  cases nodes.lookup key with
  | none => rfl
  | some node =>
    rw [Option.bind_some, Option.filter_some]
    cases isCommunityNodeExpired node now <;> rfl

/-- The write-back of a sweep, entry by entry: it is marked if it was probed, and dropped if it is
expired then. -/
theorem sweepStore_lookup (s : State) (i : Nat) (now : Nat) (key : String)
    (hnodup : (results.map Prod.fst).Nodup) :
    ∃ mark : CommunityNodeInfo → CommunityNodeInfo,
      ((s.sweepStore i results now).nodes.lookup key = ((s.nodes.lookup key).map mark).filter
        fun node => !isCommunityNodeExpired node now) ∧
      (key ∉ results.map Prod.fst ∧ mark = id ∨
        ∃ outcome, (key, outcome) ∈ results ∧ mark = (outcome.mark · now)) := by
  have hnodes : (s.sweepStore i results now).nodes =
      retainAlive (markAll s.nodes results now) now := rfl
  rw [hnodes, lookup_retainAlive]
  by_cases hkey : key ∈ results.map Prod.fst
  · obtain ⟨⟨_, outcome⟩, hmem, rfl⟩ := List.mem_map.1 hkey
    exact ⟨_, by rw [lookup_markAll_of_mem hnodup hmem], .inr ⟨outcome, hmem, rfl⟩⟩
  · exact ⟨id, by rw [lookup_markAll_of_notMem hkey, Option.map_id_fun, id], .inl ⟨hkey, rfl⟩⟩

end

/-! ## Tasks -/

/-- The task that an action moves. -/
def Action.task : Action → Option Nat
  | .tick _ => none
  | .submit i _ | .sweep i | .run i _ => some i

/-- The submission of a task that has not written back. -/
def Task.accepted : Task → Option Accepted
  | .quota a | .cooldown a | .lookup a | .count a | .probe a _ | .store a _ _ => some a
  | _ => none

/-- The targets of a sweep that has not written back. -/
def Task.targets : Task → Option (List String)
  | .sweepProbe targets _ | .sweepStore targets _ _ => some targets
  | _ => none

/-- A success, or the end of a sweep. -/
def Outcome.Wrote : Outcome → Prop
  | .submitted result => result.ok = true
  | .swept _ _ => True

/-- A task may have written back to the registry. -/
def Task.Wrote : Task → Prop
  | .persist _ outcome | .done outcome => outcome.Wrote
  | _ => False

/-- What is known of a task at a time: each target of a sweep has at most one result, in order, and
the clock that was read is not ahead. -/
def Task.Sound (clock : Nat) : Task → Prop
  | .sweepProbe targets results =>
    results.map Prod.fst = targets.take results.length ∧ targets.Nodup
  | .sweepStore targets results now =>
    results.map Prod.fst = targets ∧ targets.Nodup ∧ now ≤ clock
  | .quota a | .cooldown a | .lookup a | .count a | .probe a _ | .store a _ _ => a.now ≤ clock
  | _ => True

section
variable {lower : List Char → List Char} {capacity : Nat} {s s' : State} {i j : Nat} {env : Env}
  {act : Action} {nodes : Registry} {archive : Archive} {now : Nat} {key : String}
  {node node' : CommunityNodeInfo} {ts : List (Transition State Action)}

/-- A submission keeps the time at which it was read. -/
theorem accept_now {sub : Submission} {a : Accepted} (h : sub.accept lower now = .ok a) :
    a.now = now := by
  unfold Submission.accept at h
  cases hkey : normalizeCommunityNodeAddress lower sub.address with
  | error message =>
    rw [hkey] at h
    cases h
  | ok key =>
    rw [hkey] at h
    dsimp only [bind, Except.bind] at h
    split at h
    · cases h
    · cases h
      rfl

/-- A step moves no other task. -/
theorem Stepped.tasks_ne (h : Stepped lower capacity s act s') (hj : act.task ≠ some j) :
    s'.tasks j = s.tasks j := by
  have hne {i : Nat} (hi : some i ≠ some j) : j ≠ i := fun h => hi (congrArg some h.symm)
  cases h with
  | tick => rfl
  | swept => exact State.setTask_ne (hne hj)
  | _ => exact State.setTask_ne (hne hj)

theorem Task.Sound.mono {task : Task} {clock clock' : Nat} (h : task.Sound clock)
    (hle : clock ≤ clock') : task.Sound clock' := by
  cases task with
  | sweepStore => exact ⟨h.1, h.2.1, Nat.le_trans h.2.2 hle⟩
  | sweepProbe => exact h
  | quota | cooldown | lookup | count | probe | store => exact Nat.le_trans h hle
  | absent | persist | done => trivial

/-- A sweep before its write-back has one result for each target. -/
theorem Task.Sound.nodup {task : Task} {clock : Nat} {targets : List String}
    {results : List (String × ProbeOutcome)} (h : task.Sound clock)
    (htask : task = .sweepStore targets results now) : (results.map Prod.fst).Nodup := by
  subst htask
  exact h.1 ▸ h.2.1

/-- The clock goes forward. -/
theorem Stepped.unixSecs_le (h : Stepped lower capacity s act s') : s.unixSecs ≤ s'.unixSecs := by
  cases h with
  | tick => exact Nat.div_le_div_right (Nat.le_add_right _ _)
  | _ => exact Nat.le_refl _

/-- A move leads to a task of which the same is known. -/
theorem Moves.sound {task task' : Task} (h : Moves capacity s env task task')
    (hsound : task.Sound s.unixSecs) : task'.Sound s.unixSecs := by
  cases h with
  | turnedDown => trivial
  | charged | cooled | found | missing | room | alive => exact hsound
  | @probed targets results target htarget =>
    refine ⟨?_, hsound.2⟩
    rw [List.map_append, hsound.1, List.length_append, List.length_singleton,
      List.take_add_one, htarget]
    rfl
  | @clocked targets results hle =>
    refine ⟨?_, hsound.2, Nat.le_refl _⟩
    rw [hsound.1, List.take_of_length_le hle]

/-- What is known of the tasks stays known. -/
theorem Stepped.sound (h : Stepped lower capacity s act s')
    (hsound : ∀ j, (s.tasks j).Sound s.unixSecs) (j : Nat) : (s'.tasks j).Sound s'.unixSecs := by
  by_cases hj : act.task = some j
  · cases h with
    | tick => cases hj
    | unaccepted | idle => cases hj; rw [State.setTask_self]; trivial
    | accepted _ haccept =>
      cases hj
      rw [State.setTask_self]
      exact Nat.le_of_eq (accept_now haccept)
    | started =>
      cases hj
      rw [State.setTask_self]
      exact ⟨rfl, AList.keys_nodup _⟩
    | moved hmoves =>
      cases hj
      rw [State.setTask_self]
      exact hmoves.sound (hsound _)
    | stored => cases hj; rw [State.setTask_self]; trivial
    | @swept _ _ _ results now =>
      cases hj
      obtain ⟨_, _, htask | htask⟩ := s.sweepStore_task j results now <;> rw [htask] <;> trivial
    | locked | listed | opened | written => cases hj; rw [State.setTask_self]; trivial
  · rw [h.tasks_ne hj]
    exact (hsound j).mono h.unixSecs_le

/-- In a reachable state all that is known of the tasks. -/
theorem RegistryRun.sound (h : RegistryRun lower capacity (.initial nodes archive now) ts s)
    (j : Nat) :
    (s.tasks j).Sound s.unixSecs := by
  refine h.reachable.invariant (I := fun s => ∀ j, (s.tasks j).Sound s.unixSecs) ?_ ?_ j
  · rintro _ rfl _
    trivial
  · exact fun s act s' _ hsound hstep => (step_cases hstep).sound hsound

/-! ## The two write-backs -/

/-- What a step does to the registry: nothing, or one of the two write-backs. -/
inductive Writes (capacity : Nat) (s : State) : Action → Registry → Prop
  | kept {act : Action} : Writes capacity s act s.nodes
  | stored {i : Nat} {env : Env} {a : Accepted} {alreadyExists : Bool} {latency : Nat}
      {nodes : Registry} {node : CommunityNodeInfo} :
      s.tasks i = .store a alreadyExists latency →
      a.store capacity s.nodes latency = some (nodes, node) →
      Writes capacity s (.run i env) nodes
  | swept {i : Nat} {env : Env} {targets : List String} {results : List (String × ProbeOutcome)}
      {now : Nat} : s.tasks i = .sweepStore targets results now →
      Writes capacity s (.run i env) (s.sweepStore i results now).nodes

/-- **What a step does to the registry.** -/
theorem Stepped.writes (h : Stepped lower capacity s act s') : Writes capacity s act s'.nodes := by
  cases h with
  | stored htask hstore => exact .stored htask hstore
  | swept htask => exact .swept htask
  | _ => exact .kept

/-- The step of a sweep that is before its write-back. -/
theorem RegistryStep.swept {targets : List String} {results : List (String × ProbeOutcome)}
    (h : RegistryStep lower capacity s (.run i env) s')
    (htask : s.tasks i = .sweepStore targets results now) : s' = s.sweepStore i results now := by
  rw [RegistryStep, State.step, State.run, htask] at h
  exact (Option.some.inj h).symm

/-- The step of a submission that is before its write-back. -/
theorem RegistryStep.stored {a : Accepted} {alreadyExists : Bool} {latency : Nat}
    (h : RegistryStep lower capacity s (.run i env) s')
    (htask : s.tasks i = .store a alreadyExists latency) :
    s' = s.store capacity i a alreadyExists latency := by
  rw [RegistryStep, State.step, State.run, htask] at h
  exact (Option.some.inj h).symm

/-- The entry that a submission writes back. -/
theorem store_cases {a : Accepted} {latency : Nat} {nodes' : Registry}
    (h : a.store capacity nodes latency = some (nodes', node)) :
    nodes' = nodes.insert a.key node ∧
      ((∃ existing, nodes.lookup a.key = some existing ∧ node = a.refresh existing latency) ∨
        nodes.lookup a.key = none ∧ nodes.keys.length < capacity ∧ node = a.node latency) := by
  unfold Accepted.store at h
  split at h
  · next existing hexisting =>
    cases h
    exact ⟨rfl, .inl ⟨existing, hexisting, rfl⟩⟩
  · next hnone =>
    split at h
    · cases h
    · next hroom =>
      cases h
      exact ⟨rfl, .inr ⟨hnone, Nat.lt_of_not_le hroom, rfl⟩⟩

/-- A write-back keeps a bound that is not below the capacity. -/
theorem Writes.length_le {room : Nat} (h : Writes capacity s act nodes) (hroom : capacity ≤ room)
    (hcap : s.nodes.keys.length ≤ room) : nodes.keys.length ≤ room := by
  cases h with
  | kept => exact hcap
  | stored _ hstore =>
    obtain ⟨rfl, ⟨existing, hexisting, -⟩ | ⟨hnone, hfree, -⟩⟩ := store_cases hstore
    · rwa [HashMap.length_insert_of_mem (HashMap.mem_of_lookup hexisting)]
    · rw [HashMap.length_insert_of_notMem (HashMap.notMem_of_lookup hnone)]
      exact Nat.le_trans hfree hroom
  | @swept i _ _ results now =>
    have hle : (retainAlive (markAll s.nodes results now) now).keys.length ≤
        (markAll s.nodes results now).keys.length := HashMap.length_retain_le _ _
    rw [markAll_length] at hle
    exact Nat.le_trans hle hcap

/-- A key comes in only with the write-back of a submission, and as the address of its entry. -/
theorem Writes.entered (h : Writes capacity s act nodes) (hpre : s.nodes.lookup key = none)
    (hpost : nodes.lookup key = some node) (hsound : ∀ i, (s.tasks i).Sound s.unixSecs) :
    node.address = key ∧ ∃ i env a alreadyExists latency, act = .run i env ∧
      s.tasks i = .store a alreadyExists latency ∧ a.key = key ∧
      (a.store capacity s.nodes latency).isSome := by
  cases h with
  | kept => cases hpre.symm.trans hpost
  | stored htask hstore =>
    obtain ⟨rfl, hnode⟩ := store_cases hstore
    rw [HashMap.lookup_insert_ite] at hpost
    split at hpost
    · next hkey =>
      subst hkey
      cases hpost
      obtain ⟨existing, hexisting, -⟩ | ⟨-, -, rfl⟩ := hnode
      · cases hpre.symm.trans hexisting
      · exact ⟨rfl, _, _, _, _, _, rfl, htask, rfl, by rw [hstore]; rfl⟩
    · cases hpre.symm.trans hpost
  | @swept i _ _ results now htask =>
    obtain ⟨mark, hlookup, -⟩ := sweepStore_lookup s i now key ((hsound i).nodup htask)
    rw [hlookup, hpre] at hpost
    cases hpost

/-- An entry that stays keeps its address. -/
theorem Writes.address (h : Writes capacity s act nodes) (hpre : s.nodes.lookup key = some node)
    (hpost : nodes.lookup key = some node') (hsound : ∀ i, (s.tasks i).Sound s.unixSecs) :
    node'.address = node.address := by
  cases h with
  | kept => cases hpre.symm.trans hpost; rfl
  | stored htask hstore =>
    obtain ⟨rfl, hnode⟩ := store_cases hstore
    rw [HashMap.lookup_insert_ite] at hpost
    split at hpost
    · next hkey =>
      subst hkey
      cases hpost
      obtain ⟨existing, hexisting, rfl⟩ | ⟨hnone, -⟩ := hnode
      · cases hpre.symm.trans hexisting
        rfl
      · cases hnone.symm.trans hpre
    · cases hpre.symm.trans hpost
      rfl
  | @swept i _ _ results now htask =>
    obtain ⟨mark, hlookup, hmark⟩ := sweepStore_lookup s i now key ((hsound i).nodup htask)
    rw [hlookup, hpre, Option.map_some, Option.filter_some] at hpost
    split at hpost
    · cases hpost
      obtain ⟨-, rfl⟩ | ⟨outcome, -, rfl⟩ := hmark
      · rfl
      · dsimp only
        rw [mark_eq]
    · cases hpost

/-- A key has one outcome. -/
theorem outcome_unique {results : List (String × ProbeOutcome)} {outcome outcome' : ProbeOutcome}
    (hnodup : (results.map Prod.fst).Nodup) (h : (key, outcome) ∈ results)
    (h' : (key, outcome') ∈ results) : outcome = outcome' :=
  congrArg Prod.snd (List.inj_on_of_nodup_map hnodup h h' rfl)

/-- An entry leaves only with the write-back of a sweep, by whose clock its last success is too old,
and which did not find it alive. -/
theorem Writes.left (h : Writes capacity s act nodes) (hpre : s.nodes.lookup key = some node)
    (hpost : nodes.lookup key = none) (hsound : ∀ i, (s.tasks i).Sound s.unixSecs) :
    ∃ i env targets results sweepNow, act = .run i env ∧
      s.tasks i = .sweepStore targets results sweepNow ∧ sweepNow ≤ s.unixSecs ∧
      COMMUNITY_NODE_MAX_OFFLINE_SECS < sweepNow - node.lastOkAt ∧
      ∀ latency, (key, .alive latency) ∉ results := by
  cases h with
  | kept => cases hpre.symm.trans hpost
  | stored htask hstore =>
    obtain ⟨rfl, -⟩ := store_cases hstore
    rw [HashMap.lookup_insert_ite] at hpost
    split at hpost
    · cases hpost
    · cases hpre.symm.trans hpost
  | @swept i env targets results now htask =>
    have hs := hsound i
    rw [htask] at hs
    have hnodup := hs.nodup rfl
    obtain ⟨mark, hlookup, hmark⟩ := sweepStore_lookup s i now key hnodup
    rw [hlookup, hpre, Option.map_some, Option.filter_some] at hpost
    have hexpired : isCommunityNodeExpired (mark node) now = true := by
      cases hexp : isCommunityNodeExpired (mark node) now with
      | true => rfl
      | false =>
        rw [hexp] at hpost
        cases hpost
    have hold := of_decide_eq_true hexpired
    refine ⟨i, env, targets, results, now, rfl, htask, hs.2.2, ?_⟩
    obtain ⟨hnot, rfl⟩ | ⟨outcome, hmem, rfl⟩ := hmark
    · exact ⟨hold, fun latency hmem => hnot (List.mem_map.2 ⟨_, hmem, rfl⟩)⟩
    · cases outcome with
      | alive latency => cases expired_mark_alive.symm.trans hexpired
      | dead | blocked | busy =>
        exact ⟨hold, fun latency hmem' => nomatch outcome_unique hnodup hmem hmem'⟩

/-- The write-back of a sweep changes what its probe tells of a node, if there was one. -/
theorem sweepStore_entry {targets : List String} {results : List (String × ProbeOutcome)}
    (hsound : (Task.sweepStore targets results now).Sound s.unixSecs)
    (hpre : s.nodes.lookup key = some node)
    (hpost : (s.sweepStore i results now).nodes.lookup key = some node') :
    node' = { node with
      online := node'.online, latencyMs := node'.latencyMs, lastOkAt := node'.lastOkAt } ∧
    (key ∉ targets → node' = node) ∧ ((key, .busy) ∈ results → node' = node) := by
  have hnodup := hsound.nodup rfl
  obtain ⟨mark, hlookup, hmark⟩ := sweepStore_lookup s i now key hnodup
  rw [hlookup, hpre, Option.map_some, Option.filter_some] at hpost
  split at hpost
  · cases hpost
    obtain ⟨-, rfl⟩ | ⟨outcome, hmem, rfl⟩ := hmark
    · exact ⟨rfl, fun _ => rfl, fun _ => rfl⟩
    · refine ⟨mark_eq node, fun hnot => ?_, fun hbusy => ?_⟩
      · rw [← hsound.1] at hnot
        exact absurd (List.mem_map.2 ⟨_, hmem, rfl⟩) hnot
      · cases outcome_unique hnodup hmem hbusy
        rfl
  · cases hpost

/-! ## Where a write-back comes from -/

/-- A task was about to probe a key, and found it alive. -/
def ProbedAlive (i : Nat) (key : String) (t : Transition State Action) : Prop :=
  ∃ env a alreadyExists latency, t.act = .run i env ∧ t.pre.tasks i = .probe a alreadyExists ∧
    a.key = key ∧ env.outcome = .alive latency

/-- A step of a task leads it before a write-back only from its probe. -/
theorem Stepped.probedAlive (h : Stepped lower capacity s act s') {a : Accepted}
    {alreadyExists : Bool} {latency : Nat} (hpost : s'.tasks i = .store a alreadyExists latency) :
    ProbedAlive i a.key ⟨s, act, s'⟩ ∨ s.tasks i = .store a alreadyExists latency := by
  by_cases hi : act.task = some i
  · cases h with
    | tick => cases hi
    | moved hmoves =>
      cases hi
      rw [State.setTask_self] at hpost
      subst hpost
      generalize htask : s.tasks i = task at hmoves
      cases hmoves with
      | alive hout => exact .inl ⟨_, _, _, _, rfl, htask, rfl, hout⟩
    | @swept _ _ _ results now =>
      cases hi
      obtain ⟨_, _, htask | htask⟩ := s.sweepStore_task i results now <;> rw [htask] at hpost <;>
        cases hpost
    | _ => cases hi; rw [State.setTask_self] at hpost; cases hpost
  · exact .inr (h.tasks_ne hi ▸ hpost)

/-- Before the write-back of a submission, its key was probed alive. -/
theorem RegistryRun.probedAlive (h : RegistryRun lower capacity (.initial nodes archive now) ts s)
    {a : Accepted} {alreadyExists : Bool} {latency : Nat}
    (htask : s.tasks i = .store a alreadyExists latency) : ∃ t ∈ ts, ProbedAlive i a.key t := by
  refine h.arose (A := fun s => s.tasks i = .store a alreadyExists latency) ?_ ?_ htask
  · rintro _ rfl h
    cases h
  · exact fun _ _ _ hstep hpost => (step_cases hstep).probedAlive hpost

/-- A step leads a task to the targets of a sweep only from its snapshot. -/
theorem Stepped.snapshot (h : Stepped lower capacity s act s') {targets : List String}
    (hpost : (s'.tasks i).targets = some targets) :
    act = .sweep i ∧ s.nodes.keys = targets ∨ (s.tasks i).targets = some targets := by
  by_cases hi : act.task = some i
  · cases h with
    | tick => cases hi
    | started =>
      cases hi
      rw [State.setTask_self] at hpost
      exact .inl ⟨rfl, Option.some.inj hpost⟩
    | moved hmoves =>
      cases hi
      rw [State.setTask_self] at hpost
      generalize s.tasks i = task at hmoves
      cases hmoves with
      | probed | clocked => exact .inr hpost
      | _ => cases hpost
    | @swept _ _ _ results now =>
      cases hi
      obtain ⟨_, _, htask | htask⟩ := s.sweepStore_task i results now <;> rw [htask] at hpost <;>
        cases hpost
    | _ => cases hi; rw [State.setTask_self] at hpost; cases hpost
  · exact .inr (h.tasks_ne hi ▸ hpost)

/-- The targets of a sweep are the keys of the registry as it was when the sweep started. -/
theorem RegistryRun.snapshot (h : RegistryRun lower capacity (.initial nodes archive now) ts s)
    {targets : List String} (htask : (s.tasks i).targets = some targets) :
    ∃ t ∈ ts, t.act = .sweep i ∧ t.pre.nodes.keys = targets := by
  refine h.arose (A := fun s => (s.tasks i).targets = some targets) ?_ ?_ htask
  · rintro _ rfl h
    cases h
  · exact fun _ _ _ hstep hpost => (step_cases hstep).snapshot hpost

/-- A task that changes the registry has written back, and stays so. -/
theorem Stepped.wrote (h : Stepped lower capacity s act s')
    (hwrote : (s.tasks i).Wrote ∨ act.task = some i ∧ s'.nodes ≠ s.nodes) : (s'.tasks i).Wrote := by
  by_cases hi : act.task = some i
  · cases h with
    | tick => cases hi
    | stored => cases hi; rw [State.setTask_self]; rfl
    | @swept _ _ _ results now =>
      cases hi
      obtain ⟨_, _, htask | htask⟩ := s.sweepStore_task i results now <;> rw [htask] <;> trivial
    | locked htask | listed htask | opened htask | written htask =>
      cases hi
      rw [State.setTask_self]
      rw [htask] at hwrote
      exact hwrote.elim id fun h => absurd rfl h.2
    | moved hmoves =>
      cases hi
      obtain hwrote | ⟨-, hne⟩ := hwrote
      · generalize s.tasks i = task at hmoves hwrote
        cases hmoves with
        | turnedDown h => rcases h with rfl | rfl | rfl | ⟨_, rfl⟩ | ⟨_, _, rfl⟩ <;> cases hwrote
        | _ => cases hwrote
      · exact absurd rfl hne
    | unaccepted htask | accepted htask | idle htask | started htask =>
      cases hi
      rw [htask] at hwrote
      exact hwrote.elim False.elim fun h => absurd rfl h.2
  · rw [h.tasks_ne hi]
    exact hwrote.resolve_right fun h => hi h.1

/-- A task that changed the registry was not turned down. -/
theorem RegistryRun.wrote (h : RegistryRun lower capacity (.initial nodes archive now) ts s)
    {t : Transition State Action} (ht : t ∈ ts) (hi : t.act.task = some i)
    (hne : t.post.nodes ≠ t.pre.nodes) : (s.tasks i).Wrote := by
  induction h with
  | start => cases ht
  | snoc _ hstep ih =>
    rcases List.mem_cons.1 ht with rfl | ht
    · exact (step_cases hstep).wrote (.inr ⟨hi, hne⟩)
    · exact (step_cases hstep).wrote (.inl (ih ht))

/-- **The registry over all interleavings.** It keeps its bound. A key comes in only with the
write-back of a submission that probed it alive, as the address of its entry, and an entry that
stays keeps its address. A submission that is turned down changes nothing. An entry leaves only with
the write-back of a sweep, at more than 24 hours since its last success, and if the sweep did not
find it alive. Each sweep probes the keys it read at its start; its other entries stay as they were,
and of those it probed only what a probe tells changes, and nothing if the probe was put off. -/
theorem registry_transitions (h : RegistryRun lower capacity (.initial nodes archive now) ts s)
    (hcap : nodes.keys.length ≤ capacity) :
    s.nodes.keys.length ≤ capacity ∧
    (∀ later t earlier, ts = later ++ t :: earlier → ∀ key node, t.pre.nodes.lookup key = none →
      t.post.nodes.lookup key = some node → node.address = key ∧
        ∃ i env a alreadyExists latency, t.act = .run i env ∧
          t.pre.tasks i = .store a alreadyExists latency ∧ a.key = key ∧
          ∃ u ∈ earlier, ProbedAlive i key u) ∧
    (∀ t ∈ ts, ∀ key node node', t.pre.nodes.lookup key = some node →
      t.post.nodes.lookup key = some node' → node'.address = node.address) ∧
    (∀ i result, s.tasks i = .done (.submitted result) → result.ok = false →
      ∀ t ∈ ts, t.act.task = some i → t.post.nodes = t.pre.nodes) ∧
    (∀ t ∈ ts, ∀ key node, t.pre.nodes.lookup key = some node → t.post.nodes.lookup key = none →
      ∃ i env targets results sweepNow, t.act = .run i env ∧
        t.pre.tasks i = .sweepStore targets results sweepNow ∧ sweepNow ≤ t.pre.unixSecs ∧
        24 * 60 * 60 < sweepNow - node.lastOkAt ∧ ∀ latency, (key, .alive latency) ∉ results) ∧
    (∀ t ∈ ts, t.post.nodes ≠ t.pre.nodes → ∃ i env, t.act = .run i env ∧
      ((∃ a alreadyExists latency, t.pre.tasks i = .store a alreadyExists latency) ∨
        ∃ targets results sweepNow, t.pre.tasks i = .sweepStore targets results sweepNow)) ∧
    ∀ later t earlier, ts = later ++ t :: earlier → ∀ i env targets results sweepNow,
      t.act = .run i env → t.pre.tasks i = .sweepStore targets results sweepNow →
      (∃ u ∈ earlier, u.act = .sweep i ∧ u.pre.nodes.keys = targets) ∧
      results.map Prod.fst = targets ∧
      ∀ key node node', t.pre.nodes.lookup key = some node →
        t.post.nodes.lookup key = some node' →
        node' = { node with
          online := node'.online, latencyMs := node'.latencyMs, lastOkAt := node'.lastOkAt } ∧
        (key ∉ targets → node' = node) ∧ ((key, .busy) ∈ results → node' = node) := by
  have hmem {t : Transition State Action} (ht : t ∈ ts) :
      Stepped lower capacity t.pre t.act t.post ∧
        ∀ j, (t.pre.tasks j).Sound t.pre.unixSecs := by
    obtain ⟨⟨_, hpre⟩, hstep⟩ := h.mem ht
    exact ⟨step_cases hstep, RegistryRun.sound hpre⟩
  refine ⟨?_, ?_, ?_, ?_, ?_, ?_, ?_⟩
  · refine h.reachable.invariant (I := fun s => s.nodes.keys.length ≤ capacity) ?_ ?_
    · rintro _ rfl
      exact hcap
    · exact fun s act s' _ hlen hstep => (step_cases hstep).writes.length_le le_rfl hlen
  · rintro later t earlier rfl key node hpre hpost
    obtain ⟨hstep, hsound⟩ := hmem (List.mem_append_right _ List.mem_cons_self)
    obtain ⟨haddress, i, env, a, alreadyExists, latency, hact, htask, hkey, -⟩ :=
      hstep.writes.entered hpre hpost hsound
    exact ⟨haddress, i, env, a, alreadyExists, latency, hact, htask, hkey,
      hkey ▸ RegistryRun.probedAlive h.before htask⟩
  · intro t ht key node node' hpre hpost
    obtain ⟨hstep, hsound⟩ := hmem ht
    exact hstep.writes.address hpre hpost hsound
  · intro i result htask hok t ht hi
    by_contra hne
    have hwrote := RegistryRun.wrote h ht hi hne
    rw [htask] at hwrote
    cases hok.symm.trans hwrote
  · intro t ht key node hpre hpost
    obtain ⟨hstep, hsound⟩ := hmem ht
    exact hstep.writes.left hpre hpost hsound
  · intro t ht hne
    have hwrites := (hmem ht).1.writes
    generalize t.post.nodes = nodes' at hwrites hne
    generalize t.act = act at hwrites
    cases hwrites with
    | kept => exact absurd rfl hne
    | stored htask => exact ⟨_, _, rfl, .inl ⟨_, _, _, htask⟩⟩
    | swept htask => exact ⟨_, _, rfl, .inr ⟨_, _, _, htask⟩⟩
  · rintro later t earlier rfl i env targets results sweepNow hact htask
    obtain ⟨hstep, hsound⟩ := hmem (List.mem_append_right _ List.mem_cons_self)
    have hs := hsound i
    rw [htask] at hs
    have hpost : t.post.nodes = (t.pre.sweepStore i results sweepNow).nodes := by
      obtain ⟨-, hrun⟩ := h.mem (List.mem_append_right _ List.mem_cons_self)
      rw [hact] at hrun
      rw [RegistryStep.swept hrun htask]
    rw [hpost]
    refine ⟨RegistryRun.snapshot h.before (by rw [htask]; rfl), hs.1, fun key node node' hpre => ?_⟩
    exact sweepStore_entry hs hpre

end

/-! ## A recorded run -/

/-- The steps of a submission up to its write-back. -/
def submitSteps (i : Nat) (address : String) (latency : Nat) : List Action :=
  .submit i ⟨.v4 ⟨192, 0, 2, 1⟩, "node", address, none⟩ ::
    List.replicate 6 (.run i ⟨.alive latency, true⟩)

/-- The recorded run of a server that starts without nodes. -/
def recorded (acts : List Action) : Option State :=
  acts.foldlM (State.step id 200) (.initial ∅ .unread 0)

/-- A recorded run is a run. -/
theorem recorded_run {acts : List Action} {s : State} (h : recorded acts = some s) :
    ∃ ts, RegistryRun id 200 (.initial ∅ .unread 0) ts s :=
  Reachable.foldlM ⟨[], .start rfl⟩ h

/-- A recorded run all of whose steps pass a check is a run of such steps. -/
theorem recorded_run_checked {p : State → Action → Bool} {acts : List Action} {s : State}
    (h : acts.foldlM (fun s act => if p s act then State.step id 200 s act else none)
      (.initial ∅ .unread 0) = some s) :
    ∃ ts, RegistryRun id 200 (.initial ∅ .unread 0) ts s ∧ ∀ t ∈ ts, p t.pre t.act = true :=
  Run.foldlM (.start rfl) (fun _ ht => absurd ht List.not_mem_nil) h

/-- A submitted node is registered, within the bound. -/
theorem registry_transitions_submitted : ∃ ts s,
    RegistryRun id 200 (.initial ∅ .unread 0) ts s ∧ s.nodes.keys = ["tcp://a:1"] ∧
      s.nodes.keys.length ≤ 200 := by
  have hkeys : (recorded (submitSteps 0 "tcp://a:1" 5)).map (·.nodes.keys) =
      some ["tcp://a:1"] := by decide +kernel
  obtain ⟨s, hs, hkeys⟩ := Option.map_eq_some_iff.1 hkeys
  obtain ⟨ts, h⟩ := recorded_run hs
  exact ⟨ts, s, h, hkeys, (registry_transitions h (Nat.zero_le _)).1⟩

end MctierSignaling.CommunityNodes
