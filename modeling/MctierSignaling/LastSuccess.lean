import MctierSignaling.RegistryTransitions

/-!
# The time of the last success

`last_ok_at` is documented as the time of the last successful probe. A write-back sets it to the
time that its task read, before its probe for a submission, and before it waits for the registry for
a sweep; it does not look at the time that the entry holds. So the time of an entry goes back
exactly when a success is written back after one that was read later (`last_success_ordered`).
-/

namespace MctierSignaling.CommunityNodes

/-- A step writes back a success of a key, with the time that its task read. -/
def Records (capacity : Nat) (key : String) (read : Nat) (t : Transition State Action) : Prop :=
  ∃ i env, t.act = .run i env ∧
    ((∃ a alreadyExists latency, t.pre.tasks i = .store a alreadyExists latency ∧ a.key = key ∧
        a.now = read ∧ (a.store capacity t.pre.nodes latency).isSome) ∨
      ∃ targets results latency, t.pre.tasks i = .sweepStore targets results read ∧
        (key, .alive latency) ∈ results ∧ key ∈ t.pre.nodes)

/-- No entry that stays goes back in time. -/
def NoneGoesBack (ts : List (Transition State Action)) : Prop :=
  ∀ t ∈ ts, ∀ key node node', t.pre.nodes.lookup key = some node →
    t.post.nodes.lookup key = some node' → node.lastOkAt ≤ node'.lastOkAt

/-- No success of a registered key is written back after one that was read later, since which the
key stayed. -/
def WrittenInOrder (capacity : Nat) (ts : List (Transition State Action)) : Prop :=
  ∀ later t mid u earlier, ts = later ++ t :: (mid ++ u :: earlier) →
    ∀ key read read', Records capacity key read t → Records capacity key read' u →
      (∀ v ∈ mid, key ∈ v.post.nodes) → key ∈ t.pre.nodes → read' ≤ read

/-- The time that a task read, if it has read it, is not before a time. -/
def Task.After (start : Nat) : Task → Prop
  | .sweepStore _ _ now => start ≤ now
  | .quota a | .cooldown a | .lookup a | .count a | .probe a _ | .store a _ _ => start ≤ a.now
  | _ => True

section
variable {lower : List Char → List Char} {capacity : Nat} {s s' : State} {i : Nat} {env : Env}
  {act : Action} {nodes : Registry} {archive : Archive} {now start read : Nat} {key : String}
  {node node' : CommunityNodeInfo} {ts : List (Transition State Action)}
  {t : Transition State Action}

/-! ## The times that tasks read -/

theorem Stepped.after (h : Stepped lower capacity s act s') (hstart : start ≤ s.unixSecs)
    (hafter : ∀ j, (s.tasks j).After start) (j : Nat) : (s'.tasks j).After start := by
  by_cases hj : act.task = some j
  · cases h with
    | tick => cases hj
    | accepted _ haccept =>
      cases hj
      rw [State.setTask_self]
      exact Nat.le_trans hstart (Nat.le_of_eq (accept_now haccept).symm)
    | moved hmoves =>
      cases hj
      rw [State.setTask_self]
      have htask := hafter j
      generalize s.tasks j = task at hmoves htask
      cases hmoves with
      | turnedDown | probed => trivial
      | clocked => exact hstart
      | _ => exact htask
    | @swept _ _ _ results now =>
      cases hj
      obtain ⟨_, _, htask | htask⟩ := s.sweepStore_task j results now <;> rw [htask] <;> trivial
    | _ => cases hj; rw [State.setTask_self]; trivial
  · rw [h.tasks_ne hj]
    exact hafter j

/-- Every task reads a time after the start. -/
theorem RegistryRun.after (h : RegistryRun lower capacity (.initial nodes archive now) ts s)
    (j : Nat) :
    (s.tasks j).After (now / secs 1) := by
  have hboth : now / secs 1 ≤ s.unixSecs ∧ ∀ j, (s.tasks j).After (now / secs 1) := by
    refine h.reachable.invariant
      (I := fun s => now / secs 1 ≤ s.unixSecs ∧ ∀ j, (s.tasks j).After (now / secs 1)) ?_ ?_
    · rintro _ rfl
      exact ⟨Nat.le_refl _, fun _ => trivial⟩
    · intro s act s' _ hboth hstep
      have hstepped := step_cases hstep
      exact ⟨Nat.le_trans hboth.1 hstepped.unixSecs_le, hstepped.after hboth.1 hboth.2⟩
  exact hboth.2 j

/-- A success that is written back was read after the start. -/
theorem Records.after (h : Records capacity key read t)
    (hafter : ∀ j, (t.pre.tasks j).After start) : start ≤ read := by
  obtain ⟨i, env, -, ⟨a, _, _, htask, -, rfl, -⟩ | ⟨_, _, _, htask, -⟩⟩ := h
  · have ha := hafter i
    rwa [htask] at ha
  · have ha := hafter i
    rwa [htask] at ha

/-! ## What a write-back does to the time of an entry -/

/-- The time of an entry is kept, or is that of a success that the step writes back. -/
theorem Stepped.lastOkAt (h : Stepped lower capacity s act s')
    (hsound : ∀ i, (s.tasks i).Sound s.unixSecs) (hpost : s'.nodes.lookup key = some node') :
    (∃ node, s.nodes.lookup key = some node ∧ node'.lastOkAt = node.lastOkAt) ∨
      Records capacity key node'.lastOkAt ⟨s, act, s'⟩ := by
  have hwrites := h.writes
  generalize s'.nodes = nodes' at hwrites hpost
  cases hwrites with
  | kept => exact .inl ⟨node', hpost, rfl⟩
  | stored htask hstore =>
    obtain ⟨rfl, hnode⟩ := store_cases hstore
    rw [HashMap.lookup_insert_ite] at hpost
    split at hpost
    · next hkey =>
      subst hkey
      cases hpost
      refine .inr ⟨_, _, rfl, .inl ⟨_, _, _, htask, rfl, ?_, by rw [hstore]; rfl⟩⟩
      obtain ⟨_, -, rfl⟩ | ⟨-, -, rfl⟩ := hnode <;> rfl
    · exact .inl ⟨node', hpost, rfl⟩
  | @swept i env targets results now htask =>
    obtain ⟨mark, hlookup, hmark⟩ := sweepStore_lookup s i now key ((hsound i).nodup htask)
    rw [hlookup] at hpost
    obtain ⟨hmap, -⟩ := Option.filter_eq_some_iff.1 hpost
    obtain ⟨node, hnode, rfl⟩ := Option.map_eq_some_iff.1 hmap
    obtain ⟨-, rfl⟩ | ⟨outcome, hmem, rfl⟩ := hmark
    · exact .inl ⟨node, hnode, rfl⟩
    · cases outcome with
      | alive latency =>
        exact .inr ⟨_, _, rfl, .inr ⟨_, _, _, htask, hmem, HashMap.mem_of_lookup hnode⟩⟩
      | dead | blocked | busy => exact .inl ⟨node, hnode, rfl⟩

/-- A success that is written back is the last of its key. -/
theorem Records.lookup (h : Records capacity key read ⟨s, act, s'⟩)
    (hstep : RegistryStep lower capacity s act s')
    (hsound : ∀ i, (s.tasks i).Sound s.unixSecs) :
    ∃ node', s'.nodes.lookup key = some node' ∧ node'.lastOkAt = read := by
  obtain ⟨i, env, rfl, ⟨a, alreadyExists, latency, htask, rfl, rfl, hstore⟩ |
    ⟨targets, results, latency, htask, hmem, hkey⟩⟩ := h
  · dsimp only at htask hstore
    obtain ⟨⟨nodes', node⟩, hstore⟩ := Option.isSome_iff_exists.1 hstore
    rw [RegistryStep.stored hstep htask, State.store, hstore]
    obtain ⟨rfl, hnode⟩ := store_cases hstore
    refine ⟨node, by rw [State.setTask_nodes, HashMap.lookup_insert_ite, if_pos rfl], ?_⟩
    obtain ⟨_, -, rfl⟩ | ⟨-, -, rfl⟩ := hnode <;> rfl
  · dsimp only at htask hkey
    rw [RegistryStep.swept hstep htask]
    have hnodup := (hsound i).nodup htask
    obtain ⟨node, hnode⟩ := Option.isSome_iff_exists.1 (AList.lookup_isSome.2 hkey)
    obtain ⟨mark, hlookup, ⟨hnot, -⟩ | ⟨outcome, hmem', rfl⟩⟩ :=
      sweepStore_lookup s i read key hnodup
    · exact absurd (List.mem_map.2 ⟨_, hmem, rfl⟩) hnot
    · cases outcome_unique hnodup hmem hmem'
      rw [hlookup, hnode, Option.map_some, Option.filter_some, expired_mark_alive]
      exact ⟨_, rfl, rfl⟩

/-- The time of an entry is that of a success that was written back, since which its key stayed, or
one of the start. -/
theorem RegistryRun.lastOkAt (h : RegistryRun lower capacity (.initial nodes archive now) ts s)
    (h₀ : ∀ key node, nodes.lookup key = some node → node.lastOkAt ≤ start)
    (hnode : s.nodes.lookup key = some node) : node.lastOkAt ≤ start ∨
      Since (Records capacity key node.lastOkAt) (fun t => key ∈ t.post.nodes) ts := by
  induction h generalizing node with
  | start hinit =>
    subst hinit
    exact .inl (h₀ key node hnode)
  | snoc hrun hstep ih =>
    obtain ⟨node₁, hnode₁, heq⟩ | hrecords :=
      (step_cases hstep).lastOkAt (RegistryRun.sound hrun) hnode
    · rw [heq]
      exact (ih hnode₁).imp_right (·.keep (HashMap.mem_of_lookup hnode))
    · exact .inr (Since.new hrecords)

/-- While its key stays, an entry that does not go back keeps the time of a success. -/
theorem RegistryRun.kept {mid earlier : List (Transition State Action)}
    (h : RegistryRun lower capacity (.initial nodes archive now) (mid ++ t :: earlier) s)
    (hback : NoneGoesBack mid) (hrecords : Records capacity key read t)
    (hstay : ∀ v ∈ mid, key ∈ v.post.nodes) :
    ∃ node, s.nodes.lookup key = some node ∧ read ≤ node.lastOkAt := by
  induction mid generalizing s with
  | nil =>
    cases h with
    | snoc hrun hstep =>
      obtain ⟨node, hnode, heq⟩ := hrecords.lookup hstep (RegistryRun.sound hrun)
      exact ⟨node, hnode, Nat.le_of_eq heq.symm⟩
  | cons v mid ih =>
    cases h with
    | snoc hrun hstep =>
      obtain ⟨node, hnode, hle⟩ := ih hrun (fun u hu => hback u (List.mem_cons_of_mem _ hu))
        fun u hu => hstay u (List.mem_cons_of_mem _ hu)
      obtain ⟨node', hnode'⟩ := Option.isSome_iff_exists.1
        (AList.lookup_isSome.2 (hstay _ List.mem_cons_self))
      exact ⟨node', hnode',
        Nat.le_trans hle (hback _ List.mem_cons_self key node node' hnode hnode')⟩

/-- **The time of the last success.** In a run from entries that are not ahead of the clock, no
entry that stays goes back in time exactly if the successes of each key are written back in the
order in which their tasks read the time. -/
theorem last_success_ordered (h : RegistryRun lower capacity (.initial nodes archive now) ts s)
    (h₀ : ∀ key node, nodes.lookup key = some node → node.lastOkAt ≤ now / secs 1) :
    NoneGoesBack ts ↔ WrittenInOrder capacity ts := by
  constructor
  · rintro hback later t mid u earlier rfl key read read' ht hu hstay hkey
    have hrun := h.before
    obtain ⟨⟨_, hpre⟩, hstep⟩ := h.mem (List.mem_append_right _ List.mem_cons_self)
    obtain ⟨node, hnode, hle⟩ := RegistryRun.kept hrun (fun v hv => hback v (List.mem_append_right _
      (List.mem_cons_of_mem _ (List.mem_append_left _ hv)))) hu hstay
    obtain ⟨node', hnode', rfl⟩ := ht.lookup hstep (RegistryRun.sound hpre)
    exact Nat.le_trans hle
      (hback t (List.mem_append_right _ List.mem_cons_self) key node node' hnode hnode')
  · intro horder t ht key node node' hpre hpost
    obtain ⟨later, earlier, rfl⟩ := List.append_of_mem ht
    obtain ⟨-, hstep⟩ := h.mem ht
    have hrun := h.before
    obtain ⟨node₁, hnode₁, heq⟩ | hrecords :=
      (step_cases hstep).lastOkAt (RegistryRun.sound hrun) hpost
    · cases hpre.symm.trans hnode₁
      exact Nat.le_of_eq heq.symm
    · obtain hstart | ⟨mid, u, earliest, rfl, hu, hstay⟩ := RegistryRun.lastOkAt hrun h₀ hpre
      · exact Nat.le_trans hstart (hrecords.after (RegistryRun.after hrun))
      · exact horder later t mid u earliest rfl key _ _ hrecords hu hstay
          (HashMap.mem_of_lookup hpre)

end

/-- A node is registered. Later it is submitted again, and while that probe runs, a sweep finds it
alive. -/
def overtakenSteps : List Action :=
  submitSteps 0 "tcp://a:1" 5 ++ [.tick (secs 40)] ++ (submitSteps 1 "tcp://a:1" 5).take 5 ++
    [.tick (secs 1), .sweep 2] ++ List.replicate 3 (.run 2 ⟨.alive 5, true⟩)

/-- The write-back of the submission takes the last success from second 41 back to second 40. -/
theorem last_success_goes_back : ∃ s act s',
    (∃ ts, RegistryRun id 200 (.initial ∅ .unread 0) ts s) ∧
    RegistryStep id 200 s act s' ∧
      (s.nodes.lookup "tcp://a:1").map (·.lastOkAt) = some 41 ∧
      (s'.nodes.lookup "tcp://a:1").map (·.lastOkAt) = some 40 := by
  have hpre : (recorded overtakenSteps).map
      (fun s => (s.nodes.lookup "tcp://a:1").map (·.lastOkAt)) = some (some 41) := by decide +kernel
  have hpost : (recorded (overtakenSteps ++ [.run 1 ⟨.alive 5, true⟩])).map
      (fun s => (s.nodes.lookup "tcp://a:1").map (·.lastOkAt)) = some (some 40) := by decide +kernel
  obtain ⟨s, hs, hpre⟩ := Option.map_eq_some_iff.1 hpre
  obtain ⟨s', hs', hpost⟩ := Option.map_eq_some_iff.1 hpost
  unfold recorded at hs hs'
  rw [List.foldlM_append, hs] at hs'
  rw [Option.bind_eq_bind, Option.bind_some, List.foldlM_cons] at hs'
  obtain ⟨s₁, hstep, hnil⟩ := Option.bind_eq_some_iff.1 hs'
  cases hnil
  exact ⟨s, _, s', recorded_run hs, hstep, hpre, hpost⟩

/-- No entry that stays goes back in time in the step. -/
def State.keepsTimes (s : State) (act : Action) : Bool :=
  (State.step id 200 s act).all fun s' => s.nodes.entries.all fun e =>
    (s'.nodes.lookup e.1).all fun node' => e.2.lastOkAt ≤ node'.lastOkAt

theorem State.lastOkAt_le {s s' : State} {act : Action} {key : String}
    {node node' : CommunityNodeInfo} (h : s.keepsTimes act = true)
    (hstep : RegistryStep id 200 s act s') (hnode : s.nodes.lookup key = some node)
    (hnode' : s'.nodes.lookup key = some node') : node.lastOkAt ≤ node'.lastOkAt := by
  have hstep : State.step id 200 s act = some s' := hstep
  rw [State.keepsTimes, hstep, Option.all_some, List.all_eq_true] at h
  have hkey := h ⟨key, node⟩ (HashMap.mem_entries.2 hnode)
  rwa [hnode', Option.all_some, decide_eq_true_eq] at hkey

/-- A node is registered, and submitted again later. -/
def submittedTwice : Option State :=
  (submitSteps 0 "tcp://a:1" 5 ++ [Action.tick (secs 40)] ++ submitSteps 1 "tcp://a:1" 5).foldlM
    (fun s act => if s.keepsTimes act then State.step id 200 s act else none)
    (.initial ∅ .unread 0)

/-- A node that is submitted twice goes from second 0 to second 40; its successes were written back
in the order in which the submissions read the time. -/
theorem last_success_ordered_submitted : ∃ ts s,
    RegistryRun id 200 (.initial ∅ .unread 0) ts s ∧
      (s.nodes.lookup "tcp://a:1").map (·.lastOkAt) = some 40 ∧ WrittenInOrder 200 ts := by
  have htime : submittedTwice.map (fun s => (s.nodes.lookup "tcp://a:1").map (·.lastOkAt)) =
      some (some 40) := by decide +kernel
  obtain ⟨s, hs, htime⟩ := Option.map_eq_some_iff.1 htime
  obtain ⟨ts, h, hkeeps⟩ := recorded_run_checked hs
  refine ⟨ts, s, h, htime, (last_success_ordered h nofun).1 ?_⟩
  intro t ht key node node' hpre hpost
  exact State.lastOkAt_le (hkeeps t ht) (h.mem ht).2 hpre hpost

end MctierSignaling.CommunityNodes
