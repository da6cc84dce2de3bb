import MctierSignaling.RegistryArchive

/-!
# A restart

A restart loads the archive. A sweep that finds nodes alive updates the time of their last success
in memory, but writes the archive only if it removed a node; so a node whose probes all succeed is
archived with an old time, and is dropped by a restart (`restart_drops_node`). A load also
normalizes the archived addresses again, and a normalized address need not be its own normal form. A
healthy node survives exactly if the registry that was archived last had it with a recent success,
its address is its own normal form, and no later address of the archive has the same normal form
(`restart_keeps_iff`).
-/

namespace MctierSignaling.CommunityNodes

/-- A load takes a node of the archive over under a key. -/
def loads (lower : List Char → List Char) (now : Nat) (key : String) (node : CommunityNodeInfo) :
    Bool :=
  (normalizeCommunityNodeAddress lower node.address).toOption == some key &&
    !isCommunityNodeExpired node now

/-- The registry as it was listed for the archive. -/
def archivedNodes (ts : List (Transition State Action)) : Registry :=
  match ts.reverse[savedAt ts]? with
  | some t => t.pre.nodes
  | none => ∅

/-- A task that has not started, or has returned. -/
def Task.atRest : Task → Bool
  | .absent | .done _ => true
  | _ => false

/-- No submission or sweep is in progress. -/
def State.Quiet (s : State) : Prop := ∀ i, (s.tasks i).atRest = true

/-- What a key needs to be loaded again: its entry in the registry that was archived last is not
expired, it is its own normal form, and the unexpired entries there that have the same normal form
come before it in the order of addresses. -/
structure SurvivesRestart (lower : List Char → List Char) (archived : Registry) (now : Nat)
    (key : String) : Prop where
  fresh : ∀ node, archived.lookup key = some node → isCommunityNodeExpired node now = false
  normal : normalizeCommunityNodeAddress lower key = .ok key
  last : ∀ key' node, archived.lookup key' = some node → isCommunityNodeExpired node now = false →
    normalizeCommunityNodeAddress lower key' = .ok key → key' ≤ key

section
variable {lower : List Char → List Char} {capacity : Nat} {s : State} {nodes map : Registry}
  {archive : Archive} {now start : Nat} {key : String} {node : CommunityNodeInfo}
  {list : List CommunityNodeInfo} {ts : List (Transition State Action)}

/-! ## Loading -/

theorem loads_iff : loads lower now key node = true ↔
    normalizeCommunityNodeAddress lower node.address = .ok key ∧
      isCommunityNodeExpired node now = false := by
  unfold loads
  cases normalizeCommunityNodeAddress lower node.address <;> simp [Except.toOption]

/-- One node of the archive, as one lookup. -/
theorem lookup_loadNode : (loadNode lower now map node).lookup key =
    if loads lower now key node then some node else map.lookup key := by
  unfold loadNode loads
  cases normalizeCommunityNodeAddress lower node.address with
  | error message => simp [Except.toOption]
  | ok key' =>
    cases isCommunityNodeExpired node now with
    | true => simp
    | false =>
      by_cases hkey : key' = key
      · simp [Except.toOption, hkey]
      · simp [Except.toOption, hkey, Ne.symm hkey]

/-- A load keeps the last node of the archive that it takes over under a key. -/
theorem lookup_foldl_loadNode : (list.foldl (loadNode lower now) map).lookup key =
    (list.filter (loads lower now key)).getLast?.or (map.lookup key) := by
  induction list generalizing map with
  | nil => rfl
  | cons node list ih =>
    rw [List.foldl_cons, ih, lookup_loadNode, List.filter_cons]
    by_cases hloads : loads lower now key node = true
    · rw [if_pos hloads, if_pos hloads, List.getLast?_cons]
      cases (list.filter (loads lower now key)).getLast? <;> rfl
    · rw [if_neg hloads, if_neg hloads]

/-- The list of the nodes is in the order of their addresses. -/
theorem listNodes_sorted (nodes : Registry) :
    (listNodes nodes).Pairwise fun a b => a.address ≤ b.address := by
  have hsorted : (listNodes nodes).Pairwise fun a b => decide (a.address ≤ b.address) = true := by
    refine List.pairwise_mergeSort (fun a b c hab hbc => ?_) (fun a b => ?_) _
    · exact decide_eq_true (String.le_trans (of_decide_eq_true hab) (of_decide_eq_true hbc))
    · simpa using String.le_total a.address b.address
  exact hsorted.imp fun h => of_decide_eq_true h

/-- The last of an ordered list is not before any of it. -/
theorem le_getLast {last : CommunityNodeInfo}
    (hsorted : list.Pairwise fun a b => a.address ≤ b.address) (hlast : list.getLast? = some last)
    (hmem : node ∈ list) : node.address ≤ last.address := by
  obtain ⟨before, rfl⟩ := List.getLast?_eq_some_iff.1 hlast
  rcases List.mem_append.1 hmem with hmem | hmem
  · exact (List.pairwise_append.1 hsorted).2.2 node hmem last List.mem_cons_self
  · obtain rfl := List.mem_singleton.1 hmem
    exact String.le_refl _

/-- **What a load finds under a key.** From an archive of nodes under their addresses, of which one
is the key, a load has a node of this address under the key exactly if the key survives. -/
theorem lookup_load_iff (haddress : ∀ key node, nodes.lookup key = some node → node.address = key)
    (hkey : key ∈ nodes) :
    (∃ node, (loadCommunityNodesFromDisk lower (.nodes (listNodes nodes)) now).lookup key =
      some node ∧ node.address = key) ↔ SurvivesRestart lower nodes now key := by
  have hload : (loadCommunityNodesFromDisk lower (.nodes (listNodes nodes)) now).lookup key =
      ((listNodes nodes).filter (loads lower now key)).getLast? := by
    rw [loadCommunityNodesFromDisk, lookup_foldl_loadNode, AList.lookup_empty, Option.or_none]
  have hsorted := (listNodes_sorted nodes).filter (loads lower now key)
  have hmem : ∀ node, node ∈ (listNodes nodes).filter (loads lower now key) ↔
      nodes.lookup node.address = some node ∧
        normalizeCommunityNodeAddress lower node.address = .ok key ∧
        isCommunityNodeExpired node now = false := by
    intro node
    rw [List.mem_filter, mem_listNodes, loads_iff]
    refine and_congr_left fun _ => ⟨?_, fun h => ⟨_, h⟩⟩
    rintro ⟨key', hnode⟩
    rwa [haddress key' node hnode]
  rw [hload]
  constructor
  · rintro ⟨node, hlast, rfl⟩
    obtain ⟨hnode, hnormal, hfresh⟩ := (hmem node).1 (List.mem_of_getLast? hlast)
    refine ⟨fun node' hnode' => ?_, hnormal, fun key' node' hnode' hfresh' hnormal' => ?_⟩
    · cases hnode.symm.trans hnode'
      exact hfresh
    · obtain rfl := haddress key' node' hnode'
      exact le_getLast hsorted hlast ((hmem node').2 ⟨hnode', hnormal', hfresh'⟩)
  · intro hsurvives
    obtain ⟨own, hown⟩ := Option.isSome_iff_exists.1 (AList.lookup_isSome.2 hkey)
    obtain rfl := haddress key own hown
    have hownmem := (hmem own).2 ⟨hown, hsurvives.normal, hsurvives.fresh own hown⟩
    cases hlast : ((listNodes nodes).filter (loads lower now own.address)).getLast? with
    | none =>
      rw [List.getLast?_eq_none_iff.1 hlast] at hownmem
      cases hownmem
    | some node =>
      obtain ⟨hnode, hnormal, hfresh⟩ := (hmem node).1 (List.mem_of_getLast? hlast)
      have hle := hsurvives.last node.address node hnode hfresh hnormal
      exact ⟨node, rfl, String.le_antisymm hle (le_getLast hsorted hlast hownmem)⟩

/-! ## What was archived last -/

/-- A registered key was written back by a submission, since which it stayed. -/
theorem RegistryRun.registeredSince
    (h : RegistryRun lower capacity (.initial ∅ archive start) ts s) (hkey : key ∈ s.nodes) :
    Since (fun t => ∃ i a, WritesBack capacity i a t ∧ a.key = key) (fun t => key ∈ t.post.nodes)
      ts := by
  refine h.since (A := fun s => key ∈ s.nodes) ?_ ?_ hkey
  · rintro _ rfl h
    exact AList.notMem_empty key h
  · intro s act s' hr hstep hpost
    by_cases hpre : key ∈ s.nodes
    · exact .inr ⟨hpre, hpost⟩
    · obtain ⟨node, hnode⟩ := Option.isSome_iff_exists.1 (AList.lookup_isSome.2 hpost)
      obtain ⟨ts, hrun⟩ := hr
      obtain ⟨-, i, env, a, alreadyExists, latency, rfl, htask, rfl, hstore⟩ :=
        (step_cases hstep).writes.entered (AList.lookup_eq_none.2 hpre) hnode
          (RegistryRun.sound hrun)
      exact .inl ⟨i, a, ⟨env, alreadyExists, latency, rfl, htask, hstore⟩, rfl⟩

/-- The transition that found the registry as it was listed last. -/
theorem archivedNodes_eq {newer older : List (Transition State Action)}
    {u : Transition State Action} (hsplit : ts = newer ++ u :: older)
    (hlength : older.length = savedAt ts) :
    CommunityNodes.archivedNodes ts = u.pre.nodes := by
  have hget : (newer ++ u :: older).reverse[older.length]? = some u := by
    rw [List.reverse_append, List.reverse_cons, List.append_assoc,
      List.getElem?_append_right (Nat.le_of_eq List.length_reverse), List.length_reverse,
      Nat.sub_self]
    rfl
  unfold CommunityNodes.archivedNodes
  rw [← hlength, hsplit, hget]

/-- When nothing is in progress and all writes succeeded, the archive is the registry as it was
listed last, and that one had every node that is registered now. -/
theorem RegistryRun.archivedNodes
    (h : RegistryRun lower capacity (.initial ∅ archive start) ts s) (hwritten : AllWritten ts)
    (hquiet : s.Quiet) (hkey : key ∈ s.nodes) :
    s.archive = .nodes (listNodes (CommunityNodes.archivedNodes ts)) ∧
      key ∈ CommunityNodes.archivedNodes ts ∧ ∀ key node,
        (CommunityNodes.archivedNodes ts).lookup key = some node → node.address = key := by
  obtain ⟨later, t, earlier, rfl, ⟨i, a, hwrites, rfl⟩, hstay⟩ := RegistryRun.registeredSince h hkey
  obtain ⟨⟨result, hresult, -⟩, hbound⟩ :=
    RegistryRun.archives h hwrites fun t ht => hwritten t (List.mem_append_left _ ht)
  have hsaved : earlier.length < savedAt (later ++ t :: earlier) := by
    have hrest := hquiet i
    generalize s.tasks i = task at hrest hresult hbound
    cases task with
    | absent => cases hresult
    | done => exact hbound
    | _ => cases hrest
  obtain ⟨newer, u, mid, rfl, hlength, harchive, hlisted⟩ | ⟨v, hv, -, hpost⟩ :=
    RegistryRun.archivedSince h hwrites hsaved
  · have hsplit : newer ++ u :: mid ++ t :: earlier = newer ++ u :: (mid ++ t :: earlier) :=
      List.append_assoc ..
    rw [archivedNodes_eq hsplit hlength]
    refine ⟨harchive, hlisted, fun key node hnode => ?_⟩
    rw [hsplit] at h
    exact RegistryRun.address h.before nofun hnode
  · exact absurd (hstay v hv) hpost

/-- **What a restart keeps.** After a run from an empty registry in which every write of the archive
succeeded, when no submission or sweep is in progress: every node that is not expired at a time is
loaded again under its key at this time exactly if the keys of all these nodes survive. -/
theorem restart_keeps_iff (h : RegistryRun lower capacity (.initial ∅ archive start) ts s)
    (hwritten : AllWritten ts) (hquiet : s.Quiet) (now : Nat) :
    (∀ key node, s.nodes.lookup key = some node → isCommunityNodeExpired node now = false →
      ∃ node', (loadCommunityNodesFromDisk lower s.archive now).lookup key = some node' ∧
        node'.address = node.address) ↔
    ∀ key node, s.nodes.lookup key = some node → isCommunityNodeExpired node now = false →
      SurvivesRestart lower (CommunityNodes.archivedNodes ts) now key := by
  refine forall_congr' fun key => forall_congr' fun node => forall_congr' fun hnode =>
    forall_congr' fun _ => ?_
  obtain ⟨harchive, hkey, haddress⟩ :=
    RegistryRun.archivedNodes h hwritten hquiet (HashMap.mem_of_lookup hnode)
  rw [harchive, RegistryRun.address h nofun hnode]
  exact lookup_load_iff haddress hkey

end

/-! ## Recorded runs -/

/-- A task that no action moves stays as it is. -/
theorem recordedWritten_absent {acts : List Action} {s : State} (h : recordedWritten acts = some s)
    {i : Nat} (hacts : ∀ act ∈ acts, act.task ≠ some i) : s.tasks i = .absent := by
  have hkept : ∀ s₀ s : State, acts.foldlM
      (fun s act => if act.written then State.step id 200 s act else none) s₀ = some s →
      s.tasks i = s₀.tasks i := by
    clear h
    induction acts with
    | nil =>
      intro s₀ s h
      cases h
      rfl
    | cons act acts ih =>
      intro s₀ s h
      rw [List.foldlM_cons] at h
      obtain ⟨s₁, hstep, h⟩ := Option.bind_eq_some_iff.1 h
      rw [ih (fun act hact => hacts act (List.mem_cons_of_mem _ hact)) s₁ s h]
      split at hstep
      · exact (step_cases hstep).tasks_ne (hacts act List.mem_cons_self)
      · cases hstep
  exact hkept _ s h

/-- A node is submitted and archived. -/
def submitted : List Action := submitSteps 0 "tcp://a:1" 5 ++ persistSteps 0

/-- Twenty hours later a sweep finds it alive. -/
def sweptAlive : List Action :=
  submitted ++ [.tick (secs (20 * 60 * 60)), .sweep 1] ++ List.replicate 3 (.run 1 ⟨.alive 5, true⟩)

/-- Nothing is in progress after these runs, if their two tasks have returned. -/
theorem recordedWritten_quiet {acts : List Action} {s : State} (h : recordedWritten acts = some s)
    (hacts : ∀ act ∈ acts, act.task = none ∨ act.task = some 0 ∨ act.task = some 1)
    (hsubmitted : (s.tasks 0).atRest = true) (hswept : (s.tasks 1).atRest = true) : s.Quiet := by
  intro i
  by_cases h0 : i = 0
  · rw [h0]
    exact hsubmitted
  by_cases h1 : i = 1
  · rw [h1]
    exact hswept
  rw [recordedWritten_absent h fun act hact htask => ?_]
  · rfl
  · rcases hacts act hact with hnone | h | h
    · cases hnone.symm.trans htask
    · exact h0 (Option.some.inj (htask.symm.trans h))
    · exact h1 (Option.some.inj (htask.symm.trans h))

/-- **A restart drops a healthy node.** A node that was alive five hours ago is not loaded. -/
theorem restart_drops_node : ∃ ts s now,
    RegistryRun id 200 (.initial ∅ .unread 0) ts s ∧ AllWritten ts ∧ s.Quiet ∧ s.unixSecs ≤ now ∧
      ∃ key node, s.nodes.lookup key = some node ∧ isCommunityNodeExpired node now = false ∧
        (loadCommunityNodesFromDisk id s.archive now).lookup key = none := by
  have hrecorded : (recordedWritten sweptAlive).map (fun s =>
      ((s.tasks 0).atRest, (s.tasks 1).atRest, s.unixSecs,
        (s.nodes.lookup "tcp://a:1").map (isCommunityNodeExpired · (25 * 60 * 60)),
        ((loadCommunityNodesFromDisk id s.archive (25 * 60 * 60)).lookup "tcp://a:1").isNone)) =
      some (true, true, 20 * 60 * 60, some false, true) := by decide +kernel
  obtain ⟨s, hs, hrecorded⟩ := Option.map_eq_some_iff.1 hrecorded
  simp only [Prod.mk.injEq, Option.map_eq_some_iff, Option.isNone_iff_eq_none] at hrecorded
  obtain ⟨hsubmitted, hswept, hclock, ⟨node, hnode, hfresh⟩, hdropped⟩ := hrecorded
  obtain ⟨ts, hrun, hwritten⟩ := recordedWritten_run hs
  refine ⟨ts, s, 25 * 60 * 60, hrun, hwritten,
    recordedWritten_quiet hs (by decide +kernel) hsubmitted hswept, ?_,
    "tcp://a:1", node, hnode, hfresh, hdropped⟩
  rw [hclock]
  decide

/-- A node that was archived an hour ago is kept. -/
theorem restart_keeps_submitted : ∃ ts s,
    RegistryRun id 200 (.initial ∅ .unread 0) ts s ∧ AllWritten ts ∧ s.Quiet ∧
      s.nodes.keys = ["tcp://a:1"] ∧
      SurvivesRestart id (CommunityNodes.archivedNodes ts) (60 * 60) "tcp://a:1" := by
  have hrecorded : (recordedWritten submitted).map (fun s =>
      ((s.tasks 0).atRest, (s.tasks 1).atRest, s.nodes.keys,
        (s.nodes.lookup "tcp://a:1").map (isCommunityNodeExpired · (60 * 60)),
        ((loadCommunityNodesFromDisk id s.archive (60 * 60)).lookup "tcp://a:1").map (·.address))) =
      some (true, true, ["tcp://a:1"], some false, some "tcp://a:1") := by decide +kernel
  obtain ⟨s, hs, hrecorded⟩ := Option.map_eq_some_iff.1 hrecorded
  simp only [Prod.mk.injEq, Option.map_eq_some_iff] at hrecorded
  obtain ⟨hsubmitted, hswept, hkeys, ⟨node, hnode, hfresh⟩, node', hload, haddress⟩ := hrecorded
  obtain ⟨ts, hrun, hwritten⟩ := recordedWritten_run hs
  have hquiet := recordedWritten_quiet hs (by decide +kernel) hsubmitted hswept
  refine ⟨ts, s, hrun, hwritten, hquiet, hkeys,
    (restart_keeps_iff hrun hwritten hquiet (60 * 60)).1 ?_ _ node hnode hfresh⟩
  intro key other hother _
  have hkey : key ∈ s.nodes.keys := HashMap.mem_of_lookup hother
  rw [hkeys, List.mem_singleton] at hkey
  subst hkey
  exact ⟨node', hload, haddress.trans (RegistryRun.address hrun nofun hother).symm⟩

end MctierSignaling.CommunityNodes
