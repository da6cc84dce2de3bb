import MctierSignaling.Restart
import Mathlib.Data.List.DropRight

/-!
# The list of the shared nodes

`community_node_list` shows the registered nodes: those online first, then by their latency, then by
their name. A server may stop at any moment and start again from the archive as it is then, any
number of times, so what is shown comes from submissions of any of its lifetimes. In every one of
them the list is in order and within the bound, and what it shows of a node is fit to be shown
(`node_list_lasts`). The status that is shown is the outcome of a probe: the last one of the node
that was written back (`shown_status`).
-/

namespace MctierSignaling.CommunityNodes

/-- `latency_ms.unwrap_or(u64::MAX)`. -/
def latencyRank (node : CommunityNodeInfo) : Nat := node.latencyMs.getD (2 ^ 64 - 1)

/-- Reference: `community_node_list` (`community_nodes.rs:431-440`). -/
def communityNodeOrder (a b : CommunityNodeInfo) : Ordering :=
  (compare b.online a.online).then
    ((compare (latencyRank a) (latencyRank b)).then (compare a.name b.name))

/-- Reference: `community_node_list` (`community_nodes.rs:427`). -/
def communityNodeList (nodes : Registry) : List CommunityNodeInfo :=
  (nodes.entries.map (·.2)).mergeSort fun a b => (communityNodeOrder a b).isLE

/-! ## Lifetimes -/

/-- A server in one of its lifetimes: its state, and the capacity that it read when it started. -/
structure Life where
  state : State
  capacity : Nat

/-- What can happen to a server and its archive: a step, or a stop at any moment and a start with
the capacity and the clock that it then finds. -/
inductive LifeAction where
  | act (act : Action)
  | restart (capacity now : Nat)

section
variable (lower : List Char → List Char)

/-- A step of a server, or its next start. Reference: `main` (`main.rs:52-78`). -/
inductive LifeStep (life : Life) : LifeAction → Life → Prop
  | act {act : Action} {s' : State} : RegistryStep lower life.capacity life.state act s' →
      LifeStep life (.act act) { life with state := s' }
  | restart {capacity now : Nat} : LifeStep life (.restart capacity now)
      ⟨.initial (loadCommunityNodesFromDisk lower life.state.archive (now / secs 1))
        life.state.archive now, capacity⟩

/-- The first lifetime starts without an archive. -/
def Life.First (life : Life) : Prop := ∃ start, life.state = .initial ∅ .unread start

/-- The lifetimes of a server. -/
abbrev LifeRun (ts : List (Transition Life LifeAction)) (life : Life) : Prop :=
  Run Life.First (LifeStep lower) ts life

end

/-- The lifetime has no more capacity than this, and its clock is not past this second. -/
structure Life.Within (room clock : Nat) (life : Life) : Prop where
  capacity : life.capacity ≤ room
  unixSecs : life.state.unixSecs ≤ clock

/-! ## What may be shown -/

/-- A text of limited length that is not empty, holds no control character, and neither begins nor
ends with a blank. -/
structure Shown (maxLen : Nat) (text : String) : Prop where
  nonempty : text ≠ ""
  length : text.length ≤ maxLen
  printable : ∀ c ∈ text.toList, isControl c = false
  trimmed : trim text.toList = text.toList

/-- A node that may be shown at a time. -/
structure Presentable (lower : List Char → List Char) (clock : Nat) (node : CommunityNodeInfo) :
    Prop where
  name : Shown COMMUNITY_NODE_NAME_MAX_LEN node.name
  submitter : ∀ text ∈ node.submitter, Shown COMMUNITY_NODE_SUBMITTER_MAX_LEN text
  address : ∃ raw, normalizeCommunityNodeAddress lower raw = .ok node.address
  status : node.online = node.latencyMs.isSome
  submittedAt : node.submittedAt ≤ clock
  lastOkAt : node.lastOkAt ≤ clock

/-- The key of a node is its address, or the normal form of its address. -/
def Filed (lower : List Char → List Char) (key : String) (node : CommunityNodeInfo) : Prop :=
  node.address = key ∨ normalizeCommunityNodeAddress lower node.address = .ok key

/-- The texts and the address of a submission may be shown. -/
structure Accepted.Fit (lower : List Char → List Char) (a : Accepted) : Prop where
  name : Shown COMMUNITY_NODE_NAME_MAX_LEN a.name
  submitter : ∀ text ∈ a.submitter, Shown COMMUNITY_NODE_SUBMITTER_MAX_LEN text
  key : ∃ raw, normalizeCommunityNodeAddress lower raw = .ok a.key

/-- A list of nodes that may be archived. -/
def Archivable (lower : List Char → List Char) (room clock : Nat)
    (list : List CommunityNodeInfo) : Prop :=
  list.length ≤ room ∧ ∀ node ∈ list, Presentable lower clock node

/-- What holds over all lifetimes of a server with at most this capacity and this clock. -/
structure Lasting (lower : List Char → List Char) (room clock : Nat) (s : State) : Prop where
  sound : ∀ i, (s.tasks i).Sound s.unixSecs
  fit : ∀ i a, (s.tasks i).accepted = some a → a.Fit lower
  listed : ∀ i list, (s.tasks i).list = some list → Archivable lower room clock list
  size : s.nodes.keys.length ≤ room
  nodes : ∀ key node, s.nodes.lookup key = some node →
    Presentable lower clock node ∧ Filed lower key node
  archive : ∀ list, s.archive = .nodes list → Archivable lower room clock list

/-- One node is shown before another one: it is online unless the other one is not, it is not
slower, and at the same latency its name does not come later. -/
structure ShownBefore (a b : CommunityNodeInfo) : Prop where
  online : b.online = true → a.online = true
  latency : a.online = b.online → latencyRank a ≤ latencyRank b
  name : a.online = b.online → latencyRank a = latencyRank b → a.name ≤ b.name

/-! ## The order of the list -/

section
variable {a b c : CommunityNodeInfo}

theorem isLE_compareName {a b : String} : (compare a b).isLE = true ↔ a ≤ b :=
  isLE_compareOfLessAndEq String.le_antisymm String.not_le String.le_total

/-- The comparison is the order in which the nodes are shown. -/
theorem communityNodeOrder_isLE : (communityNodeOrder a b).isLE = true ↔ ShownBefore a b := by
  have honline : (compare b.online a.online = .lt ↔ b.online = false ∧ a.online = true) ∧
      (compare b.online a.online = .eq ↔ a.online = b.online) := by
    cases a.online <;> cases b.online <;> decide
  unfold communityNodeOrder
  rw [Ordering.isLE_then_iff_or, Ordering.isLE_then_iff_or, isLE_compareName, honline.1, honline.2,
    Nat.compare_eq_lt, Nat.compare_eq_eq]
  constructor
  · rintro (⟨hb, ha⟩ | ⟨heq, hrest⟩)
    · exact ⟨fun _ => ha, by simp [ha, hb], by simp [ha, hb]⟩
    · refine ⟨fun hb => heq.trans hb, fun _ => ?_, fun _ hrank => ?_⟩
      · exact hrest.elim Nat.le_of_lt fun h => Nat.le_of_eq h.1
      · exact (hrest.resolve_left (by omega)).2
  · intro h
    by_cases heq : a.online = b.online
    · refine .inr ⟨heq, ?_⟩
      rcases Nat.lt_or_eq_of_le (h.latency heq) with hlt | hrank
      · exact .inl hlt
      · exact .inr ⟨hrank, h.name heq hrank⟩
    · have honly := h.online
      exact .inl (by cases ha : a.online <;> cases hb : b.online <;> simp_all)

theorem ShownBefore.trans (hab : ShownBefore a b) (hbc : ShownBefore b c) : ShownBefore a c := by
  have hbetween (h : a.online = c.online) : a.online = b.online ∧ b.online = c.online := by
    have h1 := hab.online
    have h2 := hbc.online
    generalize a.online = x, b.online = y, c.online = z at *
    revert x y z
    decide
  constructor
  · exact fun h => hab.online (hbc.online h)
  · intro h
    obtain ⟨h1, h2⟩ := hbetween h
    exact Nat.le_trans (hab.latency h1) (hbc.latency h2)
  · intro h hrank
    obtain ⟨h1, h2⟩ := hbetween h
    have hle := hab.latency h1
    have hle' := hbc.latency h2
    exact String.le_trans (hab.name h1 (by omega)) (hbc.name h2 (by omega))

theorem ShownBefore.total (a b : CommunityNodeInfo) : ShownBefore a b ∨ ShownBefore b a := by
  by_cases honline : a.online = b.online
  · rcases Nat.lt_trichotomy (latencyRank a) (latencyRank b) with hlt | heq | hgt
    · exact .inl ⟨honline.trans, fun _ => Nat.le_of_lt hlt, fun _ h => by omega⟩
    · rcases String.le_total a.name b.name with hname | hname
      · exact .inl ⟨honline.trans, fun _ => Nat.le_of_eq heq, fun _ _ => hname⟩
      · exact .inr ⟨honline.symm.trans, fun _ => Nat.le_of_eq heq.symm, fun _ _ => hname⟩
    · exact .inr ⟨honline.symm.trans, fun _ => Nat.le_of_lt hgt, fun _ h => by omega⟩
  · -- the one that is online comes first
    cases ha : a.online with
    | true => exact .inl ⟨fun _ => ha, fun h => absurd h honline, fun h => absurd h honline⟩
    | false =>
      refine .inr ⟨fun h => ?_, fun h => absurd h.symm honline, fun h => absurd h.symm honline⟩
      rw [ha] at h
      cases h

/-- The list has the registered nodes, in the order in which they are shown. -/
theorem communityNodeList_sorted (nodes : Registry) :
    (communityNodeList nodes).Perm (nodes.entries.map (·.2)) ∧
      (communityNodeList nodes).Pairwise ShownBefore := by
  refine ⟨List.mergeSort_perm _ _, ?_⟩
  have hsorted : (communityNodeList nodes).Pairwise fun a b =>
      (communityNodeOrder a b).isLE = true := by
    refine List.pairwise_mergeSort (fun a b c hab hbc => ?_) (fun a b => ?_) _
    · exact communityNodeOrder_isLE.2
        ((communityNodeOrder_isLE.1 hab).trans (communityNodeOrder_isLE.1 hbc))
    · rw [Bool.or_eq_true, communityNodeOrder_isLE, communityNodeOrder_isLE]
      exact ShownBefore.total a b
  exact hsorted.imp communityNodeOrder_isLE.1

end

/-! ## Texts -/

/-- What is trimmed has nothing to trim. -/
theorem trim_trim (text : List Char) : trim (trim text) = trim text := by
  have hhead : (trim text).dropWhile isWhitespace = trim text := by
    obtain ⟨tail, htail⟩ : trim text <+: text.dropWhile isWhitespace := List.rdropWhile_prefix _ _
    cases htrim : trim text with
    | nil => rfl
    | cons c rest =>
      -- a trimmed text begins where the blanks before it end
      rw [htrim] at htail
      have hne : text.dropWhile isWhitespace ≠ [] := by
        rw [← htail]
        exact nofun
      have hc : isWhitespace c = false := by
        have hhead := List.head_dropWhile_not isWhitespace hne
        simpa only [← htail, List.cons_append, List.head_cons] using hhead
      exact List.dropWhile_cons_of_neg (by rw [hc]; exact nofun)
  calc trim (trim text) = ((trim text).dropWhile isWhitespace).rdropWhile isWhitespace := rfl
    _ = (trim text).rdropWhile isWhitespace := by rw [hhead]
    _ = trim text := List.rdropWhile_idempotent _ _

/-- What is left of a text may be shown, if something is left. -/
theorem sanitizeCommunityText_shown {raw : String} {maxLen : Nat}
    (h : sanitizeCommunityText raw maxLen ≠ "") :
    Shown maxLen (sanitizeCommunityText raw maxLen) := by
  have hsub : (sanitizeCommunityText raw maxLen).toList.Sublist
      (((trim raw.toList).filter (!isControl ·)).take maxLen) := by
    rw [sanitizeCommunityText, String.toList_ofList]
    exact (List.rdropWhile_prefix _ _).sublist.trans (List.dropWhile_sublist _)
  refine ⟨h, ?_, fun c hc => ?_, ?_⟩
  · rw [← String.length_toList]
    exact hsub.length_le.trans (List.length_take_le _ _)
  · have hmem := List.mem_of_mem_take (hsub.subset hc)
    simpa using (List.mem_filter.1 hmem).2
  · rw [sanitizeCommunityText, String.toList_ofList, trim_trim]

/-! ## What is fit to be shown stays fit -/

section
variable {lower : List Char → List Char} {capacity room clock : Nat} {s s' : State} {i : Nat}
  {act : Action} {now : Nat} {key : String} {node : CommunityNodeInfo} {a : Accepted}
  {nodes : Registry} {archive : Archive} {list : List CommunityNodeInfo} {life : Life}

/-- A submission that passes the checks has texts and an address to show. -/
theorem accept_fit {sub : Submission} (h : sub.accept lower now = .ok a) : a.Fit lower := by
  unfold Submission.accept at h
  cases hkey : normalizeCommunityNodeAddress lower sub.address with
  | error message =>
    rw [hkey] at h
    cases h
  | ok key =>
    rw [hkey] at h
    dsimp only [bind, Except.bind] at h
    split at h
    · cases h
    · next hname =>
      cases h
      refine ⟨sanitizeCommunityText_shown (by simpa using hname), fun text htext => ?_, _, hkey⟩
      obtain ⟨hmap, hne⟩ := Option.filter_eq_some_iff.1 htext
      obtain ⟨raw, -, rfl⟩ := Option.map_eq_some_iff.1 hmap
      exact sanitizeCommunityText_shown (by simpa using hne)

/-- A new entry. -/
theorem Accepted.Fit.presentable (h : a.Fit lower) (hnow : a.now ≤ clock) (latency : Nat) :
    Presentable lower clock (a.node latency) where
  name := h.name
  submitter := h.submitter
  address := h.key
  status := rfl
  submittedAt := hnow
  lastOkAt := hnow

/-- An entry that is submitted again. -/
theorem Presentable.refresh (h : Presentable lower clock node) (ha : a.Fit lower)
    (hnow : a.now ≤ clock) (latency : Nat) : Presentable lower clock (a.refresh node latency) where
  name := ha.name
  submitter := by
    dsimp only [Accepted.refresh]
    split
    · exact ha.submitter
    · exact h.submitter
  address := h.address
  status := rfl
  submittedAt := h.submittedAt
  lastOkAt := hnow

/-- An entry that was probed. -/
theorem Presentable.mark (h : Presentable lower clock node) (hnow : now ≤ clock)
    (outcome : ProbeOutcome) : Presentable lower clock (outcome.mark node now) := by
  cases outcome with
  | alive ms => exact { h with status := rfl, lastOkAt := hnow }
  | dead | blocked => exact { h with status := rfl }
  | busy => exact h

theorem Filed.mark (h : Filed lower key node) (outcome : ProbeOutcome) :
    Filed lower key (outcome.mark node now) := by
  unfold Filed
  rw [mark_eq]
  exact h

/-- A write-back leaves what may be shown. -/
theorem Writes.presentable (h : Writes capacity s act nodes) (hl : Lasting lower room clock s)
    (hclock : s.unixSecs ≤ clock) (hnode : nodes.lookup key = some node) :
    Presentable lower clock node ∧ Filed lower key node := by
  cases h with
  | kept => exact hl.nodes key node hnode
  | @stored i _ a _ latency _ _ htask hstore =>
    obtain ⟨rfl, hcase⟩ := store_cases hstore
    rw [HashMap.lookup_insert_ite] at hnode
    split at hnode
    · next hkey =>
      subst hkey
      cases hnode
      have hfit := hl.fit i a (by rw [htask]; rfl)
      have hnow : a.now ≤ clock := by
        have hsound := hl.sound i
        rw [htask] at hsound
        exact Nat.le_trans hsound hclock
      obtain ⟨existing, hexisting, rfl⟩ | ⟨-, -, rfl⟩ := hcase
      · obtain ⟨hpres, hfiled⟩ := hl.nodes a.key existing hexisting
        exact ⟨hpres.refresh hfit hnow latency, hfiled⟩
      · exact ⟨hfit.presentable hnow latency, .inl rfl⟩
    · exact hl.nodes key node hnode
  | @swept i _ _ results now htask =>
    have hsound := hl.sound i
    rw [htask] at hsound
    obtain ⟨mark, hlookup, hmark⟩ := sweepStore_lookup s i now key (hsound.nodup rfl)
    rw [hlookup] at hnode
    obtain ⟨hmap, -⟩ := Option.filter_eq_some_iff.1 hnode
    obtain ⟨before, hbefore, rfl⟩ := Option.map_eq_some_iff.1 hmap
    obtain ⟨hpres, hfiled⟩ := hl.nodes key before hbefore
    obtain ⟨-, rfl⟩ | ⟨outcome, -, rfl⟩ := hmark
    · exact ⟨hpres, hfiled⟩
    · exact ⟨hpres.mark (Nat.le_trans hsound.2.2 hclock) outcome, hfiled.mark outcome⟩

/-- The submission of a task is one that it had, or one that passes the checks. -/
theorem Stepped.accepted_cases (h : Stepped lower capacity s act s')
    (ha : (s'.tasks i).accepted = some a) : (s.tasks i).accepted = some a ∨
      ∃ sub : Submission, sub.accept lower s.unixSecs = .ok a := by
  by_cases hi : act.task = some i
  · cases h with
    | tick => cases hi
    | accepted _ haccept =>
      cases hi
      rw [State.setTask_self] at ha
      cases ha
      exact .inr ⟨_, haccept⟩
    | moved hmoves =>
      cases hi
      rw [State.setTask_self] at ha
      generalize s.tasks i = task at hmoves
      cases hmoves with
      | turnedDown | probed | clocked => cases ha
      | _ => exact .inl ha
    | @swept _ _ _ results now =>
      cases hi
      obtain ⟨_, _, htask | htask⟩ := s.sweepStore_task i results now <;> rw [htask] at ha <;>
        cases ha
    | _ => cases hi; rw [State.setTask_self] at ha; cases ha
  · exact .inl (h.tasks_ne hi ▸ ha)

/-- The list of a task is one that it had, or lists the registry. -/
theorem Stepped.list_cases (h : Stepped lower capacity s act s')
    (hlist : (s'.tasks i).list = some list) :
    (s.tasks i).list = some list ∨ list = listNodes s.nodes := by
  by_cases hi : act.task = some i
  · cases h with
    | tick => cases hi
    | listed =>
      cases hi
      rw [State.setTask_self] at hlist
      cases hlist
      exact .inr rfl
    | opened htask =>
      cases hi
      rw [State.setTask_self] at hlist
      exact .inl (by rw [htask]; exact hlist)
    | moved hmoves =>
      cases hi
      rw [State.setTask_self] at hlist
      generalize s.tasks i = task at hmoves
      cases hmoves <;> cases hlist
    | @swept _ _ _ results now =>
      cases hi
      obtain ⟨_, _, htask | htask⟩ := s.sweepStore_task i results now <;> rw [htask] at hlist <;>
        cases hlist
    | _ => cases hi; rw [State.setTask_self] at hlist; cases hlist
  · exact .inl (h.tasks_ne hi ▸ hlist)

/-- The archive stays, or is the list of a task. -/
theorem Stepped.archive_cases (h : Stepped lower capacity s act s') :
    s'.archive = s.archive ∨
      ∃ i list, (s.tasks i).list = some list ∧ s'.archive = .nodes list := by
  cases h with
  | @written i env list _ _ htask =>
    dsimp only [State.setTask_archive]
    split
    · exact .inr ⟨i, list, by rw [htask]; rfl, rfl⟩
    · exact .inl rfl
  | _ => exact .inl rfl

theorem listNodes_archivable (hsize : nodes.keys.length ≤ room)
    (hnodes : ∀ key node, nodes.lookup key = some node → Presentable lower clock node) :
    Archivable lower room clock (listNodes nodes) := by
  refine ⟨?_, fun node hnode => ?_⟩
  · rw [listNodes, List.length_mergeSort, List.length_map]
    rwa [AList.keys, List.keys, List.length_map] at hsize
  · obtain ⟨key, hkey⟩ := mem_listNodes.1 hnode
    exact hnodes key node hkey

/-- What may be shown lasts over a step. -/
theorem Stepped.lasting (h : Stepped lower capacity s act s') (hl : Lasting lower room clock s)
    (hroom : capacity ≤ room) (hclock : s.unixSecs ≤ clock) : Lasting lower room clock s' where
  sound := h.sound hl.sound
  fit i a ha := by
    rcases h.accepted_cases ha with ha | ⟨sub, hsub⟩
    · exact hl.fit i a ha
    · exact accept_fit hsub
  listed i list hlist := by
    rcases h.list_cases hlist with hlist | rfl
    · exact hl.listed i list hlist
    · exact listNodes_archivable hl.size fun key node hnode => (hl.nodes key node hnode).1
  size := h.writes.length_le hroom hl.size
  nodes key node hnode := h.writes.presentable hl hclock hnode
  archive list hlist := by
    rcases h.archive_cases with hsame | ⟨i, list', htask, hpost⟩
    · exact hl.archive list (hsame ▸ hlist)
    · cases hpost.symm.trans hlist
      exact hl.listed i list htask

/-- A load adds at most one entry for each node of the archive. -/
theorem length_foldl_loadNode : (list.foldl (loadNode lower now) nodes).keys.length ≤
    nodes.keys.length + list.length := by
  induction list generalizing nodes with
  | nil => exact Nat.le_refl _
  | cons node list ih =>
    have hone : (loadNode lower now nodes node).keys.length ≤ nodes.keys.length + 1 := by
      unfold loadNode
      split
      · omega
      · split
        · omega
        · exact HashMap.length_insert_le
    have hrest : (list.foldl (loadNode lower now) (loadNode lower now nodes node)).keys.length ≤
        (loadNode lower now nodes node).keys.length + list.length := ih
    rw [List.foldl_cons, List.length_cons]
    omega

/-- What is loaded of an archive may be shown. -/
theorem load_presentable
    (harchive : ∀ list, archive = .nodes list → Archivable lower room clock list) :
    (loadCommunityNodesFromDisk lower archive now).keys.length ≤ room ∧
      ∀ key node, (loadCommunityNodesFromDisk lower archive now).lookup key = some node →
        Presentable lower clock node ∧ Filed lower key node := by
  cases archive with
  | unread | malformed => exact ⟨Nat.zero_le _, nofun⟩
  | nodes list =>
    obtain ⟨hsize, hnodes⟩ := harchive list rfl
    refine ⟨Nat.le_trans length_foldl_loadNode ?_, fun key node hnode => ?_⟩
    · rw [AList.keys_empty, List.length_nil, Nat.zero_add]
      exact hsize
    · rw [loadCommunityNodesFromDisk, lookup_foldl_loadNode, AList.lookup_empty,
        Option.or_none] at hnode
      obtain ⟨hmem, hloads⟩ := List.mem_filter.1 (List.mem_of_getLast? hnode)
      exact ⟨hnodes node hmem, .inr (loads_iff.1 hloads).1⟩

/-- What may be shown lasts over a restart. -/
theorem Lasting.restart (hl : Lasting lower room clock s) (now : Nat) : Lasting lower room clock
    (.initial (loadCommunityNodesFromDisk lower s.archive (now / secs 1)) s.archive now) :=
  ⟨fun _ => trivial, nofun, nofun, (load_presentable hl.archive).1, (load_presentable hl.archive).2,
    hl.archive⟩

/-- What may be shown lasts over all lifetimes. -/
theorem LifeRun.lasting {ts : List (Transition Life LifeAction)} (h : LifeRun lower ts life)
    (hts : ∀ t ∈ ts, t.pre.Within room clock) : Lasting lower room clock life.state := by
  induction h with
  | start h =>
    obtain ⟨start, hstate⟩ := h
    rw [hstate]
    exact ⟨fun _ => trivial, nofun, nofun, Nat.zero_le _, nofun, nofun⟩
  | snoc hr hstep ih =>
    have hl := ih fun t ht => hts t (List.mem_cons_of_mem _ ht)
    have hwithin := hts _ List.mem_cons_self
    cases hstep with
    | act hstep => exact (step_cases hstep).lasting hl hwithin.capacity hwithin.unixSecs
    | restart => exact hl.restart _

/-! ## The list over all lifetimes -/

/-- An address that is its own normal form is that of one node at most. -/
theorem Lasting.count_address (hl : Lasting lower room clock s) {address : String}
    (hnormal : normalizeCommunityNodeAddress lower address = .ok address) :
    (s.nodes.entries.map (·.2)).countP (·.address = address) ≤ 1 := by
  rw [List.countP_map]
  calc s.nodes.entries.countP _ ≤ s.nodes.entries.countP (·.1 = address) := ?_
    _ = s.nodes.keys.count address := ?_
    _ ≤ 1 := List.nodup_iff_count_le_one.1 s.nodes.keys_nodup address
  · refine List.countP_mono_left fun e he haddress => ?_
    have haddress : e.2.address = address := by simpa using haddress
    obtain hkey | hkey := (hl.nodes e.1 e.2 (HashMap.mem_entries.1 he)).2
    · exact decide_eq_true (hkey.symm.trans haddress)
    · rw [haddress, hnormal] at hkey
      exact decide_eq_true (Except.ok.inj hkey).symm
  · rw [List.count, AList.keys, List.keys, List.countP_map]
    refine List.countP_congr fun e _ => ?_
    simp

/-- **The list of the shared nodes.** However often the server stopped and started again, with
whatever capacity and clock, and whatever submissions and sweeps it was in: the list has the
registered nodes, no more than the largest of the capacities, in the order in which they are shown;
what it has of each may be shown, with times that the clock has reached in some lifetime; and an
address that is its own normal form is listed once at most. -/
theorem node_list_lasts {ts : List (Transition Life LifeAction)} (h : LifeRun lower ts life)
    (hts : ∀ t ∈ ts, t.pre.Within room clock) :
    (communityNodeList life.state.nodes).Perm (life.state.nodes.entries.map (·.2)) ∧
    (communityNodeList life.state.nodes).length ≤ room ∧
    (communityNodeList life.state.nodes).Pairwise ShownBefore ∧
    (∀ node ∈ communityNodeList life.state.nodes, Presentable lower clock node) ∧
    ∀ address, normalizeCommunityNodeAddress lower address = .ok address →
      (communityNodeList life.state.nodes).countP (·.address = address) ≤ 1 := by
  have hl := LifeRun.lasting h hts
  obtain ⟨hperm, hsorted⟩ := communityNodeList_sorted life.state.nodes
  refine ⟨hperm, ?_, hsorted, fun node hnode => ?_, fun address hnormal => ?_⟩
  · rw [hperm.length_eq, List.length_map]
    have hsize := hl.size
    rwa [AList.keys, List.keys, List.length_map] at hsize
  · obtain ⟨e, he, rfl⟩ := List.mem_map.1 (hperm.mem_iff.1 hnode)
    exact (hl.nodes e.1 e.2 (HashMap.mem_entries.1 he)).1
  · rw [hperm.countP_eq]
    exact hl.count_address hnormal

/-- A run of one lifetime is one of the lifetimes, in all of which the capacity is the same and the
clock does not go back. -/
theorem RegistryRun.lifetime {start : Nat} {ts : List (Transition State Action)}
    (h : RegistryRun lower capacity (.initial ∅ .unread start) ts s) :
    ∃ us, LifeRun lower us ⟨s, capacity⟩ ∧ ∀ t ∈ us, t.pre.Within capacity s.unixSecs := by
  induction h with
  | start h => exact ⟨[], .start ⟨start, h⟩, nofun⟩
  | @snoc ts s s' act _ hstep ih =>
    obtain ⟨us, hus, hwithin⟩ := ih
    have hle := (step_cases hstep).unixSecs_le
    refine ⟨_, hus.snoc (.act hstep), fun t ht => ?_⟩
    rcases List.mem_cons.1 ht with rfl | ht
    · exact ⟨le_rfl, hle⟩
    · exact ⟨(hwithin t ht).capacity, (hwithin t ht).unixSecs.trans hle⟩

end

/-- A node that was submitted is listed after a restart without any capacity, with the clock set
back. -/
theorem node_list_lasts_restarted : ∃ us life, LifeRun id us life ∧ life.capacity = 0 ∧
    (communityNodeList life.state.nodes).map (·.address) = ["tcp://a:1"] ∧
    (communityNodeList life.state.nodes).length ≤ 200 ∧
    ∀ node ∈ communityNodeList life.state.nodes, node.name.length ≤ 32 := by
  have hrecorded : (recordedWritten submitted).map (fun s =>
      (communityNodeList (loadCommunityNodesFromDisk id s.archive (0 / secs 1))).map
        (·.address)) = some ["tcp://a:1"] := by decide +kernel
  obtain ⟨s, hs, hlist⟩ := Option.map_eq_some_iff.1 hrecorded
  obtain ⟨ts, hrun, -⟩ := recordedWritten_run hs
  obtain ⟨us, hlife, hwithin⟩ := RegistryRun.lifetime hrun
  have hrestarted := hlife.snoc (LifeStep.restart : LifeStep id ⟨s, 200⟩ (.restart 0 0) _)
  obtain ⟨-, hsize, -, hshown, -⟩ := node_list_lasts hrestarted
    (List.forall_mem_cons.2 ⟨⟨le_rfl, le_rfl⟩, hwithin⟩)
  exact ⟨_, _, hrestarted, rfl, hlist, hsize, fun node hnode => (hshown node hnode).name.length⟩

/-! ## The status that is shown -/

/-- The latency that a probe found, if it found the node alive. -/
def ProbeOutcome.latency : ProbeOutcome → Option Nat
  | .alive ms => some ms
  | _ => none

/-- The key that a task probes next. -/
def Task.target : Task → Option String
  | .probe a _ => some a.key
  | .sweepProbe targets results => targets[results.length]?
  | _ => none

/-- A task holds the outcome of a probe of a key. -/
def Task.Found (key : String) (outcome : ProbeOutcome) : Task → Prop
  | .store a _ latency => a.key = key ∧ outcome = .alive latency
  | .sweepProbe _ results | .sweepStore _ results _ => (key, outcome) ∈ results
  | _ => False

/-- A task probes a key, with this outcome. -/
def Probes (i : Nat) (key : String) (outcome : ProbeOutcome) (t : Transition State Action) : Prop :=
  ∃ env, t.act = .run i env ∧ env.outcome = outcome ∧ (t.pre.tasks i).target = some key

/-- A task writes back the outcome of a probe of a registered key, or registers the key with it. A
probe that waited in vain has no outcome to write. -/
def Reports (capacity i : Nat) (key : String) (outcome : ProbeOutcome)
    (t : Transition State Action) : Prop :=
  outcome ≠ .busy ∧ ∃ env, t.act = .run i env ∧
    ((∃ a alreadyExists latency, t.pre.tasks i = .store a alreadyExists latency ∧ a.key = key ∧
        outcome = .alive latency ∧ (a.store capacity t.pre.nodes latency).isSome) ∨
      ∃ targets results now, t.pre.tasks i = .sweepStore targets results now ∧
        (key, outcome) ∈ results ∧ key ∈ t.pre.nodes)

/-- The entry shows an outcome. -/
def ShowsOutcome (node : CommunityNodeInfo) (outcome : ProbeOutcome) : Prop :=
  node.online = outcome.latency.isSome ∧ node.latencyMs = outcome.latency

section
variable {lower : List Char → List Char} {capacity : Nat} {s s' : State} {i : Nat} {act : Action}
  {nodes : Registry} {archive : Archive} {now : Nat} {key : String} {outcome : ProbeOutcome}
  {node node' : CommunityNodeInfo} {t : Transition State Action}
  {ts : List (Transition State Action)}

/-- A task comes to hold an outcome by its probe. -/
theorem Stepped.found (h : Stepped lower capacity s act s')
    (hpost : (s'.tasks i).Found key outcome) :
    Probes i key outcome ⟨s, act, s'⟩ ∨ (s.tasks i).Found key outcome := by
  by_cases hi : act.task = some i
  · cases h with
    | tick => cases hi
    | started =>
      cases hi
      rw [State.setTask_self] at hpost
      cases hpost
    | @moved _ env _ _ _ hmoves =>
      cases hi
      rw [State.setTask_self] at hpost
      have hprobes {post : State} (htarget : (s.tasks i).target = some key)
          (hout : env.outcome = outcome) : Probes i key outcome ⟨s, .run i env, post⟩ :=
        ⟨env, rfl, hout, htarget⟩
      generalize s.tasks i = task at hmoves hprobes
      cases hmoves with
      | alive hout =>
        obtain ⟨rfl, rfl⟩ := hpost
        exact .inl (hprobes rfl hout)
      | probed htarget =>
        rcases List.mem_append.1 hpost with hmem | hmem
        · exact .inr hmem
        · obtain ⟨rfl, rfl⟩ := Prod.mk.inj (List.mem_singleton.1 hmem)
          exact .inl (hprobes htarget rfl)
      | clocked => exact .inr hpost
      | _ => cases hpost
    | @swept _ _ _ results now =>
      cases hi
      obtain ⟨_, _, htask | htask⟩ := s.sweepStore_task i results now <;> rw [htask] at hpost <;>
        cases hpost
    | _ => cases hi; rw [State.setTask_self] at hpost; cases hpost
  · exact .inr (h.tasks_ne hi ▸ hpost)

/-- An outcome that is written back was found by a probe of the same task. -/
theorem Reports.probed (h : Reports capacity i key outcome t)
    (hrun : RegistryRun lower capacity (.initial nodes archive now) ts t.pre) :
    ∃ u ∈ ts, Probes i key outcome u := by
  have hfound : (t.pre.tasks i).Found key outcome := by
    obtain ⟨-, env, -, ⟨a, _, latency, htask, hkey, hout, -⟩ | ⟨_, _, _, htask, hmem, -⟩⟩ := h
    · rw [htask]
      exact ⟨hkey, hout⟩
    · rw [htask]
      exact hmem
  refine hrun.arose (A := fun s => (s.tasks i).Found key outcome) ?_ ?_ hfound
  · rintro _ rfl h
    cases h
  · exact fun s act s' hstep hpost => (step_cases hstep).found hpost

/-- The entry shows an outcome that was just written back. -/
theorem Reports.shows (h : Reports capacity i key outcome ⟨s, act, s'⟩)
    (hstep : RegistryStep lower capacity s act s') (hsound : ∀ i, (s.tasks i).Sound s.unixSecs)
    (hnode : s'.nodes.lookup key = some node) : ShowsOutcome node outcome := by
  obtain ⟨hbusy, env, rfl, ⟨a, alreadyExists, latency, htask, rfl, rfl, hstore⟩ |
    ⟨targets, results, now, htask, hmem, hkey⟩⟩ := h
  · dsimp only at htask hstore
    obtain ⟨⟨nodes', node'⟩, hstore⟩ := Option.isSome_iff_exists.1 hstore
    rw [RegistryStep.stored hstep htask, State.store, hstore] at hnode
    obtain ⟨rfl, hcase⟩ := store_cases hstore
    rw [State.setTask_nodes, HashMap.lookup_insert_ite, if_pos rfl] at hnode
    cases hnode
    obtain ⟨_, -, rfl⟩ | ⟨-, -, rfl⟩ := hcase <;> exact ⟨rfl, rfl⟩
  · dsimp only at htask hkey
    rw [RegistryStep.swept hstep htask] at hnode
    have hnodup := (hsound i).nodup htask
    obtain ⟨mark, hlookup, ⟨hnot, -⟩ | ⟨outcome', hmem', rfl⟩⟩ :=
      sweepStore_lookup s i now key hnodup
    · exact absurd (List.mem_map.2 ⟨_, hmem, rfl⟩) hnot
    · cases outcome_unique hnodup hmem hmem'
      rw [hlookup] at hnode
      obtain ⟨hmap, -⟩ := Option.filter_eq_some_iff.1 hnode
      obtain ⟨before, -, rfl⟩ := Option.map_eq_some_iff.1 hmap
      cases outcome with
      | alive | dead | blocked => exact ⟨rfl, rfl⟩
      | busy => exact absurd rfl hbusy

/-- The status of an entry stays while no outcome is written back. -/
theorem Stepped.status (h : Stepped lower capacity s act s')
    (hsound : ∀ i, (s.tasks i).Sound s.unixSecs)
    (hnone : ∀ i outcome, ¬ Reports capacity i key outcome ⟨s, act, s'⟩)
    (hpost : s'.nodes.lookup key = some node') : ∃ node, s.nodes.lookup key = some node ∧
      node'.online = node.online ∧ node'.latencyMs = node.latencyMs := by
  have hwrites := h.writes
  generalize s'.nodes = nodes' at hwrites hpost
  cases hwrites with
  | kept => exact ⟨node', hpost, rfl, rfl⟩
  | @stored i env a alreadyExists latency _ _ htask hstore =>
    obtain ⟨rfl, -⟩ := store_cases hstore
    rw [HashMap.lookup_insert_ite] at hpost
    split at hpost
    · next hkey =>
      refine absurd ⟨nofun, env, rfl, .inl ⟨a, alreadyExists, latency, htask, hkey.symm, rfl, ?_⟩⟩
        (hnone i (.alive latency))
      rw [hstore]
      rfl
    · exact ⟨node', hpost, rfl, rfl⟩
  | @swept i env targets results now htask =>
    obtain ⟨mark, hlookup, hmark⟩ := sweepStore_lookup s i now key ((hsound i).nodup htask)
    rw [hlookup] at hpost
    obtain ⟨hmap, -⟩ := Option.filter_eq_some_iff.1 hpost
    obtain ⟨node, hnode, rfl⟩ := Option.map_eq_some_iff.1 hmap
    obtain ⟨-, rfl⟩ | ⟨outcome, hmem, rfl⟩ := hmark
    · exact ⟨node, hnode, rfl, rfl⟩
    · by_cases hbusy : outcome = .busy
      · subst hbusy
        exact ⟨node, hnode, rfl, rfl⟩
      · exact absurd ⟨hbusy, env, rfl, .inr ⟨targets, results, now, htask, hmem,
          HashMap.mem_of_lookup hnode⟩⟩ (hnone i outcome)

/-- **What the status says.** In every run of a server, the status that is shown of a node is the
outcome of a probe of its key, of which no later one was written back; or it is the one that was
loaded, and none was written back at all. -/
theorem shown_status (h : RegistryRun lower capacity (.initial nodes archive now) ts s)
    (hnode : s.nodes.lookup key = some node) :
    (∃ i outcome later t earlier, ts = later ++ t :: earlier ∧ Reports capacity i key outcome t ∧
      ShowsOutcome node outcome ∧ (∃ u ∈ earlier, Probes i key outcome u) ∧
      ∀ u ∈ later, ∀ j outcome', ¬ Reports capacity j key outcome' u) ∨
    ∃ loaded, nodes.lookup key = some loaded ∧ node.online = loaded.online ∧
      node.latencyMs = loaded.latencyMs ∧
      ∀ u ∈ ts, ∀ j outcome', ¬ Reports capacity j key outcome' u := by
  induction h generalizing node with
  | start hinit =>
    subst hinit
    exact .inr ⟨node, hnode, rfl, rfl, nofun⟩
  | @snoc ts s s' act hrun hstep ih =>
    have hsound := RegistryRun.sound hrun
    by_cases hreports : ∃ i outcome, Reports capacity i key outcome ⟨s, act, s'⟩
    · obtain ⟨i, outcome, hreports⟩ := hreports
      exact .inl ⟨i, outcome, [], _, ts, rfl, hreports, hreports.shows hstep hsound hnode,
        hreports.probed hrun, nofun⟩
    · have hnone : ∀ j outcome', ¬ Reports capacity j key outcome' ⟨s, act, s'⟩ :=
        fun j outcome' hreports' => hreports ⟨j, outcome', hreports'⟩
      obtain ⟨before, hbefore, honline, hlatency⟩ := (step_cases hstep).status hsound hnone hnode
      rcases ih hbefore with ⟨i, outcome, later, t, earlier, rfl, ht, hshows, hprobed, hlater⟩ |
        ⟨loaded, hloaded, honline', hlatency', hall⟩
      · refine .inl ⟨i, outcome, _ :: later, t, earlier, rfl, ht, ?_, hprobed,
          List.forall_mem_cons.2 ⟨hnone, hlater⟩⟩
        exact ⟨honline.trans hshows.1, hlatency.trans hshows.2⟩
      · exact .inr ⟨loaded, hloaded, honline.trans honline', hlatency.trans hlatency',
          List.forall_mem_cons.2 ⟨hnone, hall⟩⟩

end

/-- A node that was submitted shows the outcome of its probe. -/
theorem shown_status_submitted : ∃ ts s node,
    RegistryRun id 200 (.initial ∅ .unread 0) ts s ∧ s.nodes.lookup "tcp://a:1" = some node ∧
      ∃ i, ∃ u ∈ ts, Probes i "tcp://a:1" (.alive 5) u := by
  have hrecorded : (recorded (submitSteps 0 "tcp://a:1" 5)).map (fun s =>
      (s.nodes.lookup "tcp://a:1").map (·.latencyMs)) = some (some (some 5)) := by decide +kernel
  obtain ⟨s, hs, hrecorded⟩ := Option.map_eq_some_iff.1 hrecorded
  obtain ⟨node, hnode, hlatency⟩ := Option.map_eq_some_iff.1 hrecorded
  obtain ⟨ts, h⟩ := recorded_run hs
  refine ⟨ts, s, node, h, hnode, ?_⟩
  obtain ⟨i, outcome, later, t, earlier, rfl, -, hshows, ⟨u, hu, hprobes⟩, -⟩ | ⟨_, hloaded, -⟩ :=
    shown_status h hnode
  · have hout := hshows.2.symm.trans hlatency
    cases outcome with
    | alive ms =>
      cases hout
      exact ⟨i, u, List.mem_append_right _ (List.mem_cons_of_mem _ hu), hprobes⟩
    | dead | blocked | busy => cases hout
  · cases hloaded

end MctierSignaling.CommunityNodes
