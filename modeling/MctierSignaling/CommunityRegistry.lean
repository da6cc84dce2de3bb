import MctierSignaling.CommunityNode
import MctierSignaling.Lib.HashMap
import MctierSignaling.Lib.Transition

/-!
# The registry of community nodes

Submissions and sweeps of `community_nodes.rs`, interleaved in any order. A task holds the lock of
what it reads or writes for one step only, and its probes run outside of all of them: a submission
charges the quota and the cooldown of its source, looks for the node, counts, probes, and writes
back; a sweep reads all keys, probes them one after the other, reads the clock and writes back. Both
then write the archive, under a lock that is held from the snapshot to the rename.

`task_cases` says once what a step of a task can do.
-/

namespace MctierSignaling.CommunityNodes

def COMMUNITY_NODE_SUBMIT_WINDOW_SECS : Nat := 10 * 60
def COMMUNITY_NODE_SUBMIT_MAX_PER_WINDOW : Nat := 8
def COMMUNITY_NODE_SUBMIT_COOLDOWN_SECS : Nat := 30
def MAX_TRACKED_IP_SUBMITTERS : Nat := 8192

/-- The registered nodes, by normalized address. -/
abbrev Registry := HashMap String CommunityNodeInfo

/-! ## Quotas and cooldowns -/

/-- Reference: `SubmitQuota` (`state.rs:62`). -/
structure SubmitQuota where
  windowStarted : Nat
  submissions : Nat

/-- Reference: `allow_submit_quota` (`state.rs:67`). -/
def allowSubmitQuota (quota : SubmitQuota) (now : Nat) : SubmitQuota × Bool :=
  let quota := if now - quota.windowStarted ≥ secs COMMUNITY_NODE_SUBMIT_WINDOW_SECS then
    ⟨now, 0⟩ else quota
  if quota.submissions ≥ COMMUNITY_NODE_SUBMIT_MAX_PER_WINDOW then (quota, false)
  else ({ quota with submissions := quota.submissions + 1 }, true)

/-- Charges a submission to the quota of its source, or says why not. Reference:
`handle_community_node_submit_with_limits` (`community_nodes.rs:613-629`). -/
def chargeQuota (quotas : HashMap IpAddr SubmitQuota) (peer : IpAddr) (now : Nat) :
    HashMap IpAddr SubmitQuota × Option String :=
  let quotas := HashMap.retain (fun _ quota =>
    if now - quota.windowStarted < secs (COMMUNITY_NODE_SUBMIT_WINDOW_SECS * 2) then some quota
    else none) quotas
  if (quotas.lookup peer).isNone ∧ quotas.keys.length ≥ MAX_TRACKED_IP_SUBMITTERS then
    (quotas, some "投稿来源过多，请稍后再试")
  else
    let (quota, allowed) := allowSubmitQuota ((quotas.lookup peer).getD ⟨now, 0⟩) now
    (quotas.insert peer quota,
      if allowed then none else some "该来源的投稿配额已用尽，请稍后再试")

/-- Starts the cooldown of a source, or says how long it still lasts. Reference:
`handle_community_node_submit_with_limits` (`community_nodes.rs:632-641`). -/
def startCooldown (cooldowns : HashMap IpAddr Nat) (peer : IpAddr) (now : Nat) :
    HashMap IpAddr Nat × Option String :=
  let cooldowns := HashMap.retain (fun _ at_ =>
    if now - at_ ≤ COMMUNITY_NODE_SUBMIT_COOLDOWN_SECS then some at_ else none) cooldowns
  match cooldowns.lookup peer with
  | some last =>
    let wait := COMMUNITY_NODE_SUBMIT_COOLDOWN_SECS - (now - last)
    (cooldowns, some ("投稿过于频繁，请 " ++ toString (max wait 1) ++ " 秒后再试"))
  | none => (cooldowns.insert peer now, none)

/-! ## Submissions -/

/-- A submission, as a client sends it, with the address of the client. -/
structure Submission where
  peer : IpAddr
  name : String
  address : String
  submitter : Option String

/-- A submission that is well formed: the source it is charged to, the normalized address, the texts
to show, and the Unix second at which it was read. -/
structure Accepted where
  peer : IpAddr
  key : String
  name : String
  submitter : Option String
  now : Nat

/-- `CommunityNodeSubmitResult`. -/
structure SubmitResult where
  ok : Bool
  message : String
  node : Option CommunityNodeInfo

/-- The answer to a submission that is turned down. -/
def reject (message : String) : SubmitResult := ⟨false, message, none⟩

/-- The checks that need no lock. Reference: `handle_community_node_submit_with_limits`
(`community_nodes.rs:589-611`). -/
def Submission.accept (lower : List Char → List Char) (sub : Submission) (now : Nat) :
    Except String Accepted := do
  let key ← normalizeCommunityNodeAddress lower sub.address
  let name := sanitizeCommunityText sub.name COMMUNITY_NODE_NAME_MAX_LEN
  if name.isEmpty then throw "节点名称不能为空"
  let submitter := (sub.submitter.map
    (sanitizeCommunityText · COMMUNITY_NODE_SUBMITTER_MAX_LEN)).filter fun s => !s.isEmpty
  return ⟨quotaSource sub.peer, key, name, submitter, now⟩

/-- An entry that is submitted again. -/
def Accepted.refresh (a : Accepted) (existing : CommunityNodeInfo) (latency : Nat) :
    CommunityNodeInfo :=
  { existing with
    name := a.name
    submitter := if a.submitter.isSome then a.submitter else existing.submitter
    online := true
    latencyMs := some latency
    lastOkAt := a.now }

/-- A new entry. -/
def Accepted.node (a : Accepted) (latency : Nat) : CommunityNodeInfo :=
  ⟨a.name, a.key, a.submitter, a.now, a.now, true, some latency⟩

/-- Writes back a node that was probed alive, if there is room. Reference:
`handle_community_node_submit_with_limits` (`community_nodes.rs:658-687`). -/
def Accepted.store (a : Accepted) (capacity : Nat) (nodes : Registry) (latency : Nat) :
    Option (Registry × CommunityNodeInfo) :=
  match nodes.lookup a.key with
  | some existing =>
    let node := a.refresh existing latency
    some (nodes.insert a.key node, node)
  | none =>
    if nodes.keys.length ≥ capacity then none
    else some (nodes.insert a.key (a.node latency), a.node latency)

def REGISTRY_FULL : String := "共享节点列表已满，请稍后再试"

/-- The answer to a submission that is stored. -/
def stored (alreadyExists : Bool) (node : CommunityNodeInfo) : SubmitResult :=
  ⟨true, if alreadyExists then "该节点已在共享列表中，已刷新存活状态" else "投稿成功，感谢分享", some node⟩

/-! ## Sweeps -/

/-- An entry after a probe of a sweep. -/
def ProbeOutcome.mark (outcome : ProbeOutcome) (node : CommunityNodeInfo) (now : Nat) :
    CommunityNodeInfo :=
  match outcome with
  | .alive ms => { node with online := true, latencyMs := some ms, lastOkAt := now }
  | .dead | .blocked => { node with online := false, latencyMs := none }
  | .busy => node

/-- Marks the entry of a result. A key without an entry is passed over. -/
def markOne (now : Nat) (nodes : Registry) (result : String × ProbeOutcome) : Registry :=
  match nodes.lookup result.1 with
  | none => nodes
  | some node => nodes.insert result.1 (result.2.mark node now)

/-- The entries after the probes of a sweep. -/
def markAll (nodes : Registry) (results : List (String × ProbeOutcome)) (now : Nat) : Registry :=
  results.foldl (markOne now) nodes

/-- The entries that a sweep keeps. -/
def retainAlive (nodes : Registry) (now : Nat) : Registry :=
  HashMap.retain (fun _ node => if isCommunityNodeExpired node now then none else some node) nodes

/-! ## The archive -/

/-- What is found at the path of the archive: no file that can be read, no list of nodes, or the
nodes that its JSON text lists. -/
inductive Archive where
  | unread
  | malformed
  | nodes (list : List CommunityNodeInfo)

/-- The nodes in the order of their addresses. Reference: `persist_community_nodes`
(`community_nodes.rs:394-398`). -/
def listNodes (nodes : Registry) : List CommunityNodeInfo :=
  (nodes.entries.map (·.2)).mergeSort fun a b => decide (a.address ≤ b.address)

/-- Adds a node of the archive under the key that its address has now, unless it is expired.
Reference: `load_community_nodes_from_disk` (`community_nodes.rs:364-378`). -/
def loadNode (lower : List Char → List Char) (now : Nat) (map : Registry)
    (node : CommunityNodeInfo) : Registry :=
  match normalizeCommunityNodeAddress lower node.address with
  | .error _ => map
  | .ok key => if isCommunityNodeExpired node now then map else map.insert key node

/-- Reference: `load_community_nodes_from_disk` (`community_nodes.rs:344`). -/
def loadCommunityNodesFromDisk (lower : List Char → List Char) (archive : Archive) (now : Nat) :
    Registry :=
  match archive with
  | .unread | .malformed => ∅
  | .nodes list => list.foldl (loadNode lower now) ∅

/-! ## Tasks -/

/-- Where a task is in `persist_community_nodes`: it waits for the lock, holds it, has listed the
nodes, or writes the list to the temporary file of a generation, to rename it. -/
inductive PersistStage where
  | waiting
  | locked
  | listed (list : List CommunityNodeInfo)
  | writing (list : List CommunityNodeInfo) (generation : Nat)

/-- What a task has returned. -/
inductive Outcome where
  | submitted (result : SubmitResult)
  | swept (online removed : Nat)

/-- Where a task is. A task of a submission is before its quota, its cooldown, its look for the
node, its count, its probe or its write-back; one of a sweep probes the targets that have no result
yet, is before it reads the clock, or before its write-back. -/
inductive Task where
  | absent
  | quota (a : Accepted)
  | cooldown (a : Accepted)
  | lookup (a : Accepted)
  | count (a : Accepted)
  | probe (a : Accepted) (alreadyExists : Bool)
  | store (a : Accepted) (alreadyExists : Bool) (latency : Nat)
  | sweepProbe (targets : List String) (results : List (String × ProbeOutcome))
  | sweepStore (targets : List String) (results : List (String × ProbeOutcome)) (now : Nat)
  | persist (stage : PersistStage) (outcome : Outcome)
  | done (outcome : Outcome)

/-- A submission whose answer is its rejection. -/
def rejected (message : String) : Task := .done (.submitted (reject message))

/-- A submission after its probe. Reference: `handle_community_node_submit_with_limits`
(`community_nodes.rs:649-656`). -/
def Accepted.probed (a : Accepted) (alreadyExists : Bool) : ProbeOutcome → Task
  | .alive ms => .store a alreadyExists ms
  | .dead => rejected "该节点当前不可达，请确认地址与端口后重新提交"
  | .blocked => rejected "只接受公网可访问的节点地址，回环/内网/保留地址无法作为共享节点"
  | .busy => rejected "当前探测队列繁忙，请稍后再试"

/-- The server, as far as community nodes go. The clock counts nanoseconds since the Unix epoch. -/
structure State where
  nodes : Registry
  quotas : HashMap IpAddr SubmitQuota
  cooldowns : HashMap IpAddr Nat
  persistLock : Option Nat
  generation : Nat
  archive : Archive
  now : Nat
  tasks : Nat → Task

/-- Reference: `now_unix_secs` (`config.rs:165`). -/
def State.unixSecs (s : State) : Nat := s.now / secs 1

def State.setTask (s : State) (i : Nat) (task : Task) : State :=
  { s with tasks := Function.update s.tasks i task }

/-- What the outside decides in a step: the outcome of a probe, and whether the archive is
written. -/
structure Env where
  outcome : ProbeOutcome
  written : Bool

/-- What can happen next: time passes, a submission comes in, a sweep starts, or a task goes on. -/
inductive Action where
  | tick (n : Nat)
  | submit (i : Nat) (sub : Submission)
  | sweep (i : Nat)
  | run (i : Nat) (env : Env)

section
variable (lower : List Char → List Char) (capacity : Nat)

/-- A submission comes in. -/
def State.submit (s : State) (i : Nat) (sub : Submission) : State :=
  match sub.accept lower s.unixSecs with
  | .error message => s.setTask i (rejected message)
  | .ok a => s.setTask i (.quota a)

/-- A sweep starts: it reads the keys. Reference: `sweep_community_nodes_with_limiter`
(`community_nodes.rs:461-467`). -/
def State.sweep (s : State) (i : Nat) : State :=
  match s.nodes.keys with
  | [] => s.setTask i (.done (.swept 0 0))
  | targets => s.setTask i (.sweepProbe targets [])

/-- How many results found a node alive that still is registered. Reference:
`sweep_community_nodes_with_limiter` (`community_nodes.rs:486-496`). -/
def countOnline (nodes : Registry) (results : List (String × ProbeOutcome)) : Nat :=
  results.countP fun (address, outcome) =>
    (nodes.lookup address).isSome && match outcome with
      | .alive _ => true
      | _ => false

/-- The write-back of a sweep. Reference: `sweep_community_nodes_with_limiter`
(`community_nodes.rs:482-526`). -/
def State.sweepStore (s : State) (i : Nat) (results : List (String × ProbeOutcome)) (now : Nat) :
    State :=
  let marked := markAll s.nodes results now
  let kept := retainAlive marked now
  let removed := marked.keys.length - kept.keys.length
  let outcome := .swept (countOnline s.nodes results) removed
  { s with nodes := kept }.setTask i
    (if removed > 0 then .persist .waiting outcome else .done outcome)

/-- The write-back of a submission. -/
def State.store (s : State) (i : Nat) (a : Accepted) (alreadyExists : Bool) (latency : Nat) :
    State :=
  match a.store capacity s.nodes latency with
  | none => s.setTask i (rejected REGISTRY_FULL)
  | some (nodes, node) =>
    { s with nodes }.setTask i (.persist .waiting (.submitted (stored alreadyExists node)))

/-- One step of `persist_community_nodes`. Reference: `persist_community_nodes`
(`community_nodes.rs:392`). -/
def State.persist (s : State) (i : Nat) (outcome : Outcome) (written : Bool) :
    PersistStage → Option State
  | .waiting =>
    match s.persistLock with
    | some _ => none
    | none => some ({ s with persistLock := some i }.setTask i (.persist .locked outcome))
  | .locked => some (s.setTask i (.persist (.listed (listNodes s.nodes)) outcome))
  | .listed list =>
    let generation := (s.generation + 1) % 2 ^ 64
    some ({ s with generation }.setTask i (.persist (.writing list generation) outcome))
  | .writing list _ =>
    let archive := if written then .nodes list else s.archive
    some ({ s with archive, persistLock := none }.setTask i (.done outcome))

/-- One step of a task. Reference: `handle_community_node_submit_with_limits`
(`community_nodes.rs:578`), `sweep_community_nodes_with_limiter` (`community_nodes.rs:456`). -/
def State.run (s : State) (i : Nat) (env : Env) : Option State :=
  match s.tasks i with
  | .absent | .done _ => none
  | .quota a =>
    match chargeQuota s.quotas a.peer s.now with
    | (quotas, some message) => some ({ s with quotas }.setTask i (rejected message))
    | (quotas, none) => some ({ s with quotas }.setTask i (.cooldown a))
  | .cooldown a =>
    match startCooldown s.cooldowns a.peer a.now with
    | (cooldowns, some message) => some ({ s with cooldowns }.setTask i (rejected message))
    | (cooldowns, none) => some ({ s with cooldowns }.setTask i (.lookup a))
  | .lookup a =>
    some (s.setTask i (if (s.nodes.lookup a.key).isSome then .probe a true else .count a))
  | .count a =>
    some (s.setTask i
      (if s.nodes.keys.length ≥ capacity then rejected REGISTRY_FULL else .probe a false))
  | .probe a alreadyExists => some (s.setTask i (a.probed alreadyExists env.outcome))
  | .store a alreadyExists latency => some (s.store capacity i a alreadyExists latency)
  | .sweepProbe targets results =>
    match targets[results.length]? with
    | some target => some (s.setTask i (.sweepProbe targets (results ++ [(target, env.outcome)])))
    | none => some (s.setTask i (.sweepStore targets results s.unixSecs))
  | .sweepStore _ results now => some (s.sweepStore i results now)
  | .persist stage outcome => s.persist i outcome env.written stage

/-- One step of the server. -/
def State.step (s : State) : Action → Option State
  | .tick n => some { s with now := s.now + n }
  | .submit i sub =>
    match s.tasks i with
    | .absent => some (s.submit lower i sub)
    | _ => none
  | .sweep i =>
    match s.tasks i with
    | .absent => some (s.sweep i)
    | _ => none
  | .run i env => s.run capacity i env

/-- The state in which the server starts. -/
def State.initial (nodes : Registry) (archive : Archive) (now : Nat) : State :=
  ⟨nodes, ∅, ∅, none, 0, archive, now, fun _ => .absent⟩

/-- The step relation. -/
def RegistryStep (s : State) (act : Action) (s' : State) : Prop :=
  s.step lower capacity act = some s'

/-- The runs of the server from a state. -/
abbrev RegistryRun (s₀ : State) (ts : List (Transition State Action)) (s : State) : Prop :=
  Run (· = s₀) (RegistryStep lower capacity) ts s

end

/-! ## What a step does -/

section
variable {lower : List Char → List Char} {capacity : Nat} {s s' : State} {i : Nat} {env : Env}
  {act : Action}

@[simp] theorem State.setTask_self {task : Task} : (s.setTask i task).tasks i = task :=
  Function.update_self ..

theorem State.setTask_ne {task : Task} {j : Nat} (h : j ≠ i) :
    (s.setTask i task).tasks j = s.tasks j :=
  Function.update_of_ne h ..

/-- The write-back of a sweep leads to the archive or to its end. -/
theorem State.sweepStore_task (s : State) (i : Nat) (results : List (String × ProbeOutcome))
    (now : Nat) : ∃ online removed,
      (s.sweepStore i results now).tasks i = .persist .waiting (.swept online removed) ∨
        (s.sweepStore i results now).tasks i = .done (.swept online removed) := by
  unfold State.sweepStore
  rw [State.setTask_self]
  split
  · exact ⟨_, _, .inl rfl⟩
  · exact ⟨_, _, .inr rfl⟩

@[simp] theorem State.setTask_nodes {task : Task} : (s.setTask i task).nodes = s.nodes := rfl

@[simp] theorem State.setTask_archive {task : Task} : (s.setTask i task).archive = s.archive := rfl

@[simp] theorem State.setTask_persistLock {task : Task} :
    (s.setTask i task).persistLock = s.persistLock := rfl

@[simp] theorem State.setTask_now {task : Task} : (s.setTask i task).now = s.now := rfl

/-- The moves of a task that touch neither the registry nor the archive, from where and to where. -/
inductive Moves (capacity : Nat) (s : State) (env : Env) : Task → Task → Prop
  | turnedDown {task : Task} {a : Accepted} {message : String} : task = .quota a ∨
      task = .cooldown a ∨ task = .count a ∨ (∃ alreadyExists, task = .probe a alreadyExists) ∨
      (∃ alreadyExists latency, task = .store a alreadyExists latency) →
      Moves capacity s env task (rejected message)
  | charged {a : Accepted} : Moves capacity s env (.quota a) (.cooldown a)
  | cooled {a : Accepted} : Moves capacity s env (.cooldown a) (.lookup a)
  | found {a : Accepted} : Moves capacity s env (.lookup a) (.probe a true)
  | missing {a : Accepted} : Moves capacity s env (.lookup a) (.count a)
  | room {a : Accepted} : s.nodes.keys.length < capacity →
      Moves capacity s env (.count a) (.probe a false)
  | alive {a : Accepted} {alreadyExists : Bool} {latency : Nat} : env.outcome = .alive latency →
      Moves capacity s env (.probe a alreadyExists) (.store a alreadyExists latency)
  | probed {targets : List String} {results : List (String × ProbeOutcome)} {target : String} :
      targets[results.length]? = some target →
      Moves capacity s env (.sweepProbe targets results)
        (.sweepProbe targets (results ++ [(target, env.outcome)]))
  | clocked {targets : List String} {results : List (String × ProbeOutcome)} :
      targets.length ≤ results.length →
      Moves capacity s env (.sweepProbe targets results) (.sweepStore targets results s.unixSecs)

/-- The steps: the clock, a task that starts or moves, the two write-backs, and the four steps of
writing the archive. -/
inductive Stepped (lower : List Char → List Char) (capacity : Nat) (s : State) :
    Action → State → Prop
  | tick {n : Nat} : Stepped lower capacity s (.tick n) { s with now := s.now + n }
  | unaccepted {i : Nat} {sub : Submission} {message : String} : s.tasks i = .absent →
      Stepped lower capacity s (.submit i sub) (s.setTask i (rejected message))
  | accepted {i : Nat} {sub : Submission} {a : Accepted} : s.tasks i = .absent →
      sub.accept lower s.unixSecs = .ok a →
      Stepped lower capacity s (.submit i sub) (s.setTask i (.quota a))
  | idle {i : Nat} : s.tasks i = .absent →
      Stepped lower capacity s (.sweep i) (s.setTask i (.done (.swept 0 0)))
  | started {i : Nat} : s.tasks i = .absent →
      Stepped lower capacity s (.sweep i) (s.setTask i (.sweepProbe s.nodes.keys []))
  | moved {i : Nat} {env : Env} {quotas : HashMap IpAddr SubmitQuota}
      {cooldowns : HashMap IpAddr Nat} {task : Task} : Moves capacity s env (s.tasks i) task →
      Stepped lower capacity s (.run i env) ({ s with quotas, cooldowns }.setTask i task)
  | stored {i : Nat} {env : Env} {a : Accepted} {alreadyExists : Bool} {latency : Nat}
      {nodes : Registry} {node : CommunityNodeInfo} :
      s.tasks i = .store a alreadyExists latency →
      a.store capacity s.nodes latency = some (nodes, node) →
      Stepped lower capacity s (.run i env) ({ s with nodes }.setTask i
        (.persist .waiting (.submitted (CommunityNodes.stored alreadyExists node))))
  | swept {i : Nat} {env : Env} {targets : List String} {results : List (String × ProbeOutcome)}
      {now : Nat} : s.tasks i = .sweepStore targets results now →
      Stepped lower capacity s (.run i env) (s.sweepStore i results now)
  | locked {i : Nat} {env : Env} {outcome : Outcome} : s.tasks i = .persist .waiting outcome →
      s.persistLock = none →
      Stepped lower capacity s (.run i env)
        ({ s with persistLock := some i }.setTask i (.persist .locked outcome))
  | listed {i : Nat} {env : Env} {outcome : Outcome} : s.tasks i = .persist .locked outcome →
      Stepped lower capacity s (.run i env)
        (s.setTask i (.persist (.listed (listNodes s.nodes)) outcome))
  | opened {i : Nat} {env : Env} {list : List CommunityNodeInfo} {outcome : Outcome} :
      s.tasks i = .persist (.listed list) outcome →
      Stepped lower capacity s (.run i env)
        ({ s with generation := (s.generation + 1) % 2 ^ 64 }.setTask i
          (.persist (.writing list ((s.generation + 1) % 2 ^ 64)) outcome))
  | written {i : Nat} {env : Env} {list : List CommunityNodeInfo} {generation : Nat}
      {outcome : Outcome} : s.tasks i = .persist (.writing list generation) outcome →
      Stepped lower capacity s (.run i env)
        ({ s with
            archive := if env.written then .nodes list else s.archive
            persistLock := none }.setTask i (.done outcome))

/-- **What a step of a task does.** -/
theorem run_cases (h : s.run capacity i env = some s') :
    Stepped lower capacity s (.run i env) s' := by
  unfold State.run at h
  have hmoved {quotas : HashMap IpAddr SubmitQuota} {cooldowns : HashMap IpAddr Nat} {task : Task}
      (hmoves : Moves capacity s env (s.tasks i) task) :
      Stepped lower capacity s (.run i env) ({ s with quotas, cooldowns }.setTask i task) :=
    .moved hmoves
  cases htask : s.tasks i with
  | absent | done => rw [htask] at h; cases h
  | quota a =>
    rw [htask] at h hmoved
    dsimp only at h
    split at h <;> cases h
    · exact hmoved (.turnedDown (.inl rfl))
    · exact hmoved .charged
  | cooldown a =>
    rw [htask] at h hmoved
    dsimp only at h
    split at h <;> cases h
    · exact hmoved (.turnedDown (.inr (.inl rfl)))
    · exact hmoved .cooled
  | lookup a =>
    rw [htask] at h hmoved
    cases h
    split
    · exact hmoved .found
    · exact hmoved .missing
  | count a =>
    rw [htask] at h hmoved
    cases h
    split
    · exact hmoved (.turnedDown (.inr (.inr (.inl rfl))))
    · next hroom => exact hmoved (.room (Nat.lt_of_not_le hroom))
  | probe a alreadyExists =>
    rw [htask] at h hmoved
    cases h
    unfold Accepted.probed
    split
    · next hout => exact hmoved (.alive hout)
    all_goals exact hmoved (.turnedDown (.inr (.inr (.inr (.inl ⟨_, rfl⟩)))))
  | store a alreadyExists latency =>
    rw [htask] at h hmoved
    cases h
    unfold State.store
    split
    · exact hmoved (.turnedDown (.inr (.inr (.inr (.inr ⟨_, _, rfl⟩)))))
    · next hstore => exact .stored htask hstore
  | sweepProbe targets results =>
    rw [htask] at h hmoved
    dsimp only at h
    split at h <;> cases h
    · next htarget => exact hmoved (.probed htarget)
    · next hnone => exact hmoved (.clocked (List.getElem?_eq_none_iff.1 hnone))
  | sweepStore targets results now =>
    rw [htask] at h
    cases h
    exact .swept htask
  | persist stage outcome =>
    rw [htask] at h
    cases stage with
    | waiting =>
      dsimp only [State.persist] at h
      split at h
      · cases h
      · next hlock => cases h; exact .locked htask hlock
    | locked => cases h; exact .listed htask
    | listed list => cases h; exact .opened htask
    | writing list generation => cases h; exact .written htask

/-- **What a step does.** -/
theorem step_cases (h : RegistryStep lower capacity s act s') :
    Stepped lower capacity s act s' := by
  unfold RegistryStep State.step at h
  cases act with
  | tick n => cases h; exact .tick
  | submit i sub =>
    dsimp only at h
    split at h
    · next htask =>
      cases h
      unfold State.submit
      split
      · exact .unaccepted htask
      · next haccept => exact .accepted htask haccept
    · cases h
  | sweep i =>
    dsimp only at h
    split at h
    · next htask =>
      cases h
      unfold State.sweep
      split
      · exact .idle htask
      · exact .started htask
    · cases h
  | run i env => exact run_cases h

end

end MctierSignaling.CommunityNodes
