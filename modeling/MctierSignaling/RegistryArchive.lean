import MctierSignaling.RegistryTransitions
import MctierSignaling.Lib.Archive

/-!
# The archive of the registry

Submissions and sweeps write the archive concurrently. Each takes the lock of the archive, lists the
nodes, and writes the list, so the registry and its archive are an instance of
`MctierSignaling.Lib.Archive` (`Stepped.archiving`): the archive is the list of the registry at some
moment, and never goes back to an earlier one. A submission lists the nodes after its own
write-back, so its node is archived when it is answered (`archive_moves_forward`).
-/

namespace MctierSignaling.CommunityNodes

/-- The list that a task writes. -/
def Task.list : Task → Option (List CommunityNodeInfo)
  | .persist (.listed list) _ | .persist (.writing list _) _ => some list
  | _ => none

/-- A task is past the lock of the archive. -/
def Task.Holds : Task → Prop
  | .persist .locked _ | .persist (.listed _) _ | .persist (.writing _ _) _ => True
  | _ => False

/-- The registry and its archive. -/
def State.archived (s : State) : Archived (List CommunityNodeInfo) Archive :=
  ⟨listNodes s.nodes, s.persistLock.map fun i => (i, (s.tasks i).list), s.archive⟩

/-- What a step of a task does to the archive. -/
def Task.archiving (i : Nat) (written : Bool) : Task → Archiving
  | .persist .waiting _ => .lock i
  | .persist .locked _ => .read i
  | .persist (.writing _ _) _ => if written then .write i else .fail i
  | _ => .change

/-- What a transition does to the archive. -/
def archiving (t : Transition State Action) : Archiving :=
  match t.act with
  | .run i env => (t.pre.tasks i).archiving i env.written
  | _ => .change

/-- The registry and its archive over a run. -/
def archivings (ts : List (Transition State Action)) :
    List (Transition (Archived (List CommunityNodeInfo) Archive) Archiving) :=
  ts.map fun t => ⟨t.pre.archived, archiving t, t.post.archived⟩

/-- A transition writes the archive. -/
def Saves (t : Transition State Action) : Prop := ∃ i, archiving t = .write i

/-- All writes of the archive succeed. -/
def AllWritten (ts : List (Transition State Action)) : Prop :=
  ∀ t ∈ ts, ∀ i env, t.act = .run i env → env.written = true

/-- A transition writes back a submission. -/
def WritesBack (capacity : Nat) (i : Nat) (a : Accepted) (t : Transition State Action) : Prop :=
  ∃ env alreadyExists latency, t.act = .run i env ∧
    t.pre.tasks i = .store a alreadyExists latency ∧ (a.store capacity t.pre.nodes latency).isSome

/-- A task is about to open a temporary file. -/
def Task.opens : Task → Bool
  | .persist (.listed _) _ => true
  | _ => false

/-- A transition opens a temporary file. -/
def opens (t : Transition State Action) : Bool :=
  match t.act with
  | .run i _ => (t.pre.tasks i).opens
  | _ => false

/-- A transition of a task opens the temporary file of a generation. -/
def OpensFile (i generation : Nat) (t : Transition State Action) : Prop :=
  ∃ env list outcome, t.act = .run i env ∧ t.pre.tasks i = .persist (.listed list) outcome ∧
    t.post.tasks i = .persist (.writing list generation) outcome

section
variable {lower : List Char → List Char} {capacity : Nat} {s s' : State} {i j : Nat} {env : Env}
  {act : Action} {nodes : Registry} {archive : Archive} {now : Nat} {key : String}
  {node node' : CommunityNodeInfo} {ts : List (Transition State Action)} {a : Accepted}
  {t : Transition State Action}

/-! ## The lock of the archive -/

/-- A move is between tasks that do not hold the lock. -/
theorem Moves.notHolds {task task' : Task} (h : Moves capacity s env task task') :
    ¬ task.Holds ∧ ¬ task'.Holds ∧ ∀ i written, task.archiving i written = .change := by
  cases h with
  | turnedDown h =>
    rcases h with rfl | rfl | rfl | ⟨_, rfl⟩ | ⟨_, _, rfl⟩ <;> exact ⟨id, id, fun _ _ => rfl⟩
  | _ => exact ⟨id, id, fun _ _ => rfl⟩

/-- The lock is held by the task that is past it. -/
theorem Stepped.holds (h : Stepped lower capacity s act s')
    (hlock : ∀ j, (s.tasks j).Holds ↔ s.persistLock = some j) (j : Nat) :
    (s'.tasks j).Holds ↔ s'.persistLock = some j := by
  have hother {i : Nat} {task : Task} {lock : Option Nat} (hi : act.task = some i)
      (htask : s'.tasks i = task) (hlock' : s'.persistLock = lock)
      (hself : task.Holds ↔ lock = some i)
      (hrest : ∀ j, j ≠ i → (lock = some j ↔ s.persistLock = some j)) :
      (s'.tasks j).Holds ↔ s'.persistLock = some j := by
    by_cases hj : j = i
    · subst hj
      rw [htask, hlock', hself]
    · rw [h.tasks_ne fun he => hj (Option.some.inj (he.symm.trans hi)), hlock', hrest j hj]
      exact hlock j
  have hfree {i : Nat} (hnot : ¬ (s.tasks i).Holds) : s.persistLock ≠ some i :=
    fun h => hnot ((hlock i).2 h)
  cases h with
  | tick => exact hlock j
  | @unaccepted i _ _ htask | @accepted i _ _ htask | @idle i htask | @started i htask =>
    exact hother rfl State.setTask_self rfl
      (iff_of_false id (hfree (by rw [htask]; exact id))) fun _ _ => Iff.rfl
  | @moved i _ _ _ task hmoves =>
    exact hother rfl State.setTask_self rfl
      (iff_of_false hmoves.notHolds.2.1 (hfree hmoves.notHolds.1)) fun _ _ => Iff.rfl
  | @stored i _ _ _ _ _ _ htask =>
    exact hother rfl State.setTask_self rfl
      (iff_of_false id (hfree (by rw [htask]; exact id))) fun _ _ => Iff.rfl
  | @swept i _ _ results now htask =>
    have hlock' : (s.sweepStore i results now).persistLock = s.persistLock := rfl
    refine hother rfl rfl hlock'
      (iff_of_false ?_ (hfree (by rw [htask]; exact id))) fun _ _ => Iff.rfl
    obtain ⟨_, _, htask' | htask'⟩ := s.sweepStore_task i results now <;> rw [htask'] <;> exact id
  | @locked i _ _ htask hnone =>
    refine hother rfl State.setTask_self rfl (iff_of_true trivial rfl) fun j hj => ?_
    rw [hnone]
    exact iff_of_false (fun h => hj (Option.some.inj h).symm) nofun
  | @listed i _ _ htask =>
    exact hother rfl State.setTask_self rfl
      (iff_of_true trivial ((hlock i).1 (by rw [htask]; trivial))) fun _ _ => Iff.rfl
  | @opened i _ _ _ htask =>
    exact hother rfl State.setTask_self rfl
      (iff_of_true trivial ((hlock i).1 (by rw [htask]; trivial))) fun _ _ => Iff.rfl
  | @written i _ _ _ _ htask =>
    have hheld := (hlock i).1 (by rw [htask]; trivial)
    refine hother rfl State.setTask_self rfl (iff_of_false id nofun) fun j hj => ?_
    rw [hheld]
    exact iff_of_false nofun fun h => hj (Option.some.inj h).symm

/-- In every run the lock is held by the task that is past it, and by no other. -/
theorem RegistryRun.holds (h : RegistryRun lower capacity (.initial nodes archive now) ts s)
    (j : Nat) :
    (s.tasks j).Holds ↔ s.persistLock = some j := by
  refine h.reachable.invariant (I := fun s => ∀ j, (s.tasks j).Holds ↔ s.persistLock = some j)
    ?_ ?_ j
  · rintro _ rfl j
    exact iff_of_false id nofun
  · exact fun s act s' _ hlock hstep => (step_cases hstep).holds hlock

/-! ## The registry is archived under its lock -/

/-- A step that neither locks, nor lists, nor writes. -/
theorem archived_change (hlock : s'.persistLock = s.persistLock) (harchive : s'.archive = s.archive)
    (hlist : ∀ j, s.persistLock = some j → (s'.tasks j).list = (s.tasks j).list) :
    ArchiveStep Archive.nodes s.archived .change s'.archived := by
  have hwriter : (s'.persistLock.map fun j => (j, (s'.tasks j).list)) =
      s.persistLock.map fun j => (j, (s.tasks j).list) := by
    rw [hlock]
    exact Option.map_congr fun j hj => by rw [hlist j hj]
  have heq : s'.archived = { s.archived with value := listNodes s'.nodes } := by
    unfold State.archived
    rw [hwriter, harchive]
  rw [heq]
  exact .change

theorem archived_free (h : s.persistLock = none) :
    s.archived = ⟨listNodes s.nodes, none, s.archive⟩ := by
  rw [State.archived, h, Option.map_none]

theorem archived_held {list : Option (List CommunityNodeInfo)} (h : s.persistLock = some i)
    (hlist : (s.tasks i).list = list) :
    s.archived = ⟨listNodes s.nodes, some (i, list), s.archive⟩ := by
  rw [State.archived, h, Option.map_some, hlist]

/-- **The registry is archived under its lock.** -/
theorem Stepped.archiving (h : Stepped lower capacity s act s')
    (hlock : ∀ j, (s.tasks j).Holds ↔ s.persistLock = some j) :
    ArchiveStep Archive.nodes s.archived (CommunityNodes.archiving ⟨s, act, s'⟩) s'.archived := by
  have hchange {i : Nat} (hi : act.task = some i) (hnot : ¬ (s.tasks i).Holds)
      (hsame : s'.persistLock = s.persistLock) (harchive : s'.archive = s.archive) :
      ArchiveStep Archive.nodes s.archived .change s'.archived := by
    refine archived_change hsame harchive fun j hj => ?_
    have hne : act.task ≠ some j := by
      intro he
      cases he.symm.trans hi
      exact hnot ((hlock _).2 hj)
    rw [h.tasks_ne hne]
  cases h with
  | tick => exact archived_change rfl rfl fun _ _ => rfl
  | unaccepted htask | accepted htask | idle htask | started htask =>
    exact hchange rfl (by rw [htask]; exact id) rfl rfl
  | moved hmoves =>
    have hstep := hchange rfl hmoves.notHolds.1 rfl rfl
    dsimp only [CommunityNodes.archiving]
    rw [hmoves.notHolds.2.2]
    exact hstep
  | stored htask | swept htask =>
    have hstep := hchange rfl (by rw [htask]; exact id) rfl rfl
    dsimp only [CommunityNodes.archiving]
    rw [htask]
    exact hstep
  | @locked i _ _ htask hnone =>
    dsimp only [CommunityNodes.archiving]
    rw [htask, archived_free hnone, archived_held rfl (congrArg Task.list State.setTask_self)]
    exact .lock rfl
  | @listed i _ _ htask =>
    have hheld := (hlock i).1 (by rw [htask]; trivial)
    dsimp only [CommunityNodes.archiving]
    rw [htask, archived_held hheld (congrArg Task.list htask),
      archived_held (s := s.setTask i _) hheld (congrArg Task.list State.setTask_self)]
    exact .read rfl
  | @opened i _ _ _ htask =>
    have hheld := (hlock i).1 (by rw [htask]; trivial)
    dsimp only [CommunityNodes.archiving]
    rw [htask, archived_held hheld (congrArg Task.list htask),
      archived_held (s := State.setTask { s with generation := _ } i _) hheld
        (congrArg Task.list State.setTask_self)]
    exact .change
  | @written i env _ _ _ htask =>
    have hheld := (hlock i).1 (by rw [htask]; trivial)
    dsimp only [CommunityNodes.archiving]
    rw [htask, archived_held hheld (congrArg Task.list htask), archived_free rfl]
    dsimp only [Task.archiving, Task.list, State.setTask_nodes, State.setTask_archive]
    cases env.written with
    | true => exact .write rfl
    | false => exact .fail rfl

/-- The registry and its archive move as `MctierSignaling.Lib.Archive` says. -/
theorem RegistryRun.archivings (h : RegistryRun lower capacity (.initial nodes archive now) ts s) :
    Run (· = (State.initial nodes archive now).archived) (ArchiveStep Archive.nodes)
      (CommunityNodes.archivings ts) s.archived := by
  refine Run.map State.archived CommunityNodes.archiving ?_ ?_ h
  · rintro _ rfl
    rfl
  · rintro s act s' ⟨ts, hrun⟩ hstep
    exact (step_cases hstep).archiving (RegistryRun.holds hrun)

/-- The number of transitions before the last list was made. -/
def listedAt (ts : List (Transition State Action)) : Nat := readAt (archivings ts)

/-- The number of transitions before the archived list was made. -/
def savedAt (ts : List (Transition State Action)) : Nat := archivedAt (archivings ts)

theorem listedAt_le_cons : listedAt ts ≤ listedAt (t :: ts) := readAt_le_cons

theorem listedAt_read (h : archiving t = .read i) : listedAt (t :: ts) = ts.length := by
  have hread : listedAt (t :: ts) = (CommunityNodes.archivings ts).length := by
    rw [listedAt, CommunityNodes.archivings, List.map_cons, readAt.eq_2, h]
    rfl
  rw [hread, CommunityNodes.archivings, List.length_map]

theorem savedAt_write (h : archiving t = .write i) : savedAt (t :: ts) = listedAt ts := by
  rw [savedAt, CommunityNodes.archivings, List.map_cons, archivedAt.eq_2, h]
  rfl

theorem savedAt_le_cons : savedAt ts ≤ savedAt (t :: ts) := archivedAt_le_cons

/-- A later archive lists a later registry. -/
theorem savedAt_mono (later : List (Transition State Action)) :
    savedAt ts ≤ savedAt (later ++ ts) := by
  unfold savedAt CommunityNodes.archivings
  rw [List.map_append]
  exact archivedAt_mono _

/-- The archive goes back to a list only after a write. -/
theorem saves_of_savedAt_pos (h : 0 < savedAt ts) : ∃ t ∈ ts, Saves t := by
  obtain ⟨_, hu, i, hi⟩ := write_of_archivedAt_pos h
  obtain ⟨t, ht, rfl⟩ := List.mem_map.1 hu
  exact ⟨t, ht, i, hi⟩

/-- After a write, the archive lists the registry as it was at some moment. -/
theorem RegistryRun.saved (h : RegistryRun lower capacity (.initial nodes archive now) ts s)
    (hsaves : ∃ t ∈ ts, Saves t) :
    ∃ newer u older, ts = newer ++ u :: older ∧ older.length = savedAt ts ∧
      s.archive = .nodes (listNodes u.pre.nodes) := by
  have hwrite : ∃ t ∈ CommunityNodes.archivings ts, ∃ i, t.act = .write i := by
    obtain ⟨t, ht, i, hi⟩ := hsaves
    exact ⟨_, List.mem_map_of_mem ht, i, hi⟩
  obtain ⟨list, harchive, newer, u, older, hsplit, hlength, rfl⟩ :=
    ((RegistryRun.archivings h).archived rfl).1 hwrite
  obtain ⟨newer, rest, rfl, rfl, hrest⟩ := List.map_eq_append_iff.1 hsplit
  obtain ⟨u, older, rfl, rfl, rfl⟩ := List.map_eq_cons_iff.1 hrest
  rw [List.length_map] at hlength
  exact ⟨newer, u, older, rfl, hlength, harchive⟩

/-! ## Submissions are archived before they are answered -/

/-- What a submission that has written back, or was turned down, is answered. -/
def Task.result : Task → Option SubmitResult
  | .persist _ (.submitted result) | .done (.submitted result) => some result
  | _ => none

/-- The answer of a submission does not depend on how far its archive is. -/
theorem Task.result_persist {stage : PersistStage} {outcome : Outcome} :
    (Task.persist stage outcome).result = (Task.done outcome).result := by
  cases outcome <;> rfl

/-- The number of transitions before the list that a task is going to archive, or has archived, can
have been made. -/
def Task.bound (ts : List (Transition State Action)) : Task → Nat
  | .persist .waiting _ | .persist .locked _ => ts.length
  | .persist (.listed _) _ | .persist (.writing _ _) _ => listedAt ts
  | _ => savedAt ts

theorem Task.bound_le_cons {task : Task} : task.bound ts ≤ task.bound (t :: ts) := by
  unfold Task.bound
  split
  · exact Nat.le_succ _
  · exact Nat.le_succ _
  · exact listedAt_le_cons
  · exact listedAt_le_cons
  · exact savedAt_le_cons

/-- A submission that has written back keeps its answer, and archives a list that is made after. -/
theorem Stepped.bound {result : SubmitResult} {n : Nat} (h : Stepped lower capacity s act s')
    (hwritten : ∀ env, act = .run i env → env.written = true)
    (hresult : (s.tasks i).result = some result) (hn : n < (s.tasks i).bound ts)
    (hts : n < ts.length) :
    (s'.tasks i).result = some result ∧ n < (s'.tasks i).bound (⟨s, act, s'⟩ :: ts) := by
  by_cases hi : act.task = some i
  · have hcons : ts.length < (⟨s, act, s'⟩ :: ts).length := Nat.lt_succ_self _
    cases h with
    | tick => cases hi
    | unaccepted htask | accepted htask | idle htask | started htask | stored htask | swept htask =>
      cases hi
      rw [htask] at hresult
      cases hresult
    | moved hmoves =>
      cases hi
      generalize s.tasks i = task at hmoves hresult
      cases hmoves with
      | turnedDown h =>
        rcases h with rfl | rfl | rfl | ⟨_, rfl⟩ | ⟨_, _, rfl⟩ <;> cases hresult
      | _ => cases hresult
    | locked htask =>
      cases hi
      rw [htask, Task.result_persist] at hresult
      rw [State.setTask_self, Task.result_persist]
      exact ⟨hresult, Nat.lt_trans hts hcons⟩
    | @listed i _ _ htask =>
      cases hi
      rw [htask, Task.result_persist] at hresult
      rw [State.setTask_self, Task.result_persist]
      refine ⟨hresult, Nat.lt_of_lt_of_eq hts (listedAt_read (i := i) ?_).symm⟩
      dsimp only [CommunityNodes.archiving]
      rw [htask]
      rfl
    | opened htask =>
      cases hi
      rw [htask, Task.result_persist] at hresult
      rw [htask] at hn
      rw [State.setTask_self, Task.result_persist]
      exact ⟨hresult, Nat.lt_of_lt_of_le hn listedAt_le_cons⟩
    | @written i env _ _ _ htask =>
      cases hi
      rw [htask, Task.result_persist] at hresult
      rw [htask] at hn
      rw [State.setTask_self]
      refine ⟨hresult, Nat.lt_of_lt_of_eq hn ?_⟩
      refine (savedAt_write (i := i) ?_).symm
      dsimp only [CommunityNodes.archiving]
      rw [htask, hwritten env rfl]
      rfl
  · rw [h.tasks_ne hi]
    exact ⟨hresult, Nat.lt_of_lt_of_le hn Task.bound_le_cons⟩

/-- A submission that has written back is answered with success, and archives a list that is made
after. -/
theorem RegistryRun.archives {later earlier : List (Transition State Action)}
    (h : RegistryRun lower capacity (.initial nodes archive now) (later ++ t :: earlier) s)
    (hwrites : WritesBack capacity i a t) (hok : AllWritten later) :
    (∃ result, (s.tasks i).result = some result ∧ result.ok = true) ∧
      earlier.length < (s.tasks i).bound (later ++ t :: earlier) := by
  induction later generalizing s with
  | nil =>
    cases h with
    | snoc _ hstep =>
      obtain ⟨env, alreadyExists, latency, rfl, htask, hstore⟩ := hwrites
      obtain ⟨⟨nodes', node⟩, hstore⟩ := Option.isSome_iff_exists.1 hstore
      dsimp only at htask hstore
      rw [RegistryStep.stored hstep htask, State.store, hstore]
      dsimp only
      rw [State.setTask_self]
      exact ⟨⟨_, rfl, rfl⟩, Nat.lt_succ_self _⟩
  | cons v later ih =>
    cases h with
    | snoc hrun hstep =>
      obtain ⟨⟨result, hresult, hsuccess⟩, hn⟩ :=
        ih hrun fun t ht => hok t (List.mem_cons_of_mem _ ht)
      have hlength : earlier.length < (later ++ t :: earlier).length := by
        rw [List.length_append, List.length_cons]
        omega
      obtain ⟨hresult', hn'⟩ := (step_cases hstep).bound
        (fun env hact => hok _ List.mem_cons_self _ env hact) hresult hn hlength
      exact ⟨⟨result, hresult', hsuccess⟩, hn'⟩

/-- A step leads a task to a success only from its write-back. -/
theorem Stepped.writesBack {result : SubmitResult} (h : Stepped lower capacity s act s')
    (hok : result.ok = true) (hpost : (s'.tasks i).result = some result) :
    (∃ a, WritesBack capacity i a ⟨s, act, s'⟩) ∨ (s.tasks i).result = some result := by
  by_cases hi : act.task = some i
  · cases h with
    | tick => cases hi
    | unaccepted =>
      cases hi
      rw [State.setTask_self] at hpost
      cases hpost
      cases hok
    | moved hmoves =>
      cases hi
      rw [State.setTask_self] at hpost
      generalize s.tasks i = task at hmoves
      cases hmoves with
      | turnedDown =>
        cases hpost
        cases hok
      | _ => cases hpost
    | stored htask hstore =>
      cases hi
      exact .inl ⟨_, _, _, _, rfl, htask, by rw [hstore]; rfl⟩
    | @swept _ _ _ results now =>
      cases hi
      obtain ⟨_, _, htask | htask⟩ := s.sweepStore_task i results now <;> rw [htask] at hpost <;>
        cases hpost
    | locked htask | listed htask | opened htask | written htask =>
      cases hi
      rw [State.setTask_self] at hpost
      rw [htask, Task.result_persist]
      try rw [Task.result_persist] at hpost
      exact .inr hpost
    | accepted | idle | started =>
      cases hi
      rw [State.setTask_self] at hpost
      cases hpost
  · exact .inr (h.tasks_ne hi ▸ hpost)

/-- A submission that was answered with success has written back. -/
theorem RegistryRun.wroteBack {result : SubmitResult}
    (h : RegistryRun lower capacity (.initial nodes archive now) ts s) (hok : result.ok = true)
    (hresult : (s.tasks i).result = some result) :
    ∃ later t earlier a, ts = later ++ t :: earlier ∧ WritesBack capacity i a t := by
  obtain ⟨t, ht, a, ha⟩ : ∃ t ∈ ts, ∃ a, WritesBack capacity i a t := by
    refine h.arose (A := fun s => (s.tasks i).result = some result) ?_ ?_ hresult
    · rintro _ rfl h
      cases h
    · exact fun _ _ _ hstep hpost => (step_cases hstep).writesBack hok hpost
  obtain ⟨later, earlier, rfl⟩ := List.append_of_mem ht
  exact ⟨later, t, earlier, a, rfl, ha⟩

/-- A submission that writes back leaves its key registered. -/
theorem WritesBack.registered (h : WritesBack capacity i a ⟨s, act, s'⟩)
    (hstep : RegistryStep lower capacity s act s') : a.key ∈ s'.nodes := by
  obtain ⟨env, alreadyExists, latency, rfl, htask, hstore⟩ := h
  obtain ⟨⟨nodes', node⟩, hstore⟩ := Option.isSome_iff_exists.1 hstore
  dsimp only at htask hstore
  rw [RegistryStep.stored hstep htask, State.store, hstore]
  dsimp only
  rw [State.setTask_nodes, (store_cases hstore).1]
  exact (AList.mem_insert _).2 (.inl rfl)

/-! ## Temporary files -/

/-- A step that opens a temporary file advances the generation. -/
theorem Stepped.generation (h : Stepped lower capacity s act s') : s'.generation =
    bif CommunityNodes.opens ⟨s, act, s'⟩ then (s.generation + 1) % 2 ^ 64 else s.generation := by
  cases h with
  | @moved i _ _ _ _ hmoves =>
    have hopens : (s.tasks i).opens = false := by
      generalize s.tasks i = task at hmoves
      cases hmoves with
      | turnedDown h => rcases h with rfl | rfl | rfl | ⟨_, rfl⟩ | ⟨_, _, rfl⟩ <;> rfl
      | _ => rfl
    dsimp only [CommunityNodes.opens]
    rw [hopens]
    rfl
  | stored htask | swept htask | locked htask | listed htask | opened htask | written htask =>
    dsimp only [CommunityNodes.opens]
    rw [htask]
    rfl
  | _ => rfl

/-- The generation counts the temporary files. -/
theorem RegistryRun.generation (h : RegistryRun lower capacity (.initial nodes archive now) ts s) :
    s.generation = ts.countP opens % 2 ^ 64 := by
  induction h with
  | start hinit =>
    subst hinit
    rfl
  | snoc _ hstep ih =>
    rw [(step_cases hstep).generation, List.countP_cons, ih]
    cases opens ⟨_, _, _⟩ with
    | true => exact Nat.mod_add_mod _ _ _
    | false => rfl

/-- The file that is opened is that of the next generation. -/
theorem OpensFile.generation {g : Nat} (h : OpensFile i g ⟨s, act, s'⟩)
    (hstep : RegistryStep lower capacity s act s') :
    CommunityNodes.opens ⟨s, act, s'⟩ = true ∧ g = (s.generation + 1) % 2 ^ 64 := by
  obtain ⟨env, list, outcome, rfl, hpre, hpost⟩ := h
  dsimp only at hpre hpost
  refine ⟨by dsimp only [CommunityNodes.opens]; rw [hpre]; rfl, ?_⟩
  rw [RegistryStep, State.step, State.run, hpre] at hstep
  rw [← Option.some.inj hstep, State.setTask_self] at hpost
  cases hpost
  rfl

/-- Two openings of the file of one generation are 2^64 files apart. -/
theorem RegistryRun.files {later mid earlier : List (Transition State Action)}
    {u : Transition State Action} {g : Nat}
    (h : RegistryRun lower capacity (.initial nodes archive now)
      (later ++ t :: (mid ++ u :: earlier)) s)
    (ht : OpensFile i g t) (hu : OpensFile j g u) : 2 ^ 64 ≤ mid.countP opens + 1 := by
  have hrun := h.before
  obtain ⟨-, hstep⟩ := h.mem (List.mem_append_right _ List.mem_cons_self)
  obtain ⟨-, hstep'⟩ := hrun.mem (List.mem_append_right _ List.mem_cons_self)
  obtain ⟨-, hg⟩ := ht.generation hstep
  obtain ⟨hopens, hg'⟩ := hu.generation hstep'
  have hpre := RegistryRun.generation hrun
  have hpre' := RegistryRun.generation hrun.before
  rw [List.countP_append, List.countP_cons_of_pos hopens] at hpre
  omega

/-- A node is listed under its key. -/
theorem mem_listNodes : node ∈ listNodes nodes ↔ ∃ key, nodes.lookup key = some node := by
  unfold listNodes
  rw [List.mem_mergeSort, List.mem_map]
  constructor
  · rintro ⟨⟨key, node⟩, hmem, rfl⟩
    exact ⟨key, HashMap.mem_entries.1 hmem⟩
  · rintro ⟨key, hlookup⟩
    exact ⟨⟨key, node⟩, HashMap.mem_entries.2 hlookup, rfl⟩

/-! ## The archive over a run -/

/-- If the addresses of the entries are their keys at first, they always are. -/
theorem RegistryRun.address (h : RegistryRun lower capacity (.initial nodes archive now) ts s)
    (h₀ : ∀ key node, nodes.lookup key = some node → node.address = key)
    (hnode : s.nodes.lookup key = some node) : node.address = key := by
  induction h generalizing node with
  | start hinit =>
    subst hinit
    exact h₀ key node hnode
  | @snoc _ s _ _ hrun hstep ih =>
    have hwrites := (step_cases hstep).writes
    cases hpre : s.nodes.lookup key with
    | none => exact (hwrites.entered hpre hnode (RegistryRun.sound hrun)).1
    | some node' => exact (hwrites.address hpre hnode (RegistryRun.sound hrun)).trans (ih hpre)

/-- Of two transitions of a run, the one with fewer transitions before it comes first. -/
theorem split_of_length_lt {later earlier newer older : List (Transition State Action)}
    {u : Transition State Action} (h : later ++ t :: earlier = newer ++ u :: older)
    (hlt : earlier.length < older.length) :
    ∃ mid, older = mid ++ t :: earlier ∧ later = newer ++ u :: mid := by
  obtain ⟨mid, hlater, hcons⟩ | ⟨mid, hnewer, hcons⟩ := List.append_eq_append_iff.1 h
  · have hlen := congrArg List.length hcons
    rw [List.length_append, List.length_cons, List.length_cons] at hlen
    omega
  · cases mid with
    | nil =>
      cases hcons
      exact absurd hlt (Nat.lt_irrefl _)
    | cons v mid =>
      cases hcons
      exact ⟨mid, rfl, hnewer⟩

/-- The list that a submission has archived has its node, unless a sweep removed it. -/
theorem RegistryRun.archivedSince {later earlier : List (Transition State Action)}
    (h : RegistryRun lower capacity (.initial nodes archive now) (later ++ t :: earlier) s)
    (hwrites : WritesBack capacity i a t)
    (hsaved : earlier.length < savedAt (later ++ t :: earlier)) :
    (∃ newer u mid, later = newer ++ u :: mid ∧ (mid ++ t :: earlier).length =
        savedAt (later ++ t :: earlier) ∧ s.archive = .nodes (listNodes u.pre.nodes) ∧
        a.key ∈ u.pre.nodes) ∨
      ∃ v ∈ later, a.key ∈ v.pre.nodes ∧ a.key ∉ v.post.nodes := by
  obtain ⟨newer, u, older, hsplit, hlength, harchive⟩ :=
    RegistryRun.saved h (saves_of_savedAt_pos (Nat.zero_lt_of_lt hsaved))
  obtain ⟨mid, rfl, rfl⟩ := split_of_length_lt hsplit (hlength ▸ hsaved)
  by_cases hkey : a.key ∈ u.pre.nodes
  · exact .inl ⟨newer, u, mid, rfl, hlength, harchive, hkey⟩
  · rw [List.append_assoc, List.cons_append] at h
    have hregistered : a.key ∈ t.post.nodes := by
      obtain ⟨-, hstep⟩ := h.mem (List.mem_append_right _ (List.mem_cons_of_mem _
        (List.mem_append_right _ List.mem_cons_self)))
      exact WritesBack.registered hwrites hstep
    obtain ⟨v, hv, hpre, hpost⟩ :=
      Run.lost (P := fun s => a.key ∈ s.nodes) h.before hregistered hkey
    exact .inr ⟨v, List.mem_append_right _ (List.mem_cons_of_mem _ hv), hpre, hpost⟩

/-- **The archive does not go back in time.** From the first write on, the archive lists the
registry as it was at some moment, `source`, which only goes forward. No two tasks write a temporary
file at a time, and the file of a generation is opened again only 2^64 files later. If all writes
succeed, then whenever a submission was answered with success, a node of its key that was registered
after its write-back is archived, or a sweep removed its key since. -/
theorem archive_moves_forward (h : RegistryRun lower capacity (.initial nodes archive now) ts s) :
    (∃ source : List (Transition State Action) → Nat,
      (∀ mid earlier, source earlier ≤ source (mid ++ earlier)) ∧
      ∀ later earlier s', ts = later ++ earlier →
        RegistryRun lower capacity (.initial nodes archive now) earlier s' →
        (∃ t ∈ earlier, Saves t) → ∃ newer u older, earlier = newer ++ u :: older ∧
          older.length = source earlier ∧ s'.archive = .nodes (listNodes u.pre.nodes)) ∧
    (∀ i j list list' g g' outcome outcome', s.tasks i = .persist (.writing list g) outcome →
      s.tasks j = .persist (.writing list' g') outcome' → i = j) ∧
    (∀ later t mid u earlier i j g, ts = later ++ t :: (mid ++ u :: earlier) → OpensFile i g t →
      OpensFile j g u → 2 ^ 64 ≤ mid.countP opens + 1) ∧
    (AllWritten ts → ∀ i result, s.tasks i = .done (.submitted result) → result.ok = true →
      ∃ later t earlier a, ts = later ++ t :: earlier ∧ WritesBack capacity i a t ∧
        ((∃ list node, s.archive = .nodes list ∧ node ∈ list ∧
            (∃ u ∈ later, u.pre.nodes.lookup a.key = some node) ∧
            ((∀ key node, nodes.lookup key = some node → node.address = key) →
              node.address = a.key)) ∨
          ∃ v ∈ later, a.key ∈ v.pre.nodes ∧ a.key ∉ v.post.nodes ∧
            ∃ j env targets results sweepNow, v.act = .run j env ∧
              v.pre.tasks j = .sweepStore targets results sweepNow)) := by
  refine ⟨⟨savedAt, fun mid _ => savedAt_mono mid, fun _ _ _ _ hrun hsaves =>
    RegistryRun.saved hrun hsaves⟩, ?_, ?_, ?_⟩
  · intro i j list list' g g' outcome outcome' hi hj
    have hlock := (RegistryRun.holds h i).1 (by rw [hi]; trivial)
    have hlock' := (RegistryRun.holds h j).1 (by rw [hj]; trivial)
    exact Option.some.inj (hlock.symm.trans hlock')
  · rintro later t mid u earlier i j g rfl ht hu
    exact RegistryRun.files h ht hu
  · intro hok i result htask hsuccess
    obtain ⟨later, t, earlier, a, rfl, hwrites⟩ :=
      RegistryRun.wroteBack h (i := i) hsuccess (by rw [htask]; rfl)
    obtain ⟨-, hsaved⟩ :=
      RegistryRun.archives h hwrites fun t ht => hok t (List.mem_append_left _ ht)
    rw [htask] at hsaved
    refine ⟨later, t, earlier, a, rfl, hwrites, ?_⟩
    obtain ⟨newer, u, mid, rfl, -, harchive, hkey⟩ | ⟨v, hv, hpre, hpost⟩ :=
      RegistryRun.archivedSince h hwrites hsaved
    · obtain ⟨node, hnode⟩ := Option.isSome_iff_exists.1 (AList.lookup_isSome.2 hkey)
      rw [List.append_assoc, List.cons_append] at h
      exact .inl ⟨_, node, harchive, mem_listNodes.2 ⟨a.key, hnode⟩,
        ⟨u, List.mem_append_right _ List.mem_cons_self, hnode⟩,
        fun h₀ => RegistryRun.address h.before h₀ hnode⟩
    · obtain ⟨⟨_, hrun⟩, hstep⟩ := h.mem (List.mem_append_left _ hv)
      obtain ⟨node, hnode⟩ := Option.isSome_iff_exists.1 (AList.lookup_isSome.2 hpre)
      obtain ⟨j, env, targets, results, sweepNow, hact, hsweep, -⟩ :=
        (step_cases hstep).writes.left hnode (AList.lookup_eq_none.2 hpost) (RegistryRun.sound hrun)
      exact .inr ⟨v, hv, hpre, hpost, j, env, targets, results, sweepNow, hact, hsweep⟩

end

/-! ## A recorded run -/

/-- The steps of writing the archive. -/
def persistSteps (i : Nat) : List Action := List.replicate 4 (.run i ⟨.busy, true⟩)

/-- An action writes the archive if it gets that far. -/
def Action.written : Action → Bool
  | .run _ env => env.written
  | _ => true

/-- The recorded run of a server whose writes all succeed. -/
def recordedWritten (acts : List Action) : Option State :=
  acts.foldlM (fun s act => if act.written then State.step id 200 s act else none)
    (.initial ∅ .unread 0)

/-- Such a recorded run is a run. -/
theorem recordedWritten_run {acts : List Action} {s : State} (h : recordedWritten acts = some s) :
    ∃ ts, RegistryRun id 200 (.initial ∅ .unread 0) ts s ∧ AllWritten ts := by
  obtain ⟨ts, hrun, hall⟩ := recorded_run_checked (p := fun _ act => act.written) h
  refine ⟨ts, hrun, fun t ht i env hact => ?_⟩
  have hw := hall t ht
  rw [hact] at hw
  exact hw

/-- The addresses in an archive. -/
def Archive.addresses : Archive → List String
  | .nodes list => list.map (·.address)
  | _ => []

/-- The success of a task. -/
def Task.succeeded : Task → Bool
  | .done (.submitted result) => result.ok
  | _ => false

theorem Task.succeeded_eq_true {task : Task} (h : task.succeeded = true) :
    ∃ result, task = .done (.submitted result) ∧ result.ok = true := by
  unfold Task.succeeded at h
  split at h
  · exact ⟨_, rfl, h⟩
  · cases h

/-- The step writes the archive if it gets that far, and no node leaves the registry. -/
def State.keepsNodes (s : State) (act : Action) : Bool :=
  act.written && (State.step id 200 s act).all fun s' => s.nodes.keys.all fun key => key ∈ s'.nodes

theorem State.mem_of_keepsNodes {s s' : State} {act : Action} {key : String}
    (h : s.keepsNodes act = true) (hstep : RegistryStep id 200 s act s') (hkey : key ∈ s.nodes) :
    key ∈ s'.nodes := by
  have hstep : State.step id 200 s act = some s' := hstep
  rw [State.keepsNodes, hstep, Option.all_some, Bool.and_eq_true, List.all_eq_true] at h
  exact of_decide_eq_true (h.2 key (AList.mem_keys.1 hkey))

/-- Two nodes are submitted. The first submission lists the nodes before the second one is written
back, which then has to wait for the lock before it lists them again. -/
def persistedSteps : List Action :=
  submitSteps 0 "tcp://a:1" 5 ++ (persistSteps 0).take 2 ++ [.tick (secs 40)] ++
    submitSteps 1 "tcp://b:2" 5 ++ (persistSteps 0).drop 2

/-- The recorded run of a server that keeps its nodes. -/
def persisted (acts : List Action) : Option State :=
  acts.foldlM (fun s act => if s.keepsNodes act then State.step id 200 s act else none)
    (.initial ∅ .unread 0)

/-- The first submission archives its node alone when both are registered; once both are answered
with success, both nodes are archived. -/
theorem archive_moves_forward_submitted : ∃ ts s s',
    persisted persistedSteps = some s' ∧ s'.nodes.keys.length = 2 ∧
      s'.archive.addresses = ["tcp://a:1"] ∧
      RegistryRun id 200 (.initial ∅ .unread 0) ts s ∧
      ∀ i ∈ [0, 1], ∃ t ∈ ts, ∃ a list node, WritesBack 200 i a t ∧
        s.archive = .nodes list ∧ node ∈ list ∧ node.address = a.key := by
  have hoverlap : (persisted persistedSteps).map
      (fun s => (s.nodes.keys.length, s.archive.addresses)) = some (2, ["tcp://a:1"]) := by
    decide +kernel
  have hrecorded : (persisted (persistedSteps ++ persistSteps 1)).map
      (fun s => ((s.tasks 0).succeeded, (s.tasks 1).succeeded)) = some (true, true) := by
    decide +kernel
  obtain ⟨s', hs', hoverlap⟩ := Option.map_eq_some_iff.1 hoverlap
  obtain ⟨s, hs, hrecorded⟩ := Option.map_eq_some_iff.1 hrecorded
  obtain ⟨hkeys, haddresses⟩ := Prod.mk.inj hoverlap
  obtain ⟨ts, h, hkeeps⟩ := recorded_run_checked hs
  refine ⟨ts, s, s', hs', hkeys, haddresses, h, fun i hi => ?_⟩
  have hwritten : AllWritten ts := fun t ht i env hact => by
    have hkept := hkeeps t ht
    rw [hact] at hkept
    exact (Bool.and_eq_true_iff.1 hkept).1
  have hsucceeded : (s.tasks i).succeeded = true := by
    rcases List.mem_pair.1 hi with rfl | rfl
    · exact congrArg Prod.fst hrecorded
    · exact congrArg Prod.snd hrecorded
  obtain ⟨result, htask, hok⟩ := Task.succeeded_eq_true hsucceeded
  obtain ⟨-, -, -, hsuccess⟩ := archive_moves_forward h
  obtain ⟨later, t, earlier, a, rfl, hwrites, ⟨list, node, harchive, hmem, -, haddress⟩ |
    ⟨v, hv, hpre, hpost, -⟩⟩ := hsuccess hwritten i result htask hok
  · exact ⟨t, List.mem_append_right _ List.mem_cons_self, a, list, node, hwrites, harchive, hmem,
      haddress nofun⟩
  · have hv := List.mem_append_left (t :: earlier) hv
    exact absurd (State.mem_of_keepsNodes (hkeeps v hv) (h.mem hv).2 hpre) hpost

end MctierSignaling.CommunityNodes
