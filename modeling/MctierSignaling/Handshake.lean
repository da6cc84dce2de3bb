import MctierSignaling.ForwardedSource

/-!
# Handshakes

The accept loop of `main.rs` and the handshake of `connection.rs`. A socket that is accepted takes a
lease of the pending pool; when its request arrives, the lease is charged to the source that the
headers name, and a lease of the active pool is taken; once the response is written, the pending
lease is dropped, and the active one lives until the handler returns. A handshake that is refused,
fails or times out drops what it holds. Sockets of any number are at any of these points at once,
and every call on a pool is a step of its own.

The accounts of both pools are those of the leases that the sockets hold (`DoorInv`), so in every
run the sockets that are served, those that shake hands, and both by source, are within the limits,
and no lease is lost (`admission_bounded`).
-/

namespace MctierSignaling.ConnectionGuard

/-! ## Sockets -/

/-- The two pools of an admission. -/
structure Pools where
  pending : Pool
  active : Pool

/-- A socket and the leases that it holds. Reference: `handle_connection_with_timeouts_and_limits`
(`connection.rs:84-144`). -/
inductive Socket where
  /-- It waits for the request. -/
  | waiting (peer : IpAddr) (pending : Lease)
  /-- The pending lease is charged to the source of the request. -/
  | resolved (source : IpAddr) (pending : Lease)
  /-- It has its active lease, and the response is being written. -/
  | granted (source : IpAddr) (pending active : Lease)
  /-- The handshake is over. -/
  | established (source : IpAddr) (pending active : Lease)
  /-- Its handler runs. -/
  | serving (source : IpAddr) (active : Lease)
  /-- The handshake failed. -/
  | failed (pending : Lease) (active : Option Lease)
  /-- The handler has returned. -/
  | closing (active : Lease)

def Socket.pending : Socket → Option Lease
  | .waiting _ pending | .resolved _ pending | .granted _ pending _ | .established _ pending _
  | .failed pending _ => some pending
  | .serving .. | .closing _ => none

def Socket.active : Socket → Option Lease
  | .granted _ _ active | .established _ _ active | .serving _ active | .closing active =>
    some active
  | .failed _ active => active
  | .waiting .. | .resolved .. => none

/-- What happens to a socket next. -/
inductive Turn where
  | request (headers : HeaderMap)
  | activate
  | response
  | abort
  | return_
  | drop

section
variable (parseIp : List Char → Option IpAddr)

/-- A turn of a socket, and what is left of it, unless a subtraction of a pool underflows. A
handshake may end while it waits or writes, by its timeout or by an error of the connection; the
request's checks run in one go. Reference: `handle_connection_with_timeouts_and_limits`
(`connection.rs:84-144`). -/
def Socket.turn (adm : Admission) (p : Pools) : Socket → Turn → Option (Pools × Option Socket)
  | .waiting peer pending, .request headers =>
    match adm.source parseIp peer headers with
    | .error _ => some (p, some (.failed pending none))
    | .ok ip => (pending.resolveSource p.pending ip).map fun
      | .error _ => (p, some (.failed pending none))
      | .ok (pool, lease) => ({ p with pending := pool }, some (.resolved ip lease))
  | .resolved source pending, .activate =>
    match p.active.acquire (Admission.activeSource source) with
    | .error _ => some (p, some (.failed pending none))
    | .ok (pool, lease) => some ({ p with active := pool }, some (.granted source pending lease))
  | .granted source pending active, .response =>
    some (p, some (.established source pending active))
  | .waiting _ pending, .abort => some (p, some (.failed pending none))
  | .granted _ pending active, .abort => some (p, some (.failed pending (some active)))
  | .established source pending active, .drop => (pending.drop p.pending).map fun pool =>
    ({ p with pending := pool }, some (.serving source active))
  | .serving _ active, .return_ => some (p, some (.closing active))
  | .failed pending active, .drop => (pending.drop p.pending).map fun pool =>
    ({ p with pending := pool }, active.map .closing)
  | .closing active, .drop => (active.drop p.active).map fun pool =>
    ({ p with active := pool }, none)
  | _, _ => none

/-! ## The door -/

/-- The pools, and the sockets that are neither closed nor turned away. -/
structure Door where
  pools : Pools
  sockets : Multiset Socket

inductive DoorAction where
  | accept (peer : IpAddr)
  | turn (socket : Socket) (turn : Turn)

/-- The accept loop takes a socket or turns it away, or a socket has its turn. Reference: `main`
(`main.rs:99-145`). -/
inductive DoorStep (adm : Admission) (s : Door) : DoorAction → Door → Prop
  | accepted {peer : IpAddr} {pool : Pool} {lease : Lease} :
      s.pools.pending.acquire (adm.pendingSource peer) = .ok (pool, lease) →
      DoorStep adm s (.accept peer)
        ⟨{ s.pools with pending := pool }, .waiting peer lease ::ₘ s.sockets⟩
  | refused {peer : IpAddr} {reason : String} :
      s.pools.pending.acquire (adm.pendingSource peer) = .error reason →
      DoorStep adm s (.accept peer) s
  | turned {socket next : Socket} {turn : Turn} {rest : Multiset Socket} {p : Pools} :
      s.sockets = socket ::ₘ rest → socket.turn parseIp adm s.pools turn = some (p, some next) →
      DoorStep adm s (.turn socket turn) ⟨p, next ::ₘ rest⟩
  | closed {socket : Socket} {turn : Turn} {rest : Multiset Socket} {p : Pools} :
      s.sockets = socket ::ₘ rest → socket.turn parseIp adm s.pools turn = some (p, none) →
      DoorStep adm s (.turn socket turn) ⟨p, rest⟩

/-- The runs of the door of an admission. -/
abbrev DoorRun (adm : Admission) (ts : List (Transition Door DoorAction)) (s : Door) : Prop :=
  Run (· = ⟨⟨adm.pending, adm.active⟩, 0⟩) (DoorStep parseIp adm) ts s

end

/-! ## The invariant -/

/-- The leases that sockets hold. -/
def leases (f : Socket → Option Lease) (sockets : Multiset Socket) : Multiset Lease :=
  sockets.filterMap f

/-- The leases of a socket are charged to its source, the active one if sources have a share. -/
def Socket.Charged (adm : Admission) : Socket → Prop
  | .waiting peer pending => pending.source = adm.pendingSource peer
  | .resolved source pending => pending.source = some (quotaSource source)
  | .granted source pending active | .established source pending active =>
    pending.source = some (quotaSource source) ∧
      (adm.active.sourceLimit.isSome → active.source = some (quotaSource source))
  | .serving source active =>
    adm.active.sourceLimit.isSome → active.source = some (quotaSource source)
  | .failed .. | .closing _ => True

/-- The pools account for the leases of the sockets. -/
structure DoorInv (adm : Admission) (s : Door) : Prop where
  pending : Accounted ⟨s.pools.pending, leases Socket.pending s.sockets⟩
  active : Accounted ⟨s.pools.active, leases Socket.active s.sockets⟩
  pendingLimits : s.pools.pending.limit = adm.pending.limit ∧
    s.pools.pending.sourceLimit = adm.pending.sourceLimit
  activeLimits : s.pools.active.limit = adm.active.limit ∧
    s.pools.active.sourceLimit = adm.active.sourceLimit
  charged : ∀ socket ∈ s.sockets, socket.Charged adm

section
variable {parseIp : List Char → Option IpAddr} {adm : Admission} {s s' : Door} {p : Pools}
  {socket : Socket} {sockets rest : Multiset Socket} {turn : Turn} {next : Option Socket}
  {f : Socket → Option Lease}

theorem leases_cons : leases f (socket ::ₘ sockets) =
    (f socket).elim (leases f sockets) (· ::ₘ leases f sockets) := by
  unfold leases
  cases h : f socket with
  | none => exact Multiset.filterMap_cons_none _ _ h
  | some lease => exact Multiset.filterMap_cons_some _ _ _ h

/-- A lease of a pool with shares is charged to its source. -/
theorem Pool.acquire_source {pool pool' : Pool} {source : Option IpAddr} {lease : Lease}
    (hshare : pool.sourceLimit.isSome) (h : pool.acquire source = .ok (pool', lease)) :
    lease.source = source := by
  obtain ⟨limit, hlimit⟩ := Option.isSome_iff_exists.1 hshare
  unfold Pool.acquire at h
  rw [hlimit] at h
  split at h
  · cases h
  cases source with
  | none =>
    cases h
    rfl
  | some ip =>
    dsimp only at h
    split at h
    · cases h
    · cases h
      rfl

/-- What a turn does: it moves on, or it charges, takes or drops one lease. -/
inductive Turned (adm : Admission) (p : Pools) (socket : Socket) : Pools → Option Socket → Prop
  | moves {next : Socket} : next.pending = socket.pending → next.active = socket.active →
      (socket.Charged adm → next.Charged adm) → Turned adm p socket p (some next)
  | resolves {peer source : IpAddr} {pending lease : Lease} {pool : Pool} :
      socket = .waiting peer pending →
      pending.resolveSource p.pending source = some (.ok (pool, lease)) →
      Turned adm p socket { p with pending := pool } (some (.resolved source lease))
  | grants {source : IpAddr} {pending lease : Lease} {pool : Pool} :
      socket = .resolved source pending →
      p.active.acquire (Admission.activeSource source) = .ok (pool, lease) →
      Turned adm p socket { p with active := pool } (some (.granted source pending lease))
  | dropsPending {pending : Lease} {pool : Pool} {next : Option Socket} :
      socket.pending = some pending → pending.drop p.pending = some pool →
      (next.bind Socket.pending = none) → next.bind Socket.active = socket.active →
      (socket.Charged adm → ∀ k, next = some k → k.Charged adm) →
      Turned adm p socket { p with pending := pool } next
  | dropsActive {active : Lease} {pool : Pool} : socket = .closing active →
      active.drop p.active = some pool → Turned adm p socket { p with active := pool } none

theorem Socket.turn_cases {p' : Pools} (h : socket.turn parseIp adm p turn = some (p', next)) :
    Turned adm p socket p' next := by
  unfold Socket.turn at h
  split at h
  · split at h
    · cases h
      exact .moves rfl rfl fun _ => trivial
    · obtain ⟨out, hresolve, heq⟩ := Option.map_eq_some_iff.1 h
      cases out with
      | error =>
        cases heq
        exact .moves rfl rfl fun _ => trivial
      | ok out =>
        cases heq
        exact .resolves rfl hresolve
  · split at h
    · cases h
      exact .moves rfl rfl fun _ => trivial
    · next hacquire =>
      cases h
      exact .grants rfl hacquire
  · cases h
    exact .moves rfl rfl id
  · cases h
    exact .moves rfl rfl fun _ => trivial
  · cases h
    exact .moves rfl rfl fun _ => trivial
  · obtain ⟨pool, hdrop, heq⟩ := Option.map_eq_some_iff.1 h
    cases heq
    refine .dropsPending rfl hdrop rfl rfl fun hcharged k hk => ?_
    cases hk
    exact hcharged.2
  · cases h
    exact .moves rfl rfl fun _ => trivial
  · obtain ⟨pool, hdrop, heq⟩ := Option.map_eq_some_iff.1 h
    cases heq
    next active =>
    refine .dropsPending rfl hdrop ?_ ?_ fun _ k hk => ?_
    · cases active <;> rfl
    · cases active <;> rfl
    · obtain ⟨lease, -, rfl⟩ := Option.map_eq_some_iff.1 hk
      trivial
  · obtain ⟨pool, hdrop, heq⟩ := Option.map_eq_some_iff.1 h
    cases heq
    exact .dropsActive rfl hdrop
  · cases h

theorem leases_next : leases f (next.elim rest (· ::ₘ rest)) =
    (next.bind f).elim (leases f rest) (· ::ₘ leases f rest) := by
  cases next with
  | none => rfl
  | some socket => exact leases_cons

/-- The leases of the other sockets, and of what is left of one. -/
def leasesWith (f : Socket → Option Lease) (rest : Multiset Socket) (next : Option Socket) :
    Multiset Lease :=
  (next.bind f).elim (leases f rest) (· ::ₘ leases f rest)

/-- The invariant, with what is left of one socket set apart. -/
theorem DoorInv.of_next
    (hpending : Accounted ⟨p.pending, leasesWith Socket.pending rest next⟩)
    (hactive : Accounted ⟨p.active, leasesWith Socket.active rest next⟩)
    (hpl : p.pending.limit = adm.pending.limit ∧ p.pending.sourceLimit = adm.pending.sourceLimit)
    (hal : p.active.limit = adm.active.limit ∧ p.active.sourceLimit = adm.active.sourceLimit)
    (hrest : ∀ k ∈ rest, k.Charged adm) (hnext : ∀ k, next = some k → k.Charged adm) :
    DoorInv adm ⟨p, next.elim rest (· ::ₘ rest)⟩ where
  pending := by
    dsimp only
    rw [leases_next]
    exact hpending
  active := by
    dsimp only
    rw [leases_next]
    exact hactive
  pendingLimits := hpl
  activeLimits := hal
  charged k hk := by
    cases next with
    | none => exact hrest k hk
    | some socket =>
      rcases Multiset.mem_cons.1 hk with rfl | hk
      · exact hnext k rfl
      · exact hrest k hk

/-- A turn keeps the invariant. -/
theorem DoorInv.turned {p' : Pools} (h : DoorInv adm s) (hs : s.sockets = socket ::ₘ rest)
    (ht : Turned adm s.pools socket p' next) :
    DoorInv adm ⟨p', next.elim rest (· ::ₘ rest)⟩ := by
  have hpending := h.pending
  have hactive := h.active
  have hrest : ∀ k ∈ rest, k.Charged adm := fun k hk =>
    h.charged k (hs ▸ Multiset.mem_cons_of_mem hk)
  have hself : socket.Charged adm := h.charged socket (hs ▸ Multiset.mem_cons_self _ _)
  rw [hs, leases_cons] at hpending hactive
  cases ht with
  | @moves next hp ha hcharged =>
    refine .of_next ?_ ?_ h.pendingLimits h.activeLimits hrest fun k hk => ?_
    · rw [leasesWith, Option.bind_some, hp]
      exact hpending
    · rw [leasesWith, Option.bind_some, ha]
      exact hactive
    · cases hk
      exact hcharged hself
  | @resolves peer source pending lease pool heq hresolve =>
    subst heq
    obtain ⟨_, herror⟩ | ⟨_, _, hok, hacc, hsource, hpool⟩ := hpending.resolve rfl source
    · cases herror.symm.trans hresolve
    cases hok.symm.trans hresolve
    refine .of_next hacc hactive ?_ h.activeLimits hrest fun k hk => ?_
    · rw [hpool]
      exact h.pendingLimits
    · cases hk
      exact hsource
  | @grants source pending lease pool heq hacquire =>
    subst heq
    have hpool := (Pool.acquire_ok hacquire).2.1
    refine .of_next hpending (hactive.acquire hacquire) h.pendingLimits ?_ hrest fun k hk => ?_
    · rw [hpool]
      exact h.activeLimits
    · cases hk
      exact ⟨hself, fun hshare => Pool.acquire_source (h.activeLimits.2 ▸ hshare) hacquire⟩
  | @dropsPending pending pool next hp hdrop hgone ha hcharged =>
    rw [hp] at hpending
    obtain ⟨_, hok, hacc, hpool⟩ := hpending.drop rfl
    cases hok.symm.trans hdrop
    refine .of_next ?_ ?_ ?_ h.activeLimits hrest (hcharged hself)
    · rw [leasesWith, hgone]
      exact hacc
    · rw [leasesWith, ha]
      exact hactive
    · rw [hpool]
      exact h.pendingLimits
  | @dropsActive active pool heq hdrop =>
    subst heq
    obtain ⟨_, hok, hacc, hpool⟩ := hactive.drop rfl
    cases hok.symm.trans hdrop
    have hnone : ∀ k, (none : Option Socket) = some k → k.Charged adm := nofun
    refine .of_next hpending hacc h.pendingLimits ?_ hrest hnone
    rw [hpool]
    exact h.activeLimits

/-- Every step keeps the invariant. -/
theorem DoorInv.step {act : DoorAction} (hshare : adm.pending.sourceLimit.isSome)
    (h : DoorInv adm s) (hs : DoorStep parseIp adm s act s') : DoorInv adm s' := by
  cases hs with
  | @accepted peer pool lease hacquire =>
    refine ⟨?_, ?_, ?_, h.activeLimits, fun k hk => ?_⟩
    · dsimp only
      rw [leases_cons]
      exact h.pending.acquire hacquire
    · dsimp only
      rw [leases_cons]
      exact h.active
    · rw [(Pool.acquire_ok hacquire).2.1]
      exact h.pendingLimits
    · rcases Multiset.mem_cons.1 hk with rfl | hk
      · exact Pool.acquire_source (h.pendingLimits.2 ▸ hshare) hacquire
      · exact h.charged k hk
  | refused => exact h
  | turned hlive hturn | closed hlive hturn => exact h.turned hlive (Socket.turn_cases hturn)

end

/-! ## Runs -/

/-- The handshake of the socket is over, and its handler has not returned. -/
def Socket.served : Socket → Bool
  | .established .. | .serving .. => true
  | _ => false

/-- The socket shakes hands. -/
def Socket.shaking : Socket → Bool
  | .waiting .. | .resolved .. | .granted .. => true
  | _ => false

/-- The source whose share the socket uses, if it is known. -/
def Socket.origin (adm : Admission) : Socket → Option IpAddr
  | .waiting peer _ => adm.pendingSource peer
  | .resolved source _ | .granted source .. | .established source .. | .serving source _ =>
    some (quotaSource source)
  | .failed .. | .closing _ => none

/-- What can happen to a socket. -/
def Socket.awaits : Socket → Turn → Bool
  | .waiting .., .request _ | .waiting .., .abort | .resolved .., .activate | .granted .., .response
  | .granted .., .abort | .established .., .drop | .serving .., .return_ | .failed .., .drop
  | .closing _, .drop => true
  | _, _ => false

section
variable {parseIp : List Char → Option IpAddr} {max : Nat} {perSource : Option Nat}
  {proxies : List Char} {adm : Admission} {s : Door} {socket : Socket} {sockets : Multiset Socket}
  {f : Socket → Option Lease} {p : Socket → Prop} [DecidablePred p]
  {ts : List (Transition Door DoorAction)}

/-- Sockets that hold a lease are no more than the leases. -/
theorem countP_le_leases (h : ∀ k ∈ sockets, p k → (f k).isSome) :
    sockets.countP p ≤ (leases f sockets).card := by
  induction sockets using Multiset.induction_on with
  | empty => exact Nat.zero_le _
  | cons k sockets ih =>
    have hrest := ih fun k' hk' => h k' (Multiset.mem_cons_of_mem hk')
    have hself := h k (Multiset.mem_cons_self _ _)
    rw [leases_cons, Multiset.countP_cons]
    cases hk : f k with
    | none =>
      rw [if_neg fun hp => by simp [hk] at hself; exact hself hp]
      exact hrest
    | some lease =>
      simp only [Option.elim_some, Multiset.card_cons]
      split <;> omega

/-- Sockets that hold a lease of one source are no more than the charges of this source. -/
theorem countP_le_charged {ip : IpAddr}
    (h : ∀ k ∈ sockets, p k → ∃ lease, f k = some lease ∧ lease.source = some ip) :
    sockets.countP p ≤ (charged (leases f sockets)).count ip := by
  induction sockets using Multiset.induction_on with
  | empty => exact Nat.zero_le _
  | cons k sockets ih =>
    have hrest := ih fun k' hk' => h k' (Multiset.mem_cons_of_mem hk')
    rw [leases_cons, Multiset.countP_cons]
    by_cases hp : p k
    · obtain ⟨lease, hk, hlease⟩ := h k (Multiset.mem_cons_self _ _) hp
      rw [if_pos hp, hk, Option.elim_some, charged_cons, hlease]
      dsimp only
      rw [Multiset.count_cons_self]
      omega
    · rw [if_neg hp]
      refine le_trans hrest ?_
      cases f k with
      | none => exact le_rfl
      | some lease =>
        rw [Option.elim_some, charged_cons]
        split
        · exact le_rfl
        · exact Multiset.count_le_of_le ip (Multiset.le_cons_self _ _)

/-- The invariant holds in every run. -/
theorem DoorRun.inv (hadm : Admission.new parseIp max perSource proxies = .ok adm)
    (h : DoorRun parseIp adm ts s) : DoorInv adm s := by
  obtain ⟨hpending, hactive⟩ := Admission.new_pools hadm
  have hnew : ∀ limit sourceLimit, Accounted ⟨.new limit sourceLimit, 0⟩ := fun _ _ =>
    ⟨rfl, Nat.zero_le _, Counts.empty, fun _ _ _ => Nat.zero_le _⟩
  induction h with
  | start hs =>
    subst hs
    refine ⟨?_, ?_, ⟨rfl, rfl⟩, ⟨rfl, rfl⟩, nofun⟩
    · rw [hpending]
      exact hnew _ _
    · rw [hactive]
      exact hnew _ _
  | snoc _ hs ih => exact ih.step (by rw [hpending]; rfl) hs

/-- A socket can do what it waits for: no pool underflows. -/
theorem DoorInv.turn_isSome {turn : Turn} (h : DoorInv adm s) (hk : socket ∈ s.sockets)
    (hawaits : socket.awaits turn = true) : (socket.turn parseIp adm s.pools turn).isSome := by
  obtain ⟨rest, hs⟩ := Multiset.exists_cons_of_mem hk
  have hpending := h.pending
  have hactive := h.active
  rw [hs, leases_cons] at hpending hactive
  have hdropPending : ∀ pending, socket.pending = some pending →
      ∃ pool, pending.drop s.pools.pending = some pool := by
    intro pending heq
    rw [heq] at hpending
    obtain ⟨pool, hdrop, -⟩ := hpending.drop rfl
    exact ⟨pool, hdrop⟩
  cases socket with
  | waiting peer pending =>
    cases turn with
    | request headers =>
      unfold Socket.turn
      dsimp only
      split
      · rfl
      next ip _ =>
      obtain ⟨_, hresolve⟩ | ⟨_, _, hresolve, -⟩ := hpending.resolve rfl ip <;>
        rw [hresolve] <;> rfl
    | abort => rfl
    | _ => cases hawaits
  | resolved source pending =>
    cases turn with
    | activate =>
      unfold Socket.turn
      dsimp only
      split <;> rfl
    | _ => cases hawaits
  | established source pending active =>
    cases turn with
    | drop =>
      obtain ⟨pool, hdrop⟩ := hdropPending pending rfl
      rw [Socket.turn, hdrop]
      rfl
    | _ => cases hawaits
  | failed pending active =>
    cases turn with
    | drop =>
      obtain ⟨pool, hdrop⟩ := hdropPending pending rfl
      rw [Socket.turn, hdrop]
      rfl
    | _ => cases hawaits
  | closing active =>
    cases turn with
    | drop =>
      obtain ⟨pool, hdrop, -⟩ := hactive.drop rfl
      rw [Socket.turn, hdrop]
      rfl
    | _ => cases hawaits
  | granted | serving =>
    cases turn <;> first | rfl | cases hawaits

theorem Socket.active_of_served (h : socket.served = true) : socket.active.isSome := by
  cases socket <;> first | rfl | cases h

theorem Socket.pending_of_shaking (h : socket.shaking = true) : socket.pending.isSome := by
  cases socket <;> first | rfl | cases h

/-- The active lease of a socket with a handler is charged to its origin. -/
theorem Socket.Charged.active {ip : IpAddr} (h : socket.Charged adm)
    (hshare : adm.active.sourceLimit.isSome) (hserved : socket.served = true)
    (horigin : socket.origin adm = some ip) :
    ∃ lease, socket.active = some lease ∧ lease.source = some ip := by
  cases socket with
  | established source pending active => exact ⟨active, rfl, (h.2 hshare).trans horigin⟩
  | serving source active => exact ⟨active, rfl, (h hshare).trans horigin⟩
  | _ => cases hserved

/-- The pending lease of a handshake is charged to its origin. -/
theorem Socket.Charged.pending {ip : IpAddr} (h : socket.Charged adm)
    (hshaking : socket.shaking = true) (horigin : socket.origin adm = some ip) :
    ∃ lease, socket.pending = some lease ∧ lease.source = some ip := by
  cases socket with
  | waiting peer pending => exact ⟨pending, rfl, h.trans horigin⟩
  | resolved source pending => exact ⟨pending, rfl, h.trans horigin⟩
  | granted source pending active => exact ⟨pending, rfl, h.1.trans horigin⟩
  | _ => cases hshaking

/-- **The door keeps its limits.** In every run of the accept loop, whatever the order of the calls
on the two pools, the sockets whose handlers run are at most the maximum of connections, and those
that shake hands at most 128; with a limit for sources, no source, be it named by a trusted proxy,
has more handlers than its share, and no known source ever has more handshakes than 16. No socket
gets stuck on its leases, and without sockets the pools are as they were at first. -/
theorem admission_bounded (hadm : Admission.new parseIp max perSource proxies = .ok adm)
    (h : DoorRun parseIp adm ts s) :
    (s.sockets.countP (·.served = true) ≤ Nat.max max 1 ∧
      s.sockets.countP (·.shaking = true) ≤ min (Nat.max max 1) 128) ∧
    (∀ limit, perSource = some limit → ∀ ip,
      s.sockets.countP (fun k => k.served = true ∧ k.origin adm = some ip) ≤
        min (Nat.max limit 1) (Nat.max (max - 1) 1)) ∧
    (∀ ip, s.sockets.countP (fun k => k.shaking = true ∧ k.origin adm = some ip) ≤ 16) ∧
    (∀ k ∈ s.sockets, ∀ turn, k.awaits turn = true →
      (k.turn parseIp adm s.pools turn).isSome = true) ∧
    (s.sockets = 0 → s.pools = ⟨adm.pending, adm.active⟩) := by
  have hinv := h.inv hadm
  obtain ⟨hpending, hactive⟩ := Admission.new_pools hadm
  obtain ⟨hpl, hps⟩ := hinv.pendingLimits
  obtain ⟨hal, has⟩ := hinv.activeLimits
  rw [hpending, Pool.new] at hpl hps
  rw [hactive, Pool.new] at hal has
  refine ⟨⟨?_, ?_⟩, fun limit hlimit ip => ?_, fun ip => ?_, fun k hk turn => hinv.turn_isSome hk,
    fun hnone => ?_⟩
  · refine le_trans (countP_le_leases fun k _ hserved => k.active_of_served hserved) ?_
    exact le_trans hinv.active.bounded (le_of_eq hal)
  · refine le_trans (countP_le_leases fun k _ hshaking => k.pending_of_shaking hshaking) ?_
    exact le_trans hinv.pending.bounded (le_of_eq hpl)
  · rw [hlimit] at has
    have hshare : adm.active.sourceLimit.isSome := by rw [hactive, hlimit]; rfl
    exact le_trans (countP_le_charged fun k hk hboth =>
      (hinv.charged k hk).active hshare hboth.1 hboth.2) (hinv.active.share _ has ip)
  · refine le_trans (countP_le_charged fun k hk hboth =>
      (hinv.charged k hk).pending hboth.1 hboth.2) (le_trans (hinv.pending.share _ hps ip) ?_)
    exact Nat.min_le_right _ _
  · have hpools : ∀ {pool : Pool}, Accounted ⟨pool, 0⟩ →
        pool = .new pool.limit pool.sourceLimit := by
      intro pool hacc
      rw [Pool.new, ← hacc.sources.eq_empty]
      exact congrArg (Pool.mk _ _ · _) hacc.total
    have hp : Accounted ⟨s.pools.pending, 0⟩ := by
      have := hinv.pending
      rwa [hnone] at this
    have ha : Accounted ⟨s.pools.active, 0⟩ := by
      have := hinv.active
      rwa [hnone] at this
    have hp := hpools hp
    have ha := hpools ha
    rw [hpl, hps] at hp
    rw [hal, has] at ha
    rw [hpending, hactive, ← hp, ← ha]

end

/-- One connection shakes hands, and its handler runs. -/
theorem admission_bounded_served : ∃ (ts : List (Transition Door DoorAction)) (s : Door),
    DoorRun (fun _ => none) pairAdmission ts s ∧ ts.length = 5 ∧
    s.sockets.countP (·.served = true) = 1 ∧ ∀ ip,
      s.sockets.countP (fun k => k.served = true ∧ k.origin pairAdmission = some ip) ≤ 1 := by
  let parseIp : List Char → Option IpAddr := fun _ => none
  let peer : IpAddr := .v4 ⟨192, 0, 2, 1⟩
  let lease : Lease := ⟨some peer⟩
  let start : Door := ⟨⟨pairAdmission.pending, pairAdmission.active⟩, 0⟩
  let taken : Pool := ⟨2, some 1, 1, increment ∅ peer⟩
  let back : Pool := ⟨2, some 1, 0, (increment ∅ peer).erase peer⟩
  have haccept : DoorStep parseIp pairAdmission start (.accept peer)
      ⟨⟨taken, pairAdmission.active⟩, .waiting peer lease ::ₘ 0⟩ := .accepted rfl
  have hrequest : DoorStep parseIp pairAdmission
      ⟨⟨taken, pairAdmission.active⟩, .waiting peer lease ::ₘ 0⟩
      (.turn (.waiting peer lease) (.request ⟨[], []⟩))
      ⟨⟨taken, pairAdmission.active⟩, .resolved peer lease ::ₘ 0⟩ := .turned rfl rfl
  have hadmit : DoorStep parseIp pairAdmission
      ⟨⟨taken, pairAdmission.active⟩, .resolved peer lease ::ₘ 0⟩
      (.turn (.resolved peer lease) .activate) ⟨⟨taken, taken⟩, .granted peer lease lease ::ₘ 0⟩ :=
    .turned rfl rfl
  have hresponse : DoorStep parseIp pairAdmission
      ⟨⟨taken, taken⟩, .granted peer lease lease ::ₘ 0⟩
      (.turn (.granted peer lease lease) .response)
      ⟨⟨taken, taken⟩, .established peer lease lease ::ₘ 0⟩ := .turned rfl rfl
  have hdrop : DoorStep parseIp pairAdmission
      ⟨⟨taken, taken⟩, .established peer lease lease ::ₘ 0⟩
      (.turn (.established peer lease lease) .drop)
      ⟨⟨back, taken⟩, .serving peer lease ::ₘ 0⟩ := .turned rfl rfl
  have hstart : DoorRun parseIp pairAdmission [] start := .start rfl
  have hrun := ((((hstart.snoc haccept).snoc hrequest).snoc hadmit).snoc hresponse).snoc hdrop
  have hadm : Admission.new parseIp 2 (some 1) [] = .ok pairAdmission := rfl
  obtain ⟨-, hshare, -⟩ := admission_bounded hadm hrun
  exact ⟨_, _, hrun, rfl, by decide, hshare 1 rfl⟩

end MctierSignaling.ConnectionGuard
