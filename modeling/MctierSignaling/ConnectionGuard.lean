import MctierSignaling.Text
import MctierSignaling.Lib.Counts
import MctierSignaling.Lib.Transition
import Mathlib.Data.Multiset.Filter

/-!
# Connection admission

`connection_guard.rs`. A connection holds a lease of the pending pool while it shakes hands, and one
of the active pool from then on. A pool counts its leases, and how many of them each source is
charged with; the source of a lease may change while it lives, when the forwarded address of a
proxied handshake becomes known. The parser of addresses is a parameter, `parseIp`.

In every run of a pool its two counts are those of the leases that live (`Accounted`), so that no
subtraction underflows and no count is left behind (`lease_accounting`).
-/

namespace MctierSignaling.ConnectionGuard

/-! ## Pools and leases -/

/-- Reference: `Pool` (`connection_guard.rs:30`). -/
structure Pool where
  limit : Nat
  sourceLimit : Option Nat
  total : Nat
  sources : HashMap IpAddr Nat

/-- A lease, with the source it is charged to. Reference: `Lease` (`connection_guard.rs:41`). -/
structure Lease where
  source : Option IpAddr
  deriving DecidableEq

/-- The source has used up its share. -/
def Pool.sourceFull (p : Pool) (source : IpAddr) (limit : Nat) : Bool :=
  countOf p.sources source ≥ limit

/-- Reference: `Pool::acquire` (`connection_guard.rs:47`). -/
def Pool.acquire (p : Pool) (source : Option IpAddr) : Except String (Pool × Lease) :=
  if p.total ≥ p.limit then .error "connection capacity reached"
  else match source, p.sourceLimit with
  | some ip, some limit =>
    if p.sourceFull ip limit then .error "source connection capacity reached"
    else .ok ({ p with total := p.total + 1, sources := increment p.sources ip }, ⟨some ip⟩)
  | _, _ => .ok ({ p with total := p.total + 1 }, ⟨none⟩)

/-- Takes a charge away, if there is one. -/
def uncharge (sources : HashMap IpAddr Nat) : Option IpAddr → Option (HashMap IpAddr Nat)
  | none => some sources
  | some ip => decrement sources ip

/-- The pool after a lease is dropped, unless a subtraction underflows. Reference: `Lease::drop`
(`connection_guard.rs:72`). -/
def Lease.drop (lease : Lease) (p : Pool) : Option Pool :=
  if p.total = 0 then none
  else (uncharge p.sources lease.source).map fun sources =>
    { p with total := p.total - 1, sources }

/-- Moves the charge of a lease to another source, unless a subtraction underflows. Reference:
`Lease::resolve_source` (`connection_guard.rs:93`). -/
def Lease.resolveSource (lease : Lease) (p : Pool) (source : IpAddr) :
    Option (Except String (Pool × Lease)) :=
  let source := quotaSource source
  if lease.source = some source then some (.ok (p, lease))
  else match p.sourceLimit with
  | none => some (.error "source connection capacity reached")
  | some limit =>
    if p.sourceFull source limit then some (.error "source connection capacity reached")
    else (uncharge (increment p.sources source) lease.source).map fun sources =>
      .ok ({ p with sources }, ⟨some source⟩)

/-! ## Admission -/

/-- Reference: `Admission` (`connection_guard.rs:24`). -/
structure Admission where
  trustedProxies : List IpAddr
  pending : Pool
  active : Pool

def DEFAULT_PENDING_SOURCE_LIMIT : Nat := 16

/-- A pool without leases. -/
def Pool.new (limit : Nat) (sourceLimit : Option Nat) : Pool := ⟨limit, sourceLimit, 0, ∅⟩

/-- One of the trusted proxies. -/
def parseProxy (parseIp : List Char → Option IpAddr) (s : List Char) : Except String IpAddr :=
  match parseIp (trim s) with
  | some ip => .ok (canonical ip)
  | none => .error "TRUSTED_PROXIES must contain comma-separated IP addresses"

/-- Reference: `Admission::new` (`connection_guard.rs:121`). -/
def Admission.new (parseIp : List Char → Option IpAddr) (max : Nat) (perSource : Option Nat)
    (proxies : List Char) : Except String Admission := do
  let trustedProxies ←
    ((proxies.splitOn ',').filter fun s => !(trim s).isEmpty).mapM (parseProxy parseIp)
  return {
    trustedProxies
    pending := .new (min (Nat.max max 1) 128)
      (some (min (Nat.max (perSource.getD DEFAULT_PENDING_SOURCE_LIMIT) 1)
        DEFAULT_PENDING_SOURCE_LIMIT))
    active := .new (Nat.max max 1)
      (perSource.map fun limit => min (Nat.max limit 1) (Nat.max (max - 1) 1)) }

/-- The source that a handshake is charged to at first: nobody, for a trusted proxy. Reference:
`Admission::pending` (`connection_guard.rs:162`). -/
def Admission.pendingSource (adm : Admission) (peer : IpAddr) : Option IpAddr :=
  if canonical peer ∈ adm.trustedProxies then none else some (quotaSource (canonical peer))

/-- The source that an established connection is charged to. Reference: `Admission::active`
(`connection_guard.rs:168`). -/
def Admission.activeSource (source : IpAddr) : Option IpAddr := some (quotaSource source)

/-! ## Runs of a pool -/

/-- A pool and the leases that live. -/
structure PoolState where
  pool : Pool
  live : Multiset Lease

inductive PoolAction where
  | acquire (source : Option IpAddr)
  | resolve (lease : Lease) (source : IpAddr)
  | drop (lease : Lease)

/-- One call. A call on a lease is possible while it lives, and has no next state if it
underflows. -/
inductive PoolStep (s : PoolState) : PoolAction → PoolState → Prop
  | acquired {source : Option IpAddr} {p : Pool} {lease : Lease} :
      s.pool.acquire source = .ok (p, lease) →
      PoolStep s (.acquire source) ⟨p, lease ::ₘ s.live⟩
  | refused {source : Option IpAddr} {reason : String} :
      s.pool.acquire source = .error reason → PoolStep s (.acquire source) s
  | resolved {lease lease' : Lease} {live : Multiset Lease} {source : IpAddr} {p : Pool} :
      s.live = lease ::ₘ live → lease.resolveSource s.pool source = some (.ok (p, lease')) →
      PoolStep s (.resolve lease source) ⟨p, lease' ::ₘ live⟩
  | unresolved {lease : Lease} {source : IpAddr} {reason : String} : lease ∈ s.live →
      lease.resolveSource s.pool source = some (.error reason) →
      PoolStep s (.resolve lease source) s
  | dropped {lease : Lease} {live : Multiset Lease} {p : Pool} : s.live = lease ::ₘ live →
      lease.drop s.pool = some p → PoolStep s (.drop lease) ⟨p, live⟩

/-- The runs of a pool. -/
abbrev PoolRun (p₀ : Pool) (ts : List (Transition PoolState PoolAction)) (s : PoolState) : Prop :=
  Run (· = ⟨p₀, 0⟩) PoolStep ts s

/-- The sources that a set of leases is charged to. -/
def charged (live : Multiset Lease) : Multiset IpAddr := live.filterMap (·.source)

/-- The counts of a pool are those of its leases, within its limits. -/
structure Accounted (s : PoolState) : Prop where
  total : s.pool.total = s.live.card
  bounded : s.live.card ≤ s.pool.limit
  sources : Counts s.pool.sources (charged s.live)
  share : ∀ limit, s.pool.sourceLimit = some limit → ∀ ip, (charged s.live).count ip ≤ limit

section
variable {p₀ p p' : Pool} {s s' : PoolState} {ts : List (Transition PoolState PoolAction)}
  {live : Multiset Lease} {lease lease' : Lease} {source : Option IpAddr} {ip : IpAddr}
  {act : PoolAction}

theorem charged_cons : charged (lease ::ₘ live) =
    match lease.source with
    | none => charged live
    | some ip => ip ::ₘ charged live := by
  unfold charged
  cases h : lease.source with
  | none => exact Multiset.filterMap_cons_none _ _ h
  | some ip => exact Multiset.filterMap_cons_some _ _ _ h

/-- A lease that is granted is charged within the share of its source. -/
theorem Pool.acquire_ok (h : p.acquire source = .ok (p', lease)) :
    p.total < p.limit ∧ p' = { p with total := p.total + 1, sources := p'.sources } ∧
      match lease.source with
      | none => p'.sources = p.sources
      | some ip => p'.sources = increment p.sources ip ∧
          ∀ limit, p.sourceLimit = some limit → countOf p.sources ip < limit := by
  unfold Pool.acquire at h
  split at h
  · cases h
  next htotal =>
  rw [Nat.not_le] at htotal
  split at h
  · next ip limit hlimit =>
    split at h
    · cases h
    · next hfull =>
      cases h
      refine ⟨htotal, rfl, rfl, fun limit' hl => ?_⟩
      cases hlimit.symm.trans hl
      simpa [Pool.sourceFull] using hfull
  · cases h
    exact ⟨htotal, rfl, rfl⟩

/-- When a lease is refused. -/
theorem Pool.acquire_error : (∃ reason, p.acquire source = .error reason) ↔
    p.limit ≤ p.total ∨ ∃ ip limit, source = some ip ∧ p.sourceLimit = some limit ∧
      limit ≤ countOf p.sources ip := by
  unfold Pool.acquire
  split
  · next h => exact ⟨fun _ => .inl h, fun _ => ⟨_, rfl⟩⟩
  next htotal =>
  split
  · next ip limit hlimit =>
    split
    · next hfull =>
      exact ⟨fun _ => .inr ⟨ip, limit, rfl, hlimit, by simpa [Pool.sourceFull] using hfull⟩,
        fun _ => ⟨_, rfl⟩⟩
    · next hfull =>
      constructor
      · rintro ⟨_, ⟨⟩⟩
      · rintro (h | ⟨_, _, ⟨⟩, hl, h⟩)
        · exact absurd h htotal
        · cases hlimit.symm.trans hl
          exact absurd (by simpa [Pool.sourceFull] using h) hfull
  · next hnone =>
    constructor
    · rintro ⟨_, ⟨⟩⟩
    · rintro (h | ⟨ip, limit, rfl, hl, -⟩)
      · exact absurd h htotal
      · exact absurd hl (hnone ip limit rfl)

/-- The charge of a lease that lives can be taken away. -/
theorem Counts.uncharge {sources : HashMap IpAddr Nat} {m : Multiset IpAddr}
    (h : Counts sources (match lease.source with
      | none => m
      | some ip => ip ::ₘ m)) :
    ∃ sources', ConnectionGuard.uncharge sources lease.source = some sources' ∧
      Counts sources' m := by
  cases hs : lease.source with
  | none => exact ⟨sources, rfl, by rwa [hs] at h⟩
  | some ip => exact Counts.decrement (by rwa [hs] at h)

/-- A lease that lives can be dropped. -/
theorem Accounted.drop (h : Accounted s) (hlive : s.live = lease ::ₘ live) :
    ∃ p, lease.drop s.pool = some p ∧ Accounted ⟨p, live⟩ ∧
      p = { s.pool with total := live.card, sources := p.sources } := by
  have hsources := h.sources
  have htotal := h.total
  have hbounded := h.bounded
  rw [hlive, charged_cons] at hsources
  rw [hlive, Multiset.card_cons] at htotal hbounded
  obtain ⟨sources', hdrop, hcounts⟩ := Counts.uncharge hsources
  refine ⟨_, by rw [Lease.drop, if_neg (by omega), hdrop, Option.map_some], ?_, by rw [htotal]; rfl⟩
  refine ⟨by dsimp only; omega, by dsimp only; omega, hcounts, fun limit hl ip => ?_⟩
  refine le_trans (Multiset.count_le_of_le ip ?_) (h.share limit hl ip)
  rw [hlive, charged_cons]
  split
  · exact le_rfl
  · exact Multiset.le_cons_self _ _

/-- The charges of the leases that stay are among those of all. -/
theorem charged_le (hlive : s.live = lease ::ₘ live) (ip : IpAddr) :
    (charged live).count ip ≤ (charged s.live).count ip := by
  rw [hlive, charged_cons]
  split
  · exact le_rfl
  · exact Multiset.count_le_of_le ip (Multiset.le_cons_self _ _)

/-- A lease that lives is charged to the source that it is resolved to, or nothing happens. -/
theorem Accounted.resolve (h : Accounted s) (hlive : s.live = lease ::ₘ live) (ip : IpAddr) :
    (∃ reason, lease.resolveSource s.pool ip = some (.error reason)) ∨
      ∃ p lease', lease.resolveSource s.pool ip = some (.ok (p, lease')) ∧
        Accounted ⟨p, lease' ::ₘ live⟩ ∧ lease'.source = some (quotaSource ip) ∧
        p = { s.pool with sources := p.sources } := by
  unfold Lease.resolveSource
  dsimp only
  split
  · next hsame =>
    refine .inr ⟨_, _, rfl, ?_, hsame, rfl⟩
    have heq : (⟨s.pool, lease ::ₘ live⟩ : PoolState) = s := by rw [← hlive]
    rw [heq]
    exact h
  split
  · exact .inl ⟨_, rfl⟩
  next limit hlimit =>
  split
  · exact .inl ⟨_, rfl⟩
  next hfull =>
  have hroom : countOf s.pool.sources (quotaSource ip) < limit := by
    simpa [Pool.sourceFull] using hfull
  have hsources := h.sources.increment (quotaSource ip)
  have hswap : quotaSource ip ::ₘ charged s.live =
      match lease.source with
      | none => quotaSource ip ::ₘ charged live
      | some ip' => ip' ::ₘ quotaSource ip ::ₘ charged live := by
    rw [hlive, charged_cons]
    split
    · rfl
    · exact Multiset.cons_swap _ _ _
  rw [hswap] at hsources
  obtain ⟨sources', huncharge, hcounts⟩ := Counts.uncharge hsources
  have htotal := h.total
  have hbounded := h.bounded
  rw [hlive, Multiset.card_cons] at htotal hbounded
  refine .inr ⟨_, _, by rw [huncharge, Option.map_some], ?_, rfl, rfl⟩
  refine ⟨by rw [Multiset.card_cons]; exact htotal, by rw [Multiset.card_cons]; exact hbounded, by
    rw [charged_cons]; exact hcounts, fun limit' hl ip' => ?_⟩
  cases hlimit.symm.trans hl
  rw [charged_cons]
  dsimp only
  have hle := charged_le hlive ip'
  by_cases heq : ip' = quotaSource ip
  · subst heq
    rw [Multiset.count_cons_self]
    rw [h.sources.count] at hroom
    omega
  · rw [Multiset.count_cons_of_ne heq]
    exact le_trans hle (h.share limit hlimit ip')

/-- A lease that is granted is accounted for. -/
theorem Accounted.acquire (h : Accounted s) (hacquire : s.pool.acquire source = .ok (p, lease)) :
    Accounted ⟨p, lease ::ₘ s.live⟩ := by
  obtain ⟨hroom, hp, hsources⟩ := Pool.acquire_ok hacquire
  have htotal := h.total
  rw [hp]
  refine ⟨by rw [Multiset.card_cons]; exact congrArg (· + 1) htotal, by
    rw [Multiset.card_cons]; dsimp only; omega, ?_, fun limit hl ip' => ?_⟩
  · rw [charged_cons]
    dsimp only
    cases hs : lease.source with
    | none =>
      rw [hs] at hsources
      dsimp only at hsources ⊢
      rw [hsources]
      exact h.sources
    | some ip =>
      rw [hs] at hsources
      dsimp only at hsources ⊢
      rw [hsources.1]
      exact h.sources.increment ip
  · rw [charged_cons]
    cases hs : lease.source with
    | none => exact h.share limit hl ip'
    | some ip =>
      rw [hs] at hsources
      have hfree := hsources.2 limit hl
      rw [h.sources.count] at hfree
      dsimp only
      by_cases heq : ip' = ip
      · rw [heq, Multiset.count_cons_self]
        exact hfree
      · rw [Multiset.count_cons_of_ne heq]
        exact h.share limit hl ip'

/-- A call keeps the accounts, and the limits of the pool. -/
theorem Accounted.step (h : Accounted s) (hs : PoolStep s act s') :
    Accounted s' ∧ s'.pool.limit = s.pool.limit ∧ s'.pool.sourceLimit = s.pool.sourceLimit := by
  cases hs with
  | acquired hacquire =>
    refine ⟨h.acquire hacquire, ?_⟩
    rw [(Pool.acquire_ok hacquire).2.1]
    exact ⟨rfl, rfl⟩
  | refused | unresolved => exact ⟨h, rfl, rfl⟩
  | @resolved _ _ _ source _ hlive hresolve =>
    obtain ⟨_, herror⟩ | ⟨_, _, hok, hacc, -, hp⟩ := h.resolve hlive source
    · cases herror.symm.trans hresolve
    · cases hok.symm.trans hresolve
      refine ⟨hacc, ?_⟩
      rw [hp]
      exact ⟨rfl, rfl⟩
  | dropped hlive hdrop =>
    obtain ⟨_, hok, hacc, hp⟩ := h.drop hlive
    cases hok.symm.trans hdrop
    refine ⟨hacc, ?_⟩
    rw [hp]
    exact ⟨rfl, rfl⟩

/-- The accounts of every state of a run. -/
theorem PoolRun.accounted (h : PoolRun p₀ ts s) (h₀ : p₀ = .new p₀.limit p₀.sourceLimit) :
    Accounted s ∧ s.pool.limit = p₀.limit ∧ s.pool.sourceLimit = p₀.sourceLimit := by
  induction h with
  | start hs =>
    subst hs
    refine ⟨⟨?_, Nat.zero_le _, ?_, fun _ _ _ => Nat.zero_le _⟩, rfl, rfl⟩
    · rw [h₀]; rfl
    · rw [h₀]; exact Counts.empty
  | snoc _ hs ih =>
    obtain ⟨hacc, hlimit, hsource⟩ := ih.1.step hs
    exact ⟨hacc, hlimit.trans ih.2.1, hsource.trans ih.2.2⟩

/-! ## The pools of an admission -/

variable {parseIp : List Char → Option IpAddr} {max : Nat} {perSource : Option Nat}
  {proxies : List Char} {adm : Admission}

/-- The pools that an admission starts with. -/
theorem Admission.new_pools (h : Admission.new parseIp max perSource proxies = .ok adm) :
    adm.pending = .new (min (Nat.max max 1) 128)
      (some (min (Nat.max (perSource.getD DEFAULT_PENDING_SOURCE_LIMIT) 1)
        DEFAULT_PENDING_SOURCE_LIMIT)) ∧
    adm.active = .new (Nat.max max 1)
      (perSource.map fun limit => min (Nat.max limit 1) (Nat.max (max - 1) 1)) := by
  simp only [Admission.new, bind, Except.bind] at h
  split at h
  · cases h
  · cases h
    exact ⟨rfl, rfl⟩

/-- A source limit of the active pool is below its limit, if there is room for two. -/
theorem Admission.active_share (h : Admission.new parseIp max perSource proxies = .ok adm)
    (hmax : 2 ≤ max) {limit : Nat} (hlimit : adm.active.sourceLimit = some limit) :
    limit < adm.active.limit := by
  rw [(Admission.new_pools h).2] at hlimit ⊢
  obtain ⟨perSource', -, rfl⟩ := Option.map_eq_some_iff.1 hlimit
  have hle : min (Nat.max perSource' 1) (Nat.max (max - 1) 1) ≤ Nat.max (max - 1) 1 :=
    Nat.min_le_right _ _
  have hsub : Nat.max (max - 1) 1 = max - 1 := Nat.max_eq_left (by omega)
  have hcap : Nat.max max 1 = max := Nat.max_eq_left (by omega)
  dsimp only [Pool.new]
  omega

/-- **Lease accounting.** In every run of a pool of an admission, the total is the number of leases
that live, within the limit, and the table counts the sources they are charged to, with no zero
entry and within the share of each source. A lease is refused exactly at these limits, a refusal
changes nothing, and a resolved lease moves its charge and keeps its slot. No subtraction
underflows, and without leases the pool is as it was at first. With a share per source and room for
two, the leases of one source never fill the active pool. -/
theorem lease_accounting (hadm : Admission.new parseIp max perSource proxies = .ok adm)
    (hp₀ : p₀ = adm.pending ∨ p₀ = adm.active) (h : PoolRun p₀ ts s) :
    (s.pool.total = s.live.card ∧ s.live.card ≤ p₀.limit) ∧
    ((∀ ip, countOf s.pool.sources ip = (charged s.live).count ip) ∧
      (∀ ip n, s.pool.sources.lookup ip = some n → 0 < n) ∧
      ∀ limit, p₀.sourceLimit = some limit → ∀ ip, countOf s.pool.sources ip ≤ limit) ∧
    (∀ source, (∃ reason, s.pool.acquire source = .error reason) ↔ p₀.limit ≤ s.live.card ∨
      ∃ ip limit, source = some ip ∧ p₀.sourceLimit = some limit ∧
        limit ≤ (charged s.live).count ip) ∧
    (∀ act s', PoolStep s act s' →
      (∀ source reason, act = .acquire source → s.pool.acquire source = .error reason → s' = s) ∧
      ∀ lease ip reason, act = .resolve lease ip →
        lease.resolveSource s.pool ip = some (.error reason) → s' = s) ∧
    (∀ lease live ip p lease', s.live = lease ::ₘ live →
      lease.resolveSource s.pool ip = some (.ok (p, lease')) → p.total = s.pool.total ∧
        lease'.source = some (quotaSource ip) ∧
        ∀ ip', countOf p.sources ip' = (quotaSource ip ::ₘ charged live).count ip') ∧
    (∀ lease ∈ s.live, lease.drop s.pool ≠ none ∧ ∀ ip, lease.resolveSource s.pool ip ≠ none) ∧
    (s.live = 0 → s.pool = p₀) ∧
    (2 ≤ max → perSource.isSome = true → p₀ = adm.active →
      ∀ ip, (charged s.live).count ip < p₀.limit) := by
  obtain ⟨hpending, hactive⟩ := Admission.new_pools hadm
  have h₀ : p₀ = .new p₀.limit p₀.sourceLimit := by
    rcases hp₀ with rfl | rfl
    · rw [hpending]; rfl
    · rw [hactive]; rfl
  obtain ⟨hacc, hlimit, hsource⟩ := h.accounted h₀
  refine ⟨⟨hacc.total, hlimit ▸ hacc.bounded⟩, ⟨hacc.sources.count, hacc.sources.pos,
    fun limit hl ip => ?_⟩, fun source => ?_, fun act s' hs => ⟨?_, ?_⟩, ?_, ?_, ?_, ?_⟩
  · rw [hacc.sources.count]
    exact hacc.share limit (hsource.trans hl) ip
  · rw [Pool.acquire_error, hlimit, hsource, hacc.total]
    simp only [hacc.sources.count]
  · rintro source reason rfl herror
    cases hs with
    | acquired hok => cases herror.symm.trans hok
    | refused => rfl
  · rintro lease ip reason rfl herror
    cases hs with
    | resolved _ hok => cases herror.symm.trans hok
    | unresolved => rfl
  · intro lease live ip p lease' hlive hok
    obtain ⟨_, herror⟩ | ⟨_, _, hok', hacc', hsrc, hp⟩ := hacc.resolve hlive ip
    · cases herror.symm.trans hok
    · cases hok'.symm.trans hok
      have hcharged : charged (lease' ::ₘ live) = quotaSource ip ::ₘ charged live := by
        rw [charged_cons, hsrc]
      exact ⟨by rw [hp], hsrc, hcharged ▸ hacc'.sources.count⟩
  · intro lease hmem
    obtain ⟨live, hlive⟩ := Multiset.exists_cons_of_mem hmem
    obtain ⟨p, hdrop, -⟩ := hacc.drop hlive
    refine ⟨by rw [hdrop]; exact Option.some_ne_none _, fun ip => ?_⟩
    obtain ⟨_, herror⟩ | ⟨_, _, hok, -⟩ := hacc.resolve hlive ip
    · rw [herror]
      exact Option.some_ne_none _
    · rw [hok]
      exact Option.some_ne_none _
  · intro hnone
    have hsources := hacc.sources
    have htotal := hacc.total
    rw [hnone] at hsources htotal
    rw [h₀, ← hlimit, ← hsource, Pool.new, ← hsources.eq_empty]
    exact congrArg (Pool.mk _ _ · _) htotal
  · rintro hmax hper rfl ip
    obtain ⟨limit, hl⟩ : ∃ limit, adm.active.sourceLimit = some limit := by
      obtain ⟨perSource', rfl⟩ := Option.isSome_iff_exists.1 hper
      rw [hactive]
      exact ⟨_, rfl⟩
    exact lt_of_le_of_lt (hacc.share limit (hsource.trans hl) ip)
      (Admission.active_share hadm hmax hl)

end

/-- Room for two connections, with one per source. -/
def pairAdmission : Admission := ⟨[], .new 2 (some 1), .new 2 (some 1)⟩

/-- A connection comes, is charged to another source, and goes, and the pool is as it was. -/
theorem lease_accounting_returned : ∃ ts s, PoolRun pairAdmission.active ts s ∧
    (∃ t ∈ ts, ∃ lease ip, t.act = .resolve lease ip ∧ t.post ≠ t.pre) ∧
      s.pool = pairAdmission.active := by
  let proxy : IpAddr := .v4 ⟨192, 0, 2, 1⟩
  let source : IpAddr := .v4 ⟨198, 51, 100, 7⟩
  let moved := (increment (increment ∅ proxy) source).erase proxy
  have hacquire : PoolStep ⟨pairAdmission.active, 0⟩ (.acquire (some proxy))
      ⟨⟨2, some 1, 1, increment ∅ proxy⟩, ⟨some proxy⟩ ::ₘ 0⟩ := .acquired rfl
  have hresolve : PoolStep ⟨⟨2, some 1, 1, increment ∅ proxy⟩, ⟨some proxy⟩ ::ₘ 0⟩
      (.resolve ⟨some proxy⟩ source) ⟨⟨2, some 1, 1, moved⟩, ⟨some source⟩ ::ₘ 0⟩ :=
    .resolved rfl rfl
  have hdrop : PoolStep ⟨⟨2, some 1, 1, moved⟩, ⟨some source⟩ ::ₘ 0⟩ (.drop ⟨some source⟩)
      ⟨⟨2, some 1, 0, moved.erase source⟩, 0⟩ := .dropped rfl rfl
  have hadm : Admission.new (fun _ => none) 2 (some 1) [] = .ok pairAdmission := rfl
  have hstart : PoolRun pairAdmission.active [] ⟨pairAdmission.active, 0⟩ := .start rfl
  have hrun := ((hstart.snoc hacquire).snoc hresolve).snoc hdrop
  obtain ⟨-, -, -, -, -, -, hreturned, -⟩ := lease_accounting hadm (.inr rfl) hrun
  refine ⟨_, _, hrun, ⟨_, List.mem_cons_of_mem _ List.mem_cons_self, _, _, rfl, fun heq => ?_⟩,
    hreturned rfl⟩
  have hlive := Multiset.cons_inj_left 0 |>.1 (congrArg PoolState.live heq)
  exact absurd hlive (by decide)

end MctierSignaling.ConnectionGuard
