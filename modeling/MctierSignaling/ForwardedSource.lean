import MctierSignaling.ConnectionGuard

/-!
# The source of a proxied connection

A trusted proxy names the client of a connection in a header. The chain of addresses in
`x-forwarded-for` is walked from the nearest proxy to the first address that is not a trusted proxy,
so that what a client wrote in front of it has no say (`forwarded_source_unspoofed`). Every address
is compared in its canonical form, and the source is the same for every way to write the addresses
(`SameHeaders`).
-/

namespace MctierSignaling.ConnectionGuard

/-! ## Headers -/

/-- The bytes of a header value. -/
abbrev HeaderValue := List UInt8

/-- `HeaderValue::to_str`: the text of a value of visible ASCII characters. -/
def HeaderValue.toStr (value : HeaderValue) : Option (List Char) :=
  if value.all fun b => (32 ≤ b && b < 127) || b == 9 then
    some (value.map fun b => Char.ofNat b.toNat)
  else none

/-- The values of the two headers that the server reads, in order. -/
structure HeaderMap where
  forwardedFor : List HeaderValue
  realIp : List HeaderValue

section
variable (parseIp : List Char → Option IpAddr)

/-- The canonical address that a text writes. -/
def parseCanonical (s : List Char) : Option IpAddr := (parseIp s).map canonical

/-- The addresses of a forwarded chain. -/
def parseChain (value : List Char) : Option (List IpAddr) :=
  (value.splitOn ',').mapM fun s => parseCanonical parseIp (trim s)

/-- The check of `x-real-ip` against the client of the chain. Reference: `Admission::source`
(`connection_guard.rs:205-219`). -/
def Admission.checkRealIp (adm : Admission) (client : IpAddr) (realIp : List HeaderValue) :
    Except String IpAddr :=
  match realIp with
  | [] => .ok client
  | [value] =>
    match value.toStr.bind (parseCanonical parseIp) with
    | none => .error "invalid real address"
    | some real =>
      if real ∉ adm.trustedProxies ∧ real ≠ client then .error "conflicting forwarded address"
      else .ok client
  | _ => .error "ambiguous forwarded address"

/-- The client of a forwarded chain. Reference: `Admission::source`
(`connection_guard.rs:183-221`). -/
def Admission.chainSource (adm : Admission) (value : HeaderValue) (realIp : List HeaderValue) :
    Except String IpAddr :=
  match value.toStr with
  | none => .error "invalid forwarded address"
  | some value =>
    if value.length > 1024 then .error "forwarded chain too long"
    else match parseChain parseIp value with
    | none => .error "invalid forwarded address"
    | some chain =>
      if chain.length > 16 then .error "forwarded chain too long"
      else match chain.reverse.find? (· ∉ adm.trustedProxies) with
      | none => .error "forwarded chain has no client address"
      | some client => adm.checkRealIp parseIp client realIp

/-- The client that `x-real-ip` names on its own. Reference: `Admission::source`
(`connection_guard.rs:222-231`). -/
def Admission.realSource (adm : Admission) (realIp : List HeaderValue) : Except String IpAddr :=
  match realIp with
  | [value] =>
    match (value.toStr.bind (parseCanonical parseIp)).filter (· ∉ adm.trustedProxies) with
    | none => .error "invalid real address"
    | some ip => .ok ip
  | _ => .error "trusted proxy must send client address"

/-- Reference: `Admission::source` (`connection_guard.rs:172`). -/
def Admission.source (adm : Admission) (peer : IpAddr) (headers : HeaderMap) :
    Except String IpAddr :=
  let peer := canonical peer
  if peer ∉ adm.trustedProxies then .ok peer
  else match headers.forwardedFor with
  | [] => adm.realSource parseIp headers.realIp
  | [value] => adm.chainSource parseIp value headers.realIp
  | _ => .error "ambiguous forwarded address"

/-! ## Ways to write an address -/

/-- Two texts write one address, up to its canonical form, or none. -/
def SameText (s s' : List Char) : Prop := parseCanonical parseIp s = parseCanonical parseIp s'

/-- Two values are equal, or hold entries that write the same addresses, within the limit. -/
def SameChain (value value' : HeaderValue) : Prop :=
  value = value' ∨ ∃ s s', value.toStr = some s ∧ value'.toStr = some s' ∧ s.length ≤ 1024 ∧
    s'.length ≤ 1024 ∧
    List.Forall₂ (fun e e' => SameText parseIp (trim e) (trim e')) (s.splitOn ',') (s'.splitOn ',')

/-- Two values are equal, or write the same address. -/
def SameReal (value value' : HeaderValue) : Prop :=
  value = value' ∨ ∃ s s', value.toStr = some s ∧ value'.toStr = some s' ∧ SameText parseIp s s'

/-- Two header maps write the same addresses. -/
structure SameHeaders (headers headers' : HeaderMap) : Prop where
  forwardedFor : List.Forall₂ (SameChain parseIp) headers.forwardedFor headers'.forwardedFor
  realIp : List.Forall₂ (SameReal parseIp) headers.realIp headers'.realIp

/-- Two lists of proxies write the same addresses, with the same blank entries. -/
def SameProxies (proxies proxies' : List Char) : Prop :=
  List.Forall₂ (fun e e' => ((trim e).isEmpty = (trim e').isEmpty) ∧
    SameText parseIp (trim e) (trim e')) (proxies.splitOn ',') (proxies'.splitOn ',')

end

/-- `Ipv4Addr::to_ipv6_mapped`. -/
def toIpv6Mapped (ip : Ipv4Addr) : Ipv6Addr :=
  ⟨0, 0, 0, 0, 0, 0xffff, .ofNat (ip.o0.toNat * 256 + ip.o1.toNat),
    .ofNat (ip.o2.toNat * 256 + ip.o3.toNat)⟩

/-! ## Canonical addresses -/

theorem canonical_idem (ip : IpAddr) : canonical (canonical ip) = canonical ip := by
  cases ip with
  | v4 => rfl
  | v6 ip =>
    unfold canonical
    dsimp only
    cases h : ip.toIpv4Mapped with
    | none => simp [h]
    | some => rfl

/-- The two octets of a segment. -/
theorem segment_octets (a b : UInt8) :
    (UInt16.ofNat (a.toNat * 256 + b.toNat) >>> 8).toUInt8 = a ∧
      (UInt16.ofNat (a.toNat * 256 + b.toNat)).toUInt8 = b := by
  have ha := a.toNat_lt
  have hb := b.toNat_lt
  constructor <;> apply UInt8.toNat_inj.1
  · simp [Nat.shiftRight_eq_div_pow]
    omega
  · simp

/-- The IPv4-mapped form of an address is the address. -/
theorem canonical_mapped (ip : Ipv4Addr) : canonical (.v6 (toIpv6Mapped ip)) = .v4 ip := by
  obtain ⟨h0, h1⟩ := segment_octets ip.o0 ip.o1
  obtain ⟨h2, h3⟩ := segment_octets ip.o2 ip.o3
  unfold canonical toIpv6Mapped Ipv6Addr.toIpv4Mapped
  dsimp only
  rw [if_pos ⟨rfl, rfl, rfl, rfl, rfl, rfl⟩, h0, h1, h2, h3]
  rfl

/-- Two addresses are charged as one source if they are one IPv4 address, or in one /64 network. -/
theorem quotaSource_eq_iff (ip ip' : IpAddr) : quotaSource ip = quotaSource ip' ↔
    (∃ a, canonical ip = .v4 a ∧ canonical ip' = .v4 a) ∨
      ∃ a a', canonical ip = .v6 a ∧ canonical ip' = .v6 a' ∧
        a.s0 = a'.s0 ∧ a.s1 = a'.s1 ∧ a.s2 = a'.s2 ∧ a.s3 = a'.s3 := by
  unfold quotaSource
  generalize canonical ip = c
  generalize canonical ip' = c'
  cases c <;> cases c' <;> simp [eq_comm]

section
variable {parseIp : List Char → Option IpAddr} {adm adm' : Admission} {peer peer' ip : IpAddr}
  {headers headers' : HeaderMap} {realIp realIp' : List HeaderValue} {value value' : HeaderValue}
  {s s' : List Char}

/-! ## The source of one request -/

/-- The check of `x-real-ip` decides whether there is a source, not which. -/
theorem checkRealIp_cases {client : IpAddr} :
    (∃ reason, adm.checkRealIp parseIp client realIp = .error reason) ∨
      adm.checkRealIp parseIp client realIp = .ok client := by
  unfold Admission.checkRealIp
  split
  · exact .inr rfl
  · split
    · exact .inl ⟨_, rfl⟩
    · split
      · exact .inl ⟨_, rfl⟩
      · exact .inr rfl
  · exact .inl ⟨_, rfl⟩

/-- A parsed address is canonical. -/
theorem parseCanonical_canonical (h : parseCanonical parseIp s = some ip) : canonical ip = ip := by
  obtain ⟨ip', -, rfl⟩ := Option.map_eq_some_iff.1 h
  exact canonical_idem ip'

/-- A list is read entry by entry. -/
theorem mapM_eq_some_iff {α β : Type} {f : α → Option β} {l : List α} {l' : List β} :
    l.mapM f = some l' ↔ List.Forall₂ (fun a b => f a = some b) l l' := by
  induction l generalizing l' with
  | nil => cases l' <;> simp
  | cons a l ih =>
    rw [List.mapM_cons]
    constructor
    · intro h
      obtain ⟨b, hb, h⟩ := Option.bind_eq_some_iff.1 h
      obtain ⟨bs, hbs, h⟩ := Option.bind_eq_some_iff.1 h
      cases h
      exact .cons hb (ih.1 hbs)
    · rintro (_ | ⟨hb, hbs⟩)
      rw [hb, ih.2 hbs]
      rfl

/-- Lists whose entries read the same read the same. -/
theorem mapM_congr_forall₂ {m : Type → Type} [Monad m] [LawfulMonad m] {α β : Type} {f : α → m β}
    {l l' : List α} (h : List.Forall₂ (fun a a' => f a = f a') l l') : l.mapM f = l'.mapM f := by
  induction h with
  | nil => rfl
  | cons ha _ ih => rw [List.mapM_cons, List.mapM_cons, ha, ih]

/-- The addresses of a chain are canonical. -/
theorem parseChain_canonical {chain : List IpAddr} (h : parseChain parseIp s = some chain) :
    ∀ ip ∈ chain, canonical ip = ip := by
  have hentries := mapM_eq_some_iff.1 h
  clear h
  generalize s.splitOn ',' = entries at hentries
  induction hentries with
  | nil => exact fun _ hip => absurd hip List.not_mem_nil
  | cons he _ ih =>
    intro ip hip
    rcases List.mem_cons.1 hip with rfl | hip
    · exact parseCanonical_canonical he
    · exact ih ip hip

/-- The entry of a list that stands for an entry, and what stands for the entries after it. -/
theorem forall₂_split {α β : Type} {R : α → β → Prop} {pre suf : List α} {a : α} {l : List β}
    (h : List.Forall₂ R (pre ++ a :: suf) l) :
    ∃ pre' b suf', l = pre' ++ b :: suf' ∧ R a b ∧ List.Forall₂ R suf suf' := by
  induction pre generalizing l with
  | nil =>
    obtain _ | ⟨ha, hsuf⟩ := h
    exact ⟨[], _, _, rfl, ha, hsuf⟩
  | cons x pre ih =>
    obtain _ | ⟨-, h⟩ := h
    obtain ⟨pre', b, suf', rfl, hb, hsuf⟩ := ih h
    exact ⟨_ :: pre', b, suf', rfl, hb, hsuf⟩

/-- The last entry that passes, seen from the end. -/
theorem find?_reverse_append {α : Type} {p : α → Bool} {pre suf : List α} {a : α}
    (ha : p a = true) (hsuf : ∀ x ∈ suf, p x = false) :
    (pre ++ a :: suf).reverse.find? p = some a := by
  rw [List.reverse_append, List.reverse_cons, List.append_assoc, List.find?_append,
    List.find?_eq_none.2 fun x hx => Bool.eq_false_iff.1 (hsuf x (List.mem_reverse.1 hx)),
    Option.none_or, List.singleton_append, List.find?_cons_of_pos ha]

/-- An untrusted peer is its own source. -/
theorem source_untrusted (hpeer : canonical peer ∉ adm.trustedProxies) :
    adm.source parseIp peer headers = .ok (canonical peer) :=
  if_pos hpeer

/-- The source that a trusted peer names is a canonical address of no trusted proxy. -/
theorem source_trusted (hpeer : canonical peer ∈ adm.trustedProxies)
    (h : adm.source parseIp peer headers = .ok ip) :
    canonical ip = ip ∧ ip ∉ adm.trustedProxies := by
  unfold Admission.source at h
  dsimp only at h
  rw [if_neg (not_not.2 hpeer)] at h
  split at h
  · unfold Admission.realSource at h
    split at h
    · split at h
      · cases h
      · next ip' hreal =>
        cases h
        obtain ⟨hreal, huntrusted⟩ := Option.filter_eq_some_iff.1 hreal
        obtain ⟨s, -, hparse⟩ := Option.bind_eq_some_iff.1 hreal
        exact ⟨parseCanonical_canonical hparse, of_decide_eq_true huntrusted⟩
    · cases h
  · unfold Admission.chainSource at h
    split at h
    · cases h
    split at h
    · cases h
    split at h
    · cases h
    next chain hchain =>
    split at h
    · cases h
    split at h
    · cases h
    next client hclient =>
    have hmem := List.mem_reverse.1 (List.mem_of_find?_eq_some hclient)
    have huntrusted : decide (client ∉ adm.trustedProxies) = true := by
      simpa using List.find?_some hclient
    obtain ⟨reason, herror⟩ | hok : (∃ reason, adm.checkRealIp parseIp client headers.realIp =
        .error reason) ∨ adm.checkRealIp parseIp client headers.realIp = .ok client :=
      checkRealIp_cases
    · cases herror.symm.trans h
    · cases hok.symm.trans h
      exact ⟨parseChain_canonical hchain _ hmem, of_decide_eq_true huntrusted⟩
  · cases h

/-- The text of a value that ends in another holds its text after a comma. -/
theorem toStr_append {P S : HeaderValue} {text : List Char} (hs : S.toStr = some s)
    (h : HeaderValue.toStr (P ++ 44 :: S) = some text) : ∃ text', text = text' ++ ',' :: s := by
  unfold HeaderValue.toStr at hs h
  split at hs
  · split at h
    · cases hs
      cases h
      exact ⟨_, by rw [List.map_append, List.map_cons]; rfl⟩
    · cases h
  · cases hs

/-- The nearest untrusted hop of a chain is the source, whatever stands before it. -/
theorem chainSource_nearest {P S : HeaderValue} {e : List Char} {pre suf : List (List Char)}
    {c : IpAddr} (hs : S.toStr = some s) (hS : s.splitOn ',' = pre ++ e :: suf)
    (he : parseIp (trim e) = some c) (hc : canonical c ∉ adm.trustedProxies)
    (hsuf : ∀ e' ∈ suf, ∃ ip, parseIp (trim e') = some ip ∧ canonical ip ∈ adm.trustedProxies) :
    (∃ reason, adm.chainSource parseIp (P ++ 44 :: S) realIp = .error reason) ∨
      adm.chainSource parseIp (P ++ 44 :: S) realIp = .ok (canonical c) := by
  unfold Admission.chainSource
  split
  · exact .inl ⟨_, rfl⟩
  next text htext =>
  obtain ⟨front, rfl⟩ := toStr_append hs htext
  split
  · exact .inl ⟨_, rfl⟩
  split
  · exact .inl ⟨_, rfl⟩
  next chain hchain =>
  split
  · exact .inl ⟨_, rfl⟩
  have hentries := mapM_eq_some_iff.1 hchain
  rw [List.splitOn_append_cons_self, hS, ← List.append_assoc] at hentries
  obtain ⟨pre', client, suf', rfl, hclient, hrest⟩ := forall₂_split hentries
  have hclient' : canonical c = client := by
    rw [parseCanonical, he] at hclient
    exact Option.some.inj hclient
  have htrusted : ∀ ip ∈ suf', decide (ip ∉ adm.trustedProxies) = false := by
    clear hentries hchain hS
    rename_i hlength
    clear hlength
    induction hrest with
    | nil => exact fun _ hip => absurd hip List.not_mem_nil
    | cons ha _ ih =>
      intro ip hip
      rcases List.mem_cons.1 hip with rfl | hip
      · obtain ⟨ip', hip', hmem⟩ := hsuf _ List.mem_cons_self
        rw [parseCanonical, hip'] at ha
        cases ha
        exact decide_eq_false (not_not.2 hmem)
      · exact ih (fun e' he' => hsuf e' (List.mem_cons_of_mem _ he')) ip hip
  have hfind : (pre' ++ client :: suf').reverse.find? (fun ip => decide (ip ∉ adm.trustedProxies)) =
      some client := find?_reverse_append (decide_eq_true (hclient' ▸ hc)) htrusted
  rw [hfind, ← hclient']
  exact checkRealIp_cases

/-! ## Other ways to write the addresses -/

/-- Values that write the same address are read the same. -/
theorem SameReal.bind_toStr (h : SameReal parseIp value value') :
    value.toStr.bind (parseCanonical parseIp) = value'.toStr.bind (parseCanonical parseIp) := by
  obtain rfl | ⟨s, s', hs, hs', hsame⟩ := h
  · rfl
  · rw [hs, hs']
    exact hsame

/-- A proxy is read as an address. -/
theorem parseProxy_same (h : SameText parseIp (trim s) (trim s')) :
    parseProxy parseIp s = parseProxy parseIp s' := by
  unfold SameText parseCanonical at h
  unfold parseProxy
  cases hs : parseIp (trim s) with
  | none =>
    rw [hs] at h
    rw [Option.map_eq_none_iff.1 h.symm]
  | some ip =>
    rw [hs] at h
    obtain ⟨ip', hs', heq⟩ := Option.map_eq_some_iff.1 h.symm
    rw [hs']
    exact congrArg Except.ok heq.symm

/-- The client that `x-real-ip` names is read as an address. -/
theorem realSource_same (h : List.Forall₂ (SameReal parseIp) realIp realIp') :
    adm.realSource parseIp realIp = adm.realSource parseIp realIp' := by
  obtain _ | ⟨hreal, _ | _⟩ := h
  · rfl
  · unfold Admission.realSource
    dsimp only
    rw [hreal.bind_toStr]
  · rfl

/-- The check of `x-real-ip` reads an address. -/
theorem checkRealIp_same {client : IpAddr}
    (h : List.Forall₂ (SameReal parseIp) realIp realIp') :
    adm.checkRealIp parseIp client realIp = adm.checkRealIp parseIp client realIp' := by
  obtain _ | ⟨hreal, _ | _⟩ := h
  · rfl
  · unfold Admission.checkRealIp
    dsimp only
    rw [hreal.bind_toStr]
  · rfl

/-- A chain is read entry by entry. -/
theorem chainSource_same (hvalue : SameChain parseIp value value')
    (hreal : List.Forall₂ (SameReal parseIp) realIp realIp') :
    adm.chainSource parseIp value realIp = adm.chainSource parseIp value' realIp' := by
  have hcheck (client : IpAddr) : adm.checkRealIp parseIp client realIp =
      adm.checkRealIp parseIp client realIp' := checkRealIp_same hreal
  unfold Admission.chainSource
  simp only [hcheck]
  obtain rfl | ⟨s, s', hs, hs', hlength, hlength', hentries⟩ := hvalue
  · rfl
  have hchain : parseChain parseIp s = parseChain parseIp s' := mapM_congr_forall₂ hentries
  rw [hs, hs']
  dsimp only
  rw [if_neg (Nat.not_lt.2 hlength), if_neg (Nat.not_lt.2 hlength'), hchain]

/-- The source does not depend on how the addresses are written. -/
theorem source_same (hpeer : canonical peer = canonical peer')
    (hheaders : SameHeaders parseIp headers headers') :
    adm.source parseIp peer headers = adm.source parseIp peer' headers' := by
  obtain ⟨hforwarded, hreal⟩ := hheaders
  unfold Admission.source
  dsimp only
  rw [hpeer]
  split
  · rfl
  obtain ⟨forwardedFor, realIp⟩ := headers
  obtain ⟨forwardedFor', realIp'⟩ := headers'
  dsimp only at hforwarded hreal ⊢
  obtain _ | ⟨hvalue, _ | _⟩ := hforwarded
  · exact realSource_same hreal
  · exact chainSource_same hvalue hreal
  · rfl

/-- An admission does not depend on how its proxies are written. -/
theorem new_same {max : Nat} {perSource : Option Nat} {proxies proxies' : List Char}
    (h : SameProxies parseIp proxies proxies') :
    Admission.new parseIp max perSource proxies = Admission.new parseIp max perSource proxies' := by
  have hentries : List.Forall₂ (fun e e' => parseProxy parseIp e = parseProxy parseIp e')
      ((proxies.splitOn ',').filter fun s => !(trim s).isEmpty)
      ((proxies'.splitOn ',').filter fun s => !(trim s).isEmpty) := by
    unfold SameProxies at h
    generalize proxies.splitOn ',' = entries at h ⊢
    generalize proxies'.splitOn ',' = entries' at h ⊢
    induction h with
    | nil => exact .nil
    | cons he _ ih =>
      rw [List.filter_cons, List.filter_cons, he.1]
      split
      · exact .cons (parseProxy_same he.2) ih
      · exact ih
  unfold Admission.new
  rw [mapM_congr_forall₂ hentries]

/-- **The forwarded source cannot be spoofed.** An untrusted peer is its own source. A source that a
trusted peer names is canonical and no trusted proxy. Whatever bytes `P` stand before the last
untrusted hop `c` of a chain, and whatever `x-real-ip` says, the source is `c` or there is none. To
write addresses in another way, as the IPv4-mapped form of an IPv4 address, changes neither the
source nor what is charged for it, and two addresses are charged as one if they are the same IPv4
address or IPv6 addresses of one /64 network. -/
theorem forwarded_source_unspoofed {max : Nat} {perSource : Option Nat} {proxies : List Char}
    (hadm : Admission.new parseIp max perSource proxies = .ok adm) :
    (∀ peer headers, canonical peer ∉ adm.trustedProxies →
      adm.source parseIp peer headers = .ok (canonical peer)) ∧
    (∀ peer headers ip, canonical peer ∈ adm.trustedProxies →
      adm.source parseIp peer headers = .ok ip → canonical ip = ip ∧ ip ∉ adm.trustedProxies) ∧
    (∀ (P S : HeaderValue) s pre e suf c, S.toStr = some s → s.splitOn ',' = pre ++ e :: suf →
      parseIp (trim e) = some c → canonical c ∉ adm.trustedProxies →
      (∀ e' ∈ suf, ∃ ip, parseIp (trim e') = some ip ∧ canonical ip ∈ adm.trustedProxies) →
      ∀ peer realIp, canonical peer ∈ adm.trustedProxies →
        (∃ reason, adm.source parseIp peer ⟨[P ++ 44 :: S], realIp⟩ = .error reason) ∨
          adm.source parseIp peer ⟨[P ++ 44 :: S], realIp⟩ = .ok (canonical c)) ∧
    (∀ proxies' peer peer' headers headers', SameProxies parseIp proxies proxies' →
      canonical peer = canonical peer' → SameHeaders parseIp headers headers' →
      ∃ adm', Admission.new parseIp max perSource proxies' = .ok adm' ∧
        adm'.source parseIp peer' headers' = adm.source parseIp peer headers ∧
        adm'.pendingSource peer' = adm.pendingSource peer) ∧
    (∀ ip, canonical (.v6 (toIpv6Mapped ip)) = canonical (.v4 ip) ∧
      quotaSource (.v6 (toIpv6Mapped ip)) = quotaSource (.v4 ip) ∧
      ∀ s s', parseIp s = some (.v4 ip) → parseIp s' = some (.v6 (toIpv6Mapped ip)) →
        SameText parseIp s s') ∧
    ∀ ip ip', quotaSource ip = quotaSource ip' ↔
      (∃ a, canonical ip = .v4 a ∧ canonical ip' = .v4 a) ∨
        ∃ a a', canonical ip = .v6 a ∧ canonical ip' = .v6 a' ∧
          a.s0 = a'.s0 ∧ a.s1 = a'.s1 ∧ a.s2 = a'.s2 ∧ a.s3 = a'.s3 := by
  refine ⟨fun _ _ => source_untrusted, fun _ _ _ => source_trusted, ?_, ?_, fun ip => ?_,
    quotaSource_eq_iff⟩
  · intro P S s pre e suf c hs hsplit he hc hsuf peer realIp hpeer
    have hsource : adm.source parseIp peer ⟨[P ++ 44 :: S], realIp⟩ =
        adm.chainSource parseIp (P ++ 44 :: S) realIp := if_neg (not_not.2 hpeer)
    rw [hsource]
    exact chainSource_nearest hs hsplit he hc hsuf
  · intro proxies' peer peer' headers headers' hproxies hpeer hheaders
    refine ⟨adm, (new_same hproxies).symm.trans hadm, (source_same hpeer hheaders).symm, ?_⟩
    rw [Admission.pendingSource, Admission.pendingSource, hpeer]
  · have hmapped := canonical_mapped ip
    refine ⟨hmapped, ?_, fun s s' hs hs' => ?_⟩
    · rw [quotaSource, quotaSource, hmapped]
      rfl
    · rw [SameText, parseCanonical, parseCanonical, hs, hs', Option.map_some, Option.map_some,
        hmapped]
      rfl

end

/-- A client behind the proxy `10.0.0.1` that claims to be `1.1.1.1` is `8.8.8.8` all the same. -/
theorem forwarded_source_unspoofed_chain :
    let parseIp := fun s => (parseIpv4 s).map IpAddr.v4
    ∃ adm, Admission.new parseIp 16 none "10.0.0.1".toList = .ok adm ∧
      adm.source parseIp (.v6 (toIpv6Mapped ⟨10, 0, 0, 1⟩))
        ⟨[utf8Bytes "1.1.1.1" ++ 44 :: utf8Bytes "8.8.8.8, 10.0.0.1"], []⟩ =
          .ok (.v4 ⟨8, 8, 8, 8⟩) := by
  intro parseIp
  have hadm : Admission.new parseIp 16 none "10.0.0.1".toList =
      .ok ⟨[.v4 ⟨10, 0, 0, 1⟩], .new 16 (some 16), .new 16 none⟩ := rfl
  refine ⟨_, hadm, ?_⟩
  obtain ⟨-, -, hchain, -⟩ := forwarded_source_unspoofed hadm
  obtain ⟨reason, herror⟩ | hok := hchain (utf8Bytes "1.1.1.1") (utf8Bytes "8.8.8.8, 10.0.0.1")
    "8.8.8.8, 10.0.0.1".toList [] "8.8.8.8".toList [" 10.0.0.1".toList] (.v4 ⟨8, 8, 8, 8⟩)
    (by decide) (by decide) (by decide) (by decide) (by decide)
    (.v6 (toIpv6Mapped ⟨10, 0, 0, 1⟩)) [] (by decide)
  · cases herror
  · exact hok

end MctierSignaling.ConnectionGuard
