import MctierSignaling.Sessions
import Mathlib.Data.Finset.Card
import Mathlib.Data.List.Nodup

/-!
# What the server holds for its connections

The lobby state holds nothing that no connection pays for: the members of all lobbies are as many as
the entries of the reverse map, every lobby has one of them as its host, and every entry is that of
a connection whose handler has not been through its cleanup (`footprint_bounded`). So the maps are
empty again once every handler is gone, whatever happened before.
-/

namespace MctierSignaling

section
variable {sh : Shared}

/-- The members of all lobbies. -/
def Shared.population (sh : Shared) : List String :=
  sh.lobbies.entries.flatMap fun e => e.2.clients.keys

theorem mem_population {c : String} :
    c ∈ sh.population ↔ ∃ l info, sh.member l c = some info := by
  rw [Shared.population, List.mem_flatMap]
  constructor
  · rintro ⟨⟨l, lobby⟩, hentry, hc⟩
    obtain ⟨info, hinfo⟩ := HashMap.mem_keys.1 hc
    exact ⟨l, info, Shared.member_eq_some.2 ⟨lobby, HashMap.mem_entries.1 hentry, hinfo⟩⟩
  · rintro ⟨l, info, hmember⟩
    obtain ⟨lobby, hl, hinfo⟩ := Shared.member_eq_some.1 hmember
    exact ⟨⟨l, lobby⟩, HashMap.mem_entries.2 hl, HashMap.mem_keys.2 ⟨info, hinfo⟩⟩

/-- Nobody is a member twice. -/
theorem LobbyInv.nodup_population (hinv : LobbyInv sh) : sh.population.Nodup := by
  rw [Shared.population, List.nodup_flatMap]
  refine ⟨fun e _ => e.2.clients.keys_nodup, ?_⟩
  have hkeys : sh.lobbies.entries.Pairwise (·.1 ≠ ·.1) :=
    List.pairwise_map.1 sh.lobbies.keys_nodup
  refine hkeys.imp_of_mem fun {e e'} he he' hne c hc hc' => ?_
  obtain ⟨info, hinfo⟩ := HashMap.mem_keys.1 hc
  obtain ⟨info', hinfo'⟩ := HashMap.mem_keys.1 hc'
  exact hne (hinv.member_unique
    (Shared.member_eq_some.2 ⟨e.2, HashMap.mem_entries.1 he, hinfo⟩)
    (Shared.member_eq_some.2 ⟨e'.2, HashMap.mem_entries.1 he', hinfo'⟩))

/-- The members of all lobbies are the keys of the reverse map. -/
theorem LobbyInv.population_perm (hinv : LobbyInv sh) :
    sh.population.Perm sh.clientLobbyMap.keys := by
  refine (List.perm_ext_iff_of_nodup hinv.nodup_population sh.clientLobbyMap.keys_nodup).2 ?_
  intro c
  rw [mem_population, HashMap.mem_keys]
  exact exists_congr fun l => (hinv.mapped c l).symm

/-- Every lobby has a member of its own. -/
theorem LobbyInv.lobbies_le (hinv : LobbyInv sh) :
    sh.lobbies.keys.length ≤ sh.clientLobbyMap.keys.length := by
  have hhosts : (sh.lobbies.entries.map fun e => e.2.hostId).Nodup := by
    refine List.pairwise_map.2 ?_
    have hkeys : sh.lobbies.entries.Pairwise (·.1 ≠ ·.1) :=
      List.pairwise_map.1 sh.lobbies.keys_nodup
    refine hkeys.imp_of_mem fun {e e'} he he' hne hhost => hne ?_
    obtain ⟨info, hinfo⟩ := HashMap.mem_keys.1
      (AList.mem_keys.1 (hinv.lobby _ _ (HashMap.mem_entries.1 he)).host)
    obtain ⟨info', hinfo'⟩ := HashMap.mem_keys.1
      (AList.mem_keys.1 (hinv.lobby _ _ (HashMap.mem_entries.1 he')).host)
    exact hinv.member_unique
      (Shared.member_eq_some.2 ⟨e.2, HashMap.mem_entries.1 he, hinfo⟩)
      (Shared.member_eq_some.2 ⟨e'.2, HashMap.mem_entries.1 he', hhost ▸ hinfo'⟩)
  have hmapped : ∀ c ∈ sh.lobbies.entries.map (fun e => e.2.hostId),
      c ∈ sh.clientLobbyMap.keys := by
    intro c hc
    obtain ⟨e, he, rfl⟩ := List.mem_map.1 hc
    obtain ⟨info, hinfo⟩ := HashMap.mem_keys.1
      (AList.mem_keys.1 (hinv.lobby _ _ (HashMap.mem_entries.1 he)).host)
    exact HashMap.mem_keys.2 ⟨e.1, (hinv.mapped _ _).2
      ⟨info, Shared.member_eq_some.2 ⟨e.2, HashMap.mem_entries.1 he, hinfo⟩⟩⟩
  have hle := (hhosts.subperm hmapped).length_le
  rwa [List.length_map, ← List.length_map (f := Sigma.fst)] at hle

end

section
variable {H : Crypto} {cfg : ServerConfig} {s : Sys H cfg}

/-- The connection that a client's entry belongs to. -/
def Shared.owner (sh : Shared) (c : String) : ConnId :=
  (((sh.clientLobbyMap.lookup c).bind fun l => sh.member l c).map (·.sender)).getD 0

theorem LobbyInv.owner {sh : Shared} (hinv : LobbyInv sh) {c : String}
    (hc : c ∈ sh.clientLobbyMap.keys) :
    ∃ l info, sh.member l c = some info ∧ sh.owner c = info.sender := by
  obtain ⟨l, hl⟩ := HashMap.mem_keys.1 hc
  obtain ⟨info, hinfo⟩ := (hinv.mapped c l).1 hl
  refine ⟨l, info, hinfo, ?_⟩
  rw [Shared.owner, hl, Option.bind_some, hinfo]
  rfl

/-- **The lobby state is paid for by connections.** In every reachable state, the lobbies have as
many members as the reverse map has entries, no more lobbies than members are there, and no more
members than connections whose handlers are still at work. -/
theorem footprint_bounded (h : ReachableSys s) (live : Finset ConnId)
    (hlive : ∀ k, (s.conns k).task ≠ .absent → ¬ (s.conns k).task.Finished → k ∈ live) :
    (s.shared.lobbies.entries.map fun e => e.2.clients.keys.length).sum =
        s.shared.clientLobbyMap.keys.length ∧
      s.shared.lobbies.keys.length ≤ s.shared.clientLobbyMap.keys.length ∧
      s.shared.clientLobbyMap.keys.length ≤ live.card := by
  have hinv := h.inv
  have hlobby := h.lobbyInv
  refine ⟨?_, hlobby.lobbies_le, ?_⟩
  · rw [← hlobby.population_perm.length_eq, Shared.population, List.length_flatMap]
  · rw [← List.toFinset_card_of_nodup s.shared.clientLobbyMap.keys_nodup]
    refine Finset.card_le_card_of_injOn s.shared.owner (fun c hc => ?_) fun c hc c' hc' heq => ?_
    · obtain ⟨l, info, hinfo, howner⟩ := hlobby.owner (List.mem_toFinset.1 hc)
      obtain ⟨hsession, hunfinished⟩ := hinv.own l c info hinfo
      rw [howner]
      refine hlive _ (fun habsent => ?_) hunfinished
      have hnone := hinv.task info.sender
      rw [habsent] at hnone
      cases hsession.symm.trans hnone
    · obtain ⟨l, info, hinfo, howner⟩ := hlobby.owner (List.mem_toFinset.1 hc)
      obtain ⟨l', info', hinfo', howner'⟩ := hlobby.owner (List.mem_toFinset.1 hc')
      have hsession := (hinv.own l c info hinfo).1
      have hsession' := (hinv.own l' c' info' hinfo').1
      have hsender : info.sender = info'.sender := howner.symm.trans (heq.trans howner')
      rw [hsender, hsession'] at hsession
      exact (congrArg RegisteredSession.clientId (Option.some.inj hsession)).symm

end

/-- The handler is gone. -/
def Task.isReturned {H : Crypto} {cfg : ServerConfig} : Task H cfg → Bool
  | .returned => true
  | _ => false

theorem Task.isReturned_iff {H : Crypto} {cfg : ServerConfig} {task : Task H cfg} :
    task.isReturned = true ↔ task = .returned := by
  cases task <;> simp [Task.isReturned]

/-- After the replacement, only alice's connection and bob's second one are at work. -/
theorem replacement_gone {s : Sys recordedCrypto .default} (hs : replacement = some s) {k : ConnId}
    (hk : k ∉ ({1, 3} : Finset ConnId)) :
    (s.conns k).task = .absent ∨ (s.conns k).task = .returned := by
  have h1 : k ≠ 1 := fun h => hk (by simp [h])
  have h3 : k ≠ 3 := fun h => hk (by simp [h])
  by_cases h2 : k = 2
  · subst h2
    have hrun : replacement.map (fun s => (s.conns 2).task.isReturned) = some true := by
      decide +kernel
    rw [hs] at hrun
    exact .inr (Task.isReturned_iff.1 (Option.some.inj hrun))
  · have huntouched : Untouched (handshake.conns k) (s.conns k) := by
      refine Untouched.foldlM (fun _ _ _ h => h) (fun act hact => ?_) hs
      simp only [List.mem_cons, List.not_mem_nil, or_false] at hact
      rcases hact with rfl | rfl | rfl | rfl | rfl <;> simp [Action.actor, Ne.symm, h1, h2, h3]
    refine .inl (huntouched.task.trans ?_)
    rw [handshake_absent h1 h2 h3]
    rfl

/-- After the replacement, two connections are at work for the two members of the room. -/
theorem footprint_bounded_replacement : ∃ s, replacement = some s ∧
    s.shared.clientLobbyMap.keys.length = 2 ∧ s.shared.clientLobbyMap.keys.length ≤ 2 := by
  have hrun : replacement.map (fun s => s.shared.clientLobbyMap.keys.length) = some 2 := by
    decide +kernel
  obtain ⟨s, hs, hsize⟩ := Option.map_eq_some_iff.1 hrun
  obtain ⟨-, -, hbound⟩ := footprint_bounded (handshake_reachable.foldlM hs) {1, 3}
    fun k hopen hunfinished => by
      by_contra hk
      rcases replacement_gone hs hk with ht | ht
      · exact hopen ht
      · rw [ht] at hunfinished
        exact hunfinished trivial
  exact ⟨s, hs, hsize, hbound⟩

end MctierSignaling
