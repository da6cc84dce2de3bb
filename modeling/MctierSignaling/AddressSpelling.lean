import MctierSignaling.CommunityNode
import MctierSignaling.Lib.Delimited

/-!
# The spelling of an address

The registry keys a node by its normalized address. Two accepted addresses have the same key exactly
if they name the same endpoint (`normalized_eq_iff`): the text `scheme://host:port/path` is read
back field by field, since the host is put in brackets if it holds a colon.

The key need not be its own normal form. The limit on the length is checked before the port and the
brackets are added, and a host that holds a bracket is read back differently. `Stable` says which
addresses have a key that reads back (`normalized_stable_iff`).
-/

namespace MctierSignaling.CommunityNodes

open Delimited

/-! ## Splitting at a pattern -/

section
variable {c : Char} {s t a b : List Char}

theorem splitOnce_eq {pat : List Char} (h : splitOnce pat s = some (a, b)) : s = a ++ pat ++ b := by
  induction s generalizing a with
  | nil => simp [splitOnce] at h
  | cons x s ih =>
    rw [splitOnce] at h
    split at h
    · rename_i hpat
      obtain ⟨t, ht⟩ := List.isPrefixOf_iff_prefix.mp hpat
      simp only [Option.some.injEq, Prod.mk.injEq] at h
      obtain ⟨rfl, rfl⟩ := h
      rw [← ht]
      simp
    · obtain ⟨⟨a', b'⟩, hsplit, heq⟩ := Option.map_eq_some_iff.mp h
      simp only [Prod.mk.injEq] at heq
      obtain ⟨rfl, rfl⟩ := heq
      rw [ih hsplit]
      simp

theorem splitOnce_cons {x : Char} : splitOnce [c] (x :: s) =
    if c = x then some ([], s) else (splitOnce [c] s).map fun (u, v) => (x :: u, v) := by
  rw [splitOnce]
  simp

theorem splitOnce_char (h : c ∉ a) : splitOnce [c] (a ++ c :: b) = some (a, b) := by
  induction a with
  | nil => simp [splitOnce_cons]
  | cons x a ih =>
    simp only [List.mem_cons, not_or] at h
    simp [splitOnce_cons, h.1, ih h.2]

theorem splitOnce_none (h : c ∉ s) : splitOnce [c] s = none := by
  induction s with
  | nil => rfl
  | cons x s ih =>
    simp only [List.mem_cons, not_or] at h
    simp [splitOnce_cons, h.1, ih h.2]

/-- The part before the first occurrence of a character is shorter than a text that holds the
character. -/
theorem splitOnce_of_mem (h : c ∈ a) (hsplit : splitOnce [c] (a ++ b) = some (s, t)) :
    s.length < a.length := by
  obtain ⟨u, v, rfl, hu⟩ := List.eq_append_cons_of_mem h
  rw [List.append_assoc, List.cons_append, splitOnce_char hu] at hsplit
  simp only [Option.some.injEq, Prod.mk.injEq] at hsplit
  simp [← hsplit.1]

theorem splitOnce_scheme (h : ':' ∉ a) :
    splitOnce "://".toList (a ++ "://".toList ++ b) = some (a, b) := by
  induction a with
  | nil => simp [splitOnce]
  | cons x a ih =>
    simp only [List.mem_cons, not_or] at h
    simpa [splitOnce, h.1] using ih h.2

theorem rsplitOnce_eq (h : rsplitOnce c s = some (a, b)) : s = a ++ c :: b := by
  obtain ⟨⟨u, v⟩, hsplit, heq⟩ := Option.map_eq_some_iff.mp h
  simp only [Prod.mk.injEq] at heq
  obtain ⟨rfl, rfl⟩ := heq
  rw [← List.reverse_inj, splitOnce_eq hsplit]
  simp

theorem rsplitOnce_char (h : c ∉ b) : rsplitOnce c (a ++ c :: b) = some (a, b) := by
  have hrev : (a ++ c :: b).reverse = b.reverse ++ c :: a.reverse := by simp
  rw [rsplitOnce, hrev, splitOnce_char (by simpa using h)]
  simp

end

/-! ## Ports -/

theorem digits?_eq {s : List Char} (h : ∀ c ∈ s, c.isDigit) (acc : Nat) :
    digits? acc s = some (Nat.ofDigitChars 10 s acc) := by
  induction s generalizing acc with
  | nil => rfl
  | cons c s ih =>
    have hc : c.isDigit := h c (by simp)
    have hdigit : digit? c = some (c.toNat - '0'.toNat) := by
      rw [digit?, if_pos]
      simpa [Char.isDigit, Char.le_def] using hc
    have hs : ∀ c ∈ s, c.isDigit := fun c hc => h c (by simp [hc])
    simp only [digits?, hdigit, Option.bind_some]
    rw [ih hs, Nat.ofDigitChars_cons, Nat.mul_comm]

theorem decimal_ne_nil {n : Nat} : decimal n ≠ [] := Nat.toDigits_ne_nil

theorem isDigit_decimal {n : Nat} {c : Char} (h : c ∈ decimal n) : c.isDigit :=
  Nat.isDigit_of_mem_toDigits (by omega) (by omega) h

theorem not_mem_decimal {n : Nat} {c : Char} (h : c.isDigit = false) : c ∉ decimal n := by
  intro hmem
  rw [isDigit_decimal hmem] at h
  cases h

theorem decimal_injective : Function.Injective decimal := by
  intro m n h
  have hm := congrArg (Nat.ofDigitChars 10 · 0) h
  simpa [decimal] using hm

theorem parseUnsigned_eq {m : Nat} {s : List Char} (hne : s ≠ []) (hplus : '+' ∉ s) :
    parseUnsigned m s = (digits? 0 s).filter (· ≤ m) := by
  unfold parseUnsigned
  cases s with
  | nil => exact absurd rfl hne
  | cons c s =>
    have hc : c ≠ '+' := by
      rintro rfl
      exact hplus List.mem_cons_self
    simp [hc]

/-- A port reads back from its decimal text. -/
theorem parseU16_decimal {n : Nat} (h : n < 2 ^ 16) : parseU16 (decimal n) = some n := by
  have hread : digits? 0 (decimal n) = some n := by
    rw [digits?_eq fun _ hc => isDigit_decimal hc, decimal, Nat.ofDigitChars_ten_toDigits]
  have hle : n ≤ 2 ^ 16 - 1 := by omega
  rw [parseU16, parseUnsigned_eq decimal_ne_nil (not_mem_decimal rfl), hread]
  simpa using hle

theorem parseU16_lt {s : List Char} {n : Nat} (h : parseU16 s = some n) : n < 2 ^ 16 := by
  simp only [parseU16, parseUnsigned] at h
  obtain ⟨-, hfilter⟩ := Option.ite_none_left_eq_some.mp h
  have hle := (Option.filter_eq_some_iff.mp hfilter).2
  simp only [decide_eq_true_eq] at hle
  omega

/-! ## Hosts -/

/-- A host as it stands in a normalized address. -/
def hostPart (host : List Char) : List Char :=
  if ':' ∈ host then '[' :: host ++ [']'] else host

/-- A host reads back from its part of a normalized address: a bracket does not end it too early, or
open it. -/
def HostReadsBack (host : List Char) : Prop :=
  if ':' ∈ host then ']' ∉ host else host.head? ≠ some '['

theorem hostPart_injective : Function.Injective hostPart := by
  intro h h' heq
  unfold hostPart at heq
  split at heq <;> split at heq
  · simpa using heq
  · rename_i hcolon hnone
    exact absurd (heq ▸ by simp [hcolon]) hnone
  · rename_i hnone hcolon
    exact absurd (heq ▸ by simp [hcolon]) hnone
  · exact heq

theorem mem_hostPart {host : List Char} {c : Char} (h : c ∈ hostPart host) :
    c ∈ host ∨ c = '[' ∨ c = ']' := by
  unfold hostPart at h
  split at h
  · simp only [List.mem_append, List.mem_cons, List.not_mem_nil, or_false] at h
    tauto
  · exact .inl h

section
variable {s host : List Char} {port d : Nat}

theorem parseHostPort_bracket : parseHostPort ('[' :: s) d = (do
    let (host, tail) ← splitOnce [']'] s
    if host.isEmpty then none
    else match tail with
    | ':' :: p => (parseU16 p).map (host, ·)
    | _ => some (host, d)) := rfl

theorem parseHostPort_plain (hne : s ≠ []) (hopen : s.head? ≠ some '[') :
    parseHostPort s d = match rsplitOnce ':' s with
    | none => some (s, d)
    | some (host, portStr) =>
      match parseU16 portStr with
      | none => some (s, d)
      | some p => if host.isEmpty then none else some (host, p) := by
  unfold parseHostPort
  split
  · exact absurd rfl hne
  · exact absurd rfl hopen
  · rfl

theorem parseHostPort_bracket_spec (h : parseHostPort ('[' :: s) d = some (host, port)) :
    host ≠ [] ∧ (∃ tail, splitOnce [']'] s = some (host, tail)) ∧
      (port = d ∨ ∃ p, parseU16 p = some port) := by
  rw [parseHostPort_bracket] at h
  obtain ⟨⟨host', tail⟩, hsplit, hread⟩ := Option.bind_eq_some_iff.mp h
  obtain ⟨hne, hread⟩ := Option.ite_none_left_eq_some.mp hread
  have hne' : host' ≠ [] := by simpa using hne
  split at hread
  · rename_i p _
    obtain ⟨n, hn, heq⟩ := Option.map_eq_some_iff.mp hread
    simp only [Prod.mk.injEq] at heq
    obtain ⟨rfl, rfl⟩ := heq
    exact ⟨hne', ⟨_, hsplit⟩, .inr ⟨p, hn⟩⟩
  · simp only [Option.some.injEq, Prod.mk.injEq] at hread
    obtain ⟨rfl, rfl⟩ := hread
    exact ⟨hne', ⟨_, hsplit⟩, .inl rfl⟩

/-- A host that is read is a part of the text, and not empty, and a port that is read fits. -/
theorem parseHostPort_spec (h : parseHostPort s d = some (host, port)) (hd : d < 2 ^ 16) :
    host ≠ [] ∧ port < 2 ^ 16 ∧ ∀ c ∈ host, c ∈ s := by
  by_cases hne : s = []
  · subst hne
    cases h
  by_cases hopen : s.head? = some '['
  · obtain ⟨s, rfl⟩ := List.head?_eq_some_iff.mp hopen
    obtain ⟨hhost, ⟨tail, hsplit⟩, hport⟩ := parseHostPort_bracket_spec h
    refine ⟨hhost, ?_, fun c hc => ?_⟩
    · obtain rfl | ⟨p, hp⟩ := hport
      · exact hd
      · exact parseU16_lt hp
    · rw [splitOnce_eq hsplit]
      simp [hc]
  · rw [parseHostPort_plain hne hopen] at h
    split at h
    · simp only [Option.some.injEq, Prod.mk.injEq] at h
      obtain ⟨rfl, rfl⟩ := h
      exact ⟨hne, hd, fun _ hc => hc⟩
    · rename_i host' portStr hsplit
      split at h
      · simp only [Option.some.injEq, Prod.mk.injEq] at h
        obtain ⟨rfl, rfl⟩ := h
        exact ⟨hne, hd, fun _ hc => hc⟩
      · rename_i p hp
        obtain ⟨hhost, heq⟩ := Option.ite_none_left_eq_some.mp h
        simp only [Option.some.injEq, Prod.mk.injEq] at heq
        obtain ⟨rfl, rfl⟩ := heq
        refine ⟨by simpa using hhost, parseU16_lt hp, fun c hc => ?_⟩
        rw [rsplitOnce_eq hsplit]
        simp [hc]

/-- The host and port of a normalized address read back exactly if the host does. -/
theorem parseHostPort_hostPart (hne : host ≠ []) (hport : port < 2 ^ 16) :
    parseHostPort (hostPart host ++ ':' :: decimal port) d = some (host, port) ↔
      HostReadsBack host := by
  have hcolon : ':' ∉ decimal port := not_mem_decimal rfl
  have hclose : ']' ∉ decimal port := not_mem_decimal rfl
  unfold hostPart HostReadsBack
  split
  · -- the host is in brackets, and the first closing one ends it
    have hs : '[' :: host ++ [']'] ++ ':' :: decimal port =
        '[' :: (host ++ ']' :: ':' :: decimal port) := by simp
    rw [hs]
    constructor
    · intro h hmem
      obtain ⟨-, ⟨tail, hsplit⟩, -⟩ := parseHostPort_bracket_spec h
      have hlt := splitOnce_of_mem hmem hsplit
      omega
    · intro h
      rw [parseHostPort_bracket, splitOnce_char h]
      simp [hne, parseU16_decimal hport]
  · rename_i hnone
    constructor
    · intro h hopen
      obtain ⟨host', rfl⟩ := List.head?_eq_some_iff.mp hopen
      rw [List.cons_append] at h
      obtain ⟨-, ⟨tail, hsplit⟩, -⟩ := parseHostPort_bracket_spec h
      have hmem : ']' ∈ host' := by
        have htext : ']' ∈ host' ++ ':' :: decimal port := by
          rw [splitOnce_eq hsplit]
          simp
        simpa [hclose] using htext
      have hlt := splitOnce_of_mem hmem hsplit
      rw [List.length_cons] at hlt
      omega
    · intro h
      have hhead : (host ++ ':' :: decimal port).head? ≠ some '[' := by
        cases host with
        | nil => exact absurd rfl hne
        | cons c host => simpa using h
      rw [parseHostPort_plain (by simp) hhead, rsplitOnce_char hcolon]
      simp [parseU16_decimal hport, hne]

end

/-! ## Lower case -/

/-- A text without whitespace and control characters. -/
def Clean (s : List Char) : Prop := ∀ c ∈ s, isWhitespace c = false ∧ isControl c = false

instance (s : List Char) : Decidable (Clean s) :=
  List.decidableBAll (fun c => isWhitespace c = false ∧ isControl c = false) s

theorem Clean.append {s t : List Char} (hs : Clean s) (ht : Clean t) : Clean (s ++ t) := by
  intro c hc
  obtain hc | hc := List.mem_append.mp hc
  · exact hs c hc
  · exact ht c hc

theorem Clean.trim {s : List Char} (h : Clean s) : trim s = s := by
  have hdrop : ∀ t : List Char, (∀ c ∈ t, c ∈ s) → t.dropWhile isWhitespace = t := by
    intro t ht
    cases t with
    | nil => rfl
    | cons c t => simp [(h c (ht c List.mem_cons_self)).1]
  unfold MctierSignaling.trim
  rw [hdrop s fun _ hc => hc, hdrop s.reverse fun _ hc => List.mem_reverse.mp hc,
    List.reverse_reverse]

theorem Clean.of_subset {s t : List Char} (h : Clean t) (hsub : ∀ c ∈ s, c ∈ t) : Clean s :=
  fun c hc => h c (hsub c hc)

/-- The visible ASCII characters are no whitespace and no control characters. -/
theorem clean_of_toNat {c : Char} (hlow : 33 ≤ c.toNat) (hhigh : c.toNat ≤ 126) :
    isWhitespace c = false ∧ isControl c = false := by
  unfold isWhitespace isControl
  constructor
  · simp only [Bool.or_eq_false_iff, Bool.and_eq_false_iff, decide_eq_false_iff_not,
      beq_eq_false_iff_ne]
    omega
  · simp only [Bool.or_eq_false_iff, Bool.and_eq_false_iff, decide_eq_false_iff_not]
    omega

/-- What Unicode says of `str::to_lowercase`: a text in lower case stays as it is, no character is
mapped to nothing, and neither a slash nor a whitespace or control character is introduced. -/
structure Lowercases (lower : List Char → List Char) : Prop where
  idem : ∀ s, lower (lower s) = lower s
  ne_nil : ∀ s, s ≠ [] → lower s ≠ []
  slash : ∀ s, '/' ∈ lower s → '/' ∈ s
  clean : ∀ s, Clean s → Clean (lower s)

theorem toLower_eq_self {c : Char} (h : ¬ (65 ≤ c.toNat ∧ c.toNat ≤ 90)) : c.toLower = c := by
  have hval : ¬ (c.val ≥ 'A'.val ∧ c.val ≤ 'Z'.val) := h
  exact dif_neg hval

/-- A character stays as it is, or becomes a lower-case letter. -/
theorem toLower_cases (c : Char) :
    c.toLower = c ∨ 97 ≤ c.toLower.toNat ∧ c.toLower.toNat ≤ 122 := by
  by_cases h : 65 ≤ c.toNat ∧ c.toNat ≤ 90
  · right
    have hupper : c.val ≥ 'A'.val ∧ c.val ≤ 'Z'.val := h
    have hval : c.toLower.toNat = (c.val + 32).toNat := congrArg Char.toNat (dif_pos hupper)
    have hadd : (c.val + 32).toNat = c.toNat + 32 := by
      have hnat : c.val.toNat = c.toNat := rfl
      rw [UInt32.toNat_add, hnat]
      exact Nat.mod_eq_of_lt (by simp; omega)
    omega
  · exact .inl (toLower_eq_self h)

/-- `str::to_lowercase` of ASCII texts. -/
def asciiLower (s : List Char) : List Char := s.map Char.toLower

theorem lowercases_asciiLower : Lowercases asciiLower where
  idem s := by
    rw [asciiLower, asciiLower, List.map_map]
    refine List.map_congr_left fun c _ => ?_
    obtain h | h := toLower_cases c
    · exact congrArg Char.toLower h
    · exact toLower_eq_self (by omega)
  ne_nil s h := by simpa [asciiLower] using h
  slash s h := by
    obtain ⟨c, hc, heq⟩ := List.mem_map.mp h
    obtain hc' | hletter := toLower_cases c
    · rw [← heq, hc']
      exact hc
    · rw [heq] at hletter
      simp at hletter
  clean s h := by
    intro c' hc'
    obtain ⟨c, hc, rfl⟩ := List.mem_map.mp hc'
    obtain hsame | hletter := toLower_cases c
    · rw [hsame]
      exact h c hc
    · exact clean_of_toNat (by omega) (by omega)

/-! ## Accepted addresses -/

def schemes : List (List Char) := ["tcp".toList, "udp".toList, "ws".toList, "wss".toList]

theorem not_mem_schemes {scheme : List Char} (h : scheme ∈ schemes) : ':' ∉ scheme := by
  have hall : ∀ scheme ∈ schemes, ':' ∉ scheme := by decide
  exact hall scheme h

/-- What an address that is accepted reads as. -/
structure Endpoint (lower : List Char → List Char) (text scheme rest host : List Char)
    (port : Nat) : Prop where
  short : (String.ofList text).utf8ByteSize ≤ COMMUNITY_NODE_ADDRESS_MAX_LEN
  clean : Clean text
  split : splitScheme lower text = (scheme, rest)
  scheme_mem : scheme ∈ schemes
  parsed : parseNodeHostPort lower text = some (host, port)
  port_ne : port ≠ 0

section
variable {lower : List Char → List Char} {text scheme rest host path : List Char} {port : Nat}
  {a b m n : String}

/-- A text that passes the checks of a scheme has one. -/
theorem splitOnce_of_scheme (hsplit : splitScheme lower text = (scheme, rest))
    (hscheme : scheme ∈ schemes) :
    ∃ written, splitOnce "://".toList text = some (written, rest) ∧ lower written = scheme := by
  unfold splitScheme at hsplit
  split at hsplit
  · rename_i written rest' heq
    simp only [Prod.mk.injEq] at hsplit
    obtain ⟨hlower, rfl⟩ := hsplit
    exact ⟨written, heq, hlower⟩
  · simp only [Prod.mk.injEq] at hsplit
    rw [← hsplit.1] at hscheme
    exact absurd hscheme (by decide)

/-- The addresses that are accepted, and their normalized text. -/
theorem normalize_ok_iff : normalizeCommunityNodeAddress lower a = .ok n ↔
    ∃ scheme rest host port, Endpoint lower (trim a.toList) scheme rest host port ∧
      n = String.ofList (endpointText lower scheme host port (pathOf rest)) := by
  unfold normalizeCommunityNodeAddress
  generalize trim a.toList = text
  constructor
  · intro h
    simp only at h
    split at h
    · cases h
    split at h
    · cases h
    rename_i hshort
    split at h
    · cases h
    rename_i hclean
    split at h
    · cases h
    rename_i written rest hsplit
    split at h
    · cases h
    rename_i hscheme
    split at h
    · cases h
    rename_i host port hparsed
    split at h
    · cases h
    rename_i hport
    have hclean' : Clean text := by
      intro c hc
      simp only [List.any_eq_true, Bool.or_eq_true, not_exists, not_and, not_or,
        Bool.not_eq_true] at hclean
      exact hclean c hc
    refine ⟨lower written, rest, host, port, ⟨by omega, hclean', ?_, ?_, hparsed, hport⟩, ?_⟩
    · simp only [splitScheme, hsplit]
    · exact Decidable.not_not.mp hscheme
    · simpa using h.symm
  · rintro ⟨scheme, rest, host, port, h, rfl⟩
    obtain ⟨written, hsplit, rfl⟩ := splitOnce_of_scheme h.split h.scheme_mem
    have hne : text.isEmpty = false := by
      cases text with
      | nil => cases hsplit
      | cons => rfl
    have hclean : (text.any fun c => isWhitespace c || isControl c) = false := by
      rw [List.any_eq_false]
      intro c hc
      simp [h.clean c hc]
    have hscheme : ¬ lower written ∉ ["tcp".toList, "udp".toList, "ws".toList, "wss".toList] :=
      not_not.mpr h.scheme_mem
    have hshort : ¬ (String.ofList text).utf8ByteSize > COMMUNITY_NODE_ADDRESS_MAX_LEN := by
      have := h.short
      omega
    simp only [hne, hclean, if_neg hshort, hsplit, if_neg hscheme, h.parsed, if_neg h.port_ne,
      Bool.false_eq_true, if_false]

/-- The scheme of an accepted address is followed by its host and port. -/
theorem Endpoint.parse (h : Endpoint lower text scheme rest host port) :
    parseHostPort (rest.takeWhile (· ≠ '/')) (defaultPort scheme) = some (host, port) := by
  have hparsed := h.parsed
  unfold parseNodeHostPort at hparsed
  rwa [h.clean.trim, h.split] at hparsed

theorem Endpoint.rest_mem (h : Endpoint lower text scheme rest host port) {c : Char}
    (hc : c ∈ rest) : c ∈ text := by
  have hsplit := h.split
  unfold splitScheme at hsplit
  split at hsplit
  · rename_i heq
    simp only [Prod.mk.injEq] at hsplit
    obtain ⟨-, rfl⟩ := hsplit
    rw [splitOnce_eq heq]
    simp [hc]
  · simp only [Prod.mk.injEq] at hsplit
    exact hsplit.2 ▸ hc

theorem defaultPort_lt : defaultPort scheme < 2 ^ 16 := by
  unfold defaultPort
  split
  · omega
  · split <;> omega

theorem Endpoint.host_ne (h : Endpoint lower text scheme rest host port) : host ≠ [] :=
  (parseHostPort_spec h.parse defaultPort_lt).1

theorem Endpoint.port_lt (h : Endpoint lower text scheme rest host port) : port < 2 ^ 16 :=
  (parseHostPort_spec h.parse defaultPort_lt).2.1

theorem Endpoint.host_mem (h : Endpoint lower text scheme rest host port) {c : Char}
    (hc : c ∈ host) : c ∈ text ∧ c ≠ '/' := by
  have hmem := (parseHostPort_spec h.parse defaultPort_lt).2.2 c hc
  have hne := List.mem_takeWhile_imp hmem
  exact ⟨h.rest_mem ((List.takeWhile_prefix _).subset hmem), by simpa using hne⟩

/-! ## One key for one endpoint -/

/-- A path is empty, or a slash and more. -/
theorem pathOf_cases (rest : List Char) :
    pathOf rest = [] ∨ ∃ c s, pathOf rest = '/' :: c :: s := by
  unfold pathOf
  split
  · exact .inl rfl
  · exact .inl rfl
  · rename_i s hne _
    cases s with
    | nil => exact (hne rfl).elim
    | cons c s => exact .inr ⟨c, s, rfl⟩

theorem rest_pathOf : Rest '/' (pathOf rest) := by
  obtain h | ⟨c, s, h⟩ := pathOf_cases rest
  · exact .inl h
  · exact .inr ⟨_, h⟩

theorem mem_pathOf {c : Char} (h : c ∈ pathOf rest) : c = '/' ∨ c ∈ rest := by
  unfold pathOf at h
  split at h
  · cases h
  · cases h
  · rename_i heq
    obtain h | h := List.mem_cons.mp h
    · exact .inl h
    · rw [splitOnce_eq heq]
      simp [h]

/-- The path of a normalized address reads back. -/
theorem pathOf_append (h : '/' ∉ host) : pathOf (host ++ pathOf rest) = pathOf rest := by
  obtain hpath | ⟨c, s, hpath⟩ := pathOf_cases rest
  · rw [hpath, List.append_nil, pathOf, splitOnce_none h]
  · rw [hpath, pathOf, splitOnce_char h]

/-- The part of a normalized address between the scheme and the path. -/
def authority (host : List Char) (port : Nat) : List Char := hostPart host ++ ':' :: decimal port

theorem endpointText_eq : endpointText lower scheme host port path =
    scheme ++ "://".toList ++ (authority (lower host) port ++ path) := by
  simp [endpointText, authority, hostPart]

theorem not_mem_authority (h : '/' ∉ host) : '/' ∉ authority host port := by
  intro hmem
  obtain hmem | hmem := List.mem_append.mp hmem
  · obtain hmem | hmem | hmem := mem_hostPart hmem
    · exact h hmem
    · cases hmem
    · cases hmem
  · obtain hmem | hmem := List.mem_cons.mp hmem
    · cases hmem
    · exact not_mem_decimal rfl hmem

theorem authority_inj {host' : List Char} {port' : Nat} :
    authority host port = authority host' port' ↔ host = host' ∧ port = port' := by
  unfold authority
  rw [last_inj (not_mem_decimal rfl) (not_mem_decimal rfl), hostPart_injective.eq_iff,
    decimal_injective.eq_iff]

/-- Two accepted addresses are registered under one key exactly if their schemes, hosts, ports and
paths are the same, the scheme and the host in lower case. `lower` does not introduce slashes. -/
theorem normalized_eq_iff (hlower : ∀ s, '/' ∈ lower s → '/' ∈ s)
    (ha : normalizeCommunityNodeAddress lower a = .ok m)
    (hb : normalizeCommunityNodeAddress lower b = .ok n) :
    m = n ↔
      (splitScheme lower (trim a.toList)).1 = (splitScheme lower (trim b.toList)).1 ∧
      (parseNodeHostPort lower (trim a.toList)).map (Prod.map lower id) =
        (parseNodeHostPort lower (trim b.toList)).map (Prod.map lower id) ∧
      pathOf (splitScheme lower (trim a.toList)).2 =
        pathOf (splitScheme lower (trim b.toList)).2 := by
  obtain ⟨scheme, rest, host, port, ea, rfl⟩ := normalize_ok_iff.mp ha
  obtain ⟨scheme', rest', host', port', eb, rfl⟩ := normalize_ok_iff.mp hb
  have hhost : '/' ∉ authority (lower host) port :=
    not_mem_authority fun h => (ea.host_mem (hlower host h)).2 rfl
  have hhost' : '/' ∉ authority (lower host') port' :=
    not_mem_authority fun h => (eb.host_mem (hlower host' h)).2 rfl
  have hscheme : ∀ s t u v : List Char, ':' ∉ s → ':' ∉ t →
      (s ++ "://".toList ++ u = t ++ "://".toList ++ v ↔ s = t ∧ u = v) := by
    intro s t u v hs ht
    have hcut : s ++ ':' :: ('/' :: '/' :: u) = t ++ ':' :: ('/' :: '/' :: v) ↔
        s = t ∧ '/' :: '/' :: u = '/' :: '/' :: v := first_inj hs ht
    simpa using hcut
  rw [String.ofList_inj, endpointText_eq, endpointText_eq,
    hscheme _ _ _ _ (not_mem_schemes ea.scheme_mem) (not_mem_schemes eb.scheme_mem),
    rest_inj hhost hhost' rest_pathOf rest_pathOf, authority_inj, ea.split, eb.split, ea.parsed,
    eb.parsed]
  simp

theorem normalized_eq_example : "tcp://example.com:11010" = "tcp://example.com:11010" ↔
    (splitScheme asciiLower (trim "TCP://Example.com/".toList)).1 =
      (splitScheme asciiLower (trim " tcp://example.com:11010".toList)).1 ∧
    (parseNodeHostPort asciiLower (trim "TCP://Example.com/".toList)).map (Prod.map asciiLower id) =
      (parseNodeHostPort asciiLower (trim " tcp://example.com:11010".toList)).map
        (Prod.map asciiLower id) ∧
    pathOf (splitScheme asciiLower (trim "TCP://Example.com/".toList)).2 =
      pathOf (splitScheme asciiLower (trim " tcp://example.com:11010".toList)).2 :=
  normalized_eq_iff lowercases_asciiLower.slash (by decide +kernel) (by decide +kernel)

/-! ## A key that is its own normal form -/

/-- The length of a text in UTF-8. -/
def utf8Size (s : List Char) : Nat := (String.ofList s).utf8ByteSize

theorem utf8Size_append {s t : List Char} : utf8Size (s ++ t) = utf8Size s + utf8Size t := by
  simp [utf8Size]

/-- The addresses whose normalized text reads back: the host does, and the text is still within the
limit with the port and the brackets that are added. -/
def Stable (lower : List Char → List Char) (address : String) : Prop :=
  ∀ host port, parseNodeHostPort lower (trim address.toList) = some (host, port) →
    HostReadsBack (lower host) ∧
      utf8Size (splitScheme lower (trim address.toList)).1 + utf8Size (lower host) +
        (if ':' ∈ lower host then 2 else 0) + utf8Size (decimal port) +
        utf8Size (pathOf (splitScheme lower (trim address.toList)).2) + 4 ≤
      COMMUNITY_NODE_ADDRESS_MAX_LEN

theorem utf8Size_endpointText : utf8Size (endpointText lower scheme host port path) =
    utf8Size scheme + utf8Size (lower host) + (if ':' ∈ lower host then 2 else 0) +
      utf8Size (decimal port) + utf8Size path + 4 := by
  have hsep : utf8Size "://".toList = 3 := rfl
  have hcolon : ∀ s, utf8Size (':' :: s) = 1 + utf8Size s := by
    intro s
    rw [← List.singleton_append, utf8Size_append]
    rfl
  have hhost : utf8Size (hostPart (lower host)) =
      utf8Size (lower host) + if ':' ∈ lower host then 2 else 0 := by
    unfold hostPart
    split
    · have hopen : utf8Size ['['] = 1 := rfl
      have hclose : utf8Size [']'] = 1 := rfl
      rw [← List.singleton_append, utf8Size_append, utf8Size_append, hopen, hclose]
      omega
    · rfl
  rw [endpointText_eq, authority, utf8Size_append, utf8Size_append, utf8Size_append,
    utf8Size_append, hsep, hcolon, hhost]
  omega

theorem clean_decimal : Clean (decimal port) := by
  intro c hc
  have hdigit := isDigit_decimal hc
  simp only [Char.isDigit, Bool.and_eq_true, decide_eq_true_eq, ge_iff_le,
    UInt32.le_iff_toNat_le] at hdigit
  have hlow : 48 ≤ c.toNat := hdigit.1
  have hhigh : c.toNat ≤ 57 := hdigit.2
  exact clean_of_toNat (by omega) (by omega)

theorem clean_hostPart (h : Clean host) : Clean (hostPart host) := by
  intro c hc
  obtain hc | rfl | rfl := mem_hostPart hc
  · exact h c hc
  · decide
  · decide

/-- The normalized text of an accepted address is clean. -/
theorem Endpoint.clean_text (h : Endpoint lower text scheme rest host port)
    (hlower : Lowercases lower) : Clean (endpointText lower scheme host port (pathOf rest)) := by
  have hscheme : ∀ scheme ∈ schemes, Clean scheme := by decide
  have hcolon : Clean [':'] := by decide
  have hsep : Clean "://".toList := by decide
  have hhost : Clean (lower host) :=
    hlower.clean host (h.clean.of_subset fun c hc => (h.host_mem hc).1)
  have hslash : Clean ['/'] := by decide
  have hpath : Clean (pathOf rest) :=
    (hslash.append (h.clean.of_subset fun c hc => h.rest_mem hc)).of_subset fun c hc =>
      List.mem_cons.mpr (mem_pathOf hc)
  rw [endpointText_eq, authority, ← List.singleton_append]
  exact ((hscheme scheme h.scheme_mem).append hsep).append
    (((clean_hostPart hhost).append (hcolon.append clean_decimal)).append hpath)

/-- The scheme of a normalized address reads back. -/
theorem Endpoint.splitScheme_text (h : Endpoint lower text scheme rest host port)
    (hlower : Lowercases lower) :
    splitScheme lower (endpointText lower scheme host port (pathOf rest)) =
      (scheme, authority (lower host) port ++ pathOf rest) := by
  obtain ⟨written, -, rfl⟩ := splitOnce_of_scheme h.split h.scheme_mem
  rw [endpointText_eq, splitScheme, splitOnce_scheme (not_mem_schemes h.scheme_mem)]
  simp only [hlower.idem]

theorem Endpoint.authority_slash (h : Endpoint lower text scheme rest host port)
    (hlower : Lowercases lower) : '/' ∉ authority (lower host) port :=
  not_mem_authority fun hmem => (h.host_mem (hlower.slash host hmem)).2 rfl

/-- The host and port of a normalized address read back exactly if the host does. -/
theorem Endpoint.parse_text (h : Endpoint lower text scheme rest host port)
    (hlower : Lowercases lower) :
    parseNodeHostPort lower (endpointText lower scheme host port (pathOf rest)) =
      some (lower host, port) ↔ HostReadsBack (lower host) := by
  rw [parseNodeHostPort, (h.clean_text hlower).trim, h.splitScheme_text hlower]
  simp only [takeWhile_field (h.authority_slash hlower) rest_pathOf]
  exact parseHostPort_hostPart (hlower.ne_nil host h.host_ne) h.port_lt

/-- A normalized address is its own normal form, and names the host and port it was made of, exactly
if the address is stable. -/
theorem normalized_stable_iff (hlower : Lowercases lower)
    (h : normalizeCommunityNodeAddress lower a = .ok n) :
    (normalizeCommunityNodeAddress lower n = .ok n ∧
      ∀ host port, parseNodeHostPort lower (trim a.toList) = some (host, port) →
        parseNodeHostPort lower n.toList = some (lower host, port)) ↔
      Stable lower a := by
  obtain ⟨scheme, rest, host, port, ea, rfl⟩ := normalize_ok_iff.mp h
  have hclean := ea.clean_text hlower
  have hstable : Stable lower a ↔ HostReadsBack (lower host) ∧
      utf8Size (endpointText lower scheme host port (pathOf rest)) ≤
        COMMUNITY_NODE_ADDRESS_MAX_LEN := by
    rw [utf8Size_endpointText, Stable, ea.split, ea.parsed]
    simp
  rw [hstable, normalize_ok_iff, ea.parsed, String.toList_ofList, hclean.trim]
  constructor
  · rintro ⟨⟨_, _, _, _, en, -⟩, hparse⟩
    exact ⟨(ea.parse_text hlower).mp (hparse host port rfl), en.short⟩
  · rintro ⟨hhost, hshort⟩
    have hparse := (ea.parse_text hlower).mpr hhost
    have en : Endpoint lower (endpointText lower scheme host port (pathOf rest)) scheme
        (authority (lower host) port ++ pathOf rest) (lower host) port :=
      ⟨hshort, hclean, ea.splitScheme_text hlower, ea.scheme_mem, hparse, ea.port_ne⟩
    refine ⟨⟨_, _, _, _, en, ?_⟩, fun host' port' heq => ?_⟩
    · rw [pathOf_append (ea.authority_slash hlower), endpointText, endpointText, hlower.idem]
    · simp only [Option.some.injEq, Prod.mk.injEq] at heq
      obtain ⟨rfl, rfl⟩ := heq
      exact hparse

theorem normalized_stable_example :
    (normalizeCommunityNodeAddress asciiLower "tcp://example.com:11010" =
        .ok "tcp://example.com:11010" ∧
      ∀ host port, parseNodeHostPort asciiLower (trim "TCP://Example.com".toList) =
          some (host, port) →
        parseNodeHostPort asciiLower "tcp://example.com:11010".toList =
          some (asciiLower host, port)) ↔
      Stable asciiLower "TCP://Example.com" :=
  normalized_stable_iff lowercases_asciiLower (by decide +kernel)

/-- An address of the greatest length that names no port, and its normalized text. -/
def longAddress : String := String.ofList ("tcp://".toList ++ List.replicate 122 'a')

def longKey : String :=
  String.ofList ("tcp://".toList ++ List.replicate 122 'a' ++ ":11010".toList)

/-- The port that is added to an address can make it too long. -/
theorem long_address_unstable : Lowercases asciiLower ∧
    normalizeCommunityNodeAddress asciiLower longAddress = .ok longKey ∧
    normalizeCommunityNodeAddress asciiLower longKey = .error "节点地址过长" :=
  ⟨lowercases_asciiLower, by decide +kernel, by decide +kernel⟩

example : normalizeCommunityNodeAddress asciiLower "tcp://[[a]:5" = .ok "tcp://[a:5" ∧
    parseNodeHostPort asciiLower "tcp://[a:5".toList = none := by decide +kernel

end

end MctierSignaling.CommunityNodes
