import MctierSignaling.AllOrNothing
import MctierSignaling.Lib.Delimited

/-!
# What a registration proof signs

A registration signs its challenge, the name of the lobby and its address, each on a line of one
text. The name is checked for line breaks only after the signature, but the text is unambiguous for
every name: the challenge has a fixed length, and the address is what follows the last line break
(`registrationCanonical_inj`). So a signature is bound to what it was made for, and the address that
a member is recorded with, which is parsed a second time, is the one that was signed
(`registration_bound`).
-/

namespace MctierSignaling

open Delimited

/-! ## Challenges and addresses -/

/-- A text that `random_hex` draws as a challenge. Reference: `random_hex` (`security.rs:12`). -/
def challengeText (bytes : Vector UInt8 CHALLENGE_BYTES) : String :=
  String.ofList (hexText bytes.toList)

/-- Lowercase hexadecimal of the length of a challenge. -/
structure IsChallenge (s : String) : Prop where
  length : s.toList.length = CHALLENGE_BYTES * 2
  hex : ∀ c ∈ s.toList, c ∈ "0123456789abcdef".toList

theorem hexDigit_mem {n : Nat} (h : n < 16) : hexDigit n ∈ "0123456789abcdef".toList := by
  have hall : ∀ n : Fin 16, hexDigit n.1 ∈ "0123456789abcdef".toList := by decide
  exact hall ⟨n, h⟩

theorem length_hexText (bytes : List UInt8) : (hexText bytes).length = bytes.length * 2 := by
  induction bytes with
  | nil => rfl
  | cons b bytes ih =>
    rw [hexText, List.flatMap_cons, List.length_append, ← hexText, ih]
    simp
    omega

theorem isChallenge_challengeText (bytes : Vector UInt8 CHALLENGE_BYTES) :
    IsChallenge (challengeText bytes) where
  length := by
    rw [challengeText, String.toList_ofList, length_hexText, Vector.length_toList]
  hex := by
    intro c hc
    rw [challengeText, String.toList_ofList, hexText, List.mem_flatMap] at hc
    obtain ⟨b, -, hc⟩ := hc
    have hb := b.toNat_lt
    simp only [List.mem_cons, List.not_mem_nil, or_false] at hc
    obtain rfl | rfl := hc
    · exact hexDigit_mem (by omega)
    · exact hexDigit_mem (by omega)

/-- The text of an address is one line. -/
theorem Ipv4Addr.not_mem_text (ip : Ipv4Addr) : '\n' ∉ ip.text := by
  have hoctet : ∀ o : UInt8, '\n' ∉ octetText o := by
    intro o
    have h : ∀ n : Fin 256, '\n' ∉ octetText (UInt8.ofNat n.1) := by decide +kernel
    have ho := h ⟨o.toNat, o.toNat_lt⟩
    rwa [UInt8.ofNat_toNat] at ho
  simp [Ipv4Addr.text, hoctet]

/-! ## The canonical text -/

section
variable {challenge challenge' lobbyName lobbyName' : String} {ip ip' : Ipv4Addr}

/-- **The text that is signed is unambiguous.** -/
theorem registrationCanonical_inj (hc : IsChallenge challenge) (hc' : IsChallenge challenge')
    (h : registrationCanonical challenge lobbyName ip.toString =
      registrationCanonical challenge' lobbyName' ip'.toString) :
    challenge = challenge' ∧ lobbyName = lobbyName' ∧ ip = ip' := by
  have htext := congrArg String.toList (utf8Bytes_injective h)
  simp only [String.toList_append, List.append_assoc, Ipv4Addr.toString,
    String.toList_ofList] at htext
  have hline : "\n".toList = ['\n'] := rfl
  rw [hline] at htext
  have hfields := List.append_cancel_left (List.append_cancel_left
    (List.append_cancel_left htext))
  obtain ⟨hchallenge, hrest⟩ := List.append_inj hfields (hc.length.trans hc'.length.symm)
  have hrest' := List.append_cancel_left hrest
  obtain ⟨hname, hip⟩ := (last_inj (d := '\n') ip.not_mem_text ip'.not_mem_text).mp hrest'
  exact ⟨String.toList_inj.mp hchallenge, String.toList_inj.mp hname,
    Ipv4Addr.text_injective hip⟩

end

/-! ## Signatures -/

/-- The key that a submitted text encodes. -/
def Crypto.publicKey (H : Crypto) (text : String) : Option H.Key :=
  (H.base64Decode (String.ofList (trim text.toList))).bind H.keyOfDer

/-- The signature that a submitted text encodes. -/
def Crypto.signature (H : Crypto) (text : String) : Option H.Sig :=
  (H.base64Decode (String.ofList (trim text.toList))).bind H.sigOfDer

section
variable {H : Crypto} {cfg : ServerConfig} {challenge challenge' lobbyName lobbyName' key key'
  proof cid : String} {ip ip' : Ipv4Addr} {ctx : RegistrationContext} {req : RegistrationRequest}
  {a : Admission H cfg}

theorem ProofVerified.verify (h : ProofVerified H challenge lobbyName ip.toString key proof cid) :
    ∃ k sig, H.publicKey key = some k ∧ H.signature proof = some sig ∧
      H.verify k (registrationCanonical challenge lobbyName ip.toString) sig = true := by
  obtain ⟨der, k, sigDer, sig, hder, hkey, hsigDer, hsig, hverify, -⟩ := h
  refine ⟨k, sig, ?_, ?_, hverify⟩
  · rw [Crypto.publicKey, hder, Option.bind_some, hkey]
  · rw [Crypto.signature, hsigDer, Option.bind_some, hsig]

/-- The signature scheme accepts a signature for two different messages. -/
def Crypto.Ambiguous (H : Crypto) (key key' proof : String) : Prop :=
  ∃ k k' sig m m', H.publicKey key = some k ∧ H.publicKey key' = some k' ∧
    H.signature proof = some sig ∧ m ≠ m' ∧ H.verify k m sig = true ∧ H.verify k' m' sig = true

/-- A signature that is accepted for two registrations is for one, or the scheme is ambiguous. -/
theorem ProofVerified.bound {cid' : String} (hc : IsChallenge challenge)
    (hc' : IsChallenge challenge')
    (h : ProofVerified H challenge lobbyName ip.toString key proof cid)
    (h' : ProofVerified H challenge' lobbyName' ip'.toString key' proof cid') :
    (challenge = challenge' ∧ lobbyName = lobbyName' ∧ ip = ip') ∨ H.Ambiguous key key' proof := by
  obtain ⟨k, sig, hkey, hsig, hverify⟩ := h.verify
  obtain ⟨k', sig', hkey', hsig', hverify'⟩ := h'.verify
  obtain rfl := Option.some.inj (hsig.symm.trans hsig')
  by_cases hmessage : registrationCanonical challenge lobbyName ip.toString =
      registrationCanonical challenge' lobbyName' ip'.toString
  · exact .inl (registrationCanonical_inj hc hc' hmessage)
  · exact .inr ⟨k, k', sig, _, _, hkey, hkey', hsig, hmessage, hverify, hverify'⟩

/-! ## Admissions -/

/-- The address that a member is recorded with is the one that was signed. -/
theorem handleV3_address {sh sh' : Shared} {now : Nat} {d : Draws} {commit : Commit H cfg}
    (h : handleV3 H cfg sh ctx req now d = (sh', .ok commit)) :
    ∃ ip key domain info, parseVirtualIpv4 req.virtualIp = some ip ∧
      verifyRegistrationIdentity H ctx.challenge req.lobbyName ip.toString req.identityPublicKey
        req.challengeSignature = some (commit.session.clientId, key, domain) ∧
      sh'.member commit.session.lobbyId commit.session.clientId = some info ∧
      info.virtualIp = some ip.toString := by
  unfold handleV3 at h
  split at h
  · cases h
  next a ha =>
  split at h
  · cases h
  next hlocked =>
  cases h
  obtain ⟨-, hrequest⟩ := handleV3Checks_ok ha
  obtain ⟨key, domain, hid, -⟩ := handleV3Checks_spec ha
  obtain ⟨_, _, _, heq, -⟩ | ⟨_, heq, hreg⟩ := handleV3Locked_cases hlocked
  · cases heq
  cases heq
  obtain rfl := hreg.commit_eq
  refine ⟨a.virtualIp, key, domain, a.clientInfo d.generation, ?_, hid, ?_, rfl⟩
  · rw [← hrequest]
    exact a.parsed
  · exact hreg.member.trans (if_pos ⟨rfl, rfl⟩)

end

/-- **A registration proof binds its challenge, its lobby and its address.** The text that is signed
is injective; a signature that is accepted for one registration is accepted for another one only if
the signature scheme accepts it for two different messages; and the address of the entry that a
registration commits is the one that was signed. -/
theorem registration_bound (H : Crypto) (cfg : ServerConfig) :
    (∀ challenge challenge' lobbyName lobbyName' (ip ip' : Ipv4Addr),
      IsChallenge challenge → IsChallenge challenge' →
      registrationCanonical challenge lobbyName ip.toString =
        registrationCanonical challenge' lobbyName' ip'.toString →
      challenge = challenge' ∧ lobbyName = lobbyName' ∧ ip.toString = ip'.toString) ∧
    (∀ challenge challenge' lobbyName lobbyName' (ip ip' : Ipv4Addr) key key' proof,
      IsChallenge challenge → IsChallenge challenge' →
      (verifyRegistrationIdentity H challenge lobbyName ip.toString key proof).isSome = true →
      (verifyRegistrationIdentity H challenge' lobbyName' ip'.toString key' proof).isSome = true →
      (challenge = challenge' ∧ lobbyName = lobbyName' ∧ ip.toString = ip'.toString) ∨
        H.Ambiguous key key' proof) ∧
    ∀ sh ctx req now d sh' commit, handleV3 H cfg sh ctx req now d = (sh', .ok commit) →
      ∃ ip key domain info, parseVirtualIpv4 req.virtualIp = some ip ∧
        verifyRegistrationIdentity H ctx.challenge req.lobbyName ip.toString
          req.identityPublicKey req.challengeSignature =
            some (commit.session.clientId, key, domain) ∧
        sh'.member commit.session.lobbyId commit.session.clientId = some info ∧
        info.virtualIp = some ip.toString := by
  refine ⟨?_, ?_, fun _ _ _ _ _ _ _ => handleV3_address⟩
  · intro challenge challenge' lobbyName lobbyName' ip ip' hc hc' h
    obtain ⟨hchallenge, hname, rfl⟩ := registrationCanonical_inj hc hc' h
    exact ⟨hchallenge, hname, rfl⟩
  · intro challenge challenge' lobbyName lobbyName' ip ip' key key' proof hc hc' h h'
    obtain ⟨⟨cid, encoded, domain⟩, hid⟩ := Option.isSome_iff_exists.mp h
    obtain ⟨⟨cid', encoded', domain'⟩, hid'⟩ := Option.isSome_iff_exists.mp h'
    have hunique := (verifyRegistrationIdentity_verified hid).bound hc hc'
      (verifyRegistrationIdentity_verified hid')
    exact hunique.imp_left fun ⟨hchallenge, hname, hip⟩ => ⟨hchallenge, hname, hip ▸ rfl⟩

/-- Bob's second registration, from its third connection, for the room. -/
theorem registration_bound_room :
    (repeatedByte "c3" 32 = repeatedByte "c3" 32 ∧ "room\n10.126.126.2" = "room\n10.126.126.2" ∧
      (⟨10, 126, 126, 2⟩ : Ipv4Addr).toString = (⟨10, 126, 126, 2⟩ : Ipv4Addr).toString) ∧
    ((repeatedByte "c3" 32 = repeatedByte "c3" 32 ∧ "room" = "room" ∧
      (⟨10, 126, 126, 2⟩ : Ipv4Addr).toString = (⟨10, 126, 126, 2⟩ : Ipv4Addr).toString) ∨
      recordedCrypto.Ambiguous bobKey bobKey bobAgainProof) ∧
    ∃ sh' commit info, handleV3 recordedCrypto .default roomShared bobAgain.context
        bobAgain.request 0 (recordedDraws "d3" 3) = (sh', .ok commit) ∧
      sh'.member commit.session.lobbyId commit.session.clientId = some info ∧
      info.virtualIp = some "10.126.126.2" := by
  have hhex : (repeatedByte "c3" 32).toList.all ("0123456789abcdef".toList.contains ·) = true := by
    decide +kernel
  have hc : IsChallenge (repeatedByte "c3" 32) :=
    ⟨by decide +kernel, fun c hc => List.contains_iff_mem.mp (List.all_eq_true.mp hhex c hc)⟩
  have hid : (verifyRegistrationIdentity recordedCrypto (repeatedByte "c3" 32) "room"
      (Ipv4Addr.toString ⟨10, 126, 126, 2⟩) bobKey bobAgainProof).isSome = true := by
    rw [bobAgain_identity]
    rfl
  obtain ⟨sh', commit, hrun⟩ := bobAgain_commits
  obtain ⟨hinj, hunique, haddress⟩ := registration_bound recordedCrypto .default
  refine ⟨hinj _ _ _ _ _ _ hc hc rfl, hunique _ _ _ _ _ _ _ _ _ hc hc hid hid, ?_⟩
  obtain ⟨ip, -, -, info, hip, -, hmember, hrecorded⟩ := haddress _ _ _ _ _ _ _ hrun
  have hparse : parseVirtualIpv4 bobAgain.request.virtualIp = some ⟨10, 126, 126, 2⟩ := by
    decide +kernel
  obtain rfl := Option.some.inj (hparse.symm.trans hip)
  have htext : Ipv4Addr.toString ⟨10, 126, 126, 2⟩ = "10.126.126.2" := by decide +kernel
  exact ⟨sh', commit, info, hrun, hmember, hrecorded.trans (congrArg some htext)⟩

end MctierSignaling
