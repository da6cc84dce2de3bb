import MctierSignaling.Text
import Mathlib.Data.List.Basic

/-!
# Identity proofs and password hashes

`security.rs`. The primitives of the crates it calls (base64, P-256 keys and signatures, SHA-256)
are the fields of `Crypto`, a parameter of the model; what the server does with them is here: the
canonical text a client signs, the checks around its verification, the identity and the domain
derived from the key, and the salted hash of a lobby password.
-/

namespace MctierSignaling

/-- The cryptographic primitives, of the crates `base64`, `p256` and `sha2`. -/
structure Crypto where
  Key : Type
  Sig : Type
  /-- `STANDARD.decode`. -/
  base64Decode : String → Option (List UInt8)
  /-- `VerifyingKey::from_public_key_der`. -/
  keyOfDer : List UInt8 → Option Key
  /-- `Signature::from_der`. -/
  sigOfDer : List UInt8 → Option Sig
  /-- `VerifyingKey::verify`. -/
  verify : Key → List UInt8 → Sig → Bool
  /-- `Sha256::digest`. -/
  sha256 : List UInt8 → Vector UInt8 32

/-- A lowercase hexadecimal digit. -/
def hexDigit (n : Nat) : Char := if n < 10 then Char.ofNat (48 + n) else Char.ofNat (87 + n)

/-- `format!("{byte:02x}")` of every byte. -/
def hexText (bytes : List UInt8) : List Char :=
  bytes.flatMap fun b => [hexDigit (b.toNat / 16), hexDigit (b.toNat % 16)]

/-- A lobby name identifies one room. Reference: `generate_lobby_id` (`registration.rs:70`). -/
def generateLobbyId (H : Crypto) (lobbyName : String) : String :=
  String.ofList (hexText (H.sha256 (utf8Bytes lobbyName)).toList)

/-- Reference: `hash_lobby_password` (`security.rs:23`). -/
def hashLobbyPassword (H : Crypto) (salt password : String) : String :=
  String.ofList (hexText (H.sha256 (utf8Bytes salt ++ utf8Bytes password)).toList)

/-- The accumulated difference of the loop of `ct_eq`. -/
def ctDiff : UInt8 → List UInt8 → List UInt8 → UInt8
  | diff, x :: xs, y :: ys => ctDiff (diff ||| (x ^^^ y)) xs ys
  | diff, _, _ => diff

/-- Reference: `ct_eq` (`security.rs:31`). -/
def ctEq (a b : List UInt8) : Bool := a.length == b.length && ctDiff 0 a b == 0

/-- The text a registration signs. Reference: `registration_canonical` (`security.rs:52`). -/
def registrationCanonical (challenge lobbyName virtualIp : String) : List UInt8 :=
  utf8Bytes ("MCTIER-SIGNALING-V3\n" ++ toString SIGNALING_PROTOCOL_VERSION ++ "\n" ++ challenge ++
    "\n" ++ lobbyName ++ "\n" ++ virtualIp)

/-- The client id of a public key: its fingerprint. -/
def clientIdOfKey (H : Crypto) (publicKeyDer : List UInt8) : String :=
  String.ofList (hexText (H.sha256 publicKeyDer).toList)

/-- Checks a registration proof and derives the client id, the key text and the domain. Reference:
`verify_registration_identity` (`security.rs:66`). -/
def verifyRegistrationIdentity (H : Crypto) (challenge lobbyName virtualIp identityPublicKey
    challengeSignature : String) : Option (String × String × String) :=
  let encoded := String.ofList (trim identityPublicKey.toList)
  if encoded.isEmpty ∨ encoded.utf8ByteSize > MAX_IDENTITY_PUBLIC_KEY_LEN then none else do
  let publicKeyDer ← H.base64Decode encoded
  if publicKeyDer.isEmpty ∨ publicKeyDer.length > 200 then none else do
  let verifyingKey ← H.keyOfDer publicKeyDer
  let encodedSignature := String.ofList (trim challengeSignature.toList)
  if encodedSignature.isEmpty ∨ encodedSignature.utf8ByteSize > MAX_IDENTITY_SIGNATURE_LEN then none
  else do
  let signatureDer ← H.base64Decode encodedSignature
  let signature ← H.sigOfDer signatureDer
  if H.verify verifyingKey (registrationCanonical challenge lobbyName virtualIp) signature then
    let clientId := clientIdOfKey H publicKeyDer
    let virtualDomain := String.ofList (clientId.toList.take 32) ++ ".mct.net"
    some (clientId, encoded, virtualDomain)
  else none

/-! ## What the checks establish -/

/-- The bytes of a text determine it. -/
theorem utf8Bytes_injective : Function.Injective utf8Bytes := by
  intro a b h
  have hdata : a.toByteArray.data = b.toByteArray.data := Array.toList_inj.1 h
  have : a.toByteArray = b.toByteArray := ByteArray.ext hdata
  exact String.toByteArray_inj.1 this

/-- The accumulated difference is zero exactly when it starts at zero and every pair of bytes
agrees. -/
theorem ctDiff_eq_zero {diff : UInt8} : ∀ {a b : List UInt8}, a.length = b.length →
    (ctDiff diff a b = 0 ↔ diff = 0 ∧ a = b)
  | [], [], _ => by simp [ctDiff]
  | x :: xs, y :: ys, hlen => by
    rw [ctDiff, ctDiff_eq_zero (Nat.succ.inj hlen), UInt8.or_eq_zero_iff, UInt8.xor_eq_zero_iff,
      List.cons.injEq, and_assoc]

/-- The constant-time comparison is equality. -/
theorem ctEq_iff {a b : List UInt8} : ctEq a b = true ↔ a = b := by
  simp only [ctEq, Bool.and_eq_true, beq_iff_eq]
  constructor
  · rintro ⟨hlen, h⟩
    exact ((ctDiff_eq_zero hlen).1 h).2
  · rintro rfl
    exact ⟨rfl, (ctDiff_eq_zero rfl).2 ⟨rfl, rfl⟩⟩

/-- A registration proof for a client id: the submitted texts encode a key and a signature, the
signature verifies under the key over the canonical text, and the id is the key's fingerprint. -/
def ProofVerified (H : Crypto) (challenge lobbyName virtualIp identityPublicKey
    challengeSignature clientId : String) : Prop :=
  ∃ der key sigDer sig,
    H.base64Decode (String.ofList (trim identityPublicKey.toList)) = some der ∧
    H.keyOfDer der = some key ∧
    H.base64Decode (String.ofList (trim challengeSignature.toList)) = some sigDer ∧
    H.sigOfDer sigDer = some sig ∧
    H.verify key (registrationCanonical challenge lobbyName virtualIp) sig = true ∧
    clientId = clientIdOfKey H der

/-- An accepted registration proof is one. Reference: `verify_registration_identity`
(`security.rs:66`). -/
theorem verifyRegistrationIdentity_verified {H : Crypto} {challenge lobbyName virtualIp
    identityPublicKey challengeSignature clientId encoded domain : String}
    (h : verifyRegistrationIdentity H challenge lobbyName virtualIp identityPublicKey
      challengeSignature = some (clientId, encoded, domain)) :
    ProofVerified H challenge lobbyName virtualIp identityPublicKey challengeSignature
      clientId := by
  unfold verifyRegistrationIdentity at h
  simp only [Option.bind_eq_bind] at h
  split at h
  · cases h
  obtain ⟨der, hder, h⟩ := Option.bind_eq_some_iff.1 h
  split at h
  · cases h
  obtain ⟨key, hkey, h⟩ := Option.bind_eq_some_iff.1 h
  split at h
  · cases h
  obtain ⟨sigDer, hsigDer, h⟩ := Option.bind_eq_some_iff.1 h
  obtain ⟨sig, hsig, h⟩ := Option.bind_eq_some_iff.1 h
  split at h
  · next hverify =>
    cases h
    exact ⟨der, key, sigDer, sig, hder, hkey, hsigDer, hsig, hverify, rfl⟩
  · cases h

/-! ## Recorded answers

`Crypto.recorded` answers as the crates do on the inputs of one recorded session, on which the
examples of the later modules run: base64 for every text, and the digests and the valid signatures
of a table. -/

/-- The value of a base64 digit. -/
def base64Digit (b : UInt8) : Option Nat :=
  let c := b.toNat
  if 65 ≤ c ∧ c ≤ 90 then some (c - 65)
  else if 97 ≤ c ∧ c ≤ 122 then some (c - 71)
  else if 48 ≤ c ∧ c ≤ 57 then some (c + 4)
  else if c = 43 then some 62
  else if c = 47 then some 63
  else none

/-- `STANDARD.decode`, on bytes: groups of four digits, the last one padded by `=` (61) with no
bits left over. -/
def decodeBase64 : List UInt8 → Option (List UInt8)
  | [] => some []
  | a :: b :: c :: d :: rest => do
    let x ← base64Digit a
    let y ← base64Digit b
    if c = 61 then
      if d = 61 ∧ rest = [] ∧ y % 16 = 0 then some [UInt8.ofNat (x * 4 + y / 16)] else none
    else do
      let z ← base64Digit c
      if d = 61 then
        if rest = [] ∧ z % 4 = 0 then
          some [UInt8.ofNat (x * 4 + y / 16), UInt8.ofNat (y % 16 * 16 + z / 4)]
        else none
      else do
        let w ← base64Digit d
        let tail ← decodeBase64 rest
        some (UInt8.ofNat (x * 4 + y / 16) :: UInt8.ofNat (y % 16 * 16 + z / 4) ::
          UInt8.ofNat (z % 4 * 64 + w) :: tail)
  | _ => none

/-- The bytes a base64 text encodes. -/
def ofBase64 (s : String) : List UInt8 := (decodeBase64 (utf8Bytes s)).getD []

/-- The digest a hexadecimal text writes. -/
def digestOfHex (s : String) : Vector UInt8 32 :=
  let value (i : Nat) : Nat :=
    let b := ((utf8Bytes s).getD i 48).toNat
    if b < 58 then b - 48 else b - 87
  Vector.ofFn fun i => UInt8.ofNat (value (2 * i.1) * 16 + value (2 * i.1 + 1))

/-- The primitives on recorded inputs: digests, and the valid signatures as triples of a key, a
message and a signature. -/
def Crypto.recorded (digests : List (List UInt8 × Vector UInt8 32))
    (signatures : List (List UInt8 × List UInt8 × List UInt8)) : Crypto where
  Key := List UInt8
  Sig := List UInt8
  base64Decode s := decodeBase64 (utf8Bytes s)
  keyOfDer der := if signatures.any (·.1 == der) then some der else none
  sigOfDer der := if signatures.any (·.2.2 == der) then some der else none
  verify key message sig := signatures.contains (key, message, sig)
  sha256 bytes := (digests.lookup bytes).getD (Vector.replicate 32 0)

def aliceKey : String :=
  "MFkwEwYHKoZIzj0CAQYIKoZIzj0DAQcDQgAE1jqoEsnOKLUyv1NuYojoVg3tgD5PZqn/0CcNopL1voNIbLaryKmXS/" ++
    "S1UQ8t3549AwYWXrD59OmRtg+mo+NNWw=="

def bobKey : String :=
  "MFkwEwYHKoZIzj0CAQYIKoZIzj0DAQcDQgAE1loG11LwHfRv818KpN2yVCnJCFe8WsaIZY9SJWe1sXt2sDdWN2Fwda9I" ++
    "bIxxb7bu+Zzd1mQIVHcllScuIeW8UQ=="

/-- A challenge of one repeated byte. -/
def repeatedByte (byte : String) (n : Nat) : String := String.join (List.replicate n byte)

def aliceProof : String :=
  "MEYCIQDpks+F+Lrw3rEip1GgckE672KmyjsykjWBOgvxWDk7iAIhAN/ipmpGh3hS6zgqST+hPQL7q1WSLl2oqqvvet7o" ++
    "l7Bb"

def bobProof : String :=
  "MEQCIAy/RnnRMz/NOsSqanqX2un/RXp2uf3dwR71wAEvMIVbAiBHd5p221yAE1LrsnVZtaLOEPt1Q1KKOCHygXOwUZSB" ++
    "oQ=="

def bobAgainProof : String :=
  "MEUCIQCKck6XOzNxAubNVw5hBJVlQ5dF4wkfLM0LjahzsrMzAQIgY4Mpz+su+xCqI8bC/qgjn3jSC2+oJ25PqoOgSF7m" ++
    "oTU="

/-- The recorded session: alice and bob sign registrations for the lobby `room`, bob on two
connections. -/
def recordedCrypto : Crypto :=
  .recorded
    [(utf8Bytes "room",
      digestOfHex "1f1c5b2fad778434024f1537986346927917f4755a6e7d3fd91f22653b7c3132"),
      (ofBase64 aliceKey,
        digestOfHex "d99b042ea66ca203b15bdce14bb1d7f921d876919a1cfa69bc5a82605b515f53"),
      (ofBase64 bobKey,
        digestOfHex "2246943603b617d81a6791d16a181485efbb948ae01e73f74e1c26dc5946e0db"),
      (utf8Bytes (repeatedByte "5a" 16),
        digestOfHex "8b4ed76aac5ba5c555bbf28f7295c6b858b1253250a31843b4a0809510e52446")]
    [(ofBase64 aliceKey, registrationCanonical (repeatedByte "a1" 32) "room" "10.126.126.1",
        ofBase64 aliceProof),
      (ofBase64 bobKey, registrationCanonical (repeatedByte "b2" 32) "room" "10.126.126.2",
        ofBase64 bobProof),
      (ofBase64 bobKey, registrationCanonical (repeatedByte "c3" 32) "room" "10.126.126.2",
        ofBase64 bobAgainProof)]

end MctierSignaling
