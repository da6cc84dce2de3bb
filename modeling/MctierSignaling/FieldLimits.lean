import MctierSignaling.Routing

/-!
# The limits on the texts of a frame

What a frame may carry to another client, stated apart from the checks of `protocol.rs`: every text
of its JSON value, at any depth, is named by the key it stands under (`Json.texts`), and every key
has a limit (`fieldLimit`). A message that passes `validate_message_shape` and is for other members
is within these limits (`forwarded_bounded`), except for the name in an offer, which the server
replaces (`offer_bounded`), and the stamp of its sender keeps it so (`Frame.bounded`).
-/

namespace MctierSignaling

/-- What a text may be: how many bytes it may have, whether it may be blank, and whether it may
consist of lines. -/
structure TextLimit where
  maxLen : Nat
  blank : Bool
  lines : Bool

/-- The text is within its size, and has no control character, except for the line breaks of a text
that may consist of lines. -/
structure TextLimit.Allows (limit : TextLimit) (text : String) : Prop where
  size : text.utf8ByteSize ≤ limit.maxLen
  visible : limit.blank = false → trim text.toList ≠ []
  plain : ∀ c ∈ text.toList, isControl c = true → limit.lines = true ∧ (c = '\r' ∨ c = '\n')

/-- One limit is stricter than another one. -/
instance : LE TextLimit where
  le limit limit' := limit.maxLen ≤ limit'.maxLen ∧ (limit'.blank = false → limit.blank = false) ∧
    (limit.lines = true → limit'.lines = true)

theorem TextLimit.Allows.mono {limit limit' : TextLimit} {text : String} (h : limit.Allows text)
    (hle : limit ≤ limit') : limit'.Allows text where
  size := Nat.le_trans h.size hle.1
  visible hblank := h.visible (hle.2.1 hblank)
  plain c hc hcontrol := (h.plain c hc hcontrol).imp_left hle.2.2

/-- An ASCII text has one byte for each character. -/
theorem utf8ByteSize_ascii {chars : List Char} (h : ∀ c ∈ chars, c.toNat < 128) :
    (String.ofList chars).utf8ByteSize = chars.length := by
  induction chars with
  | nil => rfl
  | cons c chars ih =>
    have hone : (String.ofList [c]).utf8ByteSize = 1 := by
      have hc : c.utf8Size = 1 := Char.utf8Size_eq_one_iff.mpr
        (UInt32.le_iff_toNat_le.mpr (Nat.le_of_lt_succ (h c List.mem_cons_self)))
      simpa using hc
    rw [← List.singleton_append, String.ofList_append, String.utf8ByteSize_append, hone,
      ih fun c hc => h c (List.mem_cons_of_mem _ hc), List.length_append]
    rfl

/-- A short printable text is allowed. -/
theorem TextLimit.Allows.of_printable {chars : List Char} {maxLen : Nat} {lines : Bool}
    (hlen : chars.length ≤ maxLen) (h : ∀ c ∈ chars, 32 ≤ c.toNat ∧ c.toNat < 127) :
    TextLimit.Allows ⟨maxLen, true, lines⟩ (String.ofList chars) where
  size := by
    rw [utf8ByteSize_ascii fun c hc => Nat.lt_succ_of_lt (h c hc).2]
    exact hlen
  visible := nofun
  plain c hc hcontrol := by
    rw [String.toList_ofList] at hc
    obtain ⟨hlow, hhigh⟩ := h c hc
    simp only [isControl, Bool.or_eq_true, Bool.and_eq_true, decide_eq_true_eq] at hcontrol
    omega

/-- The limit on the texts under a key. -/
def fieldLimit (key : String) : TextLimit :=
  match key with
  | "from" | "to" | "clientId" | "shareId" | "sessionId" => ⟨128, false, false⟩
  | "playerId" | "hostId" | "lobbyId" | "viewerId" | "upstreamId" | "downstreamId" | "sdpMid" =>
    ⟨128, true, false⟩
  | "playerName" | "viewerName" | "fromName" => ⟨128, true, false⟩
  | "shareName" => ⟨256, true, false⟩
  | "error" | "reason" => ⟨512, true, false⟩
  | "candidate" => ⟨16384, true, false⟩
  | "sdp" => ⟨131072, true, true⟩
  | _ => ⟨8192, true, false⟩

mutual

/-- The texts of a value, each with the key it stands under. -/
def Json.texts (key : String) : Json → List (String × String)
  | .str s => [(key, s)]
  | .arr vs => Json.itemTexts key vs
  | .obj fields => Json.fieldTexts fields
  | .null | .bool _ | .num _ => []

/-- The texts of the items of an array. -/
def Json.itemTexts (key : String) : List Json → List (String × String)
  | [] => []
  | v :: vs => v.texts key ++ Json.itemTexts key vs

/-- The texts of the members of an object. -/
def Json.fieldTexts : List (String × Json) → List (String × String)
  | [] => []
  | (key, v) :: fields => v.texts key ++ Json.fieldTexts fields

end

/-- Every text is within the limit of its key. -/
def Within (texts : List (String × String)) : Prop :=
  ∀ key text, (key, text) ∈ texts → (fieldLimit key).Allows text

section
variable {key text : String} {texts texts' : List (String × String)}

@[simp] theorem within_nil : Within [] := by
  intro key text h
  cases h

@[simp] theorem within_cons :
    Within ((key, text) :: texts) ↔ (fieldLimit key).Allows text ∧ Within texts := by
  simp only [Within, List.mem_cons, Prod.mk.injEq]
  constructor
  · intro h
    exact ⟨h _ _ (.inl ⟨rfl, rfl⟩), fun key text hmem => h key text (.inr hmem)⟩
  · rintro ⟨htext, hrest⟩ key' text' (⟨rfl, rfl⟩ | hmem)
    · exact htext
    · exact hrest _ _ hmem

@[simp] theorem within_append : Within (texts ++ texts') ↔ Within texts ∧ Within texts' := by
  simp only [Within, List.mem_append]
  constructor
  · intro h
    exact ⟨fun _ _ hmem => h _ _ (.inl hmem), fun _ _ hmem => h _ _ (.inr hmem)⟩
  · rintro ⟨h, h'⟩ key text (hmem | hmem)
    · exact h _ _ hmem
    · exact h' _ _ hmem

end

/-! ## The texts of a message -/

section
variable {key : String} {fields fields' : List (String × Json)}

@[simp] theorem fieldTexts_append :
    Json.fieldTexts (fields ++ fields') = Json.fieldTexts fields ++ Json.fieldTexts fields' := by
  induction fields with
  | nil => rfl
  | cons field fields ih =>
    obtain ⟨key, v⟩ := field
    simp only [List.cons_append, Json.fieldTexts, ih, List.append_assoc]

/-- An optional text is within its limit if there is none, or the one that there is. -/
@[simp] theorem within_optField {v : Option String} :
    Within (Json.fieldTexts (optField key .str v)) ↔ ∀ text ∈ v, (fieldLimit key).Allows text := by
  cases v <;> simp [optField, Json.fieldTexts, Json.texts]

@[simp] theorem within_orNull {v : Option String} :
    Within ((orNull .str v).texts key) ↔ ∀ text ∈ v, (fieldLimit key).Allows text := by
  cases v <;> simp [orNull, Json.texts]

@[simp] theorem optField_nat_texts {v : Option Nat} :
    Json.fieldTexts (optField key .nat v) = [] := by
  cases v <;> rfl

@[simp] theorem optField_bool_texts {v : Option Bool} :
    Json.fieldTexts (optField key .bool v) = [] := by
  cases v <;> rfl

@[simp] theorem orNull_nat_texts {v : Option Nat} : (orNull .nat v).texts key = [] := by
  cases v <;> rfl

/-- The texts of a list of values are within their limits if those of every value are. -/
theorem within_items {vs : List Json} :
    Within (Json.itemTexts key vs) ↔ ∀ v ∈ vs, Within (v.texts key) := by
  induction vs with
  | nil => simp [Json.itemTexts]
  | cons v vs ih => simp [Json.itemTexts, ih]

end

/-! ## The checks -/

section
variable {value key expectedType : String} {maxLen : Nat} {allowEmpty : Bool}

/-- A valid text is an allowed one. -/
theorem validText_iff : validText value maxLen allowEmpty = true ↔
    TextLimit.Allows ⟨maxLen, allowEmpty, false⟩ value := by
  simp only [validText, Bool.and_eq_true, Bool.or_eq_true, decide_eq_true_eq, Bool.not_eq_true']
  constructor
  · rintro ⟨⟨hvisible, hsize⟩, hplain⟩
    refine ⟨hsize, fun hblank hnil => ?_, fun c hc hcontrol => ?_⟩
    · have hblank' : allowEmpty = false := hblank
      simp [hblank', hnil] at hvisible
    · exact absurd hcontrol (by simpa using List.any_eq_false.mp hplain c hc)
  · rintro ⟨hsize, hvisible, hplain⟩
    refine ⟨⟨?_, hsize⟩, List.any_eq_false.mpr fun c hc hcontrol => ?_⟩
    · cases allowEmpty with
      | true => exact .inl rfl
      | false => exact .inr (by simpa using hvisible rfl)
    · cases (hplain c hc hcontrol).1

/-- A text within stricter limits is allowed. -/
theorem TextLimit.Allows.of_valid {maxLen' : Nat} {allowEmpty' lines : Bool}
    (h : validText value maxLen allowEmpty = true)
    (hlen : maxLen ≤ maxLen') (hempty : allowEmpty = true → allowEmpty' = true) :
    TextLimit.Allows ⟨maxLen', allowEmpty', lines⟩ value := by
  refine (validText_iff.mp h).mono ⟨hlen, fun hblank => ?_, nofun⟩
  cases allowEmpty with
  | false => rfl
  | true => exact absurd (hempty rfl) (by simpa using hblank)

/-- An optional text that passes its check is allowed if there is one. -/
theorem TextLimit.Allows.of_optional {text : Option String} {maxLen' : Nat} {lines : Bool}
    (h : optionalControl text maxLen = true) (hlen : min maxLen MAX_CONTROL_TEXT_LEN ≤ maxLen') :
    ∀ value ∈ text, TextLimit.Allows ⟨maxLen', true, lines⟩ value := by
  intro value hvalue
  exact .of_valid ((Option.all_eq_true _ _).mp h value hvalue) hlen id

/-- A valid session description is within its limits under any key. -/
theorem validSessionDescription_within {data : SessionDescription}
    (h : validSessionDescription data expectedType = true)
    (ht : validText expectedType 8192 true = true) : Within (data.toJson.texts key) := by
  simp only [validSessionDescription, Bool.and_eq_true, beq_iff_eq, decide_eq_true_eq,
    Bool.not_eq_true'] at h
  obtain ⟨⟨⟨rfl, hsize⟩, -⟩, hplain⟩ := h
  have htype : (fieldLimit "type").Allows data.sdpType := validText_iff.mp ht
  have hsdp : (fieldLimit "sdp").Allows data.sdp := by
    refine ⟨hsize, nofun, fun c hc hcontrol => ⟨rfl, ?_⟩⟩
    have hbreak := List.any_eq_false.mp hplain c hc
    simp only [hcontrol, Bool.true_and, Bool.and_eq_true, bne_iff_ne, ne_eq] at hbreak
    tauto
  simp [SessionDescription.toJson, Json.texts, Json.fieldTexts, htype, hsdp]

theorem offer_within {data : SessionDescription}
    (h : validSessionDescription data "offer" = true) : Within (data.toJson.texts key) :=
  validSessionDescription_within h (by decide +kernel)

theorem answer_within {data : SessionDescription}
    (h : validSessionDescription data "answer" = true) : Within (data.toJson.texts key) :=
  validSessionDescription_within h (by decide +kernel)

/-- A valid candidate is within its limits under any key. -/
theorem validCandidateData_within {data : CandidateData} (h : validCandidateData data = true) :
    Within (data.toJson.texts key) := by
  simp only [validCandidateData, Bool.and_eq_true, decide_eq_true_eq, Bool.not_eq_true'] at h
  obtain ⟨⟨⟨⟨-, hsize⟩, hplain⟩, -⟩, hmid⟩ := h
  have hcandidate : (fieldLimit "candidate").Allows data.candidate := by
    refine ⟨hsize, nofun, fun c hc hcontrol => ?_⟩
    exact absurd hcontrol (by simpa using List.any_eq_false.mp hplain c hc)
  have hsdpMid : ∀ text ∈ data.sdpMid, (fieldLimit "sdpMid").Allows text := by
    intro text htext
    exact .of_valid ((Option.all_eq_true _ _).mp hmid text htext) le_rfl id
  simp only [CandidateData.toJson, Json.texts, Json.fieldTexts, within_append, within_cons,
    within_nil, within_orNull, orNull_nat_texts]
  exact ⟨⟨hcandidate, trivial⟩, trivial, hsdpMid, trivial⟩

/-- A valid list of shares is within its limits, whatever key it stands under. -/
theorem shares_within {shares : List FileShareInfo}
    (h : (shares.all fun share =>
      validShareId share.shareId && validControlText share.shareName MAX_SHARE_NAME_LEN false &&
        validControlText share.playerName MAX_PLAYER_NAME_LEN false) = true) :
    Within (Json.itemTexts key (shares.map FileShareInfo.toJson)) := by
  rw [within_items]
  intro v hv
  obtain ⟨share, hshare, rfl⟩ := List.mem_map.mp hv
  have hvalid := List.all_eq_true.mp h share hshare
  simp only [Bool.and_eq_true] at hvalid
  obtain ⟨⟨hid, hname⟩, hplayer⟩ := hvalid
  have hshareId : (fieldLimit "shareId").Allows share.shareId := validText_iff.mp hid
  have hshareName : (fieldLimit "shareName").Allows share.shareName := .of_valid hname le_rfl nofun
  have hplayerName : (fieldLimit "playerName").Allows share.playerName :=
    .of_valid hplayer le_rfl nofun
  simp [FileShareInfo.toJson, Json.texts, Json.fieldTexts, hshareId, hshareName, hplayerName]

end

/-! ## Forwarded messages -/

/-- The file shares a message lists. -/
def SignalingMessage.shares : SignalingMessage → List FileShareInfo
  | .fileShareListResponse _ _ shares => shares
  | _ => []

/-- Every text of the message is within its limit, and a list of shares has at most 256 items. -/
structure SignalingMessage.Bounded (message : SignalingMessage) : Prop where
  texts : Within (message.toJson.texts "")
  shares : message.shares.length ≤ 256

/-- A message is within its limits if the name of its type and its other fields are. -/
theorem SignalingMessage.Bounded.of_fields {message : SignalingMessage} {name : String}
    (htype : message.fields.head? = some ("type", .str name))
    (hname : validText name 8192 true = true)
    (hrest : Within (Json.fieldTexts message.fields.tail))
    (hshares : message.shares.length ≤ 256) : message.Bounded := by
  refine ⟨?_, hshares⟩
  have hallowed : (fieldLimit "type").Allows name := validText_iff.mp hname
  have hfields : message.fields = ("type", .str name) :: message.fields.tail :=
    List.eq_cons_of_mem_head? htype
  rw [SignalingMessage.toJson, Json.texts, hfields, Json.fieldTexts, Json.texts,
    List.singleton_append, within_cons]
  exact ⟨hallowed, hrest⟩

/-- **What is forwarded as it came.** A message that passes the check of its fields, and that is for
other members, is within its limits, unless it is an offer, whose name nobody checks. -/
theorem forwarded_bounded {message : SignalingMessage}
    (hshape : validateMessageShape message = true)
    (hasked : message.recipient.isSome = true ∨ message.isBroadcast = true)
    (hoffer : ∀ from_ to_ data name, message ≠ .offer from_ to_ data name) : message.Bounded := by
  cases message with
  | offer => exact absurd rfl (hoffer _ _ _ _)
  | fileShareListResponse from_ to_ shares =>
    simp only [validateMessageShape, validIds, validIdentifier, Bool.and_eq_true,
      decide_eq_true_eq] at hshape
    obtain ⟨⟨⟨hfrom, hto⟩, hlength⟩, hshares⟩ := hshape
    refine .of_fields rfl (by decide +kernel) ?_ hlength
    simp only [SignalingMessage.fields, List.tail_cons, Json.texts, Json.fieldTexts, within_cons,
      within_nil, within_append, and_true]
    exact ⟨.of_valid hfrom le_rfl id, .of_valid hto le_rfl id, shares_within hshares⟩
  | screenShareRelay from_ to_ shareId action =>
    simp only [validateMessageShape, validIds, validIdentifier, validShareId, validControlText,
      Bool.and_eq_true] at hshape
    obtain ⟨⟨⟨⟨⟨⟨⟨⟨⟨hfrom, hto⟩, hshareId⟩, haction⟩, hname⟩, hpassword⟩, hupstream⟩, hdownstream⟩,
      hreason⟩, -⟩ := hshape
    refine .of_fields rfl (by decide +kernel) ?_ (Nat.zero_le _)
    simp only [SignalingMessage.fields, List.nil_append, List.cons_append, List.tail_cons,
      Json.texts, Json.fieldTexts, fieldTexts_append, within_cons, within_nil, within_append,
      and_true, within_optField, optField_nat_texts, optField_bool_texts]
    exact ⟨.of_valid hfrom le_rfl id, .of_valid hto le_rfl id, .of_valid hshareId le_rfl id,
      .of_valid haction (by decide) nofun,
      ⟨⟨⟨.of_optional hname (by decide), .of_optional hpassword (by decide)⟩,
        .of_optional hupstream (by decide)⟩, .of_optional hdownstream (by decide)⟩,
      .of_optional hreason (by decide)⟩
  | voiceReconnect | answer | iceCandidate | statusUpdate | screenShareStart | screenShareStop
  | screenShareOffer | screenShareAnswer | screenShareIceCandidate
  | screenShareError | screenShareListRequest | screenShareListResponse | screenShareViewerLeft
  | screenShareUpdate | fileShareAdded | fileShareRemoved | fileShareListRequest | shareUpdated
  | remoteControlRequest | remoteControlAccept | remoteControlReject | remoteControlOffer
  | remoteControlAnswer | remoteControlIce | remoteControlStop =>
    refine .of_fields rfl (by decide +kernel) ?_ (Nat.zero_le _)
    simp only [validateMessageShape, validIds, validIdentifier, validSessionId, validShareId,
      validControlText, Bool.and_eq_true, MAX_CLIENT_ID_LEN, MAX_REMOTE_SESSION_ID_LEN,
      MAX_SHARE_ID_LEN, MAX_SHARE_NAME_LEN, MAX_PLAYER_NAME_LEN, MAX_ERROR_TEXT_LEN,
      MAX_CONTROL_TEXT_LEN] at hshape
    simp only [SignalingMessage.fields, List.nil_append, List.cons_append, List.tail_cons,
      Json.texts, Json.fieldTexts, fieldTexts_append, within_cons, within_nil, within_append,
      and_true, within_optField, optField_nat_texts, optField_bool_texts, fieldLimit]
    -- each field is paired with its check, whose limit is the one of the field or stricter
    grind [TextLimit.Allows.of_valid, TextLimit.Allows.of_optional, offer_within, answer_within,
      validCandidateData_within]
  | _ => exact hasked.elim nofun nofun

/-- An offer is within its limits with any allowed name in place of its own. -/
theorem offer_bounded {from_ to_ : String} {data : SessionDescription}
    {name playerName : Option String}
    (hshape : validateMessageShape (.offer from_ to_ data name) = true)
    (hname : ∀ text ∈ playerName, (fieldLimit "playerName").Allows text) :
    (SignalingMessage.offer from_ to_ data playerName).Bounded := by
  simp only [validateMessageShape, validIds, validIdentifier, Bool.and_eq_true] at hshape
  obtain ⟨⟨hfrom, hto⟩, hdata⟩ := hshape
  refine .of_fields rfl (by decide +kernel) ?_ (Nat.zero_le _)
  simp only [SignalingMessage.fields, List.cons_append, List.nil_append, List.tail_cons,
    Json.texts, Json.fieldTexts, within_cons, within_append, within_optField]
  exact ⟨.of_valid hfrom le_rfl id, .of_valid hto le_rfl id, offer_within hdata, hname⟩

/-! ## Frames -/

/-- The texts of a frame. -/
def Frame.texts (frame : Frame) : List (String × String) :=
  match frame.json with
  | some json => json.texts ""
  | none => []

/-- The file shares a frame lists. -/
def Frame.shares : Frame → List FileShareInfo
  | .text message _ => message.shares
  | .close => []

/-- Every text of the frame is within its limit, and a list of shares has at most 256 items. -/
structure Frame.Bounded (frame : Frame) : Prop where
  texts : Within frame.texts
  shares : frame.shares.length ≤ 256

section
variable {key id : String} {value : Json} {fields : List (String × Json)}
  {message : SignalingMessage} {stamp : Option (String × Nat)}

theorem mem_fieldTexts (h : (key, .str id) ∈ fields) : (key, id) ∈ Json.fieldTexts fields := by
  induction fields with
  | nil => cases h
  | cons field fields ih =>
    obtain ⟨key', v⟩ := field
    rw [Json.fieldTexts, List.mem_append]
    rcases List.mem_cons.mp h with heq | h
    · cases heq
      exact .inl (List.mem_singleton.mpr rfl)
    · exact .inr (ih h)

/-- A field that is within its limit keeps an object within its limits. -/
theorem within_insertField (h : Within (Json.fieldTexts fields))
    (hvalue : Within (value.texts key)) :
    Within (Json.fieldTexts (insertField key value fields)) := by
  induction fields with
  | nil => simpa [insertField, Json.fieldTexts] using hvalue
  | cons field fields ih =>
    obtain ⟨key', v⟩ := field
    rw [Json.fieldTexts, within_append] at h
    rw [insertField]
    split
    · next heq =>
      rw [Json.fieldTexts, within_append, heq]
      exact ⟨hvalue, h.2⟩
    · rw [Json.fieldTexts, within_append]
      exact ⟨h.1, ih h.2⟩

/-- So does a field that is replaced only if it is there. -/
theorem within_replaced {present : Bool} (h : Within (Json.fieldTexts fields))
    (hvalue : Within (value.texts key)) :
    Within (Json.fieldTexts (if present then insertField key value fields else fields)) := by
  split
  · exact within_insertField h hvalue
  · exact h

/-- The text that an object has under a key is within the limit of the key. -/
theorem within_get (h : Within (Json.fieldTexts fields))
    (hget : (Json.obj fields).get key = some (.str id)) : (fieldLimit key).Allows id := by
  simp only [Json.get, Option.map_eq_some_iff] at hget
  obtain ⟨⟨key', v⟩, hfind, rfl⟩ := hget
  obtain rfl : key' = key := by simpa using List.find?_some hfind
  exact h _ _ (mem_fieldTexts (List.mem_of_find?_eq_some hfind))

/-- The sender that a text names is a valid id. -/
theorem jsonSenderId_allows (h : Within (Json.fieldTexts fields))
    (hid : jsonSenderId (.obj fields) = some id) : (fieldLimit "from").Allows id := by
  obtain ⟨v, hv, hstr⟩ := Option.bind_eq_some_iff.mp hid
  have hv' : v = .str id := by
    cases v <;> cases hstr
    rfl
  subst hv'
  rcases Option.or_eq_some_iff.mp hv with hfrom | ⟨-, hclient⟩
  · exact within_get h hfrom
  · have hlimit : (fieldLimit "clientId").Allows id := within_get h hclient
    exact hlimit

/-- A message stays within its limits when it is stamped with the sender it names. -/
theorem Frame.bounded (h : message.Bounded)
    (hstamp : ∀ id generation, stamp = some (id, generation) →
      jsonSenderId message.toJson = some id) : (Frame.text message stamp).Bounded := by
  refine ⟨?_, h.shares⟩
  have hfields : Within (Json.fieldTexts message.fields) := h.texts
  cases stamp with
  | none => exact h.texts
  | some stamp =>
    obtain ⟨id, generation⟩ := stamp
    have hid : (fieldLimit "from").Allows id :=
      jsonSenderId_allows hfields (hstamp id generation rfl)
    have htext : Within (Json.texts "from" (.str id)) := by simpa [Json.texts] using hid
    have hclient : Within (Json.texts "clientId" (.str id)) := by
      simpa [Json.texts] using (show (fieldLimit "clientId").Allows id from hid)
    simp only [Frame.texts, Frame.json, injectSessionMetadata, SignalingMessage.toJson, Json.texts]
    exact within_insertField (within_replaced (within_replaced hfields htext) hclient) within_nil

end

end MctierSignaling
