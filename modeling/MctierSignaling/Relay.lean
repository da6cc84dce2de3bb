import MctierSignaling.Attribution
import MctierSignaling.Routing
import MctierSignaling.Decode

/-!
# What the recipient of a forwarded message reads

A forwarded message goes through the handler as a value and is written again, and its stamp goes
through another JSON value, whose members are sorted (`Json.sorted`). Neither changes what is read:
the order of the members does not matter (`decode_sorted`), and the stamp replaces the sender by
itself and adds a member that the message does not have (`decode_stamped`). In every run, so, the
recipient of a stamped frame reads a message that the forwarding connection received before, in
which at most the name in an offer was replaced (`forwarded_frames_read`).
-/

namespace MctierSignaling

open Record

/-! ## The order of the members -/

/-- Puts a member in its place. -/
def insertAt (key : String) (value : Json) : List (String × Json) → List (String × Json)
  | [] => [(key, value)]
  | (k, v) :: rest =>
    if key < k then (key, value) :: (k, v) :: rest else (k, v) :: insertAt key value rest

mutual

/-- A value as `serde_json::Value` keeps it: the members of an object sorted by their names, of a
name that is given twice the last one. -/
def Json.sorted : Json → Json
  | .arr vs => .arr (Json.sortedItems vs)
  | .obj fields => .obj (Json.sortedFields fields)
  | v => v

def Json.sortedItems : List Json → List Json
  | [] => []
  | v :: vs => v.sorted :: Json.sortedItems vs

def Json.sortedFields : List (String × Json) → List (String × Json)
  | [] => []
  | (k, v) :: rest =>
    let rest := Json.sortedFields rest
    if rest.any (·.1 == k) then rest else insertAt k v.sorted rest

end

section
variable {α β : Type} {name k : String} {v : Json} {fields : List (String × Json)}

theorem any_iff_values : fields.any (·.1 == name) = true ↔ values name fields ≠ [] := by
  simp [values]

theorem values_insertAt (h : values k fields = []) :
    values name (insertAt k v fields) = if k = name then [v] else values name fields := by
  induction fields with
  | nil => simp [insertAt]
  | cons e rest ih =>
    obtain ⟨k', v'⟩ := e
    rw [values_cons] at h
    split at h
    · cases h
    · next hne =>
      have hname : k = name → k' ≠ name := fun heq => heq ▸ hne
      rw [insertAt]
      split
      · rw [values_cons]
        split
        · next heq => rw [values_cons, if_neg (hname heq), ← heq, h]
        · rfl
      · rw [values_cons, values_cons, ih h]
        by_cases heq : k = name
        · rw [if_pos heq, if_pos heq, if_neg (hname heq)]
        · rw [if_neg heq, if_neg heq]

/-- The sorted members have the last value of each name. -/
theorem values_sortedFields : values name (Json.sortedFields fields) =
    ((values name fields).getLast?.map Json.sorted).toList := by
  induction fields generalizing name with
  | nil => rfl
  | cons e rest ih =>
    obtain ⟨k, v⟩ := e
    have hrest : values k (Json.sortedFields rest) = [] ↔ values k rest = [] := by
      rw [ih]
      simp
    rw [Json.sortedFields, values_cons]
    split
    · next hany =>
      rw [any_iff_values, ne_eq, hrest] at hany
      rw [ih]
      split
      · next heq =>
        subst heq
        rw [List.getLast?_cons_of_ne_nil hany]
      · rfl
    · next hany =>
      rw [any_iff_values, not_not, hrest] at hany
      rw [values_insertAt (hrest.2 hany), ih]
      split
      · next heq =>
        subst heq
        rw [hany]
        rfl
      · rfl

/-- A value and its sorted form. -/
def Json.SortsTo (v w : Json) : Prop := w = v.sorted

theorem content_sorted {c : Content Json} (h : v.content = some c) :
    ∃ c', v.sorted.content = some c' ∧ c.Same Json.SortsTo c' := by
  cases v with
  | arr vs =>
    cases h
    refine ⟨_, by rw [Json.sorted]; rfl, .seq ?_⟩
    induction vs with
    | nil => exact .nil
    | cons v vs ih => exact .cons rfl ih
  | obj fields =>
    cases h
    refine ⟨_, by rw [Json.sorted]; rfl, .map fun name => ?_⟩
    rw [values_sortedFields]
    exact ⟨fun hnil => by rw [hnil]; rfl, fun v hv => ⟨v.sorted, by rw [hv]; rfl, rfl⟩⟩
  | _ => cases h

/-! ## Reading sorted values -/

/-- What is read from a value is read from its sorted form. -/
def ReadsSorted (read : Json → Option α) : Prop := ∀ v a, read v = some a → read v.sorted = some a

variable {read : Json → Option α} {r : Reader Json α}

@[simp] theorem sorted_null : Json.null.sorted = .null := by simp [Json.sorted]

@[simp] theorem sorted_bool {b : Bool} : (Json.bool b).sorted = .bool b := by simp [Json.sorted]

@[simp] theorem sorted_num {n : Int} : (Json.num n).sorted = .num n := by simp [Json.sorted]

@[simp] theorem sorted_str {s : String} : (Json.str s).sorted = .str s := by simp [Json.sorted]

theorem ReadsSorted.asStr : ReadsSorted Json.asStr := by
  intro v a h
  cases v with
  | str => rwa [sorted_str]
  | _ => cases h

theorem ReadsSorted.asBool : ReadsSorted Json.asBool := by
  intro v a h
  cases v with
  | bool => rwa [sorted_bool]
  | _ => cases h

theorem ReadsSorted.asUnsigned {max : Nat} : ReadsSorted (Json.asUnsigned max) := by
  intro v a h
  cases v with
  | num => rwa [sorted_num]
  | _ => cases h

theorem ReadsSorted.asI64 : ReadsSorted Json.asI64 := by
  intro v a h
  cases v with
  | num => rwa [sorted_num]
  | _ => cases h

theorem ReadsSorted.asOption (h : ReadsSorted read) : ReadsSorted (Json.asOption read) := by
  intro v o ho
  cases v with
  | null => rwa [sorted_null]
  | bool | num | str =>
    obtain ⟨a, ha, rfl⟩ := Option.map_eq_some_iff.1 ho
    have hread := h _ a ha
    simp only [sorted_bool, sorted_num, sorted_str] at hread ⊢
    exact Option.map_eq_some_iff.2 ⟨a, hread, rfl⟩
  | arr | obj =>
    obtain ⟨a, ha, rfl⟩ := Option.map_eq_some_iff.1 ho
    have hread := h _ a ha
    rw [Json.sorted] at hread ⊢
    exact Option.map_eq_some_iff.2 ⟨a, hread, rfl⟩

theorem ReadsSorted.asList (h : ReadsSorted read) : ReadsSorted (Json.asList read) := by
  intro v xs hxs
  cases v with
  | arr vs =>
    rw [Json.sorted]
    unfold Json.asList at hxs ⊢
    dsimp only at hxs ⊢
    induction vs generalizing xs with
    | nil => exact hxs
    | cons v vs ih =>
      rw [List.mapM_cons] at hxs
      obtain ⟨a, ha, hxs⟩ := Option.bind_eq_some_iff.1 hxs
      obtain ⟨as, has, hxs⟩ := Option.bind_eq_some_iff.1 hxs
      rw [Json.sortedItems, List.mapM_cons, h v a ha, ih as has]
      exact hxs
  | _ => cases hxs

theorem ReadsSorted.asRecord (h : Respects Json.SortsTo r) : ReadsSorted (Json.asRecord r) := by
  intro v a ha
  obtain ⟨c, hc, ha⟩ := Option.bind_eq_some_iff.1 ha
  obtain ⟨c', hc', hsame⟩ := content_sorted hc
  exact Option.bind_eq_some_iff.2 ⟨c', hc', h.all hsame ha⟩

theorem ReadsSorted.asVariant : ReadsSorted Json.asVariant := by
  intro v name h
  unfold Json.asVariant at h
  split at h
  all_goals cases h
  all_goals simp [Json.sorted, Json.sortedFields, insertAt, Json.asVariant]

theorem ReadsSorted.entryMode : ReadsSorted LobbyEntryMode.decode := by
  intro v mode h
  unfold LobbyEntryMode.decode at h ⊢
  cases hv : v.asVariant with
  | none => rw [hv] at h; cases h
  | some name =>
    rw [ReadsSorted.asVariant v name hv, ← hv]
    exact h

/-! ## Reading records in any order -/

theorem ReadsSorted.respects (h : ReadsSorted read) {missing absent : Option α} :
    Respects Json.SortsTo (field name missing absent read) :=
  .field fun v _ a hsame ha => hsame ▸ h v a ha

end

theorem FileShareInfo.reader_respects : Respects Json.SortsTo FileShareInfo.reader := by
  unfold reader
  iterate 3 refine .bind ReadsSorted.asStr.respects fun _ => ?_
  exact .bind ReadsSorted.asBool.respects fun _ => .pure

theorem PublicLobbyInfo.reader_respects : Respects Json.SortsTo PublicLobbyInfo.reader := by
  unfold reader
  refine .bind ReadsSorted.asStr.respects fun _ => .bind ReadsSorted.asUnsigned.respects fun _ => ?_
  refine .bind ReadsSorted.asUnsigned.asOption.respects fun _ => ?_
  iterate 3 refine .bind ReadsSorted.asStr.respects fun _ => ?_
  exact .pure

theorem CommunityNodeInfo.reader_respects : Respects Json.SortsTo CommunityNodeInfo.reader := by
  unfold reader
  iterate 2 refine .bind ReadsSorted.asStr.respects fun _ => ?_
  refine .bind ReadsSorted.asStr.asOption.respects fun _ => ?_
  iterate 2 refine .bind ReadsSorted.asUnsigned.respects fun _ => ?_
  refine .bind ReadsSorted.asBool.respects fun _ => ?_
  exact .bind ReadsSorted.asUnsigned.asOption.respects fun _ => .pure

theorem PlayerInfo.reader_respects : Respects Json.SortsTo PlayerInfo.reader := by
  unfold reader
  iterate 2 refine .bind ReadsSorted.asStr.respects fun _ => ?_
  iterate 2 refine .bind ReadsSorted.asStr.asOption.respects fun _ => ?_
  refine .bind ReadsSorted.asBool.asOption.respects fun _ => ?_
  refine .bind ReadsSorted.asStr.asOption.respects fun _ => ?_
  exact .bind ReadsSorted.asUnsigned.respects fun _ => .pure

theorem SessionDescription.reader_respects : Respects Json.SortsTo SessionDescription.reader := by
  unfold reader
  exact .bind ReadsSorted.asStr.respects fun _ => .bind ReadsSorted.asStr.respects fun _ => .pure

theorem CandidateData.reader_respects : Respects Json.SortsTo CandidateData.reader := by
  unfold reader
  refine .bind ReadsSorted.asStr.respects fun _ => ?_
  refine .bind ReadsSorted.asUnsigned.asOption.respects fun _ => ?_
  exact .bind ReadsSorted.asStr.asOption.respects fun _ => .pure

theorem Variant.reader_respects (v : Variant) : Respects Json.SortsTo v.reader := by
  cases v <;> unfold Variant.reader
  all_goals
    repeat' first
      | exact .pure
      | exact ReadsSorted.asStr.respects
      | exact ReadsSorted.asStr.asOption.respects
      | exact ReadsSorted.asBool.respects
      | exact ReadsSorted.asBool.asOption.respects
      | exact ReadsSorted.asUnsigned.respects
      | exact ReadsSorted.asUnsigned.asOption.respects
      | exact ReadsSorted.asI64.respects
      | exact ReadsSorted.entryMode.asOption.respects
      | exact ReadsSorted.asStr.asList.asOption.respects
      | exact (ReadsSorted.asRecord SessionDescription.reader_respects).respects
      | exact (ReadsSorted.asRecord CandidateData.reader_respects).respects
      | exact (ReadsSorted.asRecord FileShareInfo.reader_respects).asList.respects
      | exact (ReadsSorted.asRecord PlayerInfo.reader_respects).asList.respects
      | exact (ReadsSorted.asRecord PublicLobbyInfo.reader_respects).asList.respects
      | exact (ReadsSorted.asRecord CommunityNodeInfo.reader_respects).asList.respects
      | exact (ReadsSorted.asRecord CommunityNodeInfo.reader_respects).asOption.respects
      | refine .bind ?_ fun _ => ?_

/-- **The order of the members does not matter.** What is read from a value is read from its sorted
form. -/
theorem SignalingMessage.decode_sorted {v : Json} {m : SignalingMessage} (h : decode v = some m) :
    decode v.sorted = some m := by
  obtain ⟨c, hc, hm⟩ := Option.bind_eq_some_iff.1 h
  obtain ⟨c', hc', hsame⟩ := content_sorted hc
  refine Option.bind_eq_some_iff.2 ⟨c', hc', Respects.tagged ?_ (fun tag => ?_) hsame hm⟩
  · exact fun v w t hsorts ht => hsorts ▸ ReadsSorted.asStr v t ht
  · cases Variant.ofTag tag with
    | none => exact .fail
    | some v => exact v.reader_respects

/-! ## The stamp -/

section
variable {key id : String} {value : Json} {fields : List (String × Json)} {m : SignalingMessage}
  {generation : Nat}

theorem get_obj : (Json.obj fields).get key = (values key fields).head? := by
  unfold Json.get values
  rw [List.head?_map, List.head?_filter]

/-- A member that is inserted under a new name is the last one. -/
theorem insertField_new (h : values key fields = []) :
    insertField key value fields = fields ++ [(key, value)] := by
  induction fields with
  | nil => rfl
  | cons e rest ih =>
    obtain ⟨k, v⟩ := e
    rw [values_cons] at h
    split at h
    · cases h
    · next hne => rw [insertField, if_neg hne, ih h, List.cons_append]

/-- A member that is inserted with the value it has changes nothing. -/
theorem insertField_same {vs : List Json} (h : values key fields = value :: vs) :
    insertField key value fields = fields := by
  induction fields with
  | nil => cases h
  | cons e rest ih =>
    obtain ⟨k, v⟩ := e
    rw [values_cons] at h
    rw [insertField]
    split at h
    · next heq =>
      cases h
      rw [if_pos heq]
    · next hne => rw [if_neg hne, ih h]

/-- A member that is replaced by itself, if it is there at all, changes nothing. -/
theorem replaceField_same (h : values key fields = [] ∨ values key fields = [value]) :
    (if fields.any (·.1 == key) then insertField key value fields else fields) = fields := by
  rcases h with h | h
  · rw [if_neg]
    rw [any_iff_values]
    exact not_not.2 h
  · rw [insertField_same h, ite_self]

namespace SignalingMessage

/-- A message that names its sender does so in one member. -/
theorem values_sender (h : jsonSenderId m.toJson = some id) :
    values "from" m.fields = [.str id] ∧ values "clientId" m.fields = [] ∨
      values "from" m.fields = [] ∧ values "clientId" m.fields = [.str id] := by
  cases m <;> simp_all [jsonSenderId, toJson, get_obj, fields, Json.asStr]

theorem values_generation (h : m.statesGeneration = false) :
    values "sessionGeneration" m.fields = [] := by
  cases m with
  | registerSuccess | playerJoined | playerLeft => cases h
  | _ => simp [fields]

/-- A stamp adds the generation, and leaves the sender as it is. -/
theorem injectSessionMetadata_eq (hid : jsonSenderId m.toJson = some id)
    (hstates : m.statesGeneration = false) : injectSessionMetadata m.toJson id generation =
      .obj (m.fields ++ [("sessionGeneration", .nat generation)]) := by
  have hsender := values_sender hid
  unfold injectSessionMetadata toJson
  dsimp only
  rw [replaceField_same (hsender.elim (fun h => .inr h.1) fun h => .inl h.1),
    replaceField_same (hsender.elim (fun h => .inl h.2) fun h => .inr h.2),
    insertField_new (values_generation hstates)]

/-- **A stamped message is read as it was.** The recipient of a stamped message reads the message,
and finds the sender and the generation of the stamp in it. -/
theorem decode_stamped (generation : Nat) (h : m.InRange)
    (hid : jsonSenderId m.toJson = some id) (hstates : m.statesGeneration = false) :
    decode (injectSessionMetadata m.toJson id generation).sorted = some m ∧
      jsonSenderId (injectSessionMetadata m.toJson id generation).sorted = some id ∧
      (injectSessionMetadata m.toJson id generation).sorted.get "sessionGeneration" =
        some (.nat generation) := by
  rw [injectSessionMetadata_eq hid hstates]
  refine ⟨decode_sorted (decode_fields h (fun name hname => ?_) ?_), ?_, ?_⟩
  · simp [Ne.symm hname]
  · rw [hstates]
    nofun
  · have hfrom : values "from" [("sessionGeneration", Json.nat generation)] = [] := by simp
    have hclient : values "clientId" [("sessionGeneration", Json.nat generation)] = [] := by simp
    rw [jsonSenderId, Json.sorted, get_obj, get_obj, values_sortedFields, values_sortedFields,
      values_append, values_append, hfrom, hclient]
    rcases values_sender hid with ⟨hfrom, hclient⟩ | ⟨hfrom, hclient⟩ <;>
      simp [hfrom, hclient]
  · rw [Json.sorted, get_obj, values_sortedFields, values_append, values_generation hstates]
    simp [Json.nat]

end SignalingMessage

end

/-! ## Forwarding -/

/-- The JSON text that the recipient of a frame gets. Reference: `send_to_lobby_client` and
`broadcast_to_lobby` (`transport.rs:96-240`). -/
def Frame.received : Frame → Option Json
  | .text message none => some message.toJson
  | .text message (some (senderId, generation)) =>
    some (injectSessionMetadata message.toJson senderId generation).sorted
  | .close => none

/-- A message, and the message a handler makes of it: the name in an offer is replaced. -/
inductive ForwardedAs : SignalingMessage → SignalingMessage → Prop
  | same {m : SignalingMessage} : ForwardedAs m m
  | offer {from_ to_ : String} {data : SessionDescription} {name name' : Option String} :
    ForwardedAs (.offer from_ to_ data name) (.offer from_ to_ data name')

section
variable {H : Crypto} {cfg : ServerConfig} {P Q : SignalingMessage → Prop}

/-- A message was forwarded from one that satisfies the predicate and claims a sender. -/
def Relayed (P : SignalingMessage → Prop) (m : SignalingMessage) : Prop :=
  ∃ received, P received ∧ received.claimedSender.isSome = true ∧ ForwardedAs received m

/-- What an operation forwards in somebody's name is relayed. -/
def Op.Relays (P : SignalingMessage → Prop) (op : Op) : Prop :=
  ∀ lobbyId m, op.forwards = some (lobbyId, m) → jsonSenderId m.toJson = none ∨ Relayed P m

def Forward.Relays (P : SignalingMessage → Prop) (from_ : String) : Forward → Prop
  | .direct _ m | .broadcast m => P m ∧ m.claimedSender.isSome = true
  | .offer to_ data => ∃ name, P (.offer from_ to_ data name)

/-- What a handler is about to forward in somebody's name is relayed. -/
def Task.Relays (P : SignalingMessage → Prop) : Task H cfg → Prop
  | .current (.text (.ok m)) => P m
  | .lookup from_ forward => forward.Relays P from_
  | .offerName _ from_ to_ data => ∃ name, P (.offer from_ to_ data name)
  | .ops pending _ => ∀ op ∈ pending, op.Relays P
  | _ => True

theorem Relayed.mono (hPQ : ∀ m, P m → Q m) {m : SignalingMessage} (h : Relayed P m) :
    Relayed Q m := by
  obtain ⟨received, hreceived, hforwarded⟩ := h
  exact ⟨received, hPQ _ hreceived, hforwarded⟩

theorem Task.Relays.mono (hPQ : ∀ m, P m → Q m) {task : Task H cfg} (h : task.Relays P) :
    task.Relays Q := by
  cases task with
  | current inbound =>
    cases inbound with
    | text parsed =>
      cases parsed with
      | error => trivial
      | ok => exact hPQ _ h
    | _ => trivial
  | lookup from_ forward =>
    cases forward with
    | direct | broadcast => exact h.imp_left (hPQ _)
    | offer =>
      obtain ⟨name, hname⟩ := h
      exact ⟨name, hPQ _ hname⟩
  | offerName =>
    obtain ⟨name, hname⟩ := h
    exact ⟨name, hPQ _ hname⟩
  | ops pending next =>
    exact fun op hop lobbyId m hforwards => (h op hop lobbyId m hforwards).imp_right (.mono hPQ)
  | _ => trivial

/-- An operation that names nobody, whatever the session is, relays nothing. -/
theorem OpOk.relays {op : Op} (h : OpOk none op) : op.Relays P := by
  intro lobbyId m hforwards
  refine .inl ?_
  have hclaims : Claims none m := by cases op <;> cases hforwards <;> exact h
  cases hid : jsonSenderId m.toJson with
  | none => rfl
  | some id => cases hclaims.sender id hid

/-- An operation that sends a message that is relayed. -/
theorem Op.relays_of_relayed {op : Op} {lobbyId : String} {m : SignalingMessage}
    (hop : op.forwards = some (lobbyId, m)) (h : Relayed P m) : op.Relays P := by
  intro lobbyId' m' hforwards
  cases hop.symm.trans hforwards
  exact .inr h

theorem Task.relays_single {op : Op} {next : Next} (h : op.Relays P) :
    (Task.ops [op] next : Task H cfg).Relays P := by
  intro op' hop
  rw [List.mem_singleton.1 hop]
  exact h

variable {k : ConnId} {conn : Conn H cfg}

theorem refused_relays : (refused k : Task H cfg).Relays P :=
  Task.relays_single (OpOk.relays trivial)

/-- What a message leads to relays the message. -/
theorem handleInbound_relays {inbound : Inbound}
    (h : ∀ m, inbound = .text (.ok m) → P m) : (handleInbound k conn inbound).Relays P := by
  have hcases : Handled k conn inbound (handleInbound k conn inbound) := handleInbound_cases
  generalize handleInbound k conn inbound = task at hcases ⊢
  cases hcases with
  | ignored | ended | registers | moderates => trivial
  | registeredAlready => exact fun op hop => nomatch hop
  | answered => exact Task.relays_single (OpOk.relays trivial)
  | @asks _ op hasks =>
    refine Task.relays_single (OpOk.relays ?_)
    cases op <;> trivial
  | reconnects => exact Task.relays_single (Op.relays_of_relayed rfl ⟨_, h _ rfl, rfl, .same⟩)
  | @forwards message r _ _ hrouted =>
    have hspec := routed_spec hrouted
    have hmessage := h message rfl
    have hclaims : message.claimedSender.isSome = true := by rw [(routed_sender hrouted).1]; rfl
    unfold Task.Relays Forward.Relays
    dsimp only
    generalize r.forward = forward at hspec ⊢
    cases forward with
    | direct | broadcast =>
      obtain ⟨rfl, -⟩ := hspec
      exact ⟨hmessage, hclaims⟩
    | offer =>
      obtain ⟨name, rfl⟩ := hspec
      exact ⟨name, hmessage⟩

/-! ## Steps -/

variable {s s' : Sys H cfg} {env : Env} {d : Delivery}

/-- A read relays what was relayed before it. -/
theorem Read.relays {task task' : Task H cfg} (h : Read s k env task task')
    (hrelays : task.Relays P) : task'.Relays P := by
  cases h with
  | stale => exact refused_relays
  | @current inbound => exact handleInbound_relays fun m hm => by subst hm; exact hrelays
  | unmapped | mapped | flagged | unflagged | superseded => trivial
  | elsewhere _ htask => rcases htask with rfl | rfl <;> trivial
  | @found _ _ forward =>
    cases forward with
    | direct | broadcast =>
      exact Task.relays_single (Op.relays_of_relayed rfl ⟨_, hrelays.1, hrelays.2, .same⟩)
    | offer => exact hrelays
  | named =>
    obtain ⟨name, hname⟩ := hrelays
    exact Task.relays_single (Op.relays_of_relayed rfl ⟨_, hname, rfl, .offer⟩)
  | confirmed => exact fun op hop => (Commit.notifications_ok op hop).relays
  | @finished next => cases next <;> trivial
  | ran => exact fun op hop => hrelays op (List.mem_cons_of_mem _ hop)
  | started =>
    intro op hop
    rcases List.mem_cons.1 hop with rfl | hop
    · exact OpOk.relays trivial
    · exact hrelays op (List.mem_cons_of_mem _ hop)

/-- The pending operations after one of their first jobs ran. -/
theorem Task.relays_left {js js' : List Job} {pending : List Op} {next : Next}
    (h : (Task.ops (.jobs js :: pending) next : Task H cfg).Relays P) :
    (Task.ops (.jobs js' :: pending) next : Task H cfg).Relays P := by
  intro op hop
  rcases List.mem_cons.1 hop with rfl | hop
  · exact OpOk.relays trivial
  · exact h op (List.mem_cons_of_mem _ hop)

/-- A step of a handler relays what was relayed before it. -/
theorem Exec.relays (h : Exec s k env s') (hrelays : (s.conns k).task.Relays P) :
    (s'.conns k).task.Relays P := by
  cases h with
  | read hread =>
    rw [Sys.setTask_self]
    exact hread.relays hrelays
  | rejected =>
    rw [Sys.setTask_self]
    exact Task.relays_single (OpOk.relays trivial)
  | committed =>
    dsimp only
    rw [Sys.setConn_self]
    trivial
  | hostRefused _ htask =>
    rw [Sys.setTask_self]
    rcases htask with rfl | rfl <;> trivial
  | hostActed =>
    dsimp only
    rw [Sys.setTask_self]
    exact fun op hop => (HostNotice.notifications_ok op hop).relays
  | stayed =>
    rw [Sys.setTask_self]
    trivial
  | left =>
    dsimp only
    rw [Sys.setTask_self]
    exact fun op hop => (Departure.notifications_ok op hop).relays
  | sent ht | signalled ht =>
    rw [Sys.setTask_self]
    rw [ht] at hrelays
    exact Task.relays_left hrelays

/-- Every handler relays what satisfies its predicate, if every message that arrives does. -/
theorem relays_step {act : Action} (h : SysStep s act s') (hrelays : (s.conns k).task.Relays P)
    (hreceived : ∀ m, act = .receive k (.text (.ok m)) → P m) : (s'.conns k).task.Relays P := by
  have hmove := step_cases h
  by_cases hactor : act.actor = some k
  · cases hmove with
    | connected =>
      cases hactor
      rcases Sys.connect_conn.2 with htask | htask <;> rw [htask] <;> trivial
    | ticked => cases hactor
    | refused =>
      cases hactor
      rw [Sys.setConn_self]
      exact refused_relays
    | @received _ inbound =>
      cases hactor
      rw [Sys.setConn_self]
      dsimp only
      cases inbound with
      | text parsed =>
        cases parsed with
        | error => trivial
        | ok m => exact hreceived m rfl
      | _ => trivial
    | handled =>
      cases hactor
      rw [Sys.setConn_self]
      exact handleInbound_relays fun m hm => hreceived m (by rw [hm])
    | hungUp =>
      cases hactor
      rw [Sys.setTask_self]
      trivial
    | moved hexec =>
      cases hactor
      exact hexec.relays hrelays
  · rw [(hmove.untouched hactor).task]
    exact hrelays

/-! ## Runs -/

/-- The handler of a connection received this message. -/
def Received (ts : List (Transition (Sys H cfg) Action)) (k : ConnId) (m : SignalingMessage) :
    Prop :=
  ∃ t ∈ ts, t.act = .receive k (.text (.ok m))

/-- A stamped frame is routed, and has the sender that its message names; and what is routed in
somebody's name is relayed. -/
structure FrameRelayed (P : SignalingMessage → Prop) (d : Delivery) : Prop where
  stamped : ∀ m c g, d.frame = .text m (some (c, g)) →
    jsonSenderId m.toJson = some c ∧ d.via.isSome = true
  relayed : ∀ m stamp c, d.frame = .text m stamp → d.via.isSome = true →
    jsonSenderId m.toJson = some c → Relayed P m

variable {ts : List (Transition (Sys H cfg) Action)}

theorem Received.step {t : Transition (Sys H cfg) Action} {m : SignalingMessage}
    (h : Received ts k m) : Received (t :: ts) k m := by
  obtain ⟨u, hu, hact⟩ := h
  exact ⟨u, List.mem_cons_of_mem _ hu, hact⟩

theorem FrameRelayed.mono (hPQ : ∀ m, P m → Q m) (h : FrameRelayed P d) : FrameRelayed Q d where
  stamped := h.stamped
  relayed m stamp c hframe hvia hid := (h.relayed m stamp c hframe hvia hid).mono hPQ

/-- A frame that is neither routed nor stamped is nobody's. -/
theorem FrameRelayed.of_unrouted (hvia : d.via = none) (hstamp : d.frame.stamp = none) :
    FrameRelayed P d where
  stamped m c g hframe := by
    rw [hframe] at hstamp
    cases hstamp
  relayed m stamp c _ hrouted := by
    rw [hvia] at hrouted
    cases hrouted

theorem Delivery.Plain.frameRelayed (h : d.Plain) : FrameRelayed P d := .of_unrouted h.via h.stamp

/-- The frames of a snapshot that relays. -/
theorem frameRelayed_of_snapshot {op : Op} (hsnap : op.Snapshot) (hop : op.Relays P)
    (hd : Job.send d ∈ op.start s.shared k env) : FrameRelayed P d := by
  cases hforwards : op.forwards with
  | none =>
    obtain ⟨hvia, hstamp⟩ := Op.start_other hsnap hforwards hd
    exact .of_unrouted hvia hstamp
  | some forward =>
    obtain ⟨lobbyId, message⟩ := forward
    obtain ⟨lobby, id, target, -, -, -, rfl⟩ := (Op.mem_start hforwards).1 hd
    constructor
    · intro m c g hframe
      obtain ⟨rfl, hstamp⟩ := Frame.text.inj hframe
      exact ⟨(stampIn_eq_some hstamp).1, rfl⟩
    · intro m stamp c hframe _ hid
      obtain ⟨rfl, -⟩ := Frame.text.inj hframe
      refine (hop _ _ hforwards).resolve_left fun hnone => ?_
      cases hnone.symm.trans hid

/-- A frame that is ready at a handler that relays is relayed. -/
theorem ready_relayed {act : Action} (h : SysStep s act s') (hrelays : (s.conns k).task.Relays P)
    (hbefore : ∀ d, (s.conns k).task.Ready d → FrameRelayed P d) (hd : (s'.conns k).task.Ready d) :
    FrameRelayed P d := by
  obtain hd | hplain | ⟨env, rfl, horigin⟩ := ready_step h hd
  · exact hbefore d hd
  · exact hplain.frameRelayed
  cases horigin with
  | snapshot ht hsnap hd =>
    rw [ht] at hrelays
    exact frameRelayed_of_snapshot hsnap (hrelays _ List.mem_cons_self) hd
  | success _ _ heq =>
    subst heq
    exact .of_unrouted rfl rfl
  | plain hplain => exact hplain.frameRelayed

/-- In every run, what a handler is about to forward, and what it forwarded, it received before. -/
theorem frames_relayed (h : SysRun ts s) :
    (∀ k, (s.conns k).task.Relays (Received ts k)) ∧
      (∀ k d, (s.conns k).task.Ready d → FrameRelayed (Received ts k) d) ∧
      ∀ e ∈ s.log, FrameRelayed (Received ts e.by_) e.delivery := by
  induction h with
  | start h =>
    subst h
    exact ⟨fun _ => trivial, fun _ _ hready => hready.elim, fun e he => nomatch he⟩
  | @snoc ts s s' act hr hs ih =>
    obtain ⟨hrelays, hready, hlog⟩ := ih
    refine ⟨fun k => ?_, fun k d hd => ?_, fun e he => ?_⟩
    · exact relays_step hs ((hrelays k).mono fun _ => .step)
        fun m hact => ⟨_, List.mem_cons_self, hact⟩
    · exact (ready_relayed hs (hrelays k) (hready k) hd).mono fun _ => .step
    · rcases log_step hs he with he | hd | hplain
      · exact (hlog e he).mono fun _ => .step
      · exact (hready _ _ hd).mono fun _ => .step
      · exact hplain.frameRelayed

/-- Neither numbers nor a session generation come with the name in an offer. -/
theorem ForwardedAs.keeps {m m' : SignalingMessage} (h : ForwardedAs m m') :
    (m.InRange → m'.InRange) ∧ m'.claimedSender = m.claimedSender := by
  cases h <;> exact ⟨id, rfl⟩

theorem SignalingMessage.statesGeneration_of_claims {m : SignalingMessage}
    (h : m.claimedSender.isSome = true) : m.statesGeneration = false := by
  cases m <;> first | rfl | cases h

/-- **What the recipients of forwarded messages read.** In every run in which the messages that
arrive are read from JSON values, the text of a stamped frame is read as the frame's message, from
the sender and with the session generation of the stamp; and the connection whose handler forwarded
it had received this message before, or, of an offer, the same one under another name. -/
theorem forwarded_frames_read (h : SysRun ts s)
    (hread : ∀ t ∈ ts, ∀ k m, t.act = .receive k (.text (.ok m)) →
      ∃ v, SignalingMessage.decode v = some m) :
    ∀ e ∈ s.log, ∀ m c g, e.delivery.frame = .text m (some (c, g)) →
      ∃ v, e.delivery.frame.received = some v ∧ SignalingMessage.decode v = some m ∧
        jsonSenderId v = some c ∧ v.get "sessionGeneration" = some (.nat g) ∧
        ∃ received, Received ts e.by_ received ∧ ForwardedAs received m := by
  intro e he m c g hframe
  have hrelayed := (frames_relayed h).2.2 e he
  obtain ⟨hid, hvia⟩ := hrelayed.stamped m c g hframe
  obtain ⟨received, hreceived, hclaims, hforwarded⟩ := hrelayed.relayed m _ c hframe hvia hid
  obtain ⟨hrange, hsender⟩ := hforwarded.keeps
  have hstates := SignalingMessage.statesGeneration_of_claims (hsender ▸ hclaims)
  obtain ⟨t, ht, hact⟩ := hreceived
  obtain ⟨v, hv⟩ := hread t ht e.by_ received hact
  obtain ⟨hdecode, hnamed, hstamp⟩ := SignalingMessage.decode_stamped g
    (hrange (SignalingMessage.decode_inRange hv)) hid hstates
  exact ⟨_, by rw [hframe]; rfl, hdecode, hnamed, hstamp, received, ⟨t, ht, hact⟩, hforwarded⟩

end

/-! ## A recorded status -/

/-- A message that arrives is read from its own text. -/
def readable (_ : Sys recordedCrypto .default) : Action → Bool
  | .receive _ (.text (.ok m)) => SignalingMessage.decode m.toJson == some m
  | _ => true

/-- Alice and bob join, and bob sends his status. -/
def statusActions : List Action :=
  [.connect 1 (repeatedByte "a1" 32) recordedSource true,
    .connect 2 (repeatedByte "b2" 32) recordedSource true,
    .receive 1 (.text (.ok alice.request.message)), .receive 2 (.text (.ok bob.request.message))] ++
    bobSpeaks ++ bobSteps 4

def statusForwarded : Option (Sys recordedCrypto .default) :=
  statusActions.foldlM (fun s act => if readable s act then s.step act else none) .initial

/-- Alice reads bob's status, under his session. -/
theorem forwarded_frames_read_status : ∃ s e v, statusForwarded = some s ∧ e ∈ s.log ∧
    e.ok = true ∧ e.delivery.to_ = 1 ∧ e.delivery.frame.received = some v ∧
    SignalingMessage.decode v = some (.statusUpdate bobId true) ∧ jsonSenderId v = some bobId ∧
    v.get "sessionGeneration" = some (.nat 2) := by
  have hrun : (statusForwarded.bind fun s => s.log.head?.bind fun e =>
      if e.ok = true ∧ e.delivery.to_ = 1 ∧
        e.delivery.frame = .text (.statusUpdate bobId true) (some (bobId, 2)) then some ()
      else none) = some () := by decide +kernel
  obtain ⟨s, hs, hrun⟩ := Option.bind_eq_some_iff.1 hrun
  obtain ⟨e, he, hrun⟩ := Option.bind_eq_some_iff.1 hrun
  split at hrun
  · next hcond =>
    obtain ⟨hok, hto, hframe⟩ := hcond
    have he := List.mem_of_mem_head? he
    obtain ⟨ts, hts, hreadable⟩ := (Run.start rfl : SysRun [] _).foldlM (p := readable)
      (fun t ht => by cases ht) hs
    obtain ⟨v, hv, hdecode, hsender, hstamp, -⟩ := forwarded_frames_read hts
      (fun t ht k m hact => by
        have hread := hreadable t ht
        rw [hact] at hread
        exact ⟨m.toJson, beq_iff_eq.1 hread⟩) e he _ _ _ hframe
    exact ⟨s, e, v, hs, he, hok, hto, hv, hdecode, hsender, hstamp⟩
  · cases hrun

end MctierSignaling
