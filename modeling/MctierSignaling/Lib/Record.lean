import Mathlib.Data.List.Basic

/-!
# Records with named members

How a record is read from an object, or from an array that has its fields in order, as a derived
deserializer does it: a name that the record does not know is ignored, a name that is given twice
is an error, and a field that is missing has a value of its own, if it has one. A reader is built
from its fields with `do`, so a few rules about `field` and about `>>=` are enough to show what a
record yields (`Yields`), and that the order of the members does not matter (`Reordered`).
-/

namespace MctierSignaling.Record

/-- What stands between the brackets: named members, or items in order. -/
inductive Content (V : Type) where
  | map (members : List (String × V))
  | seq (items : List V)

abbrev Reader (V α : Type) := StateT (Content V) Option α

section
variable {V α β : Type}

/-- The values that are given under a name. -/
def values (name : String) (members : List (String × V)) : List V :=
  (members.filter (·.1 == name)).map (·.2)

/-- What the values under one name are read as. -/
def once (missing : Option α) (read : V → Option α) : List V → Option α
  | [] => missing
  | [v] => read v
  | _ => none

/-- A field of a record: `missing` is its value where no member has its name, and `absent` where the
items end before it. -/
def field (name : String) (missing absent : Option α) (read : V → Option α) : Reader V α
  | .map members => (once missing read (values name members)).map (·, .map members)
  | .seq [] => absent.map (·, .seq [])
  | .seq (v :: items) => (read v).map (·, .seq items)

/-- Items that are left over are an error, members are not. -/
def Content.done : Content V → Bool
  | .map _ => true
  | .seq items => items.isEmpty

/-- Reads a whole record. -/
def Reader.all (r : Reader V α) (c : Content V) : Option α := do
  let (a, rest) ← r.run c
  if rest.done then some a else none

/-- One of several records, each under a tag, which is a member of its own or the first item. -/
def tagged (tag : String) (asTag : V → Option String) (variant : String → Reader V α) :
    Content V → Option α
  | .map members => do
    let t ← once none asTag (values tag members)
    (variant t).all (.map (members.filter (·.1 != tag)))
  | .seq [] => none
  | .seq (v :: items) => do
    let t ← asTag v
    (variant t).all (.seq items)

/-! ## The values of a name -/

variable {name name' tag : String} {v : V} {members members' : List (String × V)}

@[simp] theorem values_nil : values name ([] : List (String × V)) = [] := rfl

@[simp] theorem values_cons :
    values name ((name', v) :: members) =
      if name' = name then v :: values name members else values name members := by
  unfold values
  rw [List.filter_cons]
  by_cases h : name' = name <;> simp [h]

@[simp] theorem values_append :
    values name (members ++ members') = values name members ++ values name members' := by
  simp [values]

/-- The members without the tag. -/
@[simp] theorem values_untagged :
    values name (members.filter (·.1 != tag)) = if name = tag then [] else values name members := by
  unfold values
  rw [List.filter_filter]
  split
  · next h =>
    subst h
    rw [List.filter_eq_nil_iff.2, List.map_nil]
    rintro ⟨k, v⟩ -
    simp
  · next h =>
    refine congrArg _ (List.filter_congr fun e _ => ?_)
    by_cases hk : e.1 = name <;> simp [hk, h]

/-! ## Reading members -/

variable {missing absent : Option α} {read : V → Option α}

@[simp] theorem once_nil : once missing read [] = missing := rfl

@[simp] theorem once_singleton : once missing read [v] = read v := rfl

@[simp] theorem all_pure {a : α} : Reader.all (pure a) (.map members) = some a := rfl

/-- The first field of a record is read from the values of its name, and the rest from the same
members. -/
@[simp] theorem all_field_bind {f : α → Reader V β} :
    (field name missing absent read >>= f).all (.map members) =
      (once missing read (values name members)).bind fun a => (f a).all (.map members) := by
  have hrun : (field name missing absent read >>= f).run (.map members) =
      ((once missing read (values name members)).map (·, .map members)).bind
        fun p => (f p.1).run p.2 := rfl
  rw [Reader.all, hrun]
  cases once missing read (values name members) <;> rfl

/-- The last field of a record. -/
@[simp] theorem all_field_map {f : α → β} :
    (f <$> field name missing absent read).all (.map members) =
      (once missing read (values name members)).map f := by
  rw [map_eq_pure_bind, all_field_bind]
  cases once missing read (values name members) <;> rfl

/-! ## What a record yields -/

/-- Whatever the reader reads satisfies the predicate. -/
def Yields (P : α → Prop) (r : Reader V α) : Prop :=
  ∀ c a c', r.run c = some (a, c') → P a

variable {P : α → Prop} {Q : β → Prop} {r : Reader V α} {f : α → Reader V β}

theorem Yields.any : Yields (fun _ => True) r := fun _ _ _ _ => trivial

theorem Yields.pure {a : α} (h : P a) : Yields P (Pure.pure a : Reader V α) := by
  intro c b c' hrun
  cases hrun
  exact h

theorem Yields.bind (hr : Yields P r) (hf : ∀ a, P a → Yields Q (f a)) : Yields Q (r >>= f) := by
  intro c b c' hrun
  obtain ⟨⟨a, c₁⟩, ha, hb⟩ := Option.bind_eq_some_iff.1 hrun
  exact hf a (hr c a c₁ ha) c₁ b c' hb

theorem Yields.fail : Yields P (failure : Reader V α) := by
  intro c a c' hrun
  cases hrun

/-- A field yields what its values read as, and its defaults. -/
theorem Yields.field (hread : ∀ v a, read v = some a → P a) (hmissing : ∀ a, missing = some a → P a)
    (habsent : ∀ a, absent = some a → P a) : Yields P (field name missing absent read) := by
  intro c a c' hrun
  cases c with
  | map members =>
    obtain ⟨b, hb, heq⟩ := Option.map_eq_some_iff.1 hrun
    cases heq
    unfold once at hb
    split at hb
    · exact hmissing _ hb
    · exact hread _ _ hb
    · cases hb
  | seq items =>
    cases items with
    | nil =>
      obtain ⟨b, hb, heq⟩ := Option.map_eq_some_iff.1 hrun
      cases heq
      exact habsent _ hb
    | cons v items =>
      obtain ⟨b, hb, heq⟩ := Option.map_eq_some_iff.1 hrun
      cases heq
      exact hread _ _ hb

theorem Yields.all (h : Yields P r) {c : Content V} {a : α} (ha : r.all c = some a) : P a := by
  obtain ⟨⟨b, rest⟩, hb, ha⟩ := Option.bind_eq_some_iff.1 ha
  dsimp only at ha
  split at ha
  · cases ha
    exact h _ _ _ hb
  · cases ha

theorem tagged_yields {asTag : V → Option String} {variant : String → Reader V α}
    (h : ∀ t, Yields P (variant t)) {c : Content V} {a : α}
    (ha : tagged tag asTag variant c = some a) : P a := by
  unfold tagged at ha
  split at ha
  · obtain ⟨t, -, ha⟩ := Option.bind_eq_some_iff.1 ha
    exact (h t).all ha
  · cases ha
  · obtain ⟨t, -, ha⟩ := Option.bind_eq_some_iff.1 ha
    exact (h t).all ha

/-! ## The order of the members -/

/-- Every name that is given once, or not at all, is so in the other members too, with a value that
is the same up to `S`. -/
def Reordered (S : V → V → Prop) (members members' : List (String × V)) : Prop :=
  ∀ name, (values name members = [] → values name members' = []) ∧
    ∀ v, values name members = [v] → ∃ v', values name members' = [v'] ∧ S v v'

/-- The same content, up to the order of the members and up to `S`. -/
inductive Content.Same (S : V → V → Prop) : Content V → Content V → Prop
  | map {members members' : List (String × V)} : Reordered S members members' →
      Same S (.map members) (.map members')
  | seq {items items' : List V} : List.Forall₂ S items items' → Same S (.seq items) (.seq items')

/-- What is read from a content is read from every content that is the same. -/
def Respects (S : V → V → Prop) (r : Reader V α) : Prop :=
  ∀ c c' a rest, c.Same S c' → r.run c = some (a, rest) →
    ∃ rest', r.run c' = some (a, rest') ∧ rest.Same S rest'

variable {S : V → V → Prop}

theorem Respects.pure {a : α} : Respects S (Pure.pure a : Reader V α) := by
  intro c c' b rest hsame hrun
  cases hrun
  exact ⟨c', rfl, hsame⟩

theorem Respects.bind (hr : Respects S r) (hf : ∀ a, Respects S (f a)) :
    Respects S (r >>= f) := by
  intro c c' b rest hsame hrun
  obtain ⟨⟨a, c₁⟩, ha, hb⟩ := Option.bind_eq_some_iff.1 hrun
  obtain ⟨c₁', ha', hsame₁⟩ := hr c c' a c₁ hsame ha
  obtain ⟨rest', hb', hsame'⟩ := hf a c₁ c₁' b rest hsame₁ hb
  exact ⟨rest', Option.bind_eq_some_iff.2 ⟨⟨a, c₁'⟩, ha', hb'⟩, hsame'⟩

theorem Respects.fail : Respects S (failure : Reader V α) := by
  intro c c' a rest hsame hrun
  cases hrun

theorem Respects.once (hread : ∀ v v' a, S v v' → read v = some a → read v' = some a)
    (h : Reordered S members members') {a : α}
    (ha : Record.once missing read (values name members) = some a) :
    Record.once missing read (values name members') = some a := by
  unfold Record.once at ha
  split at ha
  · next hnil =>
    rw [(h name).1 hnil]
    exact ha
  · next v hv =>
    obtain ⟨v', hv', hS⟩ := (h name).2 v hv
    rw [hv']
    exact hread v v' a hS ha
  · cases ha

theorem Respects.field (hread : ∀ v v' a, S v v' → read v = some a → read v' = some a) :
    Respects S (field name missing absent read) := by
  intro c c' a rest hsame hrun
  cases hsame with
  | map h =>
    obtain ⟨b, hb, heq⟩ := Option.map_eq_some_iff.1 hrun
    cases heq
    exact ⟨_, Option.map_eq_some_iff.2 ⟨a, Respects.once hread h hb, rfl⟩, .map h⟩
  | seq h =>
    cases h with
    | nil =>
      obtain ⟨b, hb, heq⟩ := Option.map_eq_some_iff.1 hrun
      cases heq
      exact ⟨_, Option.map_eq_some_iff.2 ⟨a, hb, rfl⟩, .seq .nil⟩
    | cons hS h =>
      obtain ⟨b, hb, heq⟩ := Option.map_eq_some_iff.1 hrun
      cases heq
      exact ⟨_, Option.map_eq_some_iff.2 ⟨a, hread _ _ _ hS hb, rfl⟩, .seq h⟩

theorem Content.Same.done {c c' : Content V} (h : c.Same S c') : c'.done = c.done := by
  cases h with
  | map => rfl
  | seq h => cases h <;> rfl

theorem Respects.all (h : Respects S r) {c c' : Content V} (hsame : c.Same S c') {a : α}
    (ha : r.all c = some a) : r.all c' = some a := by
  obtain ⟨⟨b, rest⟩, hb, ha⟩ := Option.bind_eq_some_iff.1 ha
  dsimp only at ha
  split at ha
  · next hdone =>
    cases ha
    obtain ⟨rest', hb', hrest⟩ := h c c' a rest hsame hb
    refine Option.bind_eq_some_iff.2 ⟨(a, rest'), hb', if_pos ?_⟩
    rw [hrest.done]
    exact hdone
  · cases ha

theorem Reordered.untagged (h : Reordered S members members') :
    Reordered S (members.filter (·.1 != tag)) (members'.filter (·.1 != tag)) := by
  intro name
  rw [values_untagged, values_untagged]
  split
  · exact ⟨fun _ => rfl, fun v hv => by cases hv⟩
  · exact h name

theorem Respects.tagged {asTag : V → Option String} {variant : String → Reader V α}
    (hread : ∀ v v' t, S v v' → asTag v = some t → asTag v' = some t)
    (h : ∀ t, Respects S (variant t)) {c c' : Content V} (hsame : c.Same S c') {a : α}
    (ha : tagged tag asTag variant c = some a) : tagged tag asTag variant c' = some a := by
  cases hsame with
  | map hmembers =>
    obtain ⟨t, ht, ha⟩ := Option.bind_eq_some_iff.1 ha
    refine Option.bind_eq_some_iff.2 ⟨t, Respects.once hread hmembers ht, ?_⟩
    exact (h t).all (.map hmembers.untagged) ha
  | seq hitems =>
    cases hitems with
    | nil => cases ha
    | cons hS hitems =>
      obtain ⟨t, ht, ha⟩ := Option.bind_eq_some_iff.1 ha
      exact Option.bind_eq_some_iff.2 ⟨t, hread _ _ _ hS ht, (h t).all (.seq hitems) ha⟩

end

end MctierSignaling.Record
