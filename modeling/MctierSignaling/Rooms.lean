import MctierSignaling.Lib.Transition
import Mathlib.Data.Set.Card

/-!
# Rooms

What the lobby state is for, in its own terms. Users sit in rooms, each in one room at a time and by
one session, and a session holds one seat. A room is open as long as somebody sits in it. One of
those is its host, who mutes and removes the others, passes the room on, and amends its options;
when the host leaves, one of the others becomes the host. Rooms, users, sessions, keys and options
are of any type, and what options ask of those who enter is a `Policy`. `MctierSignaling.Refinement`
shows that every run of the server is a run of this system.
-/

namespace MctierSignaling

/-! ## Rooms and seats -/

/-- A room: its host, the users it mutes, and its options. -/
@[ext] structure Room (U O : Type*) where
  host : U
  muted : Set U
  options : O

/-- Those who are here suffice for the room: they are its host and all that it mutes, others than
the host. -/
structure Room.Fits {U O : Type*} (x : Room U O) (here : Set U) : Prop where
  host : x.host ∈ here
  muted : ∀ u ∈ x.muted, u ∈ here ∧ u ≠ x.host

/-- Rooms, and the seat of every user, with the session that holds it. -/
@[ext] structure Rooms (R U S O : Type*) where
  seat : U → Option (R × S)
  room : R → Option (Room U O)
  single : ∀ u v p q s, seat u = some (p, s) → seat v = some (q, s) → u = v
  opened : ∀ u r s, seat u = some (r, s) → ∃ x, room r = some x
  fits : ∀ r x, room r = some x → x.Fits {u | ∃ s, seat u = some (r, s)}

/-- What options ask: which a new room may have, which keys open it, whether it takes one more user
than a number, and how the host's requests amend them. -/
structure Policy (R K A O : Type*) where
  founds : R → K → O → Prop
  opens : O → K → Prop
  takes : O → ℕ → Prop
  amend : A → O → O

/-- What a session can ask for. -/
inductive Command (R U K A : Type*) where
  | enter (u : U) (r : R) (key : K)
  | leave
  | kick (u : U)
  | mute (u : U)
  | unmute (u : U)
  | transfer (u : U)
  | amend (request : A)

section
variable {R U S K A O : Type*}

/-- The users in a room. -/
def Rooms.here (rs : Rooms R U S O) (r : R) : Set U := {u | ∃ s, rs.seat u = some (r, s)}

/-- No rooms. -/
def Rooms.empty : Rooms R U S O where
  seat _ := none
  room _ := none
  single _ _ _ _ _ h := nomatch h
  opened _ _ _ h := nomatch h
  fits _ _ h := nomatch h

/-! ## One room -/

section
variable {P : Policy R K A O} {x x' : Room U O} {here : Set U} {u v : U}

/-- The room without a user. -/
def Room.without (x : Room U O) (u : U) : Room U O := { x with muted := x.muted \ {u} }

/-- The room under a host, who is not muted. -/
def Room.passTo (x : Room U O) (u : U) : Room U O :=
  { x with host := u, muted := x.muted \ {u} }

theorem Room.Fits.mono {here' : Set U} (h : x.Fits here) (hsub : here ⊆ here') : x.Fits here' where
  host := hsub h.host
  muted v hv := ⟨hsub (h.muted v hv).1, (h.muted v hv).2⟩

theorem Room.Fits.without (h : x.Fits here) (hu : x.host ≠ u) :
    (x.without u).Fits (here \ {u}) where
  host := ⟨h.host, hu⟩
  muted _ hv := ⟨⟨(h.muted _ hv.1).1, hv.2⟩, (h.muted _ hv.1).2⟩

theorem Room.Fits.passTo (h : x.Fits here) (hu : u ∈ here) : (x.passTo u).Fits here where
  host := hu
  muted _ hv := ⟨(h.muted _ hv.1).1, hv.2⟩

/-- A room whose host leaves needs another. -/
theorem Room.Fits.succeed (h : x.Fits here) (hv : v ∈ here) (hne : v ≠ u) :
    ((x.without u).passTo v).Fits (here \ {u}) where
  host := ⟨hv, hne⟩
  muted _ hw := ⟨⟨(h.muted _ hw.1.1).1, hw.1.2⟩, hw.2⟩

/-- The room after a command of its host that moves nobody. -/
inductive Room.Commanded (P : Policy R K A O) (here : Set U) (x : Room U O) :
    Command R U K A → Room U O → Prop
  | mute {u : U} : u ∈ here → u ≠ x.host →
      Commanded P here x (.mute u) { x with muted := insert u x.muted }
  | unmute {u : U} : u ∈ here → Commanded P here x (.unmute u) (x.without u)
  | transfer {u : U} : u ∈ here → Commanded P here x (.transfer u) (x.passTo u)
  | amend {request : A} :
      Commanded P here x (.amend request) { x with options := P.amend request x.options }

theorem Room.Commanded.fits {command : Command R U K A} (h : x.Commanded P here command x')
    (hx : x.Fits here) : x'.Fits here := by
  cases h with
  | mute hu hne =>
    refine ⟨hx.host, fun v hv => ?_⟩
    rcases hv with rfl | hv
    · exact ⟨hu, hne⟩
    · exact hx.muted v hv
  | unmute => exact ⟨hx.host, fun v hv => hx.muted v hv.1⟩
  | transfer hu => exact hx.passTo hu
  | amend => exact ⟨hx.host, hx.muted⟩

/-- The room after a user left it: it closes after the last one, and its host has a successor. -/
inductive Room.Left (here : Set U) (x : Room U O) (u : U) : Option (Room U O) → Prop
  | closes : (∀ v ∈ here, v = u) → Left here x u none
  | stays : x.host ≠ u → Left here x u (some (x.without u))
  | passes {v : U} : x.host = u → v ∈ here → v ≠ u →
      Left here x u (some ((x.without u).passTo v))

theorem Room.Left.fits {after : Option (Room U O)} (h : x.Left here u after) (hx : x.Fits here) :
    ∀ x', after = some x' → x'.Fits (here \ {u}) := by
  rintro x' rfl
  cases h with
  | stays hne => exact hx.without hne
  | passes _ hv hne => exact hx.succeed hv hne

theorem Room.Left.closed (h : x.Left here u none) : ∀ v ∈ here, v = u := by
  cases h with
  | closes hlast => exact hlast

end

/-! ## Moves between rooms -/

section
open Classical

/-- A user takes a seat in a room, the one that is open or a new one of the user's own. -/
noncomputable def Rooms.enter (rs : Rooms R U S O) (u : U) (r : R) (s : S) (x : Room U O)
    (hroom : rs.room r = some x ∨ rs.room r = none ∧ x.host = u ∧ x.muted = ∅)
    (hhome : ∀ p t, rs.seat u = some (p, t) → p = r)
    (hfree : ∀ v p, rs.seat v ≠ some (p, s)) : Rooms R U S O where
  seat := Function.update rs.seat u (some (r, s))
  room := Function.update rs.room r (some x)
  single v w p q t hv hw := by
    simp only [Function.update_apply] at hv hw
    split at hv <;> split at hw
    · next h₁ h₂ => rw [h₁, h₂]
    · cases hv
      exact absurd hw (hfree w q)
    · cases hw
      exact absurd hv (hfree v p)
    · exact rs.single v w p q t hv hw
  opened v p t hv := by
    simp only [Function.update_apply] at hv ⊢
    split at hv
    · cases hv
      exact ⟨x, if_pos rfl⟩
    · split
      · exact ⟨x, rfl⟩
      · exact rs.opened v p t hv
  fits p y hy := by
    simp only [Function.update_apply] at hy ⊢
    split at hy
    · next hp =>
      cases hy
      subst hp
      have hstay : rs.here p ⊆ {v | ∃ t, (if v = u then some (p, s) else rs.seat v) =
          some (p, t)} := by
        rintro v ⟨t, hv⟩
        by_cases hvu : v = u
        · exact ⟨s, if_pos hvu⟩
        · exact ⟨t, (if_neg hvu).trans hv⟩
      rcases hroom with hopen | ⟨-, hhost, hmuted⟩
      · exact (rs.fits p x hopen).mono hstay
      · exact ⟨⟨s, if_pos hhost⟩, fun v hv => by simp [hmuted] at hv⟩
    · next hp =>
      refine (rs.fits p y hy).mono ?_
      rintro v ⟨t, hv⟩
      have hvu : v ≠ u := by
        rintro rfl
        exact hp (hhome p t hv)
      exact ⟨t, (if_neg hvu).trans hv⟩

/-- A user gives up a seat, and the room is left behind. -/
noncomputable def Rooms.vacate (rs : Rooms R U S O) (u : U) (r : R) (s : S)
    (after : Option (Room U O)) (hu : rs.seat u = some (r, s))
    (hclosed : after = none → ∀ v ∈ rs.here r, v = u)
    (hfits : ∀ x, after = some x → x.Fits (rs.here r \ {u})) : Rooms R U S O where
  seat := Function.update rs.seat u none
  room := Function.update rs.room r after
  single v w p q t hv hw := by
    simp only [Function.update_apply] at hv hw
    split at hv <;> split at hw
    any_goals first | cases hv | cases hw
    exact rs.single v w p q t hv hw
  opened v p t hv := by
    simp only [Function.update_apply] at hv ⊢
    split at hv
    · cases hv
    next hne =>
    split
    · next hp =>
      subst hp
      cases after with
      | none => exact absurd (hclosed rfl v ⟨t, hv⟩) hne
      | some x => exact ⟨x, rfl⟩
    · exact rs.opened v p t hv
  fits p y hy := by
    simp only [Function.update_apply] at hy ⊢
    split at hy
    · next hp =>
      subst hp
      refine (hfits y hy).mono ?_
      rintro v ⟨⟨t, hv⟩, hvu⟩
      exact ⟨t, (if_neg hvu).trans hv⟩
    · next hp =>
      refine (rs.fits p y hy).mono ?_
      rintro v ⟨t, hv⟩
      have hvu : v ≠ u := by
        rintro rfl
        cases hu.symm.trans hv
        exact hp rfl
      exact ⟨t, (if_neg hvu).trans hv⟩

/-- A room changes, and everybody stays. -/
noncomputable def Rooms.reform (rs : Rooms R U S O) (r : R) (x : Room U O)
    (hx : x.Fits (rs.here r)) : Rooms R U S O where
  seat := rs.seat
  room := Function.update rs.room r (some x)
  single := rs.single
  opened v p t hv := by
    rw [Function.update_apply]
    split
    · exact ⟨x, rfl⟩
    · exact rs.opened v p t hv
  fits p y hy := by
    rw [Function.update_apply] at hy
    split at hy
    · next hp =>
      cases hy
      exact hp ▸ hx
    · exact rs.fits p y hy

end

section
variable {rs : Rooms R U S O} {u v : U} {r p : R} {s : S}
  {x : Room U O}

@[simp] theorem Rooms.enter_seat [DecidableEq U] {hroom hhome hfree} :
    (rs.enter u r s x hroom hhome hfree).seat v = if v = u then some (r, s) else rs.seat v := by
  by_cases h : v = u <;> simp [Rooms.enter, h]

@[simp] theorem Rooms.enter_room [DecidableEq R] {hroom hhome hfree} :
    (rs.enter u r s x hroom hhome hfree).room p = if p = r then some x else rs.room p := by
  by_cases h : p = r <;> simp [Rooms.enter, h]

@[simp] theorem Rooms.vacate_seat [DecidableEq U] {after hu hclosed hfits} :
    (rs.vacate u r s after hu hclosed hfits).seat v = if v = u then none else rs.seat v := by
  by_cases h : v = u <;> simp [Rooms.vacate, h]

@[simp] theorem Rooms.vacate_room [DecidableEq R] {after hu hclosed hfits} :
    (rs.vacate u r s after hu hclosed hfits).room p = if p = r then after else rs.room p := by
  by_cases h : p = r <;> simp [Rooms.vacate, h]

@[simp] theorem Rooms.reform_seat {hx} : (rs.reform r x hx).seat v = rs.seat v := rfl

@[simp] theorem Rooms.reform_room [DecidableEq R] {hx} :
    (rs.reform r x hx).room p = if p = r then some x else rs.room p := by
  by_cases h : p = r <;> simp [Rooms.reform, h]

end

/-! ## Steps -/

/-- What a session did: it entered a room, for which it had the key and the room had a place; its
user, the host, commanded the room or removed another user from it; or it left. -/
inductive Rooms.Step (P : Policy R K A O) (rs : Rooms R U S O) (s : S) :
    Command R U K A → Rooms R U S O → Prop
  | founded {u : U} {r : R} {key : K} {x : Room U O} (hroom : rs.room r = none)
      (hx : x.host = u ∧ x.muted = ∅) (hhome : ∀ p t, rs.seat u = some (p, t) → p = r)
      (hfree : ∀ v p, rs.seat v ≠ some (p, s)) : P.founds r key x.options →
      Step P rs s (.enter u r key) (rs.enter u r s x (.inr ⟨hroom, hx⟩) hhome hfree)
  | entered {u : U} {r : R} {key : K} {x : Room U O} (hroom : rs.room r = some x)
      (hhome : ∀ p t, rs.seat u = some (p, t) → p = r)
      (hfree : ∀ v p, rs.seat v ≠ some (p, s)) : P.opens x.options key →
      (u ∉ rs.here r → P.takes x.options (rs.here r).ncard) →
      Step P rs s (.enter u r key) (rs.enter u r s x (.inl hroom) hhome hfree)
  | commanded {command : Command R U K A} {r : R} {x x' : Room U O} (hroom : rs.room r = some x) :
      rs.seat x.host = some (r, s) → (h : x.Commanded P (rs.here r) command x') →
      Step P rs s command (rs.reform r x' (h.fits (rs.fits r x hroom)))
  | kicked {u : U} {r : R} {t : S} {x : Room U O} (hroom : rs.room r = some x) :
      rs.seat x.host = some (r, s) → (hu : rs.seat u = some (r, t)) → (hne : x.host ≠ u) →
      Step P rs s (.kick u) (rs.vacate u r t (some (x.without u)) hu nofun
        ((Room.Left.stays hne).fits (rs.fits r x hroom)))
  | left {u : U} {r : R} {x : Room U O} {after : Option (Room U O)} (hroom : rs.room r = some x)
      (hu : rs.seat u = some (r, s)) (h : x.Left (rs.here r) u after) :
      Step P rs s .leave (rs.vacate u r s after hu (fun hnone => (hnone ▸ h).closed)
        (h.fits (rs.fits r x hroom)))

/-- The runs of the rooms, each step with its session and what it asked for. -/
abbrev RoomsRun (P : Policy R K A O)
    (ts : List (Transition (Rooms R U S O) (S × Command R U K A))) (rs : Rooms R U S O) : Prop :=
  Run (· = Rooms.empty) (fun rs act rs' => rs.Step P act.1 act.2 rs') ts rs

/-- The room mutes the user. -/
def Rooms.Mutes (rs : Rooms R U S O) (r : R) (u : U) : Prop :=
  ∃ x, rs.room r = some x ∧ u ∈ x.muted

/-- The session is that of the room's host. -/
def Rooms.Hosts (rs : Rooms R U S O) (r : R) (s : S) : Prop :=
  ∃ x, rs.room r = some x ∧ rs.seat x.host = some (r, s)

/-- What lifts a mute: the host unmutes the user, makes it the host, or removes it; the user leaves;
or the host leaves and the user becomes the host. -/
inductive Rooms.Lifts (rs : Rooms R U S O) (r : R) (u : U) (s : S) :
    Command R U K A → Rooms R U S O → Prop
  | unmuted {rs' : Rooms R U S O} : rs.Hosts r s → Lifts rs r u s (.unmute u) rs'
  | promoted {rs' : Rooms R U S O} : rs.Hosts r s → Lifts rs r u s (.transfer u) rs'
  | kicked {rs' : Rooms R U S O} : rs.Hosts r s → Lifts rs r u s (.kick u) rs'
  | left {rs' : Rooms R U S O} : rs.seat u = some (r, s) → Lifts rs r u s .leave rs'
  | succeeds {rs' : Rooms R U S O} {x : Room U O} : rs.Hosts r s → rs'.room r = some x →
      x.host = u → Lifts rs r u s .leave rs'

/-- A mute that no longer holds was lifted. -/
theorem Rooms.Step.lifts {P : Policy R K A O} {rs rs' : Rooms R U S O} {r : R} {u : U} {s : S}
    {command : Command R U K A} (h : rs.Step P s command rs') (hmuted : rs.Mutes r u)
    (hlost : ¬ rs'.Mutes r u) : rs.Lifts r u s command rs' := by
  classical
  obtain ⟨x, hx, hu⟩ := hmuted
  have hstay : rs'.room r = some x → False := fun hx' => hlost ⟨x, hx', hu⟩
  obtain ⟨⟨t, hseat⟩, hne⟩ := (rs.fits r x hx).muted u hu
  cases h with
  | @founded v p _ _ hroom =>
    refine absurd ?_ hstay
    rw [Rooms.enter_room, if_neg, hx]
    rintro rfl
    cases hroom.symm.trans hx
  | @entered v p _ y hroom =>
    refine absurd ?_ hstay
    rw [Rooms.enter_room]
    split
    · next heq =>
      subst heq
      exact hroom.symm.trans hx
    · exact hx
  | @commanded _ p y y' hroom hhost hcommand =>
    by_cases heq : r = p
    · subst heq
      cases hroom.symm.trans hx
      have hhosts : rs.Hosts r s := ⟨x, hx, hhost⟩
      have hnot : u ∉ y'.muted := fun hu' => hlost ⟨y', by simp, hu'⟩
      cases hcommand with
      | mute => exact absurd (.inr hu) hnot
      | @unmute v =>
        obtain rfl : u = v := by_contra fun hne => hnot ⟨hu, hne⟩
        exact .unmuted hhosts
      | @transfer v =>
        obtain rfl : u = v := by_contra fun hne => hnot ⟨hu, hne⟩
        exact .promoted hhosts
      | amend => exact absurd hu hnot
    · exact absurd (by rw [Rooms.reform_room, if_neg heq, hx]) hstay
  | @kicked v p _ y hroom hhost =>
    by_cases heq : r = p
    · subst heq
      cases hroom.symm.trans hx
      obtain rfl : u = v := by_contra fun hne => hlost ⟨x.without v, by simp, hu, hne⟩
      exact .kicked ⟨x, hx, hhost⟩
    · exact absurd (by rw [Rooms.vacate_room, if_neg heq, hx]) hstay
  | @left v p y after hroom hv hleft =>
    by_cases heq : r = p
    · subst heq
      cases hroom.symm.trans hx
      by_cases huv : u = v
      · exact .left (huv ▸ hv)
      cases hleft with
      | closes hlast => exact absurd (hlast u ⟨t, hseat⟩) huv
      | stays => exact absurd ⟨x.without v, by simp, hu, huv⟩ hlost
      | @passes w hhost =>
        obtain rfl : u = w := by_contra fun hne =>
          hlost ⟨(x.without v).passTo w, by simp, ⟨hu, huv⟩, hne⟩
        exact .succeeds (x := (x.without v).passTo u) ⟨x, hx, hhost ▸ hv⟩ (by simp) rfl
    · exact absurd (by rw [Rooms.vacate_room, if_neg heq, hx]) hstay

end

end MctierSignaling
