import Latchkey.Proofs.Coherence

/-!
# Links with two channels

A plain and a sealed channel of one link are on different characteristics, so what is sent and what arrives
over the one can be told from what belongs to the other.
-/

namespace Latchkey

section Tags

variable {κ α β : Type} [DecidableEq κ]

/-- The items with this tag, in order. -/
def under (tag : κ) (items : List (κ × α)) : List α :=
  items.filterMap fun item => if item.1 = tag then some item.2 else none

theorem under_cons (tag : κ) (item : κ × α) (items : List (κ × α)) :
    under tag (item :: items) = (if item.1 = tag then [item.2] else []) ++ under tag items := by
  by_cases h : item.1 = tag
  · simp [under, h]
  · simp [under, h]

theorem under_append (tag : κ) (items later : List (κ × α)) :
    under tag (items ++ later) = under tag items ++ under tag later := List.filterMap_append ..

theorem under_map_mk (tag other : κ) (values : List α) :
    under tag (values.map (other, ·)) = if other = tag then values else [] := by
  induction values with
  | nil => simp [under]
  | cons value values ih =>
    rw [List.map_cons, under_cons, ih]
    split <;> rfl

theorem under_flatMap {pieces : α → List β} (tag : κ) (items : List (κ × α)) :
    under tag (items.flatMap fun item => (pieces item.2).map (item.1, ·)) = (under tag items).flatMap pieces := by
  induction items with
  | nil => rfl
  | cons item items ih =>
    rw [List.flatMap_cons, under_append, under_map_mk, under_cons, List.flatMap_append, ih]
    split
    · rw [List.flatMap_singleton]
    · rfl

theorem under_map {tags : κ → β} [DecidableEq β] (htags : ∀ k l, tags k = tags l → k = l) (tag : κ)
    (items : List (κ × α)) : under (tags tag) (items.map fun item => (tags item.1, item.2)) = under tag items := by
  induction items with
  | nil => rfl
  | cons item items ih =>
    rw [List.map_cons, under_cons, under_cons, ih]
    by_cases h : item.1 = tag
    · rw [if_pos h, if_pos (congrArg tags h)]
    · rw [if_neg h, if_neg fun hsame => h (htags _ _ hsame)]

theorem under_mapValues (tag : κ) (change : α → κ → β) (items : List (κ × α)) :
    under tag (items.map fun item => (item.1, change item.2 item.1)) =
      (under tag items).map fun value => change value tag := by
  induction items with
  | nil => rfl
  | cons item items ih =>
    obtain ⟨other, value⟩ := item
    rw [List.map_cons, under_cons, under_cons, ih, List.map_append]
    by_cases h : other = tag
    · subst h
      simp
    · simp [h]

theorem under_filter (tag : κ) (keep : α → κ → Bool) (items : List (κ × α)) :
    under tag (items.filter fun item => keep item.2 item.1) =
      (under tag items).filter fun value => keep value tag := by
  induction items with
  | nil => rfl
  | cons item items ih =>
    obtain ⟨other, value⟩ := item
    rw [List.filter_cons, under_cons, List.filter_append, ← ih]
    by_cases h : other = tag
    · subst h
      cases hkeep : keep value other
      all_goals simp [under_cons, hkeep]
    · cases hkeep : keep value other
      all_goals simp [under_cons, h]

end Tags

/-- A plain and a sealed channel of one link. -/
structure Duplex where
  link : Nat
  characteristic : ChannelKind → Uuid
  family : ChannelKind → Family
  authorization : UInt32
  shared : SharedKey
  apart : characteristic .general ≠ characteristic .user

namespace Duplex

def codec (d : Duplex) : ChannelKind → Codec
  | .general => .plain
  | .user => .sealed d.authorization d.shared

def channel (d : Duplex) (kind : ChannelKind) : Channel :=
  ⟨d.link, d.characteristic kind, d.family kind, d.codec kind⟩

theorem characteristic_injective (d : Duplex) (kind other : ChannelKind)
    (h : d.characteristic kind = d.characteristic other) : kind = other := by
  cases kind with
  | general =>
    cases other with
    | general => rfl
    | user => exact absurd h d.apart
  | user =>
    cases other with
    | general => exact absurd h.symm d.apart
    | user => rfl

/-- The scene in which the plain channel and then the sealed one have just been opened. -/
def opened (d : Duplex) (s : Scene) : Scene := (d.channel .user).opened ((d.channel .general).opened s)

private theorem open_opened (d : Duplex) {s : Scene} (hlink : d.link < s.links.length) (kind : ChannelKind) :
    (d.channel kind).Open (d.opened s) := by
  have hgeneral : (d.channel .general).Open ((d.channel .general).opened s) := Channel.open_opened hlink
  cases kind with
  | general => exact hgeneral.opened d.apart
  | user =>
    have hlength : ((d.channel .general).opened s).links.length = s.links.length := Scene.length_putLink ..
    apply Channel.open_opened
    rw [hlength]
    exact hlink

/-- The channels of a client with authorization 7 to a lock. -/
def ofLock : Duplex where
  link := 0
  characteristic := Profile.smartLock.characteristic
  family _ := .smartLock
  authorization := 7
  shared := ⟨⟨List.replicate 32 3, rfl⟩⟩
  apart := Profile.general_ne_user _ List.mem_cons_self _ List.mem_cons_self

/-- The channels to a lock that nobody else uses have just been opened. -/
def atLock : Scene :=
  ofLock.opened { links := [{ exposed := [Profile.smartLock.general, Profile.smartLock.user] }] }

theorem open_atLock (kind : ChannelKind) : (ofLock.channel kind).Open atLock :=
  ofLock.open_opened (by decide) kind

/-- A plain and a sealed channel that are opened on one link one after the other are such a pair, and both are
open. -/
theorem exists_of_attach {link : Nat} {authorization : UInt32} {shared : SharedKey} {general user : Channel}
    {s s' s'' : Scene} (hgeneral : Channel.attach link .plain s = (.ok general, s'))
    (huser : Channel.attach link (.sealed authorization shared) s' = (.ok user, s'')) :
    ∃ d : Duplex, d.channel .general = general ∧ d.channel .user = user ∧ d.authorization = authorization ∧
      d.shared = shared ∧ ∀ kind, (d.channel kind).Open s'' := by
  rcases Channel.attach_cases link .plain s with ⟨e, hattach⟩ | ⟨ch, hattach, rfl, hplain, hfound, hlink⟩
  · rw [hattach] at hgeneral
    cases hgeneral
  · rw [hattach] at hgeneral
    cases hgeneral
    rcases Channel.attach_cases general.link (.sealed authorization shared) (general.opened s) with
      ⟨e, hattach'⟩ | ⟨ch', hattach', hsame, hsealed, hfound', -⟩
    · rw [hattach'] at huser
      cases huser
    · rw [hattach'] at huser
      cases huser
      have hapart : general.characteristic ≠ user.characteristic :=
        hfound.standard.ne hfound'.standard hplain hsealed
      obtain ⟨link, characteristic, family, _⟩ := general
      obtain ⟨_, characteristic', family', _⟩ := user
      cases hsame
      cases hplain
      cases hsealed
      let d : Duplex := ⟨link, fun | .general => characteristic | .user => characteristic',
        fun | .general => family | .user => family', authorization, shared, hapart⟩
      exact ⟨d, rfl, rfl, rfl, rfl, d.open_opened hlink⟩

end Duplex

end Latchkey
