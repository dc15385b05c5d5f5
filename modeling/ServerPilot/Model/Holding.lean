import Mathlib.Data.Finset.Image

/-!
# The life of a holding

What a lease is, apart from its tables: a set of cards held by one party, with an
epoch that names the set and the servers it made promises on. Cards and servers
are arbitrary types. A holding begins, loses cards, is resized, moves, and ends;
`Sound` and `Pledged` are what each of these must keep.
-/

namespace ServerPilot

structure Holding (γ σ : Type*) where
  /-- Claimed card by card, so that without a card it is nothing. -/
  direct : Bool
  /-- Promises CPU and memory on the servers of its cards. -/
  pledging : Bool
  live : Bool
  /-- Its end was written down. -/
  stamped : Bool
  epoch : ℕ
  cards : Finset γ
  pledged : Finset σ

namespace Holding

variable {γ σ : Type*} {h h' h'' : Holding γ σ}

/-- A holding ended exactly when that was written down; ended, it has no card, and live, if it
was claimed card by card, it has one. -/
structure Sound (h : Holding γ σ) : Prop where
  stamped : h.stamped = !h.live
  empty : h.live = false → h.cards = ∅
  held : h.live = true → h.direct = true → h.cards.Nonempty

/-- The promises stand on exactly the servers of the cards. -/
def Pledged [DecidableEq σ] (server : γ → σ) (h : Holding γ σ) : Prop :=
  h.live = true → h.pledging = true → h.pledged = h.cards.image server

/-- The party and its terms are as they were. -/
structure SameTerms (h h' : Holding γ σ) : Prop where
  direct : h'.direct = h.direct
  pledging : h'.pledging = h.pledging

theorem SameTerms.refl (h : Holding γ σ) : SameTerms h h := ⟨rfl, rfl⟩

theorem SameTerms.trans (a : SameTerms h h') (b : SameTerms h' h'') : SameTerms h h'' :=
  ⟨b.direct.trans a.direct, b.pledging.trans a.pledging⟩

/-- The holding ended. -/
structure Ended (h h' : Holding γ σ) : Prop where
  terms : SameTerms h h'
  live : h'.live = false
  stamped : h'.stamped = true
  epoch : h.epoch ≤ h'.epoch
  cards : h'.cards = ∅

/-- Some cards were taken, and some remain. -/
structure Taken (h h' : Holding γ σ) : Prop where
  terms : SameTerms h h'
  live : h'.live = h.live
  stamped : h'.stamped = h.stamped
  epoch : h.epoch < h'.epoch
  cards : h'.cards ⊂ h.cards
  some : h'.cards.Nonempty
  pledged : h'.pledged = h.pledged

/-- The holding is as it was, lost some cards, or ended. -/
inductive Shrinks (h h' : Holding γ σ) : Prop
  | same (eq : h' = h)
  | taken (t : Taken h h')
  | ended (e : Ended h h')

/-- The holding of these cards, its promises renewed, and its epoch raised. -/
structure Resized [DecidableEq σ] (server : γ → σ) (h h' : Holding γ σ) : Prop where
  terms : SameTerms h h'
  live : h.live = true ∧ h'.live = true
  stamped : h'.stamped = h.stamped
  epoch : h.epoch < h'.epoch
  some : h'.cards.Nonempty
  pledged : h'.pledged = h'.cards.image server

/-- The holding moved to other cards, as many as before, with its promises renewed: its epoch
stays. -/
structure Moved [DecidableEq σ] (server : γ → σ) (h h' : Holding γ σ) : Prop where
  terms : SameTerms h h'
  live : h.live = true ∧ h'.live = true
  stamped : h'.stamped = h.stamped
  epoch : h'.epoch = h.epoch
  some : h.cards.Nonempty → h'.cards.Nonempty
  pledged : h'.pledged = h'.cards.image server

/-- A server went away with its cards and the promises on it. -/
structure Uprooted [DecidableEq σ] (server : γ → σ) (e : σ) (h h' : Holding γ σ) : Prop where
  terms : SameTerms h h'
  live : h'.live = h.live
  stamped : h'.stamped = h.stamped
  epoch : h'.cards = h.cards ∧ h'.epoch = h.epoch ∨ h.epoch < h'.epoch
  some : h.cards.Nonempty → h'.cards.Nonempty
  cards : ∀ g, g ∈ h'.cards ↔ g ∈ h.cards ∧ server g ≠ e
  pledged : h'.pledged = h.pledged.erase e

/-- A holding that has just begun. -/
structure Begun [DecidableEq σ] (server : γ → σ) (h : Holding γ σ) : Prop where
  live : h.live = true
  stamped : h.stamped = false
  some : h.direct = true → h.cards.Nonempty
  pledged : h.pledging = true → h.pledged = h.cards.image server

/-! ## Losing cards -/

theorem Ended.sound (e : Ended h h') : Sound h' := by
  refine ⟨by rw [e.live, e.stamped]; rfl, fun _ => e.cards, fun hl => ?_⟩
  rw [e.live] at hl
  cases hl

theorem Taken.sound (t : Taken h h') (hs : Sound h) : Sound h' := by
  refine ⟨by rw [t.stamped, t.live, hs.stamped], fun hl => ?_, fun _ _ => t.some⟩
  -- an ended holding has no card to lose
  have hc := hs.empty (t.live ▸ hl)
  exact absurd (hc ▸ t.cards) (Finset.not_ssubset_empty _)

/-- **Losing cards keeps a holding sound.** -/
theorem Shrinks.sound (s : Shrinks h h') (hs : Sound h) : Sound h' := by
  cases s with
  | same eq => exact eq ▸ hs
  | taken t => exact t.sound hs
  | ended e => exact e.sound

theorem Shrinks.terms (s : Shrinks h h') : SameTerms h h' := by
  cases s with
  | same eq => exact eq ▸ .refl h
  | taken t => exact t.terms
  | ended e => exact e.terms

theorem Shrinks.subset (s : Shrinks h h') : h'.cards ⊆ h.cards := by
  cases s with
  | same eq => rw [eq]
  | taken t => exact t.cards.subset
  | ended e => rw [e.cards]; exact Finset.empty_subset _

theorem Shrinks.epoch_le (s : Shrinks h h') : h.epoch ≤ h'.epoch := by
  cases s with
  | same eq => rw [eq]
  | taken t => exact t.epoch.le
  | ended e => exact e.epoch

theorem Shrinks.refl (h : Holding γ σ) : Shrinks h h := .same rfl

theorem Shrinks.trans (a : Shrinks h h') (b : Shrinks h' h'') : Shrinks h h'' := by
  cases b with
  | same eq => exact eq ▸ a
  | ended e =>
    exact .ended ⟨a.terms.trans e.terms, e.live, e.stamped, a.epoch_le.trans e.epoch, e.cards⟩
  | taken t =>
    cases a with
    | same eq => exact .taken (eq ▸ t)
    | taken s =>
      exact .taken ⟨s.terms.trans t.terms, t.live.trans s.live, t.stamped.trans s.stamped,
        s.epoch.trans t.epoch, t.cards.trans s.cards, t.some, t.pledged.trans s.pledged⟩
    | ended e =>
      -- nothing is left to take
      exact absurd (e.cards ▸ t.cards) (Finset.not_ssubset_empty _)

/-- The holding is as it was, or ended. -/
def Closes (h h' : Holding γ σ) : Prop := h' = h ∨ Ended h h'

theorem Closes.refl (h : Holding γ σ) : Closes h h := Or.inl rfl

theorem Closes.trans (a : Closes h h') (b : Closes h' h'') : Closes h h'' := by
  rcases b with rfl | e
  · exact a
  · rcases a with rfl | d
    · exact Or.inr e
    · exact Or.inr ⟨d.terms.trans e.terms, e.live, e.stamped, d.epoch.trans e.epoch, e.cards⟩

theorem Closes.shrinks (a : Closes h h') : Shrinks h h' := by
  rcases a with rfl | e
  · exact .refl _
  · exact .ended e

/-- The holding with the cards in `s` taken. -/
def drop [DecidableEq γ] (s : Finset γ) (h : Holding γ σ) : Holding γ σ :=
  { h with epoch := h.epoch + 1, cards := h.cards \ s }

/-- The holding with its end written down, its cards aside. -/
def stamp (h : Holding γ σ) : Holding γ σ := { h with live := false, stamped := true }

/-- The holding, ended. -/
def close (h : Holding γ σ) : Holding γ σ := { h.stamp with cards := ∅ }

theorem close_ended (h : Holding γ σ) : Ended h h.close := ⟨⟨rfl, rfl⟩, rfl, rfl, le_rfl, rfl⟩

theorem drop_taken [DecidableEq γ] {s : Finset γ} (hs : ∃ g ∈ h.cards, g ∈ s)
    (hr : ∃ g ∈ h.cards, g ∉ s) : Taken h (h.drop s) := by
  obtain ⟨g, hg, hgs⟩ := hs
  obtain ⟨k, hk, hks⟩ := hr
  refine ⟨⟨rfl, rfl⟩, rfl, rfl, Nat.lt_succ_self _, ?_, ⟨k, Finset.mem_sdiff.2 ⟨hk, hks⟩⟩, rfl⟩
  refine Finset.ssubset_iff_subset_ne.2 ⟨Finset.sdiff_subset, fun he => ?_⟩
  have hd : g ∈ h.cards \ s := by
    rw [show h.cards \ s = h.cards from he]
    exact hg
  exact (Finset.mem_sdiff.1 hd).2 hgs

theorem drop_stamp_ended [DecidableEq γ] {s : Finset γ} (hs : ∀ g ∈ h.cards, g ∈ s) :
    Ended h (h.drop s).stamp :=
  ⟨⟨rfl, rfl⟩, rfl, rfl, Nat.le_succ _, Finset.sdiff_eq_empty_iff_subset.2 hs⟩

/-- The holding with the cards in `s` taken, and ended when they were all it had. -/
def lose [DecidableEq γ] (s : Finset γ) (h : Holding γ σ) : Holding γ σ :=
  if h.cards ⊆ s then (h.drop s).stamp else h.drop s

theorem lose_cards [DecidableEq γ] (s : Finset γ) (h : Holding γ σ) :
    (h.lose s).cards = h.cards \ s := by
  unfold lose
  split <;> rfl

theorem lose_shrinks [DecidableEq γ] {s : Finset γ} (hs : h.cards = ∅ ∨ ∃ g ∈ h.cards, g ∈ s) :
    Shrinks h (h.lose s) := by
  unfold lose
  split
  · rename_i hc
    exact .ended (drop_stamp_ended fun _ hg => hc hg)
  · rename_i hc
    obtain ⟨g, hg, hgs⟩ := Finset.not_subset.1 hc
    rcases hs with he | hs
    · exact absurd hg (he ▸ Finset.notMem_empty g)
    · exact .taken (drop_taken hs ⟨g, hg, hgs⟩)

/-! ## Growing, moving and beginning -/

section

variable [DecidableEq σ] {server : γ → σ} {e : σ}

theorem Resized.sound (r : Resized server h h') (hs : Sound h) : Sound h' := by
  refine ⟨by rw [r.stamped, hs.stamped, r.live.1, r.live.2], fun hl => ?_, fun _ _ => r.some⟩
  rw [r.live.2] at hl
  cases hl

theorem Moved.sound (m : Moved server h h') (hs : Sound h) : Sound h' := by
  refine ⟨by rw [m.stamped, hs.stamped, m.live.1, m.live.2], fun hl => ?_, fun _ hd => ?_⟩
  · rw [m.live.2] at hl
    cases hl
  · exact m.some (hs.held m.live.1 (m.terms.direct ▸ hd))

theorem Begun.sound (k : Begun server h) : Sound h := by
  refine ⟨by rw [k.live, k.stamped]; rfl, fun hl => ?_, fun _ hd => k.some hd⟩
  rw [k.live] at hl
  cases hl

/-- The holding without what hung on server `e`. -/
def purge (server : γ → σ) (e : σ) (h : Holding γ σ) : Holding γ σ :=
  { h with cards := h.cards.filter fun g => server g ≠ e, pledged := h.pledged.erase e }

theorem Uprooted.sound (u : Uprooted server e h h') (hs : Sound h) : Sound h' := by
  refine ⟨by rw [u.stamped, u.live, hs.stamped], fun hl => ?_, fun hl hd => ?_⟩
  · have hc := hs.empty (u.live ▸ hl)
    exact Finset.eq_empty_of_forall_notMem fun g hg => by
      simpa [hc] using ((u.cards g).1 hg).1
  · exact u.some (hs.held (u.live ▸ hl) (u.terms.direct ▸ hd))

end

/-! ## Promises -/

/-- Taking the cards in `s` leaves no card, or a card on every server there was one on. -/
def Leaves [DecidableEq γ] [DecidableEq σ] (server : γ → σ) (h : Holding γ σ) (s : Finset γ) :
    Prop :=
  h.cards ⊆ s ∨ (h.cards \ s).image server = h.cards.image server

instance [DecidableEq γ] [DecidableEq σ] (server : γ → σ) (h : Holding γ σ) (s : Finset γ) :
    Decidable (h.Leaves server s) := inferInstanceAs (Decidable (_ ∨ _))

section

variable [DecidableEq σ] {server server' : γ → σ} {e : σ}

theorem Pledged.congr (hp : h.Pledged server) (hs : ∀ g ∈ h.cards, server' g = server g) :
    h.Pledged server' := by
  intro hl hd
  rw [hp hl hd]
  exact Finset.image_congr fun g hg => (hs g hg).symm

theorem Closes.pledged (c : Closes h h') (hp : h.Pledged server) : h'.Pledged server := by
  rcases c with rfl | e
  · exact hp
  · intro hl
    rw [e.live] at hl
    cases hl

theorem Resized.keepsWord (r : Resized server h h') : h'.Pledged server := fun _ _ => r.pledged

theorem Moved.keepsWord (m : Moved server h h') : h'.Pledged server := fun _ _ => m.pledged

theorem Begun.keepsWord (k : Begun server h) : h.Pledged server := fun _ hd => k.pledged hd

/-- The promises on a server go with its cards. -/
theorem Uprooted.keepsWord (u : Uprooted server e h h') (hp : h.Pledged server) :
    h'.Pledged server := by
  intro hl hd
  rw [u.pledged, hp (u.live ▸ hl) (u.terms.pledging ▸ hd)]
  ext s
  simp only [Finset.mem_erase, Finset.mem_image, u.cards]
  constructor
  · rintro ⟨hne, g, hg, rfl⟩
    exact ⟨g, ⟨hg, hne⟩, rfl⟩
  · rintro ⟨g, ⟨hg, hne⟩, rfl⟩
    exact ⟨hne, g, hg, rfl⟩

/-- **Taking cards keeps the promises right** as long as no server is left with promises alone. -/
theorem lose_keepsWord [DecidableEq γ] {s : Finset γ} (hp : h.Pledged server)
    (hs : h.live = true → h.pledging = true → h.Leaves server s) : (h.lose s).Pledged server := by
  unfold lose
  split
  · intro hl
    cases hl
  · rename_i hc
    intro hl hd
    have himage := (hs hl hd).resolve_left hc
    exact (hp hl hd).trans himage.symm

end

/-! ## Epochs -/

/-- As long as the holding lives, an epoch that stood still means cards that stood still. -/
structure Tracks (h h' : Holding γ σ) : Prop where
  epoch : h.epoch ≤ h'.epoch
  live : h'.live = true → h.live = true
  cards : h'.live = true → h'.cards = h.cards ∨ h.epoch < h'.epoch

theorem Tracks.refl (h : Holding γ σ) : Tracks h h := ⟨le_rfl, id, fun _ => Or.inl rfl⟩

theorem Tracks.trans (a : Tracks h h') (b : Tracks h' h'') : Tracks h h'' := by
  refine ⟨a.epoch.trans b.epoch, fun hl => a.live (b.live hl), fun hl => ?_⟩
  rcases b.cards hl with hb | hb
  · rcases a.cards (b.live hl) with ha | ha
    · exact Or.inl (hb.trans ha)
    · exact Or.inr (ha.trans_le b.epoch)
  · exact Or.inr (a.epoch.trans_lt hb)

theorem Shrinks.tracks (s : Shrinks h h') : Tracks h h' := by
  cases s with
  | same eq => exact eq ▸ .refl h
  | taken t => exact ⟨t.epoch.le, fun hl => t.live ▸ hl, fun _ => Or.inr t.epoch⟩
  | ended e =>
    have hl : h'.live ≠ true := by simp [e.live]
    exact ⟨e.epoch, fun h => absurd h hl, fun h => absurd h hl⟩

section

variable [DecidableEq σ] {server : γ → σ} {e : σ}

theorem Resized.tracks (r : Resized server h h') : Tracks h h' :=
  ⟨r.epoch.le, fun _ => r.live.1, fun _ => Or.inr r.epoch⟩

/-- A move tracks its cards only if it leaves them. -/
theorem Moved.tracks (m : Moved server h h') (hc : h'.cards = h.cards) : Tracks h h' :=
  ⟨m.epoch.ge, fun _ => m.live.1, fun _ => Or.inl hc⟩

theorem Uprooted.tracks (u : Uprooted server e h h') : Tracks h h' := by
  refine ⟨?_, fun hl => u.live ▸ hl, fun _ => ?_⟩
  · rcases u.epoch with ⟨-, he⟩ | he
    · exact he.ge
    · exact he.le
  · rcases u.epoch with ⟨hc, -⟩ | he
    · exact Or.inl hc
    · exact Or.inr he

end

end Holding

end ServerPilot
