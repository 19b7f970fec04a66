import Mathlib.Logic.Basic

set_option autoImplicit false

/-! # Tokens that are kept under their hashes

A `Book` is what a service that stores sessions under the hashes of their tokens holds at some time,
together with what has become of every token it has drawn. It is `Sound` if each row belongs to a
token that was drawn and each token that was handed out has its row until it is revoked or expires.
Three kinds of changes keep it so: rows that fade (`Sound.fade`), a token that is drawn
(`Sound.draw`), and any number of both. In a sound book the rows decide which tokens are good
(`Sound.row_iff`), as far as no two tokens have the same hash. -/

namespace Tokens

/-- Tokens `T` with their keys `K`; times are integers. -/
structure Book (T K : Type) where
  /-- the expiry of the row under a key -/
  rows : K → Option Int
  /-- the tokens handed out, each with its expiry -/
  issued : List (T × Int)
  /-- the tokens drawn that nobody was given -/
  hidden : List T
  revoked : List K
  now : Int

namespace Book

variable {T K : Type} {hash : T → K} {b b' : Book T K} {t : T} {e : Int}

def Drawn (b : Book T K) (t : T) : Prop := (∃ e, (t, e) ∈ b.issued) ∨ t ∈ b.hidden

/-- Handed out, not revoked, and not expired. -/
def Good (hash : T → K) (b : Book T K) (t : T) (e : Int) : Prop :=
  (t, e) ∈ b.issued ∧ hash t ∉ b.revoked ∧ ¬ e < b.now

structure Sound (hash : T → K) (b : Book T K) : Prop where
  rows : ∀ k e, b.rows k = some e →
    k ∉ b.revoked ∧ ∃ t, k = hash t ∧ ((t, e) ∈ b.issued ∨ t ∈ b.hidden)
  issued : ∀ t e, (t, e) ∈ b.issued →
    b.rows (hash t) = some e ∨ hash t ∈ b.revoked ∨ e < b.now
  revoked : ∀ k ∈ b.revoked, ∃ t, k = hash t ∧ b.Drawn t

/-- The keys of a sound book are hashes of tokens it has drawn. -/
theorem Sound.drawn_of_row (h : b.Sound hash) {k : K} (hk : b.rows k = some e) :
    ∃ t, k = hash t ∧ b.Drawn t := by
  obtain ⟨-, t, ht, hissued | hhidden⟩ := h.rows k e hk
  · exact ⟨t, ht, Or.inl ⟨e, hissued⟩⟩
  · exact ⟨t, ht, Or.inr hhidden⟩

/-- An unexpired row under the hash of a token is that of a good token. -/
theorem Sound.row_iff (h : b.Sound hash) (ht : t ∉ b.hidden)
    (hcoll : ∀ u, b.Drawn u → hash u = hash t → u = t) :
    b.rows (hash t) = some e ∧ ¬ e < b.now ↔ b.Good hash t e := by
  constructor
  · rintro ⟨hrow, hlive⟩
    obtain ⟨hrevoked, u, hu, hissued | hhidden⟩ := h.rows _ _ hrow
    · have heq : u = t := hcoll u (Or.inl ⟨e, hissued⟩) hu.symm
      exact ⟨heq ▸ hissued, hrevoked, hlive⟩
    · have heq : u = t := hcoll u (Or.inr hhidden) hu.symm
      exact absurd (heq ▸ hhidden) ht
  · rintro ⟨hissued, hrevoked, hlive⟩
    rcases h.issued t e hissued with hrow | hrev | hexpired
    · exact ⟨hrow, hlive⟩
    · exact absurd hrev hrevoked
    · exact absurd hexpired hlive

/-! ## Changes -/

/-- Time passes, and rows vanish that are revoked or have expired. -/
structure Fades (b b' : Book T K) : Prop where
  now : b.now ≤ b'.now
  issued : b'.issued = b.issued
  hidden : b'.hidden = b.hidden
  rows : ∀ k, b'.rows k = b.rows k ∨
    (b'.rows k = none ∧ (k ∈ b'.revoked ∨ ∀ e, b.rows k = some e → e < b'.now))
  kept : ∀ k ∈ b.revoked, k ∈ b'.revoked
  revoked : ∀ k ∈ b'.revoked, k ∈ b.revoked ∨ (b'.rows k = none ∧ ∃ e, b.rows k = some e)

/-- Rows that vanish without being revoked have expired. -/
theorem Fades.of_rows (hnow : b.now ≤ b'.now) (hissued : b'.issued = b.issued)
    (hhidden : b'.hidden = b.hidden) (hrevoked : b'.revoked = b.revoked)
    (hrows : ∀ k, b'.rows k = b.rows k ∨
      (b'.rows k = none ∧ ∀ e, b.rows k = some e → e < b'.now)) : b.Fades b' where
  now := hnow
  issued := hissued
  hidden := hhidden
  rows k := (hrows k).imp_right fun h => ⟨h.1, Or.inr h.2⟩
  kept k hk := by rw [hrevoked]; exact hk
  revoked k hk := Or.inl (by rw [← hrevoked]; exact hk)

theorem Sound.fade (h : b.Sound hash) (hf : b.Fades b') : b'.Sound hash where
  rows k e hk := by
    rcases hf.rows k with hsame | ⟨hnone, -⟩
    · rw [hsame] at hk
      obtain ⟨hrevoked, t, ht, hdrawn⟩ := h.rows k e hk
      refine ⟨fun hk' => ?_, t, ht, by rw [hf.issued, hf.hidden]; exact hdrawn⟩
      rcases hf.revoked k hk' with hold | ⟨hnone, -⟩
      · exact hrevoked hold
      · rw [hsame, hk] at hnone
        cases hnone
    · rw [hnone] at hk
      cases hk
  issued t e ht := by
    rw [hf.issued] at ht
    rcases h.issued t e ht with hrow | hrevoked | hexpired
    · rcases hf.rows (hash t) with hsame | ⟨-, hrevoked | hexpired⟩
      · exact Or.inl (hsame.trans hrow)
      · exact Or.inr (Or.inl hrevoked)
      · exact Or.inr (Or.inr (hexpired e hrow))
    · exact Or.inr (Or.inl (hf.kept _ hrevoked))
    · exact Or.inr (Or.inr (Int.lt_of_lt_of_le hexpired hf.now))
  revoked k hk := by
    have hdrawn : ∀ t, b.Drawn t → b'.Drawn t := fun t ht => by
      rw [Drawn, hf.issued, hf.hidden]
      exact ht
    rcases hf.revoked k hk with hold | ⟨-, e, hrow⟩
    · obtain ⟨t, ht, hd⟩ := h.revoked k hold
      exact ⟨t, ht, hdrawn t hd⟩
    · obtain ⟨t, ht, hd⟩ := h.drawn_of_row hrow
      exact ⟨t, ht, hdrawn t hd⟩

/-- A token is drawn. It is handed out once its row is there, or it stays hidden. -/
structure Draws (hash : T → K) (t : T) (e : Int) (b b' : Book T K) : Prop where
  now : b.now ≤ b'.now
  revoked : b'.revoked = b.revoked
  rows : ∀ k, b'.rows k = b.rows k ∨ (k = hash t ∧ b'.rows k = some e)
  log : (b'.issued = b.issued ∧ b'.hidden = t :: b.hidden) ∨
    (b'.issued = (t, e) :: b.issued ∧ b'.hidden = b.hidden ∧ b'.rows (hash t) = some e)

theorem Sound.draw (h : b.Sound hash) (hd : Draws hash t e b b')
    (hfresh : ∀ u, b.Drawn u → hash u ≠ hash t) : b'.Sound hash := by
  have hold : ∀ u x, (u, x) ∈ b.issued → (u, x) ∈ b'.issued := fun u x hu => by
    rcases hd.log with ⟨hi, -⟩ | ⟨hi, -, -⟩
    · rw [hi]; exact hu
    · rw [hi]; exact List.mem_cons_of_mem _ hu
  have hhid : ∀ u, u ∈ b.hidden → u ∈ b'.hidden := fun u hu => by
    rcases hd.log with ⟨-, hh⟩ | ⟨-, hh, -⟩
    · rw [hh]; exact List.mem_cons_of_mem _ hu
    · rw [hh]; exact hu
  have hdrawn : ∀ u, b.Drawn u → b'.Drawn u := fun u hu =>
    hu.imp (fun ⟨x, hx⟩ => ⟨x, hold u x hx⟩) (hhid u)
  have hnew : (t, e) ∈ b'.issued ∨ t ∈ b'.hidden := by
    rcases hd.log with ⟨-, hh⟩ | ⟨hi, -, -⟩
    · rw [hh]; exact Or.inr List.mem_cons_self
    · rw [hi]; exact Or.inl List.mem_cons_self
  refine ⟨fun k x hk => ?_, fun u x hu => ?_, fun k hk => ?_⟩
  · rw [hd.revoked]
    rcases hd.rows k with hsame | ⟨rfl, hput⟩
    · rw [hsame] at hk
      obtain ⟨hrevoked, u, hu, hu'⟩ := h.rows k x hk
      exact ⟨hrevoked, u, hu, hu'.imp (hold u x) (hhid u)⟩
    · rw [hput] at hk
      cases hk
      refine ⟨fun hrevoked => ?_, t, rfl, hnew⟩
      obtain ⟨u, hu, hdu⟩ := h.revoked _ hrevoked
      exact hfresh u hdu hu.symm
  · have hcase : (u, x) ∈ b.issued ∨ (u = t ∧ x = e ∧ b'.rows (hash t) = some e) := by
      rcases hd.log with ⟨hi, -⟩ | ⟨hi, -, hrow⟩
      · rw [hi] at hu
        exact Or.inl hu
      · rw [hi, List.mem_cons] at hu
        rcases hu with heq | hu
        · cases heq
          exact Or.inr ⟨rfl, rfl, hrow⟩
        · exact Or.inl hu
    rcases hcase with hu | ⟨rfl, rfl, hrow⟩
    · rcases h.issued u x hu with hrow | hrevoked | hexpired
      · rcases hd.rows (hash u) with hsame | ⟨hkey, -⟩
        · exact Or.inl (hsame.trans hrow)
        · exact absurd hkey (hfresh u (Or.inl ⟨x, hu⟩))
      · exact Or.inr (Or.inl (hd.revoked ▸ hrevoked))
      · exact Or.inr (Or.inr (Int.lt_of_lt_of_le hexpired hd.now))
    · exact Or.inl hrow
  · rw [hd.revoked] at hk
    obtain ⟨u, hu, hdu⟩ := h.revoked k hk
    exact ⟨u, hu, hdrawn u hdu⟩

end Book

end Tokens
