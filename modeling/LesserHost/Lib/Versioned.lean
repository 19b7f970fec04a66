import LesserHost.Lib.Trace

set_option autoImplicit false

/-! # Rows with a version

A table whose rows carry a version. Every write of a row raises its version by one, so a row is known by
its key and its version: whoever finds the version he has read finds the row he has read, however many
writes lie between (`Known`). And the version counts the writes (`version_run`). -/

namespace Versioned

variable {S A K R : Type} (get : S → K → Option R) (version : R → Int)

/-- A row stays, or the next version takes its place. New rows may appear. -/
def Grows (s t : S) : Prop :=
  ∀ k row, get s k = some row →
    get t k = some row ∨ ∃ next, get t k = some next ∧ version next = version row + 1

/-- The row has been in the table: if its version is there, so is the row. -/
def Known (s : S) (k : K) (row : R) : Prop :=
  ∃ now, get s k = some now ∧ version row ≤ version now ∧ (version now = version row → now = row)

variable {get version} {s t : S} {k : K} {row : R}

theorem Known.of_get (h : get s k = some row) : Known get version s k row :=
  ⟨row, h, Int.le_refl _, fun _ => rfl⟩

theorem Known.later (h : Known get version s k row) (hst : Grows get version s t) :
    Known get version t k row := by
  obtain ⟨now, hnow, hle, heq⟩ := h
  rcases hst k now hnow with hsame | ⟨next, hnext, hversion⟩
  · exact ⟨now, hsame, hle, heq⟩
  · refine ⟨next, hnext, by omega, fun hv => ?_⟩
    omega

/-- A version stands for a row. -/
theorem Known.current {now : R} (h : Known get version s k row) (hnow : get s k = some now)
    (hversion : version now = version row) : get s k = some row := by
  obtain ⟨now', hnow', -, heq⟩ := h
  obtain rfl := Option.some.inj (hnow.symm.trans hnow')
  rw [hnow, heq hversion]

/-- How often `P` holds in a run. -/
def count (step : S → A → S) (P : S → A → Bool) : S → List A → Nat
  | _, [] => 0
  | s, a :: as => (if P s a then 1 else 0) + count step P (step s a) as

/-- **The version counts the writes.** -/
theorem version_run {step : S → A → S} {writes : S → A → Bool}
    (hstep : ∀ s a row, get s k = some row → ∃ next, get (step s a) k = some next ∧
      version next = version row + if writes s a then 1 else 0)
    (as : List A) (h : get s k = some row) :
    ∃ last, get (as.foldl step s) k = some last ∧
      version last = version row + count step writes s as := by
  induction as generalizing s row with
  | nil => exact ⟨row, h, by simp [count]⟩
  | cons a as ih =>
      obtain ⟨next, hnext, hversion⟩ := hstep s a row h
      obtain ⟨last, hlast, hcount⟩ := ih hnext
      refine ⟨last, hlast, ?_⟩
      rw [hcount, hversion, count]
      by_cases hw : writes s a = true
      · rw [if_pos hw, if_pos hw]
        omega
      · rw [if_neg hw, if_neg hw]
        omega

end Versioned
