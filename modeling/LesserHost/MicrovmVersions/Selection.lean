import Mathlib
import LesserHost.Go.Bytes
import LesserHost.Go.Text

set_option autoImplicit false

/-! # Versions that may be deleted

`pruner.go` keeps the newest versions of an image and selects the others for deletion. Versions are kept by
their name, so the place of a version among the newest is that of the newest one with its name. -/

namespace LesserHost.MicrovmVersions

open LesserHost.Go

structure Version where
  ImageVersion : String
  CreatedAt : Time
  State : String
  Status : String
  deriving DecidableEq

/-! ## The newest of a sorted list -/

section Newest

variable {α κ ν : Type} [LinearOrder κ] {key : α → κ} {name : α → ν} {l : List α} {k : Nat} {a : ν}

/-- A name is among the first `k` of a list, newest first, when one with this name has fewer than `k` newer
ones; `key` decides the name. -/
theorem mem_take_names (hname : ∀ v w, key v = key w → name v = name w)
    (hsorted : l.Pairwise fun v w => key w ≤ key v) :
    a ∈ (l.take k).map name ↔ ∃ w ∈ l, name w = a ∧ l.countP (fun v => key w < key v) < k := by
  induction l generalizing k with
  | nil => simp
  | cons v rest ih =>
      obtain ⟨hhead, hrest⟩ := List.pairwise_cons.1 hsorted
      cases k with
      | zero => simp
      | succ k =>
          have hself : (v :: rest).countP (fun x => key v < key x) = 0 := by
            refine List.countP_eq_zero.2 fun x hx => ?_
            rw [decide_eq_true_eq, not_lt]
            rcases List.mem_cons.1 hx with rfl | hx
            · exact le_rfl
            · exact hhead x hx
          rw [List.take_succ_cons, List.map_cons, List.mem_cons, ih hrest]
          constructor
          · rintro (rfl | ⟨w, hw, hwa, hcount⟩)
            · exact ⟨v, List.mem_cons_self, rfl, hself.trans_lt (Nat.succ_pos k)⟩
            · refine ⟨w, List.mem_cons_of_mem v hw, hwa, ?_⟩
              rw [List.countP_cons]
              split_ifs <;> omega
          · rintro ⟨w, hw, hwa, hcount⟩
            rcases List.mem_cons.1 hw with rfl | hw
            · exact .inl hwa.symm
            · rcases (hhead w hw).lt_or_eq with hlt | heq
              · rw [List.countP_cons, if_pos (decide_eq_true hlt)] at hcount
                exact .inr ⟨w, hw, hwa, Nat.lt_of_succ_lt_succ hcount⟩
              · exact .inl (hwa.symm.trans (hname w v heq))

end Newest

/-! ## The order of versions -/

/-- The number behind the `v`; a text that is none counts as 0. -/
def versionNumber (v : String) : Int := (Atoi (bytes (TrimPrefix (ToLower v) "v"))).getD 0

/-- The order of the sort: newest first, then by number, then by text. -/
def newer (v w : Version) : Bool :=
  if v.CreatedAt.nanos ≠ w.CreatedAt.nanos then v.CreatedAt.After w.CreatedAt
  else if versionNumber v.ImageVersion ≠ versionNumber w.ImageVersion then
    decide (versionNumber w.ImageVersion < versionNumber v.ImageVersion)
  else decide (w.ImageVersion < v.ImageVersion)

/-- What the order looks at. -/
def Version.key (v : Version) : Int ×ₗ Int ×ₗ String :=
  toLex (v.CreatedAt.nanos, toLex (versionNumber v.ImageVersion, v.ImageVersion))

theorem newer_iff {v w : Version} : newer v w = true ↔ w.key < v.key := by
  rw [newer, Version.key, Version.key, Prod.Lex.toLex_lt_toLex, Prod.Lex.toLex_lt_toLex]
  split_ifs with htime hnumber
  · rw [Time.After, decide_eq_true_eq]
    exact ⟨.inl, fun h => h.resolve_right fun h' => htime h'.1.symm⟩
  · rw [not_ne_iff] at htime
    rw [decide_eq_true_eq, htime]
    simp only [lt_self_iff_false, true_and, false_or]
    exact ⟨.inl, fun h => h.resolve_right fun h' => hnumber h'.1.symm⟩
  · rw [not_ne_iff] at htime hnumber
    rw [decide_eq_true_eq, htime, hnumber]
    simp only [lt_self_iff_false, true_and, false_or]

theorem name_of_key {v w : Version} (h : v.key = w.key) : v.ImageVersion = w.ImageVersion :=
  congrArg (fun k => (ofLex (ofLex k).2).2) h

/-- `sort.SliceStable` -/
def sortNewest (versions : List Version) : List Version := versions.mergeSort fun v w => !newer w v

theorem sortNewest_perm (versions : List Version) : (sortNewest versions).Perm versions :=
  List.mergeSort_perm versions _

theorem sortNewest_sorted (versions : List Version) :
    (sortNewest versions).Pairwise fun v w => w.key ≤ v.key := by
  have hle : ∀ v w : Version, (!newer w v) = true ↔ w.key ≤ v.key := by
    intro v w
    rw [Bool.not_eq_true', ← Bool.not_eq_true, newer_iff, not_lt]
  refine (List.pairwise_mergeSort ?_ ?_ versions).imp fun h => (hle _ _).1 h
  · intro u v w huv hvw
    exact (hle u w).2 (((hle v w).1 hvw).trans ((hle u v).1 huv))
  · intro v w
    rw [Bool.or_eq_true, hle, hle]
    exact le_total _ _

/-! ## The selection -/

def nonDeletableState (state : String) : Bool :=
  ["PENDING", "IN_PROGRESS", "DELETING", "DELETED"].contains state

def deletableState (state : String) : Bool := ["SUCCESSFUL", "FAILED", "DELETE_FAILED"].contains state

/-- The names of the newest versions, `kept` of them taken already. -/
def keepNames (keepN : Int) : Nat → List Version → List String
  | _, [] => []
  | kept, v :: rest =>
      if (kept : Int) < keepN then
        if v.State = "DELETING" then keepNames keepN kept rest
        else v.ImageVersion :: keepNames keepN (kept + 1) rest
      else []

def selectDeletable (keepN : Int) (versions : List Version) (activeVersion : String) : List Version :=
  let ordered := sortNewest (versions.filter fun v => v.State ≠ "DELETED")
  let keep := keepNames keepN 0 ordered ++ if activeVersion ≠ "" then [activeVersion] else []
  ordered.reverse.filter fun v =>
    !keep.contains v.ImageVersion && !(nonDeletableState v.State || !deletableState v.State)

/-! ## What is selected -/

/-- Neither deleted nor being deleted. -/
def Version.live (v : Version) : Bool := v.State ≠ "DELETED" && v.State ≠ "DELETING"

def newerLive (versions : List Version) (w : Version) : Nat :=
  (versions.filter Version.live).countP fun v => newer v w

/-- A live version of this name has fewer than `keepN` newer ones. -/
def AmongNewest (keepN : Int) (versions : List Version) (name : String) : Prop :=
  ∃ w ∈ versions, w.live = true ∧ w.ImageVersion = name ∧ (newerLive versions w : Int) < keepN

instance (keepN : Int) (versions : List Version) (name : String) :
    Decidable (AmongNewest keepN versions name) :=
  inferInstanceAs (Decidable (∃ w ∈ versions, _))

section Selection

variable {keepN : Int} {versions : List Version} {activeVersion name : String} {v : Version}

theorem keepNames_eq (kept : Nat) (l : List Version) :
    keepNames keepN kept l =
      ((l.filter fun v => v.State ≠ "DELETING").take (keepN - kept).toNat).map Version.ImageVersion := by
  induction l generalizing kept with
  | nil => simp [keepNames]
  | cons v rest ih =>
      rw [keepNames]
      split_ifs with hkept hstate
      · rw [ih, List.filter_cons_of_neg (by simp [hstate])]
      · have hroom : (keepN - kept).toNat = (keepN - (kept + 1 : Nat)).toNat + 1 := by omega
        rw [ih, List.filter_cons_of_pos (by simp [hstate]), hroom, List.take_succ_cons, List.map_cons]
      · have hnone : (keepN - kept).toNat = 0 := by omega
        rw [hnone, List.take_zero, List.map_nil]

/-- The names that are kept for their place. -/
theorem mem_keepNames : name ∈ keepNames keepN 0 (sortNewest (versions.filter fun v => v.State ≠ "DELETED")) ↔
    AmongNewest keepN versions name := by
  have hsorted := (sortNewest_sorted (versions.filter fun v => v.State ≠ "DELETED")).filter
    fun v => decide (v.State ≠ "DELETING")
  have hperm : ((sortNewest (versions.filter fun v => v.State ≠ "DELETED")).filter
      fun v => decide (v.State ≠ "DELETING")).Perm (versions.filter Version.live) := by
    refine ((sortNewest_perm _).filter _).trans ?_
    rw [List.filter_filter]
    refine List.Perm.of_eq (List.filter_congr fun _ _ => ?_)
    rw [Version.live, Bool.and_comm]
  rw [keepNames_eq, mem_take_names (fun v w => name_of_key) hsorted]
  have hcount : ∀ w : Version, ((sortNewest (versions.filter fun v => v.State ≠ "DELETED")).filter
      fun v => decide (v.State ≠ "DELETING")).countP (fun v => w.key < v.key) = newerLive versions w := by
    intro w
    rw [hperm.countP_eq, newerLive]
    refine List.countP_congr fun v _ => ?_
    rw [decide_eq_true_eq, newer_iff]
  simp only [hcount, hperm.mem_iff, List.mem_filter, AmongNewest, and_assoc]
  refine exists_congr fun w => and_congr_right fun _ => and_congr_right fun _ => and_congr_right fun _ => ?_
  omega

theorem deletableState_live (h : deletableState v.State = true) :
    v.live = true ∧ nonDeletableState v.State = false := by
  have hstate : v.State = "SUCCESSFUL" ∨ v.State = "FAILED" ∨ v.State = "DELETE_FAILED" := by
    simpa [deletableState] using h
  rcases hstate with hstate | hstate | hstate <;> simp [Version.live, nonDeletableState, hstate]

/-- What makes a version one to delete. -/
def Selectable (keepN : Int) (versions : List Version) (activeVersion : String) (v : Version) : Prop :=
  deletableState v.State = true ∧ ¬ AmongNewest keepN versions v.ImageVersion ∧
    ¬ (activeVersion ≠ "" ∧ v.ImageVersion = activeVersion)

instance : DecidablePred (Selectable keepN versions activeVersion) :=
  fun _ => inferInstanceAs (Decidable (_ ∧ _))

/-- The versions to delete are selected, each as often as it is listed. -/
theorem selectDeletable_perm (keepN : Int) (versions : List Version) (activeVersion : String) :
    (selectDeletable keepN versions activeVersion).Perm
      (versions.filter fun v => decide (Selectable keepN versions activeVersion v)) := by
  have hperm := (List.reverse_perm _).trans (sortNewest_perm (versions.filter fun v => v.State ≠ "DELETED"))
  refine (hperm.filter _).trans ?_
  rw [List.filter_filter]
  refine List.Perm.of_eq (List.filter_congr fun v _ => ?_)
  have hactive : v.ImageVersion ∈ (if activeVersion ≠ "" then [activeVersion] else []) ↔
      activeVersion ≠ "" ∧ v.ImageVersion = activeVersion := by
    by_cases hempty : activeVersion = ""
    · simp [hempty]
    · simp [hempty]
  rw [Bool.eq_iff_iff, decide_eq_true_eq (p := Selectable keepN versions activeVersion v)]
  simp only [Bool.and_eq_true, Bool.not_eq_true', List.contains_eq_mem, decide_eq_false_iff_not,
    List.mem_append, mem_keepNames, hactive, Bool.or_eq_false_iff, Bool.not_eq_false', decide_eq_true_eq,
    Selectable, not_or]
  constructor
  · rintro ⟨⟨⟨hnewest, hpin⟩, -, hstate⟩, -⟩
    exact ⟨hstate, hnewest, hpin⟩
  · rintro ⟨hstate, hnewest, hpin⟩
    obtain ⟨hlive, hnon⟩ := deletableState_live hstate
    rw [Version.live, Bool.and_eq_true, decide_eq_true_eq] at hlive
    exact ⟨⟨⟨hnewest, hpin⟩, hnon, hstate⟩, hlive.1⟩

/-- Oldest first. -/
theorem selectDeletable_sorted (keepN : Int) (versions : List Version) (activeVersion : String) :
    (selectDeletable keepN versions activeVersion).Pairwise fun v w => newer v w = false := by
  have hsorted := List.pairwise_reverse.2 (sortNewest_sorted (versions.filter fun v => v.State ≠ "DELETED"))
  refine (hsorted.imp fun {v w} h => ?_).filter _
  rw [← Bool.not_eq_true, newer_iff, not_lt]
  exact h

/-- Where no name is listed twice, the place of a version is its own. -/
theorem amongNewest_iff (hnames : (versions.map Version.ImageVersion).Nodup) (hv : v ∈ versions)
    (hlive : v.live = true) :
    AmongNewest keepN versions v.ImageVersion ↔ (newerLive versions v : Int) < keepN := by
  constructor
  · rintro ⟨w, hw, -, hname, hcount⟩
    rwa [List.inj_on_of_nodup_map hnames hw hv hname] at hcount
  · exact fun hcount => ⟨v, hv, hlive, rfl, hcount⟩

theorem selectDeletable_nodup (hnames : (versions.map Version.ImageVersion).Nodup) :
    ((selectDeletable keepN versions activeVersion).map Version.ImageVersion).Nodup :=
  ((selectDeletable_perm keepN versions activeVersion).map _).nodup_iff.2
    ((List.filter_sublist.map Version.ImageVersion).nodup hnames)

end Selection

end LesserHost.MicrovmVersions
