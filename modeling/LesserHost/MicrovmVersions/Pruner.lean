import LesserHost.MicrovmVersions.Selection

set_option autoImplicit false

/-! # Pruning the versions of an image

`Prune` in `pruner.go`: the versions selected for deletion are deleted one after the other, the active version
looked up before each, and the versions are listed again at the end. The service and the clock are any state
machine (`Client`); the pruner's own sleep is one of its calls. -/

namespace LesserHost.MicrovmVersions

open LesserHost.Go

structure Image where
  Name : String
  ARN : String
  LatestActiveImageVersion : String

structure ClientError where
  text : String
  /-- `errors.Is(err, ErrImageNotFound)` -/
  isImageNotFound : Bool
  /-- `errors.Is(err, ErrConflict)` -/
  isConflict : Bool

structure Client (σ : Type) where
  ResolveImage : String → σ → Except ClientError Image × σ
  ListVersions : String → σ → Except ClientError (List Version) × σ
  DeleteVersion : String → String → σ → Option ClientError × σ
  /-- Nanoseconds to wait; the error where the context ends before. -/
  sleep : Int → σ → Option String × σ

structure Result where
  ImageName : String
  ImageARN : String
  ActiveVersion : String
  Listed : Int
  TargetDeletes : Int
  Deleted : Int
  DeleteFailed : Int
  SkippedActive : Int
  Kept : Int
  RemainingCount : Int
  Warnings : List String

def Result.start (imageName : String) : Result := ⟨imageName, "", "", 0, 0, 0, 0, 0, 0, 0, []⟩

structure Pruner where
  keepN : Int
  maxVersions : Int
  imageRequired : Bool
  settleAfterDelete : Int
  settleBeforeReList : Int
  conflictRetryBase : Int
  conflictRetryMax : Int
  maxConflictAttempts : Nat

/-- The options of a pruner; the one that replaces its sleep is in `Client.sleep`. -/
inductive PrunerOption where
  | WithKeepN (n : Int)
  | WithImageRequired (required : Bool)

def PrunerOption.apply (p : Pruner) : PrunerOption → Pruner
  | .WithKeepN n => { p with keepN := if n < 1 then 1 else n }
  | .WithImageRequired required => { p with imageRequired := required }

def MaxVersionsPerImage : Int := 50

def DefaultKeepN : Int := 5

def NewPruner (opts : List PrunerOption) : Pruner :=
  opts.foldl PrunerOption.apply ⟨DefaultKeepN, MaxVersionsPerImage, false, 5 * Second, 10 * Second, 5 * Second,
    30 * Second, 8⟩

theorem NewPruner_maxVersions (opts : List PrunerOption) :
    (NewPruner opts).maxVersions = MaxVersionsPerImage := by
  have hkeep : ∀ p : Pruner, (opts.foldl PrunerOption.apply p).maxVersions = p.maxVersions := by
    induction opts with
    | nil => exact fun p => rfl
    | cons opt opts ih =>
        intro p
        rw [List.foldl_cons, ih]
        cases opt <;> rfl
  exact hkeep _

section Prune

variable {σ : Type} (p : Pruner) (c : Client σ)

/-! ## Deleting -/

/-- The attempts that are left, the wait before the next, and the error of the last. -/
def retryLoop (imageARN version : String) : Nat → Int → String → σ → Option String × σ
  | 0, _, lastErr, s =>
      (some ("microvm image version delete conflict: version " ++ version ++ " still conflicting after " ++
        Itoa p.maxConflictAttempts ++ " attempts: " ++ lastErr), s)
  | attempts + 1, backoff, _, s =>
      match c.DeleteVersion imageARN version s with
      | (none, s) => (none, s)
      | (some err, s) =>
          if err.isConflict = false then (some err.text, s)
          else
            match c.sleep backoff s with
            | (some waitErr, s) => (some ("conflict retry wait: " ++ waitErr), s)
            | (none, s) =>
                let next := if p.conflictRetryMax < backoff * 2 then p.conflictRetryMax else backoff * 2
                retryLoop imageARN version attempts next err.text s

def deleteWithRetry (imageARN version : String) (s : σ) : Option String × σ :=
  retryLoop p c imageARN version p.maxConflictAttempts p.conflictRetryBase "<nil>" s

def currentActiveVersion (imageName : String) (s : σ) : Except String String × σ :=
  match c.ResolveImage imageName s with
  | (.error err, s) =>
      (.error ("microvmversions: re-resolve image " ++ Quote imageName ++ ": " ++ err.text), s)
  | (.ok current, s) => (.ok current.LatestActiveImageVersion, s)

structure Tally where
  deleted : Int
  failed : Int
  skippedActive : Int
  warnings : List String

def Tally.count (t : Tally) : Int := t.deleted + t.failed + t.skippedActive

/-- The loop over the targets, with the tally and whether no delete was tried yet. -/
def deleteAll (imageName imageARN : String) :
    List Version → Bool → Tally → σ → Tally × Option String × σ
  | [], _, t, s => (t, none, s)
  | v :: rest, firstDelete, t, s =>
      match currentActiveVersion c imageName s with
      | (.error err, s) =>
          (t, some ("microvmversions: before deleting version " ++ v.ImageVersion ++ ": " ++ err), s)
      | (.ok active, s) =>
          if active = v.ImageVersion then
            let t := { t with
              skippedActive := t.skippedActive + 1
              warnings := t.warnings ++ ["image version " ++ v.ImageVersion ++ " became the active controller " ++
                "version during pruning; skipped (the active version is never deleted)"] }
            deleteAll imageName imageARN rest firstDelete t s
          else
            match if firstDelete then (none, s) else c.sleep p.settleAfterDelete s with
            | (some sleepErr, s) => (t, some ("microvmversions: settle wait: " ++ sleepErr), s)
            | (none, s) =>
                match deleteWithRetry p c imageARN v.ImageVersion s with
                | (some delErr, s) =>
                    let t := { t with
                      failed := t.failed + 1
                      warnings := t.warnings ++ ["delete image version " ++ v.ImageVersion ++ " failed: " ++
                        delErr ++ " (deploy continues: image still has headroom)"] }
                    deleteAll imageName imageARN rest false t s
                | (none, s) => deleteAll imageName imageARN rest false { t with deleted := t.deleted + 1 } s

/-! ## The run -/

/-- The image, or none on a first deploy. -/
def resolveRequiredOrNoop (imageName : String) (s : σ) : Except String (Option Image) × σ :=
  match c.ResolveImage imageName s with
  | (.ok image, s) => (.ok (some image), s)
  | (.error err, s) =>
      if err.isImageNotFound = true then
        if p.imageRequired then
          (.error ("microvmversions: image " ++ Quote imageName ++ " not found but the deploy template declares " ++
            "the AWS::Lambda::MicrovmImage resource; refusing to treat this as a first deploy (resolution " ++
            "failure: " ++ err.text ++ "); check for image-name drift or an out-of-band deletion of the " ++
            "whole image"), s)
        else (.ok none, s)
      else (.error ("microvmversions: resolve image " ++ Quote imageName ++ ": " ++ err.text), s)

def refreshActiveVersion (imageName previous : String) (s : σ) :
    Except String (String × List String) × σ :=
  match c.ResolveImage imageName s with
  | (.error err, s) => (.error ("microvmversions: re-resolve image " ++ Quote imageName ++
      " before pruning: " ++ err.text), s)
  | (.ok current, s) =>
      if current.LatestActiveImageVersion = "" then
        if previous ≠ "" then
          (.ok ("", ["image " ++ Quote imageName ++ " resolved but LatestActiveImageVersion is empty; " ++
            "retaining the previously resolved pin " ++ Quote previous ++ " (stale but still protective — " ++
            "only versions outside the newest " ++ Itoa p.keepN ++ " may be deleted)"]), s)
        else
          (.ok ("", ["image " ++ Quote imageName ++ " resolved but LatestActiveImageVersion is empty; no " ++
            "active-version pin available (only versions outside the newest " ++ Itoa p.keepN ++
            " may be deleted)"]), s)
      else (.ok (current.LatestActiveImageVersion, []), s)

/-- Deleted versions no longer count, versions being deleted do. -/
def countRemaining (versions : List Version) : Int := (versions.filter fun v => v.State ≠ "DELETED").length

/-- The last listing decides whether there is room. -/
def confirmRoom (imageName : String) (res : Result) (s : σ) : (Result × Option String) × σ :=
  match c.ListVersions res.ImageARN s with
  | (.error err, s) => ((res, some ("microvmversions: re-list versions for " ++ Quote res.ImageARN ++
      " after pruning: " ++ err.text)), s)
  | (.ok remaining, s) =>
      let res := { res with RemainingCount := countRemaining remaining }
      if p.maxVersions ≤ res.RemainingCount then
        ((res, some ("microvmversions: image " ++ Quote imageName ++ " still has " ++ Itoa res.RemainingCount ++
          " versions after pruning (cap " ++ Itoa p.maxVersions ++ "); the deploy would fail with 402 — " ++
          "refusing to proceed (deleted=" ++ Itoa res.Deleted ++ ", delete failures=" ++
          Itoa res.DeleteFailed ++ ")")), s)
      else ((res, none), s)

/-- What follows once the targets are known. -/
def pruneTargets (imageName : String) (deletable : List Version) (res : Result) (s : σ) :
    (Result × Option String) × σ :=
  match deleteAll p c imageName res.ImageARN deletable true ⟨0, 0, 0, []⟩ s with
  | (t, err, s) =>
      let res := { res with
        Deleted := t.deleted
        DeleteFailed := t.failed
        SkippedActive := t.skippedActive
        Warnings := res.Warnings ++ t.warnings }
      match err with
      | some err => ((res, some err), s)
      | none =>
          match if deletable = [] then (none, s) else c.sleep p.settleBeforeReList s with
          | (some sleepErr, s) =>
              ((res, some ("microvmversions: settle wait before re-list: " ++ sleepErr)), s)
          | (none, s) => confirmRoom p c imageName res s

def Prune (imageName : String) (s : σ) : (Result × Option String) × σ :=
  let res := Result.start imageName
  match resolveRequiredOrNoop p c imageName s with
  | (.error err, s) => ((res, some err), s)
  | (.ok none, s) =>
      (({ res with Warnings := ["image not found; nothing to prune (first deploy creates the image)"] }, none), s)
  | (.ok (some image), s) =>
      let res := { res with ImageARN := image.ARN }
      match c.ListVersions image.ARN s with
      | (.error err, s) => ((res, some ("microvmversions: list versions for " ++ Quote image.ARN ++ ": " ++
          err.text)), s)
      | (.ok versions, s) =>
          let res := { res with Listed := versions.length }
          match refreshActiveVersion p c imageName image.LatestActiveImageVersion s with
          | (.error err, s) => ((res, some err), s)
          | (.ok (activeVersion, warns), s) =>
              let active := if activeVersion ≠ "" then activeVersion else image.LatestActiveImageVersion
              let deletable := selectDeletable p.keepN versions active
              let res := { res with
                ActiveVersion := active
                TargetDeletes := deletable.length
                Kept := versions.length - deletable.length
                Warnings := warns }
              pruneTargets p c imageName deletable res s

end Prune

/-! ## What success says -/

section Success

variable {σ : Type} {p : Pruner} {c : Client σ} {imageName imageARN : String} {deletable : List Version}
  {res out : Result} {s s' : σ} {t t' : Tally}

/-- Every target is deleted, has failed or is skipped. -/
theorem deleteAll_count {firstDelete : Bool}
    (h : deleteAll p c imageName imageARN deletable firstDelete t s = (t', none, s')) :
    t'.count = t.count + deletable.length := by
  induction deletable generalizing firstDelete t s with
  | nil =>
      simp only [deleteAll, Prod.mk.injEq] at h
      rw [← h.1]
      simp
  | cons v rest ih =>
      rw [List.length_cons]
      rw [deleteAll] at h
      split at h
      · cases h
      · split at h
        · have hrest := ih h
          simp only [Tally.count] at hrest ⊢
          omega
        · split at h
          · cases h
          · split at h
            · have hrest := ih h
              simp only [Tally.count] at hrest ⊢
              omega
            · have hrest := ih h
              simp only [Tally.count] at hrest ⊢
              omega

theorem confirmRoom_ok (h : confirmRoom p c imageName res s = ((out, none), s')) :
    out = { res with RemainingCount := out.RemainingCount } ∧ out.RemainingCount < p.maxVersions := by
  rw [confirmRoom] at h
  split at h
  · cases h
  · dsimp only at h
    split_ifs at h with hfull
    · cases h
    · simp only [Prod.mk.injEq, and_true] at h
      obtain ⟨rfl, -⟩ := h
      exact ⟨rfl, not_le.1 hfull⟩

theorem pruneTargets_ok (h : pruneTargets p c imageName deletable res s = ((out, none), s')) :
    out.Deleted + out.DeleteFailed + out.SkippedActive = deletable.length ∧
      out.TargetDeletes = res.TargetDeletes ∧ out.RemainingCount < p.maxVersions := by
  rw [pruneTargets] at h
  rcases hall : deleteAll p c imageName res.ImageARN deletable true ⟨0, 0, 0, []⟩ s with ⟨t, err, s₁⟩
  rw [hall] at h
  dsimp only at h
  cases err with
  | some err => cases h
  | none =>
      dsimp only at h
      have hcount := deleteAll_count hall
      simp only [Tally.count] at hcount
      split at h
      · cases h
      · obtain ⟨hout, hroom⟩ := confirmRoom_ok h
        rw [hout]
        refine ⟨?_, rfl, hroom⟩
        dsimp only
        omega

/-- A run that succeeds accounts for every target and leaves room for the next version. -/
theorem Prune_ok (hcap : 0 < p.maxVersions) (h : Prune p c imageName s = ((out, none), s')) :
    out.Deleted + out.DeleteFailed + out.SkippedActive = out.TargetDeletes ∧
      out.RemainingCount < p.maxVersions := by
  rw [Prune] at h
  dsimp only at h
  split at h
  · cases h
  · cases h
    exact ⟨rfl, hcap⟩
  · split at h
    · cases h
    · split at h
      · cases h
      · obtain ⟨hcount, htargets, hroom⟩ := pruneTargets_ok h
        exact ⟨hcount.trans htargets.symm, hroom⟩

/-- **Pruning.** The versions outside the newest `keepN` live ones that are not active and may be deleted are
selected, oldest first, each as often as it is listed; where no name is listed twice, none is repeated and the
place of a version is its own. A run that succeeds accounts for each of them and ends below the limit. -/
theorem pruning (keepN : Int) (versions : List Version) (activeVersion : String) :
    (selectDeletable keepN versions activeVersion).Perm
        (versions.filter fun v => decide (Selectable keepN versions activeVersion v)) ∧
      (selectDeletable keepN versions activeVersion).Pairwise (fun v w => newer v w = false) ∧
      ((versions.map Version.ImageVersion).Nodup →
        ((selectDeletable keepN versions activeVersion).map Version.ImageVersion).Nodup ∧
        ∀ v ∈ versions, v ∈ selectDeletable keepN versions activeVersion ↔
          deletableState v.State = true ∧ keepN ≤ newerLive versions v ∧
            ¬ (activeVersion ≠ "" ∧ v.ImageVersion = activeVersion)) ∧
      ∀ (opts : List PrunerOption) (σ : Type) (c : Client σ) (imageName : String) (s s' : σ) (out : Result),
        Prune (NewPruner opts) c imageName s = ((out, none), s') →
          out.Deleted + out.DeleteFailed + out.SkippedActive = out.TargetDeletes ∧
            out.RemainingCount < (NewPruner opts).maxVersions := by
  refine ⟨selectDeletable_perm _ _ _, selectDeletable_sorted _ _ _, fun hnames => ?_, ?_⟩
  · refine ⟨selectDeletable_nodup hnames, fun v hv => ?_⟩
    rw [(selectDeletable_perm _ _ _).mem_iff, List.mem_filter, decide_eq_true_eq, Selectable]
    constructor
    · rintro ⟨-, hstate, hplace, hactive⟩
      rw [amongNewest_iff hnames hv (deletableState_live hstate).1, not_lt] at hplace
      exact ⟨hstate, hplace, hactive⟩
    · rintro ⟨hstate, hplace, hactive⟩
      rw [← not_lt, ← amongNewest_iff hnames hv (deletableState_live hstate).1] at hplace
      exact ⟨hv, hstate, hplace, hactive⟩
  · intro opts σ c imageName s s' out h
    exact Prune_ok (by rw [NewPruner_maxVersions]; decide) h

end Success

theorem pruning_two :
    ((selectDeletable 1 [⟨"v1", ⟨0, .utc⟩, "FAILED", ""⟩, ⟨"v2", ⟨1, .utc⟩, "SUCCESSFUL", ""⟩] "v2").map
      Version.ImageVersion).Nodup :=
  ((pruning 1 [⟨"v1", ⟨0, .utc⟩, "FAILED", ""⟩, ⟨"v2", ⟨1, .utc⟩, "SUCCESSFUL", ""⟩] "v2").2.2.1
    (by decide)).1

/-- A version that is listed twice is selected twice. -/
theorem not_selectDeletable_nodup :
    ¬ ∀ (keepN : Int) (versions : List Version) (activeVersion : String),
      (selectDeletable keepN versions activeVersion).Nodup := by
  intro h
  have hperm := selectDeletable_perm 0 [⟨"v1", ⟨0, .utc⟩, "FAILED", ""⟩, ⟨"v1", ⟨0, .utc⟩, "FAILED", ""⟩] ""
  exact absurd (hperm.nodup_iff.1 (h _ _ _)) (by decide +kernel)

end LesserHost.MicrovmVersions
