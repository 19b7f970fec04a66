import LesserHost.ControlPlane.Server
import LesserHost.X402.Counter

set_option autoImplicit false

/-! # The slots of a grant

Consume requests for one grant, in any order and with any faults of the store. A row is created in the slot after
the rows that a request has seen; where the slot is still free, these are all the rows there are, and none of
them has the key of the request. -/

namespace LesserHost.X402

open LesserHost.Go
open LesserHost.ControlPlane (AppTheoryError StoreError)

/-! ## Hashes -/

/-- A hash as `sha256HexTrimmed` and `hashX402JSON` write it. -/
def HexText (s : String) : Prop := ∃ sum, s = String.ofList (hexEncode sum)

theorem HexText.normal {s : String} (h : HexText s) : ToLower (TrimSpace s) = s := by
  obtain ⟨sum, rfl⟩ := h
  rw [TrimSpace_hex (hexEncode_hex sum), ToLower_hex (hexEncode_hex sum)]

theorem ofNat_foldCode_of_hex {c : Char} (h : isLowerHexChar c = true) : Char.ofNat (foldCode c.toNat) = c := by
  have hascii : ∀ n < 128, foldExceptions.lookup n = none := by decide
  have hsmall : c.toNat < 128 := by
    have hle : c.val ≤ 127 := Char.utf8Size_eq_one_iff.1 (utf8Size_of_hex h)
    exact Nat.lt_succ_of_le hle
  rw [foldCode, hascii _ hsmall, Option.getD_none, ← toLowerChar, toLowerChar_of_hex h]

/-- Two hashes that fold to the same text are the same. -/
theorem HexText.equalFold_iff {s t : String} (hs : HexText s) (ht : HexText t) :
    EqualFold (TrimSpace s) t = true ↔ s = t := by
  obtain ⟨sum, rfl⟩ := hs
  obtain ⟨sum', rfl⟩ := ht
  rw [TrimSpace_hex (hexEncode_hex sum)]
  refine ⟨fun h => ?_, fun h => h ▸ EqualFold_self _⟩
  have hback : ∀ bs, ((hexEncode bs).map fun c => foldCode c.toNat).map Char.ofNat = hexEncode bs := by
    intro bs
    rw [List.map_map]
    exact (List.map_congr_left fun c hc => ofNat_foldCode_of_hex (hexEncode_hex bs c hc)).trans (List.map_id _)
  rw [EqualFold, beq_iff_eq, String.toList_ofList, String.toList_ofList] at h
  rw [← hback sum, h, hback]

/-- Both hashes of a request are hashes. -/
structure Hashed (req : validatedSoulX402GrantConsume) : Prop where
  key : HexText req.idempotencyHash
  request : HexText req.consumeRequestHash

/-! ## The rows of a grant -/

/-- What holds of the rows in every state. -/
structure Slotted (maxUsage : Int) (t : Table) : Prop where
  grant : t.HasMaxUsage maxUsage
  slots : t.Contiguous
  room : t.usages.length ≤ maxUsage.toNat
  keys : (t.usages.map (·.ConsumeIdempotencyKeyHash)).Nodup
  hashed : ∀ u ∈ t.usages, HexText u.ConsumeIdempotencyKeyHash ∧ HexText u.ConsumeRequestHash

/-- The row of a usage is there, with the key and the hash of the request. -/
def Refers (req : validatedSoulX402GrantConsume) (usage : SoulX402InvocationGrantUsage) (t : Table) : Prop :=
  ∃ u ∈ t.usages, u.UsageSlot = usage.UsageSlot ∧ u.ConsumeIdempotencyKeyHash = req.idempotencyHash ∧
    u.ConsumeRequestHash = req.consumeRequestHash

section Rows

variable {maxUsage : Int} {t t' : Table} {req : validatedSoulX402GrantConsume}
  {usage : SoulX402InvocationGrantUsage}

theorem Refers.later (h : Refers req usage t) (hkept : t.usages <+: t'.usages) : Refers req usage t' := by
  obtain ⟨u, hu, hrow⟩ := h
  exact ⟨u, hkept.subset hu, hrow⟩

theorem Slotted.list (h : Slotted maxUsage t) (hrange : 1 ≤ maxUsage ∧ maxUsage ≤ x402GrantMaximumUsage) :
    t.list maxUsage = t.usages := by
  rw [h.slots.list hrange, List.take_of_length_le h.room]

theorem Slotted.occupied (h : Slotted maxUsage t) (hrange : 1 ≤ maxUsage ∧ maxUsage ≤ x402GrantMaximumUsage) :
    occupiedSlots t.usages = List.range t.usages.length := by
  have hslots := h.slots.occupied hrange
  rwa [h.list hrange, Nat.min_eq_right h.room] at hslots

/-- A row with a new key in the next slot. -/
theorem Slotted.create (h : Slotted maxUsage t) (hslot : usage.UsageSlot = t.usages.length)
    (hroom : t.usages.length < maxUsage.toNat) (hkey : HexText usage.ConsumeIdempotencyKeyHash)
    (hrequest : HexText usage.ConsumeRequestHash)
    (hnew : ∀ u ∈ t.usages, u.ConsumeIdempotencyKeyHash ≠ usage.ConsumeIdempotencyKeyHash) :
    Slotted maxUsage { t with usages := t.usages ++ [usage.UpdateKeys] } := by
  have hsameKey : usage.UpdateKeys.ConsumeIdempotencyKeyHash = usage.ConsumeIdempotencyKeyHash := hkey.normal
  have hsameRequest : usage.UpdateKeys.ConsumeRequestHash = usage.ConsumeRequestHash := hrequest.normal
  refine ⟨h.grant, h.slots.append hslot, ?_, ?_, fun u hu => ?_⟩
  · rw [List.length_append]
    exact hroom
  · rw [List.map_append, List.nodup_append]
    refine ⟨h.keys, List.nodup_singleton _, fun key hold key' hlast heq => ?_⟩
    obtain ⟨u, hu, rfl⟩ := List.mem_map.1 hold
    obtain rfl := List.mem_singleton.1 hlast
    exact hnew u hu (heq.trans hsameKey)
  · rcases List.mem_append.1 hu with hu | hu
    · exact h.hashed u hu
    · obtain rfl := List.mem_singleton.1 hu
      rw [hsameKey, hsameRequest]
      exact ⟨hkey, hrequest⟩

/-- The write of the counter leaves the rows as they are. -/
theorem handle_updateGrant (h : Slotted maxUsage t) (usage : SoulX402InvocationGrantUsage) (n : Nat) (now : Time)
    (c : Choice) :
    Slotted maxUsage (t.handle (.updateGrant usage n now) c).2 ∧
      (t.handle (.updateGrant usage n now) c).2.usages = t.usages := by
  obtain ⟨t', hupdate, husages, -, hmax⟩ :=
    update_cases (s := (Traced.start t : Traced Unit Op Table Choice)) h.grant usage n now
  rcases attempt_snd c t (t.update usage n now) with hsame | hdone
  · have hstate : (t.handle (.updateGrant usage n now) c).2 = t := hsame
    rw [hstate]
    exact ⟨h, rfl⟩
  · have hstate : (t.handle (.updateGrant usage n now) c).2 = t' := by
      refine Eq.trans hdone ?_
      exact congrArg Prod.snd hupdate
    have hrows : t'.usages = t.usages := husages
    rw [hstate]
    refine ⟨⟨hmax, ?_, ?_, ?_, ?_⟩, hrows⟩
    · unfold Table.Contiguous
      rw [hrows]
      exact h.slots
    · rw [hrows]
      exact h.room
    · rw [hrows]
      exact h.keys
    · rw [hrows]
      exact h.hashed

end Rows

/-! ## What a snapshot says -/

section Replay

variable {req : validatedSoulX402GrantConsume} {items : List SoulX402InvocationGrantUsage}

theorem findReplay_none (hreq : Hashed req)
    (hitems : ∀ u ∈ items, HexText u.ConsumeIdempotencyKeyHash ∧ HexText u.ConsumeRequestHash)
    (h : findReplay req items = .ok none) :
    ∀ u ∈ items, u.ConsumeIdempotencyKeyHash ≠ req.idempotencyHash := by
  induction items with
  | nil => exact fun u hu => absurd hu List.not_mem_nil
  | cons item items ih =>
      rw [findReplay] at h
      split_ifs at h with hkey
      · cases h
      · rw [(hitems item List.mem_cons_self).1.equalFold_iff hreq.key] at hkey
        intro u hu
        rcases List.mem_cons.1 hu with rfl | hu
        · exact hkey
        · exact ih (fun u hu => hitems u (List.mem_cons_of_mem _ hu)) h u hu

theorem findReplay_some {usage : SoulX402InvocationGrantUsage} (hreq : Hashed req)
    (hitems : ∀ u ∈ items, HexText u.ConsumeIdempotencyKeyHash ∧ HexText u.ConsumeRequestHash)
    (h : findReplay req items = .ok (some usage)) :
    usage ∈ items ∧ usage.ConsumeIdempotencyKeyHash = req.idempotencyHash ∧
      usage.ConsumeRequestHash = req.consumeRequestHash := by
  induction items with
  | nil => cases h
  | cons item items ih =>
      rw [findReplay] at h
      obtain ⟨hitemKey, hitemRequest⟩ := hitems item List.mem_cons_self
      split_ifs at h with hkey hrequest
      · cases h
        rw [Bool.not_eq_false, hitemRequest.equalFold_iff hreq.request] at hrequest
        exact ⟨List.mem_cons_self, (hitemKey.equalFold_iff hreq.key).1 hkey, hrequest⟩
      · obtain ⟨hmem, hsame⟩ := ih (fun u hu => hitems u (List.mem_cons_of_mem _ hu)) h
        exact ⟨List.mem_cons_of_mem _ hmem, hsame⟩

end Replay

/-! ## The contract of a request -/

/-- No row is changed or taken away. -/
def slotContract (maxUsage : Int) : Contract Op Table Choice where
  inv := Slotted maxUsage
  assume _ _ _ := True
  rely t t' := t.usages <+: t'.usages
  guar t t' := t.usages <+: t'.usages
  rely_refl _ := List.prefix_rfl
  rely_trans := List.IsPrefix.trans

/-- The request keeps the contract and ends in `Q`. -/
abbrev Honors {α : Type} (maxUsage : Int) (Q : Except AppTheoryError α → Table → Prop) (p : Handler α)
    (t : Table) : Prop :=
  p.Meets tableEnv (slotContract maxUsage) Q t

/-- The end of a part that is not refused for want of a slot. -/
def Reads {α : Type} (R : α → Table → Prop) : Except AppTheoryError α → Table → Prop
  | .ok a, t => R a t
  | .error e, _ => e ≠ grantUsageExhausted

/-- The end of a part that may be. -/
def Answers {α : Type} (maxUsage : Int) (R : α → Table → Prop) : Except AppTheoryError α → Table → Prop
  | .ok a, t => R a t
  | .error e, t => e = grantUsageExhausted → maxUsage.toNat ≤ t.usages.length

section Rules

variable {α β : Type} {maxUsage : Int} {t : Table} {R : α → Table → Prop} {R' : β → Table → Prop}

theorem reads_fail {e : AppTheoryError} (he : e ≠ grantUsageExhausted) :
    Honors maxUsage (Reads R) (.fail e : Handler α) t :=
  Prog.meets_fail fun _ _ _ => he

theorem reads_bind {p : Handler α} {f : α → Handler β} (h : Honors maxUsage (Reads R) p t)
    (hf : ∀ a t, R a t → Honors maxUsage (Reads R') (f a) t) : Honors maxUsage (Reads R') (p >>= f) t :=
  Prog.meets_bind h hf fun _ _ he => he

theorem answers_bind {p : Handler α} {f : α → Handler β} (h : Honors maxUsage (Reads R) p t)
    (hf : ∀ a t, R a t → Honors maxUsage (Answers maxUsage R') (f a) t) :
    Honors maxUsage (Answers maxUsage R') (p >>= f) t :=
  Prog.meets_bind h hf fun _ _ he heq => absurd heq he

theorem reads_liftExcept {x : Except AppTheoryError α}
    (hok : ∀ a, x = .ok a → ∀ t', t.usages <+: t'.usages → R a t')
    (herr : ∀ e, x = .error e → e ≠ grantUsageExhausted) :
    Honors maxUsage (Reads R) (liftExcept x) t := by
  cases x with
  | ok a => exact Prog.meets_pure fun t' ht _ => hok a rfl t' ht
  | error e => exact reads_fail (herr e rfl)

/-- An operation that leaves the rows as they are. -/
theorem reads_perform {o : Op} (hsame : ∀ c t, (Table.handle o c t).2 = t) {R : o.Res → Table → Prop}
    (h : ∀ before t' : Table, t.usages <+: before.usages → Slotted maxUsage before →
      before.usages <+: t'.usages → ∀ c, R (before.handle o c).1 t') :
    Honors maxUsage (Reads R) (Prog.perform o) t := by
  refine Prog.meets_perform fun before ht hinv c _ => ?_
  have hstate : (tableEnv.handle o c before).2 = before := hsame c before
  rw [hstate]
  exact ⟨hinv, List.prefix_rfl, fun t' ht' _ => h before t' ht hinv ht' c⟩

end Rules

/-! ## The parts of a request -/

section Parts

variable {maxUsage : Int} {t : Table} {req : validatedSoulX402GrantConsume} {grant : SoulX402InvocationGrant}

theorem reads_now : Honors maxUsage (Reads fun _ _ => True) (Prog.perform (.now : Op)) t :=
  reads_perform (fun _ _ => rfl) fun _ _ _ _ _ _ => trivial

theorem reads_loadSoulX402GrantForConsume (req : validatedSoulX402GrantConsume) :
    Honors maxUsage (Reads fun grant _ => Loaded maxUsage grant) (loadSoulX402GrantForConsume req) t := by
  unfold loadSoulX402GrantForConsume
  refine reads_bind (R := fun x _ => ∀ grant, x = .ok grant → grant.MaxUsage = maxUsage)
    (reads_perform handle_getGrant fun before _ _ hinv _ c grant hread => ?_) fun x t hx => ?_
  · obtain ⟨row, hrow, hmax⟩ := hinv.grant
    have hfound := (attempt_ok hread).1
    rw [hrow] at hfound
    cases hfound
    exact hmax
  · split
    · exact reads_fail (by decide)
    · exact reads_fail (by decide)
    · next grant =>
        refine reads_bind reads_now fun now t _ => ?_
        refine reads_bind (reads_liftExcept (R := fun _ _ => Loaded maxUsage grant) (fun a hok _ _ => ?_)
          fun e => validateSoulX402GrantForConsume_error) fun _ t hloaded =>
            Prog.meets_pure fun _ _ _ => hloaded
        have hmax : grant.MaxUsage = maxUsage := hx grant rfl
        have hrange := validateSoulX402GrantForConsume_ok hok
        rw [hmax] at hrange
        exact ⟨hmax, hrange⟩

theorem reads_authorizeSoulX402GrantConsumeInstance (grant : SoulX402InvocationGrant) :
    Honors maxUsage (Reads fun _ _ => True) (authorizeSoulX402GrantConsumeInstance grant) t := by
  unfold authorizeSoulX402GrantConsumeInstance
  refine reads_bind (R := fun _ _ => True) (reads_perform (fun _ _ => rfl) fun _ _ _ _ _ _ => trivial)
    fun access t _ => ?_
  cases access with
  | granted => exact Prog.meets_pure fun _ _ _ => trivial
  | notFound => exact reads_fail (by decide)
  | failed => exact reads_fail (by decide)
  | inactive => exact reads_fail (by decide)
  | refused => exact reads_fail (by decide)

/-- The rows of an earlier state, at least `least` of them, and what they say of the key of the request. -/
def Snapshot (maxUsage : Int) (req : validatedSoulX402GrantConsume) (least : Nat)
    (snapshot : List SoulX402InvocationGrantUsage × Option SoulX402InvocationGrantUsage) (t : Table) : Prop :=
  ∃ before : Table, Slotted maxUsage before ∧ before.usages = snapshot.1 ∧ before.usages <+: t.usages ∧
    least ≤ before.usages.length ∧ findReplay req before.usages = .ok snapshot.2

theorem reads_loadSoulX402InvocationGrantUsageSnapshot (req : validatedSoulX402GrantConsume)
    (hgrant : Loaded maxUsage grant) {least : Nat} (hleast : least ≤ t.usages.length) :
    Honors maxUsage (Reads (Snapshot maxUsage req least)) (loadSoulX402InvocationGrantUsageSnapshot grant req)
      t := by
  obtain ⟨hmax, hrange⟩ := hgrant
  unfold loadSoulX402InvocationGrantUsageSnapshot
  refine reads_bind (R := fun x t => ∀ items, x = .ok items → ∃ before : Table, Slotted maxUsage before ∧
      before.usages = items ∧ before.usages <+: t.usages ∧ least ≤ before.usages.length)
    (reads_perform (handle_listUsages _) fun before t' ht hinv ht' c items hread => ?_) fun x t hx => ?_
  · have hitems : before.list maxUsage = items := by
      rw [← hmax]
      exact Except.ok.inj (attempt_ok hread).1
    rw [hinv.list hrange] at hitems
    exact ⟨before, hinv, hitems, ht', hleast.trans ht.length_le⟩
  · split
    · exact reads_fail (by decide)
    · next items =>
        obtain ⟨before, hinv, rfl, hseen, hleast⟩ := hx items rfl
        refine reads_bind (R := fun replay t => before.usages <+: t.usages ∧
            findReplay req before.usages = .ok replay)
          (reads_liftExcept (fun replay hreplay t' ht' => ⟨hseen.trans ht', hreplay⟩) fun _ => findReplay_error)
          fun replay t hR => Prog.meets_pure fun t' ht' _ => ?_
        exact ⟨before, hinv, rfl, hR.1.trans ht', hleast, hR.2⟩

/-! ## Claiming a slot -/

/-- What the answer to the create says. -/
def Created (usage : SoulX402InvocationGrantUsage) :
    Except AppTheoryError (Except StoreError Unit) → Table → Prop
  | .ok (.ok ()), t => usage.UpdateKeys ∈ t.usages
  | .ok (.error .conditionFailed), t => usage.UsageSlot < t.usages.length
  | .ok (.error _), _ => True
  | .error _, _ => False

theorem created_createUsage {usage : SoulX402InvocationGrantUsage} {before : Table}
    (hseen : before.usages <+: t.usages) (hslot : usage.UsageSlot = before.usages.length)
    (hroom : before.usages.length < maxUsage.toNat)
    (hkey : HexText usage.ConsumeIdempotencyKeyHash) (hrequest : HexText usage.ConsumeRequestHash)
    (hnew : ∀ u ∈ before.usages, u.ConsumeIdempotencyKeyHash ≠ usage.ConsumeIdempotencyKeyHash) :
    Honors maxUsage (Created usage) (Prog.perform (.createUsage usage : Op)) t := by
  refine @Prog.meets_perform Op Op.Res AppTheoryError _ _ _ _ _ (.createUsage usage) (Created usage)
    fun t₁ ht hinv c _ => ?_
  have hkeeps : Slotted maxUsage (t₁.handle (.createUsage usage) c).2 ∧
      t₁.usages <+: (t₁.handle (.createUsage usage) c).2.usages := by
    rcases handle_createUsage usage c t₁ with hsame | ⟨hfree, hafter⟩
    · rw [hsame]
      exact ⟨hinv, List.prefix_rfl⟩
    · -- the slot is free, so the rows are still those of the snapshot
      rw [hinv.slots.mem, hslot, not_lt] at hfree
      have hsame : before.usages = t₁.usages := (hseen.trans ht).eq_of_length_le hfree
      rw [hsame] at hslot hroom hnew
      rw [hafter]
      exact ⟨hinv.create hslot hroom hkey hrequest hnew, List.prefix_append _ _⟩
  refine ⟨hkeeps.1, hkeeps.2, fun t₂ ht₂ _ => ?_⟩
  have hlater : (t₁.handle (.createUsage usage) c).2.usages <+: t₂.usages := ht₂
  show Created usage (.ok (t₁.handle (.createUsage usage) c).1) t₂
  cases hanswer : (t₁.handle (.createUsage usage) c).1 with
  | ok a =>
      obtain ⟨-, hafter⟩ := createUsage_ok hanswer
      rw [hafter] at hlater
      exact hlater.subset (List.mem_append_right _ List.mem_cons_self)
  | error e =>
      cases e with
      | conditionFailed =>
          obtain ⟨htaken, -⟩ := createUsage_conditionFailed hanswer
          rw [hinv.slots.mem] at htaken
          exact htaken.trans_le (hkeeps.2.trans hlater).length_le
      | _ => trivial

/-- The write that follows a claim. -/
theorem reads_updateGrant {usage : SoulX402InvocationGrantUsage} {n : Nat} {now : Time} {F : Table → Prop}
    (hkept : ∀ t' : Table, t.usages <+: t'.usages → F t') :
    Honors maxUsage (Reads fun _ t => F t) (Prog.perform (.updateGrant usage n now : Op)) t := by
  refine @Prog.meets_perform Op Op.Res AppTheoryError _ _ _ _ _ (.updateGrant usage n now)
    (Reads fun _ t => F t) fun t₁ ht hinv c _ => ?_
  obtain ⟨hslotted, hrows⟩ := handle_updateGrant hinv usage n now c
  refine ⟨hslotted, ?_, fun t₂ ht₂ _ => ?_⟩
  · show t₁.usages <+: (t₁.handle (.updateGrant usage n now) c).2.usages
    rw [hrows]
  · have hlater : (t₁.handle (.updateGrant usage n now) c).2.usages <+: t₂.usages := ht₂
    rw [hrows] at hlater
    exact hkept t₂ (List.IsPrefix.trans ht hlater)

/-- Where a request stands after an attempt. -/
def Claimable (req : validatedSoulX402GrantConsume) (least : Nat) : Option Claimed → Table → Prop
  | some claimed, t => Refers req claimed.usage t
  | none, t => least + 1 ≤ t.usages.length

theorem answers_tryClaimSoulX402InvocationGrantUsage (hreq : Hashed req) (now : Time)
    (hgrant : Loaded maxUsage grant) {least : Nat} (hleast : least ≤ t.usages.length) :
    Honors maxUsage (Answers maxUsage (Claimable req least)) (tryClaimSoulX402InvocationGrantUsage grant req now)
      t := by
  unfold tryClaimSoulX402InvocationGrantUsage
  refine answers_bind (reads_loadSoulX402InvocationGrantUsageSnapshot req hgrant hleast) fun snapshot t hR => ?_
  obtain ⟨items, replay⟩ := snapshot
  obtain ⟨before, hbefore, rfl, hseen, hleast, hreplay⟩ := hR
  dsimp only at hreplay ⊢
  rw [hbefore.occupied hgrant.2, hgrant.1, List.length_range]
  cases replay with
  | some usage =>
      obtain ⟨hmem, hsame⟩ := findReplay_some hreq hbefore.hashed hreplay
      exact Prog.meets_pure fun t' ht _ => ⟨usage, (hseen.trans ht).subset hmem, rfl, hsame⟩
  | none =>
      have hnew := findReplay_none hreq hbefore.hashed hreplay
      refine Prog.meets_ite (fun hfull => ?_) fun hfree => ?_
      · refine Prog.meets_fail fun t' ht _ _ => ?_
        have hgrown := (hseen.trans ht).length_le
        omega
      · obtain ⟨rest, havailable⟩ := availableSoulX402InvocationGrantUsageSlots_range (not_le.1 hfree)
        rw [havailable]
        dsimp only
        refine Prog.meets_bind (created_createUsage hseen rfl (by omega) hreq.key hreq.request hnew)
          (fun answer t hR => ?_) fun e t h => h.elim
        cases answer with
        | ok a =>
            have hrefers : ∀ t' : Table, t.usages <+: t'.usages → Refers req
                ⟨before.usages.length, grant.AgentID, req.idempotencyHash, req.consumeRequestHash, now⟩ t' :=
              fun t' ht' => ⟨_, ht'.subset hR, UpdateKeys_UsageSlot _, hreq.key.normal, hreq.request.normal⟩
            exact answers_bind (reads_updateGrant hrefers) fun _ t hR =>
              Prog.meets_pure fun t' ht' _ => Refers.later hR ht'
        | error e =>
            cases e with
            | conditionFailed =>
                refine Prog.meets_pure fun t' ht' _ => ?_
                have hgrown := List.IsPrefix.length_le ht'
                have htaken : before.usages.length < t.usages.length := hR
                show least + 1 ≤ t'.usages.length
                omega
            | _ => exact Prog.meets_fail fun _ _ _ heq => absurd heq (by decide)

/-- Every attempt that fails finds another row. -/
theorem answers_claimAttempts (hreq : Hashed req) (now : Time) (hgrant : Loaded maxUsage grant)
    {attempts least : Nat} (henough : maxUsage ≤ least + attempts) (hleast : least ≤ t.usages.length) :
    Honors maxUsage (Answers maxUsage fun claimed t => Refers req claimed.usage t)
      (claimAttempts grant req now attempts) t := by
  induction attempts generalizing least t with
  | zero =>
      refine Prog.meets_fail fun t' ht _ _ => ?_
      have hgrown := List.IsPrefix.length_le ht
      omega
  | succ attempts ih =>
      unfold claimAttempts
      refine Prog.meets_bind (answers_tryClaimSoulX402InvocationGrantUsage hreq now hgrant hleast)
        (fun claimed t hR => ?_) fun e t hR => hR
      cases claimed with
      | some claimed => exact Prog.meets_pure fun t' ht _ => Refers.later hR ht
      | none => exact ih (by omega) hR

theorem answers_handleSoulX402ConsumeInvocationGrant (hreq : Hashed req) :
    Honors maxUsage (Answers maxUsage fun response t => Refers req response.Usage t)
      (handleSoulX402ConsumeInvocationGrant req) t := by
  unfold handleSoulX402ConsumeInvocationGrant
  refine answers_bind (R := fun _ _ => True) (reads_perform (fun _ _ => rfl) fun _ _ _ _ _ _ => trivial)
    fun key t _ => ?_
  refine Prog.meets_ite (fun _ => ?_) fun _ => ?_
  · exact Prog.meets_fail fun _ _ _ heq => absurd heq (by decide)
  refine answers_bind (reads_loadSoulX402GrantForConsume req) fun grant t hgrant => ?_
  refine answers_bind (reads_authorizeSoulX402GrantConsumeInstance grant) fun _ t _ => ?_
  refine answers_bind reads_now fun now t _ => ?_
  have hclaim : Honors maxUsage (Answers maxUsage fun claimed t => Refers req claimed.usage t)
      (claimSoulX402InvocationGrantUsage grant req now) t := by
    refine answers_claimAttempts hreq now hgrant ?_ (Nat.zero_le _)
    rw [hgrant.1]
    omega
  exact Prog.meets_bind hclaim (fun claimed t hR => Prog.meets_pure fun t' ht _ => Refers.later hR ht)
    fun e t hR => hR

end Parts

/-! ## Any number of requests -/

section Run

variable {ι : Type} [DecidableEq ι]

/-- The requests for a grant, without a history. -/
def slotConsumers (requests : ι → validatedSoulX402GrantConsume) (t : Table) :
    Config ι Op Op.Res AppTheoryError soulX402GrantConsumeResponse Table where
  state := t
  threads i := handleSoulX402ConsumeInvocationGrant (requests i)

/-- The usage of a grant after a run. -/
structure ExactUsage (maxUsage : Int) (requests : ι → validatedSoulX402GrantConsume)
    (cfg : Config ι Op Op.Res AppTheoryError soulX402GrantConsumeResponse Table)
    (moves : List (ι × Choice)) : Prop where
  occupied : (cfg.run (fun _ => tableEnv) moves).state.usages.length ≤ maxUsage.toNat
  /-- a slot has one row -/
  slots : ((cfg.run (fun _ => tableEnv) moves).state.usages.map (·.UsageSlot)).Nodup
  /-- a key has one slot -/
  keys : ((cfg.run (fun _ => tableEnv) moves).state.usages.map (·.ConsumeIdempotencyKeyHash)).Nodup
  /-- the rows of an earlier state are still the same -/
  kept : ∀ first rest, moves = first ++ rest →
    (cfg.run (fun _ => tableEnv) first).state.usages <+: (cfg.run (fun _ => tableEnv) moves).state.usages
  answered : ∀ i response, (cfg.run (fun _ => tableEnv) moves).threads i = .ret response →
    Refers (requests i) response.Usage (cfg.run (fun _ => tableEnv) moves).state
  exhausted : ∀ i, (cfg.run (fun _ => tableEnv) moves).threads i = .fail grantUsageExhausted →
    (cfg.run (fun _ => tableEnv) moves).state.usages.map (·.UsageSlot) = List.range maxUsage.toNat

omit [DecidableEq ι] in
theorem slotContract_compatible (maxUsage : Int) :
    Compatible (fun _ : ι => slotContract maxUsage) (Slotted maxUsage) :=
  ⟨fun _ _ => Iff.rfl, fun _ _ _ _ _ _ _ h => h⟩

theorem Issued.slotted {grant : SoulX402InvocationGrant} {t : Table} (h : Issued grant t) :
    Slotted grant.MaxUsage t := by
  refine ⟨⟨grant, h.row, rfl⟩, ?_, ?_, ?_, ?_⟩
  · unfold Table.Contiguous
    rw [h.usages]
    rfl
  · rw [h.usages]
    exact Nat.zero_le _
  · rw [h.usages]
    exact List.nodup_nil
  · rw [h.usages]
    exact fun u hu => absurd hu List.not_mem_nil

/-- **Usage is exact.** Whatever the order of the requests and the faults of the store, at most as many slots are
occupied as the grant may be used, each by its own key and for good; a request that is answered has its row, and
one that is refused for want of a slot finds all of them occupied. -/
theorem grant_usage_exact (requests : ι → validatedSoulX402GrantConsume) (hrequests : ∀ i, Hashed (requests i))
    {grant : SoulX402InvocationGrant} {t : Table} (hissued : Issued grant t) (moves : List (ι × Choice)) :
    ExactUsage grant.MaxUsage requests (slotConsumers requests t) moves := by
  have hcompatible := slotContract_compatible (ι := ι) grant.MaxUsage
  have hstart : Fits (fun _ => tableEnv) (fun _ => slotContract grant.MaxUsage) (Slotted grant.MaxUsage)
      (fun i => Answers grant.MaxUsage fun response t => Refers (requests i) response.Usage t)
      (slotConsumers requests t) :=
    ⟨hissued.slotted, fun i => answers_handleSoulX402ConsumeInvocationGrant (hrequests i)⟩
  have hany : ∀ (cfg : Config ι Op Op.Res AppTheoryError soulX402GrantConsumeResponse Table)
      (ms : List (ι × Choice)), Along (Config.step fun _ => tableEnv)
        (Config.Performs fun _ => (slotContract grant.MaxUsage).assume) cfg ms := by
    intro cfg ms
    induction ms generalizing cfg with
    | nil => trivial
    | cons m ms ih => exact ⟨fun _ _ _ => trivial, ih _⟩
  have hfits := hstart.run hcompatible (hany _ moves)
  refine ⟨hfits.inv.room, ?_, hfits.inv.keys, fun first rest hsplit => ?_, fun i response hi => ?_,
    fun i hi => ?_⟩
  · rw [hfits.inv.slots]
    exact List.nodup_range
  · subst hsplit
    rw [Config.run_append]
    exact (hstart.run hcompatible (hany _ first)).run_rel hcompatible
      (R := fun t t' => t.usages <+: t'.usages) (fun _ => List.prefix_rfl) (fun h h' => h.trans h')
      (fun _ _ _ hguar => hguar) (hany _ rest)
  · exact hfits.answer hcompatible hi
  · have hfull : grant.MaxUsage.toNat ≤ _ := hfits.failure hcompatible hi rfl
    rw [hfits.inv.slots, Nat.le_antisymm hfits.inv.room hfull]

end Run

/-- The second request comes with the key of the first, or with its own. -/
def sampleHashed (repeated second : Bool) : validatedSoulX402GrantConsume :=
  { sampleConsume second with
    idempotencyHash := String.ofList (hexEncode [if second && !repeated then 2 else 1])
    consumeRequestHash := String.ofList (hexEncode [3]) }

theorem grant_usage_exact_sample : ExactUsage 2 (sampleHashed true)
    (slotConsumers (sampleHashed true) sampleTable) overtakenMoves :=
  grant_usage_exact (sampleHashed true) (fun _ => ⟨⟨_, rfl⟩, ⟨_, rfl⟩⟩) sampleTable_issued overtakenMoves

end LesserHost.X402
