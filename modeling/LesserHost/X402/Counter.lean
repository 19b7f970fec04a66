import LesserHost.Lib.Trace
import LesserHost.X402.Grant

set_option autoImplicit false

/-! # The counter of a grant

Consume requests for one grant, in any order. Every request tries the smallest slot that is free, so the
rows of a grant have the slots `0, …, n - 1`, and the count that a request writes after its claim is the
number of rows at the time of the claim. The counter keeps step with the rows when these writes arrive in
the order of the claims (`grant_counter`). Nothing in the code makes them arrive so (`not_grant_counter`). -/

namespace LesserHost.X402

open LesserHost.Go
open LesserHost.ControlPlane (AppTheoryError StoreError)

/-! ## One operation -/

/-- The counter of the grant. -/
def Table.ConsumedUsageCount (t : Table) : Nat := t.grant.elim 0 (·.ConsumedUsageCount)

/-- The grant can be used so many times. -/
def Table.HasMaxUsage (t : Table) (maxUsage : Int) : Prop :=
  ∃ grant, t.grant = some grant ∧ grant.MaxUsage = maxUsage

/-- The slots are taken from the first one on. -/
def Table.Contiguous (t : Table) : Prop := t.usages.map (·.UsageSlot) = List.range t.usages.length

/-- The slot whose claim an operation records. -/
def Op.records : Op → Option Nat
  | .updateGrant usage .. => some usage.UsageSlot
  | _ => none

@[simp] theorem UpdateKeys_UsageSlot (usage : SoulX402InvocationGrantUsage) :
    usage.UpdateKeys.UsageSlot = usage.UsageSlot := by
  unfold SoulX402InvocationGrantUsage.UpdateKeys
  dsimp only

theorem attempt_snd {α : Type} (c : Choice) (t : Table) (r : Except StoreError α × Table) :
    (c.attempt t r).2 = t ∨ (c.attempt t r).2 = r.2 := by
  unfold Choice.attempt
  cases c.fault with
  | none => exact Or.inr rfl
  | lost => exact Or.inl rfl
  | unacknowledged => exact Or.inr rfl

theorem attempt_kept {α : Type} {c : Choice} {t : Table} {r : Except StoreError α × Table}
    (h : c.fault ≠ .lost) : (c.attempt t r).2 = r.2 := by
  unfold Choice.attempt
  cases hfault : c.fault with
  | lost => exact absurd hfault h
  | none => rfl
  | unacknowledged => rfl

theorem attempt_ok {α : Type} {c : Choice} {t : Table} {r : Except StoreError α × Table} {a : α}
    (h : (c.attempt t r).1 = .ok a) : r.1 = .ok a ∧ (c.attempt t r).2 = r.2 := by
  unfold Choice.attempt at h ⊢
  cases hfault : c.fault with
  | none =>
      simp only [hfault] at h
      exact ⟨h, rfl⟩
  | lost => simp [hfault] at h
  | unacknowledged => simp [hfault] at h

theorem attempt_conditionFailed {α : Type} {c : Choice} {t : Table} {r : Except StoreError α × Table}
    (h : (c.attempt t r).1 = .error .conditionFailed) : r.1 = .error .conditionFailed := by
  unfold Choice.attempt at h
  cases hfault : c.fault with
  | none =>
      simp only [hfault] at h
      exact h
  | lost => simp [hfault] at h
  | unacknowledged => simp [hfault] at h

section Rows

variable {t : Table} {usage : SoulX402InvocationGrantUsage} {limit : Int}

theorem Table.Contiguous.mem (h : t.Contiguous) (slot : Nat) :
    slot ∈ t.usages.map (·.UsageSlot) ↔ slot < t.usages.length := by
  rw [h, List.mem_range]

theorem Table.Contiguous.append (h : t.Contiguous) (hslot : usage.UsageSlot = t.usages.length) :
    ({ t with usages := t.usages ++ [usage.UpdateKeys] } : Table).Contiguous := by
  unfold Table.Contiguous at h ⊢
  simp only [List.map_append, List.map_cons, List.map_nil, List.length_append, List.length_singleton,
    List.range_succ, UpdateKeys_UsageSlot, h, hslot]

/-- The rows come in the order of their slots. -/
theorem Table.Contiguous.list (h : t.Contiguous) (hlimit : 1 ≤ limit ∧ limit ≤ x402GrantMaximumUsage) :
    t.list limit = t.usages.take limit.toNat := by
  have hsorted : t.usages.Pairwise fun u v => decide (u.UsageSlot ≤ v.UsageSlot) = true := by
    have hrange : (t.usages.map (·.UsageSlot)).Pairwise (· ≤ ·) := by
      rw [h]
      exact List.pairwise_lt_range.imp Nat.le_of_lt
    rw [List.pairwise_map] at hrange
    exact hrange.imp fun hle => decide_eq_true hle
  unfold Table.list
  rw [List.mergeSort_of_pairwise hsorted, if_neg (by omega)]

theorem Table.Contiguous.occupied (h : t.Contiguous)
    (hlimit : 1 ≤ limit ∧ limit ≤ x402GrantMaximumUsage) :
    occupiedSlots (t.list limit) = List.range (min limit.toNat t.usages.length) := by
  have hslots : (t.list limit).map (·.UsageSlot) = List.range (min limit.toNat t.usages.length) := by
    rw [h.list hlimit, List.map_take, h, List.take_range]
  unfold occupiedSlots
  rw [hslots, List.Nodup.dedup List.nodup_range]

/-- The first free slot. -/
theorem availableSoulX402InvocationGrantUsageSlots_range {maxUsage : Int} {n : Nat}
    (hn : (n : Int) < maxUsage) :
    ∃ rest, availableSoulX402InvocationGrantUsageSlots maxUsage (List.range n) = n :: rest := by
  have hsplit : maxUsage.toNat = n + ((maxUsage.toNat - n - 1) + 1) := by omega
  have htaken : (List.range n).filter (fun x => decide (x ∉ List.range n)) = [] := by
    rw [List.filter_eq_nil_iff]
    intro x hx
    simpa using hx
  unfold availableSoulX402InvocationGrantUsageSlots
  rw [hsplit, List.range_add, List.filter_append, htaken, List.nil_append, List.range_succ_eq_map,
    List.map_cons, List.filter_cons_of_pos (by simp), Nat.add_zero]
  exact ⟨_, rfl⟩

end Rows

/-! ## What holds of every history -/

section History

variable {ι : Type}

/-- The event claims a slot. -/
def Claims (slot : Nat) (e : Event ι Op Table Choice) : Prop :=
  e.before.usages.length = slot ∧ e.after.usages.length = slot + 1

/-- The counter updates arrive in the order of the claims, and none is lost. -/
def InOrder (o : Op) (c : Choice) (s : Traced ι Op Table Choice) : Prop :=
  ∀ slot ∈ o.records, c.fault ≠ .lost ∧ ∀ e ∈ s.log, ∀ earlier ∈ e.op.records, earlier ≤ slot

instance (o : Op) (c : Choice) (s : Traced ι Op Table Choice) : Decidable (InOrder o c s) := by
  unfold InOrder
  infer_instance

structure Counted (maxUsage : Int) (s : Traced ι Op Table Choice) : Prop where
  grant : s.state.HasMaxUsage maxUsage
  slots : s.state.Contiguous
  bound : s.state.ConsumedUsageCount ≤ s.state.usages.length
  recorded : ∀ slot, s.state.ConsumedUsageCount = slot + 1 → ∃ e ∈ s.log, slot ∈ e.op.records
  claimed : ∀ slot < s.state.usages.length, ∃ e ∈ s.log, Claims slot e

variable {maxUsage : Int} {i : ι} {o : Op} {c : Choice} {s : Traced ι Op Table Choice}
  {usage : SoulX402InvocationGrantUsage}

/-- An operation that leaves the rows as they are. -/
theorem Counted.same (h : Counted maxUsage s) (hsame : (s.state.handle o c).2 = s.state) :
    Counted maxUsage ((Traced.env tableEnv i).handle o c s).2 := by
  have hstate : ((Traced.env tableEnv i).handle o c s).2.state = s.state := hsame
  refine ⟨?_, ?_, ?_, fun slot hslot => ?_, fun slot hslot => ?_⟩
  · rw [hstate]
    exact h.grant
  · rw [hstate]
    exact h.slots
  · rw [hstate]
    exact h.bound
  · rw [hstate] at hslot
    obtain ⟨e, he, hrecords⟩ := h.recorded slot hslot
    exact ⟨e, List.mem_append_left _ he, hrecords⟩
  · rw [hstate] at hslot
    obtain ⟨e, he, hclaims⟩ := h.claimed slot hslot
    exact ⟨e, List.mem_append_left _ he, hclaims⟩

/-- A claim of the next slot. -/
theorem Counted.claim (h : Counted maxUsage s) (hslot : usage.UsageSlot = s.state.usages.length)
    (hafter : (s.state.handle o c).2 = { s.state with usages := s.state.usages ++ [usage.UpdateKeys] }) :
    Counted maxUsage ((Traced.env tableEnv i).handle o c s).2 := by
  have hstate : ((Traced.env tableEnv i).handle o c s).2.state
      = { s.state with usages := s.state.usages ++ [usage.UpdateKeys] } := hafter
  refine ⟨?_, ?_, ?_, fun slot hcount => ?_, fun slot hlt => ?_⟩
  · rw [hstate]
    exact h.grant
  · rw [hstate]
    exact h.slots.append hslot
  · rw [hstate]
    simp only [List.length_append, List.length_singleton]
    exact Nat.le_succ_of_le h.bound
  · rw [hstate] at hcount
    obtain ⟨e, he, hrecords⟩ := h.recorded slot hcount
    exact ⟨e, List.mem_append_left _ he, hrecords⟩
  · rw [hstate] at hlt
    simp only [List.length_append, List.length_singleton] at hlt
    by_cases hold : slot < s.state.usages.length
    · obtain ⟨e, he, hclaims⟩ := h.claimed slot hold
      exact ⟨e, List.mem_append_left _ he, hclaims⟩
    · -- the new row
      have hnew : slot = s.state.usages.length := by omega
      refine ⟨_, List.mem_append_right _ List.mem_cons_self, hnew.symm, ?_⟩
      show (s.state.handle o c).2.usages.length = slot + 1
      rw [hafter, hnew]
      simp

theorem update_cases (h : s.state.HasMaxUsage maxUsage) (usage : SoulX402InvocationGrantUsage) (n : Nat)
    (now : Time) :
    ∃ t, s.state.update usage n now = (.ok (), t) ∧ t.usages = s.state.usages ∧
      t.ConsumedUsageCount = n ∧ t.HasMaxUsage maxUsage := by
  obtain ⟨grant, hgrant, hmax⟩ := h
  unfold Table.update
  rw [hgrant]
  exact ⟨_, rfl, rfl, rfl, _, rfl, hmax⟩

/-- An update of the counter, after all that were due. -/
theorem Counted.record (h : Counted maxUsage s) {slot : Nat} {now : Time} (hslot : usage.UsageSlot = slot)
    (hrows : slot < s.state.usages.length) (horder : InOrder (.updateGrant usage (slot + 1) now) c s) :
    let after := ((Traced.env tableEnv i).handle (.updateGrant usage (slot + 1) now) c s).2
    Counted maxUsage after ∧ after.state.ConsumedUsageCount = slot + 1 ∧
      s.state.ConsumedUsageCount ≤ slot + 1 ∧ after.state.usages = s.state.usages := by
  intro after
  obtain ⟨hfault, hearlier⟩ := horder slot (by rw [← hslot]; rfl)
  obtain ⟨t, hupdate, husages, hcount, hmax⟩ := update_cases h.grant usage (slot + 1) now
  have hstate : after.state = t := by
    show (c.attempt s.state (s.state.update usage (slot + 1) now)).2 = t
    rw [attempt_kept hfault, hupdate]
  have hgrows : s.state.ConsumedUsageCount ≤ slot + 1 := by
    cases hbefore : s.state.ConsumedUsageCount with
    | zero => exact Nat.zero_le _
    | succ last =>
        obtain ⟨e, he, hrecords⟩ := h.recorded last hbefore
        exact Nat.succ_le_succ (hearlier e he last hrecords)
  refine ⟨⟨?_, ?_, ?_, fun slot' hslot' => ?_, fun slot' hlt => ?_⟩, ?_, hgrows, ?_⟩
  · rw [hstate]
    exact hmax
  · rw [hstate]
    unfold Table.Contiguous
    rw [husages]
    exact h.slots
  · rw [hstate, hcount, husages]
    exact hrows
  · rw [hstate, hcount] at hslot'
    refine ⟨_, List.mem_append_right _ List.mem_cons_self, ?_⟩
    show slot' ∈ some usage.UsageSlot
    rw [hslot, Nat.succ.inj hslot']
    rfl
  · rw [hstate, husages] at hlt
    obtain ⟨e, he, hclaims⟩ := h.claimed slot' hlt
    exact ⟨e, List.mem_append_left _ he, hclaims⟩
  · rw [hstate, hcount]
  · rw [hstate, husages]

end History

/-! ## The contract of a request -/

section Contract

variable {ι : Type} [DecidableEq ι]

/-- Rows and counter only grow. -/
def Grows (t t' : Table) : Prop :=
  t.usages.length ≤ t'.usages.length ∧ t.ConsumedUsageCount ≤ t'.ConsumedUsageCount

theorem Grows.refl (t : Table) : Grows t t := ⟨Nat.le_refl _, Nat.le_refl _⟩

theorem Grows.trans {t t' t'' : Table} (h : Grows t t') (h' : Grows t' t'') : Grows t t'' :=
  ⟨Nat.le_trans h.1 h'.1, Nat.le_trans h.2 h'.2⟩

def counterContract (maxUsage : Int) (i : ι) : Contract Op (Traced ι Op Table Choice) Choice where
  inv := Counted maxUsage
  assume := InOrder
  rely s s' := Grows s.state s'.state ∧ s'.own i = s.own i
  guar s s' := Grows s.state s'.state ∧ ∀ j, i ≠ j → s'.own j = s.own j
  rely_refl _ := ⟨Grows.refl _, rfl⟩
  rely_trans h h' := ⟨h.1.trans h'.1, h'.2.trans h.2⟩

/-- The request keeps the contract and ends in `Q`. -/
abbrev Keeps {α : Type} (maxUsage : Int) (i : ι)
    (Q : Except AppTheoryError α → Traced ι Op Table Choice → Prop) (p : Handler α)
    (s : Traced ι Op Table Choice) : Prop :=
  p.Meets (Traced.env tableEnv i) (counterContract maxUsage i) Q s

/-- The request has claimed nothing. -/
def Quiet (i : ι) (s : Traced ι Op Table Choice) : Prop := ∀ e ∈ s.own i, ∀ slot, ¬ Claims slot e

/-- What the request has claimed is counted. -/
def Recorded (i : ι) (s : Traced ι Op Table Choice) : Prop :=
  ∀ e ∈ s.own i, ∀ slot, Claims slot e → slot < s.state.ConsumedUsageCount

/-- The end of a part that claims nothing. -/
def Reading {α : Type} (i : ι) (R : α → Traced ι Op Table Choice → Prop) :
    Except AppTheoryError α → Traced ι Op Table Choice → Prop
  | .ok a, s => Quiet i s ∧ R a s
  | .error e, _ => e ≠ grantUsageExhausted

/-- The end of a request. -/
def Settled {α : Type} (maxUsage : Int) (i : ι) :
    Except AppTheoryError α → Traced ι Op Table Choice → Prop
  | .ok _, s => Recorded i s
  | .error e, s => e = grantUsageExhausted → maxUsage ≤ s.state.usages.length

variable {maxUsage : Int} {i : ι} {s s' : Traced ι Op Table Choice}

theorem Quiet.later (h : Quiet i s) (hrely : (counterContract maxUsage i).rely s s') : Quiet i s' := by
  unfold Quiet
  rw [hrely.2]
  exact h

theorem Quiet.recorded (h : Quiet i s) : Recorded i s := fun e he slot hclaims => absurd hclaims (h e he slot)

theorem Recorded.later (h : Recorded i s) (hrely : (counterContract maxUsage i).rely s s') :
    Recorded i s' := by
  intro e he slot hclaims
  rw [hrely.2] at he
  exact Nat.lt_of_lt_of_le (h e he slot hclaims) hrely.1.2

theorem guar_handle {o : Op} {c : Choice} (h : Grows s.state (s.state.handle o c).2) :
    (counterContract maxUsage i).guar s ((Traced.env tableEnv i).handle o c s).2 :=
  ⟨h, fun _ hj => Traced.own_handle_other hj o c s⟩

/-- An operation that claims nothing. -/
theorem Quiet.handle (h : Quiet i s) {o : Op} {c : Choice}
    (hrows : (s.state.handle o c).2.usages = s.state.usages) :
    Quiet i ((Traced.env tableEnv i).handle o c s).2 := by
  intro e he slot hclaims
  rw [Traced.own_handle_self, List.mem_append] at he
  rcases he with he | he
  · exact h e he slot hclaims
  · obtain rfl := List.mem_singleton.1 he
    have hafter : (s.state.handle o c).2.usages.length = slot + 1 := hclaims.2
    have hbefore : s.state.usages.length = slot := hclaims.1
    rw [hrows] at hafter
    omega

section Rules

variable {α β : Type} {R : α → Traced ι Op Table Choice → Prop}

theorem reading_fail {e : AppTheoryError} (he : e ≠ grantUsageExhausted) :
    Keeps maxUsage i (Reading i R) (.fail e : Handler α) s :=
  Prog.meets_fail fun _ _ _ => he

theorem reading_pure {a : α} (hq : Quiet i s)
    (h : ∀ t, (counterContract maxUsage i).rely s t → Counted maxUsage t → R a t) :
    Keeps maxUsage i (Reading i R) (pure a) s :=
  Prog.meets_pure fun t ht hi => ⟨hq.later ht, h t ht hi⟩

theorem reading_bind {p : Handler α} {f : α → Handler β} {R' : β → Traced ι Op Table Choice → Prop}
    (h : Keeps maxUsage i (Reading i R) p s)
    (hf : ∀ a t, Quiet i t → R a t → Keeps maxUsage i (Reading i R') (f a) t) :
    Keeps maxUsage i (Reading i R') (p >>= f) s :=
  Prog.meets_bind h (fun a t hR => hf a t hR.1 hR.2) fun _ _ he => he

theorem settled_bind {p : Handler α} {f : α → Handler β} (h : Keeps maxUsage i (Reading i R) p s)
    (hf : ∀ a t, Quiet i t → R a t → Keeps maxUsage i (Settled maxUsage i) (f a) t) :
    Keeps maxUsage i (Settled maxUsage i) (p >>= f) s :=
  Prog.meets_bind h (fun a t hR => hf a t hR.1 hR.2) fun _ _ he heq => absurd heq he

theorem reading_liftExcept {x : Except AppTheoryError α} (hq : Quiet i s)
    (hok : ∀ a, x = .ok a → ∀ t, (counterContract maxUsage i).rely s t → R a t)
    (herr : ∀ e, x = .error e → e ≠ grantUsageExhausted) :
    Keeps maxUsage i (Reading i R) (liftExcept x) s := by
  cases x with
  | ok a => exact reading_pure hq fun t ht _ => hok a rfl t ht
  | error e => exact reading_fail (herr e rfl)

/-- An operation that leaves the rows as they are. -/
theorem reading_perform {o : Op} (hsame : ∀ c t, (Table.handle o c t).2 = t) (hq : Quiet i s)
    {R : o.Res → Traced ι Op Table Choice → Prop}
    (h : ∀ t u : Traced ι Op Table Choice, Grows s.state t.state → Counted maxUsage t →
      Grows t.state u.state → ∀ c, R (t.state.handle o c).1 u) :
    Keeps maxUsage i (Reading i R) (Prog.perform o) s := by
  refine Prog.meets_perform fun t ht hinv c _ => ?_
  have hstate : (t.state.handle o c).2 = t.state := hsame c t.state
  have hgrows : Grows t.state (t.state.handle o c).2 := by
    rw [hstate]
    exact Grows.refl _
  refine ⟨hinv.same hstate, guar_handle hgrows, fun u hu _ => ⟨?_, ?_⟩⟩
  · exact ((hq.later ht).handle (congrArg Table.usages hstate)).later hu
  · exact h t u ht.1 hinv (hgrows.trans hu.1) c

end Rules

/-! ## The parts of a request -/

theorem validateSoulX402GrantForConsume_ok {grant : SoulX402InvocationGrant}
    {req : validatedSoulX402GrantConsume} {now : Time} {a : Unit}
    (h : validateSoulX402GrantForConsume grant req now = .ok a) :
    1 ≤ grant.MaxUsage ∧ grant.MaxUsage ≤ x402GrantMaximumUsage := by
  unfold validateSoulX402GrantForConsume at h
  split_ifs at h with _ _ _ _ _ hmax
  simpa only [not_or, not_lt] using hmax

theorem validateSoulX402GrantForConsume_error {grant : SoulX402InvocationGrant}
    {req : validatedSoulX402GrantConsume} {now : Time} {e : AppTheoryError}
    (h : validateSoulX402GrantForConsume grant req now = .error e) : e ≠ grantUsageExhausted := by
  unfold validateSoulX402GrantForConsume at h
  split_ifs at h <;> (cases h; decide)

theorem findReplay_error {req : validatedSoulX402GrantConsume} {e : AppTheoryError}
    {items : List SoulX402InvocationGrantUsage} (h : findReplay req items = .error e) :
    e ≠ grantUsageExhausted := by
  induction items with
  | nil => cases h
  | cons item items ih =>
      unfold findReplay at h
      split_ifs at h
      · cases h
        decide
      · exact ih h

theorem handle_getGrant (c : Choice) (t : Table) : (t.handle .getGrant c).2 = t :=
  (attempt_snd c t _).elim id id

theorem handle_listUsages (limit : Int) (c : Choice) (t : Table) :
    (t.handle (.listUsages limit) c).2 = t :=
  (attempt_snd c t _).elim id id

theorem reading_now (hq : Quiet i s) :
    Keeps maxUsage i (Reading i fun _ _ => True) (Prog.perform (.now : Op)) s :=
  reading_perform (fun _ _ => rfl) hq fun _ _ _ _ _ _ => trivial

/-- The grant that a request has loaded. -/
def Loaded (maxUsage : Int) (grant : SoulX402InvocationGrant) : Prop :=
  grant.MaxUsage = maxUsage ∧ 1 ≤ maxUsage ∧ maxUsage ≤ x402GrantMaximumUsage

theorem reading_loadSoulX402GrantForConsume (req : validatedSoulX402GrantConsume) (hq : Quiet i s) :
    Keeps maxUsage i (Reading i fun grant _ => Loaded maxUsage grant)
      (loadSoulX402GrantForConsume req) s := by
  unfold loadSoulX402GrantForConsume
  refine reading_bind (R := fun x _ => ∀ grant, x = .ok grant → grant.MaxUsage = maxUsage)
    (reading_perform handle_getGrant hq fun t _ _ hinv _ c grant hread => ?_) fun x t hq hx => ?_
  · obtain ⟨row, hrow, hmax⟩ := hinv.grant
    have hfound := (attempt_ok hread).1
    rw [hrow] at hfound
    cases hfound
    exact hmax
  · split
    · exact reading_fail (by decide)
    · exact reading_fail (by decide)
    · next grant =>
        refine reading_bind (reading_now hq) fun now t hq _ => ?_
        refine reading_bind (reading_liftExcept (R := fun _ _ => Loaded maxUsage grant) hq
          (fun a hok _ _ => ?_) fun e => validateSoulX402GrantForConsume_error) fun _ t hq hloaded =>
            reading_pure hq fun _ _ _ => hloaded
        have hmax : grant.MaxUsage = maxUsage := hx grant rfl
        have hrange := validateSoulX402GrantForConsume_ok hok
        rw [hmax] at hrange
        exact ⟨hmax, hrange⟩

theorem reading_authorizeSoulX402GrantConsumeInstance (grant : SoulX402InvocationGrant) (hq : Quiet i s) :
    Keeps maxUsage i (Reading i fun _ _ => True) (authorizeSoulX402GrantConsumeInstance grant) s := by
  unfold authorizeSoulX402GrantConsumeInstance
  refine reading_bind (R := fun _ _ => True)
    (reading_perform (fun _ _ => rfl) hq fun _ _ _ _ _ _ => trivial) fun access t hq _ => ?_
  cases access with
  | granted => exact reading_pure hq fun _ _ _ => trivial
  | notFound => exact reading_fail (by decide)
  | failed => exact reading_fail (by decide)
  | inactive => exact reading_fail (by decide)
  | refused => exact reading_fail (by decide)

/-- What a request has seen of the rows: all of them, or as many as the grant allows. -/
def Seen (maxUsage : Int) (least : Nat) (items : List SoulX402InvocationGrantUsage)
    (s : Traced ι Op Table Choice) : Prop :=
  ∃ n, occupiedSlots items = List.range n ∧ n ≤ s.state.usages.length ∧ (maxUsage ≤ n ∨ least ≤ n)

omit [DecidableEq ι] in
theorem Seen.later {least : Nat} {items : List SoulX402InvocationGrantUsage} (h : Seen maxUsage least items s)
    (hgrows : Grows s.state s'.state) : Seen maxUsage least items s' := by
  obtain ⟨n, hslots, hrows, hleast⟩ := h
  exact ⟨n, hslots, Nat.le_trans hrows hgrows.1, hleast⟩

theorem reading_loadSoulX402InvocationGrantUsageSnapshot {grant : SoulX402InvocationGrant}
    (req : validatedSoulX402GrantConsume) (hgrant : Loaded maxUsage grant) {least : Nat}
    (hleast : least ≤ s.state.usages.length) (hq : Quiet i s) :
    Keeps maxUsage i (Reading i fun snapshot t => Seen maxUsage least snapshot.1 t)
      (loadSoulX402InvocationGrantUsageSnapshot grant req) s := by
  obtain ⟨hmax, hrange⟩ := hgrant
  unfold loadSoulX402InvocationGrantUsageSnapshot
  refine reading_bind (R := fun x t => ∀ items, x = .ok items → Seen maxUsage least items t)
    (reading_perform (handle_listUsages _) hq fun t u ht hinv hu c items hread => ?_) fun x t hq hx => ?_
  · have hitems : t.state.list maxUsage = items := by
      rw [← hmax]
      exact Except.ok.inj (attempt_ok hread).1
    refine ⟨min maxUsage.toNat t.state.usages.length, ?_, ?_, ?_⟩
    · rw [← hitems]
      exact hinv.slots.occupied hrange
    · exact Nat.le_trans (Nat.min_le_right _ _) hu.1
    · have hgrown := ht.1
      omega
  · split
    · exact reading_fail (by decide)
    · next items =>
        refine reading_bind (reading_liftExcept (R := fun _ t => Seen maxUsage least items t) hq
          (fun replay _ t ht => (hx items rfl).later ht.1) fun _ => findReplay_error) fun replay t hq hseen =>
            reading_pure hq fun u hu _ => hseen.later hu.1

/-! ## Claiming a slot -/

theorem handle_createUsage (usage : SoulX402InvocationGrantUsage) (c : Choice) (t : Table) :
    (t.handle (.createUsage usage) c).2 = t ∨
    usage.UsageSlot ∉ t.usages.map (·.UsageSlot) ∧
      (t.handle (.createUsage usage) c).2 = { t with usages := t.usages ++ [usage.UpdateKeys] } := by
  rcases attempt_snd c t (t.create usage) with hsame | hdone
  · exact Or.inl hsame
  · by_cases hslot : usage.UsageSlot ∈ t.usages.map (·.UsageSlot)
    · refine Or.inl (hdone.trans ?_)
      unfold Table.create
      rw [if_pos hslot]
    · refine Or.inr ⟨hslot, hdone.trans ?_⟩
      unfold Table.create
      rw [if_neg hslot]

/-- The row is there. -/
theorem createUsage_ok {usage : SoulX402InvocationGrantUsage} {c : Choice} {t : Table}
    (h : (t.handle (.createUsage usage) c).1 = .ok ()) :
    usage.UsageSlot ∉ t.usages.map (·.UsageSlot) ∧
      (t.handle (.createUsage usage) c).2 = { t with usages := t.usages ++ [usage.UpdateKeys] } := by
  obtain ⟨hcreate, hafter⟩ := attempt_ok h
  unfold Table.create at hcreate
  split_ifs at hcreate with hslot
  refine ⟨hslot, hafter.trans ?_⟩
  unfold Table.create
  rw [if_neg hslot]

/-- The slot was taken. -/
theorem createUsage_conditionFailed {usage : SoulX402InvocationGrantUsage} {c : Choice} {t : Table}
    (h : (t.handle (.createUsage usage) c).1 = .error .conditionFailed) :
    usage.UsageSlot ∈ t.usages.map (·.UsageSlot) ∧ (t.handle (.createUsage usage) c).2 = t := by
  have hcreate := attempt_conditionFailed h
  unfold Table.create at hcreate
  split_ifs at hcreate with hslot
  exact ⟨hslot, (handle_createUsage usage c t).resolve_right fun hfree => hfree.1 hslot⟩

/-- Where a request stands after it has tried to claim a slot. -/
def Tried (i : ι) (slot : Nat) :
    Except AppTheoryError (Except StoreError Unit) → Traced ι Op Table Choice → Prop
  | .ok (.ok ()), s => (∀ e ∈ s.own i, ∀ slot', Claims slot' e → slot' = slot) ∧ slot < s.state.usages.length
  | .ok (.error .conditionFailed), s => Quiet i s ∧ slot < s.state.usages.length
  | .ok (.error _), _ => True
  | .error _, _ => False

theorem tried_createUsage {usage : SoulX402InvocationGrantUsage} (hq : Quiet i s)
    (hslot : usage.UsageSlot ≤ s.state.usages.length) :
    Keeps maxUsage i (Tried i usage.UsageSlot) (Prog.perform (.createUsage usage : Op)) s := by
  refine @Prog.meets_perform Op Op.Res AppTheoryError _ _ _ _ _ (.createUsage usage)
    (Tried i usage.UsageSlot) fun t ht hinv c _ => ?_
  have hquiet : Quiet i t := hq.later ht
  have hnext : usage.UsageSlot ≤ t.state.usages.length := Nat.le_trans hslot ht.1.1
  have hkeeps : Counted maxUsage ((Traced.env tableEnv i).handle (.createUsage usage) c t).2 ∧
      Grows t.state (t.state.handle (.createUsage usage) c).2 := by
    rcases handle_createUsage usage c t.state with hsame | ⟨hfree, hafter⟩
    · refine ⟨hinv.same hsame, ?_⟩
      rw [hsame]
      exact Grows.refl _
    · rw [hinv.slots.mem] at hfree
      refine ⟨hinv.claim (by omega) hafter, ?_⟩
      rw [hafter]
      exact ⟨by simp, Nat.le_refl _⟩
  refine ⟨hkeeps.1, guar_handle hkeeps.2, fun u hu _ => ?_⟩
  have hown := hu.2
  rw [Traced.own_handle_self] at hown
  show Tried i usage.UsageSlot (.ok (t.state.handle (.createUsage usage) c).1) u
  cases hanswer : (t.state.handle (.createUsage usage) c).1 with
  | ok a =>
      obtain ⟨hfree, hafter⟩ := createUsage_ok hanswer
      rw [hinv.slots.mem] at hfree
      refine ⟨fun e he slot hclaims => ?_, ?_⟩
      · rw [hown, List.mem_append] at he
        rcases he with he | he
        · exact absurd hclaims (hquiet e he slot)
        · obtain rfl := List.mem_singleton.1 he
          have hbefore : t.state.usages.length = slot := hclaims.1
          omega
      · have hgrown := hu.1.1
        rw [Traced.handle_state] at hgrown
        have hrows : (tableEnv.handle (.createUsage usage) c t.state).2.usages.length
            = t.state.usages.length + 1 := by
          show (t.state.handle (.createUsage usage) c).2.usages.length = _
          rw [hafter]
          simp
        omega
  | error e =>
      cases e with
      | conditionFailed =>
          obtain ⟨htaken, hsame⟩ := createUsage_conditionFailed hanswer
          rw [hinv.slots.mem] at htaken
          exact ⟨(hquiet.handle (congrArg Table.usages hsame)).later hu,
            Nat.lt_of_lt_of_le htaken (hkeeps.2.trans hu.1).1⟩
      | _ => trivial

/-- The write that follows a claim. -/
theorem settled_updateGrant {usage : SoulX402InvocationGrantUsage} {now : Time}
    (hown : ∀ e ∈ s.own i, ∀ slot, Claims slot e → slot = usage.UsageSlot)
    (hrows : usage.UsageSlot < s.state.usages.length) :
    Keeps maxUsage i (Settled maxUsage i)
      (Prog.perform (.updateGrant usage (usage.UsageSlot + 1) now : Op)) s := by
  refine @Prog.meets_perform Op Op.Res AppTheoryError _ _ _ _ _
    (.updateGrant usage (usage.UsageSlot + 1) now) (Settled maxUsage i) fun t ht hinv c horder => ?_
  obtain ⟨hcounted, hcount, hgrows, husages⟩ :=
    hinv.record (i := i) rfl (Nat.lt_of_lt_of_le hrows ht.1.1) horder
  rw [Traced.handle_state] at hcount husages
  refine ⟨hcounted, guar_handle ⟨?_, ?_⟩, fun u hu _ => ?_⟩
  · exact Nat.le_of_eq (congrArg List.length husages.symm)
  · exact Nat.le_trans hgrows (Nat.le_of_eq hcount.symm)
  · have hcounts := hu.1.2
    rw [Traced.handle_state, hcount] at hcounts
    intro e he slot hclaims
    rw [hu.2, Traced.own_handle_self, ht.2, List.mem_append] at he
    rcases he with he | he
    · rw [hown e he slot hclaims]
      exact hcounts
    · obtain rfl := List.mem_singleton.1 he
      have hbefore : t.state.usages.length = slot := hclaims.1
      have hafter : (tableEnv.handle (.updateGrant usage (usage.UsageSlot + 1) now) c t.state).2.usages.length
        = slot + 1 := hclaims.2
      rw [husages] at hafter
      omega

/-- Where a request stands after an attempt. -/
def Attempted (maxUsage : Int) (i : ι) (least : Nat) :
    Except AppTheoryError (Option Claimed) → Traced ι Op Table Choice → Prop
  | .ok (some _), s => Recorded i s
  | .ok none, s => Quiet i s ∧ least + 1 ≤ s.state.usages.length
  | .error e, s => e = grantUsageExhausted → maxUsage ≤ s.state.usages.length

theorem attempted_tryClaimSoulX402InvocationGrantUsage {grant : SoulX402InvocationGrant}
    (req : validatedSoulX402GrantConsume) (now : Time) (hgrant : Loaded maxUsage grant) {least : Nat}
    (hleast : least ≤ s.state.usages.length) (hq : Quiet i s) :
    Keeps maxUsage i (Attempted maxUsage i least) (tryClaimSoulX402InvocationGrantUsage grant req now)
      s := by
  unfold tryClaimSoulX402InvocationGrantUsage
  refine Prog.meets_bind
    (reading_loadSoulX402InvocationGrantUsageSnapshot req hgrant hleast hq) (fun snapshot t hR => ?_)
    fun e t he heq => absurd heq he
  obtain ⟨items, replay⟩ := snapshot
  obtain ⟨hq, n, hslots, hrows, hleast⟩ := hR
  dsimp only
  rw [hslots, hgrant.1, List.length_range]
  cases replay with
  | some usage => exact Prog.meets_pure fun u hu _ => (hq.later hu).recorded
  | none =>
      refine Prog.meets_ite (fun hfull => ?_) fun hfree => ?_
      · refine Prog.meets_fail fun u hu _ _ => ?_
        have hgrown := hu.1.1
        omega
      · obtain ⟨rest, havailable⟩ :=
          availableSoulX402InvocationGrantUsageSlots_range (not_le.1 hfree)
        rw [havailable]
        dsimp only
        refine Prog.meets_bind (tried_createUsage hq hrows) (fun answer t hR => ?_) fun e t h => h.elim
        cases answer with
        | ok a =>
            exact Prog.meets_bind (settled_updateGrant hR.1 hR.2)
              (fun _ t hR => Prog.meets_pure fun u hu _ => Recorded.later hR hu) fun e t hR => hR
        | error e =>
            cases e with
            | conditionFailed =>
                refine Prog.meets_pure fun u hu _ => ⟨hR.1.later hu, ?_⟩
                have hgrown := hu.1.1
                have htaken : n < t.state.usages.length := hR.2
                omega
            | _ => exact Prog.meets_fail fun _ _ _ heq => absurd heq (by decide)

/-- Every attempt that fails finds another row. -/
theorem settled_claimAttempts {grant : SoulX402InvocationGrant} (req : validatedSoulX402GrantConsume)
    (now : Time) (hgrant : Loaded maxUsage grant) {attempts least : Nat}
    (henough : maxUsage ≤ least + attempts) (hleast : least ≤ s.state.usages.length) (hq : Quiet i s) :
    Keeps maxUsage i (Settled maxUsage i) (claimAttempts grant req now attempts) s := by
  induction attempts generalizing least s with
  | zero =>
      refine Prog.meets_fail fun u hu _ _ => ?_
      have hgrown := hu.1.1
      omega
  | succ attempts ih =>
      unfold claimAttempts
      refine Prog.meets_bind
        (attempted_tryClaimSoulX402InvocationGrantUsage req now hgrant hleast hq)
        (fun claimed t hR => ?_) fun e t hR => hR
      cases claimed with
      | some claimed => exact Prog.meets_pure fun u hu _ => Recorded.later hR hu
      | none => exact ih (by omega) hR.2 hR.1

theorem settled_handleSoulX402ConsumeInvocationGrant (req : validatedSoulX402GrantConsume)
    (hq : Quiet i s) :
    Keeps maxUsage i (Settled maxUsage i) (handleSoulX402ConsumeInvocationGrant req) s := by
  unfold handleSoulX402ConsumeInvocationGrant
  refine settled_bind (R := fun _ _ => True)
    (reading_perform (fun _ _ => rfl) hq fun _ _ _ _ _ _ => trivial) fun key t hq _ => ?_
  refine Prog.meets_ite (fun _ => ?_) fun _ => ?_
  · exact Prog.meets_fail fun _ _ _ heq => absurd heq (by decide)
  refine settled_bind (reading_loadSoulX402GrantForConsume req hq) fun grant t hq hgrant => ?_
  refine settled_bind (reading_authorizeSoulX402GrantConsumeInstance grant hq) fun _ t hq _ => ?_
  refine settled_bind (reading_now hq) fun now t hq _ => ?_
  have hclaim : Keeps maxUsage i (Settled maxUsage i) (claimSoulX402InvocationGrantUsage grant req now) t := by
    refine settled_claimAttempts req now hgrant ?_ (Nat.zero_le _) hq
    rw [hgrant.1]
    omega
  exact Prog.meets_bind hclaim (fun claimed t hR => Prog.meets_pure fun u hu _ => Recorded.later hR hu)
    fun e t hR => hR

theorem counter_compatible (maxUsage : Int) :
    Compatible (counterContract (ι := ι) maxUsage) (Counted maxUsage) :=
  ⟨fun _ _ => Iff.rfl, fun _ j hij _ _ _ _ h => ⟨h.1, h.2 j hij⟩⟩

end Contract

/-! ## Any number of requests -/

section Run

variable {ι : Type} [DecidableEq ι]

/-- The requests for a grant. -/
def consumers (requests : ι → validatedSoulX402GrantConsume) (t : Table) :
    Config ι Op Op.Res AppTheoryError soulX402GrantConsumeResponse (Traced ι Op Table Choice) where
  state := Traced.start t
  threads i := handleSoulX402ConsumeInvocationGrant (requests i)

/-- A grant that has just been issued. -/
structure Issued (grant : SoulX402InvocationGrant) (t : Table) : Prop where
  row : t.grant = some grant
  count : grant.ConsumedUsageCount = 0
  usages : t.usages = []

/-- The counter of a grant keeps step with its rows in a run. -/
structure Converges (maxUsage : Int)
    (cfg : Config ι Op Op.Res AppTheoryError soulX402GrantConsumeResponse (Traced ι Op Table Choice))
    (moves : List (ι × Choice)) : Prop where
  /-- it never decreases -/
  monotone : ∀ first rest, moves = first ++ rest →
    (cfg.run (Traced.env tableEnv) first).state.state.ConsumedUsageCount
      ≤ (cfg.run (Traced.env tableEnv) moves).state.state.ConsumedUsageCount
  bound : (cfg.run (Traced.env tableEnv) moves).state.state.ConsumedUsageCount
    ≤ (cfg.run (Traced.env tableEnv) moves).state.state.usages.length
  /-- the requests that have started have all been answered -/
  settled : (∀ i, (cfg.run (Traced.env tableEnv) moves).state.own i ≠ [] →
      ∃ response, (cfg.run (Traced.env tableEnv) moves).threads i = .ret response) →
    (cfg.run (Traced.env tableEnv) moves).state.state.ConsumedUsageCount
      = (cfg.run (Traced.env tableEnv) moves).state.state.usages.length
  exhausted : ∀ i, (cfg.run (Traced.env tableEnv) moves).threads i = .fail grantUsageExhausted →
    maxUsage ≤ (cfg.run (Traced.env tableEnv) moves).state.state.usages.length

omit [DecidableEq ι] in
theorem Issued.counted {grant : SoulX402InvocationGrant} {t : Table} (h : Issued grant t) :
    Counted grant.MaxUsage (Traced.start t : Traced ι Op Table Choice) := by
  have hcount : t.ConsumedUsageCount = 0 := by
    unfold Table.ConsumedUsageCount
    rw [h.row]
    exact h.count
  refine ⟨⟨grant, h.row, rfl⟩, ?_, ?_, fun slot hslot => ?_, fun slot hslot => ?_⟩
  · show t.usages.map (·.UsageSlot) = List.range t.usages.length
    rw [h.usages]
    rfl
  · show t.ConsumedUsageCount ≤ _
    rw [hcount]
    exact Nat.zero_le _
  · have hsame : t.ConsumedUsageCount = slot + 1 := hslot
    omega
  · have hlt : slot < t.usages.length := hslot
    rw [h.usages] at hlt
    exact absurd hlt (Nat.not_lt_zero slot)

theorem consumers_fit (requests : ι → validatedSoulX402GrantConsume) {grant : SoulX402InvocationGrant}
    {t : Table} (h : Issued grant t) :
    Fits (Traced.env tableEnv) (counterContract grant.MaxUsage) (Counted grant.MaxUsage)
      (fun i => Settled grant.MaxUsage i) (consumers requests t) :=
  ⟨h.counted, fun i => settled_handleSoulX402ConsumeInvocationGrant (requests i) fun e he => by cases he⟩

/-- **The counter of a grant keeps step with its rows** when the updates arrive in the order of the
    claims. -/
theorem grant_counter (requests : ι → validatedSoulX402GrantConsume) {grant : SoulX402InvocationGrant}
    {t : Table} (hissued : Issued grant t) (moves : List (ι × Choice))
    (horder : Along (Config.step (Traced.env tableEnv)) (Config.Performs fun _ => InOrder)
      (consumers requests t) moves) :
    Converges grant.MaxUsage (consumers requests t) moves := by
  have hcompatible := counter_compatible (ι := ι) grant.MaxUsage
  have hstart := consumers_fit requests hissued
  have hfits := hstart.run hcompatible horder
  refine ⟨fun first rest hsplit => ?_, hfits.inv.bound, fun hended => ?_, fun i hi => ?_⟩
  · subst hsplit
    rw [Config.run_append]
    obtain ⟨hfirst, hrest⟩ := Run.along_append.1 horder
    have hgrows := (hstart.run hcompatible hfirst).run_rel hcompatible
      (R := fun s s' => Grows s.state s'.state) (fun _ => Grows.refl _) (fun h h' => h.trans h')
      (fun _ _ _ hguar => hguar.1) hrest
    exact hgrows.2
  · refine Nat.le_antisymm hfits.inv.bound ?_
    cases hrows : ((consumers requests t).run (Traced.env tableEnv) moves).state.state.usages.length with
    | zero => exact Nat.zero_le _
    | succ last =>
        -- whoever has claimed the last row has been answered
        obtain ⟨e, he, hclaims⟩ := hfits.inv.claimed last (by omega)
        have hown : e ∈ ((consumers requests t).run (Traced.env tableEnv) moves).state.own e.who :=
          List.mem_filter.2 ⟨he, by simp⟩
        obtain ⟨response, hret⟩ := hended e.who (List.ne_nil_of_mem hown)
        exact hfits.answer hcompatible hret e hown last hclaims
  · exact hfits.failure hcompatible hi rfl

end Run

/-! ## Two requests

Two requests for a grant that can be used twice. Both are answered; the one that has claimed the first slot
writes its count last. -/

def sampleGrant : SoulX402InvocationGrant where
  AgentID := "0xa"
  CapabilityVersion := SoulX402InvocationGrantCapabilityVocabularyScopedV1
  Capability := "c"
  Tool := "t"
  Resource := "r"
  Scope := "read"
  RequestHash := "q"
  PaymentEvidenceHash := ""
  GrantTokenHash := "g"
  Status := SoulX402InvocationGrantStatusIssued
  MaxUsage := 2
  ConsumedUsageCount := 0
  LatestConsumeSlot := 0
  LatestConsumeRequest := ""
  ExpiresAt := ⟨2, .utc⟩
  LastConsumedAt := ⟨0, .utc⟩

def sampleTable : Table := ⟨some sampleGrant, []⟩

def sampleConsume (second : Bool) : validatedSoulX402GrantConsume where
  grantTokenHash := "g"
  agentIDHex := "0xa"
  capabilityVersion := SoulX402InvocationGrantCapabilityVocabularyScopedV1
  capability := "c"
  tool := "t"
  resource := "r"
  requestHash := "q"
  idempotencyHash := if second then "k2" else "k1"
  paymentEvidenceHash := ""
  consumeRequestHash := "b"

def sampleConsumers :
    Config Bool Op Op.Res AppTheoryError soulX402GrantConsumeResponse (Traced Bool Op Table Choice) :=
  consumers sampleConsume sampleTable

theorem sampleTable_issued : Issued sampleGrant sampleTable := ⟨rfl, rfl, rfl⟩

def sampleChoice : Choice := ⟨.none, true, .granted, ⟨1, .utc⟩⟩

/-- One request after the other. -/
def sampleMoves : List (Bool × Choice) :=
  (List.replicate 8 false ++ List.replicate 8 true).map fun i => (i, sampleChoice)

theorem grant_counter_sample : Converges 2 sampleConsumers sampleMoves :=
  grant_counter sampleConsume sampleTable_issued sampleMoves (by decide +kernel)

/-- The second request claims its slot and writes its count before the first one has written its own. -/
def overtakenMoves : List (Bool × Choice) :=
  (List.replicate 7 false ++ List.replicate 8 true).map fun i => (i, sampleChoice)

theorem overtaken_two :
    (sampleConsumers.run (Traced.env tableEnv) overtakenMoves).state.state.ConsumedUsageCount = 2 := by
  decide +kernel

theorem overtaken_one : (sampleConsumers.run (Traced.env tableEnv)
    (overtakenMoves ++ [(false, sampleChoice)])).state.state.ConsumedUsageCount = 1 := by
  decide +kernel

theorem not_grant_counter :
    ¬ ∀ (requests : Bool → validatedSoulX402GrantConsume) (grant : SoulX402InvocationGrant) (t : Table),
      Issued grant t → ∀ moves : List (Bool × Choice),
        Converges grant.MaxUsage (consumers requests t) moves := by
  intro h
  have hconverges := h sampleConsume sampleGrant sampleTable sampleTable_issued
    (overtakenMoves ++ [(false, sampleChoice)])
  have hmonotone := hconverges.monotone overtakenMoves [(false, sampleChoice)] rfl
  have htwo := overtaken_two
  have hone := overtaken_one
  unfold sampleConsumers at htwo hone
  rw [htwo, hone] at hmonotone
  exact absurd hmonotone (by decide)

end LesserHost.X402
