import LesserHost.Budget.Edits

set_option autoImplicit false

/-! # The cap of a month

A debit that may not exceed the budget asks, when it is committed, for the included credits it has read and for
used credits that leave room for it. So in any interleaving of debits and purchases the used credits of a month
stay below its included ones (`month_capped`), whatever answers are lost on the way. It takes an edit of the
month, or the overage policy, to pass them. -/

namespace LesserHost.Budget

open LesserHost.Go Prog
open LesserHost.ControlPlane (AppTheoryError StoreError)

section Cap

variable {ι : Type}

/-- The month is within its budget, and its credits are accounted for. -/
structure Capped (key : Key) (used included : Int) (s : Traced ι Op Table Choice) : Prop where
  used : s.state.usedCredits key = used + s.total (debited key)
  included : s.state.includedCredits key = included + s.total (purchased key)
  within : s.state.usedCredits key ≤ s.state.includedCredits key
  rows : ∀ k row, s.state.budgets k = some row → 0 ≤ row.used
  purchases : ∀ id purchase, s.state.purchases id = some purchase → 0 ≤ purchase.Credits

/-- The month is not edited, and its instance may not exceed its budget. -/
def Strict (key : Key) : ι → Op → Choice → Traced ι Op Table Choice → Prop
  | _, .putBudget row, _, _ => row.key ≠ key
  | _, .overagePolicy slug, c, _ => slug = key.1 → ToLower (TrimSpace c.overagePolicy) ≠ overagePolicyAllow
  | _, _, _, _ => True

instance (key : Key) (i : ι) (o : Op) (c : Choice) (s : Traced ι Op Table Choice) :
    Decidable (Strict key i o c s) :=
  match o with
  | .putBudget row => inferInstanceAs (Decidable (row.key ≠ key))
  | .overagePolicy slug =>
      inferInstanceAs (Decidable (slug = key.1 → ToLower (TrimSpace c.overagePolicy) ≠ overagePolicyAllow))
  | .getInstance _ => isTrue trivial
  | .now => isTrue trivial
  | .firstBudget _ => isTrue trivial
  | .createAudit _ _ => isTrue trivial
  | .firstPurchase _ => isTrue trivial
  | .transactDebit _ _ _ => isTrue trivial
  | .transactPaid _ => isTrue trivial

/-- What the handlers owe when they write. -/
def Op.Sound (key : Key) : Op → Prop
  | .putBudget row => 0 ≤ row.used
  | .transactDebit d _ _ => 0 < d.credits ∧ (d.key = key →
      d.maxUsed = some (d.expectedIncludedCredits - d.credits) ∧ d.credits ≤ d.expectedIncludedCredits)
  | .transactPaid p => 0 ≤ p.credits
  | _ => True

/-- What they can count on when they have read. -/
def Op.Told (key : Key) : (o : Op) → o.Res → Prop
  | .firstBudget _, r => ∀ row, r = .ok row → 0 ≤ row.used
  | .firstPurchase _, r => ∀ purchase, r = .ok purchase → 0 ≤ purchase.Credits
  | .overagePolicy slug, r => slug = key.1 → ToLower (TrimSpace r) ≠ overagePolicyAllow
  | _, _ => True

/-! ## One operation -/

variable {key : Key} {used included : Int} {s : Traced ι Op Table Choice} {i : ι}

theorem rows_putBudget {t : Table} {k : Key} {row : InstanceBudgetMonth} (hrow : 0 ≤ row.used)
    (h : ∀ k row, t.budgets k = some row → 0 ≤ row.used) :
    ∀ k' row', (t.putBudget k row).budgets k' = some row' → 0 ≤ row'.used := by
  intro k' row' hget
  unfold Table.putBudget at hget
  dsimp only at hget
  split_ifs at hget with hk
  · cases hget
    exact hrow
  · exact h k' row' hget

/-- The debit of a month leaves room for what it adds. -/
theorem debit_within {t : Table} {d : Debit} (hd : Op.Sound key (.transactDebit d 0 0))
    (h : t.usedCredits key ≤ t.includedCredits key) :
    (t.debit d).2.usedCredits key ≤ (t.debit d).2.includedCredits key := by
  obtain ⟨hused, hincluded⟩ := debit_change key d t
  rw [hused, hincluded]
  split_ifs with hcond
  · obtain ⟨hkey, hallowed⟩ := hcond
    obtain ⟨hmax, hroom⟩ := hd.2 hkey
    cases hrow : t.budgets key with
    | none =>
        rw [hrow] at hallowed
        cases hallowed
    | some row =>
        rw [hrow, Option.any_some, Debit.allowed, Bool.and_eq_true, decide_eq_true_eq, hmax] at hallowed
        obtain ⟨hexpected, hleft⟩ := hallowed
        simp only [Table.usedCredits, Table.includedCredits, hrow, Option.map_some, Option.getD_some,
          InstanceBudgetMonth.used, hexpected]
        cases hu : row.UsedCredits with
        | none =>
            rw [Option.getD_none]
            omega
        | some u =>
            rw [hu] at hleft
            simp only [Option.all_some, decide_eq_true_eq] at hleft
            rw [Option.getD_some]
            omega
  · omega

theorem rows_debit {t : Table} {d : Debit} (hcredits : 0 < d.credits)
    (h : ∀ k row, t.budgets k = some row → 0 ≤ row.used) :
    ∀ k row, (t.debit d).2.budgets k = some row → 0 ≤ row.used := by
  unfold Table.debit
  cases hrow : t.budgets d.key with
  | none => exact h
  | some row =>
      dsimp only
      split_ifs
      · refine rows_putBudget ?_ h
        have hold := h d.key row hrow
        show 0 ≤ row.used + d.credits
        omega
      · exact h

theorem rows_pay {t : Table} {p : Payment}
    (h : ∀ k row, t.budgets k = some row → 0 ≤ row.used)
    (hpurchases : ∀ id purchase, t.purchases id = some purchase → 0 ≤ purchase.Credits) :
    (∀ k row, (t.pay p).2.budgets k = some row → 0 ≤ row.used) ∧
      ∀ id purchase, (t.pay p).2.purchases id = some purchase → 0 ≤ purchase.Credits := by
  unfold Table.pay
  cases hrow : t.purchases p.purchaseID with
  | none => exact ⟨h, hpurchases⟩
  | some purchase =>
      dsimp only
      split_ifs
      · refine ⟨rows_putBudget ?_ h, fun id purchase' hget => ?_⟩
        · cases hbudget : t.budgets p.key with
          | none => exact le_refl 0
          | some row => exact h p.key row hbudget
        · dsimp only at hget
          split_ifs at hget
          · cases hget
            exact hpurchases p.purchaseID purchase hrow
          · exact hpurchases id purchase' hget
      · exact ⟨h, hpurchases⟩

theorem purchases_debit (t : Table) (d : Debit) : (t.debit d).2.purchases = t.purchases := by
  unfold Table.debit
  split
  · rfl
  · split_ifs <;> rfl

/-- The sums go on with what an operation adds to them. -/
theorem Capped.next (h : Capped key used included s) {o : Op} {c : Choice} {t : Table}
    (ht : (tableEnv.handle o c s.state).2 = t)
    (hused : t.usedCredits key
      = s.state.usedCredits key + debited key (⟨i, o, c, s.state, t⟩ : BudgetEvent ι))
    (hincluded : t.includedCredits key
      = s.state.includedCredits key + purchased key (⟨i, o, c, s.state, t⟩ : BudgetEvent ι))
    (hwithin : t.usedCredits key ≤ t.includedCredits key)
    (hrows : ∀ k row, t.budgets k = some row → 0 ≤ row.used)
    (hpurchases : ∀ id purchase, t.purchases id = some purchase → 0 ≤ purchase.Credits) :
    Capped key used included ((Traced.env tableEnv i).handle o c s).2 := by
  subst ht
  refine ⟨?_, ?_, hwithin, hrows, hpurchases⟩
  · rw [Traced.handle_state, Traced.total_handle, ← Int.add_assoc, ← h.used, hused]
  · rw [Traced.handle_state, Traced.total_handle, ← Int.add_assoc, ← h.included, hincluded]

/-- A sound operation keeps the month within its budget. -/
theorem Capped.handle (h : Capped key used included s) {o : Op} (ho : o.Sound key) {c : Choice}
    (hstrict : Strict key i o c s) : Capped key used included ((Traced.env tableEnv i).handle o c s).2 := by
  -- the sums of an operation that does not edit the month
  have hsums := fun hedits : o.edits = false => handle_change key hedits i c s.state
  have hkept : o.edits = false → (tableEnv.handle o c s.state).2 = s.state →
      Capped key used included ((Traced.env tableEnv i).handle o c s).2 := by
    intro hedits hsame
    obtain ⟨hused, hincluded, -⟩ := hsums hedits
    refine h.next rfl hused hincluded ?_ ?_ ?_
    all_goals rw [hsame]
    · exact h.within
    · exact h.rows
    · exact h.purchases
  cases o with
  | getInstance slug => exact hkept rfl rfl
  | overagePolicy slug => exact hkept rfl rfl
  | now => exact hkept rfl rfl
  | firstBudget k => exact hkept rfl ((attempt_snd c s.state _).trans (ite_self s.state))
  | createAudit action target => exact hkept rfl ((attempt_snd c s.state _).trans (ite_self s.state))
  | firstPurchase id => exact hkept rfl ((attempt_snd c s.state _).trans (ite_self s.state))
  | transactDebit d includedDebited overageDebited =>
      by_cases hlost : c.fault = .lost
      · exact hkept rfl ((attempt_snd c s.state _).trans (if_pos hlost))
      · have hsnd : (tableEnv.handle (.transactDebit d includedDebited overageDebited) c s.state).2
            = (s.state.debit d).2 := (attempt_snd c s.state _).trans (if_neg hlost)
        obtain ⟨hused, hincluded, -⟩ := hsums rfl
        refine h.next rfl hused hincluded ?_ ?_ ?_
        all_goals rw [hsnd]
        · exact debit_within ho h.within
        · exact rows_debit ho.1 h.rows
        · rw [purchases_debit]
          exact h.purchases
  | transactPaid p =>
      by_cases hlost : c.fault = .lost
      · exact hkept rfl ((attempt_snd c s.state _).trans (if_pos hlost))
      · have hsnd : (tableEnv.handle (.transactPaid p) c s.state).2 = (s.state.pay p).2 :=
          (attempt_snd c s.state _).trans (if_neg hlost)
        obtain ⟨hused, hincluded, -⟩ := hsums rfl
        obtain ⟨hrows, hpurchases⟩ := rows_pay (p := p) h.rows h.purchases
        refine h.next rfl hused hincluded ?_ (hsnd ▸ hrows) (hsnd ▸ hpurchases)
        obtain ⟨hpaid, hadded⟩ := pay_change key p s.state
        have hcredits : 0 ≤ p.credits := ho
        have hwithin := h.within
        rw [hsnd, hpaid, hadded]
        split_ifs <;> omega
  | putBudget row =>
      by_cases hlost : c.fault = .lost
      · exact h.next ((attempt_snd c s.state _).trans (if_pos hlost)) (Int.add_zero _).symm (Int.add_zero _).symm
          h.within h.rows h.purchases
      · have hkey : ¬ key = row.key := fun heq => hstrict heq.symm
        have hvalues : (s.state.putBudget row.key row).usedCredits key = s.state.usedCredits key ∧
            (s.state.putBudget row.key row).includedCredits key = s.state.includedCredits key := by
          rw [usedCredits_putBudget, includedCredits_putBudget, if_neg hkey, if_neg hkey]
          exact ⟨rfl, rfl⟩
        exact h.next ((attempt_snd c s.state _).trans (if_neg hlost)) (hvalues.1.trans (Int.add_zero _).symm)
          (hvalues.2.trans (Int.add_zero _).symm) (by rw [hvalues.1, hvalues.2]; exact h.within)
          (rows_putBudget ho h.rows) h.purchases

/-- What has been read is in the table. -/
theorem attempt_found {α K : Type} {c : Choice} {t : Table} {rows : K → Option α} {k : K} {row : α}
    (h : (c.attempt t ((rows k).elim (.error .notFound) .ok, t)).1 = .ok row) : rows k = some row := by
  unfold Choice.attempt at h
  cases hget : rows k with
  | none => rw [hget] at h; split at h <;> cases h
  | some found => rw [hget] at h; split at h <;> cases h; rfl

theorem Capped.told (h : Capped key used included s) (o : Op) {c : Choice} (hstrict : Strict key i o c s) :
    o.Told key ((Traced.env tableEnv i).handle o c s).1 := by
  cases o with
  | firstBudget k => exact fun row hrow => h.rows k row (attempt_found hrow)
  | firstPurchase id => exact fun purchase hpurchase => h.purchases id purchase (attempt_found hpurchase)
  | overagePolicy slug => exact hstrict
  | getInstance slug => trivial
  | now => trivial
  | putBudget row => trivial
  | createAudit action target => trivial
  | transactDebit d includedDebited overageDebited => trivial
  | transactPaid p => trivial

/-! ## The requests -/

def capContract (key : Key) (used included : Int) (i : ι) : Contract Op (Traced ι Op Table Choice) Choice where
  inv := Capped key used included
  assume := Strict key i
  rely _ _ := True
  guar _ _ := True
  rely_refl _ := trivial
  rely_trans _ _ := trivial

variable (key used included i) in
/-- The program writes soundly, and its answer satisfies `R`. -/
abbrev Keeps {α : Type} (R : α → Prop) (p : Handler α) : Prop :=
  ∀ s : Traced ι Op Table Choice, p.Meets (Traced.env tableEnv i) (capContract key used included i)
    (Answering fun r _ => R r) s

theorem keeps_perform {o : Op} (ho : o.Sound key) :
    Keeps key used included i (o.Told key) (perform o : Handler o.Res) := fun _ =>
  answers_perform fun _ _ hinv _ hstrict => ⟨Capped.handle hinv ho hstrict, trivial, fun _ _ _ =>
    Capped.told hinv o hstrict⟩

theorem keeps_pure {α : Type} {R : α → Prop} {a : α} (h : R a) :
    Keeps key used included i R (pure a : Handler α) := fun _ => answers_pure fun _ _ _ => h

theorem keeps_fail {α : Type} {R : α → Prop} (code message : String) :
    Keeps key used included i R (fail code message : Handler α) := fun _ => answers_fail

theorem keeps_bind {α β : Type} {R : α → Prop} {R' : β → Prop} {p : Handler α} {f : α → Handler β}
    (h : Keeps key used included i R p) (hf : ∀ a, R a → Keeps key used included i R' (f a)) :
    Keeps key used included i R' (p >>= f) := fun s => answers_bind (h s) fun a t ha => hf a ha t

theorem keeps_ite {α : Type} {R : α → Prop} {c : Prop} [Decidable c] {p q : Handler α}
    (hp : c → Keeps key used included i R p) (hq : ¬ c → Keeps key used included i R q) :
    Keeps key used included i R (if c then p else q) := fun s => meets_ite (fun h => hp h s) fun h => hq h s

theorem keeps_loadInstanceBudgetMonth (k : Key) :
    Keeps key used included i (fun r => ∀ row, r = .ok (some row) → 0 ≤ row.used) (loadInstanceBudgetMonth k) := by
  refine keeps_bind (keeps_perform (o := .firstBudget k) trivial) fun r hr => ?_
  rcases r with (_ | _ | _) | found
  · exact keeps_pure fun row h => nomatch h
  · exact keeps_pure fun row h => nomatch h
  · exact keeps_pure fun row h => nomatch h
  · refine keeps_pure fun row h => ?_
    cases h
    exact hr found rfl

theorem keeps_prepareBudgetDebit (AuthIdentity : String) (body : Body Int) :
    Keeps key used included i
      (fun p => 0 < p.Credits ∧ (TrimSpace p.InstanceSlug = key.1 → p.AllowOverage = false))
      (prepareBudgetDebit AuthIdentity body) := by
  refine keeps_ite (fun _ => keeps_fail _ _) fun _ => ?_
  refine keeps_bind (keeps_perform (o := .overagePolicy (TrimSpace AuthIdentity)) trivial) fun policy hpolicy => ?_
  rcases body with e | credits
  · exact fun _ => answers_fail
  · refine keeps_ite (fun _ => keeps_fail _ _) fun hcredits => ?_
    refine keeps_bind (keeps_perform (o := .now) trivial) fun now _ => keeps_pure ⟨not_le.1 hcredits, fun hslug => ?_⟩
    rw [TrimSpace_idem] at hslug
    exact beq_eq_false_iff_ne.2 (hpolicy hslug)

theorem keeps_handleBudgetDebit (AuthIdentity : String) (body : Body Int) :
    Keeps key used included i (fun _ => True) (handleBudgetDebit AuthIdentity body) := by
  refine keeps_bind (keeps_prepareBudgetDebit AuthIdentity body) fun prepared hprepared => ?_
  obtain ⟨hcredits, hpolicy⟩ := hprepared
  refine keeps_bind (keeps_loadInstanceBudgetMonth _) fun r hr => ?_
  rcases r with e | _ | budget
  · exact keeps_fail _ _
  · exact keeps_pure trivial
  · have hread := hr budget rfl
    refine keeps_ite (fun _ => keeps_pure trivial) fun hroom => ?_
    refine keeps_bind (keeps_perform (o := .now) trivial) fun now _ => ?_
    refine keeps_bind (keeps_perform ⟨hcredits, fun hkey => ?_⟩) fun r _ => ?_
    · -- the month itself: the credits fit into what was left when the row was read
      have hstrict : prepared.AllowOverage = false := hpolicy (congrArg Prod.fst hkey)
      rw [not_and_or, not_lt] at hroom
      refine ⟨by simp only [hstrict, Bool.false_eq_true, if_false], ?_⟩
      rcases hroom with hfits | hallow
      · dsimp only
        omega
      · exact absurd hstrict hallow
    · rcases r with (_ | _ | _) | ⟨⟩
      · exact keeps_fail _ _
      · refine keeps_bind (keeps_loadInstanceBudgetMonth _) fun r _ => ?_
        rcases r with e | _ | latest
        · exact keeps_pure trivial
        · exact keeps_pure trivial
        · exact keeps_pure trivial
      · exact keeps_fail _ _
      · refine keeps_bind (keeps_loadInstanceBudgetMonth _) fun r _ => ?_
        rcases r with e | _ | latest
        · exact keeps_fail _ _
        · exact keeps_fail _ _
        · exact keeps_pure trivial

theorem keeps_handleStripePaymentCheckoutCompleted (session : CheckoutSession) :
    Keeps key used included i (fun _ => True) (handleStripePaymentCheckoutCompleted session) := by
  refine keeps_bind (keeps_perform (o := .now) trivial) fun now _ => ?_
  refine keeps_ite (fun _ => keeps_pure trivial) fun _ => keeps_ite (fun _ => keeps_pure trivial) fun _ => ?_
  refine keeps_bind (keeps_perform (o := .firstPurchase (TrimSpace session.purchaseID)) trivial) fun r hr => ?_
  rcases r with e | purchase
  · exact keeps_pure trivial
  · refine keeps_ite (fun _ => keeps_pure trivial) fun _ => keeps_ite (fun _ => keeps_pure trivial) fun _ => ?_
    have hcredits : 0 ≤ purchase.Credits := hr purchase rfl
    refine keeps_bind (keeps_perform (o := .transactPaid _) hcredits) fun r _ => ?_
    rcases r with (_ | _ | _) | ⟨⟩
    · exact keeps_pure trivial
    · exact keeps_pure trivial
    · exact keeps_pure trivial
    · exact keeps_pure trivial

theorem keeps_putMonth {slug month : String} {included' read : Int} (hread : 0 ≤ read) :
    Keeps key used included i (fun _ => True) (putMonth slug month included' read) := by
  refine keeps_bind (keeps_perform (o := .now) trivial) fun now _ => ?_
  refine keeps_bind (keeps_perform (o := .putBudget _) hread) fun r _ => ?_
  rcases r with e | ⟨⟩
  · exact keeps_fail _ _
  · refine keeps_bind (keeps_perform (o := .createAudit _ _) trivial) fun r _ => ?_
    rcases r with e | ⟨⟩
    · exact keeps_fail _ _
    · exact keeps_pure trivial

theorem keeps_handleSetInstanceBudgetMonth (AuthIdentity operatorRole slug month : String)
    (body : Body setBudgetMonthRequest) :
    Keeps key used included i (fun _ => True)
      (handleSetInstanceBudgetMonth AuthIdentity operatorRole slug month body) := by
  unfold handleSetInstanceBudgetMonth
  cases requireAdmin AuthIdentity operatorRole with
  | error e => exact fun _ => answers_fail
  | ok _ =>
      refine keeps_ite (fun _ => keeps_fail _ _) fun _ => keeps_ite (fun _ => keeps_fail _ _) fun _ =>
        keeps_ite (fun _ => keeps_fail _ _) fun _ => ?_
      refine keeps_bind (keeps_perform (o := .getInstance _) trivial) fun r _ => ?_
      rcases r with (_ | _ | _) | ⟨⟩
      · exact keeps_fail _ _
      · exact keeps_fail _ _
      · exact keeps_fail _ _
      · rcases body with e | req
        · exact fun _ => answers_fail
        · refine keeps_ite (fun _ => keeps_fail _ _) fun _ => ?_
          refine keeps_bind (keeps_perform (o := .firstBudget _) trivial) fun r hr => ?_
          rcases r with (_ | _ | _) | row
          · exact keeps_putMonth (le_refl 0)
          · exact keeps_fail _ _
          · exact keeps_fail _ _
          · exact keeps_putMonth (hr row rfl)

theorem keeps_serve (req : Request) : Keeps key used included i (fun _ => True) req.serve := by
  cases req with
  | set AuthIdentity operatorRole slug month body =>
      exact keeps_bind (keeps_handleSetInstanceBudgetMonth AuthIdentity operatorRole slug month body)
        fun _ _ => keeps_pure trivial
  | debit AuthIdentity body =>
      exact keeps_bind (keeps_handleBudgetDebit AuthIdentity body) fun _ _ => keeps_pure trivial
  | paid session =>
      exact keeps_bind (keeps_handleStripePaymentCheckoutCompleted session) fun _ _ => keeps_pure trivial

/-! ## Runs -/

theorem capContracts_compatible :
    Compatible (fun i : ι => capContract key used included i) (Capped key used included) where
  inv _ _ := Iff.rfl
  guar_rely _ _ _ _ _ _ _ _ := trivial

/-- **No month passes its cap.** In any interleaving of requests that do not edit the month, of an instance that
may not exceed its budget, the month stays within its budget, and every committed debit and every paid purchase
is in its credits, just once. -/
theorem month_capped [DecidableEq ι] (request : ι → Request) (t : Table) (key : Key) (ms : List (ι × Choice))
    (hwithin : t.usedCredits key ≤ t.includedCredits key)
    (hrows : ∀ k row, t.budgets k = some row → 0 ≤ row.used)
    (hpurchases : ∀ id purchase, t.purchases id = some purchase → 0 ≤ purchase.Credits)
    (h : Along (Config.step (Traced.env tableEnv)) (Config.Performs (Strict key)) (budgetRequests request t) ms) :
    Capped key (t.usedCredits key) (t.includedCredits key)
      ((budgetRequests request t).run (Traced.env tableEnv) ms).state := by
  have hfits : Fits (Traced.env tableEnv)
      (fun i => capContract key (t.usedCredits key) (t.includedCredits key) i)
      (Capped key (t.usedCredits key) (t.includedCredits key)) (fun _ => Answering fun _ _ => True)
      (budgetRequests request t) := by
    refine ⟨⟨?_, ?_, hwithin, hrows, hpurchases⟩, fun i => keeps_serve (request i) _⟩
    · rw [budgetRequests, Traced.total_start, Int.add_zero]
      rfl
    · rw [budgetRequests, Traced.total_start, Int.add_zero]
      rfl
  exact (hfits.run capContracts_compatible h).inv

end Cap

/-- Two debits of sixty credits, of which both have read that there are a hundred. -/
def bothDebits : Bool → Request := fun _ => .debit "acme" (.ok 60)

theorem month_capped_both :
    Capped sampleKey 0 100 ((budgetRequests bothDebits sampleTable).run (Traced.env tableEnv)
      (sampleMoves [false, false, false, true, true, true, false, false, true, true, true, false])).state := by
  refine month_capped bothDebits sampleTable sampleKey _ (by decide) ?_ ?_ (by decide)
  · intro k row hrow
    by_cases hk : k = sampleKey
    · subst hk
      cases hrow
      exact le_refl 0
    · simp [sampleTable, hk] at hrow
  · intro id purchase hpurchase
    cases hpurchase

end LesserHost.Budget
