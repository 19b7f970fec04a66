import LesserHost.Budget.Checkout

set_option autoImplicit false

/-! # Deliveries of a purchase, interleaved

A purchase ends paid, expired or failed. The transaction of a settled checkout requires that the purchase
is pending when it commits; the two updates that end a purchase unpaid require only that its row exists,
and `handleStripeCheckoutSessionExpired` has looked at the status in an earlier read. The credits are added
at most once in any case (`payments_once`), but the status says so only as long as no such update is
carried out on a paid purchase (`Timely`). -/

namespace LesserHost.Budget

open LesserHost.Go Prog
open LesserHost.ControlPlane (AppTheoryError StoreError)

/-! ## Operations -/

def CreditPurchaseStatusExpired : String := "expired"
def CreditPurchaseStatusFailed : String := "failed"

inductive PurchaseOp where
  | of (o : Op)
  /-- `IfExists().Update("Status", "UpdatedAt")` -/
  | updateStatus (id status : String)
  /-- the same with the identifiers of the checkout session -/
  | updateCheckout (id : String) (session : CheckoutSession)

abbrev PurchaseOp.Res : PurchaseOp → Type
  | .of o => o.Res
  | .updateStatus .. => Except StoreError Unit
  | .updateCheckout .. => Except StoreError Unit

def Table.updatePurchase (t : Table) (id : String) (f : CreditPurchase → CreditPurchase) :
    Except StoreError Unit × Table :=
  match t.purchases id with
  | none => (.error .conditionFailed, t)
  | some purchase =>
      (.ok (), { t with purchases := fun i => if i = id then some (f purchase) else t.purchases i })

def CreditPurchase.withStatus (status : String) (p : CreditPurchase) : CreditPurchase :=
  { p with Status := status }

def CreditPurchase.withCheckout (session : CheckoutSession) (p : CreditPurchase) : CreditPurchase :=
  { p with
    ProviderCheckoutSessionID := TrimSpace session.ID
    ProviderPaymentIntentID := orElse session.PaymentIntentID p.ProviderPaymentIntentID
    ProviderCustomerID := orElse session.CustomerID p.ProviderCustomerID }

def Table.perform : (o : PurchaseOp) → Choice → Table → o.Res × Table
  | .of o, c, t => t.handle o c
  | .updateStatus id status, c, t => c.attempt t (t.updatePurchase id (.withStatus status))
  | .updateCheckout id session, c, t => c.attempt t (t.updatePurchase id (.withCheckout session))

def purchaseEnv : Prog.Env PurchaseOp PurchaseOp.Res Table Choice := ⟨fun o c t => t.perform o c⟩

abbrev Delivering (α : Type) := Prog PurchaseOp PurchaseOp.Res AppTheoryError α

def lift {α : Type} : Handler α → Delivering α
  | .ret a => .ret a
  | .fail e => .fail e
  | .op o k => .op (.of o) fun r => lift (k r)

/-! ## Deliveries -/

/-- The event of a checkout in payment mode; a checkout in another mode has no purchase. -/
def handleStripeCheckoutSessionCompleted (session : CheckoutSession) : Delivering Unit :=
  if ToLower (TrimSpace session.Mode) = stripeCheckoutModePayment then do
    let _ ← lift (handleStripePaymentCheckoutCompleted session)
    return ()
  else return ()

def handleStripeCheckoutSessionExpired (session : CheckoutSession) : Delivering Unit := do
  let purchaseID := TrimSpace session.purchaseID
  if purchaseID = "" then return ()
  else
    match ← Prog.perform (PurchaseOp.of (.firstPurchase purchaseID)) with
    | .error _ => return ()
    | .ok purchase =>
        if TrimSpace purchase.Status ≠ CreditPurchaseStatusPending then return ()
        else
          let _ ← Prog.perform (PurchaseOp.updateStatus purchaseID CreditPurchaseStatusExpired)
          return ()

def markCreditPurchaseFailedBestEffort (purchaseID : String) : Delivering Unit := do
  let _ ← Prog.perform (PurchaseOp.updateStatus (TrimSpace purchaseID) CreditPurchaseStatusFailed)
  return ()

def updateCreditPurchaseWithCheckoutSessionBestEffort (purchaseID : String) (session : CheckoutSession) :
    Delivering Unit := do
  let _ ← Prog.perform (PurchaseOp.updateCheckout (TrimSpace purchaseID) session)
  return ()

/-- What writes a purchase once it is created. -/
inductive Delivery where
  /-- `checkout.session.completed`, `checkout.session.async_payment_succeeded` -/
  | completed (session : CheckoutSession)
  /-- `checkout.session.expired`, `checkout.session.async_payment_failed` -/
  | expired (session : CheckoutSession)
  /-- the checkout handler, when no checkout session was created -/
  | checkoutFailed (purchaseID : String)
  /-- the checkout handler, when one was created -/
  | checkoutCreated (purchaseID : String) (session : CheckoutSession)

def Delivery.serve : Delivery → Delivering Unit
  | .completed session => handleStripeCheckoutSessionCompleted session
  | .expired session => handleStripeCheckoutSessionExpired session
  | .checkoutFailed purchaseID => markCreditPurchaseFailedBestEffort purchaseID
  | .checkoutCreated purchaseID session => updateCreditPurchaseWithCheckoutSessionBestEffort purchaseID session

section Runs

variable {ι : Type}

abbrev PurchaseEvent (ι : Type) := Event ι PurchaseOp Table Choice

/-- The payment that the operation has committed. -/
def committed (e : PurchaseEvent ι) : Option Payment :=
  match e.op with
  | .of (.transactPaid p) =>
      if e.choice.fault ≠ .lost ∧ (e.before.purchases p.purchaseID).any
          (fun c => c.Status == CreditPurchaseStatusPending) = true then some p else none
  | _ => none

/-- The payments of a purchase, in their order. -/
def payments (id : String) (log : List (PurchaseEvent ι)) : List Payment :=
  (log.filterMap committed).filter fun p => p.purchaseID == id

/-- What the operation adds to the included credits of a month. -/
def added (key : Key) (e : PurchaseEvent ι) : Int :=
  match committed e with
  | some p => if p.key = key then p.credits else 0
  | none => 0

def Table.isPaid (t : Table) (id : String) : Bool := (t.purchases id).any CreditPurchase.isPaid

/-- The credits of the purchase are added to its month at most once, the included credits are what the
    payments add up to, and the purchase is paid exactly when its credits are added. -/
structure PaidOnce (id : String) (purchase : CreditPurchase) (initial : Table)
    (s : Traced ι PurchaseOp Table Choice) : Prop where
  once : (payments id s.log).length ≤ 1
  amount : ∀ p ∈ payments id s.log, p.credits = purchase.Credits ∧ p.key = purchase.key
  included : ∀ key, s.state.includedCredits key = initial.includedCredits key + s.total (added key)
  paid : s.state.isPaid id = true ↔ payments id s.log ≠ []

/-- No update ends the purchase expired or failed while it is paid. -/
def Timely (id : String) : ι → PurchaseOp → Choice → Traced ι PurchaseOp Table Choice → Prop
  | _, .updateStatus target _, c, s => target = id → c.fault ≠ .lost → s.state.isPaid id = false
  | _, _, _, _ => True

instance (id : String) (i : ι) (o : PurchaseOp) (c : Choice) (s : Traced ι PurchaseOp Table Choice) :
    Decidable (Timely id i o c s) := by
  cases o <;> unfold Timely <;> infer_instance

/-! ## One operation -/

variable {id : String} {purchase row : CreditPurchase} {initial t : Table} {i : ι} {c : Choice}
  {s : Traced ι PurchaseOp Table Choice}

theorem payments_append (id : String) (log : List (PurchaseEvent ι)) (e : PurchaseEvent ι) :
    payments id (log ++ [e]) = payments id log ++ payments id [e] := by
  unfold payments
  rw [List.filterMap_append, List.filter_append]

theorem payments_none {e : PurchaseEvent ι} (h : committed e = none) : payments id [e] = [] := by
  unfold payments
  rw [List.filterMap_cons_none h]
  rfl

theorem payments_some {e : PurchaseEvent ι} {p : Payment} (h : committed e = some p) :
    payments id [e] = if p.purchaseID = id then [p] else [] := by
  unfold payments
  rw [List.filterMap_cons_some h, List.filterMap_nil, List.filter_cons]
  simp only [beq_iff_eq, List.filter_nil]

theorem handle_purchases {o : Op} (ho : ∀ p, o ≠ .transactPaid p) (c : Choice) (t : Table) :
    (t.handle o c).2.purchases = t.purchases := by
  cases o with
  | transactPaid p => exact absurd rfl (ho p)
  | putBudget row =>
      show (c.attempt t (.ok (), t.putBudget row.key row)).2.purchases = _
      rw [attempt_snd]
      split_ifs <;> rfl
  | transactDebit d included overage =>
      show (c.attempt t (t.debit d)).2.purchases = _
      rw [attempt_snd]
      unfold Table.debit
      split_ifs with hlost
      · rfl
      · cases t.budgets d.key with
        | none => rfl
        | some row =>
            dsimp only
            split_ifs <;> rfl
  | getInstance slug => rfl
  | overagePolicy slug => rfl
  | now => rfl
  | firstBudget key =>
      show (c.attempt t (_, t)).2.purchases = _
      rw [attempt_snd, ite_self]
  | createAudit action target =>
      show (c.attempt t (_, t)).2.purchases = _
      rw [attempt_snd, ite_self]
  | firstPurchase id =>
      show (c.attempt t (_, t)).2.purchases = _
      rw [attempt_snd, ite_self]

theorem updatePurchase_row {f : CreditPurchase → CreditPurchase} (target : String)
    (h : t.purchases id = some row) :
    (t.updatePurchase target f).2.purchases id = some (if target = id then f row else row) := by
  unfold Table.updatePurchase
  by_cases htarget : target = id
  · subst htarget
    rw [h, if_pos rfl]
    exact if_pos rfl
  · rw [if_neg htarget]
    cases t.purchases target with
    | none => exact h
    | some other =>
        dsimp only
        rw [if_neg (Ne.symm htarget)]
        exact h

theorem updatePurchase_included (f : CreditPurchase → CreditPurchase) (target : String) (key : Key) :
    (t.updatePurchase target f).2.includedCredits key = t.includedCredits key := by
  unfold Table.updatePurchase
  cases t.purchases target with
  | none => rfl
  | some other => rfl

/-- A payment of the purchase in the history of an operation. -/
abbrev paymentsAt (id : String) (i : ι) (o : PurchaseOp) (c : Choice) (t : Table) : List Payment :=
  payments id [(⟨i, o, c, t, (t.perform o c).2⟩ : PurchaseEvent ι)]

/-- What an operation can do to the row of a purchase. -/
theorem perform_cases (i : ι) (o : PurchaseOp) (c : Choice) (h : t.purchases id = some row) :
    ∃ row', (t.perform o c).2.purchases id = some row' ∧ row'.Credits = row.Credits ∧
      row'.key = row.key ∧
      ((row'.Status = row.Status ∧ paymentsAt id i o c t = []) ∨
        (∃ status, o = .updateStatus id status ∧ c.fault ≠ .lost ∧ row'.Status = status ∧
          paymentsAt id i o c t = []) ∨
        (∃ p, o = .of (.transactPaid p) ∧ p.purchaseID = id ∧
          row.Status = CreditPurchaseStatusPending ∧ row'.Status = CreditPurchaseStatusPaid ∧
          paymentsAt id i o c t = [p])) := by
  cases o with
  | updateStatus target status =>
      have hsnd : (t.perform (.updateStatus target status) c).2
          = if c.fault = .lost then t else (t.updatePurchase target (.withStatus status)).2 :=
        attempt_snd c t _
      have hnone : paymentsAt id i (.updateStatus target status) c t = [] := payments_none rfl
      rw [hnone, hsnd]
      by_cases hlost : c.fault = .lost
      · rw [if_pos hlost]
        exact ⟨row, h, rfl, rfl, Or.inl ⟨rfl, rfl⟩⟩
      · rw [if_neg hlost, updatePurchase_row target h]
        by_cases htarget : target = id
        · rw [if_pos htarget, htarget]
          exact ⟨_, rfl, rfl, rfl, Or.inr (Or.inl ⟨status, rfl, hlost, rfl, rfl⟩)⟩
        · rw [if_neg htarget]
          exact ⟨row, rfl, rfl, rfl, Or.inl ⟨rfl, rfl⟩⟩
  | updateCheckout target session =>
      have hsnd : (t.perform (.updateCheckout target session) c).2
          = if c.fault = .lost then t else (t.updatePurchase target (.withCheckout session)).2 :=
        attempt_snd c t _
      have hnone : paymentsAt id i (.updateCheckout target session) c t = [] := payments_none rfl
      rw [hnone, hsnd]
      by_cases hlost : c.fault = .lost
      · rw [if_pos hlost]
        exact ⟨row, h, rfl, rfl, Or.inl ⟨rfl, rfl⟩⟩
      · rw [if_neg hlost, updatePurchase_row target h]
        refine ⟨_, rfl, ?_⟩
        split_ifs
        · exact ⟨rfl, rfl, Or.inl ⟨rfl, rfl⟩⟩
        · exact ⟨rfl, rfl, Or.inl ⟨rfl, rfl⟩⟩
  | of o =>
      by_cases ho : ∃ p, o = .transactPaid p
      · obtain ⟨p, rfl⟩ := ho
        have hsnd : (t.perform (.of (.transactPaid p)) c).2
            = if c.fault = .lost then t else (t.pay p).2 := attempt_snd c t _
        rw [hsnd]
        by_cases hcommit : c.fault ≠ .lost ∧ (t.purchases p.purchaseID).any
            (fun q => q.Status == CreditPurchaseStatusPending) = true
        · have hsome : paymentsAt id i (.of (.transactPaid p)) c t
              = if p.purchaseID = id then [p] else [] := payments_some (if_pos hcommit)
          rw [hsome, if_neg hcommit.1]
          obtain ⟨other, hother, hpending⟩ := (Option.any_eq_true _ _).1 hcommit.2
          have hpay : (t.pay p).2.purchases id
              = if id = p.purchaseID then some (p.settle other) else t.purchases id := by
            unfold Table.pay
            rw [hother]
            dsimp only
            rw [if_pos (beq_iff_eq.1 hpending)]
          by_cases hid : p.purchaseID = id
          · subst hid
            rw [hpay, if_pos rfl, if_pos rfl]
            obtain rfl := Option.some.inj (hother.symm.trans h)
            exact ⟨_, rfl, rfl, rfl, Or.inr (Or.inr ⟨p, rfl, rfl, beq_iff_eq.1 hpending, rfl, rfl⟩)⟩
          · rw [hpay, if_neg (Ne.symm hid), if_neg hid]
            exact ⟨row, h, rfl, rfl, Or.inl ⟨rfl, rfl⟩⟩
        · have hnone : paymentsAt id i (.of (.transactPaid p)) c t = [] := payments_none (if_neg hcommit)
          rw [hnone]
          have hsame : (if c.fault = .lost then t else (t.pay p).2) = t := by
            by_cases hlost : c.fault = .lost
            · exact if_pos hlost
            · rw [if_neg hlost]
              unfold Table.pay
              cases hother : t.purchases p.purchaseID with
              | none => rfl
              | some other =>
                  dsimp only
                  refine congrArg Prod.snd (if_neg fun hpending => hcommit ⟨hlost, ?_⟩)
                  rw [hother, Option.any_some, hpending]
                  exact beq_self_eq_true _
          rw [hsame]
          exact ⟨row, h, rfl, rfl, Or.inl ⟨rfl, rfl⟩⟩
      · have hpurchases := handle_purchases (fun p hp => ho ⟨p, hp⟩) c t
        have hnone : paymentsAt id i (.of o) c t = [] := by
          refine payments_none ?_
          cases o with
          | transactPaid p => exact absurd ⟨p, rfl⟩ ho
          | _ => rfl
        refine ⟨row, ?_, rfl, rfl, Or.inl ⟨rfl, hnone⟩⟩
        show (t.handle o c).2.purchases id = some row
        rw [hpurchases]
        exact h

/-- An operation of the deliveries: it edits no month, and ends no purchase paid or pending. -/
def PurchaseOp.delivers : PurchaseOp → Prop
  | .of o => o.edits = false
  | .updateStatus _ status => status = CreditPurchaseStatusExpired ∨ status = CreditPurchaseStatusFailed
  | .updateCheckout .. => True

theorem perform_included {o : PurchaseOp} (ho : o.delivers) (i : ι) (c : Choice) (t : Table) (key : Key) :
    (t.perform o c).2.includedCredits key
      = t.includedCredits key + added key ⟨i, o, c, t, (t.perform o c).2⟩ := by
  cases o with
  | updateStatus target status =>
      show (c.attempt t (t.updatePurchase target (.withStatus status))).2.includedCredits key = _ + 0
      rw [attempt_snd, Int.add_zero]
      split_ifs
      · rfl
      · exact updatePurchase_included _ target key
  | updateCheckout target session =>
      show (c.attempt t (t.updatePurchase target (.withCheckout session))).2.includedCredits key = _ + 0
      rw [attempt_snd, Int.add_zero]
      split_ifs
      · rfl
      · exact updatePurchase_included _ target key
  | of o =>
      have hchange := (handle_change key ho i c t).2.1
      show (t.handle o c).2.includedCredits key = _
      rw [hchange]
      congr 1
      cases o with
      | transactPaid p =>
          show (if p.key = key ∧ c.fault ≠ .lost ∧ (t.purchases p.purchaseID).any
              (fun q => q.Status == CreditPurchaseStatusPending) = true then p.credits else 0) = _
          by_cases hcommit : c.fault ≠ .lost ∧ (t.purchases p.purchaseID).any
              (fun q => q.Status == CreditPurchaseStatusPending) = true
          · have hsome : ∀ t', committed (⟨i, .of (.transactPaid p), c, t, t'⟩ : PurchaseEvent ι) = some p :=
              fun _ => if_pos hcommit
            rw [added, hsome]
            by_cases hkey : p.key = key
            · rw [if_pos ⟨hkey, hcommit⟩]
              exact (if_pos hkey).symm
            · rw [if_neg fun h => hkey h.1]
              exact (if_neg hkey).symm
          · have hnone : ∀ t', committed (⟨i, .of (.transactPaid p), c, t, t'⟩ : PurchaseEvent ι) = none :=
              fun _ => if_neg hcommit
            rw [added, hnone, if_neg fun h => hcommit h.2]
      | _ => rfl

/-! ## Credits added once -/

/-- What holds of the purchase in any case: it keeps its credits and its month, and once they are added it
    is not pending again. -/
structure PurchaseHolds (id : String) (purchase : CreditPurchase) (initial : Table)
    (s : Traced ι PurchaseOp Table Choice) : Prop where
  row : ∃ row, s.state.purchases id = some row ∧ row.Credits = purchase.Credits ∧
    row.key = purchase.key ∧ (payments id s.log ≠ [] → row.Status ≠ CreditPurchaseStatusPending)
  once : (payments id s.log).length ≤ 1
  amount : ∀ p ∈ payments id s.log, p.credits = purchase.Credits ∧ p.key = purchase.key
  included : ∀ key, s.state.includedCredits key = initial.includedCredits key + s.total (added key)

/-- An operation of the deliveries that adds no other credits for the purchase than its own. -/
def Proper (id : String) (purchase : CreditPurchase) (o : PurchaseOp) : Prop :=
  o.delivers ∧ ∀ p, o = .of (.transactPaid p) → p.purchaseID = id →
    p.credits = purchase.Credits ∧ p.key = purchase.key

theorem proper_of {o : PurchaseOp} (ho : o.delivers) (h : ∀ p, o ≠ .of (.transactPaid p)) :
    Proper id purchase o := ⟨ho, fun p hp => absurd hp (h p)⟩

theorem proper_updateStatus {status : String}
    (h : status = CreditPurchaseStatusExpired ∨ status = CreditPurchaseStatusFailed) (target : String) :
    Proper id purchase (.updateStatus target status) := proper_of h fun _ hp => by cases hp

theorem PurchaseHolds.handle (h : PurchaseHolds id purchase initial s) {o : PurchaseOp}
    (ho : Proper id purchase o) (i : ι) (c : Choice) :
    PurchaseHolds id purchase initial ((Traced.env purchaseEnv i).handle o c s).2 := by
  obtain ⟨row, hrow, hcredits, hkey, hended⟩ := h.row
  obtain ⟨row', hrow', hcredits', hkey', hcase⟩ := perform_cases i o c hrow
  have hlog : payments id ((Traced.env purchaseEnv i).handle o c s).2.log
      = payments id s.log ++ paymentsAt id i o c s.state := payments_append id s.log _
  have hincluded : ∀ key, ((Traced.env purchaseEnv i).handle o c s).2.state.includedCredits key
      = initial.includedCredits key + ((Traced.env purchaseEnv i).handle o c s).2.total (added key) := by
    intro key
    rw [Traced.handle_state, Traced.total_handle]
    show (s.state.perform o c).2.includedCredits key = _
    rw [perform_included ho.1 i c s.state key, h.included key, Int.add_assoc]
    rfl
  rcases hcase with ⟨hstatus, hnone⟩ | ⟨status, rfl, -, hstatus, hnone⟩ |
    ⟨p, rfl, hid, hpending, hstatus, hsome⟩
  · rw [hnone, List.append_nil] at hlog
    exact ⟨⟨row', hrow', hcredits'.trans hcredits, hkey'.trans hkey, by rwa [hlog, hstatus]⟩,
      by rw [hlog]; exact h.once, by rw [hlog]; exact h.amount, hincluded⟩
  · rw [hnone, List.append_nil] at hlog
    have hunpending : row'.Status ≠ CreditPurchaseStatusPending := by
      rw [hstatus]
      rcases ho.1 with rfl | rfl <;> decide
    exact ⟨⟨row', hrow', hcredits'.trans hcredits, hkey'.trans hkey, fun _ => hunpending⟩,
      by rw [hlog]; exact h.once, by rw [hlog]; exact h.amount, hincluded⟩
  · have hfirst : payments id s.log = [] := by
      by_contra hne
      exact hended hne hpending
    rw [hsome, hfirst, List.nil_append] at hlog
    have hunpending : row'.Status ≠ CreditPurchaseStatusPending := by
      rw [hstatus]
      decide
    refine ⟨⟨row', hrow', hcredits'.trans hcredits, hkey'.trans hkey, fun _ => hunpending⟩,
      by rw [hlog]; exact le_rfl, ?_, hincluded⟩
    rw [hlog]
    intro q hq
    rw [List.mem_singleton.1 hq]
    exact ho.2 p rfl hid

section Deliveries

variable {A : ι → PurchaseOp → Choice → Traced ι PurchaseOp Table Choice → Prop}
  {J : Traced ι PurchaseOp Table Choice → Prop}

/-- An invariant that the operations of the deliveries keep as far as the assumption goes. -/
structure Kept (id : String) (purchase : CreditPurchase) (initial : Table)
    (A : ι → PurchaseOp → Choice → Traced ι PurchaseOp Table Choice → Prop)
    (J : Traced ι PurchaseOp Table Choice → Prop) : Prop where
  holds : ∀ {s}, J s → PurchaseHolds id purchase initial s
  step : ∀ {o}, Proper id purchase o → ∀ {i c s}, A i o c s → J s →
    J ((Traced.env purchaseEnv i).handle o c s).2

theorem delivers_perform (hJ : Kept id purchase initial A J) {o : PurchaseOp} (ho : Proper id purchase o)
    (s : Traced ι PurchaseOp Table Choice) :
    Meets (Traced.env purchaseEnv i) (Traced.contract purchaseEnv J A i) (Answering fun _ _ => True)
      (Prog.perform o : Delivering o.Res) s := by
  refine answers_perform (o := o) (R := fun _ _ => True) fun t _ hinv c hA => ?_
  exact ⟨hJ.step ho hA hinv, Traced.contract_guar o c t, fun _ _ _ => trivial⟩

/-- The row that is read has the credits and the month of the purchase. -/
def ReadRow (id : String) (purchase : CreditPurchase) (target : String)
    (answer : Except StoreError CreditPurchase) : Prop :=
  ∀ row, answer = .ok row → target = id → row.Credits = purchase.Credits ∧ row.key = purchase.key

theorem delivers_read (hJ : Kept id purchase initial A J) (target : String) (s : Traced ι PurchaseOp Table Choice) :
    Meets (Traced.env purchaseEnv i) (Traced.contract purchaseEnv J A i)
      (Answering fun (r : (PurchaseOp.of (.firstPurchase target)).Res) _ => ReadRow id purchase target r)
      (Prog.perform (PurchaseOp.of (.firstPurchase target)) : Delivering _) s := by
  refine answers_perform fun t _ hinv c hA => ?_
  have hproper : Proper id purchase (.of (.firstPurchase target)) := proper_of rfl fun _ hp => by cases hp
  refine ⟨hJ.step hproper hA hinv, Traced.contract_guar _ c t, ?_⟩
  intro u _ _ row hanswer htarget
  subst htarget
  obtain ⟨stored, hstored, hcredits, hkey, -⟩ := (hJ.holds hinv).row
  have hres : (c.attempt t.state ((t.state.purchases target).elim (.error .notFound) .ok, t.state)).1
      = .ok row := hanswer
  rw [hstored] at hres
  unfold Choice.attempt at hres
  cases hfault : c.fault with
  | none =>
      rw [hfault] at hres
      cases hres
      exact ⟨hcredits, hkey⟩
  | lost => rw [hfault] at hres; cases hres
  | unacknowledged => rw [hfault] at hres; cases hres

theorem lift_bind {α β : Type} (p : Handler α) (f : α → Handler β) :
    lift (p >>= f) = lift p >>= fun a => lift (f a) := by
  induction p with
  | ret a => rfl
  | fail e => rfl
  | op o k ih => exact congrArg (Prog.op (PurchaseOp.of o)) (funext ih)

theorem lift_ite {α : Type} {q : Prop} [Decidable q] (a b : Handler α) :
    lift (if q then a else b) = if q then lift a else lift b := apply_ite lift q a b

theorem meets_completed (hJ : Kept id purchase initial A J) (session : CheckoutSession) (s : Traced ι PurchaseOp Table Choice) :
    Meets (Traced.env purchaseEnv i) (Traced.contract purchaseEnv J A i) (Answering fun _ _ => True)
      (lift (handleStripePaymentCheckoutCompleted session)) s := by
  have hend : ∀ (r : paymentCheckoutResponse) (s : Traced ι PurchaseOp Table Choice),
      Meets (Traced.env purchaseEnv i) (Traced.contract purchaseEnv J A i)
        (Answering fun _ _ => True) (lift (pure r)) s := fun _ _ => answers_pure fun _ _ _ => trivial
  unfold handleStripePaymentCheckoutCompleted
  rw [lift_bind]
  have hnow : Proper id purchase (.of .now) := proper_of rfl fun _ hp => by cases hp
  refine answers_bind (delivers_perform hJ hnow s) fun now s _ => ?_
  dsimp only
  rw [lift_ite, lift_ite, lift_bind]
  refine meets_ite (fun _ => hend _ s) fun _ => meets_ite (fun _ => hend _ s) fun _ => ?_
  refine answers_bind (delivers_read hJ (TrimSpace session.purchaseID) s) fun answer s hread => ?_
  cases answer with
  | error e => exact hend _ s
  | ok row =>
      dsimp only
      rw [lift_ite, lift_ite, lift_bind]
      refine meets_ite (fun _ => hend _ s) fun _ => meets_ite (fun _ => hend _ s) fun _ => ?_
      have hproper : Proper id purchase (.of (.transactPaid (payment session row now.UTC))) := by
        refine ⟨rfl, fun p hp hid => ?_⟩
        cases hp
        obtain ⟨hcredits, hkey⟩ := hread row rfl hid
        exact ⟨hcredits, (payment_key now.UTC).trans hkey⟩
      refine answers_bind (delivers_perform hJ hproper s) fun r s _ => ?_
      rcases r with (_ | _ | _) | ⟨⟩
      · exact hend _ s
      · exact hend _ s
      · exact hend _ s
      · exact hend _ s

theorem meets_delivery (hJ : Kept id purchase initial A J) (d : Delivery) (s : Traced ι PurchaseOp Table Choice) :
    Meets (Traced.env purchaseEnv i) (Traced.contract purchaseEnv J A i) (Answering fun _ _ => True)
      d.serve s := by
  have hend : ∀ s : Traced ι PurchaseOp Table Choice,
      Meets (Traced.env purchaseEnv i) (Traced.contract purchaseEnv J A i)
        (Answering fun _ _ => True) (pure () : Delivering Unit) s :=
    fun _ => answers_pure fun _ _ _ => trivial
  cases d with
  | completed session =>
      show Meets _ _ _ (handleStripeCheckoutSessionCompleted session) s
      unfold handleStripeCheckoutSessionCompleted
      refine meets_ite (fun _ => ?_) fun _ => hend s
      exact answers_bind (meets_completed hJ session s) fun _ s _ => hend s
  | expired session =>
      show Meets _ _ _ (handleStripeCheckoutSessionExpired session) s
      unfold handleStripeCheckoutSessionExpired
      dsimp only
      refine meets_ite (fun _ => hend s) fun _ => ?_
      refine answers_bind (delivers_read hJ _ s) fun answer s _ => ?_
      cases answer with
      | error e => exact hend s
      | ok row =>
          refine meets_ite (fun _ => hend s) fun _ => ?_
          exact answers_bind (delivers_perform hJ (proper_updateStatus (Or.inl rfl) _) s) fun _ s _ => hend s
  | checkoutFailed purchaseID =>
      show Meets _ _ _ (markCreditPurchaseFailedBestEffort purchaseID) s
      unfold markCreditPurchaseFailedBestEffort
      exact answers_bind (delivers_perform hJ (proper_updateStatus (Or.inr rfl) _) s) fun _ s _ => hend s
  | checkoutCreated purchaseID session =>
      show Meets _ _ _ (updateCreditPurchaseWithCheckoutSessionBestEffort purchaseID session) s
      unfold updateCreditPurchaseWithCheckoutSessionBestEffort
      have hproper : Proper id purchase (.updateCheckout (TrimSpace purchaseID) session) :=
        proper_of trivial fun _ hp => by cases hp
      exact answers_bind (delivers_perform hJ hproper s) fun _ s _ => hend s

end Deliveries

/-! ## Runs -/

/-- Any number of deliveries, none of which has begun. -/
def deliveries (delivery : ι → Delivery) (t : Table) :
    Config ι PurchaseOp PurchaseOp.Res AppTheoryError Unit (Traced ι PurchaseOp Table Choice) where
  state := .start t
  threads i := (delivery i).serve

theorem holds_start (hstored : initial.purchases id = some purchase) :
    PurchaseHolds id purchase initial (.start initial : Traced ι PurchaseOp Table Choice) where
  row := ⟨purchase, hstored, rfl, rfl, fun h => absurd rfl h⟩
  once := Nat.zero_le 1
  amount _ hp := by cases hp
  included key := by
    rw [Traced.total_start, Int.add_zero]
    rfl

theorem holds_kept : Kept id purchase initial (fun _ _ _ _ => True)
    (PurchaseHolds id purchase initial : Traced ι PurchaseOp Table Choice → Prop) where
  holds h := h
  step ho _ _ _ _ h := h.handle ho _ _

/-- The purchase is paid exactly when its credits are added. -/
def PaidIff (id : String) (s : Traced ι PurchaseOp Table Choice) : Prop :=
  s.state.isPaid id = true ↔ payments id s.log ≠ []

theorem isPaid_row (h : t.purchases id = some row) : t.isPaid id = row.isPaid := by
  rw [Table.isPaid, h, Option.any_some]

theorem PaidIff.handle (h : PaidIff id s) (hholds : PurchaseHolds id purchase initial s) {o : PurchaseOp}
    (ho : Proper id purchase o) (i : ι) (c : Choice) (htimely : Timely id i o c s) :
    PaidIff id ((Traced.env purchaseEnv i).handle o c s).2 := by
  obtain ⟨row, hrow, -, -, -⟩ := hholds.row
  obtain ⟨row', hrow', -, -, hcase⟩ := perform_cases i o c hrow
  have hlog : payments id ((Traced.env purchaseEnv i).handle o c s).2.log
      = payments id s.log ++ paymentsAt id i o c s.state := payments_append id s.log _
  have hpaid : ((Traced.env purchaseEnv i).handle o c s).2.state.isPaid id = row'.isPaid := isPaid_row hrow'
  unfold PaidIff at h ⊢
  rw [isPaid_row hrow] at h
  rw [hlog, hpaid]
  rcases hcase with ⟨hstatus, hnone⟩ | ⟨status, rfl, hdone, hstatus, hnone⟩ |
    ⟨p, rfl, -, -, hstatus, hsome⟩
  · rw [hnone, List.append_nil, CreditPurchase.isPaid, hstatus]
    exact h
  · -- the purchase was not paid, so its credits were not added
    have hunpaid : row.isPaid = false := (isPaid_row hrow).symm.trans (htimely rfl hdone)
    have hempty : payments id s.log = [] := by
      by_contra hne
      rw [h.2 hne] at hunpaid
      cases hunpaid
    have hended : row'.isPaid = false := by
      rw [CreditPurchase.isPaid, hstatus]
      rcases ho.1 with rfl | rfl <;> decide
    rw [hnone, hempty, hended]
    exact iff_of_false Bool.false_ne_true fun hne => hne rfl
  · rw [hsome, CreditPurchase.isPaid, hstatus]
    exact iff_of_true (by decide) (List.append_ne_nil_of_right_ne_nil _ (List.cons_ne_nil _ _))

theorem paid_kept : Kept id purchase initial (Timely id)
    (fun s : Traced ι PurchaseOp Table Choice => PurchaseHolds id purchase initial s ∧ PaidIff id s) where
  holds h := h.1
  step ho i c _ htimely h := ⟨h.1.handle ho i c, h.2.handle h.1 ho i c htimely⟩

variable [DecidableEq ι]

/-- What holds at first and is kept by the operations holds of every run. -/
theorem Kept.run {A : ι → PurchaseOp → Choice → Traced ι PurchaseOp Table Choice → Prop}
    {J : Traced ι PurchaseOp Table Choice → Prop} (hJ : Kept id purchase initial A J)
    (delivery : ι → Delivery) (hstart : J (.start initial)) {ms : List (ι × Choice)}
    (h : Along (Config.step (Traced.env purchaseEnv)) (Config.Performs A) (deliveries delivery initial) ms) :
    J ((deliveries delivery initial).run (Traced.env purchaseEnv) ms).state := by
  have hfits : Fits (Traced.env purchaseEnv) (Traced.contract purchaseEnv J A) J
      (fun _ => Answering fun _ _ => True) (deliveries delivery initial) :=
    ⟨hstart, fun i => meets_delivery hJ (delivery i) _⟩
  exact (hfits.run Traced.contract_compatible h).inv

/-- **The credits are added at most once**, in any interleaving of deliveries and of the updates of the
    checkout handler, and with the credits and the month of the purchase. -/
theorem payments_once (delivery : ι → Delivery) (hstored : initial.purchases id = some purchase)
    (ms : List (ι × Choice)) :
    PurchaseHolds id purchase initial
      ((deliveries delivery initial).run (Traced.env purchaseEnv) ms).state :=
  holds_kept.run delivery (holds_start hstored) (Run.along_of_inv (I := fun _ => True)
    (fun _ _ _ => trivial) (fun _ _ _ _ _ _ => trivial) trivial ms)

/-- **A purchase is paid exactly once** in any interleaving of deliveries and of the updates of the checkout
    handler in which no update ends the purchase expired or failed while it is paid. -/
theorem purchase_paid_once (delivery : ι → Delivery) (initial : Table) (id : String)
    (purchase : CreditPurchase) (hstored : initial.purchases id = some purchase)
    (hunpaid : purchase.isPaid = false) (ms : List (ι × Choice))
    (h : Along (Config.step (Traced.env purchaseEnv)) (Config.Performs (Timely id))
      (deliveries delivery initial) ms) :
    PaidOnce id purchase initial
      ((deliveries delivery initial).run (Traced.env purchaseEnv) ms).state := by
  have hstart : PaidIff id (.start initial : Traced ι PurchaseOp Table Choice) := by
    refine iff_of_false ?_ fun hne => hne rfl
    show ¬ initial.isPaid id = true
    rw [isPaid_row hstored, hunpaid]
    exact Bool.false_ne_true
  obtain ⟨hholds, hpaid⟩ := paid_kept.run delivery ⟨holds_start hstored, hstart⟩ h
  exact ⟨hholds.once, hholds.amount, hholds.included, hpaid⟩

end Runs

/-! ### A checkout that expires when it is paid -/

/-- The expiry of a checkout session and its payment. -/
def sampleDeliveries : Bool → Delivery
  | false => .expired sampleCheckout
  | true => .completed sampleCheckout

/-- The expiry reads the pending purchase and writes it after the payment. -/
def expiredLate : List (Bool × Choice) := sampleMoves [false, true, true, true, false]

/-- The credits are added, and the purchase is expired. -/
theorem not_purchase_paid_once :
    ¬ ∀ (ι : Type) [DecidableEq ι] (delivery : ι → Delivery) (initial : Table) (id : String)
      (purchase : CreditPurchase) (_ : initial.purchases id = some purchase)
      (_ : purchase.isPaid = false) (ms : List (ι × Choice)), PaidOnce id purchase initial
        ((deliveries delivery initial).run (Traced.env purchaseEnv) ms).state := by
  intro h
  have hpaid := (h Bool sampleDeliveries (purchaseTable "pending") "p1" (samplePurchase "pending") rfl
    (by decide) expiredLate).paid.2
  have hadded : payments "p1" ((deliveries sampleDeliveries (purchaseTable "pending")).run
      (Traced.env purchaseEnv) expiredLate).state.log ≠ [] :=
    List.ne_nil_of_length_pos (by decide)
  have hstatus := hpaid hadded
  revert hstatus
  decide

/-- A payment that is delivered between the two steps of an expiry. -/
theorem payments_once_late :
    PurchaseHolds "p1" (samplePurchase "pending") (purchaseTable "pending")
      ((deliveries sampleDeliveries (purchaseTable "pending")).run (Traced.env purchaseEnv) expiredLate).state :=
  payments_once sampleDeliveries rfl expiredLate

/-- The payment before the expiry, which then does nothing. -/
theorem purchase_paid_once_turns :
    PaidOnce "p1" (samplePurchase "pending") (purchaseTable "pending")
      ((deliveries sampleDeliveries (purchaseTable "pending")).run (Traced.env purchaseEnv)
        (sampleMoves [true, true, true, false])).state :=
  purchase_paid_once sampleDeliveries (purchaseTable "pending") "p1" (samplePurchase "pending") rfl
    (by decide) _ (by decide)

end LesserHost.Budget
