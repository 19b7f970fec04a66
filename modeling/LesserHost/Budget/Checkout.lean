import LesserHost.Budget.Edits

set_option autoImplicit false

/-! # Deliveries of a settled checkout

Stripe delivers an event until a delivery is acknowledged. The handler acknowledges every delivery of a
settled checkout, whatever the store has answered it, so the first delivery is the only one. Which ones
leave the buyer credited is `delivery_credits`: the transaction is attempted only after the purchase was
read, and it commits only while the purchase is pending. -/

namespace LesserHost.Budget

open LesserHost.Go Prog
open LesserHost.ControlPlane (AppTheoryError StoreError)

/-! ## Answers of the store -/

/-- What the world decides at one operation of a delivery: besides its faults the store may answer a read
    or a transaction with any error and not carry it out. -/
structure Attempt where
  choice : Choice
  refusal : Option StoreError

def Table.attempt : (o : Op) → Attempt → Table → o.Res × Table
  | .firstPurchase _, ⟨_, some e⟩, t => (.error e, t)
  | .transactPaid _, ⟨_, some e⟩, t => (.error e, t)
  | o, a, t => t.handle o a.choice

def storeEnv : Prog.Env Op Op.Res Table Attempt := ⟨fun o a t => t.attempt o a⟩

/-- The read returns what is stored. -/
def Attempt.Reads (a : Attempt) : Prop := a.refusal = none ∧ a.choice.fault = .none

/-- The transaction is carried out if its conditions hold. -/
def Attempt.Commits (a : Attempt) : Prop := a.refusal = none ∧ a.choice.fault ≠ .lost

instance (a : Attempt) : Decidable a.Reads := inferInstanceAs (Decidable (_ ∧ _))

instance (a : Attempt) : Decidable a.Commits := inferInstanceAs (Decidable (_ ∧ _))

/-! ## Deliveries -/

/-- One delivery. Its operations are the clock, the read of the purchase and the transaction. -/
def deliver (session : CheckoutSession) (ch : Nat → Attempt) (t : Table) :
    Except AppTheoryError paymentCheckoutResponse × Table :=
  (handleStripePaymentCheckoutCompleted session).run storeEnv ch t

/-- A response is a 200, and an error is not a 2xx. -/
def acknowledged (answer : Except AppTheoryError paymentCheckoutResponse) : Bool :=
  match answer with
  | .ok _ => true
  | .error _ => false

/-- The event is delivered until it is acknowledged. -/
def deliverUntilAcknowledged (session : CheckoutSession) : List (Nat → Attempt) → Table → Table
  | [], t => t
  | ch :: later, t =>
      if acknowledged (deliver session ch t).1 then (deliver session ch t).2
      else deliverUntilAcknowledged session later (deliver session ch t).2

/-! ## Credits of a purchase -/

def CreditPurchase.key (p : CreditPurchase) : Key := (TrimSpace p.InstanceSlug, TrimSpace p.Month)

def CreditPurchase.isPaid (p : CreditPurchase) : Bool := TrimSpace p.Status == CreditPurchaseStatusPaid

/-- The included credits of the month of the purchase without its own. A paid purchase has added them. -/
def Table.otherCredits (t : Table) (p : CreditPurchase) : Int :=
  t.includedCredits p.key - if p.isPaid then p.Credits else 0

/-- After the delivery the purchase is paid, and its credits are added to the others of its month once. -/
structure Credited (id : String) (purchase : CreditPurchase) (before after : Table) : Prop where
  paid : (after.purchases id).any CreditPurchase.isPaid = true
  added : after.includedCredits purchase.key = before.otherCredits purchase + purchase.Credits

/-- The purchase is paid already, or it is pending, is read, and the transaction commits. -/
def Creditable (purchase : CreditPurchase) (ch : Nat → Attempt) : Prop :=
  purchase.isPaid = true ∨
    (purchase.Status = CreditPurchaseStatusPending ∧ (ch 1).Reads ∧ (ch 2).Commits)

section Delivery

variable {session : CheckoutSession} {purchase : CreditPurchase} {t : Table} {ch : Nat → Attempt}

/-- The settled checkout names a stored purchase that it matches. -/
structure Matching (session : CheckoutSession) (purchase : CreditPurchase) (t : Table) : Prop where
  named : TrimSpace session.purchaseID ≠ ""
  settled : stripeCheckoutSessionPaymentSettled session = true
  stored : t.purchases (TrimSpace session.purchaseID) = some purchase
  valid : validateStripePaymentCheckoutAgainstPurchase session purchase = ""

/-- The transaction of the purchase. -/
def payment (session : CheckoutSession) (purchase : CreditPurchase) (now : Time) : Payment where
  purchaseID := TrimSpace session.purchaseID
  session := session
  InstanceSlug := TrimSpace purchase.InstanceSlug
  Month := TrimSpace purchase.Month
  credits := purchase.Credits
  now := now

theorem payment_key (now : Time) : (payment session purchase now).key = purchase.key := by
  unfold payment Payment.key CreditPurchase.key
  rw [TrimSpace_idem, TrimSpace_idem]

theorem read_of_not_reads (h : ¬ (ch 1).Reads) (id : String) :
    ∃ e, t.attempt (.firstPurchase id) (ch 1) = (.error e, t) := by
  rcases hattempt : ch 1 with ⟨choice, _ | e⟩
  · have hfault : choice.fault ≠ .none := fun hf => h ⟨by rw [hattempt], by rw [hattempt]; exact hf⟩
    refine ⟨.other, ?_⟩
    show choice.attempt t ((t.purchases id).elim (.error .notFound) .ok, t) = _
    unfold Choice.attempt
    cases hf : choice.fault with
    | none => exact absurd hf hfault
    | lost => rfl
    | unacknowledged => rfl
  · exact ⟨e, rfl⟩

theorem read_of_reads (h : (ch 1).Reads) {id : String} (hstored : t.purchases id = some purchase) :
    t.attempt (.firstPurchase id) (ch 1) = (.ok purchase, t) := by
  obtain ⟨hrefusal, hfault⟩ := h
  rcases hattempt : ch 1 with ⟨choice, _ | e⟩
  · rw [hattempt] at hfault
    show choice.attempt t ((t.purchases id).elim (.error .notFound) .ok, t) = _
    unfold Choice.attempt
    rw [hfault, hstored]
    rfl
  · rw [hattempt] at hrefusal
    cases hrefusal

theorem transact_table (a : Attempt) (p : Payment) :
    (t.attempt (.transactPaid p) a).2 = if a.Commits then (t.pay p).2 else t := by
  rcases a with ⟨choice, _ | e⟩
  · have hsnd : (t.attempt (.transactPaid p) ⟨choice, none⟩).2
        = if choice.fault = .lost then t else (t.pay p).2 := attempt_snd choice t (t.pay p)
    rw [hsnd]
    by_cases hlost : choice.fault = .lost
    · rw [if_pos hlost, if_neg fun h : Attempt.Commits _ => h.2 hlost]
    · rw [if_neg hlost, if_pos (show Attempt.Commits _ from ⟨rfl, hlost⟩)]
  · rw [if_neg fun h : Attempt.Commits _ => by cases h.1]
    rfl

theorem now_attempt (a : Attempt) : t.attempt .now a = (a.choice.now, t) := by
  cases a with
  | mk choice refusal => cases refusal <;> rfl

theorem run_op_of {α : Type} {o : Op} {k : o.Res → Handler α} {r : o.Res} {t' : Table}
    (h : t.attempt o (ch 0) = (r, t')) :
    (Prog.op o k).run storeEnv ch t = (k r).run storeEnv (fun n => ch (n + 1)) t' := by
  show (k (t.attempt o (ch 0)).1).run storeEnv _ (t.attempt o (ch 0)).2 = _
  rw [h]

/-- What a delivery comes to: it is acknowledged, and the table is that of the transaction or as it was. -/
theorem deliver_spec (h : Matching session purchase t) (ch : Nat → Attempt) :
    acknowledged (deliver session ch t).1 = true ∧
      (deliver session ch t).2 = if purchase.isPaid = false ∧ (ch 1).Reads ∧ (ch 2).Commits
        then (t.pay (payment session purchase (ch 0).choice.now.UTC)).2 else t := by
  unfold deliver handleStripePaymentCheckoutCompleted
  rw [perform_bind, run_op_of (now_attempt (ch 0))]
  dsimp only
  rw [if_neg h.named, if_neg (by rw [h.settled]; decide), perform_bind]
  by_cases hreads : (ch 1).Reads
  · rw [run_op_of (read_of_reads hreads h.stored)]
    dsimp only
    by_cases hpaid : TrimSpace purchase.Status = CreditPurchaseStatusPaid
    · rw [if_pos hpaid, if_neg fun hcond => by
        rw [CreditPurchase.isPaid, hpaid] at hcond
        cases hcond.1]
      exact ⟨rfl, rfl⟩
    · have hunpaid : purchase.isPaid = false := beq_eq_false_iff_ne.2 hpaid
      rw [if_neg hpaid, if_neg fun hne => hne h.valid, applyCreditPurchasePaid, perform_bind]
      have htable := transact_table (t := t) (ch 2) (payment session purchase (ch 0).choice.now.UTC)
      obtain ⟨r, t', hresult⟩ : ∃ r t', t.attempt
          (.transactPaid (payment session purchase (ch 0).choice.now.UTC)) (ch 2) = (r, t') :=
        ⟨_, _, rfl⟩
      rw [hresult] at htable
      rw [run_op_of hresult]
      simp only [hunpaid, hreads, true_and]
      rcases r with (_ | _ | _) | ⟨⟩
      · exact ⟨rfl, htable⟩
      · exact ⟨rfl, htable⟩
      · exact ⟨rfl, htable⟩
      · exact ⟨rfl, htable⟩
  · obtain ⟨e, hread⟩ := read_of_not_reads (t := t) hreads (TrimSpace session.purchaseID)
    rw [run_op_of hread, if_neg fun hcond => hreads hcond.2.1]
    exact ⟨rfl, rfl⟩

/-- The month of a pending purchase has its credits after the transaction. -/
theorem pay_credits (hpending : purchase.Status = CreditPurchaseStatusPending)
    (hstored : t.purchases (TrimSpace session.purchaseID) = some purchase) (now : Time) :
    Credited (TrimSpace session.purchaseID) purchase t (t.pay (payment session purchase now)).2 := by
  have hunpaid : purchase.isPaid = false := by
    rw [CreditPurchase.isPaid, hpending]
    decide
  constructor
  · have hrow : (t.pay (payment session purchase now)).2.purchases (TrimSpace session.purchaseID)
        = some ((payment session purchase now).settle purchase) := by
      unfold Table.pay
      rw [show (payment session purchase now).purchaseID = TrimSpace session.purchaseID from rfl, hstored]
      dsimp only
      rw [if_pos hpending]
      exact if_pos rfl
    rw [hrow]
    show (TrimSpace CreditPurchaseStatusPaid == CreditPurchaseStatusPaid) = true
    decide
  · have hchange := (pay_change purchase.key (payment session purchase now) t).2
    have hany : (t.purchases (payment session purchase now).purchaseID).any
        (fun c => c.Status == CreditPurchaseStatusPending) = true := by
      show (t.purchases (TrimSpace session.purchaseID)).any _ = true
      rw [hstored, Option.any_some, hpending]
      exact beq_self_eq_true _
    rw [if_pos ⟨payment_key now, hany⟩] at hchange
    rw [hchange, Table.otherCredits, hunpaid]
    show _ = t.includedCredits purchase.key - 0 + purchase.Credits
    rw [Int.sub_zero]
    rfl

/-- The transaction of a purchase that is not pending changes nothing. -/
theorem pay_unchanged (hpending : purchase.Status ≠ CreditPurchaseStatusPending)
    (hstored : t.purchases (TrimSpace session.purchaseID) = some purchase) (now : Time) :
    (t.pay (payment session purchase now)).2 = t := by
  unfold Table.pay
  rw [show (payment session purchase now).purchaseID = TrimSpace session.purchaseID from rfl, hstored]
  dsimp only
  rw [if_neg hpending]

/-- As long as nothing is written, the purchase has its credits if it is paid. -/
theorem credited_self_iff (hstored : t.purchases (TrimSpace session.purchaseID) = some purchase) :
    Credited (TrimSpace session.purchaseID) purchase t t ↔ purchase.isPaid = true := by
  constructor
  · intro h
    have hpaid := h.paid
    rwa [hstored] at hpaid
  · intro hpaid
    refine ⟨by rwa [hstored], ?_⟩
    rw [Table.otherCredits, if_pos hpaid, Int.sub_add_cancel]

/-- **Which deliveries leave the buyer credited.** Every delivery of a settled checkout that matches its
    purchase is acknowledged, so it is the last one. After it the purchase is paid and credited if it was
    paid before, or was pending and the store has carried out both the read and the transaction; else the
    table is as it was. -/
theorem delivery_credits (session : CheckoutSession) (purchase : CreditPurchase) (t : Table)
    (ch : Nat → Attempt) (later : List (Nat → Attempt)) (h : Matching session purchase t) :
    acknowledged (deliver session ch t).1 = true ∧
      deliverUntilAcknowledged session (ch :: later) t = (deliver session ch t).2 ∧
      (Credited (TrimSpace session.purchaseID) purchase t
          (deliverUntilAcknowledged session (ch :: later) t) ↔ Creditable purchase ch) ∧
      (¬ Creditable purchase ch → deliverUntilAcknowledged session (ch :: later) t = t) := by
  obtain ⟨hanswer, htable⟩ := deliver_spec h ch
  have hlast : deliverUntilAcknowledged session (ch :: later) t = (deliver session ch t).2 := by
    rw [deliverUntilAcknowledged, if_pos hanswer]
  rw [hlast, htable]
  refine ⟨hanswer, rfl, ?_⟩
  cases hpaid : purchase.isPaid with
  | true =>
      have hcan : Creditable purchase ch := Or.inl hpaid
      rw [if_neg fun hcond => by cases hcond.1]
      exact ⟨iff_of_true ((credited_self_iff h.stored).2 hpaid) hcan, fun hnot => absurd hcan hnot⟩
  | false =>
      by_cases hcond : (ch 1).Reads ∧ (ch 2).Commits
      · rw [if_pos ⟨rfl, hcond⟩]
        by_cases hpending : purchase.Status = CreditPurchaseStatusPending
        · have hcan : Creditable purchase ch := Or.inr ⟨hpending, hcond⟩
          exact ⟨iff_of_true (pay_credits hpending h.stored _) hcan, fun hnot => absurd hcan hnot⟩
        · rw [pay_unchanged hpending h.stored, credited_self_iff h.stored]
          have hcannot : ¬ Creditable purchase ch := by
            rintro (hyes | ⟨hyes, -⟩)
            · rw [hpaid] at hyes
              cases hyes
            · exact hpending hyes
          exact ⟨iff_of_false (by rw [hpaid]; decide) hcannot, fun _ => rfl⟩
      · rw [if_neg fun hall => hcond hall.2, credited_self_iff h.stored]
        have hcannot : ¬ Creditable purchase ch := by
          rintro (hyes | ⟨-, hyes⟩)
          · rw [hpaid] at hyes
            cases hyes
          · exact hcond hyes
        exact ⟨iff_of_false (by rw [hpaid]; decide) hcannot, fun _ => rfl⟩

end Delivery

/-! ### A checkout whose transaction fails -/

def samplePurchase (Status : String) : CreditPurchase :=
  ⟨"acme", "2024-05", 1000, 500, "usd", "cs_1", "", "", Status, sampleNow⟩

def sampleCheckout : CheckoutSession :=
  ⟨"cs_1", "payment", "paid", "complete", "", "", "usd", 500, "p1"⟩

def purchaseTable (Status : String) : Table :=
  { sampleTable with purchases := fun id => if id = "p1" then some (samplePurchase Status) else none }

theorem sample_matching {Status : String} :
    Matching sampleCheckout (samplePurchase Status) (purchaseTable Status) where
  named := by decide
  settled := by decide
  stored := rfl
  valid := by
    show validateStripePaymentCheckoutAgainstPurchase sampleCheckout (samplePurchase "pending") = ""
    decide

/-- The store answers everything but the transaction. -/
def brokenOff (n : Nat) : Attempt := ⟨sampleChoice, if n = 2 then some .other else none⟩

/-- The buyer has paid, the delivery is acknowledged, and the credits are not there. -/
theorem not_delivery_credits :
    ¬ ∀ (session : CheckoutSession) (purchase : CreditPurchase) (t : Table) (ch : Nat → Attempt),
      Matching session purchase t → acknowledged (deliver session ch t).1 = true →
        Credited (TrimSpace session.purchaseID) purchase t (deliver session ch t).2 := by
  intro h
  have hpaid := (h sampleCheckout (samplePurchase "pending") (purchaseTable "pending") brokenOff
    sample_matching (by decide)).paid
  revert hpaid
  decide

theorem delivery_credits_sample :
    acknowledged (deliver sampleCheckout (fun _ => ⟨sampleChoice, none⟩) (purchaseTable "pending")).1
        = true ∧
      (Credited (TrimSpace sampleCheckout.purchaseID) (samplePurchase "pending") (purchaseTable "pending")
        (deliverUntilAcknowledged sampleCheckout [fun _ => ⟨sampleChoice, none⟩]
          (purchaseTable "pending"))) := by
  obtain ⟨hanswer, -, hiff, -⟩ := delivery_credits sampleCheckout (samplePurchase "pending")
    (purchaseTable "pending") (fun _ => ⟨sampleChoice, none⟩) [] sample_matching
  exact ⟨hanswer, hiff.2 (Or.inr ⟨rfl, by decide, by decide⟩)⟩

end LesserHost.Budget
