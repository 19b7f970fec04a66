import LesserHost.ControlPlane.Store
import LesserHost.Lib.Interleave

set_option autoImplicit false

/-! # The budget of an instance month

Three kinds of requests write the row of a month: an operator sets it (`handleSetInstanceBudgetMonth`),
the instance debits it (`handleBudgetDebit`), and a settled checkout adds the credits of a purchase to it
(`handleStripePaymentCheckoutCompleted`). A debit and a purchase change the row as it is when they
commit; the operator's request reads the row and puts another one in its place.

Whether the instance is there and what its overage policy says is up to the world, and so are the clock
and the faults of the store. -/

namespace LesserHost.Budget

open LesserHost.Go
open LesserHost.ControlPlane (AppTheoryError StoreError newAppTheoryError)

/-! ## Rows -/

/-- `usedCredits` is absent from a row that a purchase created. -/
structure InstanceBudgetMonth where
  InstanceSlug : String
  Month : String
  IncludedCredits : Int
  UsedCredits : Option Int
  UpdatedAt : Time
  deriving DecidableEq

/-- The number that a missing attribute is read as. -/
def InstanceBudgetMonth.used (b : InstanceBudgetMonth) : Int := b.UsedCredits.getD 0

/-- `INSTANCE#<slug>`, `BUDGET#<month>`. -/
abbrev Key := String × String

def InstanceBudgetMonth.key (b : InstanceBudgetMonth) : Key :=
  (TrimSpace b.InstanceSlug, TrimSpace b.Month)

def CreditPurchaseStatusPending : String := "pending"
def CreditPurchaseStatusPaid : String := "paid"

structure CreditPurchase where
  InstanceSlug : String
  Month : String
  Credits : Int
  AmountCents : Int
  Currency : String
  ProviderCheckoutSessionID : String
  ProviderPaymentIntentID : String
  ProviderCustomerID : String
  Status : String
  PaidAt : Time
  deriving DecidableEq

/-- `payments.CheckoutSession`. -/
structure CheckoutSession where
  ID : String
  Mode : String
  PaymentStatus : String
  Status : String
  CustomerID : String
  PaymentIntentID : String
  Currency : String
  AmountTotal : Int
  /-- `Metadata["purchase_id"]` -/
  purchaseID : String

structure Table where
  budgets : Key → Option InstanceBudgetMonth
  purchases : String → Option CreditPurchase

def Table.putBudget (t : Table) (key : Key) (row : InstanceBudgetMonth) : Table :=
  { t with budgets := fun k => if k = key then some row else t.budgets k }

/-! ## Operations -/

/-- What the transaction of a debit requires and adds. -/
structure Debit where
  key : Key
  expectedIncludedCredits : Int
  /-- none if the instance may exceed its budget -/
  maxUsed : Option Int
  credits : Int
  now : Time

/-- The conditions of a debit. -/
def Debit.allowed (d : Debit) (row : InstanceBudgetMonth) : Bool :=
  decide (row.IncludedCredits = d.expectedIncludedCredits) &&
    d.maxUsed.all fun max => row.UsedCredits.all fun used => decide (used ≤ max)

def Debit.apply (d : Debit) (row : InstanceBudgetMonth) : InstanceBudgetMonth :=
  { row with
    UsedCredits := some (row.used + d.credits)
    UpdatedAt := d.now }

/-- What the transaction of a paid purchase writes. -/
structure Payment where
  purchaseID : String
  session : CheckoutSession
  InstanceSlug : String
  Month : String
  credits : Int
  now : Time

def Payment.key (p : Payment) : Key := (TrimSpace p.InstanceSlug, TrimSpace p.Month)

def orElse (a b : String) : String := if TrimSpace a = "" then b else TrimSpace a

def Payment.settle (p : Payment) (purchase : CreditPurchase) : CreditPurchase :=
  { purchase with
    Status := CreditPurchaseStatusPaid
    PaidAt := p.now
    ProviderCheckoutSessionID := orElse p.session.ID purchase.ProviderCheckoutSessionID
    ProviderPaymentIntentID := orElse p.session.PaymentIntentID purchase.ProviderPaymentIntentID
    ProviderCustomerID := orElse p.session.CustomerID purchase.ProviderCustomerID
    Currency := orElse p.session.Currency purchase.Currency
    AmountCents := if 0 < p.session.AmountTotal then p.session.AmountTotal else purchase.AmountCents }

/-- The row with the credits added, created if there is none. -/
def Payment.add (p : Payment) (row : Option InstanceBudgetMonth) : InstanceBudgetMonth where
  InstanceSlug := TrimSpace p.InstanceSlug
  Month := TrimSpace p.Month
  IncludedCredits := (row.map (·.IncludedCredits)).getD 0 + p.credits
  UsedCredits := row.bind (·.UsedCredits)
  UpdatedAt := p.now

inductive Op where
  | getInstance (slug : String)
  /-- `instCfg.OveragePolicy` of `loadInstanceTrustConfig` -/
  | overagePolicy (slug : String)
  | now
  | firstBudget (key : Key)
  /-- `CreateOrUpdate` -/
  | putBudget (row : InstanceBudgetMonth)
  | createAudit (action target : String)
  /-- the debit, with its ledger entry -/
  | transactDebit (debit : Debit) (includedDebited overageDebited : Int)
  | firstPurchase (id : String)
  | transactPaid (payment : Payment)

abbrev Op.Res : Op → Type
  | .getInstance _ => Except StoreError Unit
  | .overagePolicy _ => String
  | .now => Time
  | .firstBudget _ => Except StoreError InstanceBudgetMonth
  | .putBudget _ => Except StoreError Unit
  | .createAudit .. => Except StoreError Unit
  | .transactDebit .. => Except StoreError Unit
  | .firstPurchase _ => Except StoreError CreditPurchase
  | .transactPaid _ => Except StoreError Unit

inductive Fault where
  | none
  /-- the operation was not carried out -/
  | lost
  /-- the operation was carried out and its answer was lost -/
  | unacknowledged
  deriving DecidableEq

/-- What the world decides at one operation. -/
structure Choice where
  fault : Fault
  «instance» : Except StoreError Unit
  overagePolicy : String
  now : Time

/-- The answer under a fault. -/
def Choice.attempt {α : Type} (c : Choice) (t : Table) (r : Except StoreError α × Table) :
    Except StoreError α × Table :=
  match c.fault with
  | .none => r
  | .lost => (.error .other, t)
  | .unacknowledged => (.error .other, r.2)

def Table.debit (t : Table) (d : Debit) : Except StoreError Unit × Table :=
  match t.budgets d.key with
  | none => (.error .conditionFailed, t)
  | some row =>
      if d.allowed row then (.ok (), t.putBudget d.key (d.apply row)) else (.error .conditionFailed, t)

def Table.pay (t : Table) (p : Payment) : Except StoreError Unit × Table :=
  match t.purchases p.purchaseID with
  | none => (.error .conditionFailed, t)
  | some purchase =>
      if purchase.Status = CreditPurchaseStatusPending then
        (.ok (), { t.putBudget p.key (p.add (t.budgets p.key)) with
          purchases := fun id =>
            if id = p.purchaseID then some (p.settle purchase) else t.purchases id })
      else (.error .conditionFailed, t)

def Table.handle : (o : Op) → Choice → Table → o.Res × Table
  | .getInstance _, c, t => (c.instance, t)
  | .overagePolicy _, c, t => (c.overagePolicy, t)
  | .now, c, t => (c.now, t)
  | .firstBudget key, c, t => c.attempt t ((t.budgets key).elim (.error .notFound) .ok, t)
  | .putBudget row, c, t => c.attempt t (.ok (), t.putBudget row.key row)
  | .createAudit .., c, t => c.attempt t (.ok (), t)
  | .transactDebit d _ _, c, t => c.attempt t (t.debit d)
  | .firstPurchase id, c, t => c.attempt t ((t.purchases id).elim (.error .notFound) .ok, t)
  | .transactPaid p, c, t => c.attempt t (t.pay p)

def tableEnv : Prog.Env Op Op.Res Table Choice := ⟨Table.handle⟩

abbrev Handler (α : Type) := Prog Op Op.Res AppTheoryError α

def fail {α : Type} (code message : String) : Handler α := .fail (newAppTheoryError code message)

/-! ## Setting a month -/

/-- `time.Parse("2006-01", month)` succeeds. -/
def isMonth (month : String) : Bool :=
  match month.toList with
  | [y₁, y₂, y₃, y₄, '-', m₁, m₂] =>
      [y₁, y₂, y₃, y₄, m₁, m₂].all Char.isDigit &&
        ((m₁ == '0' && m₂ != '0') || (m₁ == '1' && (m₂ == '0' || m₂ == '1' || m₂ == '2')))
  | _ => false

/-- The JSON body, or the error of `httpx.ParseJSON`. -/
abbrev Body (α : Type) := Except AppTheoryError α

structure setBudgetMonthRequest where
  IncludedCredits : Int

structure budgetMonthResponse where
  InstanceSlug : String
  Month : String
  IncludedCredits : Int
  UsedCredits : Int
  RemainingCredits : Int
  UpdatedAt : Time

/-- A remainder is not negative. -/
def remainingBudgetCredits (included used : Int) : Int :=
  if included - used < 0 then 0 else included - used

def RoleAdmin : String := "admin"

def requireAdmin (AuthIdentity operatorRole : String) : Except AppTheoryError Unit :=
  if TrimSpace AuthIdentity = "" then .error (newAppTheoryError "app.unauthorized" "unauthorized")
  else if TrimSpace operatorRole ≠ RoleAdmin then
    .error (newAppTheoryError "app.forbidden" "admin required")
  else .ok ()

/-- The row that keeps the used credits which were read, and its audit entry. -/
def putMonth (slug month : String) (included used : Int) : Handler budgetMonthResponse := do
  let now ← Prog.perform Op.now
  match ← Prog.perform (Op.putBudget ⟨slug, month, included, some used, now.UTC⟩) with
  | .error _ => fail "app.internal" "failed to set budget"
  | .ok _ =>
      match ← Prog.perform (Op.createAudit "budget.set" ("instance_budget:" ++ slug ++ ":" ++ month)) with
      | .error _ => fail "app.internal" "failed to write audit log"
      | .ok _ => return ⟨slug, month, included, used, remainingBudgetCredits included used, now.UTC⟩

def handleSetInstanceBudgetMonth (AuthIdentity operatorRole slug month : String)
    (body : Body setBudgetMonthRequest) : Handler budgetMonthResponse := do
  match requireAdmin AuthIdentity operatorRole with
  | .error e => .fail e
  | .ok _ =>
    let slug := ToLower (TrimSpace slug)
    let month := TrimSpace month
    if slug = "" then fail "app.bad_request" "slug is required"
    else if month = "" then fail "app.bad_request" "month is required"
    else if isMonth month = false then fail "app.bad_request" "month must be YYYY-MM"
    else
      match ← Prog.perform (Op.getInstance slug) with
      | .error .notFound => fail "app.not_found" "instance not found"
      | .error .conditionFailed | .error .other => fail "app.internal" "internal error"
      | .ok _ =>
          match body with
          | .error e => .fail e
          | .ok req =>
              if req.IncludedCredits < 0 then fail "app.bad_request" "included_credits must be >= 0"
              else
                match ← Prog.perform (Op.firstBudget (slug, month)) with
                | .ok existing => putMonth slug month req.IncludedCredits existing.used
                | .error .notFound => putMonth slug month req.IncludedCredits 0
                | .error .conditionFailed | .error .other => fail "app.internal" "internal error"

/-! ## Debiting -/

structure budgetDebitResponse where
  Allowed : Bool
  OverBudget : Bool
  Reason : String
  InstanceSlug : String
  Month : String
  IncludedCredits : Int
  UsedCredits : Int
  RemainingCredits : Int
  RequestedCredits : Int
  DebitedCredits : Int

structure budgetDebitPrepared where
  InstanceSlug : String
  Month : String
  Credits : Int
  AllowOverage : Bool

def overagePolicyAllow : String := "allow"

/-- `time.Now().UTC().Format("2006-01")` -/
def currentMonth (now : Time) : String := String.ofList (now.FormatRFC3339.toList.take 7)

/-- The authenticated instance, and the credits of the body. -/
def prepareBudgetDebit (AuthIdentity : String) (body : Body Int) : Handler budgetDebitPrepared := do
  let instanceSlug := TrimSpace AuthIdentity
  if instanceSlug = "" then fail "app.unauthorized" "unauthorized"
  else
    let policy ← Prog.perform (Op.overagePolicy instanceSlug)
    match body with
    | .error e => .fail e
    | .ok credits =>
        if credits ≤ 0 then fail "app.bad_request" "credits must be > 0"
        else
          let now ← Prog.perform Op.now
          return ⟨instanceSlug, currentMonth now, credits, ToLower (TrimSpace policy) == overagePolicyAllow⟩

def loadInstanceBudgetMonth (key : Key) : Handler (Except StoreError (Option InstanceBudgetMonth)) := do
  match ← Prog.perform (Op.firstBudget key) with
  | .ok budget => return .ok (some budget)
  | .error .notFound => return .ok none
  | .error e => return .error e

/-- `billing.PartsForDebit`. -/
def PartsForDebit (includedCredits usedCredits delta : Int) : Int × Int :=
  let remaining := includedCredits - usedCredits
  if remaining ≤ 0 then (0, delta)
  else if delta ≤ remaining then (delta, 0)
  else (remaining, delta - remaining)

def budgetDebitNotConfiguredResponse (p : budgetDebitPrepared) : budgetDebitResponse where
  Allowed := false
  OverBudget := true
  Reason := "budget not configured"
  InstanceSlug := p.InstanceSlug
  Month := p.Month
  IncludedCredits := 0
  UsedCredits := 0
  RemainingCredits := 0
  RequestedCredits := p.Credits
  DebitedCredits := 0

def budgetDebitExceededResponse (p : budgetDebitPrepared) (included used : Int) :
    budgetDebitResponse where
  Allowed := false
  OverBudget := true
  Reason := "budget exceeded"
  InstanceSlug := p.InstanceSlug
  Month := p.Month
  IncludedCredits := included
  UsedCredits := used
  RemainingCredits := included - used
  RequestedCredits := p.Credits
  DebitedCredits := 0

def handleBudgetDebit (AuthIdentity : String) (body : Body Int) : Handler budgetDebitResponse := do
  let prepared ← prepareBudgetDebit AuthIdentity body
  let key := (prepared.InstanceSlug, prepared.Month)
  match ← loadInstanceBudgetMonth key with
  | .error _ => fail "app.internal" "internal error"
  | .ok none => return budgetDebitNotConfiguredResponse prepared
  | .ok (some budget) =>
      if budget.IncludedCredits - budget.used < prepared.Credits ∧ prepared.AllowOverage = false then
        return budgetDebitExceededResponse prepared budget.IncludedCredits budget.used
      else
        let now ← Prog.perform Op.now
        let (includedDebited, overageDebited) :=
          PartsForDebit budget.IncludedCredits budget.used prepared.Credits
        let maxUsed := budget.IncludedCredits - prepared.Credits
        let debit : Debit := {
          key := (TrimSpace prepared.InstanceSlug, TrimSpace prepared.Month)
          expectedIncludedCredits := budget.IncludedCredits
          maxUsed := if prepared.AllowOverage then none else some maxUsed
          credits := prepared.Credits
          now := now.UTC }
        match ← Prog.perform (Op.transactDebit debit includedDebited overageDebited) with
        | .error .conditionFailed =>
            match ← loadInstanceBudgetMonth key with
            | .ok (some latest) =>
                return budgetDebitExceededResponse prepared latest.IncludedCredits latest.used
            -- the zero row of a failed read
            | .ok none | .error _ => return budgetDebitExceededResponse prepared 0 0
        | .error .notFound | .error .other => fail "app.internal" "internal error"
        | .ok _ =>
            match ← loadInstanceBudgetMonth key with
            | .error _ | .ok none => fail "app.internal" "internal error"
            | .ok (some latest) =>
                let remaining := latest.IncludedCredits - latest.used
                return {
                  Allowed := true
                  OverBudget := decide (remaining < 0) || decide (0 < overageDebited)
                  Reason := if 0 < overageDebited then "overage" else "debited"
                  InstanceSlug := prepared.InstanceSlug
                  Month := prepared.Month
                  IncludedCredits := latest.IncludedCredits
                  UsedCredits := latest.used
                  RemainingCredits := remaining
                  RequestedCredits := prepared.Credits
                  DebitedCredits := prepared.Credits }

/-! ## Paying -/

def stripeCheckoutModePayment : String := "payment"
def stripeCheckoutPaymentStatusPaid : String := "paid"
def stripeCheckoutStatusComplete : String := "complete"

def stripeCheckoutSessionPaymentSettled (session : CheckoutSession) : Bool :=
  let status := ToLower (TrimSpace session.Status)
  ToLower (TrimSpace session.Mode) == stripeCheckoutModePayment &&
    ToLower (TrimSpace session.PaymentStatus) == stripeCheckoutPaymentStatusPaid &&
    (status == "" || status == stripeCheckoutStatusComplete)

/-- The reason to skip the purchase, or the empty text. -/
def validateStripePaymentCheckoutAgainstPurchase (session : CheckoutSession) (purchase : CreditPurchase) :
    String :=
  let expectedSession := TrimSpace purchase.ProviderCheckoutSessionID
  let expectedCustomer := TrimSpace purchase.ProviderCustomerID
  let expectedCurrency := ToLower (TrimSpace purchase.Currency)
  let gotCurrency := ToLower (TrimSpace session.Currency)
  if expectedSession ≠ "" ∧ TrimSpace session.ID ≠ expectedSession then "checkout session mismatch"
  else if expectedCustomer ≠ "" ∧ TrimSpace session.CustomerID ≠ expectedCustomer then "customer mismatch"
  else if expectedCurrency ≠ "" ∧ gotCurrency ≠ "" ∧ gotCurrency ≠ expectedCurrency then
    "currency mismatch"
  else if 0 < purchase.AmountCents ∧ session.AmountTotal < purchase.AmountCents then "amount mismatch"
  else ""

/-- The answer is 200 in any case; it says what was skipped or went wrong. -/
structure paymentCheckoutResponse where
  skipped : String
  error : String

def applyCreditPurchasePaid (purchaseID : String) (purchase : CreditPurchase) (session : CheckoutSession)
    (now : Time) : Handler (Except StoreError Unit) :=
  Prog.perform (Op.transactPaid {
    purchaseID := purchaseID
    session := session
    InstanceSlug := TrimSpace purchase.InstanceSlug
    Month := TrimSpace purchase.Month
    credits := purchase.Credits
    now := now })

def handleStripePaymentCheckoutCompleted (session : CheckoutSession) : Handler paymentCheckoutResponse := do
  let now ← Prog.perform Op.now
  let purchaseID := TrimSpace session.purchaseID
  if purchaseID = "" then return ⟨"missing purchase_id", ""⟩
  else if stripeCheckoutSessionPaymentSettled session = false then return ⟨"payment not settled", ""⟩
  else
    match ← Prog.perform (Op.firstPurchase purchaseID) with
    | .error _ => return ⟨"purchase not found", ""⟩
    | .ok purchase =>
        if TrimSpace purchase.Status = CreditPurchaseStatusPaid then return ⟨"", ""⟩
        else
          let reason := validateStripePaymentCheckoutAgainstPurchase session purchase
          if reason ≠ "" then return ⟨reason, ""⟩
          else
            match ← applyCreditPurchasePaid purchaseID purchase session now.UTC with
            | .error .conditionFailed | .ok _ => return ⟨"", ""⟩
            | .error .notFound | .error .other => return ⟨"", "failed to apply credits"⟩

/-- A request that writes the row of a month. -/
inductive Request where
  | set (AuthIdentity operatorRole slug month : String) (body : Body setBudgetMonthRequest)
  | debit (AuthIdentity : String) (body : Body Int)
  | paid (session : CheckoutSession)

def Request.serve : Request → Handler Unit
  | .set AuthIdentity operatorRole slug month body => do
      let _ ← handleSetInstanceBudgetMonth AuthIdentity operatorRole slug month body
      return ()
  | .debit AuthIdentity body => do
      let _ ← handleBudgetDebit AuthIdentity body
      return ()
  | .paid session => do
      let _ ← handleStripePaymentCheckoutCompleted session
      return ()

end LesserHost.Budget
