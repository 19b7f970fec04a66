import LesserHost.Budget.Month

set_option autoImplicit false

/-! # Budget edits among debits and purchases

What the history of a month says its row should hold, and that it does as long as no debit and no purchase
of the month is committed between the read and the write of an operator's request. The request remembers
the used credits it has read; what they and the debits since then add up to never changes
(`Remembers`). -/

namespace LesserHost.Budget

open LesserHost.Go Prog
open LesserHost.ControlPlane (AppTheoryError StoreError)

/-! ## What the history says -/

section History

variable {ι : Type} [DecidableEq ι]

abbrev BudgetEvent (ι : Type) := Event ι Op Table Choice

/-- The program reads the row of the month. -/
def reads (key : Key) (i : ι) (e : BudgetEvent ι) : Bool :=
  match e.op with
  | .firstBudget k => decide (e.who = i) && k == key
  | _ => false

omit [DecidableEq ι] in
/-- The credits of a debit that is committed. -/
def debited (key : Key) (e : BudgetEvent ι) : Int :=
  match e.op with
  | .transactDebit d _ _ =>
      if d.key = key ∧ e.choice.fault ≠ .lost ∧ (e.before.budgets key).any d.allowed = true then d.credits
      else 0
  | _ => 0

/-- The credits of a purchase that is paid. -/
def purchased (key : Key) (e : BudgetEvent ι) : Int :=
  match e.op with
  | .transactPaid p =>
      if p.key = key ∧ e.choice.fault ≠ .lost ∧
          (e.before.purchases p.purchaseID).any (fun c => c.Status == CreditPurchaseStatusPending) = true
      then p.credits
      else 0
  | _ => 0

/-- The included credits a budget edit writes. -/
def setsTo (key : Key) (e : BudgetEvent ι) : Option Int :=
  match e.op with
  | .putBudget row => if row.key = key ∧ e.choice.fault ≠ .lost then some row.IncludedCredits else none
  | _ => none

/-- The events since the program last read the row, the newest first. -/
def sinceRead (key : Key) (i : ι) (log : List (BudgetEvent ι)) : List (BudgetEvent ι) :=
  log.reverse.takeWhile fun e => !reads key i e

/-- The value of the last edit and the credits of every purchase paid since this edit read the row, of
    a history with the newest event first. -/
def promised (key : Key) (initial : Int) : List (BudgetEvent ι) → Int
  | [] => initial
  | e :: older =>
      match setsTo key e with
      | some value => value + (((older.takeWhile fun e' => !reads key e.who e').map (purchased key)).sum)
      | none => promised key initial older + purchased key e

end History

def Table.usedCredits (t : Table) (key : Key) : Int := ((t.budgets key).map (·.used)).getD 0

def Table.includedCredits (t : Table) (key : Key) : Int :=
  ((t.budgets key).map (·.IncludedCredits)).getD 0

section Holds

variable {ι : Type} [DecidableEq ι]

/-- Nothing is lost: every debit is used, and the included credits are those of the last edit with all
    purchases since it read the row. -/
structure BudgetHolds (key : Key) (used included : Int) (s : Traced ι Op Table Choice) : Prop where
  used : s.state.usedCredits key = used + s.total (debited key)
  included : s.state.includedCredits key = promised key included s.log.reverse

/-- No debit and no purchase of the month was committed since the edit has read the row. -/
def Unraced (key : Key) : ι → Op → Choice → Traced ι Op Table Choice → Prop
  | i, .putBudget row, _, s =>
      row.key = key → ∀ e ∈ sinceRead key i s.log, debited key e = 0 ∧ purchased key e = 0
  | _, _, _, _ => True

instance (key : Key) (i : ι) (o : Op) (c : Choice) (s : Traced ι Op Table Choice) :
    Decidable (Unraced key i o c s) := by
  cases o <;> unfold Unraced <;> infer_instance

/-! ## One operation -/

variable {key : Key} {used included : Int} {s : Traced ι Op Table Choice} {i : ι}

def Op.edits : Op → Bool
  | .putBudget _ => true
  | _ => false

theorem sinceRead_append (log : List (BudgetEvent ι)) (e : BudgetEvent ι) :
    sinceRead key i (log ++ [e]) = if reads key i e then [] else e :: sinceRead key i log :=
  latest_append (reads key i) log e

omit [DecidableEq ι] in
theorem attempt_snd {α : Type} (c : Choice) (t : Table) (r : Except StoreError α × Table) :
    (c.attempt t r).2 = if c.fault = .lost then t else r.2 := by
  unfold Choice.attempt
  cases c.fault <;> rfl

omit [DecidableEq ι] in
theorem usedCredits_putBudget (t : Table) (k : Key) (row : InstanceBudgetMonth) :
    (t.putBudget k row).usedCredits key = if key = k then row.used else t.usedCredits key := by
  unfold Table.usedCredits Table.putBudget
  dsimp only
  split_ifs <;> rfl

omit [DecidableEq ι] in
theorem includedCredits_putBudget (t : Table) (k : Key) (row : InstanceBudgetMonth) :
    (t.putBudget k row).includedCredits key
      = if key = k then row.IncludedCredits else t.includedCredits key := by
  unfold Table.includedCredits Table.putBudget
  dsimp only
  split_ifs <;> rfl

omit [DecidableEq ι] in
/-- A debit that is committed adds its credits to the used ones. -/
theorem debit_change (key : Key) (d : Debit) (t : Table) :
    (t.debit d).2.usedCredits key = t.usedCredits key +
        (if d.key = key ∧ (t.budgets key).any d.allowed = true then d.credits else 0) ∧
      (t.debit d).2.includedCredits key = t.includedCredits key := by
  unfold Table.debit
  cases hrow : t.budgets d.key with
  | none =>
      refine ⟨?_, rfl⟩
      by_cases hkey : d.key = key
      · subst hkey
        simp [hrow]
      · simp [hkey]
  | some row =>
      dsimp only
      by_cases hallowed : d.allowed row = true
      · rw [if_pos hallowed]
        rw [usedCredits_putBudget, includedCredits_putBudget]
        by_cases hkey : d.key = key
        · subst hkey
          simp [hrow, hallowed, Table.usedCredits, Table.includedCredits, Debit.apply,
            InstanceBudgetMonth.used]
        · simp [hkey, Ne.symm hkey]
      · rw [if_neg hallowed]
        by_cases hkey : d.key = key
        · subst hkey
          simp [hrow, hallowed]
        · simp [hkey]

omit [DecidableEq ι] in
/-- A purchase that is paid adds its credits to the included ones. -/
theorem pay_change (key : Key) (p : Payment) (t : Table) :
    (t.pay p).2.usedCredits key = t.usedCredits key ∧
      (t.pay p).2.includedCredits key = t.includedCredits key +
        (if p.key = key ∧ (t.purchases p.purchaseID).any
          (fun c => c.Status == CreditPurchaseStatusPending) = true then p.credits else 0) := by
  unfold Table.pay
  cases hrow : t.purchases p.purchaseID with
  | none => simp
  | some purchase =>
      dsimp only
      by_cases hpending : purchase.Status = CreditPurchaseStatusPending
      · rw [if_pos hpending]
        have hused : ∀ f : String → Option CreditPurchase,
            ({ t.putBudget p.key (p.add (t.budgets p.key)) with purchases := f } : Table).usedCredits key
              = (t.putBudget p.key (p.add (t.budgets p.key))).usedCredits key := fun _ => rfl
        have hincluded : ∀ f : String → Option CreditPurchase,
            ({ t.putBudget p.key (p.add (t.budgets p.key)) with purchases := f } : Table).includedCredits
                key
              = (t.putBudget p.key (p.add (t.budgets p.key))).includedCredits key := fun _ => rfl
        rw [hused, hincluded, usedCredits_putBudget, includedCredits_putBudget]
        by_cases hkey : p.key = key
        · subst hkey
          cases hbudget : t.budgets p.key with
          | none => simp [Payment.add, Table.usedCredits, Table.includedCredits, hbudget, hpending,
              InstanceBudgetMonth.used]
          | some row => simp [Payment.add, Table.usedCredits, Table.includedCredits, hbudget, hpending,
              InstanceBudgetMonth.used]
        · simp [hkey, Ne.symm hkey]
      · rw [if_neg hpending]
        simp [hpending]

omit [DecidableEq ι] in
/-- What an operation that is no edit does to the row is what the history says. -/
theorem handle_change (key : Key) {o : Op} (ho : o.edits = false) (i : ι) (c : Choice) (t : Table) :
    (t.handle o c).2.usedCredits key
        = t.usedCredits key + debited key ⟨i, o, c, t, (t.handle o c).2⟩ ∧
      (t.handle o c).2.includedCredits key
        = t.includedCredits key + purchased key ⟨i, o, c, t, (t.handle o c).2⟩ ∧
      setsTo key (⟨i, o, c, t, (t.handle o c).2⟩ : BudgetEvent ι) = none := by
  -- most operations change no row, and no history
  have hread : (t.handle o c).2 = t →
      (∀ t' : Table, debited key (⟨i, o, c, t, t'⟩ : BudgetEvent ι) = 0 ∧
        purchased key (⟨i, o, c, t, t'⟩ : BudgetEvent ι) = 0 ∧
        setsTo key (⟨i, o, c, t, t'⟩ : BudgetEvent ι) = none) →
      (t.handle o c).2.usedCredits key
          = t.usedCredits key + debited key ⟨i, o, c, t, (t.handle o c).2⟩ ∧
        (t.handle o c).2.includedCredits key
          = t.includedCredits key + purchased key ⟨i, o, c, t, (t.handle o c).2⟩ ∧
        setsTo key (⟨i, o, c, t, (t.handle o c).2⟩ : BudgetEvent ι) = none := by
    intro hsame hnone
    obtain ⟨hdebit, hpaid, hset⟩ := hnone t
    rw [hsame, hdebit, hpaid, Int.add_zero, Int.add_zero]
    exact ⟨rfl, rfl, hset⟩
  cases o with
  | putBudget row => cases ho
  | getInstance slug => exact hread rfl fun _ => ⟨rfl, rfl, rfl⟩
  | overagePolicy slug => exact hread rfl fun _ => ⟨rfl, rfl, rfl⟩
  | now => exact hread rfl fun _ => ⟨rfl, rfl, rfl⟩
  | firstBudget k => exact hread ((attempt_snd c t _).trans (ite_self t)) fun _ => ⟨rfl, rfl, rfl⟩
  | createAudit action target => exact hread ((attempt_snd c t _).trans (ite_self t)) fun _ => ⟨rfl, rfl, rfl⟩
  | firstPurchase id => exact hread ((attempt_snd c t _).trans (ite_self t)) fun _ => ⟨rfl, rfl, rfl⟩
  | transactDebit d includedDebited overageDebited =>
      have hsnd : (t.handle (.transactDebit d includedDebited overageDebited) c).2
          = if c.fault = .lost then t else (t.debit d).2 := attempt_snd c t _
      obtain ⟨hused, hincluded⟩ := debit_change key d t
      simp only [hsnd, debited, purchased, setsTo]
      by_cases hlost : c.fault = .lost
      · simp [hlost]
      · simp [hlost, hused, hincluded]
  | transactPaid p =>
      have hsnd : (t.handle (.transactPaid p) c).2 = if c.fault = .lost then t else (t.pay p).2 :=
        attempt_snd c t _
      obtain ⟨hused, hincluded⟩ := pay_change key p t
      simp only [hsnd, debited, purchased, setsTo]
      by_cases hlost : c.fault = .lost
      · simp [hlost]
      · simp [hlost, hused, hincluded]

theorem BudgetHolds.handle (h : BudgetHolds key used included s) {o : Op} (ho : o.edits = false)
    (i : ι) (c : Choice) : BudgetHolds key used included ((Traced.env tableEnv i).handle o c s).2 := by
  obtain ⟨hused, hincluded, hset⟩ := handle_change key ho i c s.state
  constructor
  · rw [Traced.handle_state, Traced.total_handle]
    show (s.state.handle o c).2.usedCredits key = _ + (_ + debited key ⟨i, o, c, s.state, _⟩)
    rw [hused, h.used, Int.add_assoc]
    rfl
  · rw [Traced.handle_state, Traced.handle_log, List.reverse_append, List.reverse_singleton,
      List.singleton_append, promised]
    show (s.state.handle o c).2.includedCredits key = _
    rw [hincluded, h.included, show setsTo key (⟨i, o, c, s.state, (tableEnv.handle o c s.state).2⟩ :
      BudgetEvent ι) = none from hset]
    rfl

/-! ## What an edit remembers -/

/-- The used credits a program has read, with the debits since, are all there is. -/
def Remembers (key : Key) (i : ι) (used read : Int) (log : List (BudgetEvent ι)) : Prop :=
  read + ((sinceRead key i log).map (debited key)).sum = used + (log.map (debited key)).sum

theorem Remembers.append {read : Int} {log : List (BudgetEvent ι)} (h : Remembers key i used read log)
    {e : BudgetEvent ι} (he : reads key i e = false) : Remembers key i used read (log ++ [e]) := by
  have hsum := h
  unfold Remembers at hsum ⊢
  rw [sinceRead_append, he, if_neg Bool.false_ne_true, List.map_cons, List.sum_cons, List.map_append,
    List.sum_append, List.map_singleton, List.sum_singleton]
  omega

theorem reads_other {e : BudgetEvent ι} (h : e.who ≠ i) : reads key i e = false := by
  unfold reads
  split
  · simp [h]
  · rfl

theorem Remembers.others {read : Int} {log es : List (BudgetEvent ι)}
    (h : Remembers key i used read log) (hes : ∀ e ∈ es, e.who ≠ i) :
    Remembers key i used read (log ++ es) := by
  induction es generalizing log with
  | nil => rwa [List.append_nil]
  | cons e es ih =>
      rw [List.append_cons]
      exact ih (h.append (reads_other (hes e List.mem_cons_self)))
        fun e' he' => hes e' (List.mem_cons_of_mem _ he')

/-- An edit that no debit and no purchase has overtaken. -/
theorem BudgetHolds.edit (h : BudgetHolds key used included s) {row : InstanceBudgetMonth} {c : Choice}
    (hrace : Unraced key i (.putBudget row) c s)
    (hread : row.key = key → Remembers key i used row.used s.log) :
    BudgetHolds key used included ((Traced.env tableEnv i).handle (.putBudget row) c s).2 := by
  have hsnd : (tableEnv.handle (.putBudget row) c s.state).2
      = if c.fault = .lost then s.state else s.state.putBudget row.key row := attempt_snd c s.state _
  have hnone : ∀ t, debited key (⟨i, .putBudget row, c, s.state, t⟩ : BudgetEvent ι) = 0 ∧
      purchased key (⟨i, .putBudget row, c, s.state, t⟩ : BudgetEvent ι) = 0 := fun _ => ⟨rfl, rfl⟩
  by_cases hput : row.key = key ∧ c.fault ≠ .lost
  · obtain ⟨hkey, hlost⟩ := hput
    have hzero := hrace hkey
    have hremembers := hread hkey
    have hdebits : ((sinceRead key i s.log).map (debited key)).sum = 0 :=
      List.sum_eq_zero fun x hx => by
        obtain ⟨e, he, rfl⟩ := List.mem_map.1 hx
        exact (hzero e he).1
    have hpurchases : ((sinceRead key i s.log).map (purchased key)).sum = 0 :=
      List.sum_eq_zero fun x hx => by
        obtain ⟨e, he, rfl⟩ := List.mem_map.1 hx
        exact (hzero e he).2
    constructor
    · rw [Traced.handle_state, Traced.total_handle, hsnd, if_neg hlost, usedCredits_putBudget,
        if_pos hkey.symm, (hnone _).1]
      unfold Remembers at hremembers
      rw [hdebits] at hremembers
      show row.used = used + ((s.log.map (debited key)).sum + 0)
      omega
    · rw [Traced.handle_state, Traced.handle_log, List.reverse_append, List.reverse_singleton,
        List.singleton_append, hsnd, if_neg hlost, includedCredits_putBudget, if_pos hkey.symm, promised]
      have hset : setsTo key (⟨i, .putBudget row, c, s.state, s.state.putBudget row.key row⟩ :
          BudgetEvent ι) = some row.IncludedCredits := by simp [setsTo, hkey, hlost]
      rw [hset]
      show row.IncludedCredits = row.IncludedCredits + ((sinceRead key i s.log).map (purchased key)).sum
      rw [hpurchases, Int.add_zero]
  · have hset : ∀ t, setsTo key (⟨i, .putBudget row, c, s.state, t⟩ : BudgetEvent ι) = none :=
      fun _ => if_neg hput
    have hsame : (tableEnv.handle (.putBudget row) c s.state).2.usedCredits key = s.state.usedCredits key ∧
        (tableEnv.handle (.putBudget row) c s.state).2.includedCredits key
          = s.state.includedCredits key := by
      rw [hsnd]
      by_cases hlost : c.fault = .lost
      · simp [hlost]
      · have hkey : key ≠ row.key := fun heq => hput ⟨heq.symm, hlost⟩
        rw [if_neg hlost, usedCredits_putBudget, includedCredits_putBudget, if_neg hkey, if_neg hkey]
        exact ⟨rfl, rfl⟩
    constructor
    · rw [Traced.handle_state, Traced.total_handle, hsame.1, (hnone _).1, Int.add_zero, h.used]
    · rw [Traced.handle_state, Traced.handle_log, List.reverse_append, List.reverse_singleton,
        List.singleton_append, hsame.2, promised, hset, h.included]
      show _ = _ + (0 : Int)
      rw [Int.add_zero]

/-! ## The requests -/

/-- The history grows by what the others do, or by one operation of the program. -/
def budgetContract (key : Key) (used included : Int) (i : ι) :
    Contract Op (Traced ι Op Table Choice) Choice where
  inv := BudgetHolds key used included
  assume := Unraced key i
  rely s s' := ∃ es, s'.log = s.log ++ es ∧ ∀ e ∈ es, e.who ≠ i
  guar s s' := ∃ e, s'.log = s.log ++ [e] ∧ e.who = i
  rely_refl s := ⟨[], by simp, by simp⟩
  rely_trans := by
    rintro s t u ⟨es, hes, hwho⟩ ⟨es', hes', hwho'⟩
    refine ⟨es ++ es', by rw [hes', hes, List.append_assoc], fun e he => ?_⟩
    rcases List.mem_append.1 he with he | he
    · exact hwho e he
    · exact hwho' e he

theorem guar_handle (o : Op) (c : Choice) (s : Traced ι Op Table Choice) :
    (budgetContract key used included i).guar s ((Traced.env tableEnv i).handle o c s).2 :=
  ⟨_, rfl, rfl⟩

theorem Remembers.rely (included : Int) {read : Int} {s' : Traced ι Op Table Choice}
    (h : Remembers key i used read s.log)
    (hrely : (budgetContract key used included i).rely s s') : Remembers key i used read s'.log := by
  obtain ⟨es, hes, hwho⟩ := hrely
  rw [hes]
  exact h.others hwho

/-- A program that edits nothing keeps its contract. -/
theorem meets_of_only {α : Type} {p : Handler α} (hp : p.Only fun o => o.edits = false)
    (s : Traced ι Op Table Choice) :
    p.Meets (Traced.env tableEnv i) (budgetContract key used included i) (fun _ _ => True) s := by
  refine meets_of_steps (F := fun _ => True) (fun o c t ho hinv _ _ => ?_) (fun _ _ _ _ => trivial) hp
    trivial
  exact ⟨BudgetHolds.handle hinv ho i c, guar_handle o c t, trivial⟩

/-- An operation between the read and the write. -/
theorem meets_between {o : Op} (ho : o.edits = false) (hreads : ∀ k, o ≠ .firstBudget k) {P : Prop}
    {read : Int} (h : P → Remembers key i used read s.log) :
    Meets (Traced.env tableEnv i) (budgetContract key used included i)
      (Answering fun _ t => P → Remembers key i used read t.log)
      (perform o : Handler (Op.Res o)) s := by
  refine answers_perform fun t ht hinv c _ => ⟨hinv.handle ho i c, guar_handle o c t, fun u hu _ hP => ?_⟩
  refine Remembers.rely included (Remembers.append ((h hP).rely included ht) ?_) hu
  unfold reads
  split
  · next k hk => exact absurd hk (hreads k)
  · rfl

/-- The used credits of the answer to a read. -/
def readUsed : Except StoreError InstanceBudgetMonth → Option Int
  | .ok row => some row.used
  | .error .notFound => some 0
  | .error _ => none

theorem meets_read (k : Key) :
    Meets (Traced.env tableEnv i) (budgetContract key used included i)
      (Answering fun r t => ∀ u, readUsed r = some u → k = key → Remembers key i used u t.log)
      (perform (Op.firstBudget k) : Handler (Except StoreError InstanceBudgetMonth)) s := by
  refine answers_perform (o := Op.firstBudget k)
    (R := fun r t => ∀ u, readUsed r = some u → k = key → Remembers key i used u t.log)
    fun t _ hinv c _ => ⟨BudgetHolds.handle hinv rfl i c, guar_handle _ c t, fun v hv _ u hu hk => ?_⟩
  subst hk
  refine Remembers.rely included ?_ hv
  -- the answer is what the row holds, and nothing has happened since
  have hvalue : u = t.state.usedCredits k := by
    have hres : ((Traced.env tableEnv i).handle (.firstBudget k) c t).1
        = (c.attempt t.state ((t.state.budgets k).elim (.error .notFound) .ok, t.state)).1 := rfl
    rw [hres] at hu
    unfold Choice.attempt Table.usedCredits at *
    cases hfault : c.fault with
    | none =>
        rw [hfault] at hu
        cases hrow : t.state.budgets k with
        | none =>
            rw [hrow] at hu
            cases hu
            rfl
        | some row =>
            rw [hrow] at hu
            cases hu
            rfl
    | lost => rw [hfault] at hu; cases hu
    | unacknowledged => rw [hfault] at hu; cases hu
  have hreads : reads k i (⟨i, .firstBudget k, c, t.state,
      (tableEnv.handle (.firstBudget k) c t.state).2⟩ : BudgetEvent ι) = true := by simp [reads]
  unfold Remembers
  rw [Traced.handle_log, sinceRead_append, hreads, if_pos rfl, hvalue, hinv.used, List.map_append,
    List.sum_append]
  show used + t.total (debited k) + 0 = used + (t.total (debited k) + (0 + 0))
  omega

theorem meets_putMonth {slug month : String} {included' read : Int}
    (h : (TrimSpace slug, TrimSpace month) = key → Remembers key i used read s.log) :
    Meets (Traced.env tableEnv i) (budgetContract key used included i) (Answering fun _ _ => True)
      (putMonth slug month included' read) s := by
  unfold putMonth
  refine answers_bind (meets_between rfl (fun _ h => by cases h) h) fun now t hnow => ?_
  refine answers_bind (R := fun _ _ => True) ?_ fun r t' _ => ?_
  · refine answers_perform fun u hu hinv c hrace => ⟨hinv.edit hrace fun hkey => ?_, guar_handle _ c u,
      fun _ _ _ => trivial⟩
    exact (hnow hkey).rely included hu
  · rcases r with e | ⟨⟩
    · exact answers_fail
    · refine answers_bind (R := fun _ _ => True) ?_ fun r' t'' _ => ?_
      · exact answers_perform fun u _ hinv c _ =>
          ⟨hinv.handle rfl i c, guar_handle _ c u, fun _ _ _ => trivial⟩
      · rcases r' with e | ⟨⟩
        · exact answers_fail
        · exact answers_pure fun _ _ _ => trivial

theorem meets_handleSetInstanceBudgetMonth (AuthIdentity operatorRole slug month : String)
    (body : Body setBudgetMonthRequest) :
    Meets (Traced.env tableEnv i) (budgetContract key used included i) (Answering fun _ _ => True)
      (handleSetInstanceBudgetMonth AuthIdentity operatorRole slug month body) s := by
  have htrim : (TrimSpace (ToLower (TrimSpace slug)), TrimSpace (TrimSpace month))
      = (ToLower (TrimSpace slug), TrimSpace month) := by
    rw [TrimSpace_ToLower_TrimSpace, TrimSpace_idem]
  unfold handleSetInstanceBudgetMonth
  cases requireAdmin AuthIdentity operatorRole with
  | error e => exact answers_fail
  | ok _ =>
      refine meets_ite (fun _ => answers_fail) fun _ => meets_ite (fun _ => answers_fail) fun _ =>
        meets_ite (fun _ => answers_fail) fun _ => ?_
      refine answers_bind (R := fun _ _ => True) ?_ fun r t _ => ?_
      · exact answers_perform fun u _ hinv c _ =>
          ⟨BudgetHolds.handle hinv rfl i c, guar_handle _ c u, fun _ _ _ => trivial⟩
      · rcases r with (_ | _ | _) | ⟨⟩
        · exact answers_fail
        · exact answers_fail
        · exact answers_fail
        · rcases body with e | req
          · exact answers_fail
          · refine meets_ite (fun _ => answers_fail) fun _ => ?_
            refine answers_bind (meets_read (ToLower (TrimSpace slug), TrimSpace month)) fun r t' hr => ?_
            rcases r with (_ | _ | _) | row
            · exact meets_putMonth fun hkey => hr 0 rfl (htrim.symm.trans hkey)
            · exact answers_fail
            · exact answers_fail
            · exact meets_putMonth fun hkey => hr row.used rfl (htrim.symm.trans hkey)

/-! ### Debits and purchases edit nothing -/

theorem fail_only {α : Type} {ok : Op → Prop} (code message : String) :
    (fail code message : Handler α).Only ok := only_fail _

theorem loadInstanceBudgetMonth_only (k : Key) :
    (loadInstanceBudgetMonth k).Only fun o => o.edits = false := by
  refine only_bind ((only_perform _).2 rfl) fun r => ?_
  rcases r with (_ | _ | _) | row
  · exact only_pure _
  · exact only_pure _
  · exact only_pure _
  · exact only_pure _

theorem handleBudgetDebit_only (AuthIdentity : String) (body : Body Int) :
    (handleBudgetDebit AuthIdentity body).Only fun o => o.edits = false := by
  refine only_bind ?_ fun prepared => ?_
  · refine only_ite (fail_only _ _) (only_bind ((only_perform _).2 rfl) fun policy => ?_)
    rcases body with e | credits
    · exact only_fail _
    · exact only_ite (fail_only _ _) (only_bind ((only_perform _).2 rfl) fun _ => only_pure _)
  · refine only_bind (loadInstanceBudgetMonth_only _) fun r => ?_
    rcases r with e | _ | budget
    · exact fail_only _ _
    · exact only_pure _
    · refine only_ite (only_pure _) (only_bind ((only_perform _).2 rfl) fun now =>
        only_bind ((only_perform _).2 rfl) fun r => ?_)
      rcases r with (_ | _ | _) | ⟨⟩
      · exact fail_only _ _
      · refine only_bind (loadInstanceBudgetMonth_only _) fun r => ?_
        rcases r with e | _ | latest
        · exact only_pure _
        · exact only_pure _
        · exact only_pure _
      · exact fail_only _ _
      · refine only_bind (loadInstanceBudgetMonth_only _) fun r => ?_
        rcases r with e | _ | latest
        · exact fail_only _ _
        · exact fail_only _ _
        · exact only_pure _

theorem handleStripePaymentCheckoutCompleted_only (session : CheckoutSession) :
    (handleStripePaymentCheckoutCompleted session).Only fun o => o.edits = false := by
  refine only_bind ((only_perform _).2 rfl) fun now => only_ite (only_pure _) (only_ite (only_pure _)
    (only_bind ((only_perform _).2 rfl) fun r => ?_))
  rcases r with e | purchase
  · exact only_pure _
  · refine only_ite (only_pure _) (only_ite (only_pure _) (only_bind ((only_perform _).2 rfl) fun r => ?_))
    rcases r with (_ | _ | _) | ⟨⟩
    · exact only_pure _
    · exact only_pure _
    · exact only_pure _
    · exact only_pure _

theorem meets_serve (req : Request) (s : Traced ι Op Table Choice) :
    req.serve.Meets (Traced.env tableEnv i) (budgetContract key used included i)
      (Answering fun _ _ => True) s := by
  cases req with
  | set AuthIdentity operatorRole slug month body =>
      exact answers_bind (meets_handleSetInstanceBudgetMonth AuthIdentity operatorRole slug month body)
        fun _ _ _ => answers_pure fun _ _ _ => trivial
  | debit AuthIdentity body =>
      refine (meets_of_only (only_bind (handleBudgetDebit_only AuthIdentity body) fun _ =>
        only_pure _) s).mono fun r t _ => ?_
      cases r <;> trivial
  | paid session =>
      refine (meets_of_only (only_bind (handleStripePaymentCheckoutCompleted_only session) fun _ =>
        only_pure _) s).mono fun r t _ => ?_
      cases r <;> trivial

/-! ## Runs -/

/-- Any number of requests, none of which has begun. -/
def budgetRequests (request : ι → Request) (t : Table) :
    Config ι Op Op.Res AppTheoryError Unit (Traced ι Op Table Choice) where
  state := .start t
  threads i := (request i).serve

theorem budgetContracts_compatible :
    Compatible (fun i : ι => budgetContract key used included i) (BudgetHolds key used included) where
  inv _ _ := Iff.rfl
  guar_rely i j hij s t _ _ h := by
    obtain ⟨e, he, hwho⟩ := h
    refine ⟨[e], he, fun e' he' => ?_⟩
    obtain rfl := List.mem_singleton.1 he'
    rw [hwho]
    exact hij

/-- **No credits are lost** in any interleaving of budget edits, debits and purchases in which no debit
    and no purchase of the month is committed between the read and the write of an edit. -/
theorem budget_edits_hold (request : ι → Request) (t : Table) (key : Key) (ms : List (ι × Choice))
    (h : Along (Config.step (Traced.env tableEnv)) (Config.Performs (Unraced key))
      (budgetRequests request t) ms) :
    BudgetHolds key (t.usedCredits key) (t.includedCredits key)
      ((budgetRequests request t).run (Traced.env tableEnv) ms).state := by
  have hfits : Fits (Traced.env tableEnv)
      (fun i => budgetContract key (t.usedCredits key) (t.includedCredits key) i)
      (BudgetHolds key (t.usedCredits key) (t.includedCredits key)) (fun _ => Answering fun _ _ => True)
      (budgetRequests request t) := by
    refine ⟨⟨?_, rfl⟩, fun i => meets_serve (request i) _⟩
    rw [budgetRequests, Traced.total_start, Int.add_zero]
    rfl
  exact (hfits.run budgetContracts_compatible h).inv

end Holds

/-! ### An edit that a debit overtakes -/

def sampleKey : Key := ("acme", "2024-05")

/-- The first of May 2024. -/
def sampleNow : Time := ⟨739006 * 24 * Hour, .utc⟩

def sampleTable : Table where
  budgets k := if k = sampleKey then some ⟨"acme", "2024-05", 100, some 0, sampleNow⟩ else none
  purchases _ := none

/-- An operator sets the included credits, the instance debits ten. -/
def sampleRequests : Bool → Request
  | false => .set "root" RoleAdmin "acme" "2024-05" (.ok ⟨50⟩)
  | true => .debit "acme" (.ok 10)

def sampleChoice : Choice := ⟨.none, .ok (), "", sampleNow⟩

def sampleMoves (turns : List Bool) : List (Bool × Choice) := turns.map fun who => (who, sampleChoice)

/-- The debit is committed after the edit has read the row. -/
def overtaken : List (Bool × Choice) :=
  sampleMoves [false, false, true, true, true, true, true, false, false]

/-- The debit is gone from the used credits, though not from the ledger. -/
theorem not_budget_edits_hold :
    ¬ ∀ (ι : Type) [DecidableEq ι] (request : ι → Request) (t : Table) (key : Key)
      (ms : List (ι × Choice)), BudgetHolds key (t.usedCredits key) (t.includedCredits key)
        ((budgetRequests request t).run (Traced.env tableEnv) ms).state := by
  intro h
  have hused := (h Bool sampleRequests sampleTable sampleKey overtaken).used
  revert hused
  decide

/-- One after the other. -/
theorem budget_edits_hold_turns :
    BudgetHolds sampleKey 0 100 ((budgetRequests sampleRequests sampleTable).run (Traced.env tableEnv)
      (sampleMoves [true, true, true, true, true, true, false, false, false, false, false])).state :=
  budget_edits_hold sampleRequests sampleTable sampleKey _ (by decide)

end LesserHost.Budget
