import LesserHost.Lib.Trace
import LesserHost.TipRegistry.Texts

set_option autoImplicit false

/-! # The operation log

A proposal creates its operation unless there is one with its identifier, and an execution record overwrites
whatever is there. `operation_log`: in a run in which no proposal meets a finished operation, and every
record is of a transaction that made the operation's call and agrees with what is recorded already, the log
is truthful at every step. `not_operation_log` proposes A, then B, then A again. -/

namespace LesserHost.TipRegistry

open LesserHost.Go LesserHost.Solidity
open LesserHost.Soul (hexAddress)

/-! ## The chain -/

/-- A transaction: its status, and the calls it made. -/
structure Tx where
  Status : Nat
  calls : List (Address × List UInt8)

abbrev Txs := Bytes32 → Tx

/-- The transaction made the call of the operation to its contract. -/
def MadeCall (tx : Tx) (op : TipRegistryOperation) : Prop :=
  ∃ c ∈ tx.calls, op.TxTo = hexAddress c.1 ∧ op.TxData = hexData c.2

def Terminal (op : TipRegistryOperation) : Prop :=
  op.Status = StatusExecuted ∨ op.Status = StatusFailed

section Log

variable (lib : Libraries) (txs : Txs)

/-- The receipt that a request finds is the one of the transaction it names. -/
def Request.Answered : Request → Prop
  | .propose .. => True
  | .recordExecution _ env _ execTxHash => ∀ receipt, env.receipt = .ok (some receipt) →
      receipt.Status = (txs (lib.HexToHash (TrimSpace execTxHash))).Status

/-- The identifiers that a request makes are of texts that `hashed` has. -/
def Request.HashesIn (hashed : Set String) : Request → Prop
  | .propose cfg env p => ∀ pr, p.operation lib cfg env = .ok (some pr) → pr.1.text ∈ hashed
  | .recordExecution .. => True

/-- The log meets a request as it should: no proposal meets a finished operation; the transaction of a
    record, if it succeeded, made the call, and a finished operation is recorded as before. -/
def Meets (s : Store) : Request → Prop
  | .propose cfg env p => ∀ pr row, p.operation lib cfg env = .ok (some pr) → s pr.1.ID = some row →
      row.Status = StatusProposed
  | .recordExecution _ _ id execTxHash => ∀ row, s (TrimSpace id) = some row →
      let tx := txs (lib.HexToHash (TrimSpace execTxHash))
      (tx.Status = 1 → MadeCall tx row) ∧
      (Terminal row → row.ExecTxHash = ToLower (TrimSpace execTxHash) ∧
        (row.Status = StatusExecuted ↔ tx.Status = 1))

/-- An accepted proposal leaves an operation that is listed as proposed and has the call data that the caller
    got; what is executed was done by a successful transaction; what is finished does not change. -/
def Truthful (s : Store) (r : Request) : Prop :=
  (∀ op safeTx, (handle lib s r).1 = .ok (.proposed op safeTx) →
    ∃ row, step lib s r op.ID = some row ∧ Listed (step lib s r) StatusProposed row ∧
      row.Status = StatusProposed ∧ row.TxData = safeTx.Data ∧ op.TxData = safeTx.Data) ∧
  (∀ id row, step lib s r id = some row → row.Status = StatusExecuted →
    (txs (lib.HexToHash row.ExecTxHash)).Status = 1 ∧
      MadeCall (txs (lib.HexToHash row.ExecTxHash)) row) ∧
  ∀ id row, s id = some row → Terminal row →
    ∃ row', step lib s r id = some row' ∧ row'.Status = row.Status ∧ row'.ExecTxHash = row.ExecTxHash

/-! ## The invariant -/

structure RowOk (hashed : Set String) (id : String) (op : TipRegistryOperation) : Prop where
  key : op.ID = id
  named : id = opIDOf lib.sha256 op.text
  hashed : op.text ∈ hashed
  call : ∃ c chainID contract, op.text = TipCall.text c chainID contract ∧
    op.TxData = hexData (c.encode lib.keccak)
  status : (op.Status = StatusProposed ∧ op.GSI1PK = "TIPREG_OP_STATUS#" ++ StatusProposed) ∨ Terminal op
  executed : op.Status = StatusExecuted → (txs (lib.HexToHash op.ExecTxHash)).Status = 1 ∧
    MadeCall (txs (lib.HexToHash op.ExecTxHash)) op

def LogOk (hashed : Set String) (s : Store) : Prop :=
  ∀ id op, s id = some op → RowOk lib txs hashed id op

end Log

section Steps

variable {lib : Libraries} {txs : Txs} {hashed : Set String} {s : Store}

theorem status_ne : StatusProposed ≠ StatusExecuted ∧ StatusProposed ≠ StatusFailed ∧
    StatusFailed ≠ StatusExecuted := by decide

theorem Built.rowOk {pr : Proposal} (h : Built lib pr) (hhashed : pr.1.text ∈ hashed) :
    RowOk lib txs hashed pr.1.ID pr.1 where
  key := rfl
  named := h.id
  hashed := hhashed
  call := h.call
  status := Or.inl ⟨h.status, h.listed⟩
  executed hexecuted := absurd (h.status.symm.trans hexecuted) status_ne.1

/-- Operations with one identifier have one call. -/
theorem RowOk.sameData (hcollide : Set.InjOn (opIDOf lib.sha256) hashed) {id : String}
    {op op' : TipRegistryOperation} (h : RowOk lib txs hashed id op) (h' : RowOk lib txs hashed id op') :
    op.TxData = op'.TxData := by
  have htext : op.text = op'.text := hcollide h.hashed h'.hashed (h.named.symm.trans h'.named)
  obtain ⟨c, chainID, contract, hc, hdata⟩ := h.call
  obtain ⟨c', chainID', contract', hc', hdata'⟩ := h'.call
  obtain rfl : c = c' := text_injective (hc.symm.trans (htext.trans hc'))
  rw [hdata, hdata']

theorem createAbsent_of_none {op : TipRegistryOperation} (h : s op.ID = none) :
    s.createAbsent op = Function.update s op.ID (some op) := by
  rw [Store.createAbsent, h]

theorem createAbsent_of_some {op other : TipRegistryOperation} (h : s op.ID = some other) :
    s.createAbsent op = s := by
  rw [Store.createAbsent, h]

/-- What is there stays when an operation is created. -/
theorem createAbsent_keeps {op row : TipRegistryOperation} {id : String} (h : s id = some row) :
    s.createAbsent op id = some row := by
  cases hop : s op.ID with
  | none =>
      have hne : id ≠ op.ID := by
        rintro rfl
        rw [h] at hop
        cases hop
      rw [createAbsent_of_none hop, Function.update_of_ne hne, h]
  | some other => rw [createAbsent_of_some hop, h]

theorem LogOk.createAbsent (hs : LogOk lib txs hashed s) {op : TipRegistryOperation}
    (hop : RowOk lib txs hashed op.ID op) : LogOk lib txs hashed (s.createAbsent op) := by
  intro id row hrow
  cases habsent : s op.ID with
  | none =>
      rw [createAbsent_of_none habsent] at hrow
      by_cases hid : id = op.ID
      · subst hid
        rw [Function.update_self, Option.some.injEq] at hrow
        exact hrow ▸ hop
      · rw [Function.update_of_ne hid] at hrow
        exact hs id row hrow
  | some other =>
      rw [createAbsent_of_some habsent] at hrow
      exact hs id row hrow

theorem normal_outcome (success : Prop) [Decidable success] :
    ToLower (TrimSpace (if success then StatusExecuted else StatusFailed))
      = if success then StatusExecuted else StatusFailed := by
  split
  · decide
  · decide

theorem executionUpdate_ID (env : Env) (op : TipRegistryOperation) (txHash : String) (receipt : Receipt) :
    (executionUpdate lib env op txHash receipt).ID = TrimSpace op.ID := rfl

theorem executionUpdate_ExecTxHash (env : Env) (op : TipRegistryOperation) (txHash : String)
    (receipt : Receipt) : (executionUpdate lib env op (TrimSpace txHash) receipt).ExecTxHash
      = ToLower (TrimSpace txHash) := by
  simp only [executionUpdate, TipRegistryOperation.UpdateKeys, TrimSpace_ToLower_TrimSpace, ToLower_idem]

theorem executionUpdate_Status (env : Env) (op : TipRegistryOperation) (txHash : String)
    (receipt : Receipt) : (executionUpdate lib env op txHash receipt).Status
      = if receipt.Status = 1 then StatusExecuted else StatusFailed := by
  simp only [executionUpdate, TipRegistryOperation.UpdateKeys, normal_outcome]

/-- Everything a request can do to the log. -/
theorem step_cases (lib : Libraries) (s : Store) (r : Request) :
    step lib s r = s ∨
    (∃ cfg env p pr, r = .propose cfg env p ∧ p.operation lib cfg env = .ok (some pr) ∧
      step lib s r = s.createAbsent pr.1) ∨
    ∃ cfg env id execTxHash op receipt, r = .recordExecution cfg env id execTxHash ∧
      s (TrimSpace id) = some op ∧ env.receipt = .ok (some receipt) ∧
      step lib s r = s.updateExecution lib (executionUpdate lib env op (TrimSpace execTxHash) receipt) := by
  cases r with
  | propose cfg env p =>
      cases hop : p.operation lib cfg env with
      | error e => exact Or.inl (by simp [step, handle, hop])
      | ok pr =>
          cases pr with
          | none => exact Or.inl (by simp [step, handle, hop])
          | some pr =>
              cases hfault : env.writeFault with
              | lost =>
                  exact Or.inl (by simp [step, handle, hop, createOrLoadTipRegistryOperation, hfault])
              | unacknowledged =>
                  exact Or.inr (Or.inl ⟨cfg, env, p, pr, rfl, hop, by
                    simp [step, handle, hop, createOrLoadTipRegistryOperation, hfault]⟩)
              | none =>
                  cases hrow : s pr.1.ID with
                  | none =>
                      exact Or.inr (Or.inl ⟨cfg, env, p, pr, rfl, hop, by
                        simp [step, handle, hop, createOrLoadTipRegistryOperation, hfault, hrow]⟩)
                  | some row =>
                      refine Or.inl ?_
                      simp only [step, handle, hop, createOrLoadTipRegistryOperation, hfault, hrow]
                      cases getTipRegistryOperation s env pr.1.ID <;> rfl
  | recordExecution cfg env id execTxHash =>
      cases hrecord : executionRecord lib cfg s env id execTxHash with
      | error e =>
          exact Or.inl (by simp [step, handle, handleRecordTipRegistryOperationExecution, hrecord])
      | ok update =>
          have hupdate : ∃ op receipt, s (TrimSpace id) = some op ∧ env.receipt = .ok (some receipt) ∧
              update = executionUpdate lib env op (TrimSpace execTxHash) receipt := by
            simp only [executionRecord, bind_okM] at hrecord
            obtain ⟨-, -, -, -, -, -, -, -, hrecord⟩ := hrecord
            split at hrecord
            · cases hrecord
            · cases hrecord
            · next op hget =>
                split at hrecord
                · cases hrecord
                · cases hrecord
                · next receipt hreceipt =>
                    refine ⟨op, receipt, ?_, hreceipt, (Except.ok.inj hrecord).symm⟩
                    simp only [getTipRegistryOperation, TrimSpace_idem] at hget
                    split at hget
                    · cases hget
                    · split at hget
                      · cases hget
                      · next hrow =>
                          rw [hrow]
                          exact congrArg some (Except.ok.inj hget)
          obtain ⟨op, receipt, hrow, hreceipt, rfl⟩ := hupdate
          simp only [step, handle, handleRecordTipRegistryOperationExecution, hrecord]
          split
          · exact Or.inl rfl
          · split
            · exact Or.inr (Or.inr ⟨cfg, env, id, execTxHash, op, receipt, rfl, hrow, hreceipt, rfl⟩)
            · exact Or.inl rfl
            · exact Or.inr (Or.inr ⟨cfg, env, id, execTxHash, op, receipt, rfl, hrow, hreceipt, rfl⟩)

/-- The row after an execution record. -/
theorem updateExecution_self (lib : Libraries) {u row : TipRegistryOperation} (h : s u.ID = some row) :
    ∃ row', s.updateExecution lib u u.ID = some row' ∧ row'.ID = row.ID ∧ row'.text = row.text ∧
      row'.TxTo = row.TxTo ∧ row'.TxData = row.TxData ∧ row'.Status = u.Status ∧
      row'.ExecTxHash = u.ExecTxHash := by
  rw [Store.updateExecution, Function.update_self, h, Option.map_some]
  exact ⟨_, rfl, rfl, rfl, rfl, rfl, rfl, rfl⟩

theorem updateExecution_other {u : TipRegistryOperation} {id : String} (h : id ≠ u.ID) :
    s.updateExecution lib u id = s id := Function.update_of_ne h _ _

theorem MadeCall.congr {tx : Tx} {op op' : TipRegistryOperation} (h : MadeCall tx op)
    (hto : op'.TxTo = op.TxTo) (hdata : op'.TxData = op.TxData) : MadeCall tx op' := by
  obtain ⟨c, hc, h₁, h₂⟩ := h
  exact ⟨c, hc, hto.trans h₁, hdata.trans h₂⟩

/-- The identifier of a stored operation is the one it is recorded under. -/
theorem RowOk.update_ID {id : String} {op : TipRegistryOperation} (h : RowOk lib txs hashed id op)
    (env : Env) (txHash : String) (receipt : Receipt) :
    (executionUpdate lib env op txHash receipt).ID = id := by
  rw [executionUpdate_ID, h.key, h.named, TrimSpace_opIDOf]

/-- A record of a transaction that made the call is a record of the log. -/
theorem RowOk.recorded {id execTxHash : String} {op row' : TipRegistryOperation} {env : Env}
    {receipt : Receipt} (hlib : lib.Documented) (h : RowOk lib txs hashed id op)
    (hanswered : receipt.Status = (txs (lib.HexToHash (TrimSpace execTxHash))).Status)
    (hcall : (txs (lib.HexToHash (TrimSpace execTxHash))).Status = 1 →
      MadeCall (txs (lib.HexToHash (TrimSpace execTxHash))) op)
    (hID : row'.ID = op.ID) (htext : row'.text = op.text) (hto : row'.TxTo = op.TxTo)
    (hdata : row'.TxData = op.TxData)
    (hstatus : row'.Status = (executionUpdate lib env op (TrimSpace execTxHash) receipt).Status)
    (hhash : row'.ExecTxHash = (executionUpdate lib env op (TrimSpace execTxHash) receipt).ExecTxHash) :
    RowOk lib txs hashed id row' := by
  rw [executionUpdate_Status] at hstatus
  rw [executionUpdate_ExecTxHash] at hhash
  refine ⟨hID.trans h.key, by rw [htext]; exact h.named, by rw [htext]; exact h.hashed,
    by rw [htext, hdata]; exact h.call, Or.inr ?_, fun hexecuted => ?_⟩
  · split at hstatus
    · exact Or.inl hstatus
    · exact Or.inr hstatus
  · have hsuccess : receipt.Status = 1 := by
      by_contra hfailed
      rw [if_neg hfailed] at hstatus
      exact status_ne.2.2 (hstatus.symm.trans hexecuted)
    have hone := hanswered.symm.trans hsuccess
    rw [hhash, hlib.HexToHash_lower]
    exact ⟨hone, (hcall hone).congr hto hdata⟩

/-- A request that the log meets keeps the invariant. -/
theorem LogOk.step (hlib : lib.Documented) (hs : LogOk lib txs hashed s) {r : Request}
    (hanswered : r.Answered lib txs) (hhashes : r.HashesIn lib hashed) (hmeets : Meets lib txs s r) :
    LogOk lib txs hashed (step lib s r) := by
  rcases step_cases lib s r with hsame | ⟨cfg, env, p, pr, rfl, hop, hcreate⟩ |
    ⟨cfg, env, id, execTxHash, op, receipt, rfl, hrow, hreceipt, hupdate⟩
  · rw [hsame]
    exact hs
  · rw [hcreate]
    exact hs.createAbsent ((operation_built hlib hop).rowOk (hhashes pr hop))
  · rw [hupdate]
    have hop := hs _ op hrow
    have hID := hop.update_ID env (TrimSpace execTxHash) receipt
    intro key row hkey
    by_cases hsame : key = TrimSpace id
    · subst hsame
      obtain ⟨row', hrow', hID', htext, hto, hdata, hstatus, hhash⟩ :=
        updateExecution_self lib (u := executionUpdate lib env op (TrimSpace execTxHash) receipt)
          (by rw [hID]; exact hrow)
      rw [hID] at hrow'
      obtain rfl := Option.some.inj (hrow'.symm.trans hkey)
      exact hop.recorded hlib (hanswered receipt hreceipt) (hmeets op hrow).1 hID' htext hto hdata hstatus hhash
    · rw [updateExecution_other (by rw [hID]; exact hsame)] at hkey
      exact hs key row hkey

/-- What an accepted proposal leaves, as long as it meets no finished operation. -/
theorem proposed_listed (hlib : lib.Documented) (hcollide : Set.InjOn (opIDOf lib.sha256) hashed)
    (hs : LogOk lib txs hashed s) {r : Request} (hhashes : r.HashesIn lib hashed)
    (hmeets : Meets lib txs s r) {op : TipRegistryOperation} {safeTx : safeTxPayload}
    (h : (handle lib s r).1 = .ok (.proposed op safeTx)) :
    ∃ row, step lib s r op.ID = some row ∧ Listed (step lib s r) StatusProposed row ∧
      row.Status = StatusProposed ∧ row.TxData = safeTx.Data ∧ op.TxData = safeTx.Data := by
  cases r with
  | recordExecution cfg env id execTxHash =>
      simp only [handle] at h
      cases hr : (handleRecordTipRegistryOperationExecution lib cfg s env id execTxHash).1 with
      | error e => rw [hr] at h; cases h
      | ok op => rw [hr] at h; cases h
  | propose cfg env p =>
      cases hop : p.operation lib cfg env with
      | error e => simp [handle, hop] at h
      | ok pr =>
          cases pr with
          | none => simp [handle, hop] at h
          | some pr =>
              have hbuilt := operation_built hlib hop
              have hnew : RowOk lib txs hashed pr.1.ID pr.1 := hbuilt.rowOk (hhashes pr hop)
              cases hfault : env.writeFault with
              | lost => simp [handle, hop, createOrLoadTipRegistryOperation, hfault, Except.map] at h
              | unacknowledged =>
                  simp [handle, hop, createOrLoadTipRegistryOperation, hfault, Except.map] at h
              | none =>
                  cases hrow : s pr.1.ID with
                  | none =>
                      simp only [handle, hop, createOrLoadTipRegistryOperation, hfault, hrow, Except.map,
                        Except.ok.injEq, Response.proposed.injEq] at h
                      obtain ⟨rfl, rfl⟩ := h
                      have hstored : step lib s (.propose cfg env p) pr.1.ID = some pr.1 := by
                        simp only [step, handle, hop, createOrLoadTipRegistryOperation, hfault, hrow,
                          createAbsent_of_none hrow, Function.update_self]
                      exact ⟨pr.1, hstored, ⟨_, hstored, hbuilt.listed⟩, hbuilt.status, hbuilt.data.symm,
                        hbuilt.data.symm⟩
                  | some row =>
                      have hold := hs _ row hrow
                      have hstatus := hmeets pr row hop hrow
                      have hdata := hold.sameData hcollide hnew
                      have hlisted : row.GSI1PK = "TIPREG_OP_STATUS#" ++ StatusProposed := by
                        rcases hold.status with hlisted | hterminal | hterminal
                        · exact hlisted.2
                        · exact absurd (hstatus.symm.trans hterminal) status_ne.1
                        · exact absurd (hstatus.symm.trans hterminal) status_ne.2.1
                      have hstep : step lib s (.propose cfg env p) = s := by
                        simp only [step, handle, hop, createOrLoadTipRegistryOperation, hfault, hrow]
                        cases getTipRegistryOperation s env pr.1.ID <;> rfl
                      rw [hstep]
                      -- the caller gets the stored operation, or the new one if the read failed
                      have hanswer : safeTx = pr.2 ∧ (op = row ∨ op = pr.1) := by
                        simp only [handle, hop, createOrLoadTipRegistryOperation, hfault, hrow] at h
                        cases hget : getTipRegistryOperation s env pr.1.ID with
                        | error e =>
                            simp only [hget, Except.map, Except.ok.injEq, Response.proposed.injEq] at h
                            exact ⟨h.2.symm, Or.inr h.1.symm⟩
                        | ok existing =>
                            simp only [hget, Except.map, Except.ok.injEq, Response.proposed.injEq] at h
                            refine ⟨h.2.symm, Or.inl ?_⟩
                            have htrim : TrimSpace pr.1.ID = pr.1.ID := by
                              rw [hbuilt.id, TrimSpace_opIDOf]
                            simp only [getTipRegistryOperation, htrim, hrow] at hget
                            split at hget
                            · cases hget
                            · exact h.1.symm.trans (Except.ok.inj hget).symm
                      obtain ⟨rfl, hwhich⟩ := hanswer
                      refine ⟨row, ?_, ⟨_, hrow, hlisted⟩, hstatus, hdata.trans hbuilt.data.symm, ?_⟩
                      · rcases hwhich with rfl | rfl
                        · rw [hold.key]
                          exact hrow
                        · exact hrow
                      · rcases hwhich with rfl | rfl
                        · exact hdata.trans hbuilt.data.symm
                        · exact hbuilt.data.symm

/-- What is finished stays as it is. -/
theorem terminal_kept (hs : LogOk lib txs hashed s) {r : Request} (hanswered : r.Answered lib txs)
    (hmeets : Meets lib txs s r) {id : String} {row : TipRegistryOperation} (hrow : s id = some row)
    (hterminal : Terminal row) :
    ∃ row', step lib s r id = some row' ∧ row'.Status = row.Status ∧ row'.ExecTxHash = row.ExecTxHash := by
  rcases step_cases lib s r with hsame | ⟨cfg, env, p, pr, rfl, hop, hcreate⟩ |
    ⟨cfg, env, id', execTxHash, op, receipt, rfl, hop, hreceipt, hupdate⟩
  · exact ⟨row, by rw [hsame, hrow], rfl, rfl⟩
  · exact ⟨row, by rw [hcreate, createAbsent_keeps hrow], rfl, rfl⟩
  · rw [hupdate]
    have hID := (hs _ op hop).update_ID env (TrimSpace execTxHash) receipt
    by_cases hsame : id = TrimSpace id'
    · subst hsame
      obtain rfl := Option.some.inj (hrow.symm.trans hop)
      obtain ⟨row', hrow', -, -, -, -, hstatus, hhash⟩ :=
        updateExecution_self lib (u := executionUpdate lib env row (TrimSpace execTxHash) receipt)
          (by rw [hID]; exact hrow)
      rw [hID] at hrow'
      obtain ⟨hbefore, houtcome⟩ := (hmeets row hrow).2 hterminal
      rw [executionUpdate_Status, hanswered receipt hreceipt] at hstatus
      rw [executionUpdate_ExecTxHash] at hhash
      refine ⟨row', hrow', ?_, hhash.trans hbefore.symm⟩
      rw [hstatus]
      split
      · next hone => exact (houtcome.2 hone).symm
      · next hfailed =>
          rcases hterminal with hexecuted | hfailedStatus
          · exact absurd (houtcome.1 hexecuted) hfailed
          · exact hfailedStatus.symm
    · exact ⟨row, by rw [updateExecution_other (by rw [hID]; exact hsame), hrow], rfl, rfl⟩

end Steps

/-! ## Runs -/

/-- **The operation log.** In a run in which the log meets every request as it should, it is truthful at
    every step. -/
theorem operation_log (lib : Libraries) (hlib : lib.Documented) (txs : Txs) (hashed : Set String)
    (hcollide : Set.InjOn (opIDOf lib.sha256) hashed) (reqs : List Request)
    (hanswered : ∀ r ∈ reqs, r.Answered lib txs) (hhashes : ∀ r ∈ reqs, r.HashesIn lib hashed)
    (hmeets : Along (step lib) (Meets lib txs) (fun _ => none) reqs) :
    Along (step lib) (Truthful lib txs) (fun _ => none) reqs := by
  have hrun : ∀ (reqs : List Request) (s : Store), LogOk lib txs hashed s →
      (∀ r ∈ reqs, r.Answered lib txs) → (∀ r ∈ reqs, r.HashesIn lib hashed) →
      Along (step lib) (Meets lib txs) s reqs → Along (step lib) (Truthful lib txs) s reqs := by
    intro reqs
    induction reqs with
    | nil => exact fun _ _ _ _ _ => trivial
    | cons r reqs ih =>
        intro s hs hanswered hhashes hmeets
        have hnext := hs.step hlib (hanswered r List.mem_cons_self) (hhashes r List.mem_cons_self) hmeets.1
        refine ⟨⟨?_, ?_, ?_⟩, ih _ hnext (fun q hq => hanswered q (List.mem_cons_of_mem _ hq))
          (fun q hq => hhashes q (List.mem_cons_of_mem _ hq)) hmeets.2⟩
        · intro op safeTx h
          exact proposed_listed hlib hcollide hs (hhashes r List.mem_cons_self) hmeets.1 h
        · intro id row hrow hexecuted
          exact (hnext id row hrow).executed hexecuted
        · intro id row hrow hterminal
          exact terminal_kept hs (hanswered r List.mem_cons_self) hmeets.1 hrow hterminal
  exact hrun reqs _ (fun _ _ h => by cases h) hanswered hhashes hmeets

/-! ## A proposal that is repeated -/

def hexValue (c : Char) : Nat :=
  if c.isDigit then c.toNat - 48 else if 'a' ≤ c then c.toNat - 87 else c.toNat - 55

/-- The number that the digits after the prefix write. -/
def hexNumber (s : String) : Nat :=
  ((TrimPrefix s "0x").toList.map hexValue).foldl (fun n d => 16 * n + d) 0

def sampleHash (text : List UInt8) : Nat := text.foldl (fun h b => (257 * h + b.toNat + 1) % 2 ^ 256) 0

/-- Libraries that parse and write hexadecimal numbers; the hashes are numbers that the texts are read as. -/
def sampleLib : Libraries where
  keccak text := Fin.ofNat (2 ^ 256) (sampleHash text)
  sha256 text := ⟨(EIP712.word (sampleHash text)).reverse.toArray, by simp⟩
  IsHexAddress s := decide ((TrimPrefix s "0x").length = 40) && (TrimPrefix s "0x").toList.all isHexChar
  HexToAddress s := Fin.ofNat (2 ^ 160) (hexNumber s)
  Hex := hexAddress
  HexToHash s := Fin.ofNat (2 ^ 256) (hexNumber (ToLower s))
  NormalizeDomain s := .ok s
  isReservedWalletAddress _ := false
  updateWritesIndex := false
  receiptJSON _ _ := ""

theorem sampleLib_documented : sampleLib.Documented where
  Hex_lower a := ToLower_prefixed (digit_hexAddress a)
  Hex_trimmed a := TrimSpace_prefixed (digit_hexAddress a)
  HexToHash_lower s := by simp only [sampleLib, ToLower_idem]

def sampleConfig : Config where
  TipEnabled := true
  TipChainID := 1
  TipContractAddress := "0x0000000000000000000000000000000000000009"
  TipTxMode := "direct"
  TipAdminSafeAddress := ""
  TipDefaultHostWalletAddress := "0x0000000000000000000000000000000000000003"
  TipDefaultHostFeeBps := 100
  TipRPCURL := "rpc"

def sampleEnv (status : Nat) : Env where
  now := 0
  host := .unreachable
  privileged := none
  receipt := .ok (some ⟨status, some 1, 21000⟩)
  snapshotJSON := ""
  writeFault := .none
  readFault := false

/-- Allow the token, or no longer allow it. -/
def sampleProposal (allowed : Bool) : Request :=
  .propose sampleConfig (sampleEnv 1)
    (.setTokenAllowed "0x0000000000000000000000000000000000000008" allowed)

def sampleCall (allowed : Bool) : TipCall := .setTokenAllowed 8 allowed

def sampleID (allowed : Bool) : String :=
  opIDOf sampleLib.sha256 ((sampleCall allowed).text 1 9)

def sampleTxHash : String := "0x" ++ String.ofList (List.replicate 64 '1')

def otherTxHash : String := "0x" ++ String.ofList (List.replicate 64 '2')

/-- The first transaction allows the token; all others make no call and succeed. -/
def sampleTxs : Txs := fun h =>
  if h = sampleLib.HexToHash sampleTxHash then ⟨1, [(9, (sampleCall true).encode sampleLib.keccak)]⟩
  else ⟨1, []⟩

def sampleRecord (txHash : String) : Request :=
  .recordExecution sampleConfig (sampleEnv 1) (sampleID true) txHash

theorem sampleRecord_answered (txHash : String) : (sampleRecord txHash).Answered sampleLib sampleTxs := by
  intro receipt hreceipt
  obtain rfl := Option.some.inj (Except.ok.inj hreceipt)
  unfold sampleTxs
  split <;> rfl

def sampleToken : String := "0x0000000000000000000000000000000000000008"

theorem TrimSpace_hexAddress (a : Address) : TrimSpace (hexAddress a) = hexAddress a :=
  TrimSpace_prefixed (digit_hexAddress a)

theorem TrimPrefix_prefixed (l : List Char) :
    TrimPrefix (String.ofList ('0' :: 'x' :: l)) "0x" = String.ofList l := by
  have hprefix : HasPrefix (String.ofList ('0' :: 'x' :: l)) "0x" = true := by
    rw [HasPrefix, String.toList_ofList, String.toList_ofList]
    simp
  rw [TrimPrefix, if_pos hprefix, String.toList_ofList, String.toList_ofList]
  rfl

theorem hexAddress_ne (a : Address) : hexAddress a ≠ "" := by
  intro h
  have hlist := congrArg String.toList h
  rw [hexAddress, String.toList_ofList] at hlist
  cases hlist

theorem sampleToken_hex : sampleToken = hexAddress 8 :=
  congrArg String.ofList (show '0' :: 'x' :: (List.replicate 39 '0' ++ ['8'])
    = '0' :: 'x' :: (EIP712.digits 16 40 8).map hexDigit by decide)

theorem sampleContract_hex : sampleConfig.TipContractAddress = hexAddress 9 :=
  congrArg String.ofList (show '0' :: 'x' :: (List.replicate 39 '0' ++ ['9'])
    = '0' :: 'x' :: (EIP712.digits 16 40 9).map hexDigit by decide)

theorem sampleConfig_registry :
    0 < sampleConfig.TipChainID ∧ TrimSpace sampleConfig.TipContractAddress ≠ "" := by
  refine ⟨by decide, ?_⟩
  rw [sampleContract_hex, TrimSpace_hexAddress]
  exact hexAddress_ne 9

/-- The address that the texts of addresses are read as. -/
theorem HexToAddress_hexAddress (a : Address) : sampleLib.HexToAddress (hexAddress a)
    = Fin.ofNat (2 ^ 160)
      ((((EIP712.digits 16 40 a).map hexDigit).map hexValue).foldl (fun n d => 16 * n + d) 0) := by
  show Fin.ofNat (2 ^ 160) (hexNumber _) = _
  rw [hexNumber, hexAddress, TrimPrefix_prefixed, String.toList_ofList]

theorem IsHexAddress_hexAddress (a : Address) : sampleLib.IsHexAddress (hexAddress a)
    = (decide ((EIP712.digits 16 40 a).length = 40) &&
      ((EIP712.digits 16 40 a).map hexDigit).all isHexChar) := by
  have hbody : sampleLib.IsHexAddress (hexAddress a)
      = (decide ((TrimPrefix (hexAddress a) "0x").length = 40) &&
        (TrimPrefix (hexAddress a) "0x").toList.all isHexChar) := by
    simp only [sampleLib]
  have hdigits : TrimPrefix (hexAddress a) "0x"
      = String.ofList ((EIP712.digits 16 40 a).map hexDigit) := TrimPrefix_prefixed _
  have hlength : (String.ofList ((EIP712.digits 16 40 a).map hexDigit)).length
      = (EIP712.digits 16 40 a).length := by
    rw [String.length_ofList, List.length_map]
  rw [hbody, hdigits, hlength, String.toList_ofList]

theorem check_of {c : Prop} [Decidable c] {code message : String} (h : c) :
    check c code message = .ok () := if_pos h

theorem requireTipRegistryConfigured_ok {cfg : Config} (henabled : cfg.TipEnabled = true)
    (hregistry : 0 < cfg.TipChainID ∧ TrimSpace cfg.TipContractAddress ≠ "") :
    requireTipRegistryConfigured cfg = .ok () := by
  rw [requireTipRegistryConfigured, check_of henabled, check_of hregistry]
  rfl

theorem operationSetTokenAllowed_ok {lib : Libraries} {cfg : Config} {tokenAddress : String}
    (env : Env) (allowed : Bool) (henabled : cfg.TipEnabled = true)
    (hregistry : 0 < cfg.TipChainID ∧ TrimSpace cfg.TipContractAddress ≠ "")
    (hmode : TrimSpace cfg.TipTxMode = tipTxModeSafe →
      lib.IsHexAddress (TrimSpace cfg.TipAdminSafeAddress) = true)
    (htoken : lib.IsHexAddress (TrimSpace tokenAddress) = true ∧
      EqualFold (TrimSpace tokenAddress) "0x0000000000000000000000000000000000000000" = false) :
    ∃ pr, operationSetTokenAllowed lib cfg env tokenAddress allowed = .ok pr := by
  have hconfigured := requireTipRegistryConfigured_ok henabled hregistry
  have hsafe : requireTipSafeConfigured lib cfg = .ok () := check_of hmode
  simp only [operationSetTokenAllowed, bind_okM, pure_okM]
  exact ⟨_, (), hconfigured, (), hsafe, (), check_of htoken, rfl⟩

theorem sampleProposal_operation (allowed : Bool) : ∃ op safeTx,
    Proposed.operation sampleLib sampleConfig (sampleEnv 1) (.setTokenAllowed sampleToken allowed)
      = .ok (some (op, safeTx)) ∧
    op.text = (sampleCall allowed).text 1 9 ∧ op.ID = sampleID allowed ∧ op.TxTo = hexAddress 9 ∧
    op.TxData = hexData ((sampleCall allowed).encode sampleLib.keccak) ∧ op.Status = StatusProposed := by
  have hmode : TrimSpace sampleConfig.TipTxMode = tipTxModeSafe →
      sampleLib.IsHexAddress (TrimSpace sampleConfig.TipAdminSafeAddress) = true := by
    decide
  have htoken : sampleLib.IsHexAddress (TrimSpace sampleToken) = true ∧
      EqualFold (TrimSpace sampleToken) "0x0000000000000000000000000000000000000000" = false := by
    rw [sampleToken_hex, TrimSpace_hexAddress, IsHexAddress_hexAddress, EqualFold, hexAddress,
      String.toList_ofList]
    decide
  obtain ⟨pr, hop⟩ := operationSetTokenAllowed_ok (sampleEnv 1) allowed
    (show sampleConfig.TipEnabled = true from rfl) sampleConfig_registry hmode htoken
  have hbuilt := operationSetTokenAllowed_built sampleLib_documented hop
  obtain ⟨htext, hto, hdata⟩ := operationSetTokenAllowed_tells sampleLib_documented hop
  have height : sampleLib.HexToAddress (TrimSpace sampleToken) = 8 := by
    rw [sampleToken_hex, TrimSpace_hexAddress, HexToAddress_hexAddress]
    decide
  have hnine : sampleLib.HexToAddress (TrimSpace sampleConfig.TipContractAddress) = 9 := by
    rw [sampleContract_hex, TrimSpace_hexAddress, HexToAddress_hexAddress]
    decide
  rw [height, hnine] at htext
  rw [hnine] at hto
  rw [height] at hdata
  refine ⟨pr.1, pr.2, ?_, htext, ?_, hto, hdata, hbuilt.status⟩
  · rw [Proposed.operation, hop]
    rfl
  · rw [hbuilt.id, htext]
    rfl

/-- A faultless proposal of a new operation. -/
theorem step_propose {lib : Libraries} {s : Store} {cfg : Config} {env : Env} {p : Proposed}
    {op : TipRegistryOperation} {safeTx : safeTxPayload}
    (hop : p.operation lib cfg env = .ok (some (op, safeTx))) (hfault : env.writeFault = .none)
    (habsent : s op.ID = none) : step lib s (.propose cfg env p) = Function.update s op.ID (some op) := by
  simp only [step, handle, hop, createOrLoadTipRegistryOperation, hfault, habsent]
  exact createAbsent_of_none habsent

/-- A faultless proposal of an operation that is there. -/
theorem handle_propose_present {lib : Libraries} {s : Store} {cfg : Config} {env : Env} {p : Proposed}
    {op row : TipRegistryOperation} {safeTx : safeTxPayload}
    (hop : p.operation lib cfg env = .ok (some (op, safeTx))) (hfault : env.writeFault = .none)
    (hrow : s op.ID = some row) (hget : getTipRegistryOperation s env op.ID = .ok row) :
    handle lib s (.propose cfg env p) = (.ok (.proposed row safeTx), s) := by
  simp only [handle, hop, createOrLoadTipRegistryOperation, hfault, hrow, hget]
  rfl

/-- Transaction hashes of equal digits. -/
theorem hashOf_eq (c : Char) : "0x" ++ String.ofList (List.replicate 64 c)
    = String.ofList ('0' :: 'x' :: List.replicate 64 c) := by
  rw [← String.toList_inj, String.toList_append, String.toList_ofList, String.toList_ofList, String.toList_ofList]
  rfl

theorem hashOf_trimmed {c : Char} (h : isLowerHexChar c = true) :
    TrimSpace (String.ofList ('0' :: 'x' :: List.replicate 64 c))
      = String.ofList ('0' :: 'x' :: List.replicate 64 c) :=
  TrimSpace_prefixed fun d hd => by rw [List.eq_of_mem_replicate hd]; exact h

theorem hashOf_lower {c : Char} (h : isLowerHexChar c = true) :
    ToLower (String.ofList ('0' :: 'x' :: List.replicate 64 c))
      = String.ofList ('0' :: 'x' :: List.replicate 64 c) :=
  ToLower_prefixed fun d hd => by rw [List.eq_of_mem_replicate hd]; exact h

theorem isHexHash32_hashOf {c : Char} (h : isLowerHexChar c = true) (hsize : c.utf8Size = 1) :
    isHexHash32 (String.ofList ('0' :: 'x' :: List.replicate 64 c)) = true := by
  have hhex : isHexChar c = true := by rw [isHexChar, h, Bool.true_or]
  simp only [isHexHash32, hashOf_trimmed h, TrimPrefix_prefixed, len, String.toList_ofList,
    List.map_replicate, hsize, List.sum_replicate, List.all_replicate, hhex]
  decide

theorem sampleTxHash_trimmed : TrimSpace sampleTxHash = sampleTxHash := by
  rw [sampleTxHash, hashOf_eq, hashOf_trimmed (by decide)]

theorem otherTxHash_trimmed : TrimSpace otherTxHash = otherTxHash := by
  rw [otherTxHash, hashOf_eq, hashOf_trimmed (by decide)]

theorem sampleTxHash_hex : isHexHash32 (TrimSpace sampleTxHash) = true := by
  rw [sampleTxHash_trimmed, sampleTxHash, hashOf_eq]
  exact isHexHash32_hashOf (by decide) (by decide)

theorem otherTxHash_hex : isHexHash32 (TrimSpace otherTxHash) = true := by
  rw [otherTxHash_trimmed, otherTxHash, hashOf_eq]
  exact isHexHash32_hashOf (by decide) (by decide)

theorem HexToHash_hashOf {c : Char} (h : isLowerHexChar c = true) :
    sampleLib.HexToHash (String.ofList ('0' :: 'x' :: List.replicate 64 c))
      = Fin.ofNat (2 ^ 256) ((List.replicate 64 (hexValue c)).foldl (fun n d => 16 * n + d) 0) := by
  show Fin.ofNat (2 ^ 256) (hexNumber (ToLower _)) = _
  rw [hashOf_lower h, hexNumber, TrimPrefix_prefixed, String.toList_ofList, List.map_replicate]

theorem otherTxHash_ne : sampleLib.HexToHash otherTxHash ≠ sampleLib.HexToHash sampleTxHash := by
  rw [otherTxHash, sampleTxHash, hashOf_eq, hashOf_eq, HexToHash_hashOf (by decide),
    HexToHash_hashOf (by decide)]
  decide

theorem sampleTxs_other {h : Bytes32} (hne : h ≠ sampleLib.HexToHash sampleTxHash) :
    sampleTxs h = ⟨1, []⟩ := if_neg hne

theorem sampleTxs_sample : sampleTxs (sampleLib.HexToHash sampleTxHash)
    = ⟨1, [(9, (sampleCall true).encode sampleLib.keccak)]⟩ := if_pos rfl

theorem sampleID_trimmed (allowed : Bool) : TrimSpace (sampleID allowed) = sampleID allowed :=
  TrimSpace_opIDOf _ _

theorem sampleID_ne (allowed : Bool) : sampleID allowed ≠ "" := by
  intro h
  have hlist := congrArg String.toList h
  rw [sampleID, opIDOf, String.toList_append] at hlist
  exact absurd hlist (by simp)

theorem sample_get {s : Store} {row : TipRegistryOperation} {allowed : Bool}
    (hrow : s (sampleID allowed) = some row) :
    getTipRegistryOperation s (sampleEnv 1) (sampleID allowed) = .ok row := by
  have hok : ¬ (sampleID allowed = "" ∨ (sampleEnv 1).readFault = true) := by
    rintro (h | h)
    · exact sampleID_ne allowed h
    · cases h
  simp only [getTipRegistryOperation, sampleID_trimmed, if_neg hok, hrow]

/-- The operation is proposed to an empty log. -/
theorem sample_proposed : ∃ op, step sampleLib (fun _ => none) (sampleProposal true)
      = Function.update (fun _ => none) (sampleID true) (some op) ∧
    op.text = (sampleCall true).text 1 9 ∧ op.ID = sampleID true ∧ op.TxTo = hexAddress 9 ∧
    op.TxData = hexData ((sampleCall true).encode sampleLib.keccak) ∧ op.Status = StatusProposed := by
  obtain ⟨op, safeTx, hop, htext, hID, hto, hdata, hstatus⟩ := sampleProposal_operation true
  refine ⟨op, ?_, htext, hID, hto, hdata, hstatus⟩
  rw [← hID]
  exact step_propose hop rfl rfl

/-- A record of an operation that is there. -/
theorem executionRecord_ok (lib : Libraries) {cfg : Config} {s : Store} {env : Env} {id txHash : String}
    {op : TipRegistryOperation} {receipt : Receipt} (henabled : cfg.TipEnabled = true)
    (hregistry : 0 < cfg.TipChainID ∧ TrimSpace cfg.TipContractAddress ≠ "")
    (hrpc : TrimSpace cfg.TipRPCURL ≠ "") (hid : TrimSpace id = id) (hne : id ≠ "")
    (hhash : isHexHash32 (TrimSpace txHash) = true) (hget : getTipRegistryOperation s env id = .ok op)
    (hreceipt : env.receipt = .ok (some receipt)) : executionRecord lib cfg s env id txHash
      = .ok (executionUpdate lib env op (TrimSpace txHash) receipt) := by
  have hconfigured := requireTipRegistryConfigured_ok henabled hregistry
  have hreachable : requireTipRPCConfigured cfg = .ok () := check_of hrpc
  simp only [executionRecord, hconfigured, hreachable, hid, check_of hne, check_of hhash, hget, hreceipt,
    bind, Except.bind]

/-- A record of the operation makes it executed by the transaction. -/
theorem sample_recorded (txHash : String) {s : Store} {op : TipRegistryOperation}
    (hhash : isHexHash32 (TrimSpace txHash) = true) (hrow : s (sampleID true) = some op)
    (hID : op.ID = sampleID true) : ∃ row, step sampleLib s (sampleRecord txHash) (sampleID true) = some row ∧
      row.ID = sampleID true ∧ row.Status = StatusExecuted ∧ row.ExecTxHash = ToLower (TrimSpace txHash) := by
  have hrpc : TrimSpace sampleConfig.TipRPCURL ≠ "" := by decide
  have hrecord := executionRecord_ok sampleLib (show sampleConfig.TipEnabled = true from rfl)
    sampleConfig_registry hrpc (sampleID_trimmed true) (sampleID_ne true) hhash (sample_get hrow)
    (show (sampleEnv 1).receipt = .ok (some ⟨1, some 1, 21000⟩) from rfl)
  have hupdate : (executionUpdate sampleLib (sampleEnv 1) op (TrimSpace txHash) ⟨1, some 1, 21000⟩).ID
      = sampleID true := by
    rw [executionUpdate_ID, hID, sampleID_trimmed]
  have hstep : step sampleLib s (sampleRecord txHash) = s.updateExecution sampleLib
      (executionUpdate sampleLib (sampleEnv 1) op (TrimSpace txHash) ⟨1, some 1, 21000⟩) := by
    simp only [step, handle, sampleRecord, handleRecordTipRegistryOperationExecution, hrecord, hupdate, hrow]
    rfl
  obtain ⟨row, hself, hrowID, -, -, -, hstatus, htx⟩ :=
    updateExecution_self (s := s) sampleLib (hupdate.symm ▸ hrow)
  rw [hupdate] at hself
  refine ⟨row, hstep ▸ hself, hrowID.trans hID, ?_, htx.trans (executionUpdate_ExecTxHash _ _ _ _)⟩
  rw [hstatus, executionUpdate_Status, if_pos rfl]

theorem sampleProposal_hashes :
    (sampleProposal true).HashesIn sampleLib {(sampleCall true).text 1 9} := by
  intro pr hop
  obtain ⟨op, safeTx, hop', htext, -⟩ := sampleProposal_operation true
  obtain rfl := Option.some.inj (Except.ok.inj (hop'.symm.trans hop))
  exact Set.mem_singleton_iff.2 htext

theorem sampleRecord_meets : Meets sampleLib sampleTxs
    (step sampleLib (fun _ => none) (sampleProposal true)) (sampleRecord sampleTxHash) := by
  obtain ⟨op, hstep, -, -, hto, hdata, hstatus⟩ := sample_proposed
  intro row hrow
  rw [hstep, sampleID_trimmed, Function.update_self] at hrow
  obtain rfl := Option.some.inj hrow
  rw [sampleTxHash_trimmed, sampleTxs_sample]
  refine ⟨fun _ => ⟨_, List.mem_singleton_self _, hto, hdata⟩, fun hterminal => ?_⟩
  rcases hterminal with h | h
  · exact absurd (hstatus.symm.trans h) status_ne.1
  · exact absurd (hstatus.symm.trans h) status_ne.2.1

/-- A token is allowed, and that is recorded. -/
theorem operation_log_recorded :
    Along (step sampleLib) (Truthful sampleLib sampleTxs) (fun _ => none)
      [sampleProposal true, sampleRecord sampleTxHash] := by
  refine operation_log sampleLib sampleLib_documented sampleTxs {(sampleCall true).text 1 9}
    (Set.injOn_singleton _ _) _ ?_ ?_ ⟨?_, sampleRecord_meets, trivial⟩
  · intro r hr
    rcases List.mem_cons.1 hr with rfl | hr
    · trivial
    · obtain rfl := List.mem_singleton.1 hr
      exact sampleRecord_answered _
  · intro r hr
    rcases List.mem_cons.1 hr with rfl | hr
    · exact sampleProposal_hashes
    · obtain rfl := List.mem_singleton.1 hr
      trivial
  · intro pr row _ hrow
    cases hrow

/-- An accepted proposal of an executed operation is not what the log should tell. -/
theorem not_truthful_of_present {lib : Libraries} {txs : Txs} {s : Store} {cfg : Config} {env : Env}
    {p : Proposed} {op row : TipRegistryOperation} {safeTx : safeTxPayload}
    (hop : p.operation lib cfg env = .ok (some (op, safeTx))) (hfault : env.writeFault = .none)
    (hrow : s op.ID = some row) (hget : getTipRegistryOperation s env op.ID = .ok row)
    (hID : row.ID = op.ID) (hexecuted : row.Status = StatusExecuted) :
    ¬ Truthful lib txs s (.propose cfg env p) := by
  intro h
  have hhandle := handle_propose_present hop hfault hrow hget
  have hresponse : (handle lib s (.propose cfg env p)).1 = .ok (.proposed row safeTx) := by rw [hhandle]
  have hstep : step lib s (.propose cfg env p) = s := by rw [step, hhandle]
  obtain ⟨row', hrow', -, hstatus, -⟩ := h.1 row safeTx hresponse
  rw [hstep, hID, hrow] at hrow'
  obtain rfl := Option.some.inj hrow'
  exact status_ne.1 (hstatus.symm.trans hexecuted)

/-- Neither is an execution by a transaction that made no call. -/
theorem not_truthful_of_record {lib : Libraries} {txs : Txs} {s : Store} {r : Request} {id : String}
    {row : TipRegistryOperation} (hrow : step lib s r id = some row) (hexecuted : row.Status = StatusExecuted)
    (hcalls : (txs (lib.HexToHash row.ExecTxHash)).calls = []) : ¬ Truthful lib txs s r := by
  intro h
  obtain ⟨-, c, hc, -⟩ := h.2.1 id row hrow hexecuted
  rw [hcalls] at hc
  cases hc

/-- A proposal keeps what is there. -/
theorem propose_keeps {lib : Libraries} {s : Store} {cfg : Config} {env : Env} {p : Proposed} {id : String}
    {row : TipRegistryOperation} (hrow : s id = some row) :
    step lib s (.propose cfg env p) id = some row := by
  rcases step_cases lib s (.propose cfg env p) with hsame | ⟨_, _, _, pr, -, -, hcreate⟩ |
    ⟨_, _, _, _, _, _, hno, -⟩
  · rw [hsame, hrow]
  · rw [hcreate, createAbsent_keeps hrow]
  · cases hno

/-- A token is allowed, that is recorded, it is no longer allowed, and to allow it is proposed again: the
    proposal is accepted, and the operation is the executed one. Besides, an operation is executed by a
    transaction that made no call. -/
theorem not_operation_log :
    ¬ Along (step sampleLib) (Truthful sampleLib sampleTxs) (fun _ => none)
      [sampleProposal true, sampleRecord sampleTxHash, sampleProposal false, sampleProposal true] ∧
    ¬ Along (step sampleLib) (Truthful sampleLib sampleTxs) (fun _ => none)
      [sampleProposal true, sampleRecord otherTxHash] := by
  obtain ⟨op, hproposed, -, hID, -⟩ := sample_proposed
  have hrow : step sampleLib (fun _ => none) (sampleProposal true) (sampleID true) = some op := by
    rw [hproposed, Function.update_self]
  refine ⟨fun h => ?_, fun h => ?_⟩
  · obtain ⟨row, hrecorded, hrowID, hexecuted, -⟩ :=
      sample_recorded sampleTxHash sampleTxHash_hex hrow hID
    obtain ⟨op', safeTx, hop, -, hopID, -⟩ := sampleProposal_operation true
    have hkept : step sampleLib (step sampleLib (step sampleLib (fun _ => none) (sampleProposal true))
        (sampleRecord sampleTxHash)) (sampleProposal false) (sampleID true) = some row :=
      propose_keeps hrecorded
    exact not_truthful_of_present hop rfl (hopID ▸ hkept) (hopID ▸ sample_get hkept)
      (hrowID.trans hopID.symm) hexecuted h.2.2.2.1
  · obtain ⟨row, hrecorded, -, hexecuted, hhash⟩ :=
      sample_recorded otherTxHash otherTxHash_hex hrow hID
    refine not_truthful_of_record hrecorded hexecuted ?_ h.2.1
    rw [hhash, sampleLib_documented.HexToHash_lower, otherTxHash_trimmed, sampleTxs_other otherTxHash_ne]

end LesserHost.TipRegistry
