import LesserHost.Mailbox.State

set_option autoImplicit false

/-! # The flags of a message

Each action sets some flags of its message. The flags are as the actions say when a flag has the value
the last committed action that sets it gave it. An action writes all three flags, as it read them where
it does not set them, so this needs that nobody has changed those in between (`Undisturbed`). -/

namespace LesserHost.Mailbox

open LesserHost.Go

/-! ## What an action sets -/

inductive Flag where
  | read
  | archived
  | deleted
  deriving DecidableEq

instance : Fintype Flag := ⟨{.read, .archived, .deleted}, fun f => by cases f <;> decide⟩

def SoulCommMailboxMessage.flag (m : SoulCommMailboxMessage) : Flag → Bool
  | .read => m.Read
  | .archived => m.Archived
  | .deleted => m.Deleted

/-- The value an action gives to a flag, if it sets it. -/
def StateEndpoint.sets : StateEndpoint → Flag → Option Bool
  | .MarkRead, .read => some true
  | .MarkUnread, .read => some false
  | .Archive, .archived => some true
  | .Unarchive, .archived => some false
  | .Delete, .archived => some true
  | .Delete, .deleted => some true
  | _, _ => none

@[simp] theorem flag_apply (e : StateEndpoint) (m : SoulCommMailboxMessage) (f : Flag) :
    (e.action.apply m).1.flag f = (e.sets f).getD (m.flag f) := by
  cases e <;> cases f <;> rfl

@[simp] theorem flag_withState (row item : SoulCommMailboxMessage) (f : Flag) :
    (row.withState item).flag f = item.flag f := by
  cases f <;> rfl

theorem flag_BeforeUpdate {m m' : SoulCommMailboxMessage} {now : Time}
    (h : m.BeforeUpdate now = .ok m') (f : Flag) : m'.flag f = m.flag f := by
  simp only [SoulCommMailboxMessage.BeforeUpdate, bind, Except.bind] at h
  split at h
  · cases h
  · split at h
    · cases h
    · obtain rfl := Except.ok.inj h
      split_ifs <;> cases f <;> rfl

/-- The value of a flag after the actions, if nothing but the actions has set it. -/
def flagAfter (initial : SoulCommMailboxMessage) (done : List StateEndpoint) (f : Flag) : Bool :=
  ((done.filterMap fun e => e.sets f).getLast?).getD (initial.flag f)

@[simp] theorem flagAfter_nil (initial : SoulCommMailboxMessage) (f : Flag) :
    flagAfter initial [] f = initial.flag f := rfl

theorem flagAfter_append (initial : SoulCommMailboxMessage) (done : List StateEndpoint)
    (e : StateEndpoint) (f : Flag) :
    flagAfter initial (done ++ [e]) f = (e.sets f).getD (flagAfter initial done f) := by
  cases h : e.sets f <;> simp [flagAfter, h]

/-- No action unsets the flag of a deleted message. -/
theorem flagAfter_deleted {initial : SoulCommMailboxMessage} {done : List StateEndpoint}
    (h : StateEndpoint.Delete ∈ done) : flagAfter initial done .deleted = true := by
  have hall : ∀ v ∈ done.filterMap fun e => e.sets .deleted, v = true := by
    intro v hv
    obtain ⟨e, -, he⟩ := List.mem_filterMap.1 hv
    cases e <;> simp [StateEndpoint.sets] at he
    exact he
  have hmem : true ∈ done.filterMap fun e => e.sets .deleted := List.mem_filterMap.2 ⟨_, h, rfl⟩
  obtain ⟨v, hv⟩ := Option.isSome_iff_exists.1 (List.getLast?_isSome.2 (List.ne_nil_of_mem hmem))
  rw [flagAfter, hv, Option.getD_some]
  exact hall v (List.mem_of_getLast? hv)

/-! ## What is committed -/

variable {ι : Type}

/-- The operation wrote the row. -/
def commits (key : String × String) (e : Event ι Op Table Choice) : Bool :=
  match e.op with
  | .writeState item evt =>
      item.key == key && e.choice.fault != .lost && (e.before.stateRow item evt).isSome
  | _ => false

/-- The actions that have written the row, in order. -/
def committed (endpoint : ι → StateEndpoint) (key : String × String)
    (log : List (Event ι Op Table Choice)) : List StateEndpoint :=
  (log.filter (commits key)).map fun e => endpoint e.who

/-- The flags of the row are as the actions say. -/
structure FlagsFollow (endpoint : ι → StateEndpoint) (key : String × String)
    (initial : SoulCommMailboxMessage) (s : Traced ι Op Table Choice) : Prop where
  /-- every flag has the value the last committed action that sets it gave it -/
  stored : ∃ row, s.state.messages key = some row ∧
    ∀ f, row.flag f = flagAfter initial (committed endpoint key s.log) f
  /-- no action changed a flag that it does not set -/
  kept : ∀ e ∈ s.log, commits key e = true → ∀ f, (endpoint e.who).sets f = none →
    (e.after.messages key).map (·.flag f) = (e.before.messages key).map (·.flag f)
  /-- a message deleted once is deleted -/
  deleted : .Delete ∈ committed endpoint key s.log →
    (s.state.messages key).map (·.Deleted) = some true

/-- The flags a write does not set have in the table the value the action read. -/
def Undisturbed (endpoint : ι → StateEndpoint) (key : String × String) :
    ι → Op → Choice → Traced ι Op Table Choice → Prop
  | i, .writeState item _, _, s => item.key = key →
      ((s.state.messages key).all fun row =>
        decide (∀ f, (endpoint i).sets f = none → item.flag f = row.flag f)) = true
  | _, _, _, _ => True

instance (endpoint : ι → StateEndpoint) (key : String × String) (i : ι) (o : Op) (c : Choice)
    (s : Traced ι Op Table Choice) : Decidable (Undisturbed endpoint key i o c s) := by
  cases o <;> unfold Undisturbed <;> infer_instance

/-! ## The handlers -/

/-- A write gives the flags the action sets their values. -/
def SetsFlags (e : StateEndpoint) : Op → Prop
  | .writeState item _ => ∀ f v, e.sets f = some v → item.flag f = v
  | _ => True

section Only

variable {e : StateEndpoint} {instanceSlug agentID : String}

theorem loadMailboxMessageByDeliveryID_only (deliveryID : String) :
    (loadMailboxMessageByDeliveryID instanceSlug agentID deliveryID).Only (SetsFlags e) := by
  unfold loadMailboxMessageByDeliveryID
  dsimp only
  split_ifs
  · exact Prog.only_pure _
  · refine Prog.only_bind ((Prog.only_perform _).2 trivial) fun r => ?_
    split
    · exact Prog.only_pure _
    · exact Prog.only_pure _
    · split_ifs <;> exact Prog.only_pure _

theorem matchCandidates_only (messageRef : String) (deliveryIDs : List String) :
    ∀ matched, (matchCandidates instanceSlug agentID messageRef matched deliveryIDs).Only
      (SetsFlags e) := by
  induction deliveryIDs with
  | nil => exact fun matched => Prog.only_pure _
  | cons deliveryID rest ih =>
      intro matched
      unfold matchCandidates
      split_ifs
      · exact ih matched
      · refine Prog.only_bind (loadMailboxMessageByDeliveryID_only deliveryID) fun r => ?_
        split
        · split_ifs
          · exact ih matched
          · exact Prog.only_pure _
        · split_ifs
          · exact ih matched
          · exact Prog.only_pure _
          · exact ih _

theorem loadMailboxMessageByRef_only (sha256 : Sha256) (messageRef : String) :
    (loadMailboxMessageByRef sha256 instanceSlug agentID messageRef).Only (SetsFlags e) := by
  unfold loadMailboxMessageByRef
  dsimp only
  refine Prog.only_ite (Prog.only_pure _)
    (Prog.only_bind (loadMailboxMessageByDeliveryID_only _) fun r => ?_)
  split
  · exact Prog.only_pure _
  · split_ifs
    · exact Prog.only_pure _
    · exact Prog.only_pure _
    · exact matchCandidates_only _ _ _

theorem persistMailboxStateChange_only {sha256 : Sha256} {item : SoulCommMailboxMessage}
    {evt : SoulCommMailboxEvent} (h : ∀ f v, e.sets f = some v → item.flag f = v) :
    (persistMailboxStateChange sha256 item evt).Only (SetsFlags e) := by
  unfold persistMailboxStateChange
  split
  · exact Prog.only_pure _
  · refine Prog.only_bind ((Prog.only_perform _).2 h) fun r => ?_
    split <;> exact Prog.only_pure _

theorem handleSoulCommMailboxState_only (sha256 : Sha256) (reqCtx : mailboxRequestContext)
    (messageRef : String) (e : StateEndpoint) :
    (handleSoulCommMailboxState sha256 reqCtx messageRef e.action).Only (SetsFlags e) := by
  unfold handleSoulCommMailboxState
  refine Prog.only_bind (loadMailboxMessageByRef_only _ _) fun r => ?_
  split
  · exact Prog.only_fail _
  · next copy =>
      split
      · exact Prog.only_pure _
      · next item happly =>
          refine Prog.only_bind ((Prog.only_perform _).2 trivial) fun now => ?_
          refine Prog.only_bind ((Prog.only_perform _).2 trivial) fun updatedAt => ?_
          split
          · exact Prog.only_fail _
          · next written hupdate =>
              refine Prog.only_bind (persistMailboxStateChange_only ?_) fun r => ?_
              · -- the keys and the times change, the flags are those of the changed copy
                intro f v hv
                have hitem : item = (e.action.apply copy).1 := by rw [happly]
                have hflag : ({ item with UpdatedAt := now.UTC } : SoulCommMailboxMessage).flag f
                    = item.flag f := by cases f <;> rfl
                rw [flag_BeforeUpdate hupdate, hflag, hitem, flag_apply, hv, Option.getD_some]
              · split
                · exact Prog.only_fail _
                · exact Prog.only_pure _

end Only

/-! ## Runs -/

theorem attempt_snd {α : Type} (c : Choice) (t : Table) (r : Except StoreError α × Table) :
    (c.attempt t r).2 = if c.fault = .lost then t else r.2 := by
  unfold Choice.attempt
  cases c.fault <;> simp

theorem handle_writeState (item : SoulCommMailboxMessage) (evt : SoulCommMailboxEvent) (c : Choice)
    (t : Table) : (t.handle (.writeState item evt) c).2
      = if c.fault = .lost then t else (t.writeState item evt).2 := attempt_snd c t _

theorem handle_read {o : Op} (h : ∀ item evt, o ≠ .writeState item evt) (c : Choice) (t : Table) :
    (t.handle o c).2.messages = t.messages := by
  cases o with
  | now => rfl
  | firstByDelivery pk sk =>
      unfold Table.handle
      rw [attempt_snd]
      split_ifs <;> rfl
  | writeState item evt => exact absurd rfl (h item evt)

/-- What an operation does to a row: nothing, or it commits the flags of its item. -/
theorem handle_cases (key : String × String) (i : ι) (o : Op) (c : Choice) (t : Table) :
    (commits key ⟨i, o, c, t, (t.handle o c).2⟩ = false ∧
        (t.handle o c).2.messages key = t.messages key) ∨
      ∃ item evt row, o = .writeState item evt ∧ item.key = key ∧ t.messages key = some row ∧
        commits key ⟨i, o, c, t, (t.handle o c).2⟩ = true ∧
        (t.handle o c).2.messages key = some (row.withState item) := by
  by_cases ho : ∃ item evt, o = .writeState item evt
  · obtain ⟨item, evt, rfl⟩ := ho
    rw [handle_writeState]
    by_cases hlost : c.fault = .lost
    · simp [commits, hlost]
    · rw [if_neg hlost]
      unfold Table.writeState
      cases hrow : t.stateRow item evt with
      | none => simp [commits, hrow]
      | some row' =>
          by_cases hkey : item.key = key
          · refine Or.inr ?_
            unfold Table.stateRow at hrow
            split at hrow
            · cases hrow
            · obtain ⟨row, hfound, rfl⟩ := Option.map_eq_some_iff.1 hrow
              have hsome : (t.stateRow item evt).isSome = true := by
                unfold Table.stateRow
                rw [if_neg ‹_›, hrow]
                rfl
              refine ⟨item, evt, row, rfl, hkey, hkey ▸ hfound, ?_, ?_⟩
              · simp [commits, hkey, hlost, hsome]
              · simp [hkey]
          · refine Or.inl ⟨?_, ?_⟩
            · simp [commits, hkey]
            · simp [Function.update_of_ne (Ne.symm hkey)]
  · have hread : ∀ item evt, o ≠ .writeState item evt := fun item evt h => ho ⟨item, evt, h⟩
    refine Or.inl ⟨?_, by rw [handle_read hread]⟩
    cases o with
    | writeState item evt => exact absurd rfl (hread item evt)
    | _ => rfl

section Run

variable {endpoint : ι → StateEndpoint} {key : String × String} {initial : SoulCommMailboxMessage}
  {s : Traced ι Op Table Choice}

/-- One operation keeps the flags as the actions say. -/
theorem FlagsFollow.handle (h : FlagsFollow endpoint key initial s) {i : ι} {o : Op} {c : Choice}
    (hsets : SetsFlags (endpoint i) o) (hundisturbed : Undisturbed endpoint key i o c s) :
    FlagsFollow endpoint key initial ((Traced.env tableEnv i).handle o c s).2 := by
  set e : Event ι Op Table Choice := ⟨i, o, c, s.state, (s.state.handle o c).2⟩ with he
  have hlog : ((Traced.env tableEnv i).handle o c s).2.log = s.log ++ [e] := rfl
  have hstate : ((Traced.env tableEnv i).handle o c s).2.state = (s.state.handle o c).2 := rfl
  obtain ⟨row, hrow, hflags⟩ := h.stored
  rcases handle_cases key i o c s.state with ⟨hidle, hmessages⟩ |
    ⟨item, evt, row', rfl, hkey, hrow', hcommits, hmessages⟩
  · -- the history of the row does not change
    have hdone : committed endpoint key (s.log ++ [e]) = committed endpoint key s.log := by
      simp [committed, he, hidle]
    refine ⟨⟨row, ?_, ?_⟩, ?_, ?_⟩
    · rw [hstate, hmessages, hrow]
    · rw [hlog, hdone]
      exact hflags
    · intro e' hmem hcommits f hf
      rw [hlog, List.mem_append, List.mem_singleton] at hmem
      rcases hmem with hold | rfl
      · exact h.kept e' hold hcommits f hf
      · rw [he, hidle] at hcommits
        cases hcommits
    · rw [hlog, hdone, hstate, hmessages]
      exact h.deleted
  · obtain rfl : row' = row := Option.some.inj (hrow'.symm.trans hrow)
    have hdone : committed endpoint key (s.log ++ [e])
        = committed endpoint key s.log ++ [endpoint i] := by
      simp [committed, he, hcommits]
    -- a flag that the action does not set was read as it is stored
    have hunset : ∀ f, (endpoint i).sets f = none → item.flag f = row'.flag f := by
      have hall := hundisturbed hkey
      rw [hrow, Option.all_some, decide_eq_true_eq] at hall
      exact hall
    have hafter : ∀ f, (row'.withState item).flag f
        = flagAfter initial (committed endpoint key (s.log ++ [e])) f := by
      intro f
      rw [hdone, flagAfter_append, flag_withState]
      cases hf : (endpoint i).sets f with
      | none => rw [hunset f hf, hflags f, Option.getD_none]
      | some v => rw [hsets f v hf, Option.getD_some]
    refine ⟨⟨row'.withState item, ?_, ?_⟩, ?_, ?_⟩
    · rw [hstate, hmessages]
    · rw [hlog]
      exact hafter
    · intro e' hmem hcommits' f hf
      rw [hlog, List.mem_append, List.mem_singleton] at hmem
      rcases hmem with hold | rfl
      · exact h.kept e' hold hcommits' f hf
      · rw [he] at hf ⊢
        dsimp only at hf ⊢
        rw [hmessages, hrow, Option.map_some, Option.map_some, flag_withState, hunset f hf]
    · intro hmem
      rw [hlog] at hmem
      rw [hstate, hmessages, Option.map_some, ← flagAfter_deleted hmem]
      exact congrArg some (hafter .deleted)

variable [DecidableEq ι]

/-- The actions, each on the message its request names. -/
def stateActions (sha256 : Sha256) (reqCtx : ι → mailboxRequestContext) (messageRef : ι → String)
    (endpoint : ι → StateEndpoint) (t : Table) :
    Config ι Op Op.Res AppTheoryError SoulCommMailboxMessage (Traced ι Op Table Choice) where
  state := Traced.start t
  threads i := handleSoulCommMailboxState sha256 (reqCtx i) (messageRef i) (endpoint i).action

/-- **The flags follow the actions** in every interleaving in which no action overwrites a flag that
    somebody else has changed since it was read. -/
theorem flags_follow (sha256 : Sha256) (reqCtx : ι → mailboxRequestContext) (messageRef : ι → String)
    (endpoint : ι → StateEndpoint) (t : Table) (key : String × String)
    (initial : SoulCommMailboxMessage) (hstored : t.messages key = some initial)
    (ms : List (ι × Choice))
    (h : Along (Config.step (Traced.env tableEnv)) (Config.Performs (Undisturbed endpoint key))
      (stateActions sha256 reqCtx messageRef endpoint t) ms) :
    FlagsFollow endpoint key initial
      ((stateActions sha256 reqCtx messageRef endpoint t).run (Traced.env tableEnv) ms).state := by
  refine Config.run_only (G := fun i => SetsFlags (endpoint i)) ?_ ?_ ?_ h
  · intro i o c s hsets hundisturbed hs
    exact hs.handle hsets hundisturbed
  · exact fun i => handleSoulCommMailboxState_only _ _ _ _
  · refine ⟨⟨initial, hstored, fun f => ?_⟩, ?_, ?_⟩
    · exact (flagAfter_nil initial f).symm
    · intro e he
      cases he
    · intro hmem
      cases hmem

end Run

/-! ## A deletion that is undone

Two actions on one message, which both read it before either of them writes. -/

def sampleSha256 : Sha256 := fun _ => Vector.replicate 32 0

def sampleMessage : SoulCommMailboxMessage where
  PK := "COMM#MAILBOX#INSTANCE#i#AGENT#a"
  SK := "MSG#0001-01-01T01:00:00.000000000Z#comm-delivery-1"
  TTL := -62127817200
  GSI1PK := "COMM#MAILBOX#DELIVERY#comm-delivery-1"
  GSI1SK := SKCurrent
  GSI2PK := "COMM#MAILBOX#INSTANCE#i#AGENT#a#THREAD#t"
  GSI2SK := "MSG#0001-01-01T01:00:00.000000000Z#comm-delivery-1"
  DeliveryID := "comm-delivery-1"
  MessageID := "m"
  ThreadID := "t"
  InstanceSlug := "i"
  AgentID := "a"
  Direction := SoulCommDirectionInbound
  ChannelType := "email"
  Status := "delivered"
  CreatedAt := ⟨Hour, .utc⟩
  UpdatedAt := ⟨Hour, .utc⟩

def sampleTable : Table where
  messages := Function.update (fun _ => none) sampleMessage.key (some sampleMessage)
  index := Function.update (fun _ => []) (sampleMessage.GSI1PK, sampleMessage.GSI1SK) [sampleMessage]
  events := []
  now := ⟨Hour, .utc⟩

/-- The message is deleted by one request and marked as read by another one. -/
def sampleEndpoint : Bool → StateEndpoint
  | false => .Delete
  | true => .MarkRead

def sampleActions : Config Bool Op Op.Res AppTheoryError SoulCommMailboxMessage
    (Traced Bool Op Table Choice) :=
  stateActions sampleSha256 (fun _ => ⟨"i", "a"⟩) (fun _ => "comm-delivery-1") sampleEndpoint
    sampleTable

/-- The whole action: the read, two readings of the clock, and the write. -/
def sampleTurn (i : Bool) : List (Bool × Choice) := List.replicate 4 (i, ⟨.none, 0, 1⟩)

theorem sample_undisturbed :
    Along (Config.step (Traced.env tableEnv))
        (Config.Performs (Undisturbed sampleEndpoint sampleMessage.key)) sampleActions
        (sampleTurn false) ∧
      committed sampleEndpoint sampleMessage.key
        (sampleActions.run (Traced.env tableEnv) (sampleTurn false)).state.log = [.Delete] := by
  decide +kernel

theorem flags_follow_deleted :
    FlagsFollow sampleEndpoint sampleMessage.key sampleMessage
        (sampleActions.run (Traced.env tableEnv) (sampleTurn false)).state ∧
      committed sampleEndpoint sampleMessage.key
        (sampleActions.run (Traced.env tableEnv) (sampleTurn false)).state.log = [.Delete] :=
  ⟨flags_follow sampleSha256 _ _ sampleEndpoint sampleTable sampleMessage.key sampleMessage
    (by decide) (sampleTurn false) sample_undisturbed.1, sample_undisturbed.2⟩

/-- The message is read to be marked, deleted, and marked as read. -/
def sampleOverwrite : List (Bool × Choice) :=
  (true, ⟨.none, 0, 1⟩) :: sampleTurn false ++ (sampleTurn true).tail

theorem sample_overwritten :
    .Delete ∈ committed sampleEndpoint sampleMessage.key
        (sampleActions.run (Traced.env tableEnv) sampleOverwrite).state.log ∧
      ((sampleActions.run (Traced.env tableEnv) sampleOverwrite).state.state.messages
        sampleMessage.key).map (·.Deleted) = some false := by
  decide +kernel

/-- **Marking a message as read can bring it back** after it has been deleted. -/
theorem not_flags_follow :
    ¬ FlagsFollow sampleEndpoint sampleMessage.key sampleMessage
        (sampleActions.run (Traced.env tableEnv) sampleOverwrite).state := by
  intro h
  have hdeleted := h.deleted sample_overwritten.1
  rw [sample_overwritten.2] at hdeleted
  cases hdeleted

end LesserHost.Mailbox
