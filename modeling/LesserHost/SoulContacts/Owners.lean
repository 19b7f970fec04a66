import LesserHost.SoulContacts.Sync

set_option autoImplicit false

/-! # Who owns an index row

Every row leads to an agent whose channel has the identifier of the row. A synchronisation keeps this
when no other one of the same agent runs beside it: it changes only rows of its own agent, and it moves
its channel only when no row leads to the old identifier any more. -/

namespace LesserHost.SoulContacts

open LesserHost.Go
open LesserHost.ControlPlane (AppTheoryError StoreError newAppTheoryError)
open LesserHost.SoulLifecycle (Fault found)

/-! ## Comparing agents -/

theorem foldCode_hex {c : Char} (h : isLowerHexChar c = true ∨ c = 'x') : foldCode c.toNat = c.toNat := by
  have hcodes : ∀ n ∈ 120 :: (List.range' 48 10 ++ List.range' 97 6), foldCode n = n := by decide
  refine hcodes _ ?_
  rcases h with h | rfl
  · refine List.mem_cons_of_mem _ ?_
    simp only [isLowerHexChar, Bool.or_eq_true, Bool.and_eq_true, decide_eq_true_eq] at h
    rw [List.mem_append, List.mem_range'_1, List.mem_range'_1]
    rcases h with ⟨hlow, hhigh⟩ | ⟨hlow, hhigh⟩
    · have hlow' : 48 ≤ c.toNat := hlow
      have hhigh' : c.toNat ≤ 57 := hhigh
      exact Or.inl (by omega)
    · have hlow' : 97 ≤ c.toNat := hlow
      have hhigh' : c.toNat ≤ 102 := hhigh
      exact Or.inr (by omega)
  · exact List.mem_cons_self

theorem AgentIDHex.TrimSpace_text (a : AgentIDHex) : TrimSpace a.text = a.text := by
  refine IsTrimmed.TrimSpace_eq (Trimmed.of_forall fun c hc => ?_)
  rcases a.hex c hc with h | rfl
  · exact isSpace_of_hex h
  · decide

/-- Hexadecimal texts are compared as they are. -/
theorem EqualFold_hex {s t : String} (hs : ∀ c ∈ s.toList, isLowerHexChar c = true ∨ c = 'x')
    (ht : ∀ c ∈ t.toList, isLowerHexChar c = true ∨ c = 'x') : EqualFold s t = true ↔ s = t := by
  have hfold : ∀ {d : String}, (∀ c ∈ d.toList, isLowerHexChar c = true ∨ c = 'x') →
      (d.toList.map fun c => foldCode c.toNat) = d.toList.map Char.toNat :=
    fun hd => List.map_congr_left fun c hc => foldCode_hex (hd c hc)
  unfold EqualFold
  rw [hfold hs, hfold ht, beq_iff_eq]
  constructor
  · intro h
    have hcode : Function.Injective Char.toNat := by
      intro c d hcd
      rw [← Char.ofNat_toNat c, hcd, Char.ofNat_toNat]
    exact String.toList_inj.1 (List.map_injective_iff.2 hcode h)
  · intro h
    rw [h]

/-- The identifiers of agents are compared as they are. -/
theorem sameAgent_iff {a b : AgentIDHex} : sameAgent a b = true ↔ a = b := by
  unfold sameAgent
  rw [a.TrimSpace_text, b.TrimSpace_text, EqualFold_hex a.hex b.hex]
  constructor
  · intro htext
    obtain ⟨text, hex⟩ := a
    obtain ⟨text', hex'⟩ := b
    dsimp only at htext
    subst htext
    rfl
  · intro h
    rw [h]

/-! ## The contract -/

/-- Every row leads to an agent that has its identifier. -/
structure Linked (t : Table) : Prop where
  owner : ∀ type key a, t.index (type, key) = some a →
    TrimSpace key ≠ "" ∧ ∃ ch, t.channels (a, type) = some ch ∧ ch.Identifier = key
  typed : ∀ a type ch, t.channels (a, type) = some ch →
    ch.AgentID = a ∧ ch.ChannelType = type ∧ type.normalize ch.Identifier = ch.Identifier

/-- What a step of a synchronisation of one agent does: it changes the channels of its agent, and rows
    that are its own before and after or are not there. A row for an email or a phone number is written
    for a managed channel only. -/
structure OwnStep (a : AgentIDHex) (t t' : Table) : Prop where
  channels : ∀ b type, b ≠ a → t'.channels (b, type) = t.channels (b, type)
  index : ∀ key, t'.index key = t.index key ∨
    (t.index key = none ∨ t.index key = some a) ∧ (t'.index key = none ∨ t'.index key = some a)
  managed : ∀ type key, t.index (type, key) ≠ some a → t'.index (type, key) = some a → type ≠ .ens →
    trustedManagedSoulChannelForIndex (t'.channels (a, type)) = true

/-- What the others leave alone. -/
structure Untouched (a : AgentIDHex) (t t' : Table) : Prop where
  channels : ∀ type, t'.channels (a, type) = t.channels (a, type)
  index : ∀ key, t'.index key = some a ↔ t.index key = some a

/-- The comparison of the stored identifier with the desired one agrees with their normal forms, and
    an identifier that is stored is normal. -/
def Compared : Op → Choice → Table → Prop
  | .getChannel a type (some desired), _, t => ∀ existing, t.channels (a, type) = some existing →
      EqualFold (TrimSpace existing.Identifier) (TrimSpace desired.Identifier) = true →
      type.normalize desired.Identifier = existing.Identifier
  | .putChannel ch, _, _ => ch.ChannelType.normalize ch.Identifier = ch.Identifier
  | _, _, _ => True

instance : ∀ (o : Op) (c : Choice) (t : Table), Decidable (Compared o c t)
  | .getChannel a type (some desired), _, t =>
      inferInstanceAs (Decidable (∀ existing ∈ t.channels (a, type),
        EqualFold (TrimSpace existing.Identifier) (TrimSpace desired.Identifier) = true →
        type.normalize desired.Identifier = existing.Identifier))
  | .putChannel ch, _, _ =>
      inferInstanceAs (Decidable (ch.ChannelType.normalize ch.Identifier = ch.Identifier))
  | .getChannel _ _ none, _, _ | .deleteChannel .., _, _ | .getIndex _, _, _ | .createIndex .., _, _
  | .putIndex .., _, _ | .deleteIndex _, _, _ | .getAlias _, _, _ | .createAlias _, _, _
  | .putAlias _, _, _ | .resolveAddress _, _, _ => isTrue trivial

def contactContract (a : AgentIDHex) : Contract Op Table Choice where
  inv := Linked
  assume := Compared
  rely := Untouched a
  guar := OwnStep a
  rely_refl _ := ⟨fun _ => rfl, fun _ => Iff.rfl⟩
  rely_trans h h' := ⟨fun type => (h'.channels type).trans (h.channels type),
    fun key => (h'.index key).trans (h.index key)⟩

theorem ownStep_refl (a : AgentIDHex) (t : Table) : OwnStep a t t :=
  ⟨fun _ _ _ => rfl, fun _ => Or.inl rfl, fun _ _ hne h _ => absurd h hne⟩

theorem OwnStep.untouched {a b : AgentIDHex} {t t' : Table} (h : OwnStep a t t') (hne : b ≠ a) :
    Untouched b t t' := by
  refine ⟨fun type => h.channels b type hne, fun key => ?_⟩
  rcases h.index key with hsame | ⟨hbefore, hafter⟩
  · rw [hsame]
  · constructor
    · intro hb
      rcases hafter with hnone | hsome
      · rw [hnone] at hb; cases hb
      · rw [hsome] at hb; exact absurd (Option.some.inj hb).symm hne
    · intro hb
      rcases hbefore with hnone | hsome
      · rw [hnone] at hb; cases hb
      · rw [hsome] at hb; exact absurd (Option.some.inj hb).symm hne

/-! ## Operations -/

theorem attempt_cases {α : Type} (c : Choice) (t : Table) (r : Except StoreError α × Table) :
    c.attempt t r = r ∨
      (c.attempt t r).1 = .error .other ∧ ((c.attempt t r).2 = t ∨ (c.attempt t r).2 = r.2) := by
  unfold Choice.attempt
  cases c.fault with
  | none => exact Or.inl rfl
  | lost => exact Or.inr ⟨rfl, Or.inl rfl⟩
  | unacknowledged => exact Or.inr ⟨rfl, Or.inr rfl⟩

/-- What is known of the channel and the rows of an agent does not change under its hands. -/
def Stable (a : AgentIDHex) (F : Table → Prop) : Prop := ∀ t t', Untouched a t t' → F t → F t'

section Rules

variable {a : AgentIDHex} {F G : Table → Prop} {t : Table}

theorem Stable.and (hF : Stable a F) (hG : Stable a G) : Stable a fun t => F t ∧ G t :=
  fun t t' h hs => ⟨hF t t' h hs.1, hG t t' h hs.2⟩

theorem stable_row (key : ChannelType × String) : Stable a fun t => t.index key = some a :=
  fun _ _ h hrow => (h.index key).2 hrow

/-- An operation that leaves the table as it is. -/
theorem answers_read {o : Op} (hread : ∀ (c : Choice) (t : Table), (t.handle o c).2 = t)
    (hF : Stable a F) (hs : F t)
    {R : o.Res → Table → Prop} (hR : ∀ r, Stable a (R r))
    (h : ∀ t c, Linked t → F t → Compared o c t → R (t.handle o c).1 t) :
    (Prog.perform o : Handler o.Res).Meets tableEnv (contactContract a)
      (Prog.Answering fun r t => F t ∧ R r t) t := by
  refine Prog.answers_perform fun t' ht hinv c hc => ?_
  have hsame : (tableEnv.handle o c t').2 = t' := hread c t'
  rw [hsame]
  have hF' := hF t t' ht hs
  exact ⟨hinv, ownStep_refl a t', fun u hu _ => ⟨hF t' u hu hF', hR _ t' u hu (h t' c hinv hF' hc)⟩⟩

theorem read_attempt {α : Type} (c : Choice) (t : Table) (r : Except StoreError α) :
    (c.attempt t (r, t)).2 = t := by
  rcases attempt_cases c t (r, t) with h | ⟨-, h | h⟩
  · rw [h]
  · exact h
  · exact h

/-- An operation that makes `g` of the table, if it succeeds. -/
theorem answers_change {o : Op} {g : Table → Table} {ok : o.Res → Prop}
    (hcases : ∀ (c : Choice) (t : Table), (t.handle o c).2 = t ∧ ¬ ok (t.handle o c).1 ∨
      (t.handle o c).2 = g t)
    (hF : Stable a F) (hs : F t) (hG : Stable a G)
    (h : ∀ t c, Linked t → F t → Compared o c t → (t.handle o c).2 = g t →
      Linked (g t) ∧ OwnStep a t (g t) ∧ G (g t)) :
    (Prog.perform o : Handler o.Res).Meets tableEnv (contactContract a)
      (Prog.Answering fun r t => ok r → G t) t := by
  refine Prog.answers_perform fun t' ht hinv c hc => ?_
  have hF' := hF t t' ht hs
  have hhandle : tableEnv.handle o c t' = t'.handle o c := rfl
  rw [hhandle]
  rcases hcases c t' with ⟨hsame, hfailed⟩ | hchanged
  · rw [hsame]
    exact ⟨hinv, ownStep_refl a t', fun _ _ _ hok => absurd hok hfailed⟩
  · obtain ⟨hlinked, hown, hG'⟩ := h t' c hinv hF' hc hchanged
    rw [hchanged]
    exact ⟨hlinked, hown, fun u hu _ _ => hG _ u hu hG'⟩

/-- A write without a condition. -/
theorem change_attempt (c : Choice) (t t' : Table) :
    (c.attempt t ((.ok (), t') : Except StoreError Unit × Table)).2 = t ∧
        ¬ (c.attempt t ((.ok (), t') : Except StoreError Unit × Table)).1 = .ok () ∨
      (c.attempt t ((.ok (), t') : Except StoreError Unit × Table)).2 = t' := by
  rcases attempt_cases c t ((.ok (), t') : Except StoreError Unit × Table) with h | ⟨herr, h | h⟩
  · rw [h]
    exact Or.inr rfl
  · rw [h, herr]
    exact Or.inl ⟨rfl, by simp⟩
  · exact Or.inr h

end Rules

/-! ### The writes -/

section Writes

variable {a : AgentIDHex} {t : Table} {type : ChannelType} {key : String}

/-- The rows of an agent lead to its channel only. -/
def RowsAt (a : AgentIDHex) (type : ChannelType) (P : String → Prop) (t : Table) : Prop :=
  ∀ key, t.index (type, key) = some a → P key

theorem stable_rowsAt (P : String → Prop) : Stable a (RowsAt a type P) :=
  fun _ _ h hP key hkey => hP key ((h.index (type, key)).1 hkey)

theorem linked_channel (h : Linked t) {channels : AgentIDHex × ChannelType → Option SoulAgentChannel}
    {new : Option SoulAgentChannel} (hchannels : channels = Function.update t.channels (a, type) new)
    (hrows : RowsAt a type (fun key => ∃ ch, new = some ch ∧ ch.Identifier = key) t)
    (hnew : ∀ ch, new = some ch → ch.AgentID = a ∧ ch.ChannelType = type ∧
      type.normalize ch.Identifier = ch.Identifier) : Linked { t with channels := channels } := by
  subst hchannels
  refine ⟨fun type' key b hrow => ?_, fun b type' ch hch => ?_⟩
  · obtain ⟨hne, ch, hch, hid⟩ := h.owner type' key b hrow
    refine ⟨hne, ?_⟩
    by_cases hsame : (b, type') = (a, type)
    · obtain ⟨rfl, rfl⟩ := Prod.mk.inj hsame
      obtain ⟨ch', hnew', hid'⟩ := hrows key hrow
      exact ⟨ch', by rw [← hnew']; exact Function.update_self _ _ _, hid'⟩
    · exact ⟨ch, by rw [← hch]; exact Function.update_of_ne hsame _ _, hid⟩
  · have hch' : Function.update t.channels (a, type) new (b, type') = some ch := hch
    by_cases hsame : (b, type') = (a, type)
    · obtain ⟨rfl, rfl⟩ := Prod.mk.inj hsame
      rw [Function.update_self] at hch'
      exact hnew ch hch'
    · rw [Function.update_of_ne hsame] at hch'
      exact h.typed b type' ch hch'

theorem ownStep_channel (new : Option SoulAgentChannel) :
    OwnStep a t { t with channels := Function.update t.channels (a, type) new } := by
  refine ⟨fun b type' hne => ?_, fun _ => Or.inl rfl, fun type' key hne hrow => absurd hrow hne⟩
  refine Function.update_of_ne ?_ _ _
  intro heq
  exact hne (Prod.mk.inj heq).1

theorem linked_index (h : Linked t) {new : Option AgentIDHex}
    (hnew : ∀ b, new = some b → TrimSpace key ≠ "" ∧
      ∃ ch, t.channels (b, type) = some ch ∧ ch.Identifier = key) :
    Linked { t with index := Function.update t.index (type, key) new } := by
  refine ⟨fun type' key' b hrow => ?_, h.typed⟩
  have hrow' : Function.update t.index (type, key) new (type', key') = some b := hrow
  by_cases hsame : (type', key') = (type, key)
  · obtain ⟨rfl, rfl⟩ := Prod.mk.inj hsame
    rw [Function.update_self] at hrow'
    exact hnew b hrow'
  · rw [Function.update_of_ne hsame] at hrow'
    exact h.owner type' key' b hrow'

theorem ownStep_index {new : Option AgentIDHex}
    (hbefore : t.index (type, key) = none ∨ t.index (type, key) = some a)
    (hafter : new = none ∨ new = some a)
    (hmanaged : t.index (type, key) = none → new = some a → type ≠ .ens →
      trustedManagedSoulChannelForIndex (t.channels (a, type)) = true) :
    OwnStep a t { t with index := Function.update t.index (type, key) new } := by
  refine ⟨fun _ _ _ => rfl, fun key' => ?_, fun type' key' hne hrow hens => ?_⟩
  · by_cases hsame : key' = (type, key)
    · subst hsame
      refine Or.inr ⟨hbefore, ?_⟩
      dsimp only
      rw [Function.update_self]
      exact hafter
    · exact Or.inl (Function.update_of_ne hsame _ _)
  · have hrow' : Function.update t.index (type, key) new (type', key') = some a := hrow
    by_cases hsame : (type', key') = (type, key)
    · obtain ⟨rfl, rfl⟩ := Prod.mk.inj hsame
      rw [Function.update_self] at hrow'
      rcases hbefore with hnone | hsome
      · exact hmanaged hnone hrow' hens
      · exact absurd hsome hne
    · rw [Function.update_of_ne hsame] at hrow'
      exact absurd hrow' hne

end Writes

/-! ## The parts of a synchronisation -/

/-- What a synchronisation knows: the channel, and where the rows of its agent are. -/
structure Known (a : AgentIDHex) (type : ChannelType) (e : Option SoulAgentChannel) (P : String → Prop)
    (t : Table) : Prop where
  channel : t.channels (a, type) = e
  rows : RowsAt a type P t

section Parts

variable {a : AgentIDHex} {t : Table} {type : ChannelType} {key : String} {e : Option SoulAgentChannel}
  {P : String → Prop}

theorem stable_known : Stable a (Known a type e P) :=
  fun t t' h hk => ⟨(h.channels type).trans hk.channel, stable_rowsAt P t t' h hk.rows⟩

theorem Known.mono {Q : String → Prop} (h : Known a type e P t) (hPQ : ∀ key, P key → Q key) :
    Known a type e Q t :=
  ⟨h.channel, fun key hkey => hPQ key (h.rows key hkey)⟩

/-- What a lookup of a row tells its agent. -/
def Seen (a : AgentIDHex) (key : ChannelType × String) :
    Except StoreError AgentIDHex → Table → Prop
  | .ok owner, t => owner = a ↔ t.index key = some a
  | .error .notFound, t => t.index key ≠ some a
  | .error _, _ => True

theorem stable_seen (key : ChannelType × String) (r : Except StoreError AgentIDHex) :
    Stable a (Seen a key r) := by
  intro t t' h hs
  unfold Seen at hs ⊢
  split
  · rw [h.index]
    exact hs
  · rw [Ne, h.index]
    exact hs
  · trivial

theorem seen_handle (key : ChannelType × String) (c : Choice) (t : Table) :
    Seen a key (t.handle (.getIndex key) c).1 t := by
  have hhandle : t.handle (.getIndex key) c = c.attempt t (found (t.index key), t) := rfl
  rw [hhandle]
  rcases attempt_cases c t (found (t.index key), t) with h | ⟨herr, -⟩
  · rw [h]
    cases hrow : t.index key with
    | none =>
        show t.index key ≠ some a
        rw [hrow]
        simp
    | some owner =>
        show owner = a ↔ t.index key = some a
        rw [hrow, Option.some.injEq]
  · rw [herr]
    exact trivial

theorem answers_getIndex (key : ChannelType × String) (h : Known a type e P t) :
    (Prog.perform (.getIndex key : Op) : Handler (Except StoreError AgentIDHex)).Meets tableEnv
      (contactContract a) (Prog.Answering fun r t => Known a type e P t ∧ Seen a key r t) t :=
  answers_read (o := .getIndex key) (fun c t => read_attempt c t _) stable_known h (stable_seen key)
    fun t c _ _ _ => seen_handle key c t

theorem answers_deleteIndexIfOwned (failure : String) (h : Known a type e P t) :
    (deleteIndexIfOwned (type, key) a failure).Meets tableEnv (contactContract a)
      (Prog.Answering fun _ t => Known a type e (fun k => P k ∧ k ≠ key) t) t := by
  unfold deleteIndexIfOwned
  have hother : ∀ {t : Table}, Known a type e P t → t.index (type, key) ≠ some a →
      Known a type e (fun k => P k ∧ k ≠ key) t := by
    refine fun hk hne => ⟨hk.channel, fun k hrow => ⟨hk.rows k hrow, ?_⟩⟩
    rintro rfl
    exact hne hrow
  refine Prog.answers_bind (answers_getIndex (type, key) h) fun r t hr => ?_
  obtain ⟨hk, hseen⟩ := hr
  split
  · exact Prog.answers_pure fun u hu _ => stable_known _ _ hu (hother hk hseen)
  · exact Prog.answers_fail
  · next owner =>
      have hseen' : owner = a ↔ t.index (type, key) = some a := hseen
      refine Prog.meets_ite (fun hdiffers => ?_) fun hsame => ?_
      · refine Prog.answers_pure fun u hu _ => stable_known _ _ hu (hother hk fun hrow => ?_)
        rw [sameAgent_iff.2 (hseen'.2 hrow)] at hdiffers
        cases hdiffers
      · rw [Bool.not_eq_false, sameAgent_iff] at hsame
        have hrow := hseen'.1 hsame
        refine Prog.answers_bind (R := fun r t => r = .ok () →
          Known a type e (fun k => P k ∧ k ≠ key) t) ?_ fun r t hr => ?_
        · refine answers_change (o := .deleteIndex (type, key))
            (fun c t => change_attempt c t _) (stable_known.and (stable_row (type, key))) ⟨hk, hrow⟩
            stable_known fun t c hinv hF _ _ => ?_
          refine ⟨linked_index hinv (fun b hb => by cases hb),
            ownStep_index (Or.inr hF.2) (Or.inl rfl) (fun _ hb => by cases hb), hF.1.channel, ?_⟩
          intro k hk'
          have hk'' : Function.update t.index (type, key) none (type, k) = some a := hk'
          by_cases hsame : (type, k) = (type, key)
          · rw [hsame, Function.update_self] at hk''
            cases hk''
          · rw [Function.update_of_ne hsame] at hk''
            refine ⟨hF.1.rows k hk'', ?_⟩
            rintro rfl
            exact hsame rfl
        · split
          · exact Prog.answers_pure fun u hu _ => stable_known _ _ hu (hr rfl)
          · exact Prog.answers_fail

/-- The row that a synchronisation creates leads to the channel that it has stored. -/
theorem answers_createIndex (errors : IndexErrors) {ch : SoulAgentChannel} (hblank : TrimSpace key ≠ "")
    (hid : ch.Identifier = key)
    (hmanaged : type ≠ .ens → trustedManagedSoulChannelForIndex (some ch) = true)
    (h : Known a type (some ch) P t) :
    (createIndex (type, key) a errors).Meets tableEnv (contactContract a)
      (Prog.Answering fun _ _ => True) t := by
  unfold createIndex
  refine Prog.answers_bind (R := fun r _ => r = .ok () → True) ?_ fun r t _ => ?_
  · refine Prog.answers_perform fun t' ht hinv c _ => ?_
    have hk := stable_known _ _ ht h
    have hhandle : tableEnv.handle (.createIndex (type, key) a) c t' = c.attempt t'
        (if (t'.index (type, key)).isNone then
          (.ok (), { t' with index := Function.update t'.index (type, key) (some a) })
        else (.error .conditionFailed, t')) := rfl
    rw [hhandle]
    by_cases hnone : (t'.index (type, key)).isNone = true
    · rw [if_pos hnone]
      rw [Option.isNone_iff_eq_none] at hnone
      have hlinked : Linked { t' with index := Function.update t'.index (type, key) (some a) } := by
        refine linked_index hinv fun b hb => ⟨hblank, ch, ?_, hid⟩
        cases hb
        exact hk.channel
      have hown : OwnStep a t' { t' with index := Function.update t'.index (type, key) (some a) } := by
        refine ownStep_index (Or.inl hnone) (Or.inr rfl) fun _ _ hens => ?_
        rw [hk.channel]
        exact hmanaged hens
      rcases change_attempt c t'
        { t' with index := Function.update t'.index (type, key) (some a) } with ⟨hsame, -⟩ | hchanged
      · rw [hsame]
        exact ⟨hinv, ownStep_refl a t', fun _ _ _ _ => trivial⟩
      · rw [hchanged]
        exact ⟨hlinked, hown, fun _ _ _ _ => trivial⟩
    · rw [if_neg hnone, read_attempt]
      exact ⟨hinv, ownStep_refl a t', fun _ _ _ _ => trivial⟩
  · split
    · exact Prog.answers_pure fun _ _ _ => trivial
    · exact Prog.answers_fail
    · exact Prog.answers_fail

theorem answers_ensureSoulContactAgentIndex (errors : IndexErrors) {ch : SoulAgentChannel}
    (hid : ch.Identifier = key)
    (hmanaged : type ≠ .ens → trustedManagedSoulChannelForIndex (some ch) = true)
    (h : Known a type (some ch) P t) :
    (ensureSoulContactAgentIndex (type, key) a errors).Meets tableEnv (contactContract a)
      (Prog.Answering fun _ _ => True) t := by
  unfold ensureSoulContactAgentIndex
  refine Prog.meets_ite (fun _ => Prog.answers_fail) fun hblank => ?_
  rw [not_or] at hblank
  refine Prog.answers_bind (answers_getIndex (type, key) h) fun r t hr => ?_
  split
  · exact Prog.meets_ite (fun _ => Prog.answers_pure fun _ _ _ => trivial) fun _ => Prog.answers_fail
  · exact answers_createIndex errors hblank.1 hid hmanaged hr.1
  · exact Prog.answers_fail

theorem answers_ensureSoulENSResolution {ch : SoulAgentChannel} (hid : ch.Identifier = key)
    (h : Known a .ens (some ch) P t) :
    (ensureSoulENSResolution (.ens, key) a).Meets tableEnv (contactContract a)
      (Prog.Answering fun _ _ => True) t := by
  unfold ensureSoulENSResolution
  refine Prog.meets_ite (fun _ => Prog.answers_fail) fun hblank => ?_
  rw [not_or] at hblank
  refine Prog.answers_bind (answers_getIndex (.ens, key) h) fun r t hr => ?_
  obtain ⟨hk, hseen⟩ := hr
  split
  · next owner =>
      have hseen' : owner = a ↔ t.index (.ens, key) = some a := hseen
      refine Prog.meets_ite (fun hsame => ?_) fun _ => Prog.answers_fail
      rw [sameAgent_iff] at hsame
      refine Prog.answers_bind (R := fun r t => r = .ok () → True) ?_ fun r t _ => ?_
      · refine answers_change (o := .putIndex (.ens, key) a) (fun c t => change_attempt c t _)
          (stable_known.and (stable_row (.ens, key))) ⟨hk, hseen'.1 hsame⟩
          (fun _ _ _ _ => trivial) fun t c hinv hF _ _ => ?_
        refine ⟨linked_index hinv fun b hb => ⟨hblank.1, ch, ?_, hid⟩,
          ownStep_index (Or.inr hF.2) (Or.inr rfl) (fun _ _ hens => absurd rfl hens), trivial⟩
        cases hb
        exact hF.1.channel
      · split
        · exact Prog.answers_pure fun _ _ _ => trivial
        · exact Prog.answers_fail
  · exact answers_createIndex ensResolutionErrors hblank.1 hid (fun hens => absurd rfl hens) hk
  · exact Prog.answers_fail

theorem answers_preflight (key : ChannelType × String) (h : Known a type e P t) :
    (preflightSoulENSResolutionAssignable key a).Meets tableEnv (contactContract a)
      (Prog.Answering fun _ t => Known a type e P t) t := by
  unfold preflightSoulENSResolutionAssignable
  refine Prog.meets_ite (fun _ => Prog.answers_fail) fun _ => ?_
  refine Prog.answers_bind (answers_getIndex key h) fun r t hr => ?_
  have hkept : (pure () : Handler Unit).Meets tableEnv (contactContract a)
      (Prog.Answering fun _ t => Known a type e P t) t :=
    Prog.answers_pure fun u hu _ => stable_known _ _ hu hr.1
  split
  · exact Prog.meets_ite (fun _ => hkept) fun _ => Prog.answers_fail
  · exact hkept
  · exact Prog.answers_fail

/-- The rows of the aliases are nobody's. -/
theorem answers_putAlias {row : SoulEmailLegacyAliasIndex} (h : Known a type e P t) :
    (Prog.perform (.putAlias row : Op) : Handler (Except StoreError Unit)).Meets tableEnv
      (contactContract a) (Prog.Answering fun r t => r = .ok () → Known a type e P t) t := by
  refine answers_change (o := .putAlias row) (fun c t => change_attempt c t _) stable_known h
    stable_known fun t c hinv hF _ _ => ?_
  exact ⟨⟨hinv.owner, hinv.typed⟩, ⟨fun _ _ _ => rfl, fun _ => Or.inl rfl,
    fun _ _ hne hrow _ => absurd hrow hne⟩, hF.channel, hF.rows⟩

theorem answers_createAlias {row : SoulEmailLegacyAliasIndex} (h : Known a type e P t) :
    (Prog.perform (.createAlias row : Op) : Handler (Except StoreError Unit)).Meets tableEnv
      (contactContract a) (Prog.Answering fun r t => r = .ok () → Known a type e P t) t := by
  refine answers_change (o := .createAlias row)
    (g := fun t => { t with aliases := (t.handle (.createAlias row) ⟨.none, .ok ""⟩).2.aliases })
    (fun c t => ?_) stable_known h stable_known fun t c hinv hF _ _ => ?_
  · have hhandle : ∀ c, t.handle (.createAlias row) c = c.attempt t
        (if (t.aliases row.AliasEmail).isNone then
          (.ok (), { t with aliases := Function.update t.aliases row.AliasEmail (some row) })
        else (.error .conditionFailed, t)) := fun _ => rfl
    rw [hhandle c, hhandle ⟨.none, .ok ""⟩]
    by_cases hnone : (t.aliases row.AliasEmail).isNone = true
    · rw [if_pos hnone]
      exact change_attempt c t _
    · rw [if_neg hnone, read_attempt, read_attempt]
      exact Or.inr rfl
  · exact ⟨⟨hinv.owner, hinv.typed⟩, ⟨fun _ _ _ => rfl, fun _ => Or.inl rfl,
      fun _ _ hne hrow _ => absurd hrow hne⟩, hF.channel, hF.rows⟩

theorem answers_ensureSoulEmailLegacyAliasIndex (idx : SoulEmailLegacyAliasIndex)
    (h : Known a type e P t) :
    (ensureSoulEmailLegacyAliasIndex idx).Meets tableEnv (contactContract a)
      (Prog.Answering fun _ t => Known a type e P t) t := by
  unfold ensureSoulEmailLegacyAliasIndex
  refine Prog.meets_ite (fun _ => Prog.answers_fail) fun _ => ?_
  refine Prog.answers_bind (answers_read (o := .getAlias idx.AliasEmail)
    (R := fun _ _ => True) (fun c t => read_attempt c t _) stable_known h
    (fun _ _ _ _ _ => trivial) fun _ _ _ _ _ => trivial) fun r t hr => ?_
  split
  · refine Prog.meets_ite (fun _ => ?_) fun _ => Prog.answers_fail
    refine Prog.answers_bind (answers_putAlias hr.1) fun r t hr => ?_
    split
    · exact Prog.answers_pure fun u hu _ => stable_known _ _ hu (hr rfl)
    · exact Prog.answers_fail
  · refine Prog.answers_bind (answers_createAlias hr.1) fun r t hr => ?_
    split
    · exact Prog.answers_pure fun u hu _ => stable_known _ _ hu (hr rfl)
    · exact Prog.answers_fail
    · exact Prog.answers_fail
  · exact Prog.answers_fail

theorem answers_buildLegacyEmailAlias (bareAlias : Option String)
    (existing desired : Option SoulAgentChannel) (type' : ChannelType) (h : Known a type e P t) :
    (buildLegacyEmailAliasForManagedMigration bareAlias existing desired type').Meets tableEnv
      (contactContract a) (Prog.Answering fun _ t => Known a type e P t) t := by
  have hkept : ∀ {t : Table} {x : Option SoulEmailLegacyAliasIndex}, Known a type e P t →
      (pure x : Handler _).Meets tableEnv (contactContract a)
        (Prog.Answering fun _ t => Known a type e P t) t :=
    fun hk => Prog.answers_pure fun u hu _ => stable_known _ _ hu hk
  unfold buildLegacyEmailAliasForManagedMigration
  split
  · next existing desired =>
      refine Prog.meets_ite (fun _ => hkept h) fun _ => ?_
      refine Prog.meets_ite (fun _ => hkept h) fun _ => ?_
      split
      · exact hkept h
      · refine Prog.meets_ite (fun _ => hkept h) fun _ => ?_
        refine Prog.answers_bind (answers_read (o := .resolveAddress desired.AgentID)
          (R := fun _ _ => True) (fun _ _ => rfl) stable_known h (fun _ _ _ _ _ => trivial)
          fun _ _ _ _ _ => trivial) fun r t hr => ?_
        split
        · exact Prog.answers_fail
        · exact Prog.meets_ite (fun _ => hkept hr.1) fun _ => hkept hr.1
  · exact hkept h

/-- The rows that the desired channel may have. -/
def Wanted (type : ChannelType) (desired : Option SoulAgentChannel) (key : String) : Prop :=
  ∃ ch, desired = some ch ∧ type.normalize ch.Identifier = key

/-- After the cleanup no row leads to the old identifier. -/
theorem answers_cleanup {existing desired : Option SoulAgentChannel}
    (hnormal : ∀ ch, existing = some ch → type.normalize ch.Identifier = ch.Identifier)
    (hcompared : ∀ ch d, existing = some ch → desired = some d →
      EqualFold (TrimSpace ch.Identifier) (TrimSpace d.Identifier) = true →
      type.normalize d.Identifier = ch.Identifier)
    (h : Known a type existing
      (fun key => TrimSpace key ≠ "" ∧ ∃ ch, existing = some ch ∧ ch.Identifier = key) t) :
    (cleanupSoulV3ChannelIndexes a type existing desired).Meets tableEnv (contactContract a)
      (Prog.Answering fun _ t => Known a type existing (Wanted type desired) t) t := by
  unfold cleanupSoulV3ChannelIndexes
  split
  · refine Prog.answers_pure fun u hu _ => stable_known _ _ hu (h.mono fun key hkey => ?_)
    obtain ⟨-, ch, hch, -⟩ := hkey
    cases hch
  · next existing =>
      refine Prog.meets_ite (fun hskip => ?_) fun _ => ?_
      · refine Prog.answers_pure fun u hu _ => stable_known _ _ hu (h.mono fun key hkey => ?_)
        obtain ⟨hblank, ch, hch, hid⟩ := hkey
        cases hch
        rcases hskip with hempty | hsame
        · rw [hid] at hempty
          exact absurd hempty hblank
        · obtain ⟨d, hd, hfold⟩ := (Option.any_eq_true _ _).1 hsame
          exact ⟨d, hd, (hcompared existing d rfl hd hfold).trans hid⟩
      · refine (answers_deleteIndexIfOwned _ h).mono fun r t hr => ?_
        cases r with
        | error e => trivial
        | ok _ =>
            refine Known.mono hr fun key hkey => ?_
            obtain ⟨⟨-, ch, hch, hid⟩, hne⟩ := hkey
            cases hch
            rw [hnormal existing rfl] at hne
            exact absurd hid.symm hne

theorem answers_deleteSoulV3Channel {existing : Option SoulAgentChannel}
    (h : Known a type existing (Wanted type none) t) :
    (deleteSoulV3Channel a type existing).Meets tableEnv (contactContract a)
      (Prog.Answering fun _ _ => True) t := by
  unfold deleteSoulV3Channel
  split
  · exact Prog.answers_pure fun _ _ _ => trivial
  · refine Prog.answers_bind (R := fun r _ => r = .ok () → True) ?_
      fun _ _ _ => Prog.answers_pure fun _ _ _ => trivial
    refine answers_change (o := .deleteChannel a type) (fun c t => change_attempt c t _) stable_known h
      (fun _ _ _ _ => trivial) fun t c hinv hF _ _ => ?_
    refine ⟨linked_channel hinv rfl (fun key hkey => ?_) (fun ch hch => by cases hch),
      ownStep_channel none, trivial⟩
    obtain ⟨ch, hch, -⟩ := hF.rows key hkey
    cases hch

theorem answers_upsertSoulV3Channel {desired : SoulAgentChannel} (hagent : desired.AgentID = a)
    (htype : desired.ChannelType = type) (h : Known a type e (Wanted type (some desired)) t) :
    (upsertSoulV3Channel a type desired (type, type.normalize desired.Identifier)).Meets tableEnv
      (contactContract a) (Prog.Answering fun _ _ => True) t := by
  have hid : desired.UpdateKeys.Identifier = type.normalize desired.Identifier := by
    rw [← htype]
    rfl
  unfold upsertSoulV3Channel
  refine Prog.answers_bind (R := fun r t => r = .ok () →
    Known a type (some desired.UpdateKeys) (fun _ => True) t) ?_ fun r t hr => ?_
  · refine answers_change (o := .putChannel desired.UpdateKeys)
      (g := fun t => { t with
        channels := Function.update t.channels (a, type) (some desired.UpdateKeys) })
      (fun c t => ?_) stable_known h stable_known fun t c hinv hF hc _ => ?_
    · have hkey : (desired.UpdateKeys.AgentID, desired.UpdateKeys.ChannelType) = (a, type) := by
        rw [← hagent, ← htype]
        rfl
      have hhandle : t.handle (.putChannel desired.UpdateKeys) c = c.attempt t
          (.ok (), { t with
            channels := Function.update t.channels
              (desired.UpdateKeys.AgentID, desired.UpdateKeys.ChannelType) (some desired.UpdateKeys) }) :=
        rfl
      rw [hhandle, hkey]
      exact change_attempt c t _
    · refine ⟨linked_channel hinv rfl (fun key hkey => ?_) (fun ch hch => ?_), ownStep_channel _,
        Function.update_self _ _ _, fun _ _ => trivial⟩
      · obtain ⟨ch, hch, hkey'⟩ := hF.rows key hkey
        cases hch
        exact ⟨_, rfl, hid.trans hkey'⟩
      · cases hch
        refine ⟨hagent, htype, ?_⟩
        have hnormal : desired.UpdateKeys.ChannelType.normalize desired.UpdateKeys.Identifier
            = desired.UpdateKeys.Identifier := hc
        rw [← hnormal]
        rw [show desired.UpdateKeys.ChannelType = type from htype] at hnormal ⊢
        rw [hnormal, hnormal]
  · split
    · exact Prog.answers_fail
    · have hk := hr rfl
      unfold upsertSoulV3ChannelIndexes
      cases type with
      | ens => exact answers_ensureSoulENSResolution hid hk
      | email =>
          refine Prog.meets_ite (fun htrusted => ?_) fun _ => Prog.answers_pure fun _ _ _ => trivial
          exact answers_ensureSoulContactAgentIndex emailIndexErrors hid (fun _ => htrusted) hk
      | phone =>
          refine Prog.meets_ite (fun htrusted => ?_) fun _ => Prog.answers_pure fun _ _ _ => trivial
          exact answers_ensureSoulContactAgentIndex phoneIndexErrors hid (fun _ => htrusted) hk

/-- What is preserved leaves the identifier as it is. -/
theorem preserve_fields (existing : Option SoulAgentChannel) (legacyEmailAlias : Bool)
    (desired : SoulAgentChannel) :
    (preserveManagedMetadata existing legacyEmailAlias desired).Identifier = desired.Identifier ∧
      (preserveManagedMetadata existing legacyEmailAlias desired).AgentID = desired.AgentID ∧
      (preserveManagedMetadata existing legacyEmailAlias desired).ChannelType = desired.ChannelType := by
  unfold preserveManagedMetadata
  split
  · exact ⟨rfl, rfl, rfl⟩
  · split_ifs
    · exact ⟨rfl, rfl, rfl⟩
    · exact ⟨rfl, rfl, rfl⟩

/-- What a stored channel and the desired one have to do with each other. -/
structure Comparable (a : AgentIDHex) (type : ChannelType) (existing desired : Option SoulAgentChannel) :
    Prop where
  agent : ∀ d, desired = some d → d.AgentID = a ∧ d.ChannelType = type
  normal : ∀ ch, existing = some ch → type.normalize ch.Identifier = ch.Identifier
  compared : ∀ ch d, existing = some ch → desired = some d →
    EqualFold (TrimSpace ch.Identifier) (TrimSpace d.Identifier) = true →
    type.normalize d.Identifier = ch.Identifier

theorem Comparable.preserve {existing desired : Option SoulAgentChannel} (legacyEmailAlias : Bool)
    (h : Comparable a type existing desired) :
    Comparable a type existing (desired.map (preserveManagedMetadata existing legacyEmailAlias)) := by
  refine ⟨fun d hd => ?_, h.normal, fun ch d hch hd hfold => ?_⟩
  · obtain ⟨d', hd', rfl⟩ := Option.map_eq_some_iff.1 hd
    obtain ⟨-, hagent, htype⟩ := preserve_fields existing legacyEmailAlias d'
    rw [hagent, htype]
    exact h.agent d' hd'
  · obtain ⟨d', hd', rfl⟩ := Option.map_eq_some_iff.1 hd
    rw [(preserve_fields existing legacyEmailAlias d').1] at hfold ⊢
    exact h.compared ch d' hch hd' hfold

theorem answers_moveSoulV3Channel {existing desired : Option SoulAgentChannel}
    (hcomparable : Comparable a type existing desired)
    (h : Known a type existing
      (fun key => TrimSpace key ≠ "" ∧ ∃ ch, existing = some ch ∧ ch.Identifier = key) t) :
    (moveSoulV3Channel a type existing desired).Meets tableEnv (contactContract a)
      (Prog.Answering fun _ _ => True) t := by
  unfold moveSoulV3Channel
  cases desired with
  | none =>
      refine Prog.answers_bind (answers_cleanup hcomparable.normal hcomparable.compared h)
        fun _ t hk => ?_
      exact answers_deleteSoulV3Channel hk
  | some d =>
      obtain ⟨hagent, htype⟩ := hcomparable.agent d rfl
      have hrest : ∀ {t : Table}, Known a type existing
          (fun key => TrimSpace key ≠ "" ∧ ∃ ch, existing = some ch ∧ ch.Identifier = key) t →
          (cleanupSoulV3ChannelIndexes a type existing (some d) >>= fun _ =>
            upsertSoulV3Channel a type d (type, type.normalize d.Identifier)).Meets tableEnv
            (contactContract a) (Prog.Answering fun _ _ => True) t := by
        intro t hk
        refine Prog.answers_bind (answers_cleanup hcomparable.normal hcomparable.compared hk)
          fun _ t hk => ?_
        exact answers_upsertSoulV3Channel hagent htype hk
      refine Prog.meets_ite (fun _ => ?_) fun _ => hrest h
      exact Prog.answers_bind (answers_preflight _ h) fun _ t hk => hrest hk

theorem answers_replaceSoulV3Channel {existing desired : Option SoulAgentChannel}
    (legacyEmailAlias : Option SoulEmailLegacyAliasIndex)
    (hcomparable : Comparable a type existing desired)
    (h : Known a type existing
      (fun key => TrimSpace key ≠ "" ∧ ∃ ch, existing = some ch ∧ ch.Identifier = key) t) :
    (replaceSoulV3Channel a type existing desired legacyEmailAlias).Meets tableEnv (contactContract a)
      (Prog.Answering fun _ _ => True) t := by
  unfold replaceSoulV3Channel
  refine Prog.meets_ite (fun _ => Prog.answers_fail) fun _ => ?_
  have hpreserved := hcomparable.preserve legacyEmailAlias.isSome
  dsimp only
  split
  · exact answers_moveSoulV3Channel hpreserved h
  · refine Prog.answers_bind (answers_ensureSoulEmailLegacyAliasIndex _ h) fun _ t hk => ?_
    exact answers_moveSoulV3Channel hpreserved hk

/-- What a synchronisation has read of its channel. -/
def Fetched (a : AgentIDHex) (type : ChannelType) (desired : Option SoulAgentChannel) :
    Except StoreError SoulAgentChannel → Table → Prop
  | .ok ch, t => Comparable a type (some ch) desired ∧
      Known a type (some ch) (fun key => TrimSpace key ≠ "" ∧ ∃ ch', some ch = some ch' ∧
        ch'.Identifier = key) t
  | .error .notFound, t => Known a type none (fun key => TrimSpace key ≠ "" ∧
      ∃ ch', (none : Option SoulAgentChannel) = some ch' ∧ ch'.Identifier = key) t
  | .error _, _ => True

theorem stable_fetched (desired : Option SoulAgentChannel) (r : Except StoreError SoulAgentChannel) :
    Stable a (Fetched a type desired r) := by
  intro t t' h hf
  unfold Fetched at hf ⊢
  split
  · exact ⟨hf.1, stable_known _ _ h hf.2⟩
  · exact stable_known _ _ h hf
  · trivial

/-- The rows of an agent lead to its stored channel. -/
theorem known_stored (a : AgentIDHex) (type : ChannelType) (h : Linked t) :
    Known a type (t.channels (a, type)) (fun key => TrimSpace key ≠ "" ∧
      ∃ ch, t.channels (a, type) = some ch ∧ ch.Identifier = key) t :=
  ⟨rfl, fun key hkey => h.owner type key a hkey⟩

theorem fetched_handle {desired : Option SoulAgentChannel} {c : Choice}
    (hdesired : ∀ d, desired = some d → d.AgentID = a ∧ d.ChannelType = type) (h : Linked t)
    (hc : Compared (.getChannel a type desired) c t) :
    Fetched a type desired (t.handle (.getChannel a type desired) c).1 t := by
  have hhandle : t.handle (.getChannel a type desired) c
      = c.attempt t (found (t.channels (a, type)), t) := rfl
  have hknown := known_stored a type h
  rw [hhandle]
  rcases attempt_cases c t (found (t.channels (a, type)), t) with hsame | ⟨herr, -⟩
  · rw [hsame]
    cases hrow : t.channels (a, type) with
    | none =>
        rw [hrow] at hknown
        exact hknown
    | some ch =>
        rw [hrow] at hknown
        refine ⟨⟨hdesired, fun ch' hch' => ?_, fun ch' d hch' hd hfold => ?_⟩, hknown⟩
        · cases hch'
          exact (h.typed a type ch hrow).2.2
        · cases hch'
          subst hd
          exact hc ch hrow hfold
  · rw [herr]
    exact trivial

/-- **A synchronisation of a channel keeps its contract.** -/
theorem answers_syncSoulV3Channel (bareAlias : Option String) {desired : Option SoulAgentChannel}
    (hdesired : ∀ d, desired = some d → d.AgentID = a ∧ d.ChannelType = type) :
    (syncSoulV3Channel bareAlias a type desired).Meets tableEnv (contactContract a)
      (Prog.Answering fun _ _ => True) t := by
  unfold syncSoulV3Channel
  refine Prog.answers_bind (answers_read (o := .getChannel a type desired) (F := fun _ => True)
    (R := Fetched a type desired) (fun c t => read_attempt c t _) (fun _ _ _ _ => trivial) trivial
    (stable_fetched desired) fun t c hinv _ hc => fetched_handle hdesired hinv hc) fun r t hr => ?_
  obtain ⟨-, hfetched⟩ := hr
  split
  · refine answers_replaceSoulV3Channel none ⟨hdesired, ?_, ?_⟩ hfetched
    · intro ch hch
      cases hch
    · intro ch d hch
      cases hch
  · exact Prog.answers_fail
  · next existing =>
      obtain ⟨hcomparable, hknown⟩ := hfetched
      refine Prog.meets_ite (fun _ => Prog.answers_pure fun _ _ _ => trivial) fun _ => ?_
      refine Prog.answers_bind (answers_buildLegacyEmailAlias bareAlias _ _ _ hknown)
        fun legacyEmailAlias t hk => ?_
      exact answers_replaceSoulV3Channel legacyEmailAlias hcomparable hk

theorem answers_syncSoulV3StateFromRegistration (bareAlias : Option String) (channels : ChannelsV3) :
    (syncSoulV3StateFromRegistration bareAlias a channels).Meets tableEnv (contactContract a)
      (Prog.Answering fun _ _ => True) t := by
  unfold syncSoulV3StateFromRegistration
  refine Prog.answers_bind (answers_syncSoulV3Channel bareAlias fun d hd => ?_) fun _ t _ => ?_
  · obtain ⟨ens, -, rfl⟩ := Option.map_eq_some_iff.1 hd
    exact ⟨rfl, rfl⟩
  refine Prog.answers_bind (answers_syncSoulV3Channel bareAlias fun d hd => ?_) fun _ t _ => ?_
  · obtain ⟨email, -, rfl⟩ := Option.map_eq_some_iff.1 hd
    exact ⟨rfl, rfl⟩
  refine answers_syncSoulV3Channel bareAlias fun d hd => ?_
  obtain ⟨phone, -, rfl⟩ := Option.map_eq_some_iff.1 hd
  exact ⟨rfl, rfl⟩

theorem answers_syncAll (bareAlias : Option String) (registrations : List ChannelsV3) :
    (syncAll bareAlias a registrations).Meets tableEnv (contactContract a)
      (Prog.Answering fun _ _ => True) t := by
  induction registrations generalizing t with
  | nil => exact Prog.answers_pure fun _ _ _ => trivial
  | cons channels rest ih =>
      unfold syncAll
      refine Prog.answers_bind (R := fun _ _ => True) ?_ fun _ t _ => ih
      exact Prog.meets_attempt (answers_syncSoulV3StateFromRegistration bareAlias channels)
        fun _ _ _ => trivial

end Parts

/-! ## Agents side by side -/

/-- Each thread brings the registrations of an agent, one after another. -/
def contacts {ι : Type} (agent : ι → AgentIDHex) (bareAlias : ι → Option String)
    (registrations : ι → List ChannelsV3) (t : Table) :
    Config ι Op Op.Res AppTheoryError Unit Table where
  state := t
  threads i := syncAll (bareAlias i) (agent i) (registrations i)

section Run

variable {ι : Type} [DecidableEq ι]

/-- **Index rows have one owner** when the synchronisations of an agent run one after another. -/
theorem contact_indexes_owned {agent : ι → AgentIDHex} (hserial : Function.Injective agent)
    (bareAlias : ι → Option String) (registrations : ι → List ChannelsV3) {t₀ : Table}
    (hstart : Linked t₀) (moves : List (ι × Choice))
    (hcompared : Along (Config.step fun _ => tableEnv) (Config.Performs fun _ => Compared)
      (contacts agent bareAlias registrations t₀) moves) :
    Linked ((contacts agent bareAlias registrations t₀).run (fun _ => tableEnv) moves).state ∧
    Along (Config.step fun _ => tableEnv)
      (fun cfg m => OwnStep (agent m.1) cfg.state (cfg.step (fun _ => tableEnv) m).state)
      (contacts agent bareAlias registrations t₀) moves := by
  have hcompatible : Compatible (fun i => contactContract (agent i)) Linked :=
    ⟨fun _ _ => Iff.rfl, fun i j hij _ _ _ _ h => h.untouched fun heq => hij (hserial heq.symm)⟩
  have hmeets : ∀ i, ((contacts agent bareAlias registrations t₀).threads i).Meets tableEnv
      (contactContract (agent i)) (Prog.Answering fun _ _ => True)
      (contacts agent bareAlias registrations t₀).state :=
    fun i => answers_syncAll (bareAlias i) (registrations i)
  have hfits : Fits (fun _ => tableEnv) (fun i => contactContract (agent i)) Linked
      (fun _ => Prog.Answering fun _ _ => True) (contacts agent bareAlias registrations t₀) :=
    ⟨hstart, hmeets⟩
  refine ⟨(hfits.run hcompatible hcompared).inv, ?_⟩
  refine Along.of_inv (fun cfg m hcfg hm => hcfg.step hcompatible hm) (fun cfg m hcfg hm => ?_) hfits
    hcompared
  rcases (hcfg.step_spec hcompatible hm).2 with hguar | hidle
  · exact hguar
  · rw [hidle]
    exact ownStep_refl _ _

end Run

/-! ## Short runs

Two agents ask for the same name, and both find that it is free. Then two synchronisations of one agent
find no channel, and the second one stores another name before the first one has written its row. -/

def raceAgent : AgentIDHex where
  text := "0xa"
  hex := by
    rw [← List.forall_iff_forall_mem]
    decide

def otherAgent : AgentIDHex where
  text := "0xb"
  hex := by
    rw [← List.forall_iff_forall_mem]
    decide

def ensChannels (name : String) : ChannelsV3 := ⟨some ⟨name⟩, none, none⟩

def raceTable : Table := ⟨fun _ => none, fun _ => none, fun _ => none⟩

theorem raceTable_linked : Linked raceTable := by
  constructor
  · intro type key a hrow
    cases hrow
  · intro a type ch hch
    cases hch

def raceChoice : Choice := ⟨.none, .ok ""⟩

def raceMoves : List (Bool × Choice) :=
  [false, false, false, true, true, true, true, true, true, false, false].map fun i => (i, raceChoice)

theorem contact_indexes_owned_sample :
    Linked ((contacts (fun second => if second then otherAgent else raceAgent) (fun _ => none)
      (fun _ => [ensChannels "x.eth"]) raceTable).run (fun _ => tableEnv) raceMoves).state := by
  have hserial : Function.Injective fun second : Bool => if second then otherAgent else raceAgent := by
    decide
  exact (contact_indexes_owned hserial (fun _ => none) (fun _ => [ensChannels "x.eth"])
    raceTable_linked raceMoves (by decide)).1

def raceContacts : Config Bool Op Op.Res AppTheoryError Unit Table :=
  contacts (fun _ => raceAgent) (fun _ => none)
    (fun second => [ensChannels (if second then "y.eth" else "x.eth")]) raceTable

theorem race_state :
    (raceContacts.run (fun _ => tableEnv) raceMoves).state.index (.ens, "x.eth") = some raceAgent ∧
      ((raceContacts.run (fun _ => tableEnv) raceMoves).state.channels (raceAgent, .ens)).map
        (·.Identifier) = some "y.eth" := by
  decide +kernel

theorem not_contact_indexes_owned :
    ¬ ∀ (agent : Bool → AgentIDHex) (bareAlias : Bool → Option String)
      (registrations : Bool → List ChannelsV3) (t₀ : Table), Linked t₀ →
      ∀ moves : List (Bool × Choice),
        Linked ((contacts agent bareAlias registrations t₀).run (fun _ => tableEnv) moves).state := by
  intro h
  have hlinked : Linked (raceContacts.run (fun _ => tableEnv) raceMoves).state :=
    h _ _ _ raceTable raceTable_linked raceMoves
  obtain ⟨hrow, hstored⟩ := race_state
  obtain ⟨-, ch, hch, hid⟩ := hlinked.owner _ _ _ hrow
  -- the row leads to an agent that has another name
  rw [hch, Option.map_some, hid] at hstored
  exact absurd hstored (by decide)

end LesserHost.SoulContacts
