import TxForge.Proofs.Passages

/-!
# In other words

Why a query failed is told in words.  A factory passes the words on, in its errors and in what it
reports, and does not read them.  So chains that differ in nothing but their words are the same to a
factory.

* `Chain.reword` — the chain with its failures told in other words, and likewise for whatever holds
  a failure: errors, events, transcripts.
* `Operation.Indifferent` — held with the chain in other words, the operation comes to the same in
  other words.  Every call to a factory is so (`Factory.indifferent_operation`).
-/

set_option autoImplicit false

namespace TxForge

/-! ## Rewording -/

/-- The error with the failures in it told in other words. -/
def FactoryError.reword (w : Failure → Failure) : FactoryError → FactoryError
  | .defaulting field failure => .defaulting field (w failure)
  | .defaultingGasLimit cause => .defaultingGasLimit (cause.reword w)
  | .encoding failure => .encoding (w failure)
  | .estimation failure => .estimation (w failure)
  | .baseFee failure => .baseFee (w failure)
  | .unsupportedType e => .unsupportedType e
  | .fieldNotAllowed type field => .fieldNotAllowed type field
  | .assembly e => .assembly e
  | .signing e => .signing e
  | .validation e => .validation e
  | .signerContext e => .signerContext e

/-- The event with the failure in it told in other words. -/
def Event.reword (w : Failure → Failure) : Event → Event
  | .estimationFailed caller recipient failure => .estimationFailed caller recipient (w failure)
  | e => e

/-- The line of a transcript in other words. -/
def Entry.reword (w : Failure → Failure) : Entry → Entry
  | .asked q reply => .asked q (reply.mapError w)
  | .reported e => .reported (e.reword w)

/-- The conversation in other words. -/
def Conversation.reword {σ α : Type} (w : Failure → Failure)
    (c : Conversation σ (Except FactoryError α)) : Conversation σ (Except FactoryError α) where
  result := c.result.mapError (FactoryError.reword w)
  transcript := c.transcript.map (Entry.reword w)
  state := c.state

/-- The chain that tells its failures in other words. -/
def Chain.reword {σ : Type} (w : Failure → Failure) (chain : Chain σ) : Chain σ where
  answer q s := ((chain.answer q s).1.mapError w, (chain.answer q s).2)

variable {w : Failure → Failure}

/-! ## What the words do not show in -/

@[simp] theorem FactoryError.stage_reword (e : FactoryError) : (e.reword w).stage = e.stage := by
  cases e <;> rfl

@[simp] theorem FactoryError.defaulted?_reword (e : FactoryError) :
    (e.reword w).defaulted? = e.defaulted? := by
  cases e with
  | defaultingGasLimit cause =>
    rw [reword, defaulted?, stage_reword]
    rfl
  | _ => rfl

theorem FactoryError.reword_of_isOwn {e : FactoryError} (h : e.isOwn = true) : e.reword w = e := by
  cases e with
  | fieldNotAllowed | assembly | signing => rfl
  | _ => cases h

theorem Event.reword_of_isDefault {e : Event} (h : e.isDefault = true) : e.reword w = e := by
  cases e with
  | defaultedNonce | defaultedTip | defaultedFeeCap => rfl
  | _ => cases h

@[simp] theorem Conversation.queries_reword {σ α : Type}
    (c : Conversation σ (Except FactoryError α)) : (c.reword w).queries = c.queries := by
  rw [queries, queries, reword, List.filterMap_map]
  congr 1
  funext entry
  cases entry <;> rfl

theorem Conversation.reword_followedBy {σ α β : Type} (c : Conversation σ (Except FactoryError α))
    (d : Conversation σ (Except FactoryError β)) :
    (c.followedBy d).reword w = (c.reword w).followedBy (d.reword w) := by
  simp [reword, followedBy]

/-! ## Operations that pass the words on -/

namespace Operation

variable {α β : Type} {f : Factory}

/-- If the chain replies in other words, the operation comes to the same in those other words. -/
structure Indifferent (op : Operation α) : Prop where
  hold_reword : ∀ {σ : Type} (w : Failure → Failure) (chain : Chain σ) (s : σ),
    op.hold (chain.reword w) s = (op.hold chain s).reword w

theorem indifferent_pure (a : α) : (pure a : Operation α).Indifferent :=
  ⟨fun _ _ _ => rfl⟩

theorem indifferent_throw {e : FactoryError} (h : ∀ w, e.reword w = e) :
    (throw e : Operation α).Indifferent := by
  refine ⟨fun w chain s => ?_⟩
  simp [Conversation.reword, Except.mapError, h w]

theorem indifferent_ofExcept {ε : Type} {onError : ε → FactoryError} (r : Except ε α)
    (h : ∀ w e, (onError e).reword w = onError e) : (ofExcept onError r).Indifferent := by
  cases r with
  | ok a => exact indifferent_pure a
  | error e => exact indifferent_throw fun w => h w e

theorem indifferent_ask {q : Query} {onFailure : Failure → FactoryError}
    (h : ∀ w failure, (onFailure failure).reword w = onFailure (w failure)) :
    (ask q onFailure).Indifferent := by
  refine ⟨fun w chain s => ?_⟩
  rw [hold_ask, hold_ask]
  cases hr : (chain.answer q s).1 <;>
    simp [Conversation.reword, Chain.reword, Entry.reword, Except.mapError, hr, h]

theorem hold_report {σ : Type} (chain : Chain σ) (e : Event) (s : σ) :
    (report e).hold chain s = ⟨.ok (), [.reported e], s⟩ := rfl

theorem indifferent_report {e : Event} (h : ∀ w, e.reword w = e) : (report e).Indifferent := by
  refine ⟨fun w chain s => ?_⟩
  rw [hold_report, hold_report]
  simp [Conversation.reword, Entry.reword, Except.mapError, h w]

theorem Indifferent.adapt {x : Operation α} {g : FactoryError → FactoryError} (hx : x.Indifferent)
    (h : ∀ w e, (g e).reword w = g (e.reword w)) :
    Indifferent (ExceptT.adapt g x) := by
  refine ⟨fun w chain s => ?_⟩
  rw [hold_adapt, hold_adapt, hx.hold_reword w chain s]
  cases hr : (x.hold chain s).result <;> simp [Conversation.reword, Except.mapError, hr, h]

theorem Indifferent.bind {x : Operation α} {k : α → Operation β} (hx : x.Indifferent)
    (hk : ∀ a, (k a).Indifferent) : (x >>= k).Indifferent := by
  refine ⟨fun w chain s => ?_⟩
  have hfirst := hx.hold_reword w chain s
  cases hr : (x.hold chain s).result with
  | ok a =>
    have hr' : (x.hold (chain.reword w) s).result = .ok a := by
      rw [hfirst, Conversation.reword, hr]
      rfl
    rw [hold_bind_of_ok _ hr', hold_bind_of_ok _ hr, (hk a).hold_reword w chain, hfirst,
      Conversation.reword_followedBy]
    rfl
  | error e =>
    have hr' : (x.hold (chain.reword w) s).result = .error (e.reword w) := by
      rw [hfirst, Conversation.reword, hr]
      rfl
    rw [hold_bind_of_error _ hr', hold_bind_of_error _ hr, hfirst]
    rfl

/-- An estimation reports its failure before it ends in it. -/
theorem indifferent_estimateGasLimit (caller : Option Address) (args : TxArgs) :
    (f.estimateGasLimit caller args).Indifferent := by
  refine ⟨fun w chain s => ?_⟩
  cases hr : (chain.answer (f.gasQuery caller args) s).1 with
  | ok gas =>
    have hr' : ((chain.reword w).answer (f.gasQuery caller args) s).1 = .ok gas := by
      simp [Chain.reword, hr, Except.mapError]
    rw [Factory.hold_estimateGasLimit_of_ok hr, Factory.hold_estimateGasLimit_of_ok hr']
    rfl
  | error failure =>
    have hr' : ((chain.reword w).answer (f.gasQuery caller args) s).1 = .error (w failure) := by
      simp [Chain.reword, hr, Except.mapError]
    rw [Factory.hold_estimateGasLimit_of_error hr, Factory.hold_estimateGasLimit_of_error hr']
    rfl

/-- **Routine operations do not read the words.** -/
theorem Routine.indifferent {op : Operation α} (h : op.Routine f) : op.Indifferent := by
  induction h with
  | pure a => exact indifferent_pure a
  | throw h => exact indifferent_throw fun w => FactoryError.reword_of_isOwn h
  | ask field hkind => exact indifferent_ask fun w failure => rfl
  | report h => exact indifferent_report fun w => Event.reword_of_isDefault h
  | estimate caller args => exact indifferent_estimateGasLimit caller args
  | adapt hx ih => exact ih.adapt fun _ _ => rfl
  | bind hx hk ihx ihk => exact ihx.bind ihk

end Operation

namespace Factory

variable (f : Factory) (signer : Signer) (args : TxArgs)

theorem indifferent_signedTx : (f.signedTx signer args).Indifferent :=
  (f.routine_uncheckedTx signer args).indifferent.bind fun tx =>
    (Operation.indifferent_ofExcept tx.validate fun _ _ => rfl).bind fun _ =>
      (Operation.indifferent_report fun _ => rfl).bind fun _ => Operation.indifferent_pure tx

theorem indifferent_chainMessage : (f.chainMessage signer args).Indifferent :=
  (f.indifferent_signedTx signer args).bind fun tx =>
    (Operation.indifferent_ask fun _ _ => rfl).bind fun baseFee =>
      Operation.indifferent_ofExcept (tx.toMessage ⟨f.chainId⟩ (some baseFee)) fun _ _ => rfl

/-- **No call to a factory depends on the words that failures are told in.** -/
theorem indifferent_operation (call : Call) : (call.operation f).Indifferent := by
  rcases f.routine_operation call with h | ⟨sender, type, args, e, htype, rfl⟩ |
    ⟨signer, args, rfl⟩ | ⟨signer, args, rfl⟩
  · exact h.indifferent
  · rw [Call.operation, defaultArgs, htype]
    exact (Operation.indifferent_report fun _ => rfl).bind fun _ =>
      Operation.indifferent_throw fun _ => rfl
  · exact f.indifferent_signedTx signer args
  · exact f.indifferent_chainMessage signer args

end Factory
end TxForge
