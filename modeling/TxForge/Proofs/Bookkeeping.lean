import TxForge.Proofs.Agreement
import TxForge.Proofs.Passages
import TxForge.Session

/-!
# The books of a session

Four counters of a factory and two records of a chain are kept in different places, and nothing
compares them while they are kept.  They agree after every step of every session, with each other
and with what came of the calls.

* `Metrics.raised`, `Tallies` — what a transcript adds to the counters.  Passages alone raise the
  counters of estimations (`Factory.Passages.tallies`), so a call raises another counter only with
  what stands behind its passages (`Factory.tallies_call`).
* `Stub.Records` — what a transcript adds to the records of the chain that replied.
* `Session.Consistent` — the agreement.  A step keeps it, and therefore a run does.
* `Session.Recounts` — the turns that the books are compared with are those of the calls that were
  made, and each is what its call comes to.  A step adds the turn of its call, and therefore a run
  recounts its steps (`Session.consistent_of_run`).
-/

set_option autoImplicit false

namespace TxForge

/-! ## What a transcript shows -/

/-- The entry is an estimation that failed. -/
def Entry.isFailedEstimation : Entry → Bool
  | .asked (.estimateGas ..) (.error _) => true
  | _ => false

/-- The kinds of the queries in a transcript, in order. -/
def kindsAsked (t : List Entry) : List QueryKind :=
  (t.filterMap Entry.query?).map Query.kind

@[simp] theorem kindsAsked_append (t t' : List Entry) :
    kindsAsked (t ++ t') = kindsAsked t ++ kindsAsked t' := by
  simp [kindsAsked]

/-- The counters after a transcript in which transactions were signed and types refused this many
times.  Its estimations show in the queries. -/
def Metrics.raised (m : Metrics) (t : List Entry) (signed unsupported : Nat) : Metrics where
  signedTransactions := m.signedTransactions + signed
  gasEstimations := m.gasEstimations + (kindsAsked t).count .estimateGas
  failedGasEstimations := m.failedGasEstimations + t.countP Entry.isFailedEstimation
  unsupportedTypes := m.unsupportedTypes + unsupported
  latencies := m.latencies + (kindsAsked t).count .estimateGas

/-- The reports in the transcript raise the counters by this much. -/
def Tallies (t : List Entry) (signed unsupported : Nat) : Prop :=
  ∀ m : Metrics, m.countAll (t.filterMap Entry.event?) = m.raised t signed unsupported

theorem Tallies.append {t t' : List Entry} {signed signed' unsupported unsupported' : Nat}
    (h : Tallies t signed unsupported) (h' : Tallies t' signed' unsupported') :
    Tallies (t ++ t') (signed + signed') (unsupported + unsupported') := by
  intro m
  have hsplit : m.countAll ((t ++ t').filterMap Entry.event?) =
      (m.countAll (t.filterMap Entry.event?)).countAll (t'.filterMap Entry.event?) := by
    rw [List.filterMap_append, Metrics.countAll, List.foldl_append]
    rfl
  rw [hsplit, h m, h' _]
  simp [Metrics.raised, Nat.add_assoc]

theorem tallies_nil : Tallies [] 0 0 :=
  fun _ => rfl

theorem tallies_signed (sender : Address) (hash : Word) (type : TxType) :
    Tallies [.reported (.signed sender hash type)] 1 0 :=
  fun _ => rfl

theorem tallies_unsupported : Tallies [.reported .unsupportedType] 0 1 :=
  fun _ => rfl

/-- A query that is no estimation raises no counter. -/
theorem tallies_question {q : Query} (reply : q.Reply) (h : q.kind ≠ .estimateGas) :
    Tallies [.asked q reply] 0 0 := by
  intro m
  cases q with
  | estimateGas request gasCap => exact absurd rfl h
  | baseFee | nonce account | maxPriorityFee => rfl

namespace Factory

variable {f : Factory}

theorem Passage.tallies {passage : List Entry} (h : f.Passage passage) : Tallies passage 0 0 := by
  cases h with
  | question reply hkind => exact tallies_question reply hkind
  | @default e he =>
    intro m
    cases e <;> simp [Event.isDefault] at he <;> rfl
  | estimate caller args gas => exact fun _ => rfl
  | noEstimate caller args failure => exact fun _ => rfl

/-- **Passages raise the counters of estimations and no others.** -/
theorem Passages.tallies {t : List Entry} (h : f.Passages t) : Tallies t 0 0 := by
  induction h with
  | nil => exact tallies_nil
  | cons hpassage _ ih => exact hpassage.tallies.append ih

/-! ## What a call adds to the counters -/

/-- The outcome of the call stands for a transaction that was signed and checked.  For a message
that is so even if the transaction could not be converted. -/
def Call.signs : (call : Call) → Except FactoryError call.Result → Bool
  | .signedTx .., .ok _ => true
  | .chainMessage .., .ok _ => true
  | .chainMessage .., .error e => e.stage = .conversion
  | _, _ => false

/-- The outcome is that a type has no defaults. -/
def refusesType {α : Type} : Except FactoryError α → Bool
  | .ok _ => false
  | .error e => e.stage = .unsupportedType

theorem refusesType_eq_false {α : Type} {r : Except FactoryError α}
    (h : ∀ e, r = .error e → e.stage ≠ .unsupportedType) : refusesType r = false := by
  cases r with
  | ok a => rfl
  | error e => simp [refusesType, h e rfl]

variable {σ : Type} {chain : Chain σ} {s : σ}

theorem tallies_of_routine {α : Type} {op : Operation α} (h : op.Routine f) :
    Tallies (op.hold chain s).transcript 0 (refusesType (op.hold chain s).result).toNat := by
  rw [refusesType_eq_false fun e he => (h.stage chain s he).1]
  exact (h.passages chain s).tallies

theorem tallies_signedTx (signer : Signer) (args : TxArgs) :
    Tallies ((f.signedTx signer args).hold chain s).transcript
      (Call.signs (.signedTx signer args) ((f.signedTx signer args).hold chain s).result).toNat
      (refusesType ((f.signedTx signer args).hold chain s).result).toNat := by
  have hunchecked := ((f.routine_uncheckedTx signer args).passages chain s).tallies
  rw [transcript_signedTx]
  cases hr : ((f.signedTx signer args).hold chain s).result with
  | ok tx => exact hunchecked.append (tallies_signed _ _ _)
  | error e =>
    have hstage := (stage_signedTx hr).1
    have hrefuses : refusesType (.error e : Except FactoryError SignedTx) = false := by
      simp [refusesType, hstage]
    rw [hrefuses]
    exact hunchecked.append tallies_nil

theorem tallies_chainMessage (signer : Signer) (args : TxArgs) :
    Tallies ((f.chainMessage signer args).hold chain s).transcript
      (Call.signs (.chainMessage signer args)
        ((f.chainMessage signer args).hold chain s).result).toNat
      (refusesType ((f.chainMessage signer args).hold chain s).result).toNat := by
  have hsigned : Tallies ((f.signedTx signer args).hold chain s).transcript _ _ :=
    f.tallies_signedTx signer args
  rw [transcript_chainMessage]
  cases hr : ((f.signedTx signer args).hold chain s).result with
  | error e =>
    have hstage := stage_signedTx hr
    have hmessage := (hold_chainMessage_of_error hr).1
    rw [hr] at hsigned
    have hsigns : Call.signs (.chainMessage signer args) (.error e) = false := by
      simp [Call.signs, hstage.2]
    rw [hmessage, hsigns]
    exact hsigned.append tallies_nil
  | ok tx =>
    rw [hr] at hsigned
    have hquery := hsigned.append (tallies_question (q := .baseFee)
      (chain.answer .baseFee ((f.signedTx signer args).hold chain s).state).1
      (by simp [Query.kind]))
    have houtcome := signedTx_of_chainMessage.1 ⟨tx, hr⟩
    rcases houtcome with ⟨message, hm⟩ | ⟨e, he, hstage⟩
    · rw [hm]
      exact hquery
    · have hsigns : Call.signs (.chainMessage signer args) (.error e) = true := by
        simp [Call.signs, hstage]
      have hrefuses : refusesType (.error e : Except FactoryError ChainMessage) = false := by
        simp [refusesType, hstage]
      rw [he, hsigns, hrefuses]
      exact hquery

/-- **What a call adds to the counters shows in its outcome and its queries.** -/
theorem tallies_call (f : Factory) (call : Call) (chain : Chain σ) (s : σ) :
    Tallies ((call.operation f).hold chain s).transcript
      (call.signs ((call.operation f).hold chain s).result).toNat
      (refusesType ((call.operation f).hold chain s).result).toNat := by
  cases call with
  | chainId => exact tallies_of_routine (f := f) (.pure f.chainId)
  | defaultArgs sender type args =>
    cases htype : SupportedType.ofTxType type with
    | ok supported => exact tallies_of_routine (f.routine_defaultArgs sender args htype)
    | error e =>
      rw [Call.operation, hold_defaultArgs_of_unsupported f sender args chain s htype]
      exact tallies_unsupported
  | populate sender args => exact tallies_of_routine (f.routine_populate sender args)
  | estimateGasLimit caller args => exact tallies_of_routine (f := f) (.estimate caller args)
  | unsignedTx signer args => exact tallies_of_routine (f.routine_unsignedTx signer args)
  | sign signer tx => exact tallies_of_routine (f.routine_sign signer tx)
  | uncheckedTx signer args => exact tallies_of_routine (f.routine_uncheckedTx signer args)
  | signedTx signer args => exact f.tallies_signedTx signer args
  | chainMessage signer args => exact f.tallies_chainMessage signer args

end Factory

/-! ## What a transcript adds to the records of the chain -/

namespace Stub

/-- Between the two states the chain held a conversation with this transcript: it recorded the kind
of each query, and every estimation that did not fail, with the gas cap that came with it. -/
structure Records (before after : Stub) (t : List Entry) : Prop where
  calls : after.calls = before.calls ++ kindsAsked t
  estimations : ∃ new, after.estimations = before.estimations ++ new ∧
    new.length + t.countP Entry.isFailedEstimation = (kindsAsked t).count .estimateGas ∧
    ∀ e ∈ new, ∃ request, .estimateGas request e.2 ∈ t.filterMap Entry.query?

variable {before middle after : Stub}

theorem Records.nil (s : Stub) : s.Records s [] :=
  ⟨by simp [kindsAsked], [], by simp [kindsAsked]⟩

theorem Records.reported {t : List Entry} (h : before.Records after t) (e : Event) :
    before.Records after (.reported e :: t) := by
  obtain ⟨hcalls, new, hnew, hlength, hcaps⟩ := h
  exact ⟨hcalls, new, hnew, hlength, hcaps⟩

theorem Records.append {t t' : List Entry} (h : before.Records middle t)
    (h' : middle.Records after t') : before.Records after (t ++ t') := by
  obtain ⟨hcalls, new, hnew, hlength, hcaps⟩ := h
  obtain ⟨hcalls', new', hnew', hlength', hcaps'⟩ := h'
  refine ⟨by simp [hcalls', hcalls], new ++ new', by simp [hnew', hnew], ?_, fun e he => ?_⟩
  · rw [List.length_append, List.countP_append, kindsAsked_append, List.count_append]
    omega
  · rw [List.filterMap_append]
    rcases List.mem_append.1 he with he | he
    · obtain ⟨request, hq⟩ := hcaps e he
      exact ⟨request, List.mem_append_left _ hq⟩
    · obtain ⟨request, hq⟩ := hcaps' e he
      exact ⟨request, List.mem_append_right _ hq⟩

/-- One query. -/
theorem records_answer (q : Query) (s : Stub) :
    s.Records (Stub.chain.answer q s).2 [.asked q (Stub.chain.answer q s).1] := by
  by_cases hfailing : q.kind ∈ s.failing
  · rw [answer_of_failing hfailing]
    refine ⟨rfl, [], (List.append_nil _).symm, ?_, by simp⟩
    cases q <;> rfl
  · rw [answer_of_not_failing hfailing]
    cases q with
    | estimateGas request gasCap =>
      rw [respond]
      cases hread : CallRequest.ofText request "malformed estimation request" with
      | error failure =>
        rw [estimate_of_error hread]
        exact ⟨rfl, [], (List.append_nil _).symm, rfl, by simp⟩
      | ok r =>
        rw [estimate_of_ok hread]
        refine ⟨rfl, [(r, gasCap)], rfl, rfl, fun e he => ?_⟩
        rw [List.mem_singleton] at he
        exact ⟨request, by simp [he, Entry.query?]⟩
    | baseFee | nonce account | maxPriorityFee =>
      exact ⟨rfl, [], (List.append_nil _).symm, rfl, by simp⟩

/-- **A conversation leaves its mark on the records.** -/
theorem records_run {α : Type} (x : Dialogue α) (s : Stub) :
    s.Records (x.run Stub.chain s).state (x.run Stub.chain s).transcript := by
  induction x generalizing s with
  | done a => exact .nil s
  | ask q next ih => exact (records_answer q s).append (ih _ _)
  | report e next ih => exact (ih s).reported e

end Stub

/-! ## Sessions -/

/-- The turn stands for a transaction that was signed and checked. -/
def Factory.Turn.signs (turn : Factory.Turn) : Bool :=
  turn.call.signs turn.result

/-- A type without defaults was asked for. -/
def Factory.Turn.refusesType (turn : Factory.Turn) : Bool :=
  Factory.refusesType turn.result

namespace Session

theorem countP_concat {α : Type} (p : α → Bool) (l : List α) (a : α) :
    (l ++ [a]).countP p = l.countP p + (p a).toNat := by
  rw [List.countP_append, List.countP_singleton]
  cases p a <;> rfl

/-- The counters, the records of the chain and what came of the calls agree. -/
structure Consistent (f : Factory) (s : Session) : Prop where
  /-- The calls on record are the queries that were asked. -/
  calls : s.stub.calls = kindsAsked s.transcript
  gasEstimations : s.metrics.gasEstimations = s.stub.calls.count .estimateGas
  failedGasEstimations :
    s.metrics.failedGasEstimations = s.transcript.countP Entry.isFailedEstimation
  /-- Every estimation either failed or is on record. -/
  estimations :
    s.stub.estimations.length + s.metrics.failedGasEstimations = s.metrics.gasEstimations
  gasCap : ∀ e ∈ s.stub.estimations, e.2 = f.config.gasCap
  signedTransactions : s.metrics.signedTransactions = s.turns.countP Factory.Turn.signs
  unsupportedTypes : s.metrics.unsupportedTypes = s.turns.countP Factory.Turn.refusesType

theorem consistent_start (f : Factory) (values : StubValues) : (start values).Consistent f :=
  ⟨rfl, rfl, rfl, rfl, by simp [start], rfl, rfl⟩

variable {f : Factory} {s : Session}

theorem Consistent.call (h : s.Consistent f) (call : Factory.Call) :
    (s.step f (.call call)).Consistent f := by
  have hmetrics := f.tallies_call call Stub.chain s.stub s.metrics
  obtain ⟨hcalls, new, hnew, hlength, hcaps⟩ := Stub.records_run (call.operation f).run s.stub
  have htranscript : (s.step f (.call call)).transcript =
      s.transcript ++ ((call.operation f).hold Stub.chain s.stub).transcript := by
    simp [transcript, step]
  have hraised : (s.step f (.call call)).metrics = s.metrics.raised
      ((call.operation f).hold Stub.chain s.stub).transcript
      (call.signs ((call.operation f).hold Stub.chain s.stub).result).toNat
      (Factory.refusesType ((call.operation f).hold Stub.chain s.stub).result).toNat := hmetrics
  have hrecorded : (s.step f (.call call)).stub.calls = s.stub.calls ++
      kindsAsked ((call.operation f).hold Stub.chain s.stub).transcript := hcalls
  have hestimations : (s.step f (.call call)).stub.estimations = s.stub.estimations ++ new := hnew
  have hbooks := h.estimations
  refine ⟨?_, ?_, ?_, ?_, fun e he => ?_, ?_, ?_⟩
  · rw [hrecorded, htranscript, kindsAsked_append, h.calls]
  · rw [hraised, hrecorded, List.count_append, ← h.gasEstimations]
    rfl
  · rw [hraised, htranscript, List.countP_append, ← h.failedGasEstimations]
    rfl
  · rw [hestimations, hraised, List.length_append]
    simp only [Metrics.raised]
    rw [← Operation.hold] at hlength
    omega
  · rw [hestimations, List.mem_append] at he
    rcases he with he | he
    · exact h.gasCap e he
    · -- what is new on record was asked for by the call
      obtain ⟨request, hq⟩ := hcaps e he
      obtain ⟨caller, args, hquery⟩ := Factory.exists_of_estimateGas_mem (f := f) hq rfl
      simp only [Factory.gasQuery, Query.estimateGas.injEq] at hquery
      exact hquery.2
  · rw [hraised]
    simp only [Metrics.raised, h.signedTransactions, step, countP_concat]
    rfl
  · rw [hraised]
    simp only [Metrics.raised, h.unsupportedTypes, step, countP_concat]
    rfl

/-- Making a kind of query fail changes neither counters nor records. -/
theorem Consistent.fail (h : s.Consistent f) (kind : QueryKind) :
    (s.step f (.fail kind)).Consistent f :=
  ⟨h.calls, h.gasEstimations, h.failedGasEstimations, h.estimations, h.gasCap,
    h.signedTransactions, h.unsupportedTypes⟩

theorem Consistent.step (h : s.Consistent f) (step : Step) : (s.step f step).Consistent f := by
  cases step with
  | call call => exact h.call call
  | fail kind => exact h.fail kind

theorem Consistent.run (h : s.Consistent f) (steps : List Step) :
    (s.run f steps).Consistent f := by
  induction steps generalizing s with
  | nil => exact h
  | cons step steps ih => exact ih (h.step step)

/-! ## What a session recounts -/

/-- The call, if the step is one. -/
def Step.call? : Step → Option Factory.Call
  | .call c => some c
  | .fail _ => none

/-- The kind of queries that the step makes fail. -/
def Step.failing? : Step → Option QueryKind
  | .call _ => none
  | .fail kind => some kind

/-- What comes of a call that a chain in memory answers. -/
def turn (f : Factory) (stub : Stub) (call : Factory.Call) : Factory.Turn :=
  let c := (call.operation f).hold Stub.chain stub
  ⟨call, c.result, c.transcript⟩

theorem turn_eq_of_agrees {stub stub' : Stub} (h : stub.Agrees stub') (f : Factory) :
    turn f stub = turn f stub' := by
  funext call
  obtain ⟨hresult, htranscript⟩ := h.hold_eq (call.operation f)
  simp only [turn, hresult, htranscript]

/-- A chain in memory that was asked nothing yet, where the queries fail that the steps make
fail. -/
def unasked (values : StubValues) (steps : List Step) : Stub where
  values := values
  failing := steps.filterMap Step.failing?

/-- The turns of the session are those of the calls among the steps, in their order.  Each is what
comes of its call if nothing was asked before, and only what was made to fail in front of the call
fails. -/
structure Recounts (f : Factory) (values : StubValues) (steps : List Step) (s : Session) :
    Prop where
  calls : s.turns.map Factory.Turn.call = steps.filterMap Step.call?
  turns : ∀ before call after, steps = before ++ .call call :: after →
    s.turns[(before.filterMap Step.call?).length]? = some (turn f (unasked values before) call)
  /-- What will fail is what was made to fail. -/
  chain : s.stub.Agrees (unasked values steps)

theorem recounts_start (f : Factory) (values : StubValues) :
    (start values).Recounts f values [] where
  calls := rfl
  turns before call after h := by simp at h
  chain := ⟨rfl, fun _ => Iff.rfl⟩

/-- What stands in the middle of a list with one more item behind it is that item, or it stands in
the middle of the list. -/
theorem eq_or_exists_of_concat_eq {α : Type} {l before after : List α} {last middle : α}
    (h : l ++ [last] = before ++ middle :: after) :
    (l = before ∧ last = middle) ∨ ∃ rest, l = before ++ middle :: rest := by
  rcases List.append_eq_append_iff.1 h with ⟨more, hbefore, hlast⟩ | ⟨behind, hl, hmiddle⟩
  · rcases List.singleton_eq_append_iff.1 hlast with ⟨rfl, hmiddle⟩ | ⟨-, hnil⟩
    · rw [List.append_nil] at hbefore
      exact .inl ⟨hbefore.symm, (List.cons.inj hmiddle).1.symm⟩
    · cases hnil
  · rcases List.cons_eq_append_iff.1 hmiddle with ⟨rfl, hlast⟩ | ⟨rest, rfl, -⟩
    · rw [List.append_nil] at hl
      exact .inl ⟨hl, (List.cons.inj hlast).1⟩
    · exact .inr ⟨rest, hl⟩

variable {values : StubValues} {steps : List Step} {s' : Session}

/-- A step that is no call adds no turn. -/
theorem Recounts.concat (h : s.Recounts f values steps) (step : Step)
    (hturns : s'.turns = s.turns ++ (step.call?.map (turn f s.stub)).toList)
    (hchain : s'.stub.Agrees (unasked values (steps ++ [step]))) :
    s'.Recounts f values (steps ++ [step]) where
  calls := by
    rw [hturns, List.map_append, List.filterMap_append, h.calls]
    cases step <;> rfl
  turns before call after hsteps := by
    rw [hturns]
    rcases eq_or_exists_of_concat_eq hsteps with ⟨rfl, rfl⟩ | ⟨rest, hrest⟩
    · -- all turns so far are in front of it
      rw [← h.calls, List.length_map, turn_eq_of_agrees h.chain]
      exact List.getElem?_concat_length
    · have hturn := h.turns before call rest hrest
      rw [List.getElem?_append_left (List.getElem?_eq_some_iff.1 hturn).1, hturn]
  chain := hchain

/-- A call leaves the chain as it was, but for the records. -/
theorem Recounts.call (h : s.Recounts f values steps) (call : Factory.Call) :
    (s.step f (.call call)).Recounts f values (steps ++ [.call call]) := by
  refine h.concat _ rfl ?_
  have hunasked : unasked values (steps ++ [.call call]) = unasked values steps := by
    simp [unasked, Step.failing?]
  rw [hunasked]
  exact (Stub.agrees_hold (call.operation f) s.stub).trans h.chain

theorem Recounts.fail (h : s.Recounts f values steps) (kind : QueryKind) :
    (s.step f (.fail kind)).Recounts f values (steps ++ [.fail kind]) := by
  refine h.concat _ (List.append_nil _).symm ⟨h.chain.values, fun other => ?_⟩
  have hfailing := h.chain.failing other
  simp only [unasked] at hfailing
  simp [Session.step, Stub.fail, unasked, Step.failing?, hfailing, or_comm]

theorem Recounts.step (h : s.Recounts f values steps) (step : Step) :
    (s.step f step).Recounts f values (steps ++ [step]) := by
  cases step with
  | call call => exact h.call call
  | fail kind => exact h.fail kind

theorem Recounts.run (h : s.Recounts f values steps) (steps' : List Step) :
    (s.run f steps').Recounts f values (steps ++ steps') := by
  induction steps' generalizing s steps with
  | nil => rwa [List.append_nil]
  | cons step steps' ih =>
    rw [← List.singleton_append, ← List.append_assoc]
    exact ih (h.step step)

/-- **The books agree at every point of every session**, and what they are compared with is what the
calls of the session come to. -/
theorem consistent_of_run (f : Factory) (values : StubValues) (steps : List Step) :
    ((start values).run f steps).Consistent f ∧
      ((start values).run f steps).Recounts f values steps :=
  ⟨(consistent_start f values).run steps, (recounts_start f values).run steps⟩

end Session
end TxForge
