import TxForge.Proofs.Estimation
import TxForge.Proofs.Provenance

/-!
# The gas cap

A cap goes with every estimation, and the estimate must not exceed it.  A factory leaves that to the
chain and does not compare the two.

* `Chain.KeepsCap` — the obligation of a chain.  A chain in memory meets it whatever its values are
  (`Stub.keepsCap`).
* `Factory.gasLimit_le_gasCap` — with a chain that meets it, no gas limit that the caller left open
  exceeds the cap, whichever call it comes out of.
* `Factory.result_estimateGasLimit_node` — a chain behind a node takes the number of the node as it
  is.  The cap goes into the call, and after that it is forgotten, so the obligation is met by some
  nodes and not by others (`Factory.gasLimit_exceeds_gasCap`).
-/

set_option autoImplicit false

namespace TxForge

/-! ## Chains that keep the cap -/

namespace Chain

variable {σ : Type} {chain : Chain σ} {answers : Answers} {qs : List Query} {s : σ}

/-- No estimate exceeds the cap that came with the query. -/
def KeepsCap (chain : Chain σ) : Prop :=
  ∀ (request : String) (gasCap : Gas) (s : σ) (gas : Gas),
    (chain.answer (.estimateGas request gasCap) s).1 = .ok gas → gas.toNat ≤ gasCap.toNat

/-- Each answer to a list of queries was given in some state of the chain. -/
theorem Gives.exists_answer (h : chain.Gives answers qs s) {q : Query} (hq : q ∈ qs) :
    ∃ s', (chain.answer q s').1 = .ok (answers q) := by
  induction qs generalizing s with
  | nil => cases hq
  | cons r rest ih =>
    rcases List.mem_cons.1 hq with rfl | hrest
    · exact ⟨s, h.1⟩
    · exact ih h.2 hrest

end Chain

/-- A chain in memory cuts its estimate off at the cap. -/
theorem Stub.keepsCap : Stub.chain.KeepsCap := by
  intro request gasCap s gas h
  by_cases hfailing : .estimateGas ∈ s.failing
  · rw [answer_of_failing hfailing] at h
    cases h
  · rw [answer_of_not_failing hfailing, respond] at h
    cases hread : CallRequest.ofText request "malformed estimation request" with
    | error f =>
      rw [estimate_of_error hread] at h
      cases h
    | ok r =>
      rw [estimate_of_ok hread] at h
      obtain rfl := Except.ok.inj h
      split
      · assumption
      · exact Nat.le_refl _

/-! ## Calls that leave the gas limit open -/

namespace Factory

namespace Call

/-- The caller sets no gas limit. -/
def LeavesGas : Call → Prop
  | .estimateGasLimit .. => True
  | .defaultArgs _ _ args | .populate _ args | .unsignedTx _ args | .uncheckedTx _ args
  | .signedTx _ args | .chainMessage _ args => args.gasLimit = none
  | .chainId | .sign .. => False

/-- The gas limit in what the call returns. -/
def gasLimit? : (call : Call) → call.Result → Option Gas
  | .chainId, _ => none
  | .defaultArgs .., args | .populate .., args => args.gasLimit
  | .estimateGasLimit .., gas => some gas
  | .unsignedTx .., tx => some tx.envelope.gasLimit
  | .sign .., tx | .uncheckedTx .., tx | .signedTx .., tx => some tx.envelope.gasLimit
  | .chainMessage .., message => some message.gasLimit

end Call

variable {f : Factory} {sender : Address} {args : TxArgs} {σ : Type} {chain : Chain σ} {s : σ}

/-- The estimate that a plan asks for keeps the cap. -/
theorem estimation_le_gasCap (hchain : chain.KeepsCap) {type : SupportedType} {answers : Answers}
    (hg : chain.Gives answers (f.plan sender type args) s) (hopen : args.gasLimit = none) :
    (answers (f.estimation sender args)).toNat ≤ f.config.gasCap.toNat := by
  have hmem : f.estimation sender args ∈ f.plan sender type args :=
    (estimateGas_mem_plan rfl).2 ⟨hopen, rfl⟩
  obtain ⟨s', hanswer⟩ := hg.exists_answer hmem
  exact hchain _ _ _ _ hanswer

/-- Args that are filled in. -/
theorem gasLimit_le_gasCap_of_asks (hchain : chain.KeepsCap) {type : SupportedType}
    {op : Operation TxArgs}
    (h : op.Asks (f.plan sender type args) fun answers => .ok (f.filled sender answers type args))
    (hopen : args.gasLimit = none) {p : TxArgs} (hp : (op.hold chain s).result = .ok p) :
    ∃ gas, p.gasLimit = some gas ∧ gas.toNat ≤ f.config.gasCap.toNat := by
  obtain ⟨answers, hg, hfilled⟩ := h.exists_gives (f.nodup_plan _ _ _) hp
  cases hfilled
  refine ⟨_, filled_gasLimit, ?_⟩
  rw [gasLimitFrom, hopen]
  exact estimation_le_gasCap hchain hg hopen

/-- Transactions that are made of them. -/
theorem gasLimit_le_gasCap_of_madeFrom (hchain : chain.KeepsCap) {e : Envelope}
    (h : f.MadeFrom sender chain s args e) (hopen : args.gasLimit = none) :
    e.gasLimit.toNat ≤ f.config.gasCap.toNat := by
  obtain ⟨answers, hg, hsourced, -⟩ := h
  rw [hsourced.gasLimit, hopen]
  exact estimation_le_gasCap hchain hg hopen

/-- A message has the gas limit of its transaction. -/
theorem gasLimit_of_toMessage {tx : SignedTx} {context : SignerContext} {baseFee : Option Price}
    {message : ChainMessage} (h : tx.toMessage context baseFee = .ok message) :
    message.gasLimit = tx.envelope.gasLimit := by
  rw [SignedTx.toMessage] at h
  cases hs : context.sender tx with
  | ok sender =>
    rw [hs] at h
    cases h
    rfl
  | error e =>
    rw [hs] at h
    cases h

/-- There is a transaction behind a message. -/
theorem exists_of_chainMessage {signer : Signer} {message : ChainMessage}
    (h : ((f.chainMessage signer args).hold chain s).result = .ok message) :
    ∃ tx baseFee, ((f.signedTx signer args).hold chain s).result = .ok tx ∧
      tx.toMessage ⟨f.chainId⟩ (some baseFee) = .ok message := by
  obtain ⟨tx, htx, hrest⟩ := Operation.exists_of_hold_bind_eq_ok h
  obtain ⟨baseFee, -, hmessage⟩ := Operation.exists_of_hold_bind_eq_ok hrest
  rw [Operation.hold_ofExcept] at hmessage
  exact ⟨tx, baseFee, htx, eq_ok_of_mapError_eq_ok hmessage⟩

/-- **If the chain keeps the cap, every gas limit that the caller left open does.** -/
theorem gasLimit_le_gasCap (f : Factory) (call : Call) (hopen : call.LeavesGas) {σ : Type}
    (chain : Chain σ) (hchain : chain.KeepsCap) (s : σ) {a : call.Result}
    (ha : ((call.operation f).hold chain s).result = .ok a) :
    ∃ gas, call.gasLimit? a = some gas ∧ gas.toNat ≤ f.config.gasCap.toNat := by
  cases call with
  | chainId | sign signer tx => exact hopen.elim
  | defaultArgs sender type args =>
    have ha : ((f.defaultArgs sender type args).hold chain s).result = .ok a := ha
    cases htype : SupportedType.ofTxType type with
    | error e =>
      rw [hold_defaultArgs_of_unsupported f sender args chain s htype] at ha
      cases ha
    | ok supported =>
      rw [SupportedType.eq_toTxType_of_ofTxType htype] at ha
      have hliterals : (withLiterals sender supported args).gasLimit = none := by
        cases supported <;> exact hopen
      cases hfield : args.foreignField? supported with
      | none => exact gasLimit_le_gasCap_of_asks hchain (asks_defaultArgs hfield) hliterals ha
      | some field =>
        rw [defaultArgs_eq, hfield] at ha
        cases ha
  | populate sender args =>
    have ha : ((f.populate sender args).hold chain s).result = .ok a := ha
    cases hfield : args.foreignField? (typeFor args) with
    | none => exact gasLimit_le_gasCap_of_asks hchain (asks_populate hfield) hopen ha
    | some field =>
      rw [populate_eq, hfield] at ha
      cases ha
  | estimateGasLimit caller args =>
    have ha : ((f.estimateGasLimit caller args).hold chain s).result = .ok a := ha
    refine ⟨a, rfl, ?_⟩
    cases hr : (chain.answer (f.gasQuery caller args) s).1 with
    | ok gas =>
      rw [hold_estimateGasLimit_of_ok hr] at ha
      cases ha
      exact hchain _ _ _ _ hr
    | error failure =>
      rw [hold_estimateGasLimit_of_error hr] at ha
      cases ha
  | unsignedTx signer args =>
    exact ⟨_, rfl, gasLimit_le_gasCap_of_madeFrom hchain (madeFrom_of_unsignedTx ha) hopen⟩
  | uncheckedTx signer args =>
    exact ⟨_, rfl, gasLimit_le_gasCap_of_madeFrom hchain (madeFrom_of_uncheckedTx ha).1 hopen⟩
  | signedTx signer args =>
    have hmade := (madeFrom_of_uncheckedTx (unchecked_of_signedTx ha).1).1
    exact ⟨_, rfl, gasLimit_le_gasCap_of_madeFrom hchain hmade hopen⟩
  | chainMessage signer args =>
    obtain ⟨tx, baseFee, htx, hmessage⟩ := exists_of_chainMessage ha
    have hmade := (madeFrom_of_uncheckedTx (unchecked_of_signedTx htx).1).1
    refine ⟨_, rfl, ?_⟩
    rw [gasLimit_of_toMessage hmessage]
    exact gasLimit_le_gasCap_of_madeFrom hchain hmade hopen

/-- A chain in memory that holds a greater number than the cap. -/
theorem gasLimit_le_gasCap_stub :
    let f : Factory := ⟨1, ⟨30000⟩⟩
    let stub : Stub := { values := { estimatedGas := 1000000 } }
    ∃ gas, ((f.estimateGasLimit none {}).hold Stub.chain stub).result = .ok gas ∧
      gas.toNat ≤ 30000 := by
  intro f stub
  have hanswer := f.answer_stub_gasQuery none {} stub
  rw [if_neg (by decide)] at hanswer
  obtain ⟨gas, hgas⟩ := hanswer
  have hresult := congrArg Conversation.result
    (hold_estimateGasLimit_of_ok (congrArg Prod.fst hgas))
  obtain ⟨gas', hsame, hle⟩ :=
    gasLimit_le_gasCap f (.estimateGasLimit none {}) trivial Stub.chain Stub.keepsCap stub hresult
  cases hsame
  exact ⟨gas, hresult, hle⟩

/-! ## Nodes -/

section Nodes

variable (f : Factory) (caller : Option Address) (args : TxArgs) {ν : Type} (node : Node ν)
  (s : NodeState ν)

/-- **The number of a node is the estimate**, whatever the cap is. -/
theorem result_estimateGasLimit_node :
    ((f.estimateGasLimit caller args).hold node.chain s).result =
      ((node.reply (f.gasCall caller args) s.inner).1.quantity 64).mapError .estimation := by
  rw [← fst_answer_node_gasQuery]
  cases hr : (node.chain.answer (f.gasQuery caller args) s).1 with
  | ok gas =>
    rw [hold_estimateGasLimit_of_ok hr]
    rfl
  | error failure =>
    rw [hold_estimateGasLimit_of_error hr]
    rfl

end Nodes

/-- A node that replies to everything with a million, while the cap is thirty thousand. -/
theorem gasLimit_exceeds_gasCap :
    let f : Factory := ⟨1, ⟨30000⟩⟩
    let node : Node Unit := ⟨fun _ s => (.value (.ofText "0xf4240"), s)⟩
    let signer : Signer := ⟨⟨1, by decide, by decide⟩, none⟩
    let args : TxArgs := { nonce := some 0, gasPrice := some 1 }
    ((f.estimateGasLimit none {}).hold node.chain ⟨(), []⟩).result = .ok 1000000 ∧
      (∃ tx, ((f.unsignedTx signer args).hold node.chain ⟨(), []⟩).result = .ok tx ∧
        tx.envelope.gasLimit = 1000000) ∧
      ¬ (1000000 : Gas).toNat ≤ f.config.gasCap.toNat := by
  intro f node signer args
  have hnumber : (Json.ofText "0xf4240").quantity? 64 = some 1000000 := by decide
  have hreply : RpcReply.quantity 64 (.value (.ofText "0xf4240")) = .ok 1000000 := by
    rw [RpcReply.quantity, hnumber]
  refine ⟨?_, ?_, by decide⟩
  · rw [result_estimateGasLimit_node]
    exact congrArg (Except.mapError .estimation) hreply
  · have hgives (sender : Address) :
        node.chain.Gives (fun _ => 1000000) (f.plan sender .legacy args) ⟨(), []⟩ := by
      have hplan : f.plan sender .legacy args = [f.gasQuery (some sender) args] := rfl
      rw [hplan, Chain.Gives, fst_answer_node_gasQuery]
      exact ⟨hreply, trivial⟩
    have hfees : ¬ args.MixesFees := by simp [args, TxArgs.MixesFees]
    have hresult := (f.asks_unsignedTx signer ((foreignField?_typeFor args).2 hfees)).answered
      node.chain ⟨(), []⟩ (hgives signer.address)
    rw [assembled_eq f signer.address _ hfees] at hresult
    exact ⟨_, hresult, rfl⟩

end Factory
end TxForge
