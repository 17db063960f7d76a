import TxForge.Chain.Node
import TxForge.Chain.Stub
import TxForge.Proofs.CallText
import TxForge.Proofs.Complete
import TxForge.Proofs.Passages

/-!
# What a chain is told of a call

An estimation is asked for with a text.  What the factory means by it, and what a chain reads out of
it, are two definitions that do not know of each other; this file is about their agreement.

* `CallRequest.Conveys` — a text is read as a call with this recipient, input and access list, and
  has no members for anything else.
* `Factory.Transmitted` — the query for the gas of a call conveys it.  No chain that reads requests
  can refuse it, and what is not part of the call does not show in it.
* `Factory.EstimatedAsReturned` — args that are filled in are estimated as they are returned, which
  takes in a list that only stands in for a missing one.
-/

set_option autoImplicit false

namespace TxForge

/-! ## Plans and what is asked of them -/

namespace Chain

variable {σ : Type} (chain : Chain σ)

/-- Only queries of the list are asked. -/
theorem asked_prefix (qs : List Query) (s : σ) : chain.asked qs s <+: qs := by
  induction qs generalizing s with
  | nil => exact List.prefix_rfl
  | cons q rest ih =>
    rw [asked]
    cases (chain.answer q s).1 with
    | ok a => exact (List.prefix_cons_inj q).2 (ih _)
    | error failure => exact (List.prefix_cons_inj q).2 List.nil_prefix

end Chain

/-- An operation that succeeds asks its plan to the end. -/
theorem Operation.Asks.queries_of_ok {α : Type} {op : Operation α} {plan : List Query}
    {outcome : Answers → Except FactoryError α} (h : op.Asks plan outcome) (hplan : plan.Nodup)
    {σ : Type} {chain : Chain σ} {s : σ} {a : α} (hok : (op.hold chain s).result = .ok a) :
    (op.hold chain s).queries = plan := by
  obtain ⟨answers, hg, -⟩ := h.exists_gives hplan hok
  rw [h.queries, hg.asked_eq]

namespace Factory

variable {f : Factory} {sender : Address} {args : TxArgs}

/-- The only estimation of a plan is the one for a missing gas limit. -/
theorem estimateGas_mem_plan {type : SupportedType} {q : Query} (hkind : q.kind = .estimateGas) :
    q ∈ f.plan sender type args ↔ args.gasLimit = none ∧ q = f.gasQuery (some sender) args := by
  have hnonce : q ∉ Query.ifMissing args.nonce (.nonce sender) := by
    intro h
    have hmem := (Query.kinds_ifMissing_sublist _ _).subset (List.mem_map_of_mem h)
    rw [hkind] at hmem
    simp [Query.kind] at hmem
  have hfees : q ∉ feeQueries type args := by
    intro h
    have hmem := (kinds_feeQueries_sublist type args).subset (List.mem_map_of_mem h)
    rw [hkind] at hmem
    simp at hmem
  have hgas : q ∈ Query.ifMissing args.gasLimit (f.estimation sender args) ↔
      args.gasLimit = none ∧ q = f.gasQuery (some sender) args := by
    cases args.gasLimit with
    | some gasLimit => simp [Query.ifMissing]
    | none =>
      simp only [Query.ifMissing, List.mem_singleton, true_and]
      exact Iff.rfl
  simp only [plan, List.mem_append, hnonce, hfees, hgas, false_or]

end Factory

/-! ## The request -/

/-- The text is read as a call from `caller` with recipient, input and access list of the args.  It
has no members but theirs, so whatever else a request can say, this one does not. -/
structure CallRequest.Conveys (request : String) (caller : Option Address) (args : TxArgs) :
    Prop where
  read : ∀ message, CallRequest.ofText request message =
    .ok { caller
          recipient := args.recipient
          gasPrice := none
          gas := none
          value := none
          input := some args.input
          data := none
          nonce := none
          accessList := args.accessList }
  bare : ∃ members, Json.readAs? CallRequest.layout request = some (.record members) ∧
    ∀ member ∈ members, member.1 ∈ ["from", "to", "input", "accessList"]

namespace Factory

variable (f : Factory) (caller : Option Address) (args : TxArgs)

theorem conveys_estimationRequest :
    CallRequest.Conveys (estimationRequest caller args).toText caller args where
  read message := CallRequest.ofText_toText (estimationRequest caller args) message
  bare := by
    refine ⟨_, CallRequest.readAs?_toText _, fun member hmember => ?_⟩
    simp only [CallRequest.parts, estimationRequest, List.mem_append] at hmember
    rcases hmember with (((((((h | h) | h) | h) | h) | h) | h) | h) | h <;>
      obtain ⟨part, hpart, rfl⟩ := CallRequest.mem_member h <;> simp at hpart ⊢

/-- The request says nothing that the recipient, the input and the access list do not settle. -/
theorem gasQuery_congr {args args' : TxArgs} (hrecipient : args'.recipient = args.recipient)
    (hinput : args'.input = args.input) (hlist : args'.accessList = args.accessList) :
    f.gasQuery caller args' = f.gasQuery caller args := by
  rw [gasQuery, gasQuery, estimationRequest, estimationRequest, hrecipient, hinput, hlist]

/-- The call that the query for the gas of a call is put to a node as: the request with the gas cap
added as its gas. -/
def gasCall : RpcCall :=
  ⟨"eth_estimateGas", some (.array
    [{ estimationRequest caller args with gas := some f.config.gasCap }.toJson, .ofText "pending"])⟩

/-- What is asked for the gas of a call, and what the two chains make of it. -/
structure Transmitted (q : Query) : Prop where
  /-- It is all that is asked. -/
  asked : ∀ {σ : Type} (chain : Chain σ) (s : σ),
    ((f.estimateGasLimit caller args).hold chain s).queries = [q]
  conveyed : ∃ request, q = .estimateGas request f.config.gasCap ∧
    CallRequest.Conveys request caller args
  /-- A chain in memory fails if it was told to, and otherwise answers and records the request. -/
  stub : ∀ stub : Stub,
    if .estimateGas ∈ stub.failing then
      Stub.chain.answer q stub = ⟨.error (Stub.failure .estimateGas), stub.record .estimateGas⟩
    else ∃ gas, Stub.chain.answer q stub = ⟨.ok gas, { stub.record .estimateGas with
      estimations := stub.estimations ++ [(estimationRequest caller args, f.config.gasCap)] }⟩
  /-- A node is sent the request with the gas cap added as its gas, whatever it was sent before, and
  the answer is read out of what it replies. -/
  node : ∀ {ν : Type} (node : Node ν) (s : NodeState ν), node.chain.answer q s =
    ⟨q.ofRpcReply (node.reply (f.gasCall caller args) s.inner).1,
      { inner := (node.reply (f.gasCall caller args) s.inner).2
        exchanges := s.exchanges ++ [⟨q, some (f.gasCall caller args)⟩] }⟩
  /-- Value, nonce, prices and the rest of the args do not show in it. -/
  blind : ∀ args' : TxArgs, args'.recipient = args.recipient → args'.input = args.input →
    args'.accessList = args.accessList →
    ∀ {σ : Type} (chain : Chain σ) (s : σ),
      ((f.estimateGasLimit caller args').hold chain s).queries = [q]

theorem queries_estimateGasLimit {σ : Type} (chain : Chain σ) (s : σ) :
    ((f.estimateGasLimit caller args).hold chain s).queries = [f.gasQuery caller args] := by
  cases hr : (chain.answer (f.gasQuery caller args) s).1 with
  | ok gas =>
    rw [hold_estimateGasLimit_of_ok hr]
    rfl
  | error failure =>
    rw [hold_estimateGasLimit_of_error hr]
    rfl

theorem answer_stub_gasQuery (stub : Stub) :
    if .estimateGas ∈ stub.failing then
      Stub.chain.answer (f.gasQuery caller args) stub =
        ⟨.error (Stub.failure .estimateGas), stub.record .estimateGas⟩
    else ∃ gas, Stub.chain.answer (f.gasQuery caller args) stub =
      ⟨.ok gas, { stub.record .estimateGas with
        estimations := stub.estimations ++ [(estimationRequest caller args, f.config.gasCap)] }⟩ := by
  have hread := CallRequest.ofText_toText (estimationRequest caller args)
    "malformed estimation request"
  split
  · rename_i hfailing
    exact Stub.answer_of_failing hfailing
  · rename_i hfailing
    rw [Stub.answer_of_not_failing (q := f.gasQuery caller args) hfailing, gasQuery, Stub.respond,
      Stub.estimate_of_ok hread]
    exact ⟨_, rfl⟩

theorem rpcCall_gasQuery : (f.gasQuery caller args).rpcCall = .ok (f.gasCall caller args) := by
  have hread := CallRequest.ofText_toText (estimationRequest caller args)
    "failed to decode estimation request"
  rw [gasQuery, Query.rpcCall, hread]
  rfl

theorem answer_node_gasQuery {ν : Type} (node : Node ν) (s : NodeState ν) :
    node.chain.answer (f.gasQuery caller args) s =
      ⟨(node.reply (f.gasCall caller args) s.inner).1.quantity 64,
        { inner := (node.reply (f.gasCall caller args) s.inner).2
          exchanges := s.exchanges ++
            [⟨f.gasQuery caller args, some (f.gasCall caller args)⟩] }⟩ := by
  rw [Node.chain]
  simp only [f.rpcCall_gasQuery caller args]
  rfl

/-- The number in the reply of the node is the answer. -/
theorem fst_answer_node_gasQuery {ν : Type} (node : Node ν) (s : NodeState ν) :
    (node.chain.answer (f.gasQuery caller args) s).1 =
      (node.reply (f.gasCall caller args) s.inner).1.quantity 64 :=
  congrArg Prod.fst (f.answer_node_gasQuery caller args node s)

theorem transmitted_gasQuery : f.Transmitted caller args (f.gasQuery caller args) where
  asked := f.queries_estimateGasLimit caller args
  conveyed := ⟨_, rfl, conveys_estimationRequest caller args⟩
  stub := f.answer_stub_gasQuery caller args
  node := f.answer_node_gasQuery caller args
  blind args' hrecipient hinput hlist σ chain s := by
    rw [f.queries_estimateGasLimit, f.gasQuery_congr caller hrecipient hinput hlist]

/-! ## Estimations while args are filled in -/

/-- Whatever the conversation comes to, it asks for no gas but that of a call with these args from
the sender.  If it returns args, they have the same call, and the gas was asked for exactly if the
caller left it open. -/
structure EstimatedAsReturned {σ : Type} (sender : Address) (args : TxArgs)
    (c : Conversation σ (Except FactoryError TxArgs)) : Prop where
  only : ∀ q ∈ c.queries, q.kind = .estimateGas → q = f.gasQuery (some sender) args
  returned : ∀ p, c.result = .ok p →
    p.recipient = args.recipient ∧ p.input = args.input ∧ p.accessList = args.accessList ∧
      ∀ request gasCap, .estimateGas request gasCap ∈ c.queries ↔
        args.gasLimit = none ∧ .estimateGas request gasCap = f.gasQuery (some sender) p

variable {f args} {sender : Address}

theorem estimatedAsReturned_of_asks {type : SupportedType} {op : Operation TxArgs}
    (h : op.Asks (f.plan sender type args) fun answers => .ok (f.filled sender answers type args))
    {σ : Type} (chain : Chain σ) (s : σ) :
    f.EstimatedAsReturned sender args (op.hold chain s) := by
  refine ⟨fun q hq hkind => ?_, fun p hp => ?_⟩
  · rw [h.queries] at hq
    have hplan := (chain.asked_prefix _ s).subset hq
    exact ((estimateGas_mem_plan hkind).1 hplan).2
  · have hqueries := h.queries_of_ok (f.nodup_plan _ _ _) hp
    obtain ⟨answers, -, hfilled⟩ := h.exists_gives (f.nodup_plan _ _ _) hp
    cases hfilled
    refine ⟨filled_recipient, filled_input, filled_accessList, fun request gasCap => ?_⟩
    have hsame : f.gasQuery (some sender) (f.filled sender answers type args) =
        f.gasQuery (some sender) args :=
      f.gasQuery_congr (some sender) filled_recipient filled_input filled_accessList
    rw [hqueries, hsame]
    exact estimateGas_mem_plan rfl

/-- Args that are refused are not estimated. -/
theorem estimatedAsReturned_throw (e : FactoryError) {σ : Type} (chain : Chain σ) (s : σ) :
    f.EstimatedAsReturned sender args ((throw e : Operation TxArgs).hold chain s) :=
  ⟨fun q hq => by simp [Conversation.queries] at hq, fun p hp => by cases hp⟩

theorem estimatedAsReturned_populate (f : Factory) (sender : Address) (args : TxArgs) {σ : Type}
    (chain : Chain σ) (s : σ) :
    f.EstimatedAsReturned sender args ((f.populate sender args).hold chain s) := by
  cases hfield : args.foreignField? (typeFor args) with
  | none => exact estimatedAsReturned_of_asks (asks_populate hfield) chain s
  | some field =>
    rw [populate_eq, hfield]
    exact estimatedAsReturned_throw _ chain s

theorem estimatedAsReturned_defaultArgs (f : Factory) (sender : Address) (type : SupportedType)
    (args : TxArgs) {σ : Type} (chain : Chain σ) (s : σ) :
    f.EstimatedAsReturned sender (withLiterals sender type args)
      ((f.defaultArgs sender type.toTxType args).hold chain s) := by
  cases hfield : args.foreignField? type with
  | none => exact estimatedAsReturned_of_asks (asks_defaultArgs hfield) chain s
  | some field =>
    rw [defaultArgs_eq, hfield]
    exact estimatedAsReturned_throw _ chain s

/-- **What is said of a call is what a chain is told.**  This goes for every estimation: the one for
some args, those for args that are filled in, and any that another call to the factory asks for. -/
theorem transmitted_of_estimation (f : Factory) :
    (∀ caller args, f.Transmitted caller args (f.gasQuery caller args)) ∧
      (∀ sender args {σ : Type} (chain : Chain σ) (s : σ),
        f.EstimatedAsReturned sender args ((f.populate sender args).hold chain s)) ∧
      (∀ sender (type : SupportedType) args {σ : Type} (chain : Chain σ) (s : σ),
        f.EstimatedAsReturned sender (withLiterals sender type args)
          ((f.defaultArgs sender type.toTxType args).hold chain s)) ∧
      ∀ (call : Call) {σ : Type} (chain : Chain σ) (s : σ),
        ∀ q ∈ ((call.operation f).hold chain s).queries, q.kind = .estimateGas →
          ∃ caller args, q = f.gasQuery caller args ∧ f.Transmitted caller args q := by
  refine ⟨f.transmitted_gasQuery, fun sender args σ => f.estimatedAsReturned_populate sender args,
    fun sender type args σ => f.estimatedAsReturned_defaultArgs sender type args,
    fun call σ chain s q hq hkind => ?_⟩
  obtain ⟨caller, args, rfl⟩ := exists_of_estimateGas_mem hq hkind
  exact ⟨caller, args, rfl, f.transmitted_gasQuery caller args⟩

/-- Nothing is set.  The list that stands in for the missing one is part of the request. -/
theorem transmitted_of_placeholder :
    let f : Factory := ⟨1, {}⟩
    let sender : Address := FixedBytes.ofNat 20 1
    ∃ request, .estimateGas request f.config.gasCap ∈
        ((f.defaultArgs sender .accessList {}).hold (.uniform 7) ()).queries ∧
      CallRequest.ofText request "" =
        .ok { caller := some sender
              input := some []
              accessList := some (AccessList.placeholder sender) } := by
  intro f sender
  obtain ⟨htransmitted, -, hdefaulted, -⟩ := transmitted_of_estimation f
  let args := withLiterals sender .accessList {}
  have hasks : (f.defaultArgs sender SupportedType.accessList.toTxType {}).Asks
      (f.plan sender .accessList args) _ := asks_defaultArgs rfl
  have hresult := hasks.answered (.uniform 7) () (Chain.gives_uniform 7 _)
  obtain ⟨hrecipient, hinput, hlist, hasked⟩ :=
    (hdefaulted sender .accessList {} (.uniform 7) ()).returned _ hresult
  obtain ⟨request, hquery, hconveys⟩ := (htransmitted (some sender) args).conveyed
  have hsame := f.gasQuery_congr (some sender) hrecipient hinput hlist
  exact ⟨request, (hasked _ _).2 ⟨rfl, by rw [hsame, hquery]⟩, hconveys.read ""⟩

end Factory
end TxForge
