import Mathlib.Algebra.Group.Nat.Defs
import TxForge.Proofs.Estimation
import TxForge.Proofs.Wording

/-!
# A chain in memory and a chain behind a node

The two chains have nothing in common.  One hands out numbers that it holds; the other sends calls
and reads numbers out of texts, and it words its failures its own way.  If the node has the same
values, a factory cannot tell them apart.

* `Node.Mirrors` — the node has the values of a chain in memory, and an error for what fails there.
  `Node.mirror` is such a node.
* `StubValues.reply` — what both chains reply with once no words are left (`Chain.reword`).
* `Factory.alike_of_mirrors` — any call comes to the same with both, but for the words
  (`Conversation.Alike`).
-/

set_option autoImplicit false

namespace TxForge

/-! ## Nothing but words -/

/-- A failure without words. -/
def Failure.wordless : Failure :=
  ⟨"", []⟩

/-- The errors differ in nothing but the words of failures. -/
structure FactoryError.Alike (e e' : FactoryError) : Prop where
  same : e.reword (fun _ => .wordless) = e'.reword fun _ => .wordless
  stage : e.stage = e'.stage
  defaulted? : e.defaulted? = e'.defaulted?

/-- The conversations have the same queries and events, and they come to the same value or to errors
that are alike. -/
structure Conversation.Alike {σ τ α : Type} (c : Conversation σ (Except FactoryError α))
    (d : Conversation τ (Except FactoryError α)) : Prop where
  queries : c.queries = d.queries
  transcript : c.transcript.map (Entry.reword fun _ => .wordless) =
    d.transcript.map (Entry.reword fun _ => .wordless)
  value : ∀ a, c.result = .ok a ↔ d.result = .ok a
  error : ∀ e, c.result = .error e → ∃ e', d.result = .error e' ∧ e.Alike e'

namespace Conversation

variable {σ τ α : Type} {c : Conversation σ (Except FactoryError α)}
  {d : Conversation τ (Except FactoryError α)}

/-- It is enough to compare what is left without words. -/
theorem alike_of_reword
    (hresult : (c.reword fun _ => .wordless).result = (d.reword fun _ => .wordless).result)
    (htranscript : (c.reword fun _ => .wordless).transcript =
      (d.reword fun _ => .wordless).transcript) : c.Alike d := by
  have hqueries : c.queries = d.queries := by
    rw [← queries_reword (w := fun _ => .wordless) c, ← queries_reword (w := fun _ => .wordless) d,
      queries, queries, htranscript]
  refine ⟨hqueries, htranscript, fun a => ?_, fun e he => ?_⟩
  · simp only [reword] at hresult
    cases hc : c.result <;> cases hd : d.result <;>
      simp [hc, hd, Except.mapError] at hresult ⊢
    rw [hresult]
  · simp only [reword, he] at hresult
    cases hd : d.result with
    | ok a => simp [hd, Except.mapError] at hresult
    | error e' =>
      simp only [hd, Except.mapError, Except.error.injEq] at hresult
      refine ⟨e', rfl, hresult, ?_, ?_⟩
      · have hstage := congrArg FactoryError.stage hresult
        rwa [FactoryError.stage_reword, FactoryError.stage_reword] at hstage
      · have hfield := congrArg FactoryError.defaulted? hresult
        rwa [FactoryError.defaulted?_reword, FactoryError.defaulted?_reword] at hfield

end Conversation

/-! ## Nodes with the values of a chain in memory -/

/-- The reply is an error if queries of its kind fail, and otherwise a value that denotes the
answer. -/
def RpcReply.Tells (fails : Prop) (denotes : Json → Prop) : RpcReply → Prop
  | .value v => ¬ fails ∧ denotes v
  | .failure .. => fails

/-- The node replies with these values, and with an error to the calls that stand for the failing
kinds.  Its errors may say anything, and its values may be spelled in any way that is read. -/
structure Node.Mirrors {ν : Type} (node : Node ν) (values : StubValues)
    (failing : List QueryKind) : Prop where
  estimateGas : ∀ params s, (node.reply ⟨"eth_estimateGas", params⟩ s).1.Tells
    (.estimateGas ∈ failing) fun v => v.quantity? 64 = some values.estimatedGas
  baseFee : ∀ params s, (node.reply ⟨"eth_getBlockByNumber", params⟩ s).1.Tells
    (.baseFee ∈ failing) fun v => Block.baseFee? v = some (some (values.baseFee.setWidth 64))
  nonce : ∀ params s, (node.reply ⟨"eth_getTransactionCount", params⟩ s).1.Tells
    (.nonce ∈ failing) fun v => v.quantity? 64 = some values.nonce
  maxPriorityFee : ∀ params s, (node.reply ⟨"eth_maxPriorityFeePerGas", params⟩ s).1.Tells
    (.maxPriorityFee ∈ failing) fun v => v.quantity? 128 = some values.maxPriorityFee

/-! ## What both reply with -/

namespace StubValues

/-- The value that a query asks for. -/
def answer (values : StubValues) : (q : Query) → q.Answer
  | .estimateGas .. => values.estimatedGas
  | .baseFee => values.baseFee
  | .nonce _ => values.nonce
  | .maxPriorityFee => values.maxPriorityFee

/-- The reply of a chain with these values that words nothing. -/
def reply (values : StubValues) (failing : List QueryKind) (q : Query) : q.Reply :=
  if q.kind ∈ failing then .error .wordless else .ok (values.answer q)

end StubValues

namespace RpcReply

variable {fails : Prop} [Decidable fails] {r : RpcReply}

theorem Tells.quantity {width : Nat} {n : BitVec width}
    (h : r.Tells fails fun v => v.quantity? width = some n) :
    (r.quantity width).mapError (fun _ => Failure.wordless) =
      if fails then .error .wordless else .ok n := by
  cases r with
  | value v =>
    obtain ⟨hfails, hv⟩ := h
    rw [RpcReply.quantity, hv, if_neg hfails]
    rfl
  | failure code message data =>
    have hfails : fails := h
    rw [if_pos hfails]
    rfl

/-- A base fee is widened behind the wire, which loses nothing if it fits into the wire. -/
theorem Tells.baseFee {fee : Price} (hfee : fee.toNat < 2 ^ 64)
    (h : r.Tells fails fun v => Block.baseFee? v = some (some (fee.setWidth 64))) :
    r.baseFee.mapError (fun _ => Failure.wordless) =
      if fails then .error .wordless else .ok fee := by
  have hwidened : (fee.setWidth 64).setWidth 128 = fee := by
    apply BitVec.eq_of_toNat_eq
    rw [BitVec.toNat_setWidth, BitVec.toNat_setWidth, Nat.mod_eq_of_lt hfee,
      Nat.mod_eq_of_lt fee.isLt]
  cases r with
  | value v =>
    obtain ⟨hfails, hv⟩ := h
    cases v with
    | object members =>
      simp only [RpcReply.baseFee, hv, hwidened, if_neg hfails]
      rfl
    | _ => cases hv
  | failure code message data =>
    have hfails : fails := h
    rw [if_pos hfails]
    rfl

end RpcReply

/-- What is known of the queries that a factory asks: their estimations are those of args. -/
def Factory.AsksForArgs (f : Factory) (q : Query) : Prop :=
  q.kind = .estimateGas → ∃ caller args, q = f.gasQuery caller args

/-- Queries change neither the values of a chain in memory nor what fails. -/
theorem Stub.values_answer (q : Query) (s : Stub) :
    (Stub.chain.answer q s).2.values = s.values ∧
      (Stub.chain.answer q s).2.failing = s.failing := by
  rw [state_answer]
  exact ⟨rfl, rfl⟩

variable {f : Factory} {q : Query} {values : StubValues}

theorem Stub.answer_reword (hq : f.AsksForArgs q) (s : Stub)
    (hgas : s.values.estimatedGas.toNat ≤ f.config.gasCap.toNat) :
    ((Stub.chain.reword fun _ => .wordless).answer q s).1 = s.values.reply s.failing q := by
  rw [StubValues.reply, Chain.reword]
  by_cases hfailing : q.kind ∈ s.failing
  · rw [if_pos hfailing]
    simp only [answer_of_failing hfailing]
    rfl
  · rw [if_neg hfailing]
    simp only [answer_of_not_failing hfailing]
    cases q with
    | estimateGas request gasCap =>
      obtain ⟨caller, args, hquery⟩ := hq rfl
      simp only [Factory.gasQuery, Query.estimateGas.injEq] at hquery
      obtain ⟨rfl, rfl⟩ := hquery
      rw [respond, estimate_of_ok (CallRequest.ofText_toText _ _)]
      exact congrArg Except.ok (if_pos hgas)
    | baseFee | nonce account | maxPriorityFee => rfl

theorem Node.answer_reword {ν : Type} {node : Node ν} {failing : List QueryKind}
    (hnode : node.Mirrors values failing) (hfee : values.baseFee.toNat < 2 ^ 64)
    (hq : f.AsksForArgs q) (s : NodeState ν) :
    ((node.chain.reword fun _ => .wordless).answer q s).1 = values.reply failing q := by
  cases q with
  | estimateGas request gasCap =>
    obtain ⟨caller, args, hquery⟩ := hq rfl
    rw [hquery, Chain.reword]
    simp only [f.fst_answer_node_gasQuery caller args node s]
    exact (hnode.estimateGas _ s.inner).quantity
  | baseFee => exact (hnode.baseFee _ s.inner).baseFee hfee
  | nonce account => exact (hnode.nonce _ s.inner).quantity
  | maxPriorityFee => exact (hnode.maxPriorityFee _ s.inner).quantity

/-! ## A node that mirrors -/

namespace Block

/-- A block with these members and a base fee. -/
def ofMembers (word address bloom nonce number bytes fee : Json) : Json :=
  .record [("hash", word), ("parentHash", word), ("sha3Uncles", word), ("miner", address),
    ("stateRoot", word), ("transactionsRoot", word), ("receiptsRoot", word), ("logsBloom", bloom),
    ("difficulty", number), ("number", number), ("gasLimit", number), ("gasUsed", number),
    ("timestamp", number), ("extraData", bytes), ("mixHash", word), ("nonce", nonce),
    ("transactions", .array []), ("uncles", .array []), ("baseFeePerGas", fee)]

theorem isSome_spareBytes?_zeros (isSpare : Json → Bool) (n : Nat) :
    ((zeros n).spareBytes? isSpare n).isSome = true := by
  have hread : (zeros n).bytes? = some (List.replicate n 0) := Json.bytes?_encode _
  show ((zeros n).fixedBytes? n).isSome = true
  rw [Json.fixedBytes?, hread, Option.bind_some, FixedBytes.ofBytes?]
  simp

theorem isSome_quantity?_zero (width : Nat) : (zero.quantity? width).isSome = true := by
  have hread := Json.quantity?_quantity (BitVec.ofNat width 0)
  rw [BitVec.toNat_zero] at hread
  have hzero : Json.ofText (Hex.quantity 0) = zero := congrArg Json.ofText (by decide)
  rw [← hzero, hread]
  rfl

/-- The members are variables here: texts of many digits are not to be evaluated. -/
theorem isWellFormed_ofMembers {word address bloom nonce number bytes : Json} {text : String}
    {fee : BitVec 64} (hword : (word.spareBytes? Json.isNoByte 32).isSome = true)
    (haddress : (address.spareBytes? Json.isNoByte 20).isSome = true)
    (hbloom : (bloom.spareBytes? Json.isNoByte 256).isSome = true)
    (hnonce : (nonce.spareBytes? Json.isNoByte 8).isSome = true)
    (hnumber : ∀ width, (number.quantity? width).isSome = true)
    (hbytes : bytes.bytes?.isSome = true) (hfee : (Json.ofText text).quantity? 64 = some fee) :
    isWellFormed (ofMembers word address bloom nonce number bytes (.ofText text)) = true := by
  simp [isWellFormed, ofMembers, Json.record, header, lists, hashes, Json.Shape.fits,
    Json.members?, Json.renamed, Json.Shape.areThere, Json.Shape.mayBeThere, List.lookup_cons, hword,
    haddress, hbloom, hnonce, hnumber, hbytes, hfee]

/-- The base fee of a block with nothing else in it. -/
theorem baseFee?_blank {text : String} {fee : BitVec 64}
    (h : (Json.ofText text).quantity? 64 = some fee) :
    baseFee? (blank (some (.ofText text))) = some (some fee) := by
  have hformed : isWellFormed (blank (some (.ofText text))) = true :=
    isWellFormed_ofMembers (isSome_spareBytes?_zeros _ 32) (isSome_spareBytes?_zeros _ 20)
      (isSome_spareBytes?_zeros _ 256) (isSome_spareBytes?_zeros _ 8) isSome_quantity?_zero
      (congrArg Option.isSome (Json.bytes?_encode [])) h
  have hfee : baseFee? (blank (some (.ofText text))) =
      if isWellFormed (blank (some (.ofText text))) then
        Json.optional? (Json.quantity? 64) (some (.ofText text))
      else none := rfl
  rw [hfee, if_pos hformed]
  exact congrArg (Option.map some) h

end Block

namespace Node

/-- A node with fixed values.  It has an error for the methods that stand for failing kinds. -/
def mirror (values : StubValues) (failing : List QueryKind) : Node Unit where
  reply call s :=
    let reply (kind : QueryKind) (v : Json) : RpcReply :=
      if kind ∈ failing then .failure (-32000) "failed" none else .value v
    if call.method = "eth_estimateGas" then
      (reply .estimateGas (CallRequest.quantityJson values.estimatedGas), s)
    else if call.method = "eth_getBlockByNumber" then
      (reply .baseFee (Block.blank (some (CallRequest.quantityJson values.baseFee))), s)
    else if call.method = "eth_getTransactionCount" then
      (reply .nonce (CallRequest.quantityJson values.nonce), s)
    else (reply .maxPriorityFee (CallRequest.quantityJson values.maxPriorityFee), s)

theorem tells_of_denotes {failing : List QueryKind} {kind : QueryKind} {denotes : Json → Prop}
    {v : Json} (h : denotes v) :
    RpcReply.Tells (kind ∈ failing) denotes
      (if kind ∈ failing then .failure (-32000) "failed" none else .value v) := by
  split
  · assumption
  · exact ⟨‹_›, h⟩

/-- For all values of a chain in memory there is a node that mirrors it. -/
theorem mirrors_mirror (hfee : values.baseFee.toNat < 2 ^ 64) (failing : List QueryKind) :
    (mirror values failing).Mirrors values failing where
  estimateGas _ _ := tells_of_denotes (Json.quantity?_quantity values.estimatedGas)
  baseFee _ _ := by
    have hwire : (Json.ofText (Hex.quantity values.baseFee.toNat)).quantity? 64 =
        some (values.baseFee.setWidth 64) := by
      have hread := Json.quantity?_quantity (values.baseFee.setWidth 64)
      rwa [BitVec.toNat_setWidth, Nat.mod_eq_of_lt hfee] at hread
    exact tells_of_denotes (Block.baseFee?_blank hwire)
  nonce _ _ := tells_of_denotes (Json.quantity?_quantity values.nonce)
  maxPriorityFee _ _ := tells_of_denotes (Json.quantity?_quantity values.maxPriorityFee)

end Node

/-! ## The two chains -/

/-- **A factory cannot tell a chain in memory from a chain behind a node with its values.** -/
theorem Factory.alike_of_mirrors (f : Factory) (call : Call) (stub : Stub) {ν : Type}
    (node : Node ν) (s : NodeState ν) (hfee : stub.values.baseFee.toNat < 2 ^ 64)
    (hgas : stub.values.estimatedGas.toNat ≤ f.config.gasCap.toNat)
    (hnode : node.Mirrors stub.values stub.failing) :
    ((call.operation f).hold Stub.chain stub).Alike ((call.operation f).hold node.chain s) := by
  have hstub := (f.indifferent_operation call).hold_reword (fun _ => .wordless) Stub.chain stub
  have hmirror := (f.indifferent_operation call).hold_reword (fun _ => .wordless) node.chain s
  have hchains : ∀ (q : Query) (stub' : Stub) (s' : NodeState ν), f.AsksForArgs q →
      stub'.values = stub.values ∧ stub'.failing = stub.failing →
      ((Stub.chain.reword fun _ => .wordless).answer q stub').1 =
          ((node.chain.reword fun _ => .wordless).answer q s').1 ∧
        ((Stub.chain.reword fun _ => .wordless).answer q stub').2.values = stub.values ∧
        ((Stub.chain.reword fun _ => .wordless).answer q stub').2.failing = stub.failing := by
    rintro q stub' s' hq ⟨hvalues, hfailing⟩
    have hafter := Stub.values_answer q stub'
    rw [Stub.answer_reword hq stub' (by rwa [hvalues]), Node.answer_reword hnode hfee hq s',
      hvalues, hfailing]
    exact ⟨rfl, hafter.1.trans hvalues, hafter.2.trans hfailing⟩
  have hsame := Dialogue.run_congr hchains (call.operation f).run (s := stub) (t := s) ⟨rfl, rfl⟩
    fun q hq hkind => exists_of_estimateGas_mem hq hkind
  rw [Operation.hold] at hstub hmirror
  rw [hstub, hmirror] at hsame
  exact Conversation.alike_of_reword hsame.1 hsame.2

/-- A node with the values that a chain in memory has by default, and no tip to suggest. -/
theorem Factory.alike_of_default_mirror :
    let f : Factory := ⟨1, {}⟩
    let stub : Stub := { failing := [.maxPriorityFee] }
    let node := Node.mirror stub.values stub.failing
    let sender : Address := FixedBytes.ofNat 20 1
    stub.values.baseFee.toNat < 2 ^ 64 ∧
      stub.values.estimatedGas.toNat ≤ f.config.gasCap.toNat ∧
      node.Mirrors stub.values stub.failing ∧
      ∃ e, ((f.populate sender {}).hold node.chain ⟨(), []⟩).result = .error e ∧
        e.defaulted? = some (.maxPriorityFeePerGas, none) := by
  intro f stub node sender
  have hnode : node.Mirrors stub.values stub.failing := Node.mirrors_mirror (by decide) _
  have halike := f.alike_of_mirrors (.populate sender {}) stub node ⟨(), []⟩ (by decide)
    (by decide) hnode
  obtain ⟨e, he, hsame⟩ := halike.error
    (.defaulting .maxPriorityFeePerGas (Stub.failure .maxPriorityFee)) rfl
  exact ⟨by decide, by decide, hnode, e, he, hsame.defaulted?.symm⟩

end TxForge
