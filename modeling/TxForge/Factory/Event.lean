import TxForge.Address
import TxForge.Chain
import TxForge.TxType

/-!
# What a factory reports

While a factory works it reports what happens.  Two views of the reports leave the process: the
counters, and the lines of the log.
-/

set_option autoImplicit false

namespace TxForge

/-- Something that happened in a factory. -/
inductive Event where
  /-- A type was asked for that has no defaults. -/
  | unsupportedType
  | defaultedNonce (sender : Address) (nonce : Nonce)
  | defaultedTip (sender : Address) (tip : Price)
  | defaultedFeeCap (sender : Address) (baseFee feeCap : Price)
  /-- An estimation is about to be asked for. -/
  | estimating
  | estimated (caller recipient : Option Address) (gas : Gas)
  | estimationFailed (caller recipient : Option Address) (failure : Failure)
  /-- A transaction was signed and passed all checks. -/
  | signed (sender : Address) (hash : Word) (type : TxType)
deriving DecidableEq

/-! ## Counters -/

/-- How often each counted thing happened. -/
structure Metrics where
  signedTransactions : Nat := 0
  gasEstimations : Nat := 0
  failedGasEstimations : Nat := 0
  unsupportedTypes : Nat := 0
  /-- How many estimations had their time taken. -/
  latencies : Nat := 0
deriving DecidableEq

namespace Metrics

/-- The counters after one more event. -/
def count (m : Metrics) : Event → Metrics
  | .unsupportedType => { m with unsupportedTypes := m.unsupportedTypes + 1 }
  | .estimating => { m with gasEstimations := m.gasEstimations + 1 }
  | .estimated .. => { m with latencies := m.latencies + 1 }
  | .estimationFailed .. =>
    { m with
      failedGasEstimations := m.failedGasEstimations + 1
      latencies := m.latencies + 1 }
  | .signed .. => { m with signedTransactions := m.signedTransactions + 1 }
  | .defaultedNonce .. | .defaultedTip .. | .defaultedFeeCap .. => m

/-- The counters after events in their order. -/
def countAll (m : Metrics) (events : List Event) : Metrics :=
  events.foldl count m

end Metrics

/-! ## Log -/

/-- How much a line of the log matters. -/
inductive LogLevel where
  | debug
  | warn
deriving DecidableEq

namespace LogLevel

/-- The name of the level. -/
def name : LogLevel → String
  | .debug => "DEBUG"
  | .warn => "WARN"

end LogLevel

/-- A line of the log with its named fields. -/
structure LogLine where
  level : LogLevel
  message : String
  fields : List (String × String)
deriving DecidableEq

namespace Event

/-- An address that may be absent, as the log shows it. -/
def addressText : Option Address → String
  | some address => "Some(" ++ address.hex ++ ")"
  | none => "None"

/-- The line that an event leaves in the log, if it leaves one. -/
def logLine? : Event → Option LogLine
  | .unsupportedType | .estimating => none
  | .defaultedNonce sender nonce =>
    some ⟨.debug, "defaulted nonce",
      [("sender", sender.checksummed), ("nonce", toString nonce.toNat)]⟩
  | .defaultedTip sender tip =>
    some ⟨.debug, "defaulted max priority fee per gas",
      [("sender", sender.checksummed), ("tip", toString tip.toNat)]⟩
  | .defaultedFeeCap sender baseFee feeCap =>
    some ⟨.debug, "defaulted max fee per gas",
      [("sender", sender.checksummed), ("base_fee", toString baseFee.toNat),
        ("max_fee_per_gas", toString feeCap.toNat)]⟩
  | .estimated caller recipient gas =>
    some ⟨.debug, "estimated gas",
      [("from", addressText caller), ("to", addressText recipient), ("gas", toString gas.toNat)]⟩
  | .estimationFailed caller recipient failure =>
    some ⟨.warn, "gas estimation failed: " ++ failure.inline,
      [("from", addressText caller), ("to", addressText recipient)]⟩
  | .signed sender hash type =>
    some ⟨.debug, "generated signed transaction",
      [("from", sender.checksummed), ("hash", hash.hex), ("tx_type", type.name)]⟩

end Event
end TxForge
