import TxForge.Args
import TxForge.Message
import TxForge.Signed.Validation
import TxForge.Chain

/-!
# Errors of a factory

Every error tells at which stage of the work it arose, and keeps whatever lies behind it.  The text
of an error speaks of itself alone; the messages behind it are its causes, outermost first.
-/

set_option autoImplicit false

namespace TxForge

/-- The stages of a factory's work. -/
inductive Stage where
  | unsupportedType
  | invalidArgs
  | defaulting
  | assembly
  | encoding
  | estimation
  | signing
  | validation
  | conversion
deriving DecidableEq

namespace Stage

/-- All stages. -/
def all : List Stage :=
  [.unsupportedType, .invalidArgs, .defaulting, .assembly, .encoding, .estimation, .signing,
    .validation, .conversion]

/-- The name of the stage. -/
def name : Stage → String
  | .unsupportedType => "UnsupportedType"
  | .invalidArgs => "InvalidArgs"
  | .defaulting => "Defaulting"
  | .assembly => "Assembly"
  | .encoding => "Encoding"
  | .estimation => "Estimation"
  | .signing => "Signing"
  | .validation => "Validation"
  | .conversion => "Conversion"

/-- The stage with this name. -/
def ofName? (s : String) : Option Stage :=
  all.find? (·.name == s)

end Stage

/-- A field that a factory fills in from the chain. -/
inductive DefaultedField where
  | nonce
  | maxPriorityFeePerGas
  | maxFeePerGas
  | gasLimit
deriving DecidableEq

namespace DefaultedField

/-- The field in messages. -/
def name : DefaultedField → String
  | .nonce => "nonce"
  | .maxPriorityFeePerGas => "max priority fee per gas"
  | .maxFeePerGas => "max fee per gas"
  | .gasLimit => "gas limit"

end DefaultedField

/-- Why a factory gave up. -/
inductive FactoryError where
  /-- The type has no defaults. -/
  | unsupportedType (e : UnsupportedType)
  /-- The caller set a field that the type does not have. -/
  | fieldNotAllowed (type : SupportedType) (field : TxArgs.Field)
  /-- A query for a field failed. -/
  | defaulting (field : DefaultedField) (failure : Failure)
  /-- The estimation for the gas limit ended in an error of its own. -/
  | defaultingGasLimit (cause : FactoryError)
  /-- The args are not complete. -/
  | assembly (e : IncompleteArgs)
  /-- A call request has no text. -/
  | encoding (failure : Failure)
  /-- An estimation failed. -/
  | estimation (failure : Failure)
  /-- The signer refused. -/
  | signing (e : SigningError)
  /-- The signed transaction does not pass the checks. -/
  | validation (e : ValidationError)
  /-- The base fee for a message could not be asked for. -/
  | baseFee (failure : Failure)
  /-- The transaction is none of this chain. -/
  | signerContext (e : SignerContextError)
deriving DecidableEq

namespace FactoryError

/-- The stage at which the error arose. -/
def stage : FactoryError → Stage
  | .unsupportedType _ => .unsupportedType
  | .fieldNotAllowed .. => .invalidArgs
  | .defaulting .. => .defaulting
  | .defaultingGasLimit _ => .defaulting
  | .assembly _ => .assembly
  | .encoding _ => .encoding
  | .estimation _ => .estimation
  | .signing _ => .signing
  | .validation _ => .validation
  | .baseFee _ => .conversion
  | .signerContext _ => .conversion

/-- The field that could not be filled in, and the stage of the error behind it, if that is one of
a factory too. -/
def defaulted? : FactoryError → Option (DefaultedField × Option Stage)
  | .defaulting field _ => some (field, none)
  | .defaultingGasLimit cause => some (.gasLimit, some cause.stage)
  | _ => none

/-- The error as text. -/
def message : FactoryError → String
  | .unsupportedType e => e.message
  | .fieldNotAllowed type field =>
    "`" ++ field.name ++ "` cannot be set on a " ++ type.name ++ " transaction"
  | .defaulting field _ => "failed to populate tx args: cannot default " ++ field.name
  | .defaultingGasLimit _ =>
    "failed to populate tx args: cannot default " ++ DefaultedField.gasLimit.name
  | .assembly _ => "failed to create ethereum tx"
  | .encoding _ => "failed to marshal tx args"
  | .estimation _ => "failed to estimate gas"
  | .signing _ => "failed to sign ethereum tx"
  | .validation _ => "failed to validate transaction"
  | .baseFee _ => "failed to get base fee"
  | .signerContext _ => "failed to convert transaction into a chain message"

/-- The messages of what lies behind the error, outermost first. -/
def causes : FactoryError → List String
  | .unsupportedType _ => []
  | .fieldNotAllowed .. => []
  | .defaulting _ failure => failure.chain
  | .defaultingGasLimit cause => cause.message :: cause.causes
  | .assembly e => [e.message]
  | .encoding failure => failure.chain
  | .estimation failure => failure.chain
  | .signing e => [e.message]
  | .validation e => e.message :: e.causes
  | .baseFee failure => failure.chain
  | .signerContext e => e.message :: e.causes

end FactoryError

/-- The error of an outcome that is expected to fail at a stage, if it does. -/
def expectStage? {α : Type} (stage : Stage) : Except FactoryError α → Option FactoryError
  | .error e => if e.stage = stage then some e else none
  | .ok _ => none

end TxForge
