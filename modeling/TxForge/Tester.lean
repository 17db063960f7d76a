import TxForge.Chain.Stub
import TxForge.Factory

/-!
# A factory to test with

A factory for a chain in memory, and the key that its transactions are signed with.
-/

set_option autoImplicit false

namespace TxForge

/-- A factory, the chain it works with, and a signer. -/
structure Tester where
  factory : Factory
  stub : Stub
  signer : Signer

namespace Tester

/-- The chain id of the chain in memory. -/
def chainId : ChainId := 9000

/-- The key that transactions are signed with. -/
def key : Key where
  secret := 0x7726827caac94a7f9e1b160f7ea819f172f7b6f9d2a97f992c38edeab82d4110
  pos := by decide
  lt_order := by decide

/-- A tester whose chain answers with the given values. -/
def setup (values : StubValues := {}) (config : FactoryConfig := {}) : Tester where
  factory := { chainId, config }
  stub := { values }
  signer := { key }

end Tester
end TxForge
