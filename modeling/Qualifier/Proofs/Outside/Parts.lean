import Qualifier.Outside.Bench
import Qualifier.Proofs.Outside.Ensures
import Qualifier.Service.Simulated

/-!
# The Services as a Part of a World

What the simulated services do at each question of a program. They take no part in the
questions that are not for them, so a claim about them holds whatever the files do. A test
bench has both among its parts.

## Main definitions

* `Cloud.behaviour`: What the simulated services do.

## Theorems

* `admits_service`: The services on a test bench behave as such.
-/

namespace Qualifier

namespace Simulated

/-- What the services do at a question: they answer the requests, and take no part
    in the rest, which may be answered in any way. -/
def Cloud.behaviour : Behaviour Cloud
  | .service request, c, answer, d => (answer, d) = Cloud.service request c
  | .write _ _, c, _, d => d = c
  | .writePrivate _ _, c, _, d => d = c
  | .read _, c, _, d => d = c
  | .remove _, c, _, d => d = c
  | .fetch _, c, _, d => d = c
  | .launch _, c, _, d => d = c
  | .pause _, c, _, d => d = c
  | .freshName, c, _, d => d = c

theorem admits_service :
    World.Admits (Bench.world Cloud.service) Bench.service Cloud.behaviour := by
  intro q b
  cases q with
  | freshName => cases hnames : b.names <;> simp [Bench.world, hnames, Cloud.behaviour]
  | _ => rfl

end Simulated

end Qualifier
