import Facet.Proofs.Invocation.Passing
import Facet.Proofs.Value.Exact

namespace Facet

namespace Invocation

variable {c : Capability} {m m' : Method c} {args : Args m.params} {args' : Args m'.params}
  {i i' : Invocation}

end Invocation

end Facet
