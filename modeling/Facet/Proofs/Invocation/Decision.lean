import Facet.Proofs.Invocation.Passing

namespace Facet

variable {ts : List Ty} {as : List Argument} {xs : Args ts}

namespace Invocation

variable {c : Capability} {i : Invocation} {m : Method c} {args : Args m.params} {u : Ty}
  {target : Target c}

end Invocation

end Facet
