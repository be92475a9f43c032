import Facet.FileTree

namespace Facet

namespace Path

end Path

namespace Path

variable {l : Location} {name : String}

end Path

namespace FileTree

end FileTree

namespace Disk

variable {d : Disk} {l l' : Location} {p : Path} {name : String}

end Disk

end Facet
