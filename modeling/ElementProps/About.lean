/-!
# The program's name and version
-/

namespace ElementProps

def programName : String := "luau-props-lsp"

def programVersion : String := "0.1.0"

end ElementProps
