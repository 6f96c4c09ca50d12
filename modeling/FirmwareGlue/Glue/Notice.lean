/-!
# Generated files

The names of the files that generation writes and reads, and the notice that each generated file
begins with.
-/

namespace FirmwareGlue.Glue

def headerName : String := "AutoGen.h"

def sourceName : String := "AutoGen.c"

/-- The name of the legacy flash map beside the generated files. -/
def flashMapCopyName : String := "TianoR8FlashMap.h"

/-- The name of the legacy flash map where it comes from. -/
def flashMapName : String := "FlashMap.h"

def notice (file : String) : String :=
  "/**\n  DO NOT EDIT\n  FILE auto-generated by tianogen\n  Module name:\n    " ++ file
    ++ "\n  Abstract:\n    Auto-generated " ++ file ++ " for building module or library.\n**/\n\n"

end FirmwareGlue.Glue
