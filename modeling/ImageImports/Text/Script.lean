import ImageImports.Text.Script.First
import ImageImports.Text.Script.Second

/-!
# Scripts by name

## Main definitions

* `Script.named?`: the script with a given name.
-/

namespace ImageImports.Text.Script

/-- All scripts. -/
def all : List Script := firstScripts ++ secondScripts

/-- The script with a name in small letters without separators. -/
def named? (name : String) : Option Script := all.find? (·.names.contains name)

end ImageImports.Text.Script
