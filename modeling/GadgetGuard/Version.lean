/-!
# Name and version
-/

namespace GadgetGuard

def programName : String := "gadget-shield"

def programVersion : String := "0.1.0"

def versionText : String := programName ++ " " ++ programVersion

end GadgetGuard
