/-!
# Parameters of the proxy endpoint

The names under which the proxy endpoint takes its directives. Links are written with these
names and requests are read with them.
-/

namespace GadgetGuard.Parameter

def url : String := "url"
def container : String := "container"
def gadget : String := "gadget"
def refresh : String := "refresh"
def version : String := "v"
def fingerprint : String := "fp"
def requiredMime : String := "rewriteMime"
def sanitize : String := "sanitize"
def fallbackUrl : String := "fallback_url"

/-- Directives for images, passed on only where they are integers. -/
def imageSizes : List String :=
  ["resize_h", "resize_w", "resize_q", "no_expand"]

/-- The container of a request that names none. -/
def defaultContainer : String := "default"

end GadgetGuard.Parameter
