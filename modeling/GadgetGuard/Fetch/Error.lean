import GadgetGuard.Proxy.Target
/-!
# Errors of fetches

Why a fetch has no response.
-/

namespace GadgetGuard

/-- The longest URL that is fetched, in bytes. -/
def maxUrlLength : Nat := 2048

inductive FetchError
  | blocked (cause : TargetError)
  | urlTooLong (size : Nat)
  | unresolved (detail : String)
  | requestFailed (detail : String)
  | bodyTooLarge (size limit : Nat)
  | bodyCutShort (detail : String)
  deriving DecidableEq, Repr

def FetchError.message : FetchError → String
  | blocked cause => "SSRF protection: " ++ cause.message
  | urlTooLong size =>
    "URL too long: " ++ Nat.repr size ++ " chars (max " ++ Nat.repr maxUrlLength ++ ")"
  | unresolved detail => "DNS resolution failed: " ++ detail
  | requestFailed detail => "HTTP request failed: " ++ detail
  | bodyTooLarge size limit =>
    "Response too large: " ++ Nat.repr size ++ " bytes (max " ++ Nat.repr limit ++ ")"
  | bodyCutShort detail => "Stream read error: " ++ detail

end GadgetGuard
