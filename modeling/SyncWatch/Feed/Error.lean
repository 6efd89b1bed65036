import SyncWatch.Failure

/-!
# Failures of a feed

Why a connection failed or ended.  None of these stops a feed; each is shown
while the next attempt is being waited for.
-/

namespace SyncWatch
namespace Feed

/-- Why a connection failed or ended. -/
inductive StreamError where
  | connect (message : String)
  | timeout (seconds : Nat)
  | status (code : Nat)
  | body (message : String)
  /-- The server ended the answer. -/
  | closed
  | decode (message : String)
  | invalidEndpoint (url message : String)
  | client (message : String)
  deriving DecidableEq, Repr

namespace StreamError

/-- The message of a failure. -/
def message : StreamError → String
  | .connect message => "Connection failed: " ++ message
  | .timeout seconds => "Connection timed out after " ++ toString seconds ++ "s"
  | .status code => "Server returned HTTP " ++ toString code
  | .body message => "Stream interrupted: " ++ message
  | .closed => "Stream closed by server"
  | .decode message => "Malformed event stream: " ++ message
  | .invalidEndpoint url message => "Invalid endpoint " ++ url ++ ": " ++ message
  | .client message => "HTTP client error: " ++ message

/-- Whether another attempt can be expected to succeed. -/
def isTransient : StreamError → Bool
  | .connect _ | .timeout _ | .body _ | .closed | .decode _ => true
  | .status code => 500 ≤ code || code == 404 || code == 429
  | .invalidEndpoint _ _ | .client _ => false

/-- The failure as one that is reported to the user. -/
def toMonitorError : StreamError → MonitorError
  | .invalidEndpoint url message => .invalidEndpoint url message
  | error => .httpClient error.message

end StreamError
end Feed
end SyncWatch
