import ServiceContract.Operation

/-!
# Peers and call styles

A service has two peers.  The client calls the operations directed to the server, the server calls
back those directed to the client, and each handles what the other calls.

A caller chooses between four styles: a call may block or be awaited, and a fault of the peer may
surface as an error or be part of the returned outcome.
-/

namespace ServiceContract

/-- The two ends of a connection. -/
inductive Peer
  | client
  | server
  deriving DecidableEq, Repr

namespace Peer

/-- The direction of the operations a peer calls. -/
def calls : Peer → Direction
  | client => .toServer
  | server => .toClient

/-- The direction of the operations a peer handles. -/
def handles : Peer → Direction
  | client => .toClient
  | server => .toServer

end Peer

/-- How a call is made. -/
inductive CallStyle
  | blocking
  | async
  | try
  | tryAsync
  deriving DecidableEq, Repr

namespace CallStyle

/-- Every style, in the order methods are generated. -/
def all : List CallStyle := [.blocking, .async, .try, .tryAsync]

/-- Is the call awaited? -/
def isAsync : CallStyle → Bool
  | .async | .tryAsync => true
  | .blocking | .try => false

/-- Are faults part of the returned outcome? -/
def isTry : CallStyle → Bool
  | .try | .tryAsync => true
  | .blocking | .async => false

/-- The name of the method of this style for the plain name `base`. -/
def methodName (style : CallStyle) (base : String) : String :=
  match style with
  | .blocking => base
  | .async => base ++ "_async"
  | .try => "try_" ++ base
  | .tryAsync => "try_" ++ base ++ "_async"

/-- The suffix of the facade that fixes this style; blocking calls need none. -/
def facadeSuffix : CallStyle → Option String
  | .blocking => none
  | .async => some "Async"
  | .try => some "Try"
  | .tryAsync => some "TryAsync"

end CallStyle

end ServiceContract
