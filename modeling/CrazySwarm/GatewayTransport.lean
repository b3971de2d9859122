import CrazySwarm.Models

/-! The transports of the simulator gateway: one JSON line for each request, over the pipes of a
child process or over a TLS connection, and the lines that the gateway writes back. -/
namespace CrazySwarm

inductive GatewayLifecycleState where
  | new | starting | ready | runBound | stopping | stopped | failed
  deriving DecidableEq, Repr

def maxGatewayMessageBytes : Nat := 1048576

/-- The longest line that `readline` hands out: the limit of the stream, its end and one byte. -/
def longestLine : Nat := maxGatewayMessageBytes + 2

/-- What `json.loads` makes of a line. -/
inductive GatewayBody (V : Type) where
  | object (value : V) | malformed | notAnObject
  deriving DecidableEq, Repr

structure GatewayLine (V : Type) where
  length : Nat
  body : GatewayBody V
  answers : Option Nat := none
  deriving DecidableEq, Repr

/-- A child process or a TLS connection, with what has happened on it: the requests that were
written, the lines that are not read yet, and the requests for which the gateway wrote a line. -/
structure GatewayConnection (V : Type) where
  requests : List Nat := []
  lines : List (GatewayLine V) := []
  answered : List Nat := []
  closing : Bool := false
  hungUp : Bool := false
  exited : Bool := false
  /-- A call has ended after its write without a line of the gateway. -/
  unknown : Bool := false
  cancelled : Bool := false
  deriving DecidableEq, Repr

namespace GatewayConnection

variable {V : Type}

/-- A closing stream drops what is written to it. -/
def write (connection : GatewayConnection V) (id : Nat) : GatewayConnection V :=
  if connection.closing then connection
  else { connection with requests := connection.requests ++ [id] }

def receive (connection : GatewayConnection V) (line : GatewayLine V) : GatewayConnection V :=
  if connection.hungUp then connection
  else { connection with
    lines := connection.lines ++ [line]
    answered := connection.answered ++ line.answers.toList }

end GatewayConnection

structure TransportKind where
  /-- `request` and `state` look at the return code of the process. -/
  watchesProcess : Bool
  failsUnavailable : Bool
  alreadyStarted : String
  couldNotStart : String
  unavailable : String
  unknownOutcome : String
  noResponse : String
  deriving DecidableEq, Repr

def managedProcessTransport : TransportKind where
  watchesProcess := true
  failsUnavailable := true
  alreadyStarted := "gateway process is already started"
  couldNotStart := "Isaac gateway process could not start"
  unavailable := "Isaac gateway process is unavailable"
  unknownOutcome := "Isaac gateway request outcome is unknown"
  noResponse := "Isaac gateway returned no bounded response"

def tlsGatewayTransport : TransportKind where
  watchesProcess := false
  failsUnavailable := false
  alreadyStarted := "TLS gateway is already started"
  couldNotStart := "TLS Isaac gateway unavailable"
  unavailable := "TLS Isaac gateway is not connected"
  unknownOutcome := "TLS Isaac request outcome is unknown"
  noResponse := "TLS Isaac response is unavailable"

/-- A call of `request` that holds the lock and waits for its line. -/
structure GatewayCall where
  id : Nat
  connection : Nat
  deriving DecidableEq, Repr

structure GatewayTransport (V : Type) where
  state : GatewayLifecycleState := .new
  connections : List (GatewayConnection V) := []
  /-- The connection that `_process`, or `_reader` and `_writer`, hold. -/
  current : Option Nat := none
  pending : Option GatewayCall := none
  calls : Nat := 0
  /-- The calls of `start` and of `close` that have not returned. -/
  starts : Nat := 0
  closes : Nat := 0
  deriving DecidableEq, Repr

inductive StartEnding where
  | connects
  | fails
  /-- An error that `start` does not catch, or a cancellation. -/
  | escapes
  deriving DecidableEq, Repr

/-- What can happen between two waits. A call of `request` gets the lock with the length of its
encoded line, or with none when `json.dumps` raises. -/
inductive GatewayEvent (V : Type) where
  | start
  | startEnds (ending : StartEnding)
  | request (encoded : Option Nat)
  | readline
  | timeout
  | connectionError
  | cancel
  | close
  | closeEnds (completes : Bool)
  | forceTerminate
  | line (connection : Nat) (line : GatewayLine V)
  | hangUp (connection : Nat)
  | exit (connection : Nat)
  deriving DecidableEq, Repr

inductive GatewayOutcome (V : Type) where
  | silent
  | wrote (id connection : Nat)
  | value (id : Nat) (line : GatewayLine V) (value : V)
  | raised (code : ErrorCode) (message : String)
  | notEncodable
  | cancelled
  deriving DecidableEq, Repr

/-- `_decode_object`, for the call with the number. -/
def decodeObject {V : Type} (id : Nat) (line : GatewayLine V) : GatewayOutcome V :=
  match line.body with
  | .object value => .value id line value
  | .malformed => .raised .invalidCommand "malformed Isaac gateway response"
  | .notAnObject => .raised .invalidCommand "Isaac gateway response must be an object"

namespace GatewayTransport

variable {V : Type}

def held (transport : GatewayTransport V) : Option (Nat × GatewayConnection V) :=
  transport.current.bind fun number => (transport.connections[number]?).map (number, ·)

/-- The connection over which a request can be written. -/
def available (kind : TransportKind) (transport : GatewayTransport V) :
    Option (Nat × GatewayConnection V) :=
  transport.held.filter fun (_, connection) => !(kind.watchesProcess && connection.exited)

/-- The property `state`. -/
def reported (kind : TransportKind) (transport : GatewayTransport V) : GatewayLifecycleState :=
  match transport.held with
  | some (_, connection) =>
    if kind.watchesProcess && connection.exited then .failed else transport.state
  | none => transport.state

def modify (transport : GatewayTransport V) (number : Nat)
    (change : GatewayConnection V → GatewayConnection V) : GatewayTransport V :=
  { transport with connections := transport.connections.modify number change }

def start (kind : TransportKind) (transport : GatewayTransport V) :
    GatewayTransport V × GatewayOutcome V :=
  if transport.state = .new ∨ transport.state = .stopped then
    ({ transport with state := .starting, starts := transport.starts + 1 }, .silent)
  else (transport, .raised .invalidState kind.alreadyStarted)

def startEnds (kind : TransportKind) (transport : GatewayTransport V) (ending : StartEnding) :
    GatewayTransport V × GatewayOutcome V :=
  if transport.starts = 0 then (transport, .silent)
  else
    let transport := { transport with starts := transport.starts - 1 }
    match ending with
    | .connects =>
      ({ transport with
          connections := transport.connections ++ [{}]
          current := some transport.connections.length
          state := .ready }, .silent)
    | .fails => ({ transport with state := .failed }, .raised .linkLost kind.couldNotStart)
    | .escapes => (transport, .silent)

/-- `request` up to its wait. A call that finds the lock taken waits for it. -/
def request (kind : TransportKind) (transport : GatewayTransport V) (encoded : Option Nat) :
    GatewayTransport V × GatewayOutcome V :=
  if transport.pending.isSome then (transport, .silent)
  else match transport.available kind with
    | none =>
      ({ transport with state := if kind.failsUnavailable then .failed else transport.state },
        .raised .linkLost kind.unavailable)
    | some (number, connection) =>
      match encoded with
      | none => (transport, .notEncodable)
      | some length =>
        if maxGatewayMessageBytes < length then
          (transport, .raised .invalidCommand "Isaac gateway request is too large")
        else
          ({ transport.modify number (·.write transport.calls) with
              calls := transport.calls + 1
              pending := some ⟨transport.calls, number⟩ },
            if connection.closing then .silent else .wrote transport.calls number)

/-- The waiting call raises, and the transport has failed. -/
def lose (transport : GatewayTransport V) (call : GatewayCall) (message : String) :
    GatewayTransport V × GatewayOutcome V :=
  ({ transport.modify call.connection ({ · with unknown := true }) with
      state := .failed, pending := none },
    .raised .linkLost message)

/-- `readline` comes back to the waiting call, with a line or at the end of the stream. -/
def readline (kind : TransportKind) (transport : GatewayTransport V) (call : GatewayCall)
    (connection : GatewayConnection V) : GatewayTransport V × GatewayOutcome V :=
  match connection.lines with
  | [] => if connection.hungUp then transport.lose call kind.noResponse else (transport, .silent)
  | line :: rest =>
    let transport := transport.modify call.connection ({ · with lines := rest })
    if longestLine < line.length then transport.lose call kind.unknownOutcome
    else if maxGatewayMessageBytes < line.length then transport.lose call kind.noResponse
    else ({ transport with pending := none }, decodeObject call.id line)

/-- What happens to the call that waits, if one does. -/
def onCall (transport : GatewayTransport V)
    (change : GatewayCall → GatewayConnection V → GatewayTransport V × GatewayOutcome V) :
    GatewayTransport V × GatewayOutcome V :=
  match transport.pending with
  | none => (transport, .silent)
  | some call =>
    match transport.connections[call.connection]? with
    | none => (transport, .silent)
    | some connection => change call connection

def close (transport : GatewayTransport V) : GatewayTransport V :=
  match transport.current with
  | none => { transport with state := .stopped }
  | some number =>
    { transport.modify number ({ · with closing := true }) with
      state := .stopping, closes := transport.closes + 1 }

def closeEnds (transport : GatewayTransport V) (completes : Bool) : GatewayTransport V :=
  if transport.closes = 0 then transport
  else
    let transport := { transport with closes := transport.closes - 1 }
    if completes then { transport with current := none, state := .stopped } else transport

def step (kind : TransportKind) (transport : GatewayTransport V) :
    GatewayEvent V → GatewayTransport V × GatewayOutcome V
  | .start => transport.start kind
  | .startEnds ending => transport.startEnds kind ending
  | .request encoded => transport.request kind encoded
  | .readline => transport.onCall (transport.readline kind)
  | .timeout => transport.onCall fun call _ => transport.lose call kind.unknownOutcome
  -- the limit of the stream, passed by a line without an end, raises here too
  | .connectionError => transport.onCall fun call _ => transport.lose call kind.unknownOutcome
  -- nothing catches a cancellation
  | .cancel => transport.onCall fun call _ =>
    ({ transport.modify call.connection ({ · with unknown := true, cancelled := true }) with
        pending := none }, .cancelled)
  | .close => (transport.close, .silent)
  | .closeEnds completes => (transport.closeEnds completes, .silent)
  | .forceTerminate =>
    (if kind.watchesProcess then { transport with state := .failed } else transport, .silent)
  | .line number line => (transport.modify number (·.receive line), .silent)
  | .hangUp number => (transport.modify number ({ · with hungUp := true }), .silent)
  | .exit number => (transport.modify number ({ · with exited := true }), .silent)

def next (kind : TransportKind) (transport : GatewayTransport V) (event : GatewayEvent V) :
    GatewayTransport V :=
  (transport.step kind event).1

end GatewayTransport

end CrazySwarm
