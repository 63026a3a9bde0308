import MetaProtocolProxy.Codec

/-!
# The downstream connection

What every message of a connection shares : the connection to the client, the list of
active messages, the messages handed to deferred deletion, and the functions of
`ConnectionManager` that the messages call (`conn_manager.cc`).

Messages are named by the order in which they were created. What is written to the
client is kept with the message it answers and the reply it is, so that a property of
the answers can be stated.
-/

namespace MetaProtocolProxy

/-! ## Configuration -/

/-- What a filter returns from its callback. -/
inductive FilterStatus where
  | continue | stopIteration | retry
deriving DecidableEq, Repr

/-- The callbacks a filter can use while it handles a message. Once it has paused it can only go
on : it neither replies nor resets the stream later, as no filter of the repository does. -/
inductive FilterAct where
  | sendLocalReply (error : Error) (endStream : Bool)
  | resetStream
  | resetDownstreamConnection
  /-- Takes bytes off the front of the original message. -/
  | drainOriginMessage (length : ℕ)
deriving DecidableEq, Repr

/-- What a filter does in its callback, and what it returns. -/
structure Reaction where
  acts : List FilterAct := []
  status : FilterStatus
deriving DecidableEq, Repr

/-- A filter of a chain : the router, or any other filter, given by what it does for the
message of a number, after so many earlier calls for it, on what it is shown. -/
inductive Filter where
  | router
  | custom (react : (message : ℕ) → (earlier : ℕ) → Metadata → Reaction)

/-- Whether a filter is the router. -/
def Filter.isRouter : Filter → Bool
  | .router => true
  | .custom _ => false

/-- The address of an upstream host. -/
abbrev Host := String

/-- A route, which names a cluster. -/
structure RouteEntry where
  clusterName : String
deriving DecidableEq, Repr

/-- What `newConnection` does before it returns : it calls back with a connection, which may
hold bytes nobody has read, or with the overflow of the pool, and then returns null. Or
it returns a handle. -/
inductive PoolStart where
  | ready (host : Host) (leftover : Bytes)
  | overflow (host : Host)
  | pending
deriving DecidableEq, Repr

/-- `ThreadLocalCluster`, as the router asks it. `tcpConnPool` is null when there is no
healthy host. -/
structure Cluster where
  maintenanceMode : Bool
  tcpConnPool : Option PoolStart
deriving DecidableEq, Repr

/-- `Config` and the cluster manager. What a route or a cluster is for a message can depend
on the message, since each draws its own random value and asks at its own time. -/
structure Config (σ : Type) where
  codec : Codec σ
  applicationProtocol : String
  decoderFilters : List Filter
  encoderFilters : List Filter
  route : ℕ → Metadata → Option RouteEntry
  getThreadLocalCluster : ℕ → String → Option Cluster

/-! ## The connection -/

/-- Whether a connection is open, closing behind what is still to be written, or closed. -/
inductive ConnectionState where
  | open | closing | closed
deriving DecidableEq, Repr

/-- Whether what is still to be written is written first. -/
inductive ConnectionCloseType where
  | flushWrite | noFlush
deriving DecidableEq, Repr

/-- Which side has closed a connection. -/
inductive ConnectionEvent where
  | remoteClose | localClose
deriving DecidableEq, Repr

/-- The counters, and the gauge `requestActive`. -/
inductive Stat where
  | cxDestroyLocalWithActiveRq | cxDestroyRemoteWithActiveRq | localResponseBusinessException
  | localResponseError | localResponseSuccess | request | requestDecodingError
  | requestDecodingSuccess | requestEvent | requestOneway | requestTwoway | response
  | responseBusinessException | responseDecodingError | responseDecodingSuccess | responseError
  | responseErrorCausedConnectionClose | responseSuccess | requestActive
deriving DecidableEq, Repr

/-- What a write to the client is : a heartbeat reply, a local reply, or the response of
an upstream. -/
inductive Reply where
  | heartbeat
  | localReply (error : Error)
  | upstreamResponse (metadata : Metadata)
deriving DecidableEq, Repr

/-- A write to the client, with the message it answers. -/
structure Write where
  message : Option ℕ
  reply : Reply
  bytes : Bytes
  endStream : Bool
deriving DecidableEq, Repr

/-- The part of a connection that its messages see. `codec` is the state of the codec of
the `ConnectionManager`. -/
structure Downstream (σ : Type) where
  codec : σ
  state : ConnectionState := .open
  written : List Write := []
  activeMessageList : List ℕ := []
  deferredDelete : List ℕ := []
  stats : Stat → ℕ := fun _ => 0
  /-- The first place where the process would have stopped. -/
  fault : Option String := none

namespace Downstream

variable {σ : Type}

/-- A counter goes up. -/
def inc (stat : Stat) (d : Downstream σ) : Downstream σ :=
  { d with stats := fun s => if s = stat then d.stats s + 1 else d.stats s }

/-- A gauge goes down. -/
def dec (stat : Stat) (d : Downstream σ) : Downstream σ :=
  { d with stats := fun s => if s = stat then d.stats s - 1 else d.stats s }

/-- A place where the process would have stopped : only the first one is kept. -/
def panic (site : String) (d : Downstream σ) : Downstream σ :=
  { d with fault := some (d.fault.getD site) }

/-- An `ASSERT`. A build without assertions goes on. -/
def assert (condition : Bool) (site : String) (d : Downstream σ) : Downstream σ :=
  if condition then d else d.panic site

/-- A write to the client. -/
def write (w : Write) (d : Downstream σ) : Downstream σ :=
  { d with written := d.written ++ [w] }

/-- `deferredMessage` : a message that is not in the list was handed over before. -/
def deferredMessage (message : ℕ) (d : Downstream σ) : Downstream σ :=
  if message ∈ d.activeMessageList then
    { d with
      activeMessageList := d.activeMessageList.erase message
      deferredDelete := d.deferredDelete ++ [message] }
  else d

/-- `resetAllMessages` : `onReset` of the front message until the list is empty. -/
def resetAllMessages (localReset : Bool) (d : Downstream σ) : Downstream σ :=
  d.activeMessageList.foldl (fun d message =>
    (d.inc (if localReset then .cxDestroyLocalWithActiveRq else .cxDestroyRemoteWithActiveRq)
      ).deferredMessage message) d

/-- `onEvent` of the downstream connection. -/
def onEvent (event : ConnectionEvent) (d : Downstream σ) : Downstream σ :=
  d.resetAllMessages (event = .localClose)

/-- The connection is closed, and reports it. -/
def closed (event : ConnectionEvent) (d : Downstream σ) : Downstream σ :=
  { d with state := .closed }.onEvent event

/-- Closing without a flush closes at once, and the connection reports it before it
returns. A flush may still have to wait for the client. -/
def close (type : ConnectionCloseType) (d : Downstream σ) : Downstream σ :=
  match type with
  | .flushWrite => if d.state = .open then { d with state := .closing } else d
  | .noFlush => if d.state = .closed then d else d.closed .localClose

/-- `sendLocalReply` with an `AppException`, for the message of that number. -/
def sendLocalReply (cfg : Config σ) (message : ℕ) (metadata : Metadata) (error : Error)
    (endStream : Bool) (d : Downstream σ) : Downstream σ :=
  if d.state ≠ .open then d
  else
    match cfg.codec.onError d.codec metadata error with
    | .error (.panic site) => d.panic site
    | .error (.exception _) =>
      let d := if endStream then d.close .flushWrite else d
      d.inc .localResponseError
    | .ok bytes =>
      let d := d.write ⟨some message, .localReply error, bytes, endStream⟩
      let d := if endStream then d.close .flushWrite else d
      d.inc .localResponseBusinessException

end Downstream

end MetaProtocolProxy
