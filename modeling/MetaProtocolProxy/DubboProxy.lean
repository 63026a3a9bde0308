import MetaProtocolProxy.CompactHessian2
import MetaProtocolProxy.ConnectionManager

/-!
# The Dubbo proxy with its default filters

`dubboConfig` is the configuration without filters of its own : the router is the only
filter of both chains. `Dubbo.frame` puts a frame together from its parts, and
`dubboExample` is a proxy with one cluster, over the compact forms of Hessian2, which is
small enough to run.
-/

namespace MetaProtocolProxy

/-- The Dubbo codec with the router as the only filter. -/
def dubboConfig (hessian : Dubbo.Hessian2) (route : ℕ → Metadata → Option RouteEntry)
    (getThreadLocalCluster : ℕ → String → Option Cluster) : Config Dubbo.DubboCodec.State where
  codec := Dubbo.DubboCodec.codec hessian
  applicationProtocol := "dubbo"
  decoderFilters := [.router]
  encoderFilters := [.router]
  route
  getThreadLocalCluster

namespace DubboExample

open Dubbo

/-- The call of `m` of the service `S`. -/
def requestBody : Bytes :=
  ["2.0.2", "S", "0.0.0", "m"].flatMap CompactHessian2.encodeString

/-- A request that waits for a response. -/
def request (requestId : ℕ) : Bytes :=
  frame 0xc2 0 requestId requestBody

/-- A request that does not. -/
def oneway (requestId : ℕ) : Bytes :=
  frame 0x82 0 requestId requestBody

/-- A response without a value. -/
def response (requestId : ℕ) : Bytes :=
  frame 0x02 20 requestId (CompactHessian2.encodeUInt8 2)

/-- A proxy with a route to one cluster, whose pool starts connections as given. -/
def config (tcpConnPool : Option PoolStart) : Config DubboCodec.State :=
  dubboConfig .compact (fun _ _ => some ⟨"cluster"⟩)
    fun _ _ => some { maintenanceMode := false, tcpConnPool }

end DubboExample

end MetaProtocolProxy
