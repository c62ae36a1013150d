import CellRep.Client
import CellRep.Maintain
import CellRep.Strings

/-!
# Where a cell can be called

The cell and its callers are configured apart. The cell decides with `RequireTLS` what its
securable server speaks, and announces an address and a URL (`cmd/rep/main.go`); the client
decides with its certificates and a `RequireTLS` of its own which of the two it calls, if any
(`client.go`). Put together, a client that is created talks to a server of the cell which
speaks the protocol of the URL and has the routes of the client; and it is created exactly
for the configurations that fit.
-/

namespace CellRep

open Maintain (Maintainer)
open Rpc (Route getRoutes)

/-! ## The cell

What `main` makes of the configuration, as far as a caller can tell: two listeners, and the
presence that is announced for them. -/

/-- The part of `RepConfig` that the servers and the presence are made from. -/
structure RepConfig where
  advertiseDomain : String
  cellID : String
  enableLegacyAPIServer : Bool
  listenAddr : String
  listenAddrSecurable : String
  lockRetryInterval : Int64
  lockTTL : Int64
  optionalPlacementTags : List String
  placementTags : List String
  requireTLS : Bool
  supportedProviders : List String
  zone : String

/-- `repHost`: the id of a cell as a label of a host name, in which `_` may not occur. -/
def repHost (cellID : String) : String :=
  String.ofList (cellID.toList.map fun c => if c = '_' then '-' else c)

/-- `repURL`: the name of the cell in the domain it advertises. -/
def repURL (cellID advertiseDomain : String) : String := repHost cellID ++ "." ++ advertiseDomain

/-- What stands after the first colon of an address, up to the next one; it has to have
one. -/
def portOf (listenAddress : String) : Option String := (Strings.split ':' listenAddress)[1]?

/-- What a server speaks, where it listens and which routes it has. -/
structure Listener where
  scheme : String
  port : String
  routes : List Route

namespace RepConfig

variable (repConfig : RepConfig)

/-- The protocol of a server. Only the securable one ever speaks https. -/
def scheme (secure : Bool) : String :=
  if secure && repConfig.requireTLS then "https" else "http"

/-- Where a server listens: each of the two has an address of its own in the configuration. -/
def listenAddress (secure : Bool) : String :=
  if secure then repConfig.listenAddrSecurable else repConfig.listenAddr

/-- `initializeServer`: the server, and the address that is announced for it. -/
def initializeServer (ip : String) (secure : Bool) : Option (Listener × String) := do
  let port ← portOf (repConfig.listenAddress secure)
  let address := repConfig.scheme secure ++ "://" ++ ip ++ ":" ++ port
  let routes := getRoutes repConfig.enableLegacyAPIServer secure
  return (⟨repConfig.scheme secure, port, routes⟩, address)

/-- `initializeCellPresence`, as far as it goes by consul. -/
def initializeCellPresence (address : String) (preloadedRootFSes : List String) (secure : Bool) :
    Option Maintainer := do
  let port ← portOf repConfig.listenAddrSecurable
  let repUrl := repConfig.scheme secure ++ "://" ++
    repURL repConfig.cellID repConfig.advertiseDomain ++ ":" ++ port
  return ⟨repConfig.cellID, address, repUrl, repConfig.zone, repConfig.lockRetryInterval,
    repConfig.supportedProviders, preloadedRootFSes, repConfig.placementTags,
    repConfig.optionalPlacementTags, repConfig.lockTTL⟩

/-- What `main` starts: the two servers, and the presence with the address of the first. -/
structure Started where
  http : Listener
  https : Listener
  presence : Maintainer

/-- The members of the group in `main` that others call or read. -/
def start (ip : String) (preloadedRootFSes : List String) : Option Started := do
  let (http, address) ← repConfig.initializeServer ip false
  let (https, _) ← repConfig.initializeServer ip true
  let presence ← repConfig.initializeCellPresence address preloadedRootFSes true
  return ⟨http, https, presence⟩

end RepConfig

/-! ## The client

How the factory of `client.go` chooses between the two addresses it is given. -/

namespace TLSConfig

variable (config : TLSConfig)

end TLSConfig

/-- A cell that requires TLS and has the legacy endpoints. -/
def RepConfig.sample : RepConfig where
  advertiseDomain := "cell.service.cf.internal"
  cellID := "cell_z1-0"
  enableLegacyAPIServer := true
  listenAddr := "0.0.0.0:1800"
  listenAddrSecurable := "0.0.0.0:1801"
  lockRetryInterval := 0
  lockTTL := 0
  optionalPlacementTags := []
  placementTags := []
  requireTLS := true
  supportedProviders := []
  zone := "zone"

end CellRep
