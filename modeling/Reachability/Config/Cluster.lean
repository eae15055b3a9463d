import Reachability.Config.Agent

/-!
# Cluster layout

The cluster layout names what the probes aim at: the number of nodes, each node's host
name and internal address, the agents' pods with their node, name, address and port, and
the API server, both as seen from inside the cluster and from outside. Nodes and pods need
every field; the counts and lists default to zero and empty, the API servers to unset.
-/

namespace Reachability.Config

open Reachability.Yaml

/-- A node of the cluster. -/
structure Node where
  hostname : String
  internalIp : String
deriving DecidableEq, Repr

/-- The pod of an agent and where it listens. -/
structure PodEndpoint where
  nodename : String
  podname : String
  podIp : String
  port : Nat
deriving DecidableEq, Repr

/-- A server by host name, address and port. -/
structure Endpoint where
  hostname : String
  ip : String
  port : Nat
deriving DecidableEq, Repr

/-- The cluster layout. -/
structure Cluster where
  nodeCount : Nat := 0
  nodes : List Node := []
  podEndpoints : List PodEndpoint := []
  internalApiServer : Option Endpoint := none
  apiServer : Option Endpoint := none
deriving DecidableEq, Repr

/-- Text fields of a record read so far, by name. -/
abbrev TextFields := List (String × String)

/-- Reads a record whose fields are all text but for a port. -/
def readAddressed {β : Type} (name : String) (fields : List String) (p : Path)
    (finish : TextFields → Option Nat → Except DecodeError β) : Decoder β :=
  readRecord name fields p (([], none) : TextFields × Option Nat)
    (fun (texts, port) key vp =>
      if key == "port" then do
        let v ← readCount "u16" (Nat.pow 2 16) vp
        pure (texts, some v)
      else do
        let v ← readText "a string" vp
        pure (texts ++ [(key, v)], port))
    (fun (texts, port) => finish texts port)

/-- A text field read, or the error that it is missing. -/
def TextFields.need (fs : TextFields) (name : String) : Except DecodeError String :=
  requireField name (fs.lookup name)

/-- Reads a node. -/
def Node.decode (p : Path) : Decoder Node :=
  readAddressed "Node" ["hostname", "internalIP"] p fun fs _ => do
    let hostname ← fs.need "hostname"
    let internalIp ← fs.need "internalIP"
    pure { hostname, internalIp }

/-- Reads an agent's pod. -/
def PodEndpoint.decode (p : Path) : Decoder PodEndpoint :=
  readAddressed "PodEndpoint" ["nodename", "podname", "podIP", "port"] p fun fs port => do
    let nodename ← fs.need "nodename"
    let podname ← fs.need "podname"
    let podIp ← fs.need "podIP"
    let port ← requireField "port" port
    pure { nodename, podname, podIp, port }

/-- Reads a server. -/
def Endpoint.decode (p : Path) : Decoder Endpoint :=
  readAddressed "Endpoint" ["hostname", "ip", "port"] p fun fs port => do
    let hostname ← fs.need "hostname"
    let ip ← fs.need "ip"
    let port ← requireField "port" port
    pure { hostname, ip, port }

/-- Reads a cluster layout. -/
def Cluster.decode (p : Path) : Decoder Cluster :=
  readRecord "ClusterConfig"
    ["nodeCount", "nodes", "podEndpoints", "internalKubeAPIServer", "kubeAPIServer"] p
    ({} : Cluster)
    (fun c key vp =>
      if key == "nodeCount" then do
        let v ← readCount "usize" (Nat.pow 2 64) vp
        pure { c with nodeCount := v }
      else if key == "nodes" then do
        let v ← readList vp Node.decode
        pure { c with nodes := v }
      else if key == "podEndpoints" then do
        let v ← readList vp PodEndpoint.decode
        pure { c with podEndpoints := v }
      else if key == "internalKubeAPIServer" then do
        let v ← readOption vp Endpoint.decode
        pure { c with internalApiServer := v }
      else do
        let v ← readOption vp Endpoint.decode
        pure { c with apiServer := v })
    .ok

/-- A node as JSON. -/
def Node.toJson (n : Node) : Json :=
  .obj [("hostname", .str n.hostname), ("internalIP", .str n.internalIp)]

/-- An agent's pod as JSON. -/
def PodEndpoint.toJson (e : PodEndpoint) : Json :=
  .obj [("nodename", .str e.nodename), ("podname", .str e.podname), ("podIP", .str e.podIp),
    ("port", .int e.port)]

/-- A server as JSON. -/
def Endpoint.toJson (e : Endpoint) : Json :=
  .obj [("hostname", .str e.hostname), ("ip", .str e.ip), ("port", .int e.port)]

/-- A cluster layout as JSON; unset servers are left out. -/
def Cluster.toJson (c : Cluster) : Json :=
  .obj ([("nodeCount", .int c.nodeCount), ("nodes", .arr (c.nodes.map Node.toJson)),
      ("podEndpoints", .arr (c.podEndpoints.map PodEndpoint.toJson))] ++
    optionalFields [("internalKubeAPIServer", c.internalApiServer.map Endpoint.toJson),
      ("kubeAPIServer", c.apiServer.map Endpoint.toJson)])

end Reachability.Config
