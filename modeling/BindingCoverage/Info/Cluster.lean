import BindingCoverage.Info.Query
import BindingCoverage.Json.Decoder

/-!
# Cluster info

Asks a service for the clusters it knows. How the request gets there is up to the caller.
-/

namespace BindingCoverage.Info

/-- One known cluster. -/
structure Cluster where
  id : String := ""
  deriving DecidableEq, Repr

structure ClusterInfo where
  clusters : List Cluster := []
  deriving DecidableEq, Repr

namespace Cluster

def toJson (c : Cluster) : Json := .object [("cluster_id", .string c.id)]

def record : Json.Record Cluster where
  name := "struct InfoItem"
  initial := {}
  fields := [
    ⟨"cluster_id", false, fun _ depth c => do
      let (v, c) ← Json.Decoder.string "a string" depth c
      return (⟨v⟩, c)⟩]

end Cluster

namespace ClusterInfo

def toJson (i : ClusterInfo) : Json := .object [("dummy", .array (i.clusters.map (·.toJson)))]

def record : Json.Record ClusterInfo where
  name := "struct Info"
  initial := {}
  fields := [
    ⟨"dummy", false, fun _ depth c => do
      let (v, c) ← Json.Decoder.list Cluster.record.decoder depth c
      return (⟨v⟩, c)⟩]

def ofJson (text : List UInt8) : Except Json.Error ClusterInfo :=
  Json.Decoder.run record.decoder text

/-- The record as it describes itself. -/
def shape (i : ClusterInfo) : Shape :=
  .map [(.text "dummy", .list (i.clusters.map fun c => .map [(.text "cluster_id", .text c.id)]))]

end ClusterInfo

/-- Where the service answers. -/
def path : String := "/info"

structure Request where
  method : String
  path : String
  params : List (String × String)
  deriving DecidableEq, Repr

inductive Error where
  | transport (text : String)
  | status (code : UInt16) (body : String)
  | decode (body : String) (e : Json.Error)
  | params (e : ShapeError)
  deriving DecidableEq, Repr

def Error.message : Error → String
  | .transport text => "transport error: " ++ text
  | .status code body => s!"request failed with status {code}: {body}"
  | .decode body e => s!"failed to unmarshal response. {body}. {e.message}"
  | .params e => "failed to encode request parameters: " ++ e.message

/-- Asks with the fields of `info` as parameters; `call` carries the request and brings the body of
the answer. -/
def fetch {m : Type → Type} [Monad m] (call : Request → ExceptT Error m (List UInt8))
    (info : ClusterInfo) : ExceptT Error m ClusterInfo := do
  let params ← (params info.shape).mapError Error.params
  let body ← call ⟨"GET", path, params⟩
  (ClusterInfo.ofJson body).mapError fun e => Error.decode (Utf8.lossy body) e

end BindingCoverage.Info
