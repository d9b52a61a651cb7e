import TypedClient.Extraction.Operations

namespace TypedClient

open Extraction

def Extraction.declareAll (config : Config) (entries : List ResourceEntry) :
    Except Failure (Registry × List PendingClass) :=
  entries.foldlM (declareResource config) ({ regions := Region.all }, [])

def extract (config : Config) (doc : Document) : Except Failure Registry := do
  let entries ← resources config doc
  let (declared, pending) ← declareAll config entries
  let types := declared.classNamed?
  let classes ← pending.foldlM (readMembers config types) declared
  entries.zipIdx.foldlM (addEndpoints config types) classes

end TypedClient
