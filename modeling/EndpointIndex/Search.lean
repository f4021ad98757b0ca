import EndpointIndex.Endpoint.Basic
import EndpointIndex.Text.Case
import EndpointIndex.Text.Occurs

/-!
# Search

Endpoints ranked for a query. A field counts most when it is the query, less when it starts with it
and least when it contains it; the fields' scores add up. Of several endpoints with the same type,
route and verb the best remains, and equal scores keep their order.
-/

namespace EndpointIndex.Search

/-- What a field is worth by how it meets the query. -/
structure Weights where
  exact : Nat
  start : Nat
  inside : Nat

def methodWeights : Weights := ⟨100, 80, 60⟩

def pathWeights : Weights := ⟨90, 70, 50⟩

def typeWeight : Nat := 40

def Weights.score (w : Weights) (value query : List Char) : Nat :=
  if value = query then w.exact
  else if query.isPrefixOf value then w.start
  else if Text.occursIn query value then w.inside
  else 0

/-- The relevance of an endpoint for a query in lower case. -/
def score (query : String) (e : Endpoint) : Nat :=
  let q := query.toList
  methodWeights.score (Text.lower e.methodName).toList q
    + pathWeights.score (Text.lower e.fullPath).toList q
    + (if Text.contains (Text.lower e.typeName) query then typeWeight else 0)

/-- What a result shows of an endpoint, wherever it is declared. -/
structure Route where
  typeName : String
  fullPath : String
  verb : Verb
  deriving DecidableEq, Repr

def route (e : Endpoint) : Route := ⟨e.typeName, e.fullPath, e.verb⟩

/-- Keeps of the endpoints with one route the first, unless the route has been seen before. -/
def firsts (seen : List Route) : List Endpoint → List Endpoint
  | [] => []
  | e :: r => if route e ∈ seen then firsts seen r else e :: firsts (route e :: seen) r

/-- The endpoints with a positive score, the highest first; equal scores keep their order. -/
def ranked (query : String) (endpoints : List Endpoint) : List Endpoint :=
  let scored := (endpoints.map fun e => (score query e, e)).filter fun p => 0 < p.1
  (scored.mergeSort fun a b => b.1 ≤ a.1).map Prod.snd

def normalize (query : String) : String := Text.lower (Text.strip query)

/-- The results for a query. A blank query has none. -/
def search (query : String) (endpoints : List Endpoint) : List Endpoint :=
  let q := normalize query
  if q.isEmpty then [] else firsts [] (ranked q endpoints)

end EndpointIndex.Search
