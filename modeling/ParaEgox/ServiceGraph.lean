import ParaEgox.Assoc
import ParaEgox.Keyed
import ParaEgox.Digest
import Mathlib.Data.List.Dedup
import Mathlib.Data.Prod.Lex

/-!
# ServiceGraph — the order of services by their dependencies

The validator counts, for every service, the providers that have not started; a service is ready when there are none left, and
the least ready one starts next.  If some service never gets ready, a depth-first search from the least service names a cycle.
A missing map entry and a subtraction below zero would be panics of the source.
-/
namespace ParaEgox
namespace ServiceGraph

open Check

structure ServiceDependency where
  provider : Ref16
  consumer : Ref16
  deriving DecidableEq

structure ServiceDependencyOrder where
  startup : List Ref16
  shutdown : List Ref16
  deriving DecidableEq

inductive ServiceDependencyError
  | tooManyVertices
  | tooManyEdges
  | duplicateDependency
  | cycle (witness : List Ref16)
  deriving DecidableEq

inductive ServiceFault
  | error (e : ServiceDependencyError)
  | panic
  deriving DecidableEq

abbrev Res := Except ServiceFault

def maxServiceDependencyVertices : Nat := 256
def maxServiceDependencyEdges : Nat := 1024

/-- The elements of a `BTreeSet` of these references. -/
def setOf (xs : List Ref16) : List Ref16 := Keyed.sortBy id xs.dedup

/-- `set.insert(x)` on the elements of a `BTreeSet`. -/
def insertSet (x : Ref16) (xs : List Ref16) : List Ref16 := if x ∈ xs then xs else Keyed.insert id x xs

def nodesOf (dependencies : List ServiceDependency) : List Ref16 :=
  setOf (dependencies.flatMap fun d => [d.provider, d.consumer])

def edgesOf (dependencies : List ServiceDependency) : List ServiceDependency :=
  Keyed.sortBy (fun d => toLex (d.provider, d.consumer)) dependencies.dedup

/-- `outgoing.get(provider)`, empty where there is no entry. -/
def outgoing (edges : List ServiceDependency) (provider : Ref16) : List Ref16 :=
  (edges.filter fun d => d.provider = provider).map (·.consumer)

/-! ## Starting what is ready -/

structure Startup where
  ready : List Ref16
  indegree : List (Ref16 × Nat)
  startup : List Ref16

/-- `*value += 1` at the consumer of an edge. -/
def countEdge (indegree : List (Ref16 × Nat)) (edge : ServiceDependency) : Res (List (Ref16 × Nat)) := do
  let value ← okOr (Assoc.get edge.consumer indegree) .panic
  pure (Assoc.put edge.consumer (value + 1) indegree)

def release (s : Startup) (consumer : Ref16) : Res Startup := do
  let degree ← okOr (Assoc.get consumer s.indegree) .panic
  rejectIf (degree = 0) .panic
  pure { s with indegree := Assoc.put consumer (degree - 1) s.indegree,
                ready := if degree - 1 = 0 then insertSet consumer s.ready else s.ready }

/-- `while let Some(node) = ready.pop_first()`.  A service gets ready once, so there are as many turns as services. -/
def startReady (edges : List ServiceDependency) : Nat → Startup → Res Startup
  | 0, s => .ok s
  | fuel + 1, s => match s.ready with
    | [] => .ok s
    | node :: ready => do
      let s ← scan release { s with ready, startup := s.startup ++ [node] } (outgoing edges node)
      startReady edges fuel s

/-! ## Naming a cycle -/

structure Frame where
  node : Ref16
  nextIndex : Nat

/-- The search: what was entered (1) or left (2), the path with the position of its vertices, and the frames above it. -/
structure Search where
  state : List (Ref16 × Nat)
  path : List Ref16
  pathPositions : List (Ref16 × Nat)
  frames : List Frame

def Search.enter (s : Search) (node : Ref16) : Search :=
  { state := Assoc.put node 1 s.state, path := s.path ++ [node],
    pathPositions := Assoc.put node s.path.length s.pathPositions, frames := ⟨node, 0⟩ :: s.frames }

def Search.turn (edges : List ServiceDependency) (s : Search) (frame : Frame) (frames : List Frame) :
    Res (List Ref16 ⊕ Search) :=
  match (outgoing edges frame.node)[frame.nextIndex]? with
  | some next =>
    let s := { s with frames := { frame with nextIndex := frame.nextIndex + 1 } :: frames }
    match (Assoc.get next s.state).getD 0 with
    | 0 => .ok (.inr (s.enter next))
    | 1 => do
      let start ← okOr (Assoc.get next s.pathPositions) .panic
      pure (.inl (s.path.drop start ++ [next]))
    | _ => .ok (.inr s)
  | none => do
    rejectIf (s.path = []) .panic
    pure (.inr { state := Assoc.put frame.node 2 s.state, path := s.path.dropLast,
                 pathPositions := Assoc.erase frame.node s.pathPositions, frames })

/-- `while let Some(frame) = frames.last_mut()`.  Every turn takes an edge or leaves a vertex. -/
def Search.walk (edges : List ServiceDependency) : Nat → Search → Res (List Ref16 ⊕ Search)
  | 0, s => .ok (.inr s)
  | fuel + 1, s => match s.frames with
    | [] => .ok (.inr s)
    | frame :: frames => do
      match ← s.turn edges frame frames with
      | .inl witness => .ok (.inl witness)
      | .inr s => s.walk edges fuel

/-- `for root in nodes`; the end of the search without a cycle is a panic. -/
def Search.fromRoots (edges : List ServiceDependency) (fuel : Nat) : List Ref16 → Search → Res (List Ref16)
  | [], _ => .error .panic
  | root :: roots, s =>
    if (Assoc.get root s.state).getD 0 ≠ 0 then s.fromRoots edges fuel roots
    else do
      match ← (s.enter root).walk edges fuel with
      | .inl witness => .ok witness
      | .inr s => s.fromRoots edges fuel roots

def stableCycleWitness (nodes : List Ref16) (edges : List ServiceDependency) : Res (List Ref16) :=
  Search.fromRoots edges (nodes.length + edges.length + 1) nodes ⟨[], [], [], []⟩

/-! ## The validator -/

def validateServiceDependencies (dependencies : List ServiceDependency) : Res ServiceDependencyOrder := do
  rejectIf (maxServiceDependencyEdges < dependencies.length) (.error .tooManyEdges)
  let nodes := nodesOf dependencies
  let edges := edgesOf dependencies
  rejectIf (maxServiceDependencyVertices < nodes.length) (.error .tooManyVertices)
  rejectIf (edges.length ≠ dependencies.length) (.error .duplicateDependency)
  let indegree ← scan countEdge (nodes.map fun node => (node, 0)) edges
  let ready := (indegree.filter fun entry => entry.2 = 0).map Prod.fst
  let s ← startReady edges nodes.length ⟨ready, indegree, []⟩
  if s.startup.length ≠ nodes.length then do
    let witness ← stableCycleWitness nodes edges
    .error (.error (.cycle witness))
  else pure { startup := s.startup, shutdown := s.startup.reverse }

end ServiceGraph
end ParaEgox
