import Mathlib.Data.List.Nodup
import HibikiCore.Domain.Content
import HibikiCore.Domain.Errors

/-!
# Plan graphs

`validateDag` accepts a list of nodes and edges as the graph of a plan. The depth-first search for
a cycle keeps the nodes it is inside of apart from those it has left, as the source does. Each of
its calls takes a frame of the interpreter's stack; `frames` are left when the search starts, and
without one a call raises.
-/

namespace HibikiCore

structure PlanNode where
  workUnitId : String
  specVersion : Nat
  workType : String
  deriving DecidableEq, Repr

structure PlanEdge where
  fromWorkUnitId : String
  toWorkUnitId : String
  predicate : DependencyPredicate
  artifactHash : Option String
  deriving DecidableEq, Repr

/-- The version a node names; none, or zero, stands for the first. -/
def RawNode.version (n : RawNode) : Nat :=
  match n.specVersion with
  | some (v + 1) => v + 1
  | _ => 1

/-- A text, unless it is absent or empty. -/
def orElse (o : Option String) (fallback : String) : String := (o.filter (· ≠ "")).getD fallback

def RawNode.toPlanNode (n : RawNode) : PlanNode where
  workUnitId := n.workUnitId
  specVersion := n.version
  workType := orElse n.workType "EXECUTE"

def RawEdge.toPlanEdge (e : RawEdge) : PlanEdge where
  fromWorkUnitId := e.fromWorkUnitId
  toWorkUnitId := e.toWorkUnitId
  predicate := e.predicate.getD .done
  artifactHash := e.artifactHash

/-- What activation reads of a node: it looks the nodes up by their names, and leaves out those
whose name is empty. -/
def RawNode.asRead (n : RawNode) : RawNode :=
  if n.workUnitId = "" then
    { workUnitId := "", specVersion := n.specVersion, workType := n.workType }
  else n

/-- The workspace a node is executed in. -/
def RawNode.workspace (n : RawNode) : String := orElse n.workspaceId ("ws_" ++ n.workUnitId)

/-- A node that names no workspace has that of its unit. -/
theorem RawNode.asRead_workspace {n : RawNode} (h : n.workspaceId = none) :
    n.asRead.workspace = "ws_" ++ n.workUnitId := by
  rw [asRead]
  split
  · next hunnamed => rw [hunnamed, workspace, orElse]; rfl
  · rw [workspace, h, orElse]
    rfl

/-- Depth-first search from a node; the result are the nodes left so far. -/
def dfs (adj : String → List String) :
    Nat → List String → List String → String → Except Error (List String)
  | 0, _, _, _ => .error .recursion
  | frames + 1, visiting, visited, u =>
    if visiting.contains u then .error (.precondition "plan_cycle" "plan contains cycle")
    else if visited.contains u then .ok visited
    else do
      let visited ← (adj u).foldlM (dfs adj frames (u :: visiting)) visited
      return u :: visited

def PlanEdge.check (ids : List String) (e : PlanEdge) : Except Error Unit :=
  if !ids.contains e.fromWorkUnitId || !ids.contains e.toWorkUnitId then
    .error (.precondition "plan_dangling_edge" "dangling plan edge")
  else if e.predicate = .verdictPass ∧ (e.artifactHash.filter (· ≠ "")) = none then
    .error (.precondition "plan_missing_artifact_hash" "VERDICT_PASS requires artifact_hash")
  else .ok ()

def validateDag (frames : Nat) (nodes : List PlanNode) (edges : List PlanEdge) :
    Except Error Unit := do
  if nodes.isEmpty then throw (.precondition "plan_empty" "plan must contain at least one node")
  let ids := nodes.map PlanNode.workUnitId
  if ¬ ids.Nodup then throw (.precondition "plan_duplicate_node" "duplicate plan node")
  edges.forM (PlanEdge.check ids)
  let adj := fun u ↦ (edges.filter (·.fromWorkUnitId == u)).map PlanEdge.toWorkUnitId
  let _ ← ids.foldlM (dfs adj frames []) []

end HibikiCore
