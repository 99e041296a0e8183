import Workflows.DagGraph
import Workflows.VersionRegistry
/-! `buildDAGEngineFromDefinition` of the orchestrator. For each node definition in order it
picks the executor, stopping with an error on any `ExecutorType` but `lua`, makes the node with
`NewNode` and passes it to `AddNode`, whose error it drops; then it runs `PreprocessDAG`. A
definition that repeats a node id therefore loses every later node of that id, with its
dependency list, and still yields an engine. -/
namespace Workflows.DagGraph

/-! ### What `AddNode` keeps -/

/-- The nodes that `AddNode` accepts, in order, from `nodes` on an engine holding the ids
`seen`: each node whose id is neither in `seen` nor taken by an earlier accepted node. -/
def accepted : List String → List Node → List Node
  | _, [] => []
  | seen, n :: rest => if n.id ∈ seen then accepted seen rest else n :: accepted (seen ++ [n.id]) rest

theorem addNodesAccepted (e : DAGEngine) (nodes : List Node) :
    (e.addNodes nodes).nodes = e.nodes ++ accepted e.ids nodes := by
  induction nodes generalizing e with
  | nil => simp [DAGEngine.addNodes,accepted]
  | cons n rest ih =>
    have step : e.addNodes (n :: rest) = (match e.addNode n with | .ok e' => e' | .error _ => e).addNodes rest := rfl
    have taken : e.nodes.any (·.id == n.id) = true ↔ n.id ∈ e.ids := by simp [DAGEngine.ids]
    rw [step,accepted]
    by_cases present : n.id ∈ e.ids
    · simp only [DAGEngine.addNode,taken.mpr present,present,if_true,ih]
    · simp only [DAGEngine.addNode,mt taken.mp present,present,if_false,ih]
      simp [DAGEngine.ids]

theorem acceptedOfNodup {seen : List String} {nodes : List Node} (distinct : (seen ++ nodes.map Node.id).Nodup) :
    accepted seen nodes = nodes := by
  induction nodes generalizing seen with
  | nil => rfl
  | cons n rest ih =>
    have fresh : n.id ∉ seen := fun member =>
      List.disjoint_of_nodup_append distinct member (List.mem_map_of_mem _ (List.mem_cons_self n rest))
    rw [accepted,if_neg fresh,ih (by simpa using distinct)]

end Workflows.DagGraph

namespace Workflows.Registry
open DagGraph

def executorFor (nodeDef : NodeDefinition) : Except String Unit :=
  if nodeDef.executorType = "lua" then .ok ()
  else if nodeDef.executorType = "shell" then .error "shell executor not yet implemented"
  else .error ("unsupported executor type: " ++ nodeDef.executorType)

def addNodeDefinition (engine : DAGEngine) (nodeDef : NodeDefinition) : Except String DAGEngine := do
  executorFor nodeDef
  pure (engine.addNodes [newNode nodeDef.nodeID nodeDef.dependencies])

def buildDAGEngineFromDefinition (definition : WorkflowDefinition) : Except String DAGEngine := do
  let engine ← definition.nodes.foldlM addNodeDefinition newDAGEngine
  match engine.preprocessDAG with
  | .ok engine => pure engine
  | .error err => throw ("failed to preprocess DAG: " ++ err)

def NodeDefinition.toNode (nodeDef : NodeDefinition) : Node := newNode nodeDef.nodeID nodeDef.dependencies

theorem executorForOk (nodeDef : NodeDefinition) : executorFor nodeDef = .ok () ↔ nodeDef.executorType = "lua" := by
  unfold executorFor
  split_ifs <;> simp_all

theorem foldAddNodeDefinitions {engine engine' : DAGEngine} {nodeDefs : List NodeDefinition} :
    nodeDefs.foldlM addNodeDefinition engine = .ok engine' ↔
      (∀ d ∈ nodeDefs, d.executorType = "lua") ∧ engine' = engine.addNodes (nodeDefs.map NodeDefinition.toNode) := by
  induction nodeDefs generalizing engine with
  | nil =>
    show Except.ok engine = .ok engine' ↔ _
    exact ⟨fun same => ⟨nofun,(Except.ok.inj same).symm⟩,fun ⟨_,same⟩ => same ▸ rfl⟩
  | cons d rest ih =>
    have grown : engine.addNodes ((d :: rest).map NodeDefinition.toNode) =
        (engine.addNodes [d.toNode]).addNodes (rest.map NodeDefinition.toNode) := rfl
    rw [List.foldlM_cons,grown,List.forall_mem_cons]
    cases ex : executorFor d with
    | error err =>
      have notLua : d.executorType ≠ "lua" := fun lua => by rw [(executorForOk d).mpr lua] at ex; cases ex
      simp only [addNodeDefinition,ex,bind,Except.bind,notLua,false_and]
      exact ⟨nofun,False.elim⟩
    | ok u =>
      simp only [addNodeDefinition,ex,bind,Except.bind,pure,Except.pure,(executorForOk d).mp ex,true_and]
      exact ih

/-- A built engine has one node for the first definition of each id, in order, with that
definition's id and dependencies and a counter equal to their number; the later definitions of
an id are dropped. -/
theorem buildDAGEngineNodes {definition : WorkflowDefinition} {e : DAGEngine}
    (ok : buildDAGEngineFromDefinition definition = .ok e) :
    (∀ d ∈ definition.nodes, d.executorType = "lua") ∧
      e.nodes.map (fun n => (n.id,n.dependencies,n.readyCounter)) =
        (accepted [] (definition.nodes.map NodeDefinition.toNode)).map fun n => (n.id,n.dependencies,n.readyCounter) := by
  simp only [buildDAGEngineFromDefinition,bind,Except.bind] at ok
  split at ok
  · cases ok
  · rename_i engine added
    obtain ⟨lua,rfl⟩ := foldAddNodeDefinitions.mp added
    split at ok
    · rename_i built
      cases ok
      refine ⟨lua,?_⟩
      rw [(preprocessDAGOk.mp built).2,List.map_map,addNodesAccepted]
      rfl
    · cases ok

def twinDefinition : WorkflowDefinition := ⟨[⟨"a",[],"lua",[]⟩,⟨"a",["a"],"lua",[]⟩]⟩

theorem twinDefinitionBuilds : ∃ e, buildDAGEngineFromDefinition twinDefinition = .ok e ∧
    ((∀ d ∈ twinDefinition.nodes, d.executorType = "lua") ∧
      e.nodes.map (fun n => (n.id,n.dependencies,n.readyCounter)) =
        (accepted [] (twinDefinition.nodes.map NodeDefinition.toNode)).map fun n => (n.id,n.dependencies,n.readyCounter)) :=
  ⟨_,rfl,buildDAGEngineNodes rfl⟩

theorem duplicateNodeDropped :
    ∃ e, buildDAGEngineFromDefinition twinDefinition = .ok e ∧ twinDefinition.nodes.length = 2 ∧
      e.nodes.map (fun n => (n.id,n.dependencies,n.readyCounter)) = [("a",[],0)] :=
  ⟨_,rfl,rfl,rfl⟩

end Workflows.Registry
