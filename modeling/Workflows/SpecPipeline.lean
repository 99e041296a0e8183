import Workflows.SpecValidator
import Workflows.DagBuild
/-! From a YAML spec to a DAG engine: `ParseYAML` after its decoder, which validates the spec,
`ConvertYAMLToWorkflowDefinition` of the management service, and the orchestrator's
`buildDAGEngineFromDefinition`. `Validate` checks what the builder needs of the graph (distinct
node ids, dependencies that name nodes), so a spec it accepts reaches an engine with exactly its
nodes and its dependency relation; it also accepts `shell` executors, which the builder refuses. -/
namespace Workflows.Spec
open Registry DagGraph

/-- `ParseYAML` once the YAML decoder has run: its error wrapped, then `Validate`. -/
def parseYAML (decoded : Except String WorkflowSpec) : Except String WorkflowSpec := do
  let ws ← decoded.mapError ("failed to parse YAML: " ++ ·)
  match ws.validate with
  | some err => throw ("validation failed: " ++ err)
  | none => pure ws

def NodeSpec.toDefinition (node : NodeSpec) : NodeDefinition := ⟨node.id,node.dependencies,node.executor.type,[]⟩

def convertYAMLToWorkflowDefinition : Option WorkflowSpec → Except String WorkflowDefinition
  | none => .error "yaml spec is nil"
  | some ws => .ok ⟨ws.spec.nodes.map NodeSpec.toDefinition⟩

theorem parseYAMLOk {decoded : Except String WorkflowSpec} {ws : WorkflowSpec} :
    parseYAML decoded = .ok ws ↔ decoded = .ok ws ∧ ws.Valid := by
  cases decoded with
  | error msg => simp [parseYAML,Except.mapError,bind,Except.bind]
  | ok ws' =>
    cases valid : ws'.validate with
    | none =>
      simp only [parseYAML,Except.mapError,valid,bind,Except.bind,pure,Except.pure,Except.ok.injEq]
      exact ⟨fun same => ⟨same,same ▸ validateNil.mp valid⟩,And.left⟩
    | some err =>
      simp only [parseYAML,Except.mapError,valid,bind,Except.bind,throw,throwThe,MonadExceptOf.throw]
      refine ⟨nofun,fun ⟨same,good⟩ => ?_⟩
      rw [Except.ok.inj same,validateNil.mpr good] at valid
      cases valid

theorem parseYAMLError {decoded : Except String WorkflowSpec} {err : String} :
    parseYAML decoded = .error err ↔ (∃ msg, decoded = .error msg ∧ err = "failed to parse YAML: " ++ msg) ∨
      ∃ ws, decoded = .ok ws ∧ ws.errors ≠ [] ∧ err = "validation failed: validation failed: " ++ "; ".intercalate ws.errors := by
  cases decoded with
  | error msg =>
    simp only [parseYAML,Except.mapError,bind,Except.bind,Except.error.injEq]
    simp only [exists_eq_left',reduceCtorEq,false_and,exists_false,or_false]
    exact eq_comm
  | ok ws =>
    unfold parseYAML WorkflowSpec.validate
    by_cases none : ws.errors = []
    · simp [Except.mapError,none,bind,Except.bind,pure,Except.pure]
    · have twice : "validation failed: " ++ ("validation failed: " ++ "; ".intercalate ws.errors) =
          "validation failed: validation failed: " ++ "; ".intercalate ws.errors := by
        rw [← String.append_assoc]; rfl
      simp only [Except.mapError,List.length_pos.mpr none,bind,Except.bind,throw,throwThe,MonadExceptOf.throw,
        if_true,Except.error.injEq,twice]
      simp only [reduceCtorEq,false_and,exists_false,Except.ok.injEq,exists_eq_left',false_or]
      exact ⟨fun same => ⟨none,same.symm⟩,fun ⟨_,same⟩ => same.symm⟩

theorem foldAddNodeDefinitionsError {engine : DAGEngine} {nodeDefs : List NodeDefinition} {err : String}
    (failed : nodeDefs.foldlM addNodeDefinition engine = .error err) : ∃ d ∈ nodeDefs, executorFor d = .error err := by
  induction nodeDefs generalizing engine with
  | nil => cases failed
  | cons d rest ih =>
    rw [List.foldlM_cons] at failed
    cases ex : executorFor d with
    | error msg =>
      simp only [addNodeDefinition,ex,bind,Except.bind] at failed
      cases failed; exact ⟨d,List.mem_cons_self _ _,ex⟩
    | ok u =>
      simp only [addNodeDefinition,ex,bind,Except.bind,pure,Except.pure] at failed
      obtain ⟨d',member,bad⟩ := ih failed
      exact ⟨d',List.mem_cons_of_mem _ member,bad⟩

theorem executorForValid {node : NodeSpec} (valid : node.validate = none) {err : String}
    (failed : executorFor node.toDefinition = .error err) : err = "shell executor not yet implemented" := by
  have supported : node.executor.type ∈ ["lua","shell"] := by
    unfold NodeSpec.validate ExecutorSpec.validate at valid
    split_ifs at valid <;> simp_all
  simp only [executorFor,NodeSpec.toDefinition] at failed
  split_ifs at failed with lua shell
  · cases failed; rfl
  · simp [lua,shell] at supported

theorem convertedNodes (ws : WorkflowSpec) :
    (ws.spec.nodes.map NodeSpec.toDefinition).map NodeDefinition.toNode =
      ws.spec.nodes.map fun n => newNode n.id n.dependencies := by
  simp only [List.map_map]; rfl

theorem validSpecEngine {ws : WorkflowSpec} (valid : ws.Valid) (lua : ∀ n ∈ ws.spec.nodes, n.executor.type = "lua") :
    ∃ e, buildDAGEngineFromDefinition ⟨ws.spec.nodes.map NodeSpec.toDefinition⟩ = .ok e ∧
      e.nodes.map (fun n => (n.id,n.dependencies,n.readyCounter)) =
        ws.spec.nodes.map (fun n => (n.id,n.dependencies,(n.dependencies.length : Int))) ∧
      Finalised e ∧ ∀ p c, e.DependsOn p c ↔ ws.spec.DependsOn p c := by
  set e₀ := newDAGEngine.addNodes (ws.spec.nodes.map fun n => newNode n.id n.dependencies)
  have folded : (ws.spec.nodes.map NodeSpec.toDefinition).foldlM addNodeDefinition newDAGEngine = .ok e₀ := by
    refine foldAddNodeDefinitions.mpr ⟨fun d member => ?_,by rw [convertedNodes]⟩
    obtain ⟨n,inNodes,rfl⟩ := List.mem_map.mp member
    exact lua n inNodes
  have ids : (ws.spec.nodes.map fun n => newNode n.id n.dependencies).map Node.id = ws.spec.nodes.map (·.id) := by
    simp only [List.map_map]; rfl
  have nodes : e₀.nodes = ws.spec.nodes.map fun n => newNode n.id n.dependencies := by
    rw [addNodesAccepted,acceptedOfNodup (by simpa [ids] using valid.distinct)]; rfl
  have distinct : e₀.ids.Nodup := by rw [DAGEngine.ids,nodes,ids]; exact valid.distinct
  have closed : ∀ n ∈ e₀.nodes, ∀ p ∈ n.dependencies, p ∈ e₀.ids := by
    rw [DAGEngine.ids,nodes,ids]
    intro n member p dep
    obtain ⟨m,inSpec,rfl⟩ := List.mem_map.mp member
    exact valid.closed m inSpec p dep
  obtain ⟨e,built⟩ : ∃ e, e₀.preprocessDAG = .ok e := by
    cases h : e₀.preprocessDAG with
    | error msg =>
      obtain ⟨n,member,p,dep,absent⟩ := preprocessDAGError.mp ⟨msg,h⟩
      exact absurd (closed n member p dep) absent
    | ok e => exact ⟨e,rfl⟩
  have fin : Finalised e := finalisedOfPreprocess distinct (fun n member => by
    rw [nodes] at member; obtain ⟨m,-,rfl⟩ := List.mem_map.mp member; exact ⟨rfl,rfl⟩) built
  have shape : e.nodes.map (fun n => (n.id,n.dependencies,n.readyCounter)) =
      ws.spec.nodes.map (fun n => (n.id,n.dependencies,(n.dependencies.length : Int))) := by
    rw [(preprocessDAGOk.mp built).2,nodes,List.map_map,List.map_map]; rfl
  have pairs : e.nodes.map (fun n => (n.id,n.dependencies)) = ws.spec.nodes.map fun n => (n.id,n.dependencies) := by
    have := congrArg (List.map fun t : String × List String × Int => (t.1,t.2.1)) shape
    simpa only [List.map_map] using this
  refine ⟨e,by simp [buildDAGEngineFromDefinition,folded,bind,Except.bind,built,pure,Except.pure],shape,fin,
    fun p c => ?_⟩
  have graph : (∃ n ∈ e.nodes, n.id = c ∧ p ∈ n.dependencies) ↔ ws.spec.DependsOn p c := by
    have same := congrArg (fun L : List (String × List String) => ∃ pr ∈ L, pr.1 = c ∧ p ∈ pr.2) pairs
    simpa [WorkflowSpecDef.DependsOn] using same
  exact (DAGEngine.memDepsIff fin.distinct).trans graph

/-- Whatever the decoder produced, a spec `ParseYAML` returns converts to a definition that the
builder turns into an engine with exactly the spec's nodes, counters and dependency relation,
when every executor is Lua; otherwise the builder fails, and always with the shell error. -/
theorem parsedSpecBuilds {decoded : Except String WorkflowSpec} {ws : WorkflowSpec} (parsed : parseYAML decoded = .ok ws) :
    ((∀ n ∈ ws.spec.nodes, n.executor.type = "lua") →
      ∃ e, (convertYAMLToWorkflowDefinition (some ws) >>= buildDAGEngineFromDefinition) = .ok e ∧
        e.nodes.map (fun n => (n.id,n.dependencies,n.readyCounter)) =
          ws.spec.nodes.map (fun n => (n.id,n.dependencies,(n.dependencies.length : Int))) ∧
        Finalised e ∧ ∀ p c, e.DependsOn p c ↔ ws.spec.DependsOn p c) ∧
    ((∃ n ∈ ws.spec.nodes, n.executor.type ≠ "lua") →
      (convertYAMLToWorkflowDefinition (some ws) >>= buildDAGEngineFromDefinition) =
        .error "shell executor not yet implemented") := by
  have valid := (parseYAMLOk.mp parsed).2
  refine ⟨validSpecEngine valid,fun ⟨n,member,notLua⟩ => ?_⟩
  show buildDAGEngineFromDefinition ⟨ws.spec.nodes.map NodeSpec.toDefinition⟩ = _
  cases folded : (ws.spec.nodes.map NodeSpec.toDefinition).foldlM addNodeDefinition newDAGEngine with
  | error err =>
    obtain ⟨d,inDefs,failed⟩ := foldAddNodeDefinitionsError folded
    obtain ⟨m,inSpec,rfl⟩ := List.mem_map.mp inDefs
    simp [buildDAGEngineFromDefinition,folded,bind,Except.bind,executorForValid (valid.nodesValid m inSpec) failed]
  | ok engine =>
    exact absurd ((foldAddNodeDefinitions.mp folded).1 _ (List.mem_map_of_mem _ member)) notLua

theorem cyclicSpecBuilds : parseYAML (.ok cyclicSpec) = .ok cyclicSpec ∧
    ∃ e, (convertYAMLToWorkflowDefinition (some cyclicSpec) >>= buildDAGEngineFromDefinition) = .ok e ∧ ¬e.Acyclic := by
  have parsed : parseYAML (.ok cyclicSpec) = .ok cyclicSpec := rfl
  obtain ⟨e,built,-,-,graph⟩ := (parsedSpecBuilds parsed).1 (by decide)
  have ab : e.DependsOn "a" "b" := (graph _ _).mpr ⟨_,List.mem_cons_of_mem _ (List.mem_singleton_self _),rfl,List.mem_singleton_self _⟩
  have ba : e.DependsOn "b" "a" := (graph _ _).mpr ⟨_,List.mem_cons_self _ _,rfl,List.mem_singleton_self _⟩
  exact ⟨parsed,e,built,fun acyclic => acyclic "a" (.head ab (.single ba))⟩

end Workflows.Spec
