import Mathlib.Algebra.Order.Ring.Nat
import Mathlib.Data.Fintype.Card
import Mathlib.Data.Fintype.List
import Mathlib.Order.WellFounded
import Mathlib.Logic.Relation
/-! The graph side of `dagengine`: `Node`, `NewNode`, `AddNode` and `PreprocessDAG`.
`Nodes` is a Go map; the list is one iteration order of it, keys are node ids. The `Task`
executor is left out here: the scheduler takes each outcome as it comes.
`AddNode` of a node whose id is taken leaves the engine as it was, which is also what
`buildDAGEngineFromDefinition` gets when it drops the error. -/
namespace Workflows.DagGraph

inductive Status where
  | pending | running | completed | failed
  deriving DecidableEq, Repr

structure Node where
  id : String
  dependencies : List String
  children : List String
  result : List (String × String)
  status : Status
  readyCounter : Int
  deriving DecidableEq, Repr

def newNode (id : String) (deps : List String) : Node :=
  ⟨id,deps,[],[],.pending,deps.length⟩

structure DAGEngine where
  nodes : List Node
  deriving DecidableEq, Repr

def newDAGEngine : DAGEngine := ⟨[]⟩

namespace DAGEngine

def ids (e : DAGEngine) : List String := e.nodes.map Node.id

def find? (e : DAGEngine) (id : String) : Option Node := e.nodes.find? (·.id == id)

def deps (e : DAGEngine) (id : String) : List String := ((e.find? id).map Node.dependencies).getD []

def children (e : DAGEngine) (id : String) : List String := ((e.find? id).map Node.children).getD []

def addNode (e : DAGEngine) (node : Node) : Except String DAGEngine :=
  if e.nodes.any (·.id == node.id) then .error ("node with ID \x27" ++ node.id ++ "\x27 already exists")
  else .ok ⟨e.nodes ++ [node]⟩

def addNodes (e : DAGEngine) (nodes : List Node) : DAGEngine :=
  nodes.foldl (fun e n => match e.addNode n with | .ok e' => e' | .error _ => e) e

end DAGEngine

def appendChild (parentID childID : String) (nodes : List Node) : List Node :=
  nodes.map fun n => if n.id = parentID then { n with children := n.children ++ [childID] } else n

def linkParents (childID : String) : List String → List Node → Except String (List Node)
  | [], nodes => .ok nodes
  | parentID :: rest, nodes =>
      if nodes.any (·.id == parentID) then linkParents childID rest (appendChild parentID childID nodes)
      else .error ("dependency error: node \x27" ++ childID ++ "\x27 depends on non-existent node \x27" ++
        parentID ++ "\x27")

def linkChildren : List (String × List String) → List Node → Except String (List Node)
  | [], nodes => .ok nodes
  | (childID, deps) :: rest, nodes => do linkChildren rest (← linkParents childID deps nodes)

/-- On an error Go leaves the lists half built; no caller runs such an engine, so the model
returns the error alone. -/
def DAGEngine.preprocessDAG (e : DAGEngine) : Except String DAGEngine := do
  let nodes ← linkChildren (e.nodes.map fun n => (n.id,n.dependencies))
    (e.nodes.map fun n => { n with children := [] })
  pure ⟨nodes⟩

/-! ### What a successful `PreprocessDAG` builds -/

def childrenIn (pairs : List (String × List String)) (parentID : String) : List String :=
  pairs.flatMap fun pr => List.replicate (pr.2.count parentID) pr.1

def extendChildren (f : String → List String) (nodes : List Node) : List Node :=
  nodes.map fun n => { n with children := n.children ++ f n.id }

@[simp] theorem extendChildrenIds (f : String → List String) (nodes : List Node) :
    (extendChildren f nodes).map Node.id = nodes.map Node.id := by
  simp [extendChildren]

theorem extendChildrenNil (nodes : List Node) : extendChildren (fun _ => []) nodes = nodes := by
  simp [extendChildren]

theorem extendChildrenTwice (f g : String → List String) (nodes : List Node) :
    extendChildren f (extendChildren g nodes) = extendChildren (fun id => g id ++ f id) nodes := by
  simp [extendChildren]

theorem appendChildExtends (parentID childID : String) (nodes : List Node) :
    appendChild parentID childID nodes =
      extendChildren (fun id => if id = parentID then [childID] else []) nodes := by
  refine List.map_congr_left fun n _ => ?_
  by_cases h : n.id = parentID <;> simp [h]

theorem clearedIds (nodes : List Node) :
    (nodes.map fun n => { n with children := [] }).map Node.id = nodes.map Node.id := by
  simp

theorem extendCleared (f : String → List String) (nodes : List Node) :
    extendChildren f (nodes.map fun n => { n with children := [] }) =
      nodes.map fun n => { n with children := f n.id } := by
  simp [extendChildren]

theorem linkParentsOk {childID : String} {deps : List String} {nodes nodes' : List Node} :
    linkParents childID deps nodes = .ok nodes' ↔
      (∀ p ∈ deps, p ∈ nodes.map Node.id) ∧
      nodes' = extendChildren (fun id => List.replicate (deps.count id) childID) nodes := by
  induction deps generalizing nodes with
  | nil => simp [linkParents,extendChildrenNil,eq_comm]
  | cons parentID rest ih =>
    by_cases present : parentID ∈ nodes.map Node.id
    · have any : nodes.any (·.id == parentID) = true := by simpa using present
      have ids : (appendChild parentID childID nodes).map Node.id = nodes.map Node.id := by
        rw [appendChildExtends,extendChildrenIds]
      have shape : (fun id => (if id = parentID then [childID] else []) ++
          List.replicate (rest.count id) childID) =
          fun id => List.replicate ((parentID :: rest).count id) childID := by
        funext id
        by_cases h : id = parentID
        · subst h; simp [List.count_cons,List.replicate_succ]
        · simp [List.count_cons,h,Ne.symm h]
      simp only [linkParents,any,if_true]
      rw [ih,ids,appendChildExtends,extendChildrenTwice,shape]
      simp only [List.forall_mem_cons,present,true_and]
    · have any : nodes.any (·.id == parentID) = false := by simpa using present
      simp only [linkParents,any,Bool.false_eq_true,if_false]
      exact ⟨fun h => (by cases h), fun ⟨all,_⟩ => absurd (all _ (List.mem_cons_self _ _)) present⟩

theorem linkChildrenOk {pairs : List (String × List String)} {nodes nodes' : List Node} :
    linkChildren pairs nodes = .ok nodes' ↔
      (∀ pr ∈ pairs, ∀ p ∈ pr.2, p ∈ nodes.map Node.id) ∧
      nodes' = extendChildren (childrenIn pairs) nodes := by
  induction pairs generalizing nodes with
  | nil =>
    rw [show childrenIn [] = fun _ => [] from rfl,extendChildrenNil]
    simp [linkChildren,eq_comm]
  | cons pr rest ih =>
    obtain ⟨childID, deps⟩ := pr
    cases h : linkParents childID deps nodes with
    | error msg =>
      have bad : ¬ ∀ p ∈ deps, p ∈ nodes.map Node.id := fun all => by
        have := (@linkParentsOk childID deps nodes _).mpr ⟨all,rfl⟩; rw [h] at this; cases this
      simp only [linkChildren,h,bind,Except.bind]
      exact ⟨fun h => (by cases h), fun ⟨all,_⟩ => absurd (all _ (List.mem_cons_self _ _)) bad⟩
    | ok mid =>
      obtain ⟨closed, rfl⟩ := linkParentsOk.mp h
      have flat : (fun id => List.replicate (deps.count id) childID ++ childrenIn rest id) =
          childrenIn ((childID,deps) :: rest) := by
        funext id; simp [childrenIn]
      simp only [linkChildren,h,bind,Except.bind]
      rw [ih,extendChildrenIds,extendChildrenTwice,flat]
      simp only [List.forall_mem_cons,eq_true closed,true_and]

theorem preprocessDAGOk {e e' : DAGEngine} :
    e.preprocessDAG = .ok e' ↔ (∀ n ∈ e.nodes, ∀ p ∈ n.dependencies, p ∈ e.ids) ∧
      e'.nodes = e.nodes.map fun n =>
        { n with children := childrenIn (e.nodes.map fun n => (n.id,n.dependencies)) n.id } := by
  have closedIff : (∀ pr ∈ e.nodes.map (fun n => (n.id,n.dependencies)), ∀ p ∈ pr.2,
      p ∈ (e.nodes.map fun n => { n with children := [] }).map Node.id) ↔
      ∀ n ∈ e.nodes, ∀ p ∈ n.dependencies, p ∈ e.ids := by
    rw [clearedIds,List.forall_mem_map]; rfl
  simp only [DAGEngine.preprocessDAG,bind,Except.bind]
  split
  · rename_i msg h
    have bad : ¬ ∀ n ∈ e.nodes, ∀ p ∈ n.dependencies, p ∈ e.ids := fun all => by
      have := linkChildrenOk.mpr ⟨closedIff.mpr all,rfl⟩; rw [h] at this; cases this
    exact ⟨fun h => (by cases h), fun ⟨all,_⟩ => (bad all).elim⟩
  · rename_i nodes h
    obtain ⟨closed, rfl⟩ := linkChildrenOk.mp h
    rw [extendCleared]
    refine ⟨fun same => ?_, fun ⟨_,same⟩ => ?_⟩
    · cases same; exact ⟨closedIff.mp closed,rfl⟩
    · obtain ⟨nodes⟩ := e'; simp only at same; subst same; rfl

theorem countChildrenIn (pairs : List (String × List String)) (p c : String) :
    (childrenIn pairs p).count c = ((pairs.filter (·.1 == c)).map (·.2.count p)).sum := by
  induction pairs with
  | nil => rfl
  | cons pr rest ih =>
    by_cases h : pr.1 = c
    · simp [childrenIn,List.count_flatMap,List.count_replicate,h] at ih ⊢; rw [ih]
    · simp [childrenIn,List.count_flatMap,List.count_replicate,h] at ih ⊢; rw [ih]

/-! ### Lookup by id -/

namespace DAGEngine

theorem findMem {e : DAGEngine} {id : String} {n : Node} (found : e.find? id = some n) :
    n ∈ e.nodes ∧ n.id = id :=
  ⟨List.mem_of_find?_eq_some found,by simpa using List.find?_some found⟩

theorem findNone {e : DAGEngine} {id : String} (absent : id ∉ e.ids) : e.find? id = none :=
  List.find?_eq_none.mpr fun n member same => absent (List.mem_map.mpr ⟨n,member,by simpa using same⟩)

theorem findIdSome {nodes : List Node} (distinct : (nodes.map Node.id).Nodup) {n : Node}
    (member : n ∈ nodes) : nodes.find? (·.id == n.id) = some n := by
  induction nodes with
  | nil => cases member
  | cons m rest ih =>
    obtain ⟨fresh,distinct⟩ := List.nodup_cons.mp distinct
    rcases List.mem_cons.mp member with rfl | inRest
    · simp
    · have different : m.id ≠ n.id := fun same => fresh (same ▸ List.mem_map_of_mem _ inRest)
      simp [different,ih distinct inRest]

theorem findSome {e : DAGEngine} (distinct : e.ids.Nodup) {n : Node} (member : n ∈ e.nodes) :
    e.find? n.id = some n := findIdSome distinct member

theorem depsOfNotMem {e : DAGEngine} {id : String} (absent : id ∉ e.ids) : e.deps id = [] := by
  simp [deps,findNone absent]

theorem childrenOfNotMem {e : DAGEngine} {id : String} (absent : id ∉ e.ids) : e.children id = [] := by
  simp [children,findNone absent]

theorem memOfDeps {e : DAGEngine} {p c : String} (dep : p ∈ e.deps c) : c ∈ e.ids :=
  Classical.byContradiction fun absent => by simp [depsOfNotMem absent] at dep

theorem depsOfMem {e : DAGEngine} (distinct : e.ids.Nodup) {n : Node} (member : n ∈ e.nodes) :
    e.deps n.id = n.dependencies := by
  simp [deps,findSome distinct member]

theorem memDepsIff {e : DAGEngine} (distinct : e.ids.Nodup) {p c : String} :
    p ∈ e.deps c ↔ ∃ n ∈ e.nodes, n.id = c ∧ p ∈ n.dependencies := by
  constructor
  · intro dep
    cases found : e.find? c with
    | none => simp [deps,found] at dep
    | some n =>
      obtain ⟨member,rfl⟩ := findMem found
      exact ⟨n,member,rfl,by simpa [deps,found] using dep⟩
  · rintro ⟨n,member,rfl,dep⟩
    rwa [depsOfMem distinct member]

theorem childrenOfMem {e : DAGEngine} (distinct : e.ids.Nodup) {n : Node} (member : n ∈ e.nodes) :
    e.children n.id = n.children := by
  simp [children,findSome distinct member]

theorem sumFilterIds {nodes : List Node} (distinct : (nodes.map Node.id).Nodup) (p c : String) :
    (((nodes.map fun n => (n.id,n.dependencies)).filter (·.1 == c)).map (·.2.count p)).sum =
      (((nodes.find? (·.id == c)).map Node.dependencies).getD []).count p := by
  induction nodes with
  | nil => rfl
  | cons m rest ih =>
    obtain ⟨fresh,distinct⟩ := List.nodup_cons.mp distinct
    by_cases h : m.id = c
    · subst h
      have none : (rest.map fun n => (n.id,n.dependencies)).filter (·.1 == m.id) = [] :=
        List.filter_eq_nil_iff.mpr fun pr member same => fresh <| by
          obtain ⟨n,inRest,rfl⟩ := List.mem_map.mp member
          simpa [← beq_iff_eq.mp same] using List.mem_map_of_mem Node.id inRest
      simp [none]
    · simp [h,ih distinct]

end DAGEngine

theorem addNodesSpec {e : DAGEngine} (distinct : e.ids.Nodup) (nodes : List Node) :
    (e.addNodes nodes).ids.Nodup ∧ ∀ n ∈ (e.addNodes nodes).nodes, n ∈ e.nodes ∨ n ∈ nodes := by
  induction nodes generalizing e with
  | nil => exact ⟨distinct,fun n member => .inl member⟩
  | cons m rest ih =>
    have step : e.addNodes (m :: rest) =
        (match e.addNode m with | .ok e' => e' | .error _ => e).addNodes rest := rfl
    rw [step]
    cases h : e.addNode m with
    | error msg =>
      obtain ⟨d,from'⟩ := ih distinct
      exact ⟨d,fun n member => (from' n member).elim .inl (.inr ∘ List.mem_cons_of_mem _)⟩
    | ok e' =>
      simp only [DAGEngine.addNode] at h
      split at h
      · cases h
      · rename_i absent
        cases h
        have fresh : m.id ∉ e.ids := by simpa [DAGEngine.ids] using absent
        obtain ⟨d,from'⟩ := ih (e := ⟨e.nodes ++ [m]⟩) (by
          rw [DAGEngine.ids,List.map_append,List.map_singleton,List.nodup_append_comm]
          exact List.nodup_cons.mpr ⟨fresh,distinct⟩)
        refine ⟨d,fun n member => ?_⟩
        rcases from' n member with inner | inRest
        · rcases List.mem_append.mp inner with old | new
          · exact .inl old
          · exact .inr (by simp at new; simp [new])
        · exact .inr (List.mem_cons_of_mem _ inRest)

/-! ### A finalised graph -/

/-- What `Run` may rely on after `NewNode`, `AddNode` and a successful `PreprocessDAG`:
distinct ids, dependencies that name nodes, each `Children` list the mirror image of the
`Dependencies` lists (occurrences counted), and fresh scheduler fields. -/
structure Finalised (e : DAGEngine) : Prop where
  distinct : e.ids.Nodup
  closed : ∀ c, ∀ p ∈ e.deps c, p ∈ e.ids
  linked : ∀ p c, (e.children p).count c = (e.deps c).count p
  fresh : ∀ n ∈ e.nodes, n.status = .pending ∧ n.readyCounter = n.dependencies.length

section
variable {e e' : DAGEngine}

theorem preprocessFind (ok : e.preprocessDAG = .ok e') (id : String) :
    e'.find? id = (e.find? id).map fun n =>
      { n with children := childrenIn (e.nodes.map fun n => (n.id,n.dependencies)) n.id } := by
  simp only [DAGEngine.find?,(preprocessDAGOk.mp ok).2,List.find?_map]; rfl

theorem preprocessIds (ok : e.preprocessDAG = .ok e') : e'.ids = e.ids := by
  simp [DAGEngine.ids,(preprocessDAGOk.mp ok).2]

theorem preprocessDeps (ok : e.preprocessDAG = .ok e') (id : String) : e'.deps id = e.deps id := by
  simp only [DAGEngine.deps,preprocessFind ok,Option.map_map]; rfl

theorem preprocessClosed (ok : e.preprocessDAG = .ok e') (c : String) : ∀ p ∈ e.deps c, p ∈ e.ids := by
  intro p dep
  cases found : e.find? c with
  | none => simp [DAGEngine.deps,found] at dep
  | some n => exact (preprocessDAGOk.mp ok).1 n (DAGEngine.findMem found).1 p (by simpa [DAGEngine.deps,found] using dep)

theorem linkedOfPreprocess (distinct : e.ids.Nodup) (ok : e.preprocessDAG = .ok e') (p c : String) :
    (e'.children p).count c = (e'.deps c).count p := by
  rw [preprocessDeps ok]
  by_cases member : p ∈ e.ids
  · obtain ⟨n,inNodes,rfl⟩ := List.mem_map.mp member
    simp only [DAGEngine.children,preprocessFind ok,DAGEngine.findSome distinct inNodes,Option.map_some',
      Option.getD_some]
    rw [countChildrenIn,DAGEngine.sumFilterIds distinct]; rfl
  · rw [DAGEngine.childrenOfNotMem (preprocessIds ok ▸ member),List.count_nil,eq_comm,List.count_eq_zero]
    exact fun dep => member (preprocessClosed ok c p dep)

theorem finalisedOfPreprocess (distinct : e.ids.Nodup)
    (fresh : ∀ n ∈ e.nodes, n.status = .pending ∧ n.readyCounter = n.dependencies.length)
    (ok : e.preprocessDAG = .ok e') : Finalised e' := by
  refine ⟨preprocessIds ok ▸ distinct,fun c p dep => preprocessIds ok ▸ preprocessClosed ok c p (preprocessDeps ok c ▸ dep),
    linkedOfPreprocess distinct ok,fun n member => ?_⟩
  rw [(preprocessDAGOk.mp ok).2] at member
  obtain ⟨m,inNodes,rfl⟩ := List.mem_map.mp member
  exact fresh m inNodes

end

theorem finalisedOfBuild {specs : List (String × List String)} {e : DAGEngine}
    (ok : (newDAGEngine.addNodes (specs.map fun pr => newNode pr.1 pr.2)).preprocessDAG = .ok e) :
    Finalised e := by
  obtain ⟨distinct,origin⟩ := addNodesSpec (e := newDAGEngine) List.nodup_nil (specs.map fun pr => newNode pr.1 pr.2)
  refine finalisedOfPreprocess distinct (fun n member => ?_) ok
  rcases origin n member with none | built
  · cases none
  · obtain ⟨pr,_,rfl⟩ := List.mem_map.mp built
    exact ⟨rfl,rfl⟩

/-! ### Cycles -/

def DAGEngine.DependsOn (e : DAGEngine) (p c : String) : Prop := p ∈ e.deps c

def DAGEngine.Acyclic (e : DAGEngine) : Prop := ∀ id, ¬ Relation.TransGen e.DependsOn id id

theorem acyclicWellFounded {e : DAGEngine} (acyclic : e.Acyclic) : WellFounded e.DependsOn := by
  let r : {id // id ∈ e.ids} → {id // id ∈ e.ids} → Prop := fun a b => Relation.TransGen e.DependsOn a.1 b.1
  haveI : IsTrans _ r := ⟨fun _ _ _ ab bc => ab.trans bc⟩
  haveI : IsIrrefl _ r := ⟨fun a loop => acyclic a.1 loop⟩
  have nonNode : ∀ c, c ∉ e.ids → Acc e.DependsOn c := fun c absent =>
    ⟨_,fun p dep => absurd (DAGEngine.memOfDeps dep) absent⟩
  refine ⟨fun c => if member : c ∈ e.ids then ?_ else nonNode c member⟩
  refine (Finite.wellFounded_of_trans_of_irrefl r).induction (C := fun a => Acc e.DependsOn a.1)
    ⟨c,member⟩ fun a ih => ⟨_,fun p dep => ?_⟩
  by_cases inside : p ∈ e.ids
  · exact ih ⟨p,inside⟩ (.single dep)
  · exact nonNode p inside

theorem acyclicOfRank {e : DAGEngine} (rank : String → Nat) (rises : ∀ p c, e.DependsOn p c → rank p < rank c) :
    e.Acyclic := fun id loop => by
  have raised : ∀ {a b}, Relation.TransGen e.DependsOn a b → rank a < rank b := fun path => by
    induction path with
    | single dep => exact rises _ _ dep
    | tail _ dep ih => exact ih.trans (rises _ _ dep)
  exact lt_irrefl _ (raised loop)

/-! ### What `PreprocessDAG` does not check -/

theorem preprocessDAGError {e : DAGEngine} :
    (∃ msg, e.preprocessDAG = .error msg) ↔ ∃ n ∈ e.nodes, ∃ p ∈ n.dependencies, p ∉ e.ids := by
  cases h : e.preprocessDAG with
  | error msg =>
    refine ⟨fun _ => ?_,fun _ => ⟨msg,rfl⟩⟩
    by_contra closed
    push_neg at closed
    cases h.symm.trans (preprocessDAGOk.mpr ⟨closed,rfl⟩ : e.preprocessDAG = .ok _)
  | ok e' =>
    have closed := (preprocessDAGOk.mp h).1
    simp only [reduceCtorEq,exists_false,false_iff,not_exists,not_and,not_not]
    exact closed

theorem cyclesAccepted :
    (∃ e, (newDAGEngine.addNodes [newNode "a" ["a"]]).preprocessDAG = .ok e ∧ ¬e.Acyclic) ∧
    ∃ e, (newDAGEngine.addNodes [newNode "a" ["b"], newNode "b" ["a"]]).preprocessDAG = .ok e ∧ ¬e.Acyclic :=
  ⟨⟨_,rfl,fun acyclic => acyclic "a" (.single (show "a" ∈ _ by decide))⟩,
    _,rfl,fun acyclic => acyclic "a" (.tail (.single (show "a" ∈ _ by decide)) (show "b" ∈ _ by decide))⟩

end Workflows.DagGraph
