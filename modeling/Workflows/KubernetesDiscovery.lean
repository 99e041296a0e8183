import Workflows.Config
/-! `KubernetesDiscovery` turns pod listings into the engine snapshots `Watch` hands to the
`onChange` callback of `startDiscovery`. A pod is an engine when it is `Running` and has a pod IP;
its id is its `engine-id` label, else its name, and its port and capacity are annotations read
with `fmt.Sscanf`, with defaults. Joined with the orchestrator's other steps: the balancer lists
the engines of the last listing that succeeded, and none at all when `Watch` could not start,
though `NewOrchestratorV2` has returned without an error.
What the Kubernetes libraries return is a parameter, and so is `fmt.Sscanf(s, "%d", &n)`:
`sscanInt s` is `some n` when it returns `1, nil`. -/
namespace Workflows.Dispatch
open Balancer

def Action.snapshot : Action → Option (List EngineInfo)
  | .onChange found => some found
  | _ => none

theorem runLookups {o o' : Orchestrator} {trace : List Action} (agreed : Agreed o) (h : run o trace = some o')
    (e : String) : o'.engines.lookup e =
      match (trace.filterMap Action.snapshot).getLast? with
      | some found => lastCapacity found e
      | none => o.engines.lookup e := by
  induction trace generalizing o with
  | nil => cases h; rfl
  | cons a trace ih =>
    obtain ⟨mid,first,rest⟩ := Option.bind_eq_some.mp h
    rw [ih (stepAgreed agreed first) rest]
    cases a
    case onChange found =>
      simp only [step,Option.ite_none_left_eq_some,Option.some.injEq] at first
      obtain ⟨-,rfl⟩ := first
      simp only [List.filterMap_cons,Action.snapshot,List.getLast?_cons]
      cases (trace.filterMap Action.snapshot).getLast? <;> simp [(onChangeAgreed agreed found).2 e]
    all_goals rw [(stepKeepsEngines (fun _ => by simp) first).1]; rfl

structure Idle (lb : LoadBalancer) (o : Orchestrator) : Prop where
  balancer : o.loadBalancer = lb
  returned : ∀ c ∈ o.calls, c = .returned
  running : o.panicked = false

theorem idleNotCalled {lb : LoadBalancer} {o : Orchestrator} (idle : Idle lb o) {call : Nat} {c : CallPhase}
    (at_ : o.calls[call]? = some c) : c = .returned :=
  idle.returned c (List.mem_iff_getElem?.mpr ⟨call,at_⟩)

theorem idleStep {lb : LoadBalancer} (fresh : lb = .consistentHash newConsistentHashLoadBalancer ∨ lb = .roundRobin newRoundRobinLoadBalancer)
    {o o' : Orchestrator} (idle : Idle lb o) {a : Action} (notChange : a.snapshot = none) (h : step o a = some o') :
    Idle lb o' := by
  have appended : ∀ c ∈ o.calls ++ [.returned], c = .returned := fun c inside => by
    rcases List.mem_append.mp inside with old | new
    · exact idle.returned c old
    · exact List.mem_singleton.mp new
  cases a with
  | executeWorkflow key engineID =>
    rcases fresh with rfl | rfl <;>
      simp only [step,idle.running,idle.balancer,Bool.false_eq_true,if_false,newConsistentHashLoadBalancer,
        newRoundRobinLoadBalancer,RoundRobinLoadBalancer.selectEngine,if_true,List.length_nil,Option.some.injEq] at h <;>
      exact h ▸ ⟨rfl,appended,rfl⟩
  | abandon call | increment call | finish call =>
    cases found : o.calls[call]? with
    | none => simp [step,found] at h
    | some c => cases idleNotCalled idle found; simp [step,found] at h
  | onChange found => cases notChange

theorem idleRun {lb : LoadBalancer} (fresh : lb = .consistentHash newConsistentHashLoadBalancer ∨ lb = .roundRobin newRoundRobinLoadBalancer)
    {o o' : Orchestrator} {trace : List Action} (idle : Idle lb o) (quiet : trace.filterMap Action.snapshot = [])
    (h : run o trace = some o') : Idle lb o' := by
  induction trace generalizing o with
  | nil => cases h; exact idle
  | cons a trace ih =>
    obtain ⟨mid,first,rest⟩ := Option.bind_eq_some.mp h
    rw [List.filterMap_eq_nil_iff] at quiet
    exact ih (idleStep fresh idle (quiet a (List.mem_cons_self _ _)) first)
      (List.filterMap_eq_nil_iff.mpr fun b inside => quiet b (List.mem_cons_of_mem _ inside)) rest

theorem newOrchestratorV2Fresh {cfg : Config} {lb : LoadBalancer} (started : newOrchestratorV2 cfg = .ok lb) :
    newLoadBalancer cfg.loadBalancerType = .ok lb ∧
      (lb = .consistentHash newConsistentHashLoadBalancer ∨ lb = .roundRobin newRoundRobinLoadBalancer) := by
  rw [newOrchestratorV2Eq] at started
  split at started
  · cases started
  · refine ⟨started,?_⟩
    unfold newLoadBalancer at started
    split_ifs at started <;> cases started
    · exact .inl rfl
    · exact .inr rfl

end Workflows.Dispatch

namespace Workflows.Transport

structure Pod where
  name : String
  labels : List (String × String)
  annotations : List (String × String)
  phase : String
  podIP : String
  deriving DecidableEq, Repr

structure EngineInfo where
  id : String
  address : String
  port : Int
  capacity : Int
  metadata : List (String × String)
  deriving DecidableEq, Repr

def EngineInfo.forBalancer (info : EngineInfo) : Dispatch.EngineInfo := ⟨info.id,info.capacity⟩

/-- What the Kubernetes libraries return: the REST config in the cluster and from flags, the
clientset, `labels.Parse`, and the pod watcher. -/
structure Kubernetes where
  inClusterConfig : Except String Unit
  buildConfigFromFlags : Except String Unit
  newForConfig : Except String Unit
  labelsParse : String → Except String String
  watch : Except String Unit

structure KubernetesDiscovery where
  labelSelector : String
  deriving DecidableEq, Repr

def newKubernetesDiscovery (k8s : Kubernetes) (labelSelector : String) (inCluster : Bool) :
    Except String KubernetesDiscovery := do
  let _ ← (if inCluster then k8s.inClusterConfig else k8s.buildConfigFromFlags).mapError ("failed to create k8s config: " ++ ·)
  let _ ← k8s.newForConfig.mapError ("failed to create k8s client: " ++ ·)
  pure ⟨labelSelector⟩

def newServiceDiscovery (k8s : Kubernetes) (cfg : Dispatch.Config) : Except String KubernetesDiscovery :=
  (newKubernetesDiscovery k8s cfg.k8sLabelSelector cfg.inClusterConfig).mapError ("failed to create service discovery: " ++ ·)

section
variable (sscanInt : String → Option Int)

def Pod.annotationInt (pod : Pod) (key : String) (fallback : Int) : Int :=
  match pod.annotations.lookup key with
  | some s => (sscanInt s).getD fallback
  | none => fallback

def Pod.engineInfo (pod : Pod) : Option EngineInfo :=
  if pod.phase ≠ "Running" then none
  else
    let engineID := (pod.labels.lookup "engine-id").getD pod.name
    let address := pod.podIP
    if address = "" then none
    else some ⟨engineID,address,pod.annotationInt sscanInt "workflow-engine/port" 50051,
      pod.annotationInt sscanInt "workflow-engine/capacity" 10,
      pod.labels.filter fun l => l.1 != "app" && l.1 != "engine-id"⟩

def KubernetesDiscovery.discoverEngines (kd : KubernetesDiscovery) (k8s : Kubernetes)
    (listing : Except String (List Pod)) : Except String (List EngineInfo) := do
  let _ ← (k8s.labelsParse kd.labelSelector).mapError ("invalid label selector: " ++ ·)
  let pods ← listing.mapError ("failed to list pods: " ++ ·)
  pure (pods.filterMap (Pod.engineInfo sscanInt))

def KubernetesDiscovery.watch (kd : KubernetesDiscovery) (k8s : Kubernetes) (listings : List (Except String (List Pod))) :
    Except String (List (List EngineInfo)) := do
  let _ ← (k8s.labelsParse kd.labelSelector).mapError ("invalid label selector: " ++ ·)
  let _ ← k8s.watch.mapError ("failed to create watcher: " ++ ·)
  pure (listings.filterMap fun listing => (kd.discoverEngines sscanInt k8s listing).toOption)

/-- The snapshots the goroutine of `startDiscovery` hands to `onChange`. It only prints an error
of `Watch`; the one `Watch` returns when its context ends comes after its callbacks. -/
def KubernetesDiscovery.startDiscovery (kd : KubernetesDiscovery) (k8s : Kubernetes)
    (listings : List (Except String (List Pod))) : List (List Dispatch.EngineInfo) :=
  match kd.watch sscanInt k8s listings with
  | .ok snapshots => snapshots.map (·.map EngineInfo.forBalancer)
  | .error _ => []

end

def Pod.Serves (pod : Pod) (e : String) : Prop :=
  pod.phase = "Running" ∧ pod.podIP ≠ "" ∧ (pod.labels.lookup "engine-id").getD pod.name = e

instance (pod : Pod) (e : String) : Decidable (pod.Serves e) := inferInstanceAs (Decidable (_ ∧ _ ∧ _))

def lastListed (listings : List (Except String (List Pod))) : Option (List Pod) :=
  (listings.filterMap Except.toOption).getLast?

section
variable {sscanInt : String → Option Int}

theorem engineInfoSome {pod : Pod} {info : EngineInfo} : pod.engineInfo sscanInt = some info ↔
    pod.phase = "Running" ∧ pod.podIP ≠ "" ∧ info = ⟨(pod.labels.lookup "engine-id").getD pod.name,pod.podIP,
      pod.annotationInt sscanInt "workflow-engine/port" 50051,pod.annotationInt sscanInt "workflow-engine/capacity" 10,
      pod.labels.filter fun l => l.1 != "app" && l.1 != "engine-id"⟩ := by
  unfold Pod.engineInfo
  by_cases running : pod.phase = "Running" <;> by_cases addressed : pod.podIP = "" <;>
    simp [running,addressed,eq_comm]

theorem engineInfoServes {pod : Pod} {e : String} :
    (∃ info, pod.engineInfo sscanInt = some info ∧ info.id = e) ↔ pod.Serves e := by
  simp only [engineInfoSome,Pod.Serves]
  constructor
  · rintro ⟨_,⟨running,addressed,rfl⟩,rfl⟩; exact ⟨running,addressed,rfl⟩
  · rintro ⟨running,addressed,rfl⟩; exact ⟨_,⟨running,addressed,rfl⟩,rfl⟩

theorem memDiscoveredIds {pods : List Pod} {e : String} :
    e ∈ ((pods.filterMap (Pod.engineInfo sscanInt)).map EngineInfo.forBalancer).map (·.id) ↔ ∃ pod ∈ pods, pod.Serves e := by
  simp only [List.map_map,List.mem_map,List.mem_filterMap,Function.comp_def,EngineInfo.forBalancer]
  constructor
  · rintro ⟨info,⟨pod,inside,made⟩,rfl⟩; exact ⟨pod,inside,engineInfoServes.mp ⟨info,made,rfl⟩⟩
  · rintro ⟨pod,inside,serves⟩
    obtain ⟨info,made,rfl⟩ := engineInfoServes.mpr serves
    exact ⟨info,⟨pod,inside,made⟩,rfl⟩

theorem lastCapacityOfLastServing {pods pre post : List Pod} {pod : Pod} {e : String} (split : pods = pre ++ pod :: post)
    (serves : pod.Serves e) (after : ∀ q ∈ post, ¬ q.Serves e) :
    Dispatch.lastCapacity ((pods.filterMap (Pod.engineInfo sscanInt)).map EngineInfo.forBalancer) e =
      some (pod.annotationInt sscanInt "workflow-engine/capacity" 10) := by
  obtain ⟨info,made,same⟩ := (@engineInfoServes sscanInt pod e).mpr serves
  have later : ((post.filterMap (Pod.engineInfo sscanInt)).map EngineInfo.forBalancer).reverse.find? (·.id == e) = none := by
    refine List.find?_eq_none.mpr fun x inside found => ?_
    obtain ⟨i,i_in,rfl⟩ := List.mem_map.mp (List.mem_reverse.mp inside)
    obtain ⟨q,q_in,q_made⟩ := List.mem_filterMap.mp i_in
    exact after q q_in (engineInfoServes.mp ⟨i,q_made,by simpa [EngineInfo.forBalancer] using found⟩)
  subst split
  simp only [Dispatch.lastCapacity,List.filterMap_append,List.filterMap_cons,made,List.map_append,List.map_cons,
    List.reverse_append,List.reverse_cons,List.find?_append,later,Option.none_or,List.append_assoc,
    List.singleton_append]
  simp [EngineInfo.forBalancer,serves.2.2,(engineInfoSome.mp made).2.2]

theorem watchStarted {kd : KubernetesDiscovery} {k8s : Kubernetes} {selector : String}
    (parsed : k8s.labelsParse kd.labelSelector = .ok selector) (watching : k8s.watch = .ok ()) (listings : List (Except String (List Pod))) :
    kd.startDiscovery sscanInt k8s listings =
      (listings.filterMap Except.toOption).map fun pods => (pods.filterMap (Pod.engineInfo sscanInt)).map EngineInfo.forBalancer := by
  have discovered : ∀ listing, (kd.discoverEngines sscanInt k8s listing).toOption =
      listing.toOption.map (List.filterMap (Pod.engineInfo sscanInt)) := by
    intro listing; cases listing <;> simp only [KubernetesDiscovery.discoverEngines,parsed] <;> rfl
  have watched : kd.watch sscanInt k8s listings =
      .ok (listings.filterMap fun listing => (kd.discoverEngines sscanInt k8s listing).toOption) := by
    simp only [KubernetesDiscovery.watch,parsed,watching]; rfl
  simp only [KubernetesDiscovery.startDiscovery,watched,discovered]
  rw [List.map_filterMap,List.map_filterMap]
  simp only [Option.map_map]
  rfl

theorem watchFailed {kd : KubernetesDiscovery} {k8s : Kubernetes}
    (failed : (∃ err, k8s.labelsParse kd.labelSelector = .error err) ∨ ∃ err, k8s.watch = .error err)
    (listings : List (Except String (List Pod))) : kd.startDiscovery sscanInt k8s listings = [] := by
  rcases failed with ⟨err,parseFailed⟩ | ⟨err,watchFailed⟩
  · simp only [KubernetesDiscovery.startDiscovery,KubernetesDiscovery.watch,parseFailed]; rfl
  · cases parsed : k8s.labelsParse kd.labelSelector <;>
      simp only [KubernetesDiscovery.startDiscovery,KubernetesDiscovery.watch,parsed,watchFailed] <;> rfl

end

theorem newServiceDiscoverySelector {k8s : Kubernetes} {cfg : Dispatch.Config} {kd : KubernetesDiscovery}
    (created : newServiceDiscovery k8s cfg = .ok kd) : kd.labelSelector = cfg.k8sLabelSelector := by
  unfold newServiceDiscovery newKubernetesDiscovery at created
  revert created
  cases (if cfg.inClusterConfig then k8s.inClusterConfig else k8s.buildConfigFromFlags) <;>
    cases k8s.newForConfig <;> intro created <;> cases created
  rfl

theorem balancerFollowsLastListing {sscanInt : String → Option Int} {cfg : Dispatch.Config} {lb : Dispatch.LoadBalancer}
    {k8s : Kubernetes} {kd : KubernetesDiscovery} (started : Dispatch.newOrchestratorV2 cfg = .ok lb)
    (created : newServiceDiscovery k8s cfg = .ok kd) {selector : String}
    (parsed : k8s.labelsParse cfg.k8sLabelSelector = .ok selector) (watching : k8s.watch = .ok ())
    {listings : List (Except String (List Pod))} {trace : List Dispatch.Action} {o : Dispatch.Orchestrator}
    (h : Dispatch.run (Dispatch.newOrchestrator lb) trace = some o)
    (fed : trace.filterMap Dispatch.Action.snapshot = kd.startDiscovery sscanInt k8s listings) (e : String) :
    (o.loadBalancer.listsEngine e = true ↔ ∃ pods ∈ lastListed listings, ∃ pod ∈ pods, pod.Serves e) ∧
    ∀ pods ∈ lastListed listings, ∀ pre pod post, pods = pre ++ pod :: post → pod.Serves e → (∀ q ∈ post, ¬ q.Serves e) →
      o.loadBalancer.getEngineCapacity e = .ok (pod.annotationInt sscanInt "workflow-engine/capacity" 10) := by
  have agreedStart := Dispatch.agreedNew (Dispatch.newOrchestratorV2Fresh started).1
  have agreed := Dispatch.agreedRun agreedStart h
  have lookups := Dispatch.runLookups agreedStart h e
  rw [fed,watchStarted ((newServiceDiscoverySelector created).symm ▸ parsed) watching,List.getLast?_map] at lookups
  unfold lastListed
  cases last : (listings.filterMap Except.toOption).getLast? with
  | none =>
    simp only [last,Option.map_none'] at lookups
    refine ⟨?_,fun _ absent => nomatch absent⟩
    rw [agreed.lists,lookups]
    simp [Dispatch.newOrchestrator]
  | some pods =>
    simp only [last,Option.map_some'] at lookups
    refine ⟨?_,fun _ listed pre pod post split serves after => ?_⟩
    · rw [agreed.lists,lookups,Dispatch.lastCapacityIsSome,memDiscoveredIds]
      simp
    · cases listed
      exact agreed.capacity e _ (lookups.trans (lastCapacityOfLastServing split serves after))

def enginePods : List Pod :=
  [⟨"engine-0",[("app","workflow-engine"),("engine-id","e1")],[],"Running","10.0.0.1"⟩,
    ⟨"engine-1",[("app","workflow-engine")],[],"Pending",""⟩]

def watchingCluster : Kubernetes := ⟨.ok (),.ok (),.ok (),fun s => .ok s,.ok ()⟩

def discoveryTrace : List Dispatch.Action :=
  [.executeWorkflow "w" "e1",.onChange [⟨"e1",10⟩],.executeWorkflow "w" "e1"]

theorem oneListingDiscovered : ∃ o, Dispatch.run (Dispatch.newOrchestrator (.consistentHash Balancer.newConsistentHashLoadBalancer))
    discoveryTrace = some o ∧
    (o.loadBalancer.listsEngine "e1" = true ↔ ∃ pods ∈ lastListed [.ok enginePods,.error "timeout"], ∃ pod ∈ pods, pod.Serves "e1") ∧
    ∀ pods ∈ lastListed [.ok enginePods,.error "timeout"], ∀ pre pod post, pods = pre ++ pod :: post → pod.Serves "e1" →
      (∀ q ∈ post, ¬ q.Serves "e1") →
      o.loadBalancer.getEngineCapacity "e1" = .ok (pod.annotationInt (fun _ => none) "workflow-engine/capacity" 10) :=
  ⟨_,rfl,@balancerFollowsLastListing (fun _ => none) (Dispatch.loadConfig fun _ => "") _ watchingCluster _ rfl rfl
    "app=workflow-engine" rfl rfl [.ok enginePods,.error "timeout"] discoveryTrace _ rfl rfl "e1"⟩

theorem noEngineWithoutWatch {sscanInt : String → Option Int} {cfg : Dispatch.Config} {lb : Dispatch.LoadBalancer}
    {k8s : Kubernetes} {kd : KubernetesDiscovery} (started : Dispatch.newOrchestratorV2 cfg = .ok lb)
    (created : newServiceDiscovery k8s cfg = .ok kd)
    (failed : (∃ err, k8s.labelsParse cfg.k8sLabelSelector = .error err) ∨ ∃ err, k8s.watch = .error err)
    {listings : List (Except String (List Pod))} {trace : List Dispatch.Action} {o : Dispatch.Orchestrator}
    (h : Dispatch.run (Dispatch.newOrchestrator lb) trace = some o)
    (fed : trace.filterMap Dispatch.Action.snapshot = kd.startDiscovery sscanInt k8s listings) :
    (∀ e, o.loadBalancer.listsEngine e = false) ∧ (∀ c ∈ o.calls, c = .returned) ∧ o.panicked = false := by
  obtain ⟨-,fresh⟩ := Dispatch.newOrchestratorV2Fresh started
  have quiet := fed.trans (watchFailed ((newServiceDiscoverySelector created).symm ▸ failed) listings)
  have idle := Dispatch.idleRun fresh ⟨rfl,by simp [Dispatch.newOrchestrator],rfl⟩ quiet h
  refine ⟨fun e => ?_,idle.returned,idle.running⟩
  rw [idle.balancer]
  rcases fresh with rfl | rfl <;> rfl

def rejectingCluster : Kubernetes := ⟨.ok (),.ok (),.ok (),fun _ => .error "unable to parse requirement",.ok ()⟩

theorem rejectedSelectorIdle : ∃ o, Dispatch.run (Dispatch.newOrchestrator (.consistentHash Balancer.newConsistentHashLoadBalancer))
    [.executeWorkflow "w" "e1"] = some o ∧
    (∀ e, o.loadBalancer.listsEngine e = false) ∧ (∀ c ∈ o.calls, c = .returned) ∧ o.panicked = false :=
  ⟨_,rfl,@noEngineWithoutWatch (fun _ => none) (Dispatch.loadConfig fun _ => "") _ rejectingCluster _ rfl rfl
    (.inl ⟨_,rfl⟩) [.ok enginePods] [.executeWorkflow "w" "e1"] _ rfl rfl⟩

end Workflows.Transport
