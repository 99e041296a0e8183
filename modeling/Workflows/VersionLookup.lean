import Workflows.VersionHistory
/-! What `GetWorkflowDefinition` returns. A registered `(workflowID, version)` keeps its
definition over every later history: `CanUpdate` refuses a version that exists, and storing
another version touches no other entry. The exception is the version string `latest`, which
`GetVersion` reads as the alias of the latest version. Registration reads nothing of the
definition but its sub-workflow references, so a malformed graph is stored as it is. -/
namespace Workflows.Registry

/-! ### Looking a version up -/

theorem findVersionSome {versions : List WorkflowVersion} {id v : String} {ver : WorkflowVersion}
    (found : findVersion versions id v = some ver) : ver ∈ versions ∧ ver.workflowID = id ∧ ver.version = v := by
  have matched := List.find?_some found
  simp only [Bool.and_eq_true,beq_iff_eq] at matched
  exact ⟨List.mem_of_find?_eq_some found,matched⟩

theorem findVersionSet (versions : List WorkflowVersion) (version : WorkflowVersion) (id v : String) :
    findVersion (setVersion versions version) id v =
      if version.workflowID = id ∧ version.version = v then some version else findVersion versions id v := by
  have keys : ∀ w : WorkflowVersion,
      ((if w.workflowID = version.workflowID ∧ w.version = version.version then version else w).workflowID == id &&
        (if w.workflowID = version.workflowID ∧ w.version = version.version then version else w).version == v) =
      (w.workflowID == id && w.version == v) := fun w => by
    split
    · rename_i same; rw [same.1,same.2]
    · rfl
  unfold setVersion findVersion
  split
  · rename_i present
    rw [List.find?_map]
    simp only [Function.comp_def,keys]
    obtain ⟨old,hold⟩ := Option.isSome_iff_exists.mp present
    obtain ⟨-,oldID,oldVersion⟩ := findVersionSome hold
    split
    · rename_i same
      obtain ⟨rfl,rfl⟩ := same
      rw [hold,Option.map_some',if_pos ⟨oldID,oldVersion⟩]
    · rename_i other
      cases found : versions.find? (fun w => w.workflowID == id && w.version == v) with
      | none => rfl
      | some w =>
        obtain ⟨-,wID,wVersion⟩ := findVersionSome found
        have : ¬(w.workflowID = version.workflowID ∧ w.version = version.version) := fun same =>
          other ⟨same.1 ▸ wID,same.2 ▸ wVersion⟩
        simp [this]
  · rename_i absent
    rw [List.find?_append]
    split
    · rename_i same
      obtain ⟨rfl,rfl⟩ := same
      simp [Option.not_isSome_iff_eq_none.mp absent]
    · rename_i other
      have : (version.workflowID == id && version.version == v) = false := by
        simpa using other
      simp [List.find?,this]

theorem registerVersionFinds {vm vm' : VersionManager} {version : WorkflowVersion}
    (ok : vm.registerVersion version = .ok vm') {id v : String} (other : ¬(version.workflowID = id ∧ version.version = v)) :
    findVersion vm'.versions id v = findVersion vm.versions id v := by
  rw [(registerVersionStored ok).1,findVersionSet]
  exact if_neg other

/-! ### `CanUpdate` and a stored key -/

theorem canUpdateRefusal {vm : VersionManager} {id v : String} (refused : (vm.canUpdate id v).1 = false) :
    (vm.canUpdate id v).2.2.isSome := by
  unfold VersionManager.canUpdate at refused ⊢
  split at refused
  · cases refused
  · split at refused
    · cases refused
    · split_ifs at refused ⊢ <;> rfl

theorem canUpdateRefusesStored {vm : VersionManager} (defined : LatestDefined vm) {id v : String} {ver : WorkflowVersion}
    (found : findVersion vm.versions id v = some ver) : (vm.canUpdate id v).1 = false := by
  obtain ⟨member,sameID,-⟩ := findVersionSome found
  have present : hasWorkflowID vm.versions id = true := hasWorkflowIDIff.mpr ⟨ver,member,sameID⟩
  obtain ⟨latest,hl⟩ := Option.isSome_iff_exists.mp (by rw [defined id]; exact present)
  simp only [VersionManager.canUpdate,present,Bool.not_true,Bool.false_eq_true,if_false,hl,found,
    Option.isSome_some,if_true]
  split_ifs <;> rfl

theorem registerWorkflowStored {wm wm' : WorkflowManager} {id v : String} {d : WorkflowDefinition}
    {metadata : Option (List (String × MetaValue))} (ok : wm.registerWorkflow id v (.ok d) metadata = .ok wm') :
    (wm.versions.canUpdate id v).1 = true ∧
      wm.versions.registerVersion ⟨id,v,d,extractDependencies d,[]⟩ = .ok wm'.versions := by
  simp only [WorkflowManager.registerWorkflow] at ok
  split at ok
  · rename_i refused
    have := canUpdateRefusal (by simpa using refused)
    split at ok
    · cases ok
    · split at ok
      · cases ok
      · rename_i none_; rw [none_] at this; cases this
  · rename_i passed
    split at ok
    · cases ok
    · rename_i registered; cases ok
      exact ⟨by simpa using passed,registered⟩

/-! ### Histories -/

theorem historyKeeps {P : WorkflowManager → Prop} (step : ∀ wm r, P wm → P (wm.apply r)) :
    ∀ (calls : List Registration) wm, P wm → ∀ wm' ∈ wm.history calls, P wm'
  | [], wm, holds, wm', member => by rw [List.mem_singleton.mp member]; exact holds
  | r :: rs, wm, holds, wm', member => by
    rcases List.mem_cons.mp member with rfl | later
    · exact holds
    · exact historyKeeps step rs (wm.apply r) (step wm r holds) wm' later

def StoresDefinition (id v : String) (d : WorkflowDefinition) (wm : WorkflowManager) : Prop :=
  LatestDefined wm.versions ∧ ∃ ver, findVersion wm.versions.versions id v = some ver ∧ ver.definition = d

theorem applyStoresDefinition {id v : String} {d : WorkflowDefinition} (wm : WorkflowManager) (r : Registration)
    (stores : StoresDefinition id v d wm) : StoresDefinition id v d (wm.apply r) := by
  obtain ⟨defined,ver,found,definition⟩ := stores
  refine ⟨latestDefinedApply defined r,?_⟩
  rcases applyOk wm r with same | ok
  · rw [same]; exact ⟨ver,found,definition⟩
  · rcases registerWorkflowOk ok with same | ⟨passed,_,-,registered⟩
    · rw [same]; exact ⟨ver,found,definition⟩
    · refine ⟨ver,?_,definition⟩
      rw [registerVersionFinds registered fun key => ?_,found]
      obtain ⟨rfl,rfl⟩ := key
      rw [canUpdateRefusesStored defined found] at passed; cases passed

theorem getWorkflowDefinitionOfStored {id v : String} {d : WorkflowDefinition} {wm : WorkflowManager}
    (stores : StoresDefinition id v d wm) (named : v ≠ "") (notAlias : v ≠ "latest") :
    wm.getWorkflowDefinition id v = .ok d := by
  obtain ⟨-,ver,found,rfl⟩ := stores
  obtain ⟨member,sameID,-⟩ := findVersionSome found
  have present : hasWorkflowID wm.versions.versions id = true := hasWorkflowIDIff.mpr ⟨ver,member,sameID⟩
  simp [WorkflowManager.getWorkflowDefinition,VersionManager.getVersion,named,notAlias,present,found,Except.map]

theorem latestDefinedHistory {calls : List Registration} {wm : WorkflowManager}
    (reach : wm ∈ newWorkflowManager.history calls) : LatestDefined wm.versions :=
  historyKeeps (P := fun wm => LatestDefined wm.versions) (fun _ r defined => latestDefinedApply defined r) calls _
    latestDefinedNew wm reach

/-- From any state a history reaches, once `RegisterWorkflow(id, v, b)` succeeds for a version
string other than the alias `latest`, `GetWorkflowDefinition(id, v)` returns what `b` built, in
every state of every later history of registrations. -/
theorem definitionPersists {calls₀ : List Registration} {wm wm₁ : WorkflowManager}
    (reach : wm ∈ newWorkflowManager.history calls₀) {id v : String} (notAlias : v ≠ "latest")
    {d : WorkflowDefinition} {metadata : Option (List (String × MetaValue))}
    (ok : wm.registerWorkflow id v (.ok d) metadata = .ok wm₁) (calls : List Registration) :
    ∀ wm' ∈ wm₁.history calls, wm'.getWorkflowDefinition id v = .ok d := by
  have defined := latestDefinedHistory reach
  obtain ⟨-,registered⟩ := registerWorkflowStored ok
  have named : v ≠ "" := fun empty => by
    simp only [VersionManager.registerVersion,empty,if_true] at registered
    split at registered <;> cases registered
  have stored : StoresDefinition id v d wm₁ := by
    refine ⟨latestDefinedRegister defined registered,
      { (⟨id,v,d,extractDependencies d,[]⟩ : WorkflowVersion) with dependents := dependentsOf wm.versions.versions id },
      ?_,rfl⟩
    rw [(registerVersionStored registered).1,findVersionSet,if_pos ⟨rfl,rfl⟩]
  intro wm' member
  exact getWorkflowDefinitionOfStored (historyKeeps applyStoresDefinition calls wm₁ stored wm' member) named notAlias

def oneNodeDefinition : WorkflowDefinition := ⟨[⟨"a",[],"lua",[]⟩]⟩

def laterCalls : List Registration := [⟨"w","2.0.0",.ok ⟨[]⟩,none⟩,⟨"w","1.0.0",.ok ⟨[]⟩,none⟩]

theorem definitionPersistsOverUpdates : ∃ wm₁,
    newWorkflowManager.registerWorkflow "w" "1.0.0" (.ok oneNodeDefinition) none = .ok wm₁ ∧
      ∀ wm' ∈ wm₁.history laterCalls, wm'.getWorkflowDefinition "w" "1.0.0" = .ok oneNodeDefinition :=
  ⟨_,rfl,@definitionPersists [] _ _ (List.mem_singleton_self _) "w" "1.0.0" (by decide) _ _ rfl laterCalls⟩

/-- Registered under the version string `latest`, a definition is returned for it only until a
newer version is registered: the alias then names that version. -/
theorem latestAliasMoves : ∃ wm₁ wm₂,
    newWorkflowManager.registerWorkflow "w" "latest" (.ok ⟨[]⟩) none = .ok wm₁ ∧
      wm₁.getWorkflowDefinition "w" "latest" = .ok ⟨[]⟩ ∧
      wm₁.registerWorkflow "w" "m" (.ok oneNodeDefinition) none = .ok wm₂ ∧
      wm₂.getWorkflowDefinition "w" "latest" = .ok oneNodeDefinition :=
  ⟨_,_,rfl,rfl,rfl,rfl⟩

/-! ### What `HasWorkflow` and `BuildWorkflow` see -/

theorem canUpdateNewer {vm : VersionManager} (defined : LatestDefined vm) {id v : String}
    (passed : (vm.canUpdate id v).1 = true) {lv : WorkflowVersion} (latest : vm.latest id = some lv) :
    isNewerVersion v lv.version = true := by
  have present : hasWorkflowID vm.versions id = true := by rw [← defined id,latest]; rfl
  simp only [VersionManager.canUpdate,present,Bool.not_true,Bool.false_eq_true,if_false,latest] at passed
  split_ifs at passed with _ older
  simpa using older

theorem registerVersionNewest {vm vm' : VersionManager} {version : WorkflowVersion}
    (newer : ∀ lv, vm.latest version.workflowID = some lv → isNewerVersion version.version lv.version = true)
    (ok : vm.registerVersion version = .ok vm') :
    vm'.latest = Function.update vm.latest version.workflowID
      (some { version with dependents := dependentsOf vm.versions version.workflowID }) := by
  simp only [VersionManager.registerVersion] at ok
  split_ifs at ok with empty emptyVersion moved <;> cases ok
  · rfl
  · refine absurd ?_ moved
    split <;> rename_i found
    · rfl
    · exact newer _ found

def BuildersAgree (wm : WorkflowManager) : Prop :=
  LatestDefined wm.versions ∧ ∀ id, wm.builders id = (wm.versions.latest id).map fun lv => .ok lv.definition

theorem applyBuildersAgree (wm : WorkflowManager) (r : Registration) (agree : BuildersAgree wm) :
    BuildersAgree (wm.apply r) := by
  obtain ⟨defined,builders⟩ := agree
  refine ⟨latestDefinedApply defined r,?_⟩
  obtain ⟨workflowID,version,builder,metadata⟩ := r
  unfold WorkflowManager.apply
  split
  · rename_i wm' ok
    rcases registerWorkflowOk ok with rfl | ⟨passed,definition,rfl,registered⟩
    · exact builders
    · have latest := registerVersionNewest (fun lv found => canUpdateNewer defined passed found) registered
      simp only [WorkflowManager.registerWorkflow,Bool.not_eq_true',passed,Bool.true_eq_false,if_false,
        registered] at ok
      have built : wm'.builders = Function.update wm.builders workflowID (some (.ok definition)) := by
        rw [← Except.ok.inj ok]
      intro id
      by_cases same : id = workflowID
      · subst same; simp [built,latest]
      · simp [built,latest,same,builders id]
  · exact builders

theorem registryAgrees {calls : List Registration} {wm : WorkflowManager} (reach : wm ∈ newWorkflowManager.history calls) :
    (∀ (r : Registration) (err : String), wm.registerWorkflow r.workflowID r.version r.builder r.metadata = .error err →
      wm.apply r = wm) ∧
    ∀ id, (wm.hasWorkflow id = true ↔ (wm.versions.latest id).isSome) ∧
      ∀ lv, wm.versions.latest id = some lv → wm.getLatestVersion id = .ok lv.version ∧ wm.buildWorkflow id = .ok lv.definition := by
  have agree := historyKeeps applyBuildersAgree calls _ ⟨latestDefinedNew,fun _ => rfl⟩ wm reach
  refine ⟨fun r err failed => by simp only [WorkflowManager.apply,failed],fun id => ⟨?_,fun lv latest => ?_⟩⟩
  · simp [WorkflowManager.hasWorkflow,agree.2 id]
  · simp [WorkflowManager.getLatestVersion,VersionManager.getLatestVersion,WorkflowManager.buildWorkflow,
      agree.2 id,latest,Except.map]

def updateCalls : List Registration := [⟨"w","1.0.0",.ok ⟨[]⟩,none⟩,⟨"w","2.0.0",.ok oneNodeDefinition,none⟩]

def updatedManager : WorkflowManager :=
  (newWorkflowManager.apply ⟨"w","1.0.0",.ok ⟨[]⟩,none⟩).apply ⟨"w","2.0.0",.ok oneNodeDefinition,none⟩

theorem registryAgreesAfterUpdate :
    (∀ (r : Registration) (err : String), updatedManager.registerWorkflow r.workflowID r.version r.builder r.metadata =
      .error err → updatedManager.apply r = updatedManager) ∧
    ∀ id, (updatedManager.hasWorkflow id = true ↔ (updatedManager.versions.latest id).isSome) ∧
      ∀ lv, updatedManager.versions.latest id = some lv →
        updatedManager.getLatestVersion id = .ok lv.version ∧ updatedManager.buildWorkflow id = .ok lv.definition :=
  @registryAgrees updateCalls updatedManager (List.mem_cons_of_mem _ (List.mem_cons_of_mem _ (List.mem_singleton_self _)))

/-! ### What registration checks of a definition -/

def WorkflowDefinition.DependsOn (d : WorkflowDefinition) (p c : String) : Prop :=
  ∃ n ∈ d.nodes, n.nodeID = c ∧ p ∈ n.dependencies

def WorkflowDefinition.WellFormed (d : WorkflowDefinition) : Prop :=
  (d.nodes.map (·.nodeID)).Nodup ∧ (∀ n ∈ d.nodes, ∀ p ∈ n.dependencies, p ∈ d.nodes.map (·.nodeID)) ∧
    ∀ id, ¬Relation.TransGen d.DependsOn id id

def malformedDefinition : WorkflowDefinition := ⟨[⟨"a",["a"],"lua",[]⟩,⟨"a",["missing"],"lua",[]⟩]⟩

theorem malformedDefinitionStored : ∃ wm,
    newWorkflowManager.registerWorkflow "w" "1.0.0" (.ok malformedDefinition) none = .ok wm ∧
      wm.getWorkflowDefinition "w" "1.0.0" = .ok malformedDefinition ∧ ¬malformedDefinition.WellFormed :=
  ⟨_,rfl,rfl,fun ⟨distinct,_,_⟩ => absurd distinct (by decide)⟩

end Workflows.Registry
