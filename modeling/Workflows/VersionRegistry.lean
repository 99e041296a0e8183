import Mathlib.Data.String.Basic
import Mathlib.Data.List.Dedup
/-! `VersionManager` and `WorkflowManager` of the orchestrator. Every `RegisterWorkflow` runs
under `wm.mu`, so a history of the registry is a sequence of calls. Go maps become functions
or lists of entries; the order of a Go map range is unspecified, so no result below depends
on the order of a list the model builds from one.
`<` on Go strings compares bytes, which on UTF-8 is the order of code points. A
`WorkflowBuilder` is a Go closure, kept as what calling it returns, and a nil error is `none`. -/
namespace Workflows.Registry

inductive MetaValue where
  | str (s : String)
  | other
  deriving DecidableEq, Repr

structure NodeDefinition where
  nodeID : String
  dependencies : List String
  executorType : String
  metadata : List (String × MetaValue)
  deriving DecidableEq, Repr

structure WorkflowDefinition where
  nodes : List NodeDefinition
  deriving DecidableEq, Repr

structure WorkflowVersion where
  workflowID : String
  version : String
  definition : WorkflowDefinition
  dependencies : List String
  dependents : List String
  deriving DecidableEq, Repr

structure VersionManager where
  versions : List WorkflowVersion
  latest : String → Option WorkflowVersion

def newVersionManager : VersionManager := ⟨[],fun _ => none⟩

def stringLess : List Char → List Char → Bool
  | _, [] => false
  | [], _ :: _ => true
  | a :: as, b :: bs => a.toNat < b.toNat || (a.toNat = b.toNat && stringLess as bs)

def isNewerVersion (v1 v2 : String) : Bool := stringLess v2.data v1.data

def hasWorkflowID (versions : List WorkflowVersion) (workflowID : String) : Bool :=
  versions.any (·.workflowID == workflowID)

def findVersion (versions : List WorkflowVersion) (workflowID version : String) : Option WorkflowVersion :=
  versions.find? fun v => v.workflowID == workflowID && v.version == version

def setVersion (versions : List WorkflowVersion) (version : WorkflowVersion) : List WorkflowVersion :=
  if (findVersion versions version.workflowID version.version).isSome then
    versions.map fun v => if v.workflowID = version.workflowID ∧ v.version = version.version then version else v
  else versions ++ [version]

/-- The `Dependents` that `updateDependencies` computes: one entry for each registered version
of another workflow that lists `workflowID`. Its second loop takes locks and changes nothing. -/
def dependentsOf (versions : List WorkflowVersion) (workflowID : String) : List String :=
  (versions.filter fun v => v.workflowID ≠ workflowID ∧ workflowID ∈ v.dependencies).map (·.workflowID)

def VersionManager.registerVersion (vm : VersionManager) (version : WorkflowVersion) :
    Except String VersionManager :=
  if version.workflowID = "" then .error "workflow ID cannot be empty"
  else if version.version = "" then .error "workflow version cannot be empty"
  else
    let version := { version with dependents := dependentsOf vm.versions version.workflowID }
    let newer := match vm.latest version.workflowID with
      | none => true
      | some latest => isNewerVersion version.version latest.version
    .ok ⟨setVersion vm.versions version,
      if newer then Function.update vm.latest version.workflowID (some version) else vm.latest⟩

def VersionManager.getVersion (vm : VersionManager) (workflowID version : String) : Except String WorkflowVersion :=
  if version = "" ∨ version = "latest" then
    match vm.latest workflowID with
    | some latest => .ok latest
    | none => .error ("workflow " ++ workflowID ++ " not found")
  else if !hasWorkflowID vm.versions workflowID then .error ("workflow " ++ workflowID ++ " not found")
  else match findVersion vm.versions workflowID version with
    | some v => .ok v
    | none => .error ("workflow " ++ workflowID ++ " version " ++ version ++ " not found")

def VersionManager.getLatestVersion (vm : VersionManager) (workflowID : String) : Except String WorkflowVersion :=
  match vm.latest workflowID with
  | some latest => .ok latest
  | none => .error ("workflow " ++ workflowID ++ " not found")

def VersionManager.getDependents (vm : VersionManager) (workflowID : String) : List String :=
  match vm.latest workflowID with
  | some latest => latest.dependents
  | none => []

def VersionManager.canUpdate (vm : VersionManager) (workflowID newVersion : String) :
    Bool × List String × Option String :=
  if !hasWorkflowID vm.versions workflowID then (true,[],none)
  else match vm.latest workflowID with
    | none => (true,[],none)
    | some currentLatest =>
      if currentLatest.dependents.length > 0 then
        (false,currentLatest.dependents,some ("workflow " ++ workflowID ++ " has " ++
          toString currentLatest.dependents.length ++ " dependents, cannot update safely"))
      else if !isNewerVersion newVersion currentLatest.version then
        (false,[],some ("version " ++ newVersion ++ " is not newer than current " ++ currentLatest.version))
      else if (findVersion vm.versions workflowID newVersion).isSome then
        (false,[],some ("version " ++ newVersion ++ " already exists"))
      else (true,[],none)

/-! ### `WorkflowManager` -/

def subWorkflowID (node : NodeDefinition) : Option String :=
  match node.metadata.lookup "workflow_type", node.metadata.lookup "workflow_id" with
  | some (.str "sub-workflow"), some (.str wfID) => some wfID
  | _, _ => none

def extractDependencies (definition : WorkflowDefinition) : List String :=
  (definition.nodes.filterMap subWorkflowID).dedup

abbrev WorkflowBuilder := Except String WorkflowDefinition

structure WorkflowManager where
  versions : VersionManager
  builders : String → Option WorkflowBuilder
  metadata : String → Option (List (String × MetaValue))

def newWorkflowManager : WorkflowManager := ⟨newVersionManager,fun _ => none,fun _ => none⟩

def formatList (xs : List String) : String := "[" ++ " ".intercalate xs ++ "]"

/-- `metadata` is `none` for a nil map. A `false` from `CanUpdate` with a nil error would
return nil without registering; `CanUpdate` never does that. -/
def WorkflowManager.registerWorkflow (wm : WorkflowManager) (workflowID version : String) (builder : WorkflowBuilder)
    (metadata : Option (List (String × MetaValue))) : Except String WorkflowManager :=
  let check := wm.versions.canUpdate workflowID version
  if !check.1 then
    if check.2.1.length > 0 then
      .error ("cannot update workflow " ++ workflowID ++ ": has dependents " ++ formatList check.2.1)
    else match check.2.2 with
      | some err => .error err
      | none => .ok wm
  else match builder with
    | .error err => .error ("failed to build workflow definition: " ++ err)
    | .ok definition =>
      match wm.versions.registerVersion ⟨workflowID,version,definition,extractDependencies definition,[]⟩ with
      | .error err => .error ("failed to register version: " ++ err)
      | .ok versions =>
        .ok ⟨versions,Function.update wm.builders workflowID (some builder),
          Function.update wm.metadata workflowID (some (metadata.getD []))⟩

def WorkflowManager.getWorkflowDefinition (wm : WorkflowManager) (workflowID version : String) :
    Except String WorkflowDefinition :=
  (wm.versions.getVersion workflowID version).map (·.definition)

def WorkflowManager.buildWorkflow (wm : WorkflowManager) (workflowID : String) : Except String WorkflowDefinition :=
  match wm.builders workflowID with
  | some builder => builder
  | none => .error ("workflow " ++ workflowID ++ " not found")

def WorkflowManager.getLatestVersion (wm : WorkflowManager) (workflowID : String) : Except String String :=
  (wm.versions.getLatestVersion workflowID).map (·.version)

def WorkflowManager.hasWorkflow (wm : WorkflowManager) (workflowID : String) : Bool := (wm.builders workflowID).isSome

def WorkflowManager.getMetadata (wm : WorkflowManager) (workflowID : String) : List (String × MetaValue) :=
  (wm.metadata workflowID).getD []

end Workflows.Registry
