import Mathlib.Data.List.Chain
import Workflows.VersionRegistry
/-! Histories of `RegisterWorkflow`. The latest version of a workflow only moves up, but in
Go's string order, not by semantic-version precedence. `CanUpdate` refuses to update a
workflow whose latest version has `Dependents`, and that list is a snapshot taken when the
latest version was registered: a dependent registered afterwards never blocks an update. -/
namespace Workflows.Registry

/-! ### Go's string order -/

@[simp] theorem stringLessIrrefl (xs : List Char) : stringLess xs xs = false := by
  induction xs with
  | nil => rfl
  | cons a as ih => simp [stringLess,ih]

/-! ### One registration -/

def latestVersion (vm : VersionManager) (id : String) : Option String := (vm.latest id).map (·.version)

theorem registerVersionLatest {vm vm' : VersionManager} {version : WorkflowVersion}
    (ok : vm.registerVersion version = .ok vm') (id : String) :
    vm'.latest id = vm.latest id ∨ id = version.workflowID ∧
      vm'.latest id = some { version with dependents := dependentsOf vm.versions id } ∧
      ∀ old, vm.latest id = some old → stringLess old.version.data version.version.data = true := by
  simp only [VersionManager.registerVersion] at ok
  split_ifs at ok with empty emptyVersion newer <;> cases ok
  by_cases same : id = version.workflowID
  · subst same
    split at newer <;> rename_i found
    · exact .inr ⟨rfl,by simp,by simp [found]⟩
    · exact .inr ⟨rfl,by simp,fun old h => by cases found.symm.trans h; exact newer⟩
  · exact .inl (by simp [same])
  · exact .inl rfl

theorem registerVersionOthers {vm vm' : VersionManager} {version : WorkflowVersion}
    (ok : vm.registerVersion version = .ok vm') {id : String} (other : id ≠ version.workflowID) :
    vm'.latest id = vm.latest id :=
  (registerVersionLatest ok id).elim (fun kept => kept) fun moved => absurd moved.1 other

theorem registerVersionStored {vm vm' : VersionManager} {version : WorkflowVersion}
    (ok : vm.registerVersion version = .ok vm') :
    vm'.versions = setVersion vm.versions { version with dependents := dependentsOf vm.versions version.workflowID } ∧
      (vm'.latest version.workflowID).isSome := by
  simp only [VersionManager.registerVersion] at ok
  split_ifs at ok with empty emptyVersion newer <;> cases ok
  · simp
  · split at newer <;> simp_all

theorem registerWorkflowOk {wm wm' : WorkflowManager} {workflowID version : String} {builder : WorkflowBuilder}
    {metadata : Option (List (String × MetaValue))} (ok : wm.registerWorkflow workflowID version builder metadata = .ok wm') :
    wm' = wm ∨ (wm.versions.canUpdate workflowID version).1 = true ∧ ∃ definition, builder = .ok definition ∧
      wm.versions.registerVersion ⟨workflowID,version,definition,extractDependencies definition,[]⟩ = .ok wm'.versions := by
  simp only [WorkflowManager.registerWorkflow] at ok
  split at ok
  · split at ok
    · cases ok
    · split at ok
      · cases ok
      · cases ok; exact .inl rfl
  · rename_i passed
    split at ok
    · cases ok
    · rename_i definition
      split at ok
      · cases ok
      · rename_i registered; cases ok
        exact .inr ⟨by simpa using passed,definition,rfl,registered⟩

theorem hasWorkflowIDIff {versions : List WorkflowVersion} {id : String} :
    hasWorkflowID versions id = true ↔ ∃ v ∈ versions, v.workflowID = id := by
  simp [hasWorkflowID]

theorem hasWorkflowIDSet (versions : List WorkflowVersion) (version : WorkflowVersion) (id : String) :
    hasWorkflowID (setVersion versions version) id = (hasWorkflowID versions id || version.workflowID == id) := by
  unfold setVersion
  split <;> rename_i found
  · obtain ⟨old,hold⟩ := Option.isSome_iff_exists.mp found
    have matched : old.workflowID = version.workflowID ∧ old.version = version.version := by
      simpa [findVersion] using List.find?_some hold
    have stored : hasWorkflowID versions version.workflowID = true :=
      hasWorkflowIDIff.mpr ⟨old,List.mem_of_find?_eq_some hold,matched.1⟩
    have ids : ∀ v : WorkflowVersion,
        (if v.workflowID = version.workflowID ∧ v.version = version.version then version else v).workflowID =
          v.workflowID := by
      intro v; split <;> simp_all
    simp only [hasWorkflowID,List.any_map,Function.comp_def,ids]
    by_cases h : version.workflowID = id
    · subst h; simpa [hasWorkflowID] using stored
    · simp [h]
  · simp [hasWorkflowID]

/-- Either the latest version is unchanged, or it is now a version newer in Go's string order
than every version that was latest before. -/
def Advances (old new : Option String) : Prop :=
  new = old ∨ ∃ v, new = some v ∧ ∀ o, old = some o → stringLess o.data v.data = true

theorem latestAdvances {wm wm' : WorkflowManager} {workflowID version : String} {builder : WorkflowBuilder}
    {metadata : Option (List (String × MetaValue))} (ok : wm.registerWorkflow workflowID version builder metadata = .ok wm')
    (id : String) : Advances (latestVersion wm.versions id) (latestVersion wm'.versions id) := by
  rcases registerWorkflowOk ok with same | ⟨-,definition,-,registered⟩
  · exact .inl (by rw [same])
  · rcases registerVersionLatest registered id with kept | ⟨-,moved,newer⟩
    · exact .inl (by simp only [latestVersion,kept])
    · refine .inr ⟨version,by simp [latestVersion,moved],fun o was => ?_⟩
      obtain ⟨old,found,rfl⟩ := Option.map_eq_some'.mp was
      exact newer old found

/-! ### Histories -/

structure Registration where
  workflowID : String
  version : String
  builder : WorkflowBuilder
  metadata : Option (List (String × MetaValue))

def WorkflowManager.apply (wm : WorkflowManager) (r : Registration) : WorkflowManager :=
  match wm.registerWorkflow r.workflowID r.version r.builder r.metadata with
  | .ok wm' => wm'
  | .error _ => wm

def WorkflowManager.history (wm : WorkflowManager) : List Registration → List WorkflowManager
  | [] => [wm]
  | r :: rs => wm :: (wm.apply r).history rs

theorem applyOk (wm : WorkflowManager) (r : Registration) :
    wm.apply r = wm ∨ wm.registerWorkflow r.workflowID r.version r.builder r.metadata = .ok (wm.apply r) := by
  unfold WorkflowManager.apply; split <;> rename_i h
  · exact .inr h
  · exact .inl rfl

theorem headHistory (wm : WorkflowManager) (calls : List Registration) : ∃ rest, wm.history calls = wm :: rest := by
  cases calls <;> exact ⟨_,rfl⟩

theorem applyAdvances (wm : WorkflowManager) (r : Registration) (id : String) :
    Advances (latestVersion wm.versions id) (latestVersion (wm.apply r).versions id) := by
  rcases applyOk wm r with same | ok
  · exact .inl (by rw [same])
  · exact latestAdvances ok id

theorem latestOnlyRises (wm : WorkflowManager) (calls : List Registration) (id : String) :
    ((wm.history calls).map fun wm => latestVersion wm.versions id).Chain' Advances := by
  induction calls generalizing wm with
  | nil => exact List.chain'_singleton _
  | cons r rs ih =>
    obtain ⟨rest,shape⟩ := headHistory (wm.apply r) rs
    have tail := ih (wm.apply r)
    rw [shape,List.map_cons] at tail
    rw [WorkflowManager.history,shape,List.map_cons,List.map_cons]
    exact tail.cons (applyAdvances wm r id)

/-! ### The snapshot of `Dependents` -/

def subWorkflowOn (id : String) : WorkflowDefinition :=
  ⟨[⟨"call",[],"lua",[("workflow_type",.str "sub-workflow"),("workflow_id",.str id)]⟩]⟩

def LatestDefined (vm : VersionManager) : Prop := ∀ id, (vm.latest id).isSome = hasWorkflowID vm.versions id

theorem latestDefinedNew : LatestDefined newWorkflowManager.versions := fun _ => rfl

theorem latestDefinedRegister {vm vm' : VersionManager} {version : WorkflowVersion} (defined : LatestDefined vm)
    (ok : vm.registerVersion version = .ok vm') : LatestDefined vm' := by
  intro id
  obtain ⟨stored,present⟩ := registerVersionStored ok
  rw [stored,hasWorkflowIDSet]
  by_cases same : id = version.workflowID
  · subst same; simp [present]
  · rw [registerVersionOthers ok same,defined id]
    simp [Ne.symm same]

theorem latestDefinedApply {wm : WorkflowManager} (defined : LatestDefined wm.versions) (r : Registration) :
    LatestDefined (wm.apply r).versions := by
  rcases applyOk wm r with same | ok
  · rw [same]; exact defined
  · rcases registerWorkflowOk ok with same | ⟨-,_,-,registered⟩
    · rw [same]; exact defined
    · exact latestDefinedRegister defined registered

theorem blockedByDependents {wm : WorkflowManager} {workflowID : String} {lv : WorkflowVersion}
    (defined : LatestDefined wm.versions) (latest : wm.versions.latest workflowID = some lv) (depended : lv.dependents ≠ [])
    (version : String) (builder : WorkflowBuilder) (metadata : Option (List (String × MetaValue))) :
    wm.registerWorkflow workflowID version builder metadata =
      .error ("cannot update workflow " ++ workflowID ++ ": has dependents " ++ formatList lv.dependents) := by
  have present : hasWorkflowID wm.versions.versions workflowID = true := by rw [← defined,latest]; rfl
  have positive : lv.dependents.length > 0 := List.length_pos.mpr depended
  simp [WorkflowManager.registerWorkflow,VersionManager.canUpdate,present,latest,positive]

theorem applyOtherLatest {wm : WorkflowManager} (r : Registration) {id : String} (other : r.workflowID ≠ id) :
    (wm.apply r).versions.latest id = wm.versions.latest id := by
  rcases applyOk wm r with same | ok
  · rw [same]
  · rcases registerWorkflowOk ok with same | ⟨-,_,-,registered⟩
    · rw [same]
    · exact registerVersionOthers registered (Ne.symm other)

theorem dependentsFreeze {wm : WorkflowManager} {workflowID : String} {lv : WorkflowVersion}
    (defined : LatestDefined wm.versions) (latest : wm.versions.latest workflowID = some lv) (depended : lv.dependents ≠ [])
    (calls : List Registration) : ∀ wm' ∈ wm.history calls, wm'.versions.latest workflowID = some lv ∧
      ∀ version builder metadata, wm'.registerWorkflow workflowID version builder metadata =
        .error ("cannot update workflow " ++ workflowID ++ ": has dependents " ++ formatList lv.dependents) := by
  induction calls generalizing wm with
  | nil =>
    intro wm' member
    cases List.mem_singleton.mp member
    exact ⟨latest,blockedByDependents defined latest depended⟩
  | cons r rs ih =>
    have kept : (wm.apply r).versions.latest workflowID = some lv := by
      by_cases same : r.workflowID = workflowID
      · subst same
        simp only [WorkflowManager.apply,blockedByDependents defined latest depended,latest]
      · rw [applyOtherLatest r same,latest]
    intro wm' member
    rcases List.mem_cons.mp member with rfl | later
    · exact ⟨latest,blockedByDependents defined latest depended⟩
    · exact ih (latestDefinedApply defined r) kept wm' later

def dependentFirst : WorkflowManager :=
  (newWorkflowManager.apply ⟨"x","1.0.0",.ok (subWorkflowOn "w"),none⟩).apply ⟨"w","1.0.0",.ok ⟨[]⟩,none⟩

theorem dependentFirstFreezes : ∃ lv, LatestDefined dependentFirst.versions ∧
    dependentFirst.versions.latest "w" = some lv ∧ lv.dependents = ["x"] ∧
    ∀ wm' ∈ dependentFirst.history [⟨"w","2.0.0",.ok ⟨[]⟩,none⟩,⟨"x","2.0.0",.ok ⟨[]⟩,none⟩],
      wm'.versions.latest "w" = some lv ∧ ∀ version builder metadata, wm'.registerWorkflow "w" version builder metadata =
        .error ("cannot update workflow " ++ "w" ++ ": has dependents " ++ formatList lv.dependents) := by
  obtain ⟨lv,latest,listed⟩ : ∃ lv, dependentFirst.versions.latest "w" = some lv ∧ lv.dependents = ["x"] := ⟨_,rfl,rfl⟩
  have defined : LatestDefined dependentFirst.versions := latestDefinedApply (latestDefinedApply latestDefinedNew _) _
  exact ⟨lv,defined,latest,listed,dependentsFreeze defined latest (by simp [listed]) _⟩

/-- `x` is registered after `w` and lists it, yet `w` is updated: the `Dependents` of `w`'s
latest version were computed before `x` existed and nothing recomputes them. -/
theorem laterDependentIgnored :
    ∃ wm₁ wm₂ wm₃, newWorkflowManager.registerWorkflow "w" "1.0.0" (.ok ⟨[]⟩) none = .ok wm₁ ∧
      wm₁.registerWorkflow "x" "1.0.0" (.ok (subWorkflowOn "w")) none = .ok wm₂ ∧
      (wm₂.versions.latest "x").map (·.dependencies) = some ["w"] ∧
      wm₂.registerWorkflow "w" "2.0.0" (.ok ⟨[]⟩) none = .ok wm₃ ∧ wm₃.getLatestVersion "w" = .ok "2.0.0" :=
  ⟨_,_,_,rfl,rfl,rfl,rfl,rfl⟩

/-! ### Semantic-version precedence

The order the comment of `isNewerVersion` and the README name: `MAJOR.MINOR.PATCH` compared numerically, a
pre-release (after `-`) below its release, its dot-separated identifiers compared numerically
when numeric and in ASCII order otherwise, build metadata (after `+`) ignored. -/

structure Semver where
  core : List Nat
  pre : List (List Char)
  deriving DecidableEq, Repr

def digitsValue (cs : List Char) : Option Nat :=
  if cs ≠ [] ∧ cs.all Char.isDigit then some (cs.foldl (fun n c => n * 10 + (c.toNat - 48)) 0) else none

def parseSemver (s : String) : Option Semver :=
  match ((s.data.splitOn '+').headD []).splitOn '-' with
  | [] => none
  | core :: pre =>
    match (core.splitOn '.').mapM digitsValue with
    | some [major, minor, patch] =>
      some ⟨[major, minor, patch],if pre = [] then [] else (List.intercalate ['-'] pre).splitOn '.'⟩
    | _ => none

def identifierPrecedes (a b : List Char) : Bool :=
  match digitsValue a, digitsValue b with
  | some m, some n => m < n
  | some _, none => true
  | none, some _ => false
  | none, none => stringLess a b

def prePrecedes : List (List Char) → List (List Char) → Bool
  | _, [] => false
  | [], _ :: _ => true
  | a :: as, b :: bs => identifierPrecedes a b || (a == b && prePrecedes as bs)

def corePrecedes : List Nat → List Nat → Bool
  | a :: as, b :: bs => a < b || (a == b && corePrecedes as bs)
  | _, _ => false

def Semver.precedes (a b : Semver) : Bool :=
  corePrecedes a.core b.core || (a.core == b.core && match a.pre, b.pre with
    | [], _ => false
    | _ :: _, [] => true
    | p, q => prePrecedes p q)

def semverPrecedes (a b : String) : Bool :=
  match parseSemver a, parseSemver b with
  | some a, some b => a.precedes b
  | _, _ => false

theorem latestMovesBackward :
    ∃ wm₁ wm₂, newWorkflowManager.registerWorkflow "w" "10.0.0" (.ok ⟨[]⟩) none = .ok wm₁ ∧
      wm₁.registerWorkflow "w" "9.0.0" (.ok ⟨[]⟩) none = .ok wm₂ ∧
      wm₁.getLatestVersion "w" = .ok "10.0.0" ∧ wm₂.getLatestVersion "w" = .ok "9.0.0" ∧
      semverPrecedes "9.0.0" "10.0.0" = true :=
  ⟨_,_,rfl,rfl,rfl,rfl,rfl⟩

end Workflows.Registry
