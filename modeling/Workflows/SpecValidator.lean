import Workflows.VersionHistory
import Workflows.ExecutionIds
/-! `WorkflowSpec.Validate` of the `spec` package and the checks it calls. Each `Validate`
returns its first error, except the top one, which collects the errors of its four parts and
joins them. The regular expressions are matched by hand: each of them is deterministic (a run of
`\d` or of a character class always ends at a character outside it), so reading greedily
decides the match. `Validate` has no cycle check: a spec whose dependencies form a cycle passes.
`isValidID` is `^[a-zA-Z0-9_-]+$` and `isValidK8sName` is `^[a-z0-9]([a-z0-9-]*[a-z0-9])?$`
on at most 253 bytes; `fields` is `strings.Fields` over `unicode.IsSpace`. -/
namespace Workflows.Spec

/-! ### The patterns -/

def isValidID (id : String) : Bool :=
  !id.data.isEmpty && id.data.all fun c => c.isAlphanum || c = '_' || c = '-'

def matchBuild : List Char → Bool
  | [] => true
  | '+' :: tag => !tag.isEmpty && tag.all Char.isAlphanum
  | _ => false

def matchPreRelease : List Char → Bool
  | '-' :: rest => !(rest.span Char.isAlphanum).1.isEmpty && matchBuild (rest.span Char.isAlphanum).2
  | rest => matchBuild rest

def matchCore (cs : List Char) : Bool :=
  match cs.span Char.isDigit with
  | (major, '.' :: rest) =>
    match rest.span Char.isDigit with
    | (minor, '.' :: rest) =>
      !major.isEmpty && !minor.isEmpty && !(rest.span Char.isDigit).1.isEmpty &&
        matchPreRelease (rest.span Char.isDigit).2
    | _ => false
  | _ => false

/-- `^v?\d+\.\d+\.\d+(-[a-zA-Z0-9]+)?(\+[a-zA-Z0-9]+)?$`; `\d` is ASCII in Go's syntax. -/
def isValidVersion (version : String) : Bool :=
  match version.data with
  | 'v' :: cs => matchCore cs
  | cs => matchCore cs

def isLowerAlnum (c : Char) : Bool := c.isLower || c.isDigit

def isValidK8sName (name : String) : Bool :=
  if name.data = [] ∨ name.utf8ByteSize > 253 then false
  else match name.data with
    | [] => false
    | c :: rest => isLowerAlnum c && rest.all (fun c => isLowerAlnum c || c = '-') && (rest.getLast?.all isLowerAlnum)

def isSpace (c : Char) : Bool :=
  c = ' ' || c = '\t' || c = '\n' || c = '\x0b' || c = '\x0c' || c = '\r' || c = '\x85' || c = '\xa0' ||
    c = '\u1680' || ('\u2000' ≤ c && c ≤ '\u200a') || c = '\u2028' || c = '\u2029' || c = '\u202f' ||
    c = '\u205f' || c = '\u3000'

def fields (cs : List Char) : List (List Char) := (cs.splitOnP isSpace).filter (· ≠ [])

/-- `unicode.ToUpper`, for the membership test it feeds: the ASCII letters, and the two runes
outside ASCII whose upper case is ASCII; every other rune has an upper case outside ASCII and is
kept as it is, which decides that test the same way. -/
def toUpperRune (c : Char) : Char :=
  if c = '\u0131' then 'I' else if c = '\u017f' then 'S' else c.toUpper

def toUpper (s : String) : String := ⟨s.data.map toUpperRune⟩

/-! ### The spec -/

structure WorkflowMetadata where
  id : String
  name : String
  version : String
  deriving DecidableEq, Repr

structure ExecutorSpec where
  type : String
  code : String
  deriving DecidableEq, Repr

structure NodeSpec where
  id : String
  dependencies : List String
  executor : ExecutorSpec
  deriving DecidableEq, Repr

structure HTTPTriggerSpec where
  port : Int
  path : String
  method : String
  deriving DecidableEq, Repr

structure CronTriggerSpec where
  schedule : String
  deriving DecidableEq, Repr

structure TriggersSpec where
  http : Option HTTPTriggerSpec
  cron : Option CronTriggerSpec
  deriving DecidableEq, Repr

structure SecretRef where
  name : String
  deriving DecidableEq, Repr

structure ConfigSpec where
  secrets : List SecretRef
  deriving DecidableEq, Repr

structure WorkflowSpecDef where
  nodes : List NodeSpec
  triggers : Option TriggersSpec
  configuration : Option ConfigSpec
  deriving DecidableEq, Repr

structure WorkflowSpec where
  apiVersion : String
  kind : String
  metadata : WorkflowMetadata
  spec : WorkflowSpecDef
  deriving DecidableEq, Repr

/-! ### `Validate`, a nil error as `none` -/

def formatIndex (i : Nat) : String := Dispatch.formatDecimal i

def WorkflowMetadata.validate (wm : WorkflowMetadata) : Option String :=
  if wm.id = "" then some "id is required"
  else if !isValidID wm.id then some ("id must be alphanumeric with hyphens and underscores only: " ++ wm.id)
  else if wm.name = "" then some "name is required"
  else if wm.version = "" then some "version is required"
  else if !isValidVersion wm.version then some ("version must be a valid semantic version: " ++ wm.version)
  else none

def ExecutorSpec.validate (es : ExecutorSpec) : Option String :=
  if es.type = "" then some "type is required"
  else if es.type ∉ ["lua","shell"] then some ("unsupported executor type: " ++ es.type ++ " (supported: lua, shell)")
  else if es.type = "lua" ∧ es.code = "" then some "code is required for lua executor"
  else none

def NodeSpec.validate (ns : NodeSpec) : Option String :=
  if ns.id = "" then some "id is required"
  else if !isValidID ns.id then some ("id must be alphanumeric with hyphens and underscores only: " ++ ns.id)
  else ns.executor.validate.map ("executor: " ++ ·)

def HTTPTriggerSpec.validate (hts : HTTPTriggerSpec) : Option String :=
  if hts.port ≤ 0 ∨ hts.port > 65535 then some ("port must be between 1 and 65535: " ++ Dispatch.formatDecimal hts.port)
  else if hts.path = "" then some "path is required"
  else if hts.path.data.head? ≠ some '/' then some ("path must start with \x27/\x27: " ++ hts.path)
  else if hts.method ≠ "" ∧ toUpper hts.method ∉ ["GET","POST","PUT","DELETE","PATCH"] then
    some ("invalid HTTP method: " ++ hts.method)
  else none

def CronTriggerSpec.validate (cts : CronTriggerSpec) : Option String :=
  if cts.schedule = "" then some "schedule is required"
  else if (fields cts.schedule.data).length ≠ 6 then
    some ("cron schedule must have 6 fields (seconds minutes hours day month weekday): " ++ cts.schedule)
  else none

def TriggersSpec.validate (ts : TriggersSpec) : Option String :=
  match ts.http.bind HTTPTriggerSpec.validate with
  | some err => some ("http: " ++ err)
  | none => (ts.cron.bind CronTriggerSpec.validate).map ("cron: " ++ ·)

def SecretRef.validate (sr : SecretRef) : Option String :=
  if sr.name = "" then some "name is required"
  else if !isValidK8sName sr.name then some ("secret name must be a valid Kubernetes name: " ++ sr.name)
  else none

def validateSecrets : Nat → List SecretRef → Option String
  | _, [] => none
  | i, secret :: rest =>
    match secret.validate with
    | some err => some ("secrets[" ++ formatIndex i ++ "]: " ++ err)
    | none => validateSecrets (i + 1) rest

def ConfigSpec.validate (cs : ConfigSpec) : Option String := validateSecrets 0 cs.secrets

def checkNodes : Nat → List String → List NodeSpec → Except String (List String)
  | _, seen, [] => .ok seen
  | i, seen, node :: rest =>
    match node.validate with
    | some err => .error ("node[" ++ formatIndex i ++ "]: " ++ err)
    | none => if node.id ∈ seen then .error ("duplicate node id: " ++ node.id) else checkNodes (i + 1) (seen ++ [node.id]) rest

def checkDependencies (nodeIDs : List String) : Nat → List NodeSpec → Option String
  | _, [] => none
  | i, node :: rest =>
    match node.dependencies.find? (· ∉ nodeIDs) with
    | some dep => some ("node[" ++ formatIndex i ++ "] depends on non-existent node: " ++ dep)
    | none => checkDependencies nodeIDs (i + 1) rest

def WorkflowSpecDef.validate (wsd : WorkflowSpecDef) : Option String :=
  if wsd.nodes.length = 0 then some "at least one node is required"
  else match checkNodes 0 [] wsd.nodes with
    | .error err => some err
    | .ok nodeIDs =>
      match checkDependencies nodeIDs 0 wsd.nodes with
      | some err => some err
      | none =>
        match wsd.triggers.bind TriggersSpec.validate with
        | some err => some ("triggers: " ++ err)
        | none => (wsd.configuration.bind ConfigSpec.validate).map ("configuration: " ++ ·)

def WorkflowSpec.errors (ws : WorkflowSpec) : List String :=
  (if ws.apiVersion = "" then ["apiVersion is required"]
    else if ws.apiVersion ≠ "workflows/v1" then ["unsupported apiVersion: " ++ ws.apiVersion ++ " (expected: workflows/v1)"]
    else []) ++
  (if ws.kind = "" then ["kind is required"]
    else if ws.kind ≠ "Workflow" then ["unsupported kind: " ++ ws.kind ++ " (expected: Workflow)"]
    else []) ++
  (ws.metadata.validate.map ("metadata: " ++ ·)).toList ++ (ws.spec.validate.map ("spec: " ++ ·)).toList

def WorkflowSpec.validate (ws : WorkflowSpec) : Option String :=
  if ws.errors.length > 0 then some ("validation failed: " ++ "; ".intercalate ws.errors) else none

/-! ### What `Validate` accepts -/

theorem checkNodesOk {i : Nat} {seen ids : List String} {nodes : List NodeSpec} (distinct : seen.Nodup) :
    checkNodes i seen nodes = .ok ids ↔
      (∀ n ∈ nodes, n.validate = none) ∧ (seen ++ nodes.map (·.id)).Nodup ∧ ids = seen ++ nodes.map (·.id) := by
  induction nodes generalizing i seen with
  | nil => simp [checkNodes,distinct,eq_comm]
  | cons node rest ih =>
    cases valid : node.validate with
    | some err => simp [checkNodes,valid]
    | none =>
      by_cases before : node.id ∈ seen
      · simp [checkNodes,valid,before,List.nodup_append]
      · have grown : (seen ++ [node.id]).Nodup := List.nodup_append.mpr ⟨distinct,List.nodup_singleton _,by simpa using before⟩
        simp only [checkNodes,valid,if_neg before,ih grown]
        simp [valid]

theorem checkDependenciesNone {nodeIDs : List String} {i : Nat} {nodes : List NodeSpec} :
    checkDependencies nodeIDs i nodes = none ↔ ∀ n ∈ nodes, ∀ p ∈ n.dependencies, p ∈ nodeIDs := by
  induction nodes generalizing i with
  | nil => simp [checkDependencies]
  | cons node rest ih =>
    cases found : node.dependencies.find? (· ∉ nodeIDs) with
    | some dep =>
      have missing : dep ∉ nodeIDs := by simpa using List.find?_some found
      simp only [checkDependencies,found,reduceCtorEq,false_iff,not_forall]
      exact ⟨node,List.mem_cons_self _ _,dep,List.mem_of_find?_eq_some found,missing⟩
    | none =>
      have all : ∀ p ∈ node.dependencies, p ∈ nodeIDs := by simpa using List.find?_eq_none.mp found
      simp only [checkDependencies,found,ih,List.forall_mem_cons]
      exact ⟨fun rest => ⟨all,rest⟩,fun both => both.2⟩

theorem WorkflowSpecDef.validateNone {wsd : WorkflowSpecDef} :
    wsd.validate = none ↔ wsd.nodes ≠ [] ∧ (∀ n ∈ wsd.nodes, n.validate = none) ∧ (wsd.nodes.map (·.id)).Nodup ∧
      (∀ n ∈ wsd.nodes, ∀ p ∈ n.dependencies, p ∈ wsd.nodes.map (·.id)) ∧
      (∀ t, wsd.triggers = some t → t.validate = none) ∧ (∀ c, wsd.configuration = some c → c.validate = none) := by
  unfold WorkflowSpecDef.validate
  by_cases empty : wsd.nodes = []
  · simp [empty]
  · rw [if_neg (by simpa using empty)]
    cases checked : checkNodes 0 [] wsd.nodes with
    | error err =>
      refine iff_of_false (by simp) fun ⟨_,all,distinct,_⟩ => ?_
      rw [(@checkNodesOk 0 [] (wsd.nodes.map (·.id)) wsd.nodes List.nodup_nil).mpr ⟨all,by simpa using distinct,by simp⟩]
        at checked
      cases checked
    | ok nodeIDs =>
      obtain ⟨all,distinct,rfl⟩ := (checkNodesOk List.nodup_nil).mp checked
      simp only [List.nil_append] at distinct ⊢
      cases dependencies : checkDependencies (wsd.nodes.map (·.id)) 0 wsd.nodes with
      | some err =>
        refine iff_of_false (by simp) fun ⟨_,_,_,closed,_⟩ => ?_
        rw [checkDependenciesNone.mpr closed] at dependencies
        cases dependencies
      | none =>
        have closed := checkDependenciesNone.mp dependencies
        have triggers : wsd.triggers.bind TriggersSpec.validate = none ↔ ∀ t, wsd.triggers = some t → t.validate = none := by
          cases wsd.triggers <;> simp
        have configuration : wsd.configuration.bind ConfigSpec.validate = none ↔
            ∀ c, wsd.configuration = some c → c.validate = none := by
          cases wsd.configuration <;> simp
        rw [← triggers,← configuration]
        cases wsd.triggers.bind TriggersSpec.validate with
        | some err => simp
        | none =>
          simp only [Option.map_eq_none']
          exact ⟨fun c => ⟨empty,all,distinct,closed,trivial,c⟩,fun h => h.2.2.2.2.2⟩

structure WorkflowSpec.Valid (ws : WorkflowSpec) : Prop where
  apiVersion : ws.apiVersion = "workflows/v1"
  kind : ws.kind = "Workflow"
  metadata : ws.metadata.validate = none
  nodes : ws.spec.nodes ≠ []
  nodesValid : ∀ n ∈ ws.spec.nodes, n.validate = none
  distinct : (ws.spec.nodes.map (·.id)).Nodup
  closed : ∀ n ∈ ws.spec.nodes, ∀ p ∈ n.dependencies, p ∈ ws.spec.nodes.map (·.id)
  triggers : ∀ t, ws.spec.triggers = some t → t.validate = none
  configuration : ∀ c, ws.spec.configuration = some c → c.validate = none

theorem validateNil {ws : WorkflowSpec} : ws.validate = none ↔ ws.Valid := by
  have errorsNil : ws.validate = none ↔ ws.errors = [] := by
    unfold WorkflowSpec.validate
    cases h : ws.errors <;> simp
  have apiVersion : (if ws.apiVersion = "" then ["apiVersion is required"]
      else if ws.apiVersion ≠ "workflows/v1" then ["unsupported apiVersion: " ++ ws.apiVersion ++ " (expected: workflows/v1)"]
      else []) = [] ↔ ws.apiVersion = "workflows/v1" := by
    by_cases empty : ws.apiVersion = "" <;> simp [empty]
  have kind : (if ws.kind = "" then ["kind is required"]
      else if ws.kind ≠ "Workflow" then ["unsupported kind: " ++ ws.kind ++ " (expected: Workflow)"] else []) = [] ↔
      ws.kind = "Workflow" := by
    by_cases empty : ws.kind = "" <;> simp [empty]
  have reported : ∀ (o : Option String) (f : String → String), (o.map f).toList = [] ↔ o = none := fun o f => by
    cases o <;> simp
  rw [errorsNil,WorkflowSpec.errors,List.append_eq_nil,List.append_eq_nil,List.append_eq_nil,apiVersion,kind,
    reported,reported,WorkflowSpecDef.validateNone]
  exact ⟨fun ⟨⟨⟨a,k⟩,m⟩,n,v,d,c,t,g⟩ => ⟨a,k,m,n,v,d,c,t,g⟩,fun ⟨a,k,m,n,v,d,c,t,g⟩ => ⟨⟨⟨a,k⟩,m⟩,n,v,d,c,t,g⟩⟩

/-! ### What `Validate` does not check -/

def WorkflowSpecDef.DependsOn (wsd : WorkflowSpecDef) (p c : String) : Prop :=
  ∃ n ∈ wsd.nodes, n.id = c ∧ p ∈ n.dependencies

def WorkflowSpecDef.Acyclic (wsd : WorkflowSpecDef) : Prop := ∀ id, ¬Relation.TransGen wsd.DependsOn id id

def cyclicSpec : WorkflowSpec :=
  ⟨"workflows/v1","Workflow",⟨"loop","Loop","1.0.0"⟩,
    ⟨[⟨"a",["b"],⟨"lua","return 1"⟩⟩,⟨"b",["a"],⟨"lua","return 2"⟩⟩],none,none⟩⟩

theorem cycleValidates : cyclicSpec.validate = none ∧ ¬cyclicSpec.spec.Acyclic :=
  ⟨rfl,fun acyclic => acyclic "a"
    (.tail (.single ⟨_,List.mem_cons_of_mem _ (List.mem_singleton_self _),rfl,List.mem_singleton_self _⟩)
      ⟨_,List.mem_cons_self _ _,rfl,List.mem_singleton_self _⟩)⟩

/-! ### `isNewerVersion` on valid versions -/

theorem isNewerVersionNotSemantic :
    (isValidVersion "10.0.0" = true ∧ isValidVersion "9.0.0" = true ∧
      Registry.semverPrecedes "9.0.0" "10.0.0" = true ∧ Registry.isNewerVersion "10.0.0" "9.0.0" = false) ∧
    (isValidVersion "1.0.0-alpha" = true ∧ isValidVersion "1.0.0" = true ∧
      Registry.semverPrecedes "1.0.0-alpha" "1.0.0" = true ∧ Registry.isNewerVersion "1.0.0" "1.0.0-alpha" = false) ∧
    (isValidVersion "1.0.0+build" = true ∧ Registry.semverPrecedes "1.0.0" "1.0.0+build" = false ∧
      Registry.isNewerVersion "1.0.0+build" "1.0.0" = true) :=
  ⟨⟨rfl,rfl,rfl,rfl⟩,⟨rfl,rfl,rfl,rfl⟩,rfl,rfl,rfl⟩

end Workflows.Spec
