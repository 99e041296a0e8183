import Workflows.Discovery
import Workflows.ExecutionIds
/-! The configuration of the orchestrator: `LoadConfig` over the process environment, with
`strconv.Atoi` and `strconv.ParseBool`, `Config.Validate`, and the checks of `NewOrchestratorV2`
before it creates the service discovery. A variable that is unset, empty or does not parse
leaves its default. `Validate` admits the balancer type `least-connections`, which the switch
of `NewOrchestratorV2` refuses, and it leaves the later switch on `TransportType` nothing to
refuse. -/
namespace Workflows.Dispatch
open Balancer

/-! ### `strconv` -/

def splitSign : List Char → Bool × List Char
  | c :: rest => if c = '-' then (true,rest) else if c = '+' then (false,rest) else (false,c :: rest)
  | [] => (false,[])

/-- `strconv.Atoi` with a 64-bit `int`: a sign, then ASCII digits of a value in range. Its fast
path for fewer than 19 bytes and its `ParseInt` path accept the same strings. -/
def atoi (s : String) : Option Int :=
  let (negative,digits) := splitSign s.data
  if digits ≠ [] ∧ digits.all Char.isDigit then
    let n : Int := if negative then -(decimalValue digits : Int) else decimalValue digits
    if -2 ^ 63 ≤ n ∧ n < 2 ^ 63 then some n else none
  else none

def parseBool (s : String) : Option Bool :=
  if s ∈ ["1","t","T","true","TRUE","True"] then some true
  else if s ∈ ["0","f","F","false","FALSE","False"] then some false
  else none

theorem splitSignDigits : ∀ {cs : List Char}, (∀ c ∈ cs, c.isDigit) → splitSign cs = (false,cs)
  | [], _ => rfl
  | c :: rest, digits => by
    have digit := digits c (List.mem_cons_self c rest)
    have notMinus : c ≠ '-' := fun same => by rw [same] at digit; exact absurd digit (by decide)
    have notPlus : c ≠ '+' := fun same => by rw [same] at digit; exact absurd digit (by decide)
    simp only [splitSign,if_neg notMinus,if_neg notPlus]

theorem isDigitDigitChar {d : Nat} (small : d < 10) : (digitChar d).isDigit := by
  interval_cases d <;> rfl

theorem atoiFormatDecimal {n : Int} (low : -2 ^ 63 ≤ n) (high : n < 2 ^ 63) : atoi (formatDecimal n) = some n := by
  have digits : ∀ c ∈ decimalDigits n.natAbs, c.isDigit := decimalDigitsAll (fun _ => isDigitDigitChar) _
  have spelled : decimalDigits n.natAbs ≠ [] ∧ (decimalDigits n.natAbs).all Char.isDigit :=
    ⟨decimalDigitsNeNil _,List.all_eq_true.mpr digits⟩
  unfold atoi formatDecimal
  by_cases negative : n < 0
  · simp only [if_pos negative,List.singleton_append,splitSign,if_true,if_pos spelled,decimalValueDigits]
    rw [if_pos (by omega)]
    congr 1; omega
  · simp only [if_neg negative,List.nil_append,splitSignDigits digits,if_pos spelled,decimalValueDigits,
      Bool.false_eq_true,if_false]
    rw [if_pos (by omega)]
    congr 1; omega

/-! ### `LoadConfig` -/

structure Config where
  transportType : String
  k8sNamespace : String
  k8sServiceName : String
  k8sLabelSelector : String
  inClusterConfig : Bool
  loadBalancerType : String
  loadBalancerNodes : Int
  grpcAddress : String
  grpcPort : Int
  maxConnections : Int
  connectionTimeout : Int
  engineDiscoveryInterval : Int
  engineHealthCheckInterval : Int
  deriving DecidableEq, Repr

section
variable (env : String → String)

def getEnv (key defaultValue : String) : String := if env key ≠ "" then env key else defaultValue

def getEnvInt (key : String) (defaultValue : Int) : Int :=
  if env key ≠ "" then (atoi (env key)).getD defaultValue else defaultValue

def getEnvBool (key : String) (defaultValue : Bool) : Bool :=
  if env key ≠ "" then (parseBool (env key)).getD defaultValue else defaultValue

def loadConfig : Config where
  transportType := getEnv env "TRANSPORT_TYPE" "grpc"
  k8sNamespace := getEnv env "K8S_NAMESPACE" "default"
  k8sServiceName := getEnv env "K8S_SERVICE_NAME" "workflow-engines"
  k8sLabelSelector := getEnv env "K8S_LABEL_SELECTOR" "app=workflow-engine"
  inClusterConfig := getEnvBool env "IN_CLUSTER_CONFIG" true
  loadBalancerType := getEnv env "LOAD_BALANCER_TYPE" "consistent-hash"
  loadBalancerNodes := getEnvInt env "LOAD_BALANCER_NODES" 150
  grpcAddress := getEnv env "GRPC_ADDRESS" "0.0.0.0"
  grpcPort := getEnvInt env "GRPC_PORT" 50051
  maxConnections := getEnvInt env "MAX_CONNECTIONS" 100
  connectionTimeout := getEnvInt env "CONNECTION_TIMEOUT" 30
  engineDiscoveryInterval := getEnvInt env "ENGINE_DISCOVERY_INTERVAL" 30
  engineHealthCheckInterval := getEnvInt env "ENGINE_HEALTH_CHECK_INTERVAL" 10

variable {env}

theorem getEnvIntAtoi (key : String) (defaultValue : Int) :
    getEnvInt env key defaultValue = (atoi (env key)).getD defaultValue := by
  unfold getEnvInt
  split_ifs with set
  · rfl
  · rw [not_not.mp set]; rfl

end

theorem getEnvIntFormatDecimal {env : String → String} {key : String} {n : Int} (low : -2 ^ 63 ≤ n) (high : n < 2 ^ 63)
    (set : env key = formatDecimal n) (defaultValue : Int) : getEnvInt env key defaultValue = n := by
  rw [getEnvIntAtoi,set,atoiFormatDecimal low high]; rfl

theorem grpcPortReadBack : -2 ^ 63 ≤ (8080 : Int) ∧ (8080 : Int) < 2 ^ 63 ∧
    getEnvInt (fun _ => formatDecimal 8080) "GRPC_PORT" 50051 = 8080 :=
  ⟨by decide,by decide,getEnvIntFormatDecimal (by decide) (by decide) rfl 50051⟩

/-! ### `Validate` and `NewOrchestratorV2` -/

def Config.validate (c : Config) : Option String :=
  if c.transportType ≠ "grpc" then some ("unsupported transport type: " ++ c.transportType)
  else if c.loadBalancerType ≠ "consistent-hash" ∧ c.loadBalancerType ≠ "round-robin" ∧
      c.loadBalancerType ≠ "least-connections" then
    some ("unsupported load balancer type: " ++ c.loadBalancerType)
  else if c.grpcPort ≤ 0 ∨ c.grpcPort > 65535 then some ("invalid gRPC port: " ++ formatDecimal c.grpcPort)
  else none

/-- `NewOrchestratorV2` up to the creation of the service discovery: the balancer it builds. -/
def newOrchestratorV2 (cfg : Config) : Except String LoadBalancer := do
  match cfg.validate with
  | some err => throw ("invalid config: " ++ err)
  | none => pure ()
  let lb ← newLoadBalancer cfg.loadBalancerType
  if cfg.transportType = "grpc" then pure lb else throw ("unsupported transport type: " ++ cfg.transportType)

theorem Config.validateNone (c : Config) : c.validate = none ↔ c.transportType = "grpc" ∧
    c.loadBalancerType ∈ ["consistent-hash","round-robin","least-connections"] ∧ 0 < c.grpcPort ∧ c.grpcPort ≤ 65535 := by
  unfold Config.validate
  split_ifs with transport balancer port
  · simp only [reduceCtorEq,false_iff]; exact fun ⟨grpc,_⟩ => transport grpc
  · simp only [reduceCtorEq,false_iff,List.mem_cons,List.mem_singleton,List.not_mem_nil,or_false]
    exact fun ⟨_,named,_⟩ => by rcases named with same | same | same <;> simp [same] at balancer
  · simp only [reduceCtorEq,false_iff]; omega
  · simp only [true_iff,List.mem_cons,List.mem_singleton,List.not_mem_nil,or_false]
    refine ⟨not_not.mp transport,?_,by omega,by omega⟩
    by_contra other; push_neg at other; exact balancer other

theorem newLoadBalancerOk {loadBalancerType : String} :
    (∃ lb, newLoadBalancer loadBalancerType = .ok lb) ↔ loadBalancerType = "consistent-hash" ∨ loadBalancerType = "round-robin" := by
  unfold newLoadBalancer
  split_ifs <;> simp_all

theorem newOrchestratorV2Eq (cfg : Config) : newOrchestratorV2 cfg =
    match cfg.validate with
    | some err => .error ("invalid config: " ++ err)
    | none => newLoadBalancer cfg.loadBalancerType := by
  cases valid : cfg.validate with
  | some err => simp only [newOrchestratorV2,valid]; rfl
  | none =>
    have grpc := ((Config.validateNone cfg).mp valid).1
    simp only [newOrchestratorV2,valid,grpc,if_true,bind,Except.bind,pure,Except.pure]
    cases newLoadBalancer cfg.loadBalancerType <;> rfl

theorem newOrchestratorV2Ok (cfg : Config) :
    (∃ lb, newOrchestratorV2 cfg = .ok lb) ↔ cfg.validate = none ∧ ∃ lb, newLoadBalancer cfg.loadBalancerType = .ok lb := by
  rw [newOrchestratorV2Eq]
  cases cfg.validate <;> simp

theorem newOrchestratorV2Error (cfg : Config) (err : String) : newOrchestratorV2 cfg = .error err ↔
    (∃ e, cfg.validate = some e ∧ err = "invalid config: " ++ e) ∨
      cfg.validate = none ∧ cfg.loadBalancerType = "least-connections" ∧
        err = "unsupported load balancer type: least-connections" := by
  rw [newOrchestratorV2Eq]
  cases valid : cfg.validate with
  | some e => simp only [Except.error.injEq,reduceCtorEq,false_and,or_false,Option.some.injEq,exists_eq_left']; exact eq_comm
  | none =>
    have named := ((Config.validateNone cfg).mp valid).2.1
    simp only [List.mem_cons,List.mem_singleton,List.not_mem_nil,or_false] at named
    simp only [reduceCtorEq,false_and,exists_false,true_and,false_or]
    rcases named with same | same | same <;> simp [newLoadBalancer,same,eq_comm]

theorem loadConfigStarts (env : String → String) : (∃ lb, newOrchestratorV2 (loadConfig env) = .ok lb) ↔
    env "TRANSPORT_TYPE" ∈ ["","grpc"] ∧ env "LOAD_BALANCER_TYPE" ∈ ["","consistent-hash","round-robin"] ∧
      ∀ p, atoi (env "GRPC_PORT") = some p → 0 < p ∧ p ≤ 65535 := by
  have transport : (loadConfig env).transportType = "grpc" ↔ env "TRANSPORT_TYPE" ∈ ["","grpc"] := by
    simp only [loadConfig,getEnv,List.mem_cons,List.mem_singleton,List.not_mem_nil,or_false]
    by_cases blank : env "TRANSPORT_TYPE" = "" <;> simp [blank]
  have port : (0 < (loadConfig env).grpcPort ∧ (loadConfig env).grpcPort ≤ 65535) ↔
      ∀ p, atoi (env "GRPC_PORT") = some p → 0 < p ∧ p ≤ 65535 := by
    simp only [loadConfig,getEnvIntAtoi]
    cases atoi (env "GRPC_PORT") <;> simp
  have balancer : (∃ lb, newLoadBalancer (loadConfig env).loadBalancerType = .ok lb) ↔
      env "LOAD_BALANCER_TYPE" ∈ ["","consistent-hash","round-robin"] := by
    rw [newLoadBalancerOk]
    simp only [loadConfig,getEnv,List.mem_cons,List.mem_singleton,List.not_mem_nil,or_false]
    by_cases blank : env "LOAD_BALANCER_TYPE" = "" <;> simp [blank]
  have named : env "LOAD_BALANCER_TYPE" ∈ ["","consistent-hash","round-robin"] →
      (loadConfig env).loadBalancerType ∈ ["consistent-hash","round-robin","least-connections"] := fun named => by
    rcases newLoadBalancerOk.mp (balancer.mpr named) with same | same <;> simp [same]
  rw [newOrchestratorV2Ok,Config.validateNone,transport,port,balancer]
  exact ⟨fun ⟨⟨grpc,_,ported⟩,built⟩ => ⟨grpc,built,ported⟩,fun ⟨grpc,built,ported⟩ => ⟨⟨grpc,named built,ported⟩,built⟩⟩

example : (loadConfig fun _ => "").validate = none := by decide

end Workflows.Dispatch
