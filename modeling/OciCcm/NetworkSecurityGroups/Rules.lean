import OciCcm.SecurityLists.Rules

/-! # Rules of network security groups

The rules that a service wants in its frontend and backend groups, and the
comparison with the rules that exist. A group holds the rules of several
services; a rule belongs to the service that its description names.
-/

namespace OciCcm.NetworkSecurityGroups

open Go LoadBalancer List
open SecurityLists (PortRange TcpOptions)

inductive Direction where
  | ingress
  | egress
deriving DecidableEq, Repr

/-- What the source or the destination of a rule names; `unset` is the empty string. -/
inductive EndpointType where
  | unset
  | cidrBlock
  | serviceCidrBlock
  | networkSecurityGroup
deriving DecidableEq, Repr

/-- A rule as it is sent to the server. UDP and ICMP options are left out, as no function
reads them. -/
structure SecurityRule where
  direction : Direction
  description : Option String := none
  protocol : Option String := none
  source : Option String := none
  sourceType : EndpointType := .unset
  destination : Option String := none
  destinationType : EndpointType := .unset
  tcpOptions : Option TcpOptions := none
  isStateless : Option Bool := none
deriving DecidableEq, Repr

/-- A rule as the server stores it. -/
structure StoredRule extends SecurityRule where
  id : String
deriving DecidableEq, Repr

structure SecurityRuleComponents where
  frontendNsgOcid : String
  backendNsgOcids : List String
  ports : GoMap PortSpec
  sourceCIDRs : List String
  isPreserveSource : Bool
  serviceUid : String

/-! ## Generated rules -/

def makeNsgSecurityRule (direction : Direction) (source serviceUid : String) (port : Nat)
    (sourceType : EndpointType) : SecurityRule :=
  let rule : SecurityRule := {
    direction
    description := some serviceUid
    protocol := some "6"
    tcpOptions := some ⟨some ⟨port, port⟩, none⟩
    isStateless := some false }
  match direction with
  | .egress => { rule with destination := some source, destinationType := sourceType }
  | .ingress => { rule with source := some source, sourceType }

/-- The ports that a loop over the port map opens towards the backends: every backend port
and the first health-check port that it meets. -/
def openPorts (healthCheckPortFound : Bool) : List (String × PortSpec) → List Nat
  | [] => []
  | (_, port) :: rest =>
    (if port.backendPort ≠ 0 then [port.backendPort] else []) ++
    (if !healthCheckPortFound && port.healthCheckerPort ≠ 0 then [port.healthCheckerPort] else []) ++
    openPorts (healthCheckPortFound || port.healthCheckerPort ≠ 0) rest

/-- The two loops visit the ports in the orders `loop` and `loop + 1`. -/
def generateNsgBackendIngressRules (o : RangeOrder) (loop : Nat) (ports : GoMap PortSpec)
    (sourceCIDRs : List String) (isPreserveSource : Bool) (frontendNsgId serviceUid : String) :
    List SecurityRule :=
  (if isPreserveSource then
    (o.range loop ports).flatMap fun (_, port) =>
      if port.backendPort ≠ 0 then
        sourceCIDRs.map (makeNsgSecurityRule .ingress · serviceUid port.backendPort .cidrBlock)
      else []
  else []) ++
  (openPorts false (o.range (loop + 1) ports)).map
    (makeNsgSecurityRule .ingress frontendNsgId serviceUid · .networkSecurityGroup)

/-- Without source CIDRs there are no rules. -/
def generateNsgLoadBalancerIngressRules (o : RangeOrder) (loop : Nat) (sourceCIDRs : List String)
    (ports : GoMap PortSpec) (serviceUid : String) : List SecurityRule :=
  (o.range loop ports).flatMap fun (_, port) =>
    if port.listenerPort ≠ 0 then
      sourceCIDRs.map (makeNsgSecurityRule .ingress · serviceUid port.listenerPort .cidrBlock)
    else []

/-- Without backend groups there are no rules. -/
def generateNsgLoadBalancerEgressRules (o : RangeOrder) (loop : Nat) (ports : GoMap PortSpec)
    (backendNsgIds : List String) (serviceUid : String) : List SecurityRule :=
  (openPorts false (o.range loop ports)).flatMap fun port =>
    backendNsgIds.map (makeNsgSecurityRule .egress · serviceUid port .networkSecurityGroup)

/-! ## Comparison with the rules that exist -/

/-- The comparison in the loop of `findSecurityRule`. -/
def sameRule (existingRule rule : SecurityRule) : Bool :=
  equalFold (existingRule.description.getD "") (rule.description.getD "") &&
  equalFold (existingRule.protocol.getD "") (rule.protocol.getD "") &&
  equalFold (existingRule.source.getD "") (rule.source.getD "") &&
  existingRule.sourceType == rule.sourceType &&
  equalFold (existingRule.destination.getD "") (rule.destination.getD "") &&
  existingRule.destinationType == rule.destinationType &&
  existingRule.tcpOptions == rule.tcpOptions &&
  existingRule.direction == rule.direction

def findSecurityRule (rules : List SecurityRule) (rule : SecurityRule) : Bool :=
  rules.any (sameRule · rule)

/-- The rules to add and the ids of the rules to remove. -/
def reconcileSecurityRules (generatedSecurityRules : List SecurityRule)
    (existingSecurityRules : List StoredRule) : List SecurityRule × List String :=
  (generatedSecurityRules.filter fun rule =>
      !findSecurityRule (existingSecurityRules.map (·.toSecurityRule)) rule,
    (existingSecurityRules.filter fun rule =>
      !findSecurityRule generatedSecurityRules rule.toSecurityRule).map (·.id))

def filterSecurityRulesForService (rules : List StoredRule) (serviceUid : String) :
    List StoredRule :=
  rules.filter (·.description = some serviceUid)

def filterSecurityRulesIdsForService (rules : List StoredRule) (serviceUid : String) :
    List String :=
  (filterSecurityRulesForService rules serviceUid).map (·.id)

/-! ## Batches -/

def batchSize := 25

/-- The loop that cuts batches off a slice; every iteration shortens the slice, so its
length bounds their number. -/
def cutBatches {α : Type} : Nat → List α → List (List α)
  | 0, rules => [rules]
  | fuel + 1, rules =>
    if batchSize < rules.length then rules.take batchSize :: cutBatches fuel (rules.drop batchSize)
    else [rules]

def splitRulesIntoBatches (rules : List SecurityRule) : List (List SecurityRule) :=
  cutBatches rules.length rules

def splitRuleIdsIntoBatches (rules : List String) : List (List String) :=
  cutBatches rules.length rules

/-- What the batches of a list are to be. -/
structure AreBatches {α : Type} (rules : List α) (batches : List (List α)) : Prop where
  flatten_eq : batches.flatten = rules
  length_le : ∀ batch ∈ batches, batch.length ≤ batchSize
  length_eq : ∀ batch ∈ batches.dropLast, batch.length = batchSize
  eq_nil : [] ∈ batches → rules = []

section Batches

variable {α : Type} {rules : List α}

theorem areBatches_singleton (h : rules.length ≤ batchSize) : AreBatches rules [rules] where
  flatten_eq := append_nil _
  length_le := by simpa using h
  length_eq := by simp
  eq_nil := by simp

theorem AreBatches.cons {batches : List (List α)} (hlt : batchSize < rules.length)
    (h : AreBatches (rules.drop batchSize) batches) :
    AreBatches rules (rules.take batchSize :: batches) := by
  have hlength : (rules.take batchSize).length = batchSize := length_take_of_le hlt.le
  have hdrop : rules.drop batchSize ≠ [] := by simpa using hlt
  have hne : batches ≠ [] := by
    rintro rfl
    exact hdrop h.flatten_eq.symm
  refine ⟨?_, forall_mem_cons.mpr ⟨hlength.le, h.length_le⟩, ?_, ?_⟩
  · rw [flatten_cons, h.flatten_eq, take_append_drop]
  · rw [dropLast_cons_of_ne_nil hne]
    exact forall_mem_cons.mpr ⟨hlength, h.length_eq⟩
  · intro hmem
    rcases mem_cons.mp hmem with hnil | hmem
    · rw [← hnil] at hlength
      nomatch hlength
    · exact absurd (h.eq_nil hmem) hdrop

theorem areBatches_cutBatches {fuel : Nat} (hfuel : rules.length ≤ fuel) :
    AreBatches rules (cutBatches fuel rules) := by
  induction fuel generalizing rules with
  | zero => exact areBatches_singleton (hfuel.trans (Nat.zero_le _))
  | succ fuel ih =>
    unfold cutBatches
    split
    · rename_i hlt
      refine AreBatches.cons hlt (ih ?_)
      rw [length_drop, batchSize]
      omega
    · exact areBatches_singleton (by omega)

end Batches

/-! ## Facts about matching -/

theorem equalFold_iff {s t : String} :
    equalFold s t = true ↔ s.toList.map foldChar = t.toList.map foldChar := beq_iff_eq

/-- What the comparison looks at. -/
def ruleKey (rule : SecurityRule) :
    List (List Char) × EndpointType × EndpointType × Option TcpOptions × Direction :=
  ([rule.description, rule.protocol, rule.source, rule.destination].map fun text =>
      (text.getD "").toList.map foldChar,
    rule.sourceType, rule.destinationType, rule.tcpOptions, rule.direction)

theorem sameRule_iff {r r' : SecurityRule} : sameRule r r' = true ↔ ruleKey r = ruleKey r' := by
  simp only [sameRule, ruleKey, Bool.and_eq_true, equalFold_iff, beq_iff_eq, Prod.mk.injEq,
    map_cons, map_nil, List.cons.injEq, and_true]
  tauto

variable {rule : SecurityRule} {rules : List SecurityRule} {existing : List StoredRule}
  {generated : List SecurityRule}

theorem findSecurityRule_iff :
    findSecurityRule rules rule = true ↔ ∃ r ∈ rules, ruleKey r = ruleKey rule := by
  simp [findSecurityRule, sameRule_iff]

theorem findSecurityRule_of_mem (h : rule ∈ rules) : findSecurityRule rules rule = true :=
  findSecurityRule_iff.mpr ⟨rule, h, rfl⟩

theorem mem_filterSecurityRulesForService {rules : List StoredRule} {serviceUid : String}
    {rule : StoredRule} : rule ∈ filterSecurityRulesForService rules serviceUid ↔
      rule ∈ rules ∧ rule.description = some serviceUid := by
  simp [filterSecurityRulesForService]

theorem mem_reconcileSecurityRules_add :
    rule ∈ (reconcileSecurityRules generated existing).1 ↔
      rule ∈ generated ∧ ∀ r ∈ existing, ruleKey r.toSecurityRule ≠ ruleKey rule := by
  rw [reconcileSecurityRules, mem_filter, Bool.not_eq_true', ← Bool.not_eq_true,
    findSecurityRule_iff]
  simp

theorem mem_reconcileSecurityRules_remove {id : String} :
    id ∈ (reconcileSecurityRules generated existing).2 ↔
      ∃ r ∈ existing, r.id = id ∧ findSecurityRule generated r.toSecurityRule = false := by
  simp only [reconcileSecurityRules, mem_map, mem_filter, Bool.not_eq_true']
  constructor
  · rintro ⟨r, ⟨hr, hfind⟩, hid⟩
    exact ⟨r, hr, hid, hfind⟩
  · rintro ⟨r, hr, hid, hfind⟩
    exact ⟨r, ⟨hr, hfind⟩, hid⟩

/-! ## Facts about the generated rules -/

@[simp] theorem description_makeNsgSecurityRule (direction : Direction) (source uid : String)
    (port : Nat) (type : EndpointType) :
    (makeNsgSecurityRule direction source uid port type).description = some uid := by
  cases direction <;> rfl

@[simp] theorem direction_makeNsgSecurityRule (direction : Direction) (source uid : String)
    (port : Nat) (type : EndpointType) :
    (makeNsgSecurityRule direction source uid port type).direction = direction := by
  cases direction <;> rfl

@[simp] theorem tcpOptions_makeNsgSecurityRule (direction : Direction) (source uid : String)
    (port : Nat) (type : EndpointType) :
    (makeNsgSecurityRule direction source uid port type).tcpOptions =
      some ⟨some ⟨port, port⟩, none⟩ := by
  cases direction <;> rfl

/-- The health-check port that a loop over the port map meets first. -/
def firstHealthCheckPort (entries : List (String × PortSpec)) : Option Nat :=
  (entries.map (·.2.healthCheckerPort)).find? (· ≠ 0)

theorem mem_openPorts {found : Bool} {entries : List (String × PortSpec)} {port : Nat} :
    port ∈ openPorts found entries ↔
      (port ≠ 0 ∧ ∃ e ∈ entries, e.2.backendPort = port) ∨
        (found = false ∧ firstHealthCheckPort entries = some port) := by
  induction entries generalizing found with
  | nil => simp [openPorts, firstHealthCheckPort]
  | cons e rest ih =>
    obtain ⟨name, spec⟩ := e
    simp only [openPorts, mem_append, ih, firstHealthCheckPort, map_cons,
      List.find?_cons]
    cases found <;> by_cases hhc : spec.healthCheckerPort = 0 <;>
      by_cases hb : spec.backendPort = 0 <;> simp [hhc, hb] <;> grind

end OciCcm.NetworkSecurityGroups
