import OciCcm.SecurityLists.RuleFacts

/-! # Health checks of other services

A service that is reconciled shares the security lists with the other services
of the cluster. This file says exactly which of the rules that the health
checks of other services rely on survive. A rule whose address block is no
longer wanted is protected by the test whether its port is in use; a rule of a
port that the service has given up is not.
-/

namespace OciCcm.SecurityLists

open Go Kubernetes LoadBalancer List

/-- Is the port in use for the health checks of another service? -/
def UsedByOthers (service : Service) (services : List Service) (port : Nat) : Prop :=
  healthCheckPortInUse (.ok (otherServices service services)) port = .ok true

/-- Every rule of a health check of another service is found in the new rules. -/
def KeepsHealthChecks (service : Service) (services : List Service)
    (rules newRules : List SecurityRule) : Prop :=
  ∀ rule ∈ rules, ∀ port, rule.OnPort port → UsedByOthers service services port → rule ∈ newRules

variable {service : Service} {services : List Service} {rules : List SecurityRule}
  {lbSubnets nodeSubnets : List SubnetWithLists} {actualPorts : Option PortSpec}
  {desiredPorts : PortSpec} {sourceCIDRs : List String} {isPreserveSource : Bool}
  {ipFamilies : List IpVersion} {actualPort desiredPort : Nat} {port : Nat} {rule : SecurityRule}

theorem UsedByOthers.keepsRules (h : UsedByOthers service services port) :
    keepsRules (healthCheckPortInUse (.ok services) port) := by
  have hother : (otherServices service services).any (checksHealthOn · port) = true :=
    Except.ok.inj h
  obtain ⟨s, hs, hchecks⟩ := any_eq_true.mp hother
  exact any_eq_true.mpr ⟨s, mem_of_mem_filter hs, hchecks⟩

/-! ## Egress rules of the load balancer -/

/-- Of the rules on a health check port of another service those of the old port of a
port change are dropped, and no others. -/
theorem mem_lbEgress_iff_of_usedByOthers (hrule : rule ∈ rules) (hport : rule.OnPort port)
    (hused : UsedByOthers service services port) :
    rule ∈ getLoadBalancerEgressRules rules nodeSubnets actualPort desiredPort (.ok services)
        ipFamilies ↔
      (port = actualPort → port = desiredPort) := by
  have hold : isOldEgressRule actualPort desiredPort rule ↔
      port = actualPort ∧ port ≠ desiredPort := by
    rw [isOldEgressRule, decide_eq_true_eq]
    constructor
    · rintro ⟨hne, hactual⟩
      obtain rfl := hport.inj hactual
      exact ⟨rfl, hne.symm⟩
    · rintro ⟨rfl, hne⟩
      exact ⟨hne.symm, hport⟩
  constructor
  · intro h heq
    by_contra hne
    exact notMem_lbEgress_of_old (hold.mpr ⟨heq, hne⟩) h
  · intro h
    have hkept : ¬isOldEgressRule actualPort desiredPort rule := by
      rw [hold]
      rintro ⟨heq, hne⟩
      exact hne (h heq)
    rw [lbEgress_eq_rebuild]
    refine Scan.mem_rebuild_of_fallback hrule ?_
    by_cases hplain : rule.PlainOnPort desiredPort
    · obtain rfl := hport.inj hplain.onPort
      simp [lbEgressFallback, hkept, hused.keepsRules]
    · simp [lbEgressFallback, hkept, hplain]

/-! ## Ingress rules of the nodes -/

/-- The first rule for an address block on a port. -/
def firstRule (rules : List SecurityRule) (port : Nat) (cidr : String) : Option SecurityRule :=
  rules.find? fun rule => rule.cidr = cidr ∧ rule.PlainOnPort port

theorem mem_nodeIngress_iff_firstRule (hrule : rule ∈ rules)
    (hplain : rule.PlainOnPort desiredPorts.backendPort)
    (hne : desiredPorts.backendPort ≠ desiredPorts.healthCheckerPort) (lister : ServiceLister) :
    rule ∈ getNodeIngressRules rules lbSubnets actualPorts desiredPorts lister sourceCIDRs
        isPreserveSource ipFamilies ↔
      rule.cidr ∈ backendCidrs lbSubnets sourceCIDRs isPreserveSource ipFamilies ∧
        firstRule rules desiredPorts.backendPort rule.cidr = some rule := by
  have hfallback : ¬nodeIngressFallback actualPorts desiredPorts lister rule := fun h =>
    hne ((nodeIngressFallback_of_plain hplain (.inl rfl)).mp h).1
  rw [mem_nodeIngress_iff_kept hrule, nodeIngressScan,
    Scan.scans.mem_kept_iff_first hrule (mem_nodeIngressClaims (k := .inl _) |>.mpr ⟨rfl, hplain⟩)
      hfallback (fun _ _ => nodeIngressClaims_eq_singleton hne), wantedKeys, Finset.inl_mem_disjSum]
  simp only [mem_nodeIngressClaims, keyCidr, keyPort, firstRule]

/-- Of the rules on a health check port of another service two kinds are dropped: those on
a port that the service gives up, and on its new backend port those that are not the first
for a wanted address block. -/
theorem mem_nodeIngress_iff_of_usedByOthers (hrule : rule ∈ rules) (hport : rule.OnPort port)
    (hused : UsedByOthers service services port) :
    rule ∈ getNodeIngressRules rules lbSubnets actualPorts desiredPorts (.ok services) sourceCIDRs
        isPreserveSource ipFamilies ↔
      ¬GivesUpPort actualPorts desiredPorts port ∧
        (rule.PlainOnPort port → port = desiredPorts.backendPort →
          port ≠ desiredPorts.healthCheckerPort →
          rule.cidr ∈ backendCidrs lbSubnets sourceCIDRs isPreserveSource ipFamilies ∧
            firstRule rules port rule.cidr = some rule) := by
  by_cases hold : GivesUpPort actualPorts desiredPorts port
  · refine iff_of_false ?_ fun h => h.1 hold
    exact notMem_nodeIngress_of_old ((isOldPortRule_iff hport).mpr hold)
  have hkept : ¬isOldPortRule actualPorts desiredPorts rule := by rwa [isOldPortRule_iff hport]
  by_cases hh : rule.PlainOnPort desiredPorts.healthCheckerPort
  · obtain rfl := hport.inj hh.onPort
    refine iff_of_true ?_ ⟨hold, fun _ _ hne => absurd rfl hne⟩
    exact mem_nodeIngress_of_fallback hrule
      ((nodeIngressFallback_of_plain hh (.inr rfl)).mpr ⟨rfl, hused.keepsRules⟩)
  by_cases hb : rule.PlainOnPort desiredPorts.backendPort
  · obtain rfl := hport.inj hb.onPort
    have hne : desiredPorts.backendPort ≠ desiredPorts.healthCheckerPort := fun h => hh (h ▸ hb)
    rw [mem_nodeIngress_iff_firstRule hrule hb hne]
    exact ⟨fun h => ⟨hold, fun _ _ _ => h⟩, fun h => h.2 hb rfl hne⟩
  · refine iff_of_true (mem_nodeIngress_of_fallback hrule
      (nodeIngressFallback_of_not_plain hkept hb hh)) ⟨hold, ?_⟩
    rintro hplain rfl
    exact absurd hplain hb

/-! ## The exact condition -/

/-- The health checks of other services survive in the rules of the nodes if none of their
ports is one that the service gives up, and if on the new backend port every such rule is
the first one of a wanted address block. They survive in the egress rules of the load
balancer if the old port is not one of theirs, or does not change. -/
theorem keepsHealthChecks_iff (service : Service) (services : List Service)
    (rules : List SecurityRule) (lbSubnets nodeSubnets : List SubnetWithLists)
    (actualPorts : Option PortSpec) (desiredPorts : PortSpec) (sourceCIDRs : List String)
    (isPreserveSource : Bool) (ipFamilies : List IpVersion) (actualPort desiredPort : Nat) :
    (KeepsHealthChecks service services rules
        (getNodeIngressRules rules lbSubnets actualPorts desiredPorts (.ok services) sourceCIDRs
          isPreserveSource ipFamilies) ↔
      ∀ rule ∈ rules, ∀ port, rule.OnPort port → UsedByOthers service services port →
        ¬GivesUpPort actualPorts desiredPorts port ∧
          (rule.PlainOnPort port → port = desiredPorts.backendPort →
            port ≠ desiredPorts.healthCheckerPort →
            rule.cidr ∈ backendCidrs lbSubnets sourceCIDRs isPreserveSource ipFamilies ∧
              firstRule rules port rule.cidr = some rule)) ∧
    (KeepsHealthChecks service services rules
        (getLoadBalancerEgressRules rules nodeSubnets actualPort desiredPort (.ok services)
          ipFamilies) ↔
      ∀ rule ∈ rules, ∀ port, rule.OnPort port → UsedByOthers service services port →
        port = actualPort → port = desiredPort) := by
  constructor
  · refine forall₂_congr fun rule hrule => forall₃_congr fun port hport hused => ?_
    exact mem_nodeIngress_iff_of_usedByOthers hrule hport hused
  · refine forall₂_congr fun rule hrule => forall₃_congr fun port hport hused => ?_
    exact mem_lbEgress_iff_of_usedByOthers hrule hport hused

/-- One service turns from the traffic policy `Cluster` to `Local`, another stays with
`Cluster`: the rule for the shared health check port is dropped. -/
theorem clusterToLocal_drops_healthChecks :
    let service : Service :=
      { ns := "default", name := "a", type := .loadBalancer,
        ports := [⟨.tcp, 80, 30080⟩], externalTrafficPolicy := some .local,
        healthCheckNodePort := 32000 }
    let other : Service :=
      { ns := "default", name := "b", type := .loadBalancer,
        ports := [⟨.tcp, 443, 30443⟩], externalTrafficPolicy := some .cluster }
    let lbSubnet : SubnetWithLists :=
      { id := "lb", cidrBlock := some "10.0.20.0/24", securityListIds := ["lb-list"] }
    let rules := [makeIngressSecurityRule "10.0.20.0/24" 10256,
      makeIngressSecurityRule "10.0.20.0/24" 30080]
    ¬KeepsHealthChecks service [service, other] rules
        (getNodeIngressRules rules [lbSubnet] (some ⟨0, 30080, 10256⟩) ⟨0, 30080, 32000⟩
          (.ok [service, other]) ["0.0.0.0/0"] false [.ipv4]) ∧
      ¬KeepsHealthChecks service [service, other] rules
        (getLoadBalancerEgressRules rules [lbSubnet] 10256 32000 (.ok [service, other]) [.ipv4]) := by
  intro service other lbSubnet rules
  have hport : (makeIngressSecurityRule "10.0.20.0/24" 10256).OnPort 10256 := by decide
  have hused : UsedByOthers service [service, other] 10256 := rfl
  constructor
  · intro h
    have hmem := h _ mem_cons_self 10256 hport hused
    rw [mem_nodeIngress_iff_of_usedByOthers mem_cons_self hport hused] at hmem
    exact hmem.1 (by decide)
  · intro h
    have hmem := h _ mem_cons_self 10256 hport hused
    rw [mem_lbEgress_iff_of_usedByOthers mem_cons_self hport hused] at hmem
    exact absurd (hmem rfl) (by decide)

end OciCcm.SecurityLists
