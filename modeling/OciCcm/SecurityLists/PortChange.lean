import OciCcm.SecurityLists.Coverage

/-! # The rules after a change of ports

When the ports of a service change, the rules for the old ports should go and
those for the new ports should be there. For the nodes this is done in one
pass over the rules. For the egress of the load balancer it is done in two
passes, for backends and for health checks, and the second one may remove what
the first one has added.
-/

namespace OciCcm.SecurityLists

open Go Kubernetes LoadBalancer
open Latch (Event)

/-! ## Egress from the load balancer -/

/-- Can the address blocks be reached on both ports? -/
def BothPortsReachable (rules : List SecurityRule) (cidrs : Finset String) (ports : PortSpec) :
    Prop :=
  ∀ cidr ∈ cidrs, Covered rules ports.backendPort cidr ∧ Covered rules ports.healthCheckerPort cidr

instance (rules : List SecurityRule) (cidrs : Finset String) (ports : PortSpec) :
    Decidable (BothPortsReachable rules cidrs ports) :=
  inferInstanceAs (Decidable (∀ cidr ∈ cidrs, _))

section Egress

variable {rules : List SecurityRule} {nodeSubnets : List SubnetWithLists}
  {actualPort desiredPort port : Nat} {lister : ServiceLister} {ipFamilies : List IpVersion}
  {cidr : String}

theorem covered_lbEgress_self (hcidr : cidr ∈ subnetsCidrs ipFamilies nodeSubnets) :
    Covered (getLoadBalancerEgressRules rules nodeSubnets actualPort desiredPort lister
      ipFamilies) desiredPort cidr := by
  rw [covered_lbEgress, lbEgressEvent, if_pos rfl, if_pos hcidr]
  trivial

/-- A call keeps what another one has added, unless it takes the port for its own old one. -/
theorem covered_lbEgress_of_wanted (hcidr : cidr ∈ subnetsCidrs ipFamilies nodeSubnets)
    (h : Covered rules port cidr) :
    Covered (getLoadBalancerEgressRules rules nodeSubnets actualPort desiredPort lister
      ipFamilies) port cidr ↔ (actualPort = port → desiredPort = port) := by
  rw [covered_lbEgress, lbEgressEvent]
  by_cases hnew : port = desiredPort
  · rw [if_pos hnew, if_pos hcidr]
    exact iff_of_true trivial fun _ => hnew.symm
  rw [if_neg hnew]
  by_cases hold : port = actualPort
  · rw [if_pos hold]
    exact iff_of_false id fun himp => hnew (himp hold.symm).symm
  · rw [if_neg hold]
    exact iff_of_true h fun heq => absurd heq.symm hold

end Egress

/-- Both new ports can be reached, unless the new backend port is the old health check port and
no longer that of the health checks: then the pass for health checks removes the rules that the
pass for backends has just made. -/
theorem bothPortsReachable_iff (s : BaseSecurityListManager) (nodeSubnets : List SubnetWithLists)
    (sourceCIDRs : List String) (actualPorts : Option PortSpec) (desiredPorts : PortSpec)
    (ipFamilies : List IpVersion) (secList : SecurityList) :
    BothPortsReachable
        (s.loadBalancerRules nodeSubnets sourceCIDRs actualPorts desiredPorts ipFamilies secList).2
        (subnetsCidrs ipFamilies nodeSubnets) desiredPorts ↔
      ((actualPorts.map (·.healthCheckerPort)).getD 0 = desiredPorts.backendPort →
        desiredPorts.healthCheckerPort = desiredPorts.backendPort) ∨
      subnetsCidrs ipFamilies nodeSubnets = ∅ := by
  have hsecond : ∀ cidr ∈ subnetsCidrs ipFamilies nodeSubnets,
      (Covered (s.loadBalancerRules nodeSubnets sourceCIDRs actualPorts desiredPorts ipFamilies
        secList).2 desiredPorts.backendPort cidr ↔
        ((actualPorts.map (·.healthCheckerPort)).getD 0 = desiredPorts.backendPort →
          desiredPorts.healthCheckerPort = desiredPorts.backendPort)) :=
    fun cidr hcidr => covered_lbEgress_of_wanted hcidr (covered_lbEgress_self hcidr)
  constructor
  · intro h
    rcases (subnetsCidrs ipFamilies nodeSubnets).eq_empty_or_nonempty with hempty | ⟨cidr, hcidr⟩
    · exact .inr hempty
    · exact .inl ((hsecond cidr hcidr).mp (h cidr hcidr).1)
  · rintro (himp | hempty) cidr hcidr
    · exact ⟨(hsecond cidr hcidr).mpr himp, covered_lbEgress_self hcidr⟩
    · rw [hempty] at hcidr
      exact absurd hcidr (Finset.notMem_empty cidr)

/-- The backends move to port 30002, where the health checks were, and these move to port
10256: no rule is left for the backends. -/
theorem not_bothPortsReachable_of_reused_port :
    let s : BaseSecurityListManager := { serviceLister := .ok [] }
    let nodeSubnets : List SubnetWithLists :=
      [{ id := "nodes", cidrBlock := some "10.0.1.0/24", securityListIds := [] }]
    ¬BothPortsReachable (s.loadBalancerRules nodeSubnets [] (some ⟨80, 30001, 30002⟩)
      ⟨80, 30002, 10256⟩ [.ipv4] ⟨[], [], 0⟩).2 (subnetsCidrs [.ipv4] nodeSubnets)
      ⟨80, 30002, 10256⟩ := by
  decide

/-! ## Ingress to the nodes -/

section NodeIngress

variable {lister : ServiceLister} {port : Nat}

/-- Unwanted rules are kept if the lister fails or a service checks its nodes on the port. -/
theorem keepsRules_healthCheckPortInUse :
    keepsRules (healthCheckPortInUse lister port) ↔
      (∃ err, lister = .error err) ∨
        ∃ services, lister = .ok services ∧ ∃ service ∈ services, checksHealthOn service port := by
  cases lister with
  | error err => simp [healthCheckPortInUse, keepsRules, bind, Except.bind]
  | ok services => simp [healthCheckPortInUse, keepsRules, bind, Except.bind]

/-- Every wanted source has a rule on every port that is not 0, and every other rule on an old
or new port is for a health check of some service. -/
theorem nodeIngress_exact (rules : List SecurityRule) (lbSubnets : List SubnetWithLists)
    (actualPorts : Option PortSpec) (desiredPorts : PortSpec) (lister : ServiceLister)
    (sourceCIDRs : List String) (isPreserveSource : Bool) (ipFamilies : List IpVersion) :
    let ingressRules := getNodeIngressRules rules lbSubnets actualPorts desiredPorts lister
      sourceCIDRs isPreserveSource ipFamilies
    (∀ cidr ∈ backendCidrs lbSubnets sourceCIDRs isPreserveSource ipFamilies,
      desiredPorts.backendPort ≠ 0 → Covered ingressRules desiredPorts.backendPort cidr) ∧
    (∀ cidr ∈ subnetsCidrs ipFamilies lbSubnets,
      desiredPorts.healthCheckerPort ≠ 0 →
        Covered ingressRules desiredPorts.healthCheckerPort cidr) ∧
    ∀ rule ∈ ingressRules, ∀ port, rule.PlainOnPort port →
      ((∃ old, actualPorts = some old ∧ (port = old.backendPort ∨ port = old.healthCheckerPort)) ∨
        port = desiredPorts.backendPort ∨ port = desiredPorts.healthCheckerPort) →
      (port = desiredPorts.backendPort ∧
        rule.cidr ∈ backendCidrs lbSubnets sourceCIDRs isPreserveSource ipFamilies) ∨
      (port = desiredPorts.healthCheckerPort ∧
        (rule.cidr ∈ subnetsCidrs ipFamilies lbSubnets ∨ (∃ err, lister = .error err) ∨
          ∃ services, lister = .ok services ∧
            ∃ service ∈ services, checksHealthOn service port)) := by
  intro ingressRules
  refine ⟨fun cidr hcidr hport => exists_nodeIngress (k := .inl _) hport
      (Finset.inl_mem_disjSum.mpr hcidr), fun cidr hcidr hport => exists_nodeIngress (k := .inr _)
      hport (Finset.inr_mem_disjSum.mpr hcidr), ?_⟩
  intro rule hrule port hplain hports
  by_cases hnew : port = desiredPorts.backendPort ∨ port = desiredPorts.healthCheckerPort
  · rcases mem_nodeIngress_cases hrule with ⟨-, hf⟩ | ⟨k | k, hk, ⟨hcidr, hport⟩, -⟩
    · obtain ⟨rfl, hkeep⟩ := (nodeIngressFallback_of_plain hplain hnew).mp hf
      exact .inr ⟨rfl, .inr (keepsRules_healthCheckPortInUse.mp hkeep)⟩
    · exact .inl ⟨hplain.inj hport, hcidr ▸ Finset.inl_mem_disjSum.mp hk⟩
    · exact .inr ⟨hplain.inj hport, .inl (hcidr ▸ Finset.inr_mem_disjSum.mp hk)⟩
  · -- only the old ports have this port, so the rule would have been removed
    obtain ⟨old, rfl, hold⟩ := hports.resolve_right hnew
    rw [not_or] at hnew
    refine absurd hrule (notMem_nodeIngress_of_old ?_)
    exact (isOldPortRule_iff hplain.onPort).mpr ⟨hnew.1, hnew.2, hold⟩

end NodeIngress

end OciCcm.SecurityLists
