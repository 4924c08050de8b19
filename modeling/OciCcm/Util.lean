import OciCcm.Kubernetes

/-! # Node utilities

Provider ids and node addresses, shared by the load balancer code and the
instances code.
-/

namespace OciCcm

open Go Kubernetes

def providerPrefix := "oci://"

/-- The instance OCID of a provider id, or the error for an empty or foreign one. -/
def mapProviderIDToResourceID (providerID : String) : Except String String :=
  if providerID = "" then .error "provider ID is empty"
  else if hasPrefix providerID providerPrefix then .ok (trimPrefix providerID providerPrefix)
  else if !hasPrefix providerID "ocid1" then
    .error ("provider ID '" ++ providerID ++ "' is not valid for oci")
  else .ok providerID

structure IpAddresses where
  v4 : String
  v6 : String
deriving DecidableEq, Repr

/-- The last address of each family among the node's addresses of one type. -/
def nodeIP (isIPv6String : String → Bool) (type : NodeAddressType) (node : Node) : IpAddresses :=
  node.addresses.foldl (fun ips addr =>
    if addr.type = type then
      if isIPv6String addr.address then { ips with v6 := addr.address }
      else { ips with v4 := addr.address }
    else ips) ⟨"", ""⟩

def nodeInternalIP (isIPv6String : String → Bool) : Node → IpAddresses :=
  nodeIP isIPv6String .internalIP

def nodeExternalIp (isIPv6String : String → Bool) : Node → IpAddresses :=
  nodeIP isIPv6String .externalIP

end OciCcm
