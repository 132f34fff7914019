import CloudGate.Catalog.Parameter
import CloudGate.Operation.Network

/-!
Tools for firewalls, load balancers and private networks.
-/

namespace CloudGate.Catalog

def policyDescription : String := "ACCEPT or DROP (case-insensitive)"

def firewallTools : List Tool :=
  [listing "list_firewalls" "List cloud firewalls" [byLabel],
   tool "create_firewall" "Create a cloud firewall"
     [required "label" "Firewall label, 3-64 characters",
      required "inbound_policy" policyDescription,
      required "outbound_policy" policyDescription]
     [.configurationChange] Operation.createFirewall,
   tool "update_firewall"
     ("Change a firewall's label or default policies. Takes effect immediately on " ++
       "attached instances.")
     [identifier "firewall_id" "ID of the firewall",
      optional "label" "New label",
      optional "inbound_policy" policyDescription,
      optional "outbound_policy" policyDescription]
     [.configurationChange] Operation.updateFirewall,
   tool "delete_firewall" "Delete a cloud firewall"
     [identifier "firewall_id" "ID of the firewall"]
     [.irreversible] Operation.deleteFirewall]

def loadBalancerTools : List Tool :=
  [listing "list_load_balancers" "List load balancers" [byLabel, byRegion],
   tool "create_load_balancer" "Create a load balancer"
     [required "region" "Region for the load balancer", optional "label" "Load balancer label"]
     [.billable] Operation.createLoadBalancer,
   tool "delete_load_balancer" "Delete a load balancer"
     [identifier "load_balancer_id" "ID of the load balancer"]
     [.irreversible] Operation.deleteLoadBalancer]

def vpcTools : List Tool :=
  [listing "list_vpcs" "List VPCs" [byLabel, byRegion],
   tool "create_vpc" "Create a VPC"
     [required "label" "VPC label, 3-64 characters",
      required "region" "Region for the VPC",
      optional "description" "Free-form description"]
     [.configurationChange] Operation.createVpc,
   tool "delete_vpc" "Delete a VPC and its subnets"
     [identifier "vpc_id" "ID of the VPC"]
     [.irreversible] Operation.deleteVpc]

end CloudGate.Catalog
