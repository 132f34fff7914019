import CloudGate.Operation.Argument

/-!
Argument rules of the operations on firewalls, load balancers and private networks.
-/

namespace CloudGate.Operation

def policy (key : String) : ArgumentRule :=
  textual key fun s => if Text.isBlankText s then .error (.required key) else Rule.firewallPolicy s

def createFirewall : ArgumentRules where
  operation := "create_firewall"
  rules := [textual "label" Rule.resourceLabel, policy "inbound_policy", policy "outbound_policy"]

def updateFirewall : ArgumentRules where
  operation := "update_firewall"
  rules := [identifier "firewall_id", optionalText "label" Rule.resourceLabel,
    optionalText "inbound_policy" Rule.firewallPolicy,
    optionalText "outbound_policy" Rule.firewallPolicy]

def deleteFirewall : ArgumentRules where
  operation := "delete_firewall"
  rules := [identifier "firewall_id"]

def createLoadBalancer : ArgumentRules where
  operation := "create_load_balancer"
  rules := [region "region", optionalText "label" Rule.resourceLabel]

def deleteLoadBalancer : ArgumentRules where
  operation := "delete_load_balancer"
  rules := [identifier "load_balancer_id"]

def createVpc : ArgumentRules where
  operation := "create_vpc"
  rules := [textual "label" Rule.resourceLabel, region "region"]

def deleteVpc : ArgumentRules where
  operation := "delete_vpc"
  rules := [identifier "vpc_id"]

end CloudGate.Operation
