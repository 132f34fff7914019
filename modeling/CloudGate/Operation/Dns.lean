import CloudGate.Operation.Argument
import CloudGate.Rule.DnsRecord

/-!
Argument rules of the operations on domains and their records.
-/

namespace CloudGate.Operation

/-- The type of a zone is judged only if it is a text. -/
def domainType : ArgumentRule := fun call =>
  match call.string? "type" with
  | some type => Rule.domainType type
  | none => .pass

/-- A zone is a master zone unless the call says otherwise, and a master zone needs a contact. -/
def soaEmail : ArgumentRule := fun call =>
  if (call.string? "type").getD "master" == "master" then Rule.soaEmail (call.text "soa_email")
  else .pass

def recordType : ArgumentRule := fun call => (RecordType.parse (call.text "type")).map fun _ => ()

/-- The target is judged by the type of the record. -/
def recordTarget : ArgumentRule := fun call =>
  match RecordType.parse (call.text "type") with
  | .error v => .error v
  | .ok type => Rule.recordTarget type (call.text "target")

/-- The target is judged if there is one, and then the type is needed. -/
def changedTarget : ArgumentRule := fun call =>
  if call.arguments.contains "target" then recordTarget call else .pass

def createDomain : ArgumentRules where
  operation := "create_domain"
  rules := [textual "domain" Rule.domainName, domainType, soaEmail]

def deleteDomain : ArgumentRules where
  operation := "delete_domain"
  rules := [identifier "domain_id"]

def listDomainRecords : ArgumentRules where
  operation := "list_domain_records"
  rules := [identifier "domain_id"]

def createDomainRecord : ArgumentRules where
  operation := "create_domain_record"
  rules := [identifier "domain_id", recordType, textual "name" Rule.recordName, recordTarget,
    optionalInteger "ttl_sec" Rule.ttl]

def updateDomainRecord : ArgumentRules where
  operation := "update_domain_record"
  rules := [identifier "domain_id", identifier "record_id", optionalText "name" Rule.recordName,
    changedTarget, optionalInteger "ttl_sec" Rule.ttl]

def deleteDomainRecord : ArgumentRules where
  operation := "delete_domain_record"
  rules := [identifier "domain_id", identifier "record_id"]

end CloudGate.Operation
