import CloudGate.Catalog.Parameter
import CloudGate.Operation.Dns

/-!
Tools for domains and their records.
-/

namespace CloudGate.Catalog

def recordTypes : String := "A, AAAA, CNAME, MX, NS, TXT, SRV or CAA"

def ttl : Parameter :=
  withType (optional "ttl_sec" "TTL in seconds: 0 for the zone default, or 30-604800") "integer"

def dnsTools : List Tool :=
  [listing "list_domains" "List DNS zones" [("domain", .contains), ("type", .exact)],
   tool "create_domain" "Create a DNS zone"
     [required "domain" "Zone name (e.g. example.com)",
      optional "type" "master (default) or slave",
      optional "soa_email" "SOA contact address, required for master zones",
      withType (optional "master_ips" "Primary servers for a slave zone") "array"]
     [.configurationChange] Operation.createDomain,
   tool "delete_domain" "Delete a DNS zone and every record in it"
     [identifier "domain_id" "ID of the zone"]
     [.irreversible] Operation.deleteDomain,
   ((({ name := "list_domain_records", description := "List the records of a DNS zone" } : Tool)
     |>.addParameter (identifier "domain_id" "ID of the zone")
     |>.addFilter "name" "name" .contains
     |>.addFilter "type" "type" .exact).setRules Operation.listDomainRecords),
   tool "create_domain_record" "Add a record to a DNS zone"
     [identifier "domain_id" "ID of the zone",
      required "type" recordTypes,
      required "name" "Record name relative to the zone; @ for the apex",
      required "target"
        "Public IPv4 (A), IPv6 (AAAA), hostname (CNAME, MX, NS) or free text (TXT, SRV, CAA)",
      ttl,
      withType (optional "priority" "MX/SRV priority") "integer"]
     [.configurationChange] Operation.createDomainRecord,
   tool "update_domain_record" "Change a DNS record. A new target must come with the record type."
     [identifier "domain_id" "ID of the zone",
      identifier "record_id" "ID of the record",
      optional "type" recordTypes,
      optional "name" "New record name",
      optional "target" "New target",
      ttl]
     [.configurationChange] Operation.updateDomainRecord,
   tool "delete_domain_record" "Delete a DNS record"
     [identifier "domain_id" "ID of the zone", identifier "record_id" "ID of the record"]
     [.irreversible] Operation.deleteDomainRecord]

end CloudGate.Catalog
