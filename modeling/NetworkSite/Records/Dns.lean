/-
  DNS records of a site.

  Each address of an entry has an address record and the reverse record to it.
  The aliases of an entry and, on each vlan, the names of roles lead to a host;
  a name that stands for something on the vlan already is left out.
-/
import NetworkSite.Addressing.Plan
import NetworkSite.Net.Reverse

namespace NetworkSite

/-- The type of a record. -/
inductive RecordType where
  | a
  | aaaa
  | cname
  | ptr
  deriving DecidableEq

def RecordType.name : RecordType → String
  | a => "A"
  | aaaa => "AAAA"
  | cname => "CNAME"
  | ptr => "PTR"

/-- A record; names are complete and end as the domain of their vlan does, with
    or without a dot. -/
structure DnsRecord where
  name : String
  type : RecordType
  value : String
  deriving DecidableEq

def DnsRecord.line (r : DnsRecord) : String :=
  s!"{r.name}\t{r.type.name}\t{r.value}"

/-- A domain with the reverse zones of its subnets. -/
structure DnsZone where
  vlan : String
  domain : String
  reverseZones : List String
  deriving DecidableEq

/-- The zone of a vlan. -/
def PlannedVlan.zone (w : PlannedVlan) : DnsZone where
  vlan := w.name
  domain := w.domain
  reverseZones := w.subnet4.reverseZone :: (w.ipv6.subnet?.map (·.reverseZone)).toList

/-- The zones of all vlans. -/
def AddressPlan.zones (p : AddressPlan) : List DnsZone :=
  p.vlans.map (·.zone)

/-! ## Records of entries -/

/-- All names of an entry. -/
def Entry.names (e : Entry) : List String :=
  e.hostname :: e.aliases

/-- One of the names is the same up to its case. -/
def isTaken (names : List String) (name : String) : Bool :=
  names.any fun other => Text.lower other == Text.lower name

/-- The type of the record of an address. -/
def IpAddress.recordType : IpAddress → RecordType
  | v4 _ => .a
  | v6 _ => .aaaa

namespace Site

/-- The record of an address with its reverse record. -/
def addressRecords (fullName : String) (a : IpAddress) : List DnsRecord :=
  [{ name := fullName, type := a.recordType, value := a.text },
    { name := a.reverseName, type := .ptr, value := fullName }]

/-- The aliases of an entry that stand for nothing else; `before` are the
    entries in front of it. -/
def ownAliases (before : List Entry) (e : Entry) : List String :=
  ((withEarlier e.aliases).filter fun (earlier, name) =>
    !isTaken (before.flatMap (·.names) ++ e.hostname :: earlier) name).map (·.2)

/-- The records of an entry; `before` are the entries in front of it. -/
def entryRecords (s : Site) (domain : String) (before : List Entry) (e : Entry) : List DnsRecord :=
  let name := s.fullName e.hostname domain
  e.addresses.flatMap (addressRecords name) ++
    (ownAliases before e).map fun other =>
      { name := s.fullName other domain, type := .cname, value := name }

/-! ## Records of roles -/

/-- The first host with a role that has an entry on the vlan other than a
    reservation. -/
def roleHolder? (s : Site) (w : PlannedVlan) (r : Role) : Option Host :=
  (s.hostsWithRole r).find? fun h =>
    w.entries.any fun e => e.hostname == h.hostname && e.kind != .reservation

/-- The record for the name of a role, unless the name is taken. -/
def roleRecord? (s : Site) (w : PlannedVlan) (r : Role) : Option DnsRecord := do
  let holder ← s.roleHolder? w r
  if isTaken (w.entries.flatMap (·.names)) r.name then none
  else
    return {
      name := s.fullName r.name w.domain
      type := .cname
      value := s.fullName holder.hostname w.domain }

/-! ## All records -/

/-- The records of a vlan. -/
def vlanRecords (s : Site) (w : PlannedVlan) : List DnsRecord :=
  ((withEarlier w.entries).flatMap fun (before, e) => s.entryRecords w.domain before e) ++
    (Role.all.filter (· != .generic)).filterMap (s.roleRecord? w)

/-- The records of all vlans. -/
def dnsRecords (s : Site) (p : AddressPlan) : List DnsRecord :=
  p.vlans.flatMap s.vlanRecords

end Site

end NetworkSite
