/-
  Reading sites out of documents.

  Each type of a site has `ofDocument?`, which gives nothing for a document
  that does not describe such a value.  Records may be written as tables or as
  lists of their fields, in the order in which the fields are listed here.
  Absent fields take the defaults of the type.
-/
import NetworkSite.Document.Decode
import NetworkSite.Site.Basic

namespace NetworkSite

open Decode

/-! ## Vlans -/

/-- A number or a name. -/
def VlanRef.ofDocument? : Decoder VlanRef := fun d => do
  match ← d.resolve? with
  | .text s => some (.name s)
  | d => (natural 16 d).map .id

/-- The field for other names of a host. -/
def aliasesField : Field :=
  { name := "aliases", aliases := ["alias"] }

/-- The other names of a host. -/
def readAliases (r : Record) : Option (List String) :=
  r.withDefault "aliases" [] (oneOrMany string)

namespace StaticHost

def fields : List Field :=
  [{ name := "hostname" }, { name := "ipv4_address" }, { name := "ipv6_address" }, aliasesField]

def ofDocument? : Decoder StaticHost := fun d => do
  let r ← record fields d
  return {
    hostname := ← r.required "hostname" string
    ipv4 := ← r.required "ipv4_address" string
    ipv6 := ← r.withDefault "ipv6_address" none (nullable string)
    aliases := ← readAliases r }

end StaticHost

namespace Reservation

def fields : List Field :=
  [{ name := "hostname" }, { name := "mac_address" }, { name := "ipv4_address" },
    { name := "ipv6_address" }, aliasesField]

def ofDocument? : Decoder Reservation := fun d => do
  let r ← record fields d
  return {
    hostname := ← r.required "hostname" string
    mac := ← r.required "mac_address" string
    ipv4 := ← r.withDefault "ipv4_address" none (nullable string)
    ipv6 := ← r.withDefault "ipv6_address" none (nullable string)
    aliases := ← readAliases r }

end Reservation

/-- A duration, written for people. -/
def Duration.ofDocument? : Decoder Duration := fun d =>
  (string d).bind Duration.ofText?

namespace Vlan

def fields : List Field :=
  [{ name := "name" }, { name := "id" }, { name := "routable" }, { name := "domain" },
    { name := "default" }, { name := "ipv4_subnet" }, { name := "ipv6_subnet" },
    { name := "ipv6_disabled" }, { name := "ipv6_pd" }, { name := "ipv6_pd_network" },
    { name := "ipv6_prefixlen" }, { name := "allow_dhcp", aliases := ["dhcp4_enabled"] },
    { name := "dhcp6_managed" }, { name := "dhcp_min_address_ipv4" },
    { name := "dhcp_max_address_ipv4" }, { name := "dhcp_min_address_ipv6" },
    { name := "dhcp_max_address_ipv6" }, { name := "dhcp_lease_time" },
    { name := "allow_internet" }, { name := "allow_dns_update" },
    { name := "access_vlans", aliases := ["access_vlan"] }, { name := "static_hosts" },
    { name := "dhcp_reservations" }]

def ofDocument? : Decoder Vlan := fun d => do
  let r ← record fields d
  return {
    name := ← r.required "name" string
    id := ← r.withDefault "id" none (nullable (natural 16))
    routable := ← r.withDefault "routable" true boolean
    domain := ← r.withDefault "domain" "" string
    isDefault := ← r.withDefault "default" false boolean
    ipv4Subnet := ← r.required "ipv4_subnet" string
    ipv6Subnet := ← r.withDefault "ipv6_subnet" none (nullable string)
    ipv6Disabled := ← r.withDefault "ipv6_disabled" false boolean
    ipv6Delegated := ← r.withDefault "ipv6_pd" false boolean
    delegationIndex := ← r.withDefault "ipv6_pd_network" none (nullable (natural 64))
    ipv6Length := ← r.withDefault "ipv6_prefixlen" 64 (natural 8)
    allowDhcp := ← r.withDefault "allow_dhcp" true boolean
    dhcp6Managed := ← r.withDefault "dhcp6_managed" false boolean
    dhcp4First := ← r.withDefault "dhcp_min_address_ipv4" 16 word32
    dhcp4Last := ← r.withDefault "dhcp_max_address_ipv4" 252 word32
    dhcp6First := ← r.withDefault "dhcp_min_address_ipv6" 16 word64
    dhcp6Last := ← r.withDefault "dhcp_max_address_ipv6" 0xffff word64
    leaseTime := ← r.withDefault "dhcp_lease_time" { seconds := 3600 } Duration.ofDocument?
    allowInternet := ← r.withDefault "allow_internet" false boolean
    allowDnsUpdate := ← r.withDefault "allow_dns_update" false boolean
    accessVlans := ← r.withDefault "access_vlans" [] (oneOrMany VlanRef.ofDocument?)
    staticHosts := ← r.withDefault "static_hosts" [] (list StaticHost.ofDocument?)
    reservations := ← r.withDefault "dhcp_reservations" [] (list Reservation.ofDocument?) }

end Vlan

namespace Switch

def fields : List Field :=
  [{ name := "name" }, { name := "uplink" }, { name := "vlans" }]

def ofDocument? : Decoder Switch := fun d => do
  let r ← record fields d
  return {
    name := ← r.required "name" string
    uplink := ← r.withDefault "uplink" none (nullable string)
    vlans := ← r.required "vlans" (list Vlan.ofDocument?) }

end Switch

/-! ## Hosts -/

/-- The name of a role, or a table with the name or the position of the role as
    its only key and nothing under it. -/
def Role.ofDocument? : Decoder Role
  | .text s => ofName? s
  | .table [(.text s, .null)] => ofName? s
  | .table [(.natural position, .null)] => all[position]?
  | _ => none

def AddressMode.ofDocument? : Decoder AddressMode := fun d =>
  (string d).map ofText

namespace Interface

def fields : List Field :=
  [{ name := "name" }, { name := "vswitch" }, { name := "vlan" }, { name := "uplink" },
    { name := "ipv4_address" }, { name := "ipv4_prefixlen" }, { name := "ipv4_gateway" },
    { name := "ipv6_address" }, { name := "ipv6_disabled" }, { name := "ipv6_pd_prefixlen" },
    { name := "ipv6_ask_for_prefix" }, { name := "ipv6_delegated_prefix" },
    { name := "mac_address" }, { name := "firewall_zone" }]

def ofDocument? : Decoder Interface := fun d => do
  let r ← record fields d
  return {
    name := ← r.withDefault "name" none (nullable string)
    switch := ← r.withDefault "vswitch" none (nullable string)
    vlan := ← r.withDefault "vlan" none (nullable VlanRef.ofDocument?)
    uplink := ← r.withDefault "uplink" none (nullable string)
    ipv4 := ← r.withDefault "ipv4_address" .dhcp AddressMode.ofDocument?
    ipv4Length := ← r.withDefault "ipv4_prefixlen" none (nullable (natural 8))
    ipv4Gateway := ← r.withDefault "ipv4_gateway" none (nullable string)
    ipv6 := ← r.withDefault "ipv6_address" none (nullable AddressMode.ofDocument?)
    ipv6Disabled := ← r.withDefault "ipv6_disabled" false boolean
    delegationLength := ← r.withDefault "ipv6_pd_prefixlen" none (nullable (natural 8))
    asksForPrefix := ← r.withDefault "ipv6_ask_for_prefix" false boolean
    delegatedPrefix := ← r.withDefault "ipv6_delegated_prefix" none (nullable string)
    mac := ← r.withDefault "mac_address" none (nullable string)
    firewallZone := ← r.withDefault "firewall_zone" none (nullable string) }

end Interface

namespace Host

def fields : List Field :=
  [{ name := "hostname" }, { name := "roles", aliases := ["role"] }, { name := "is_vm" },
    { name := "vmhost" }, { name := "vcpus" }, { name := "memory_mb" }, { name := "disk_size_mb" },
    { name := "local_firewall" }, aliasesField, { name := "interfaces" }]

def ofDocument? : Decoder Host := fun d => do
  let r ← record fields d
  return {
    hostname := ← r.withDefault "hostname" "" string
    roles := ← r.withDefault "roles" [] (oneOrMany Role.ofDocument?)
    isVm := ← r.withDefault "is_vm" false boolean
    vmhost := ← r.withDefault "vmhost" none (nullable string)
    vcpus := ← r.withDefault "vcpus" 1 (natural 32)
    memoryMb := ← r.withDefault "memory_mb" 128 (natural 32)
    diskSizeMb := ← r.withDefault "disk_size_mb" 256 (natural 32)
    localFirewall := ← r.withDefault "local_firewall" true boolean
    aliases := ← readAliases r
    interfaces := ← r.withDefault "interfaces" [] (list Interface.ofDocument?) }

/-- The host, with a name if it has none. -/
def named (h : Host) (hostname : String) : Host :=
  if h.hostname.isEmpty then { h with hostname } else h

end Host

/-! ## Policy -/

/-- A number of 64 bits with sign, or a text. -/
def PortValue.ofDocument? : Decoder PortValue
  | .text s => some (.text s)
  | d => (signed 64 d).map .number

def PortSpec.ofDocument? : Decoder PortSpec
  | .list items => (items.mapM PortValue.ofDocument?).map .many
  | d => (PortValue.ofDocument? d).map .one

namespace ServiceSpec

def fields : List Field :=
  [{ name := "proto" }, { name := "port", aliases := ["ports"] }, { name := "comment" }]

/-- The name of a service, or a table with protocol and ports. -/
def ofDocument? : Decoder ServiceSpec := fun d => do
  match ← d.resolve? with
  | .text s => some (.named s)
  | d => do
    let r ← tableRecord fields d
    return .ports (← r.required "proto" string) (← r.required "port" PortSpec.ofDocument?)
      (← r.withDefault "comment" "" string)

end ServiceSpec

namespace Locator

def fields : List Field :=
  [{ name := "vlan" }, { name := "vswitch" }, { name := "hostname" }, { name := "ipset" },
    { name := "ipv4_address" }, { name := "ipv6_address" }]

def ofDocument? : Decoder Locator := fun d => do
  let r ← record fields d
  return {
    vlan := ← r.required "vlan" VlanRef.ofDocument?
    switch := ← r.withDefault "vswitch" none (nullable string)
    hostname := ← r.withDefault "hostname" none (nullable string)
    ipset := ← r.withDefault "ipset" none (nullable string)
    ipv4 := ← r.withDefault "ipv4_address" none (nullable string)
    ipv6 := ← r.withDefault "ipv6_address" none (nullable string) }

end Locator

namespace Rule

def fields : List Field :=
  [{ name := "comment" }, { name := "sources", aliases := ["source"] },
    { name := "destinations", aliases := ["destination"] },
    { name := "allow-all", aliases := ["allow_all"] }, { name := "allow" }, { name := "forward" }]

def ofDocument? : Decoder Rule := fun d => do
  let r ← record fields d
  return {
    comment := ← r.withDefault "comment" "" string
    sources := ← r.required "sources" (oneOrMany Locator.ofDocument?)
    destinations := ← r.required "destinations" (oneOrMany Locator.ofDocument?)
    allowAll := ← r.withDefault "allow-all" false boolean
    allow := ← r.withDefault "allow" [] (oneOrMany ServiceSpec.ofDocument?)
    forward := ← r.withDefault "forward" [] (oneOrMany ServiceSpec.ofDocument?) }

end Rule

namespace IpSet

def fields : List Field :=
  [{ name := "name" }, { name := "addresses" }]

def ofDocument? : Decoder IpSet := fun d => do
  let r ← record fields d
  return {
    name := ← r.required "name" string
    addresses := ← r.required "addresses" (list string) }

end IpSet

namespace Policy

def fields : List Field :=
  [{ name := "ipsets" }, { name := "rules" }]

def ofDocument? : Decoder Policy := fun d => do
  let r ← record fields d
  return {
    ipsets := ← r.withDefault "ipsets" [] (list IpSet.ofDocument?)
    rules := ← r.withDefault "rules" [] (list Rule.ofDocument?) }

end Policy

/-! ## Sites -/

namespace Site

def fields : List Field :=
  [{ name := "name" }, { name := "domain" }, { name := "timezone" }, { name := "ntp_servers" },
    { name := "external_dns" }, { name := "ipv6_pd_first_network" }, { name := "vswitches" },
    { name := "firewall" }, { name := "hosts" }]

/-- A site without switches, which holds the defaults. -/
def blank : Site := { switches := [] }

def ofDocument? : Decoder Site := fun d => do
  let r ← record fields d
  return {
    name := ← r.withDefault "name" blank.name string
    domain := ← r.withDefault "domain" blank.domain string
    timezone := ← r.withDefault "timezone" blank.timezone string
    ntpServers := ← r.withDefault "ntp_servers" blank.ntpServers (list string)
    externalDns := ← r.withDefault "external_dns" blank.externalDns (list string)
    firstDelegationIndex := ← r.withDefault "ipv6_pd_first_network" 0 (natural 64)
    switches := ← r.required "vswitches" (list Switch.ofDocument?)
    policy := ← r.withDefault "firewall" {} Policy.ofDocument?
    hosts := ← r.withDefault "hosts" [] (list Host.ofDocument?) }

end Site

end NetworkSite
