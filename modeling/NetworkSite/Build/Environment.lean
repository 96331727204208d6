/-
  The environments of hosts: the values that templates may refer to.

  Every host has the variables of the site, of itself and of its interfaces;
  some roles add their own.  Lists stand on one line with spaces or one item a
  line, the columns of which have tabs between them.
-/
import NetworkSite.Addressing.Resolution
import NetworkSite.BuildOrder.Schedule
import NetworkSite.Build.Template
import NetworkSite.Firewall.RuleText
import NetworkSite.Records.Dhcp
import NetworkSite.Records.Dns

namespace NetworkSite

/-- Everything that the environments of a site are made from. -/
structure Blueprint where
  site : Site
  addresses : AddressPlan
  rules : List RuleTuple
  graph : DependencyGraph
  schedule : Schedule
  dns : List DnsRecord := site.dnsRecords addresses
  dhcp : DhcpSettings := site.dhcpSettings addresses

/-- Variables with their values. -/
abbrev Variables := List (String × String)

/-! ## Texts of values -/

/-- Items on one line. -/
def words (items : List String) : String :=
  " ".intercalate items

/-- Items on a line each. -/
def lines (items : List String) : String :=
  "\n".intercalate items

/-- Columns of a line. -/
def columns (items : List String) : String :=
  "\t".intercalate items

/-- A number, or nothing. -/
def numberText : Option Nat → String
  | some n => s!"{n}"
  | none => ""

def flagText (b : Bool) : String :=
  if b then "true" else "false"

namespace InterfaceAddress

/-- The address as a value; a disabled family is empty. -/
def value {f : Family} : InterfaceAddress f → String
  | disabled => ""
  | a => a.text

end InterfaceAddress

/-! ## Interfaces -/

/-- The variables of the interface with a number. -/
def PlannedInterface.variables (p : AddressPlan) (n : Nat) (i : PlannedInterface) : Variables :=
  [("NAME", i.name),
    ("VSWITCH", i.switch.getD ""),
    ("VLAN", i.vlan.getD ""),
    ("VLAN_ID", numberText ((i.vlan.bind p.vlan?).bind (·.id))),
    ("UPLINK", i.uplink.getD ""),
    ("IPV4", i.ipv4.value),
    ("IPV4_PREFIXLEN", numberText i.ipv4Length),
    ("IPV4_GATEWAY", (i.ipv4Gateway.map (·.text)).getD ""),
    ("IPV6", i.ipv6.value),
    ("IPV6_PREFIXLEN", numberText i.ipv6Length),
    ("MAC", i.mac.getD ""),
    ("ZONE", i.firewallZone.getD "")].map fun (name, value) => (s!"IFACE_{n}_{name}", value)

/-! ## Hosts -/

namespace Blueprint

variable (b : Blueprint)

/-- The addressing of a host; a host without any has no interfaces. -/
def plannedHost (h : Host) : PlannedHost :=
  (b.addresses.host? h.hostname).getD { hostname := h.hostname, interfaces := [] }

/-- The first vlan that a host is on. -/
def primaryVlan? (h : Host) : Option PlannedVlan :=
  ((b.plannedHost h).interfaces.filterMap (·.vlan)).findSome? b.addresses.vlan?

/-- The domain of a host. -/
def domainOf (h : Host) : String :=
  match b.primaryVlan? h with
  | some w => w.domain
  | none => b.site.domain

/-- The names of the hosts for which a host waits. -/
def dependenciesOf (h : Host) : List String :=
  (b.graph.dependenciesOf h.hostname).map (·.1)

/-- The name servers that a host asks: a name server itself, any other host
    those for its first vlan, or else those outside the site. -/
def nameservers (h : Host) : List String :=
  let own :=
    if h.hasRole .dns then ["127.0.0.1"]
    else
      match b.primaryVlan? h with
      | some w => (b.site.dnsServersFor b.addresses w).map (·.text)
      | none => []
  if own.isEmpty then b.site.externalDns else own

/-- The rules that a host enforces, as text. -/
def firewallRules (h : Host) : String :=
  let isRouter := h.hasRole .router
  if isRouter || h.localFirewall then
    RuleTuple.textOf (RuleTuple.rulesFor b.rules (b.plannedHost h) isRouter)
  else ""

/-- The variables that every host has. -/
def hostVariables (h : Host) : Variables :=
  [("SITE_NAME", b.site.name),
    ("HOSTNAME", h.hostname),
    ("DOMAIN", b.domainOf h),
    ("FQDN", b.site.fullName h.hostname (b.domainOf h)),
    ("TIMEZONE", b.site.timezone),
    ("NTP_SERVERS", words b.site.ntpServers),
    ("EXTERNAL_DNS", words b.site.externalDns),
    ("BUILD_STAGE", numberText (b.schedule.stageOf? h.hostname)),
    ("DEPENDS_ON", words (b.dependenciesOf h)),
    ("ROLES", words (h.effectiveRoles.map (·.name))),
    ("IS_VM", flagText h.isVm),
    ("VMHOST", h.vmhost.getD ""),
    ("VCPUS", s!"{h.vcpus}"),
    ("MEMORY_MB", s!"{h.memoryMb}"),
    ("DISK_SIZE_MB", s!"{h.diskSizeMb}"),
    ("INTERFACE_COUNT", s!"{(b.plannedHost h).interfaces.length}"),
    ("NAMESERVERS", words (b.nameservers h)),
    ("FIREWALL_RULES", b.firewallRules h)]

/-- The variables of the interfaces of a host. -/
def interfaceVariables (h : Host) : Variables :=
  (b.plannedHost h).interfaces.zipIdx.flatMap fun (i, n) => i.variables b.addresses n

/-! ## Roles -/

/-- The line of a vlan that takes part in prefix delegation. -/
def delegatedLine? (w : PlannedVlan) : Option String :=
  match w.ipv6 with
  | .delegated share =>
    some (columns [w.name, s!"{share.index}", s!"{share.length}", (share.subnet.map (·.text)).getD "-"])
  | _ => none

/-- The variables of the router that asks for a prefix. -/
def delegationVariables (h : Host) : Variables :=
  match b.addresses.request with
  | some r =>
    if r.router == h.hostname then
      [("IPV6_PD_PREFIXLEN", s!"{r.length}"),
        ("IPV6_PD_IFACE", r.interface),
        ("IPV6_DELEGATED_PREFIXES", lines (b.addresses.vlans.filterMap delegatedLine?))]
    else []
  | none => []

/-- The first uplink of a host, if it has one. -/
def uplinkVariables (h : Host) : Variables :=
  match (b.plannedHost h).interfaces.find? (·.uplink.isSome) with
  | some i => [("UPLINK_IFACE", i.name)]
  | none => []

/-- The zones of the interfaces of a host. -/
def zoneLines (h : Host) : List String :=
  (b.plannedHost h).interfaces.filterMap fun i => i.firewallZone.map fun zone => columns [zone, i.name]

/-- The variables of a router. -/
def routerVariables (h : Host) : Variables :=
  [("FIREWALL_ZONES", lines (b.zoneLines h)),
    ("ROUTER_VLANS", words ((b.addresses.vlans.filter (·.routable)).map (·.name))),
    ("IPSETS",
      lines (b.site.policy.ipsets.map fun set => columns [set.name, ",".intercalate set.addresses]))] ++
    b.uplinkVariables h ++ b.delegationVariables h

/-- The variables of a server for addresses. -/
def dhcpVariables : Variables :=
  [("DHCP4_SUBNETS", lines (b.dhcp.subnets4.map (·.line))),
    ("DHCP6_SUBNETS", lines (b.dhcp.subnets6.map (·.line))),
    ("DHCP_RESERVATIONS", lines (b.dhcp.reservations.map (·.line)))]

/-- The variables of a name server. -/
def dnsVariables : Variables :=
  [("DNS_RECORDS", lines (b.dns.map (·.line))),
    ("DNS_ZONES", lines (b.addresses.zones.map fun z => columns [z.vlan, z.domain])),
    ("DNS_REVERSE_ZONES", words (b.addresses.zones.flatMap (·.reverseZones))),
    ("DNS_FORWARDERS", words b.site.externalDns)]

/-- The line of a virtual machine. -/
def guestLine (h : Host) : String :=
  columns [h.hostname, s!"{h.vcpus}", s!"{h.memoryMb}", s!"{h.diskSizeMb}",
    numberText (b.schedule.stageOf? h.hostname)]

/-- The line of a switch with the tags of its vlans. -/
def switchLine (switch : Switch) : String :=
  let tags := switch.vlans.map fun v =>
    match v.id with
    | some id => s!"{id}"
    | none => "untagged"
  columns [switch.name, switch.uplink.getD "-", ",".intercalate tags]

/-- The variables of a host that runs virtual machines. -/
def vmhostVariables (h : Host) : Variables :=
  let guests := b.site.hosts.filter fun g => g.isVm && g.vmhost == some h.hostname
  [("VM_GUESTS", lines (guests.map b.guestLine)),
    ("VSWITCHES", lines (b.site.switches.map switchLine))]

/-- The variables that a role adds. -/
def roleVariables (h : Host) : Role → Variables
  | .router => b.routerVariables h
  | .dhcp => b.dhcpVariables
  | .dns => b.dnsVariables
  | .vmhost => b.vmhostVariables h
  | .generic | .ntp | .storage | .build => []

/-- The environment of a host. -/
def environment (h : Host) : Environment :=
  Environment.ofList
    (b.hostVariables h ++ b.interfaceVariables h ++ h.effectiveRoles.flatMap (b.roleVariables h))

end Blueprint

end NetworkSite
