/-
  Writing sites as documents.

  Each type of a site has `toDocument`, a table with one entry per field in the
  order of the fields, all lists written as lists.  An entry without a value is
  left out.  How lease times are written is a choice of the caller.
-/
import NetworkSite.Document.Basic
import NetworkSite.Site.Basic

namespace NetworkSite

namespace Document

/-- The table of the entries that have a value. -/
def tableOf (entries : List (String × Option Document)) : Document :=
  ofFields (entries.filterMap fun (key, value) => value.map (key, ·))

def texts (items : List String) : Document :=
  .list (items.map .text)

/-- A list that is left out where it is empty. -/
def unlessEmpty : List Document → Option Document
  | [] => none
  | items => some (.list items)

end Document

/-! ## Vlans -/

def VlanRef.toDocument : VlanRef → Document
  | id n => .natural n
  | name s => .text s

def StaticHost.toDocument (h : StaticHost) : Document :=
  .tableOf [
    ("hostname", some (.text h.hostname)),
    ("ipv4_address", some (.text h.ipv4)),
    ("ipv6_address", h.ipv6.map .text),
    ("aliases", some (.texts h.aliases))]

def Reservation.toDocument (r : Reservation) : Document :=
  .tableOf [
    ("hostname", some (.text r.hostname)),
    ("mac_address", some (.text r.mac)),
    ("ipv4_address", r.ipv4.map .text),
    ("ipv6_address", r.ipv6.map .text),
    ("aliases", some (.texts r.aliases))]

/-- How lease times are written, if they are. -/
abbrev LeaseWriter := Duration → Option Document

def Vlan.toDocument (lease : LeaseWriter) (v : Vlan) : Document :=
  .tableOf [
    ("name", some (.text v.name)),
    ("id", some ((v.id.map Document.natural).getD .null)),
    ("routable", some (.bool v.routable)),
    ("domain", some (.text v.domain)),
    ("default", some (.bool v.isDefault)),
    ("ipv4_subnet", some (.text v.ipv4Subnet)),
    ("ipv6_subnet", v.ipv6Subnet.map .text),
    ("ipv6_disabled", some (.bool v.ipv6Disabled)),
    ("ipv6_pd", some (.bool v.ipv6Delegated)),
    ("ipv6_pd_network", v.delegationIndex.map .natural),
    ("ipv6_prefixlen", some (.natural v.ipv6Length)),
    ("allow_dhcp", some (.bool v.allowDhcp)),
    ("dhcp6_managed", some (.bool v.dhcp6Managed)),
    ("dhcp_min_address_ipv4", some (.natural v.dhcp4First.toNat)),
    ("dhcp_max_address_ipv4", some (.natural v.dhcp4Last.toNat)),
    ("dhcp_min_address_ipv6", some (.natural v.dhcp6First.toNat)),
    ("dhcp_max_address_ipv6", some (.natural v.dhcp6Last.toNat)),
    ("dhcp_lease_time", lease v.leaseTime),
    ("allow_internet", some (.bool v.allowInternet)),
    ("allow_dns_update", some (.bool v.allowDnsUpdate)),
    ("access_vlans", some (.list (v.accessVlans.map (·.toDocument)))),
    ("static_hosts", some (.list (v.staticHosts.map (·.toDocument)))),
    ("dhcp_reservations", some (.list (v.reservations.map (·.toDocument))))]

def Switch.toDocument (lease : LeaseWriter) (s : Switch) : Document :=
  .tableOf [
    ("name", some (.text s.name)),
    ("uplink", s.uplink.map .text),
    ("vlans", some (.list (s.vlans.map (·.toDocument lease))))]

/-! ## Hosts -/

def Role.toDocument (r : Role) : Document :=
  .text r.name

def Interface.toDocument (i : Interface) : Document :=
  .tableOf [
    ("name", i.name.map .text),
    ("vswitch", i.switch.map .text),
    ("vlan", i.vlan.map (·.toDocument)),
    ("uplink", i.uplink.map .text),
    ("ipv4_address", some (.text i.ipv4.text)),
    ("ipv4_prefixlen", i.ipv4Length.map .natural),
    ("ipv4_gateway", i.ipv4Gateway.map .text),
    ("ipv6_address", i.ipv6.map fun mode => .text mode.text),
    ("ipv6_disabled", some (.bool i.ipv6Disabled)),
    ("ipv6_pd_prefixlen", i.delegationLength.map .natural),
    ("ipv6_ask_for_prefix", some (.bool i.asksForPrefix)),
    ("ipv6_delegated_prefix", i.delegatedPrefix.map .text),
    ("mac_address", i.mac.map .text),
    ("firewall_zone", i.firewallZone.map .text)]

def Host.toDocument (h : Host) : Document :=
  .tableOf [
    ("hostname", some (.text h.hostname)),
    ("roles", some (.list (h.roles.map (·.toDocument)))),
    ("is_vm", some (.bool h.isVm)),
    ("vmhost", h.vmhost.map .text),
    ("vcpus", some (.natural h.vcpus)),
    ("memory_mb", some (.natural h.memoryMb)),
    ("disk_size_mb", some (.natural h.diskSizeMb)),
    ("local_firewall", some (.bool h.localFirewall)),
    ("aliases", some (.texts h.aliases)),
    ("interfaces", some (.list (h.interfaces.map (·.toDocument))))]

/-! ## Policy -/

def PortValue.toDocument : PortValue → Document
  | number n => .integer n
  | text s => .text s

def PortSpec.toDocument : PortSpec → Document
  | one value => value.toDocument
  | many values => .list (values.map (·.toDocument))

def ServiceSpec.toDocument : ServiceSpec → Document
  | named name => .text name
  | ports protocol values comment =>
    .tableOf [
      ("proto", some (.text protocol)),
      ("port", some values.toDocument),
      ("comment", some (.text comment))]

def Locator.toDocument (l : Locator) : Document :=
  .tableOf [
    ("vlan", some l.vlan.toDocument),
    ("vswitch", l.switch.map .text),
    ("hostname", l.hostname.map .text),
    ("ipset", l.ipset.map .text),
    ("ipv4_address", l.ipv4.map .text),
    ("ipv6_address", l.ipv6.map .text)]

def Rule.toDocument (r : Rule) : Document :=
  .tableOf [
    ("comment", some (.text r.comment)),
    ("sources", some (.list (r.sources.map (·.toDocument)))),
    ("destinations", some (.list (r.destinations.map (·.toDocument)))),
    ("allow-all", some (.bool r.allowAll)),
    ("allow", Document.unlessEmpty (r.allow.map (·.toDocument))),
    ("forward", Document.unlessEmpty (r.forward.map (·.toDocument)))]

def IpSet.toDocument (s : IpSet) : Document :=
  .tableOf [("name", some (.text s.name)), ("addresses", some (.texts s.addresses))]

def Policy.toDocument (p : Policy) : Document :=
  .tableOf [
    ("ipsets", some (.list (p.ipsets.map (·.toDocument)))),
    ("rules", some (.list (p.rules.map (·.toDocument))))]

/-! ## Sites -/

def Site.toDocument (lease : LeaseWriter) (s : Site) : Document :=
  .tableOf [
    ("name", some (.text s.name)),
    ("domain", some (.text s.domain)),
    ("timezone", some (.text s.timezone)),
    ("ntp_servers", some (.texts s.ntpServers)),
    ("external_dns", some (.texts s.externalDns)),
    ("ipv6_pd_first_network", some (.natural s.firstDelegationIndex)),
    ("vswitches", some (.list (s.switches.map (·.toDocument lease)))),
    ("firewall", some s.policy.toDocument),
    ("hosts", some (.list (s.hosts.map (·.toDocument))))]

end NetworkSite
