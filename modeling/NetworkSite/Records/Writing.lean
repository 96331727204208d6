/-
  Writing DHCP settings as documents.
-/
import NetworkSite.Addressing.Writing
import NetworkSite.Records.Dhcp

namespace NetworkSite

def DhcpSubnet.toDocument {f : Family} (d : DhcpSubnet f) : Document :=
  .tableOf [
    ("vlan", some (.text d.vlan)),
    ("subnet", some d.subnet.toDocument),
    ("pool", some d.pool.toDocument),
    ("gateway", d.gateway.map (·.toDocument)),
    ("dns_servers", some (.list (d.dnsServers.map (·.toDocument)))),
    ("domain", some (.text d.domain)),
    ("lease_time_secs", some (.natural d.leaseSeconds))]

def DhcpReservation.toDocument (r : DhcpReservation) : Document :=
  .tableOf [
    ("vlan", some (.text r.vlan)),
    ("hostname", some (.text r.hostname)),
    ("mac_address", some (.text r.mac)),
    ("ipv4", r.ipv4.map (·.toDocument)),
    ("ipv6", r.ipv6.map (·.toDocument))]

def DhcpSettings.toDocument (d : DhcpSettings) : Document :=
  .tableOf [
    ("subnets4", some (.list (d.subnets4.map (·.toDocument)))),
    ("subnets6", some (.list (d.subnets6.map (·.toDocument)))),
    ("reservations", some (.list (d.reservations.map (·.toDocument))))]

end NetworkSite
