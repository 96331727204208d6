/-
  Writing address plans as documents.
-/
import NetworkSite.Addressing.Plan
import NetworkSite.Site.Writing

namespace NetworkSite

def Address.toDocument {f : Family} (a : Address f) : Document :=
  .text a.text

def IpAddress.toDocument (a : IpAddress) : Document :=
  .text a.text

def Network.toDocument {f : Family} (n : Network f) : Document :=
  .text n.text

/-- A value, or `null` where there is none. -/
def Document.orNull {α : Type} (f : α → Document) (value : Option α) : Document :=
  (value.map f).getD .null

def PrefixRequest.toDocument (r : PrefixRequest) : Document :=
  .tableOf [
    ("router", some (.text r.router)),
    ("interface", some (.text r.interface)),
    ("prefixlen", some (.natural r.length)),
    ("delegated_prefix", r.known.map (·.toDocument))]

def Ipv6Mode.toDocument : Ipv6Mode → Document
  | none => .tableOf [("mode", some (.text "none"))]
  | fixed subnet => .tableOf [("mode", some (.text "static")), ("subnet", some subnet.toDocument)]
  | delegated share =>
    .tableOf [
      ("mode", some (.text "delegated")),
      ("index", some (.natural share.index)),
      ("prefixlen", some (.natural share.length)),
      ("subnet", share.subnet.map (·.toDocument))]

def AddressRange.toDocument {f : Family} (r : AddressRange f) : Document :=
  .tableOf [("start", some r.first.toDocument), ("end", some r.last.toDocument)]

def Pool.toDocument {f : Family} (p : Pool f) : Document :=
  .list (p.ranges.map (·.toDocument))

def EntryKind.text : EntryKind → String
  | interface => "interface"
  | staticHost => "static_host"
  | reservation => "reservation"
  | gateway => "gateway"

def Entry.toDocument (e : Entry) : Document :=
  .tableOf [
    ("hostname", some (.text e.hostname)),
    ("kind", some (.text e.kind.text)),
    ("ipv4", e.ipv4.map (·.toDocument)),
    ("ipv6", e.ipv6.map (·.toDocument)),
    ("mac_address", e.mac.map .text),
    ("aliases", Document.unlessEmpty (e.aliases.map .text))]

def PlannedVlan.toDocument (w : PlannedVlan) : Document :=
  .tableOf [
    ("name", some (.text w.name)),
    ("vswitch", some (.text w.switch)),
    ("id", some (.orNull .natural w.id)),
    ("routable", some (.bool w.routable)),
    ("domain", some (.text w.domain)),
    ("ipv4_subnet", some w.subnet4.toDocument),
    ("ipv4_broadcast", some w.subnet4.last.toDocument),
    ("ipv4_gateway", some (.orNull (·.toDocument) w.gateway4)),
    ("ipv6", some w.ipv6.toDocument),
    ("ipv6_gateway", some (.orNull (·.toDocument) w.gateway6)),
    ("dhcp4_pool", some w.pool4.toDocument),
    ("dhcp6_pool", some w.pool6.toDocument),
    ("entries", some (.list (w.entries.map (·.toDocument))))]

def PlannedInterface.toDocument (i : PlannedInterface) : Document :=
  .tableOf [
    ("name", some (.text i.name)),
    ("vswitch", i.switch.map .text),
    ("vlan", i.vlan.map .text),
    ("uplink", i.uplink.map .text),
    ("ipv4", some (.text i.ipv4.text)),
    ("ipv4_prefixlen", i.ipv4Length.map .natural),
    ("ipv4_gateway", i.ipv4Gateway.map (·.toDocument)),
    ("ipv6", some (.text i.ipv6.text)),
    ("ipv6_prefixlen", i.ipv6Length.map .natural),
    ("mac_address", i.mac.map .text),
    ("firewall_zone", i.firewallZone.map .text)]

def PlannedHost.toDocument (h : PlannedHost) : Document :=
  .tableOf [
    ("hostname", some (.text h.hostname)),
    ("interfaces", some (.list (h.interfaces.map (·.toDocument))))]

def AddressPlan.toDocument (p : AddressPlan) : Document :=
  .tableOf [
    ("vlans", some (.list (p.vlans.map (·.toDocument)))),
    ("hosts", some (.list (p.hosts.map (·.toDocument)))),
    ("delegation", p.request.map (·.toDocument))]

end NetworkSite
