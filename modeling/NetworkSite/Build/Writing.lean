/-
  Writing build plans as documents.
-/
import NetworkSite.Addressing.Writing
import NetworkSite.Build.Plan

namespace NetworkSite

/-! ## Rules -/

def Endpoint.toDocument : Endpoint → Document
  | vlan name => .tableOf [("kind", some (.text "vlan")), ("vlan", some (.text name))]
  | internet => .tableOf [("kind", some (.text "internet"))]
  | firewall => .tableOf [("kind", some (.text "firewall"))]
  | host name hostname addresses =>
    .tableOf [
      ("kind", some (.text "host")),
      ("vlan", some (.text name)),
      ("hostname", some (.text hostname)),
      ("addresses", some (.list (addresses.map (·.toDocument))))]
  | address zone a =>
    .tableOf [("kind", some (.text "address")), ("zone", some (.text zone)), ("address", some a.toDocument)]
  | ipset zone name =>
    .tableOf [("kind", some (.text "ip_set")), ("zone", some (.text zone)), ("ipset", some (.text name))]

def TupleAction.name : TupleAction → String
  | accept => "accept"
  | forward => "forward"

def RuleTuple.toDocument (t : RuleTuple) : Document :=
  .tableOf [
    ("source", some t.source.toDocument),
    ("destination", some t.destination.toDocument),
    ("protocol", some (.text t.protocol.name)),
    ("ports", t.ports.map fun ports => .text ports.text),
    ("action", some (.text t.action.name)),
    ("comment", if t.comment.isEmpty then none else some (.text t.comment))]

/-! ## Plans -/

def Schedule.toDocument (p : Schedule) : Document :=
  .list (p.stages.map .texts)

def Environment.toDocument (env : Environment) : Document :=
  .ofFields (env.entries.map fun (name, value) => (name, .text value))

/-- The plan of a host without its environment and its files. -/
def HostPlan.toDocument (h : HostPlan) : Document :=
  .tableOf [
    ("hostname", some (.text h.hostname)),
    ("roles", some (.list (h.roles.map (·.toDocument)))),
    ("stage", some (.natural h.stage)),
    ("depends_on", some (.texts h.dependsOn))]

def BuildPlan.toDocument (p : BuildPlan) : Document :=
  .tableOf [
    ("site", some (.text p.site)),
    ("domain", some (.text p.domain)),
    ("stages", some p.schedule.toDocument),
    ("hosts", some (.list (p.hosts.map (·.toDocument)))),
    ("addresses", some p.addresses.toDocument),
    ("firewall", some (.list (p.firewall.map (·.toDocument))))]

end NetworkSite
