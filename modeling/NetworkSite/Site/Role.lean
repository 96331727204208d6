/-
  Roles of hosts.
-/
import NetworkSite.Text.Blank
import NetworkSite.Text.Case

namespace NetworkSite

/-- What a host is provisioned for. -/
inductive Role where
  /-- The base configuration, which every host has. -/
  | generic
  /-- Runs virtual machines. -/
  | vmhost
  /-- Routes and filters between the routable vlans. -/
  | router
  | dns
  | dhcp
  | ntp
  | storage
  /-- Builds images for other hosts. -/
  | build
  deriving DecidableEq, Inhabited

namespace Role

/-- All roles, in the order in which they are listed. -/
def all : List Role :=
  [generic, vmhost, router, dns, dhcp, ntp, storage, build]

def name : Role → String
  | generic => "generic"
  | vmhost => "vmhost"
  | router => "router"
  | dns => "dns"
  | dhcp => "dhcp"
  | ntp => "ntp"
  | storage => "storage"
  | build => "build"

/-- The role with exactly this name. -/
def ofName? (s : String) : Option Role :=
  all.find? (·.name == s)

/-- The role with this name, where case and white space around it do not
    count. -/
def ofText? (s : String) : Option Role :=
  all.find? fun r => Text.sameIgnoringCase r.name (Text.trim s)

/-- The text is the name of a role up to its case. -/
def isName (s : String) : Bool :=
  all.any fun r => Text.sameIgnoringCase r.name s

end Role

end NetworkSite
