/-
  Dependencies between hosts: which one must be built before which.

  A virtual machine waits for the host that runs it, and a server for names or
  addresses on a routable vlan waits for the router.  Hosts are numbered in the
  order of their declaration; a name stands for the first host that has it.
-/
import NetworkSite.Site.Basic

namespace NetworkSite

/-- Why one host waits for another. -/
inductive DependencyKind where
  /-- The other host runs it. -/
  | hosting
  /-- The other host routes its traffic. -/
  | routing
  deriving DecidableEq

def DependencyKind.name : DependencyKind → String
  | hosting => "hosting"
  | routing => "routing"

/-- The host number `before` is built before the host number `after`. -/
structure Dependency where
  before : Nat
  after : Nat
  kind : DependencyKind
  deriving DecidableEq

/-- The hosts of a site with the dependencies between them, which are sorted by
    `before`, `after` and kind. -/
structure DependencyGraph where
  hosts : List String
  edges : List Dependency
  before_lt : ∀ e ∈ edges, e.before < hosts.length := by decide
  after_lt : ∀ e ∈ edges, e.after < hosts.length := by decide

/-! ## The dependencies of a site -/

namespace Site

/-- The number of the first host with a name. -/
def hostIndex? (s : Site) (hostname : String) : Option Nat :=
  (s.hosts.map (·.hostname)).idxOf? hostname

/-- The numbers of the routers. -/
def routerIndices (s : Site) : List Nat :=
  (s.hostsWithRole .router).filterMap fun h => s.hostIndex? h.hostname

/-- The host serves names or addresses. -/
def isServer (h : Host) : Bool :=
  h.hasRole .dns || h.hasRole .dhcp

/-- The host has an interface on a routable vlan. -/
def isRouted (s : Site) (h : Host) : Bool :=
  (h.interfaces.filter (!·.isUplink)).any fun i => (s.interfaceVlan? i).any (·.2.routable)

end Site

/-- What a host waits for. -/
structure Needs where
  index : Nat
  /-- The number of the host that runs it. -/
  vmhost : Option Nat
  /-- It waits for the router. -/
  router : Bool
  deriving DecidableEq

/-- What the host with a number waits for. -/
def Host.needs (s : Site) (index : Nat) (h : Host) : Needs where
  index := index
  vmhost := if h.isVm then h.vmhost.bind s.hostIndex? else none
  router := Site.isServer h && s.isRouted h

/-- The dependencies of a host on the host number `before`. -/
def Needs.edges (routers : List Nat) (before : Nat) (n : Needs) : List Dependency :=
  if before = n.index then []
  else
    (if n.vmhost = some before then [{ before, after := n.index, kind := .hosting }] else []) ++
      if n.router && routers.contains before then [{ before, after := n.index, kind := .routing }] else []

theorem Needs.eq_of_mem_edges {n : Needs} {routers : List Nat} {before : Nat} {e : Dependency}
    (he : e ∈ n.edges routers before) : e.before = before ∧ e.after = n.index := by
  unfold edges at he
  split at he
  · cases he
  · rcases List.mem_append.1 he with he | he
    all_goals
      rw [List.mem_ite_nil_right, List.mem_singleton] at he
      exact ⟨he.2 ▸ rfl, he.2 ▸ rfl⟩

namespace Site

/-- The dependencies between the hosts of a site. -/
def dependencyEdges (s : Site) : List Dependency :=
  let routers := s.routerIndices
  let needs := s.hosts.zipIdx.map fun (h, index) => h.needs s index
  (List.range s.hosts.length).flatMap fun before => needs.flatMap (·.edges routers before)

theorem lt_of_mem_dependencyEdges {s : Site} {e : Dependency} (he : e ∈ s.dependencyEdges) :
    e.before < s.hosts.length ∧ e.after < s.hosts.length := by
  simp only [dependencyEdges, List.mem_flatMap, List.mem_range, List.mem_map] at he
  obtain ⟨before, hlt, n, ⟨⟨h, index⟩, hm, rfl⟩, he⟩ := he
  obtain ⟨rfl, hafter⟩ := Needs.eq_of_mem_edges he
  have hi := (List.getElem?_eq_some_iff.1 (List.mk_mem_zipIdx_iff_getElem?.1 hm)).1
  exact ⟨hlt, hafter ▸ hi⟩

/-- The graph of a site. -/
def dependencies (s : Site) : DependencyGraph where
  hosts := s.hosts.map (·.hostname)
  edges := s.dependencyEdges
  before_lt e he := by
    rw [List.length_map]
    exact (lt_of_mem_dependencyEdges he).1
  after_lt e he := by
    rw [List.length_map]
    exact (lt_of_mem_dependencyEdges he).2

end Site

namespace DependencyGraph

def size (g : DependencyGraph) : Nat :=
  g.hosts.length

def isEmpty (g : DependencyGraph) : Bool :=
  g.hosts.isEmpty

/-- The name of the host with a number. -/
def hostname (g : DependencyGraph) (index : Nat) : String :=
  g.hosts.getD index ""

/-- The names of the hosts for which the first host with this name waits, and
    why. -/
def dependenciesOf (g : DependencyGraph) (hostname : String) : List (String × DependencyKind) :=
  match g.hosts.idxOf? hostname with
  | some index => (g.edges.filter (·.after == index)).map fun e => (g.hostname e.before, e.kind)
  | none => []

end DependencyGraph

end NetworkSite
