/-
  The expansion of a rule.

  A rule can be expanded if its locators stand for something, its services have
  ports, and it does something that its destinations allow (`Rule.IsExpandable`).
  Its tuples are then all combinations of a source, a destination and a port, in
  this order, except that the locator of all vlans pairs none with itself
  (`Rule.Resolution.tuples`).  Otherwise there is one fault for each item that
  stands in the way (`OneEach`).  All of this is `Rule.expand_exact`.
-/
import NetworkSite.Proofs.Deduplication
import Mathlib.Data.List.ProdSigma

namespace NetworkSite

/-! ## Results -/

section

variable {α β ε : Type}

/-- One error for each item that fails, in the order of the items. -/
inductive OneEach (fails : α → ε → Prop) : List α → List ε → Prop
  | nil : OneEach fails [] []
  | fail {a : α} {e : ε} {items : List α} {errors : List ε} (h : fails a e)
      (hrest : OneEach fails items errors) : OneEach fails (a :: items) (e :: errors)
  | pass {a : α} {items : List α} {errors : List ε} (h : ∀ e, ¬fails a e)
      (hrest : OneEach fails items errors) : OneEach fails (a :: items) errors

theorem oneEach_filterMap {fails : α → ε → Prop} {error? : α → Option ε}
    (h : ∀ a e, fails a e ↔ error? a = some e) (items : List α) :
    OneEach fails items (items.filterMap error?) := by
  induction items with
  | nil => exact .nil
  | cons a rest ih =>
    cases ha : error? a with
    | none =>
      rw [List.filterMap_cons_none ha]
      refine .pass (fun e he => ?_) ih
      cases ha.symm.trans ((h a e).1 he)
    | some e =>
      rw [List.filterMap_cons_some ha]
      exact .fail ((h a e).2 ha) ih

theorem oneEach_errorsOf {fails : α → ε → Prop} {f : α → Except ε (List β)}
    (h : ∀ a e, fails a e ↔ f a = .error e) (items : List α) :
    OneEach fails items (errorsOf (items.map f)) := by
  rw [errorsOf, List.filterMap_map]
  refine oneEach_filterMap (fun a e => ?_) items
  rw [h, Function.comp_apply]
  cases f a <;> simp

theorem errorsOf_eq_nil_iff {results : List (Except ε (List α))} :
    errorsOf results = [] ↔ ∀ result ∈ results, ∃ values, result = .ok values := by
  rw [errorsOf, List.filterMap_eq_nil_iff]
  refine forall₂_congr fun result _ => ?_
  cases result <;> simp

theorem valuesOf_of_mapM {f : α → Except ε (List β)} {items : List α} {values : List (List β)}
    (h : items.mapM f = .ok values) : valuesOf (items.map f) = values.flatten := by
  have hvalues := forall₂_of_mapM_eq_ok h
  clear h
  induction hvalues with
  | nil => rfl
  | cons hab _ ih =>
    rw [List.map_cons, List.flatten_cons, ← ih]
    simp [valuesOf, hab]

theorem flatMap_filter (keep : α → Bool) (f : α → List β) (items : List α) :
    (items.filter keep).flatMap f = items.flatMap fun a => if keep a then f a else [] := by
  induction items with
  | nil => rfl
  | cons a rest ih =>
    rw [List.flatMap_cons, ← ih, List.filter_cons]
    split
    next => exact List.flatMap_cons
    next => rfl

end

/-! ## Locators -/

namespace Locator

variable {s : Site} {p : AddressPlan} {l : Locator} {e : SideEndpoint} {side : Side}

/-- What is wrong with a locator on a side of a rule: a reference that leads
    nowhere, or one to nothing. -/
inductive Fails (s : Site) (p : AddressPlan) (side : Side) (l : Locator) : RuleFault → Prop
  | unresolved {fault : RuleFault} (h : l.endpoints s p = .error fault) : Fails s p side l fault
  | empty (h : l.endpoints s p = .ok []) : Fails s p side l (.noEndpoints side l.text)

theorem fails_iff {fault : RuleFault} :
    l.Fails s p side fault ↔ l.sideEndpoints s p side = .error fault := by
  rw [sideEndpoints_eq_error]
  constructor
  · rintro (h | h)
    · exact .inl h
    · exact .inr ⟨h, rfl⟩
  · rintro (h | ⟨h, rfl⟩)
    · exact .unresolved h
    · exact .empty h

theorem oneEach_sideEndpoints (locators : List Locator) :
    OneEach (Fails s p side) locators (errorsOf (locators.map (·.sideEndpoints s p side))) := by
  refine oneEach_errorsOf (fun l fault => ?_) locators
  exact fails_iff

theorem exists_sideEndpoints_iff :
    (∃ es, l.sideEndpoints s p side = .ok es) ↔ ∃ e, l.StandsFor s p e := by
  unfold StandsFor sideEndpoints
  cases l.endpoints s p with
  | error fault => simp
  | ok es =>
    cases es with
    | nil => simp
    | cons e rest => exact iff_of_true ⟨_, rfl⟩ ⟨e, _, rfl, List.mem_cons_self⟩

/-- A locator without endpoints adds none to its side. -/
theorem valuesOf_sideEndpoints (locators : List Locator) :
    valuesOf (locators.map (·.sideEndpoints s p side)) =
      valuesOf (locators.map (·.endpoints s p)) := by
  rw [valuesOf, valuesOf, List.flatMap_map, List.flatMap_map]
  congr 1
  funext l
  rw [sideEndpoints]
  cases l.endpoints s p with
  | error fault => rfl
  | ok es => cases es <;> rfl

theorem exists_mapM_endpoints {locators : List Locator}
    (h : ∀ l ∈ locators, ∃ e, l.StandsFor s p e) :
    ∃ endpoints, locators.mapM (·.endpoints s p) = .ok endpoints := by
  refine exists_mapM_eq_ok fun l hl => ?_
  obtain ⟨-, es, hes, -⟩ := h l hl
  exact ⟨es, hes⟩

/-- Endpoints come from the locator of all vlans exactly if that is what the locator
    is. -/
theorem StandsFor.fromAll_iff (h : l.StandsFor s p e) : e.fromAll = true ↔ l.scope = .all := by
  cases standsFor_iff.1 h with
  | routable hs => exact iff_of_true rfl hs
  | firewall hs => simp [hs]
  | whole hz | narrowed hz =>
    cases hz with
    | internet hs => simp [hs]
    | vlan hw =>
      obtain ⟨ref, -, hs, -⟩ := hw
      simp [hs]
  | host hw =>
    obtain ⟨ref, -, hs, -⟩ := hw
    simp [hs]

end Locator

/-! ## Actions -/

/-- The services that an action names. -/
def RuleAction.services : RuleAction → List ServiceSpec
  | .allow services | .forward services => services
  | .allowAll | .none => []

/-- The ports that an action opens, service by service. -/
inductive RuleAction.Opens : RuleAction → List (List ServicePort) → Prop
  | allowAll : Opens .allowAll [[{ protocol := .any, ports := Option.none, comment := "" }]]
  | allow {services : List ServiceSpec} {ports : List (List ServicePort)}
      (h : services.mapM ServiceSpec.resolve = .ok ports) : Opens (.allow services) ports
  | forward {services : List ServiceSpec} {ports : List (List ServicePort)}
      (h : services.mapM ServiceSpec.resolve = .ok ports) : Opens (.forward services) ports

namespace Rule

variable {s : Site} {p : AddressPlan} {r : Rule}

/-- What is wrong with a service. -/
def FailsService (service : ServiceSpec) (fault : RuleFault) : Prop :=
  ∃ e, service.resolve = .error e ∧ fault = .service e

theorem portsOf_eq (services : List ServiceSpec) :
    portsOf services = services.map fun service => service.resolve.mapError .service := by
  rw [portsOf]
  congr 1
  funext service
  cases service.resolve <;> rfl

theorem oneEach_portsOf (services : List ServiceSpec) :
    OneEach FailsService services (errorsOf (portsOf services)) := by
  rw [portsOf_eq]
  refine oneEach_errorsOf (fun service fault => ?_) services
  rw [mapError_eq_error]
  simp only [FailsService, eq_comm]

theorem errorsOf_portsOf_eq_nil_iff {services : List ServiceSpec} :
    errorsOf (portsOf services) = [] ↔
      ∀ service ∈ services, ∃ ports, service.resolve = .ok ports := by
  rw [portsOf_eq, errorsOf_eq_nil_iff]
  simp only [List.forall_mem_map, mapError_eq_ok]

theorem valuesOf_portsOf {services : List ServiceSpec} {ports : List (List ServicePort)}
    (h : services.mapM ServiceSpec.resolve = .ok ports) :
    valuesOf (portsOf services) = ports.flatten := by
  rw [← valuesOf_of_mapM h, portsOf_eq, valuesOf, valuesOf, List.flatMap_map, List.flatMap_map]
  congr 1
  funext service
  cases service.resolve <;> rfl

/-- The faults of an action are those of its services, and that there is none. -/
theorem errorsOf_portResults (r : Rule) : ∃ faults,
    OneEach FailsService r.action.services faults ∧
    errorsOf r.portResults = faults ++ if r.action = .none then [.noAction] else [] := by
  unfold portResults
  cases r.action with
  | allowAll => exact ⟨[], .nil, rfl⟩
  | none => exact ⟨[], .nil, rfl⟩
  | allow services | forward services =>
    exact ⟨_, oneEach_portsOf services, (List.append_nil _).symm⟩

theorem errorsOf_portResults_eq_nil_iff : errorsOf r.portResults = [] ↔
    (∀ service ∈ r.action.services, ∃ ports, service.resolve = .ok ports) ∧ r.action ≠ .none := by
  unfold portResults
  cases r.action with
  | allowAll => simp [errorsOf, RuleAction.services]
  | none => simp [errorsOf]
  | allow services | forward services => simp [errorsOf_portsOf_eq_nil_iff, RuleAction.services]

theorem valuesOf_portResults {ports : List (List ServicePort)} (h : r.action.Opens ports) :
    valuesOf r.portResults = ports.flatten := by
  unfold portResults
  generalize r.action = action at h
  cases h with
  | allowAll => rfl
  | allow h | forward h => exact valuesOf_portsOf h

theorem exists_opens (h : ∀ service ∈ r.action.services, ∃ ports, service.resolve = .ok ports)
    (ha : r.action ≠ .none) : ∃ ports, r.action.Opens ports := by
  generalize r.action = action at h ha
  cases action with
  | allowAll => exact ⟨_, .allowAll⟩
  | none => exact absurd rfl ha
  | allow services =>
    obtain ⟨ports, hports⟩ := exists_mapM_eq_ok h
    exact ⟨ports, .allow hports⟩
  | forward services =>
    obtain ⟨ports, hports⟩ := exists_mapM_eq_ok h
    exact ⟨ports, .forward hports⟩

theorem tupleAction_eq_forward_iff :
    r.tupleAction = .forward ↔ ∃ services, r.action = .forward services := by
  unfold tupleAction
  cases r.action <;> simp

/-! ## Faults -/

/-- The endpoints to which a rule redirects: those of its destinations, if it
    redirects at all. -/
def redirected (s : Site) (p : AddressPlan) (r : Rule) : List SideEndpoint :=
  match r.action with
  | .forward _ => valuesOf (r.destinations.map (·.endpoints s p))
  | _ => []

/-- What is wrong with an endpoint that is a whole zone, if connections are
    redirected to it. -/
def FailsTarget (target : SideEndpoint) (fault : RuleFault) : Prop :=
  target.endpoint.isNarrowed = false ∧ fault = .forwardWithoutTarget target.endpoint.name

theorem oneEach_forwardFaults (s : Site) (p : AddressPlan) (r : Rule) :
    OneEach FailsTarget (r.redirected s p) (r.forwardFaults s p) := by
  unfold redirected forwardFaults tupleAction
  cases r.action with
  | allowAll | allow | none => exact .nil
  | forward services =>
    dsimp only
    rw [destinationResults, Locator.valuesOf_sideEndpoints]
    generalize valuesOf (r.destinations.map (·.endpoints s p)) = targets
    rw [← List.filterMap_eq_map, List.filterMap_filter]
    refine oneEach_filterMap (fun target fault => ?_) targets
    unfold FailsTarget
    cases target.endpoint.isNarrowed <;> simp [eq_comm]

/-- Nothing stands in the way of expanding a rule. -/
structure IsExpandable (s : Site) (p : AddressPlan) (r : Rule) : Prop where
  locators : ∀ l ∈ r.sources ++ r.destinations, ∃ e, l.StandsFor s p e
  services : ∀ service ∈ r.action.services, ∃ ports, service.resolve = .ok ports
  acts : r.action ≠ .none
  targets : r.tupleAction = .forward →
    ∀ l ∈ r.destinations, ∀ e, l.StandsFor s p e → e.endpoint.isNarrowed = true

theorem errorsOf_sideEndpoints_eq_nil_iff {side : Side} {locators : List Locator} :
    errorsOf (locators.map (·.sideEndpoints s p side)) = [] ↔
      ∀ l ∈ locators, ∃ e, l.StandsFor s p e := by
  simp only [errorsOf_eq_nil_iff, List.forall_mem_map, Locator.exists_sideEndpoints_iff]

theorem forwardFaults_eq_nil_iff : r.forwardFaults s p = [] ↔ (r.tupleAction = .forward →
    ∀ l ∈ r.destinations, ∀ e, l.StandsFor s p e → e.endpoint.isNarrowed = true) := by
  unfold forwardFaults
  cases r.tupleAction with
  | accept => simp
  | forward =>
    simp only [List.map_eq_nil_iff, List.filter_eq_nil_iff, destinationResults,
      Locator.mem_sideEndpoints, Bool.not_eq_true', Bool.not_eq_false, forall_const]
    constructor
    · intro h l hl e he
      exact h e ⟨l, hl, he⟩
    · rintro h e ⟨l, hl, he⟩
      exact h l hl e he

theorem faults_eq_nil_iff : r.faults s p = [] ↔ r.IsExpandable s p := by
  rw [faults, List.append_eq_nil_iff, List.append_eq_nil_iff, List.append_eq_nil_iff, sourceResults,
    destinationResults, errorsOf_sideEndpoints_eq_nil_iff, errorsOf_sideEndpoints_eq_nil_iff,
    errorsOf_portResults_eq_nil_iff, forwardFaults_eq_nil_iff]
  constructor
  · rintro ⟨⟨⟨hs, hd⟩, hservices, hacts⟩, htargets⟩
    refine ⟨fun l hl => ?_, hservices, hacts, htargets⟩
    rcases List.mem_append.1 hl with hl | hl
    · exact hs l hl
    · exact hd l hl
  · intro h
    exact ⟨⟨⟨fun l hl => h.locators l (List.mem_append_left _ hl),
      fun l hl => h.locators l (List.mem_append_right _ hl)⟩, h.services, h.acts⟩, h.targets⟩

theorem expand_eq_ok_iff {tuples : List RuleTuple} :
    r.expand s p = .ok tuples ↔ r.IsExpandable s p ∧ tuples = r.tuples s p := by
  rw [← faults_eq_nil_iff]
  unfold expand
  split
  next h => simp [h, eq_comm]
  next h => exact iff_of_false nofun fun hok => h hok.1

theorem expand_eq_error {faults : List RuleFault} (h : r.expand s p = .error faults) :
    faults = r.faults s p := by
  unfold expand at h
  split at h
  next => cases h
  next => exact (Except.error.inj h).symm

/-! ## Tuples -/

/-- What the items of a rule stand for, item by item. -/
structure Resolution (s : Site) (p : AddressPlan) (r : Rule) where
  sources : List (List SideEndpoint)
  destinations : List (List SideEndpoint)
  ports : List (List ServicePort)
  sources_eq : r.sources.mapM (·.endpoints s p) = .ok sources
  destinations_eq : r.destinations.mapM (·.endpoints s p) = .ok destinations
  opens : r.action.Opens ports

namespace Resolution

variable (items : r.Resolution s p)

/-- The pairs of a source and a destination, by sources first.  The locator of
    all vlans pairs none with itself. -/
def pairs : List (SideEndpoint × SideEndpoint) :=
  (items.sources.flatten ×ˢ items.destinations.flatten).filter fun (e, f) => !isSkipped e f

/-- The tuples for all pairs with all ports, by pairs first. -/
def tuples : List RuleTuple :=
  (items.pairs ×ˢ items.ports.flatten).map fun ((e, f), port) => r.tuple e f port

theorem valuesOf_sourceResults : valuesOf (r.sourceResults s p) = items.sources.flatten := by
  rw [sourceResults, Locator.valuesOf_sideEndpoints, valuesOf_of_mapM items.sources_eq]

theorem valuesOf_destinationResults :
    valuesOf (r.destinationResults s p) = items.destinations.flatten := by
  rw [destinationResults, Locator.valuesOf_sideEndpoints, valuesOf_of_mapM items.destinations_eq]

theorem tuples_eq : r.tuples s p = items.tuples := by
  rw [Rule.tuples, items.valuesOf_sourceResults, items.valuesOf_destinationResults,
    valuesOf_portResults items.opens, tuples, pairs]
  simp only [SProd.sprod, List.product, List.filter_flatMap, List.filter_map, List.flatMap_assoc,
    List.flatMap_map, List.map_flatMap, flatMap_filter]
  refine List.flatMap_congr fun e _ => List.flatMap_congr fun f _ => ?_
  cases hskip : isSkipped e f <;> simp [hskip, Function.comp_def]

theorem exists_mem_sources {e : SideEndpoint} (h : e ∈ items.sources.flatten) :
    ∃ l ∈ r.sources, l.StandsFor s p e := by
  rw [← items.valuesOf_sourceResults] at h
  exact Locator.mem_sideEndpoints.1 h

theorem exists_mem_destinations {e : SideEndpoint} (h : e ∈ items.destinations.flatten) :
    ∃ l ∈ r.destinations, l.StandsFor s p e := by
  rw [← items.valuesOf_destinationResults] at h
  exact Locator.mem_sideEndpoints.1 h

theorem length_tuples (h : ∀ l ∈ r.sources ++ r.destinations, l.scope ≠ .all) :
    items.tuples.length = items.sources.flatten.length * items.destinations.flatten.length *
      items.ports.flatten.length := by
  have hall : ∀ {l : Locator} {e : SideEndpoint}, l ∈ r.sources ++ r.destinations →
      l.StandsFor s p e → e.fromAll = false := by
    intro l e hl he
    exact Bool.eq_false_iff.2 fun hfrom => h l hl (he.fromAll_iff.1 hfrom)
  have hpairs : items.pairs = items.sources.flatten ×ˢ items.destinations.flatten := by
    refine List.filter_eq_self.2 fun ⟨e, f⟩ hef => ?_
    obtain ⟨he, hf⟩ := List.mem_product.1 hef
    obtain ⟨l, hl, he⟩ := items.exists_mem_sources he
    obtain ⟨k, hk, hf⟩ := items.exists_mem_destinations hf
    simp [isSkipped, hall (List.mem_append_left _ hl) he, hall (List.mem_append_right _ hk) hf]
  rw [tuples, List.length_map, List.length_product, hpairs, List.length_product]

end Resolution

theorem exists_resolution (h : r.IsExpandable s p) : Nonempty (r.Resolution s p) := by
  obtain ⟨sources, hs⟩ :=
    Locator.exists_mapM_endpoints fun l hl => h.locators l (List.mem_append_left _ hl)
  obtain ⟨destinations, hd⟩ :=
    Locator.exists_mapM_endpoints fun l hl => h.locators l (List.mem_append_right _ hl)
  obtain ⟨ports, hports⟩ := exists_opens h.services h.acts
  exact ⟨⟨sources, destinations, ports, hs, hd, hports⟩⟩

/-- **What the expansion of a rule is.**  It has tuples exactly if nothing stands in
    the way.  The tuples are those of all pairs of its endpoints with all its
    ports, in order; without the locator of all vlans they are as many as there
    are sources, destinations and ports, multiplied.  The faults are one for each
    source, each destination, each service and each target that fails, and one if
    the rule does nothing. -/
theorem expand_exact (s : Site) (p : AddressPlan) (r : Rule) :
    ((∃ tuples, r.expand s p = .ok tuples) ↔ r.IsExpandable s p) ∧
    (∀ tuples, r.expand s p = .ok tuples → ∃ items : r.Resolution s p, tuples = items.tuples ∧
      ((∀ l ∈ r.sources ++ r.destinations, l.scope ≠ .all) → tuples.length =
        items.sources.flatten.length * items.destinations.flatten.length *
          items.ports.flatten.length)) ∧
    ∀ faults, r.expand s p = .error faults → ∃ sources destinations services targets,
      OneEach (Locator.Fails s p .source) r.sources sources ∧
      OneEach (Locator.Fails s p .destination) r.destinations destinations ∧
      OneEach FailsService r.action.services services ∧
      OneEach FailsTarget (r.redirected s p) targets ∧
      faults = sources ++ destinations ++
        (services ++ if r.action = .none then [.noAction] else []) ++ targets := by
  refine ⟨?_, fun tuples h => ?_, fun faults h => ?_⟩
  · rw [exists_expand_iff, faults_eq_nil_iff]
  · obtain ⟨hr, rfl⟩ := expand_eq_ok_iff.1 h
    obtain ⟨items⟩ := exists_resolution hr
    rw [items.tuples_eq]
    exact ⟨items, rfl, items.length_tuples⟩
  · obtain ⟨services, hservices, heq⟩ := errorsOf_portResults r
    refine ⟨_, _, services, _, Locator.oneEach_sideEndpoints r.sources,
      Locator.oneEach_sideEndpoints r.destinations, hservices, oneEach_forwardFaults s p r, ?_⟩
    rw [expand_eq_error h, Rule.faults, heq, sourceResults, destinationResults]

/-- A rule from two vlans to the outside and a host, for three ports. -/
def crossing : Rule where
  sources := [.ofVlan "lan", .ofVlan "lab"]
  destinations := [.outside, .ofHost "lan" "nas"]
  allow := [.named "web", .ports "tcp" (.one (.text "8000-8080")) ""]

/-- A rule that redirects to a whole vlan, with an unknown vlan and an unknown
    service. -/
def misdirected : Rule where
  sources := [.ofVlan "attic"]
  destinations := [.ofHost "lan" "nas", .ofVlan "lan"]
  forward := [.named "ssh", .named "gopher"]

/-- The first of the rules has twelve tuples, and the other one has three faults. -/
theorem crossing_expansion :
    (∃ tuples, crossing.expand (Site.backups "lab") (Site.backupsPlan "lab") = .ok tuples ∧
      tuples.length = 2 * 2 * 3 ∧
      ∃ items : crossing.Resolution (Site.backups "lab") (Site.backupsPlan "lab"),
        tuples = items.tuples ∧ tuples.length = items.sources.flatten.length *
          items.destinations.flatten.length * items.ports.flatten.length) ∧
    ∃ faults, misdirected.expand (Site.backups "lab") (Site.backupsPlan "lab") = .error faults ∧
      faults = [.unknownReference "vlan" "attic", .service (.unknownService "gopher"),
        .forwardWithoutTarget "lan"] ∧
      ∃ sources destinations services targets,
        OneEach (Locator.Fails (Site.backups "lab") (Site.backupsPlan "lab") .source)
          misdirected.sources sources ∧
        OneEach (Locator.Fails (Site.backups "lab") (Site.backupsPlan "lab") .destination)
          misdirected.destinations destinations ∧
        OneEach FailsService misdirected.action.services services ∧
        OneEach FailsTarget
          (misdirected.redirected (Site.backups "lab") (Site.backupsPlan "lab")) targets ∧
        faults = sources ++ destinations ++
          (services ++ if misdirected.action = .none then [.noAction] else []) ++ targets := by
  constructor
  · have h := expand_eq_ok_iff.2 ⟨faults_eq_nil_iff.1
      (by decide : crossing.faults (Site.backups "lab") (Site.backupsPlan "lab") = []), rfl⟩
    obtain ⟨items, heq, hlength⟩ := (expand_exact _ _ crossing).2.1 _ h
    exact ⟨_, h, by decide, items, heq, hlength (by decide)⟩
  · have h : misdirected.expand (Site.backups "lab") (Site.backupsPlan "lab") =
        .error [.unknownReference "vlan" "attic", .service (.unknownService "gopher"),
          .forwardWithoutTarget "lan"] := by
      decide
    exact ⟨_, h, rfl, (expand_exact _ _ misdirected).2.2 _ h⟩

end Rule

end NetworkSite
