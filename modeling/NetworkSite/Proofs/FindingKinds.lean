/-
  Which check has which findings.

  Two kinds of findings compare parts of a site with each other: overlapping
  subnets and hosting cycles.  Only the check of subnets has the first kind
  (`Site.filter_isOverlap_findings`), and only the check of the hosting relation
  the second (`Site.filterMap_cycle?_findings`).
-/
import NetworkSite.Proofs.Validity
import Mathlib.Data.List.Basic

namespace NetworkSite

/-! ## Kinds -/

namespace Finding

/-- The finding is about subnets that overlap. -/
def isOverlap : Finding → Bool
  | subnetOverlap .. => true
  | _ => false

/-- The members of a hosting cycle, for a finding of one. -/
def cycle? : Finding → Option (List String)
  | hostingCycle hosts => some hosts
  | _ => none

/-- The finding is of neither kind. -/
def IsPlain : Finding → Prop
  | subnetOverlap .. => False
  | hostingCycle _ => False
  | _ => True

/-- No finding of a list is of either kind. -/
def ArePlain (findings : List Finding) : Prop :=
  ∀ e ∈ findings, e.IsPlain

variable {e : Finding} {holds : Bool} {findings : List Finding}

theorem IsPlain.isOverlap_eq (h : e.IsPlain) : e.isOverlap = false := by
  cases e <;> first | rfl | exact h.elim

theorem IsPlain.cycle?_eq (h : e.IsPlain) : e.cycle? = none := by
  cases e <;> first | rfl | exact h.elim

theorem ArePlain.filter_isOverlap (h : ArePlain findings) : findings.filter (·.isOverlap) = [] :=
  List.filter_eq_nil_iff.2 fun e he => by simp [(h e he).isOverlap_eq]

theorem ArePlain.filterMap_cycle? (h : ArePlain findings) : findings.filterMap (·.cycle?) = [] :=
  List.filterMap_eq_nil_iff.2 fun e he => (h e he).cycle?_eq

theorem mem_filterMap_cycle? {names : List String} :
    names ∈ findings.filterMap (·.cycle?) ↔ .hostingCycle names ∈ findings := by
  rw [List.mem_filterMap]
  constructor
  · rintro ⟨e, he, hc⟩
    cases e with
    | hostingCycle hosts => exact Option.some.inj hc ▸ he
    | _ => cases hc
  · exact fun he => ⟨_, he, rfl⟩

@[simp]
theorem arePlain_nil : ArePlain [] := nofun

@[simp]
theorem arePlain_cons : ArePlain (e :: findings) ↔ e.IsPlain ∧ ArePlain findings :=
  List.forall_mem_cons

@[simp]
theorem arePlain_append {others : List Finding} :
    ArePlain (findings ++ others) ↔ ArePlain findings ∧ ArePlain others :=
  List.forall_mem_append

@[simp]
theorem arePlain_flatMap {α : Type} {items : List α} {f : α → List Finding} :
    ArePlain (items.flatMap f) ↔ ∀ a ∈ items, ArePlain (f a) := by
  constructor
  · exact fun h a ha e he => h e (List.mem_flatMap.2 ⟨a, ha, he⟩)
  · intro h e he
    obtain ⟨a, ha, he⟩ := List.mem_flatMap.1 he
    exact h a ha e he

@[simp]
theorem arePlain_require : ArePlain (require holds e) ↔ (holds = false → e.IsPlain) := by
  cases holds <;> simp [require]

@[simp]
theorem arePlain_forbid : ArePlain (forbid holds e) ↔ (holds = true → e.IsPlain) := by
  cases holds <;> simp [forbid]

end Finding

open Finding

/-! ## Switches and vlans -/

theorem Vlan.arePlain_idFindings (switch : Switch) (earlier : List Vlan) (v : Vlan) :
    ArePlain (v.idFindings switch earlier) := by
  unfold idFindings
  split <;> simp [IsPlain]

theorem Vlan.arePlain_domainFindings (s : Site) (v : Vlan) : ArePlain (v.domainFindings s) := by
  unfold domainFindings
  split <;> simp [IsPlain]

theorem Switch.arePlain_ownFindings (before : List Switch) (switch : Switch) :
    ArePlain (switch.ownFindings before) := by
  unfold ownFindings
  split <;> simp [IsPlain]

theorem Site.arePlain_switchFindings (s : Site) : ArePlain s.switchFindings := by
  simp [switchFindings, Switch.arePlain_ownFindings, Switch.vlanFindings, Vlan.arePlain_idFindings,
    Vlan.nameFindings, Vlan.arePlain_domainFindings, Vlan.accessFindings, Switch.untaggedFindings,
    defaultFindings, IsPlain]

/-! ## Hosts and interfaces -/

theorem arePlain_aliasFindings (place : Place) (name : String) :
    ArePlain (aliasFindings place name) := by
  unfold aliasFindings
  split <;> simp [IsPlain]

theorem Site.arePlain_hostFindings (s : Site) : ArePlain s.hostFindings := by
  simp [hostFindings, Host.ownFindings, arePlain_aliasFindings, IsPlain]

theorem Host.arePlain_vmhostFindings (s : Site) (h : Host) : ArePlain (h.vmhostFindings s) := by
  unfold vmhostFindings
  repeat' split
  all_goals simp [IsPlain]

theorem arePlain_addressFindings (f : Family) (place : Place) (field text : String) :
    ArePlain (addressFindings f place field text) := by
  simp [addressFindings, IsPlain]

namespace Interface

variable {place : Place} {s : Site} {h : Host} {v networks : Vlan} {i : Interface}

theorem arePlain_uplinkFindings : ArePlain (i.uplinkFindings place h) := by
  simp only [uplinkFindings, uplink4Findings, uplinkAddressFindings, delegationFindings,
    prefixFindings]
  simp only [arePlain_append]
  refine ⟨⟨?_, ?_, ?_⟩, ?_⟩
  all_goals (repeat' split)
  all_goals simp [arePlain_addressFindings, IsPlain]

theorem arePlain_insideFindings {a : IpAddress} : ArePlain (insideFindings place v a) := by
  unfold insideFindings
  split <;> simp [IsPlain]

theorem arePlain_vlan4Findings : ArePlain (i.vlan4Findings place h v networks) := by
  unfold vlan4Findings
  repeat' split
  all_goals simp [arePlain_insideFindings, IsPlain]

theorem arePlain_vlan6Findings : ArePlain (i.vlan6Findings place v networks) := by
  unfold vlan6Findings
  repeat' split
  all_goals simp [arePlain_insideFindings, IsPlain]

theorem arePlain_switchFindings {switch : String} :
    ArePlain (i.switchFindings s place h switch) := by
  unfold switchFindings
  repeat' split
  all_goals simp [arePlain_vlan4Findings, arePlain_vlan6Findings, IsPlain]

theorem arePlain_shapeFindings : ArePlain (i.shapeFindings s place h) := by
  unfold shapeFindings
  split <;> simp [arePlain_uplinkFindings, arePlain_switchFindings, IsPlain]

theorem arePlain_macFindings {text : String} : ArePlain (macFindings place text) := by
  simp [macFindings, IsPlain]

end Interface

theorem Host.arePlain_interfaceFindings (s : Site) (h : Host) : ArePlain (h.interfaceFindings s) := by
  unfold interfaceFindings
  refine arePlain_flatMap.2 fun x _ => ?_
  dsimp only
  split <;> simp [Interface.arePlain_shapeFindings, Interface.arePlain_macFindings, IsPlain]

/-! ## Addresses -/

namespace AddressStep

/-- What a step can say is of neither kind. -/
def IsPlain : AddressStep → Prop
  | .remark e => e.IsPlain
  | .claim _ _ refused => ∀ other, (refused other).IsPlain

/-- A list of steps that only say such things. -/
def ArePlain (steps : List AddressStep) : Prop :=
  ∀ step ∈ steps, IsPlain step

variable {steps : List AddressStep} {findings : List Finding}

@[simp]
theorem arePlain_append {others : List AddressStep} :
    ArePlain (steps ++ others) ↔ ArePlain steps ∧ ArePlain others :=
  List.forall_mem_append

@[simp]
theorem arePlain_flatMap {α : Type} {items : List α} {f : α → List AddressStep} :
    ArePlain (items.flatMap f) ↔ ∀ a ∈ items, ArePlain (f a) := by
  constructor
  · exact fun h a ha step hs => h step (List.mem_flatMap.2 ⟨a, ha, hs⟩)
  · intro h step hs
    obtain ⟨a, ha, hs⟩ := List.mem_flatMap.1 hs
    exact h a ha step hs

@[simp]
theorem arePlain_remarks : ArePlain (findings.map .remark) ↔ Finding.ArePlain findings :=
  List.forall_mem_map

/-- A run says what its steps can say. -/
theorem arePlain_run {r : Registry} (h : ArePlain steps) : Finding.ArePlain (r.run steps).1 := by
  induction steps generalizing r with
  | nil => exact nofun
  | cons step rest ih =>
    obtain ⟨hstep, hrest⟩ := List.forall_mem_cons.1 h
    cases step with
    | remark e => exact Finding.arePlain_cons.2 ⟨hstep, ih hrest⟩
    | claim a o refused =>
      unfold Registry.run
      split
      next => exact ih hrest
      next other _ => exact Finding.arePlain_cons.2 ⟨hstep other, ih hrest⟩

end AddressStep

namespace Site

variable {s : Site} {v : Vlan} {place : Place}

theorem arePlain_poolFindings {a : IpAddress} {owner : String} :
    ArePlain (s.poolFindings v a owner) := by
  unfold poolFindings
  split <;> simp [IsPlain]

theorem arePlain_claimSteps {a : IpAddress} {owner : String} :
    AddressStep.ArePlain (s.claimSteps v a owner) := by
  unfold claimSteps
  split
  next =>
    refine AddressStep.arePlain_append.2 ⟨AddressStep.arePlain_remarks.2 arePlain_poolFindings, ?_⟩
    exact List.forall_mem_singleton.2 fun other => trivial
  next => exact AddressStep.arePlain_remarks.2 Interface.arePlain_insideFindings

theorem arePlain_entryAliasFindings {taken aliases : List String} :
    ArePlain (entryAliasFindings place v taken aliases) := by
  induction aliases generalizing taken with
  | nil => exact arePlain_nil
  | cons name rest ih =>
    simp [entryAliasFindings, arePlain_aliasFindings, entryNameFindings, ih, IsPlain]

theorem arePlain_entryFindings {taken aliases : List String} {hostname : String} :
    ArePlain (entryFindings place v taken hostname aliases) := by
  simp [entryFindings, entryNameFindings, arePlain_entryAliasFindings, IsPlain]

theorem arePlain_entry4Steps {owner text : String} :
    AddressStep.ArePlain (s.entry4Steps place v owner text) := by
  unfold entry4Steps
  split
  next => exact arePlain_claimSteps
  next => exact List.forall_mem_singleton.2 trivial

theorem arePlain_entry6Steps {owner text : String} :
    AddressStep.ArePlain (s.entry6Steps place v owner text) := by
  unfold entry6Steps
  split
  next => exact List.forall_mem_singleton.2 trivial
  next =>
    split
    next => exact List.forall_mem_singleton.2 trivial
    next => exact arePlain_claimSteps

theorem arePlain_vlanSteps : AddressStep.ArePlain (s.vlanSteps v) := by
  simp [vlanSteps, staticHostSteps, reservationSteps, arePlain_entryFindings, arePlain_entry4Steps,
    arePlain_entry6Steps, Interface.arePlain_macFindings]

theorem arePlain_hostSteps {h : Host} : AddressStep.ArePlain (s.hostSteps h) := by
  unfold hostSteps
  refine AddressStep.arePlain_flatMap.2 fun i _ => ?_
  split
  next =>
    refine AddressStep.arePlain_flatMap.2 fun a _ => ?_
    unfold innerSteps
    split
    next => exact arePlain_claimSteps
    next => exact nofun
  next => exact nofun

theorem arePlain_addressFindings (s : Site) : ArePlain s.addressFindings := by
  refine AddressStep.arePlain_run ?_
  simp [addressSteps, arePlain_vlanSteps, arePlain_hostSteps]

end Site

/-! ## The policy -/

theorem IpSet.arePlain_findings (before : List IpSet) (set : IpSet) :
    ArePlain (set.findings before) := by
  simp [findings, IsPlain]

theorem Locator.arePlain_findings (s : Site) (place : Place) (l : Locator) :
    ArePlain (l.findings s place) := by
  unfold findings
  refine arePlain_append.2 ⟨?_, ?_⟩
  · simp [narrowingFindings, NetworkSite.arePlain_addressFindings, IsPlain]
  · split
    next => simp [IsPlain]
    next => simp [IsPlain]
    next =>
      unfold outsideFindings
      refine arePlain_append.2 ⟨by simp [IsPlain], arePlain_flatMap.2 fun a _ => ?_⟩
      split <;> simp [IsPlain]
    next =>
      unfold vlanFindings
      split <;> simp [Interface.arePlain_insideFindings, IsPlain]

theorem Site.arePlain_policyFindings (s : Site) : ArePlain s.policyFindings := by
  simp [policyFindings, IpSet.arePlain_findings, Rule.findings, Locator.arePlain_findings, IsPlain]

/-! ## Subnets -/

namespace Vlan

variable {f : Family} {v : Vlan} {earlier : List Vlan} {subnet? : Vlan → Option (Network f)}

/-- What the check of one family finds on overlaps with the vlans in front. -/
def overlapsWith (subnet? : Vlan → Option (Network f)) (earlier : List Vlan) (v : Vlan) :
    List Finding :=
  (subnet? v).toList.flatMap fun subnet =>
    v.overlapFindings subnet (earlier.filterMap fun w => (subnet? w).map (w, ·))

theorem overlapsWith_of_none (h : subnet? v = none) : v.overlapsWith subnet? earlier = [] := by
  rw [overlapsWith, h, Option.toList_none, List.flatMap_nil]

theorem overlapsWith_of_some {subnet : Network f} (h : subnet? v = some subnet) :
    v.overlapsWith subnet? earlier =
      v.overlapFindings subnet (earlier.filterMap fun w => (subnet? w).map (w, ·)) := by
  rw [overlapsWith, h, Option.toList_some, List.flatMap_singleton]

theorem isOverlap_of_mem_overlapsWith {e : Finding} (he : e ∈ v.overlapsWith subnet? earlier) :
    e.isOverlap = true := by
  obtain ⟨subnet, -, he⟩ := List.mem_flatMap.1 he
  obtain ⟨⟨w, other⟩, -, he⟩ := List.mem_flatMap.1 he
  dsimp only at he
  unfold forbid at he
  split at he
  next =>
    rw [List.mem_singleton.1 he]
    rfl
  next => cases he

theorem filter_isOverlap_overlapsWith :
    (v.overlapsWith subnet? earlier).filter (·.isOverlap) = v.overlapsWith subnet? earlier :=
  List.filter_eq_self.2 fun _ => isOverlap_of_mem_overlapsWith

theorem filterMap_cycle?_overlapsWith :
    (v.overlapsWith subnet? earlier).filterMap (·.cycle?) = [] := by
  refine List.filterMap_eq_nil_iff.2 fun e he => ?_
  have ho := isOverlap_of_mem_overlapsWith he
  cases e with
  | hostingCycle hosts => cases ho
  | _ => rfl

/-- Beside overlaps, the check of an IPv4 subnet has neither kind. -/
theorem exists_subnet4Findings_eq (earlier : List Vlan) (v : Vlan) :
    ∃ others, ArePlain others ∧
      v.subnet4Findings earlier = v.overlapsWith Vlan.subnet4? earlier ++ others := by
  unfold subnet4Findings
  cases hn : (Network.ofText v.ipv4Subnet : Except NetworkError (Network .v4)) with
  | error e =>
    have hnone : v.subnet4? = none := by rw [subnet4?, Network.ofText?, hn]; rfl
    rw [overlapsWith_of_none hnone]
    exact ⟨_, by simp [IsPlain], rfl⟩
  | ok n =>
    have hsome : v.subnet4? = some n := Network.ofText?_eq_some.2 hn
    rw [overlapsWith_of_some hsome]
    exact ⟨_, by simp [IsPlain], rfl⟩

/-- Beside overlaps, the check of an IPv6 subnet has neither kind. -/
theorem exists_subnet6Findings_eq (earlier : List Vlan) (v : Vlan) :
    ∃ others, ArePlain others ∧
      v.subnet6Findings earlier = v.overlapsWith Vlan.subnet6? earlier ++ others := by
  unfold subnet6Findings
  cases ht : v.explicitIpv6? with
  | none =>
    have hnone : v.subnet6? = none := by rw [subnet6?, ht]; rfl
    rw [overlapsWith_of_none hnone]
    exact ⟨[], arePlain_nil, rfl⟩
  | some text =>
    dsimp only
    cases hn : (Network.ofText text : Except NetworkError (Network .v6)) with
    | error e =>
      have hnone : v.subnet6? = none := by
        rw [subnet6?, ht, Option.bind_some, Network.ofText?, hn]
        rfl
      rw [overlapsWith_of_none hnone]
      exact ⟨_, by simp [IsPlain], rfl⟩
    | ok n =>
      have hn : Network.ofText? text = some n := Network.ofText?_eq_some.2 hn
      by_cases hlen : 64 < n.length
      · have hnone : v.subnet6? = none := by
          rw [subnet6?, ht, Option.bind_some, hn, Option.filter_some_neg]
          simpa using hlen
        rw [overlapsWith_of_none hnone]
        dsimp only
        rw [if_pos hlen]
        exact ⟨_, by simp [IsPlain], rfl⟩
      · have hsome : v.subnet6? = some n :=
          subnet6?_eq_some.2 ⟨text, ht, hn, Nat.le_of_not_lt hlen⟩
        rw [overlapsWith_of_some hsome]
        dsimp only
        rw [if_neg hlen]
        exact ⟨_, by simp [IsPlain], rfl⟩

theorem arePlain_lengthFindings (v : Vlan) : ArePlain v.lengthFindings := by
  simp [lengthFindings, IsPlain]

end Vlan

namespace Site

theorem filter_isOverlap_subnetFindings (s : Site) :
    s.subnetFindings.filter (·.isOverlap) =
      (withEarlier (s.vlans.map (·.2))).flatMap fun (earlier, v) =>
        v.overlapsWith Vlan.subnet4? earlier ++ v.overlapsWith Vlan.subnet6? earlier := by
  rw [subnetFindings, List.filter_flatMap]
  refine List.flatMap_congr ?_
  rintro ⟨earlier, v⟩ -
  obtain ⟨others4, h4, he4⟩ := v.exists_subnet4Findings_eq earlier
  obtain ⟨others6, h6, he6⟩ := v.exists_subnet6Findings_eq earlier
  dsimp only
  rw [he4, he6]
  simp only [List.filter_append, Vlan.filter_isOverlap_overlapsWith, h4.filter_isOverlap,
    h6.filter_isOverlap, v.arePlain_lengthFindings.filter_isOverlap, List.append_nil]

theorem filterMap_cycle?_subnetFindings (s : Site) :
    s.subnetFindings.filterMap (·.cycle?) = [] := by
  rw [subnetFindings, List.filterMap_flatMap, List.flatMap_eq_nil_iff]
  rintro ⟨earlier, v⟩ -
  obtain ⟨others4, h4, he4⟩ := v.exists_subnet4Findings_eq earlier
  obtain ⟨others6, h6, he6⟩ := v.exists_subnet6Findings_eq earlier
  dsimp only
  rw [he4, he6]
  simp only [List.filterMap_append, Vlan.filterMap_cycle?_overlapsWith, h4.filterMap_cycle?,
    h6.filterMap_cycle?, v.arePlain_lengthFindings.filterMap_cycle?, List.append_nil]

/-! ## All checks -/

theorem arePlain_ownFindings (s : Site) : ArePlain s.ownFindings := by
  simp [ownFindings, IsPlain]

/-- The cycles that the check of the hosting relation finds. -/
def reportedCycles (s : Site) : List (List String) :=
  firstOccurrences (s.hosts.filterMap fun h => s.hostingCycle? h [h.hostname])

/-- Beside the findings on subnets and the cycles, none is of either kind. -/
theorem exists_findings_eq (s : Site) : ∃ front middle back, ArePlain front ∧ ArePlain middle ∧
    ArePlain back ∧ s.findings =
      front ++ s.subnetFindings ++ middle ++ s.reportedCycles.map .hostingCycle ++ back := by
  have hvmhost : ArePlain (s.hosts.flatMap (·.vmhostFindings s)) :=
    arePlain_flatMap.2 fun h _ => h.arePlain_vmhostFindings s
  have hinterface : ArePlain s.interfaceFindings :=
    arePlain_flatMap.2 fun h _ => h.arePlain_interfaceFindings s
  refine ⟨s.ownFindings ++ s.switchFindings,
    s.hostFindings ++ s.hosts.flatMap (·.vmhostFindings s),
    s.interfaceFindings ++ s.addressFindings ++ s.policyFindings,
    arePlain_append.2 ⟨s.arePlain_ownFindings, s.arePlain_switchFindings⟩,
    arePlain_append.2 ⟨s.arePlain_hostFindings, hvmhost⟩,
    arePlain_append.2 ⟨arePlain_append.2 ⟨hinterface, s.arePlain_addressFindings⟩,
      s.arePlain_policyFindings⟩, ?_⟩
  simp only [findings, hostingFindings, reportedCycles, List.append_assoc]

/-- Overlaps are found by the check of subnets only. -/
theorem filter_isOverlap_findings (s : Site) :
    s.findings.filter (·.isOverlap) =
      (withEarlier (s.vlans.map (·.2))).flatMap fun (earlier, v) =>
        v.overlapsWith Vlan.subnet4? earlier ++ v.overlapsWith Vlan.subnet6? earlier := by
  have hcycles : (s.reportedCycles.map Finding.hostingCycle).filter (·.isOverlap) = [] := by
    rw [List.filter_map, List.map_eq_nil_iff]
    exact List.filter_false _
  obtain ⟨front, middle, back, hfront, hmiddle, hback, he⟩ := s.exists_findings_eq
  rw [he]
  simp only [List.filter_append, hfront.filter_isOverlap, hmiddle.filter_isOverlap,
    hback.filter_isOverlap, hcycles, filter_isOverlap_subnetFindings, List.nil_append,
    List.append_nil]

/-- Cycles are found by the check of the hosting relation only. -/
theorem filterMap_cycle?_findings (s : Site) :
    s.findings.filterMap (·.cycle?) = s.reportedCycles := by
  have hcycles : (s.reportedCycles.map Finding.hostingCycle).filterMap (·.cycle?) =
      s.reportedCycles := by
    rw [List.filterMap_map]
    exact List.filterMap_some
  obtain ⟨front, middle, back, hfront, hmiddle, hback, he⟩ := s.exists_findings_eq
  rw [he]
  simp only [List.filterMap_append, hfront.filterMap_cycle?, hmiddle.filterMap_cycle?,
    hback.filterMap_cycle?, hcycles, filterMap_cycle?_subnetFindings, List.nil_append,
    List.append_nil]

theorem mem_reportedCycles {s : Site} {names : List String} :
    names ∈ s.reportedCycles ↔ ∃ h ∈ s.hosts, s.hostingCycle? h [h.hostname] = some names := by
  rw [reportedCycles, mem_firstOccurrences, List.mem_filterMap]

theorem hostingCycle_mem_findings {s : Site} {names : List String} :
    .hostingCycle names ∈ s.findings ↔ ∃ h ∈ s.hosts, s.hostingCycle? h [h.hostname] = some names := by
  rw [← mem_filterMap_cycle?, filterMap_cycle?_findings, mem_reportedCycles]

end Site

end NetworkSite
