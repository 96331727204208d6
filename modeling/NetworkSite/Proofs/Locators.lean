/-
  What locators stand for.

  A locator stands for the router, for all routable vlans, or for one endpoint: a
  zone, what the locator is narrowed to in it, or a host with addresses on a vlan
  (`Locator.standsFor_iff`).
-/
import NetworkSite.Firewall.Expansion

namespace NetworkSite

namespace Locator

variable {s : Site} {p : AddressPlan} {l : Locator} {es : List SideEndpoint} {e : SideEndpoint}

/-- The endpoint is one of those of the locator. -/
def StandsFor (s : Site) (p : AddressPlan) (l : Locator) (e : SideEndpoint) : Prop :=
  ∃ es, l.endpoints s p = .ok es ∧ e ∈ es

theorem standsFor_of_endpoints (hl : l.endpoints s p = .ok es) : l.StandsFor s p e ↔ e ∈ es := by
  constructor
  · rintro ⟨fs, hfs, he⟩
    rw [hl] at hfs
    cases hfs
    exact he
  · intro he
    exact ⟨es, hl, he⟩

/-! ## Zones -/

/-- The locator is not narrowed. -/
def IsBare (l : Locator) : Prop :=
  l.ipset = none ∧ l.ipv4.or l.ipv6 = none

/-- What the locator is narrowed to in a zone. -/
inductive Narrows (s : Site) (zone : String) (l : Locator) : Endpoint → Prop
  | ipset {name : String} (hl : l.ipset = some name) (hs : s.policy.hasIpSet name = true) :
      Narrows s zone l (.ipset zone name)
  | address {text : String} {a : IpAddress} (hl : l.ipset = none) (ht : l.ipv4.or l.ipv6 = some text)
      (ha : IpAddress.ofText? text = some a) : Narrows s zone l (.address zone a)

/-- The vlan of the plan that the locator finds. -/
def IsOn (s : Site) (p : AddressPlan) (l : Locator) (w : PlannedVlan) : Prop :=
  ∃ ref x, l.scope = .vlan ref ∧ s.lookupVlan? l.switch ref = some x ∧ p.vlan? x.2.name = some w

/-- The zone of a locator that names no host, and all of this zone. -/
inductive IsIn (s : Site) (p : AddressPlan) (l : Locator) : String → Endpoint → Prop
  | internet (hs : l.scope = .internet) : IsIn s p l internetZone .internet
  | vlan {w : PlannedVlan} (hw : l.IsOn s p w) (hl : l.hostname = none) :
      IsIn s p l w.name (.vlan w.name)

theorem narrowedEndpoint_eq_none {zone : String} :
    l.narrowedEndpoint s zone = .ok none ↔ l.IsBare := by
  unfold narrowedEndpoint IsBare
  cases l.ipset with
  | some name =>
    refine iff_of_false ?_ nofun
    dsimp only
    split <;> exact nofun
  | none =>
    cases l.ipv4.or l.ipv6 with
    | none => exact iff_of_true rfl ⟨rfl, rfl⟩
    | some text =>
      refine iff_of_false ?_ nofun
      dsimp only
      split <;> exact nofun

theorem narrowedEndpoint_eq_some {zone : String} {e : Endpoint} :
    l.narrowedEndpoint s zone = .ok (some e) ↔ l.Narrows s zone e := by
  constructor
  · intro h
    unfold narrowedEndpoint at h
    split at h
    next name hname =>
      split at h
      next hs =>
        obtain rfl := Option.some.inj (Except.ok.inj h)
        exact .ipset hname hs
      next => cases h
    next hnone =>
      split at h
      next => cases h
      next text ht =>
        split at h
        next a ha =>
          obtain rfl := Option.some.inj (Except.ok.inj h)
          exact .address hnone ht ha
        next => cases h
  · intro h
    cases h with
    | ipset hl hs =>
      rw [narrowedEndpoint, hl]
      exact if_pos hs
    | address hl ht ha => simp only [narrowedEndpoint, hl, ht, ha]

theorem zoneEndpoint_eq_ok {zone : String} {whole : Endpoint} :
    (∃ es, l.zoneEndpoint s zone whole = .ok es ∧ e ∈ es) ↔
      l.IsBare ∧ e = { endpoint := whole } ∨ ∃ f, l.Narrows s zone f ∧ e = { endpoint := f } := by
  have hbare : l.narrowedEndpoint s zone = .ok none ↔ l.IsBare := narrowedEndpoint_eq_none
  simp only [← hbare, ← narrowedEndpoint_eq_some]
  unfold zoneEndpoint
  cases l.narrowedEndpoint s zone with
  | error fault => simp
  | ok found => cases found <;> simp

/-! ## Hosts -/

theorem hostEndpoints_eq_ok {w : PlannedVlan} {name : String} :
    (∃ es, hostEndpoints s p w name = .ok es ∧ e ∈ es) ↔
      ∃ hostname, w.hostnameOf? s p name = some hostname ∧ w.addressesOf hostname ≠ [] ∧
        e = { endpoint := .host w.name hostname (w.addressesOf hostname) } := by
  unfold hostEndpoints
  cases w.hostnameOf? s p name with
  | none => simp
  | some hostname =>
    simp only [Option.some.injEq, exists_eq_left']
    generalize w.addressesOf hostname = addresses
    cases addresses <;> simp

/-! ## All endpoints -/

/-- What a locator leads to under a plan, and what it says to do so. -/
inductive LeadsTo (s : Site) (p : AddressPlan) (l : Locator) : SideEndpoint → Prop
  | routable {w : PlannedVlan} (hs : l.scope = .all) (hw : w ∈ p.vlans) (hr : w.routable = true) :
      LeadsTo s p l { endpoint := .vlan w.name, fromAll := true }
  | firewall (hs : l.scope = .firewall) : LeadsTo s p l { endpoint := .firewall }
  | whole {zone : String} {e : Endpoint} (hz : l.IsIn s p zone e) (hl : l.IsBare) :
      LeadsTo s p l { endpoint := e }
  | narrowed {zone : String} {whole e : Endpoint} (hz : l.IsIn s p zone whole)
      (hl : l.Narrows s zone e) : LeadsTo s p l { endpoint := e }
  | host {w : PlannedVlan} {name hostname : String} (hw : l.IsOn s p w)
      (hl : l.hostname = some name) (hn : w.hostnameOf? s p name = some hostname)
      (ha : w.addressesOf hostname ≠ []) :
      LeadsTo s p l { endpoint := .host w.name hostname (w.addressesOf hostname) }

theorem leadsTo_of_zoneEndpoint {zone : String} {whole : Endpoint} (hz : l.IsIn s p zone whole)
    (hl : l.zoneEndpoint s zone whole = .ok es) (he : e ∈ es) : l.LeadsTo s p e := by
  rcases zoneEndpoint_eq_ok.1 ⟨es, hl, he⟩ with ⟨hbare, rfl⟩ | ⟨f, hf, rfl⟩
  · exact .whole hz hbare
  · exact .narrowed hz hf

theorem leadsTo_of_endpoints (hl : l.endpoints s p = .ok es) (he : e ∈ es) : l.LeadsTo s p e := by
  unfold endpoints at hl
  split at hl
  next hscope =>
    obtain rfl := Except.ok.inj hl
    obtain ⟨w, hw, rfl⟩ := List.mem_map.1 he
    obtain ⟨hw, hr⟩ := List.mem_filter.1 hw
    exact .routable hscope hw hr
  next hscope =>
    obtain rfl := Except.ok.inj hl
    obtain rfl := List.mem_singleton.1 he
    exact .firewall hscope
  next hscope => exact leadsTo_of_zoneEndpoint (.internet hscope) hl he
  next ref hscope =>
    unfold vlanEndpoints at hl
    split at hl
    next => cases hl
    next w hfound =>
      obtain ⟨x, hx, hw⟩ := Option.bind_eq_some_iff.1 hfound
      have hon : l.IsOn s p w := ⟨ref, x, hscope, hx, hw⟩
      split at hl
      next name hname =>
        obtain ⟨hostname, hn, ha, rfl⟩ := hostEndpoints_eq_ok.1 ⟨es, hl, he⟩
        exact .host hon hname hn ha
      next hname => exact leadsTo_of_zoneEndpoint (.vlan hon hname) hl he

theorem endpoints_of_hostname {w : PlannedVlan} {name : String} (hw : l.IsOn s p w)
    (hl : l.hostname = some name) : l.endpoints s p = hostEndpoints s p w name := by
  obtain ⟨ref, x, hscope, hx, hw⟩ := hw
  simp only [endpoints, hscope, vlanEndpoints, hx, Option.bind_some, hw, hl]

theorem endpoints_of_isIn {zone : String} {whole : Endpoint} (hz : l.IsIn s p zone whole) :
    l.endpoints s p = l.zoneEndpoint s zone whole := by
  cases hz with
  | internet hs => rw [endpoints, hs]
  | vlan hw hl =>
    obtain ⟨ref, x, hscope, hx, hw⟩ := hw
    simp only [endpoints, hscope, vlanEndpoints, hx, Option.bind_some, hw, hl]

/-- **What locators stand for** is what they lead to. -/
theorem standsFor_iff : l.StandsFor s p e ↔ l.LeadsTo s p e := by
  constructor
  · rintro ⟨es, hl, he⟩
    exact leadsTo_of_endpoints hl he
  · intro h
    rw [StandsFor]
    cases h with
    | routable hs hw hr =>
      rw [endpoints, hs]
      exact ⟨_, rfl, List.mem_map_of_mem (List.mem_filter.2 ⟨hw, hr⟩)⟩
    | firewall hs =>
      rw [endpoints, hs]
      exact ⟨_, rfl, List.mem_singleton_self _⟩
    | whole hz hl =>
      rw [endpoints_of_isIn hz, zoneEndpoint_eq_ok]
      exact .inl ⟨hl, rfl⟩
    | narrowed hz hl =>
      rw [endpoints_of_isIn hz, zoneEndpoint_eq_ok]
      exact .inr ⟨_, hl, rfl⟩
    | host hw hl hn ha =>
      rw [endpoints_of_hostname hw hl, hostEndpoints_eq_ok]
      exact ⟨_, hn, ha, rfl⟩

end Locator

end NetworkSite
