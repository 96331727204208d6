/-
  Successful compilations, step by step.

  A site compiles if every step gives a result (`Site.compile_eq_ok_iff`), and
  the addresses of its build plan are those of its address plan
  (`Site.addresses_of_compile`).
-/
import NetworkSite.Build.Compile
import Mathlib.Data.List.Forall2

namespace NetworkSite

section

variable {α β ε ε' : Type}

theorem bind_eq_ok {x : Except ε α} {f : α → Except ε β} {b : β} :
    x >>= f = .ok b ↔ ∃ a, x = .ok a ∧ f a = .ok b := by
  cases x with
  | error e => simp [bind, Except.bind]
  | ok a => simp [bind, Except.bind]

theorem bind_eq_error {x : Except ε α} {f : α → Except ε β} {e : ε} :
    x >>= f = .error e ↔ x = .error e ∨ ∃ a, x = .ok a ∧ f a = .error e := by
  cases x with
  | error e' => simp [bind, Except.bind]
  | ok a => simp [bind, Except.bind]

theorem mapError_eq_ok {x : Except ε α} {rename : ε → ε'} {a : α} :
    x.mapError rename = .ok a ↔ x = .ok a := by
  cases x with
  | error e => exact iff_of_false nofun nofun
  | ok b =>
    constructor
    · rintro ⟨⟩
      rfl
    · rintro ⟨⟩
      rfl

theorem mapError_eq_error {x : Except ε α} {rename : ε → ε'} {e' : ε'} :
    x.mapError rename = .error e' ↔ ∃ e, x = .error e ∧ rename e = e' := by
  cases x with
  | error e =>
    constructor
    · rintro ⟨⟩
      exact ⟨e, rfl, rfl⟩
    · rintro ⟨e, ⟨⟩, rfl⟩
      rfl
  | ok b => exact iff_of_false nofun nofun

theorem exists_mapM_eq_ok {f : α → Except ε β} {items : List α}
    (h : ∀ a ∈ items, ∃ b, f a = .ok b) : ∃ bs, items.mapM f = .ok bs := by
  induction items with
  | nil => exact ⟨[], rfl⟩
  | cons a rest ih =>
    obtain ⟨b, hb⟩ := h a List.mem_cons_self
    obtain ⟨bs, hbs⟩ := ih fun c hc => h c (List.mem_cons_of_mem _ hc)
    exact ⟨b :: bs, by rw [List.mapM_cons, hb, hbs]; rfl⟩

theorem mapM_eq_ok_iff {f : α → Except ε β} {items : List α} {bs : List β} :
    items.mapM f = .ok bs ↔ List.Forall₂ (fun a b => f a = .ok b) items bs := by
  constructor
  · intro h
    induction items generalizing bs with
    | nil =>
      cases h
      exact .nil
    | cons a rest ih =>
      rw [List.mapM_cons] at h
      obtain ⟨b, hb, h⟩ := bind_eq_ok.1 h
      obtain ⟨rest', hr, h⟩ := bind_eq_ok.1 h
      cases h
      exact .cons hb (ih hr)
  · intro h
    induction h with
    | nil => rfl
    | cons hab _ ih => rw [List.mapM_cons, hab, ih]; rfl

theorem forall₂_of_mapM_eq_ok {f : α → Except ε β} {items : List α} {bs : List β}
    (h : items.mapM f = .ok bs) : List.Forall₂ (fun a b => f a = .ok b) items bs :=
  mapM_eq_ok_iff.1 h

theorem exists_mem_of_forall₂ {r : α → β → Prop} {as : List α} {bs : List β}
    (h : List.Forall₂ r as bs) {a : α} (ha : a ∈ as) : ∃ b ∈ bs, r a b := by
  induction h with
  | nil => cases ha
  | cons hab _ ih =>
    rcases List.mem_cons.1 ha with rfl | ha
    · exact ⟨_, List.mem_cons_self, hab⟩
    · obtain ⟨b, hb, hr⟩ := ih ha
      exact ⟨b, List.mem_cons_of_mem _ hb, hr⟩

end

namespace Blueprint

variable {b : Blueprint} {templates : List Template} {plan : BuildPlan}

/-- There is a build plan if nothing is missing and the plans of all hosts are
    made. -/
theorem emit_eq_ok_iff :
    b.emit templates = .ok plan ↔ b.missing templates = [] ∧
      ∃ hosts, b.site.hosts.mapM (b.hostPlan templates) = .ok hosts ∧
        plan = {
          site := b.site.name
          domain := b.site.domain
          schedule := b.schedule
          hosts
          addresses := b.addresses
          firewall := b.rules } := by
  unfold emit
  split
  next hm =>
    simp only [hm, true_and, bind_eq_ok, pure, Except.pure, Except.ok.injEq]
    exact exists_congr fun hosts => and_congr_right fun _ => eq_comm
  next hm => exact iff_of_false nofun fun h => hm h.1

theorem addresses_of_emit (h : b.emit templates = .ok plan) : plan.addresses = b.addresses := by
  obtain ⟨-, hosts, -, rfl⟩ := emit_eq_ok_iff.1 h
  rfl

theorem firewall_of_emit (h : b.emit templates = .ok plan) : plan.firewall = b.rules := by
  obtain ⟨-, hosts, -, rfl⟩ := emit_eq_ok_iff.1 h
  rfl

end Blueprint

namespace Site

variable {s : Site} {templates : List Template} {plan : BuildPlan}

/-- There is an address plan if no lookup is crossed and nothing stands in the
    way of it. -/
theorem addressPlan_eq_ok_iff {p : AddressPlan} :
    s.addressPlan = .ok p ↔ s.crossedLookup? = none ∧ s.addressingErrors = [] ∧
      p = { vlans := s.planVlans, hosts := s.planHosts, request := s.prefixRequest? } := by
  unfold addressPlan
  split
  next hc => simp [hc]
  next hc =>
    split
    next he => simp [hc, he, eq_comm]
    next he => exact iff_of_false nofun fun h => he h.2.1

/-- The addresses that are planned if nothing stands in the way of them. -/
def plannedAddresses (s : Site) : AddressPlan where
  vlans := s.planVlans
  hosts := s.planHosts
  request := s.prefixRequest?

theorem addressPlan_eq_ok (hc : s.crossedLookup? = none) (he : s.addressingErrors = []) :
    s.addressPlan = .ok s.plannedAddresses :=
  addressPlan_eq_ok_iff.2 ⟨hc, he, rfl⟩

theorem vlans_of_addressPlan {p : AddressPlan} (h : s.addressPlan = .ok p) :
    p.vlans = s.planVlans := by
  obtain ⟨-, -, rfl⟩ := addressPlan_eq_ok_iff.1 h
  rfl

theorem hosts_of_addressPlan {p : AddressPlan} (h : s.addressPlan = .ok p) :
    p.hosts = s.planHosts := by
  obtain ⟨-, -, rfl⟩ := addressPlan_eq_ok_iff.1 h
  rfl

theorem validate_eq_ok_iff : s.validate = .ok () ↔ s.findings = [] := by
  unfold validate
  split
  next h => exact iff_of_true rfl h
  next h => exact iff_of_false nofun h

theorem compile_eq_ok_iff :
    s.compile templates = .ok plan ↔ s.findings = [] ∧ ∃ p rules schedule,
      s.addressPlan = .ok p ∧ s.expandRules p = .ok rules ∧
        s.dependencies.schedule = .ok schedule ∧
        ({ site := s, addresses := p, rules, graph := s.dependencies, schedule : Blueprint }).emit
          templates = .ok plan := by
  simp only [compile, bind_eq_ok, mapError_eq_ok, ← validate_eq_ok_iff]
  constructor
  · rintro ⟨⟨⟩, hv, p, hp, rules, hr, schedule, hs, he⟩
    exact ⟨hv, p, rules, schedule, hp, hr, hs, he⟩
  · rintro ⟨hv, p, rules, schedule, hp, hr, hs, he⟩
    exact ⟨(), hv, p, hp, rules, hr, schedule, hs, he⟩

/-- A crossed lookup stands in for the plan. -/
theorem addressPlan_eq_crossed_iff {first last : IpAddress} :
    s.addressPlan = .error (.crossed first last) ↔ s.crossedLookup? = some (first, last) := by
  unfold addressPlan
  split
  next hc => simp [hc]
  next hc => split <;> simp [hc]

/-- The run of a valid site ends at its first crossed lookup, and no other step
    can end it in this way. -/
theorem compile_eq_crossed_iff (h : s.findings = []) {first last : IpAddress} :
    s.compile templates = .error (.crossed first last) ↔
      s.crossedLookup? = some (first, last) := by
  have hv : s.validate = .ok () := validate_eq_ok_iff.2 h
  have haddressing (e : AddressingFailure) :
      CompileError.ofAddressing e = .crossed first last ↔ e = .crossed first last := by
    cases e with
    | errors all => exact iff_of_false nofun nofun
    | crossed first' last' => simp [CompileError.ofAddressing]
  simp [compile, hv, bind_eq_error, mapError_eq_error, haddressing,
    addressPlan_eq_crossed_iff]

/-- **The addresses of a build plan are those of the address plan of a valid
    site.** -/
theorem addresses_of_compile (h : s.compile templates = .ok plan) :
    s.findings = [] ∧ s.addressPlan = .ok plan.addresses := by
  obtain ⟨hf, p, rules, schedule, hp, -, -, he⟩ := compile_eq_ok_iff.1 h
  rw [Blueprint.addresses_of_emit he]
  exact ⟨hf, hp⟩

theorem addresses_eq_of_compile (h : s.compile templates = .ok plan) :
    plan.addresses = s.plannedAddresses :=
  (addressPlan_eq_ok_iff.1 (addresses_of_compile h).2).2.2

theorem firewall_of_compile (h : s.compile templates = .ok plan) :
    s.expandRules plan.addresses = .ok plan.firewall := by
  obtain ⟨-, p, rules, schedule, -, hr, -, he⟩ := compile_eq_ok_iff.1 h
  rw [Blueprint.addresses_of_emit he, Blueprint.firewall_of_emit he]
  exact hr

end Site

end NetworkSite
