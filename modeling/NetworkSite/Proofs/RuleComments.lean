/-
  What comments of rules change.

  Sites that differ only in the comments of declared rules and of the services
  that these write out have the same addresses, and the same tuples but for the
  comments (`Site.Recomments.map_uncommented_rules`): comments play no part in
  the expansion, in the order of tuples, and in what a host enforces.  So the
  rules of a host are the same rows but for the comments behind them.  Nothing
  keeps the comments on their lines, though: without line breaks each row is a
  line of the text, but with one there are more lines
  (`Site.Recomments.rules_without_comments`, `Site.wordy_rules`).
-/
import NetworkSite.Proofs.HostVariables
import NetworkSite.Proofs.LineBreaks
import Mathlib.Data.List.Forall2

namespace NetworkSite

section

variable {α β γ : Type} {g : α → γ} {as bs : List α}

theorem map_eq_map_iff_forall₂ :
    as.map g = bs.map g ↔ List.Forall₂ (fun a b => g a = g b) as bs := by
  have heq : List.Forall₂ (· = ·) (as.map g) (bs.map g) ↔ as.map g = bs.map g := by
    rw [List.forall₂_eq_eq_eq]
  rw [← heq, List.forall₂_map_left_iff, List.forall₂_map_right_iff]

/-- Lists whose items match those of one list match each other. -/
theorem forall₂_of_forall₂_left {r : α → β → Prop} {q : α → γ → Prop} {cs : List γ}
    {as : List α} {bs : List β} (hr : List.Forall₂ r as bs) (hq : List.Forall₂ q as cs) :
    List.Forall₂ (fun b c => ∃ a, r a b ∧ q a c) bs cs := by
  induction hr generalizing cs with
  | nil =>
    cases hq
    exact .nil
  | cons hab _ ih =>
    cases hq with
    | cons hac hrest => exact .cons ⟨_, hab, hac⟩ (ih hrest)

theorem map_valuesOf {ε : Type} {f : α → β} (results : List (Except ε (List α))) :
    (valuesOf results).map f = valuesOf (results.map (Except.map (List.map f))) := by
  simp only [valuesOf, List.map_flatMap, List.flatMap_map]
  congr 1
  funext result
  cases result <;> rfl

end

/-! ## Without comments -/

def ServicePort.uncommented (port : ServicePort) : ServicePort :=
  { port with comment := "" }

def RuleTuple.uncommented (t : RuleTuple) : RuleTuple :=
  { t with comment := "" }

namespace ServiceSpec

def uncommented : ServiceSpec → ServiceSpec
  | named name => named name
  | ports protocol values _ => ports protocol values ""

variable {protocol : Protocol} {c : String}

theorem map_portOf (value : PortValue) :
    (portOf protocol c value).map (·.uncommented) = portOf protocol "" value := by
  unfold portOf
  split <;> rfl

theorem map_mapM_portOf (values : List PortValue) :
    (values.mapM (portOf protocol c)).map (List.map (·.uncommented)) =
      values.mapM (portOf protocol "") := by
  induction values with
  | nil => rfl
  | cons value rest ih =>
    rw [List.mapM_cons, List.mapM_cons, ← ih, ← map_portOf (c := c) value]
    cases portOf protocol c value with
    | error e => rfl
    | ok port => cases rest.mapM (portOf protocol c) <;> rfl

/-- Comments make no difference to which ports a service has. -/
theorem map_resolve (spec : ServiceSpec) : spec.resolve.map (List.map (·.uncommented)) =
    spec.uncommented.resolve.map (List.map (·.uncommented)) := by
  cases spec with
  | named name => rfl
  | ports name values comment =>
    simp only [uncommented, resolve]
    split
    next => rfl
    next protocol =>
      split
      next => rw [map_mapM_portOf, map_mapM_portOf]
      next => rfl

end ServiceSpec

namespace Rule

variable {q r : Rule} {s : Site} {p : AddressPlan}

def uncommented (r : Rule) : Rule :=
  { r with
    comment := ""
    allow := r.allow.map (·.uncommented)
    forward := r.forward.map (·.uncommented) }

theorem map_portsOf (services : List ServiceSpec) :
    (valuesOf (portsOf services)).map (·.uncommented) =
      (valuesOf (portsOf (services.map (·.uncommented)))).map (·.uncommented) := by
  rw [map_valuesOf, map_valuesOf, portsOf, portsOf, List.map_map, List.map_map, List.map_map]
  congr 2
  funext service
  have hresolve := service.map_resolve
  simp only [Function.comp_apply]
  cases hs : service.resolve with
  | error e =>
    rw [hs] at hresolve
    cases hu : service.uncommented.resolve with
    | error e' =>
      rw [hu] at hresolve
      cases hresolve
      rfl
    | ok ports => rw [hu] at hresolve; cases hresolve
  | ok ports =>
    rw [hs] at hresolve
    cases hu : service.uncommented.resolve with
    | error e' => rw [hu] at hresolve; cases hresolve
    | ok ports' =>
      rw [hu] at hresolve
      exact congrArg Except.ok (Except.ok.inj hresolve)

theorem tupleAction_uncommented : r.uncommented.tupleAction = r.tupleAction := by
  unfold tupleAction action
  simp only [uncommented, List.isEmpty_map]
  cases r.allowAll <;> cases r.allow.isEmpty <;> cases r.forward.isEmpty <;> rfl

/-- Comments make no difference to which ports a rule opens. -/
theorem map_portResults : (valuesOf r.portResults).map (·.uncommented) =
    (valuesOf r.uncommented.portResults).map (·.uncommented) := by
  rw [portResults_eq, portResults_eq]
  simp only [uncommented, List.isEmpty_map]
  split
  next => rfl
  next =>
    split
    next => exact map_portsOf r.allow
    next =>
      split
      next => exact map_portsOf r.forward
      next => rfl

theorem uncommented_tuple (source destination : SideEndpoint) (port : ServicePort) :
    (r.tuple source destination port).uncommented =
      r.uncommented.tuple source destination port.uncommented := by
  rw [tuple, tuple, tupleAction_uncommented]
  rfl

/-- **Comments make no difference to what the tuples of a rule are for.** -/
theorem map_tuples (h : q.uncommented = r.uncommented) :
    (q.tuples s p).map (·.uncommented) = (r.tuples s p).map (·.uncommented) := by
  obtain ⟨-, hsources, hdestinations, -⟩ := Rule.mk.inj h
  have hports : (valuesOf q.portResults).map (·.uncommented) =
      (valuesOf r.portResults).map (·.uncommented) := by
    rw [map_portResults (r := q), map_portResults (r := r), h]
  simp only [tuples, sourceResults, destinationResults, hsources, hdestinations, List.map_flatMap]
  congr 1
  funext source
  congr 1
  funext destination
  split
  next => rfl
  next =>
    have htuple : ∀ r : Rule, (RuleTuple.uncommented ∘ r.tuple source destination) =
        r.uncommented.tuple source destination ∘ ServicePort.uncommented :=
      fun r => funext fun port => uncommented_tuple source destination port
    rw [List.map_map, List.map_map, htuple, htuple, h, ← List.map_map, ← List.map_map, hports]

end Rule

namespace RuleTuple

variable {t u : RuleTuple} {tuples : List RuleTuple}

@[simp]
theorem key_uncommented : t.uncommented.key = t.key :=
  rfl

theorem map_dropRepeats :
    (dropRepeats tuples).map (·.uncommented) = dropRepeats (tuples.map (·.uncommented)) := by
  fun_induction dropRepeats tuples with
  | case1 => simp [dropRepeats]
  | case2 => simp [dropRepeats]
  | case3 t u rest hk ih => simpa [dropRepeats, hk] using ih
  | case4 t u rest hk ih => simpa [dropRepeats, hk] using ih

theorem map_normalize :
    (normalize tuples).map (·.uncommented) = normalize (tuples.map (·.uncommented)) := by
  rw [normalize, normalize, map_dropRepeats, List.map_mergeSort]
  exact fun t _ u _ => rfl

theorem map_rulesFor {g : PlannedHost} {isRouter : Bool} :
    (rulesFor tuples g isRouter).map (·.uncommented) =
      rulesFor (tuples.map (·.uncommented)) g isRouter := by
  unfold rulesFor
  split
  next => rfl
  next =>
    rw [List.filter_map]
    rfl

/-- Lines of two tuples, with the same columns in front of the comment of each
    tuple. -/
def SameFields (t u : RuleTuple) (line line' : String) : Prop :=
  ∃ x ∈ t.source.texts t.destination,
    line = columns (t.fields x.1 x.2 ++ commentColumn t.comment) ∧
      line' = columns (t.fields x.1 x.2 ++ commentColumn u.comment)

theorem forall₂_lines (h : t.uncommented = u.uncommented) :
    List.Forall₂ (t.SameFields u) t.lines u.lines := by
  obtain ⟨hsource, hdestination, hprotocol, hports, haction, -⟩ := RuleTuple.mk.inj h
  rw [lines_eq, lines_eq, hsource, hdestination, List.forall₂_map_left_iff,
    List.forall₂_map_right_iff, List.forall₂_same]
  intro x hx
  refine ⟨x, by rwa [hsource, hdestination], rfl, ?_⟩
  rw [fields, portsText, hprotocol, hports, haction]
  rfl

theorem length_le_length_flatMap_split (fields : List String) :
    fields.length ≤ (fields.flatMap fun field => Text.split (· == '\t') field.toList).length := by
  induction fields with
  | nil => exact Nat.le_refl 0
  | cons field rest ih =>
    have hpos := List.length_pos_iff.2 (Text.split_ne_nil (· == '\t') field.toList)
    rw [List.flatMap_cons, List.length_append, List.length_cons]
    omega

/-- In each line, all of its columns but the comment are the first five. -/
theorem SameFields.take_eq {line line' : String} (h : t.SameFields u line line') :
    (Text.split (· == '\t') line.toList).take 5 = (Text.split (· == '\t') line'.toList).take 5 := by
  obtain ⟨x, -, rfl, rfl⟩ := h
  have htake : ∀ comment, (Text.split (· == '\t')
      (columns (t.fields x.1 x.2 ++ commentColumn comment)).toList).take 5 =
        ((t.fields x.1 x.2).flatMap fun field => Text.split (· == '\t') field.toList).take 5 := by
    intro comment
    have hne : t.fields x.1 x.2 ++ commentColumn comment ≠ [] := List.cons_ne_nil _ _
    have hlength : 5 ≤ _ := length_le_length_flatMap_split (t.fields x.1 x.2)
    rw [columns, Text.split_intercalate rfl hne, List.flatMap_append,
      List.take_append_of_le_length hlength]
  rw [htake, htake]

end RuleTuple

/-! ## Texts of rules -/

/-- The first columns of each line of a text. -/
def firstColumns (n : Nat) (text : String) : List (List (List Char)) :=
  (Text.split (· == '\n') text.toList).map fun line => (Text.split (· == '\t') line).take n

theorem firstColumns_lines {n : Nat} {rows : List String} (hne : rows ≠ [])
    (h : ∀ row ∈ rows, Text.IsLine row) : firstColumns n (lines rows) =
      rows.map fun row => (Text.split (· == '\t') row.toList).take n := by
  have hrow : ∀ row ∈ rows, Text.split (· == '\n') row.toList = [row.toList] := by
    intro row hr
    exact Text.split_eq_singleton fun c hc => beq_eq_false_iff_ne.2 fun he => h row hr (he ▸ hc)
  rw [firstColumns, lines, Text.split_intercalate rfl hne, List.flatMap_congr hrow,
    ← List.map_eq_flatMap, List.map_map]
  rfl

/-- Where each row is a line, texts have the same first columns if their rows
    have. -/
theorem firstColumns_eq {n : Nat} {rows rows' : List String}
    (h : List.Forall₂ (fun row row' => (Text.split (· == '\t') row.toList).take n =
      (Text.split (· == '\t') row'.toList).take n) rows rows')
    (hr : ∀ row ∈ rows, Text.IsLine row) (hr' : ∀ row ∈ rows', Text.IsLine row) :
    firstColumns n (lines rows) = firstColumns n (lines rows') := by
  cases h with
  | nil => rfl
  | cons hrow hrest =>
    rw [firstColumns_lines (List.cons_ne_nil _ _) hr, firstColumns_lines (List.cons_ne_nil _ _) hr',
      map_eq_map_iff_forall₂]
    exact .cons hrow hrest

namespace Blueprint

variable {b b' : Blueprint} {t : RuleTuple}

theorem mem_rules_of_mem_enforced {host : Host} (ht : t ∈ b.enforced host) : t ∈ b.rules := by
  unfold enforced RuleTuple.rulesFor at ht
  split at ht
  next =>
    split at ht
    next => exact ht
    next => exact (List.mem_filter.1 ht).1
  next => cases ht

theorem map_enforced (host : Host) (ha : b'.addresses = b.addresses)
    (hr : b'.rules.map (·.uncommented) = b.rules.map (·.uncommented)) :
    (b'.enforced host).map (·.uncommented) = (b.enforced host).map (·.uncommented) := by
  unfold enforced plannedHost
  rw [ha]
  split
  next => rw [RuleTuple.map_rulesFor, RuleTuple.map_rulesFor, hr]
  next => rfl

end Blueprint

/-! ## Sites -/

namespace Site

variable {s s' : Site} {p : AddressPlan} {templates templates' : List Template}
  {plan plan' : BuildPlan} {b b' : Blueprint} {host : Host}

/-- The sites differ in the comments of declared rules and of their services
    only. -/
def Recomments (s' s : Site) : Prop :=
  ∃ rules, rules.map (·.uncommented) = s.policy.rules.map (·.uncommented) ∧
    s' = { s with policy := { s.policy with rules } }

theorem IsSingleLine.isLine_of_mem_enforced (hs : s.IsSingleLine)
    (h : s.compile templates = .ok plan) (hb : b.rules = plan.firewall) :
    ∀ row ∈ (b.enforced host).flatMap (·.lines), Text.IsLine row := by
  intro row hr
  obtain ⟨t, ht, hr⟩ := List.mem_flatMap.1 hr
  have ht := Blueprint.mem_rules_of_mem_enforced ht
  rw [hb] at ht
  obtain ⟨hf, hp⟩ := addresses_of_compile h
  exact hs.isLine_of_mem_lines hf (vlans_of_addressPlan hp) (mem_ruleTuples_of_compile h ht) hr

namespace Recomments

variable (hs : s'.Recomments s)

include hs

theorem hosts_eq : s'.hosts = s.hosts := by
  obtain ⟨rules, -, rfl⟩ := hs
  rfl

theorem addressPlan_eq : s'.addressPlan = s.addressPlan := by
  obtain ⟨rules, -, rfl⟩ := hs
  rfl

theorem map_uncommented_ruleTuples :
    (s'.ruleTuples p).map (·.uncommented) = (s.ruleTuples p).map (·.uncommented) := by
  obtain ⟨rules, hrules, rfl⟩ := hs
  rw [ruleTuples_eq, ruleTuples_eq, List.flatMap_append, List.flatMap_append, List.map_append,
    List.map_append]
  congr 1
  rw [map_eq_map_iff_forall₂] at hrules ⊢
  exact List.rel_flatMap hrules fun q r hqr => map_eq_map_iff_forall₂.1 (Rule.map_tuples hqr)

/-- **Comments make no difference to the rules of a site**, which are sorted and
    dropped without regard to them. -/
theorem map_uncommented_rules (h : s.compile templates = .ok plan)
    (h' : s'.compile templates' = .ok plan') : plan'.addresses = plan.addresses ∧
      plan'.firewall.map (·.uncommented) = plan.firewall.map (·.uncommented) := by
  have haddresses : plan'.addresses = plan.addresses := by
    have hp := (addresses_of_compile h).2
    have hp' := (addresses_of_compile h').2
    rw [hs.addressPlan_eq, hp] at hp'
    exact (Except.ok.inj hp').symm
  refine ⟨haddresses, ?_⟩
  rw [firewall_eq_of_compile h, firewall_eq_of_compile h', haddresses, RuleTuple.map_normalize,
    RuleTuple.map_normalize, hs.map_uncommented_ruleTuples]

/-- **Comments change no rule.**  Sites that differ in comments only have the
    same tuples but for the comments, and so has each host among those that it
    enforces.  The rules of a host are the lines of these tuples: one by one they
    have the same columns, and then the comment of each tuple.  Where no site has
    line breaks, each of them is a line of the text. -/
theorem rules_without_comments (h : s.compile templates = .ok plan)
    (h' : s'.compile templates' = .ok plan') :
    plan'.firewall.map (·.uncommented) = plan.firewall.map (·.uncommented) ∧
    List.Forall₂ (fun g g' => g'.hostname = g.hostname ∧
      ∃ host ∈ s.hosts, host.hostname = g.hostname ∧ ∃ tuples tuples',
        tuples = (s.blueprint plan.addresses plan.firewall plan.schedule).enforced host ∧
        tuples' = (s'.blueprint plan'.addresses plan'.firewall plan'.schedule).enforced host ∧
        tuples'.map (·.uncommented) = tuples.map (·.uncommented) ∧
        g.environment.get? "FIREWALL_RULES" = some (lines (tuples.flatMap (·.lines))) ∧
        g'.environment.get? "FIREWALL_RULES" = some (lines (tuples'.flatMap (·.lines))) ∧
        List.Forall₂ (fun t u => List.Forall₂ (t.SameFields u) t.lines u.lines) tuples tuples' ∧
        (s.IsSingleLine → s'.IsSingleLine →
          firstColumns 5 (lines (tuples.flatMap (·.lines))) =
            firstColumns 5 (lines (tuples'.flatMap (·.lines))))) plan.hosts plan'.hosts := by
  obtain ⟨hsame, hfirewall⟩ := hs.map_uncommented_rules h h'
  refine ⟨hfirewall, ?_⟩
  have hhosts := (List.forall₂_and_left _ _).2 ⟨fun host hh => hh, (forall₂_hostPlan h).2⟩
  have hhosts' := (forall₂_hostPlan h').2
  rw [hs.hosts_eq] at hhosts'
  refine (forall₂_of_forall₂_left hhosts hhosts').imp fun g g' ⟨host, ⟨hh, hg⟩, hg'⟩ => ?_
  have hg := Blueprint.isPlanOf_of_hostPlan hg
  have hg' := Blueprint.isPlanOf_of_hostPlan hg'
  have hmap : ((s'.blueprint plan'.addresses plan'.firewall plan'.schedule).enforced host).map
      (·.uncommented) =
        ((s.blueprint plan.addresses plan.firewall plan.schedule).enforced host).map
          (·.uncommented) :=
    Blueprint.map_enforced host hsame hfirewall
  have hlines := (map_eq_map_iff_forall₂.1 hmap.symm).imp fun t u => RuleTuple.forall₂_lines
  refine ⟨hg'.hostname.trans hg.hostname.symm, host, hh, hg.hostname.symm, _, _, rfl, rfl, hmap,
    ?_, ?_, hlines, fun hline hline' => ?_⟩
  · rw [hg.environment, Blueprint.get?_firewallRules]
  · rw [hg'.environment, Blueprint.get?_firewallRules]
  · have hcolumns := List.rel_flatMap hlines fun t u htu =>
      List.Forall₂.imp (fun _ _ => RuleTuple.SameFields.take_eq) htu
    exact firstColumns_eq hcolumns (hline.isLine_of_mem_enforced h rfl)
      (hline'.isLine_of_mem_enforced h' rfl)

end Recomments

def wordyHost : Host where
  hostname := "nas"
  interfaces := [{ switch := some "sw" }]

/-- A site with one rule, which has a comment, and a host that enforces it. -/
def wordy (comment : String) : Site where
  name := "home"
  domain := "example.net"
  switches := [{ name := "sw", vlans := [{ name := "lan", ipv4Subnet := "10.0.0.0/24" }] }]
  hosts := [wordyHost]
  policy := {
    rules := [
      { comment, sources := [.ofVlan "lan"], destinations := [.ofVlan "lan"]
        allow := [.named "ssh"] }] }

theorem wordy_recomments (comment comment' : String) : (wordy comment').Recomments (wordy comment) :=
  ⟨(wordy comment').policy.rules, rfl, rfl⟩

theorem wordy_compiles : ∀ comment ∈ ["a", "b", "a\nb"],
    ∃ plan, (wordy comment).compile [] = .ok plan := by
  intro comment hc
  refine exists_compile_nil ?_ ?_ ?_ ?_ ?_ ?_
  all_goals
    revert comment
    with_unfolding_all decide

/-- The tuple of its rule. -/
def wordyTuple (comment : String) : RuleTuple where
  source := .vlan "lan"
  destination := .vlan "lan"
  protocol := .tcp
  ports := PortRange.between? 22 22
  action := .accept
  comment

def wordyPlan : AddressPlan where
  vlans := (wordy "").planVlans
  hosts := (wordy "").planHosts
  request := (wordy "").prefixRequest?

theorem wordy_tuples : ∀ comment ∈ ["a", "b", "a\nb"],
    (wordy comment).ruleTuples wordyPlan = [wordyTuple comment] := by
  decide

theorem wordy_text {comment : String} (hc : comment ∈ ["a", "b", "a\nb"])
    (h : (wordy comment).compile [] = .ok plan) : ∃ g, plan.hosts = [g] ∧
      g.environment.get? "FIREWALL_RULES" = some ((wordyTuple comment).line "lan" "lan") := by
  obtain ⟨-, haddresses⟩ := addresses_of_compile h
  have haddresses : plan.addresses = wordyPlan := (addressPlan_eq_ok_iff.1 haddresses).2.2
  have htuples : plan.firewall = [wordyTuple comment] := by
    rw [firewall_eq_of_compile h, haddresses, wordy_tuples comment hc, RuleTuple.normalize,
      List.mergeSort_singleton, RuleTuple.dropRepeats]
  obtain ⟨b, hb, hrules, hhosts⟩ := exists_blueprint h
  obtain ⟨g, rest, ⟨-, hg⟩, hrest, hplan⟩ := List.forall₂_cons_left_iff.1 hhosts
  obtain rfl := List.forall₂_nil_left_iff.1 hrest
  refine ⟨g, hplan, ?_⟩
  -- The host is on the vlan that the rule leads to.
  have hon : (b.plannedHost wordyHost).isOn "lan" = true := by
    rw [Blueprint.plannedHost, hb, haddresses]
    decide
  have henforced : b.enforced wordyHost = [wordyTuple comment] := by
    have hrole : wordyHost.hasRole .router = false := by decide
    have hfirewall : wordyHost.localFirewall = true := rfl
    simp [Blueprint.enforced, hrole, hfirewall, hrules, htuples, RuleTuple.rulesFor,
      RuleTuple.concerns, wordyTuple, hon]
  rw [hg, Blueprint.get?_firewallRules, henforced]
  exact congrArg some String.intercalate_singleton

/-- With comments on one line, the rules have the same columns in front of them. -/
theorem wordy_columns : ∃ plan plan', (wordy "a").compile [] = .ok plan ∧
    (wordy "b").compile [] = .ok plan' ∧ ∃ g g' rules rules', plan.hosts = [g] ∧ plan'.hosts = [g'] ∧
      g.environment.get? "FIREWALL_RULES" = some rules ∧
      g'.environment.get? "FIREWALL_RULES" = some rules' ∧
      firstColumns 5 rules = firstColumns 5 rules' := by
  obtain ⟨plan, h⟩ := wordy_compiles "a" (by decide)
  obtain ⟨plan', h'⟩ := wordy_compiles "b" (by decide)
  have hline : ∀ comment ∈ ["a", "b"], (wordy comment).IsSingleLine := fun comment hc => {
    rules := by
      revert comment
      decide
    vlans := by
      revert comment
      decide
    ipsets := nofun }
  have hhosts := ((wordy_recomments "a" "b").rules_without_comments h h').2
  obtain ⟨g, hg, -⟩ := wordy_text (by decide) h
  obtain ⟨g', hg', -⟩ := wordy_text (by decide) h'
  rw [hg, hg'] at hhosts
  obtain ⟨⟨-, host, -, -, tuples, tuples', -, -, -, hrules, hrules', -, hcolumns⟩, -⟩ :=
    List.forall₂_cons.1 hhosts
  exact ⟨plan, plan', h, h', g, g', _, _, hg, hg', hrules, hrules',
    hcolumns (hline "a" (by decide)) (hline "b" (by decide))⟩

/-- **A comment may change the lines**: with a line break in it, the text of the
    rule has another line. -/
theorem wordy_rules : (wordy "a\nb").Recomments (wordy "a") ∧ ∃ plan plan',
    (wordy "a").compile [] = .ok plan ∧ (wordy "a\nb").compile [] = .ok plan' ∧
    ∃ g g' rules rules', plan.hosts = [g] ∧ plan'.hosts = [g'] ∧
      g.environment.get? "FIREWALL_RULES" = some rules ∧
      g'.environment.get? "FIREWALL_RULES" = some rules' ∧
      (firstColumns 5 rules).length = 1 ∧ (firstColumns 5 rules').length = 2 := by
  obtain ⟨plan, h⟩ := wordy_compiles "a" (by decide)
  obtain ⟨plan', h'⟩ := wordy_compiles "a\nb" (by decide)
  obtain ⟨g, hg, hrules⟩ := wordy_text (by decide) h
  obtain ⟨g', hg', hrules'⟩ := wordy_text (by decide) h'
  exact ⟨wordy_recomments "a" "a\nb", plan, plan', h, h', g, g', _, _, hg, hg', hrules, hrules',
    by decide, by decide⟩

end Site

end NetworkSite
