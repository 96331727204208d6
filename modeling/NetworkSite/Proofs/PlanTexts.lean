/-
  The file of a plan, read back.

  A plan is written as a regular document (`BuildPlan.isRegular_toDocument`), so
  that the next run reads from its file what was written: the hostnames are those
  of the hosts of the plan (`BuildPlan.hostnames?_pretty`).
-/
import NetworkSite.Files.PlanDirectory
import NetworkSite.Proofs.AddressTexts
import NetworkSite.Proofs.JsonTexts

namespace NetworkSite

open Document

/-! ## Regular documents -/

namespace Document

attribute [simp] IsRegular.null IsRegular.bool IsRegular.natural IsRegular.text

@[simp]
theorem isRegular_list_iff {items : List Document} :
    (list items).IsRegular ↔ ∀ d ∈ items, d.IsRegular :=
  ⟨fun h => by cases h; assumption, .list⟩

theorem isRegular_ofFields {entries : List (String × Document)} (h : ∀ e ∈ entries, e.2.IsRegular) :
    (ofFields entries).IsRegular :=
  .table h

theorem isRegular_tableOf {entries : List (String × Option Document)}
    (h : ∀ e ∈ entries, ∀ d ∈ e.2, d.IsRegular) : (tableOf entries).IsRegular := by
  refine isRegular_ofFields fun e he => ?_
  obtain ⟨⟨key, value⟩, hm, he⟩ := List.mem_filterMap.1 he
  obtain ⟨d, hd, rfl⟩ := Option.map_eq_some_iff.1 he
  exact h _ hm d hd

@[simp]
theorem isRegular_texts (items : List String) : (texts items).IsRegular := by
  simp [texts]

@[simp]
theorem isRegular_orNull {α : Type} {f : α → Document} {value : Option α}
    (h : ∀ a, (f a).IsRegular) : (orNull f value).IsRegular := by
  cases value <;> simp [orNull, h]

theorem isRegular_of_unlessEmpty {items : List Document} (h : ∀ d ∈ items, d.IsRegular)
    {d : Document} (hd : unlessEmpty items = some d) : d.IsRegular := by
  cases items with
  | nil => cases hd
  | cons item items =>
    cases hd
    exact .list h

end Document

/-! ## Plans -/

theorem Endpoint.isRegular_toDocument (e : Endpoint) : e.toDocument.IsRegular := by
  cases e <;> refine isRegular_tableOf ?_ <;> simp [IpAddress.toDocument]

theorem RuleTuple.isRegular_toDocument (t : RuleTuple) : t.toDocument.IsRegular := by
  refine isRegular_tableOf ?_
  simp [Endpoint.isRegular_toDocument]

theorem HostPlan.isRegular_toDocument (h : HostPlan) : h.toDocument.IsRegular := by
  refine isRegular_tableOf ?_
  simp [Role.toDocument]

theorem Ipv6Mode.isRegular_toDocument (m : Ipv6Mode) : m.toDocument.IsRegular := by
  cases m <;> refine isRegular_tableOf ?_ <;> simp [Network.toDocument]

theorem Pool.isRegular_toDocument {f : Family} (p : Pool f) : p.toDocument.IsRegular := by
  simp [Pool.toDocument, AddressRange.toDocument, Address.toDocument, isRegular_tableOf]

theorem Entry.isRegular_toDocument (e : Entry) : e.toDocument.IsRegular := by
  have haliases : ∀ d, unlessEmpty (e.aliases.map .text) = some d → d.IsRegular :=
    fun d => isRegular_of_unlessEmpty (by simp)
  refine isRegular_tableOf ?_
  simpa [Address.toDocument] using haliases

theorem PlannedVlan.isRegular_toDocument (w : PlannedVlan) : w.toDocument.IsRegular := by
  refine isRegular_tableOf ?_
  simp [Network.toDocument, Address.toDocument, Ipv6Mode.isRegular_toDocument,
    Pool.isRegular_toDocument, Entry.isRegular_toDocument]

theorem PlannedHost.isRegular_toDocument (h : PlannedHost) : h.toDocument.IsRegular := by
  refine isRegular_tableOf ?_
  simp [PlannedInterface.toDocument, Address.toDocument, isRegular_tableOf]

theorem AddressPlan.isRegular_toDocument (p : AddressPlan) : p.toDocument.IsRegular := by
  refine isRegular_tableOf ?_
  simp [PlannedVlan.isRegular_toDocument, PlannedHost.isRegular_toDocument,
    PrefixRequest.toDocument, Network.toDocument, isRegular_tableOf]

theorem BuildPlan.isRegular_toDocument (p : BuildPlan) : p.toDocument.IsRegular := by
  refine isRegular_tableOf ?_
  simp [Schedule.toDocument, HostPlan.isRegular_toDocument, AddressPlan.isRegular_toDocument,
    RuleTuple.isRegular_toDocument]

/-! ## Hostnames -/

/-- The view of a table with texts as keys as the record of one field. -/
theorem Decode.record_ofFields {name : String} {d : Document} {entries : List (String × Document)}
    (h : entries.filter (·.1 == name) = [(name, d)]) :
    Decode.record [{ name }] (ofFields entries) = some [(name, d)] := by
  have hkey : ∀ e ∈ entries, Decode.Field.isKey { name } 0 (.name e.1) = (e.1 == name) := fun e _ => by
    simp [Decode.Field.isKey]
  have hvalue : Decode.fieldValue (entries.map fun e => (.name e.1, e.2)) { name } 0 =
      some [(name, d)] := by
    rw [Decode.fieldValue, List.filter_map]
    have hfilter := (List.filter_congr hkey).trans h
    simp only [Function.comp_def, hfilter, List.map_cons, List.map_nil]
  rw [ofFields, Decode.record, Decode.entriesRecord,
    mapM_map_eq (f := fun e => (.name e.1, e.2)) ?keys]
  case keys => exact fun _ _ => rfl
  simp only [Option.bind_eq_bind, Option.bind_some, List.zipIdx_singleton, List.mapM_cons,
    List.mapM_nil, hvalue]
  rfl

theorem HostPlan.hostname?_reread (h : HostPlan) :
    PlanDirectory.hostname? h.toDocument.reread = some h.hostname := by
  have hrecord : Decode.record [{ name := "hostname" }] h.toDocument.reread =
      some [("hostname", .text h.hostname)] := by
    rw [HostPlan.toDocument, tableOf, reread_ofFields]
    exact Decode.record_ofFields rfl
  rw [PlanDirectory.hostname?, hrecord]
  rfl

/-- The file of a plan names the hosts of the plan, in their order. -/
theorem BuildPlan.hostnames?_pretty (p : BuildPlan) :
    PlanDirectory.hostnames? p.toDocument.pretty = some (p.hosts.map (·.hostname)) := by
  have hrecord : Decode.record [{ name := "hosts" }] p.toDocument.reread =
      some [("hosts", .list ((p.hosts.map (·.toDocument)).map reread))] := by
    rw [BuildPlan.toDocument, tableOf, reread_ofFields]
    refine Decode.record_ofFields ?_
    rw [← rereadItems_eq]
    rfl
  have hlist : ((p.hosts.map (·.toDocument)).map reread).mapM PlanDirectory.hostname? =
      some (p.hosts.map (·.hostname)) := by
    rw [List.map_map]
    exact mapM_map_eq fun h _ => h.hostname?_reread
  rw [PlanDirectory.hostnames?, ofJson?_pretty p.isRegular_toDocument]
  simp only [Option.bind_eq_bind, Option.bind_some, hrecord]
  exact hlist

end NetworkSite
