/-
  The lines of rules, column by column.

  A tuple has one line for each pair of texts that its endpoints show together
  (`RuleTuple.lines_eq`): five columns that say what the rule does, and one for
  the comment.  An endpoint shows the router, or its zone and perhaps what it is
  narrowed to (`Endpoint.Shows.cases`).
-/
import NetworkSite.Firewall.RuleText

namespace NetworkSite

namespace Endpoint

variable {e f : Endpoint} {text : String}

/-- The endpoint has this text in some line. -/
def Shows (e : Endpoint) (text : String) : Prop :=
  text = e.text ∨ ∃ family, e.textIn? family = some text

/-- **What endpoints show**: the router, a zone, or what there is in it. -/
theorem Shows.cases (h : e.Shows text) : e = .firewall ∧ text = "$FW" ∨ e ≠ .firewall ∧
    (text = e.zone ∨ (∃ addresses, text = addressesText e.zone addresses) ∨
      ∃ name, e = .ipset e.zone name ∧ text = s!"{e.zone}:+{name}") := by
  have hwhole : e.text = text → e = .firewall ∧ text = "$FW" ∨ e ≠ .firewall ∧
      (text = e.zone ∨ (∃ addresses, text = addressesText e.zone addresses) ∨
        ∃ name, e = .ipset e.zone name ∧ text = s!"{e.zone}:+{name}") := by
    rintro rfl
    cases e with
    | vlan | internet => exact .inr ⟨nofun, .inl rfl⟩
    | firewall => exact .inl ⟨rfl, rfl⟩
    | host zone hostname addresses => exact .inr ⟨nofun, .inr (.inl ⟨addresses, rfl⟩)⟩
    | address zone a => exact .inr ⟨nofun, .inr (.inl ⟨[a], rfl⟩)⟩
    | ipset zone name => exact .inr ⟨nofun, .inr (.inr ⟨name, rfl, rfl⟩)⟩
  rcases h with h | ⟨family, h⟩
  · exact hwhole h.symm
  · cases e with
    | host zone hostname addresses =>
      simp only [textIn?] at h
      split at h
      next => cases h
      next own hown => exact .inr ⟨nofun, .inr (.inl ⟨_, (Option.some.inj h).symm⟩)⟩
    | address zone a =>
      obtain ⟨-, h⟩ := Option.ite_none_right_eq_some.1 h
      exact .inr ⟨nofun, .inr (.inl ⟨[a], (Option.some.inj h).symm⟩)⟩
    | _ => exact hwhole (Option.some.inj h)

/-- The texts that two endpoints show together: one pair, or one for each family
    that both have. -/
def texts (e f : Endpoint) : List (String × String) :=
  if e.hasFamily || f.hasFamily then
    [Family.v4, Family.v6].filterMap fun family =>
      match e.textIn? family, f.textIn? family with
      | some source, some destination => some (source, destination)
      | _, _ => none
  else [(e.text, f.text)]

theorem shows_of_mem_texts {x : String × String} (hx : x ∈ texts e f) :
    e.Shows x.1 ∧ f.Shows x.2 := by
  unfold texts at hx
  split at hx
  next =>
    obtain ⟨family, -, hx⟩ := List.mem_filterMap.1 hx
    split at hx
    next source destination hs hd =>
      cases hx
      exact ⟨.inr ⟨family, hs⟩, .inr ⟨family, hd⟩⟩
    next => cases hx
  next =>
    cases List.mem_singleton.1 hx
    exact ⟨.inl rfl, .inl rfl⟩

end Endpoint

/-- The column of a comment, if there is one. -/
def commentColumn (comment : String) : List String :=
  if comment.isEmpty then [] else ["# " ++ comment]

namespace RuleTuple

variable {t : RuleTuple}

/-- The columns of a line that say what the tuple does. -/
def fields (t : RuleTuple) (source destination : String) : List String :=
  [t.action.word, source, destination, t.protocol.name, t.portsText]

theorem line_eq (source destination : String) : t.line source destination =
    "\t".intercalate (t.fields source destination ++ commentColumn t.comment) :=
  rfl

/-- **The lines of a tuple** are those for the texts of its endpoints. -/
theorem lines_eq : t.lines = (t.source.texts t.destination).map fun x => t.line x.1 x.2 := by
  unfold lines Endpoint.texts
  split
  next =>
    rw [List.map_filterMap]
    congr 1
    funext family
    unfold lineIn?
    cases t.source.textIn? family with
    | none => rfl
    | some source => cases t.destination.textIn? family <;> rfl
  next => rfl

end RuleTuple

end NetworkSite
