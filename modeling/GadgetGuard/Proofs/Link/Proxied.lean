import GadgetGuard.Link.Router
import GadgetGuard.Proofs.Encoding.Form
/-!
# Proxied links open no tags

A proxied link is the proxy endpoint and a query of form-encoded directives.  Form encoding
writes letters, digits and a few marks, so a `<` could only stem from the endpoint itself.
-/

namespace GadgetGuard

open GadgetGuard.Text GadgetGuard.Encoding

namespace Text

/-- What holds of all parts and of what separates them holds of the joined text, if it passes on
to texts that are put together. -/
theorem forall_intercalate {P : List Char → Prop} (hnil : P [])
    (happend : ∀ left right, P left → P right → P (left ++ right)) {separator : String}
    {parts : List String} (hseparator : P separator.toList)
    (hparts : ∀ part ∈ parts, P part.toList) : P (separator.intercalate parts).toList := by
  induction parts with
  | nil => exact hnil
  | cons part later ih =>
    have hlater := ih fun other hother => hparts other (List.mem_cons_of_mem _ hother)
    have hpart := hparts part List.mem_cons_self
    cases later with
    | nil =>
      rw [String.intercalate_singleton]
      exact hpart
    | cons next later =>
      rw [String.intercalate_cons_cons, String.toList_append, String.toList_append]
      exact happend _ _ (happend _ _ hpart hseparator) hlater

theorem not_mem_intercalate {c : Char} {separator : String} {parts : List String}
    (hseparator : c ∉ separator.toList) (hparts : ∀ part ∈ parts, c ∉ part.toList) :
    c ∉ (separator.intercalate parts).toList := by
  refine forall_intercalate (P := fun text => c ∉ text) List.not_mem_nil ?_ hseparator hparts
  intro left right hleft hright
  rw [List.mem_append, not_or]
  exact ⟨hleft, hright⟩

end Text

namespace Link

variable {origin : Origin}

theorem not_mem_directiveText {directive : String × String} (hname : '<' ∉ directive.1.toList) :
    '<' ∉ (directiveText directive).toList := by
  have hvalue : '<' ∉ (formEncode directive.2).toList :=
    not_mem_formEncode directive.2 (by decide) (by decide) (by decide)
  simp [directiveText, hname, hvalue]

/-- The names under which proxied links give their directives. -/
def directiveNames : List String :=
  [Parameter.container, Parameter.gadget, Parameter.fingerprint, Parameter.refresh, Parameter.url]

/-- The names of directives are fixed, whatever their values are. -/
theorem name_mem_of_mem_directives {resource : Url} {directive : String × String}
    (hdirective : directive ∈ origin.directives resource) :
    directive.1 ∈ directiveNames := by
  unfold directiveNames
  cases hexpires : origin.settings.expires with
  | none =>
    simp only [Origin.directives, hexpires, Option.map_none, Option.toList_none,
      List.append_nil, List.cons_append, List.nil_append, List.mem_cons,
      List.not_mem_nil, or_false] at hdirective
    rcases hdirective with rfl | rfl | rfl | rfl <;> simp
  | some seconds =>
    simp only [Origin.directives, hexpires, Option.map_some, Option.toList_some,
      List.cons_append, List.nil_append, List.mem_cons, List.not_mem_nil, or_false]
      at hdirective
    rcases hdirective with rfl | rfl | rfl | rfl | rfl <;> simp

theorem not_mem_directives (resource : Url) :
    ∀ directive ∈ origin.directives resource, '<' ∉ directive.1.toList := by
  intro directive hdirective
  have hname := name_mem_of_mem_directives hdirective
  revert hname
  generalize directive.1 = name
  revert name
  decide +kernel

theorem not_mem_proxied (hbase : '<' ∉ origin.settings.proxyBase.toList) (resource : Url) :
    '<' ∉ (origin.proxied resource).toList := by
  have hquery : '<' ∉ ("&".intercalate
      ((origin.directives resource).map directiveText)).toList := by
    apply not_mem_intercalate (by decide)
    intro text htext
    obtain ⟨directive, hdirective, rfl⟩ := List.mem_map.1 htext
    exact not_mem_directiveText (not_mem_directives resource directive hdirective)
  rw [Origin.proxied, String.toList_append, String.toList_append, List.mem_append,
    List.mem_append, not_or, not_or]
  refine ⟨⟨hbase, ?_⟩, hquery⟩
  split
  · decide
  · decide

/-- Links in stylesheets are proxied links or the placeholder. -/
theorem not_mem_forStylesheets (hbase : '<' ∉ origin.settings.proxyBase.toList) (link : String)
    (context : Url) : '<' ∉ (forStylesheets origin link context).value.toList := by
  rw [forStylesheets, sanitizing]
  cases resource link context with
  | ok resource =>
    have hproxied := not_mem_proxied hbase resource
    have hmime : '<' ∉ ("&" ++ Parameter.sanitize ++ "=1&" ++ Parameter.requiredMime ++
      "=" ++ stylesheetMime).toList := by decide +kernel
    simp only [Traced.value_pure, Origin.sanitized, String.append_assoc] at hmime ⊢
    rw [String.toList_append, List.mem_append, not_or]
    exact ⟨hproxied, hmime⟩
  | error cause =>
    rw [Traced.value_bind, Traced.value_pure]
    decide

end Link

end GadgetGuard
