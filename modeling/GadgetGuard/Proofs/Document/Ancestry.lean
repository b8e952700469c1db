import GadgetGuard.Proofs.Document.Acyclic
/-!
# Edits that close no cycle

The way down from a node only gets longer where a node is put under another one.  Creating,
changing and taking out nodes therefore keeps a document free of cycles, and so does putting a
node under one that does not hang below it.
-/

namespace GadgetGuard.Document

variable {document before after : Document} {id parent child upper lower : NodeId}

/-- No node is below itself. -/
def IsAcyclic (document : Document) : Prop :=
  ∀ id, ¬ document.IsBelow id id

theorem mem_children_attached (hcontains : document.contains parent = true) :
    lower ∈ (document.attached parent child).children upper ↔
      lower ∈ document.children upper ∨ upper = parent ∧ lower = child := by
  rw [children_attached hcontains]
  by_cases hupper : upper = parent
  · rw [if_pos hupper, List.mem_append, List.mem_singleton]
    exact or_congr_right ⟨fun hlower => ⟨hupper, hlower⟩, And.right⟩
  · rw [if_neg hupper]
    exact ⟨.inl, fun hcases => hcases.resolve_right fun hnew => hupper hnew.1⟩

/-- What is below a node after a child was put in place either was below it before, or the way
down leads over the new link. -/
theorem isBelow_of_attached (hcontains : document.contains parent = true)
    (hbelow : (document.attached parent child).IsBelow upper lower) :
    document.IsBelow upper lower ∨
      document.IsWithin upper parent ∧ document.IsWithin child lower := by
  induction hbelow with
  | single hlink =>
    obtain hold | ⟨rfl, rfl⟩ := (mem_children_attached hcontains).1 hlink
    · exact .inl (.single hold)
    · exact .inr ⟨.refl, .refl⟩
  | tail _ hlink ih =>
    obtain hold | ⟨rfl, rfl⟩ := (mem_children_attached hcontains).1 hlink
    · exact ih.imp (fun hbelow => hbelow.tail hold) fun ⟨hup, hdown⟩ => ⟨hup, hdown.tail hold⟩
    · obtain hbelow | ⟨hup, _⟩ := ih
      · exact .inr ⟨hbelow.to_reflTransGen, .refl⟩
      · exact .inr ⟨hup, .refl⟩

namespace IsAcyclic

theorem of_children_subset (hacyclic : before.IsAcyclic)
    (hchildren : ∀ id, after.children id ⊆ before.children id) : after.IsAcyclic := by
  intro id hbelow
  apply hacyclic id
  exact Relation.TransGen.mono (fun parent _ hlink => hchildren parent hlink) _ _ hbelow

theorem empty : Document.empty.IsAcyclic := by
  intro id
  apply not_isBelow_of_parent? .empty
  obtain ⟨_ | index⟩ := id
  · rfl
  · rfl

theorem create (hacyclic : document.IsAcyclic) (data : NodeData) :
    (document.create data).1.IsAcyclic := by
  apply hacyclic.of_children_subset
  intro id
  rw [children_create]
  exact List.Subset.refl _

theorem mark (hacyclic : document.IsAcyclic) (id : NodeId) (trust : Trust) :
    (document.mark id trust).IsAcyclic :=
  hacyclic.of_children_subset fun _ => List.Subset.refl _

theorem modifyAttributes (hacyclic : document.IsAcyclic)
    {change : List Attribute → List Attribute}
    (hmodify : document.modifyAttributes id change = .ok after) : after.IsAcyclic := by
  obtain ⟨name, attributes, _, rfl⟩ := (modifyAttributes_eq_ok_iff change).1 hmodify
  apply hacyclic.of_children_subset
  intro other
  rw [children_withData]
  exact List.Subset.refl _

theorem children_detached_subset (other : NodeId) :
    (document.detached id parent).children other ⊆ document.children other := by
  rw [children_detached]
  split
  · exact List.filter_subset_self _
  · exact List.Subset.refl _

theorem remove (hacyclic : document.IsAcyclic) (hremove : document.remove id = .ok after) :
    after.IsAcyclic := by
  obtain ⟨former, _, _, rfl⟩ := remove_eq_ok_iff.1 hremove
  exact hacyclic.of_children_subset children_detached_subset

/-- The new link only closes a cycle if there is a way down from the child to the parent. -/
theorem attached (hacyclic : document.IsAcyclic) (hcontains : document.contains parent = true)
    (hapart : ¬ document.IsWithin child parent) :
    (document.attached parent child).IsAcyclic := by
  intro id hbelow
  obtain hbelow | ⟨hup, hdown⟩ := isBelow_of_attached hcontains hbelow
  · exact hacyclic id hbelow
  · exact hapart (hdown.trans hup)

theorem append (hacyclic : document.IsAcyclic) (hapart : ¬ document.IsWithin child parent)
    (happend : document.append parent child = .ok after) : after.IsAcyclic := by
  obtain ⟨hparent, _, freed, hfreed, rfl⟩ := append_eq_ok_iff.1 happend
  obtain ⟨_, rfl⟩ | hremove := hfreed
  · exact hacyclic.attached hparent hapart
  · have hfree := hacyclic.remove hremove
    obtain ⟨former, _, _, rfl⟩ := remove_eq_ok_iff.1 hremove
    apply hfree.attached (by rw [contains_detached, hparent])
    exact fun hwithin => hapart (Relation.ReflTransGen.mono
      (fun upper _ hlink => children_detached_subset upper hlink) _ _ hwithin)

theorem cleared (hacyclic : document.IsAcyclic) (id : NodeId) :
    (document.cleared id).IsAcyclic := by
  apply hacyclic.of_children_subset
  intro other
  rw [children_cleared]
  split
  · exact List.nil_subset _
  · exact List.Subset.refl _

theorem withText (hacyclic : document.IsAcyclic) (content : String)
    (hcontains : document.contains id = true) :
    (document.withText id content).IsAcyclic := by
  apply ((hacyclic.cleared id).create (.text content)).attached
  · exact (contains_create _).2 (.inr (by rw [contains_cleared, hcontains]))
  · -- the new text has no children yet
    intro hwithin
    obtain heq | ⟨_, hlink, _⟩ := Relation.ReflTransGen.cases_head hwithin
    · exact ne_nextId_of_contains hcontains heq.symm
    · rw [children_create, children_cleared, children_nextId, ite_self] at hlink
      contradiction

end IsAcyclic

end GadgetGuard.Document
