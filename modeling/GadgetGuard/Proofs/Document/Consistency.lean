import Mathlib.Data.List.Nodup
import GadgetGuard.Proofs.Document.Store
/-!
# Consistent documents

A document is only ever changed through its operations, and every one of them keeps both
sides of a link in step: a node is listed among the children of another one exactly if that
one is its parent.  `Reachable` collects the documents that the operations can make, and
`Reachable.consistent` says that all of them are consistent.
-/

namespace GadgetGuard

/-- What can be created besides elements.  The root is the only node that is made for the
document itself. -/
def NodeData.isPlain : NodeData → Bool
  | .document | .element _ _ => false
  | _ => true

namespace Document

variable {document before after freed : Document} {id parent child copy : NodeId}

/-- The documents that can be made from the empty one by the operations on documents.  An
operation that fails makes none. -/
inductive Reachable : Document → Prop
  | empty : Reachable empty
  | createElement {document : Document} (name : String) (attributes : List (String × String)) :
      Reachable document → Reachable (document.create (elementData name attributes)).1
  | createPlain {document : Document} {data : NodeData} (hplain : data.isPlain = true) :
      Reachable document → Reachable (document.create data).1
  | append {document after : Document} {parent child : NodeId} :
      Reachable document → document.append parent child = .ok after → Reachable after
  | remove {document after : Document} {id : NodeId} :
      Reachable document → document.remove id = .ok after → Reachable after
  | setAttribute {document after : Document} {id : NodeId} {name value : String} :
      Reachable document → document.setAttribute id name value = .ok after → Reachable after
  | removeAttribute {document after : Document} {id : NodeId} {name : String} {found : Bool} :
      Reachable document → document.removeAttribute id name = .ok (after, found) →
        Reachable after
  | setText {document after : Document} {id : NodeId} {content : String} :
      Reachable document → document.setText id content = .ok after → Reachable after
  | clone {document after : Document} {id copy : NodeId} {deep : Bool} :
      Reachable document → (document.clone id deep).run = some (.ok (after, copy)) →
        Reachable after
  | bypass {document after : Document} {id : NodeId} {includingChildren : Bool} :
      Reachable document → document.bypass id includingChildren = .ok after → Reachable after
  | propagateTrust {document : Document} (source target : NodeId) :
      Reachable document → Reachable (document.propagateTrust source target)

/-- Both sides of every link agree, no child is listed twice, and the root is a document. -/
structure Consistent (document : Document) : Prop where
  mem_children_iff : ∀ {parent child : NodeId},
    child ∈ document.children parent ↔ document.parent? child = some parent
  nodup_children : ∀ id, (document.children id).Nodup
  data?_root : document.data? root = some .document

namespace Consistent

theorem contains_child (hconsistent : document.Consistent)
    (hchild : child ∈ document.children parent) : document.contains child = true :=
  contains_of_parent? (hconsistent.mem_children_iff.1 hchild)

theorem contains_root (hconsistent : document.Consistent) : document.contains root = true :=
  contains_of_data? hconsistent.data?_root

theorem parent_unique (hconsistent : document.Consistent) {other : NodeId}
    (hparent : child ∈ document.children parent) (hother : child ∈ document.children other) :
    parent = other := by
  rw [hconsistent.mem_children_iff] at hparent hother
  exact Option.some.inj (hparent.symm.trans hother)

/-! ## The operations keep documents consistent -/

/-- An edit that touches no link. -/
theorem of_same_links (hconsistent : before.Consistent)
    (hchildren : ∀ id, after.children id = before.children id)
    (hparent : ∀ id, after.parent? id = before.parent? id)
    (hroot : after.data? root = some .document) : after.Consistent where
  mem_children_iff := by
    intro parent child
    rw [hchildren, hparent, hconsistent.mem_children_iff]
  nodup_children id := by
    rw [hchildren]
    exact hconsistent.nodup_children id
  data?_root := hroot

theorem empty : Document.empty.Consistent where
  mem_children_iff := by
    intro parent child
    have hnode : ∀ id, Document.empty.node? id =
        if id = root then some ⟨.document, none, []⟩ else none := by
      rintro ⟨_ | index⟩
      · rfl
      · rfl
    rw [children, parent?, hnode, hnode]
    by_cases hparent : parent = root
    · by_cases hchild : child = root
      · simp [hparent, hchild]
      · simp [hparent, hchild]
    · by_cases hchild : child = root
      · simp [hparent, hchild]
      · simp [hparent, hchild]
  nodup_children id := by
    obtain ⟨_ | index⟩ := id
    · exact List.nodup_nil
    · exact List.nodup_nil
  data?_root := rfl

theorem create (hconsistent : document.Consistent) (data : NodeData) :
    (document.create data).1.Consistent := by
  refine hconsistent.of_same_links (fun _ => children_create data)
    (fun _ => parent?_create data) ?_
  rw [data?_create_of_contains data hconsistent.contains_root, hconsistent.data?_root]

theorem detached (hconsistent : document.Consistent)
    (hparent : document.parent? id = some parent) :
    (document.detached id parent).Consistent where
  mem_children_iff := by
    intro other child
    rw [children_detached, parent?_detached (contains_of_parent? hparent)]
    by_cases hchild : child = id
    · subst hchild
      rw [if_pos rfl]
      by_cases hother : other = parent
      · simp [hother]
      · simp only [if_neg hother, reduceCtorEq, iff_false, hconsistent.mem_children_iff]
        rw [hparent]
        exact fun heq => hother (Option.some.inj heq).symm
    · rw [if_neg hchild, ← hconsistent.mem_children_iff]
      by_cases hother : other = parent
      · simp [hother, hchild]
      · rw [if_neg hother]
  nodup_children other := by
    rw [children_detached]
    by_cases hother : other = parent
    · rw [if_pos hother]
      exact (hconsistent.nodup_children other).filter _
    · rw [if_neg hother]
      exact hconsistent.nodup_children other
  data?_root := by rw [data?_detached, hconsistent.data?_root]

theorem attached (hconsistent : document.Consistent)
    (hcontains : document.contains parent = true) (hchild : document.contains child = true)
    (hfree : document.parent? child = none) : (document.attached parent child).Consistent where
  mem_children_iff := by
    intro other node
    have hunlisted : ∀ other, child ∉ document.children other := by
      intro other hmem
      rw [hconsistent.mem_children_iff, hfree] at hmem
      contradiction
    rw [children_attached hcontains, parent?_attached hchild]
    by_cases hnode : node = child
    · subst hnode
      by_cases hother : other = parent
      · simp [hother]
      · simp [hother, hunlisted, Ne.symm hother]
    · rw [if_neg hnode, ← hconsistent.mem_children_iff]
      by_cases hother : other = parent
      · simp [hother, hnode]
      · rw [if_neg hother]
  nodup_children other := by
    rw [children_attached hcontains]
    by_cases hother : other = parent
    · rw [if_pos hother]
      refine List.nodup_append.2
        ⟨hconsistent.nodup_children other, List.nodup_singleton child, ?_⟩
      rintro node hnode _ hsingle rfl
      rw [List.mem_singleton.1 hsingle, hconsistent.mem_children_iff, hfree] at hnode
      contradiction
    · rw [if_neg hother]
      exact hconsistent.nodup_children other
  data?_root := by rw [data?_attached, hconsistent.data?_root]

theorem cleared (hconsistent : document.Consistent) (id : NodeId) :
    (document.cleared id).Consistent where
  mem_children_iff := by
    intro other child
    rw [children_cleared, parent?_cleared]
    by_cases hchild : child ∈ document.children id
    · rw [if_pos hchild]
      by_cases hother : other = id
      · simp [hother]
      · rw [if_neg hother]
        simp only [reduceCtorEq, iff_false]
        exact fun hmem => hother (hconsistent.parent_unique hmem hchild)
    · rw [if_neg hchild, ← hconsistent.mem_children_iff]
      by_cases hother : other = id
      · simp [hother, hchild]
      · rw [if_neg hother]
  nodup_children other := by
    rw [children_cleared]
    by_cases hother : other = id
    · rw [if_pos hother]
      exact List.nodup_nil
    · rw [if_neg hother]
      exact hconsistent.nodup_children other
  data?_root := by rw [data?_cleared, hconsistent.data?_root]

theorem remove (hconsistent : document.Consistent) (hremove : document.remove id = .ok after) :
    after.Consistent := by
  obtain ⟨parent, hparent, _, rfl⟩ := remove_eq_ok_iff.1 hremove
  exact hconsistent.detached hparent

theorem append (hconsistent : document.Consistent)
    (happend : document.append parent child = .ok after) : after.Consistent := by
  obtain ⟨hparent, hchild, freed, hfreed, rfl⟩ := append_eq_ok_iff.1 happend
  rcases hfreed with ⟨hfree, rfl⟩ | hremove
  · exact hconsistent.attached hparent hchild hfree
  · obtain ⟨former, hformer, _, rfl⟩ := remove_eq_ok_iff.1 hremove
    refine (hconsistent.detached hformer).attached (by simpa using hparent)
      (by simpa using hchild) ?_
    rw [parent?_detached hchild, if_pos rfl]

theorem withData (hconsistent : document.Consistent) {data : NodeData}
    (hroot : id = root → data = .document) : (document.withData id data).Consistent := by
  refine hconsistent.of_same_links (fun _ => children_withData _)
    (fun _ => parent?_withData _) ?_
  by_cases hid : id = root
  · rw [hid, data?_withData _ hconsistent.contains_root, hroot hid]
  · rw [data?_congr (node?_withData _ (Ne.symm hid)), hconsistent.data?_root]

theorem modifyAttributes (hconsistent : document.Consistent)
    {change : List Attribute → List Attribute}
    (hmodify : document.modifyAttributes id change = .ok after) : after.Consistent := by
  obtain ⟨name, attributes, hdata, rfl⟩ := (modifyAttributes_eq_ok_iff change).1 hmodify
  apply hconsistent.withData
  rintro rfl
  rw [hconsistent.data?_root, Option.some.injEq] at hdata
  contradiction

theorem withText (hconsistent : document.Consistent) (content : String)
    (hcontains : document.contains id = true) : (document.withText id content).Consistent := by
  refine ((hconsistent.cleared id).create (.text content)).attached ?_ ?_ ?_
  · exact (contains_create _).2 (.inr (by rw [contains_cleared, hcontains]))
  · exact (contains_create _).2 (.inl nextId_cleared.symm)
  · rw [parent?_create, parent?_cleared, parent?_nextId, ite_self]

theorem setText (hconsistent : document.Consistent) {content : String}
    (hset : document.setText id content = .ok after) : after.Consistent := by
  obtain ⟨hcontains, rfl⟩ := setText_eq_ok_iff.1 hset
  exact hconsistent.withText content hcontains

theorem mark (hconsistent : document.Consistent) (id : NodeId) (trust : Trust) :
    (document.mark id trust).Consistent :=
  hconsistent.of_same_links (fun _ => rfl) (fun _ => rfl) hconsistent.data?_root

theorem cloneAlone (hconsistent : document.Consistent)
    (hclone : document.cloneAlone id = .ok (after, copy)) : after.Consistent := by
  obtain ⟨data, _, rfl, _⟩ := cloneAlone_eq_ok_iff.1 hclone
  exact (hconsistent.create data).mark _ _

end Consistent

/-! ## Copies -/

theorem run_bind_eq_ok {α β : Type} {start : ExceptT DocumentError Option α}
    {next : α → ExceptT DocumentError Option β} {result : β}
    (hrun : (start >>= next).run = some (.ok result)) :
    ∃ value, start.run = some (.ok value) ∧ (next value).run = some (.ok result) := by
  rw [ExceptT.run_bind] at hrun
  cases hstart : start.run with
  | none => simp [hstart] at hrun
  | some outcome =>
    cases outcome with
    | error cause => simp [hstart] at hrun
    | ok value => exact ⟨value, rfl, by simpa [hstart] using hrun⟩

theorem foldlM_preserves {α : Type} {P : Document → Prop}
    {step : Document → α → ExceptT DocumentError Option Document}
    (hstep : ∀ {before : Document} {item : α} {after : Document}, P before →
      (step before item).run = some (.ok after) → P after)
    {items : List α} (hbefore : P before)
    (hrun : (items.foldlM step before).run = some (.ok after)) : P after := by
  induction items generalizing before with
  | nil =>
    rw [List.foldlM_nil] at hrun
    simp only [ExceptT.run_pure] at hrun
    obtain rfl := Except.ok.inj (Option.some.inj hrun)
    exact hbefore
  | cons item items ih =>
    rw [List.foldlM_cons] at hrun
    obtain ⟨middle, hfirst, hrest⟩ := run_bind_eq_ok hrun
    exact ih (hstep hbefore hfirst) hrest

/-- A copy is made of copies of single nodes and of insertions, so it keeps whatever those
keep. -/
theorem cloneWithin_preserves {P : Document → Prop}
    (halone : ∀ {before after : Document} {id copy : NodeId}, P before →
      before.cloneAlone id = .ok (after, copy) → P after)
    (happend : ∀ {before after : Document} {parent child : NodeId}, P before →
      before.append parent child = .ok after → P after)
    {depth : Nat} (hbefore : P before)
    (hrun : (cloneWithin depth before id).run = some (.ok (after, copy))) : P after := by
  induction depth generalizing before after id copy with
  | zero => simp [cloneWithin, ExceptT.mk, ExceptT.run] at hrun
  | succ depth ih =>
    rw [cloneWithin] at hrun
    obtain ⟨⟨start, root⟩, hstart, hrun⟩ := run_bind_eq_ok hrun
    obtain ⟨finished, hfold, hrun⟩ := run_bind_eq_ok hrun
    have hpair : (finished, root) = (after, copy) := Except.ok.inj (Option.some.inj hrun)
    obtain rfl := congrArg Prod.fst hpair
    refine foldlM_preserves ?_ (halone hbefore (Option.some.inj hstart)) hfold
    intro current child next hcurrent hchild
    obtain ⟨⟨extended, childCopy⟩, hcopy, hattach⟩ := run_bind_eq_ok hchild
    exact happend (ih hcurrent hcopy) (Option.some.inj hattach)

theorem Consistent.clone (hconsistent : document.Consistent) {deep : Bool}
    (hclone : (document.clone id deep).run = some (.ok (after, copy))) : after.Consistent := by
  unfold Document.clone at hclone
  cases deep with
  | false => exact hconsistent.cloneAlone (Option.some.inj hclone)
  | true =>
    exact cloneWithin_preserves (fun h => h.cloneAlone) (fun h => h.append) hconsistent hclone

/-- Every document that the operations make is consistent. -/
theorem Reachable.consistent (hreachable : document.Reachable) : document.Consistent := by
  induction hreachable with
  | empty => exact .empty
  | createElement name attributes _ ih => exact ih.create _
  | createPlain _ _ ih => exact ih.create _
  | append _ happend ih => exact ih.append happend
  | remove _ hremove ih => exact ih.remove hremove
  | setAttribute _ hset ih => exact ih.modifyAttributes hset
  | removeAttribute _ hremove ih =>
    obtain ⟨change, hmodify⟩ := removeAttribute_eq_ok hremove
    exact ih.modifyAttributes hmodify
  | setText _ hset ih => exact ih.setText hset
  | clone _ hclone ih => exact ih.clone hclone
  | bypass _ hbypass ih =>
    obtain ⟨_, rfl⟩ := bypass_eq_ok_iff.1 hbypass
    exact ih.mark _ _
  | propagateTrust source target _ ih => exact ih.mark _ _

end Document

end GadgetGuard
