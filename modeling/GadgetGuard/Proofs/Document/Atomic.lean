import GadgetGuard.Proofs.Document.Stepwise
/-!
# Operations are all or nothing

An operation that fails, also step by step, leaves the document as it was, and one that is given a
number that no node has fails.  The exception is the operation that passes a mark on, which checks
no number: it can mark a node that is still to come.
-/

namespace GadgetGuard

open GadgetGuard.Text

namespace Document

variable {document after : Document} {operation : Operation}

theorem map_removeAttribute {id : NodeId} (name : String) :
    (document.removeAttribute id name).map Prod.fst =
      document.modifyAttributes id fun attributes =>
        attributes.filter fun a => !equalIgnoringCase a.name name := by
  rw [removeAttribute]
  cases document.modifyAttributes id fun attributes =>
      attributes.filter fun a => !equalIgnoringCase a.name name with
  | ok changed => rfl
  | error cause => rfl

namespace Operation

/-- What an operation does, step by step. -/
def edit : Operation → Edit Unit
  | createElement name attributes => do let _ ← Edit.create (elementData name attributes)
  | createPlain data _ => do let _ ← Edit.create data
  | append parent child => Edit.append parent child
  | remove id => Edit.remove id
  | setAttribute id name value => Edit.updateAttributes id (setIn (lower name) value)
  | removeAttribute id name =>
    Edit.updateAttributes id (·.filter fun a => !equalIgnoringCase a.name name)
  | setText id content => Edit.setText id content
  | clone id deep => do let _ ← Edit.clone id deep
  | bypass id includingChildren => Edit.bypass id includingChildren
  | propagateTrust source target => Edit.propagateTrust source target

/-- Every operation is all or nothing. -/
theorem perform_edit (hconsistent : document.Consistent) :
    operation.edit.perform document =
      (operation.outcome? document).map (Edit.leaves document) := by
  cases operation with
  | createElement name attributes => rfl
  | createPlain data hplain => rfl
  | append parent child => exact Edit.perform_append hconsistent
  | remove id => exact Edit.perform_remove hconsistent
  | setAttribute id name value => exact Edit.perform_updateAttributes _
  | removeAttribute id name =>
    rw [outcome?, map_removeAttribute]
    exact Edit.perform_updateAttributes _
  | setText id content => exact Edit.perform_setText content hconsistent
  | clone id deep => exact Edit.perform_clone hconsistent
  | bypass id includingChildren => exact Edit.perform_bypass
  | propagateTrust source target => rfl

/-- The numbers that an operation is given. -/
def numbers : Operation → List NodeId
  | createElement _ _ | createPlain _ _ => []
  | append parent child => [parent, child]
  | remove id | setAttribute id _ _ | removeAttribute id _ | setText id _ | clone id _
  | bypass id _ => [id]
  | propagateTrust source target => [source, target]

/-- An operation that only has to do with nodes of the document, unless it passes a mark on, fails
if it is given another number. -/
theorem outcome?_of_missing {id : NodeId} (hnumber : id ∈ operation.numbers)
    (hmissing : document.contains id = false)
    (hchecks : ∀ source target, operation ≠ .propagateTrust source target) :
    ∃ cause, operation.outcome? document = some (.error cause) := by
  have hdata : document.data? id = none := by
    rw [data?, node?_eq_none_iff.2 hmissing]
    rfl
  cases operation with
  | createElement name attributes => contradiction
  | createPlain data hplain => contradiction
  | append parent child =>
    rw [outcome?, Document.append]
    cases hparent : document.contains parent with
    | false => exact ⟨_, rfl⟩
    | true =>
      obtain rfl | hchild := List.mem_cons.1 hnumber
      · rw [hparent] at hmissing
        contradiction
      · obtain rfl := List.mem_singleton.1 hchild
        rw [hmissing]
        exact ⟨_, rfl⟩
  | propagateTrust source target => exact absurd rfl (hchecks source target)
  | remove other =>
    obtain rfl := List.mem_singleton.1 hnumber
    rw [outcome?, Document.remove, node?_eq_none_iff.2 hmissing]
    exact ⟨_, rfl⟩
  | setAttribute other name value =>
    obtain rfl := List.mem_singleton.1 hnumber
    rw [outcome?, Document.setAttribute, modifyAttributes, hdata]
    exact ⟨_, rfl⟩
  | removeAttribute other name =>
    obtain rfl := List.mem_singleton.1 hnumber
    rw [outcome?, map_removeAttribute, modifyAttributes, hdata]
    exact ⟨_, rfl⟩
  | setText other content =>
    obtain rfl := List.mem_singleton.1 hnumber
    rw [outcome?, Document.setText, hmissing]
    exact ⟨_, rfl⟩
  | clone other deep =>
    obtain rfl := List.mem_singleton.1 hnumber
    rw [outcome?, clone_of_missing hmissing]
    exact ⟨_, rfl⟩
  | bypass other includingChildren =>
    obtain rfl := List.mem_singleton.1 hnumber
    rw [outcome?, Document.bypass, isElement, tagName?, hdata]
    exact ⟨_, rfl⟩

/-- Apart from copying, no operation both adds a node and touches a mark. -/
theorem marks_or_contains_of_outcome (hcopies : ∀ id deep, operation ≠ .clone id deep)
    (houtcome : operation.outcome? document = some (.ok after)) :
    after.marks = document.marks ∨ ∀ id, after.contains id = document.contains id := by
  cases operation with
  | createElement name attributes =>
    obtain rfl := Except.ok.inj (Option.some.inj houtcome)
    exact .inl rfl
  | createPlain data hplain =>
    obtain rfl := Except.ok.inj (Option.some.inj houtcome)
    exact .inl rfl
  | append parent child =>
    obtain ⟨_, _, freed, hfreed, rfl⟩ := append_eq_ok_iff.1 (Option.some.inj houtcome)
    rcases hfreed with ⟨_, rfl⟩ | hremove
    · exact .inl rfl
    · obtain ⟨former, _, _, rfl⟩ := remove_eq_ok_iff.1 hremove
      exact .inl rfl
  | remove id =>
    obtain ⟨former, _, _, rfl⟩ := remove_eq_ok_iff.1 (Option.some.inj houtcome)
    exact .inl rfl
  | setAttribute id name value =>
    obtain ⟨tag, attributes, _, rfl⟩ :=
      (modifyAttributes_eq_ok_iff _).1 (Option.some.inj houtcome)
    exact .inl rfl
  | removeAttribute id name =>
    rw [outcome?, map_removeAttribute] at houtcome
    obtain ⟨tag, attributes, _, rfl⟩ :=
      (modifyAttributes_eq_ok_iff _).1 (Option.some.inj houtcome)
    exact .inl rfl
  | setText id content =>
    obtain ⟨_, rfl⟩ := setText_eq_ok_iff.1 (Option.some.inj houtcome)
    exact .inl (marks_withText content)
  | clone id deep => exact absurd rfl (hcopies id deep)
  | bypass id includingChildren =>
    obtain ⟨_, rfl⟩ := bypass_eq_ok_iff.1 (Option.some.inj houtcome)
    exact .inr fun _ => rfl
  | propagateTrust source target =>
    obtain rfl := Except.ok.inj (Option.some.inj houtcome)
    exact .inr fun _ => rfl

end Operation

theorem trust_of_missing {id : NodeId} (hmarks : document.HasOwnMarks)
    (hmissing : document.contains id = false) : document.trust id = .none := by
  have hunmarked : document.marks.lookup id = none := by
    rw [List.lookup_eq_none_iff]
    intro entry hentry
    rw [bne_iff_ne]
    rintro rfl
    rw [hmarks entry hentry] at hmissing
    contradiction
  rw [trust, hunmarked]
  rfl

theorem run_reachable {operations : List Operation} (hreachable : document.Reachable)
    (hrun : run document operations = some after) : after.Reachable := by
  induction operations generalizing document with
  | nil =>
    obtain rfl := Option.some.inj hrun
    exact hreachable
  | cons operation operations ih =>
    rw [run, List.foldlM_cons] at hrun
    obtain ⟨middle, happly, hrun⟩ := Option.bind_eq_some_iff.1 hrun
    exact ih (Operation.apply_reachable hreachable happly) hrun

/-- Step by step an operation leaves what it leaves at once, and the document as it was if it fails.
It fails if it is given a number that no node has.  Passing a mark on is the one operation that
checks no number; it changes no node and no mark but that under the number it is passed on to.  As
long as marks were only passed on to nodes, an added node that is no copy has no mark. -/
theorem edit_is_all_or_nothing {operations : List Operation}
    (hrun : run empty operations = some document) (operation : Operation) :
    operation.edit.perform document =
      (operation.outcome? document).map (Edit.leaves document) ∧
    (∀ cause after, operation.edit.perform document = some (.error cause, after) →
      after = document) ∧
    ((∃ id ∈ operation.numbers, document.contains id = false) →
      (∀ source target, operation ≠ .propagateTrust source target) →
      ∃ cause, operation.edit.perform document = some (.error cause, document)) ∧
    (∀ source target, operation = .propagateTrust source target →
      ∃ after, operation.edit.perform document = some (.ok (), after) ∧
        (∀ id, after.node? id = document.node? id) ∧
        ∀ id, id ≠ target → after.trust id = document.trust id) ∧
    (Throughout Operation.MarksNode empty operations →
      (∀ id deep, operation ≠ .clone id deep) →
      ∀ after, operation.edit.perform document = some (.ok (), after) →
        ∀ id, document.contains id = false → after.contains id = true →
          after.trust id = .none) := by
  have hreachable := run_reachable .empty hrun
  have hperform := operation.perform_edit hreachable.consistent
  refine ⟨hperform, ?_, ?_, ?_, ?_⟩
  · intro cause after hfailed
    rw [hperform] at hfailed
    obtain ⟨outcome, _, houtcome⟩ := Option.map_eq_some_iff.1 hfailed
    cases outcome with
    | ok other =>
      have hdone : Except.ok () = Except.error cause := congrArg Prod.fst houtcome
      contradiction
    | error other => exact (congrArg Prod.snd houtcome).symm
  · rintro ⟨id, hnumber, hmissing⟩ hchecks
    obtain ⟨cause, houtcome⟩ := operation.outcome?_of_missing hnumber hmissing hchecks
    rw [hperform, houtcome]
    exact ⟨cause, rfl⟩
  · rintro source target rfl
    refine ⟨document.propagateTrust source target, rfl, fun _ => rfl, fun id hid => ?_⟩
    rw [propagateTrust, trust_mark, if_neg hid]
  · intro hthroughout hcopies after hdone id hmissing hcontains
    have hmarks : document.HasOwnMarks := by
      refine run_keeps (fun _ hmarks hallowed happly => ?_) .empty
        (fun _ hentry => absurd hentry List.not_mem_nil) hthroughout hrun
      exact Operation.apply_hasOwnMarks hmarks hallowed happly
    rw [hperform] at hdone
    obtain ⟨outcome, houtcome, hleaves⟩ := Option.map_eq_some_iff.1 hdone
    cases outcome with
    | error cause =>
      have hfailed : Except.error cause = Except.ok () := congrArg Prod.fst hleaves
      contradiction
    | ok other =>
      obtain rfl : other = after := congrArg Prod.snd hleaves
      rcases Operation.marks_or_contains_of_outcome hcopies houtcome with hsame | hsame
      · rw [← trust_of_missing hmarks hmissing, trust, trust, hsame]
      · rw [hsame, hmissing] at hcontains
        contradiction

theorem edit_is_all_or_nothing_stray_child :
    run empty [.createElement "b" []] = some (empty.create (elementData "b" [])).1 ∧
      ∃ cause, (Operation.append ⟨1⟩ ⟨7⟩).edit.perform (empty.create (elementData "b" [])).1 =
        some (.error cause, (empty.create (elementData "b" [])).1) := by
  have hrun : run empty [.createElement "b" []] = some (empty.create (elementData "b" [])).1 := rfl
  refine ⟨hrun, (edit_is_all_or_nothing hrun (.append ⟨1⟩ ⟨7⟩)).2.2.1 ⟨⟨7⟩, ?_, rfl⟩ ?_⟩
  · exact List.mem_cons_of_mem _ List.mem_cons_self
  · intro source target heq
    exact nomatch heq

/-- A mark that was passed on to a number belongs to the node that gets the number later, and a
number that no node has takes the mark of a node away when its own is passed on. -/
theorem run_marks_node_to_come :
    ∃ document,
      run empty [.createElement "b" [], .bypass ⟨1⟩ true, .propagateTrust ⟨1⟩ ⟨2⟩] =
        some document ∧
      document.contains ⟨2⟩ = false ∧
      (document.create (elementData "script" [])).2 = ⟨2⟩ ∧
      (document.create (elementData "script" [])).1.trust ⟨2⟩ = .all ∧
      document.contains ⟨9⟩ = false ∧ document.trust ⟨1⟩ = .all ∧
      (document.propagateTrust ⟨9⟩ ⟨1⟩).trust ⟨1⟩ = .none :=
  ⟨_, rfl, rfl, rfl, rfl, rfl, rfl, rfl⟩

end Document

end GadgetGuard
