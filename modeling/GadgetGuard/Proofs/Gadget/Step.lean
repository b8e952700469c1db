import GadgetGuard.Proofs.Gadget.Filter
/-!
# One step of the walk

Where the walk comes to a node, it does what the fate of that node says: it leaves the node,
takes it out, or gives it other data and goes on to the children that it then has.  The
attributes are edited one after the other in the store, which amounts to one replacement of
the data.
-/

namespace GadgetGuard

open GadgetGuard.Text

namespace Sanitizer

variable {sanitizer : Sanitizer} {document : Document} {id : NodeId} {kept : Item}

/-- A verdict carried out in the store is the verdict applied to the attributes. -/
theorem carryOut_eq_ok {name tag : String} {attributes : List Attribute} (verdict : Verdict)
    (hdata : document.data? id = some (.element tag attributes)) :
    carryOut document id name verdict =
      .ok (document.withData id (.element tag (verdict.applied name attributes))) := by
  have hmodify : ∀ change : List Attribute → List Attribute,
      document.modifyAttributes id change =
        .ok (document.withData id (.element tag (change attributes))) := by
    intro change
    exact (Document.modifyAttributes_eq_ok_iff change).2 ⟨tag, attributes, hdata, rfl⟩
  cases verdict with
  | keep =>
    rw [Verdict.applied, Document.withData_self hdata]
    rfl
  | drop =>
    rw [carryOut, Document.removeAttribute, hmodify]
    rfl
  | replace value =>
    rw [carryOut, Document.setAttribute, hmodify]
    rfl

theorem filterAttributes_value {tag name : String} {judged attributes : List Attribute}
    (hdata : document.data? id = some (.element name attributes)) :
    (sanitizer.filterAttributes tag id judged document).value =
      ⟨document.withData id (.element name (judged.foldl
        (fun kept a => (sanitizer.judge tag a).value.applied a.name kept) attributes)), none⟩ := by
  induction judged generalizing document attributes with
  | nil =>
    rw [List.foldl_nil, Document.withData_self hdata]
    rfl
  | cons a later ih =>
    have hcontains := Document.contains_of_data? hdata
    rw [filterAttributes, Traced.value_bind, carryOut_eq_ok _ hdata]
    dsimp only
    rw [ih (Document.data?_withData _ hcontains), Document.withData_withData, List.foldl_cons]

theorem afterwards_none (next : Document → Traced Progress) :
    afterwards ⟨document, none⟩ next = next document := rfl

/-- What is left of the document when a node has met its fate and the walk has gone on below
it. -/
def outcome (sanitizer : Sanitizer) (levels : Nat) (document : Document) (id : NodeId) :
    Fate → Progress
  | .keep => ⟨document, none⟩
  | .drop => Progress.ofEdit document (document.remove id)
  | .enter kept =>
    (visitEach (sanitizer.visit levels) (document.children id)
      (document.withData id kept.data)).value
  | .restyle kept =>
    match document.text? id with
    | none => ⟨document, some .endless⟩
    | some css =>
      match sanitizer.styleOutcome css with
      | .clean cleaned =>
        (visitEach (sanitizer.visit levels) [document.nextId]
          ((document.withText id cleaned).withData id kept.data)).value
      | .rejected reason => ⟨document, some (.failed (.style (.rejected reason)))⟩
      | .crashed => ⟨document, some .crashed⟩

theorem filter_and_visit_value {levels : Nat} {name : String} {attributes : List Attribute}
    (hdata : document.data? id = some (.element name attributes)) :
    (sanitizer.filterAttributes (lower name) id (document.attributes id) document >>=
      fun filtered => afterwards filtered fun filtered =>
        visitEach (sanitizer.visit levels) (filtered.children id) filtered).value =
      (visitEach (sanitizer.visit levels) (document.children id) (document.withData id
        (.element name (sanitizer.filteredAttributes (lower name) attributes)))).value := by
  have hattributes : document.attributes id = attributes := by
    rw [Document.attributes, hdata]
  rw [Traced.value_bind, hattributes, filterAttributes_value hdata, afterwards_none,
    Document.children_withData]
  rfl

theorem sanitizeStyle_value (hcontains : document.contains id = true) :
    (sanitizeStyle sanitizer.styles sanitizer.context sanitizer.styleLinks document id).value =
      match document.text? id with
      | none => ⟨document, some .endless⟩
      | some css =>
        match sanitizer.styleOutcome css with
        | .clean cleaned => ⟨document.withText id cleaned, none⟩
        | .rejected reason => ⟨document, some (.failed (.style (.rejected reason)))⟩
        | .crashed => ⟨document, some .crashed⟩ := by
  rw [sanitizeStyle]
  cases document.text? id with
  | none => rfl
  | some css =>
    dsimp only
    rw [Traced.value_bind, styleOutcome]
    cases (sanitizer.styles css sanitizer.context sanitizer.styleLinks).value with
    | clean cleaned =>
      dsimp only
      rw [Document.setText_eq_ok cleaned hcontains]
      rfl
    | rejected reason => rfl
    | crashed => rfl

theorem visit_style_value {levels : Nat} {name : String} {attributes : List Attribute}
    (hdata : document.data? id = some (.element name attributes)) :
    (do
      let styled ← sanitizeStyle sanitizer.styles sanitizer.context sanitizer.styleLinks
        document id
      let filtered ← afterwards styled fun document =>
        sanitizer.filterAttributes (lower name) id (document.attributes id) document
      afterwards filtered fun document =>
        visitEach (sanitizer.visit levels) (document.children id) document).value =
      sanitizer.outcome levels document id (.restyle
        ⟨.element name (sanitizer.filteredAttributes (lower name) attributes), .none⟩) := by
  have hcontains := Document.contains_of_data? hdata
  rw [Traced.value_bind, sanitizeStyle_value hcontains, outcome]
  cases document.text? id with
  | none => rfl
  | some css =>
    dsimp only
    cases sanitizer.styleOutcome css with
    | clean cleaned =>
      have hnew := Document.ne_nextId_of_contains hcontains
      have hdata' : (document.withText id cleaned).data? id = some (.element name attributes) := by
        rw [Document.data?_withText, if_neg hnew, hdata]
      have hchildren : (document.withText id cleaned).children id = [document.nextId] := by
        rw [Document.children_withText _ hcontains, if_pos rfl]
      dsimp only
      rw [afterwards_none, filter_and_visit_value hdata', hchildren]
    | rejected reason => rfl
    | crashed => rfl

/-- The walk treats a node as its fate says. -/
theorem visit_value {levels : Nat} (hcontains : document.contains id = true) :
    (sanitizer.visit (levels + 1) document id).value =
      sanitizer.outcome levels document id (sanitizer.fate (document.item id)) := by
  have hdata := Document.data?_of_contains hcontains
  cases hitem : (document.item id).data with
  | element name attributes =>
    rw [hitem] at hdata
    rw [visit, hdata, Document.item_of_element hdata, fate]
    dsimp only
    cases hmark : document.trust id with
    | all => rfl
    | self =>
      dsimp only
      rw [outcome, Document.withData_self hdata]
    | none =>
      dsimp only
      rw [allowsTag_lower]
      cases hallowed : sanitizer.policy.allowsTag name with
      | false => rfl
      | true =>
        by_cases hstyle : lower name = "style"
        · rw [if_pos hstyle, if_pos hstyle]
          exact visit_style_value hdata
        · rw [if_neg hstyle, if_neg hstyle]
          exact filter_and_visit_value hdata
  | document =>
    rw [hitem] at hdata
    rw [visit, hdata, fate, hitem]
    dsimp only
    rw [outcome, hitem, Document.withData_self hdata]
  | _ =>
    rw [hitem] at hdata
    rw [visit, hdata, fate, hitem]
    rfl

/-- All that a visit may do with its node before it goes on to the children. -/
inductive Visited (sanitizer : Sanitizer) (levels : Nat) (document : Document) (id : NodeId) :
    Progress → Prop
  | stopped (stop : Stop) : Visited sanitizer levels document id ⟨document, some stop⟩
  | kept (hfate : sanitizer.fate (document.item id) = .keep) :
      Visited sanitizer levels document id ⟨document, none⟩
  | dropped {parent : NodeId} (hfate : sanitizer.fate (document.item id) = .drop)
      (hparent : document.parent? id = some parent) :
      Visited sanitizer levels document id ⟨document.detached id parent, none⟩
  | entered {kept : Item} (hcontains : document.contains id = true)
      (hfate : sanitizer.fate (document.item id) = .enter kept) :
      Visited sanitizer levels document id
        (visitEach (sanitizer.visit levels) ((document.withData id kept.data).children id)
          (document.withData id kept.data)).value
  | restyled {kept : Item} (cleaned : String) (hcontains : document.contains id = true)
      (hfate : sanitizer.fate (document.item id) = .restyle kept) :
      Visited sanitizer levels document id
        (visitEach (sanitizer.visit levels)
          (((document.withText id cleaned).withData id kept.data).children id)
          ((document.withText id cleaned).withData id kept.data)).value

theorem visited (sanitizer : Sanitizer) (levels : Nat) (document : Document) (id : NodeId) :
    sanitizer.Visited levels document id (sanitizer.visit (levels + 1) document id).value := by
  cases hcontains : document.contains id with
  | false =>
    rw [visit, Document.data?, Document.node?_eq_none_iff.2 hcontains]
    exact .stopped _
  | true =>
    rw [visit_value hcontains]
    cases hfate : sanitizer.fate (document.item id) with
    | keep => exact .kept hfate
    | drop =>
      rw [outcome]
      cases hremove : document.remove id with
      | error cause => exact .stopped _
      | ok removed =>
        obtain ⟨parent, hparent, _, rfl⟩ := Document.remove_eq_ok_iff.1 hremove
        exact .dropped hfate hparent
    | enter kept =>
      have hentered : sanitizer.Visited levels document id _ := .entered hcontains hfate
      rw [Document.children_withData] at hentered
      exact hentered
    | restyle kept =>
      rw [outcome]
      cases document.text? id with
      | none => exact .stopped _
      | some css =>
        dsimp only
        cases sanitizer.styleOutcome css with
        | clean cleaned =>
          have hrestyled : sanitizer.Visited levels document id _ :=
            .restyled cleaned hcontains hfate
          rw [Document.children_withData, Document.children_withText _ hcontains, if_pos rfl]
            at hrestyled
          exact hrestyled
        | rejected reason => exact .stopped _
        | crashed => exact .stopped _

end Sanitizer

end GadgetGuard
