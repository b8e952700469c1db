import GadgetGuard.Proofs.Document.Copy
import GadgetGuard.Proofs.Document.Reading
/-!
# Documents in use

A document is used by one operation after another, with any numbers as arguments.  An operation
that fails leaves the document as it was, and only the copy of a node below itself has no end.
Whatever the operations are, all links stay in step and lead to nodes of the document.  As long
as no node is put below itself there are no cycles either, so every node can be read and copied.
-/

namespace GadgetGuard.Document

variable {document before after : Document} {id : NodeId}

/-! ## Marks -/

/-- Only nodes of the document are marked. -/
def HasOwnMarks (document : Document) : Prop :=
  ∀ entry ∈ document.marks, document.contains entry.1 = true

namespace HasOwnMarks

theorem of_same_marks (hmarks : before.HasOwnMarks) (hsame : after.marks = before.marks)
    (hcontains : ∀ {id}, before.contains id = true → after.contains id = true) :
    after.HasOwnMarks := by
  intro entry hentry
  rw [hsame] at hentry
  exact hcontains (hmarks entry hentry)

theorem create (hmarks : document.HasOwnMarks) (data : NodeData) :
    (document.create data).1.HasOwnMarks :=
  hmarks.of_same_marks rfl fun hcontains => (contains_create data).2 (.inr hcontains)

theorem mark (hmarks : document.HasOwnMarks) {trust : Trust}
    (hallowed : trust = .none ∨ document.contains id = true) :
    (document.mark id trust).HasOwnMarks := by
  intro entry hentry
  have hothers : entry ∈ document.marks.filter (·.1 != id) → document.contains entry.1 = true :=
    fun hentry => hmarks entry (List.mem_filter.1 hentry).1
  rw [Document.mark] at hentry
  by_cases htrust : trust = .none
  · rw [if_pos htrust] at hentry
    exact hothers hentry
  · rw [if_neg htrust] at hentry
    obtain rfl | hentry := List.mem_cons.1 hentry
    · exact hallowed.resolve_left htrust
    · exact hothers hentry

theorem modifyAttributes (hmarks : document.HasOwnMarks)
    {change : List Attribute → List Attribute}
    (hmodify : document.modifyAttributes id change = .ok after) : after.HasOwnMarks := by
  obtain ⟨name, attributes, _, rfl⟩ := (modifyAttributes_eq_ok_iff change).1 hmodify
  exact hmarks.of_same_marks rfl fun hcontains => (contains_withData _).trans hcontains

theorem remove (hmarks : document.HasOwnMarks) (hremove : document.remove id = .ok after) :
    after.HasOwnMarks := by
  obtain ⟨former, _, _, rfl⟩ := remove_eq_ok_iff.1 hremove
  exact hmarks.of_same_marks rfl fun hcontains => contains_detached.trans hcontains

theorem append {parent child : NodeId} (hmarks : document.HasOwnMarks)
    (happend : document.append parent child = .ok after) : after.HasOwnMarks := by
  obtain ⟨_, _, freed, hfreed, rfl⟩ := append_eq_ok_iff.1 happend
  have hkept : freed.HasOwnMarks := by
    obtain ⟨_, rfl⟩ | hremove := hfreed
    · exact hmarks
    · exact hmarks.remove hremove
  exact hkept.of_same_marks rfl fun hcontains => contains_attached.trans hcontains

theorem cloneAlone {copy : NodeId} (hmarks : document.HasOwnMarks)
    (hclone : document.cloneAlone id = .ok (after, copy)) : after.HasOwnMarks := by
  obtain ⟨data, _, rfl, _⟩ := cloneAlone_eq_ok_iff.1 hclone
  exact (hmarks.create data).mark (.inr ((contains_create data).2 (.inl rfl)))

theorem clone {copy : NodeId} {deep : Bool} (hmarks : document.HasOwnMarks)
    (hclone : (document.clone id deep).run = some (.ok (after, copy))) : after.HasOwnMarks := by
  cases deep with
  | false => exact hmarks.cloneAlone (Option.some.inj hclone)
  | true =>
    exact cloneWithin_preserves (fun hbefore => hbefore.cloneAlone)
      (fun hbefore => hbefore.append) hmarks hclone

end HasOwnMarks

/-! ## Operations -/

/-- A use of an operation that may change a document. -/
inductive Operation
  | createElement (name : String) (attributes : List (String × String))
  | createPlain (data : NodeData) (hplain : data.isPlain = true)
  | append (parent child : NodeId)
  | remove (id : NodeId)
  | setAttribute (id : NodeId) (name value : String)
  | removeAttribute (id : NodeId) (name : String)
  | setText (id : NodeId) (content : String)
  | clone (id : NodeId) (deep : Bool)
  | bypass (id : NodeId) (includingChildren : Bool)
  | propagateTrust (source target : NodeId)

namespace Operation

variable {operation : Operation}

/-- What an operation makes of a document, if it ends. -/
def outcome? (document : Document) : Operation → Option (Except DocumentError Document)
  | createElement name attributes =>
    some (.ok (document.create (elementData name attributes)).1)
  | createPlain data _ => some (.ok (document.create data).1)
  | append parent child => some (document.append parent child)
  | remove id => some (document.remove id)
  | setAttribute id name value => some (document.setAttribute id name value)
  | removeAttribute id name => some ((document.removeAttribute id name).map Prod.fst)
  | setText id content => some (document.setText id content)
  | clone id deep => (document.clone id deep).run.map (Except.map Prod.fst)
  | bypass id includingChildren => some (document.bypass id includingChildren)
  | propagateTrust source target => some (.ok (document.propagateTrust source target))

/-- The document after an operation, which is the one before if the operation fails. -/
def apply (document : Document) (operation : Operation) : Option Document :=
  (operation.outcome? document).map fun outcome =>
    match outcome with
    | .ok after => after
    | .error _ => document

/-- A deep copy is only made of a node that is not below itself. -/
def CopiesTree (document : Document) : Operation → Prop
  | clone id true => ¬ document.IsBelow id id
  | _ => True

/-- No node of the document is put below itself. -/
def AppendsApart (document : Document) : Operation → Prop
  | append parent child => document.contains child = true → ¬ document.IsWithin child parent
  | _ => True

/-- A mark is only passed on to a node of the document. -/
def MarksNode (document : Document) : Operation → Prop
  | propagateTrust source target =>
    document.trust source = .none ∨ document.contains target = true
  | _ => True

/-- What successful operations keep is kept by all. -/
theorem apply_keeps {P : Document → Prop} (hbefore : P document)
    (hsuccess : ∀ {after : Document}, operation.outcome? document = some (.ok after) → P after)
    (happly : operation.apply document = some after) : P after := by
  obtain ⟨outcome, houtcome, rfl⟩ := Option.map_eq_some_iff.1 happly
  cases outcome with
  | ok after => exact hsuccess houtcome
  | error cause => exact hbefore

theorem exists_of_map_fst {α : Type} {result : Except DocumentError (Document × α)}
    (hresult : result.map Prod.fst = .ok after) : ∃ extra, result = .ok (after, extra) := by
  cases result with
  | error cause => contradiction
  | ok value =>
    obtain rfl := Except.ok.inj hresult
    exact ⟨value.2, rfl⟩

theorem exists_of_clone {deep : Bool}
    (houtcome : (clone id deep).outcome? document = some (.ok after)) :
    ∃ copy, (document.clone id deep).run = some (.ok (after, copy)) := by
  obtain ⟨result, hresult, hfirst⟩ := Option.map_eq_some_iff.1 houtcome
  obtain ⟨copy, rfl⟩ := exists_of_map_fst hfirst
  exact ⟨copy, hresult⟩

theorem apply_reachable (hreachable : document.Reachable)
    (happly : operation.apply document = some after) : after.Reachable := by
  refine apply_keeps hreachable (fun {after} houtcome => ?_) happly
  cases operation with
  | createElement name attributes =>
    obtain rfl := Except.ok.inj (Option.some.inj houtcome)
    exact hreachable.createElement name attributes
  | createPlain data hplain =>
    obtain rfl := Except.ok.inj (Option.some.inj houtcome)
    exact hreachable.createPlain hplain
  | append parent child => exact hreachable.append (Option.some.inj houtcome)
  | remove id => exact hreachable.remove (Option.some.inj houtcome)
  | setAttribute id name value => exact hreachable.setAttribute (Option.some.inj houtcome)
  | removeAttribute id name =>
    obtain ⟨found, hremove⟩ := exists_of_map_fst (Option.some.inj houtcome)
    exact hreachable.removeAttribute hremove
  | setText id content => exact hreachable.setText (Option.some.inj houtcome)
  | clone id deep =>
    obtain ⟨copy, hclone⟩ := exists_of_clone houtcome
    exact hreachable.clone hclone
  | bypass id includingChildren => exact hreachable.bypass (Option.some.inj houtcome)
  | propagateTrust source target =>
    obtain rfl := Except.ok.inj (Option.some.inj houtcome)
    exact hreachable.propagateTrust source target

/-- Every operation ends, unless it copies what is below itself. -/
theorem exists_apply (hreachable : document.Reachable) (hcopies : operation.CopiesTree document) :
    ∃ after, operation.apply document = some after := by
  cases operation with
  | clone id deep =>
    cases hcontains : document.contains id with
    | false => exact ⟨document, by rw [apply, outcome?, clone_of_missing hcontains]; rfl⟩
    | true =>
      have hacyclic : deep = true → ¬ document.IsBelow id id := by
        rintro rfl
        exact hcopies
      obtain ⟨after, _, copies, _, _, hclone, _⟩ :=
        clone_isCopy hreachable.consistent hcontains hacyclic
      exact ⟨after, by rw [apply, outcome?, hclone]; rfl⟩
  | _ => exact ⟨_, rfl⟩

theorem apply_isAcyclic (hreachable : document.Reachable) (hacyclic : document.IsAcyclic)
    (hapart : operation.AppendsApart document)
    (happly : operation.apply document = some after) : after.IsAcyclic := by
  refine apply_keeps hacyclic (fun {after} houtcome => ?_) happly
  cases operation with
  | createElement name attributes =>
    obtain rfl := Except.ok.inj (Option.some.inj houtcome)
    exact hacyclic.create _
  | createPlain data hplain =>
    obtain rfl := Except.ok.inj (Option.some.inj houtcome)
    exact hacyclic.create _
  | append parent child =>
    have happend := Option.some.inj houtcome
    exact hacyclic.append (hapart (append_eq_ok_iff.1 happend).2.1) happend
  | remove id => exact hacyclic.remove (Option.some.inj houtcome)
  | setAttribute id name value => exact hacyclic.modifyAttributes (Option.some.inj houtcome)
  | removeAttribute id name =>
    obtain ⟨found, hremove⟩ := exists_of_map_fst (Option.some.inj houtcome)
    obtain ⟨change, hmodify⟩ := removeAttribute_eq_ok hremove
    exact hacyclic.modifyAttributes hmodify
  | setText id content =>
    obtain ⟨hcontains, rfl⟩ := setText_eq_ok_iff.1 (Option.some.inj houtcome)
    exact hacyclic.withText content hcontains
  | clone id deep =>
    obtain ⟨copy, hclone⟩ := exists_of_clone houtcome
    exact hacyclic.clone hreachable.consistent hclone
  | bypass id includingChildren =>
    obtain ⟨_, rfl⟩ := bypass_eq_ok_iff.1 (Option.some.inj houtcome)
    exact hacyclic.mark _ _
  | propagateTrust source target =>
    obtain rfl := Except.ok.inj (Option.some.inj houtcome)
    exact hacyclic.mark _ _

theorem apply_hasOwnMarks (hmarks : document.HasOwnMarks) (hallowed : operation.MarksNode document)
    (happly : operation.apply document = some after) : after.HasOwnMarks := by
  refine apply_keeps hmarks (fun {after} houtcome => ?_) happly
  cases operation with
  | createElement name attributes =>
    obtain rfl := Except.ok.inj (Option.some.inj houtcome)
    exact hmarks.create _
  | createPlain data hplain =>
    obtain rfl := Except.ok.inj (Option.some.inj houtcome)
    exact hmarks.create _
  | append parent child => exact hmarks.append (Option.some.inj houtcome)
  | remove id => exact hmarks.remove (Option.some.inj houtcome)
  | setAttribute id name value => exact hmarks.modifyAttributes (Option.some.inj houtcome)
  | removeAttribute id name =>
    obtain ⟨found, hremove⟩ := exists_of_map_fst (Option.some.inj houtcome)
    obtain ⟨change, hmodify⟩ := removeAttribute_eq_ok hremove
    exact hmarks.modifyAttributes hmodify
  | setText id content =>
    obtain ⟨_, rfl⟩ := setText_eq_ok_iff.1 (Option.some.inj houtcome)
    exact hmarks.of_same_marks (marks_withText content)
      fun hcontains => (contains_withText content).2 (.inr hcontains)
  | clone id deep =>
    obtain ⟨copy, hclone⟩ := exists_of_clone houtcome
    exact hmarks.clone hclone
  | bypass id includingChildren =>
    obtain ⟨helement, rfl⟩ := bypass_eq_ok_iff.1 (Option.some.inj houtcome)
    exact hmarks.mark (.inr (contains_of_isElement helement))
  | propagateTrust source target =>
    obtain rfl := Except.ok.inj (Option.some.inj houtcome)
    exact hmarks.mark hallowed

end Operation

/-! ## Sequences of operations -/

def run (document : Document) (operations : List Operation) : Option Document :=
  operations.foldlM Operation.apply document

/-- Whether each operation is applied to a document for which the condition holds. -/
def Throughout (condition : Document → Operation → Prop) : Document → List Operation → Prop
  | _, [] => True
  | document, operation :: operations =>
    condition document operation ∧
      ∀ after, operation.apply document = some after → Throughout condition after operations

variable {condition : Document → Operation → Prop} {operations : List Operation}

theorem exists_run (hreachable : document.Reachable)
    (hcopies : Throughout Operation.CopiesTree document operations) :
    ∃ after, run document operations = some after ∧ after.Reachable := by
  induction operations generalizing document with
  | nil => exact ⟨document, rfl, hreachable⟩
  | cons operation operations ih =>
    obtain ⟨hfirst, hrest⟩ := hcopies
    obtain ⟨middle, happly⟩ := Operation.exists_apply hreachable hfirst
    obtain ⟨after, hrun, hafter⟩ :=
      ih (Operation.apply_reachable hreachable happly) (hrest middle happly)
    refine ⟨after, ?_, hafter⟩
    rw [run, List.foldlM_cons, happly]
    exact hrun

/-- What every operation keeps under a condition is kept by all of them if it holds
throughout. -/
theorem run_keeps {P : Document → Prop}
    (hstep : ∀ {before after : Document} {operation : Operation}, before.Reachable → P before →
      condition before operation → operation.apply before = some after → P after)
    (hreachable : document.Reachable) (hbefore : P document)
    (hthroughout : Throughout condition document operations)
    (hrun : run document operations = some after) : P after := by
  induction operations generalizing document with
  | nil =>
    obtain rfl := Option.some.inj hrun
    exact hbefore
  | cons operation operations ih =>
    obtain ⟨hfirst, hrest⟩ := hthroughout
    rw [run, List.foldlM_cons] at hrun
    obtain ⟨middle, happly, hrun⟩ := Option.bind_eq_some_iff.1 hrun
    exact ih (Operation.apply_reachable hreachable happly) (hstep hreachable hbefore hfirst happly)
      (hrest middle happly) hrun

/-- A node that is not below itself can be read, and so can a number that was not given out. -/
theorem exists_text_and_html (hconsistent : document.Consistent)
    (hacyclic : ¬ document.IsBelow id id) :
    (∃ html, document.nodeHtml? id = some html) ∧ ∃ text, document.text? id = some text := by
  cases hcontains : document.contains id with
  | true =>
    obtain ⟨shape, rfl, hshape⟩ := exists_hasShape hconsistent hcontains hacyclic
    have hnodup := hshape.nodup_labels hconsistent
    exact ⟨⟨_, hshape.nodeHtml? hnodup⟩, ⟨_, hshape.text? hnodup⟩⟩
  | false =>
    have hmissing := node?_eq_none_iff.2 hcontains
    constructor
    · rw [nodeHtml?, htmlWithin, data?, hmissing]
      exact ⟨"", rfl⟩
    · rw [text?, textWithin, data?, children, hmissing]
      exact ⟨_, rfl⟩

theorem exists_clone (hconsistent : document.Consistent) (hacyclic : ¬ document.IsBelow id id) :
    ∃ outcome, (document.clone id true).run = some outcome := by
  cases hcontains : document.contains id with
  | true =>
    obtain ⟨after, _, copies, _, _, hclone, _⟩ :=
      clone_isCopy hconsistent hcontains fun _ => hacyclic
    exact ⟨_, hclone⟩
  | false => exact ⟨_, clone_of_missing hcontains true⟩

/-- Operations on the empty document, with any numbers, end if no node below itself is copied.
They leave a document in which a node is listed among the children of another one, and then
once, exactly if that one is its parent, and every link leads to a node.  Every mark belongs to
a node if none was passed on to another number.  If no node was put below itself, then no node
is below itself, and all can be written as HTML, read as text and copied. -/
theorem run_leaves_consistent (operations : List Operation)
    (hcopies : Throughout Operation.CopiesTree empty operations) :
    ∃ document, run empty operations = some document ∧
      (∀ parent child,
        child ∈ document.children parent ↔ document.parent? child = some parent) ∧
      (∀ parent, (document.children parent).Nodup) ∧
      (∀ parent child, document.parent? child = some parent →
        document.contains parent = true ∧ document.contains child = true) ∧
      (Throughout Operation.MarksNode empty operations →
        ∀ entry ∈ document.marks, document.contains entry.1 = true) ∧
      (Throughout Operation.AppendsApart empty operations →
        (∀ id, ¬ document.IsBelow id id) ∧
        ∀ id, (∃ html, document.nodeHtml? id = some html) ∧
          (∃ text, document.text? id = some text) ∧
          ∃ outcome, (document.clone id true).run = some outcome) := by
  obtain ⟨document, hrun, hreachable⟩ := exists_run .empty hcopies
  have hconsistent := hreachable.consistent
  refine ⟨document, hrun, fun _ _ => hconsistent.mem_children_iff, hconsistent.nodup_children,
    ?_, ?_, ?_⟩
  · intro parent child hparent
    exact ⟨contains_of_mem_children (hconsistent.mem_children_iff.2 hparent),
      contains_of_parent? hparent⟩
  · intro hthroughout
    refine run_keeps (P := HasOwnMarks) (fun _ hmarks hallowed happly => ?_) .empty
      (fun entry hentry => nomatch hentry) hthroughout hrun
    exact Operation.apply_hasOwnMarks hmarks hallowed happly
  · intro hthroughout
    have hacyclic : document.IsAcyclic := by
      refine run_keeps (fun hbefore hacyclic hapart happly => ?_) .empty .empty hthroughout hrun
      exact Operation.apply_isAcyclic hbefore hacyclic hapart happly
    refine ⟨hacyclic, fun id => ?_⟩
    obtain ⟨hhtml, htext⟩ := exists_text_and_html hconsistent (hacyclic id)
    exact ⟨hhtml, htext, exists_clone hconsistent (hacyclic id)⟩

/-- An element is put under the root and copied. -/
def copying : List Operation :=
  [.createElement "b" [], .append root ⟨1⟩, .clone ⟨1⟩ true]

theorem not_isBelow_of_children {other : NodeId} (hchildren : document.children id = []) :
    ¬ document.IsBelow id other := by
  intro hbelow
  obtain ⟨child, hlink, _⟩ := Relation.TransGen.head'_iff.1 hbelow
  rw [hchildren] at hlink
  contradiction

theorem run_leaves_consistent_copying :
    Throughout Operation.CopiesTree empty copying ∧
      ∃ document, run empty copying = some document ∧
        ∀ id, ¬ document.IsBelow id id ∧ ∃ html, document.nodeHtml? id = some html := by
  have hcopies : Throughout Operation.CopiesTree empty copying := by
    refine ⟨trivial, fun first hfirst => ⟨trivial, fun second hsecond => ⟨?_, fun _ _ => trivial⟩⟩⟩
    obtain rfl := Option.some.inj hfirst
    obtain rfl := Option.some.inj hsecond
    exact not_isBelow_of_children rfl
  have happends : Throughout Operation.AppendsApart empty copying := by
    refine ⟨trivial, fun first hfirst => ⟨?_, fun _ _ => ⟨trivial, fun _ _ => trivial⟩⟩⟩
    intro _ hwithin
    obtain rfl := Option.some.inj hfirst
    obtain heq | hbelow := Relation.reflTransGen_iff_eq_or_transGen.1 hwithin
    · contradiction
    · exact not_isBelow_of_children rfl hbelow
  obtain ⟨document, hrun, _, _, _, _, hends⟩ := run_leaves_consistent copying hcopies
  obtain ⟨hacyclic, hreads⟩ := hends happends
  exact ⟨hcopies, document, hrun, fun id => ⟨hacyclic id, (hreads id).1⟩⟩

/-- A mark can be passed on to a number that no node has. -/
theorem run_leaves_stray_mark :
    let operations : List Operation :=
      [.createElement "b" [], .bypass ⟨1⟩ true, .propagateTrust ⟨1⟩ ⟨7⟩]
    Throughout Operation.CopiesTree empty operations ∧
      ∃ document, run empty operations = some document ∧
        ∃ entry ∈ document.marks, document.contains entry.1 = false := by
  refine ⟨⟨trivial, fun _ _ => ⟨trivial, fun _ _ => ⟨trivial, fun _ _ => trivial⟩⟩⟩, ?_⟩
  exact ⟨_, rfl, (⟨7⟩, .all), List.mem_cons_self, rfl⟩

end GadgetGuard.Document
