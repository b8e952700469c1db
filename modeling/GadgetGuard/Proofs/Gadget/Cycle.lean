import GadgetGuard.Proofs.Document.Collected
import GadgetGuard.Proofs.Gadget.Stable
import GadgetGuard.Proofs.Gadget.Staying
/-!
# Walks over nodes below themselves

Nothing keeps the root from being put below one of its own descendants.  The walk over such a
document is bounded by its depth alone: a visit that stops without exceeding the depth has ended,
and it cannot have ended if the node is below itself over nodes that are all entered, since no
visit takes a link of such a cycle away.  The text of a style has no such bound, so the walk must
not come to a style whose text has no end.
-/

namespace GadgetGuard

open GadgetGuard.Text

namespace Sanitizer

variable {sanitizer : Sanitizer} {document before mid after : Document} {id parent child : NodeId}
variable {levels : Nat}

/-! ## Cycles that are entered -/

/-- Whether a node is below itself over nodes that are all entered. -/
def Circles (sanitizer : Sanitizer) (document : Document) (id : NodeId) : Prop :=
  Relation.TransGen (sanitizer.Goes document) id id

namespace Circles

theorem enters (hcircles : sanitizer.Circles document id) :
    sanitizer.Enters (document.item id) := by
  obtain ⟨_, ⟨henters, _⟩, _⟩ := Relation.TransGen.head'_iff.1 hcircles
  exact henters

/-- The walk goes on to a child that circles as well. -/
theorem exists_child (hcircles : sanitizer.Circles document id) :
    ∃ child ∈ document.children id, sanitizer.Circles document child := by
  obtain ⟨child, hfirst, hrest⟩ := Relation.TransGen.head'_iff.1 hcircles
  exact ⟨child, hfirst.2, .tail' hrest hfirst⟩

/-- A node still circles if the links between nodes that are entered are left. -/
theorem thinned (hcircles : sanitizer.Circles before id)
    (hthinned : sanitizer.Thinned before after)
    (hlinks : ∀ {parent child}, child ∈ before.children parent →
      sanitizer.Enters (before.item parent) → sanitizer.Enters (before.item child) →
      child ∈ after.children parent) : sanitizer.Circles after id := by
  have hlink : ∀ {parent child}, sanitizer.Goes before parent child →
      sanitizer.Enters (before.item child) → sanitizer.Goes after parent child := by
    rintro parent child ⟨henters, hchild⟩ henters'
    have hstored := Document.contains_of_mem_children hchild
    exact ⟨(hthinned.fate_alike hstored).1.2 henters, hlinks hchild henters henters'⟩
  have hways : ∀ {target}, Relation.TransGen (sanitizer.Goes before) id target →
      sanitizer.Enters (before.item target) →
        Relation.TransGen (sanitizer.Goes after) id target := by
    intro target hway
    induction hway with
    | single hgoes => exact fun henters => .single (hlink hgoes henters)
    | tail _ hgoes ih => exact fun henters => .tail (ih hgoes.1) (hlink hgoes henters)
  exact hways hcircles hcircles.enters

/-- No visit takes a link of the cycle away. -/
theorem visit (hcircles : sanitizer.Circles before id) (hconsistent : before.Consistent)
    (levels : Nat) (other : NodeId) :
    sanitizer.Circles (sanitizer.visit levels before other).value.document id := by
  apply hcircles.thinned (visit_thinned sanitizer levels other hconsistent)
  intro parent child hchild henters henters'
  exact leaves_links sanitizer levels before other parent child hconsistent hchild
    (not_restyles_of_enters henters) fun _ => not_drop_of_enters henters'

end Circles

theorem visitEach_of_circles {ids : List NodeId}
    (hvisits : ∀ document : Document, document.Consistent → sanitizer.Circles document id →
      (sanitizer.visit levels document id).value.stop ≠ none)
    (hconsistent : before.Consistent) (hcircles : sanitizer.Circles before id) (hid : id ∈ ids) :
    (visitEach (sanitizer.visit levels) ids before).value.stop ≠ none := by
  induction ids generalizing before with
  | nil => contradiction
  | cons first later ih =>
    have hthinned := visit_thinned sanitizer levels first hconsistent
    have hstays := hcircles.visit hconsistent levels first
    have hstops : first = id → (sanitizer.visit levels before first).value.stop ≠ none := by
      rintro rfl
      exact hvisits before hconsistent hcircles
    rw [visitEach_cons_value]
    generalize (sanitizer.visit levels before first).value = progress
      at hthinned hstays hstops ⊢
    obtain ⟨mid, _ | stop⟩ := progress
    · refine ih hthinned.consistent hstays ((List.mem_cons.1 hid).resolve_left ?_)
      exact fun hsame => hstops hsame.symm rfl
    · exact fun hstop => nomatch hstop

/-- The visit of a node that circles never comes to its end. -/
theorem visit_of_circles (hconsistent : before.Consistent)
    (hcircles : sanitizer.Circles before id) :
    (sanitizer.visit levels before id).value.stop ≠ none := by
  induction levels generalizing before id with
  | zero => exact fun hstop => nomatch hstop
  | succ levels ih =>
    obtain ⟨child, hchild, hcircles'⟩ := hcircles.exists_child
    have hcontains := Document.contains_of_mem_children hchild
    obtain ⟨kept, hfate⟩ := enters_iff.1 hcircles.enters
    have hstart := Thinned.enter hconsistent hcontains hfate
    rw [visit_value hcontains, hfate, outcome]
    refine visitEach_of_circles (fun document => ih) hstart.consistent ?_ hchild
    apply hcircles'.thinned hstart
    intro parent child hlisted _ _
    rw [Document.children_withData]
    exact hlisted

/-! ## Walks that end -/

/-- Whether no style that a walk of so many levels comes to from a node is below itself over nodes
that its text is collected from. -/
def Calm (sanitizer : Sanitizer) (document : Document) : Nat → NodeId → Prop
  | 0, _ => True
  | levels + 1, id =>
    (sanitizer.Restyles (document.item id) → ¬ Relation.TransGen document.Collects id id) ∧
      (sanitizer.Enters (document.item id) →
        ∀ child ∈ document.children id, Calm sanitizer document levels child)

/-- The visit of a style whose text has no end has none. -/
theorem visit_of_endless (hcontains : document.contains id = true)
    (hrestyles : sanitizer.Restyles (document.item id))
    (hcycle : Relation.TransGen document.Collects id id) :
    (sanitizer.visit (levels + 1) document id).value.stop = some .endless := by
  obtain ⟨kept, hfate⟩ := restyles_iff.1 hrestyles
  rw [visit_value hcontains, hfate, outcome, Document.text?,
    Document.textWithin_eq_none_of_cycle hcycle]

/-- No text becomes another node, and no other node a text. -/
theorem Thinned.ownText? (hthinned : sanitizer.Thinned before after)
    (hcontains : before.contains id = true) : after.ownText? id = before.ownText? id := by
  have hdata := Document.data?_of_contains hcontains
  obtain ⟨filtered, hfiltered, hfilters⟩ := hthinned.data hdata
  rw [Document.ownText?, Document.ownText?, hdata, hfiltered]
  rcases eq_or_element_of_filters hfilters with rfl | ⟨_, _, _, hfirst, hlast⟩
  · rfl
  · rw [hfirst, hlast]

namespace Calm

theorem of_leaf (hleaf : document.children id = []) (levels : Nat) :
    sanitizer.Calm document levels id := by
  cases levels with
  | zero => trivial
  | succ levels =>
    constructor
    · intro _ hcycle
      obtain ⟨child, ⟨_, hchild⟩, _⟩ := Relation.TransGen.head'_iff.1 hcycle
      rw [hleaf] at hchild
      contradiction
    · intro _ child hchild
      rw [hleaf] at hchild
      contradiction

/-- It is enough that no style to which the walk comes at any depth has a text without an end. -/
theorem of_forall (hstyles : ∀ style, Relation.ReflTransGen (sanitizer.Goes document) id style →
      sanitizer.Restyles (document.item style) →
      ¬ Relation.TransGen document.Collects style style) (levels : Nat) :
    sanitizer.Calm document levels id := by
  induction levels generalizing id with
  | zero => trivial
  | succ levels ih =>
    refine ⟨hstyles id .refl, fun henters child hchild => ih fun style hway => ?_⟩
    exact hstyles style (.head ⟨henters, hchild⟩ hway)

theorem thinned (hcalm : sanitizer.Calm before levels id) (hconsistent : before.Consistent)
    (hthinned : sanitizer.Thinned before after) (hcontains : before.contains id = true) :
    sanitizer.Calm after levels id := by
  induction levels generalizing id with
  | zero => trivial
  | succ levels ih =>
    obtain ⟨hstyle, hbelow⟩ := hcalm
    constructor
    · intro hrestyles hcycle
      refine hstyle ((hthinned.fate_alike hcontains).2.1.1 hrestyles) ?_
      exact hthinned.cycle_before
        (fun hother hnone => (hthinned.ownText? hother).symm.trans hnone) hcontains hcycle
    · intro henters child hchild
      rcases hthinned.children hchild with hlisted | ⟨hnew, _⟩
      · exact ih (hbelow ((hthinned.fate_alike hcontains).1.1 henters) child hlisted)
          (hconsistent.contains_child hlisted)
      · exact of_leaf (hthinned.new hnew).1 levels

end Calm

/-- A walk ends, or it stops at the deepest level. -/
def EndsOrTooDeep (stop : Option Stop) : Prop :=
  stop = none ∨ stop = some (.failed (.depthExceeded maxDepth))

/-- Whether every visit of so many levels ends or exceeds the depth. -/
def VisitsEnd (sanitizer : Sanitizer) (levels : Nat) : Prop :=
  ∀ (document : Document) (id : NodeId), document.Consistent → document.contains id = true →
    (sanitizer.fate (document.item id) = .drop → ∃ parent, id ∈ document.children parent) →
    sanitizer.Calm document levels id →
    EndsOrTooDeep (sanitizer.visit levels document id).value.stop

/-- A visit that has ended leaves the siblings of its node where they are. -/
theorem sibling_stays {sibling : NodeId} (hconsistent : before.Consistent)
    (henters : sanitizer.Enters (before.item id)) (hchild : child ∈ before.children id)
    (hsibling : sibling ∈ before.children id) (hne : sibling ≠ child)
    (hstop : (sanitizer.visit levels before child).value.stop = none) :
    sibling ∈ (sanitizer.visit levels before child).value.document.children id := by
  apply leaves_links sanitizer levels before child id sibling hconsistent hsibling
    (not_restyles_of_enters henters)
  -- the walk could only come to the sibling by its parent, and so once more to the child
  intro hway
  rcases Relation.ReflTransGen.cases_tail hway with hsame | ⟨above, hupper, henters', hlisted⟩
  · exact absurd hsame hne
  · obtain rfl := hconsistent.parent_unique hlisted hsibling
    exact absurd hstop (visit_of_circles hconsistent (.tail' hupper ⟨henters, hchild⟩))

theorem visitEach_ends {ids : List NodeId} (hvisits : sanitizer.VisitsEnd levels)
    (hconsistent : before.Consistent) (henters : sanitizer.Enters (before.item id))
    (hids : ∀ child ∈ ids, child ∈ before.children id) (hnodup : ids.Nodup)
    (hcalm : sanitizer.Calm before (levels + 1) id) :
    EndsOrTooDeep (visitEach (sanitizer.visit levels) ids before).value.stop := by
  induction ids generalizing before with
  | nil => exact .inl rfl
  | cons first later ih =>
    obtain ⟨hfirst, hlater⟩ := List.forall_mem_cons.1 hids
    obtain ⟨hnew, hnodup'⟩ := List.nodup_cons.1 hnodup
    have hcontains := Document.contains_of_mem_children hfirst
    have hthinned := visit_thinned sanitizer levels first hconsistent
    have hends := hvisits before first hconsistent (hconsistent.contains_child hfirst)
      (fun _ => ⟨id, hfirst⟩) (hcalm.2 henters first hfirst)
    have hstays : (sanitizer.visit levels before first).value.stop = none → ∀ child ∈ later,
        child ∈ (sanitizer.visit levels before first).value.document.children id := by
      intro hstop child hchild
      refine sibling_stays hconsistent henters hfirst (hlater child hchild) ?_ hstop
      rintro rfl
      exact hnew hchild
    rw [visitEach_cons_value]
    generalize (sanitizer.visit levels before first).value = progress at hthinned hends hstays ⊢
    obtain ⟨mid, _ | stop⟩ := progress
    · exact ih hthinned.consistent ((hthinned.fate_alike hcontains).1.2 henters) (hstays rfl)
        hnodup' (hcalm.thinned hconsistent hthinned hcontains)
    · exact hends

/-- The visit of a new text ends if there is a level left for it. -/
theorem visit_newText_ends {content : String} {data : NodeData} (hne : id ≠ before.nextId)
    (levels : Nat) : EndsOrTooDeep (visitEach (sanitizer.visit levels) [before.nextId]
      ((before.withText id content).withData id data)).value.stop := by
  have hcontains : ((before.withText id content).withData id data).contains before.nextId =
      true := by
    rw [Document.contains_withData, Document.contains_withText]
    exact .inl rfl
  rw [visitEach_cons_value]
  cases levels with
  | zero => exact .inr rfl
  | succ levels =>
    rw [visit_value hcontains, item_newText hne]
    exact .inl rfl

/-- If every stylesheet is accepted, a visit ends or exceeds the depth. -/
theorem visits_end (hcleans : ∀ css, sanitizer.Cleans css) (levels : Nat) :
    sanitizer.VisitsEnd levels := by
  induction levels with
  | zero => exact fun document id _ _ _ _ => .inr rfl
  | succ levels ih =>
    intro document id hconsistent hcontains hlisted hcalm
    rw [visit_value hcontains]
    cases hfate : sanitizer.fate (document.item id) with
    | keep => exact .inl rfl
    | drop =>
      obtain ⟨parent, hchild⟩ := hlisted hfate
      rw [outcome, Document.remove_eq_ok_iff.2 ⟨parent, hconsistent.mem_children_iff.1 hchild,
        Document.contains_of_mem_children hchild, rfl⟩]
      exact .inl rfl
    | enter kept =>
      have henters : sanitizer.Enters (document.item id) := enters_iff.2 ⟨kept, hfate⟩
      have hstart := Thinned.enter hconsistent hcontains hfate
      refine visitEach_ends ih hstart.consistent ((hstart.fate_alike hcontains).1.2 henters) ?_
        (hconsistent.nodup_children id) (hcalm.thinned hconsistent hstart hcontains)
      intro child hchild
      rw [Document.children_withData]
      exact hchild
    | restyle kept =>
      have hrestyles : sanitizer.Restyles (document.item id) := restyles_iff.2 ⟨kept, hfate⟩
      obtain ⟨css, htext⟩ :=
        (Document.exists_text_iff hconsistent hcontains).2 (hcalm.1 hrestyles)
      obtain ⟨cleaned, hcleaned⟩ := hcleans css
      rw [outcome, htext]
      dsimp only
      rw [hcleaned]
      exact visit_newText_ends (Document.ne_nextId_of_contains hcontains) levels

theorem sanitize_root_ends_or_too_deep (hcleans : ∀ css, sanitizer.Cleans css)
    (hconsistent : document.Consistent)
    (hcalm : sanitizer.Calm document (maxDepth + 1) Document.root) :
    EndsOrTooDeep (sanitizer.sanitize document Document.root).value.stop := by
  refine visits_end hcleans _ document Document.root hconsistent hconsistent.contains_root ?_ hcalm
  rw [fate_root hconsistent]
  exact fun hdrop => nomatch hdrop

/-! ## Cycles through the start of the walk -/

/-- If all nodes on the cycle through a node are entered, the node circles. -/
theorem circles_of_cycle (hcycle : document.IsBelow id id)
    (henters : ∀ other, document.IsBelow id other → document.IsBelow other id →
      sanitizer.Enters (document.item other)) : sanitizer.Circles document id := by
  have hways : ∀ {target}, document.IsBelow id target → document.IsWithin target id →
      Relation.TransGen (sanitizer.Goes document) id target := by
    intro target hbelow
    induction hbelow with
    | single hchild => exact fun _ => .single ⟨henters id hcycle hcycle, hchild⟩
    | tail hbelow hchild ih =>
      intro hwithin
      have hup := Relation.TransGen.head' hchild hwithin
      exact .tail (ih hup.to_reflTransGen) ⟨henters _ hbelow hup, hchild⟩
  exact hways hcycle .refl

/-- There is no other cycle below a node on a cycle, so no style there is below itself. -/
theorem calm_of_cycle (hconsistent : document.Consistent)
    (henters : ∀ other, document.IsBelow id other → document.IsBelow other id →
      sanitizer.Enters (document.item other)) (levels : Nat) :
    sanitizer.Calm document levels id := by
  refine .of_forall (fun style hway hrestyles hcollected => ?_) levels
  have hbelow : document.IsBelow style style :=
    Relation.TransGen.mono (fun _ _ hcollects => hcollects.2) _ _ hcollected
  have hwithin : document.IsWithin id style :=
    Relation.ReflTransGen.mono (fun _ _ hgoes => hgoes.2) _ _ hway
  have hup : document.IsWithin style id :=
    Document.back_of_cycle hconsistent (fun hchild => hchild) hwithin hbelow
  exact not_restyles_of_enters (henters style (.trans_right hwithin hbelow)
    (hbelow.trans_left hup)) hrestyles

end Sanitizer

namespace ContentGuard

/-- With the bundled stylesheet sanitizer every walk over a document ends, whatever is below
itself, unless it comes to an unmarked style whose text has no end: either it has gone through the
document, or it has exceeded the depth and nothing is left.  If the root is below itself and all
nodes on that cycle are entered, which are elements that are exempt themselves or are allowed and
no styles, the depth is exceeded. -/
theorem apply_ends (guard : ContentGuard) (gadget : Gadget) (content : Content)
    (document : Document) (hdocument : content.document = some document)
    (hreachable : document.Reachable) (hstyles : guard.styles = Style.conservative)
    (hwants : gadget.parameter? "sanitize" = some "1") :
    ((guard.sanitizer gadget).Calm document (maxDepth + 1) Document.root →
      ∃ after, (guard.apply gadget content).value = some after ∧
        (((guard.sanitizer gadget).sanitize document Document.root).value.stop = none ∧
            after.document =
              some ((guard.sanitizer gadget).sanitize document Document.root).value.document ∨
          ((guard.sanitizer gadget).sanitize document Document.root).value.stop =
              some (.failed (.depthExceeded maxDepth)) ∧
            after.document = none ∧ after.html? = some "")) ∧
    (document.IsBelow Document.root Document.root →
      (∀ id, document.IsBelow Document.root id → document.IsBelow id Document.root →
        (guard.sanitizer gadget).Enters (document.item id)) →
      ((guard.sanitizer gadget).sanitize document Document.root).value.stop =
          some (.failed (.depthExceeded maxDepth)) ∧
        ∃ after, (guard.apply gadget content).value = some after ∧ after.document = none ∧
          after.html? = some "") := by
  have hconsistent := hreachable.consistent
  have hends : ∀ hcalm : (guard.sanitizer gadget).Calm document (maxDepth + 1) Document.root,
      Sanitizer.EndsOrTooDeep _ := fun hcalm =>
    Sanitizer.sanitize_root_ends_or_too_deep (cleans_conservative hstyles) hconsistent hcalm
  have hvalue : (guard.sanitize gadget content).value = _ :=
    sanitize_value_of_document hdocument
  have hemptied : ((guard.sanitizer gadget).sanitize document Document.root).value.stop =
      some (.failed (.depthExceeded maxDepth)) →
      ∃ after, (guard.apply gadget content).value = some after ∧ after.document = none ∧
        after.html? = some "" := by
    intro hstop
    rw [hstop] at hvalue
    exact ⟨_, apply_value_of_stopped hwants hvalue (fun hendless => nomatch hendless), rfl, rfl⟩
  constructor
  · intro hcalm
    rcases hends hcalm with hstop | hstop
    · rw [hstop] at hvalue
      exact ⟨_, apply_value_of_ended hwants hvalue, .inl ⟨hstop, rfl⟩⟩
    · obtain ⟨after, hafter, hempty⟩ := hemptied hstop
      exact ⟨after, hafter, .inr ⟨hstop, hempty⟩⟩
  · intro hcycle henters
    have hstop := (hends (Sanitizer.calm_of_cycle hconsistent henters _)).resolve_left
      (Sanitizer.visit_of_circles hconsistent (Sanitizer.circles_of_cycle hcycle henters))
    exact ⟨hstop, hemptied hstop⟩

end ContentGuard

/-- A page whose root is below its only element. -/
def Document.circling : Document :=
  { nodes := #[⟨.document, some ⟨1⟩, [⟨1⟩]⟩, ⟨.element "div" [], some ⟨0⟩, [⟨0⟩]⟩], marks := [] }

theorem Document.reachable_circling : Document.circling.Reachable := by
  have helement := Document.Reachable.empty.createElement "div" []
  have hfirst : Document.Reachable _ :=
    helement.append (show Document.append _ ⟨0⟩ ⟨1⟩ = .ok _ from rfl)
  have hsecond : Document.Reachable _ :=
    hfirst.append (show Document.append _ ⟨1⟩ ⟨0⟩ = .ok _ from rfl)
  exact hsecond

/-- A page whose root is below a text. -/
def Document.knotted : Document :=
  { nodes := #[⟨.document, some ⟨2⟩, [⟨1⟩]⟩, ⟨.element "div" [], some ⟨0⟩, [⟨2⟩]⟩,
      ⟨.text "x", some ⟨1⟩, [⟨0⟩]⟩]
    marks := [] }

theorem Document.reachable_knotted : Document.knotted.Reachable := by
  have helement := Document.Reachable.empty.createElement "div" []
  have htext : Document.Reachable _ :=
    helement.createPlain (show (NodeData.text "x").isPlain = true from rfl)
  have hfirst : Document.Reachable _ :=
    htext.append (show Document.append _ ⟨0⟩ ⟨1⟩ = .ok _ from rfl)
  have hsecond : Document.Reachable _ :=
    hfirst.append (show Document.append _ ⟨1⟩ ⟨2⟩ = .ok _ from rfl)
  have hthird : Document.Reachable _ :=
    hsecond.append (show Document.append _ ⟨2⟩ ⟨0⟩ = .ok _ from rfl)
  exact hthird

namespace ContentGuard

theorem apply_ends_circling :
    Document.circling.IsBelow Document.root Document.root ∧
      (standard.sanitizer .guarded).Calm .circling (maxDepth + 1) Document.root ∧
      ((standard.sanitizer .guarded).sanitize .circling Document.root).value.stop =
        some (.failed (.depthExceeded 256)) ∧
      ∃ after, (standard.apply .guarded (.ofDocument .circling)).value = some after ∧
        after.document = none ∧ after.html? = some "" := by
  have hcycle : Document.circling.IsBelow Document.root Document.root :=
    .head (List.mem_singleton_self _) (.single (List.mem_singleton_self _))
  have henters : ∀ id, Document.circling.IsBelow Document.root id →
      Document.circling.IsBelow id Document.root →
      (standard.sanitizer .guarded).Enters (Document.circling.item id) := by
    rintro ⟨_ | _ | index⟩ hbelow _
    · exact .inl rfl
    · have hstyle : lower "div" ≠ "style" := by
        rw [lower_eq_self (by simp)]
        decide
      exact .inr ⟨"div", [], rfl, .inr ⟨rfl, Policy.allowsTag_of _ (by decide), hstyle⟩⟩
    · obtain ⟨_, _, hchild⟩ := Relation.TransGen.tail'_iff.1 hbelow
      have hcontains := Document.reachable_circling.consistent.contains_child hchild
      simp [Document.contains, Document.circling] at hcontains
  have hcalm : (standard.sanitizer .guarded).Calm .circling (maxDepth + 1) Document.root :=
    Sanitizer.calm_of_cycle Document.reachable_circling.consistent henters _
  obtain ⟨hends, hdeep⟩ := apply_ends standard .guarded (.ofDocument .circling) .circling rfl
    Document.reachable_circling rfl Gadget.parameter?_guarded
  obtain ⟨hstop, -⟩ := hdeep hcycle henters
  obtain ⟨after, hafter, ⟨hnone, -⟩ | ⟨-, hempty⟩⟩ := hends hcalm
  · rw [hstop] at hnone
    contradiction
  · exact ⟨hcycle, hcalm, hstop, after, hafter, hempty⟩

/-- The walk ends at a text, so a cycle through one is not gone round. -/
theorem apply_keeps_knotted :
    Document.knotted.Reachable ∧ Document.knotted.IsBelow Document.root Document.root ∧
      standard.policy = Policy.default ∧ standard.styles = Style.conservative ∧
      Gadget.guarded.parameter? "sanitize" = some "1" ∧
      (∀ id name attributes, Document.knotted.data? id = some (.element name attributes) →
        Document.knotted.trust id = .self ∨
          Document.knotted.trust id = .none ∧ standard.policy.allowsTag name = true) ∧
      ((standard.sanitizer .guarded).sanitize .knotted Document.root).value.stop = none ∧
      ∃ after, (standard.apply .guarded (.ofDocument .knotted)).value = some after ∧
        after.document.isSome = true := by
  have hstop : ((standard.sanitizer .guarded).sanitize .knotted Document.root).value.stop =
      none := by
    decide +kernel
  have hended : (standard.sanitize .guarded (.ofDocument .knotted)).value = _ :=
    sanitize_value_of_document rfl
  rw [hstop] at hended
  refine ⟨Document.reachable_knotted, ?_, rfl, rfl, Gadget.parameter?_guarded, ?_,
    hstop, _, apply_value_of_ended Gadget.parameter?_guarded hended, rfl⟩
  · exact .head (List.mem_singleton_self _) (.head (List.mem_singleton_self _)
      (.single (List.mem_singleton_self _)))
  · rintro ⟨_ | _ | _ | index⟩ name attributes hdata
    · cases hdata
    · obtain ⟨rfl, rfl⟩ := NodeData.element.inj (Option.some.inj hdata)
      exact .inr ⟨rfl, Policy.allowsTag_of _ (by decide)⟩
    · cases hdata
    · cases hdata

end ContentGuard

end GadgetGuard
