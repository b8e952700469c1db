import GadgetGuard.Gadget.Content
import GadgetGuard.Proofs.Gadget.Reached
/-!
# Sanitizing fails closed

Content that a request wants sanitized either keeps a document that the walk has gone through
to its end, or it is emptied.  Which of the two happens can be told from the document as it was
before.
-/

namespace GadgetGuard.ContentGuard

variable {guard : ContentGuard} {gadget : Gadget} {content : Content}

theorem apply_value_of_unwanted (hunwanted : gadget.parameter? "sanitize" ≠ some "1") :
    (guard.apply gadget content).value = some content := by
  have hwants : gadget.wantsSanitizing = false := by
    rw [Gadget.wantsSanitizing, beq_eq_false_iff_ne]
    exact hunwanted
  rw [apply, hwants]
  rfl

theorem sanitize_value_of_document {document : Document}
    (hdocument : content.document = some document) :
    (guard.sanitize gadget content).value =
      ({ content with
          document :=
            some ((guard.sanitizer gadget).sanitize document Document.root).value.document },
        ((guard.sanitizer gadget).sanitize document Document.root).value.stop) := by
  rw [sanitize, hdocument]
  rfl

theorem sanitize_value_of_no_document (hdocument : content.document = none) :
    (guard.sanitize gadget content).value = (content, some (.failed .noDocument)) := by
  rw [sanitize, hdocument]
  rfl

/-- Content that has to be sanitized keeps what a walk to its end leaves, and is emptied
whatever else stops the walk. -/
theorem apply_value_of_wanted (hwants : gadget.parameter? "sanitize" = some "1") :
    (guard.apply gadget content).value =
      match (guard.sanitize gadget content).value with
      | (sanitized, none) => some sanitized.touched
      | (_, some .endless) => none
      | (_, some _) => some (content.replaced "") := by
  have hwants' : gadget.wantsSanitizing = true := by
    rw [Gadget.wantsSanitizing, beq_iff_eq]
    exact hwants
  rw [apply, hwants', Bool.not_true, if_neg Bool.false_ne_true, Traced.value_bind]
  obtain ⟨sanitized, stop⟩ := (guard.sanitize gadget content).value
  cases stop with
  | none => rfl
  | some stop =>
    cases stop with
    | failed cause => rfl
    | crashed => rfl
    | endless => rfl

/-- A walk that comes to its end keeps the document that it leaves. -/
theorem apply_value_of_ended {sanitized : Content}
    (hwants : gadget.parameter? "sanitize" = some "1")
    (hended : (guard.sanitize gadget content).value = (sanitized, none)) :
    (guard.apply gadget content).value = some sanitized.touched := by
  rw [apply_value_of_wanted hwants, hended]

/-- Whatever stops a walk, the content is emptied. -/
theorem apply_value_of_stopped {sanitized : Content} {stop : Stop}
    (hwants : gadget.parameter? "sanitize" = some "1")
    (hstopped : (guard.sanitize gadget content).value = (sanitized, some stop))
    (hends : stop ≠ .endless) :
    (guard.apply gadget content).value = some (content.replaced "") := by
  rw [apply_value_of_wanted hwants, hstopped]
  cases stop with
  | failed cause => rfl
  | crashed => rfl
  | endless => contradiction

/-- Content that still has a document has what a walk to its end has left of it. -/
theorem sanitize_value_of_kept {document cleaned : Document} {after : Content}
    (hdocument : content.document = some document)
    (hwants : gadget.parameter? "sanitize" = some "1")
    (hafter : (guard.apply gadget content).value = some after)
    (hcleaned : after.document = some cleaned) :
    ((guard.sanitizer gadget).sanitize document Document.root).value = ⟨cleaned, none⟩ := by
  rw [apply_value_of_wanted hwants, sanitize_value_of_document hdocument] at hafter
  generalize ((guard.sanitizer gadget).sanitize document Document.root).value = progress at hafter ⊢
  obtain ⟨left, _ | stop⟩ := progress
  · obtain rfl := Option.some.inj hafter
    exact congrArg (Progress.mk · none) (Option.some.inj hcleaned)
  · cases stop with
    | endless => contradiction
    | _ =>
      obtain rfl := Option.some.inj hafter
      contradiction

/-- Content is left alone unless the request wants it sanitized.  Then it counts one more
change, and either the walk has come to its end and its document is kept, or nothing is left.
The document is kept exactly if there is one, every style that the walk reaches is accepted,
and the walk reaches nothing 257 levels below the root. -/
theorem apply_fails_closed (guard : ContentGuard) (gadget : Gadget) (content : Content)
    (hdocument : ∀ document, content.document = some document →
      document.Reachable ∧ ¬ document.IsBelow Document.root Document.root) :
    (gadget.parameter? "sanitize" ≠ some "1" →
      (guard.apply gadget content).value = some content) ∧
    (gadget.parameter? "sanitize" = some "1" →
      ∃ after, (guard.apply gadget content).value = some after ∧
        after.revision = content.revision + 1 ∧
        ((∃ document, content.document = some document ∧
            ((guard.sanitizer gadget).sanitize document Document.root).value.stop = none ∧
            after.document = some
              ((guard.sanitizer gadget).sanitize document Document.root).value.document ∧
            after.text = content.text) ∨
          after.document = none ∧ after.html? = some "") ∧
        (after.document.isSome = true ↔
          ∃ document, content.document = some document ∧
            (guard.sanitizer gadget).AcceptsStyles document Document.root ∧
            ∀ place, ¬ (guard.sanitizer gadget).Reaches document Document.root 257 place)) := by
  refine ⟨apply_value_of_unwanted, fun hwants => ?_⟩
  cases hstored : content.document with
  | none =>
    refine ⟨_, apply_value_of_stopped hwants (sanitize_value_of_no_document hstored) (by simp),
      rfl, .inr ⟨rfl, rfl⟩, ?_⟩
    simp [Content.replaced]
  | some document =>
    obtain ⟨hreachable, hacyclic⟩ := hdocument document hstored
    obtain ⟨hends, hended⟩ : ((guard.sanitizer gadget).sanitize document _).value.stop ≠ _ ∧ _ :=
      Sanitizer.sanitize_root_ends hreachable.consistent hacyclic
    have hvalue : (guard.sanitize gadget content).value = _ := sanitize_value_of_document hstored
    cases hstop : ((guard.sanitizer gadget).sanitize document Document.root).value.stop with
    | none =>
      rw [hstop] at hvalue
      refine ⟨_, apply_value_of_ended hwants hvalue, rfl, .inl ⟨document, rfl, hstop, rfl, rfl⟩, ?_⟩
      exact iff_of_true rfl ⟨document, rfl, hended.1 hstop⟩
    | some stop =>
      rw [hstop] at hvalue hends
      refine ⟨_, apply_value_of_stopped hwants hvalue (fun h => hends (congrArg some h)), rfl,
        .inr ⟨rfl, rfl⟩, ?_⟩
      refine iff_of_false (by simp [Content.replaced]) ?_
      rintro ⟨_, hsame, hkept⟩
      obtain rfl := Option.some.inj hsame
      rw [hended.2 hkept] at hstop
      contradiction

theorem apply_fails_closed_draft :
    (∀ document, (Content.ofDocument .draft).document = some document →
        document.Reachable ∧ ¬ document.IsBelow Document.root Document.root) ∧
      ∃ after, (standard.apply .guarded (.ofDocument .draft)).value = some after ∧
        after.revision = 1 ∧ (after.document.isSome = true ∨ after.html? = some "") := by
  have hdocument : ∀ document, (Content.ofDocument .draft).document = some document →
      document.Reachable ∧ ¬ document.IsBelow Document.root Document.root := by
    intro document hdraft
    obtain rfl := Option.some.inj hdraft
    exact ⟨Document.reachable_draft, Document.not_isBelow_root_draft⟩
  obtain ⟨after, hafter, hrevision, hkept | hemptied, _⟩ :=
    (apply_fails_closed standard .guarded (.ofDocument .draft) hdocument).2
      Gadget.parameter?_guarded
  · obtain ⟨_, _, _, hkept, _⟩ := hkept
    exact ⟨hdocument, after, hafter, hrevision, .inl (by rw [hkept]; rfl)⟩
  · exact ⟨hdocument, after, hafter, hrevision, .inr hemptied.2⟩

end GadgetGuard.ContentGuard
