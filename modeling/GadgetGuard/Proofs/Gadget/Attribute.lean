import GadgetGuard.Proofs.Gadget.Filter
/-!
# The attributes that stay

Attributes are judged in their order, and each verdict is carried out on whatever the ones before
it have left, so a name that was removed may come back.  Two facts hold of the attributes that
are left in the end.  A property that every dropped attribute lacks and every rewritten one has
is a property of all of them (`forall_mem_filteredAttributes`).  And where one of them would be
rewritten when it is judged again, there already is an attribute to take the new value
(`name_mem_filteredAttributes`).
-/

namespace GadgetGuard

open GadgetGuard.Text

namespace Policy

variable (policy : Policy) (tag name : String)

theorem allowsAttribute_lower :
    policy.allowsAttribute (lower name) = policy.allowsAttribute name := by
  rw [allowsAttribute, allowsAttribute, lower_lower]

theorem isProxied_lower : policy.isProxied tag (lower name) = policy.isProxied tag name := by
  rw [isProxied, isProxied, lower_lower]

end Policy

namespace Sanitizer

variable {sanitizer : Sanitizer} {a b : Attribute} {tag name value : String}
variable {kept attributes : List Attribute} {verdict : Verdict}

theorem mem_setIn (hmem : b ∈ Document.setIn name value attributes) :
    b = ⟨name, value⟩ ∨ b ∈ attributes := by
  induction attributes with
  | nil => exact .inl (List.mem_singleton.1 hmem)
  | cons first later ih =>
    rw [Document.setIn] at hmem
    split at hmem
    next hname =>
      rcases List.mem_cons.1 hmem with rfl | hlater
      · exact .inl (hname ▸ rfl)
      · exact .inr (List.mem_cons_of_mem _ hlater)
    · rcases List.mem_cons.1 hmem with rfl | hlater
      · exact .inr List.mem_cons_self
      · exact (ih hlater).imp_right (List.mem_cons_of_mem first)

theorem mem_names_setIn {other : String} :
    other ∈ (Document.setIn name value attributes).map Attribute.name ↔
      other = name ∨ other ∈ attributes.map Attribute.name := by
  induction attributes with
  | nil => simp [Document.setIn]
  | cons first later ih =>
    rw [Document.setIn]
    split
    next hname => simp [hname]
    · rw [List.map_cons, List.map_cons, List.mem_cons, List.mem_cons, ih, or_left_comm]

/-- A verdict brings in nothing but the value that it sets. -/
theorem Verdict.mem_applied (hmem : b ∈ verdict.applied name attributes) :
    (∃ value, verdict = .replace value ∧ b = ⟨lower name, value⟩) ∨ b ∈ attributes := by
  cases verdict with
  | keep => exact .inr hmem
  | drop => exact .inr (List.mem_of_mem_filter hmem)
  | replace value => exact (mem_setIn hmem).imp_left fun hnew => ⟨value, rfl, hnew⟩

/-- A name is dropped in all its spellings or in none. -/
theorem Verdict.lower_name_mem_applied (hmem : b ∈ verdict.applied name attributes)
    (hname : lower b.name ∈ attributes.map Attribute.name) :
    lower b.name ∈ (verdict.applied name attributes).map Attribute.name := by
  cases verdict with
  | keep => exact hname
  | drop =>
    obtain ⟨c, hc, hspelled⟩ := List.mem_map.1 hname
    refine List.mem_map.2 ⟨c, List.mem_filter.2 ⟨hc, ?_⟩, hspelled⟩
    have hstays := (List.mem_filter.1 hmem).2
    rw [equalIgnoringCase] at hstays ⊢
    rw [hspelled, lower_lower]
    exact hstays
  | replace value => exact mem_names_setIn.2 (.inr hname)

/-- A relation between an attribute and those it stands among holds in the end if it holds for
every attribute once that is judged or rewritten, and no later verdict breaks it. -/
theorem forall_mem_foldl {R : List Attribute → Attribute → Prop} {judged : List Attribute}
    (hjudged : ∀ a ∈ judged, ∀ kept, a ∈ (sanitizer.judge tag a).value.applied a.name kept →
      R ((sanitizer.judge tag a).value.applied a.name kept) a)
    (hrewritten : ∀ a ∈ judged, ∀ kept value, (sanitizer.judge tag a).value = .replace value →
      R ((sanitizer.judge tag a).value.applied a.name kept) ⟨lower a.name, value⟩)
    (hlater : ∀ a kept, ∀ b ∈ (sanitizer.judge tag a).value.applied a.name kept, R kept b →
      R ((sanitizer.judge tag a).value.applied a.name kept) b)
    (hkept : ∀ b ∈ kept, b ∈ judged ∨ R kept b) :
    ∀ b ∈ judged.foldl (fun kept a => (sanitizer.judge tag a).value.applied a.name kept) kept,
      R (judged.foldl (fun kept a => (sanitizer.judge tag a).value.applied a.name kept) kept)
        b := by
  induction judged generalizing kept with
  | nil => exact fun b hb => (hkept b hb).resolve_left List.not_mem_nil
  | cons a rest ih =>
    obtain ⟨hjudged_first, hjudged_rest⟩ := List.forall_mem_cons.1 hjudged
    obtain ⟨hrewritten_first, hrewritten_rest⟩ := List.forall_mem_cons.1 hrewritten
    apply ih hjudged_rest hrewritten_rest
    intro b hb
    dsimp only at hb ⊢
    -- an attribute that is there after this verdict was there before or is the new one
    rcases Verdict.mem_applied hb with ⟨value, hverdict, rfl⟩ | hold
    · exact .inr (hrewritten_first kept value hverdict)
    · rcases hkept b hold with hmem | hholds
      · rcases List.mem_cons.1 hmem with rfl | hrest
        · exact .inr (hjudged_first kept hb)
        · exact .inl hrest
      · exact .inr (hlater a kept b hb hholds)

theorem judge_value_ne_drop_of_mem_applied
    (hmem : a ∈ (sanitizer.judge tag a).value.applied a.name kept) :
    (sanitizer.judge tag a).value ≠ .drop := by
  intro hdropped
  rw [hdropped, Verdict.applied, List.mem_filter, equalIgnoringCase, beq_self_eq_true] at hmem
  exact Bool.false_ne_true hmem.2

/-- An attribute that stays was there and is not dropped, or it was written in the place of
another one. -/
theorem mem_filteredAttributes (hb : b ∈ sanitizer.filteredAttributes tag attributes) :
    (b ∈ attributes ∧ (sanitizer.judge tag b).value ≠ .drop) ∨
      ∃ a ∈ attributes, ∃ value, (sanitizer.judge tag a).value = .replace value ∧
        b = ⟨lower a.name, value⟩ := by
  refine forall_mem_foldl
    (R := fun _ b => (b ∈ attributes ∧ (sanitizer.judge tag b).value ≠ .drop) ∨
      ∃ a ∈ attributes, ∃ value, (sanitizer.judge tag a).value = .replace value ∧
        b = ⟨lower a.name, value⟩)
    ?_ ?_ (fun _ _ _ _ hb => hb) (fun _ hb => .inl hb) b hb
  · exact fun a ha kept hmem => .inl ⟨ha, judge_value_ne_drop_of_mem_applied hmem⟩
  · exact fun a ha kept value hverdict => .inr ⟨a, ha, value, hverdict, rfl⟩

/-- What holds of everything that is not dropped and of everything that is rewritten holds of all
attributes that stay. -/
theorem forall_mem_filteredAttributes {Q : Attribute → Prop}
    (hdropped : ∀ a, ¬ Q a → (sanitizer.judge tag a).value = .drop)
    (hrewritten : ∀ a value, (sanitizer.judge tag a).value = .replace value →
      Q ⟨lower a.name, value⟩) :
    ∀ b ∈ sanitizer.filteredAttributes tag attributes, Q b := by
  intro b hb
  rcases mem_filteredAttributes hb with ⟨-, hstays⟩ | ⟨a, -, value, hverdict, rfl⟩
  · by_contra hnot
    exact hstays (hdropped b hnot)
  · exact hrewritten a value hverdict

/-- An attribute that stays and would be rewritten has its name among those that stay. -/
theorem name_mem_filteredAttributes (hb : b ∈ sanitizer.filteredAttributes tag attributes)
    (hverdict : (sanitizer.judge tag b).value = .replace value) :
    lower b.name ∈ (sanitizer.filteredAttributes tag attributes).map Attribute.name := by
  refine forall_mem_foldl (R := fun kept b => ∀ value, (sanitizer.judge tag b).value =
    .replace value → lower b.name ∈ kept.map Attribute.name) ?_ ?_ ?_
    (fun _ hb => .inl hb) b hb value hverdict
  · intro a _ kept _ value hverdict
    rw [hverdict]
    exact mem_names_setIn.2 (.inl rfl)
  · intro a _ kept value hverdict _ _
    rw [hverdict, lower_lower]
    exact mem_names_setIn.2 (.inl rfl)
  · intro a kept b hb hnamed value hverdict
    exact Verdict.lower_name_mem_applied hb (hnamed value hverdict)

/-! ## Verdicts -/

theorem judge_value_of_not_allowed (hname : sanitizer.policy.allowsAttribute a.name = false) :
    (sanitizer.judge tag a).value = .drop := by
  rw [judge, hname]
  rfl

/-- Only links of attributes that are proxied are rewritten, and only well-formed ones with an
allowed scheme. -/
theorem judge_eq_replace (hverdict : (sanitizer.judge tag a).value = .replace value) :
    sanitizer.policy.allowsAttribute a.name = true ∧
      sanitizer.policy.isLinkAttribute a.name = true ∧
      sanitizer.policy.isProxied tag a.name = true ∧
      ∃ reference, UriReference.parse a.value = .ok reference ∧
        Policy.allowsScheme reference.scheme = true ∧
        value = (sanitizer.imageLinks reference.raw sanitizer.context).value := by
  unfold judge at hverdict
  dsimp only at hverdict
  split at hverdict
  · contradiction
  next hallowed =>
    split at hverdict
    · contradiction
    next hlink =>
      split at hverdict
      · contradiction
      next reference hparse =>
        split at hverdict
        · contradiction
        next hscheme =>
          split at hverdict
          next hproxied =>
            refine ⟨by simpa using hallowed, by simpa using hlink, hproxied, reference, hparse,
              by simpa using hscheme, ?_⟩
            exact (Verdict.replace.inj hverdict).symm
          · contradiction

/-- A well-formed link without a scheme is not dropped. -/
theorem judge_ne_drop {reference : UriReference}
    (hallowed : sanitizer.policy.allowsAttribute a.name = true)
    (hparse : UriReference.parse a.value = .ok reference) (hscheme : reference.scheme = none) :
    (sanitizer.judge tag a).value ≠ .drop := by
  have hscheme' : Policy.allowsScheme reference.scheme = true := by
    rw [hscheme]
    rfl
  rw [judge, hallowed, hparse, Bool.not_true, if_neg Bool.false_ne_true]
  dsimp only
  rw [hscheme', Bool.not_true, if_neg Bool.false_ne_true]
  split
  · simp
  · split
    · simp
    · simp

/-- Every attribute that stays is allowed. -/
theorem allowsAttribute_filteredAttributes :
    ∀ b ∈ sanitizer.filteredAttributes tag attributes,
      sanitizer.policy.allowsAttribute b.name = true := by
  apply forall_mem_filteredAttributes
  · intro a hname
    exact judge_value_of_not_allowed (Bool.eq_false_iff.2 hname)
  · intro a value hverdict
    rw [Policy.allowsAttribute_lower]
    exact (judge_eq_replace hverdict).1

end Sanitizer

end GadgetGuard
