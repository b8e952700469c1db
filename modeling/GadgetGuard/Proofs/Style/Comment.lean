import GadgetGuard.Proofs.Style.Import
import GadgetGuard.Proofs.Style.Reference
/-!
# Comments that sanitized stylesheets keep

Comments and imports are taken out in one pass each, and what stands before a chunk that is taken
out meets what stands behind it.  Only so can a comment be left: its beginning or its end was
not there before, and chunks kept the two signs of it apart.  Dropped stretches put no signs
together, since a separator stays between them.
-/

namespace GadgetGuard.Style

open GadgetGuard.Text

/-- A comment is opened, and closed later on. -/
def HasComment {α : Type} (slash star : α) (list : List α) : Prop :=
  ∃ body, slash :: star :: body <:+ list ∧ [star, slash] <:+: body

/-- A whole comment: it ends at the first place where it could. -/
def IsComment (chunk : List Char) : Prop :=
  ∃ inside, chunk = '/' :: '*' :: (inside ++ ['*', '/']) ∧ ¬ ['*', '/'] <:+: inside

/-- A whole import, with the semicolon that ends it. -/
def IsImport (chunk : List Char) : Prop :=
  ∃ word body, chunk = word ++ body ++ [';'] ∧ Spells "@import" word ∧ ';' ∉ body

/-- What is left of a text when chunks of it, and perhaps its end, are taken out. -/
inductive Leaves (IsChunk : List Char → Prop) : List Char → List Char → Prop
  | nothing (text : List Char) : Leaves IsChunk text []
  | keep {text left : List Char} (c : Char) (hleaves : Leaves IsChunk text left) :
      Leaves IsChunk (c :: text) (c :: left)
  | cut {chunk text left : List Char} (hchunk : IsChunk chunk)
      (hleaves : Leaves IsChunk text left) : Leaves IsChunk (chunk ++ text) left

/-- Between the two characters nothing stands but chunks, one or more. -/
def KeptApart (IsChunk : List Char → Prop) (first second : Char) (text : List Char) : Prop :=
  ∃ chunks, chunks ≠ [] ∧ (∀ chunk ∈ chunks, IsChunk chunk) ∧
    first :: (chunks.flatten ++ [second]) <:+: text

variable {IsChunk : List Char → Prop} {text left rest later : List Char} {first second : Char}

section HasComment

variable {α : Type} {slash star c d : α} {list longer : List α}

theorem not_hasComment_nil : ¬ HasComment slash star [] := by
  rintro ⟨body, hopened, -⟩
  exact List.cons_ne_nil _ _ (List.suffix_nil.1 hopened)

theorem HasComment.mono (hcomment : HasComment slash star list) (hlonger : list <:+: longer) :
    HasComment slash star longer := by
  obtain ⟨body, ⟨start, rfl⟩, hclosed⟩ := hcomment
  obtain ⟨before, after, rfl⟩ := hlonger
  refine ⟨body ++ after, ⟨before ++ start, ?_⟩, hclosed.trans (List.prefix_append _ _).isInfix⟩
  simp

/-- A beginning and an end make a comment, if they stand in this order. -/
theorem hasComment_append {right : List α} (hopened : [slash, star] <:+: list)
    (hclosed : [star, slash] <:+: right) : HasComment slash star (list ++ right) := by
  obtain ⟨before, body, rfl⟩ := hopened
  refine ⟨body ++ right, ⟨before, ?_⟩, hclosed.trans (List.suffix_append _ _).isInfix⟩
  simp

theorem HasComment.closed (hcomment : HasComment slash star (c :: d :: list)) :
    [star, slash] <:+: list := by
  obtain ⟨body, hopened, hclosed⟩ := hcomment
  have hbody : body <:+ list := by
    have hlater : list <:+ c :: d :: list := (List.suffix_cons d list).trans (List.suffix_cons c _)
    have hlength := hopened.length_le
    simp only [List.length_cons] at hlength
    refine List.suffix_of_suffix_length_le ?_ hlater (by omega)
    exact ((List.suffix_cons star body).trans (List.suffix_cons slash _)).trans hopened
  exact hclosed.trans hbody.isInfix

theorem exists_suffix_of_infix (hwithin : [c, d] <:+: list) : ∃ rest, c :: d :: rest <:+ list := by
  obtain ⟨before, rest, hlist⟩ := hwithin
  exact ⟨rest, before, by rw [← hlist, List.append_assoc]; rfl⟩

end HasComment

/-! ## Passes that take chunks out -/

theorem KeptApart.mono {longer : List Char} (hapart : KeptApart IsChunk first second text)
    (hlonger : text <:+: longer) : KeptApart IsChunk first second longer := by
  obtain ⟨chunks, hne, hchunks, hwithin⟩ := hapart
  exact ⟨chunks, hne, hchunks, hwithin.trans hlonger⟩

theorem KeptApart.exists_chunk (hapart : KeptApart IsChunk first second text) :
    ∃ chunk, IsChunk chunk ∧ first :: chunk <:+: text := by
  obtain ⟨chunks, hne, hchunks, hwithin⟩ := hapart
  obtain ⟨chunk, chunks, rfl⟩ := List.exists_cons_of_ne_nil hne
  refine ⟨chunk, hchunks chunk List.mem_cons_self, List.IsInfix.trans ?_ hwithin⟩
  exact ⟨[], chunks.flatten ++ [second], by simp⟩

theorem KeptApart.slash_infix (hapart : KeptApart IsComment first second text) :
    [first, '/'] <:+: text := by
  obtain ⟨_, ⟨inside, rfl, -⟩, hwithin⟩ := hapart.exists_chunk
  exact List.IsInfix.trans ⟨[], _, rfl⟩ hwithin

theorem KeptApart.sign_infix (hapart : KeptApart IsImport first second text) :
    ∃ sign, foldLetter sign = '@' ∧ [first, sign] <:+: text := by
  obtain ⟨_, ⟨word, body, rfl, hword, -⟩, hwithin⟩ := hapart.exists_chunk
  obtain ⟨sign, word, rfl, hsign, -⟩ := List.map_eq_cons_iff.1 hword
  exact ⟨sign, hsign, List.IsInfix.trans ⟨[], word ++ body ++ [';'], by simp⟩ hwithin⟩

/-- Before the first character that is left there is nothing but chunks. -/
theorem Leaves.exists_chunks (hleaves : Leaves IsChunk text (second :: left)) :
    ∃ (chunks : List (List Char)) (rest : List Char),
      (∀ chunk ∈ chunks, IsChunk chunk) ∧ text = chunks.flatten ++ second :: rest ∧
        Leaves IsChunk rest left := by
  generalize hkept : second :: left = kept at hleaves
  induction hleaves with
  | nothing => contradiction
  | keep c hleaves _ =>
    obtain ⟨rfl, rfl⟩ := List.cons.inj hkept
    exact ⟨[], _, by simp, rfl, hleaves⟩
  | cut hchunk _ ih =>
    obtain ⟨chunks, rest, hchunks, rfl, hrest⟩ := ih hkept
    refine ⟨_ :: chunks, rest, List.forall_mem_cons.2 ⟨hchunk, hchunks⟩, ?_, hrest⟩
    rw [List.flatten_cons, List.append_assoc]

/-- Two characters that meet in what is left met before, or chunks kept them apart. -/
theorem Leaves.met_or_kept_apart (hleaves : Leaves IsChunk text left)
    (hmeet : first :: second :: later <:+ left) :
    (∃ rest, first :: second :: rest <:+ text ∧ Leaves IsChunk rest later) ∨
      KeptApart IsChunk first second text := by
  induction hleaves with
  | nothing => exact absurd (List.suffix_nil.1 hmeet) (List.cons_ne_nil _ _)
  | keep c hleaves ih =>
    rcases List.suffix_cons_iff.1 hmeet with hhere | hbehind
    · obtain ⟨rfl, rfl⟩ := List.cons.inj hhere
      obtain ⟨chunks, rest, hchunks, rfl, hrest⟩ := hleaves.exists_chunks
      cases chunks with
      | nil => exact .inl ⟨rest, List.suffix_rfl, hrest⟩
      | cons chunk chunks =>
        refine .inr ⟨chunk :: chunks, List.cons_ne_nil _ _, hchunks, [], rest, ?_⟩
        simp
    · rcases ih hbehind with ⟨rest, hmet, hrest⟩ | hapart
      · exact .inl ⟨rest, hmet.trans (List.suffix_cons c _), hrest⟩
      · exact .inr (hapart.mono (List.suffix_cons c _).isInfix)
  | cut hchunk _ ih =>
    rcases ih hmeet with ⟨rest, hmet, hrest⟩ | hapart
    · exact .inl ⟨rest, hmet.trans (List.suffix_append _ _), hrest⟩
    · exact .inr (hapart.mono (List.suffix_append _ _).isInfix)

/-- A comment in what is left was there before, or chunks kept the signs of its beginning or its
end apart. -/
theorem Leaves.hasComment (hleaves : Leaves IsChunk text left)
    (hcomment : HasComment '/' '*' left) : HasComment '/' '*' text ∨
      KeptApart IsChunk '/' '*' text ∨ KeptApart IsChunk '*' '/' text := by
  obtain ⟨body, hopened, hclosed⟩ := hcomment
  rcases hleaves.met_or_kept_apart hopened with ⟨rest, hmet, hrest⟩ | hapart
  · obtain ⟨later, hlater⟩ := exists_suffix_of_infix hclosed
    rcases hrest.met_or_kept_apart hlater with ⟨behind, hend, -⟩ | hapart
    · refine .inl ⟨rest, hmet, List.IsInfix.trans ⟨[], behind, rfl⟩ hend.isInfix⟩
    · have hsuffix : rest <:+ text := ((List.suffix_cons '*' rest).trans
        (List.suffix_cons '/' _)).trans hmet
      exact .inr (.inr (hapart.mono hsuffix.isInfix))
  · exact .inr (.inl hapart)

/-! ## The passes of the sanitizer -/

theorem afterComment?_eq_none_iff : afterComment? text = none ↔ ¬ ['*', '/'] <:+: text := by
  fun_induction afterComment? text with
  | case1 rest => simpa using ⟨[], rest, rfl⟩
  | case2 c rest hother ih =>
    rw [ih, List.infix_cons_iff, not_or]
    refine ⟨fun hrest => ⟨?_, hrest⟩, fun hboth => hboth.2⟩
    rintro ⟨later, hlater⟩
    obtain ⟨rfl, rfl⟩ := List.cons.inj hlater
    exact hother later rfl rfl
  | case3 => simp

theorem exists_comment_of_afterComment? (hclose : afterComment? text = some rest) :
    ∃ inside, text = inside ++ '*' :: '/' :: rest ∧ ¬ ['*', '/'] <:+: inside := by
  fun_induction afterComment? text with
  | case1 later =>
    obtain rfl := Option.some.inj hclose
    exact ⟨[], rfl, by simp⟩
  | case2 c later hother ih =>
    obtain ⟨inside, rfl, hnone⟩ := ih hclose
    refine ⟨c :: inside, rfl, ?_⟩
    rw [List.infix_cons_iff, not_or]
    refine ⟨?_, hnone⟩
    rintro ⟨later, hlater⟩
    obtain ⟨rfl, rfl⟩ := List.cons.inj hlater
    exact hother _ rfl rfl
  | case3 => contradiction

theorem removeComments_leaves (text : List Char) :
    Leaves IsComment text (removeComments text) := by
  fun_induction removeComments text with
  | case1 => exact .nothing []
  | case2 body rest hclose ih =>
    obtain ⟨inside, rfl, hnone⟩ := exists_comment_of_afterComment? hclose
    have hchunk : IsComment ('/' :: '*' :: (inside ++ ['*', '/'])) := ⟨inside, rfl, hnone⟩
    simpa using Leaves.cut hchunk ih
  | case3 body hopen ih => exact ih.keep '/'
  | case4 c rest hother ih => exact ih.keep c

theorem removeImports_leaves (text : List Char) : Leaves IsImport text (removeImports text) := by
  fun_induction removeImports text with
  | case1 => exact .nothing []
  | case2 c rest body hkeyword ih =>
    obtain ⟨word, hword, htext⟩ := afterKeyword?_eq_some_iff.1 hkeyword
    rw [← htext]
    cases hdrop : body.dropWhile (· != ';') with
    | nil =>
      rw [afterSemicolon, hdrop, List.drop_nil, removeImports]
      exact .nothing _
    | cons d later =>
      have hd := List.head?_dropWhile_not (· != ';') body
      rw [hdrop] at hd
      obtain rfl : d = ';' := by simpa using hd
      rw [afterSemicolon, hdrop, List.drop_one, List.tail_cons] at ih ⊢
      have hchunk : IsImport (word ++ body.takeWhile (· != ';') ++ [';']) := by
        refine ⟨word, _, rfl, hword, fun hmem => ?_⟩
        simpa using List.mem_takeWhile_imp hmem
      have hbody : body = body.takeWhile (· != ';') ++ ';' :: later := by
        rw [← hdrop, List.takeWhile_append_dropWhile]
      rw [hbody]
      simpa using Leaves.cut hchunk ih
  | case3 c rest hkeyword ih => exact ih.keep c

theorem removeComments_eq_self (hnone : ¬ HasComment '/' '*' text) :
    removeComments text = text := by
  fun_induction removeComments text with
  | case1 => rfl
  | case2 body rest hclose ih =>
    refine absurd ⟨body, List.suffix_rfl, ?_⟩ hnone
    by_contra hopen
    rw [afterComment?_eq_none_iff.2 hopen] at hclose
    contradiction
  | case3 body hopen ih =>
    rw [ih fun hcomment => hnone (hcomment.mono (List.suffix_cons '/' _).isInfix)]
  | case4 c rest hother ih =>
    rw [ih fun hcomment => hnone (hcomment.mono (List.suffix_cons c rest).isInfix)]

/-- Every comment is found, so one that is left was opened by a slash and a star that comments
kept apart. -/
theorem not_hasComment_removeComments (hapart : ¬ KeptApart IsComment '/' '*' text) :
    ¬ HasComment '/' '*' (removeComments text) := by
  fun_induction removeComments text with
  | case1 => exact not_hasComment_nil
  | case2 body rest hclose ih =>
    have hrest : rest <:+ '/' :: '*' :: body :=
      (afterComment?_suffix hclose).trans
        ((List.suffix_cons '*' body).trans (List.suffix_cons '/' _))
    exact ih fun hlater => hapart (hlater.mono hrest.isInfix)
  | case3 body hopen ih =>
    -- nothing is closed from here on, so nothing is taken out either
    have hnone := afterComment?_eq_none_iff.1 hopen
    have hkept : removeComments ('*' :: body) = '*' :: body := by
      refine removeComments_eq_self fun hcomment => hnone ?_
      exact (hcomment.mono (List.suffix_cons '/' _).isInfix).closed
    rw [hkept]
    exact fun hcomment => hnone hcomment.closed
  | case4 c rest hother ih =>
    rintro ⟨body, hopened, hclosed⟩
    rcases List.suffix_cons_iff.1 hopened with hhere | hbehind
    · obtain ⟨rfl, hstar⟩ := List.cons.inj hhere
      have hleaves := removeComments_leaves rest
      rw [← hstar] at hleaves
      obtain ⟨chunks, later, hchunks, rfl, -⟩ := hleaves.exists_chunks
      cases chunks with
      | nil => exact hother later rfl rfl
      | cons chunk chunks =>
        refine hapart ⟨chunk :: chunks, List.cons_ne_nil _ _, hchunks, [], later, ?_⟩
        simp
    · refine ih (fun hlater => hapart (hlater.mono (List.suffix_cons c rest).isInfix)) ?_
      exact ⟨body, hbehind, hclosed⟩

/-- A character that is no sign of comments lies within one, or there is one on either side. -/
theorem HasComment.of_separated {c : Char} (hslash : c ≠ '/') (hstar : c ≠ '*')
    (hcomment : HasComment '/' '*' (left ++ c :: rest)) : HasComment '/' '*' left ∨
      (['/', '*'] <:+: left ∧ ['*', '/'] <:+: rest) ∨ HasComment '/' '*' rest := by
  obtain ⟨body, ⟨before, hwhole⟩, hclosed⟩ := hcomment
  rcases List.append_eq_append_iff.1 hwhole with ⟨start, rfl, hstart⟩ | ⟨between, rfl, hbehind⟩
  · rcases start with _ | ⟨d, _ | ⟨e, start⟩⟩
    · exact absurd (List.cons.inj hstart).1.symm hslash
    · exact absurd (List.cons.inj (List.cons.inj hstart).2).1.symm hstar
    · obtain ⟨rfl, hbehind⟩ := List.cons.inj hstart
      obtain ⟨rfl, rfl⟩ := List.cons.inj hbehind
      have hsign : c ∉ ['*', '/'] := by simp [hslash, hstar]
      rcases infix_append_cons_of_not_mem hsign hclosed with hinside | hlater
      · exact .inl ⟨start, List.suffix_append _ _, hinside⟩
      · exact .inr (.inl ⟨⟨before, start, by simp⟩, hlater⟩)
  · rcases between with _ | ⟨d, between⟩
    · exact absurd (List.cons.inj hbehind).1 hslash
    · obtain ⟨rfl, rfl⟩ := List.cons.inj hbehind
      exact .inr (.inr ⟨body, List.suffix_append _ _, hclosed⟩)

theorem HasComment.of_removeHooked (hcomment : HasComment '/' '*' (removeHooked text)) :
    HasComment '/' '*' text := by
  have hsigns : ∀ c, isSeparator c = true → c ≠ '/' ∧ c ≠ '*' := by
    intro c hc
    rcases isSeparator_iff.1 hc with rfl | rfl | rfl <;> decide
  fun_induction removeHooked text with
  | case1 text stretch kept hrest =>
    exact hcomment.mono ((kept_within stretch).trans (List.takeWhile_prefix _).isInfix)
  | case2 text stretch separator rest hrest hdropped ih =>
    have htext : separator :: rest <:+ text := hrest ▸ List.dropWhile_suffix _
    exact (ih hcomment).mono ((List.suffix_cons separator rest).trans htext).isInfix
  | case3 text stretch kept separator rest hrest hstays ih =>
    have htext : stretch ++ separator :: rest = text := stretch_append hrest
    obtain ⟨hslash, hstar⟩ := hsigns separator (isSeparator_of_dropWhile hrest)
    rw [← htext]
    rcases hcomment.of_separated hslash hstar with hkept | ⟨hopened, hclosed⟩ | hlater
    · exact hkept.mono ((kept_within stretch).trans (List.prefix_append _ _).isInfix)
    · refine hasComment_append (hopened.trans (kept_within stretch)) ?_
      have hrest : ['*', '/'] <:+: rest := by
        refine infix_of_infix_removeHooked (fun c hc => ?_) hclosed
        simp [hsigns c hc]
      exact hrest.trans (List.suffix_cons separator rest).isInfix
    · have hsuffix : rest <:+ stretch ++ separator :: rest :=
        (List.suffix_cons separator rest).trans (List.suffix_append _ _)
      exact (ih hlater).mono hsuffix.isInfix

/-- The pieces of a stylesheet from some piece on are those of the text from some place on. -/
theorem exists_suffix_of_pieces {list : List Piece} (hlist : list <:+ pieces text) :
    ∃ rest, rest <:+ text ∧ list = pieces rest := by
  fun_induction pieces text with
  | case1 => exact ⟨[], List.suffix_rfl, by rw [List.suffix_nil.1 hlist, pieces]⟩
  | case2 first rest link later hreference ih =>
    rcases List.suffix_cons_iff.1 hlist with rfl | hbehind
    · exact ⟨first :: rest, List.suffix_rfl, (pieces_of_reference hreference).symm⟩
    · obtain ⟨behind, hsuffix, rfl⟩ := ih hbehind
      exact ⟨behind, hsuffix.trans (reference?_suffix hreference), rfl⟩
  | case3 c rest hreference ih =>
    rcases List.suffix_cons_iff.1 hlist with rfl | hbehind
    · exact ⟨c :: rest, List.suffix_rfl, (pieces_of_none hreference).symm⟩
    · obtain ⟨behind, hsuffix, rfl⟩ := ih hbehind
      exact ⟨behind, hsuffix.trans (List.suffix_cons c rest), rfl⟩

theorem exists_rest_of_pieces {c : Char} {list : List Piece}
    (hpieces : .plain c :: list = pieces text) : ∃ rest, text = c :: rest ∧ list = pieces rest := by
  cases text with
  | nil =>
    rw [pieces] at hpieces
    contradiction
  | cons d rest =>
    cases hreference : reference? (d :: rest) with
    | some read =>
      rw [pieces_of_reference hreference] at hpieces
      simp at hpieces
    | none =>
      rw [pieces_of_none hreference] at hpieces
      obtain ⟨hfirst, rfl⟩ := List.cons.inj hpieces
      exact ⟨rest, by rw [Piece.plain.inj hfirst], rfl⟩

/-- A comment among the pieces was one in the text. -/
theorem HasComment.of_pieces (hcomment : HasComment (.plain '/') (.plain '*') (pieces text)) :
    HasComment '/' '*' text := by
  obtain ⟨body, hopened, hclosed⟩ := hcomment
  obtain ⟨opening, hopening, hopened⟩ := exists_suffix_of_pieces hopened
  obtain ⟨star, rfl, hstar⟩ := exists_rest_of_pieces hopened
  obtain ⟨rest, rfl, rfl⟩ := exists_rest_of_pieces hstar
  obtain ⟨later, hlater⟩ := exists_suffix_of_infix hclosed
  obtain ⟨closing, hclosing, hclosed⟩ := exists_suffix_of_pieces hlater
  obtain ⟨slash, rfl, hslash⟩ := exists_rest_of_pieces hclosed
  obtain ⟨behind, rfl, -⟩ := exists_rest_of_pieces hslash
  exact ⟨rest, hopening, List.IsInfix.trans ⟨[], behind, rfl⟩ hclosing.isInfix⟩

/-- Where no slash is kept from a star by comments, and no slash from a star or star from a slash
by imports, the conservative sanitizer leaves no comment outside the references that it writes. -/
theorem conservative_leaves_no_comment (css : String) (context : Url) (links : LinkRouter)
    (hcomments : ¬ KeptApart IsComment '/' '*' (css.toList.filter (· != '<')))
    (hopened : ¬ KeptApart IsImport '/' '*' (removeComments (css.toList.filter (· != '<'))))
    (hclosed : ¬ KeptApart IsImport '*' '/' (removeComments (css.toList.filter (· != '<')))) :
    (conservative css context links).value = .clean (String.ofList
        (writtenPieces links context (pieces (removeDangers css.toList)))) ∧
      ¬ HasComment (.plain '/') (.plain '*') (pieces (removeDangers css.toList)) := by
  refine ⟨conservative_value_pieces css context links, fun hpieces => ?_⟩
  have himports := hpieces.of_pieces.of_removeHooked
  rcases (removeImports_leaves _).hasComment himports with hcomment | hapart | hapart
  · exact not_hasComment_removeComments hcomments hcomment
  · exact hopened hapart
  · exact hclosed hapart

theorem conservative_leaves_no_comment_split :
    ¬ KeptApart IsComment '/' '*' ("expr/**/ession(1); @import 'b'; /x".toList.filter (· != '<')) ∧
      (∀ first ∈ ['/', '*'], ∀ second, ¬ KeptApart IsImport first second
        (removeComments ("expr/**/ession(1); @import 'b'; /x".toList.filter (· != '<')))) ∧
      (conservative "expr/**/ession(1); @import 'b'; /x" UriReference.trialBase
        fun link _ => pure link).value = .clean (String.ofList
          (writtenPieces (fun link _ => pure link) UriReference.trialBase
            (pieces (removeDangers "expr/**/ession(1); @import 'b'; /x".toList)))) ∧
      ¬ HasComment (.plain '/') (.plain '*')
        (pieces (removeDangers "expr/**/ession(1); @import 'b'; /x".toList)) := by
  have hcomments : ¬ KeptApart IsComment '/' '*'
      ("expr/**/ession(1); @import 'b'; /x".toList.filter (· != '<')) := by
    intro hapart
    exact absurd hapart.slash_infix (by decide)
  have himports : ∀ first ∈ ['/', '*'], ∀ second, ¬ KeptApart IsImport first second
      (removeComments ("expr/**/ession(1); @import 'b'; /x".toList.filter (· != '<'))) := by
    have hremoved : removeComments
        ("expr/**/ession(1); @import 'b'; /x".toList.filter (· != '<')) =
          "expression(1); @import 'b'; /x".toList := by
      decide +kernel
    have hsigns : ∀ sign ∈ "expression(1); @import 'b'; /x".toList,
        foldLetter sign = '@' → sign = '@' := by
      simp [foldLetter]
    intro first hfirst second hapart
    rw [hremoved] at hapart
    obtain ⟨sign, hsign, hwithin⟩ := hapart.sign_infix
    obtain rfl := hsigns sign (hwithin.subset (by simp)) hsign
    rcases List.mem_pair.1 hfirst with rfl | rfl
    · exact absurd hwithin (by decide)
    · exact absurd hwithin (by decide)
  exact ⟨hcomments, himports, conservative_leaves_no_comment _ _ _ hcomments
    (himports '/' (by decide) '*') (himports '*' (by decide) '/')⟩

/-- The removal of one comment can make another one. -/
theorem removeDangers_joins_comment :
    removeDangers "expr//**/*x*/ession(1)".toList = "expr/*x*/ession(1)".toList := by
  decide +kernel

/-- However the output is put together, this comment stands outside of the references. -/
theorem conservative_leaves_joined_comment :
    ¬ ∃ list,
      (conservative "expr//**/*x*/ession(1)" UriReference.trialBase
        fun link _ => pure link).value = .clean (String.ofList
          (writtenPieces (fun link _ => pure link) UriReference.trialBase list)) ∧
      ¬ HasComment (.plain '/') (.plain '*') list := by
  rintro ⟨list, hvalue, hnone⟩
  have hpieces : pieces "expr/*x*/ession(1)".toList = "expr/*x*/ession(1)".toList.map .plain := by
    decide +kernel
  rw [conservative_value_pieces, removeDangers_joins_comment, hpieces, writtenPieces_map_plain,
    Outcome.clean.injEq, String.ofList_inj] at hvalue
  have hplain := eq_map_plain_of_not_mem (by rw [← hvalue]; simp)
  rw [← hvalue] at hplain
  refine hnone ⟨"x*/ession(1)".toList.map .plain, ?_, ?_⟩
  · rw [hplain]
    exact ⟨"expr".toList.map .plain, rfl⟩
  · exact ⟨[.plain 'x'], "ession(1)".toList.map .plain, rfl⟩

end GadgetGuard.Style
