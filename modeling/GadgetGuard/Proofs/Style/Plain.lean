import GadgetGuard.Proofs.Link.Proxied
import GadgetGuard.Style.Sanitizer
/-!
# Sanitized stylesheets open no tags

A sanitized stylesheet is written into a page as it is.  Every `<` is taken out first, and what
is done afterwards only drops characters or writes links, which have none either.
-/

namespace GadgetGuard

open GadgetGuard.Text

namespace Style

theorem afterComment?_suffix {text rest : List Char} (hclose : afterComment? text = some rest) :
    rest <:+ text := by
  fun_induction afterComment? text with
  | case1 rest' =>
    obtain rfl := Option.some.inj hclose
    exact ((List.suffix_cons '/' rest').trans (List.suffix_cons '*' _))
  | case2 c rest' _ ih => exact (ih hclose).trans (List.suffix_cons c rest')
  | case3 => contradiction

theorem afterKeyword?_suffix {keyword text rest : List Char}
    (hkeyword : afterKeyword? keyword text = some rest) : rest <:+ text := by
  fun_induction afterKeyword? keyword text with
  | case1 text =>
    obtain rfl := Option.some.inj hkeyword
    exact List.suffix_refl text
  | case2 => contradiction
  | case3 keyword c text ih => exact (ih hkeyword).trans (List.suffix_cons c text)
  | case4 => contradiction

theorem removeComments_sublist (text : List Char) : (removeComments text).Sublist text := by
  fun_induction removeComments text with
  | case1 => exact .slnil
  | case2 body rest hclose ih =>
    exact ((ih.trans (afterComment?_suffix hclose).sublist).cons '*').cons '/'
  | case3 body hopen ih => exact ih.cons_cons '/'
  | case4 c rest hother ih => exact ih.cons_cons c

theorem removeImports_sublist (text : List Char) : (removeImports text).Sublist text := by
  fun_induction removeImports text with
  | case1 => exact .slnil
  | case2 c rest body hkeyword ih =>
    have hbody := (afterKeyword?_suffix hkeyword).sublist
    have hlater : (afterSemicolon body).Sublist body :=
      (List.drop_sublist 1 _).trans (List.dropWhile_sublist _)
    exact (ih.trans hlater).trans hbody
  | case3 c rest hkeyword ih => exact ih.cons_cons c

theorem ite_nil_sublist {dropped : Bool} (stretch : List Char) :
    (if dropped then [] else stretch).Sublist stretch := by
  cases dropped with
  | true => exact List.nil_sublist stretch
  | false => exact List.Sublist.refl stretch

/-- A stretch, the separator that ends it and what follows make up the text. -/
theorem stretch_append {text rest : List Char} {separator : Char}
    (hrest : text.dropWhile (! isSeparator ·) = separator :: rest) :
    text.takeWhile (! isSeparator ·) ++ separator :: rest = text := by
  rw [← hrest]
  exact List.takeWhile_append_dropWhile

theorem removeHooked_sublist (text : List Char) : (removeHooked text).Sublist text := by
  fun_induction removeHooked text with
  | case1 text stretch kept hrest =>
    exact (ite_nil_sublist stretch).trans (List.takeWhile_sublist _)
  | case2 text stretch separator rest hrest hdropped ih =>
    have htext : (separator :: rest).Sublist text := hrest ▸ List.dropWhile_sublist _
    exact (ih.cons separator).trans htext
  | case3 text stretch kept separator rest hrest hstays ih =>
    have htext : stretch ++ separator :: rest = text := stretch_append hrest
    rw [← htext]
    exact (ite_nil_sublist stretch).append (ih.cons_cons separator)

theorem not_mem_removeDangers (css : List Char) : '<' ∉ removeDangers css := by
  intro hmem
  have hfiltered := (((removeHooked_sublist _).trans (removeImports_sublist _)).trans
    (removeComments_sublist _)).subset hmem
  rw [List.mem_filter] at hfiltered
  simp at hfiltered

theorem quotedLink?_suffix {quote : Char} {text link rest : List Char}
    (hlink : quotedLink? quote text = some (link, rest)) : rest <:+ text := by
  unfold quotedLink? at hlink
  split at hlink
  · contradiction
  next c after hdrop =>
    have hafter : c :: after <:+ text := hdrop ▸ List.dropWhile_suffix _
    split at hlink
    next later hblank =>
      have hlater : ')' :: later <:+ after := hblank ▸ List.dropWhile_suffix _
      rw [← (Prod.mk.inj (Option.some.inj hlink)).2]
      exact (((List.suffix_cons ')' later).trans hlater).trans
        (List.suffix_cons c after)).trans hafter
    · contradiction

theorem bareLink?_suffix {text link rest : List Char}
    (hlink : bareLink? text = some (link, rest)) : rest <:+ text := by
  unfold bareLink? at hlink
  split at hlink
  · contradiction
  next c later hdrop =>
    have hlater : c :: later <:+ text := hdrop ▸ List.dropWhile_suffix _
    rw [← (Prod.mk.inj (Option.some.inj hlink)).2]
    exact (List.suffix_cons c later).trans hlater

theorem readLink?_suffix {text link rest : List Char}
    (hlink : readLink? text = some (link, rest)) : rest <:+ text := by
  have hbody : text.dropWhile isBlank <:+ text := List.dropWhile_suffix _
  unfold readLink? at hlink
  dsimp only at hlink
  split at hlink
  next quoted hquoted =>
    rcases Option.or_eq_some_iff.1 hlink with hread | ⟨_, hread⟩
    · have hrest := (quotedLink?_suffix hread).trans (List.suffix_cons '"' quoted)
      exact hrest.trans (hquoted ▸ hbody)
    · exact (bareLink?_suffix hread).trans hbody
  next quoted hquoted =>
    rcases Option.or_eq_some_iff.1 hlink with hread | ⟨_, hread⟩
    · have hrest := (quotedLink?_suffix hread).trans (List.suffix_cons '\'' quoted)
      exact hrest.trans (hquoted ▸ hbody)
    · exact (bareLink?_suffix hread).trans hbody
  · exact (bareLink?_suffix hlink).trans hbody

theorem reference?_suffix {text link rest : List Char}
    (hreference : reference? text = some (link, rest)) : rest <:+ text := by
  obtain ⟨body, hkeyword, hlink⟩ := Option.bind_eq_some_iff.1 hreference
  exact (readLink?_suffix hlink).trans (afterKeyword?_suffix hkeyword)

/-- The pieces of a text hold no other characters, links aside. -/
theorem mem_of_plain_mem_pieces {c : Char} (text : List Char) (hmem : .plain c ∈ pieces text) :
    c ∈ text := by
  fun_induction pieces text with
  | case1 => contradiction
  | case2 first rest link later hreference ih =>
    rw [List.mem_cons] at hmem
    cases hmem with
    | inl hlink => contradiction
    | inr hlater => exact (reference?_suffix hreference).subset (ih hlater)
  | case3 first rest hreference ih =>
    rw [List.mem_cons] at hmem
    cases hmem with
    | inl hfirst =>
      rw [Piece.plain.inj hfirst]
      exact List.mem_cons_self
    | inr hrest => exact List.mem_cons_of_mem _ (ih hrest)

theorem not_mem_referenceText {link : String} (hlink : '<' ∉ link.toList) :
    '<' ∉ (referenceText link).toList := by
  have hescaped : '<' ∉ (escapeQuotes link).toList := by
    rw [escapeQuotes, String.toList_ofList, List.mem_flatMap]
    rintro ⟨c, hc, hmem⟩
    split at hmem
    · simp at hmem
    · exact hlink ((List.mem_singleton.1 hmem) ▸ hc)
  simp [referenceText, hescaped]

theorem routePieces_value (links : LinkRouter) (context : Url) (list : List Piece) :
    (routePieces links context list).value =
      list.map fun piece => (piece.routed links context).value := by
  induction list with
  | nil => rfl
  | cons piece later ih =>
    rw [routePieces, Traced.value_bind, Traced.value_bind, ih]
    rfl

/-- Where no link is written with a `<`, no stylesheet is. -/
theorem not_mem_sanitizeConservatively {css : String} {context : Url} {links : LinkRouter}
    (hlinks : ∀ link, '<' ∉ (links link context).value.toList) :
    '<' ∉ (sanitizeConservatively css context links).value.toList := by
  rw [sanitizeConservatively, Traced.value_bind, Traced.value_pure, routePieces_value,
    String.toList_join, List.mem_flatMap]
  rintro ⟨_, hwritten, hmem⟩
  obtain ⟨piece, hpiece, rfl⟩ := List.mem_map.1 hwritten
  cases piece with
  | plain c =>
    have hc := mem_of_plain_mem_pieces _ hpiece
    have hopen : '<' = c := by simpa [Piece.routed] using hmem
    exact not_mem_removeDangers css.toList (hopen ▸ hc)
  | reference link => exact not_mem_referenceText (hlinks _) hmem

/-- A stylesheet is never refused, and none that comes out opens a tag. -/
theorem conservative_value {css : String} {context : Url} {origin : Link.Origin}
    (hbase : '<' ∉ origin.settings.proxyBase.toList) :
    ∃ cleaned, (conservative css context (Link.forStylesheets origin)).value = .clean cleaned ∧
      '<' ∉ cleaned.toList :=
  ⟨_, rfl, not_mem_sanitizeConservatively fun link =>
    Link.not_mem_forStylesheets hbase link context⟩

end Style

end GadgetGuard
