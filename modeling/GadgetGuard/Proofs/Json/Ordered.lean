import GadgetGuard.Json5.Reader
import GadgetGuard.Proofs.Json.Defaults
/-!
# Values that are read

The members of every object that a JSON5 text spells are in the order of their names, also if the
text gives them in another order or more than once.  What a text without spaces spells is seen from
its tokens alone.
-/

namespace GadgetGuard.Json5

open GadgetGuard.Text

variable {value : Json} {text after : List Char} {token : Token} {tokens : List Token}

theorem isOrdered_decimal {negative : Bool} {number : DecimalText}
    (hvalue : number.value? negative = some value) : value.IsOrdered := by
  rw [DecimalText.value?] at hvalue
  split at hvalue
  · obtain ⟨-, hsame⟩ := Option.ite_none_right_eq_some.1 hvalue
    obtain rfl := Option.some.inj hsame
    exact .integer _
  · obtain ⟨number, -, rfl⟩ := Option.map_eq_some_iff.1 hvalue
    exact .real number

theorem isOrdered_of_number? (hvalue : number? text = some value) : value.IsOrdered := by
  rw [number?.eq_def] at hvalue
  split at hvalue
  · obtain rfl := Option.some.inj hvalue
    exact .null
  · split at hvalue
    case h_1 digits =>
      split at hvalue
      · contradiction
      · obtain ⟨number, -, rfl⟩ := Option.map_eq_some_iff.1 hvalue
        exact .integer _
    case h_2 digits =>
      split at hvalue
      · contradiction
      · obtain ⟨number, -, rfl⟩ := Option.map_eq_some_iff.1 hvalue
        exact .integer _
    all_goals
      obtain ⟨number, -, hnumber⟩ := Option.bind_eq_some_iff.1 hvalue
      exact isOrdered_decimal hnumber

theorem isOrdered_of_firstToken? {c : Char} {rest : List Char}
    (htoken : firstToken? c rest = some (.number value, after)) : value.IsOrdered := by
  rw [firstToken?] at htoken
  split at htoken
  · simp at htoken
  · split at htoken
    · simp [Option.bind_eq_some_iff] at htoken
    · split at htoken
      · obtain ⟨number, hnumber, hsame⟩ := Option.bind_eq_some_iff.1 htoken
        obtain ⟨rfl, -⟩ : number = value ∧ _ := by simpa using hsame
        exact isOrdered_of_number? hnumber
      · split at htoken
        · contradiction
        · simp [Option.bind_eq_some_iff] at htoken

theorem isOrdered_of_tokens? (htokens : tokens? text = some tokens)
    (hmember : .number value ∈ tokens) : value.IsOrdered := by
  fun_induction tokens? text generalizing tokens with
  | case1 => simp_all
  | case2 => contradiction
  | case3 text c rest hskip token after hfirst ih =>
    obtain ⟨later, hlater, rfl⟩ := Option.map_eq_some_iff.1 htokens
    obtain rfl | hmember := List.mem_cons.1 hmember
    · exact isOrdered_of_firstToken? hfirst
    · exact ih hlater hmember

theorem isOrdered_namedValue {name : String} (hvalue : namedValue? name = some value) :
    value.IsOrdered := by
  rw [namedValue?.eq_def] at hvalue
  split at hvalue
  all_goals
    first
    | contradiction
    | obtain rfl := Option.some.inj hvalue
      constructor

/-- The numbers among some tokens are in order, as values that hold nothing are. -/
def HasOrderedNumbers (tokens : List Token) : Prop :=
  ∀ value, Token.number value ∈ tokens → value.IsOrdered

theorem HasOrderedNumbers.of_subset {later : List Token} (hnumbers : HasOrderedNumbers tokens)
    (hsubset : later ⊆ tokens) : HasOrderedNumbers later :=
  fun value hvalue => hnumbers value (hsubset hvalue)

/-- What is read of some tokens is in order, and what is left was among them. -/
def ReadsOrdered {α : Type} (read : (tokens : List Token) → Option (α × Rest tokens))
    (isOrdered : α → Prop) (tokens : List Token) : Prop :=
  ∀ content rest, read tokens = some (content, rest) →
    rest.1 ⊆ tokens ∧ (HasOrderedNumbers tokens → isOrdered content)

theorem readsOrdered (tokens : List Token) : ReadsOrdered value? Json.IsOrdered tokens := by
  -- What is left to read is among the tokens given, so it has their ordered numbers.
  refine value?.induct (ReadsOrdered value? Json.IsOrdered)
    (ReadsOrdered members? fun members => ∀ m ∈ members, m.2.IsOrdered)
    (ReadsOrdered items? fun items => ∀ item ∈ items, item.IsOrdered)
    ?number ?text ?name ?list ?object ?other ?noMembers ?members ?noMark ?noItems ?items tokens
  case number =>
    intro number tokens value rest hread
    rw [value?] at hread
    obtain ⟨rfl, rfl⟩ := Prod.mk.inj (Option.some.inj hread)
    exact ⟨List.subset_cons_self _ _, fun hnumbers => hnumbers _ List.mem_cons_self⟩
  case text =>
    intro content tokens value rest hread
    rw [value?] at hread
    obtain ⟨rfl, rfl⟩ := Prod.mk.inj (Option.some.inj hread)
    exact ⟨List.subset_cons_self _ _, fun _ => .string content⟩
  case name =>
    intro content tokens value rest hread
    rw [value?] at hread
    obtain ⟨named, hnamed, hsame⟩ := Option.map_eq_some_iff.1 hread
    obtain ⟨rfl, rfl⟩ := Prod.mk.inj hsame
    exact ⟨List.subset_cons_self _ _, fun _ => isOrdered_namedValue hnamed⟩
  case list =>
    intro tokens ih value rest hread
    rw [value?] at hread
    obtain ⟨⟨items, after⟩, hitems, hsame⟩ := Option.bind_eq_some_iff.1 hread
    obtain ⟨rfl, rfl⟩ := Prod.mk.inj (Option.some.inj hsame)
    obtain ⟨hsubset, hordered⟩ := ih items after hitems
    have hlater := List.subset_cons_self (Token.mark '[') tokens
    exact ⟨List.Subset.trans hsubset hlater, fun hnumbers =>
      .array (hordered (hnumbers.of_subset hlater))⟩
  case object =>
    intro tokens ih value rest hread
    rw [value?] at hread
    obtain ⟨⟨members, after⟩, hmembers, hsame⟩ := Option.bind_eq_some_iff.1 hread
    obtain ⟨rfl, rfl⟩ := Prod.mk.inj (Option.some.inj hsame)
    obtain ⟨hsubset, hordered⟩ := ih members after hmembers
    have hlater := List.subset_cons_self (Token.mark '\x7b') tokens
    exact ⟨List.Subset.trans hsubset hlater,
      fun hnumbers => .ofMembers (hordered (hnumbers.of_subset hlater))⟩
  case other =>
    intro tokens hnumber htext hname hlist hobject value rest hread
    rw [value?] at hread
    · contradiction
    all_goals assumption
  case noMembers =>
    intro tokens members rest hread
    rw [members?] at hread
    obtain ⟨rfl, rfl⟩ := Prod.mk.inj (Option.some.inj hread)
    exact ⟨List.subset_cons_self _ _, fun _ m hm => nomatch hm⟩
  case members =>
    intro first tokens hmark ihvalue ihmembers members rest hread
    have hlater : tokens ⊆ first :: Token.mark ':' :: tokens :=
      List.subset_cons_of_subset _ (List.subset_cons_self _ _)
    rw [members?] at hread
    · obtain ⟨name, -, hread⟩ := Option.bind_eq_some_iff.1 hread
      obtain ⟨⟨value, after⟩, hvalue, hread⟩ := Option.bind_eq_some_iff.1 hread
      obtain ⟨hsubset, hordered⟩ := ihvalue value after hvalue
      dsimp only at hread
      split at hread
      next later hafter =>
        obtain ⟨rfl, rfl⟩ := Prod.mk.inj (Option.some.inj hread)
        rw [hafter] at hsubset
        refine ⟨List.Subset.trans (List.cons_subset.1 hsubset).2 hlater, fun hnumbers => ?_⟩
        exact List.forall_mem_singleton.2 (hordered (hnumbers.of_subset hlater))
      next more hafter =>
        obtain ⟨⟨others, behind⟩, hothers, hsame⟩ := Option.bind_eq_some_iff.1 hread
        obtain ⟨rfl, rfl⟩ := Prod.mk.inj (Option.some.inj hsame)
        obtain ⟨hbehind, hrest⟩ := ihmembers after more hafter others behind hothers
        rw [hafter] at hsubset
        have hmore := List.Subset.trans (List.cons_subset.1 hsubset).2 hlater
        refine ⟨List.Subset.trans hbehind hmore, fun hnumbers => List.forall_mem_cons.2 ⟨?_, ?_⟩⟩
        · exact hordered (hnumbers.of_subset hlater)
        · exact hrest (hnumbers.of_subset hmore)
      next => contradiction
    · exact hmark
  case noMark =>
    intro tokens hmark hmembers members rest hread
    rw [members?] at hread
    · contradiction
    all_goals assumption
  case noItems =>
    intro tokens items rest hread
    rw [items?] at hread
    obtain ⟨rfl, rfl⟩ := Prod.mk.inj (Option.some.inj hread)
    exact ⟨List.subset_cons_self _ _, fun _ item hitem => nomatch hitem⟩
  case items =>
    intro tokens hmark ihvalue ihitems items rest hread
    rw [items?] at hread
    · obtain ⟨⟨item, after⟩, hitem, hread⟩ := Option.bind_eq_some_iff.1 hread
      obtain ⟨hsubset, hordered⟩ := ihvalue item after hitem
      dsimp only at hread
      split at hread
      next later hafter =>
        obtain ⟨rfl, rfl⟩ := Prod.mk.inj (Option.some.inj hread)
        rw [hafter] at hsubset
        refine ⟨(List.cons_subset.1 hsubset).2, fun hnumbers => ?_⟩
        exact List.forall_mem_singleton.2 (hordered hnumbers)
      next more hafter =>
        obtain ⟨⟨others, behind⟩, hothers, hsame⟩ := Option.bind_eq_some_iff.1 hread
        obtain ⟨rfl, rfl⟩ := Prod.mk.inj (Option.some.inj hsame)
        obtain ⟨hbehind, hrest⟩ := ihitems after more hafter others behind hothers
        rw [hafter] at hsubset
        have hmore := (List.cons_subset.1 hsubset).2
        refine ⟨List.Subset.trans hbehind hmore, fun hnumbers => List.forall_mem_cons.2 ⟨?_, ?_⟩⟩
        · exact hordered hnumbers
        · exact hrest (hnumbers.of_subset hmore)
      next => contradiction
    · assumption

/-! ## Texts in which nothing stands between tokens -/

/-- The tokens of a text without spaces and comments, if there are no more than so many. -/
def denseTokens? : Nat → List Char → Option (List Token)
  | _, [] => some []
  | 0, _ => none
  | count + 1, c :: rest =>
    if isSpace c || c == '/' then none
    else do
      let (token, after) ← firstToken? c rest
      return token :: (← denseTokens? count after)

variable {count : Nat}

theorem skipSpace_of_dense {c : Char} {rest : List Char} (hspace : isSpace c = false)
    (hslash : c ≠ '/') : skipSpace (c :: rest) = c :: rest := by
  rw [skipSpace.eq_def]
  split
  next heq => exact absurd (List.cons.inj heq).1 hslash
  next heq => exact absurd (List.cons.inj heq).1 hslash
  next heq =>
    obtain ⟨rfl, rfl⟩ := List.cons.inj heq
    rw [hspace]
    rfl
  next => contradiction

theorem skipSpace_of_denseTokens? (hdense : denseTokens? count text = some tokens) :
    skipSpace text = text := by
  rw [denseTokens?.eq_def] at hdense
  split at hdense
  · rw [skipSpace.eq_def]
  · contradiction
  next count c rest =>
    obtain ⟨hsolid, -⟩ := Option.ite_none_left_eq_some.1 hdense
    simp only [Bool.or_eq_true, beq_iff_eq, not_or, Bool.not_eq_true] at hsolid
    exact skipSpace_of_dense hsolid.1 hsolid.2

theorem tokens?_of_denseTokens? (hdense : denseTokens? count text = some tokens) :
    tokens? text = some tokens := by
  fun_induction tokens? text generalizing count tokens with
  | case1 text hskip =>
    obtain rfl := (skipSpace_of_denseTokens? hdense).symm.trans hskip
    rwa [denseTokens?] at hdense
  | case2 text c rest hskip hfirst =>
    obtain rfl := (skipSpace_of_denseTokens? hdense).symm.trans hskip
    cases count with
    | zero => contradiction
    | succ count => simp [denseTokens?, hfirst] at hdense
  | case3 text c rest hskip token after hfirst ih =>
    obtain rfl := (skipSpace_of_denseTokens? hdense).symm.trans hskip
    cases count with
    | zero => contradiction
    | succ count =>
      obtain ⟨-, hrest⟩ := Option.ite_none_left_eq_some.1 hdense
      simp only [hfirst, Option.bind_eq_bind, Option.bind_some, Option.pure_def,
        Option.bind_eq_some_iff] at hrest
      obtain ⟨others, hothers, hsame⟩ := hrest
      rw [ih hothers]
      exact hsame

end GadgetGuard.Json5

namespace GadgetGuard.Json

theorem ofJson5?_of_denseTokens? {count : Nat} {text : List Char} {value : Json}
    (tokens : List Json5.Token) (hdense : Json5.denseTokens? count text = some tokens)
    (hvalue : (Json5.value? tokens).map (fun read => (read.1, read.2.1)) = some (value, [])) :
    ofJson5? text = some value := by
  obtain ⟨⟨read, rest⟩, hread, hsame⟩ := Option.map_eq_some_iff.1 hvalue
  obtain ⟨rfl, (hrest : rest.1 = [])⟩ := Prod.mk.inj hsame
  rw [ofJson5?, Json5.tokens?_of_denseTokens? hdense, Option.bind_eq_bind, Option.bind_some, hread]
  simp [hrest]

theorem IsOrdered.of_ofJson5? {text : List Char} {value : Json}
    (hvalue : ofJson5? text = some value) : value.IsOrdered := by
  obtain ⟨tokens, htokens, hrest⟩ := Option.bind_eq_some_iff.1 hvalue
  obtain ⟨⟨read, rest⟩, hread, hend⟩ := Option.bind_eq_some_iff.1 hrest
  obtain ⟨-, hsame⟩ := Option.ite_none_right_eq_some.1 hend
  obtain rfl := Option.some.inj hsame
  exact (Json5.readsOrdered tokens read rest hread).2 fun number hnumber =>
    Json5.isOrdered_of_tokens? htokens hnumber

end GadgetGuard.Json
