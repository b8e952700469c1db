import GadgetGuard.Proofs.Proxy.Presented
import GadgetGuard.Proofs.Text.Ascii
import GadgetGuard.Proofs.Text.Cut
/-!
# Which hosts the proxy does not answer on

With locked domains the proxy answers on no host that ends like the hosts of gadgets, in any case
and with any port.  The end of a host is compared as it is written, so a dot for the root of all
names is part of it: a gadget host that is written with this dot is not taken for one.
-/

namespace GadgetGuard

open GadgetGuard.Text

namespace LockedDomain

variable {domain : LockedDomain} {name port : List Char}

theorem withoutPort_of_name (hname : ∀ c ∈ name, c ≠ ':' ∧ c ≠ '[') : withoutPort name = name := by
  have hcolon : ':' ∉ name := fun hmem => (hname _ hmem).1 rfl
  unfold withoutPort
  split
  next rest => exact absurd rfl (hname '[' List.mem_cons_self).2
  · rw [cutLast_of_not_mem hcolon]

theorem withoutPort_append (hname : ∀ c ∈ name, c ≠ ':' ∧ c ≠ '[') (hport : ':' ∉ port) :
    withoutPort (name ++ ':' :: port) = name := by
  unfold withoutPort
  split
  next rest hbracket =>
    cases name with
    | nil => simp at hbracket
    | cons c name =>
      obtain ⟨rfl, -⟩ := List.cons.inj hbracket
      exact absurd rfl (hname _ List.mem_cons_self).2
  · rw [cutLast_append name hport]

/-- Whether the proxy answers on a host is settled by the end of its name. -/
theorem isSafe_eq_false_iff {host : String} (henabled : domain.enabled = true)
    (hsuffix : domain.suffix ≠ "") (hhost : withoutPort host.toList = name) :
    domain.isSafe (some host) = false ↔
      hasEnding (lower domain.suffix) (lower (String.ofList name)) = true := by
  have hsome : domain.suffix.isEmpty = false := by
    rwa [← Bool.not_eq_true, String.isEmpty_iff]
  rw [isSafe, henabled, hasEnding, lower_ofList, String.toList_ofList]
  dsimp only
  rw [hhost, hsome, Bool.not_true, if_neg Bool.false_ne_true, Bool.false_or, Bool.not_eq_false']

end LockedDomain

namespace ProxyHandler

/-- Where locked domains are used and have a suffix, the proxy takes a host for that of a gadget
exactly if its name, port aside, ends with the suffix in any case.  A dot at the end of the name
counts as its last character.  A request that names such a host, or none, is refused without
anything being fetched. -/
theorem fetch_refuses_gadget_hosts (domain : LockedDomain) (henabled : domain.enabled = true)
    (hsuffix : domain.suffix ≠ "") :
    (∀ name port root : String, (∀ c ∈ name.toList, c ≠ ':' ∧ c ≠ '[') → ':' ∉ port.toList →
      root ∈ ["", "."] → ∀ host ∈ [name ++ root, name ++ root ++ ":" ++ port],
        (domain.isSafe (some host) = false ↔
          hasEnding (lower domain.suffix) (lower (name ++ root)) = true)) ∧
    ∀ (handler : ProxyHandler) (earlier : List ResourceRequest) (now : Int)
      (request : ProxyRequest), handler.lockedDomain = domain →
      request.headers.contains "if-modified-since" = false →
      (request.headers.getAll "host" = [] ∨ domain.isSafe request.host? = false) →
      ∃ detail, (handler.fetch earlier now request).value =
        ⟨.error (.invalidParameter detail), []⟩ := by
  constructor
  · intro name port root hname hport hroot host hhost
    have hrooted : ∀ c ∈ (name ++ root).toList, c ≠ ':' ∧ c ≠ '[' := by
      have hdot : ∀ c ∈ root.toList, c ≠ ':' ∧ c ≠ '[' := by
        simp only [List.mem_cons, List.not_mem_nil, or_false] at hroot
        rcases hroot with rfl | rfl <;> simp
      intro c hc
      rw [String.toList_append, List.mem_append] at hc
      exact hc.elim (hname c) (hdot c)
    have hwithout : LockedDomain.withoutPort host.toList = (name ++ root).toList := by
      simp only [List.mem_cons, List.not_mem_nil, or_false] at hhost
      rcases hhost with rfl | rfl
      · exact LockedDomain.withoutPort_of_name hrooted
      · have htext : (name ++ root ++ ":" ++ port).toList =
            (name ++ root).toList ++ ':' :: port.toList := by
          simp
        rw [htext]
        exact LockedDomain.withoutPort_append hrooted hport
    rw [LockedDomain.isSafe_eq_false_iff henabled hsuffix hwithout, String.ofList_toList]
  · intro handler earlier now request hdomain hconditional hhost
    have hgadget : handler.lockedDomain.isSafe request.host? = false := by
      rcases hhost with hmissing | hgadget
      · have hnone : request.host? = none := by
          rw [ProxyRequest.host?, Headers.text?, Headers.get?_eq_head?, hmissing]
          rfl
        rw [hnone, hdomain, LockedDomain.isSafe, henabled]
        rfl
      · rw [hdomain, hgadget]
    have hrefused : (handler.fetch earlier now request).value =
        ⟨.error (.invalidParameter ("embed request for url " ++
          (request.query.get? Parameter.url).getD "" ++ " made to wrong domain " ++
          request.host?.getD "")), []⟩ := by
      rw [fetch, hconditional, hgadget]
      rfl
    exact ⟨_, hrefused⟩

/-- A handler that has nothing to fetch. -/
def idle (domain : LockedDomain) : ProxyHandler :=
  { settings := {}
    lockedDomain := domain
    responseGuard := none
    pipeline := fun _ => pure ⟨404, Headers.empty, []⟩ }

theorem fetch_refuses_gadget_hosts_ported :
    let domain : LockedDomain := ⟨true, "-a.Example.com"⟩
    let request : ProxyRequest := ⟨⟨[("host", "X1-A.example.COM:8080".toUTF8.toList)]⟩, ⟨[]⟩⟩
    domain.isSafe request.host? = false ∧
      ∃ detail, ((idle domain).fetch [] 0 request).value =
        ⟨.error (.invalidParameter detail), []⟩ := by
  intro domain request
  obtain ⟨hverdict, hrefused⟩ := fetch_refuses_gadget_hosts domain rfl (by decide +kernel)
  have hgadget : domain.isSafe request.host? = false := by
    have hhost : request.host? = some ("X1-A.example.COM" ++ "" ++ ":" ++ "8080") := by
      decide +kernel
    rw [hhost, hverdict "X1-A.example.COM" "8080" "" (by simp) (by decide +kernel)
      (List.mem_cons_self) _ (List.mem_cons_of_mem _ (List.mem_singleton.2 rfl))]
    decide +kernel
  exact ⟨hgadget, hrefused (idle domain) [] 0 request rfl rfl (.inr hgadget)⟩

end ProxyHandler

/-- The dot for the root of all names hides the host of a gadget. -/
theorem LockedDomain.isSafe_of_rooted_gadget_host :
    let domain : LockedDomain := ⟨true, "-a.example.com"⟩
    ¬ (domain.isSafe (some ("x1-a.example.com" ++ ".")) = false ↔
      hasEnding (lower domain.suffix) (lower "x1-a.example.com") = true) := by
  decide +kernel

end GadgetGuard
