import GadgetGuard.Fetch.Fetcher
import GadgetGuard.Proofs.Proxy.Reserved
import GadgetGuard.Proofs.Url.Host
/-!
# Which addresses are connected to

A fetch either fails before it reaches the network, or it sends its request to one address: the
one that the URL spells, or the first one of the name in the URL.  Unless private networks are
allowed, neither that address nor any other one of the name is reserved.
-/

namespace GadgetGuard

/-- The address to which the requests for a host are sent, and the other ones that it has. -/
inductive Host.HasAddresses (addresses : String → Except String (List Address)) :
    Host → Address → List Address → Prop
  | ipv4 (address : Ipv4) : HasAddresses addresses (.ipv4 address) (.ipv4 address) []
  | ipv6 (address : Ipv6) : HasAddresses addresses (.ipv6 address) (.ipv6 address) []
  | domain {name : String} {first : Address} {others : List Address}
      (hname : addresses name = .ok (first :: others)) :
      HasAddresses addresses (.domain name) first others

theorem forM_eq_ok_iff {ε α : Type} {check : α → Except ε Unit} {items : List α} :
    forM items check = .ok () ↔ ∀ item ∈ items, check item = .ok () := by
  induction items with
  | nil => simp [pure, Except.pure]
  | cons item items ih =>
    rw [List.forM_cons, Except.bind_eq_ok_iff, List.forall_mem_cons, ← ih]
    exact ⟨fun ⟨_, hitem, hitems⟩ => ⟨hitem, hitems⟩, fun ⟨hitem, hitems⟩ => ⟨(), hitem, hitems⟩⟩

namespace TargetPolicy

variable {policy : TargetPolicy} {url : Url} {address : Address} {name : String}

theorem checkUrl_eq_ok (hpublic : policy.allowPrivate = false)
    (hcheck : policy.checkUrl url = .ok ()) :
    (url.scheme = "http" ∨ url.scheme = "https") ∧
      ∃ host, url.host? = some host ∧ checkHost host = .ok () := by
  rw [checkUrl, hpublic] at hcheck
  split at hcheck
  · contradiction
  next hscheme =>
    refine ⟨by simpa [or_iff_not_imp_left] using hscheme, ?_⟩
    split at hcheck
    · contradiction
    next host hhost => exact ⟨host, hhost, hcheck⟩

theorem checkAddress_eq_ok (hcheck : checkAddress address = .ok ()) : ¬ address.IsReserved := by
  rw [← address.isPrivate_iff]
  intro hprivate
  rw [checkAddress, if_pos hprivate] at hcheck
  contradiction

theorem checkResolved_eq_ok (hpublic : policy.allowPrivate = false)
    (hcheck : policy.checkResolved address name = .ok ()) : ¬ address.IsReserved := by
  rw [← address.isPrivate_iff]
  intro hprivate
  rw [checkResolved, hpublic, hprivate] at hcheck
  contradiction

end TargetPolicy

namespace Fetcher

variable {fetcher : Fetcher} {url : Url} {host : Host} {address : Address} {name : String}
variable {addresses : String → Except String (List Address)}

theorem mapError_eq_ok_iff {ε δ : Type} {f : ε → δ} {result : Except ε Unit} :
    result.mapError f = .ok () ↔ result = .ok () := by
  cases result with
  | error cause => simp [Except.mapError]
  | ok done => simp [Except.mapError]

theorem check_eq_ok (hpublic : fetcher.targets.allowPrivate = false)
    (hcheck : fetcher.check url = .ok ()) :
    url.toString.utf8ByteSize ≤ 2048 ∧ (url.scheme = "http" ∨ url.scheme = "https") ∧
      ∃ host, url.host? = some host ∧ TargetPolicy.checkHost host = .ok () := by
  rw [check] at hcheck
  split at hcheck
  · contradiction
  next hsize =>
    rw [mapError_eq_ok_iff] at hcheck
    exact ⟨Nat.le_of_not_lt hsize, TargetPolicy.checkUrl_eq_ok hpublic hcheck⟩

/-- One reserved address among those of a name is enough to refuse the name. -/
theorem choose_eq_ok (hpublic : fetcher.targets.allowPrivate = false)
    (hchoose : fetcher.choose name (addresses name) = .ok address) :
    ∃ others, addresses name = .ok (address :: others) ∧
      ∀ each ∈ address :: others, ¬ each.IsReserved := by
  cases hfound : addresses name with
  | error reason =>
    rw [hfound] at hchoose
    contradiction
  | ok found =>
    rw [hfound] at hchoose
    obtain ⟨_, hchecked, hfirst⟩ := Except.bind_eq_ok_iff.1 hchoose
    cases found with
    | nil => contradiction
    | cons first others =>
      obtain rfl := Except.ok.inj hfirst
      refine ⟨others, rfl, fun each heach => ?_⟩
      have hcheck := mapError_eq_ok_iff.1 (forM_eq_ok_iff.1 hchecked each heach)
      exact TargetPolicy.checkResolved_eq_ok hpublic hcheck

/-- A host that passed its check only has an address if none of its addresses is reserved. -/
theorem addressOf_eq_ok (hpublic : fetcher.targets.allowPrivate = false)
    (hcheck : TargetPolicy.checkHost host = .ok ())
    (haddress : (fetcher.addressOf addresses host).value = .ok address) :
    ∃ others, host.HasAddresses addresses address others ∧
      ∀ each ∈ address :: others, ¬ each.IsReserved := by
  cases host with
  | ipv4 literal =>
    obtain rfl := Except.ok.inj haddress
    refine ⟨[], .ipv4 literal, fun each heach => ?_⟩
    rw [List.mem_singleton.1 heach]
    exact TargetPolicy.checkAddress_eq_ok hcheck
  | ipv6 literal =>
    obtain rfl := Except.ok.inj haddress
    refine ⟨[], .ipv6 literal, fun each heach => ?_⟩
    rw [List.mem_singleton.1 heach]
    exact TargetPolicy.checkAddress_eq_ok hcheck
  | domain name =>
    rw [addressOf] at haddress
    cases hchoose : fetcher.choose name (addresses name) with
    | error cause =>
      rw [hchoose] at haddress
      contradiction
    | ok chosen =>
      rw [hchoose] at haddress
      obtain rfl := Except.ok.inj haddress
      obtain ⟨others, hname, hpublic⟩ := choose_eq_ok hpublic hchoose
      exact ⟨others, .domain hname, hpublic⟩

theorem destination_eq_ok {destination : Destination}
    (hpublic : fetcher.targets.allowPrivate = false)
    (hdestination : (fetcher.destination addresses url).value = .ok destination) :
    url.toString.utf8ByteSize ≤ 2048 ∧ (url.scheme = "http" ∨ url.scheme = "https") ∧
      ∃ host others, url.host? = some host ∧
        host.HasAddresses addresses destination.address others ∧
        ∀ each ∈ destination.address :: others, ¬ each.IsReserved := by
  rw [Fetcher.destination] at hdestination
  cases hcheck : fetcher.check url with
  | error cause =>
    rw [hcheck] at hdestination
    contradiction
  | ok done =>
    obtain ⟨hsize, hscheme, host, hhost, hallowed⟩ := check_eq_ok hpublic hcheck
    rw [hcheck, hhost] at hdestination
    dsimp only at hdestination
    rw [Traced.value_bind] at hdestination
    cases haddress : (fetcher.addressOf addresses host).value with
    | error cause =>
      rw [haddress] at hdestination
      contradiction
    | ok address =>
      rw [haddress] at hdestination
      obtain rfl := Except.ok.inj hdestination
      obtain ⟨others, hothers, hreserved⟩ := addressOf_eq_ok hpublic hallowed haddress
      exact ⟨hsize, hscheme, host, others, hhost, hothers, hreserved⟩

/-- Once the destination of a request is known, the network is asked for nothing else. -/
theorem fetch_value (network : Network) (earlier : List ResourceRequest)
    (request : ResourceRequest) :
    (fetcher.fetch network earlier request).value =
      match (fetcher.destination network.addresses request.url).value with
      | .error cause => .error cause
      | .ok destination =>
        match network.send (earlier ++ [request]) destination.address destination.port with
        | .error reason => .error (.requestFailed reason)
        | .ok incoming => fetcher.receive incoming := by
  rw [fetch, Traced.value_bind]
  cases (fetcher.destination network.addresses request.url).value with
  | error cause => rfl
  | ok destination =>
    dsimp only
    cases network.send (earlier ++ [request]) destination.address destination.port with
    | error reason => rfl
    | ok incoming => rfl

/-- A fetch fails whatever the network would answer, or asks it for an answer from one address
only.  Then the URL is a short web URL, the address is the one that it spells or the first one of
its name, and none of the addresses is in a reserved block.  An address is taken for private
exactly if it is in one of these blocks. -/
theorem fetch_connects_to_public (fetcher : Fetcher)
    (hpublic : fetcher.targets.allowPrivate = false) :
    (∀ (network : Network) (earlier : List ResourceRequest) (request : ResourceRequest),
      (∃ cause, ∀ send,
        (fetcher.fetch { network with send } earlier request).value = .error cause) ∨
      ∃ host address others port, request.url.host? = some host ∧
        host.HasAddresses network.addresses address others ∧
        (request.url.scheme = "http" ∨ request.url.scheme = "https") ∧
        request.url.toString.utf8ByteSize ≤ 2048 ∧
        (∀ each ∈ address :: others, ¬ each.IsReserved) ∧
        ∀ send, (fetcher.fetch { network with send } earlier request).value =
          match send (earlier ++ [request]) address port with
          | .error reason => .error (.requestFailed reason)
          | .ok incoming => fetcher.receive incoming) ∧
    ∀ address : Address, address.isPrivate = true ↔ address.IsReserved := by
  refine ⟨fun network earlier request => ?_, Address.isPrivate_iff⟩
  simp only [fetch_value]
  cases hdestination : (fetcher.destination network.addresses request.url).value with
  | error cause => exact .inl ⟨cause, fun _ => rfl⟩
  | ok destination =>
    obtain ⟨hsize, hscheme, host, others, hhost, hothers, hreserved⟩ :=
      destination_eq_ok hpublic hdestination
    exact .inr ⟨host, destination.address, others, destination.port, hhost, hothers, hscheme,
      hsize, hreserved, fun _ => rfl⟩

/-- A name with two public addresses is asked at the first one. -/
theorem fetch_connects_to_first :
    let first : Address := .ipv4 ⟨93, 184, 216, 34⟩
    let second : Address := .ipv6 ⟨0x2606, 0x2800, 0x220, 1, 0x248, 0x1893, 0x25C8, 0x1946⟩
    let network : Network :=
      { Network.unreachable with addresses := fun _ => .ok [first, second] }
    let authority : Authority := ⟨"", none, some (.domain "example.com"), none⟩
    let request : ResourceRequest :=
      { url := ⟨"https", some authority, .segments [""], none, none⟩ }
    ({} : Fetcher).targets.allowPrivate = false ∧ ¬ first.IsReserved ∧ ¬ second.IsReserved ∧
      ∃ port, ∀ send, (({} : Fetcher).fetch { network with send } [] request).value =
        match send [request] first port with
        | .error reason => .error (.requestFailed reason)
        | .ok incoming => ({} : Fetcher).receive incoming := by
  intro first second network authority request
  refine ⟨rfl, ?_⟩
  obtain ⟨cause, hcause⟩ | ⟨host, address, others, port, hhost, haddresses, -, -, hpublic, hfetch⟩
    := (fetch_connects_to_public {} rfl).1 network [] request
  · have hleft := hcause fun _ _ _ => .error "left"
    have hright := hcause fun _ _ _ => .error "right"
    have hdestination : (({} : Fetcher).destination network.addresses request.url).value =
        .ok ⟨first, 443⟩ := by
      decide +kernel
    rw [fetch_value, hdestination] at hleft hright
    exact absurd (hleft.trans hright.symm) (by decide)
  · obtain rfl : Host.domain "example.com" = host := Option.some.inj hhost
    cases haddresses with
    | domain hname =>
      obtain ⟨rfl, rfl⟩ := List.cons.inj (Except.ok.inj hname)
      exact ⟨hpublic _ (by simp), hpublic _ (by simp), port, hfetch⟩

end Fetcher

end GadgetGuard
