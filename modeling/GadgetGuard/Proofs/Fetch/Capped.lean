import GadgetGuard.Fetch.Fetcher
import GadgetGuard.Proofs.Url.Host
/-!
# Bodies are capped

How a body is cut into chunks does not matter for whether it is read: it is if all chunks
together are not too large and none is missing.  A body that is too large is given up at the first
chunk that goes beyond the limit, and a chunk that goes beyond it is never kept.
-/

namespace GadgetGuard

open GadgetGuard.Text

/-- An error without the size that was reached, which depends on where the chunks end. -/
def FetchError.unsized : FetchError → FetchError
  | bodyTooLarge _ limit => bodyTooLarge 0 limit
  | cause => cause

namespace BodyStream

variable {limit count start : Nat} {received chunk body : Bytes} {chunks : List Bytes}
variable {stream : BodyStream}

/-- The size of the first few chunks together. -/
def sizeOfFirst (chunks : List Bytes) (count : Nat) : Nat :=
  (chunks.take count).flatten.length

def size (stream : BodyStream) : Nat :=
  stream.chunks.flatten.length

theorem sizeOfFirst_cons_succ :
    sizeOfFirst (chunk :: chunks) (count + 1) = chunk.length + sizeOfFirst chunks count := by
  rw [sizeOfFirst, List.take_succ_cons, List.flatten_cons, List.length_append, sizeOfFirst]

theorem sizeOfFirst_le (chunks : List Bytes) (count : Nat) :
    sizeOfFirst chunks count ≤ chunks.flatten.length := by
  have hsplit : (chunks.take count).flatten ++ (chunks.drop count).flatten = chunks.flatten := by
    rw [← List.flatten_append, List.take_append_drop]
  rw [sizeOfFirst, ← hsplit, List.length_append]
  exact Nat.le_add_right _ _

/-- So many chunks, and no fewer, go beyond the limit after a start of some bytes. -/
structure ExceedsAt (limit start : Nat) (chunks : List Bytes) (count : Nat) : Prop where
  exceeds : limit < start + sizeOfFirst chunks count
  fits : ∀ fewer < count, start + sizeOfFirst chunks fewer ≤ limit

theorem ExceedsAt.unique {other : Nat} (hcount : ExceedsAt limit start chunks count)
    (hother : ExceedsAt limit start chunks other) : count = other := by
  rcases Nat.lt_trichotomy count other with hlt | heq | hgt
  · exact absurd hcount.exceeds (Nat.not_lt.2 (hother.fits count hlt))
  · exact heq
  · exact absurd hother.exceeds (Nat.not_lt.2 (hcount.fits other hgt))

/-! ## One chunk and all chunks -/

theorem accept_of_le (hfits : received.length + chunk.length ≤ limit) :
    accept limit received chunk = .ok (received ++ chunk) :=
  if_neg (Nat.not_lt.2 hfits)

theorem accept_of_lt (hexceeds : limit < received.length + chunk.length) :
    accept limit received chunk =
      .error (.bodyTooLarge (received.length + chunk.length) limit) :=
  if_pos hexceeds

/-- A chunk is only kept if the limit is. -/
theorem length_le_of_accept (haccept : accept limit received chunk = .ok body) :
    body.length ≤ limit := by
  by_cases hfits : received.length + chunk.length ≤ limit
  · rw [accept_of_le hfits] at haccept
    obtain rfl := Except.ok.inj haccept
    rwa [List.length_append]
  · rw [accept_of_lt (Nat.lt_of_not_le hfits)] at haccept
    contradiction

theorem length_le_of_foldlM (hreceived : received.length ≤ limit)
    (hfold : chunks.foldlM (accept limit) received = .ok body) : body.length ≤ limit := by
  induction chunks generalizing received with
  | nil =>
    obtain rfl := Except.ok.inj hfold
    exact hreceived
  | cons chunk chunks ih =>
    rw [List.foldlM_cons] at hfold
    obtain ⟨kept, haccept, hfold⟩ := Except.bind_eq_ok_iff.1 hfold
    exact ih (length_le_of_accept haccept) hfold

theorem foldlM_of_le (hfits : received.length + chunks.flatten.length ≤ limit) :
    chunks.foldlM (accept limit) received = .ok (received ++ chunks.flatten) := by
  induction chunks generalizing received with
  | nil => rw [List.flatten_nil, List.append_nil]; rfl
  | cons chunk chunks ih =>
    rw [List.flatten_cons, List.length_append] at hfits
    rw [List.foldlM_cons, accept_of_le (by omega), List.flatten_cons, ← List.append_assoc]
    apply ih
    rw [List.length_append]
    omega

/-- Chunks that go beyond the limit are given up at the first one that does. -/
theorem foldlM_of_lt (hreceived : received.length ≤ limit)
    (hexceeds : limit < received.length + chunks.flatten.length) :
    ∃ count, ExceedsAt limit received.length chunks count ∧
      chunks.foldlM (accept limit) received =
        .error (.bodyTooLarge (received.length + sizeOfFirst chunks count) limit) := by
  induction chunks generalizing received with
  | nil =>
    rw [List.flatten_nil, List.length_nil] at hexceeds
    omega
  | cons chunk chunks ih =>
    rw [List.flatten_cons, List.length_append] at hexceeds
    rw [List.foldlM_cons]
    by_cases hchunk : received.length + chunk.length ≤ limit
    · have hkept : (received ++ chunk).length ≤ limit := by rwa [List.length_append]
      obtain ⟨count, hcount, hfold⟩ := ih hkept (by rw [List.length_append]; omega)
      rw [List.length_append] at hcount hfold
      refine ⟨count + 1, ⟨?_, fun fewer hfewer => ?_⟩, ?_⟩
      · have := hcount.exceeds
        rw [sizeOfFirst_cons_succ]
        omega
      · cases fewer with
        | zero => exact hreceived
        | succ fewer =>
          have := hcount.fits fewer (Nat.lt_of_succ_lt_succ hfewer)
          rw [sizeOfFirst_cons_succ]
          omega
      · rw [accept_of_le hchunk, sizeOfFirst_cons_succ, ← Nat.add_assoc]
        exact hfold
    · have hlt := Nat.lt_of_not_le hchunk
      refine ⟨1, ⟨?_, fun fewer hfewer => ?_⟩, ?_⟩
      · rwa [sizeOfFirst_cons_succ]
      · obtain rfl := Nat.lt_one_iff.1 hfewer
        exact hreceived
      · rw [accept_of_lt hlt, sizeOfFirst_cons_succ]
        rfl

/-! ## Whole bodies -/

theorem read_of_le (hfits : stream.size ≤ limit) :
    stream.read limit = match stream.fault with
      | none => .ok stream.chunks.flatten
      | some detail => .error (.bodyCutShort detail) := by
  rw [read, foldlM_of_le (by rwa [List.length_nil, Nat.zero_add])]
  rfl

theorem read_of_lt (hexceeds : limit < stream.size) :
    ∃ count, ExceedsAt limit 0 stream.chunks count ∧
      stream.read limit = .error (.bodyTooLarge (sizeOfFirst stream.chunks count) limit) := by
  have hbeyond : limit < ([] : Bytes).length + stream.chunks.flatten.length := by
    rwa [List.length_nil, Nat.zero_add]
  obtain ⟨count, hcount, hfold⟩ := foldlM_of_lt (Nat.zero_le limit) hbeyond
  rw [List.length_nil] at hcount hfold
  rw [Nat.zero_add] at hfold
  exact ⟨count, hcount, by rw [read, hfold]; rfl⟩

theorem read_eq_ok_iff : stream.read limit = .ok body ↔
    stream.fault = none ∧ stream.size ≤ limit ∧ body = stream.chunks.flatten := by
  by_cases hfits : stream.size ≤ limit
  · rw [read_of_le hfits]
    cases stream.fault with
    | none => simp [hfits, eq_comm]
    | some detail => simp
  · obtain ⟨count, _, hread⟩ := read_of_lt (Nat.lt_of_not_le hfits)
    simp [hread, hfits]

theorem read_eq_tooLarge_iff {size bound : Nat} :
    stream.read limit = .error (.bodyTooLarge size bound) ↔
      bound = limit ∧ ∃ count, ExceedsAt limit 0 stream.chunks count ∧
        size = sizeOfFirst stream.chunks count := by
  by_cases hfits : stream.size ≤ limit
  · have hnone : ∀ count, ¬ ExceedsAt limit 0 stream.chunks count := by
      intro count hcount
      have hexceeds := hcount.exceeds
      rw [Nat.zero_add] at hexceeds
      exact Nat.not_lt.2 hfits (Nat.lt_of_lt_of_le hexceeds (sizeOfFirst_le stream.chunks count))
    rw [read_of_le hfits]
    cases stream.fault with
    | none => simp [hnone]
    | some detail => simp [hnone]
  · obtain ⟨count, hcount, hread⟩ := read_of_lt (Nat.lt_of_not_le hfits)
    rw [hread, Except.error.injEq, FetchError.bodyTooLarge.injEq]
    constructor
    · rintro ⟨rfl, rfl⟩
      exact ⟨rfl, count, hcount, rfl⟩
    · rintro ⟨rfl, other, hother, rfl⟩
      rw [hcount.unique hother]
      exact ⟨rfl, rfl⟩

theorem read_eq_cutShort_iff {detail : String} :
    stream.read limit = .error (.bodyCutShort detail) ↔
      stream.fault = some detail ∧ stream.size ≤ limit := by
  by_cases hfits : stream.size ≤ limit
  · rw [read_of_le hfits]
    cases stream.fault with
    | none => simp
    | some reason => simp [hfits]
  · obtain ⟨count, _, hread⟩ := read_of_lt (Nat.lt_of_not_le hfits)
    simp [hread, hfits]

/-- Two ways to cut one body into chunks are told apart by nothing but the size at which a body
that is too large is given up. -/
theorem read_unsized_congr {other : BodyStream}
    (hchunks : stream.chunks.flatten = other.chunks.flatten) (hfault : stream.fault = other.fault) :
    (stream.read limit).mapError FetchError.unsized =
      (other.read limit).mapError FetchError.unsized := by
  have hsize : stream.size = other.size := congrArg List.length hchunks
  by_cases hfits : stream.size ≤ limit
  · rw [read_of_le hfits, read_of_le (hsize ▸ hfits), hchunks, hfault]
  · have hlt := Nat.lt_of_not_le hfits
    obtain ⟨_, _, hread⟩ := read_of_lt hlt
    obtain ⟨_, _, hother⟩ := read_of_lt (hsize ▸ hlt)
    rw [hread, hother]
    rfl

end BodyStream

namespace Fetcher

variable {fetcher : Fetcher} {incoming : Incoming}

/-- A declared size only matters if it is too large. -/
theorem receive_of_le (hdeclared : ∀ size ∈ incoming.declaredSize, size ≤ fetcher.sizeLimit) :
    (fetcher.receive incoming).map (·.body) = incoming.body.read fetcher.sizeLimit := by
  have hpassed : fetcher.receive incoming = do
      let body ← incoming.body.read fetcher.sizeLimit
      return { status := incoming.status, headers := incoming.headers, body } := by
    rw [receive]
    cases hsize : incoming.declaredSize with
    | none => rfl
    | some size =>
      simp only [if_neg (Nat.not_lt.2 (hdeclared size hsize))]
  rw [hpassed]
  cases incoming.body.read fetcher.sizeLimit with
  | ok body => rfl
  | error cause => rfl

end Fetcher

/-- A body is read, whole and in order, exactly if nothing went wrong and its chunks together are
within the limit.  It is too large exactly if the first chunks, as far as they came, go beyond the
limit, and the size stated is that of as few of them as do.  Otherwise it was cut short.  No more
than the limit is kept at any time.  Two responses with one body that declare no size beyond the
limit fare alike, whatever their chunks are. -/
theorem BodyStream.read_is_capped (stream : BodyStream) (limit : Nat) :
    (∀ body, stream.read limit = .ok body ↔
      stream.fault = none ∧ stream.size ≤ limit ∧ body = stream.chunks.flatten) ∧
    (∀ size bound, stream.read limit = .error (.bodyTooLarge size bound) ↔
      bound = limit ∧ ∃ count, ExceedsAt limit 0 stream.chunks count ∧
        size = sizeOfFirst stream.chunks count) ∧
    (∀ detail, stream.read limit = .error (.bodyCutShort detail) ↔
      stream.fault = some detail ∧ stream.size ≤ limit) ∧
    (∀ cause, stream.read limit = .error cause →
      (∃ size bound, cause = .bodyTooLarge size bound) ∨ ∃ detail, cause = .bodyCutShort detail) ∧
    (∀ count kept, (stream.chunks.take count).foldlM (accept limit) [] = .ok kept →
      kept.length ≤ limit) ∧
    (∀ (fetcher : Fetcher) (first second : Incoming),
      (∀ size ∈ first.declaredSize, size ≤ fetcher.sizeLimit) →
      (∀ size ∈ second.declaredSize, size ≤ fetcher.sizeLimit) →
      first.body.chunks.flatten = second.body.chunks.flatten →
      first.body.fault = second.body.fault →
        ((fetcher.receive first).map (·.body)).mapError FetchError.unsized =
          ((fetcher.receive second).map (·.body)).mapError FetchError.unsized) := by
  refine ⟨fun _ => read_eq_ok_iff, fun _ _ => read_eq_tooLarge_iff,
    fun _ => read_eq_cutShort_iff, ?_, fun _ _ => length_le_of_foldlM (Nat.zero_le limit), ?_⟩
  · intro cause hread
    by_cases hfits : stream.size ≤ limit
    · rw [read_of_le hfits] at hread
      cases hfault : stream.fault with
      | none =>
        rw [hfault] at hread
        contradiction
      | some detail =>
        rw [hfault] at hread
        exact .inr ⟨detail, (Except.error.inj hread).symm⟩
    · obtain ⟨count, _, htooLarge⟩ := read_of_lt (Nat.lt_of_not_le hfits)
      rw [htooLarge] at hread
      exact .inl ⟨_, _, (Except.error.inj hread).symm⟩
  · intro fetcher first second hfirst hsecond hchunks hfault
    rw [Fetcher.receive_of_le hfirst, Fetcher.receive_of_le hsecond]
    exact read_unsized_congr hchunks hfault

/-- Three bytes in two chunks or in one: a limit of three keeps them all, and with a limit of two
they are given up at the second chunk. -/
theorem BodyStream.read_is_capped_in_two_chunks :
    read ⟨[[1, 2], [3]], none⟩ 3 = .ok [1, 2, 3] ∧
      read ⟨[[1, 2], [3]], none⟩ 2 = .error (.bodyTooLarge 3 2) ∧
      ((Fetcher.receive {} ⟨200, .empty, none, ⟨[[1, 2], [3]], none⟩⟩).map (·.body)).mapError
          FetchError.unsized =
        ((Fetcher.receive {} ⟨200, .empty, some 3, ⟨[[1, 2, 3]], none⟩⟩).map (·.body)).mapError
          FetchError.unsized := by
  refine ⟨((read_is_capped _ 3).1 _).2 ⟨rfl, by decide, rfl⟩,
    ((read_is_capped _ 2).2.1 _ _).2 ⟨rfl, 2, ⟨by decide, by decide⟩, rfl⟩, ?_⟩
  refine (read_is_capped ⟨[], none⟩ 0).2.2.2.2.2 {} _ _ ?_ ?_ rfl rfl
  · intro size hsize
    exact nomatch hsize
  · intro size hsize
    obtain rfl := Option.some.inj hsize
    decide

end GadgetGuard
