import Mathlib
import Reachability.Agent.Metrics

/-!
# Which series the metrics keep, and what they count

The metrics hear observations and evictions (`Op`). An observation counts in the counter of its
edge and outcome and, with a latency, in the histogram of its edge; an eviction drops the series
of every tracked edge it makes stale. Read off the operations alone, the counter of an edge and
outcome should show the observations of that edge and outcome since the last operation that made
the edge stale (`countSince`), its histogram the latencies recorded since then
(`latenciesSince`), and an edge should be tracked exactly while a sample of it is exported.

A sample is found by its label values written one after another. Whatever the labels, every
sample is of a tracked edge (`Tracked`), so an eviction leaves nothing exported for an edge it
makes stale (`not_exported_after_eviction`). When the edges observed are told apart by that text
(`Apart`) the bookkeeping is exact (`metrics_follow_operations`): the metrics refine the
specification (`Shows`), one lemma per operation carrying it along a run. When two edges join
alike they share one series (`joined_labels_share_counter`): the second counts in the first one's
counter, and more edges are tracked than series exported.
-/

namespace Reachability.Agent

open Reachability.Number
open Reachability.Time

namespace Metrics

/-! ## Samples exported -/

/-- The status label of an outcome. -/
def statusText (ok : Bool) : String := if ok then "ok" else "failed"

/-- The counter exported for an edge and an outcome, if there is one. -/
def counterOf (m : Metrics) (k : EdgeKey) (ok : Bool) : Option Nat :=
  m.counters.lookup (k, statusText ok)

/-- The latency histogram exported for an edge, if there is one. -/
def histogramOf (m : Metrics) (k : EdgeKey) : Option Histogram := m.latencies.lookup k

/-- The edges with a sample exported, counter or histogram, each once. -/
def exported (m : Metrics) : List EdgeKey :=
  (m.counters.map (·.1.1) ++ m.latencies.map (·.1)).dedup

/-- An edge has a sample exported exactly when it has a counter or a histogram. -/
theorem mem_exported {m : Metrics} {k : EdgeKey} :
    k ∈ m.exported ↔ (∃ l ∈ m.counters, l.1.1 = k) ∨ ∃ l ∈ m.latencies, l.1 = k := by
  simp [exported]

/-- The two outcomes have different status labels. -/
theorem statusText_inj {ok ok' : Bool} : statusText ok = statusText ok' ↔ ok = ok' := by
  cases ok <;> cases ok' <;> decide

/-- Two counters are found by one text exactly when their edges join alike and their outcomes
agree: neither status text ends the other. -/
theorem counterJoined_eq_iff {k k' : EdgeKey} {ok ok' : Bool} :
    counterJoined k (statusText ok) = counterJoined k' (statusText ok') ↔
      k.joined = k'.joined ∧ ok = ok' := by
  constructor
  · intro same
    have ends := congrArg (fun s => s.toList.reverse) same
    cases ok <;> cases ok'
    · exact ⟨(String.append_left_inj _).1 same, rfl⟩
    · simp [counterJoined, statusText] at ends
    · simp [counterJoined, statusText] at ends
    · exact ⟨(String.append_left_inj _).1 same, rfl⟩
  · rintro ⟨joined, rfl⟩
    simp [counterJoined, joined]

/-- Edges told apart by their label values joined. -/
def Apart (ks : List EdgeKey) : Prop := ∀ k ∈ ks, ∀ k' ∈ ks, k.joined = k'.joined → k = k'

/-- Edges told apart stay told apart in any smaller set. -/
theorem Apart.mono {ks ks' : List EdgeKey} (apart : Apart ks') (within : ∀ k ∈ ks, k ∈ ks') :
    Apart ks := fun k held k' held' => apart k (within k held) k' (within k' held')

/-! ## Lookups through the operations' list edits -/

section Lookup

variable {α β : Type} [BEq α] [LawfulBEq α]

/-- Looking up after updating the entries a test picks: the value updated when the test picks the
key, else as before. -/
private theorem lookup_map_update (l : List (α × β)) (c : α → Bool) (f : β → β) (a : α) :
    (l.map fun p => if c p.1 then (p.1, f p.2) else p).lookup a =
      if c a then (l.lookup a).map f else l.lookup a := by
  induction l with
  | nil => simp
  | cons p l ih =>
    obtain ⟨b, v⟩ := p
    by_cases same : a = b
    · subst same
      cases changed : c a <;> simp [changed]
    · have skipped : (a == b) = false := beq_false_of_ne same
      cases changed : c b <;> simp [List.lookup_cons, changed, skipped, ih]

/-- Looking up after keeping the entries a test picks: the value when the test picks the key, else
nothing. -/
private theorem lookup_filter_keys (l : List (α × β)) (q : α → Bool) (a : α) :
    (l.filter fun p => q p.1).lookup a = if q a then l.lookup a else none := by
  induction l with
  | nil => simp
  | cons p l ih =>
    obtain ⟨b, v⟩ := p
    by_cases same : a = b
    · subst same
      cases kept : q a <;> simp [kept, ih]
    · have skipped : (a == b) = false := beq_false_of_ne same
      cases kept : q b <;> simp [List.lookup_cons, kept, skipped, ih]

/-- Looking up after an observation's edit: the entries the test finds are updated, or an entry
for `a₀` is opened when it finds none, where the test finds exactly the entries of `a₀`. -/
private theorem lookup_update_or_open (l : List (α × β)) (c : α → Bool) (f : β → β) (a₀ : α)
    (b₀ : β) (finds : ∀ p ∈ l, c p.1 = (p.1 == a₀)) (a : α) :
    (if l.any (fun p => c p.1) then l.map (fun p => if c p.1 then (p.1, f p.2) else p)
      else l ++ [(a₀, b₀)]).lookup a =
      if a == a₀ then some ((l.lookup a₀).elim b₀ f) else l.lookup a := by
  have own : (l.map fun p => if c p.1 then (p.1, f p.2) else p) =
      l.map fun p => if p.1 == a₀ then (p.1, f p.2) else p :=
    List.map_congr_left fun p held => by rw [finds p held]
  split
  · rename_i present
    obtain ⟨p, held, found⟩ := List.any_eq_true.1 present
    rw [finds p held, beq_iff_eq] at found
    obtain ⟨b, there⟩ : ∃ b, l.lookup a₀ = some b :=
      Option.isSome_iff_exists.1 (List.lookup_isSome_iff.2 ⟨p, held, by simp [found]⟩)
    rw [own, lookup_map_update l (· == a₀) f]
    by_cases same : a = a₀
    · subst same
      simp [there]
    · simp [beq_false_of_ne same]
  · rename_i absent
    have missing : l.lookup a₀ = none := by
      rw [List.lookup_eq_none_iff]
      intro p held
      have unfound : c p.1 = false :=
        Bool.eq_false_iff.2 fun found => absent (List.any_eq_true.2 ⟨p, held, found⟩)
      rw [finds p held] at unfound
      exact bne_iff_ne.2 (ne_of_beq_false unfound).symm
    rw [List.lookup_append]
    by_cases same : a = a₀
    · subst same
      simp [missing]
    · simp [List.lookup_cons, beq_false_of_ne same]

end Lookup

/-! ## What each operation does to the samples -/

section Operations

variable (m : Metrics) (k : EdgeKey) (ok : Bool)

/-- An observation tracks its edge, once. -/
theorem series_observe (latency : Option Elapsed) :
    (m.observe k.src k.dest k.jobId ok latency).series =
      if m.series.contains k then m.series else m.series ++ [k] := rfl

/-- An observation adds to every counter found by its text, or opens its own. -/
theorem counters_observe (latency : Option Elapsed) :
    (m.observe k.src k.dest k.jobId ok latency).counters =
      if m.counters.any (fun p => counterJoined p.1.1 p.1.2 == counterJoined k (statusText ok)) then
        m.counters.map fun p =>
          if counterJoined p.1.1 p.1.2 == counterJoined k (statusText ok) then (p.1, p.2 + 1) else p
      else m.counters ++ [((k, statusText ok), 1)] := rfl

/-- An observation with a latency records it in every histogram found by its edge's text, or
opens its own. -/
theorem latencies_observe (d : Elapsed) :
    (m.observe k.src k.dest k.jobId ok (some d)).latencies =
      if m.latencies.any (·.1.joined == k.joined) then
        m.latencies.map fun p =>
          if p.1.joined == k.joined then (p.1, p.2.observe d.secondsValue) else p
      else m.latencies ++ [(k, ({} : Histogram).observe d.secondsValue)] := rfl

/-- An observation without a latency leaves the histograms as they were. -/
@[simp] theorem latencies_observe_none :
    (m.observe k.src k.dest k.jobId ok none).latencies = m.latencies := rfl

variable (stale : EdgeKey → Bool)

/-- An eviction stops tracking the stale edges. -/
theorem series_evictWhere :
    (m.evictWhere stale).series = m.series.filter fun g => !stale g := by
  simp only [evictWhere]
  refine List.filter_congr fun g held => ?_
  simp [held]

/-- An eviction drops every counter found by the text of a stale tracked edge, under either
status. -/
theorem counters_evictWhere :
    (m.evictWhere stale).counters = m.counters.filter fun p =>
      !(m.series.filter stale).any fun g => counterJoined g (statusText true) == counterJoined p.1.1 p.1.2 ||
        counterJoined g (statusText false) == counterJoined p.1.1 p.1.2 := rfl

/-- An eviction drops every histogram found by the text of a stale tracked edge. -/
theorem latencies_evictWhere :
    (m.evictWhere stale).latencies =
      m.latencies.filter fun p => !m.series.any fun g => stale g && g.joined == p.1.joined := by
  simp only [evictWhere, List.any_filter]

/-- Evicting some jobs is evicting the edges of those jobs. -/
theorem evictJobIds_eq (jobIds : List String) :
    m.evictJobIds jobIds = m.evictWhere fun g => jobIds.contains g.jobId := by
  cases jobIds with
  | nil => simp [evictJobIds, evictWhere]
  | cons j rest => simp [evictJobIds]

/-- A counter of status `ok` or `failed` is found by the text of a stale edge exactly when the
edge joins like the counter's own. -/
theorem found_by_stale_iff {gone : List EdgeKey} {p : (EdgeKey × String) × Nat}
    (status : ∃ ok, p.1.2 = statusText ok) :
    ((gone.any fun g => counterJoined g (statusText true) == counterJoined p.1.1 p.1.2 ||
        counterJoined g (statusText false) == counterJoined p.1.1 p.1.2) = true) ↔
      ∃ g ∈ gone, g.joined = p.1.1.joined := by
  obtain ⟨ok, status⟩ := status
  rw [status]
  simp only [List.any_eq_true, Bool.or_eq_true, beq_iff_eq, counterJoined_eq_iff]
  refine exists_congr fun g => and_congr_right fun _ => ?_
  cases ok <;> simp

/-- An eviction only drops samples. -/
theorem mem_exported_of_evictWhere {g : EdgeKey} (held : g ∈ (m.evictWhere stale).exported) :
    g ∈ m.exported := by
  rw [mem_exported, counters_evictWhere, latencies_evictWhere] at held
  rw [mem_exported]
  rcases held with ⟨p, kept, same⟩ | ⟨p, kept, same⟩
  · exact .inl ⟨p, (List.mem_filter.1 kept).1, same⟩
  · exact .inr ⟨p, (List.mem_filter.1 kept).1, same⟩

end Operations

/-! ## Every sample is of a tracked edge -/

/-- What holds of the metrics whatever the labels: each edge is tracked once, and every sample
is of a tracked edge, a counter under one of the two statuses. -/
structure Tracked (m : Metrics) : Prop where
  nodup : m.series.Nodup
  counters : ∀ p ∈ m.counters, p.1.1 ∈ m.series ∧ ∃ ok, p.1.2 = statusText ok
  latencies : ∀ p ∈ m.latencies, p.1 ∈ m.series

namespace Tracked

variable {m : Metrics}

/-- No metrics yet: nothing tracked, nothing exported. -/
theorem empty : Tracked {} := ⟨List.nodup_nil, by simp, by simp⟩

/-- An entry after an observation's edit is an entry before, its value changed, or the entry
opened. -/
private theorem mem_of_mem_edit {α β : Type} {l : List (α × β)} {found : Prop} [Decidable found]
    {g : α × β → α × β} {a₀ : α} {b₀ : β} {p : α × β} (keeps : ∀ q, (g q).1 = q.1)
    (held : p ∈ if found then l.map g else l ++ [(a₀, b₀)]) : (∃ q ∈ l, q.1 = p.1) ∨ p.1 = a₀ := by
  split at held
  · obtain ⟨q, kept, rfl⟩ := List.mem_map.1 held
    exact .inl ⟨q, kept, (keeps q).symm⟩
  · rcases List.mem_append.1 held with old | new
    · exact .inl ⟨p, old, rfl⟩
    · exact .inr (by rw [List.mem_singleton.1 new])

/-- An edge is tracked after an observation exactly when it was before or is the one observed. -/
theorem mem_series_observe {k g : EdgeKey} {ok : Bool} {latency : Option Elapsed} :
    g ∈ (m.observe k.src k.dest k.jobId ok latency).series ↔ g ∈ m.series ∨ g = k := by
  rw [series_observe]
  split
  · rename_i present
    have present : k ∈ m.series := by simpa using present
    constructor
    · exact .inl
    · rintro (held | rfl)
      · exact held
      · exact present
  · simp

/-- The step lemma for an observation: its edge becomes tracked with its samples. -/
theorem observe (tracked : Tracked m) (k : EdgeKey) (ok : Bool) (latency : Option Elapsed) :
    Tracked (m.observe k.src k.dest k.jobId ok latency) := by
  refine ⟨?_, fun p held => ?_, fun p held => ?_⟩
  · rw [series_observe]
    split
    · exact tracked.nodup
    · rename_i absent
      have absent : k ∉ m.series := by simpa using absent
      exact tracked.nodup.append (List.nodup_singleton k) (by simpa using absent)
  · rw [counters_observe] at held
    rcases mem_of_mem_edit (fun q => by split <;> rfl) held with ⟨q, kept, same⟩ | opened
    · obtain ⟨tracked', status⟩ := tracked.counters q kept
      rw [← same]
      exact ⟨mem_series_observe.2 (.inl tracked'), status⟩
    · rw [opened]
      exact ⟨mem_series_observe.2 (.inr rfl), ok, rfl⟩
  · cases latency with
    | none => exact mem_series_observe.2 (.inl (tracked.latencies p held))
    | some d =>
      rw [latencies_observe] at held
      rcases mem_of_mem_edit (fun q => by split <;> rfl) held with ⟨q, kept, same⟩ | opened
      · rw [← same]
        exact mem_series_observe.2 (.inl (tracked.latencies q kept))
      · rw [opened]
        exact mem_series_observe.2 (.inr rfl)

/-- The step lemma for an eviction: what survives it is of an edge that stays tracked. -/
theorem evictWhere (tracked : Tracked m) (stale : EdgeKey → Bool) :
    Tracked (m.evictWhere stale) := by
  refine ⟨?_, fun p held => ?_, fun p held => ?_⟩
  · rw [series_evictWhere]
    exact tracked.nodup.filter _
  · rw [counters_evictWhere, List.mem_filter, Bool.not_eq_true'] at held
    obtain ⟨kept, survived⟩ := held
    obtain ⟨tracked', status⟩ := tracked.counters p kept
    -- the counter's own edge would have found it, were that edge stale
    have fresh : stale p.1.1 = false := by
      by_contra staleEdge
      have found := (found_by_stale_iff status).2
        ⟨p.1.1, List.mem_filter.2 ⟨tracked', by simpa using staleEdge⟩, rfl⟩
      simp [found] at survived
    rw [series_evictWhere]
    exact ⟨List.mem_filter.2 ⟨tracked', by simp [fresh]⟩, status⟩
  · rw [latencies_evictWhere, List.mem_filter, Bool.not_eq_true'] at held
    obtain ⟨kept, survived⟩ := held
    have tracked' := tracked.latencies p kept
    have fresh : stale p.1 = false := by
      by_contra staleEdge
      have found : (m.series.any fun g => stale g && g.joined == p.1.joined) = true :=
        List.any_eq_true.2 ⟨p.1, tracked', by simpa using staleEdge⟩
      simp [found] at survived
    rw [series_evictWhere]
    exact List.mem_filter.2 ⟨tracked', by simp [fresh]⟩

/-! ### Samples of edges told apart -/

variable {k : EdgeKey} {ok : Bool}

/-- A counter of a tracked edge told apart from `k` is found by the text of `k` and an outcome
only when it is that very counter. -/
theorem found_iff_own (tracked : Tracked m) (apart : ∀ g ∈ m.series, g.joined = k.joined → g = k)
    {p : (EdgeKey × String) × Nat} (held : p ∈ m.counters) :
    (counterJoined p.1.1 p.1.2 == counterJoined k (statusText ok)) = (p.1 == (k, statusText ok)) := by
  obtain ⟨tracked', b, status⟩ := tracked.counters p held
  obtain ⟨⟨g, s⟩, c⟩ := p
  simp only at tracked' status ⊢
  subst status
  rw [Bool.eq_iff_iff]
  simp only [beq_iff_eq, counterJoined_eq_iff, Prod.mk.injEq, statusText_inj]
  constructor
  · rintro ⟨joined, rfl⟩
    exact ⟨apart g tracked' joined, rfl⟩
  · rintro ⟨rfl, rfl⟩
    exact ⟨rfl, rfl⟩

/-- Observing an edge told apart from every tracked one adds one to its own counter, opened at
one, and leaves every other counter as it was. -/
theorem counterOf_observe (tracked : Tracked m) (latency : Option Elapsed)
    (apart : ∀ g ∈ m.series, g.joined = k.joined → g = k) (k' : EdgeKey) (ok' : Bool) :
    (m.observe k.src k.dest k.jobId ok latency).counterOf k' ok' =
      if k' = k ∧ ok' = ok then some ((m.counterOf k ok).getD 0 + 1) else m.counterOf k' ok' := by
  have key : ((k', statusText ok') == (k, statusText ok)) = decide (k' = k ∧ ok' = ok) := by
    rw [Bool.eq_iff_iff, beq_iff_eq, decide_eq_true_iff, Prod.mk.injEq, statusText_inj]
  unfold counterOf
  rw [counters_observe, lookup_update_or_open m.counters
    (fun l => counterJoined l.1 l.2 == counterJoined k (statusText ok)) (· + 1) (k, statusText ok) 1
    fun p held => tracked.found_iff_own apart held, key]
  by_cases same : k' = k ∧ ok' = ok
  · obtain ⟨rfl, rfl⟩ := same
    simp only [and_self, decide_true, if_true]
    cases m.counters.lookup (k', statusText ok') <;> rfl
  · simp only [same, decide_false, Bool.false_eq_true, if_false]

/-- A histogram of a tracked edge told apart from `k` is found by `k`'s text only when it is
`k`'s own. -/
theorem joined_iff_own (tracked : Tracked m) (apart : ∀ g ∈ m.series, g.joined = k.joined → g = k)
    {p : EdgeKey × Histogram} (held : p ∈ m.latencies) : (p.1.joined == k.joined) = (p.1 == k) := by
  rw [Bool.eq_iff_iff, beq_iff_eq, beq_iff_eq]
  constructor
  · exact apart p.1 (tracked.latencies p held)
  · rintro rfl
    rfl

/-- Observing a latency of an edge told apart from every tracked one records it in that edge's
own histogram, opened empty, and leaves every other histogram as it was. -/
theorem histogramOf_observe (tracked : Tracked m) (d : Elapsed)
    (apart : ∀ g ∈ m.series, g.joined = k.joined → g = k) (k' : EdgeKey) :
    (m.observe k.src k.dest k.jobId ok (some d)).histogramOf k' =
      if k' = k then some (((m.histogramOf k).getD {}).observe d.secondsValue)
      else m.histogramOf k' := by
  unfold histogramOf
  rw [latencies_observe, lookup_update_or_open m.latencies (fun g => g.joined == k.joined)
    (·.observe d.secondsValue) k (({} : Histogram).observe d.secondsValue)
    fun p held => tracked.joined_iff_own apart held]
  by_cases same : k' = k
  · subst same
    simp only [beq_self_eq_true, if_true]
    cases m.latencies.lookup k' <;> rfl
  · simp only [beq_false_of_ne same, Bool.false_eq_true, if_false, same]

variable (stale : EdgeKey → Bool)

/-- Among edges told apart, an eviction drops the counters of the stale edges and keeps every
other counter as it was. -/
theorem counterOf_evictWhere (tracked : Tracked m) (apart : Apart m.series) (k : EdgeKey)
    (ok : Bool) :
    (m.evictWhere stale).counterOf k ok = if stale k then none else m.counterOf k ok := by
  have kept : (m.evictWhere stale).counters = m.counters.filter fun p => !stale p.1.1 := by
    rw [counters_evictWhere]
    refine List.filter_congr fun p held => ?_
    obtain ⟨tracked', status⟩ := tracked.counters p held
    congr 1
    rw [Bool.eq_iff_iff, found_by_stale_iff status]
    constructor
    · rintro ⟨g, gone, joined⟩
      obtain ⟨inSeries, staleEdge⟩ := List.mem_filter.1 gone
      rwa [← apart g inSeries p.1.1 tracked' joined]
    · intro staleEdge
      exact ⟨p.1.1, List.mem_filter.2 ⟨tracked', staleEdge⟩, rfl⟩
  unfold counterOf
  rw [kept, lookup_filter_keys m.counters (fun l => !stale l.1)]
  cases stale k <;> simp

/-- Among edges told apart, an eviction drops the histograms of the stale edges and keeps every
other histogram as it was. -/
theorem histogramOf_evictWhere (tracked : Tracked m) (apart : Apart m.series) (k : EdgeKey) :
    (m.evictWhere stale).histogramOf k = if stale k then none else m.histogramOf k := by
  have kept : (m.evictWhere stale).latencies = m.latencies.filter fun p => !stale p.1 := by
    rw [latencies_evictWhere]
    refine List.filter_congr fun p held => ?_
    have tracked' := tracked.latencies p held
    congr 1
    rw [Bool.eq_iff_iff, List.any_eq_true]
    constructor
    · rintro ⟨g, inSeries, found⟩
      obtain ⟨staleEdge, joined⟩ := Bool.and_eq_true_iff.1 found
      rwa [← apart g inSeries p.1 tracked' (beq_iff_eq.1 joined)]
    · intro staleEdge
      exact ⟨p.1, tracked', by simp [staleEdge]⟩
  unfold histogramOf
  rw [kept, lookup_filter_keys m.latencies (fun l => !stale l)]
  cases stale k <;> simp

/-- Whatever the labels, an eviction leaves no sample of an edge it makes stale. -/
theorem not_exported_evictWhere (tracked : Tracked m) {k : EdgeKey} (staleEdge : stale k = true) :
    k ∉ (m.evictWhere stale).exported := by
  have after := tracked.evictWhere stale
  rw [mem_exported]
  rintro (⟨p, held, rfl⟩ | ⟨p, held, rfl⟩)
  · have kept := (after.counters p held).1
    rw [series_evictWhere, List.mem_filter] at kept
    simp [staleEdge] at kept
  · have kept := after.latencies p held
    rw [series_evictWhere, List.mem_filter] at kept
    simp [staleEdge] at kept

end Tracked

/-! ## Operations, and what they ask the metrics to show -/

/-- What the metrics hear: an observation of an edge, with its outcome and the latency to record,
the eviction of some jobs' series, or of every destination's but some. -/
inductive Op where
  | observe (k : EdgeKey) (ok : Bool) (latency : Option Elapsed)
  | evictJobIds (jobIds : List String)
  | evictInvalidDestHosts (valid : List String)

namespace Op

/-- The edges an operation makes stale: none for an observation. -/
def stale : Op → EdgeKey → Bool
  | .observe .., _ => false
  | .evictJobIds jobIds, k => jobIds.contains k.jobId
  | .evictInvalidDestHosts valid, k => !valid.contains k.dest

/-- The edge an operation observes. -/
def observed : Op → Option EdgeKey
  | .observe k _ _ => some k
  | _ => none

/-- Whether an operation observes edge `k` with outcome `ok`. -/
def counts (k : EdgeKey) (ok : Bool) : Op → Bool
  | .observe k' ok' _ => k' == k && ok' == ok
  | _ => false

/-- The latency, in seconds, that an operation records for edge `k`. -/
def latencyFor (k : EdgeKey) : Op → Option Binary64
  | .observe k' _ (some d) => if k' = k then some d.secondsValue else none
  | _ => none

end Op

/-- The metrics after one operation. -/
def step (m : Metrics) : Op → Metrics
  | .observe k ok latency => m.observe k.src k.dest k.jobId ok latency
  | .evictJobIds jobIds => m.evictJobIds jobIds
  | .evictInvalidDestHosts valid => m.evictInvalidDestHosts valid

/-- The metrics after operations, in order. -/
def run (m : Metrics) (ops : List Op) : Metrics := ops.foldl step m

/-- Running operations and then one more is running the last on what the others left. -/
theorem run_append_singleton (m : Metrics) (ops : List Op) (op : Op) :
    m.run (ops ++ [op]) = (m.run ops).step op := by
  simp [run, List.foldl_append]

/-- An operation that observes nothing evicts the edges it makes stale. -/
theorem step_of_observed_eq_none {op : Op} (evicting : op.observed = none) (m : Metrics) :
    m.step op = m.evictWhere op.stale := by
  cases op with
  | observe k ok latency => cases evicting
  | evictJobIds jobIds => exact evictJobIds_eq m jobIds
  | evictInvalidDestHosts valid => rfl

/-- The run lemma of the invariant: it holds after any operations, whatever the labels. -/
theorem Tracked.run {m : Metrics} (tracked : Tracked m) (ops : List Op) : Tracked (m.run ops) := by
  induction ops generalizing m with
  | nil => exact tracked
  | cons op rest ih =>
    apply ih
    cases op with
    | observe k ok latency => exact tracked.observe k ok latency
    | evictJobIds jobIds =>
      rw [step_of_observed_eq_none rfl]
      exact tracked.evictWhere _
    | evictInvalidDestHosts valid => exact tracked.evictWhere _

/-- The operations since the last one that made edge `k` stale. -/
def sinceEvicted (k : EdgeKey) (ops : List Op) : List Op :=
  (ops.reverse.takeWhile fun op => !op.stale k).reverse

/-- The observations of `k` with outcome `ok` since `k` was last made stale: what its counter
should show. -/
def countSince (k : EdgeKey) (ok : Bool) (ops : List Op) : Nat :=
  (sinceEvicted k ops).countP (Op.counts k ok)

/-- The latencies of `k` recorded since it was last made stale, in order: what its histogram
should hold. -/
def latenciesSince (k : EdgeKey) (ops : List Op) : List Binary64 :=
  (sinceEvicted k ops).filterMap (Op.latencyFor k)

/-- A counter is exported once it has counted an observation. -/
def counterSample (n : Nat) : Option Nat := if n = 0 then none else some n

/-- The histogram of some latencies, exported once it holds one. -/
def histogramFrom (vs : List Binary64) : Option Histogram :=
  if vs = [] then none else some (vs.foldl Histogram.observe {})

/-- The edges observed, in order. -/
def observedKeys (ops : List Op) : List EdgeKey := ops.filterMap Op.observed

section Specification

variable {k : EdgeKey} {ops : List Op}

/-- An operation that makes the edge stale leaves nothing since its eviction; any other joins what
came since. -/
theorem sinceEvicted_append_singleton (op : Op) :
    sinceEvicted k (ops ++ [op]) = if op.stale k then [] else sinceEvicted k ops ++ [op] := by
  unfold sinceEvicted
  cases staleEdge : op.stale k <;> simp [staleEdge]

/-- The operations since an edge's eviction are among the operations. -/
theorem mem_of_mem_sinceEvicted {op : Op} (held : op ∈ sinceEvicted k ops) : op ∈ ops :=
  List.mem_reverse.1 ((List.takeWhile_sublist _).subset (List.mem_reverse.1 held))

/-- An observation adds one to the count of its own edge and outcome, and nothing to any other. -/
theorem countSince_append_observe (k' : EdgeKey) (ok ok' : Bool) (latency : Option Elapsed) :
    countSince k' ok' (ops ++ [.observe k ok latency]) =
      countSince k' ok' ops + if k' = k ∧ ok' = ok then 1 else 0 := by
  simp only [countSince, sinceEvicted_append_singleton, Op.stale, Bool.false_eq_true, if_false,
    List.countP_append, List.countP_singleton, Op.counts]
  congr 1
  by_cases same : k' = k ∧ ok' = ok
  · obtain ⟨rfl, rfl⟩ := same
    simp
  · have differ : (k == k' && ok == ok') = false := by
      simp only [Bool.and_eq_false_iff, beq_eq_false_iff_ne]
      tauto
    simp [differ, same]

/-- An observation with a latency adds it to its own edge's latencies, and nothing to any other. -/
theorem latenciesSince_append_observe (k' : EdgeKey) (ok : Bool) (latency : Option Elapsed) :
    latenciesSince k' (ops ++ [.observe k ok latency]) =
      latenciesSince k' ops ++ match latency with
        | some d => if k = k' then [d.secondsValue] else []
        | none => [] := by
  simp only [latenciesSince, sinceEvicted_append_singleton, Op.stale, Bool.false_eq_true, if_false,
    List.filterMap_append]
  congr 1
  cases latency with
  | none => rfl
  | some d =>
    by_cases same : k = k'
    · simp [Op.latencyFor, same]
    · simp [Op.latencyFor, same]

/-- An eviction clears the counts of the edges it makes stale and keeps the others. -/
theorem countSince_append_evict {op : Op} (evicting : op.observed = none) (ok : Bool) :
    countSince k ok (ops ++ [op]) = if op.stale k then 0 else countSince k ok ops := by
  have silent : op.counts k ok = false := by
    cases op with
    | observe k' ok' latency => cases evicting
    | evictJobIds jobIds => rfl
    | evictInvalidDestHosts valid => rfl
  unfold countSince
  rw [sinceEvicted_append_singleton]
  cases op.stale k <;> simp [silent]

/-- An eviction clears the latencies of the edges it makes stale and keeps the others. -/
theorem latenciesSince_append_evict {op : Op} (evicting : op.observed = none) :
    latenciesSince k (ops ++ [op]) = if op.stale k then [] else latenciesSince k ops := by
  have silent : op.latencyFor k = none := by
    cases op with
    | observe k' ok' latency => cases evicting
    | evictJobIds jobIds => rfl
    | evictInvalidDestHosts valid => rfl
  unfold latenciesSince
  rw [sinceEvicted_append_singleton]
  cases op.stale k <;> simp [silent]

/-- A counter not exported reads as zero. -/
@[simp] theorem getD_counterSample (n : Nat) : (counterSample n).getD 0 = n := by
  unfold counterSample
  split <;> simp_all

/-- A counter that has counted is exported. -/
theorem counterSample_succ (n : Nat) : counterSample (n + 1) = some (n + 1) := rfl

/-- Recording one more latency is observing it in the histogram so far, or in an empty one. -/
theorem histogramFrom_append_singleton (vs : List Binary64) (v : Binary64) :
    histogramFrom (vs ++ [v]) = some (((histogramFrom vs).getD {}).observe v) := by
  unfold histogramFrom
  rw [if_neg (by simp)]
  simp only [List.foldl_append, List.foldl_cons, List.foldl_nil]
  by_cases empty : vs = []
  · subst empty
    rfl
  · rw [if_neg empty]
    rfl

end Specification

/-- The metrics show what the operations `ops` ask for: an edge is tracked while it has been
observed since it was last made stale, and its counters and histogram hold what was observed of
it since then. -/
structure Shows (ops : List Op) (m : Metrics) : Prop where
  tracked : Tracked m
  series : ∀ k, k ∈ m.series ↔ ∃ op ∈ sinceEvicted k ops, op.observed = some k
  counter : ∀ k ok, m.counterOf k ok = counterSample (countSince k ok ops)
  histogram : ∀ k, m.histogramOf k = histogramFrom (latenciesSince k ops)

namespace Shows

variable {ops : List Op} {m : Metrics}

/-- No operations, and no metrics: the metrics show nothing, as asked. -/
theorem empty : Shows [] {} where
  tracked := Tracked.empty
  series k := by simp [sinceEvicted]
  counter k ok := rfl
  histogram k := rfl

/-- Every tracked edge has been observed. -/
theorem mem_observedKeys (shows : Shows ops m) {k : EdgeKey} (held : k ∈ m.series) :
    k ∈ observedKeys ops := by
  obtain ⟨op, since, observed⟩ := (shows.series k).1 held
  exact List.mem_filterMap.2 ⟨op, mem_of_mem_sinceEvicted since, observed⟩

/-- The step lemma for an observation of an edge told apart from every tracked one. -/
theorem observe (shows : Shows ops m) {k : EdgeKey} {ok : Bool} {latency : Option Elapsed}
    (apart : ∀ g ∈ m.series, g.joined = k.joined → g = k) :
    Shows (ops ++ [.observe k ok latency]) (m.step (.observe k ok latency)) := by
  refine ⟨shows.tracked.observe k ok latency, fun k' => ?_, fun k' ok' => ?_, fun k' => ?_⟩
  · rw [step, Tracked.mem_series_observe, shows.series, sinceEvicted_append_singleton]
    simp [Op.stale, Op.observed, eq_comm]
  · rw [step, shows.tracked.counterOf_observe latency apart, countSince_append_observe,
      shows.counter, shows.counter]
    split_ifs with same
    · obtain ⟨rfl, rfl⟩ := same
      simp [counterSample_succ]
    · simp
  · rw [step, latenciesSince_append_observe]
    cases latency with
    | none => simpa [histogramOf] using shows.histogram k'
    | some d =>
      rw [shows.tracked.histogramOf_observe d apart, shows.histogram, shows.histogram]
      by_cases same : k' = k
      · subst same
        simp [histogramFrom_append_singleton]
      · simp [same, Ne.symm same]

/-- The step lemma for an eviction, among tracked edges told apart. -/
theorem evict (shows : Shows ops m) (apart : Apart m.series) {op : Op}
    (evicting : op.observed = none) : Shows (ops ++ [op]) (m.step op) := by
  rw [step_of_observed_eq_none evicting]
  refine ⟨shows.tracked.evictWhere _, fun k => ?_, fun k ok => ?_, fun k => ?_⟩
  · rw [series_evictWhere, List.mem_filter, shows.series, sinceEvicted_append_singleton]
    cases op.stale k <;> simp [evicting]
  · rw [shows.tracked.counterOf_evictWhere _ apart, countSince_append_evict evicting, shows.counter]
    cases op.stale k <;> simp [counterSample]
  · rw [shows.tracked.histogramOf_evictWhere _ apart, latenciesSince_append_evict evicting,
      shows.histogram]
    cases op.stale k <;> simp [histogramFrom]

/-- An edge is tracked exactly while a sample of it is exported. -/
theorem mem_series_iff_exported (shows : Shows ops m) {k : EdgeKey} :
    k ∈ m.series ↔ k ∈ m.exported := by
  constructor
  · intro held
    obtain ⟨op, since, observed⟩ := (shows.series k).1 held
    cases op with
    | observe k' ok latency =>
      cases observed
      have counted : 0 < countSince k ok ops :=
        List.countP_pos_iff.2 ⟨_, since, by simp [Op.counts]⟩
      have sampled := shows.counter k ok
      rw [counterSample, if_neg (Nat.pos_iff_ne_zero.1 counted)] at sampled
      have present : (m.counterOf k ok).isSome = true := by
        rw [sampled]
        rfl
      obtain ⟨p, kept, found⟩ := List.lookup_isSome_iff.1 present
      exact mem_exported.2 (.inl ⟨p, kept, by rw [← beq_iff_eq.1 found]⟩)
    | evictJobIds jobIds => cases observed
    | evictInvalidDestHosts valid => cases observed
  · intro held
    rcases mem_exported.1 held with ⟨p, kept, rfl⟩ | ⟨p, kept, rfl⟩
    · exact (shows.tracked.counters p kept).1
    · exact shows.tracked.latencies p kept

end Shows

/-- From no metrics, operations whose edges are told apart are shown exactly. -/
theorem shows_run (ops : List Op) (apart : Apart (observedKeys ops)) :
    Shows ops (({} : Metrics).run ops) := by
  induction ops using List.reverseRecOn with
  | nil => exact Shows.empty
  | append_singleton ops op ih =>
    have earlier : ∀ k ∈ observedKeys ops, k ∈ observedKeys (ops ++ [op]) := by
      intro k held
      simp only [observedKeys, List.filterMap_append, List.mem_append] at held ⊢
      exact .inl held
    have shows := ih (apart.mono earlier)
    have trackedApart : Apart (({} : Metrics).run ops).series :=
      apart.mono fun k held => earlier k (shows.mem_observedKeys held)
    rw [run_append_singleton]
    cases op with
    | observe k ok latency =>
      have observed : k ∈ observedKeys (ops ++ [.observe k ok latency]) := by
        simp [observedKeys, Op.observed]
      exact shows.observe fun g held joined =>
        apart g (earlier g (shows.mem_observedKeys held)) k observed joined
    | evictJobIds jobIds => exact shows.evict trackedApart rfl
    | evictInvalidDestHosts valid => exact shows.evict trackedApart rfl

/-! ## The bookkeeping, with and without edges told apart -/

/-- When the edges observed are told apart by their label values joined, the bookkeeping is
exact: the edges tracked are the edges exported, as many series as edges, every counter shows
the observations of its edge and outcome since the edge was last made stale, and every
histogram the latencies recorded since then. -/
theorem metrics_follow_operations (ops : List Op) (apart : Apart (observedKeys ops)) :
    let m := ({} : Metrics).run ops
    (∀ k, k ∈ m.series ↔ k ∈ m.exported) ∧ m.seriesCount = m.exported.length ∧
      (∀ k ok, m.counterOf k ok = counterSample (countSince k ok ops)) ∧
      ∀ k, m.histogramOf k = histogramFrom (latenciesSince k ops) := by
  intro m
  have shows : Shows ops m := shows_run ops apart
  have same : m.series.Perm m.exported :=
    (List.perm_ext_iff_of_nodup shows.tracked.nodup (List.nodup_dedup _)).2
      fun k => shows.mem_series_iff_exported
  exact ⟨fun k => shows.mem_series_iff_exported, same.length_eq, shows.counter, shows.histogram⟩

/-- Whatever the labels, an eviction leaves no sample of an edge it makes stale: after the jobs
`J` are evicted none of a job of `J` is exported, after every destination but `V` none of a
destination outside `V`. -/
theorem not_exported_after_eviction (ops : List Op) {op : Op} (evicting : op.observed = none)
    {k : EdgeKey} (staleEdge : op.stale k = true) :
    k ∉ (({} : Metrics).run (ops ++ [op])).exported := by
  rw [run_append_singleton, step_of_observed_eq_none evicting]
  exact (Tracked.empty.run ops).not_exported_evictWhere _ staleEdge

/-- Source `ab` towards `c` and source `a` towards `bc` join alike: the second observation counts
in the first one's counter, two edges are tracked with one exported, and the second edge's
counter, which should show one observation, is not there. -/
theorem joined_labels_share_counter :
    let ops := [Op.observe ⟨"ab", "c", "j"⟩ true none, Op.observe ⟨"a", "bc", "j"⟩ true none]
    let m := ({} : Metrics).run ops
    m.seriesCount = 2 ∧ m.exported = [⟨"ab", "c", "j"⟩] ∧
      m.counterOf ⟨"ab", "c", "j"⟩ true = some 2 ∧ m.counterOf ⟨"a", "bc", "j"⟩ true = none ∧
      countSince ⟨"a", "bc", "j"⟩ true ops = 1 := by
  decide

end Metrics

end Reachability.Agent
